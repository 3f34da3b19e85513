import ReviewDesk.Rules.Finding

set_option autoImplicit false

namespace ReviewDesk.Ecma

open Text

def missingSemicolon : Finding :=
  ⟨.warning, .low, "Missing semicolon",
    "Consider adding a semicolon for consistency and to avoid potential issues."⟩

def varDeclaration : Finding :=
  ⟨.suggestion, .low, "Use let or const instead of var",
    "Modern JavaScript prefers let or const over var for better scoping."⟩

def consoleLog : Finding :=
  ⟨.info, .low, "Console.log found",
    "Consider removing console.log statements before production."⟩

def functionKeyword : Finding :=
  ⟨.suggestion, .low, "Consider using arrow function",
    "Arrow functions provide more concise syntax and lexical this binding."⟩

def lineEnds : List Char := [';', '{', '}']

def commentMarks : List (List Char) := ["//".toList, "/*".toList]

def blockWords : List (List Char) :=
  ["if ".toList, "for ".toList, "while ".toList, "function ".toList, "class ".toList,
    "else".toList]

def isEnded (text : List Char) : Bool := text.getLast?.any lineEnds.contains

def isStatement (text : List Char) : Bool :=
  text.contains '=' || startsWith "return ".toList text

def lacksSemicolon (text : List Char) : Bool :=
  !text.isEmpty && !isEnded text && !commentMarks.any (startsWith · text) &&
    !containsAny blockWords text && isStatement text

def findings (text : List Char) : List Finding :=
  raised [
    (lacksSemicolon text, missingSemicolon),
    (contains "var ".toList text, varDeclaration),
    (contains "console.log".toList text, consoleLog),
    (contains "function ".toList text && !contains "function*".toList text, functionKeyword)]

def check (lines : List SourceLine) : List Issue :=
  lines.flatMap fun line => (findings line.trimmed).map (·.onLine line.number)

end ReviewDesk.Ecma
