import ReviewDesk.Rules.Java.Tracker
import ReviewDesk.Text.Case

set_option autoImplicit false

namespace ReviewDesk.Java

open Text

def missingReturn : Finding :=
  ⟨.error, .high, "Missing return statement", "Non-void method must have a return statement"⟩

def endlessLoop : Finding :=
  ⟨.error, .high, "Potential infinite loop",
    "While loop may not have proper termination condition or loop variable modification"⟩

def suffixIndex : Finding :=
  ⟨.error, .high, "Array index error",
    "Should be suffixMax[n-1] = arr[n-1] for suffix array initialization"⟩

def missingSemicolon : Finding :=
  ⟨.error, .high, "Missing semicolon", "Java statements must end with a semicolon"⟩

def classNaming : Finding :=
  ⟨.warning, .medium, "Class naming convention",
    "Class names should start with an uppercase letter (PascalCase)."⟩

def consoleOutput : Finding :=
  ⟨.info, .low, "System.out.println found",
    "Consider using a logging framework instead of System.out.println."⟩

def missingBrace : Finding :=
  ⟨.error, .high, "Missing closing brace",
    "One or more methods/classes are missing closing braces"⟩

def loopSteps : List (List Char) := ["++".toList, "--".toList, "i+".toList, "i-".toList]

def loopExits : List (List Char) :=
  ["++".toList, "--".toList, "break".toList, "return".toList]

def lookahead : Nat := 3

def window (following : List SourceLine) : List Char :=
  [' '].intercalate ((following.take lookahead).map (·.raw))

def loopsForever (text : List Char) (following : List SourceLine) : Bool :=
  contains "while(".toList text && !containsAny loopSteps text &&
    !containsAny loopExits (window following)

def initialisesSuffix (text : List Char) : Bool :=
  contains "suffixMax[0] = arr[n-1]".toList text

def lineEnds : List Char := ['{', '}', ';']

def isEnded (text : List Char) : Bool := text.getLast?.any lineEnds.contains

def headerWords : List (List Char) :=
  ["class ".toList, "public static".toList, "private static".toList, "protected static".toList,
    "if (".toList, "for (".toList, "while (".toList, "else".toList, "try".toList,
    "catch".toList, "finally".toList]

def prints (text : List Char) : Bool := contains "System.out.println".toList text

def isStatement (text : List Char) : Bool :=
  prints text || text.contains '=' || contains "return".toList text || containsCall text

def lacksSemicolon (text : List Char) : Bool :=
  !text.isEmpty && !isCommentLine text && !isEnded text && !containsAny headerWords text &&
    isStatement text

def className (text : List Char) : List Char :=
  ((afterFirst? "class ".toList text).getD []).takeWhile fun c => !(isBlank c || c == '{')

def isLowerName (name : List Char) : Bool := name.head?.any fun c => upperOf c != [c]

def findings (text : List Char) : List Finding :=
  raised [
    (initialisesSuffix text, suffixIndex),
    (lacksSemicolon text, missingSemicolon),
    (isLowerName (className text), classNaming),
    (prints text, consoleOutput)]

def lineIssues (line : SourceLine) (following : List SourceLine) : List Issue :=
  (raised [(loopsForever line.trimmed following, endlessLoop)] ++ findings line.trimmed).map
    (·.onLine line.number)

def walk (tracker : Tracker) : List SourceLine → List Issue
  | [] => []
  | line :: rest =>
    let (next, missing) := tracker.step line
    missing.toList.map missingReturn.onLine ++ lineIssues line rest ++ walk next rest

def braceIssues (lines : List SourceLine) : List Issue :=
  if 0 < netOf lines then [missingBrace.onLine lines.length]
  else []

def check (lines : List SourceLine) : List Issue :=
  walk .fresh lines ++ braceIssues lines

end ReviewDesk.Java
