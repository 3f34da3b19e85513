import ReviewDesk.Rules.Finding

set_option autoImplicit false

namespace ReviewDesk.Python

open Text

def missingDocstring : Finding :=
  ⟨.suggestion, .low, "Missing docstring",
    "Public functions should have docstrings to describe their purpose."⟩

def printStatement : Finding :=
  ⟨.info, .low, "Print statement found",
    "Consider using logging instead of print for production code."⟩

def isPublicFunction (text : List Char) : Bool :=
  startsWith "def ".toList text && !startsWith "def _".toList text

def opensDocstring (text : List Char) : Bool := startsWith ['"', '"', '"'] text

def lacksDocstring (text : List Char) (next : Option (List Char)) : Bool :=
  isPublicFunction text && !next.any opensDocstring

def findings (text : List Char) (next : Option (List Char)) : List Finding :=
  raised [
    (lacksDocstring text next, missingDocstring),
    (contains "print(".toList text, printStatement)]

def check : List SourceLine → List Issue
  | [] => []
  | line :: rest =>
    (findings line.trimmed (rest.head?.map (·.trimmed))).map (·.onLine line.number) ++ check rest

end ReviewDesk.Python
