import ReviewDesk.Rules.Finding

set_option autoImplicit false

namespace ReviewDesk.General

open Text

def longLine : Finding :=
  ⟨.suggestion, .low, "Long line detected",
    "Consider breaking this line into multiple lines for better readability."⟩

def openTask : Finding :=
  ⟨.info, .low, "TODO comment found",
    "Remember to address this TODO item before finalizing the code."⟩

def widthLimit : Nat := 120

def taskMarks : List (List Char) := ["TODO".toList, "FIXME".toList]

def findings (line : SourceLine) : List Finding :=
  raised [
    (widthLimit < line.raw.length, longLine),
    (containsAny taskMarks line.trimmed, openTask)]

def check (lines : List SourceLine) : List Issue :=
  lines.flatMap fun line => (findings line).map (·.onLine line.number)

end ReviewDesk.General
