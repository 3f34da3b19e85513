import ReviewDesk.Rules.Finding

set_option autoImplicit false

namespace ReviewDesk.Java

open Text

def returnTypes : List (List Char) :=
  ["int ".toList, "String ".toList, "void ".toList, "boolean ".toList, "double ".toList,
    "float ".toList]

def declares (text : List Char) : Bool :=
  contains "public ".toList text && containsAny returnTypes text && text.contains '('

def returns (text : List Char) : Bool := contains "return ".toList text

/-- The method being followed. Without a start no method is open, and the other fields keep what
the last one left in them. -/
structure Tracker where
  start : Option Nat
  returnsValue : Bool
  hasReturn : Bool
  balance : Int
deriving DecidableEq

namespace Tracker

def fresh : Tracker := ⟨none, false, false, 0⟩

def isOpen (tracker : Tracker) : Bool := tracker.start.isSome

def enter (tracker : Tracker) (line : SourceLine) : Tracker :=
  if declares line.trimmed then
    ⟨some line.number, !contains "void".toList line.trimmed, false, 0⟩
  else tracker

def count (tracker : Tracker) (line : SourceLine) : Tracker :=
  { tracker with
    hasReturn := tracker.hasReturn || returns line.trimmed
    balance := tracker.balance + netBraces line.raw }

/-- Follows the method through one line. The number is the start of a method that closed on this
line without the return statement it needs. -/
def step (tracker : Tracker) (line : SourceLine) : Tracker × Option Nat :=
  let entered := tracker.enter line
  match entered.start with
  | none => (entered, none)
  | some start =>
    let counted := entered.count line
    if counted.balance ≤ 0 then
      ({ counted with start := none },
        if counted.returnsValue && !counted.hasReturn then some start else none)
    else (counted, none)

def run (tracker : Tracker) (lines : List SourceLine) : Tracker :=
  lines.foldl (fun tracker line => (tracker.step line).1) tracker

def history (tracker : Tracker) (reported : Nat) : List SourceLine → List (Tracker × Nat)
  | [] => []
  | line :: rest =>
    let (next, missing) := tracker.step line
    let reported := reported + missing.toList.length
    (next, reported) :: history next reported rest

end Tracker

end ReviewDesk.Java
