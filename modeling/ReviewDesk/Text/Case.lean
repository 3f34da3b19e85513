import ReviewDesk.Text.Blank
import ReviewDesk.Text.CaseTable

set_option autoImplicit false

namespace ReviewDesk.Text

def isCased (c : Char) : Bool := inRanges casedRanges c

def isCaseIgnorable (c : Char) : Bool := inRanges caseIgnorableRanges c

def mapCase (runs : List CaseRun) (expansions : List (Nat × List Nat)) (c : Char) : List Char :=
  match expansions.lookup c.toNat with
  | some codes => codes.map Char.ofNat
  | none =>
    match runs.findSome? (·.image? c.toNat) with
    | some code => [Char.ofNat code]
    | none => [c]

def upperOf (c : Char) : List Char := mapCase upperRuns upperExpansions c

def lowerOf (c : Char) : List Char := mapCase lowerRuns lowerExpansions c

def titleOf (c : Char) : List Char :=
  if inRanges ownTitleRanges c then [c]
  else
    match titleExceptions.lookup c.toNat with
    | some codes => codes.map Char.ofNat
    | none => upperOf c

def upper (text : List Char) : List Char := text.flatMap upperOf

-- Case-ignorable characters are looked through on both sides of a sigma.
def nextIsCased (text : List Char) : Bool := (text.dropWhile isCaseIgnorable).head?.any isCased

def lowerSigma (before after : List Char) : Char :=
  if nextIsCased before && !nextIsCased after then 'ς' else 'σ'

/-- Lower case of the character standing between `before`, which is read backwards, and
`after`. -/
def lowerWithin (before : List Char) (c : Char) (after : List Char) : List Char :=
  if c == 'Σ' then [lowerSigma before after] else lowerOf c

def lowerFrom (before : List Char) : List Char → List Char
  | [] => []
  | c :: rest => lowerWithin before c rest ++ lowerFrom (c :: before) rest

def lower (text : List Char) : List Char := lowerFrom [] text

def titleFrom (before : List Char) : List Char → List Char
  | [] => []
  | c :: rest =>
    (if before.head?.any isCased then lowerWithin before c rest else titleOf c) ++
      titleFrom (c :: before) rest

def title (text : List Char) : List Char := titleFrom [] text

def displayed (text : String) : String :=
  String.ofList (title (lower (trim isBlank (text.toList.map fun c => if c = '_' then ' ' else c))))

end ReviewDesk.Text
