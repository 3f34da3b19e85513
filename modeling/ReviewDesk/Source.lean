import ReviewDesk.Text.Blank

set_option autoImplicit false

namespace ReviewDesk

open Text

structure SourceLine where
  index : Nat
  raw : List Char
deriving DecidableEq

namespace SourceLine

def number (line : SourceLine) : Nat := line.index + 1

def trimmed (line : SourceLine) : List Char := trim isMargin line.raw

end SourceLine

def numberFrom (index : Nat) : List (List Char) → List SourceLine
  | [] => []
  | raw :: rest => ⟨index, raw⟩ :: numberFrom (index + 1) rest

theorem raw_numberFrom (index : Nat) (raws : List (List Char)) :
    (numberFrom index raws).map (·.raw) = raws := by
  induction raws generalizing index with
  | nil => rfl
  | cons raw rest ih => simp [numberFrom, ih]

theorem numberFrom_append (index : Nat) (xs ys : List (List Char)) :
    numberFrom index (xs ++ ys) = numberFrom index xs ++ numberFrom (index + xs.length) ys := by
  induction xs generalizing index with
  | nil => simp [numberFrom]
  | cons x rest ih => simp [numberFrom, ih, Nat.add_comm, Nat.add_left_comm]

theorem length_numberFrom (index : Nat) (raws : List (List Char)) :
    (numberFrom index raws).length = raws.length := by
  induction raws generalizing index with
  | nil => rfl
  | cons raw rest ih => simp [numberFrom, ih]

theorem number_of_split {index : Nat} {raws : List (List Char)} {before after : List SourceLine}
    {line : SourceLine} (split : numberFrom index raws = before ++ line :: after) :
    line.number = index + before.length + 1 := by
  induction before generalizing index raws with
  | nil =>
    cases raws with
    | nil => simp [numberFrom] at split
    | cons raw rest =>
      obtain ⟨rfl, -⟩ := List.cons.inj split
      rfl
  | cons first before ih =>
    cases raws with
    | nil => simp [numberFrom] at split
    | cons raw rest =>
      obtain ⟨-, inside⟩ := List.cons.inj split
      rw [ih inside, List.length_cons]
      omega

def sourceLines (text : List Char) : List SourceLine := numberFrom 0 (lines text)

theorem unlines_sourceLines (text : List Char) :
    unlines ((sourceLines text).map (·.raw)) = text := by
  rw [sourceLines, raw_numberFrom, unlines_lines]

theorem number_of_sourceLines {text : List Char} {before after : List SourceLine}
    {line : SourceLine} (split : sourceLines text = before ++ line :: after) :
    line.number = before.length + 1 := by
  rw [number_of_split split, Nat.zero_add]

def netBraces (text : List Char) : Int := text.count '{' - text.count '}'

theorem netBraces_append (xs ys : List Char) :
    netBraces (xs ++ ys) = netBraces xs + netBraces ys := by
  simp [netBraces]; omega

def netOf : List SourceLine → Int
  | [] => 0
  | line :: rest => netBraces line.raw + netOf rest

theorem netOf_append (xs ys : List SourceLine) : netOf (xs ++ ys) = netOf xs + netOf ys := by
  induction xs with
  | nil => simp [netOf]
  | cons line rest ih => simp [netOf, ih, Int.add_assoc]

def isWordAscii (c : Char) : Bool := c.isAlphanum || c == '_'

-- True while a word has been read and only blanks since.
def containsCallFrom : Bool → List Char → Bool
  | _, [] => false
  | afterWord, c :: rest =>
    if isWordAscii c then containsCallFrom true rest
    else if isAsciiBlank c then containsCallFrom afterWord rest
    else (afterWord && c == '(') || containsCallFrom false rest

def containsCall (text : List Char) : Bool := containsCallFrom false text

def commentMarks : List (List Char) := ["//".toList, "/*".toList, "*".toList]

def isCommentLine (text : List Char) : Bool :=
  commentMarks.any (startsWith · (trim isMargin text))

end ReviewDesk
