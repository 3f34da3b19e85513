set_option autoImplicit false

namespace ReviewDesk.Text

variable {α : Type}

section Patterns

variable [BEq α]

def contains (pattern : List α) : List α → Bool
  | [] => pattern.isEmpty
  | c :: rest => pattern.isPrefixOf (c :: rest) || contains pattern rest

theorem contains_iff [LawfulBEq α] (pattern text : List α) :
    contains pattern text = true ↔ pattern <:+: text := by
  induction text with
  | nil => simp [contains]
  | cons c rest ih =>
    simp [contains, ih, List.infix_cons_iff]

def containsAny (patterns : List (List α)) (text : List α) : Bool :=
  patterns.any (contains · text)

def startsWith (pattern text : List α) : Bool := pattern.isPrefixOf text

theorem startsWith_iff [LawfulBEq α] (pattern text : List α) :
    startsWith pattern text = true ↔ pattern <+: text := by
  simp [startsWith]

def afterFirst? (pattern : List α) : List α → Option (List α)
  | [] => if pattern.isEmpty then some [] else none
  | c :: rest =>
    if pattern.isPrefixOf (c :: rest) then some ((c :: rest).drop pattern.length)
    else afterFirst? pattern rest

theorem afterFirst?_isSome (pattern text : List α) :
    (afterFirst? pattern text).isSome = contains pattern text := by
  induction text with
  | nil => cases pattern <;> rfl
  | cons c rest ih =>
    cases found : pattern.isPrefixOf (c :: rest) <;> simp [afterFirst?, contains, found, ih]

-- The counter is how many places of a match are still to be skipped, so the recursion is on
-- the text alone and matches never overlap.
def replaceFrom (pattern substitute : List α) : Nat → List α → List α
  | _, [] => []
  | n + 1, _ :: rest => replaceFrom pattern substitute n rest
  | 0, c :: rest =>
    if pattern.isPrefixOf (c :: rest) then
      substitute ++ replaceFrom pattern substitute (pattern.length - 1) rest
    else c :: replaceFrom pattern substitute 0 rest

def replaceAll (pattern substitute text : List α) : List α :=
  replaceFrom pattern substitute 0 text

end Patterns

def lines (text : List Char) : List (List Char) := text.splitOn '\n'

def unlines (parts : List (List Char)) : List Char := ['\n'].intercalate parts

theorem unlines_lines (text : List Char) : unlines (lines text) = text :=
  List.intercalate_splitOn '\n'

theorem lines_unlines (parts : List (List Char)) (single : ∀ part ∈ parts, '\n' ∉ part)
    (some : parts ≠ []) : lines (unlines parts) = parts :=
  List.splitOn_intercalate '\n' single some

def trimStart (margin : α → Bool) (text : List α) : List α := text.dropWhile margin

def trimEnd (margin : α → Bool) (text : List α) : List α :=
  (text.reverse.dropWhile margin).reverse

def trim (margin : α → Bool) (text : List α) : List α :=
  trimEnd margin (trimStart margin text)

end ReviewDesk.Text
