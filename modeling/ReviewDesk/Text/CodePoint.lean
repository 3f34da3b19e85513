set_option autoImplicit false

namespace ReviewDesk.Text

/-- A character, or half of a surrogate pair, which is no character. -/
inductive CodePoint where
  | char (c : Char)
  | surrogate (offset : Fin 0x800)
deriving DecidableEq

namespace CodePoint

def toNat : CodePoint → Nat
  | char c => c.toNat
  | surrogate offset => 0xd800 + offset.val

def ofNat (n : Nat) : CodePoint :=
  if half : 0xd800 ≤ n ∧ n < 0xe000 then surrogate ⟨n - 0xd800, by omega⟩ else char (Char.ofNat n)

theorem toNat_ofNat (n : Nat) (bound : n < 0x110000) : (ofNat n).toNat = n := by
  unfold ofNat
  split
  next => simp only [toNat]; omega
  next whole =>
    have valid : n.isValidChar := by simp only [Nat.isValidChar]; omega
    rw [toNat, Char.ofNat, dif_pos valid]
    rfl

theorem toNat_lt (point : CodePoint) : point.toNat < 0x110000 := by
  cases point with
  | char c =>
    have valid : c.toNat.isValidChar := c.valid
    simp only [Nat.isValidChar] at valid
    simp only [toNat]
    omega
  | surrogate offset => simp only [toNat]; omega

@[simp] theorem ofNat_toNat (point : CodePoint) : ofNat point.toNat = point := by
  cases point with
  | char c =>
    have valid : c.toNat.isValidChar := c.valid
    simp only [Nat.isValidChar] at valid
    have whole : ¬ (0xd800 ≤ c.toNat ∧ c.toNat < 0xe000) := by omega
    simp [ofNat, toNat, whole]
  | surrogate offset =>
    have half : 0xd800 ≤ 0xd800 + offset.val ∧ 0xd800 + offset.val < 0xe000 := by omega
    simp [ofNat, toNat, half]

def char? : CodePoint → Option Char
  | char c => some c
  | surrogate _ => none

def satisfies (p : Char → Bool) : CodePoint → Bool
  | char c => p c
  | surrogate _ => false

end CodePoint

/-- A text as it comes from outside, where a surrogate may stand alone. -/
abbrev CodePoints := List CodePoint

namespace CodePoints

def ofChars (text : List Char) : CodePoints := text.map .char

def ofString (text : String) : CodePoints := ofChars text.toList

@[simp] theorem ofChars_append (xs ys : List Char) :
    ofChars (xs ++ ys) = ofChars xs ++ ofChars ys := List.map_append

instance : Coe String CodePoints := ⟨ofString⟩

def chars? : CodePoints → Option (List Char)
  | [] => some []
  | .char c :: rest => (chars? rest).map (c :: ·)
  | .surrogate _ :: _ => none

@[simp] theorem chars?_ofChars (text : List Char) : chars? (ofChars text) = some text := by
  induction text with
  | nil => rfl
  | cons c rest ih =>
    have step : chars? (ofChars (c :: rest)) = (chars? (ofChars rest)).map (c :: ·) := rfl
    simp [step, ih]

def string? (text : CodePoints) : Option String := (chars? text).map String.ofList

@[simp] theorem string?_ofString (text : String) : string? (ofString text) = some text := by
  simp [string?, ofString]

def legible (text : CodePoints) : String :=
  String.ofList (text.map fun point => point.char?.getD '\ufffd')

@[simp] theorem legible_ofString (text : String) : legible (ofString text) = text := by
  simp [legible, ofString, ofChars, Function.comp_def, CodePoint.char?]

@[simp] theorem ofString_inj (s t : String) : ofString s = ofString t ↔ s = t := by
  constructor
  next =>
    intro same
    rw [← legible_ofString s, same, legible_ofString]
  next => exact congrArg ofString

@[simp] theorem ofString_beq (s t : String) : (ofString s == ofString t) = (s == t) := by
  rw [Bool.eq_iff_iff, beq_iff_eq, beq_iff_eq, ofString_inj]

theorem ofString_legible (text : CodePoints) (whole : ∀ point ∈ text, point.char?.isSome) :
    ofString (legible text) = text := by
  simp only [legible, ofString, ofChars, String.toList_ofList, List.map_map]
  refine (List.map_congr_left fun point member => ?_).trans text.map_id
  cases point with
  | char c => rfl
  | surrogate offset => exact absurd (whole _ member) Bool.false_ne_true

def spanChars (p : Char → Bool) : CodePoints → List Char × CodePoints
  | .char c :: rest =>
    if p c then (c :: (spanChars p rest).1, (spanChars p rest).2) else ([], .char c :: rest)
  | text => ([], text)

def ofLines (parts : List CodePoints) : CodePoints := [CodePoint.char '\n'].intercalate parts

end CodePoints

def isHighSurrogate (unit : Nat) : Bool := 0xd800 ≤ unit && unit < 0xdc00

def isLowSurrogate (unit : Nat) : Bool := 0xdc00 ≤ unit && unit < 0xe000

def joinSurrogates (high low : Nat) : Nat :=
  0x10000 + 0x400 * (high - 0xd800) + (low - 0xdc00)

/-- A piece of a text as it is spelled: a code point, or a code unit that may be half of one. -/
inductive Spelling where
  | point (point : CodePoint)
  | unit (value : Nat)

def CodePoints.ofSpellings : List Spelling → CodePoints
  | [] => []
  | .point point :: rest => point :: ofSpellings rest
  | .unit high :: .unit low :: rest =>
    if isHighSurrogate high && isLowSurrogate low then
      .ofNat (joinSurrogates high low) :: ofSpellings rest
    else .ofNat high :: ofSpellings (.unit low :: rest)
  | .unit value :: rest => .ofNat value :: ofSpellings rest

end ReviewDesk.Text
