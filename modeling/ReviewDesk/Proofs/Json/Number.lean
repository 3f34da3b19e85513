import ReviewDesk.Json.Printer
import ReviewDesk.Json.Reader

set_option autoImplicit false

namespace ReviewDesk

open Text

theorem Text.CodePoints.spanChars_append (p : Char → Bool) (text : List Char) (rest : CodePoints)
    (all : ∀ c ∈ text, p c = true) (stop : ∀ c more, rest = .char c :: more → p c = false) :
    CodePoints.spanChars p (.ofChars text ++ rest) = (text, rest) := by
  induction text with
  | nil =>
    cases rest with
    | nil => rfl
    | cons point more =>
      cases point with
      | char c => simp [CodePoints.ofChars, CodePoints.spanChars, stop c more rfl]
      | surrogate offset => rfl
  | cons c text ih =>
    have here := all c List.mem_cons_self
    have later := ih fun d member => all d (List.mem_cons_of_mem c member)
    have unfolded : CodePoints.ofChars (c :: text) ++ rest =
        .char c :: (CodePoints.ofChars text ++ rest) := rfl
    simp [unfolded, CodePoints.spanChars, here, later]

namespace Json

open Number Reader

theorem isAsciiDigit_of_mem_toDigits {n : Nat} {c : Char} (digit : c ∈ Nat.toDigits 10 n) :
    isAsciiDigit c = true := by
  have named := Nat.isDigit_of_mem_toDigits (by decide) (by decide) digit
  simp only [Char.isDigit, Bool.and_eq_true, decide_eq_true_eq] at named
  simp only [isAsciiDigit, Bool.and_eq_true, decide_eq_true_eq]
  exact named

theorem head?_toDigits (n : Nat) : (Nat.toDigits 10 n).head? = some '0' ↔ n = 0 := by
  have single : ∀ d < 10, d.digitChar = '0' ↔ d = 0 := by decide
  induction n using Nat.strongRecOn with
  | ind n ih =>
    by_cases small : n < 10
    next => simp [Nat.toDigits_of_lt_base small, single n small]
    next =>
      have before := ih (n / 10) (by omega)
      cases digits : Nat.toDigits 10 (n / 10) with
      | nil => exact absurd digits Nat.toDigits_ne_nil
      | cons c others =>
        rw [digits] at before
        rw [Nat.toDigits_of_base_le (by decide) (by omega), digits]
        exact before.trans (by omega)

/-- What can stand behind a value: nothing, a comma or the end of a container. -/
def Follows (rest : CodePoints) : Prop :=
  ∀ point more, rest = point :: more → point ∈ ([.char ',', .char ']', .char '}'] : CodePoints)

theorem follows_nil : Follows [] := by simp [Follows]

theorem follows_comma (rest : CodePoints) : Follows (.char ',' :: rest) := by simp [Follows]

theorem follows_bracket (rest : CodePoints) : Follows (.char ']' :: rest) := by simp [Follows]

theorem follows_brace (rest : CodePoints) : Follows (.char '}' :: rest) := by simp [Follows]

def digitCount (n : Int) : Nat := (Nat.toDigits 10 n.natAbs).length

section Plain

variable {rest : CodePoints} (follows : Follows rest)

include follows

theorem spanChars_toDigits (n : Nat) :
    CodePoints.spanChars isAsciiDigit (.ofChars (Nat.toDigits 10 n) ++ rest) =
      (Nat.toDigits 10 n, rest) := by
  apply CodePoints.spanChars_append
  next => exact fun c => isAsciiDigit_of_mem_toDigits
  next =>
    intro c more starts
    have mark := follows _ _ starts
    simp only [List.mem_cons, List.not_mem_nil, or_false, CodePoint.char.injEq] at mark
    rcases mark with rfl | rfl | rfl <;> decide

theorem takeWhole?_toDigits (n : Nat) :
    takeWhole? (.ofChars (Nat.toDigits 10 n) ++ rest) = some (Nat.toDigits 10 n, rest) := by
  unfold takeWhole?
  rw [spanChars_toDigits follows]
  by_cases zero : n = 0
  next => simp [zero, CodePoints.ofChars]
  next =>
    have head := mt (head?_toDigits n).mp zero
    cases digits : Nat.toDigits 10 n with
    | nil => exact absurd digits Nat.toDigits_ne_nil
    | cons c others =>
      have nonzero : c ≠ '0' := by simpa [digits] using head
      simp [nonzero]

theorem takeFraction_of_follows : takeFraction rest = ([], rest) := by
  unfold takeFraction
  split
  next more => simpa using follows _ _ rfl
  next => rfl

theorem takeExponent_of_follows : takeExponent rest = (none, rest) := by
  cases rest with
  | nil => rfl
  | cons mark more =>
    have stands := follows _ _ rfl
    simp only [List.mem_cons, List.not_mem_nil, or_false] at stands
    rcases stands with rfl | rfl | rfl <;> rfl

theorem takeNumber?_printInt (n : Int) :
    takeNumber? (.ofChars (printInt n) ++ rest) =
      some (⟨decide (n < 0), Nat.toDigits 10 n.natAbs, [], none⟩, rest) := by
  have sign : takeMinus (.ofChars (printInt n) ++ rest) =
      (decide (n < 0), .ofChars (Nat.toDigits 10 n.natAbs) ++ rest) := by
    by_cases negative : n < 0
    next => simp [printInt, Double.signed, negative, takeMinus, CodePoints.ofChars]
    next =>
      cases digits : Nat.toDigits 10 n.natAbs with
      | nil => exact absurd digits Nat.toDigits_ne_nil
      | cons c others =>
        have digit : isAsciiDigit c = true := isAsciiDigit_of_mem_toDigits (by rw [digits]; simp)
        have unsigned : c ≠ '-' := by
          rintro rfl
          exact absurd digit (by decide)
        simp [printInt, Double.signed, negative, digits, takeMinus, CodePoints.ofChars, unsigned]
  simp [takeNumber?, sign, takeWhole?_toDigits follows, takeFraction_of_follows follows,
    takeExponent_of_follows follows]

omit follows in
theorem constants_printInt (n : Int) :
    constants.find? (fun constant => startsWith constant.1 (.ofChars (printInt n) ++ rest)) =
      none := by
  have names (c : Char) (digit : isAsciiDigit c = true) :
      'n' ≠ c ∧ 't' ≠ c ∧ 'f' ≠ c ∧ 'N' ≠ c ∧ 'I' ≠ c ∧ '-' ≠ c := by
    refine ⟨?_, ?_, ?_, ?_, ?_, ?_⟩ <;> rintro rfl <;> exact absurd digit (by decide)
  cases digits : Nat.toDigits 10 n.natAbs with
  | nil => exact absurd digits Nat.toDigits_ne_nil
  | cons c others =>
    have unlike := names c (isAsciiDigit_of_mem_toDigits (by rw [digits]; simp))
    by_cases negative : n < 0 <;>
      simp [constants, printInt, Double.signed, negative, digits, startsWith, CodePoints.ofChars,
        CodePoints.ofString, unlike]

theorem readPlain_printInt (bounds : Bounds) (n : Int) :
    readPlain bounds (.ofChars (printInt n) ++ rest) =
      (Literal.value bounds ⟨decide (n < 0), Nat.toDigits 10 n.natAbs, [], none⟩).map (·, rest) := by
  simp [readPlain, constants_printInt, takeNumber?_printInt follows]

theorem readPlain_int {bounds : Bounds} {n : Int}
    (fits : bounds.digits.all (digitCount n ≤ ·) = true) :
    readPlain bounds (.ofChars (printInt n) ++ rest) = .ok (.int n, rest) := by
  have within : bounds.digits.any (· < (Nat.toDigits 10 n.natAbs).length) = false := by
    cases limit : bounds.digits with
    | none => rfl
    | some limit =>
      rw [limit, Option.all_some, decide_eq_true_eq] at fits
      simpa [digitCount] using fits
  have value : negateIf (decide (n < 0)) n.natAbs = n := by
    by_cases negative : n < 0 <;> simp only [negateIf, negative, decide_true, decide_false, if_true,
      Bool.false_eq_true, if_false] <;> omega
  simp [readPlain_printInt follows, Literal.value, Literal.isWhole, within, value, Except.map]

theorem readPlain_long {bounds : Bounds} {n : Int}
    (long : bounds.digits.any (· < digitCount n) = true) :
    readPlain bounds (.ofChars (printInt n) ++ rest) = .error (.tooManyDigits (digitCount n)) := by
  rw [digitCount] at long ⊢
  simp [readPlain_printInt follows, Literal.value, Literal.isWhole, long, Except.map]

end Plain

theorem readPlain_null (bounds : Bounds) (rest : CodePoints) :
    readPlain bounds (CodePoints.ofString "null" ++ rest) = .ok (.null, rest) := by
  simp [readPlain, constants, startsWith, CodePoints.ofChars, CodePoints.ofString]

theorem readPlain_bool (bounds : Bounds) (value : Bool) (rest : CodePoints) :
    readPlain bounds (CodePoints.ofString (if value then "true" else "false") ++ rest) =
      .ok (.bool value, rest) := by
  cases value <;>
    simp [readPlain, constants, startsWith, CodePoints.ofChars, CodePoints.ofString]

end Json

end ReviewDesk
