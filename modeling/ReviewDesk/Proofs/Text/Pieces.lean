import ReviewDesk.Text.CodePoint
import ReviewDesk.Text.Search

set_option autoImplicit false

namespace ReviewDesk.Text

open CodePoints

section Strings

variable {c : Char} {s : String} {chars : List Char}

theorem ofString_append (s t : String) : ofString (s ++ t) = ofString s ++ ofString t := by
  rw [ofString, String.toList_append, ofChars_append, ofString, ofString]

theorem mem_ofString (c : Char) (s : String) : .char c ∈ ofString s ↔ c ∈ s.toList := by
  simp [ofString, ofChars]

-- The spelling of a literal is found by unfolding it, so that the rest can be decided.
theorem ofString_of_spelled (p : CodePoints → Prop) (spelled : s = String.ofList chars)
    (holds : p (ofChars chars)) : p s := by
  rw [spelled, ofString, String.toList_ofList]
  exact holds

theorem not_mem_ofString (spelled : s = String.ofList chars) (absent : c ∉ chars) :
    .char c ∉ ofString s :=
  ofString_of_spelled (.char c ∉ ·) spelled (by simpa [ofChars] using absent)

theorem forall_mem_literal {p : Char → Prop} {text : String} {chars : List Char}
    (spelled : text = String.ofList chars) (all : ∀ c ∈ chars, p c) : ∀ c ∈ text.toList, p c := by
  rwa [spelled, String.toList_ofList]

-- The words around the middle are variables here, since comparing literals unfolds them.
theorem forall_mem_between {p : Char → Prop} {first last : String} (middle : String)
    (opening : ∀ c ∈ first.toList, p c) (ending : ∀ c ∈ last.toList, p c) :
    (∀ c ∈ (first ++ middle ++ last).toList, p c) ↔ ∀ c ∈ middle.toList, p c := by
  rw [String.toList_append, String.toList_append, List.forall_mem_append, List.forall_mem_append]
  exact (and_iff_left ending).trans (and_iff_right opening)

end Strings

section Numerals

variable {c : Char}

def isNumeral (c : Char) : Bool := c.isDigit || c == '-'

theorem toList_nat (n : Nat) : (toString n).toList = Nat.toDigits 10 n := by
  rw [Nat.toString_eq_ofList_toDigits, String.toList_ofList]

theorem toList_negSucc (n : Nat) :
    (toString (Int.negSucc n)).toList = '-' :: Nat.toDigits 10 (n + 1) := by
  rw [← toList_nat]
  exact String.toList_append

theorem isDigit_of_mem_nat {n : Nat} (digit : c ∈ Nat.toDigits 10 n) :
    c.isDigit = true :=
  Nat.isDigit_of_mem_toDigits (by decide) (by decide) digit

theorem isNumeral_of_mem_nat {n : Nat} (member : c ∈ (toString n).toList) :
    isNumeral c = true := by
  rw [toList_nat] at member
  rw [isNumeral, isDigit_of_mem_nat member, Bool.true_or]

theorem isNumeral_of_mem_int {n : Int} (member : c ∈ (toString n).toList) :
    isNumeral c = true := by
  cases n with
  | ofNat n => exact isNumeral_of_mem_nat (n := n) member
  | negSucc n =>
    rw [toList_negSucc] at member
    rcases List.mem_cons.mp member with rfl | digit
    next => rfl
    next => exact isNumeral_of_mem_nat ((toList_nat _).symm ▸ digit)

theorem not_mem_nat (outside : isNumeral c = false) (n : Nat) :
    .char c ∉ ofString (toString n) := by
  rw [mem_ofString]
  exact fun member => absurd (isNumeral_of_mem_nat member) (outside ▸ Bool.false_ne_true)

theorem not_mem_int (outside : isNumeral c = false) (n : Int) :
    .char c ∉ ofString (toString n) := by
  rw [mem_ofString]
  exact fun member => absurd (isNumeral_of_mem_int member) (outside ▸ Bool.false_ne_true)

theorem toDigits_injective : Function.Injective (Nat.toDigits 10) := by
  intro m n same
  have read := congrArg (Nat.ofDigitChars 10 · 0) same
  simpa [Nat.ofDigitChars_ten_toDigits] using read

theorem toString_nat_injective : Function.Injective (toString : Nat → String) := by
  intro m n same
  have digits := congrArg String.toList same
  rw [toList_nat, toList_nat] at digits
  exact toDigits_injective digits

theorem toString_int_injective : Function.Injective (toString : Int → String) := by
  have unsigned (m n : Nat) : (toString (Int.ofNat m)).toList ≠ (toString (Int.negSucc n)).toList := by
    intro same
    have minus : '-' ∈ Nat.toDigits 10 m := by
      rw [← toList_nat, show toString m = toString (Int.ofNat m) from rfl, same, toList_negSucc]
      exact List.mem_cons_self
    exact absurd (isDigit_of_mem_nat minus) (by decide)
  intro m n same
  have spelled := congrArg String.toList same
  cases m with
  | ofNat m =>
    cases n with
    | ofNat n => exact congrArg Int.ofNat (toString_nat_injective same)
    | negSucc n => exact absurd spelled (unsigned m n)
  | negSucc m =>
    cases n with
    | ofNat n => exact absurd spelled.symm (unsigned n m)
    | negSucc n =>
      rw [toList_negSucc, toList_negSucc, List.cons.injEq] at spelled
      exact congrArg Int.negSucc (Nat.succ.inj (toDigits_injective spelled.2))

end Numerals

section Reading

variable {α : Type} {p : α → Bool} {xs ys rest others : List α}

/-- A piece is told from what follows where a property of its characters ends. -/
theorem append_inj_of_stop (left : ∀ x ∈ xs, p x = true) (right : ∀ y ∈ ys, p y = true)
    (stop : rest.takeWhile p = []) (stop' : others.takeWhile p = [])
    (same : xs ++ rest = ys ++ others) : xs = ys ∧ rest = others := by
  have pieces := congrArg (List.takeWhile p) same
  rw [List.takeWhile_append_of_pos left, List.takeWhile_append_of_pos right, stop, stop',
    List.append_nil, List.append_nil] at pieces
  exact ⟨pieces, List.append_cancel_left (pieces ▸ same)⟩

theorem exists_last {x : α} (member : x ∈ xs) : ∃ before after, xs = before ++ x :: after ∧ x ∉ after := by
  obtain ⟨after, before, split, last⟩ := List.eq_append_cons_of_mem (List.mem_reverse.mpr member)
  refine ⟨before.reverse, after.reverse, ?_, by rwa [List.mem_reverse]⟩
  simpa using congrArg List.reverse split

theorem takeWhile_mark {p : Char → Bool} {c : Char} {mark : String} {chars : List Char}
    (spelled : mark = String.ofList (c :: chars)) (outside : p c = false) (rest : CodePoints) :
    (ofString mark ++ rest).takeWhile (·.satisfies p) = [] := by
  simp [spelled, ofString, ofChars, CodePoint.satisfies, outside]

variable {s t mark : String} {q : Char → Bool} {c : Char} {chars : List Char}
  {rest others : CodePoints}

theorem ofString_append_inj (left : ∀ c ∈ s.toList, q c = true) (right : ∀ c ∈ t.toList, q c = true)
    (spelled : mark = String.ofList (c :: chars)) (outside : q c = false)
    (same : ofString s ++ (ofString mark ++ rest) = ofString t ++ (ofString mark ++ others)) :
    s = t ∧ rest = others := by
  have inside {text : String} (all : ∀ c ∈ text.toList, q c = true) :
      ∀ point ∈ ofString text, point.satisfies q = true := by
    simpa [ofString, ofChars, CodePoint.satisfies] using all
  obtain ⟨piece, after⟩ := append_inj_of_stop (inside left) (inside right)
    (takeWhile_mark spelled outside rest) (takeWhile_mark spelled outside others) same
  exact ⟨(ofString_inj s t).mp piece, List.append_cancel_left after⟩

theorem int_append_inj {m n : Int} (spelled : mark = String.ofList (c :: chars))
    (outside : isNumeral c = false)
    (same : ofString (toString m) ++ (ofString mark ++ rest) =
      ofString (toString n) ++ (ofString mark ++ others)) : m = n ∧ rest = others := by
  obtain ⟨number, after⟩ := ofString_append_inj (fun _ => isNumeral_of_mem_int)
    (fun _ => isNumeral_of_mem_int) spelled outside same
  exact ⟨toString_int_injective number, after⟩

theorem ofLines_inj {parts other : List CodePoints} (single : ∀ part ∈ parts, .char '\n' ∉ part)
    (single' : ∀ part ∈ other, .char '\n' ∉ part) (some : parts ≠ []) (some' : other ≠ [])
    (same : ofLines parts = ofLines other) : parts = other := by
  rw [← List.splitOn_intercalate _ single some, ← List.splitOn_intercalate _ single' some']
  exact congrArg (List.splitOn _) same

end Reading

end ReviewDesk.Text
