import Mathlib.Data.List.Chain
import ReviewDesk.Text.CodePoint

set_option autoImplicit false

namespace ReviewDesk.Text.CodePoints

def isPair (high low : CodePoint) : Bool :=
  isHighSurrogate high.toNat && isLowSurrogate low.toNat

def rejoined : CodePoints → CodePoints
  | high :: low :: rest =>
    if isPair high low then .ofNat (joinSurrogates high.toNat low.toNat) :: rejoined rest
    else high :: rejoined (low :: rest)
  | text => text

def Unpaired (text : CodePoints) : Prop := text.IsChain fun high low => isPair high low = false

theorem rejoined_of_unpaired {text : CodePoints} (unpaired : Unpaired text) :
    rejoined text = text := by
  fun_induction rejoined text with
  | case1 high low rest pair _ => simp [Unpaired, pair] at unpaired
  | case2 high low rest _ ih => rw [ih (List.isChain_cons_cons.mp unpaired).2]
  | case3 text _ => rfl

theorem not_surrogate_char (c : Char) : isHighSurrogate (CodePoint.char c).toNat = false ∧
    isLowSurrogate (CodePoint.char c).toNat = false := by
  have valid : c.toNat.isValidChar := c.valid
  simp only [Nat.isValidChar] at valid
  simp only [isHighSurrogate, isLowSurrogate, Bool.and_eq_false_iff, decide_eq_false_iff_not]
  simp only [CodePoint.toNat]
  omega

theorem isPair_char (c : Char) (low : CodePoint) : isPair (.char c) low = false := by
  rw [isPair, (not_surrogate_char c).1, Bool.false_and]

theorem exists_surrogates {high low : CodePoint} (pair : isPair high low = true) :
    ∃ first second, high = .surrogate first ∧ low = .surrogate second := by
  cases high with
  | char c => simp [isPair_char] at pair
  | surrogate first =>
    cases low with
    | char c => simp [isPair, (not_surrogate_char c).2] at pair
    | surrogate second => exact ⟨first, second, rfl, rfl⟩

theorem unpaired_ofChars (text : List Char) : Unpaired (ofChars text) := by
  induction text with
  | nil => exact List.isChain_nil
  | cons c rest ih =>
    cases rest with
    | nil => exact List.isChain_singleton _
    | cons d rest => exact List.isChain_cons_cons.mpr ⟨isPair_char c _, ih⟩

theorem ofSpellings_unit_of_apart {value : Nat} {others : List Spelling}
    (apart : ∀ low rest, others = .unit low :: rest →
      (isHighSurrogate value && isLowSurrogate low) = false) :
    ofSpellings (.unit value :: others) = .ofNat value :: ofSpellings others := by
  cases others with
  | nil => rfl
  | cons other rest =>
    cases other with
    | point next => rfl
    | unit low => simp [ofSpellings, apart low rest rfl]

theorem ofSpellings_pair {high low : Nat} (rest : List Spelling)
    (pair : (isHighSurrogate high && isLowSurrogate low) = true) :
    ofSpellings (.unit high :: .unit low :: rest) =
      .ofNat (joinSurrogates high low) :: ofSpellings rest := by
  rw [ofSpellings, if_pos pair]

end ReviewDesk.Text.CodePoints
