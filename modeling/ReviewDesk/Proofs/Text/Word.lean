import ReviewDesk.Text.Blank
import ReviewDesk.Text.Word

set_option autoImplicit false

namespace ReviewDesk.Text

section Ranges

variable {ranges others : List Range} {c : Char}

def areApart (ranges others : List Range) : Bool :=
  ranges.all fun range => others.all fun other => range.2 < other.1 || other.2 < range.1

theorem inRanges_iff :
    inRanges ranges c = true ↔ ∃ range ∈ ranges, range.1 ≤ c.toNat ∧ c.toNat ≤ range.2 := by
  simp [inRanges]

theorem inRanges_nil : inRanges [] c = true ↔ False := iff_of_false Bool.false_ne_true id

theorem inRanges_cons (range : Range) :
    inRanges (range :: ranges) c = true ↔
      range.1 ≤ c.toNat ∧ c.toNat ≤ range.2 ∨ inRanges ranges c = true := by
  simp [inRanges]

theorem outside_of_areApart (apart : areApart ranges others = true)
    (inside : inRanges ranges c = true) : inRanges others c = false := by
  rw [inRanges_iff] at inside
  obtain ⟨range, listed, above, below⟩ := inside
  rw [← Bool.not_eq_true, inRanges_iff]
  rintro ⟨other, member, above', below'⟩
  have order := List.all_eq_true.mp (List.all_eq_true.mp apart range listed) other member
  simp only [Bool.or_eq_true, decide_eq_true_eq] at order
  omega

end Ranges

section Gaps

variable {c : Char}

def isControlCode (c : Char) : Bool := inRanges [(0x00, 0x1f), (0x7f, 0x9f)] c

/-- Blanks, control codes and the marks that a header or a path is cut at: the double quote, the
slash, the semicolon and the backslash. -/
def gapRanges : List Range := [
  (0x00, 0x20), (0x22, 0x22), (0x2f, 0x2f), (0x3b, 0x3b), (0x5c, 0x5c), (0x7f, 0xa0),
  (0x1680, 0x1680), (0x2000, 0x200a), (0x2028, 0x2029), (0x202f, 0x202f), (0x205f, 0x205f),
  (0x3000, 0x3000)]

theorem apart_gaps : areApart wordRanges gapRanges = true := by decide +kernel

theorem gap_of_isBlank (blank : isBlank c = true) : inRanges gapRanges c = true := by
  simp only [isBlank, isCommonBlank, Bool.or_eq_true, Bool.and_eq_true, decide_eq_true_eq,
    beq_iff_eq, le_iff_toNat, ← Char.toNat_inj, Char.reduceToNat] at blank
  simp only [gapRanges, inRanges_cons, inRanges_nil]
  omega

theorem gap_of_isControlCode (control : isControlCode c = true) : inRanges gapRanges c = true := by
  simp only [isControlCode, gapRanges, inRanges_cons, inRanges_nil, or_false] at control ⊢
  omega

end Gaps

end ReviewDesk.Text
