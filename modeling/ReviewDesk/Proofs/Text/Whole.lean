import ReviewDesk.Proofs.Text.Replacement
import ReviewDesk.Text.Encoding

set_option autoImplicit false

namespace ReviewDesk.Text

def IsWhole (text : CodePoints) : Prop := ∀ point ∈ text, point.char?.isSome

@[simp] theorem isWhole_nil : IsWhole [] := fun _ member => absurd member List.not_mem_nil

@[simp] theorem isWhole_ofChars (text : List Char) : IsWhole (.ofChars text) := by
  intro point member
  obtain ⟨c, -, rfl⟩ := List.mem_map.mp member
  rfl

@[simp] theorem isWhole_ofString (text : String) : IsWhole (.ofString text) := isWhole_ofChars _

@[simp] theorem isWhole_append (text other : CodePoints) :
    IsWhole (text ++ other) ↔ IsWhole text ∧ IsWhole other := List.forall_mem_append

theorem isWhole_flatMap {α : Type} (items : List α) (f : α → CodePoints) :
    IsWhole (items.flatMap f) ↔ ∀ item ∈ items, IsWhole (f item) := by
  induction items with
  | nil => simp
  | cons item rest ih => rw [List.flatMap_cons, isWhole_append, ih, List.forall_mem_cons]

theorem isWhole_ofLines (parts : List CodePoints) :
    IsWhole (.ofLines parts) ↔ ∀ part ∈ parts, IsWhole part := by
  have newline : IsWhole [.char '\n'] := isWhole_ofChars ['\n']
  induction parts with
  | nil => simp [CodePoints.ofLines]
  | cons part rest ih =>
    cases rest with
    | nil => simp [CodePoints.ofLines]
    | cons next others =>
      have split : CodePoints.ofLines (part :: next :: others) =
          part ++ ([.char '\n'] ++ CodePoints.ofLines (next :: others)) := by
        simp [CodePoints.ofLines]
      rw [split, List.forall_mem_cons, isWhole_append, isWhole_append]
      exact and_congr_right fun _ => (and_iff_right newline).trans ih

theorem isWhole_cons (point : CodePoint) (text : CodePoints) :
    IsWhole (point :: text) ↔ point.char?.isSome ∧ IsWhole text := List.forall_mem_cons

theorem IsWhole.take {text : CodePoints} (whole : IsWhole text) (n : Nat) : IsWhole (text.take n) :=
  fun point member => whole point (List.mem_of_mem_take member)

section Replacement

variable {pattern substitute : CodePoints} (some : pattern ≠ []) (plain : IsWhole pattern)
  (other : IsWhole substitute)

include some plain other

-- What is skipped is the rest of a pattern, so what is not skipped has all the surrogates.
theorem isWhole_replaceFrom_iff (n : Nat) (text : CodePoints) :
    IsWhole (replaceFrom pattern substitute n text) ↔ IsWhole (text.drop n) := by
  induction text generalizing n with
  | nil => cases n <;> rfl
  | cons point rest ih =>
    cases n with
    | succ n => exact ih n
    | zero =>
      rw [replaceFrom, List.drop_zero]
      split
      next here =>
        obtain ⟨first, others, rfl⟩ := List.exists_cons_of_ne_nil some
        obtain ⟨after, split⟩ := List.isPrefixOf_iff_prefix.mp here
        rw [List.cons_append, List.cons.injEq] at split
        obtain ⟨rfl, rfl⟩ := split
        rw [isWhole_append, ih, List.length_cons, Nat.add_sub_cancel, List.drop_left,
          ← List.cons_append, isWhole_append, and_iff_right other, and_iff_right plain]
      next => rw [isWhole_cons, isWhole_cons, ih, List.drop_zero]

theorem isWhole_replaceAll_iff (text : CodePoints) :
    IsWhole (replaceAll pattern substitute text) ↔ IsWhole text :=
  isWhole_replaceFrom_iff some plain other 0 text

end Replacement

theorem sendable_iff (text : CodePoints) :
    (∃ sent, Charset.sendable text = .ok sent) ↔ IsWhole text := by
  have held := Charset.fault?_eq_none_iff .utf8 text
  constructor
  next =>
    rintro ⟨sent, accepted⟩
    have same := Charset.ofString_of_sendable accepted
    exact same ▸ isWhole_ofString sent
  next =>
    intro whole
    exact ⟨text.legible, by rw [Charset.sendable, held.mpr whole]⟩

end ReviewDesk.Text
