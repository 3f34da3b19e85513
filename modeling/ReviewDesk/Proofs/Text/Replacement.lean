import Mathlib.Data.List.Infix
import ReviewDesk.Text.Search

set_option autoImplicit false

namespace ReviewDesk.Text

variable {α : Type}

-- A character that the pattern does not have is a wall: no occurrence reaches over it.
section Walls

variable {pattern before after : List α} {wall : α}

theorem prefix_wall_iff (apart : wall ∉ pattern) :
    pattern <+: before ++ wall :: after ↔ pattern <+: before := by
  constructor
  next =>
    intro found
    rcases List.prefix_or_prefix_of_prefix found (List.prefix_append before _) with inside | past
    next => exact inside
    next =>
      obtain ⟨rest, rfl⟩ := past
      rw [List.prefix_append_right_inj, List.prefix_cons_iff] at found
      rcases found with rfl | ⟨more, rfl, -⟩
      next => simp
      next => simp at apart
  next => exact fun found => found.trans (List.prefix_append before _)

theorem infix_wall_iff (some : pattern ≠ []) (apart : wall ∉ pattern) :
    pattern <:+: before ++ wall :: after ↔ pattern <:+: before ∨ pattern <:+: after := by
  induction before with
  | nil =>
    have none : ¬ pattern <+: [] ++ wall :: after := by
      rw [prefix_wall_iff apart]
      exact fun found => some (List.prefix_nil.mp found)
    rw [List.nil_append] at none
    simp [List.infix_cons_iff, none, some]
  | cons c rest ih =>
    rw [List.cons_append, List.infix_cons_iff, ih, List.infix_cons_iff, ← List.cons_append,
      prefix_wall_iff apart, or_assoc]

theorem infix_append_iff_of_not_mem {first : α} {rest : List α} (apart : first ∉ before) :
    first :: rest <:+: before ++ after ↔ first :: rest <:+: after := by
  induction before with
  | nil => rfl
  | cons c others ih =>
    rw [List.mem_cons, not_or] at apart
    rw [List.cons_append, List.infix_cons_iff, ih apart.2, List.cons_prefix_cons]
    exact or_iff_right fun found => apart.1 found.1

theorem infix_between_iff {first : α} {rest middle : List α} (clear : first ∉ before)
    (apart : ∃ wall ∈ after.head?, wall ∉ first :: rest) (none : first ∉ after) :
    first :: rest <:+: before ++ (middle ++ after) ↔ first :: rest <:+: middle := by
  obtain ⟨wall, head, apart⟩ := apart
  obtain ⟨others, rfl⟩ := List.head?_eq_some_iff.mp head
  rw [infix_append_iff_of_not_mem clear, infix_wall_iff (by simp) apart]
  refine or_iff_left fun found => none ?_
  exact List.mem_cons_of_mem _ (found.subset List.mem_cons_self)

end Walls

section Replacement

variable [BEq α] {pattern substitute text before after : List α} {wall : α}

theorem replaceFrom_of_length_le {n : Nat} (short : text.length ≤ n) :
    replaceFrom pattern substitute n text = [] := by
  induction text generalizing n with
  | nil => cases n <;> rfl
  | cons c rest ih =>
    cases n with
    | zero => simp at short
    | succ n => exact ih (by simpa using short)

variable [LawfulBEq α]

theorem contains_eq_false_iff : contains pattern text = false ↔ ¬ pattern <:+: text := by
  rw [← contains_iff, Bool.not_eq_true]

theorem replaceAll_of_absent (absent : ¬ pattern <:+: text) :
    replaceAll pattern substitute text = text := by
  induction text with
  | nil => rfl
  | cons c rest ih =>
    rw [List.infix_cons_iff, not_or, ← List.isPrefixOf_iff_prefix] at absent
    have later := ih absent.2
    rw [replaceAll] at later ⊢
    rw [replaceFrom, if_neg absent.1, later]

theorem replaceAll_self (some : pattern ≠ []) :
    replaceAll pattern substitute pattern = substitute := by
  obtain ⟨c, rest, rfl⟩ := List.exists_cons_of_ne_nil some
  simp [replaceAll, replaceFrom, replaceFrom_of_length_le]

-- The places still to be skipped are those of an occurrence, which ends before the wall.
theorem replaceFrom_wall (some : pattern ≠ []) (apart : wall ∉ pattern) {n : Nat}
    (room : n ≤ before.length) :
    replaceFrom pattern substitute n (before ++ wall :: after) =
      replaceFrom pattern substitute n before ++ wall :: replaceAll pattern substitute after := by
  induction before generalizing n with
  | nil =>
    obtain rfl := Nat.le_zero.mp room
    have none : ¬ pattern.isPrefixOf ([] ++ wall :: after) = true := by
      rw [List.isPrefixOf_iff_prefix, prefix_wall_iff apart]
      exact fun found => some (List.prefix_nil.mp found)
    rw [List.nil_append] at none
    simp only [List.nil_append, replaceFrom, if_neg none, replaceAll]
  | cons c rest ih =>
    cases n with
    | succ n => exact ih (by simpa using room)
    | zero =>
      have same : pattern <+: c :: rest ++ wall :: after ↔ pattern <+: c :: rest :=
        prefix_wall_iff apart
      rw [← List.isPrefixOf_iff_prefix, ← List.isPrefixOf_iff_prefix] at same
      by_cases here : pattern.isPrefixOf (c :: rest) = true
      next =>
        have fits := (List.isPrefixOf_iff_prefix.mp here).length_le
        rw [List.length_cons] at fits
        rw [replaceFrom, if_pos here, List.cons_append, replaceFrom, ← List.cons_append,
          if_pos (same.mpr here), ih (by omega), List.append_assoc]
      next =>
        rw [replaceFrom, if_neg here, List.cons_append, replaceFrom, ← List.cons_append,
          if_neg (fun found => here (same.mp found)), ih (Nat.zero_le _), List.cons_append]

theorem replaceAll_wall (some : pattern ≠ []) (apart : wall ∉ pattern) :
    replaceAll pattern substitute (before ++ wall :: after) =
      replaceAll pattern substitute before ++ wall :: replaceAll pattern substitute after :=
  replaceFrom_wall some apart (Nat.zero_le _)

theorem replaceAll_append_of_last (some : pattern ≠ [])
    (apart : ∃ wall ∈ before.getLast?, wall ∉ pattern) :
    replaceAll pattern substitute (before ++ after) =
      replaceAll pattern substitute before ++ replaceAll pattern substitute after := by
  obtain ⟨wall, last, apart⟩ := apart
  obtain ⟨start, rfl⟩ := List.getLast?_eq_some_iff.mp last
  rw [List.append_assoc, List.singleton_append, replaceAll_wall some apart,
    replaceAll_wall some apart, List.append_assoc]
  rfl

theorem replaceAll_append_of_head (some : pattern ≠ [])
    (apart : ∃ wall ∈ after.head?, wall ∉ pattern) :
    replaceAll pattern substitute (before ++ after) =
      replaceAll pattern substitute before ++ replaceAll pattern substitute after := by
  obtain ⟨wall, first, apart⟩ := apart
  obtain ⟨rest, rfl⟩ := List.head?_eq_some_iff.mp first
  have alone : replaceAll pattern substitute ([] ++ wall :: rest) =
      replaceAll pattern substitute [] ++ wall :: replaceAll pattern substitute rest :=
    replaceAll_wall some apart
  rw [List.nil_append] at alone
  rw [replaceAll_wall some apart, alone]
  rfl

omit [LawfulBEq α] in
theorem filter_replaceFrom {p : α → Bool} {other : List α}
    (same : substitute.filter p = other.filter p) (n : Nat) (text : List α) :
    (replaceFrom pattern substitute n text).filter p =
      (replaceFrom pattern other n text).filter p := by
  induction text generalizing n with
  | nil => cases n <;> rfl
  | cons c rest ih =>
    cases n with
    | succ n => exact ih n
    | zero =>
      rw [replaceFrom, replaceFrom]
      split
      next => rw [List.filter_append, List.filter_append, same, ih]
      next => rw [List.filter_cons, List.filter_cons, ih]

end Replacement

end ReviewDesk.Text
