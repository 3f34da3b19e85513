import Mathlib.Data.List.Infix
import ReviewDesk.Text.Search

set_option autoImplicit false

namespace ReviewDesk.Text

variable {α : Type} [DecidableEq α] {pattern xs ys : List α} {m n : Nat}

def occurrences (pattern text : List α) : Nat := text.tails.countP (startsWith pattern)

theorem occurrences_cons (pattern : List α) (c : α) (rest : List α) :
    occurrences pattern (c :: rest) =
      occurrences pattern rest + if startsWith pattern (c :: rest) then 1 else 0 := by
  rw [occurrences, List.tails_cons, List.countP_cons]
  rfl

/-- The pattern is found `n` times, and it is never begun at the end without being completed. -/
structure Occurs (pattern : List α) (n : Nat) (text : List α) : Prop where
  count : occurrences pattern text = n
  settled : ∀ part ∈ text.tails, part <+: pattern → part = [] ∨ part = pattern

instance Occurs.decidable (pattern : List α) (n : Nat) (text : List α) :
    Decidable (Occurs pattern n text) :=
  decidable_of_iff
    (occurrences pattern text = n ∧
      ∀ part ∈ text.tails, part <+: pattern → part = [] ∨ part = pattern)
    ⟨fun ⟨count, settled⟩ => ⟨count, settled⟩, fun occurs => ⟨occurs.count, occurs.settled⟩⟩

theorem startsWith_append_of_settled
    (settled : xs <+: pattern → xs = [] ∨ xs = pattern) (some : xs ≠ []) :
    startsWith pattern (xs ++ ys) = startsWith pattern xs := by
  rw [Bool.eq_iff_iff, startsWith_iff, startsWith_iff]
  constructor
  next =>
    intro found
    rcases List.prefix_or_prefix_of_prefix found (List.prefix_append xs ys) with inside | past
    next => exact inside
    next => rw [(settled past).resolve_left some]
  next => exact fun found => found.trans (List.prefix_append xs ys)

theorem occurrences_nil (some : pattern ≠ []) : occurrences pattern [] = 0 := by
  cases pattern with
  | nil => exact absurd rfl some
  | cons c rest => rfl

theorem occurrences_append (some : pattern ≠ [])
    (settled : ∀ part ∈ xs.tails, part <+: pattern → part = [] ∨ part = pattern) :
    occurrences pattern (xs ++ ys) = occurrences pattern xs + occurrences pattern ys := by
  induction xs with
  | nil => rw [List.nil_append, occurrences_nil some, Nat.zero_add]
  | cons c rest ih =>
    rw [List.tails_cons, List.forall_mem_cons] at settled
    have here : startsWith pattern (c :: rest ++ ys) = startsWith pattern (c :: rest) :=
      startsWith_append_of_settled settled.1 (List.cons_ne_nil c rest)
    rw [List.cons_append] at here ⊢
    rw [occurrences_cons, occurrences_cons, ih settled.2, here]
    omega

namespace Occurs

theorem append (some : pattern ≠ []) (first : Occurs pattern m xs)
    (second : Occurs pattern n ys) : Occurs pattern (m + n) (xs ++ ys) where
  count := by rw [occurrences_append some first.settled, first.count, second.count]
  settled := by
    intro part member begun
    obtain ⟨before, split⟩ := (List.mem_tails ..).mp member
    rcases List.append_eq_append_iff.mp split with ⟨start, ended, rfl⟩ | ⟨skipped, -, ended⟩
    next =>
      have listed := (List.mem_tails start xs).mpr ⟨before, ended.symm⟩
      have opened := (List.prefix_append start ys).trans begun
      rcases first.settled start listed opened with none | whole
      next =>
        rw [none, List.nil_append] at begun ⊢
        exact second.settled ys ((List.mem_tails ..).mpr (List.suffix_refl ys)) begun
      next =>
        have short := begun.length_le
        rw [List.length_append, whole] at short
        have end' : ys = [] := List.eq_nil_of_length_eq_zero (by omega)
        exact .inr (by rw [whole, end', List.append_nil])
    next => exact second.settled part ((List.mem_tails ..).mpr ⟨skipped, ended.symm⟩) begun

theorem of_absent {first : α} {rest : List α} (absent : first ∉ xs) :
    Occurs (first :: rest) 0 xs where
  count := by
    rw [occurrences, List.countP_eq_zero]
    intro part member found
    have ended := (List.mem_tails ..).mp member
    exact absent (ended.subset (((startsWith_iff ..).mp found).subset List.mem_cons_self))
  settled := by
    intro part member begun
    cases part with
    | nil => exact .inl rfl
    | cons c more =>
      obtain ⟨rfl, -⟩ := List.cons_prefix_cons.mp begun
      exact absurd (((List.mem_tails ..).mp member).subset List.mem_cons_self) absent

end Occurs

end ReviewDesk.Text
