import Mathlib.Data.List.DropRight
import ReviewDesk.Proofs.Text.Replacement

set_option autoImplicit false

namespace ReviewDesk.Text

variable {α : Type} {margin : α → Bool} {pattern text left right : List α}

section Trimming

theorem trimEnd_append_margin (after : ∀ c ∈ right, margin c = true) :
    trimEnd margin (text ++ right) = trimEnd margin text := by
  rw [trimEnd, List.reverse_append, List.dropWhile_append_of_pos, trimEnd]
  exact fun c member => after c (List.mem_reverse.mp member)

theorem trim_between_margins (before : ∀ c ∈ left, margin c = true)
    (after : ∀ c ∈ right, margin c = true) :
    trim margin (left ++ text ++ right) = trim margin text := by
  rw [trim, trimStart, List.append_assoc, List.dropWhile_append_of_pos before,
    List.dropWhile_append, trim, trimStart]
  split
  next blank => rw [List.dropWhile_eq_nil_iff.mpr after, List.isEmpty_iff.mp blank]
  next => exact trimEnd_append_margin after

theorem exists_margin_after (margin : α → Bool) (text : List α) :
    ∃ right, text = trimEnd margin text ++ right ∧ ∀ c ∈ right, margin c = true := by
  refine ⟨(text.reverse.takeWhile margin).reverse, ?_, ?_⟩
  next =>
    rw [trimEnd, ← List.reverse_append, List.takeWhile_append_dropWhile, List.reverse_reverse]
  next => exact fun c member => List.mem_takeWhile_imp (List.mem_reverse.mp member)

theorem exists_margins (margin : α → Bool) (text : List α) :
    ∃ left right, text = left ++ trim margin text ++ right ∧
      (∀ c ∈ left, margin c = true) ∧ ∀ c ∈ right, margin c = true := by
  obtain ⟨right, split, after⟩ := exists_margin_after margin (trimStart margin text)
  refine ⟨text.takeWhile margin, right, ?_, fun c => List.mem_takeWhile_imp, after⟩
  rw [List.append_assoc, trim, ← split, trimStart, List.takeWhile_append_dropWhile]

theorem trim_within (margin : α → Bool) (text : List α) : trim margin text <:+: text := by
  obtain ⟨left, right, split, -, -⟩ := exists_margins margin text
  exact ⟨left, right, split.symm⟩

theorem head?_trim (margin : α → Bool) (text : List α) :
    ∀ c ∈ (trim margin text).head?, margin c = false := by
  intro c first
  obtain ⟨rest, opened⟩ := List.head?_eq_some_iff.mp first
  have inside : trim margin text <+: trimStart margin text := List.rdropWhile_prefix margin _
  obtain ⟨others, split⟩ := opened ▸ inside
  have head := List.head?_dropWhile_not margin text
  rw [← trimStart, ← split] at head
  simpa using head

theorem getLast?_trim (margin : α → Bool) (text : List α) :
    ∀ c ∈ (trim margin text).getLast?, margin c = false := by
  intro c last
  obtain ⟨some, rfl⟩ := List.mem_getLast?_eq_getLast last
  exact Bool.not_eq_true _ ▸ List.rdropWhile_last_not margin (trimStart margin text) some

theorem trim_eq_self (opened : ∀ c ∈ text.head?, margin c = false)
    (closed : ∀ c ∈ text.getLast?, margin c = false) : trim margin text = text := by
  have started : trimStart margin text = text := by
    cases text with
    | nil => rfl
    | cons first rest => exact List.dropWhile_cons_of_neg (by simp [opened first rfl])
  rw [trim, started]
  refine List.rdropWhile_eq_self_iff.mpr fun some => ?_
  simp [closed _ (List.getLast?_eq_some_getLast some)]

theorem trim_trim (margin : α → Bool) (text : List α) :
    trim margin (trim margin text) = trim margin text :=
  trim_eq_self (head?_trim margin text) (getLast?_trim margin text)

structure Core (margin : α → Bool) (text core : List α) : Prop where
  between : ∃ left right, text = left ++ core ++ right ∧
    (∀ c ∈ left, margin c = true) ∧ ∀ c ∈ right, margin c = true
  opened : ∀ c ∈ core.head?, margin c = false
  closed : ∀ c ∈ core.getLast?, margin c = false

theorem core_trim (margin : α → Bool) (text : List α) : Core margin text (trim margin text) :=
  ⟨exists_margins margin text, head?_trim margin text, getLast?_trim margin text⟩

theorem Core.trim_eq {core : List α} (within : Core margin text core) :
    trim margin text = core := by
  obtain ⟨left, right, rfl, before, after⟩ := within.between
  rw [trim_between_margins before after, trim_eq_self within.opened within.closed]

theorem trim_eq_nil_iff : trim margin text = [] ↔ ∀ c ∈ text, margin c = true := by
  constructor
  next =>
    intro none
    obtain ⟨left, right, split, before, after⟩ := exists_margins margin text
    rw [none, List.append_nil] at split
    rw [split]
    exact List.forall_mem_append.mpr ⟨before, after⟩
  next =>
    intro marginal
    rw [trim, trimStart, List.dropWhile_eq_nil_iff.mpr marginal]
    rfl

section Characters

variable {p : α → Prop} (plain : ∀ c, margin c = true → p c)

include plain

theorem forall_mem_dropWhile (text : List α) :
    (∀ c ∈ text.dropWhile margin, p c) ↔ ∀ c ∈ text, p c := by
  induction text with
  | nil => rfl
  | cons c rest ih =>
    rw [List.dropWhile_cons, List.forall_mem_cons]
    split
    next marginal => rw [ih]; exact (and_iff_right (plain c marginal)).symm
    next => rw [List.forall_mem_cons]

theorem forall_mem_trim (text : List α) :
    (∀ c ∈ trim margin text, p c) ↔ ∀ c ∈ text, p c := by
  simp only [trim, trimEnd, trimStart, List.mem_reverse, forall_mem_dropWhile plain]

end Characters

-- The text ends in no margin, and so does what trimming its start leaves of it.
theorem trim_trimEnd (margin : α → Bool) (text : List α) :
    trim margin (trimEnd margin text) = trimStart margin (trimEnd margin text) := by
  refine List.rdropWhile_eq_self_iff.mpr fun some marginal => ?_
  have suffix : trimStart margin (trimEnd margin text) <:+ trimEnd margin text :=
    List.dropWhile_suffix margin
  rw [suffix.getLast some] at marginal
  exact List.rdropWhile_last_not margin text _ marginal

theorem trim_concat {mark : α} (plain : margin mark = false) (text : List α) :
    trim margin (trimEnd margin text ++ [mark]) = trim margin text ++ [mark] := by
  obtain ⟨right, split, after⟩ := exists_margin_after margin text
  have same : trim margin text = trimStart margin (trimEnd margin text) := by
    have unmargined : trim margin ([] ++ trimEnd margin text ++ right) =
        trim margin (trimEnd margin text) := trim_between_margins (by simp) after
    rwa [List.nil_append, ← split, trim_trimEnd] at unmargined
  have started : trimStart margin (trimEnd margin text ++ [mark]) =
      trimStart margin (trimEnd margin text) ++ [mark] := by
    rw [trimStart, List.dropWhile_append, trimStart]
    split
    next blank => rw [List.isEmpty_iff.mp blank, List.dropWhile_cons_of_neg (by simp [plain]),
      List.nil_append]
    next => rfl
  rw [trim, started, trimEnd, List.reverse_concat, List.dropWhile_cons_of_neg (by simp [plain]),
    ← List.reverse_concat, List.reverse_reverse, same]

end Trimming

section Occurrences

variable {wall : α} {parts : List (List α)}

theorem infix_concat_iff (some : pattern ≠ []) (apart : wall ∉ pattern) :
    pattern <:+: text ++ [wall] ↔ pattern <:+: text := by
  rw [infix_wall_iff some apart, List.infix_nil]
  exact or_iff_left some

theorem not_mem_of_clear {c : α} (clear : ∀ c ∈ pattern, margin c = false)
    (marginal : margin c = true) : c ∉ pattern := by
  intro member
  rw [clear c member] at marginal
  exact Bool.false_ne_true marginal

theorem infix_append_margin_iff (some : pattern ≠ []) (clear : ∀ c ∈ pattern, margin c = false)
    (after : ∀ c ∈ right, margin c = true) :
    pattern <:+: text ++ right ↔ pattern <:+: text := by
  cases right with
  | nil => rw [List.append_nil]
  | cons c rest =>
    rw [List.forall_mem_cons] at after
    rw [infix_wall_iff some (not_mem_of_clear clear after.1)]
    refine or_iff_left fun inside => ?_
    obtain ⟨first, member⟩ := List.exists_mem_of_ne_nil pattern some
    exact not_mem_of_clear clear (after.2 first (inside.subset member)) member

theorem infix_between_margins_iff (some : pattern ≠ [])
    (clear : ∀ c ∈ pattern, margin c = false) (before : ∀ c ∈ left, margin c = true)
    (after : ∀ c ∈ right, margin c = true) :
    pattern <:+: left ++ text ++ right ↔ pattern <:+: text := by
  rw [infix_append_margin_iff some clear after]
  obtain ⟨first, rest, rfl⟩ := List.exists_cons_of_ne_nil some
  refine infix_append_iff_of_not_mem fun member => ?_
  exact not_mem_of_clear clear (before first member) List.mem_cons_self

theorem infix_intercalate_iff (some : pattern ≠ []) (apart : wall ∉ pattern) :
    pattern <:+: [wall].intercalate parts ↔ ∃ part ∈ parts, pattern <:+: part := by
  induction parts with
  | nil => simp [some]
  | cons part rest ih =>
    cases rest with
    | nil => simp
    | cons next rest =>
      rw [List.intercalate_cons_cons, List.append_assoc, List.singleton_append,
        infix_wall_iff some apart, ih]
      simp

theorem mem_of_mem_intercalate {c : α} (member : c ∈ [wall].intercalate parts) :
    c = wall ∨ ∃ part ∈ parts, c ∈ part := by
  induction parts with
  | nil => simp at member
  | cons part rest ih =>
    cases rest with
    | nil => simp_all
    | cons next rest =>
      rw [List.intercalate_cons_cons, List.append_assoc, List.mem_append, List.singleton_append,
        List.mem_cons] at member
      rcases member with here | rfl | later
      next => exact .inr ⟨part, List.mem_cons_self, here⟩
      next => exact .inl rfl
      next =>
        rcases ih later with rfl | ⟨other, listed, inside⟩
        next => exact .inl rfl
        next => exact .inr ⟨other, List.mem_cons_of_mem _ listed, inside⟩

variable [BEq α] [LawfulBEq α] {patterns : List (List α)} {other : List α}

theorem containsAny_iff :
    containsAny patterns text = true ↔ ∃ pattern ∈ patterns, pattern <:+: text := by
  simp [containsAny, contains_iff]

theorem contains_congr (same : pattern <:+: text ↔ pattern <:+: other) :
    contains pattern text = contains pattern other := by
  rw [Bool.eq_iff_iff, contains_iff, contains_iff, same]

theorem containsAny_congr
    (same : ∀ pattern ∈ patterns, (pattern <:+: text ↔ pattern <:+: other)) :
    containsAny patterns text = containsAny patterns other := by
  rw [Bool.eq_iff_iff, containsAny_iff, containsAny_iff]
  exact exists_congr fun pattern => and_congr_right (same pattern)

end Occurrences

end ReviewDesk.Text
