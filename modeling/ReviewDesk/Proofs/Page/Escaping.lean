import ReviewDesk.Page.Markup
import ReviewDesk.Proofs.Text.Replacement

set_option autoImplicit false

namespace ReviewDesk.Page

open Text

def entity (name : List Char) : CodePoints := .char '&' :: (CodePoints.ofChars name ++ [.char ';'])

theorem escapePoint_ampersand : escapePoint (.char '&') = entity ['a', 'm', 'p'] :=
  congrArg CodePoints.ofChars String.toList_ofList

theorem escapePoint_cases (point : CodePoint) :
    escapePoint point = [point] ∨
      ∃ name : List Char, '{' ∉ name ∧ '<' ∉ name ∧ escapePoint point = entity name := by
  cases point with
  | surrogate offset => exact .inl rfl
  | char c =>
    have literal {chars : List Char} :
        CodePoints.ofChars (String.ofList chars).toList = .ofChars chars :=
      congrArg CodePoints.ofChars String.toList_ofList
    simp only [escapePoint, escapeChar]
    split_ifs
    next => exact .inr ⟨['a', 'm', 'p'], by decide, by decide, literal⟩
    next => exact .inr ⟨['l', 't'], by decide, by decide, literal⟩
    next => exact .inr ⟨['g', 't'], by decide, by decide, literal⟩
    next => exact .inr ⟨['q', 'u', 'o', 't'], by decide, by decide, literal⟩
    next => exact .inr ⟨['#', 'x', '2', '7'], by decide, by decide, literal⟩
    next => exact .inl rfl

theorem escape_cons (point : CodePoint) (text : CodePoints) :
    escape (point :: text) = escapePoint point ++ escape text := List.flatMap_cons

theorem less_not_mem_escape (text : CodePoints) : .char '<' ∉ escape text := by
  intro member
  have kept := List.mem_filter.mpr ⟨member, (rfl : (CodePoint.char '<').satisfies isMarkup = true)⟩
  rw [filter_isMarkup_escape] at kept
  exact List.not_mem_nil kept

theorem char_of_escape {text : CodePoints} (whole : ∀ point ∈ escape text, point.char?.isSome) :
    ∀ point ∈ text, point.char?.isSome := by
  intro point member
  cases point with
  | char c => rfl
  | surrogate offset =>
    exact whole _ (List.mem_flatMap.mpr ⟨.surrogate offset, member, List.mem_singleton_self _⟩)

section Patterns

variable {pattern text : CodePoints} (plain : ∀ point ∈ pattern, escapePoint point = [point])

include plain

theorem prefix_escape_iff : pattern <+: escape text ↔ pattern <+: text := by
  induction text generalizing pattern with
  | nil => rfl
  | cons point rest ih =>
    cases pattern with
    | nil => simp
    | cons first others =>
      have itself := plain first (by simp)
      rw [escape_cons]
      rcases escapePoint_cases point with same | ⟨name, -, -, escaped⟩
      next =>
        rw [same, List.singleton_append, List.cons_prefix_cons, List.cons_prefix_cons,
          ih fun point member => plain point (List.mem_cons_of_mem _ member)]
      next =>
        rw [escaped, entity, List.cons_append, List.cons_prefix_cons, List.cons_prefix_cons]
        constructor
        next =>
          rintro ⟨rfl, -⟩
          simp [escapePoint_ampersand, entity] at itself
        next =>
          rintro ⟨rfl, -⟩
          rw [itself] at escaped
          simp [entity] at escaped

theorem infix_escape_iff (brace : .char '{' ∈ pattern) (apart : .char ';' ∉ pattern) :
    pattern <:+: escape text ↔ pattern <:+: text := by
  have some := List.ne_nil_of_mem brace
  induction text with
  | nil => rfl
  | cons point rest ih =>
    have start : pattern <+: escape (point :: rest) ↔ pattern <+: point :: rest :=
      prefix_escape_iff plain
    have later : pattern <:+: escape rest ↔ pattern <:+: rest := ih
    rw [escape_cons] at start ⊢
    rw [List.infix_cons_iff, ← start, ← later]
    rcases escapePoint_cases point with same | ⟨name, brace', -, escaped⟩
    next => rw [same, List.singleton_append, List.infix_cons_iff]
    next =>
      have inside : ¬ pattern <:+: .char '&' :: CodePoints.ofChars name := by
        intro found
        have member := found.subset brace
        simp [CodePoints.ofChars, brace'] at member
      rw [escaped, entity, ← List.cons_append, List.append_assoc, List.singleton_append,
        infix_wall_iff some apart, prefix_wall_iff apart]
      constructor
      next => exact fun found => .inr (found.resolve_left inside)
      next =>
        rintro (found | found)
        next => exact absurd found.isInfix inside
        next => exact .inr found

end Patterns

end ReviewDesk.Page
