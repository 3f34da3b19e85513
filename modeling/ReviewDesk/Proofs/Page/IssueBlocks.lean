import ReviewDesk.Proofs.Page.Skeleton
import ReviewDesk.Text.Digit

set_option autoImplicit false

namespace ReviewDesk.Page

open Text

def issueMark : CodePoints := "<div class=\"issue "

theorem issueMark_spelled : issueMark = .char '<' :: CodePoints.ofChars
    ['d', 'i', 'v', ' ', 'c', 'l', 'a', 's', 's', '=', '"', 'i', 's', 's', 'u', 'e', ' '] :=
  congrArg CodePoints.ofChars String.toList_ofList

theorem issueMark_ne_nil : issueMark ≠ [] := by simp [issueMark_spelled]

theorem occurs_of_plain {text : CodePoints} (plain : .char '<' ∉ text) :
    Occurs issueMark 0 text := by
  rw [issueMark_spelled]
  exact Occurs.of_absent plain

theorem occurs_of_spelled {n : Nat} {s : String} {chars : List Char}
    (spelled : s = String.ofList chars) (occurs : Occurs issueMark n (CodePoints.ofChars chars)) :
    Occurs issueMark n (CodePoints.ofString s) :=
  ofString_of_spelled (Occurs issueMark n) spelled occurs

theorem occurs_extend {n : Nat} {text other : CodePoints} (first : Occurs issueMark n text)
    (plain : Occurs issueMark 0 other) : Occurs issueMark n (text ++ other) :=
  first.append issueMark_ne_nil plain

section Words

theorem less_not_mem_place (issue : Issue) : .char '<' ∉ CodePoints.ofString issue.place := by
  unfold Issue.place
  split
  next line _ =>
    rw [ofString_append, List.mem_append, not_or]
    exact ⟨not_mem_ofString rfl (by decide), not_mem_int rfl line⟩
  next => exact not_mem_ofString rfl (by decide)

theorem less_not_mem_kind (kind : Kind) : .char '<' ∉ CodePoints.ofString kind.name := by
  cases kind <;> exact not_mem_ofString rfl (by decide)

theorem less_not_mem_severity (severity : Severity) :
    .char '<' ∉ CodePoints.ofString severity.name := by
  cases severity <;> exact not_mem_ofString rfl (by decide)

theorem less_not_mem_label (origin : Origin) : .char '<' ∉ CodePoints.ofString origin.label := by
  cases origin <;> exact not_mem_ofString rfl (by decide)

theorem less_not_mem_rating (rating : Rating) : .char '<' ∉ CodePoints.ofString rating.name := by
  cases rating <;> exact not_mem_ofString rfl (by decide)

end Words

theorem occurs_issueBlock (issue : Issue) : Occurs issueMark 1 (issueBlock issue) := by
  have kind := occurs_of_plain (less_not_mem_kind issue.kind)
  have severity := occurs_of_plain (less_not_mem_severity issue.severity)
  have place := occurs_of_plain (less_not_mem_place issue)
  unfold issueBlock
  iterate 14 refine occurs_extend ?_ ?_
  all_goals first
    | exact occurs_of_plain (less_not_mem_escape _)
    | exact occurs_of_spelled rfl (by decide)
    | assumption

theorem occurs_issueBlocks (issues : List Issue) :
    Occurs issueMark issues.length (issueBlocks issues) := by
  have blocks : Occurs issueMark issues.length (issues.flatMap issueBlock) := by
    induction issues with
    | nil => exact Occurs.of_absent List.not_mem_nil
    | cons issue rest ih =>
      rw [List.flatMap_cons, List.length_cons, Nat.add_comm]
      exact (occurs_issueBlock issue).append issueMark_ne_nil ih
  cases issues with
  | nil => exact occurs_of_spelled rfl (by decide)
  | cons => exact blocks

theorem occurs_bannerMessage (status : Status) : Occurs issueMark 0 (bannerMessage status) := by
  unfold bannerMessage
  split_ifs
  all_goals
    iterate 2 refine occurs_extend ?_ ?_
    all_goals first
      | exact occurs_of_plain (less_not_mem_escape _)
      | exact occurs_of_plain (not_mem_ofString rfl (by decide))

theorem occurs_banner (status : Status) : Occurs issueMark 0 (banner status) := by
  have style : Occurs issueMark 0 (CodePoints.ofString (bannerClass status)) := by
    unfold bannerClass
    split_ifs <;> exact occurs_of_plain (not_mem_ofString rfl (by decide))
  have icon : Occurs issueMark 0 (CodePoints.ofString (bannerIcon status)) := by
    unfold bannerIcon
    split_ifs <;> exact occurs_of_plain (not_mem_ofString rfl (by decide))
  unfold banner
  iterate 6 refine occurs_extend ?_ ?_
  all_goals first
    | exact occurs_bannerMessage status
    | exact occurs_of_spelled rfl (by decide)
    | assumption

section Templates

def IsClear : Piece → Prop
  | .text content => Occurs issueMark 0 (CodePoints.ofString content)
  | .slot _ | .formatted _ _ => True

theorem isClear_frame : ∀ piece ∈ frameTemplate, IsClear piece := by
  unfold frameTemplate
  repeat first
    | refine List.forall_mem_cons.mpr ⟨trivial, ?_⟩
    | refine List.forall_mem_cons.mpr ⟨occurs_of_spelled rfl (by decide), ?_⟩
  exact List.forall_mem_nil _

theorem isClear_results : ∀ piece ∈ resultsTemplate, IsClear piece := by
  unfold resultsTemplate
  repeat first
    | refine List.forall_mem_cons.mpr ⟨trivial, ?_⟩
    | refine List.forall_mem_cons.mpr ⟨occurs_of_spelled rfl (by decide), ?_⟩
  exact List.forall_mem_nil _

theorem occurs_laidOut {place : String → CodePoints} {count : String → Nat}
    {template : Template}
    (places : ∀ name ∈ slotNames template, Occurs issueMark (count name) (place name))
    (clear : ∀ piece ∈ template, IsClear piece) :
    Occurs issueMark ((slotNames template).foldr (count · + ·) 0) (laidOut place template) := by
  induction template with
  | nil => exact Occurs.of_absent List.not_mem_nil
  | cons piece rest ih =>
    rw [List.forall_mem_cons] at clear
    cases piece with
    | text content =>
      have step := clear.1.append issueMark_ne_nil (ih places clear.2)
      rwa [Nat.zero_add] at step
    | slot name | formatted name format =>
      rw [slotNames, List.forall_mem_cons] at places
      exact places.1.append issueMark_ne_nil (ih places.2 clear.2)

end Templates

section Results

variable (language : String) (result : Assessment) (id : String)

theorem less_not_mem_values (plain : .char '<' ∉ CodePoints.ofString id) :
    ∀ value ∈ resultsValues language result id,
      value.1 ≠ "issues_block" → .char '<' ∉ value.2 := by
  simp only [resultsValues, List.forall_mem_cons]
  refine ⟨fun _ => not_mem_ofString rfl (by decide), fun _ => less_not_mem_escape _,
    fun _ => less_not_mem_label _, fun _ => not_mem_int rfl _, fun _ => less_not_mem_rating _,
    fun _ => less_not_mem_escape _, fun _ => not_mem_nat rfl _, fun _ => not_mem_int rfl _,
    fun _ => not_mem_int rfl _, fun _ => not_mem_int rfl _, fun _ => not_mem_int rfl _,
    fun block => absurd rfl block, fun _ => plain, List.forall_mem_nil _⟩

theorem occurs_results (plain : .char '<' ∉ CodePoints.ofString id) {content : CodePoints}
    (filled : fill (resultsValues language result id) resultsTemplate = .ok content) :
    Occurs issueMark result.issues.length content := by
  let count (name : String) : Nat := if name = "issues_block" then result.issues.length else 0
  have places : ∀ name ∈ slotNames resultsTemplate, Occurs issueMark (count name)
      (((resultsValues language result id).lookup name).getD []) := by
    intro name _
    by_cases block : name = "issues_block"
    next =>
      subst block
      exact occurs_issueBlocks result.issues
    next =>
      have none : count name = 0 := if_neg block
      rw [none]
      cases found : (resultsValues language result id).lookup name with
      | none => exact Occurs.of_absent List.not_mem_nil
      | some value =>
        obtain ⟨before, after, split, -⟩ := List.lookup_eq_some_iff.mp found
        have listed : (name, value) ∈ resultsValues language result id := by simp [split]
        exact occurs_of_plain (less_not_mem_values language result id plain _ listed block)
  have sum : (slotNames resultsTemplate).foldr (count · + ·) 0 = result.issues.length := by
    simp [slotNames, resultsTemplate, count]
  have total := occurs_laidOut places isClear_results
  rwa [← eq_laidOut_of_fill filled, sum] at total

end Results

theorem less_not_mem_styleSheet : .char '<' ∉ styleSheet := by
  intro member
  obtain ⟨line, listed, inside⟩ := List.mem_flatMap.mp member
  exact (isStyleLine_of_mem line listed).2.1 inside

theorem occurs_framed {title banner content : CodePoints} {n : Nat}
    (heading : .char '<' ∉ title) (above : Occurs issueMark 0 banner)
    (inside : Occurs issueMark n content) : Occurs issueMark n (framed title banner content) := by
  let count (name : String) : Nat := if name = "content" then n else 0
  have places : ∀ name ∈ slotNames frameTemplate,
      Occurs issueMark (count name) (framePlace title banner content name) := by
    simp only [slotNames, frameTemplate, List.forall_mem_cons]
    exact ⟨occurs_of_plain heading, occurs_of_plain less_not_mem_styleSheet, above, inside,
      List.forall_mem_nil _⟩
  have sum : (slotNames frameTemplate).foldr (count · + ·) 0 = n := by
    simp [slotNames, frameTemplate, count]
  have total := occurs_laidOut places isClear_frame
  rwa [sum] at total

def IsReportId (id : String) : Prop :=
  id.toList.length = 32 ∧ ∀ c ∈ id.toList, (hexDigit? c).isSome

-- The characters of a list are tried, not all there are.
instance (id : String) : Decidable (IsReportId id) :=
  @instDecidableAnd _ _ inferInstance (List.decidableBAll _ _)

theorem IsReportId.plain {id : String} (generated : IsReportId id) :
    .char '<' ∉ CodePoints.ofString id := by
  rw [mem_ofString]
  intro member
  exact absurd (generated.2 '<' member) (by decide)

theorem count_issueMark_results {status : Status} (language : String) (result : Assessment)
    {id : String} (generated : IsReportId id)
    (apart : ¬ placeholder "content" <:+: banner status) :
    ∃ page, results (banner status) language result id = .ok page ∧
      occurrences issueMark page = result.issues.length := by
  obtain ⟨content, filled⟩ := fill_results language result id
  have page := results_of_fill filled (banner status)
  rw [replaceAll_of_absent apart] at page
  exact ⟨_, page, (occurs_framed (less_not_mem_escape _) (occurs_banner status)
    (occurs_results language result id generated.plain filled)).count⟩

theorem texts_keep_markup (status : Status) :
    (∀ (id language other : String) (result result' : Assessment),
      result.origin = result'.origin → result.score = result'.score →
        result.summary = result'.summary → List.Forall₂ Alike result.issues result'.issues →
          ∃ page page', results (banner status) language result id = .ok page ∧
            results (banner status) other result' id = .ok page' ∧ markup page = markup page') ∧
    (∀ error error' code code' language language' : String, error ≠ "" → error' ≠ "" →
      (∀ offered ∈ Language.offered, offered.id = language ↔ offered.id = language') →
        ∃ page page', form (banner status) error code language = .ok page ∧
          form (banner status) error' code' language' = .ok page' ∧ markup page = markup page') ∧
    (∀ (id language : String) (result : Assessment), IsReportId id →
      ¬ placeholder "content" <:+: banner status →
        ∃ page, results (banner status) language result id = .ok page ∧
          occurrences issueMark page = result.issues.length) := by
  refine ⟨?_, ?_, ?_⟩
  next =>
    intro id language other result result' origin score summary alike
    exact markup_results (banner status) id language other origin score summary alike
  next =>
    intro error error' code code' language language' some some' same
    exact markup_form (banner status) code code' some some' same
  next =>
    intro id language result generated apart
    exact count_issueMark_results language result generated apart

theorem wild_texts_keep_markup :
    let status : Status := ⟨false, "<div class=\"issue \">", true, "deepseek-reasoner"⟩
    let calm : Assessment := .ofIssues [⟨.error, "Title", "", .high, some 1⟩] 90 "" .ai
    let wild : Assessment := .ofIssues
      [⟨.error, "<div class=\"issue \">", "\x7bcontent\x7d", .high, some 1⟩] 90 "'<'" .ai
    let id := "0000000000000000000000000000001f"
    List.Forall₂ Alike calm.issues wild.issues ∧ IsReportId id ∧
      ¬ placeholder "content" <:+: banner status ∧
      (∃ page page', results (banner status) "java" calm id = .ok page ∧
        results (banner status) "\"'" wild id = .ok page' ∧ markup page = markup page') ∧
      (∃ page page', form (banner status) "Oops" "" "java" = .ok page ∧
        form (banner status) "</p>" "</textarea>" "java" = .ok page' ∧
        markup page = markup page') ∧
      ∃ page, results (banner status) "\"'" wild id = .ok page ∧
        occurrences issueMark page = 1 := by
  intro status calm wild id
  have alike : List.Forall₂ Alike calm.issues wild.issues :=
    .cons ⟨rfl, rfl, rfl⟩ .nil
  have generated : IsReportId id := by decide
  have apart : ¬ placeholder "content" <:+: banner status := by
    rw [← contains_eq_false_iff]
    decide
  obtain ⟨pages, forms, blocks⟩ := texts_keep_markup status
  exact ⟨alike, generated, apart, pages id "java" "\"'" calm wild rfl rfl rfl alike,
    forms "Oops" "</p>" "" "</textarea>" "java" "java" (by decide) (by decide) fun _ _ => .rfl,
    blocks id "\"'" wild generated apart⟩

end ReviewDesk.Page
