import Mathlib.Data.List.Forall2
import ReviewDesk.Page.Form
import ReviewDesk.Page.Results
import ReviewDesk.Proofs.Page.Assembly
import ReviewDesk.Proofs.Text.Occurrences

set_option autoImplicit false

namespace ReviewDesk.Page

open Text

def markup (text : CodePoints) : CodePoints := text.filter (·.satisfies isMarkup)

@[simp] theorem markup_append (text other : CodePoints) :
    markup (text ++ other) = markup text ++ markup other := List.filter_append ..

@[simp] theorem markup_escape (text : CodePoints) : markup (escape text) = [] :=
  filter_isMarkup_escape text

def markupOf (values : Values) : Values := values.map fun value => (value.1, markup value.2)

theorem lookup_markupOf (values : Values) (name : String) :
    (markupOf values).lookup name = (values.lookup name).map markup := by
  induction values with
  | nil => rfl
  | cons value rest ih =>
    rw [markupOf, List.map_cons, List.lookup_cons, List.lookup_cons, ← markupOf, ih]
    split <;> rfl

theorem map_markup_prepend (part : CodePoints) (filled : Except FillFault CodePoints) :
    (filled.map (part ++ ·)).map markup = (filled.map markup).map (markup part ++ ·) := by
  cases filled <;> simp [Except.map]

theorem markup_fill {values others : Values} (same : markupOf values = markupOf others)
    (template : Template) :
    (fill values template).map markup = (fill others template).map markup := by
  have agree (name : String) :
      (values.lookup name).map markup = (others.lookup name).map markup := by
    rw [← lookup_markupOf, ← lookup_markupOf, same]
  induction template with
  | nil => rfl
  | cons piece rest ih =>
    cases piece with
    | text content => rw [fill, fill, map_markup_prepend, map_markup_prepend, ih]
    | slot name =>
      have here := agree name
      cases found : values.lookup name <;> cases found' : others.lookup name <;>
        simp only [found, found', Option.map_none, Option.map_some, reduceCtorEq,
          Option.some.injEq] at here
      next => simp only [fill, found, found']
      next => simp only [fill, found, found', map_markup_prepend, here, ih]
    | formatted name format =>
      have here := agree name
      cases found : values.lookup name <;> cases found' : others.lookup name <;>
        simp only [found, found', Option.map_none, Option.map_some, reduceCtorEq] at here
      next => simp only [fill, found, found']
      next => simp only [fill, found, found']

theorem markup_assemble {content other : CodePoints} (same : markup content = markup other)
    (title banner : CodePoints) :
    markup (assemble title banner content) = markup (assemble title banner other) :=
  filter_replaceFrom same 0 _

theorem markup_render {template : Template} {values others : Values} {content content' : CodePoints}
    (banner : CodePoints) (filled : fill values template = .ok content)
    (filled' : fill others template = .ok content') (title : pageTitle values = pageTitle others)
    (same : markupOf values = markupOf others) :
    ∃ page page', render template values banner = .ok page ∧
      render template others banner = .ok page' ∧ markup page = markup page' := by
  have inside := markup_fill same template
  rw [filled, filled'] at inside
  refine ⟨assemble (pageTitle values) banner content, assemble (pageTitle others) banner content',
    by rw [render, filled]; rfl, by rw [render, filled']; rfl, ?_⟩
  rw [title]
  exact markup_assemble (Except.ok.inj inside) _ _

section Results

def Alike (issue other : Issue) : Prop :=
  issue.kind = other.kind ∧ issue.severity = other.severity ∧ issue.line = other.line

theorem markup_issueBlock {issue other : Issue} (alike : Alike issue other) :
    markup (issueBlock issue) = markup (issueBlock other) := by
  obtain ⟨kind, severity, line⟩ := alike
  simp only [issueBlock, Issue.place, markup_append, markup_escape, kind, severity, line]

theorem markup_issueBlocks {issues others : List Issue}
    (alike : List.Forall₂ Alike issues others) :
    markup (issueBlocks issues) = markup (issueBlocks others) := by
  have blocks : markup (issues.flatMap issueBlock) = markup (others.flatMap issueBlock) := by
    induction alike with
    | nil => rfl
    | cons first _ ih =>
      rw [List.flatMap_cons, List.flatMap_cons, markup_append, markup_append, ih,
        markup_issueBlock first]
  cases alike with
  | nil => rfl
  | cons => exact blocks

theorem fill_results (language : String) (result : Assessment) (id : String) :
    ∃ content, fill (resultsValues language result id) resultsTemplate = .ok content := ⟨_, rfl⟩

theorem results_of_fill {language id : String} {result : Assessment} {content : CodePoints}
    (filled : fill (resultsValues language result id) resultsTemplate = .ok content)
    (banner : CodePoints) :
    results banner language result id =
      .ok (framed (escape "Results") (replaceAll (placeholder "content") content banner)
        content) := by
  have page := render_of_fill filled banner
  have title : givenTitle (resultsValues language result id) = "Results" := rfl
  have clear : .char '{' ∉ CodePoints.ofString "Results" := not_mem_ofString rfl (by decide)
  rwa [title, reread_escape_of_clear clear] at page

theorem markup_results (banner : CodePoints) (id language other : String)
    {result result' : Assessment} (origin : result.origin = result'.origin)
    (score : result.score = result'.score) (summary : result.summary = result'.summary)
    (alike : List.Forall₂ Alike result.issues result'.issues) :
    ∃ page page', results banner language result id = .ok page ∧
      results banner other result' id = .ok page' ∧ markup page = markup page' := by
  obtain ⟨content, filled⟩ := fill_results language result id
  obtain ⟨content', filled'⟩ := fill_results other result' id
  refine markup_render banner filled filled' rfl ?_
  simp only [markupOf, resultsValues, List.map_cons, List.map_nil, markup_escape, origin, score,
    Assessment.count, summary, alike.length_eq, markup_issueBlocks alike]

end Results

section Forms

theorem fill_form (error code language : String) :
    ∃ content, fill (formValues error code language) formTemplate = .ok content := ⟨_, rfl⟩

theorem languageOptions_congr {language other : String}
    (same : ∀ offered ∈ Language.offered, offered.id = language ↔ offered.id = other) :
    languageOptions language = languageOptions other := by
  rw [languageOptions, languageOptions]
  refine List.flatMap_congr fun offered member => ?_
  simp only [languageOption, same offered member]

theorem markup_form (banner : CodePoints) {error error' language language' : String}
    (code code' : String) (some : error ≠ "") (some' : error' ≠ "")
    (same : ∀ offered ∈ Language.offered, offered.id = language ↔ offered.id = language') :
    ∃ page page', form banner error code language = .ok page ∧
      form banner error' code' language' = .ok page' ∧ markup page = markup page' := by
  obtain ⟨content, filled⟩ := fill_form error code language
  obtain ⟨content', filled'⟩ := fill_form error' code' language'
  refine markup_render banner filled filled' rfl ?_
  simp only [markupOf, formValues, List.map_cons, List.map_nil, markup_escape, errorBlock,
    if_neg some, if_neg some', markup_append, languageOptions_congr same]

end Forms

end ReviewDesk.Page
