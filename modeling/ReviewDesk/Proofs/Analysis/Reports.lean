import Mathlib.Data.List.Nodup
import ReviewDesk.Rules.Finding

set_option autoImplicit false

namespace ReviewDesk

open Text

theorem numbers_sourceLines (text : List Char) :
    (sourceLines text).map (·.number) = List.range' 1 (lines text).length := by
  have numbered (index : Nat) (raws : List (List Char)) :
      (numberFrom index raws).map (·.number) = List.range' (index + 1) raws.length := by
    induction raws generalizing index with
    | nil => rfl
    | cons raw rest ih =>
      rw [numberFrom, List.map_cons, ih, List.length_cons, List.range'_succ]
      rfl
  exact numbered 0 (lines text)

def Issue.isTitled (issue : Issue) (title : String) : Bool :=
  issue.title = CodePoints.ofString title

@[simp] theorem Finding.isTitled_onLine (finding : Finding) (number : Nat) (title : String) :
    (finding.onLine number).isTitled title = (finding.title == title) := by
  simp only [Issue.isTitled, onLine, CodePoints.ofString_inj]
  rfl

@[simp] theorem Finding.onLine_inj (finding other : Finding) (number place : Nat) :
    finding.onLine number = other.onLine place ↔ finding = other ∧ number = place := by
  constructor
  next =>
    intro same
    simp only [onLine, Issue.mk.injEq, CodePoints.ofString_inj, Option.some.injEq] at same
    obtain ⟨kind, title, description, severity, line⟩ := same
    refine ⟨?_, by omega⟩
    cases finding
    cases other
    simp_all
  next =>
    rintro ⟨rfl, rfl⟩
    rfl

theorem filter_titled_raised (checks : List (Bool × Finding)) (number : Nat) (title : String) :
    ((raised checks).map (·.onLine number)).filter (·.isTitled title) =
      (raised (checks.filter (·.2.title == title))).map (·.onLine number) := by
  induction checks with
  | nil => rfl
  | cons check rest ih =>
    obtain ⟨holds, finding⟩ := check
    simp only [raised, List.filter_cons, List.filterMap_cons] at ih ⊢
    cases holds <;> cases named : finding.title == title <;> simp [ih, named]

theorem filter_onLine (findings : List Finding) (finding : Finding) (number place : Nat) :
    (findings.map (·.onLine number)).filter (· ≠ finding.onLine place) =
      (if number = place then findings.filter (· ≠ finding) else findings).map
        (·.onLine number) := by
  rw [List.filter_map]
  split <;> simp_all [Function.comp_def]

def reports (finding : Finding) (condition : SourceLine → Bool) (lines : List SourceLine) :
    List Issue :=
  (lines.filter condition).map fun line => finding.onLine line.number

theorem reports_cons (finding : Finding) (condition : SourceLine → Bool) (line : SourceLine)
    (rest : List SourceLine) :
    reports finding condition (line :: rest) =
      (raised [(condition line, finding)]).map (·.onLine line.number) ++
        reports finding condition rest := by
  cases holds : condition line <;> simp [reports, raised, holds]

theorem nodup_numbers (text : List Char) : ((sourceLines text).map (·.number)).Nodup := by
  rw [numbers_sourceLines]
  exact List.nodup_range'

theorem number_bounds {text : List Char} {line : SourceLine} (inside : line ∈ sourceLines text) :
    1 ≤ line.number ∧ line.number ≤ (lines text).length := by
  have listed := List.mem_map_of_mem (f := (·.number)) inside
  rw [numbers_sourceLines, List.mem_range'_1] at listed
  omega

theorem eq_of_number_eq {text : List Char} {line other : SourceLine}
    (inside : line ∈ sourceLines text) (within : other ∈ sourceLines text)
    (same : line.number = other.number) : line = other :=
  List.inj_on_of_nodup_map (nodup_numbers text) inside within same

theorem nodup_reports (finding : Finding) (condition : SourceLine → Bool) (text : List Char) :
    (reports finding condition (sourceLines text)).Nodup := by
  have kept := (nodup_numbers text).sublist
    ((List.filter_sublist (p := condition)).map (·.number))
  have placed := List.Nodup.map
    (fun number other same => ((finding.onLine_inj finding number other).mp same).2) kept
  rwa [List.map_map] at placed

theorem report_of_titled {finding : Finding} {condition : SourceLine → Bool} {text : List Char}
    {issues : List Issue} {issue : Issue} {title : String}
    (listed : issues.filter (·.isTitled title) = reports finding condition (sourceLines text))
    (found : issue ∈ issues) (titled : issue.isTitled title = true) :
    issues.count issue = 1 ∧
      ∃ line ∈ sourceLines text, condition line = true ∧ issue = finding.onLine line.number := by
  have member : issue ∈ reports finding condition (sourceLines text) :=
    listed ▸ List.mem_filter.mpr ⟨found, titled⟩
  have once : issues.count issue = 1 := by
    rw [← List.count_filter (p := (·.isTitled title)) titled, listed]
    exact List.count_eq_one_of_mem (nodup_reports finding condition text) member
  obtain ⟨line, kept, rfl⟩ := List.mem_map.mp member
  obtain ⟨inside, holds⟩ := List.mem_filter.mp kept
  exact ⟨once, line, inside, holds, rfl⟩

end ReviewDesk
