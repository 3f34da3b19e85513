import ReviewDesk.Proofs.Text.Pieces
import ReviewDesk.Report.Markdown

set_option autoImplicit false

namespace ReviewDesk

open Text Text.CodePoints

section Words

def Kind.heading : Kind → String
  | error => "Error"
  | warning => "Warning"
  | suggestion => "Suggestion"
  | info => "Info"

def Severity.heading : Severity → String
  | high => "High"
  | medium => "Medium"
  | low => "Low"

theorem displayed_kind (kind : Kind) : displayed kind.name = kind.heading := by
  cases kind <;> decide +kernel

theorem displayed_severity (severity : Severity) :
    displayed severity.name = severity.heading := by
  cases severity <;> decide +kernel

theorem Kind.heading_injective : Function.Injective heading := by
  intro kind other same
  cases kind <;> cases other <;> first | rfl | exact absurd same (by decide)

theorem Severity.heading_injective : Function.Injective heading := by
  intro severity other same
  cases severity <;> cases other <;> first | rfl | exact absurd same (by decide)

theorem Origin.label_injective : Function.Injective label := by
  intro origin other same
  cases origin <;> cases other <;> first | rfl | exact absurd same (by decide)

theorem Kind.isAlpha_heading (kind : Kind) : ∀ c ∈ kind.heading.toList, c.isAlpha = true := by
  rw [← List.all_eq_true]
  cases kind <;> decide +kernel

theorem Severity.isAlpha_heading (severity : Severity) :
    ∀ c ∈ severity.heading.toList, c.isAlpha = true := by
  rw [← List.all_eq_true]
  cases severity <;> decide +kernel

end Words

namespace Markdown

variable {rest others : CodePoints}

section Issues

variable {issue other : Issue} {after after' : List CodePoints}

theorem place_append_inj
    (same : ofString issue.place ++ (ofString " · " ++ rest) =
      ofString other.place ++ (ofString " · " ++ others)) :
    issue.line = other.line ∧ rest = others := by
  unfold Issue.place at same
  cases here : issue.line with
  | none =>
    cases there : other.line with
    | none =>
      simp only [here, there] at same
      exact ⟨rfl, List.append_cancel_left (List.append_cancel_left same)⟩
    | some n => simp [here, there, ofString, ofChars] at same
  | some m =>
    cases there : other.line with
    | none => simp [here, there, ofString, ofChars] at same
    | some n =>
      simp only [here, there, ofString_append, List.append_assoc] at same
      obtain ⟨line, after⟩ := int_append_inj rfl (by decide) (List.append_cancel_left same)
      exact ⟨congrArg some line, after⟩

theorem issueLines_append_inj (same : issueLines issue ++ after = issueLines other ++ after') :
    issue = other ∧ after = after' := by
  simp only [issueLines, displayed_kind, displayed_severity, List.append_assoc, List.cons_append,
    List.nil_append, List.cons.injEq, true_and] at same
  obtain ⟨head, title, description, following⟩ := same
  obtain ⟨line, head⟩ := place_append_inj (List.append_cancel_left head)
  obtain ⟨kind, head⟩ :=
    ofString_append_inj issue.kind.isAlpha_heading other.kind.isAlpha_heading rfl (by decide) head
  rw [← List.append_nil (ofString "**")] at head
  obtain ⟨severity, -⟩ := ofString_append_inj issue.severity.isAlpha_heading
    other.severity.isAlpha_heading rfl (by decide) head
  have kind := Kind.heading_injective kind
  have severity := Severity.heading_injective severity
  have description := List.append_cancel_left description
  refine ⟨?_, following⟩
  cases issue
  cases other
  simp_all

theorem flatMap_issueLines_inj {issues issues' : List Issue}
    (same : issues.flatMap issueLines = issues'.flatMap issueLines) : issues = issues' := by
  induction issues generalizing issues' with
  | nil =>
    cases issues' with
    | nil => rfl
    | cons issue more => simp [issueLines] at same
  | cons issue more ih =>
    cases issues' with
    | nil => simp [issueLines] at same
    | cons issue' more' =>
      obtain ⟨first, following⟩ := issueLines_append_inj same
      rw [first, ih following]

theorem issuesBlock_inj {issues issues' : List Issue} (number : issues.length = issues'.length)
    (same : issuesBlock issues = issuesBlock issues') : issues = issues' := by
  cases issues with
  | nil => exact (List.eq_nil_of_length_eq_zero number.symm).symm
  | cons issue more =>
    cases issues' with
    | nil => cases number
    | cons issue' more' => exact flatMap_issueLines_inj same

end Issues

section Sections

variable {result result' : Assessment}

theorem countLine_inj (same : ofString (countLine result) = ofString (countLine result')) :
    result.issues.length = result'.issues.length ∧
      ∀ kind, result.count kind = result'.count kind := by
  have same : ofString (countLine result) ++ [] = ofString (countLine result') ++ [] :=
    congrArg (· ++ []) same
  unfold countLine at same
  simp only [ofString_append, List.append_assoc] at same
  obtain ⟨number, same⟩ := ofString_append_inj (fun _ => isNumeral_of_mem_nat)
    (fun _ => isNumeral_of_mem_nat) rfl (by decide) (List.append_cancel_left same)
  obtain ⟨errors, same⟩ := int_append_inj rfl (by decide) same
  obtain ⟨warnings, same⟩ := int_append_inj rfl (by decide) same
  obtain ⟨suggestions, same⟩ := int_append_inj rfl (by decide) same
  obtain ⟨infos, -⟩ := int_append_inj rfl (by decide) same
  refine ⟨toString_nat_injective number, fun kind => ?_⟩
  cases kind with
  | error => exact errors
  | warning => exact warnings
  | suggestion => exact suggestions
  | info => exact infos

theorem countLine_ne_heading (result : Assessment) :
    ofString (countLine result) ≠ ofString "## Issues" := by
  unfold countLine
  simp only [ofString_append, List.append_assoc]
  simp [ofString, ofChars]

theorem issueSection_inj (same : issueSection result = issueSection result') :
    (∀ kind, result.count kind = result'.count kind) ∧ result.issues = result'.issues := by
  simp only [issueSection, List.cons.injEq, true_and] at same
  obtain ⟨number, counts⟩ := countLine_inj same.1
  exact ⟨counts, issuesBlock_inj number same.2⟩

-- An explanation may read like a line of counts: what stands two lines below tells them apart.
theorem explained_inj
    (same : explanationLines result.explanation ++ issueSection result =
      explanationLines result'.explanation ++ issueSection result') :
    result.explanation = result'.explanation ∧ issueSection result = issueSection result' := by
  cases said : result.explanation with
  | nil =>
    cases said' : result'.explanation with
    | nil => simpa [said, said', explanationLines] using same
    | cons point' more' =>
      simp only [said, said', explanationLines, issueSection, List.isEmpty_nil, List.isEmpty_cons,
        if_true, Bool.false_eq_true, if_false, List.nil_append, List.cons_append,
        List.cons.injEq] at same
      exact absurd same.2.2.1.symm (countLine_ne_heading result')
  | cons point more =>
    cases said' : result'.explanation with
    | nil =>
      simp only [said, said', explanationLines, issueSection, List.isEmpty_nil, List.isEmpty_cons,
        if_true, Bool.false_eq_true, if_false, List.nil_append, List.cons_append,
        List.cons.injEq] at same
      exact absurd same.2.2.1 (countLine_ne_heading result)
    | cons point' more' => simpa [said, said', explanationLines] using same

theorem openingLines_append_inj {language language' : String} {written : Stamp}
    {after after' : List CodePoints}
    (same : openingLines language result written ++ after =
      openingLines language' result' written ++ after') :
    language = language' ∧ result.origin = result'.origin ∧ result.score = result'.score ∧
      after = after' := by
  simp only [openingLines, List.append_assoc, List.cons_append, List.nil_append, List.cons.injEq,
    true_and] at same
  obtain ⟨title, source, score, following⟩ := same
  have label := (ofString_inj _ _).mp (List.append_cancel_left source)
  obtain ⟨score, -⟩ := int_append_inj rfl (by decide) (List.append_cancel_left score)
  exact ⟨(ofString_inj _ _).mp (List.append_cancel_left title), Origin.label_injective label,
    score, following⟩

end Sections

section Newlines

structure Inline (language : String) (result : Assessment) : Prop where
  language : '\n' ∉ language.toList
  explanation : .char '\n' ∉ result.explanation
  titles : ∀ issue ∈ result.issues, .char '\n' ∉ issue.title
  descriptions : ∀ issue ∈ result.issues, .char '\n' ∉ issue.description

theorem newline_not_mem_stamp (written : Stamp) : .char '\n' ∉ ofString written.text := by
  have digits (n : Nat) : .char '\n' ∉ ofString (Stamp.twoDigits n) := by
    unfold Stamp.twoDigits
    split
    next =>
      rw [ofString_append, List.mem_append, not_or]
      exact ⟨not_mem_ofString rfl (by decide), not_mem_nat rfl n⟩
    next => exact not_mem_nat rfl n
  have dash : .char '\n' ∉ ofString "-" := not_mem_ofString rfl (by decide)
  have colon : .char '\n' ∉ ofString ":" := not_mem_ofString rfl (by decide)
  have blank : .char '\n' ∉ ofString " " := not_mem_ofString rfl (by decide)
  simp only [Stamp.text, ofString_append, List.mem_append, not_or, and_assoc]
  exact ⟨not_mem_int rfl _, dash, digits _, dash, digits _, blank, digits _, colon, digits _, colon,
    digits _⟩

theorem newline_not_mem_place (issue : Issue) : .char '\n' ∉ ofString issue.place := by
  unfold Issue.place
  split
  next line _ =>
    rw [ofString_append, List.mem_append, not_or]
    exact ⟨not_mem_ofString rfl (by decide), not_mem_int rfl line⟩
  next => exact not_mem_ofString rfl (by decide)

theorem newline_not_mem_countLine (result : Assessment) :
    .char '\n' ∉ ofString (countLine result) := by
  unfold countLine
  simp only [ofString_append, List.mem_append, not_or, and_assoc]
  refine ⟨?_, not_mem_nat rfl _, ?_, not_mem_int rfl _, ?_, not_mem_int rfl _, ?_,
    not_mem_int rfl _, ?_, not_mem_int rfl _, ?_⟩
  all_goals exact not_mem_ofString rfl (by decide)

theorem newline_not_mem_issueLines {issue : Issue} (title : .char '\n' ∉ issue.title)
    (description : .char '\n' ∉ issue.description) :
    ∀ line ∈ issueLines issue, .char '\n' ∉ line := by
  have place := newline_not_mem_place issue
  have kind : .char '\n' ∉ ofString issue.kind.heading := by
    cases issue.kind <;> exact not_mem_ofString rfl (by decide)
  have severity : .char '\n' ∉ ofString issue.severity.heading := by
    cases issue.severity <;> exact not_mem_ofString rfl (by decide)
  simp only [issueLines, displayed_kind, displayed_severity, List.forall_mem_cons, List.mem_append,
    not_or, and_assoc]
  refine ⟨?_, place, ?_, kind, ?_, severity, ?_, ?_, title, ?_, ?_, description, ?_,
    List.forall_mem_nil _⟩
  all_goals exact not_mem_ofString rfl (by decide)

variable {language : String} {result : Assessment}

theorem newline_not_mem_openingLines (inside : '\n' ∉ language.toList) (written : Stamp) :
    ∀ line ∈ openingLines language result written, .char '\n' ∉ line := by
  have title : .char '\n' ∉ ofString language := by rwa [mem_ofString]
  have stamp := newline_not_mem_stamp written
  have label : .char '\n' ∉ ofString result.origin.label := by
    cases result.origin <;> exact not_mem_ofString rfl (by decide)
  have rating : .char '\n' ∉ ofString (Rating.ofScore result.score).name := by
    cases Rating.ofScore result.score <;> exact not_mem_ofString rfl (by decide)
  simp only [openingLines, List.forall_mem_cons, List.mem_append, not_or, and_assoc]
  refine ⟨?_, title, ?_, ?_, stamp, ?_, ?_, label, ?_, ?_, not_mem_int rfl _, ?_, rating, ?_, ?_,
    List.forall_mem_nil _⟩
  all_goals exact not_mem_ofString rfl (by decide)

theorem newline_not_mem_issuesBlock {issues : List Issue}
    (titles : ∀ issue ∈ issues, .char '\n' ∉ issue.title)
    (descriptions : ∀ issue ∈ issues, .char '\n' ∉ issue.description) :
    ∀ line ∈ issuesBlock issues, .char '\n' ∉ line := by
  unfold issuesBlock
  split
  next =>
    simp only [List.forall_mem_cons]
    refine ⟨?_, ?_, List.forall_mem_nil _⟩
    all_goals exact not_mem_ofString rfl (by decide)
  next =>
    intro line member
    obtain ⟨issue, listed, inside⟩ := List.mem_flatMap.mp member
    exact newline_not_mem_issueLines (titles issue listed) (descriptions issue listed) line inside

theorem newline_not_mem_report (inline : Inline language result) (written : Stamp) :
    ∀ line ∈ openingLines language result written ++ explanationLines result.explanation ++
      issueSection result, .char '\n' ∉ line := by
  have none : .char '\n' ∉ ofString "" := not_mem_ofString rfl (by decide)
  rw [List.forall_mem_append, List.forall_mem_append]
  refine ⟨⟨newline_not_mem_openingLines inline.language written, ?_⟩, ?_⟩
  next =>
    unfold explanationLines
    split
    next => exact List.forall_mem_nil _
    next => simp [inline.explanation, none]
  next =>
    simp only [issueSection, List.forall_mem_cons]
    exact ⟨newline_not_mem_countLine result, none, not_mem_ofString rfl (by decide), none,
      newline_not_mem_issuesBlock inline.titles inline.descriptions⟩

end Newlines

theorem report_determines {language language' : String} {result result' : Assessment}
    {written : Stamp} (inline : Inline language result) (inline' : Inline language' result')
    (same : report language result written = report language' result' written) :
    language = language' ∧ result.origin = result'.origin ∧ result.score = result'.score ∧
      result.explanation = result'.explanation ∧
      (∀ kind, result.count kind = result'.count kind) ∧ result.issues = result'.issues := by
  have lines := ofLines_inj (newline_not_mem_report inline written)
    (newline_not_mem_report inline' written) (by simp [openingLines]) (by simp [openingLines]) same
  simp only [List.append_assoc] at lines
  obtain ⟨title, source, score, body⟩ := openingLines_append_inj lines
  obtain ⟨explanation, listing⟩ := explained_inj body
  exact ⟨title, source, score, explanation, issueSection_inj listing⟩

theorem imitating_report_determines :
    let issue : Issue := ⟨.info, "**1** issue(s) found", "**File · Info · Low**", .low, some (-1)⟩
    let sparse : Assessment := ⟨[issue], 75, "## Issues", .ai, [("info", 1)]⟩
    let full : Assessment := ⟨[issue], 75, "## Issues", .ai,
      [("other", 7), ("error", 0), ("warning", 0), ("suggestion", 0), ("info", 1)]⟩
    Inline "Go (" sparse ∧ Inline "Go (" full ∧
      (∀ written, report "Go (" sparse written = report "Go (" full written) ∧
      ∀ kind, sparse.count kind = full.count kind := by
  -- The texts read like lines of a report, and the first summary leaves kinds out.
  intro issue sparse full
  have inline : Inline "Go (" sparse := ⟨by decide, by decide, by decide, by decide⟩
  have inline' : Inline "Go (" full := ⟨by decide, by decide, by decide, by decide⟩
  have same (written : Stamp) : report "Go (" sparse written = report "Go (" full written := rfl
  obtain ⟨-, -, -, -, counts, -⟩ :=
    report_determines inline inline' (same ⟨⟨1970, 1, 1⟩, 0, 0, 0⟩)
  exact ⟨inline, inline', same, counts⟩

end Markdown

end ReviewDesk
