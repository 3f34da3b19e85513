import ReviewDesk.Proofs.Analysis.Placement
import ReviewDesk.Proofs.Page.Skeleton
import ReviewDesk.Proofs.Text.Whole
import ReviewDesk.Web.Desk

set_option autoImplicit false

namespace ReviewDesk

open Text

theorem isWhole_written (result : Assessment) :
    (∀ text ∈ Web.Desk.writtenTexts result, IsWhole text) ↔
      IsWhole result.explanation ∧
        ∀ issue ∈ result.issues, IsWhole issue.title ∧ IsWhole issue.description := by
  rw [Web.Desk.writtenTexts, List.forall_mem_append, List.forall_mem_singleton, and_comm,
    List.forall_mem_flatMap]
  simp

section Rules

theorem Java.exists_finding {tracker : Tracker} {lines : List SourceLine} {issue : Issue}
    (found : issue ∈ walk tracker lines) :
    ∃ (finding : Finding) (number : Nat), issue = finding.onLine number := by
  rcases mem_walk found with ⟨number, rfl⟩ | ⟨line, -, finding, -, rfl⟩
  next => exact ⟨_, number, rfl⟩
  next => exact ⟨finding, _, rfl⟩

theorem RuleSet.exists_finding {ruleSet : RuleSet} {lines : List SourceLine} {issue : Issue}
    (found : issue ∈ ruleSet.check lines) :
    ∃ (finding : Finding) (number : Nat), issue = finding.onLine number := by
  cases ruleSet with
  | ecma | general =>
    obtain ⟨line, -, here⟩ := List.mem_flatMap.mp found
    obtain ⟨finding, -, rfl⟩ := List.mem_map.mp here
    exact ⟨finding, _, rfl⟩
  | python =>
    rw [check, Python.check_eq_readAhead] at found
    obtain ⟨line, -, following, finding, -, rfl⟩ := mem_readAhead found
    exact ⟨finding, _, rfl⟩
  | java =>
    rcases List.mem_append.mp found with walked | unclosed
    next => exact Java.exists_finding walked
    next =>
      obtain ⟨-, rfl⟩ := Java.mem_braceIssues.mp unclosed
      exact ⟨Java.missingBrace, _, rfl⟩

-- The rules quote nothing from the code, so what they find can always be sent.
theorem isWhole_heuristic (code language : CodePoints) (explanation : String) :
    ∀ text ∈ Web.Desk.writtenTexts (Heuristic.assess code language explanation),
      IsWhole text := by
  rw [isWhole_written]
  refine ⟨isWhole_ofString explanation, ?_⟩
  intro issue found
  obtain ⟨finding, number, rfl⟩ := RuleSet.exists_finding found
  exact ⟨isWhole_ofString finding.title, isWhole_ofString finding.description⟩

end Rules

namespace Page

theorem isWhole_escape (text : CodePoints) : IsWhole (escape text) ↔ IsWhole text := by
  refine ⟨char_of_escape, fun whole => (isWhole_flatMap _ _).mpr ?_⟩
  intro point member
  cases point with
  | char c => exact isWhole_ofChars _
  | surrogate offset => exact absurd (whole _ member) Bool.false_ne_true

theorem isWhole_laidOut (place : String → CodePoints) (template : Template) :
    IsWhole (laidOut place template) ↔ ∀ name ∈ slotNames template, IsWhole (place name) := by
  induction template with
  | nil => simp [laidOut, slotNames]
  | cons piece rest ih =>
    cases piece with
    | text content =>
      exact (isWhole_append _ _).trans ((and_iff_right (isWhole_ofString content)).trans ih)
    | slot name | formatted name format =>
      rw [slotNames, List.forall_mem_cons, ← ih]
      exact isWhole_append _ _

theorem isWhole_framed (title banner content : CodePoints) :
    IsWhole (framed title banner content) ↔ IsWhole title ∧ IsWhole banner ∧ IsWhole content := by
  have style : IsWhole styleSheet := (isWhole_flatMap _ _).mpr fun line _ => isWhole_ofString line
  rw [framed, isWhole_laidOut]
  simp [slotNames, frameTemplate, framePlace, style]

theorem isWhole_placeholder (name : String) : IsWhole (placeholder name) := by simp [placeholder]

theorem isWhole_banner (status : Status) :
    IsWhole (banner status) ↔ status.available = true ∨ IsWhole status.reason := by
  unfold banner bannerMessage
  split_ifs <;> simp [isWhole_escape, *]

theorem isWhole_issueBlocks (issues : List Issue) :
    IsWhole (issueBlocks issues) ↔
      ∀ issue ∈ issues, IsWhole issue.title ∧ IsWhole issue.description := by
  have block (issue : Issue) :
      IsWhole (issueBlock issue) ↔ IsWhole issue.title ∧ IsWhole issue.description := by
    simp [issueBlock, isWhole_escape]
  cases issues with
  | nil => simp [issueBlocks]
  | cons issue rest =>
    exact (isWhole_flatMap (issue :: rest) issueBlock).trans
      (forall₂_congr fun issue _ => block issue)

theorem isWhole_content {language id : String} {result : Assessment} {content : CodePoints}
    (filled : fill (resultsValues language result id) resultsTemplate = .ok content) :
    IsWhole content ↔ ∀ text ∈ Web.Desk.writtenTexts result, IsWhole text := by
  rw [eq_laidOut_of_fill filled, isWhole_laidOut, isWhole_written]
  simp [slotNames, resultsTemplate, resultsValues, List.lookup_cons, isWhole_escape,
    isWhole_issueBlocks]

theorem html_sent_iff (content : CodePoints) :
    (∃ page, Web.Response.html content = .ok page) ↔ IsWhole content := by
  rw [← sendable_iff, Web.Response.html]
  cases Charset.sendable content <;> simp [Except.map]

theorem results_sent_iff (status : Status) (language : String) (result : Assessment)
    (id : String) :
    (∃ content page, results (banner status) language result id = .ok content ∧
      Web.Response.html content = .ok page) ↔
        (∀ text ∈ Web.Desk.writtenTexts result, IsWhole text) ∧
          (status.available = true ∨ IsWhole status.reason) := by
  obtain ⟨content, filled⟩ := fill_results language result id
  have inside := isWhole_content filled
  have page := results_of_fill filled (banner status)
  have frame : IsWhole (framed (escape "Results")
      (replaceAll (placeholder "content") content (banner status)) content) ↔
        IsWhole content ∧ IsWhole (banner status) := by
    rw [isWhole_framed, isWhole_escape, and_iff_right (isWhole_ofString _), and_comm]
    refine and_congr_right fun whole => ?_
    exact isWhole_replaceAll_iff (placeholder_ne_nil "content") (isWhole_placeholder _) whole _
  rw [page, ← inside, ← isWhole_banner, ← frame, ← html_sent_iff]
  constructor
  next =>
    rintro ⟨_, page, same, sent⟩
    obtain rfl := Except.ok.inj same
    exact ⟨page, sent⟩
  next => exact fun ⟨page, sent⟩ => ⟨_, page, rfl, sent⟩

end Page

namespace Markdown

theorem isWhole_issueLines (issue : Issue) :
    (∀ line ∈ issueLines issue, IsWhole line) ↔
      IsWhole issue.title ∧ IsWhole issue.description := by
  simp [issueLines]

theorem isWhole_report (language : String) (result : Assessment) (written : Stamp) :
    IsWhole (report language result written) ↔
      ∀ text ∈ Web.Desk.writtenTexts result, IsWhole text := by
  have opening : ∀ line ∈ openingLines language result written, IsWhole line := by
    simp [openingLines]
  have explanation : (∀ line ∈ explanationLines result.explanation, IsWhole line) ↔
      IsWhole result.explanation := by
    cases result.explanation <;> simp [explanationLines]
  have issues : (∀ line ∈ issueSection result, IsWhole line) ↔
      ∀ issue ∈ result.issues, IsWhole issue.title ∧ IsWhole issue.description := by
    simp only [issueSection, issuesBlock, List.forall_mem_cons]
    cases result.issues with
    | nil => simp
    | cons issue rest =>
      rw [List.isEmpty_cons, if_neg Bool.false_ne_true, List.forall_mem_flatMap]
      simp [isWhole_issueLines]
  rw [report, isWhole_ofLines, List.forall_mem_append, List.forall_mem_append, explanation, issues,
    isWhole_written]
  exact and_congr_left fun _ => and_iff_right opening

end Markdown

end ReviewDesk
