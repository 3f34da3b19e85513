import ReviewDesk.Proofs.Analysis.Concatenation
import ReviewDesk.Proofs.Java.Walk

set_option autoImplicit false

namespace ReviewDesk

open Text

def Issue.Repeats (issue other : Issue) : Prop :=
  issue.title = other.title ∧ issue.line = other.line

theorem Finding.repeats_onLine (finding other : Finding) (number place : Nat) :
    (finding.onLine number).Repeats (other.onLine place) ↔
      finding.title = other.title ∧ number = place := by
  simp only [Issue.Repeats, onLine, CodePoints.ofString_inj, Option.some.injEq, Int.natCast_inj]

structure WellPlaced (count : Nat) (issues : List Issue) : Prop where
  placed : ∀ issue ∈ issues, ∃ number : Nat,
    issue.line = some (number : Int) ∧ 1 ≤ number ∧ number ≤ count
  apart : issues.Pairwise fun issue other => ¬ issue.Repeats other

namespace WellPlaced

variable {count : Nat} {issues others : List Issue}

theorem append (first : WellPlaced count issues) (second : WellPlaced count others)
    (apart : ∀ issue ∈ issues, ∀ other ∈ others, ¬ issue.Repeats other) :
    WellPlaced count (issues ++ others) where
  placed := List.forall_mem_append.mpr ⟨first.placed, second.placed⟩
  apart := List.pairwise_append.mpr ⟨first.apart, second.apart, apart⟩

theorem of_perm (known : WellPlaced count issues) (same : others.Perm issues) :
    WellPlaced count others where
  placed issue member := known.placed issue (same.subset member)
  apart := by
    apply (same.pairwise_iff ?_).mpr known.apart
    intro issue other distinct repeated
    exact distinct ⟨repeated.1.symm, repeated.2.symm⟩

end WellPlaced

theorem nodup_titles_raised {checks : List (Bool × Finding)}
    (distinct : (checks.map (·.2.title)).Nodup) : ((raised checks).map (·.title)).Nodup := by
  have kept : (raised checks).Sublist (checks.map (·.2)) := by
    induction checks with
    | nil => exact List.Sublist.slnil
    | cons check rest ih =>
      have below := ih (List.nodup_cons.mp distinct).2
      cases holds : check.1 with
      | true => simpa [raised, holds] using below
      | false => simpa [raised, holds] using below.cons check.2
  have titles := kept.map (·.title)
  rw [List.map_map] at titles
  exact distinct.sublist titles

section ReadAhead

variable {findings : SourceLine → List SourceLine → List Finding} {lines : List SourceLine}
  {issue : Issue}

def readAhead (findings : SourceLine → List SourceLine → List Finding) :
    List SourceLine → List Issue
  | [] => []
  | line :: rest => (findings line rest).map (·.onLine line.number) ++ readAhead findings rest

theorem mem_readAhead_iff :
    issue ∈ readAhead findings lines ↔ ∃ before line rest, lines = before ++ line :: rest ∧
      ∃ finding ∈ findings line rest, issue = finding.onLine line.number := by
  induction lines with
  | nil => simp [readAhead]
  | cons first others ih =>
    rw [readAhead, List.mem_append, ih]
    constructor
    next =>
      rintro (here | ⟨before, line, rest, rfl, found⟩)
      next =>
        obtain ⟨finding, listed, rfl⟩ := List.mem_map.mp here
        exact ⟨[], first, others, rfl, finding, listed, rfl⟩
      next => exact ⟨first :: before, line, rest, rfl, found⟩
    next =>
      rintro ⟨before, line, rest, split, finding, listed, rfl⟩
      cases before with
      | nil =>
        obtain ⟨rfl, rfl⟩ := List.cons.inj split
        exact .inl (List.mem_map_of_mem listed)
      | cons _ before =>
        obtain ⟨rfl, inside⟩ := List.cons.inj split
        exact .inr ⟨before, line, rest, inside, finding, listed, rfl⟩

theorem mem_readAhead (found : issue ∈ readAhead findings lines) :
    ∃ line ∈ lines, ∃ following, ∃ finding ∈ findings line following,
      issue = finding.onLine line.number := by
  obtain ⟨before, line, rest, rfl, known⟩ := mem_readAhead_iff.mp found
  exact ⟨line, List.mem_append_right _ List.mem_cons_self, rest, known⟩

-- Findings for one line differ in their titles, and findings for two lines in the number.
theorem apart_readAhead
    (titles : ∀ line following, ((findings line following).map (·.title)).Nodup)
    (numbers : (lines.map (·.number)).Nodup) :
    (readAhead findings lines).Pairwise fun issue other => ¬ issue.Repeats other := by
  induction lines with
  | nil => exact List.Pairwise.nil
  | cons line rest ih =>
    obtain ⟨new, below⟩ := List.nodup_cons.mp numbers
    refine List.pairwise_append.mpr ⟨?_, ih below, ?_⟩
    next =>
      apply List.pairwise_map.mpr
      apply (List.pairwise_map.mp (titles line rest)).imp
      intro finding other differ repeated
      exact differ ((finding.repeats_onLine other _ _).mp repeated).1
    next =>
      intro issue here other later repeated
      obtain ⟨finding, -, rfl⟩ := List.mem_map.mp here
      obtain ⟨place, inside, -, following, -, rfl⟩ := mem_readAhead later
      have same := ((finding.repeats_onLine following _ _).mp repeated).2
      exact new (List.mem_map.mpr ⟨place, inside, same.symm⟩)

theorem wellPlaced_readAhead
    (titles : ∀ line following, ((findings line following).map (·.title)).Nodup)
    (text : List Char) :
    WellPlaced (Text.lines text).length (readAhead findings (sourceLines text)) where
  placed := by
    intro issue found
    obtain ⟨line, inside, -, finding, -, rfl⟩ := mem_readAhead found
    exact ⟨line.number, rfl, number_bounds inside⟩
  apart := apart_readAhead titles (nodup_numbers text)

theorem linewise_eq_readAhead (findings : SourceLine → List Finding) (lines : List SourceLine) :
    linewise findings lines = readAhead (fun line _ => findings line) lines := by
  induction lines with
  | nil => rfl
  | cons line rest ih => exact congrArg _ ih

end ReadAhead

theorem Python.check_eq_readAhead (lines : List SourceLine) :
    check lines =
      readAhead (fun line following => findings line.trimmed (following.head?.map (·.trimmed)))
        lines := by
  induction lines with
  | nil => rfl
  | cons line rest ih => exact congrArg _ ih

namespace Java

def ownFindings (line : SourceLine) (following : List SourceLine) : List Finding :=
  raised [(loopsForever line.trimmed following, endlessLoop)] ++ findings line.trimmed

theorem walk_perm (tracker : Tracker) (lines : List SourceLine) :
    (walk tracker lines).Perm
      ((tracker.complaints lines).map missingReturn.onLine ++ readAhead ownFindings lines) := by
  induction lines generalizing tracker with
  | nil => exact .refl _
  | cons line rest ih =>
    have later := ih (tracker.step line).1
    simp only [walk, Tracker.complaints, readAhead, List.map_append, List.append_assoc]
    apply List.Perm.append_left
    exact (later.append_left _).trans (List.perm_append_comm_assoc _ _ _)

theorem nodup_titles_ownFindings (line : SourceLine) (following : List SourceLine) :
    ((ownFindings line following).map (·.title)).Nodup := by
  rw [ownFindings, findings, raised, raised, ← List.filterMap_append]
  exact nodup_titles_raised (show (lineFindings.map (·.title)).Nodup by decide)

theorem bounds_of_complaint {text : List Char} {number : Nat}
    (complained : number ∈ Tracker.fresh.complaints (sourceLines text)) :
    1 ≤ number ∧ number ≤ (lines text).length := by
  rw [Tracker.mem_complaints_iff, lacksReturn_iff] at complained
  obtain ⟨earlier, first, more, after, split, rfl, -⟩ := complained
  have size := congrArg List.length split
  rw [sourceLines, length_numberFrom] at size
  simp only [List.length_append, List.length_cons] at size
  omega

theorem wellPlaced_complaints (text : List Char) :
    WellPlaced (lines text).length
      ((Tracker.fresh.complaints (sourceLines text)).map missingReturn.onLine) where
  placed := by
    intro issue found
    obtain ⟨number, complained, rfl⟩ := List.mem_map.mp found
    exact ⟨number, rfl, bounds_of_complaint complained⟩
  apart := by
    have increasing :=
      (Tracker.complaints_increase (lines text) 0 .fresh (by simp [Tracker.fresh])).1
    apply List.pairwise_map.mpr
    apply increasing.imp
    intro number place less repeated
    have := ((missingReturn.repeats_onLine missingReturn _ _).mp repeated).2
    omega

theorem wellPlaced_walk (text : List Char) :
    WellPlaced (lines text).length (walk .fresh (sourceLines text)) := by
  apply WellPlaced.of_perm _ (walk_perm .fresh (sourceLines text))
  apply (wellPlaced_complaints text).append (wellPlaced_readAhead nodup_titles_ownFindings text)
  intro issue complained other own repeated
  obtain ⟨number, -, rfl⟩ := List.mem_map.mp complained
  obtain ⟨line, -, following, finding, listed, rfl⟩ := mem_readAhead own
  obtain ⟨known, member, same⟩ := mem_lineIssues (List.mem_map_of_mem listed)
  obtain ⟨rfl, -⟩ := (finding.onLine_inj known _ _).mp same
  have differ : ∀ finding ∈ lineFindings, missingReturn.title ≠ finding.title := by decide
  exact differ finding member ((missingReturn.repeats_onLine finding _ _).mp repeated).1

theorem wellPlaced_braceIssues (text : List Char) :
    WellPlaced (lines text).length (braceIssues (sourceLines text)) where
  placed := by
    intro issue unclosed
    obtain ⟨-, rfl⟩ := mem_braceIssues.mp unclosed
    have size : (sourceLines text).length = (lines text).length := length_numberFrom 0 _
    have some := List.length_pos_iff.mpr (lines_ne_nil text)
    exact ⟨(sourceLines text).length, rfl, by omega, by omega⟩
  apart := by
    unfold braceIssues
    split
    next => exact List.pairwise_singleton _ _
    next => exact List.Pairwise.nil

theorem wellPlaced_check (text : List Char) :
    WellPlaced (lines text).length (check (sourceLines text)) := by
  apply (wellPlaced_walk text).append (wellPlaced_braceIssues text)
  intro issue walked other unclosed repeated
  obtain ⟨-, rfl⟩ := mem_braceIssues.mp unclosed
  have titled : issue.isTitled "Missing closing brace" = true := decide_eq_true repeated.1
  rw [walk_not_brace walked] at titled
  exact Bool.false_ne_true titled

end Java

theorem Ecma.nodup_titles (text : List Char) : ((findings text).map (·.title)).Nodup :=
  nodup_titles_raised
    (show ([missingSemicolon, varDeclaration, consoleLog, functionKeyword].map (·.title)).Nodup by
      decide)

theorem General.nodup_titles (line : SourceLine) : ((findings line).map (·.title)).Nodup :=
  nodup_titles_raised (show ([longLine, openTask].map (·.title)).Nodup by decide)

theorem Python.nodup_titles (text : List Char) (next : Option (List Char)) :
    ((findings text next).map (·.title)).Nodup :=
  nodup_titles_raised (show ([missingDocstring, printStatement].map (·.title)).Nodup by decide)

theorem RuleSet.wellPlaced_check (ruleSet : RuleSet) (text : List Char) :
    WellPlaced (lines text).length (ruleSet.check (sourceLines text)) := by
  cases ruleSet with
  | ecma =>
    rw [check, Ecma.check_eq_linewise, linewise_eq_readAhead]
    exact wellPlaced_readAhead (fun line _ => Ecma.nodup_titles line.trimmed) text
  | general =>
    rw [check, General.check_eq_linewise, linewise_eq_readAhead]
    exact wellPlaced_readAhead (fun line _ => General.nodup_titles line) text
  | python =>
    rw [check, Python.check_eq_readAhead]
    exact wellPlaced_readAhead (fun line _ => Python.nodup_titles line.trimmed _) text
  | java => exact Java.wellPlaced_check text

theorem analyze_wellPlaced (code language : String) :
    WellPlaced (code.toList.count '\n' + 1) (analyze code language).issues := by
  rw [← length_lines]
  exact RuleSet.wellPlaced_check _ _

end ReviewDesk
