import ReviewDesk.Proofs.Analysis.Placement

set_option autoImplicit false

namespace ReviewDesk

open Text

def Issue.Ordered (relation : Int → Int → Prop) (issue other : Issue) : Prop :=
  ∃ number place, issue.line = some number ∧ other.line = some place ∧ relation number place

@[simp] theorem Finding.ordered_onLine (relation : Int → Int → Prop) (finding other : Finding)
    (number place : Nat) :
    (finding.onLine number).Ordered relation (other.onLine place) ↔ relation number place := by
  simp [Issue.Ordered, onLine]

theorem increasing_sourceLines (text : List Char) :
    (sourceLines text).Pairwise fun line other => line.number < other.number := by
  apply List.pairwise_map.mp
  rw [numbers_sourceLines]
  exact List.pairwise_lt_range'

-- Findings for one line share its number, and those for later lines have a greater one.
theorem ordered_readAhead {findings : SourceLine → List SourceLine → List Finding}
    {lines : List SourceLine}
    (increasing : lines.Pairwise fun line other => line.number < other.number) :
    (readAhead findings lines).Pairwise (·.Ordered (· ≤ ·)) := by
  induction lines with
  | nil => exact List.Pairwise.nil
  | cons line rest ih =>
    obtain ⟨greater, below⟩ := List.pairwise_cons.mp increasing
    apply List.pairwise_append.mpr
    refine ⟨?_, ih below, ?_⟩
    next =>
      apply List.pairwise_map.mpr
      apply List.pairwise_of_forall
      intro finding other
      simp
    next =>
      intro issue here other later
      obtain ⟨finding, -, rfl⟩ := List.mem_map.mp here
      obtain ⟨place, inside, -, following, -, rfl⟩ := mem_readAhead later
      have := greater place inside
      simp only [Finding.ordered_onLine]
      omega

theorem RuleSet.ordered_check {ruleSet : RuleSet} (linear : ruleSet ≠ .java) (text : List Char) :
    (ruleSet.check (sourceLines text)).Pairwise (·.Ordered (· ≤ ·)) := by
  have increasing := increasing_sourceLines text
  cases ruleSet with
  | ecma =>
    rw [check, Ecma.check_eq_linewise, linewise_eq_readAhead]
    exact ordered_readAhead increasing
  | general =>
    rw [check, General.check_eq_linewise, linewise_eq_readAhead]
    exact ordered_readAhead increasing
  | python =>
    rw [check, Python.check_eq_readAhead]
    exact ordered_readAhead increasing
  | java => exact absurd rfl linear

namespace Java

section Kinds

variable {tracker : Tracker} {line : SourceLine} {following lines : List SourceLine} {issue : Issue}

theorem not_isMissingReturn_of_lineIssues (own : issue ∈ lineIssues line following) :
    isMissingReturn issue = false := by
  obtain ⟨finding, listed, rfl⟩ := mem_lineIssues own
  exact not_isMissingReturn finding _ (List.mem_cons_of_mem _ listed)

theorem not_isMissingReturn_of_braceIssues (unclosed : issue ∈ braceIssues lines) :
    isMissingReturn issue = false := by
  obtain ⟨-, rfl⟩ := mem_braceIssues.mp unclosed
  exact not_isMissingReturn missingBrace _ List.mem_cons_self

theorem filter_others_eq_self {issues : List Issue}
    (others : ∀ issue ∈ issues, isMissingReturn issue = false) :
    issues.filter (!isMissingReturn ·) = issues := by
  apply List.filter_eq_self.mpr
  intro issue member
  rw [others issue member, Bool.not_false]

theorem filter_own_walk (tracker : Tracker) (lines : List SourceLine) :
    (walk tracker lines).filter (!isMissingReturn ·) = readAhead ownFindings lines := by
  induction lines generalizing tracker with
  | nil => rfl
  | cons line rest ih =>
    have complained : ((tracker.step line).2.toList.map missingReturn.onLine).filter
        (!isMissingReturn ·) = [] := by
      simp [isMissingReturn, missingReturn, Finding.onLine]
    have own : (lineIssues line rest).filter (!isMissingReturn ·) = lineIssues line rest :=
      filter_others_eq_self fun _ => not_isMissingReturn_of_lineIssues
    rw [walk, List.filter_append, List.filter_append, complained, own, ih]
    rfl

end Kinds

theorem ordered_others (text : List Char) :
    ((check (sourceLines text)).filter (!isMissingReturn ·)).Pairwise (·.Ordered (· ≤ ·)) := by
  have braces : (braceIssues (sourceLines text)).filter (!isMissingReturn ·) =
      braceIssues (sourceLines text) :=
    filter_others_eq_self fun _ => not_isMissingReturn_of_braceIssues
  rw [check, List.filter_append, filter_own_walk, braces]
  apply List.pairwise_append.mpr
  refine ⟨ordered_readAhead (increasing_sourceLines text), ?_, ?_⟩
  next =>
    unfold braceIssues
    split
    next => exact List.pairwise_singleton _ _
    next => exact List.Pairwise.nil
  next =>
    intro issue own other unclosed
    obtain ⟨line, inside, -, finding, -, rfl⟩ := mem_readAhead own
    obtain ⟨-, rfl⟩ := mem_braceIssues.mp unclosed
    have size : (sourceLines text).length = (lines text).length := length_numberFrom 0 _
    have bound := (number_bounds inside).2
    simp only [Finding.ordered_onLine]
    omega

theorem ordered_missingReturns (text : List Char) :
    ((check (sourceLines text)).filter isMissingReturn).Pairwise (·.Ordered (· < ·)) := by
  have increasing := (Tracker.complaints_increase (lines text) 0 .fresh (by simp [Tracker.fresh])).1
  rw [filter_check]
  apply List.pairwise_map.mpr
  apply increasing.imp
  intro number place less
  simpa using less

/-- If the issue is about a missing return statement, its method ends on one line only, and the
earlier issue is on a line before that one. -/
def PrecedesEnd (lines : List SourceLine) (earlier issue : Issue) : Prop :=
  isMissingReturn issue = true → ∃ first last : Nat, issue.line = some (first : Int) ∧
    (∀ other, ClosesOn lines first other ↔ other = last) ∧
    ∃ number : Nat, earlier.line = some (number : Int) ∧ number < last

section Ends

variable {text : List Char} {passed rest : List SourceLine}

theorem closesOn_of_complaint {start : Nat} (split : sourceLines text = passed ++ rest)
    (complained : start ∈ (Tracker.fresh.run passed).complaints rest) :
    ∃ last, passed.length < last ∧ ClosesOn (sourceLines text) start last := by
  obtain ⟨before, line, after, rfl, stepped⟩ := (Tracker.mem_complaints _ _ _).mp complained
  rw [← Tracker.run_append] at stepped
  rw [← List.append_assoc] at split
  obtain ⟨earlier, first, more, same, rfl, method, ended, -⟩ :=
    Tracker.method_of_complaint split stepped
  have whole : sourceLines text = earlier ++ first :: more ++ after := by
    rw [split, List.append_cons, same]
  have size := congrArg List.length same
  simp only [List.length_append, List.length_cons, List.length_nil] at size
  exact ⟨_, by omega, (closesOn_iff _ _ _).mpr
    ⟨earlier, first, more, after, whole, rfl, rfl, method, ended⟩⟩

theorem line_of_complaint {line : SourceLine} {start : Nat}
    (split : sourceLines text = passed ++ line :: rest)
    (complained : ((Tracker.fresh.run passed).step line).2 = some start) :
    start ≤ line.number := by
  obtain ⟨earlier, first, more, same, rfl, -⟩ := Tracker.method_of_complaint split complained
  have size := congrArg List.length same
  simp only [List.length_append, List.length_cons, List.length_nil] at size
  have place := number_of_sourceLines split
  omega

theorem exists_number_le {line : SourceLine} {issue : Issue}
    (split : sourceLines text = passed ++ line :: rest)
    (said : issue ∈ ((Tracker.fresh.run passed).step line).2.toList.map missingReturn.onLine ++
      lineIssues line rest) :
    ∃ number : Nat, issue.line = some (number : Int) ∧ number ≤ line.number := by
  rcases List.mem_append.mp said with reported | own
  next =>
    obtain ⟨number, complained, rfl⟩ := List.mem_map.mp reported
    exact ⟨number, rfl, line_of_complaint split (Option.mem_toList.mp complained)⟩
  next =>
    obtain ⟨finding, -, rfl⟩ := mem_lineIssues own
    exact ⟨line.number, rfl, Nat.le_refl _⟩

theorem precedesEnd_of_other {lines : List SourceLine} {issue : Issue}
    (other : isMissingReturn issue = false) (earlier : Issue) : PrecedesEnd lines earlier issue := by
  intro missing
  rw [other] at missing
  cases missing

-- A report of the lines that are left is about a method that ends among them, so that everything
-- said until now is on a line before its end.
theorem precedesEnd_of_later {earlier issue : Issue} {number : Nat}
    (split : sourceLines text = passed ++ rest) (here : earlier.line = some (number : Int))
    (reached : number ≤ passed.length) (later : issue ∈ walk (Tracker.fresh.run passed) rest) :
    PrecedesEnd (sourceLines text) earlier issue := by
  intro missing
  have listed := List.mem_filter.mpr ⟨later, missing⟩
  rw [filter_walk] at listed
  obtain ⟨start, complained, rfl⟩ := List.mem_map.mp listed
  obtain ⟨last, beyond, closes⟩ := closesOn_of_complaint split complained
  refine ⟨start, last, rfl, fun other => ⟨closes.unique, fun same => same ▸ closes⟩, ?_⟩
  exact ⟨number, here, by omega⟩

theorem precedesEnd_walk (split : sourceLines text = passed ++ rest) :
    (walk (Tracker.fresh.run passed) rest).Pairwise (PrecedesEnd (sourceLines text)) := by
  induction rest generalizing passed with
  | nil => exact List.Pairwise.nil
  | cons line rest ih =>
    have after : sourceLines text = (passed ++ [line]) ++ rest := by rw [split, List.append_cons]
    have place : line.number = (passed ++ [line]).length := by
      rw [number_of_sourceLines split, List.length_append, List.length_singleton]
    simp only [walk, ← Tracker.run_concat]
    apply List.pairwise_append.mpr
    refine ⟨?_, ih after, ?_⟩
    next =>
      -- The report of this line comes first, and no other issue here is about a method.
      apply List.pairwise_append.mpr
      refine ⟨?_, ?_, ?_⟩
      next => cases ((Tracker.fresh.run passed).step line).2 <;> simp
      next =>
        apply List.pairwise_of_forall_mem_list
        intro earlier _ issue own
        exact precedesEnd_of_other (not_isMissingReturn_of_lineIssues own) earlier
      next =>
        intro earlier _ issue own
        exact precedesEnd_of_other (not_isMissingReturn_of_lineIssues own) earlier
    next =>
      intro earlier said issue later
      obtain ⟨number, here, reached⟩ := exists_number_le split said
      exact precedesEnd_of_later after here (place ▸ reached) later

theorem precedesEnd_check (text : List Char) :
    (check (sourceLines text)).Pairwise (PrecedesEnd (sourceLines text)) := by
  have whole : sourceLines text = [] ++ sourceLines text := rfl
  apply List.pairwise_append.mpr
  refine ⟨precedesEnd_walk whole, ?_, ?_⟩
  next =>
    apply List.pairwise_of_forall_mem_list
    intro earlier _ issue unclosed
    exact precedesEnd_of_other (not_isMissingReturn_of_braceIssues unclosed) earlier
  next =>
    intro earlier _ issue unclosed
    exact precedesEnd_of_other (not_isMissingReturn_of_braceIssues unclosed) earlier

end Ends

end Java

theorem detection_order (text : List Char) :
    (∀ ruleSet : RuleSet, ruleSet ≠ .java →
      (ruleSet.check (sourceLines text)).Pairwise (·.Ordered (· ≤ ·))) ∧
    ((Java.check (sourceLines text)).filter (!Java.isMissingReturn ·)).Pairwise
      (·.Ordered (· ≤ ·)) ∧
    ((Java.check (sourceLines text)).filter Java.isMissingReturn).Pairwise (·.Ordered (· < ·)) ∧
    (Java.check (sourceLines text)).Pairwise (Java.PrecedesEnd (sourceLines text)) :=
  ⟨fun _ linear => RuleSet.ordered_check linear text, Java.ordered_others text,
    Java.ordered_missingReturns text, Java.precedesEnd_check text⟩

def backdatedText : List Char :=
  "public int f() \x7b\nSystem.out.println(var x = 1);\n\x7d".toList

theorem backdated_report : ∃ reported said : Issue,
    Java.check (sourceLines backdatedText) = [said, reported] ∧
      Java.isMissingReturn reported = true ∧ reported.line = some 1 ∧ said.line = some 2 ∧
      (∃ last : Nat, 2 < last ∧ Java.ClosesOn (sourceLines backdatedText) 1 last) ∧
      (RuleSet.ecma.check (sourceLines backdatedText)).Pairwise (·.Ordered (· ≤ ·)) := by
  obtain ⟨linear, -, -, backdated⟩ := detection_order backdatedText
  have issues : Java.check (sourceLines backdatedText) =
      [Java.consoleOutput.onLine 2, Java.missingReturn.onLine 1] := by decide +kernel
  have missing : Java.isMissingReturn (Java.missingReturn.onLine 1) = true := by decide +kernel
  rw [issues] at backdated
  obtain ⟨first, last, here, only, number, there, before⟩ :=
    List.rel_of_pairwise_cons backdated List.mem_cons_self missing
  simp only [Finding.onLine, Option.some.injEq] at here there
  obtain rfl : first = 1 := by omega
  obtain rfl : number = 2 := by omega
  exact ⟨_, _, issues, missing, rfl, rfl, ⟨last, before, (only last).mpr rfl⟩,
    linear .ecma (by decide)⟩

end ReviewDesk
