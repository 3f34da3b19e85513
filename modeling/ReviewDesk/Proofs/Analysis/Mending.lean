import ReviewDesk.Proofs.Analysis.Editing
import ReviewDesk.Proofs.Java.Alike

set_option autoImplicit false

namespace ReviewDesk

open Text

def terminated (raw : List Char) : List Char := trimEnd isMargin raw ++ [';']

def mended (number : Nat) (code : String) : String :=
  editLines (fun index raw => if index + 1 = number then terminated raw else raw) code

section Marks

variable {pattern text : List Char} {patterns : List (List Char)}

theorem contains_concat_semicolon (plain : pattern ≠ [] ∧ ';' ∉ pattern) :
    contains pattern (text ++ [';']) = contains pattern text :=
  contains_congr (infix_concat_iff plain.1 plain.2)

theorem containsAny_concat_semicolon (plain : ∀ pattern ∈ patterns, pattern ≠ [] ∧ ';' ∉ pattern) :
    containsAny patterns (text ++ [';']) = containsAny patterns text :=
  containsAny_congr fun pattern listed =>
    infix_concat_iff (plain pattern listed).1 (plain pattern listed).2

end Marks

theorem trim_terminated (raw : List Char) :
    trim isMargin (terminated raw) = trim isMargin raw ++ [';'] :=
  trim_concat rfl raw

theorem terminated_inline {raw : List Char} (single : '\n' ∉ raw) : '\n' ∉ terminated raw := by
  obtain ⟨right, split, -⟩ := exists_margin_after isMargin raw
  rw [split, List.mem_append, not_or] at single
  simpa [terminated] using single.1

namespace Ecma

theorem findings_terminated {text : List Char} (lacks : lacksSemicolon text = true) :
    findings (text ++ [';']) = (findings text).filter (· ≠ missingSemicolon) := by
  have ended : lacksSemicolon (text ++ [';']) = false := by
    simp [lacksSemicolon, isEnded, lineEnds]
  have declaration : contains "var ".toList (text ++ [';']) = contains "var ".toList text :=
    contains_concat_semicolon (by decide)
  have log : contains "console.log".toList (text ++ [';']) = contains "console.log".toList text :=
    contains_concat_semicolon (by decide)
  have function : contains "function ".toList (text ++ [';']) = contains "function ".toList text :=
    contains_concat_semicolon (by decide)
  have generator : contains "function*".toList (text ++ [';']) = contains "function*".toList text :=
    contains_concat_semicolon (by decide)
  simp only [findings, ended, lacks, declaration, log, function, generator, raised]
  cases contains "var ".toList text <;> cases contains "console.log".toList text <;>
    cases contains "function ".toList text && !contains "function*".toList text <;> decide

end Ecma

namespace Java

theorem className_of_absent {text : List Char} (absent : contains "class ".toList text = false) :
    className text = [] := by
  rw [← afterFirst?_isSome, Option.isSome_eq_false_iff, Option.isNone_iff_eq_none] at absent
  rw [className, absent]
  rfl

-- The mark is no part of a class name, since a line that lacks it names no class.
theorem findings_terminated {text : List Char} (lacks : lacksSemicolon text = true) :
    findings (text ++ [';']) = (findings text).filter (· ≠ missingSemicolon) := by
  have ended : lacksSemicolon (text ++ [';']) = false := by
    simp [lacksSemicolon, isEnded, lineEnds]
  have suffix : initialisesSuffix (text ++ [';']) = initialisesSuffix text :=
    contains_concat_semicolon (by decide)
  have printing : prints (text ++ [';']) = prints text := contains_concat_semicolon (by decide)
  have unnamed : contains "class ".toList text = false := by
    have header : containsAny headerWords text = false := by
      simp only [lacksSemicolon, Bool.and_eq_true, Bool.not_eq_true'] at lacks
      exact lacks.1.2
    exact Bool.not_eq_true _ ▸ List.any_eq_false.mp header _ (by simp [headerWords])
  have stillUnnamed : contains "class ".toList (text ++ [';']) = false :=
    (contains_concat_semicolon (by decide)).trans unnamed
  simp only [findings, ended, lacks, suffix, printing, className_of_absent unnamed,
    className_of_absent stillUnnamed, raised]
  cases initialisesSuffix text <;> cases prints text <;> decide

theorem loopsForever_terminated (text : List Char) (following : List SourceLine) :
    loopsForever (text ++ [';']) following = loopsForever text following := by
  have loop : contains "while(".toList (text ++ [';']) = contains "while(".toList text :=
    contains_concat_semicolon (by decide)
  have steps : containsAny loopSteps (text ++ [';']) = containsAny loopSteps text :=
    containsAny_concat_semicolon (by decide)
  simp only [loopsForever, loop, steps]

theorem alike_terminated (index : Nat) (raw : List Char) :
    Alike ⟨index, raw⟩ ⟨index, terminated raw⟩ := by
  have trimmed : SourceLine.trimmed ⟨index, terminated raw⟩ =
      SourceLine.trimmed ⟨index, raw⟩ ++ [';'] := trim_terminated raw
  obtain ⟨right, split, after⟩ := exists_margin_after isMargin raw
  constructor
  case index => rfl
  case declared =>
    have modifier (text : List Char) : contains "public ".toList (text ++ [';']) =
        contains "public ".toList text := contains_concat_semicolon (by decide)
    have type (text : List Char) : containsAny returnTypes (text ++ [';']) =
        containsAny returnTypes text := containsAny_concat_semicolon (by decide)
    have parameters (text : List Char) : (text ++ [';']).contains '(' = text.contains '(' := by
      simp
    simp only [trimmed, declares, modifier, type, parameters]
  case void => rw [trimmed, contains_concat_semicolon (by decide)]
  case returned => rw [trimmed, returns, contains_concat_semicolon (by decide), returns]
  case braces =>
    have mark : netBraces [';'] = 0 := by decide
    have whole : netBraces raw = netBraces (trimEnd isMargin raw) := by
      conv_lhs => rw [split, netBraces_append, netBraces_of_margin after, Int.add_zero]
    rw [terminated, netBraces_append, mark, Int.add_zero, whole]
  case exits =>
    have whole : containsAny loopExits ([] ++ trimEnd isMargin raw ++ right) =
        containsAny loopExits (trimEnd isMargin raw) := containsAny_exits_between (by simp) after
    rw [List.nil_append, ← split] at whole
    rw [exits, exits, terminated, containsAny_concat_semicolon (by decide), whole]

end Java

section Lines

variable {number : Nat} {lines : List SourceLine}

def SourceLine.mended (number : Nat) (line : SourceLine) : SourceLine :=
  line.edited fun index raw => if index + 1 = number then terminated raw else raw

theorem sourceLines_mended (number : Nat) (code : String) :
    sourceLines (mended number code).toList =
      (sourceLines code.toList).map (·.mended number) := by
  apply sourceLines_editLines
  intro index raw single
  split
  next => exact terminated_inline single
  next => exact single

theorem SourceLine.mended_of_number {line : SourceLine} (here : line.number = number) :
    line.mended number = ⟨line.index, terminated line.raw⟩ := by
  rw [SourceLine.number] at here
  rw [mended, edited, if_pos here]

theorem SourceLine.mended_of_other {line : SourceLine} (other : line.number ≠ number) :
    line.mended number = line := by
  rw [SourceLine.number] at other
  rw [mended, edited, if_neg other]

theorem Ecma.check_mended
    (lacking : ∀ line ∈ lines, line.number = number → lacksSemicolon line.trimmed = true) :
    check (lines.map (·.mended number)) =
      (check lines).filter (· ≠ missingSemicolon.onLine number) := by
  rw [check_eq_linewise]
  refine linewise_map_filter fun line inside => ?_
  rw [filter_onLine]
  by_cases here : line.number = number
  next =>
    have trimmed : (line.mended number).trimmed = line.trimmed ++ [';'] := by
      rw [SourceLine.mended_of_number here]
      exact trim_terminated line.raw
    rw [trimmed, if_pos here, findings_terminated (lacking line inside here)]
    rfl
  next => rw [SourceLine.mended_of_other here, if_neg here]

namespace Java

theorem alike_mended (number : Nat) (line : SourceLine) : Alike line (line.mended number) := by
  by_cases here : line.number = number
  next =>
    rw [SourceLine.mended_of_number here]
    exact alike_terminated line.index line.raw
  next =>
    rw [SourceLine.mended_of_other here]
    exact .refl line

theorem check_mended
    (lacking : ∀ line ∈ lines, line.number = number → lacksSemicolon line.trimmed = true) :
    check (lines.map (·.mended number)) =
      (check lines).filter (· ≠ missingSemicolon.onLine number) := by
  apply check_map_filter (alike_mended number)
  next =>
    intro finding listed other
    have different : finding ≠ missingSemicolon := by
      revert finding
      decide
    simp [different]
  next =>
    intro line inside following
    rw [lineIssues, lineIssues, loopsForever_map (alike_mended number), filter_onLine,
      (alike_mended number line).number]
    by_cases here : line.number = number
    next =>
      have trimmed : (line.mended number).trimmed = line.trimmed ++ [';'] := by
        rw [SourceLine.mended_of_number here]
        exact trim_terminated line.raw
      have loop : (raised [(loopsForever line.trimmed following, endlessLoop)]).filter
          (· ≠ missingSemicolon) = raised [(loopsForever line.trimmed following, endlessLoop)] := by
        cases loopsForever line.trimmed following <;> decide
      rw [trimmed, if_pos here, loopsForever_terminated, List.filter_append, loop,
        findings_terminated (lacking line inside here)]
    next => rw [SourceLine.mended_of_other here, if_neg here]

theorem filter_semicolons_line (line : SourceLine) (following : List SourceLine) :
    (lineIssues line following).filter (·.isTitled "Missing semicolon") =
      (raised [(lacksSemicolon line.trimmed, missingSemicolon)]).map (·.onLine line.number) := by
  rw [lineIssues, List.map_append, List.filter_append, findings, filter_titled_raised,
    filter_titled_raised]
  rfl

theorem filter_semicolons_walk (tracker : Tracker) (lines : List SourceLine) :
    (walk tracker lines).filter (·.isTitled "Missing semicolon") =
      reports missingSemicolon (fun line => lacksSemicolon line.trimmed) lines := by
  induction lines generalizing tracker with
  | nil => rfl
  | cons line rest ih =>
    have complaints : ((tracker.step line).2.toList.map missingReturn.onLine).filter
        (·.isTitled "Missing semicolon") = [] := by
      simp [missingReturn]
    simp only [walk, List.filter_append, complaints, filter_semicolons_line, ih, reports_cons,
      List.nil_append]

theorem filter_semicolons (lines : List SourceLine) :
    (check lines).filter (·.isTitled "Missing semicolon") =
      reports missingSemicolon (fun line => lacksSemicolon line.trimmed) lines := by
  have braces : (braceIssues lines).filter (·.isTitled "Missing semicolon") = [] := by
    rw [filter_braceIssues]
    simp [missingBrace]
  rw [check, List.filter_append, filter_semicolons_walk, braces, List.append_nil]

end Java

theorem Ecma.filter_semicolons (lines : List SourceLine) :
    (check lines).filter (·.isTitled "Missing semicolon") =
      reports missingSemicolon (fun line => lacksSemicolon line.trimmed) lines := by
  induction lines with
  | nil => rfl
  | cons line rest ih =>
    have own : ((findings line.trimmed).map (·.onLine line.number)).filter
        (·.isTitled "Missing semicolon") =
        (raised [(lacksSemicolon line.trimmed, missingSemicolon)]).map (·.onLine line.number) := by
      rw [findings, filter_titled_raised]
      rfl
    rw [check] at ih ⊢
    rw [List.flatMap_cons, List.filter_append, own, ih, reports_cons]

end Lines

theorem penalty_filter_ne (issues : List Issue) (issue : Issue) :
    penalty (issues.map (·.kind)) =
      penalty ((issues.filter (· ≠ issue)).map (·.kind)) +
        issues.count issue * issue.kind.penalty := by
  induction issues with
  | nil => simp [penalty]
  | cons first rest ih =>
    by_cases same : first = issue
    next =>
      simp only [List.map_cons, penalty, ih, List.filter_cons, List.count_cons, same]
      simp [Nat.succ_mul]
      omega
    next =>
      simp [penalty, ih, same, Nat.add_assoc]

structure Mends (check : List SourceLine → List Issue) (finding : Finding)
    (lacking : SourceLine → Bool) : Prop where
  listed : ∀ lines, (check lines).filter (·.isTitled "Missing semicolon") =
    reports finding lacking lines
  removed : ∀ lines number, (∀ line ∈ lines, line.number = number → lacking line = true) →
    check (lines.map (·.mended number)) = (check lines).filter (· ≠ finding.onLine number)

theorem Ecma.mends : Mends check missingSemicolon fun line => lacksSemicolon line.trimmed where
  listed := filter_semicolons
  removed _ _ lacking := check_mended lacking

theorem Java.mends : Mends check missingSemicolon fun line => lacksSemicolon line.trimmed where
  listed := filter_semicolons
  removed _ _ lacking := check_mended lacking

theorem Mends.exists_line {check : List SourceLine → List Issue} {finding : Finding}
    {lacking : SourceLine → Bool} (mends : Mends check finding lacking) {code : String}
    {issue : Issue} (reported : issue ∈ check (sourceLines code.toList))
    (titled : issue.isTitled "Missing semicolon" = true) :
    ∃ number, issue = finding.onLine number ∧ 1 ≤ number ∧ number ≤ (lines code.toList).length ∧
      (check (sourceLines code.toList)).count issue = 1 ∧
      check (sourceLines (mended number code).toList) =
        (check (sourceLines code.toList)).filter (· ≠ issue) ∧
      penalty ((check (sourceLines code.toList)).map (·.kind)) =
        penalty ((check (sourceLines (mended number code).toList)).map (·.kind)) +
          finding.kind.penalty := by
  obtain ⟨once, line, inside, lacks, rfl⟩ := report_of_titled (mends.listed _) reported titled
  obtain ⟨positive, bounded⟩ := number_bounds inside
  have removed : check (sourceLines (mended line.number code).toList) =
      (check (sourceLines code.toList)).filter (· ≠ finding.onLine line.number) := by
    rw [sourceLines_mended]
    refine mends.removed _ _ fun other within same => ?_
    rw [eq_of_number_eq within inside same]
    exact lacks
  refine ⟨line.number, rfl, positive, bounded, once, removed, ?_⟩
  rw [removed, penalty_filter_ne _ (finding.onLine line.number), once, Nat.one_mul]
  rfl

theorem analyze_mended (code language : String) (issue : Issue)
    (reported : issue ∈ (analyze code language).issues)
    (titled : issue.isTitled "Missing semicolon" = true)
    (statements : RuleSet.ofLanguage language = .ecma ∨ RuleSet.ofLanguage language = .java) :
    ∃ number : Nat, issue.line = some (number : Int) ∧
      1 ≤ number ∧ number ≤ (lines code.toList).length ∧
      (analyze code language).issues.count issue = 1 ∧
      (analyze (mended number code) language).issues =
        (analyze code language).issues.filter (· ≠ issue) ∧
      penalty ((analyze code language).issues.map (·.kind)) =
        penalty ((analyze (mended number code) language).issues.map (·.kind)) +
          (if RuleSet.ofLanguage language = .ecma then 8 else 15) := by
  rcases statements with ecma | java
  next =>
    simp only [analyze, ecma, RuleSet.check] at reported ⊢
    obtain ⟨number, rfl, found⟩ := Ecma.mends.exists_line reported titled
    exact ⟨number, rfl, found⟩
  next =>
    simp only [analyze, java, RuleSet.check] at reported ⊢
    obtain ⟨number, rfl, found⟩ := Java.mends.exists_line reported titled
    exact ⟨number, rfl, found⟩

theorem mended_in_the_window_of_a_loop :
    let code := "while(busy())\nx = 1 \t\n"
    let issue := Java.missingSemicolon.onLine 2
    issue ∈ (analyze code "java").issues ∧ issue.isTitled "Missing semicolon" = true ∧
      (RuleSet.ofLanguage "java" = .ecma ∨ RuleSet.ofLanguage "java" = .java) ∧
      (analyze (mended 2 code) "java").issues =
        [Java.endlessLoop.onLine 1, Java.missingSemicolon.onLine 1] := by
  have issues : (analyze "while(busy())\nx = 1 \t\n" "java").issues =
      [Java.endlessLoop.onLine 1, Java.missingSemicolon.onLine 1,
        Java.missingSemicolon.onLine 2] := rfl
  have reported : Java.missingSemicolon.onLine 2 ∈
      (analyze "while(busy())\nx = 1 \t\n" "java").issues := by simp [issues]
  have titled : (Java.missingSemicolon.onLine 2).isTitled "Missing semicolon" = true := by
    simp [Java.missingSemicolon]
  have statements : RuleSet.ofLanguage "java" = .ecma ∨ RuleSet.ofLanguage "java" = .java :=
    .inr rfl
  obtain ⟨number, place, -, -, -, removed, -⟩ :=
    analyze_mended _ _ _ reported titled statements
  obtain rfl : number = 2 := by
    have same := Option.some.inj place
    omega
  refine ⟨reported, titled, statements, removed.trans ?_⟩
  rw [issues]
  simp [Java.endlessLoop, Java.missingSemicolon]

end ReviewDesk
