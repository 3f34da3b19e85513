import ReviewDesk.Proofs.Analysis.Editing
import ReviewDesk.Proofs.Java.Alike

set_option autoImplicit false

namespace ReviewDesk

open Text

structure Padding where
  before : List Char
  after : List Char
  marginal : ∀ c ∈ before ++ after, isMargin c = true ∧ c ≠ '\n'

namespace Padding

variable (padding : Padding) {raw : List Char}

def around (raw : List Char) : List Char := padding.before ++ raw ++ padding.after

def nothing : Padding := ⟨[], [], by simp⟩

def carriageReturn : Padding := ⟨[], ['\r'], by simp [isMargin, isCommonBlank]⟩

theorem before_margin : ∀ c ∈ padding.before, isMargin c = true :=
  fun c member => (padding.marginal c (List.mem_append_left _ member)).1

theorem after_margin : ∀ c ∈ padding.after, isMargin c = true :=
  fun c member => (padding.marginal c (List.mem_append_right _ member)).1

theorem around_inline (single : '\n' ∉ raw) : '\n' ∉ padding.around raw := by
  simp only [around, List.mem_append, not_or]
  exact ⟨⟨fun member => (padding.marginal _ (List.mem_append_left _ member)).2 rfl, single⟩,
    fun member => (padding.marginal _ (List.mem_append_right _ member)).2 rfl⟩

end Padding

def padded (paddings : Nat → Padding) (code : String) : String :=
  editLines (fun index => (paddings index).around) code

def withCarriageReturns (code : String) : String :=
  String.ofList (replaceAll ['\n'] ['\r', '\n'] code.toList)

section CarriageReturns

variable {parts : List (List Char)}

theorem replaceAll_singleton (mark : Char) (substitute text : List Char) :
    replaceAll [mark] substitute text =
      text.flatMap fun c => if c = mark then substitute else [c] := by
  induction text with
  | nil => rfl
  | cons c rest ih =>
    rw [replaceAll] at ih ⊢
    rw [List.flatMap_cons, ← ih, replaceFrom]
    by_cases same : c = mark <;> simp [same, Ne.symm]

theorem unlines_cons (part : List Char) (some : parts ≠ []) :
    unlines (part :: parts) = part ++ '\n' :: unlines parts := by
  obtain ⟨next, rest, rfl⟩ := List.exists_cons_of_ne_nil some
  rw [unlines, List.intercalate_cons_cons, List.append_assoc]
  rfl

theorem replaceAll_unlines (single : ∀ part ∈ parts, '\n' ∉ part) :
    replaceAll ['\n'] ['\r', '\n'] (unlines parts) =
      unlines (parts.mapIdx fun index part =>
        if index + 1 < parts.length then part ++ ['\r'] else part) := by
  induction parts with
  | nil => rfl
  | cons part rest ih =>
    rw [List.forall_mem_cons] at single
    have own : replaceAll ['\n'] ['\r', '\n'] part = part :=
      replaceAll_of_absent fun found => single.1 ((List.singleton_infix_iff '\n' part).mp found)
    by_cases last : rest = []
    next => simp [last, unlines, own]
    next =>
      have more : 0 < rest.length := List.length_pos_iff.mpr last
      have later := ih single.2
      rw [replaceAll_singleton] at own later ⊢
      rw [unlines_cons part last, List.flatMap_append, List.flatMap_cons, own, later,
        List.mapIdx_cons, unlines_cons _ (by simpa using last)]
      simp [more]

theorem withCarriageReturns_eq_padded (code : String) :
    withCarriageReturns code =
      padded (fun index => if index + 1 < (lines code.toList).length then .carriageReturn
        else .nothing) code := by
  have replaced := replaceAll_unlines fun part (listed : part ∈ lines code.toList) =>
    newline_not_mem_line listed
  have same : (fun index part => if index + 1 < (lines code.toList).length then part ++ ['\r']
      else part) = fun index => Padding.around (if index + 1 < (lines code.toList).length
        then .carriageReturn else .nothing) := by
    funext index part
    split <;> simp [Padding.around, Padding.carriageReturn, Padding.nothing]
  rw [unlines_lines, same] at replaced
  rw [withCarriageReturns, replaced, padded, editLines]

end CarriageReturns

section Checks

variable {f : SourceLine → SourceLine}

theorem Python.check_map (numbers : ∀ line, (f line).number = line.number)
    (trimmed : ∀ line, (f line).trimmed = line.trimmed) (lines : List SourceLine) :
    check (lines.map f) = check lines := by
  induction lines with
  | nil => rfl
  | cons line rest ih =>
    have next : (rest.map f).head?.map (·.trimmed) = rest.head?.map (·.trimmed) := by
      cases rest with
      | nil => rfl
      | cons following others => exact congrArg Option.some (trimmed following)
    rw [List.map_cons, check, check, next, ih, trimmed, numbers]

theorem General.filter_task (line : SourceLine) (number : Nat) :
    ((findings line).map (·.onLine number)).filter (·.isTitled "TODO comment found") =
      (raised [(containsAny taskMarks line.trimmed, openTask)]).map (·.onLine number) := by
  have long : (longLine.title == "TODO comment found") = false := by decide
  have task : (openTask.title == "TODO comment found") = true := by decide
  simp only [findings, raised]
  cases containsAny taskMarks line.trimmed <;>
    cases decide (widthLimit < line.raw.length) <;> simp [long, task]

theorem General.filter_check_map (numbers : ∀ line, (f line).number = line.number)
    (trimmed : ∀ line, (f line).trimmed = line.trimmed) (lines : List SourceLine) :
    (check (lines.map f)).filter (·.isTitled "TODO comment found") =
      (check lines).filter (·.isTitled "TODO comment found") := by
  simp only [check, List.flatMap_map, List.filter_flatMap, filter_task, trimmed, numbers]

end Checks

section Lines

variable (paddings : Nat → Padding)

def SourceLine.padded (line : SourceLine) : SourceLine :=
  line.edited fun index => (paddings index).around

variable (line : SourceLine) (lines : List SourceLine)

theorem alike_padded : Java.Alike line (line.padded paddings) :=
  Java.alike_of_margins (paddings line.index).before_margin (paddings line.index).after_margin

theorem trimmed_padded : (line.padded paddings).trimmed = line.trimmed :=
  trim_between_margins (paddings line.index).before_margin (paddings line.index).after_margin

theorem Java.check_padded : check (lines.map (·.padded paddings)) = check lines := by
  have own (line : SourceLine) (following : List SourceLine) :
      lineIssues (line.padded paddings) (following.map (·.padded paddings)) =
        lineIssues line following := by
    simp only [lineIssues, trimmed_padded, loopsForever_map (alike_padded paddings)]
    rfl
  have kept : check (lines.map (·.padded paddings)) = (check lines).filter fun _ => true :=
    check_map_filter (alike_padded paddings) (fun _ _ _ => rfl)
      fun line _ following => by rw [List.filter_true, own]
  rwa [List.filter_true] at kept

theorem RuleSet.check_padded {ruleSet : RuleSet} (special : ruleSet ≠ .general) :
    ruleSet.check (lines.map (·.padded paddings)) = ruleSet.check lines := by
  cases ruleSet with
  | ecma =>
    simp only [check, Ecma.check, List.flatMap_map, trimmed_padded]
    rfl
  | python =>
    exact Python.check_map (f := (·.padded paddings)) (fun _ => rfl) (trimmed_padded paddings) lines
  | java => exact Java.check_padded paddings lines
  | general => exact absurd rfl special

theorem sourceLines_padded (code : String) :
    sourceLines (padded paddings code).toList =
      (sourceLines code.toList).map (·.padded paddings) :=
  sourceLines_editLines (fun index _ => (paddings index).around_inline) code

end Lines

theorem analyze_padded (paddings : Nat → Padding) (code language : String) :
    (RuleSet.ofLanguage language ≠ .general →
      analyze (padded paddings code) language = analyze code language ∧
        analyze (withCarriageReturns code) language = analyze code language) ∧
    (RuleSet.ofLanguage language = .general →
      (analyze (padded paddings code) language).issues.filter (·.isTitled "TODO comment found") =
        (analyze code language).issues.filter (·.isTitled "TODO comment found")) := by
  constructor
  next =>
    intro special
    have same (paddings : Nat → Padding) :
        analyze (padded paddings code) language = analyze code language := by
      rw [analyze, sourceLines_padded, RuleSet.check_padded paddings _ special, analyze]
    exact ⟨same paddings, withCarriageReturns_eq_padded code ▸ same _⟩
  next =>
    intro general
    simp only [analyze, sourceLines_padded, general, RuleSet.check]
    exact General.filter_check_map (f := (·.padded paddings)) (fun _ => rfl)
      (trimmed_padded paddings) _

theorem padded_with_a_mark_and_carriage_returns :
    let paddings : Nat → Padding :=
      fun _ => ⟨['\ufeff', '\t'], [' ', '\r'], by simp [isMargin, isCommonBlank]⟩
    RuleSet.ofLanguage "java" ≠ .general ∧
      (analyze (padded paddings "while(go)\nx\n\x7d") "java").issues =
        [Java.endlessLoop.onLine 1, Java.missingSemicolon.onLine 1] ∧
      (analyze (withCarriageReturns "while(go)\nx\n\x7d") "java").score = 70 ∧
      RuleSet.ofLanguage "go" = .general ∧
      (analyze (padded paddings "x\n// TODO") "go").issues.filter
          (·.isTitled "TODO comment found") = [General.openTask.onLine 2] := by
  have special : RuleSet.ofLanguage "java" ≠ .general := by decide
  have general : RuleSet.ofLanguage "go" = .general := rfl
  let paddings : Nat → Padding :=
    fun _ => ⟨['\ufeff', '\t'], [' ', '\r'], by simp [isMargin, isCommonBlank]⟩
  obtain ⟨padded, returned⟩ := (analyze_padded paddings "while(go)\nx\n\x7d" "java").1 special
  have tasks := (analyze_padded paddings "x\n// TODO" "go").2 general
  refine ⟨special, ?_, ?_, general, tasks.trans rfl⟩
  next => exact (congrArg Analysis.issues padded).trans rfl
  next => exact (congrArg Analysis.score returned).trans rfl

end ReviewDesk
