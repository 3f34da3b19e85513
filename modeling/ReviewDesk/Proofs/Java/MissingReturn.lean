import Mathlib.Data.List.Nodup
import ReviewDesk.Proofs.Java.Method
import ReviewDesk.Rules.Java

set_option autoImplicit false

namespace ReviewDesk.Java

open Text

section Words

variable {text : List Char}

def IsDeclaration (text : List Char) : Prop :=
  "public ".toList <:+: text ∧
    (∃ word ∈ ["int ", "String ", "void ", "boolean ", "double ", "float "],
      word.toList <:+: text) ∧
    '(' ∈ text

def IsVoid (text : List Char) : Prop := "void".toList <:+: text

def HasReturn (text : List Char) : Prop := "return ".toList <:+: text

theorem declares_iff : declares text = true ↔ IsDeclaration text := by
  simp [declares, IsDeclaration, returnTypes, containsAny, contains_iff, and_assoc]

theorem declares_eq_false_iff : declares text = false ↔ ¬ IsDeclaration text := by
  rw [← Bool.not_eq_true, declares_iff]

theorem void_eq_false_iff : contains "void".toList text = false ↔ ¬ IsVoid text := by
  rw [← Bool.not_eq_true, contains_iff, IsVoid]

theorem returns_iff : returns text = true ↔ HasReturn text := contains_iff _ _

theorem returns_eq_false_iff : returns text = false ↔ ¬ HasReturn text := by
  rw [← Bool.not_eq_true, returns_iff]

end Words

-- Numbers count from one.
def stretch (lines : List SourceLine) (first last : Nat) : List SourceLine :=
  (lines.take last).drop (first - 1)

def netBetween (lines : List SourceLine) (first last : Nat) : Int :=
  let raws := (stretch lines first last).flatMap (·.raw)
  raws.count '{' - raws.count '}'

def LacksReturn (lines : List SourceLine) (first : Nat) : Prop :=
  (∃ line ∈ stretch lines first first, IsDeclaration line.trimmed ∧ ¬ IsVoid line.trimmed) ∧
  ∃ last, first ≤ last ∧ last ≤ lines.length ∧
    netBetween lines first last ≤ 0 ∧
    (∀ number, first ≤ number → number < last → 0 < netBetween lines first number) ∧
    (∀ line ∈ stretch lines (first + 1) last, ¬ IsDeclaration line.trimmed) ∧
    ∀ line ∈ stretch lines first last, ¬ HasReturn line.trimmed

structure ClosesOn (lines : List SourceLine) (first last : Nat) : Prop where
  declared : ∃ line ∈ stretch lines first first, IsDeclaration line.trimmed
  within : first ≤ last
  bounded : last ≤ lines.length
  ended : netBetween lines first last ≤ 0
  deep : ∀ number, first ≤ number → number < last → 0 < netBetween lines first number
  alone : ∀ line ∈ stretch lines (first + 1) last, ¬ IsDeclaration line.trimmed

theorem ClosesOn.le {lines : List SourceLine} {first last place : Nat}
    (closes : ClosesOn lines first last) (after : first ≤ place)
    (ended : netBetween lines first place ≤ 0) : last ≤ place := by
  by_contra early
  have running := closes.deep place after (by omega)
  omega

theorem ClosesOn.unique {lines : List SourceLine} {first last other : Nat}
    (closes : ClosesOn lines first last) (again : ClosesOn lines first other) : other = last :=
  Nat.le_antisymm (again.le closes.within closes.ended) (closes.le again.within again.ended)

section Stretches

theorem netBetween_eq (lines : List SourceLine) (first last : Nat) :
    netBetween lines first last = netOf (stretch lines first last) := by
  have joined (part : List SourceLine) : netBraces (part.flatMap (·.raw)) = netOf part := by
    induction part with
    | nil => rfl
    | cons line rest ih => rw [List.flatMap_cons, netBraces_append, netOf, ih]
  exact joined _

theorem stretch_of_split (earlier after : List SourceLine) (first : SourceLine)
    {part more : List SourceLine} (inside : part <+: more) :
    stretch (earlier ++ first :: more ++ after) (earlier.length + 1)
      (earlier.length + 1 + part.length) = first :: part := by
  obtain ⟨others, rfl⟩ := inside
  have reach : earlier.length + 1 + part.length = earlier.length + (part.length + 1) := by omega
  rw [stretch, List.append_assoc, reach, List.take_append, Nat.add_sub_cancel_left]
  simp

theorem stretch_first (earlier after : List SourceLine) (first : SourceLine)
    (more : List SourceLine) :
    stretch (earlier ++ first :: more ++ after) (earlier.length + 1) (earlier.length + 1) =
      [first] :=
  stretch_of_split earlier after first more.nil_prefix

theorem stretch_succ {lines : List SourceLine} {number last : Nat} (positive : 0 < number) :
    stretch lines (number + 1) last = (stretch lines number last).tail := by
  rw [stretch, stretch, List.tail_drop, Nat.add_sub_cancel, Nat.sub_add_cancel positive]

theorem exists_split {lines : List SourceLine} {number last : Nat} (positive : 0 < number)
    (within : number ≤ last) (bounded : last ≤ lines.length) :
    ∃ earlier first more after, lines = earlier ++ first :: more ++ after ∧
      number = earlier.length + 1 ∧ last = earlier.length + 1 + more.length := by
  have start : (lines.take last).take (number - 1) = lines.take (number - 1) := by
    rw [List.take_take, Nat.min_eq_left (by omega)]
  have cut : lines.take (number - 1) ++ stretch lines number last ++ lines.drop last = lines := by
    rw [stretch, ← start, List.take_append_drop, List.take_append_drop]
  have size : (stretch lines number last).length = last - (number - 1) := by
    rw [stretch, List.length_drop, List.length_take, Nat.min_eq_left bounded]
  have before : (lines.take (number - 1)).length = number - 1 := by
    rw [List.length_take, Nat.min_eq_left (by omega)]
  cases body : stretch lines number last with
  | nil =>
    rw [body, List.length_nil] at size
    omega
  | cons first more =>
    rw [body] at cut size
    rw [List.length_cons] at size
    exact ⟨_, first, more, _, cut.symm, by omega, by omega⟩

theorem closesOn_iff (lines : List SourceLine) (number last : Nat) :
    ClosesOn lines number last ↔ ∃ earlier first more after,
      lines = earlier ++ first :: more ++ after ∧ number = earlier.length + 1 ∧
        last = earlier.length + 1 + more.length ∧ Method first more ∧
        netOf (first :: more) ≤ 0 := by
  constructor
  next =>
    intro closes
    obtain ⟨line, here, declared⟩ := closes.declared
    have positive : 0 < number := by
      by_contra zero
      simp [stretch, Nat.eq_zero_of_not_pos zero] at here
    obtain ⟨earlier, first, more, after, rfl, rfl, rfl⟩ :=
      exists_split positive closes.within closes.bounded
    have whole := stretch_of_split earlier after first more.prefix_refl
    have alone := closes.alone
    have ended := closes.ended
    simp only [← declares_eq_false_iff] at alone
    rw [← declares_iff] at declared
    rw [stretch_first, List.mem_singleton] at here
    rw [stretch_succ positive, whole, List.tail_cons] at alone
    rw [netBetween_eq, whole] at ended
    refine ⟨earlier, first, more, after, rfl, rfl, rfl, ⟨here ▸ declared, alone, ?_⟩, ended⟩
    intro part inside proper
    have shorter : part.length < more.length :=
      Nat.lt_of_le_of_ne inside.length_le fun same => proper (inside.eq_of_length same)
    have depth := closes.deep (earlier.length + 1 + part.length) (by omega) (by omega)
    rwa [netBetween_eq, stretch_of_split _ _ _ inside] at depth
  next =>
    rintro ⟨earlier, first, more, after, rfl, rfl, rfl, method, ended⟩
    have whole := stretch_of_split earlier after first more.prefix_refl
    refine ⟨⟨first, ?_, declares_iff.mp method.declared⟩, by omega, ?_, ?_, ?_, ?_⟩
    next => rw [stretch_first]; exact List.mem_singleton_self first
    next => simp; omega
    next => rw [netBetween_eq, whole]; exact ended
    next =>
      intro reached after_start before_end
      have size : (more.take (reached - (earlier.length + 1))).length =
          reached - (earlier.length + 1) := by rw [List.length_take]; omega
      have inside := List.take_prefix (reached - (earlier.length + 1)) more
      have place : reached = earlier.length + 1 + (more.take (reached - (earlier.length + 1))).length := by
        omega
      rw [place, netBetween_eq, stretch_of_split _ _ _ inside]
      apply method.deep _ inside
      intro all
      rw [all] at size
      omega
    next =>
      rw [stretch_succ (by omega), whole]
      exact fun line member => declares_eq_false_iff.mp (method.alone line member)

theorem lacksReturn_iff (lines : List SourceLine) (number : Nat) :
    LacksReturn lines number ↔ ∃ earlier first more after,
      lines = earlier ++ first :: more ++ after ∧ number = earlier.length + 1 ∧
        Method first more ∧ netOf (first :: more) ≤ 0 ∧
        contains "void".toList first.trimmed = false ∧
        ∀ line ∈ first :: more, returns line.trimmed = false := by
  constructor
  next =>
    rintro ⟨⟨line, here, declared, wanted⟩, last, within, bounded, ended, deep, alone, silent⟩
    have closes : ClosesOn lines number last :=
      ⟨⟨line, here, declared⟩, within, bounded, ended, deep, alone⟩
    obtain ⟨earlier, first, more, after, rfl, rfl, rfl, method, even⟩ :=
      (closesOn_iff _ _ _).mp closes
    rw [stretch_first, List.mem_singleton] at here
    rw [stretch_of_split earlier after first more.prefix_refl] at silent
    simp only [← void_eq_false_iff, ← returns_eq_false_iff] at wanted silent
    exact ⟨earlier, first, more, after, rfl, rfl, method, even, here ▸ wanted, silent⟩
  next =>
    rintro ⟨earlier, first, more, after, rfl, rfl, method, even, wanted, silent⟩
    have closes := (closesOn_iff _ _ _).mpr
      ⟨earlier, first, more, after, rfl, rfl, rfl, method, even⟩
    simp only [void_eq_false_iff, returns_eq_false_iff] at wanted silent
    refine ⟨⟨first, ?_, declares_iff.mp method.declared, wanted⟩, _, closes.within,
      closes.bounded, closes.ended, closes.deep, closes.alone, ?_⟩
    next => rw [stretch_first]; exact List.mem_singleton_self first
    next => rw [stretch_of_split earlier after first more.prefix_refl]; exact silent

end Stretches

namespace Tracker

def complaints (tracker : Tracker) : List SourceLine → List Nat
  | [] => []
  | line :: rest => (tracker.step line).2.toList ++ (tracker.step line).1.complaints rest

theorem mem_complaints (tracker : Tracker) (lines : List SourceLine) (start : Nat) :
    start ∈ tracker.complaints lines ↔ ∃ before line after, lines = before ++ line :: after ∧
      ((tracker.run before).step line).2 = some start := by
  induction lines generalizing tracker with
  | nil => simp [complaints]
  | cons line rest ih =>
    simp only [complaints, List.mem_append, Option.mem_toList, ih]
    constructor
    next =>
      rintro (here | ⟨before, other, after, rfl, later⟩)
      next => exact ⟨[], line, rest, rfl, here⟩
      next => exact ⟨line :: before, other, after, rfl, later⟩
    next =>
      rintro ⟨before, other, after, split, complained⟩
      cases before with
      | nil =>
        obtain ⟨rfl, -⟩ := List.cons.inj split
        exact .inl complained
      | cons first before =>
        obtain ⟨rfl, inside⟩ := List.cons.inj split
        exact .inr ⟨before, other, after, inside, complained⟩

theorem settle_complains (first : SourceLine) (more : List SourceLine) (start : Nat) :
    (following first more).settle.2 = some start ↔
      netOf (first :: more) ≤ 0 ∧ contains "void".toList first.trimmed = false ∧
        (∀ line ∈ first :: more, returns line.trimmed = false) ∧ first.number = start := by
  have silence : (following first more).hasReturn = false ↔
      ∀ line ∈ first :: more, returns line.trimmed = false := by
    simp only [following, List.any_eq_false, Bool.not_eq_true]
  by_cases ended : netOf (first :: more) ≤ 0
  next =>
    have even : (following first more).balance ≤ 0 := ended
    have value : (following first more).returnsValue = !contains "void".toList first.trimmed := rfl
    rw [settle, if_pos even, complaint?, value, ← silence]
    cases (following first more).hasReturn <;>
      cases contains "void".toList first.trimmed <;> simp [following, ended]
  next =>
    have uneven : ¬ (following first more).balance ≤ 0 := ended
    simp [settle, if_neg uneven, ended]

theorem method_of_complaint {text : List Char} {before after : List SourceLine}
    {line : SourceLine} {start : Nat} (split : sourceLines text = before ++ line :: after)
    (complained : ((fresh.run before).step line).2 = some start) :
    ∃ earlier first more, before ++ [line] = earlier ++ first :: more ∧
      start = earlier.length + 1 ∧ Method first more ∧ netOf (first :: more) ≤ 0 ∧
      contains "void".toList first.trimmed = false ∧
      ∀ line ∈ first :: more, returns line.trimmed = false := by
  rcases step_cases before line with ⟨-, quiet⟩ | ⟨earlier, first, more, same, method, stepped⟩
  next => simp [quiet] at complained
  next =>
    rw [stepped, settle_complains] at complained
    obtain ⟨ended, wanted, silent, rfl⟩ := complained
    have whole : sourceLines text = earlier ++ first :: (more ++ after) := by
      rw [split, List.append_cons, same, List.append_assoc, List.cons_append]
    exact ⟨earlier, first, more, same, number_of_sourceLines whole, method, ended, wanted, silent⟩

theorem mem_complaints_iff (text : List Char) (number : Nat) :
    number ∈ fresh.complaints (sourceLines text) ↔ LacksReturn (sourceLines text) number := by
  rw [mem_complaints, lacksReturn_iff]
  constructor
  next =>
    rintro ⟨before, line, after, split, complained⟩
    obtain ⟨earlier, first, more, same, place, found⟩ := method_of_complaint split complained
    refine ⟨earlier, first, more, after, ?_, place, found⟩
    rw [split, List.append_cons, same]
  next =>
    rintro ⟨earlier, first, more, after, whole, rfl, method, ended, wanted, silent⟩
    have place := number_of_sourceLines (whole.trans (List.append_assoc ..))
    have nonempty : earlier ++ first :: more ≠ [] := by simp
    have same := List.dropLast_append_getLast nonempty
    refine ⟨(earlier ++ first :: more).dropLast, (earlier ++ first :: more).getLast nonempty,
      after, ?_, ?_⟩
    next =>
      conv_lhs => rw [whole, ← same]
      simp
    next =>
      rw [step_method _ method same, settle_complains]
      exact ⟨ended, wanted, silent, by omega⟩

theorem start_of_enter (tracker : Tracker) (line : SourceLine) (start : Nat)
    (opened : (tracker.enter line).start = some start) :
    tracker.start = some start ∨ start = line.number := by
  unfold enter at opened
  split at opened
  next => exact .inr (Option.some.inj opened).symm
  next => exact .inl opened

theorem start_of_step (tracker : Tracker) (line : SourceLine) (start : Nat)
    (opened : (tracker.step line).1.start = some start) :
    tracker.start = some start ∨ start = line.number := by
  cases entered : (tracker.enter line).isOpen with
  | true =>
    rw [step_of_open _ _ entered, settle] at opened
    split at opened
    next => simp at opened
    next => exact start_of_enter tracker line start opened
  | false =>
    have closed := Option.not_isSome_iff_eq_none.mp (Bool.not_eq_true _ ▸ entered)
    simp [step, closed] at opened

theorem start_of_complaint (tracker : Tracker) (line : SourceLine) (start : Nat)
    (complained : (tracker.step line).2 = some start) :
    (tracker.step line).1.start = none ∧ (tracker.start = some start ∨ start = line.number) := by
  cases entered : (tracker.enter line).isOpen with
  | true =>
    rw [step_of_open _ _ entered, settle, complaint?] at complained ⊢
    split at complained
    next ended =>
      rw [if_pos ended]
      split at complained
      next => exact ⟨rfl, start_of_enter tracker line start complained⟩
      next => simp at complained
    next => simp at complained
  | false =>
    have closed := Option.not_isSome_iff_eq_none.mp (Bool.not_eq_true _ ▸ entered)
    simp [step, closed] at complained

-- A start is never later than the line that closes its method, and the next method starts after
-- that line.
theorem complaints_increase (raws : List (List Char)) (index : Nat) (tracker : Tracker)
    (past : ∀ start, tracker.start = some start → start ≤ index) :
    (tracker.complaints (numberFrom index raws)).Pairwise (· < ·) ∧
      ∀ start ∈ tracker.complaints (numberFrom index raws),
        tracker.start = some start ∨ index < start := by
  induction raws generalizing index tracker with
  | nil => simp [numberFrom, complaints]
  | cons raw rest ih =>
    have here : (SourceLine.mk index raw).number = index + 1 := rfl
    have later : ∀ start, (tracker.step ⟨index, raw⟩).1.start = some start → start ≤ index + 1 := by
      intro start opened
      rcases start_of_step _ _ _ opened with held | new
      next => exact Nat.le_succ_of_le (past start held)
      next => omega
    obtain ⟨increasing, bounds⟩ := ih (index + 1) (tracker.step ⟨index, raw⟩).1 later
    simp only [numberFrom, complaints, List.pairwise_append, List.mem_append, Option.mem_toList]
    refine ⟨⟨?_, increasing, ?_⟩, ?_⟩
    next => cases (tracker.step ⟨index, raw⟩).2 <;> simp
    next =>
      intro start complained other member
      obtain ⟨closed, place⟩ := start_of_complaint _ _ _ complained
      have bound : start ≤ index + 1 := by
        rcases place with held | new
        next => exact Nat.le_succ_of_le (past start held)
        next => omega
      rcases bounds other member with open_ | after
      next => simp [closed] at open_
      next => omega
    next =>
      rintro start (complained | member)
      next =>
        rcases (start_of_complaint _ _ _ complained).2 with held | new
        next => exact .inl held
        next => right; omega
      next =>
        rcases bounds start member with opened | after
        next =>
          rcases start_of_step _ _ _ opened with held | new
          next => exact .inl held
          next => right; omega
        next => right; omega

end Tracker

section Titles

def lineFindings : List Finding :=
  [endlessLoop, suffixIndex, missingSemicolon, classNaming, consoleOutput]

theorem mem_lineIssues {line : SourceLine} {following : List SourceLine} {issue : Issue}
    (member : issue ∈ lineIssues line following) :
    ∃ finding ∈ lineFindings, issue = finding.onLine line.number := by
  obtain ⟨finding, raised, rfl⟩ := List.mem_map.mp member
  refine ⟨finding, ?_, rfl⟩
  simp only [findings, List.mem_append, mem_raised, List.mem_cons, List.not_mem_nil,
    or_false, Prod.mk.injEq] at raised
  simp only [lineFindings, List.mem_cons, List.not_mem_nil, or_false]
  tauto

def isMissingReturn (issue : Issue) : Bool :=
  issue.title = CodePoints.ofString "Missing return statement"

theorem not_isMissingReturn (finding : Finding) (number : Nat)
    (other : finding ∈ missingBrace :: lineFindings) :
    isMissingReturn (finding.onLine number) = false := by
  revert finding
  simp [isMissingReturn, Finding.onLine, lineFindings, endlessLoop, suffixIndex,
    missingSemicolon, classNaming, consoleOutput, missingBrace]

end Titles

theorem filter_walk (tracker : Tracker) (lines : List SourceLine) :
    (walk tracker lines).filter isMissingReturn =
      (tracker.complaints lines).map missingReturn.onLine := by
  induction lines generalizing tracker with
  | nil => rfl
  | cons line rest ih =>
    have own : ∀ issue ∈ (tracker.step line).2.toList.map missingReturn.onLine,
        isMissingReturn issue = true := by
      simp [isMissingReturn, missingReturn, Finding.onLine]
    have others : ∀ issue ∈ lineIssues line rest, ¬ isMissingReturn issue = true := by
      intro issue member
      obtain ⟨finding, listed, rfl⟩ := mem_lineIssues member
      simp [not_isMissingReturn finding _ (List.mem_cons_of_mem _ listed)]
    simp only [walk, Tracker.complaints, List.filter_append, List.map_append, ih,
      List.filter_eq_self.mpr own, List.filter_eq_nil_iff.mpr others, List.append_nil]

theorem filter_braceIssues (keep : Issue → Bool) (lines : List SourceLine) :
    (braceIssues lines).filter keep =
      if keep (missingBrace.onLine lines.length) then braceIssues lines else [] := by
  unfold braceIssues
  by_cases unclosed : 0 < netOf lines
  next => rw [if_pos unclosed, List.filter_singleton, Bool.cond_eq_ite]
  next => rw [if_neg unclosed, List.filter_nil, ite_self]

theorem filter_check (lines : List SourceLine) :
    (check lines).filter isMissingReturn =
      (Tracker.fresh.complaints lines).map missingReturn.onLine := by
  have other := not_isMissingReturn missingBrace lines.length List.mem_cons_self
  rw [check, List.filter_append, filter_walk, filter_braceIssues, other,
    if_neg Bool.false_ne_true, List.append_nil]

open Classical in
theorem missing_return_iff (text : List Char) (place : Option Int) :
    (check (sourceLines text)).countP
        (fun issue => issue.line == place && isMissingReturn issue) =
      if ∃ number : Nat, place = some (number : Int) ∧ LacksReturn (sourceLines text) number
      then 1 else 0 := by
  have increasing := (Tracker.complaints_increase (lines text) 0 .fresh (by simp [Tracker.fresh])).1
  rw [← List.countP_filter, filter_check, List.countP_map]
  by_cases numbered : ∃ number : Nat, place = some (number : Int)
  next =>
    obtain ⟨number, rfl⟩ := numbered
    have atLine : ((fun issue : Issue => issue.line == some (number : Int)) ∘
        missingReturn.onLine) = fun start => start == number := by
      funext start
      rw [Bool.eq_iff_iff]
      simp only [Function.comp, Finding.onLine, beq_iff_eq, Option.some.injEq]
      omega
    have same : (∃ other : Nat, some (number : Int) = some (other : Int) ∧
        LacksReturn (sourceLines text) other) ↔
          number ∈ Tracker.fresh.complaints (sourceLines text) := by
      rw [Tracker.mem_complaints_iff]
      constructor
      next =>
        rintro ⟨other, equal, lacks⟩
        have : number = other := by simpa only [Option.some.injEq, Int.natCast_inj] using equal
        exact this ▸ lacks
      next => exact fun lacks => ⟨number, rfl, lacks⟩
    simp only [atLine, same, ← List.count_eq_countP]
    exact increasing.nodup.count
  next =>
    have nowhere : ¬ ∃ number : Nat,
        place = some (number : Int) ∧ LacksReturn (sourceLines text) number := by
      rintro ⟨number, here, -⟩
      exact numbered ⟨number, here⟩
    rw [if_neg nowhere, List.countP_eq_zero]
    intro start _ here
    exact numbered ⟨start, (beq_iff_eq.mp here).symm⟩

end ReviewDesk.Java
