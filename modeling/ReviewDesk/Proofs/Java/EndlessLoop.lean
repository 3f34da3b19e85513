import ReviewDesk.Proofs.Analysis.Placement

set_option autoImplicit false

namespace ReviewDesk.Java

open Text

structure NeverExits (raws : List (List Char)) (index : Nat) : Prop where
  enters : ∃ raw, raws[index]? = some raw ∧ "while(".toList <:+: trim isMargin raw ∧
    ∀ mark ∈ ["++", "--", "i+", "i-"], ¬ mark.toList <:+: trim isMargin raw
  stays : ∀ later, index < later → later ≤ index + 3 → ∀ raw, raws[later]? = some raw →
    ∀ mark ∈ ["++", "--", "break", "return"], ¬ mark.toList <:+: raw

structure StaysInLoop (raw : List Char) (later : List (List Char)) : Prop where
  enters : "while(".toList <:+: trim isMargin raw
  unstepped : ∀ mark ∈ ["++", "--", "i+", "i-"], ¬ mark.toList <:+: trim isMargin raw
  stays : ∀ near ∈ later.take 3, ∀ mark ∈ ["++", "--", "break", "return"], ¬ mark.toList <:+: near

section Places

theorem mem_take_drop_iff {α : Type} {item : α} {items : List α} {index count : Nat} :
    item ∈ (items.drop (index + 1)).take count ↔
      ∃ place, index < place ∧ place ≤ index + count ∧ items[place]? = some item := by
  rw [List.mem_iff_getElem?]
  constructor
  next =>
    rintro ⟨distance, there⟩
    rw [List.getElem?_take, List.getElem?_drop] at there
    split_ifs at there with close
    exact ⟨index + 1 + distance, by omega, by omega, there⟩
  next =>
    rintro ⟨place, after, within, there⟩
    obtain ⟨distance, rfl⟩ := Nat.exists_eq_add_of_le (Nat.succ_le_of_lt after)
    refine ⟨distance, ?_⟩
    rw [List.getElem?_take, List.getElem?_drop, if_pos (by omega)]
    exact there

theorem neverExits_iff {raws : List (List Char)} {index : Nat} :
    NeverExits raws index ↔
      ∃ raw, raws[index]? = some raw ∧ StaysInLoop raw (raws.drop (index + 1)) := by
  constructor
  next =>
    rintro ⟨⟨raw, here, enters, unstepped⟩, stays⟩
    refine ⟨raw, here, enters, unstepped, ?_⟩
    intro near ahead
    obtain ⟨place, after, within, there⟩ := mem_take_drop_iff.mp ahead
    exact stays place after within near there
  next =>
    rintro ⟨raw, here, enters, unstepped, stays⟩
    refine ⟨⟨raw, here, enters, unstepped⟩, ?_⟩
    intro place after within near there
    exact stays near (mem_take_drop_iff.mpr ⟨place, after, within, there⟩)

theorem exists_line_iff (text : List Char) (index : Nat)
    (holds : List Char → List (List Char) → Prop) :
    (∃ before line rest, sourceLines text = before ++ line :: rest ∧
      holds line.raw (rest.map (·.raw)) ∧ line.number = index + 1) ↔
        ∃ raw, (lines text)[index]? = some raw ∧ holds raw ((lines text).drop (index + 1)) := by
  have raws : (sourceLines text).map (·.raw) = lines text := raw_numberFrom 0 _
  constructor
  next =>
    rintro ⟨before, line, rest, split, held, number⟩
    have place := number_of_sourceLines split
    obtain rfl : index = before.length := by omega
    have after : ((sourceLines text).map (·.raw)).drop (before.length + 1) =
        rest.map (·.raw) := by
      rw [split, List.append_cons, List.map_append]
      exact List.drop_left' (by simp)
    exact ⟨line.raw, by simp [← raws, split], by rwa [← raws, after]⟩
  next =>
    rintro ⟨raw, here, held⟩
    rw [← raws, List.getElem?_map, Option.map_eq_some_iff] at here
    obtain ⟨line, here, rfl⟩ := here
    obtain ⟨inside, rfl⟩ := List.getElem?_eq_some_iff.mp here
    have split : sourceLines text = (sourceLines text).take index ++
        (sourceLines text)[index] :: (sourceLines text).drop (index + 1) := by simp
    rw [← raws, ← List.map_drop] at held
    refine ⟨_, _, _, split, held, ?_⟩
    rw [number_of_sourceLines split, List.length_take, Nat.min_eq_left (Nat.le_of_lt inside)]

end Places

section Reports

variable {line : SourceLine} {following lines : List SourceLine} {place : Option Int}

theorem not_containsAny_iff {marks : List (List Char)} {text : List Char} :
    containsAny marks text = false ↔ ∀ mark ∈ marks, ¬ mark <:+: text := by
  rw [← Bool.not_eq_true, containsAny_iff]
  simp

theorem loopsForever_iff :
    loopsForever line.trimmed following = true ↔
      StaysInLoop line.raw (following.map (·.raw)) := by
  have read : loopsForever line.trimmed following = true ↔ "while(".toList <:+: line.trimmed ∧
      (∀ mark ∈ loopSteps, ¬ mark <:+: line.trimmed) ∧
      ∀ near ∈ following.take lookahead, ∀ mark ∈ loopExits, ¬ mark <:+: near.raw := by
    simp only [loopsForever, Bool.and_eq_true, Bool.not_eq_true', contains_iff, exits_window,
      not_containsAny_iff, List.any_eq_false, exits, Bool.not_eq_true, and_assoc]
  rw [read]
  constructor
  next =>
    rintro ⟨enters, unstepped, stays⟩
    refine ⟨enters, by simpa [loopSteps, SourceLine.trimmed] using unstepped, ?_⟩
    simpa [loopExits, lookahead, ← List.map_take] using stays
  next =>
    rintro ⟨enters, unstepped, stays⟩
    refine ⟨enters, by simpa [loopSteps, SourceLine.trimmed] using unstepped, ?_⟩
    simpa [loopExits, lookahead, ← List.map_take] using stays

theorem endlessLoop_mem_ownFindings :
    endlessLoop ∈ ownFindings line following ↔ loopsForever line.trimmed following = true := by
  simp [ownFindings, findings, mem_raised, endlessLoop, suffixIndex, missingSemicolon,
    classNaming, consoleOutput]

theorem eq_endlessLoop_of_titled {finding : Finding} (listed : finding ∈ ownFindings line following)
    (titled : finding.title = "Potential infinite loop") : finding = endlessLoop := by
  obtain ⟨known, member, same⟩ := mem_lineIssues (List.mem_map_of_mem listed)
  obtain ⟨rfl, -⟩ := (finding.onLine_inj known _ _).mp same
  have only : ∀ finding ∈ lineFindings,
      finding.title = "Potential infinite loop" → finding = endlessLoop := by decide
  exact only finding member titled

theorem exists_endlessLoop_iff :
    (∃ issue ∈ check lines,
      issue.isTitled "Potential infinite loop" = true ∧ issue.line = place) ↔
      ∃ before line rest, lines = before ++ line :: rest ∧
        loopsForever line.trimmed rest = true ∧ some (line.number : Int) = place := by
  constructor
  next =>
    rintro ⟨issue, found, titled, rfl⟩
    rcases List.mem_append.mp found with walked | unclosed
    next =>
      rcases List.mem_append.mp ((walk_perm _ _).mem_iff.mp walked) with complained | own
      next =>
        obtain ⟨number, -, rfl⟩ := List.mem_map.mp complained
        simp [missingReturn] at titled
      next =>
        obtain ⟨before, line, rest, split, finding, listed, rfl⟩ := mem_readAhead_iff.mp own
        rw [Finding.isTitled_onLine, beq_iff_eq] at titled
        obtain rfl := eq_endlessLoop_of_titled listed titled
        exact ⟨before, line, rest, split, endlessLoop_mem_ownFindings.mp listed, rfl⟩
    next =>
      obtain ⟨-, rfl⟩ := mem_braceIssues.mp unclosed
      simp [missingBrace] at titled
  next =>
    rintro ⟨before, line, rest, split, forever, rfl⟩
    refine ⟨endlessLoop.onLine line.number, List.mem_append_left _ ?_, by simp [endlessLoop], rfl⟩
    rw [(walk_perm _ _).mem_iff, List.mem_append, mem_readAhead_iff]
    exact .inr ⟨before, line, rest, split, endlessLoop, endlessLoop_mem_ownFindings.mpr forever, rfl⟩

end Reports

theorem endless_loop_iff (text : List Char) (index : Nat) :
    (∃ issue ∈ check (sourceLines text), issue.isTitled "Potential infinite loop" = true ∧
      issue.line = some ((index : Int) + 1)) ↔ NeverExits (lines text) index := by
  have numbered (number : Nat) :
      some (number : Int) = some ((index : Int) + 1) ↔ number = index + 1 := by
    rw [Option.some.injEq]
    omega
  rw [exists_endlessLoop_iff, neverExits_iff, ← exists_line_iff]
  simp only [loopsForever_iff, numbered]

end ReviewDesk.Java
