import ReviewDesk.Proofs.Java.Walk

set_option autoImplicit false

namespace ReviewDesk.Java

open Text

section Lookahead

variable {tracker : Tracker} {lines later : List SourceLine}

theorem mem_rtake_of_suffix {line : SourceLine} {rest : List SourceLine} {count : Nat}
    (inside : line :: rest <:+ lines) (near : rest.length < count) : line ∈ lines.rtake count := by
  obtain ⟨earlier, rfl⟩ := inside
  have bound : (earlier ++ line :: rest).length - count ≤ earlier.length := by
    rw [List.length_append, List.length_cons]
    omega
  rw [List.rtake, List.drop_append_of_le_length bound]
  exact List.mem_append_right _ List.mem_cons_self

theorem walkBefore_of_quiet_end
    (quiet : ∀ line ∈ lines.rtake lookahead, contains "while(".toList line.trimmed = false) :
    walkBefore later tracker lines = walk tracker lines := by
  refine walkBefore_of_same_loops fun line rest inside => ?_
  by_cases far : lookahead ≤ rest.length
  next =>
    apply lineIssues_of_same_exits
    rw [List.take_append_of_le_length far]
  next => exact lineIssues_of_no_loop (quiet line (mem_rtake_of_suffix inside (by omega)))

theorem walkBefore_of_no_exits (inert : ∀ line ∈ later, exits line = false) :
    walkBefore later tracker lines = walk tracker lines := by
  refine walkBefore_of_same_loops fun line rest _ => lineIssues_of_same_exits ?_
  have none : (later.take (lookahead - rest.length)).any exits = false :=
    List.any_eq_false.mpr fun line member => by simp [inert line (List.mem_of_mem_take member)]
  rw [List.take_append, List.any_append, none, Bool.or_false]

end Lookahead

theorem netBraces_seam (text other : List Char) :
    netBraces (text ++ '\n' :: other) = netBraces text + netBraces other := by
  have newline : netBraces ['\n'] = 0 := by decide
  rw [List.append_cons, netBraces_append, netBraces_append, newline, Int.add_zero]

theorem analyze_append_of_closed (code other : String)
    (closed : (Tracker.fresh.run (sourceLines code.toList)).isOpen = false)
    (quiet : ∀ line ∈ (sourceLines code.toList).rtake 3, ¬ "while(".toList <:+: line.trimmed) :
    let whole := (analyze (code ++ "\n" ++ other) "java").issues
    let first := (analyze code "java").issues
    let second := (analyze other "java").issues
    whole.filter (!·.isTitled "Missing closing brace") =
        first.filter (!·.isTitled "Missing closing brace") ++
          (second.filter (!·.isTitled "Missing closing brace")).map
            (·.moved (lines code.toList).length) ∧
      whole.filter (·.isTitled "Missing closing brace") =
        if code.toList.count '}' + other.toList.count '}' <
            code.toList.count '{' + other.toList.count '{' then
          [missingBrace.onLine (lines (code ++ "\n" ++ other).toList).length]
        else [] := by
  have joined : (code ++ "\n" ++ other).toList = code.toList ++ '\n' :: other.toList := by simp
  have loops : ∀ line ∈ (sourceLines code.toList).rtake lookahead,
      contains "while(".toList line.trimmed = false := by
    intro line near
    exact contains_eq_false_iff.mpr (quiet line near)
  have ended : (Tracker.fresh.run (sourceLines code.toList)).start = none :=
    Option.not_isSome_iff_eq_none.mp (Bool.not_eq_true _ ▸ closed)
  simp only [analyze, RuleSet.ofLanguage, RuleSet.check, check_without_brace, check_brace]
  constructor
  next =>
    have fresh : (Tracker.fresh.moved (lines code.toList).length).start = none := rfl
    rw [joined, sourceLines_append, walk_append, walkBefore_of_quiet_end loops,
      walk_of_closed ended fresh, walk_moved]
  next =>
    have size : (sourceLines (code ++ "\n" ++ other).toList).length =
        (lines (code ++ "\n" ++ other).toList).length := length_numberFrom 0 _
    have surplus : 0 < netOf (sourceLines (code ++ "\n" ++ other).toList) ↔
        code.toList.count '}' + other.toList.count '}' <
          code.toList.count '{' + other.toList.count '{' := by
      rw [netOf_sourceLines, joined, netBraces_seam, netBraces, netBraces]
      omega
    simp only [braceIssues, surplus, size]

theorem seam_after_a_closed_method :
    let code := "public int f() \x7b\n\x7d"
    let whole := (analyze (code ++ "\n" ++ "return x;\nwhile(go) \x7b") "java").issues
    (Tracker.fresh.run (sourceLines code.toList)).isOpen = false ∧
      (∀ line ∈ (sourceLines code.toList).rtake 3, ¬ "while(".toList <:+: line.trimmed) ∧
      whole.filter (!·.isTitled "Missing closing brace") =
        [missingReturn.onLine 1, endlessLoop.onLine 4] ∧
      whole.filter (·.isTitled "Missing closing brace") = [missingBrace.onLine 4] := by
  have closed : (Tracker.fresh.run
      (sourceLines "public int f() \x7b\n\x7d".toList)).isOpen = false := by
    decide +kernel
  have quiet : ∀ line ∈ (sourceLines "public int f() \x7b\n\x7d".toList).rtake 3,
      ¬ "while(".toList <:+: line.trimmed := by
    decide +kernel
  obtain ⟨others, braces⟩ := analyze_append_of_closed _ "return x;\nwhile(go) \x7b" closed quiet
  exact ⟨closed, quiet, others.trans rfl, braces.trans rfl⟩

section Steps

variable {tracker : Tracker} {line : SourceLine}

theorem Tracker.running_of_step (opened : (tracker.step line).1.isOpen = true) :
    0 < (tracker.step line).1.balance := by
  cases entered : (tracker.enter line).isOpen with
  | true =>
    rw [step_of_open _ _ entered, settle] at opened ⊢
    split at opened
    next => simp [isOpen] at opened
    next uneven =>
      rw [if_neg uneven]
      exact Int.not_le.mp uneven
  | false =>
    have closed := Option.not_isSome_iff_eq_none.mp (Bool.not_eq_true _ ▸ entered)
    simp [step, closed, isOpen] at opened

theorem Tracker.running_of_run (lines : List SourceLine)
    (opened : (fresh.run lines).isOpen = true) : 0 < (fresh.run lines).balance := by
  cases lines using List.reverseRecOn with
  | nil => simp [run, fresh, isOpen] at opened
  | append_singleton before last =>
    rw [run_concat] at opened ⊢
    exact running_of_step opened

theorem Tracker.step_of_even (running : tracker.isOpen = true → 0 < tracker.balance)
    (plain : declares line.trimmed = false) (even : netBraces line.raw = 0) :
    (tracker.step line).2 = none := by
  have same : tracker.enter line = tracker := by simp [enter, plain]
  cases opened : tracker.isOpen with
  | true =>
    have uneven : ¬ (tracker.count line).balance ≤ 0 := by
      have positive := running opened
      simp only [count, even]
      omega
    rw [step_of_open _ _ (by rw [same, opened]), same, settle, if_neg uneven]
  | false =>
    have closed := Option.not_isSome_iff_eq_none.mp (Bool.not_eq_true _ ▸ opened)
    rw [step_of_closed _ _ closed plain]

theorem walk_of_even (running : tracker.isOpen = true → 0 < tracker.balance)
    (plain : declares line.trimmed = false) (even : netBraces line.raw = 0) :
    walk tracker [line] = lineIssues line [] := by
  simp [walk, Tracker.step_of_even running plain even]

end Steps

structure Neutral (raw : List Char) : Prop where
  single : '\n' ∉ raw
  even : netBraces raw = 0
  plain : declares (trim isMargin raw) = false
  inert : containsAny loopExits raw = false

theorem Neutral.of_absent {raw : List Char} (single : ∀ c ∈ ['\n', '{', '}'], c ∉ raw)
    (absent : ∀ mark ∈ ["public ", "return", "break", "++", "--"], ¬ mark.toList <:+: raw) :
    Neutral raw where
  single := single '\n' (by simp)
  even := by
    rw [netBraces, List.count_eq_zero_of_not_mem (single '{' (by simp)),
      List.count_eq_zero_of_not_mem (single '}' (by simp))]
    rfl
  plain := by
    have modifier : contains "public ".toList (trim isMargin raw) = false :=
      contains_eq_false_iff.mpr fun found =>
        absent "public " (by simp) (found.trans (trim_within isMargin raw))
    rw [declares, modifier, Bool.false_and, Bool.false_and]
  inert := by
    rw [← Bool.not_eq_true, containsAny_iff]
    rintro ⟨mark, listed, found⟩
    simp only [loopExits, List.mem_cons, List.not_mem_nil, or_false] at listed
    rcases listed with rfl | rfl | rfl | rfl <;> exact absent _ (by simp) found

namespace Neutral

variable {raw : List Char}

theorem lines_eq (neutral : Neutral raw) : sourceLines raw = [⟨0, raw⟩] := by
  rw [sourceLines, lines, List.splitOn_eq_singleton neutral.single]
  rfl

theorem check_alone (neutral : Neutral raw) :
    check (sourceLines raw) = lineIssues ⟨0, raw⟩ [] := by
  have walked : walk .fresh [⟨0, raw⟩] = lineIssues ⟨0, raw⟩ [] :=
    walk_of_even (by simp [Tracker.fresh, Tracker.isOpen]) neutral.plain neutral.even
  rw [check, neutral.lines_eq, walked, braceIssues, netOf, neutral.even]
  simp [netOf]

theorem lines_after (neutral : Neutral raw) (code : List Char) :
    sourceLines (code ++ '\n' :: raw) =
      sourceLines code ++ [SourceLine.moved ⟨0, raw⟩ (lines code).length] := by
  rw [sourceLines_append, neutral.lines_eq]
  rfl

theorem walk_after (neutral : Neutral raw) (code : List Char) :
    walk .fresh (sourceLines (code ++ '\n' :: raw)) =
      walk .fresh (sourceLines code) ++
        (check (sourceLines raw)).map (·.moved (lines code).length) := by
  let last : SourceLine := SourceLine.moved ⟨0, raw⟩ (lines code).length
  have plain : declares last.trimmed = false := neutral.plain
  have even : netBraces last.raw = 0 := neutral.even
  have quiet : ∀ line ∈ [last], exits line = false :=
    List.forall_mem_singleton.mpr neutral.inert
  rw [neutral.lines_after, walk_append, walkBefore_of_no_exits quiet,
    walk_of_even (Tracker.running_of_run _) plain even, neutral.check_alone, ← lineIssues_moved]
  rfl

theorem braces_after (neutral : Neutral raw) (code : List Char) :
    braceIssues (sourceLines (code ++ '\n' :: raw)) =
      (braceIssues (sourceLines code)).map (·.moved 1) := by
  let last : SourceLine := SourceLine.moved ⟨0, raw⟩ (lines code).length
  have even : netOf [last] = 0 := by
    rw [netOf, netOf, Int.add_zero]
    exact neutral.even
  rw [neutral.lines_after, braceIssues, braceIssues, netOf_append, even, Int.add_zero,
    List.length_append, List.length_singleton]
  split <;> simp [Finding.onLine_add]

end Neutral

theorem any_brace (lines : List SourceLine) :
    (check lines).any (·.isTitled "Missing closing brace") = decide (0 < netOf lines) := by
  have titled : ((check lines).any (·.isTitled "Missing closing brace")) =
      !((check lines).filter (·.isTitled "Missing closing brace")).isEmpty := by
    rw [Bool.eq_iff_iff]
    simp
  rw [titled, check_brace, braceIssues]
  by_cases surplus : 0 < netOf lines <;> simp [surplus]

theorem analyze_append_neutral (code line : String)
    (single : ∀ c ∈ ['\n', '{', '}'], c ∉ line.toList)
    (absent : ∀ mark ∈ ["public ", "return", "break", "++", "--"],
      ¬ mark.toList <:+: line.toList) :
    let whole := analyze (code ++ "\n" ++ line) "java"
    let first := analyze code "java"
    let own := analyze line "java"
    let count := (lines code.toList).length
    whole.issues.filter (!·.isTitled "Missing closing brace") =
        first.issues.filter (!·.isTitled "Missing closing brace") ++
          own.issues.map (·.moved count) ∧
      whole.issues.filter (·.isTitled "Missing closing brace") =
        (if first.issues.any (·.isTitled "Missing closing brace") then
          [missingBrace.onLine (count + 1)]
        else []) ∧
      whole.score = max 0 (first.score + own.score - 100) ∧
      (own.issues.map (·.kind) = [.error] → whole.score = max 0 (first.score - 15)) := by
  have neutral := Neutral.of_absent single absent
  have joined : (code ++ "\n" ++ line).toList = code.toList ++ '\n' :: line.toList := by simp
  have walked := neutral.walk_after code.toList
  have braces := neutral.braces_after code.toList
  have sum : penalty ((check (sourceLines (code.toList ++ '\n' :: line.toList))).map (·.kind)) =
      penalty ((check (sourceLines code.toList)).map (·.kind)) +
        penalty ((check (sourceLines line.toList)).map (·.kind)) := by
    have kinds (issues : List Issue) (distance : Nat) :
        (issues.map (·.moved distance)).map (·.kind) = issues.map (·.kind) := by
      rw [List.map_map]
      rfl
    have first : check (sourceLines code.toList) =
        walk .fresh (sourceLines code.toList) ++ braceIssues (sourceLines code.toList) := rfl
    rw [check, walked, braces, first]
    simp only [List.map_append, penalty_append, kinds]
    omega
  have score := score_of_penalty sum
  simp only [analyze, RuleSet.ofLanguage, RuleSet.check, joined, check_without_brace, check_brace,
    any_brace]
  refine ⟨walked, ?_, score, ?_⟩
  next =>
    have size : (sourceLines code.toList).length = (lines code.toList).length :=
      length_numberFrom 0 _
    rw [braces, braceIssues, size]
    by_cases surplus : 0 < netOf (sourceLines code.toList) <;>
      simp [surplus, Finding.onLine_add]
  next =>
    intro error
    rw [score, error]
    simp only [ReviewDesk.score, penalty, Kind.penalty]
    omega

theorem neutral_loop_after_an_open_method :
    let line := "  while(busy())"
    let whole := analyze ("public int f() \x7b\nwhile(go) \x7b" ++ "\n" ++ line) "java"
    (∀ c ∈ ['\n', '{', '}'], c ∉ line.toList) ∧
      (∀ mark ∈ ["public ", "return", "break", "++", "--"], ¬ mark.toList <:+: line.toList) ∧
      whole.issues.filter (!·.isTitled "Missing closing brace") =
        [endlessLoop.onLine 2, endlessLoop.onLine 3, missingSemicolon.onLine 3] ∧
      whole.issues.filter (·.isTitled "Missing closing brace") = [missingBrace.onLine 3] ∧
      whole.score = 40 := by
  have single : ∀ c ∈ ['\n', '{', '}'], c ∉ "  while(busy())".toList := by simp
  have absent : ∀ mark ∈ ["public ", "return", "break", "++", "--"],
      ¬ mark.toList <:+: "  while(busy())".toList := by
    decide +kernel
  obtain ⟨others, braces, score, -⟩ :=
    analyze_append_neutral "public int f() \x7b\nwhile(go) \x7b" _ single absent
  exact ⟨single, absent, others.trans rfl, braces.trans rfl, score.trans (by decide +kernel)⟩

end ReviewDesk.Java
