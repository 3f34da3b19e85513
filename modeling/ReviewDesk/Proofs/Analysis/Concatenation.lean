import ReviewDesk.Analysis
import ReviewDesk.Proofs.Score.Algebra

set_option autoImplicit false

namespace ReviewDesk

open Text

theorem lines_append (text other : List Char) :
    lines (text ++ '\n' :: other) = lines text ++ lines other := by
  simp only [lines, List.splitOn_eq_splitOnP]
  exact List.splitOnP_append_cons text other (by simp)

theorem lines_ne_nil (text : List Char) : lines text ≠ [] := by
  rw [lines, List.splitOn_eq_splitOnP]
  exact List.splitOnP_ne_nil _ text

theorem length_lines (text : List Char) : (lines text).length = text.count '\n' + 1 := by
  induction text with
  | nil => rfl
  | cons c rest ih =>
    rw [lines] at ih ⊢
    rw [List.splitOn_cons_eq_if_modifyHead, List.count_cons]
    split <;> simp [ih]

namespace SourceLine

def moved (line : SourceLine) (distance : Nat) : SourceLine := ⟨line.index + distance, line.raw⟩

@[simp] theorem trimmed_moved (line : SourceLine) (distance : Nat) :
    (line.moved distance).trimmed = line.trimmed := rfl

theorem number_moved (line : SourceLine) (distance : Nat) :
    (line.moved distance).number = line.number + distance := by
  simp only [number, moved]
  omega

end SourceLine

theorem numberFrom_add (index distance : Nat) (raws : List (List Char)) :
    numberFrom (index + distance) raws = (numberFrom index raws).map (·.moved distance) := by
  induction raws generalizing index with
  | nil => rfl
  | cons raw rest ih =>
    have next := ih (index + 1)
    rw [Nat.add_right_comm] at next
    simp [numberFrom, next, SourceLine.moved]

theorem sourceLines_append (text other : List Char) :
    sourceLines (text ++ '\n' :: other) =
      sourceLines text ++ (sourceLines other).map (·.moved (lines text).length) := by
  simp only [sourceLines, lines_append, numberFrom_append, numberFrom_add]

theorem onLine_moved (findings : List Finding) (line : SourceLine) (distance : Nat) :
    findings.map (·.onLine (line.moved distance).number) =
      (findings.map (·.onLine line.number)).map (·.moved distance) := by
  simp [SourceLine.number_moved, Finding.onLine_add]

section Linewise

variable {findings : SourceLine → List Finding}

def linewise (findings : SourceLine → List Finding) (lines : List SourceLine) : List Issue :=
  lines.flatMap fun line => (findings line).map (·.onLine line.number)

theorem linewise_append (lines others : List SourceLine) :
    linewise findings (lines ++ others) = linewise findings lines ++ linewise findings others :=
  List.flatMap_append

theorem linewise_moved
    (blind : ∀ line distance, findings (line.moved distance) = findings line)
    (lines : List SourceLine) (distance : Nat) :
    linewise findings (lines.map (·.moved distance)) =
      (linewise findings lines).map (·.moved distance) := by
  simp [linewise, List.flatMap_map, List.map_flatMap, onLine_moved, blind]

end Linewise

theorem Ecma.check_eq_linewise : check = linewise fun line => findings line.trimmed := rfl

theorem General.check_eq_linewise : check = linewise findings := rfl

namespace Python

theorem check_moved (lines : List SourceLine) (distance : Nat) :
    check (lines.map (·.moved distance)) = (check lines).map (·.moved distance) := by
  induction lines with
  | nil => rfl
  | cons line rest ih =>
    have next : (rest.map (·.moved distance)).head?.map (·.trimmed) =
        rest.head?.map (·.trimmed) := by
      cases rest <;> rfl
    rw [List.map_cons, check, check, next, ih, onLine_moved, List.map_append]
    rfl

-- The line that is looked ahead to is the only thing that `later` can change about what stands
-- before it.
theorem check_around (earlier : List SourceLine) (line : SourceLine) :
    ∃ before, (∀ issue ∈ before, ∃ other ∈ earlier, issue.line = some (other.number : Int)) ∧
      ∀ later, check (earlier ++ line :: later) =
        before ++ (findings line.trimmed (later.head?.map (·.trimmed))).map
          (·.onLine line.number) ++ check later := by
  induction earlier with
  | nil => exact ⟨[], by simp, fun later => by simp [check]⟩
  | cons first rest ih =>
    obtain ⟨before, placed, around⟩ := ih
    let next := ((rest ++ [line]).head?.map (·.trimmed))
    refine ⟨(findings first.trimmed next).map (·.onLine first.number) ++ before, ?_, ?_⟩
    next =>
      intro issue member
      rcases List.mem_append.mp member with own | others
      next =>
        obtain ⟨finding, -, rfl⟩ := List.mem_map.mp own
        exact ⟨first, by simp, rfl⟩
      next =>
        obtain ⟨other, listed, place⟩ := placed issue others
        exact ⟨other, by simp [listed], place⟩
    next =>
      intro later
      have ahead : ((rest ++ line :: later).head?.map (·.trimmed)) = next := by
        cases rest <;> rfl
      rw [List.cons_append, check, ahead, around]
      simp

theorem findings_of_documented {text next : List Char} (function : isPublicFunction text = true)
    (docstring : opensDocstring next = true) :
    findings text none = missingDocstring :: findings text (some next) := by
  simp [findings, lacksDocstring, raised, function, docstring]

theorem findings_of_plain {text next : List Char}
    (plain : ¬ (isPublicFunction text = true ∧ opensDocstring next = true)) :
    findings text (some next) = findings text none := by
  have same : lacksDocstring text (some next) = lacksDocstring text none := by
    cases function : isPublicFunction text <;> simp_all [lacksDocstring]
  simp only [findings, same]

section Seam

variable {earlier rest : List SourceLine} {last : SourceLine} (head : SourceLine)

theorem check_of_plain_seam
    (plain : ¬ (isPublicFunction last.trimmed = true ∧ opensDocstring head.trimmed = true)) :
    check (earlier ++ last :: head :: rest) =
      check (earlier ++ [last]) ++ check (head :: rest) := by
  obtain ⟨before, -, around⟩ := check_around earlier last
  rw [around, around]
  simp [findings_of_plain plain, check]

theorem check_of_documented_seam (below : ∀ line ∈ earlier, line.number < last.number)
    (function : isPublicFunction last.trimmed = true)
    (docstring : opensDocstring head.trimmed = true) :
    (check (earlier ++ [last])).count (missingDocstring.onLine last.number) = 1 ∧
      check (earlier ++ last :: head :: rest) =
        (check (earlier ++ [last])).erase (missingDocstring.onLine last.number) ++
          check (head :: rest) := by
  obtain ⟨before, placed, around⟩ := check_around earlier last
  have absent : missingDocstring.onLine last.number ∉ before := by
    intro member
    obtain ⟨other, listed, place⟩ := placed _ member
    have bound := below other listed
    simp only [Finding.onLine, Option.some.injEq] at place
    omega
  have alone : check (earlier ++ [last]) = before ++ missingDocstring.onLine last.number ::
      (findings last.trimmed (some head.trimmed)).map (·.onLine last.number) := by
    rw [around]
    simp [findings_of_documented function docstring, check]
  have once : missingDocstring.onLine last.number ∉
      (findings last.trimmed (some head.trimmed)).map (·.onLine last.number) := by
    simp [findings, lacksDocstring, docstring, raised, printStatement, missingDocstring,
      Finding.onLine]
  rw [alone]
  constructor
  next => simp [List.count_append, List.count_eq_zero_of_not_mem absent,
      List.count_eq_zero_of_not_mem once]
  next =>
    rw [around, List.erase_append_right _ absent, List.erase_cons_head]
    rfl

end Seam

/-- The second text starts with a docstring for a public function at the end of the first. -/
def DocumentedAcross (code other : String) : Prop :=
  ∃ last ∈ (lines code.toList).getLast?, ∃ first ∈ (lines other.toList).head?,
    "def ".toList <+: trim isMargin last ∧ ¬ "def _".toList <+: trim isMargin last ∧
      ['"', '"', '"'] <+: trim isMargin first

end Python

theorem index_lt_of_mem {index : Nat} {raws : List (List Char)} {line : SourceLine}
    (member : line ∈ numberFrom index raws) : line.index < index + raws.length := by
  induction raws generalizing index with
  | nil => simp [numberFrom] at member
  | cons raw rest ih =>
    rw [List.length_cons]
    rcases List.mem_cons.mp member with rfl | later
    next => exact Nat.lt_add_of_pos_right (Nat.succ_pos _)
    next =>
      have bound := ih later
      omega

theorem exists_last_line (text : List Char) : ∃ earlier last,
    sourceLines text = earlier ++ [last] ∧ last.number = (lines text).length ∧
      (lines text).getLast? = some last.raw ∧ ∀ line ∈ earlier, line.number < last.number := by
  obtain ⟨raws, raw, split⟩ : ∃ raws raw, lines text = raws ++ [raw] :=
    ⟨_, _, (List.dropLast_concat_getLast (lines_ne_nil text)).symm⟩
  rw [sourceLines, split, numberFrom_append]
  refine ⟨numberFrom 0 raws, ⟨0 + raws.length, raw⟩, rfl, by simp [SourceLine.number], by simp, ?_⟩
  intro line member
  have bound := index_lt_of_mem member
  simp only [SourceLine.number]
  omega

theorem exists_first_line (text : List Char) : ∃ first later,
    sourceLines text = first :: later ∧ (lines text).head? = some first.raw := by
  obtain ⟨raw, raws, split⟩ := List.exists_cons_of_ne_nil (lines_ne_nil text)
  rw [sourceLines, split]
  exact ⟨⟨0, raw⟩, numberFrom 1 raws, rfl, rfl⟩

theorem Python.documentedAcross_iff {code other : String} {last first : SourceLine}
    (final : (lines code.toList).getLast? = some last.raw)
    (initial : (lines other.toList).head? = some first.raw) :
    DocumentedAcross code other ↔
      isPublicFunction last.trimmed = true ∧ opensDocstring first.trimmed = true := by
  simp [DocumentedAcross, final, initial, isPublicFunction, opensDocstring, ← startsWith_iff,
    SourceLine.trimmed, and_assoc]

theorem score_joined (issues others : List Issue) (distance : Nat) :
    (score ((issues ++ others.map (·.moved distance)).map (·.kind)) : Int) =
      max 0 ((score (issues.map (·.kind)) : Int) + score (others.map (·.kind)) - 100) := by
  rw [List.map_append, score_append, List.map_map]
  rfl

theorem analyze_append (code other language : String) :
    let whole := analyze (code ++ "\n" ++ other) language
    let first := analyze code language
    let second := analyze other language
    let count := (lines code.toList).length
    let docstring := Python.missingDocstring.onLine count
    (RuleSet.ofLanguage language = .ecma ∨ RuleSet.ofLanguage language = .general →
      whole.issues = first.issues ++ second.issues.map (·.moved count) ∧
        whole.score = max 0 (first.score + second.score - 100)) ∧
    (RuleSet.ofLanguage language = .python →
      (¬ Python.DocumentedAcross code other →
        whole.issues = first.issues ++ second.issues.map (·.moved count)) ∧
      (Python.DocumentedAcross code other →
        first.issues.count docstring = 1 ∧
          whole.issues = first.issues.erase docstring ++ second.issues.map (·.moved count))) := by
  have joined : (code ++ "\n" ++ other).toList = code.toList ++ '\n' :: other.toList := by simp
  simp only [analyze, joined, sourceLines_append]
  constructor
  next =>
    rintro (ecma | general)
    next =>
      simp only [ecma, RuleSet.check, Ecma.check_eq_linewise]
      rw [linewise_append, linewise_moved fun _ _ => rfl]
      exact ⟨rfl, score_joined ..⟩
    next =>
      simp only [general, RuleSet.check, General.check_eq_linewise]
      rw [linewise_append, linewise_moved fun _ _ => rfl]
      exact ⟨rfl, score_joined ..⟩
  next =>
    intro python
    obtain ⟨earlier, last, split, number, final, below⟩ := exists_last_line code.toList
    obtain ⟨first, later, opened, initial⟩ := exists_first_line other.toList
    have seam := Python.documentedAcross_iff final initial
    have moved := Python.check_moved (first :: later) (lines code.toList).length
    simp only [python, RuleSet.check, split, opened, ← number] at moved ⊢
    rw [seam, ← moved]
    constructor
    next =>
      intro plain
      simpa using Python.check_of_plain_seam (first.moved last.number) plain
    next =>
      rintro ⟨function, docstring⟩
      simpa using
        Python.check_of_documented_seam (first.moved last.number) below function docstring

theorem docstring_across_the_seam :
    RuleSet.ofLanguage "python" = .python ∧
      Python.DocumentedAcross "x = 1\ndef print():" " \"\"\"Doc.\nprint(x)" ∧
        (analyze "x = 1\ndef print():\n \"\"\"Doc.\nprint(x)" "python").issues =
          (analyze "x = 1\ndef print():" "python").issues.erase (Python.missingDocstring.onLine 2) ++
            (analyze " \"\"\"Doc.\nprint(x)" "python").issues.map (·.moved 2) := by
  have seam : Python.DocumentedAcross "x = 1\ndef print():" " \"\"\"Doc.\nprint(x)" :=
    ⟨"def print():".toList, by decide +kernel, " \"\"\"Doc.".toList, by decide +kernel,
      by decide +kernel⟩
  exact ⟨rfl, seam, ((analyze_append _ _ "python").2 rfl).2 seam |>.2⟩

end ReviewDesk
