import ReviewDesk.Proofs.Analysis.Concatenation
import ReviewDesk.Proofs.Analysis.Reports
import ReviewDesk.Proofs.Java.MissingReturn
import ReviewDesk.Proofs.Text.Margins

set_option autoImplicit false

namespace ReviewDesk.Java

open Text

section Windows

variable {line : SourceLine} {following others : List SourceLine}

def exits (line : SourceLine) : Bool := containsAny loopExits line.raw

theorem loopExits_clear :
    ∀ mark ∈ loopExits, mark ≠ [] ∧ ∀ c ∈ mark, isMargin c = false := by
  have computed :
      loopExits.all (fun mark => !mark.isEmpty && mark.all (!isMargin ·)) = true := by decide
  simpa using computed

-- The blank at a seam of the window is in none of the exits, so none reaches over the seam.
theorem exits_window (following : List SourceLine) :
    containsAny loopExits (window following) = (following.take lookahead).any exits := by
  rw [Bool.eq_iff_iff, containsAny_iff, List.any_eq_true]
  simp only [exits, containsAny_iff]
  constructor
  next =>
    rintro ⟨mark, listed, found⟩
    obtain ⟨some, clear⟩ := loopExits_clear mark listed
    rw [window, infix_intercalate_iff some (not_mem_of_clear clear rfl)] at found
    obtain ⟨raw, member, inside⟩ := found
    obtain ⟨line, near, rfl⟩ := List.mem_map.mp member
    exact ⟨line, near, mark, listed, inside⟩
  next =>
    rintro ⟨line, near, mark, listed, inside⟩
    obtain ⟨some, clear⟩ := loopExits_clear mark listed
    refine ⟨mark, listed, ?_⟩
    rw [window, infix_intercalate_iff some (not_mem_of_clear clear rfl)]
    exact ⟨line.raw, List.mem_map_of_mem near, inside⟩

theorem lineIssues_of_same_exits
    (same : (following.take lookahead).any exits = (others.take lookahead).any exits) :
    lineIssues line following = lineIssues line others := by
  simp only [lineIssues, loopsForever, exits_window, same]

theorem lineIssues_of_no_loop (plain : contains "while(".toList line.trimmed = false) :
    lineIssues line following = lineIssues line others := by
  simp only [lineIssues, loopsForever, plain, Bool.false_and]

end Windows

section Seams

variable {tracker other : Tracker} {lines later : List SourceLine}

def walkBefore (later : List SourceLine) (tracker : Tracker) : List SourceLine → List Issue
  | [] => []
  | line :: rest =>
    (tracker.step line).2.toList.map missingReturn.onLine ++ lineIssues line (rest ++ later) ++
      walkBefore later (tracker.step line).1 rest

theorem walk_append (tracker : Tracker) (lines later : List SourceLine) :
    walk tracker (lines ++ later) =
      walkBefore later tracker lines ++ walk (tracker.run lines) later := by
  induction lines generalizing tracker with
  | nil => rfl
  | cons line rest ih =>
    have next := ih (tracker.step line).1
    simp only [List.cons_append, walk, walkBefore, next, List.append_assoc]
    rfl

theorem walkBefore_of_same_loops
    (same : ∀ line rest, line :: rest <:+ lines →
      lineIssues line (rest ++ later) = lineIssues line rest) :
    walkBefore later tracker lines = walk tracker lines := by
  induction lines generalizing tracker with
  | nil => rfl
  | cons line rest ih =>
    have below : walkBefore later (tracker.step line).1 rest = walk (tracker.step line).1 rest :=
      ih fun inner others inside => same inner others (inside.trans (List.suffix_cons line rest))
    rw [walkBefore, walk, below, same line rest (List.suffix_refl _)]

-- What a closed tracker still holds is overwritten before it is read.
theorem walk_of_closed (closed : tracker.start = none) (fresh : other.start = none) :
    walk tracker lines = walk other lines := by
  induction lines generalizing tracker other with
  | nil => rfl
  | cons line rest ih =>
    cases declared : declares line.trimmed with
    | true =>
      simp only [walk, Tracker.step_of_declares tracker line declared,
        Tracker.step_of_declares other line declared]
    | false =>
      simp only [walk, Tracker.step_of_closed tracker line closed declared,
        Tracker.step_of_closed other line fresh declared, ih closed fresh]

end Seams

section Moves

def Tracker.moved (tracker : Tracker) (distance : Nat) : Tracker :=
  { tracker with start := tracker.start.map (· + distance) }

theorem Tracker.settle_moved (tracker : Tracker) (distance : Nat) :
    (tracker.moved distance).settle =
      (tracker.settle.1.moved distance, tracker.settle.2.map (· + distance)) := by
  have balance : (tracker.moved distance).balance = tracker.balance := rfl
  have complaint : (tracker.moved distance).complaint? =
      tracker.complaint?.map (· + distance) := by
    rw [complaint?, complaint?, apply_ite (Option.map (· + distance))]
    rfl
  rw [settle, settle, balance, complaint]
  by_cases ended : tracker.balance ≤ 0
  next => rw [if_pos ended, if_pos ended]; rfl
  next => rw [if_neg ended, if_neg ended]; rfl

theorem Tracker.step_moved (tracker : Tracker) (line : SourceLine) (distance : Nat) :
    (tracker.moved distance).step (line.moved distance) =
      ((tracker.step line).1.moved distance, (tracker.step line).2.map (· + distance)) := by
  have entered : (tracker.moved distance).enter (line.moved distance) =
      (tracker.enter line).moved distance := by
    simp only [enter, SourceLine.trimmed_moved, SourceLine.number_moved, moved]
    split <;> rfl
  cases opened : (tracker.enter line).isOpen with
  | true =>
    have still : ((tracker.moved distance).enter (line.moved distance)).isOpen = true := by
      rw [entered]
      simpa [isOpen, moved] using opened
    rw [step_of_open _ _ still, step_of_open _ _ opened, ← settle_moved, entered]
    rfl
  | false =>
    have closed := Option.not_isSome_iff_eq_none.mp (Bool.not_eq_true _ ▸ opened)
    rw [step, step, entered, closed]
    simp [moved, closed]

theorem lineIssues_moved (line : SourceLine) (following : List SourceLine) (distance : Nat) :
    lineIssues (line.moved distance) (following.map (·.moved distance)) =
      (lineIssues line following).map (·.moved distance) := by
  have ahead : window (following.map (·.moved distance)) = window following := by
    rw [window, ← List.map_take, List.map_map]
    rfl
  simp only [lineIssues, loopsForever, ahead, SourceLine.trimmed_moved, onLine_moved]

theorem walk_moved (tracker : Tracker) (lines : List SourceLine) (distance : Nat) :
    walk (tracker.moved distance) (lines.map (·.moved distance)) =
      (walk tracker lines).map (·.moved distance) := by
  induction lines generalizing tracker with
  | nil => rfl
  | cons line rest ih =>
    have complained : ((tracker.step line).2.map (· + distance)).toList.map missingReturn.onLine =
        ((tracker.step line).2.toList.map missingReturn.onLine).map (·.moved distance) := by
      cases (tracker.step line).2 <;> simp [Finding.onLine_add]
    simp only [List.map_cons, walk, Tracker.step_moved, ih, lineIssues_moved, complained,
      List.map_append]

end Moves

section Braces

variable {tracker : Tracker} {lines : List SourceLine} {issue : Issue}

theorem mem_walk (found : issue ∈ walk tracker lines) :
    (∃ number, issue = missingReturn.onLine number) ∨
      ∃ line ∈ lines, ∃ finding ∈ lineFindings, issue = finding.onLine line.number := by
  induction lines generalizing tracker with
  | nil => simp [walk] at found
  | cons line rest ih =>
    rw [walk, List.mem_append, List.mem_append] at found
    rcases found with (closed | here) | later
    next =>
      obtain ⟨number, -, rfl⟩ := List.mem_map.mp closed
      exact .inl ⟨number, rfl⟩
    next =>
      obtain ⟨finding, listed, rfl⟩ := mem_lineIssues here
      exact .inr ⟨line, List.mem_cons_self, finding, listed, rfl⟩
    next =>
      rcases ih later with closed | ⟨other, member, known⟩
      next => exact .inl closed
      next => exact .inr ⟨other, List.mem_cons_of_mem line member, known⟩

theorem walk_not_brace (found : issue ∈ walk tracker lines) :
    issue.isTitled "Missing closing brace" = false := by
  rcases mem_walk found with ⟨number, rfl⟩ | ⟨line, -, finding, listed, rfl⟩
  next => rw [Finding.isTitled_onLine]; decide
  next =>
    have others : ∀ finding ∈ lineFindings, (finding.title == "Missing closing brace") = false := by
      decide
    rw [Finding.isTitled_onLine, others finding listed]

theorem mem_braceIssues :
    issue ∈ braceIssues lines ↔ 0 < netOf lines ∧ issue = missingBrace.onLine lines.length := by
  by_cases unclosed : 0 < netOf lines <;> simp [braceIssues, unclosed]

theorem check_without_brace (lines : List SourceLine) :
    (check lines).filter (!·.isTitled "Missing closing brace") = walk .fresh lines := by
  have walked : ∀ issue ∈ walk .fresh lines,
      (!issue.isTitled "Missing closing brace") = true := by
    intro issue found
    rw [walk_not_brace found, Bool.not_false]
  rw [check, List.filter_append, List.filter_eq_self.mpr walked, filter_braceIssues]
  simp [missingBrace]

theorem check_brace (lines : List SourceLine) :
    (check lines).filter (·.isTitled "Missing closing brace") = braceIssues lines := by
  have walked : ∀ issue ∈ walk .fresh lines,
      ¬ issue.isTitled "Missing closing brace" = true := by
    intro issue found
    rw [walk_not_brace found]
    exact Bool.false_ne_true
  rw [check, List.filter_append, List.filter_eq_nil_iff.mpr walked, filter_braceIssues]
  simp [missingBrace]

theorem netOf_sourceLines (text : List Char) : netOf (sourceLines text) = netBraces text := by
  have joined (index : Nat) (raws : List (List Char)) :
      netOf (numberFrom index raws) = netBraces (unlines raws) := by
    induction raws generalizing index with
    | nil => rfl
    | cons raw rest ih =>
      rw [numberFrom, netOf, ih]
      cases rest with
      | nil => simp [unlines, netBraces]
      | cons next rest =>
        have newline : netBraces ['\n'] = 0 := by decide
        simp only [unlines, List.intercalate_cons_cons, netBraces_append, newline]
        omega
  rw [sourceLines, joined, unlines_lines]

end Braces

end ReviewDesk.Java
