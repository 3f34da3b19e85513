import ReviewDesk.Proofs.Java.MissingReturn

set_option autoImplicit false

namespace ReviewDesk.Java

open Text

structure LastDeclared (lines : List SourceLine) (start last : Nat) : Prop where
  counted : 1 ≤ start
  within : start ≤ last
  declared : ∃ line ∈ stretch lines start start, IsDeclaration line.trimmed
  alone : ∀ line ∈ stretch lines (start + 1) last, ¬ IsDeclaration line.trimmed

structure Follows (lines : List SourceLine) (start last : Nat) (tracker : Tracker) : Prop where
  declared : LastDeclared lines start last
  running : 0 < tracker.balance
  balance : tracker.balance = netBetween lines start last
  deep : ∀ number, start ≤ number → number < last → 0 < netBetween lines start number
  hasReturn : tracker.hasReturn = true ↔
    ∃ line ∈ stretch lines start last, HasReturn line.trimmed
  returnsValue : tracker.returnsValue = true ↔
    ∀ line ∈ stretch lines start start, ¬ IsVoid line.trimmed

section Runs

variable {tracker : Tracker} {lines : List SourceLine}

inductive Tracked (tracker : Tracker) (lines : List SourceLine) : Prop where
  | idle (closed : tracker.start = none) (plain : ∀ line ∈ lines, declares line.trimmed = false)
  | running (earlier : List SourceLine) (first : SourceLine) (more : List SourceLine)
      (split : lines = earlier ++ first :: more) (method : Method first more)
      (deep : 0 < netOf (first :: more)) (held : tracker = .following first more)
  | ended (earlier : List SourceLine) (first : SourceLine) (part more : List SourceLine)
      (split : lines = earlier ++ first :: (part ++ more))
      (declared : declares first.trimmed = true)
      (alone : ∀ line ∈ part ++ more, declares line.trimmed = false)
      (even : netOf (first :: part) ≤ 0) (closed : tracker.start = none)

theorem tracked_settle {earlier : List SourceLine} {first : SourceLine} {more : List SourceLine}
    (split : lines = earlier ++ first :: more) (method : Method first more) :
    Tracked (Tracker.following first more).settle.1 lines := by
  by_cases even : netOf (first :: more) ≤ 0
  next =>
    refine .ended earlier first more [] (by rw [split, List.append_nil]) method.declared ?_ even ?_
    next => rw [List.append_nil]; exact method.alone
    next => rw [Tracker.settle, if_pos (by simpa [Tracker.following] using even)]
  next =>
    have deep : 0 < netOf (first :: more) := by omega
    exact .running earlier first more split method deep (by rw [Tracker.settle_of_running deep])

theorem Tracked.step (tracked : Tracked tracker lines) (line : SourceLine) :
    Tracked (tracker.step line).1 (lines ++ [line]) := by
  cases declared : declares line.trimmed with
  | true =>
    rw [Tracker.step_of_declares _ _ declared]
    exact tracked_settle rfl (.start declared)
  | false =>
    cases tracked with
    | idle closed plain =>
      rw [Tracker.step_of_closed _ _ closed declared]
      refine .idle closed ?_
      rw [List.forall_mem_append]
      exact ⟨plain, List.forall_mem_singleton.mpr declared⟩
    | running earlier first more split method deep held =>
      rw [held, Tracker.step_following _ _ _ declared]
      exact tracked_settle (by rw [split, List.append_assoc, List.cons_append])
        (method.concat deep declared)
    | ended earlier first part more split opened alone even closed =>
      rw [Tracker.step_of_closed _ _ closed declared]
      refine .ended earlier first part (more ++ [line]) (by simp [split]) opened ?_ even closed
      rw [← List.append_assoc, List.forall_mem_append]
      exact ⟨alone, List.forall_mem_singleton.mpr declared⟩

theorem tracked_run (lines : List SourceLine) : Tracked (Tracker.fresh.run lines) lines := by
  induction lines using List.reverseRecOn with
  | nil => exact .idle rfl (List.forall_mem_nil _)
  | append_singleton lines line ih =>
    rw [Tracker.run_concat]
    exact ih.step line

end Runs

section Numbers

variable {lines earlier : List SourceLine} {first : SourceLine} {more : List SourceLine}
  {start last number : Nat}

theorem stretch_take (below : number ≤ last) :
    stretch (lines.take last) start number = stretch lines start number := by
  rw [stretch, stretch, List.take_take, Nat.min_eq_left below]

theorem stretch_from (split : lines.take last = earlier ++ first :: more)
    (after : earlier.length < number) (below : number ≤ last) :
    stretch lines (earlier.length + 1) number =
      first :: more.take (number - (earlier.length + 1)) := by
  obtain ⟨distance, rfl⟩ := Nat.exists_eq_add_of_lt after
  rw [← stretch_take below, split, stretch, Nat.add_assoc, List.take_length_add_append,
    Nat.add_sub_cancel, List.drop_left, List.take_succ_cons]
  congr 2
  omega

theorem stretch_whole (split : lines.take last = earlier ++ first :: more) :
    stretch lines (earlier.length + 1) last = first :: more := by
  rw [stretch, split, Nat.add_sub_cancel, List.drop_left]

theorem length_le_of_split (split : lines.take last = earlier ++ first :: more) :
    earlier.length + 1 + more.length ≤ last := by
  have bound := List.length_take_le last lines
  rw [split, List.length_append, List.length_cons] at bound
  omega

theorem lastDeclared_of_split (split : lines.take last = earlier ++ first :: more)
    (declared : declares first.trimmed = true)
    (alone : ∀ line ∈ more, declares line.trimmed = false) :
    LastDeclared lines (earlier.length + 1) last := by
  have within := length_le_of_split split
  simp only [declares_eq_false_iff] at alone
  refine ⟨by omega, by omega, ⟨first, ?_, declares_iff.mp declared⟩, ?_⟩
  next => simp [stretch_from split (Nat.lt_succ_self _) (by omega)]
  next => rwa [stretch_succ (by omega), stretch_whole split, List.tail_cons]

theorem follows_of_split (split : lines.take last = earlier ++ first :: more)
    (method : Method first more) (running : 0 < netOf (first :: more)) :
    Follows lines (earlier.length + 1) last (.following first more) := by
  have within := length_le_of_split split
  have own : stretch lines (earlier.length + 1) (earlier.length + 1) = [first] := by
    simp [stretch_from split (Nat.lt_succ_self _) (by omega)]
  refine ⟨lastDeclared_of_split split method.declared method.alone, running, ?_, ?_, ?_, ?_⟩
  next => rw [netBetween_eq, stretch_whole split]; rfl
  next =>
    intro number after below
    rw [netBetween_eq, stretch_from split (by omega) (by omega)]
    by_cases whole : more.take (number - (earlier.length + 1)) = more
    next => rw [whole]; exact running
    next => exact method.deep _ (List.take_prefix _ _) whole
  next =>
    simp only [stretch_whole split, ← returns_iff]
    simp [Tracker.following]
  next =>
    simp only [own, ← void_eq_false_iff]
    simp [Tracker.following]

end Numbers

theorem number_of_split_take {text : List Char} {last : Nat} {earlier more : List SourceLine}
    {first : SourceLine} (split : (sourceLines text).take last = earlier ++ first :: more) :
    first.number = earlier.length + 1 := by
  have whole : sourceLines text = earlier ++ first :: (more ++ (sourceLines text).drop last) := by
    rw [← List.cons_append, ← List.append_assoc, ← split, List.take_append_drop]
  exact number_of_sourceLines whole

theorem tracker_follows (text : List Char) (last : Nat) :
    let tracker := Tracker.fresh.run ((sourceLines text).take last)
    (∀ start, tracker.start = some start → Follows (sourceLines text) start last tracker) ∧
      (tracker.start = none →
        (∀ line ∈ (sourceLines text).take last, ¬ IsDeclaration line.trimmed) ∨
          ∃ start, LastDeclared (sourceLines text) start last ∧
            ∃ number, start ≤ number ∧ number ≤ last ∧
              netBetween (sourceLines text) start number ≤ 0) := by
  intro tracker
  have tracked : Tracked tracker ((sourceLines text).take last) := tracked_run _
  constructor
  next =>
    intro start opened
    cases tracked with
    | idle closed _ => simp [closed] at opened
    | ended _ _ _ _ _ _ _ _ closed => simp [closed] at opened
    | running earlier first more split method deep held =>
      have place : first.number = start := by simpa [held, Tracker.following] using opened
      rw [number_of_split_take split] at place
      rw [held, ← place]
      exact follows_of_split split method deep
  next =>
    intro closed
    cases tracked with
    | idle _ plain =>
      exact .inl fun line member => declares_eq_false_iff.mp (plain line member)
    | running _ _ _ _ _ _ held => simp [held, Tracker.following] at closed
    | ended earlier first part more split declared alone even _ =>
      have within := length_le_of_split split
      rw [List.length_append] at within
      refine .inr ⟨earlier.length + 1, lastDeclared_of_split split declared alone,
        earlier.length + 1 + part.length, by omega, by omega, ?_⟩
      rw [netBetween_eq, stretch_from split (by omega) (by omega), Nat.add_sub_cancel_left,
        List.take_left]
      exact even

theorem followed_after_a_restart :
    let text := "public int f() \x7b\npublic int g() \x7b\n  if (x) \x7b return 1;\n\x7d \x7d".toList
    let tracker (last : Nat) := Tracker.fresh.run ((sourceLines text).take last)
    (tracker 3).start = some 2 ∧ (tracker 4).start = none ∧
      Follows (sourceLines text) 2 3 (tracker 3) ∧
      ∃ start, LastDeclared (sourceLines text) start 4 ∧
        ∃ number, start ≤ number ∧ number ≤ 4 ∧ netBetween (sourceLines text) start number ≤ 0 := by
  intro text tracker
  have opened : (tracker 3).start = some 2 := by decide +kernel
  have closed : (tracker 4).start = none := by decide +kernel
  have declared : ¬ ∀ line ∈ (sourceLines text).take 4, ¬ IsDeclaration line.trimmed := by
    simp only [← declares_eq_false_iff]
    decide +kernel
  exact ⟨opened, closed, (tracker_follows text 3).1 2 opened,
    ((tracker_follows text 4).2 closed).resolve_left declared⟩

end ReviewDesk.Java
