import Mathlib.Data.List.Induction
import ReviewDesk.Rules.Java.Tracker

set_option autoImplicit false

namespace ReviewDesk.Java

open Text

structure Method (first : SourceLine) (more : List SourceLine) : Prop where
  declared : declares first.trimmed = true
  alone : ∀ line ∈ more, declares line.trimmed = false
  deep : ∀ part, part <+: more → part ≠ more → 0 < netOf (first :: part)

namespace Method

variable {first line : SourceLine} {more : List SourceLine}

theorem start (declared : declares first.trimmed = true) : Method first [] where
  declared := declared
  alone := by simp
  deep part before shorter := absurd (List.prefix_nil.mp before) shorter

theorem concat (method : Method first more) (running : 0 < netOf (first :: more))
    (plain : declares line.trimmed = false) : Method first (more ++ [line]) where
  declared := method.declared
  alone := by
    intro other member
    rcases List.mem_append.mp member with old | new
    next => exact method.alone other old
    next => rw [List.mem_singleton.mp new]; exact plain
  deep := by
    intro part before shorter
    rcases List.prefix_concat_iff.mp before with whole | inside
    next => exact absurd whole shorter
    next =>
      by_cases all : part = more
      next => rw [all]; exact running
      next => exact method.deep part inside all

theorem running_of_concat (method : Method first (more ++ [line])) :
    0 < netOf (first :: more) :=
  method.deep more (List.prefix_append more [line]) (by simp)

theorem of_concat (method : Method first (more ++ [line])) : Method first more where
  declared := method.declared
  alone other member := method.alone other (List.mem_append_left _ member)
  deep part before _ := by
    apply method.deep part (before.trans (List.prefix_append more [line]))
    intro whole
    have longer := before.length_le
    simp only [whole, List.length_append, List.length_singleton] at longer
    omega

theorem plain_of_concat (method : Method first (more ++ [line])) :
    declares line.trimmed = false :=
  method.alone line (by simp)

end Method

namespace Tracker

variable (tracker : Tracker) (first line : SourceLine) (more : List SourceLine)

/-- What there is to know of a method, read off its lines instead of a run. -/
def following (first : SourceLine) (more : List SourceLine) : Tracker where
  start := some first.number
  returnsValue := !contains "void".toList first.trimmed
  hasReturn := (first :: more).any (returns ·.trimmed)
  balance := netOf (first :: more)

def complaint? (tracker : Tracker) : Option Nat :=
  if tracker.returnsValue && !tracker.hasReturn then tracker.start else none

def settle (tracker : Tracker) : Tracker × Option Nat :=
  if tracker.balance ≤ 0 then ({ tracker with start := none }, tracker.complaint?)
  else (tracker, none)

theorem step_of_open (opened : (tracker.enter line).isOpen = true) :
    tracker.step line = ((tracker.enter line).count line).settle := by
  obtain ⟨start, held⟩ := Option.isSome_iff_exists.mp opened
  have kept : ((tracker.enter line).count line).start = some start := held
  simp only [step, held, settle, complaint?, kept]

theorem step_of_declares (declared : declares line.trimmed = true) :
    tracker.step line = (following line []).settle := by
  have counted : (tracker.enter line).count line = following line [] := by
    simp [enter, count, following, declared, netOf]
  rw [step_of_open _ _ (by simp [enter, declared, isOpen]), counted]

theorem step_following (plain : declares line.trimmed = false) :
    (following first more).step line = (following first (more ++ [line])).settle := by
  have same : (following first more).enter line = following first more := by simp [enter, plain]
  have counted : (following first more).count line = following first (more ++ [line]) := by
    simp [count, following, netOf, netOf_append, List.any_append, Bool.or_assoc, Int.add_assoc]
  rw [step_of_open _ _ (by rw [same]; rfl), same, counted]

theorem step_of_closed (closed : tracker.start = none) (plain : declares line.trimmed = false) :
    tracker.step line = (tracker, none) := by
  have same : tracker.enter line = tracker := by simp [enter, plain]
  simp only [step, same, closed]

theorem run_append (xs ys : List SourceLine) : tracker.run (xs ++ ys) = (tracker.run xs).run ys := by
  simp [run]

theorem run_concat (lines : List SourceLine) :
    tracker.run (lines ++ [line]) = ((tracker.run lines).step line).1 := by
  simp [run]

variable {first line more}

theorem settle_of_running (running : 0 < netOf (first :: more)) :
    (following first more).settle = (following first more, none) := by
  have held : ¬ (following first more).balance ≤ 0 := by simpa [following] using running
  rw [settle, if_neg held]

-- What the tracker held before the declaration does not matter.
theorem run_method (method : Method first more) (running : 0 < netOf (first :: more)) :
    tracker.run (first :: more) = following first more := by
  induction more using List.reverseRecOn with
  | nil =>
    have stepped := step_of_declares tracker first method.declared
    simp [run, stepped, settle_of_running running]
  | append_singleton more line ih =>
    have before := ih method.of_concat method.running_of_concat
    rw [← List.cons_append, run_concat, before, step_following _ _ _ method.plain_of_concat,
      settle_of_running running]

theorem step_method (method : Method first more) {earlier before : List SourceLine}
    (split : before ++ [line] = earlier ++ first :: more) :
    (tracker.run before).step line = (following first more).settle := by
  induction more using List.reverseRecOn with
  | nil =>
    obtain ⟨-, same⟩ := List.append_inj' split rfl
    rw [List.singleton_inj.mp same]
    exact step_of_declares _ first method.declared
  | append_singleton more last _ =>
    rw [← List.cons_append, ← List.append_assoc] at split
    obtain ⟨start, same⟩ := List.append_inj' split rfl
    rw [start, List.singleton_inj.mp same, run_append,
      run_method _ method.of_concat method.running_of_concat]
    exact step_following _ _ _ method.plain_of_concat

-- The induction is on the lines before; a method that is still open after them gets one line more.
theorem step_cases (before : List SourceLine) (line : SourceLine) :
    ((fresh.run before).step line).1.start = none ∧ ((fresh.run before).step line).2 = none ∨
      ∃ earlier first more, before ++ [line] = earlier ++ first :: more ∧ Method first more ∧
        (fresh.run before).step line = (following first more).settle := by
  induction before using List.reverseRecOn generalizing line with
  | nil =>
    cases declared : declares line.trimmed with
    | true => exact .inr ⟨[], line, [], rfl, .start declared, step_of_declares _ line declared⟩
    | false =>
      left
      rw [step_of_closed _ line rfl declared]
      exact ⟨rfl, rfl⟩
  | append_singleton before previous ih =>
    cases declared : declares line.trimmed with
    | true =>
      exact .inr ⟨before ++ [previous], line, [], rfl, .start declared,
        step_of_declares _ line declared⟩
    | false =>
      rw [run_concat]
      rcases ih previous with ⟨closed, -⟩ | ⟨earlier, first, more, split, method, stepped⟩
      next =>
        left
        rw [step_of_closed _ _ closed declared]
        exact ⟨closed, rfl⟩
      next =>
        by_cases ended : netOf (first :: more) ≤ 0
        next =>
          have closed : ((fresh.run before).step previous).1.start = none := by
            rw [stepped, settle, if_pos (by simpa [following] using ended)]
          left
          rw [step_of_closed _ _ closed declared]
          exact ⟨closed, rfl⟩
        next =>
          have running : 0 < netOf (first :: more) := by omega
          right
          refine ⟨earlier, first, more ++ [line], ?_, method.concat running declared, ?_⟩
          next => rw [split, List.append_assoc, List.cons_append]
          next => rw [stepped, settle_of_running running, step_following _ _ _ declared]

end Tracker

end ReviewDesk.Java
