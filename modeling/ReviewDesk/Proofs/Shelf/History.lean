import Mathlib.Algebra.Order.Ring.Rat
import Mathlib.Data.List.Induction
import Mathlib.Tactic.Linarith
import ReviewDesk.Shelf

set_option autoImplicit false

namespace ReviewDesk.Shelf

structure Deposit where
  id : String
  language : String
  result : Assessment
  time : Rat

def Deposit.entry (deposit : Deposit) : String × ShelvedReport :=
  (deposit.id, ⟨deposit.language, deposit.result, .exact deposit.time⟩)

-- A request reads the clock before its turn comes, so the times of the actions have no order.
inductive Action where
  | store (deposit : Deposit)
  | prune (time : Rat)

namespace Action

def time : Action → Rat
  | store deposit => deposit.time
  | prune time => time

def id? : Action → Option String
  | store deposit => some deposit.id
  | prune _ => none

def perform (shelf : Shelf) : Action → Shelf
  | store deposit =>
    (shelf.storeAs deposit.id deposit.language deposit.result (.exact deposit.time)).2
  | prune time => shelf.prune (.exact time)

end Action

def after (actions : List Action) : Shelf := actions.foldl Action.perform empty

variable {actions : List Action} {deposit : Deposit}

theorem after_concat (actions : List Action) (action : Action) :
    after (actions ++ [action]) = action.perform (after actions) := by
  simp [after]

theorem isExpired_entry (deposit : Deposit) (time : Rat) :
    isExpired deposit.entry.2 (.exact time) = false ↔ time - deposit.time < 300 := by
  change decide ((300 : Rat) ≤ time - deposit.time) = false ↔ _
  rw [decide_eq_false_iff_not, not_le]

/-- A report stands on the shelf until an action, of whatever request, finds it expired. -/
def Stands (actions : List Action) (deposit : Deposit) : Prop :=
  ∃ before later, actions = before ++ .store deposit :: later ∧
    ∀ action ∈ later, action.time - deposit.time < 300

theorem stands_concat (action : Action) :
    Stands (actions ++ [action]) deposit ↔
      Stands actions deposit ∧ action.time - deposit.time < 300 ∨ action = .store deposit := by
  constructor
  next =>
    rintro ⟨before, later, split, fresh⟩
    cases later using List.reverseRecOn with
    | nil =>
      obtain ⟨-, last⟩ := List.append_inj' split rfl
      exact .inr (List.singleton_inj.mp last)
    | append_singleton later last =>
      rw [← List.cons_append, ← List.append_assoc] at split
      obtain ⟨rfl, same⟩ := List.append_inj' split rfl
      obtain rfl := List.singleton_inj.mp same
      exact .inl ⟨⟨before, later, rfl, fun other member => fresh other (by simp [member])⟩,
        fresh action (by simp)⟩
  next =>
    rintro (⟨⟨before, later, rfl, fresh⟩, recent⟩ | rfl)
    next =>
      refine ⟨before, later ++ [action], by simp, ?_⟩
      intro other member
      rcases List.mem_append.mp member with old | new
      next => exact fresh other old
      next => rw [List.mem_singleton.mp new]; exact recent
    next => exact ⟨actions, [], rfl, by simp⟩

theorem stands_of_late {time : Rat} (late : ∀ action ∈ actions, action.time ≤ time)
    (recent : time - deposit.time < 300) (stored : .store deposit ∈ actions) :
    Stands actions deposit := by
  obtain ⟨before, later, rfl⟩ := List.append_of_mem stored
  refine ⟨before, later, rfl, ?_⟩
  intro action member
  have := late action (by simp [member])
  linarith

theorem mem_prune_iff (shelf : Shelf) (time : Rat) :
    deposit.entry ∈ (shelf.prune (.exact time)).reports ↔
      deposit.entry ∈ shelf.reports ∧ time - deposit.time < 300 := by
  simp only [prune, List.mem_filter, Bool.not_eq_true', isExpired_entry]

theorem entry_injective : Function.Injective Deposit.entry := by
  rintro ⟨id, language, result, time⟩ ⟨id', language', result', time'⟩ same
  simpa [Deposit.entry] using same

theorem mem_after_iff (actions : List Action) (deposit : Deposit) :
    deposit.entry ∈ (after actions).reports ↔ Stands actions deposit := by
  induction actions using List.reverseRecOn with
  | nil => simp [after, empty, Stands]
  | append_singleton actions action ih =>
    rw [after_concat, stands_concat, ← ih]
    cases action with
    | prune time => simp [Action.perform, Action.time, mem_prune_iff]
    | store other =>
      have own : deposit.entry = (other.id, ⟨other.language, other.result, .exact other.time⟩) ↔
          Action.store other = .store deposit := by
        rw [Action.store.injEq, eq_comm]
        exact entry_injective.eq_iff (a := other) (b := deposit)
      simp [Action.perform, Action.time, storeAs, mem_prune_iff, own]

theorem exists_deposit (actions : List Action) {entry : String × ShelvedReport}
    (shelved : entry ∈ (after actions).reports) : ∃ deposit : Deposit, entry = deposit.entry := by
  induction actions using List.reverseRecOn with
  | nil => simp [after, empty] at shelved
  | append_singleton actions action ih =>
    rw [after_concat] at shelved
    cases action with
    | prune time => exact ih (List.mem_filter.mp shelved).1
    | store deposit =>
      rcases List.mem_append.mp shelved with old | new
      next => exact ih (List.mem_filter.mp old).1
      next => exact ⟨deposit, List.mem_singleton.mp new⟩

theorem ids_sublist (actions : List Action) :
    (after actions).ids.Sublist (actions.filterMap Action.id?) := by
  induction actions using List.reverseRecOn with
  | nil => simp [after, empty, ids]
  | append_singleton actions action ih =>
    have kept (time : Rat) : ((after actions).prune (.exact time)).ids.Sublist
        (actions.filterMap Action.id?) :=
      (List.filter_sublist.map _).trans ih
    rw [after_concat, List.filterMap_append]
    cases action with
    | prune time => exact (kept time).trans (List.sublist_append_left _ _)
    | store deposit =>
      have added : (Action.perform (after actions) (.store deposit)).ids =
          ((after actions).prune (.exact deposit.time)).ids ++ [deposit.id] := by
        simp [Action.perform, storeAs, ids]
      rw [added]
      exact (kept deposit.time).append (List.Sublist.refl _)

theorem get?_eq_some_iff (shelf : Shelf) (distinct : shelf.ids.Nodup) (id : String)
    (report : ShelvedReport) : shelf.get? id = some report ↔ (id, report) ∈ shelf.reports := by
  rw [get?, List.lookup_eq_some_iff]
  constructor
  next =>
    rintro ⟨before, later, split, -⟩
    simp [split]
  next =>
    intro member
    obtain ⟨before, later, split⟩ := List.append_of_mem member
    refine ⟨before, later, split, ?_⟩
    intro other earlier
    rw [ids, split, List.map_append, List.nodup_append] at distinct
    have apart := distinct.2.2 other.1 (List.mem_map_of_mem earlier) id (by simp)
    simpa using Ne.symm apart

theorem live?_eq_some_iff (shelf : Shelf) (distinct : shelf.ids.Nodup) (id : String)
    (report : ShelvedReport) (now : Reading) :
    shelf.live? id now = some report ↔
      (id, report) ∈ shelf.reports ∧ isExpired report now = false := by
  rw [← get?_eq_some_iff shelf distinct, live?, Option.bind_eq_some_iff]
  constructor
  next =>
    rintro ⟨found, held, fresh⟩
    cases expired : isExpired found now with
    | true => simp [expired] at fresh
    | false =>
      simp only [expired] at fresh
      obtain rfl := Option.some.inj fresh
      exact ⟨held, expired⟩
  next =>
    rintro ⟨held, fresh⟩
    exact ⟨report, held, by simp [fresh]⟩

theorem live_report_iff (actions : List Action)
    (distinct : (actions.filterMap Action.id?).Nodup) :
    (∀ time : Rat, (∀ action ∈ actions, action.time ≤ time) → ∀ id report,
      (after actions).live? id (.exact time) = some report ↔
        ∃ deposit : Deposit, .store deposit ∈ actions ∧ time - deposit.time < 300 ∧
          (id, report) = deposit.entry) ∧
    ∀ (latest : Deposit) (entry : String × ShelvedReport),
      entry ∈ (after (actions ++ [.store latest])).reports ↔
        (∃ deposit : Deposit, entry = deposit.entry ∧ entry ∈ (after actions).reports ∧
          latest.time - deposit.time < 300) ∨ entry = latest.entry := by
  have single := distinct.sublist (ids_sublist actions)
  constructor
  next =>
    intro time late id report
    rw [live?_eq_some_iff _ single]
    constructor
    next =>
      rintro ⟨shelved, fresh⟩
      obtain ⟨deposit, same⟩ := exists_deposit actions shelved
      rw [same, mem_after_iff] at shelved
      obtain ⟨before, later, rfl, -⟩ := shelved
      rw [show report = deposit.entry.2 from congrArg Prod.snd same, isExpired_entry] at fresh
      exact ⟨deposit, by simp, fresh, same⟩
    next =>
      rintro ⟨deposit, stored, recent, same⟩
      rw [same, mem_after_iff]
      refine ⟨stands_of_late late recent stored, ?_⟩
      rwa [show report = deposit.entry.2 from congrArg Prod.snd same, isExpired_entry]
  next =>
    intro latest entry
    have held : (after (actions ++ [.store latest])).reports =
        ((after actions).prune (.exact latest.time)).reports ++ [latest.entry] := by
      rw [after_concat]
      rfl
    rw [held, List.mem_append, List.mem_singleton]
    refine or_congr_left ⟨?_, ?_⟩
    next =>
      intro kept
      obtain ⟨deposit, rfl⟩ := exists_deposit actions (List.mem_filter.mp kept).1
      exact ⟨deposit, rfl, (mem_prune_iff _ _).mp kept⟩
    next =>
      rintro ⟨deposit, rfl, shelved, recent⟩
      exact (mem_prune_iff _ _).mpr ⟨shelved, recent⟩

theorem live_in_the_last_second :
    let result := Assessment.ofIssues [] 100 [] .heuristic
    let actions : List Action := [.store ⟨reportId 1, "java", result, 100⟩, .prune 50,
      .store ⟨reportId 2, "go", result, 399⟩]
    (actions.filterMap Action.id?).Nodup ∧ (∀ action ∈ actions, action.time ≤ 399) ∧
      (after actions).live? (reportId 1) (.exact 399) = some ⟨"java", result, .exact 100⟩ := by
  intro result actions
  have distinct : (actions.filterMap Action.id?).Nodup := by
    change [reportId 1, reportId 2].Nodup
    decide +kernel
  have late : ∀ action ∈ actions, action.time ≤ 399 := by
    intro action member
    simp only [actions, List.mem_cons, List.not_mem_nil, or_false] at member
    rcases member with rfl | rfl | rfl <;> norm_num [Action.time]
  refine ⟨distinct, late, ?_⟩
  rw [(live_report_iff actions distinct).1 399 late]
  exact ⟨⟨reportId 1, "java", result, 100⟩, by simp [actions], by norm_num, rfl⟩

end ReviewDesk.Shelf
