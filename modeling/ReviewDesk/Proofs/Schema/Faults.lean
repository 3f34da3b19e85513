import ReviewDesk.Schema.Assessment

set_option autoImplicit false

namespace ReviewDesk

namespace Checked

variable {α β : Type} {checked : Checked α} {function : Checked (α → β)} {argument : Checked α}

def faults : Checked α → List Fault
  | .ok _ => []
  | .error faults => faults

theorem within_ok (step : Step) (value : α) : within step (.ok value) = .ok value := rfl

theorem faults_both (function : Checked (α → β)) (argument : Checked α) :
    (both function argument).faults = function.faults ++ argument.faults := by
  cases function <;> cases argument <;> simp [both, faults]

theorem faults_within (step : Step) (checked : Checked α) :
    (within step checked).faults = checked.faults.map (Fault.within step) := by
  cases checked <;> rfl

theorem faults_map (f : α → β) (checked : Checked α) : faults (checked.map f) = checked.faults := by
  cases checked <;> rfl

theorem faults_all (checks : List (Checked α)) : (all checks).faults = checks.flatMap faults := by
  induction checks with
  | nil => rfl
  | cons first rest ih => rw [all, faults_both, faults_map, ih, List.flatMap_cons]

def Reasoned (checked : Checked α) : Prop := checked.faults = [] ↔ checked.toOption.isSome = true

theorem Reasoned.faults_eq_nil_iff (reasoned : Reasoned checked) :
    checked.faults = [] ↔ checked.toOption.isSome = true := reasoned

theorem reasoned_ok (value : α) : Reasoned (.ok value) := iff_of_true rfl rfl

theorem reasoned_fail (flaw : Flaw) : Reasoned (fail flaw : Checked α) :=
  iff_of_false (List.cons_ne_nil _ _) Bool.false_ne_true

theorem Reasoned.within (reasoned : Reasoned checked) (step : Step) :
    Reasoned (checked.within step) := by
  cases checked with
  | ok value => exact reasoned_ok value
  | error faults =>
    rw [Reasoned, faults_within, List.map_eq_nil_iff]
    exact reasoned

theorem Reasoned.map (reasoned : Reasoned checked) (f : α → β) : Reasoned (checked.map f) := by
  cases checked with
  | ok value => exact reasoned_ok (f value)
  | error faults => exact reasoned

theorem Reasoned.both (first : Reasoned function) (second : Reasoned argument) :
    Reasoned (function.both argument) := by
  rw [Reasoned, faults_both, List.append_eq_nil_iff, first.faults_eq_nil_iff,
    second.faults_eq_nil_iff]
  cases function <;> cases argument <;> simp [Checked.both, Except.toOption]

end Checked

namespace Json

open Checked

section Fields

variable {α : Type} {check : Json → Checked α} (reasoned : ∀ value, Reasoned (check value))

include reasoned

theorem reasoned_required (members : Members) (name : Text.CodePoints) :
    Reasoned (required members name check) := by
  unfold required
  split
  next value _ => exact (reasoned value).within _
  next => exact (reasoned_fail .missing).within _

theorem reasoned_optional (members : Members) (name : Text.CodePoints) (fallback : α) :
    Reasoned (optional members name check fallback) := by
  unfold optional
  split
  next value _ => exact (reasoned value).within _
  next => exact reasoned_ok fallback

end Fields

theorem asListOf_of_ok {α : Type} {check : Json → Checked α} {items : List Json}
    (fine : ∀ item ∈ items, (check item).toOption.isSome = true) :
    asListOf check (.list items) = .ok (items.filterMap fun item => (check item).toOption) := by
  have placed (step : Nat → Step) :
      Checked.all (items.mapIdx fun i item => Checked.within (step i) (check item)) =
        .ok (items.filterMap fun item => (check item).toOption) := by
    induction items generalizing step with
    | nil => rfl
    | cons item rest ih =>
      rw [List.forall_mem_cons] at fine
      rw [List.mapIdx_cons, Checked.all, ih fine.2 fun i => step (i + 1)]
      cases accepted : check item with
      | ok value => simp [accepted, Checked.within_ok, Except.map, Checked.both, Except.toOption]
      | error faults => simp [accepted, Except.toOption] at fine
  exact placed .index

theorem reasoned_asText (value : Json) : Reasoned value.asText := by
  unfold asText
  split
  next text => exact reasoned_ok text
  next => exact reasoned_fail .notText

theorem reasoned_asLiteral {α : Type} (ofName? : String → Option α) (value : Json) :
    Reasoned (asLiteral ofName? value) := by
  unfold asLiteral
  split
  next =>
    split
    next value _ => exact reasoned_ok value
    next => exact reasoned_fail .notLiteral
  next => exact reasoned_fail .notLiteral

theorem reasoned_realAsInt (x : Number.Double) : Reasoned (realAsInt x) := by
  unfold realAsInt
  split
  next => exact reasoned_fail .infiniteInt
  next =>
    split
    next => exact reasoned_fail .fractionalInt
    next =>
      split
      next => exact reasoned_ok _
      next => exact reasoned_fail .oversizedInt

theorem reasoned_intWord (s : String) : Reasoned (intWord s) := by
  unfold intWord
  split
  next n _ => exact reasoned_ok n
  next => exact reasoned_fail .unreadableInt
  next => exact reasoned_fail .oversizedInt

theorem reasoned_asInt (value : Json) : Reasoned value.asInt := by
  unfold asInt
  split
  next => exact reasoned_ok _
  next n => exact reasoned_ok n
  next x => exact reasoned_realAsInt x
  next =>
    unfold readable
    split
    next word _ => exact reasoned_intWord word
    next => exact reasoned_fail .brokenText
  next => exact reasoned_fail .notInt

theorem reasoned_asOptionalInt (value : Json) : Reasoned value.asOptionalInt := by
  unfold asOptionalInt
  split
  next => exact reasoned_ok none
  next => exact (reasoned_asInt _).map some

end Json

theorem Issue.reasoned_ofJson (value : Json) : Checked.Reasoned (Issue.ofJson value) := by
  unfold Issue.ofJson Json.asRecord
  split
  next members =>
    exact ((((((Checked.reasoned_ok _).both
      (Json.reasoned_required (Json.reasoned_asLiteral Kind.ofName?) members "type")).both
      (Json.reasoned_required Json.reasoned_asText members "title")).both
      (Json.reasoned_required Json.reasoned_asText members "description")).both
      (Json.reasoned_optional Json.reasoned_asOptionalInt members "line" none)).both
      (Json.reasoned_required (Json.reasoned_asLiteral Severity.ofName?) members "severity"))
  next => exact Checked.reasoned_fail .notObject

end ReviewDesk
