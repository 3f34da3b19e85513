import ReviewDesk.Clock.Reading
import ReviewDesk.Proofs.Number.Nearest

set_option autoImplicit false

namespace ReviewDesk.Reading

open Number

inductive NotAfter : Reading → Reading → Prop
  | exact {q r : Rat} (ordered : q ≤ r) : NotAfter (.exact q) (.exact r)
  | double {x y : Double} {q r : Rat} (first : x.value? = some q) (second : y.value? = some r)
      (ordered : q ≤ r) : NotAfter (.double x) (.double y)

variable {start now later : Reading} {bound : Rat}

theorem NotAfter.last (ordered : now.NotAfter later) : later.NotAfter later := by
  cases ordered with
  | exact => exact .exact le_rfl
  | double first second => exact .double second second le_rfl

theorem sub_of_values {x y : Double} {q r : Rat} (first : x.value? = some q)
    (second : y.value? = some r) : x.sub y = .ofRat (q - r) := by
  cases x with
  | nan | infinite => simp [Double.value?] at first
  | finite =>
    cases y with
    | nan | infinite => simp [Double.value?] at second
    | finite => rw [Double.sub, first, second, Option.getD_some, Option.getD_some]

theorem lessThan_since_mono (positive : 0 < bound) (moderate : bound ≤ pow2 1023)
    (stored : start.NotAfter later) (ordered : now.NotAfter later)
    (recent : (later.since start).lessThan bound = true) :
    (now.since start).lessThan bound = true := by
  -- The readings are all of one kind: the later one has the kind of each of the other two.
  cases stored with
  | exact =>
    cases ordered with
    | exact ordered =>
      simp only [since, lessThan, decide_eq_true_eq] at recent ⊢
      linarith
  | double started last =>
    cases ordered with
    | double here last' ordered =>
      obtain rfl := Option.some.inj (last.symm.trans last')
      simp only [since, toDouble, lessThan] at recent ⊢
      rw [sub_of_values last started] at recent
      rw [sub_of_values here started]
      exact Double.lessThan_ofRat_mono positive moderate (by linarith) recent

theorem atLeast_of_lessThan {elapsed : Reading} (less : elapsed.lessThan bound = true) :
    elapsed.atLeast bound = false := by
  cases elapsed with
  | exact q => simpa [lessThan, atLeast] using less
  | double x => exact Double.atLeast_of_lessThan less

end ReviewDesk.Reading
