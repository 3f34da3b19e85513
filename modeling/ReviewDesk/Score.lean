import ReviewDesk.Issue

set_option autoImplicit false

namespace ReviewDesk

def Kind.penalty : Kind → Nat
  | error => 15
  | warning => 8
  | suggestion => 3
  | info => 0

def penalty : List Kind → Nat
  | [] => 0
  | kind :: rest => kind.penalty + penalty rest

def score (kinds : List Kind) : Nat := 100 - penalty kinds

theorem score_le (kinds : List Kind) : score kinds ≤ 100 := Nat.sub_le ..

theorem penalty_append (xs ys : List Kind) : penalty (xs ++ ys) = penalty xs + penalty ys := by
  induction xs with
  | nil => simp [penalty]
  | cons kind rest ih => simp [penalty, ih, Nat.add_assoc]

theorem penalty_eq_counts (kinds : List Kind) :
    penalty kinds =
      15 * kinds.count .error + 8 * kinds.count .warning + 3 * kinds.count .suggestion := by
  induction kinds with
  | nil => rfl
  | cons kind rest ih =>
    rw [penalty, ih]
    cases kind <;> simp [Kind.penalty] <;> omega

inductive Rating where
  | good
  | fair
  | poor
deriving DecidableEq

def Rating.name : Rating → String
  | good => "good"
  | fair => "fair"
  | poor => "poor"

def Rating.ofScore (score : Int) : Rating :=
  if 80 ≤ score then .good else if 60 ≤ score then .fair else .poor

structure Counts where
  errors : Nat
  warnings : Nat
  suggestions : Nat
  infos : Nat
deriving DecidableEq

namespace Counts

def zero : Counts := ⟨0, 0, 0, 0⟩

def add (counts : Counts) : Kind → Counts
  | .error => { counts with errors := counts.errors + 1 }
  | .warning => { counts with warnings := counts.warnings + 1 }
  | .suggestion => { counts with suggestions := counts.suggestions + 1 }
  | .info => { counts with infos := counts.infos + 1 }

def get (counts : Counts) : Kind → Nat
  | .error => counts.errors
  | .warning => counts.warnings
  | .suggestion => counts.suggestions
  | .info => counts.infos

theorem get_add (counts : Counts) (added kind : Kind) :
    (counts.add added).get kind = counts.get kind + if added = kind then 1 else 0 := by
  cases added <;> cases kind <;> simp [add, get]

theorem eq_of_get {counts others : Counts} (same : ∀ kind, counts.get kind = others.get kind) :
    counts = others := by
  cases counts
  cases others
  exact (mk.injEq ..).mpr ⟨same .error, same .warning, same .suggestion, same .info⟩

def tally (kinds : List Kind) : Counts := kinds.foldl add zero

theorem get_foldl (kinds : List Kind) (counts : Counts) (kind : Kind) :
    (kinds.foldl add counts).get kind = counts.get kind + kinds.count kind := by
  induction kinds generalizing counts with
  | nil => simp
  | cons first rest ih =>
    rw [List.foldl_cons, ih, get_add, List.count_cons]
    by_cases same : first = kind
    next => simp [same]; omega
    next => simp [same]

theorem get_tally (kinds : List Kind) (kind : Kind) :
    (tally kinds).get kind = kinds.count kind := by
  rw [tally, get_foldl]
  cases kind <;> simp [zero, get]

def total (counts : Counts) : Nat :=
  counts.errors + counts.warnings + counts.suggestions + counts.infos

theorem total_add (counts : Counts) (kind : Kind) :
    (counts.add kind).total = counts.total + 1 := by
  cases kind <;> simp only [add, total] <;> omega

theorem total_foldl (kinds : List Kind) (counts : Counts) :
    (kinds.foldl add counts).total = counts.total + kinds.length := by
  induction kinds generalizing counts with
  | nil => rfl
  | cons kind rest ih =>
    rw [List.foldl_cons, ih, total_add, List.length_cons]
    omega

theorem total_tally (kinds : List Kind) : (tally kinds).total = kinds.length := by
  rw [tally, total_foldl]
  exact Nat.zero_add _

end Counts

end ReviewDesk
