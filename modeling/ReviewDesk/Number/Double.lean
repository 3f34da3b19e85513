import ReviewDesk.Number.Rounding

set_option autoImplicit false

namespace ReviewDesk.Number

/-- The data of binary64. A finite one stands for its significand times two to its exponent. -/
inductive Double where
  | nan
  | infinite (negative : Bool)
  | finite (negative : Bool) (significand : Nat) (exponent : Int)
deriving DecidableEq

namespace Double

def leastExponent : Int := -1074

def greatestExponent : Int := 971

/-- The least significand of a double that is not below the normal range, two to the 52nd. -/
def normalSignificand : Nat := 0x10000000000000

def zero (negative : Bool) : Double := .finite negative 0 leastExponent

def nearest (negative : Bool) (magnitude : Rat) : Double :=
  if magnitude ≤ 0 then zero negative
  else
    let exponent := max (log2 magnitude - 52) leastExponent
    let significand := (nearestEven (magnitude / pow2 exponent)).toNat
    -- Rounding up may reach the next power of two.
    let carried := significand == 2 * normalSignificand
    let exponent := if carried then exponent + 1 else exponent
    if greatestExponent < exponent then .infinite negative
    else .finite negative (if carried then normalSignificand else significand) exponent

def ofRat (q : Rat) : Double := nearest (q < 0) (if q < 0 then -q else q)

def ofInt (n : Int) : Double := ofRat n

def ofDecimal (negative : Bool) (digits : Nat) (exponent : Int) : Double :=
  let size := (Nat.toDigits 10 digits).length + exponent
  -- Outside of these sizes the answer needs no power of ten, however long the exponent is.
  if digits = 0 || size < -330 then zero negative
  else if 310 < size then .infinite negative
  else nearest negative (digits * pow10 exponent)

def value? : Double → Option Rat
  | .nan | .infinite _ => none
  | .finite negative significand exponent =>
    some ((if negative then -1 else 1) * significand * pow2 exponent)

def sub (x y : Double) : Double :=
  match x, y with
  | .nan, _ | _, .nan => .nan
  | .infinite a, .infinite b => if a = b then .nan else .infinite a
  | .infinite a, .finite .. => .infinite a
  | .finite .., .infinite b => .infinite (!b)
  | .finite .., .finite .. => ofRat (x.value?.getD 0 - y.value?.getD 0)

def lessThan (x : Double) (bound : Rat) : Bool :=
  match x with
  | .nan => false
  | .infinite negative => negative
  | .finite .. => x.value?.any (· < bound)

def atLeast (x : Double) (bound : Rat) : Bool :=
  match x with
  | .nan => false
  | .infinite negative => !negative
  | .finite .. => x.value?.any (bound ≤ ·)

end Double

end ReviewDesk.Number
