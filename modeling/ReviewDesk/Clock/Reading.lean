import ReviewDesk.Number.Double

set_option autoImplicit false

namespace ReviewDesk

open Number

inductive Reading where
  | exact (seconds : Rat)
  | double (seconds : Double)
deriving DecidableEq

namespace Reading

def zero : Reading := .exact 0

def toDouble : Reading → Double
  | exact q => .ofRat q
  | double x => x

def since (now earlier : Reading) : Reading :=
  match now, earlier with
  | exact q, exact r => exact (q - r)
  | _, _ => double (now.toDouble.sub earlier.toDouble)

def lessThan (elapsed : Reading) (bound : Rat) : Bool :=
  match elapsed with
  | exact q => q < bound
  | double x => x.lessThan bound

def atLeast (elapsed : Reading) (bound : Rat) : Bool :=
  match elapsed with
  | exact q => bound ≤ q
  | double x => x.atLeast bound

def value? : Reading → Option Rat
  | exact q => some q
  | double x => x.value?

end Reading

end ReviewDesk
