set_option autoImplicit false

namespace ReviewDesk.Number

def nearestEven (q : Rat) : Int :=
  let below := q.floor
  let excess := q - below
  if excess < 1 / 2 then below
  else if 1 / 2 < excess then below + 1
  else if below % 2 = 0 then below
  else below + 1

def clamp (low high q : Rat) : Rat := if high < q then high else if q < low then low else q

def pow2 (exponent : Int) : Rat :=
  if 0 ≤ exponent then 2 ^ exponent.toNat else 1 / 2 ^ (-exponent).toNat

def pow10 (exponent : Int) : Rat :=
  if 0 ≤ exponent then 10 ^ exponent.toNat else 1 / 10 ^ (-exponent).toNat

def log2 (q : Rat) : Int :=
  let estimate : Int := (q.num.natAbs.log2 : Int) - q.den.log2
  if pow2 estimate ≤ q then estimate else estimate - 1

end ReviewDesk.Number
