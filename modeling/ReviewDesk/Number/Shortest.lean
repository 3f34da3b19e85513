import ReviewDesk.Number.Double

set_option autoImplicit false

namespace ReviewDesk.Number

/-- `digits` read as a fraction `0.d₁d₂…` times ten to `point`. -/
structure Decimal where
  digits : List Char
  point : Int

namespace Double

/-- The numbers that round to a positive double: both ends count when its significand is even. -/
structure Basin where
  low : Rat
  high : Rat
  closed : Bool

def basin (significand : Nat) (exponent : Int) : Basin where
  low := (significand : Rat) * pow2 exponent -
    -- Below a power of two the doubles lie twice as close.
    (if significand = normalSignificand && leastExponent < exponent then pow2 (exponent - 2)
      else pow2 (exponent - 1))
  high := (significand : Rat) * pow2 exponent + pow2 (exponent - 1)
  closed := significand % 2 = 0

def Basin.holds (basin : Basin) (q : Rat) : Bool :=
  if basin.closed then basin.low ≤ q && q ≤ basin.high else basin.low < q && q < basin.high

def pointOf (q : Rat) : Int :=
  let estimate : Int := ((Nat.toDigits 10 q.num.natAbs).length : Int) -
    (Nat.toDigits 10 q.den).length
  if q < pow10 estimate then estimate else estimate + 1

/-- The multiple of `unit` next to `q` that rounds to the double, the nearer one of two. -/
def onGrid (basin : Basin) (q unit : Rat) : Option Nat :=
  let below := (q / unit).floor
  let above := below + 1
  match basin.holds (below * unit), basin.holds (above * unit) with
  | false, false => none
  | true, false => some below.toNat
  | false, true => some above.toNat
  | true, true => some (nearestEven (q / unit)).toNat

def withoutTrailingZeros (digits : List Char) : List Char :=
  (digits.reverse.dropWhile (· == '0')).reverse

-- Seventeen digits always suffice, so the search starts with a budget of seventeen.
def search (basin : Basin) (q : Rat) (point : Int) (size : Nat) : Nat → Option Decimal
  | 0 => none
  | budget + 1 =>
    match onGrid basin q (pow10 (point - size)) with
    | some multiple =>
      let digits := Nat.toDigits 10 multiple
      some ⟨withoutTrailingZeros digits, point - size + digits.length⟩
    | none => search basin q point (size + 1) budget

/-- The fewest digits that read back, and of those the nearest to the value. -/
def shortest (significand : Nat) (exponent : Int) : Decimal :=
  let q := (significand : Rat) * pow2 exponent
  (search (basin significand exponent) q (pointOf q) 1 17).getD ⟨['0'], 1⟩

def zeroes (n : Nat) : List Char := List.replicate n '0'

def exponentText (exponent : Int) : List Char :=
  let digits := Nat.toDigits 10 exponent.natAbs
  'e' :: (if exponent < 0 then '-' else '+') :: (zeroes (2 - digits.length) ++ digits)

def layOut (decimal : Decimal) : List Char :=
  let ⟨digits, point⟩ := decimal
  if -4 < point && point ≤ 16 then
    if point ≤ 0 then '0' :: '.' :: (zeroes (-point).toNat ++ digits)
    else
      let whole := point.toNat
      if digits.length ≤ whole then digits ++ zeroes (whole - digits.length) ++ ['.', '0']
      else digits.take whole ++ '.' :: digits.drop whole
  else
    let fraction := digits.drop 1
    digits.take 1 ++ (if fraction.isEmpty then [] else '.' :: fraction) ++ exponentText (point - 1)

def signed (negative : Bool) (text : List Char) : List Char :=
  if negative then '-' :: text else text

def text : Double → String
  | .nan => "nan"
  | .infinite negative => String.ofList (signed negative ['i', 'n', 'f'])
  | .finite negative significand exponent =>
    String.ofList (signed negative
      (if significand = 0 then ['0', '.', '0'] else layOut (shortest significand exponent)))

end Double

end ReviewDesk.Number
