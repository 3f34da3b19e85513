import ReviewDesk.Number.Double
import ReviewDesk.Text.Blank
import ReviewDesk.Text.Digit

set_option autoImplicit false

namespace ReviewDesk.Number

open ReviewDesk.Text

def digitLimit : Nat := 4300

def ofDigits (digits : List Nat) : Nat := digits.foldl (fun n d => 10 * n + d) 0

def asciiDigit? (c : Char) : Option Nat :=
  if isAsciiDigit c then some (c.toNat - '0'.toNat) else none

def groupedDigits? : List Char → Option (List Nat)
  | [] => none
  | [c] => (digitValue? c).map ([·])
  | c :: '_' :: rest => do return (← digitValue? c) :: (← groupedDigits? rest)
  | c :: rest => do return (← digitValue? c) :: (← groupedDigits? rest)

def splitMinus : List Char → Bool × List Char
  | '-' :: rest => (true, rest)
  | text => (false, text)

def splitSign : List Char → Bool × List Char
  | '-' :: rest => (true, rest)
  | '+' :: rest => (false, rest)
  | text => (false, text)

def negateIf (negative : Bool) (n : Nat) : Int := if negative then -n else n

def boundedInt? (negative : Bool) (digits : List Nat) : Option Int :=
  if digits.length ≤ digitLimit then some (negateIf negative (ofDigits digits)) else none

def integer? (text : List Char) : Option Int :=
  let (negative, body) := splitSign (trim isSpace text)
  (groupedDigits? body).bind (boundedInt? negative)

def ungroup? : List Char → Option (List Char)
  | '_' :: _ => none
  | [c] => some [c]
  | c :: '_' :: d :: rest =>
    if isAsciiDigit c && isAsciiDigit d then (ungroup? (d :: rest)).map (c :: ·) else none
  | c :: rest => (ungroup? rest).map (c :: ·)
  | [] => some []

def toAsciiDigit (c : Char) : Char :=
  match digitValue? c with
  | some d => Char.ofNat ('0'.toNat + d)
  | none => c

def asciiLower (text : List Char) : List Char := text.map Char.toLower

def exponent? : List Char → Option Int
  | [] => some 0
  | c :: rest =>
    if c == 'e' || c == 'E' then
      let (negative, digits) := splitSign rest
      if digits.isEmpty then none
      else (digits.mapM asciiDigit?).map fun ds => negateIf negative (ofDigits ds)
    else none

def decimal? (negative : Bool) (text : List Char) : Option Double :=
  let whole := text.takeWhile isAsciiDigit
  let afterWhole := text.dropWhile isAsciiDigit
  let (fraction, tail) :=
    match afterWhole with
    | '.' :: rest => (rest.takeWhile isAsciiDigit, rest.dropWhile isAsciiDigit)
    | _ => ([], afterWhole)
  if whole.isEmpty && fraction.isEmpty then none
  else
    (exponent? tail).map fun exponent =>
      Double.ofDecimal negative (Nat.ofDigitChars 10 (whole ++ fraction) 0)
        (exponent - fraction.length)

def magnitude? (negative : Bool) (text : List Char) : Option Double :=
  let word := String.ofList (asciiLower text)
  if word == "inf" || word == "infinity" then some (.infinite negative)
  else if word == "nan" then some .nan
  else decimal? negative text

def real? (text : List Char) : Option Double :=
  (ungroup? ((trim isSpace text).map toAsciiDigit)).bind fun plain =>
    let (negative, body) := splitSign plain
    magnitude? negative body

end ReviewDesk.Number
