import ReviewDesk.Number.Numeral

set_option autoImplicit false

namespace ReviewDesk.Number

open Text

inductive WholeFault where
  | unreadable
  | oversized
deriving DecidableEq

namespace Whole

def magnitude? : List Char → Option Nat
  | ['0'] => some 0
  | c :: rest =>
    if isOneToNine c && rest.all isAsciiDigit && rest.length < digitLimit then
      some (Nat.ofDigitChars 10 (c :: rest) 0)
    else none
  | [] => none

def plain? (text : List Char) : Option Int :=
  let (negative, body) := splitMinus text
  (magnitude? body).map (negateIf negative)

def isOversized (text : List Char) : Bool :=
  let body := (splitMinus text).2
  body.head?.any isOneToNine && digitLimit < (body.takeWhile isAsciiDigit).length

-- A zero at the start is dropped together with the zeros and underscores after it, up to what
-- starts the number. The last character always stays, and so does the one before a point.
def dropZeros : List Char → Option (List Char)
  | [] => none
  | [c] => some [c]
  | c :: d :: rest =>
    if d == '0' || d == '_' then dropZeros (d :: rest)
    else if isOneToNine d || d == '-' then some (d :: rest)
    else if d == '.' then some (c :: d :: rest)
    else none

def dropLeadingZeros : List Char → Option (List Char)
  | [] => none
  | c :: rest =>
    if c == '0' then dropZeros (c :: rest)
    else if isOneToNine c || c == '-' then some (c :: rest)
    else none

def dropZeroFraction (text : List Char) : List Char :=
  let fraction := text.dropWhile (· ≠ '.')
  if 2 ≤ fraction.length && (fraction.drop 1).all (· == '0') then text.takeWhile (· ≠ '.')
  else text

def dropUnderscores (text : List Char) : List Char :=
  if text.head? = some '_' || text.getLast? = some '_' || contains ['_', '_'] text then text
  else text.filter (· ≠ '_')

def bareOf (body : List Char) : Option (List Char) :=
  (dropLeadingZeros body).map fun rest => dropUnderscores (dropZeroFraction rest)

def bare? (text : List Char) : Option (List Char) :=
  match trim isSpace text with
  | '+' :: '-' :: _ => none
  | '-' :: '-' :: _ => none
  | '+' :: body => bareOf body
  | '-' :: body => (bareOf body).map ('-' :: ·)
  | body => bareOf body

end Whole

def whole (text : List Char) : Except WholeFault Int :=
  if Whole.isOversized text then .error .oversized
  else
    match (Whole.bare? text).bind Whole.plain? with
    | some n => .ok n
    | none => .error .unreadable

end ReviewDesk.Number
