import ReviewDesk.Json.Value
import ReviewDesk.Number.Numeral

set_option autoImplicit false

namespace ReviewDesk.Json

open Number Text

inductive Container where
  | array
  | object
deriving DecidableEq

def Container.name : Container → String
  | array => "array"
  | object => "object"

structure Bounds where
  digits : Option Nat
  depth : Option Nat
deriving DecidableEq

namespace Bounds

def none : Bounds := ⟨Option.none, Option.none⟩

def upTo (depth : Nat) : Bounds := ⟨some digitLimit, some depth⟩

def admits (bounds : Bounds) (level : Nat) : Bool := bounds.depth.all (level < ·)

end Bounds

inductive ReadFault where
  | malformed (position : Nat)
  | tooManyDigits (count : Nat)
  | tooDeep (container : Container)
deriving DecidableEq

namespace Reader

-- While reading, a place is the text that remains from it on.
inductive Stop where
  | malformed (rest : CodePoints)
  | tooManyDigits (count : Nat)
  | tooDeep (container : Container)

abbrev Read (α : Type) := Except Stop (α × CodePoints)

def isBlank (c : Char) : Bool := c == ' ' || c == '\t' || c == '\n' || c == '\r'

def skipBlanks (place : CodePoints) : CodePoints := place.dropWhile (·.satisfies isBlank)

def hexValue? (point : CodePoint) : Option Nat := point.char?.bind hexDigit?

def hexUnit? (a b c d : CodePoint) : Option Nat := do
  return 4096 * (← hexValue? a) + 256 * (← hexValue? b) + 16 * (← hexValue? c) + (← hexValue? d)

def escaped? : CodePoint → Option CodePoint
  | .char '"' => some (.char '"')
  | .char '\\' => some (.char '\\')
  | .char '/' => some (.char '/')
  | .char 'b' => some (.char '\x08')
  | .char 'f' => some (.char '\x0c')
  | .char 'n' => some (.char '\n')
  | .char 'r' => some (.char '\r')
  | .char 't' => some (.char '\t')
  | _ => none

def prepend {α : Type} (head : α) : Read (List α) → Read (List α)
  | .ok (tail, rest) => .ok (head :: tail, rest)
  | .error stop => .error stop

/-- What is spelled up to the closing quote; `opening` is the place of the opening one. Numeric
escapes are code units. -/
def readSpellings (opening : CodePoints) : CodePoints → Read (List Spelling)
  | [] => .error (.malformed opening)
  | .char '"' :: rest => .ok ([], rest)
  | .char '\\' :: [] => .error (.malformed opening)
  | .char '\\' :: .char 'u' :: a :: b :: c :: d :: next :: rest =>
    match hexUnit? a b c d with
    | some unit => prepend (.unit unit) (readSpellings opening (next :: rest))
    | none => .error (.malformed (.char 'u' :: a :: b :: c :: d :: next :: rest))
  | .char '\\' :: .char 'u' :: rest => .error (.malformed (.char 'u' :: rest))
  | .char '\\' :: mark :: rest =>
    match escaped? mark with
    | some point => prepend (.point point) (readSpellings opening rest)
    | none => .error (.malformed (.char '\\' :: mark :: rest))
  | point :: rest =>
    if point.satisfies isControl then .error (.malformed (point :: rest))
    else prepend (.point point) (readSpellings opening rest)

def readText (opening rest : CodePoints) : Read CodePoints :=
  (readSpellings opening rest).map fun (spellings, after) => (.ofSpellings spellings, after)

structure Literal where
  negative : Bool
  whole : List Char
  fraction : List Char
  exponent : Option Int

def takeMinus : CodePoints → Bool × CodePoints
  | .char '-' :: rest => (true, rest)
  | place => (false, place)

def takeSign : CodePoints → Bool × CodePoints
  | .char '-' :: rest => (true, rest)
  | .char '+' :: rest => (false, rest)
  | place => (false, place)

def takeWhole? (place : CodePoints) : Option (List Char × CodePoints) :=
  match CodePoints.spanChars isAsciiDigit place with
  | ([], _) => none
  | ('0' :: _, _) => some (['0'], place.drop 1)
  | (digits, rest) => some (digits, rest)

-- A point without a digit after it, and a mark without an exponent, are not part of the number.
def takeFraction : CodePoints → List Char × CodePoints
  | .char '.' :: rest =>
    match CodePoints.spanChars isAsciiDigit rest with
    | ([], _) => ([], .char '.' :: rest)
    | (digits, after) => (digits, after)
  | place => ([], place)

def isExponentMark (c : Char) : Bool := c == 'e' || c == 'E'

def takeExponent : CodePoints → Option Int × CodePoints
  | [] => (none, [])
  | mark :: rest =>
    if mark.satisfies isExponentMark then
      let (negative, body) := takeSign rest
      match CodePoints.spanChars isAsciiDigit body with
      | ([], _) => (none, mark :: rest)
      | (digits, after) => (some (negateIf negative (Nat.ofDigitChars 10 digits 0)), after)
    else (none, mark :: rest)

def takeNumber? (place : CodePoints) : Option (Literal × CodePoints) :=
  let (negative, body) := takeMinus place
  (takeWhole? body).map fun (whole, rest) =>
    let (fraction, rest) := takeFraction rest
    let (exponent, rest) := takeExponent rest
    (⟨negative, whole, fraction, exponent⟩, rest)

def Literal.isWhole (literal : Literal) : Bool :=
  literal.fraction.isEmpty && literal.exponent.isNone

def Literal.value (bounds : Bounds) (literal : Literal) : Except Stop Json :=
  if literal.isWhole then
    if bounds.digits.any (· < literal.whole.length) then .error (.tooManyDigits literal.whole.length)
    else .ok (.int (negateIf literal.negative (Nat.ofDigitChars 10 literal.whole 0)))
  else
    .ok (.real (Double.ofDecimal literal.negative
      (Nat.ofDigitChars 10 (literal.whole ++ literal.fraction) 0)
      (literal.exponent.getD 0 - literal.fraction.length)))

def constants : List (CodePoints × Json) := [
  ("null", .null),
  ("true", .bool true),
  ("false", .bool false),
  ("NaN", .real .nan),
  ("Infinity", .real (.infinite false)),
  ("-Infinity", .real (.infinite true))]

def readPlain (bounds : Bounds) (place : CodePoints) : Read Json :=
  match constants.find? (fun constant => startsWith constant.1 place) with
  | some (name, value) => .ok (value, place.drop name.length)
  | none =>
    match takeNumber? place with
    | some (literal, rest) => (literal.value bounds).map (·, rest)
    | none => .error (.malformed place)

mutual

-- The first number bounds the depth of the recursion: every second step uses up a character, so
-- twice the length of the text is enough. The second one counts the containers around the place.
def readValue (bounds : Bounds) : Nat → Nat → CodePoints → Read Json
  | 0, _, place => .error (.malformed place)
  | fuel + 1, level, place =>
    match place with
    | .char '"' :: rest => (readText place rest).map fun (value, after) => (.text value, after)
    | .char '{' :: rest =>
      if bounds.admits level then
        match skipBlanks rest with
        | .char '}' :: after => .ok (.object [], after)
        | start =>
          (readMembers bounds fuel (level + 1) start).map fun (members, after) =>
            (Json.ofMembers members, after)
      else .error (.tooDeep .object)
    | .char '[' :: rest =>
      if bounds.admits level then
        match skipBlanks rest with
        | .char ']' :: after => .ok (.list [], after)
        | start =>
          (readItems bounds fuel (level + 1) start).map fun (items, after) => (.list items, after)
      else .error (.tooDeep .array)
    | _ => readPlain bounds place

def readItems (bounds : Bounds) : Nat → Nat → CodePoints → Read (List Json)
  | 0, _, place => .error (.malformed place)
  | fuel + 1, level, place =>
    match readValue bounds fuel level place with
    | .error stop => .error stop
    | .ok (value, rest) =>
      match skipBlanks rest with
      | .char ']' :: after => .ok ([value], after)
      | .char ',' :: more => prepend value (readItems bounds fuel level (skipBlanks more))
      | other => .error (.malformed other)

def readMembers (bounds : Bounds) : Nat → Nat → CodePoints → Read Members
  | 0, _, place => .error (.malformed place)
  | fuel + 1, level, place =>
    match place with
    | .char '"' :: rest =>
      match readText place rest with
      | .error stop => .error stop
      | .ok (name, rest) =>
        match skipBlanks rest with
        | .char ':' :: rest =>
          match readValue bounds fuel level (skipBlanks rest) with
          | .error stop => .error stop
          | .ok (value, rest) =>
            match skipBlanks rest with
            | .char '}' :: after => .ok ([(name, value)], after)
            | .char ',' :: more =>
              prepend (name, value) (readMembers bounds fuel level (skipBlanks more))
            | other => .error (.malformed other)
        | other => .error (.malformed other)
    | other => .error (.malformed other)

end

def readAll (bounds : Bounds) (place : CodePoints) : Except Stop Json :=
  match readValue bounds (2 * place.length + 2) 0 (skipBlanks place) with
  | .error stop => .error stop
  | .ok (value, rest) =>
    match skipBlanks rest with
    | [] => .ok value
    | extra => .error (.malformed extra)

def Stop.fault (place : CodePoints) : Stop → ReadFault
  | malformed rest => .malformed (place.length - rest.length)
  | tooManyDigits count => .tooManyDigits count
  | tooDeep container => .tooDeep container

end Reader

def read (bounds : Bounds) (source : CodePoints) : Except ReadFault Json :=
  (Reader.readAll bounds source).mapError (Reader.Stop.fault source)

end ReviewDesk.Json
