import ReviewDesk.Json.Value
import ReviewDesk.Number.Shortest
import ReviewDesk.Text.Quoted

set_option autoImplicit false

namespace ReviewDesk.Json

open Number Text

def unitEscape (unit : Nat) : List Char := '\\' :: 'u' :: hex 4 unit

def asciiEscape (point : CodePoint) : List Char :=
  let n := point.toNat
  if n < 0x10000 then unitEscape n
  else unitEscape (0xd800 + (n - 0x10000) / 0x400) ++ unitEscape (0xdc00 + (n - 0x10000) % 0x400)

structure Style where
  ascii : Bool
  spaced : Bool
deriving DecidableEq

namespace Style

def plain : Style := ⟨true, true⟩

def compact : Style := ⟨false, false⟩

def gap (style : Style) : CodePoints := if style.spaced then " " else ""

end Style

def shortEscapes : List (Char × Char) := [
  ('"', '"'), ('\\', '\\'), ('\n', 'n'), ('\r', 'r'), ('\t', 't'), ('\x0c', 'f'), ('\x08', 'b')]

def shortEscape? (c : Char) : Option Char := shortEscapes.lookup c

def isAscii (c : Char) : Bool := c ≤ '~'

def isNumeric (ascii : Bool) (point : CodePoint) : Bool :=
  point.satisfies isControl || (ascii && !point.satisfies isAscii)

def printPoint (ascii : Bool) (point : CodePoint) : CodePoints :=
  match point.char?.bind shortEscape? with
  | some mark => [.char '\\', .char mark]
  | none => if isNumeric ascii point then .ofChars (asciiEscape point) else [point]

def printText (ascii : Bool) (text : CodePoints) : CodePoints :=
  .char '"' :: (text.flatMap (printPoint ascii) ++ [.char '"'])

def printInt (n : Int) : List Char :=
  Double.signed (n < 0) (Nat.toDigits 10 n.natAbs)

def printReal : Double → List Char
  | .nan => "NaN".toList
  | .infinite negative => Double.signed negative "Infinity".toList
  | finite => finite.text.toList

mutual

def print (style : Style) : Json → CodePoints
  | .null => "null"
  | .bool true => "true"
  | .bool false => "false"
  | .int n => .ofChars (printInt n)
  | .real x => .ofChars (printReal x)
  | .text s => printText style.ascii s
  | .list items => .char '[' :: (printItems style items ++ [.char ']'])
  | .object members => .char '{' :: (printMembers style members ++ [.char '}'])

def printItems (style : Style) : List Json → CodePoints
  | [] => []
  | [item] => print style item
  | item :: rest => print style item ++ .char ',' :: (style.gap ++ printItems style rest)

def printMembers (style : Style) : Members → CodePoints
  | [] => []
  | [(name, value)] => printText style.ascii name ++ .char ':' :: (style.gap ++ print style value)
  | (name, value) :: rest =>
    printText style.ascii name ++ .char ':' :: (style.gap ++ (print style value ++
      .char ',' :: (style.gap ++ printMembers style rest)))

end

end ReviewDesk.Json
