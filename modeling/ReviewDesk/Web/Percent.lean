import ReviewDesk.Text.Digit
import ReviewDesk.Text.Quoted

set_option autoImplicit false

namespace ReviewDesk.Web

open Text

def isUnreserved (c : Char) : Bool :=
  c.isAlphanum || c == '-' || c == '_' || c == '.' || c == '~'

def percentByte (byte : UInt8) : List Char := '%' :: (hex 2 byte.toNat).map Char.toUpper

def percentEncode (keeps : Char → Bool) (text : List Char) : List Char :=
  text.flatMap fun c =>
    if keeps c then [c] else (String.singleton c).toUTF8.toList.flatMap percentByte

def percentBytes : List Char → List UInt8
  | [] => []
  | '%' :: high :: low :: rest =>
    match hexDigit? high, hexDigit? low with
    | some h, some l => UInt8.ofNat (16 * h + l) :: percentBytes rest
    | _, _ => '%'.toUInt8 :: percentBytes (high :: low :: rest)
  | c :: rest => (String.singleton c).toUTF8.toList ++ percentBytes rest

-- Bytes that spell no text become the replacement character, which means nothing here.
def percentDecode (text : List Char) : List Char :=
  match String.fromUTF8? ⟨(percentBytes text).toArray⟩ with
  | some decoded => decoded.toList
  | none => ['\ufffd']

abbrev Pairs := List (String × String)

namespace Pairs

def encodePart (text : String) : List Char :=
  (percentEncode (fun c => isUnreserved c || c == ' ') text.toList).map fun c =>
    if c == ' ' then '+' else c

def decodePart (text : List Char) : String :=
  String.ofList (percentDecode (text.map fun c => if c == '+' then ' ' else c))

def encode (pairs : Pairs) : List Char :=
  ['&'].intercalate (pairs.map fun (name, value) => encodePart name ++ '=' :: encodePart value)

def decodePair (part : List Char) : String × String :=
  (decodePart (part.takeWhile (· ≠ '=')), decodePart ((part.dropWhile (· ≠ '=')).drop 1))

def decode (query : List Char) : Pairs :=
  ((query.splitOn '&').filter (!·.isEmpty)).map decodePair

def get? (pairs : Pairs) (name : String) : Option String := pairs.reverse.lookup name

end Pairs

end ReviewDesk.Web
