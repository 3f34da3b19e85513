import ReviewDesk.Text.CodePoint
import ReviewDesk.Text.Quoted

set_option autoImplicit false

namespace ReviewDesk.Text

inductive Encoding where
  | utf8
  | utf16 (littleEndian : Bool)
  | utf32 (littleEndian : Bool)
deriving DecidableEq

namespace Encoding

/-- A text starts with two ASCII characters, so the zeros among its first four bytes give its
encoding away. Of three bytes nothing is concluded. -/
def detect : List UInt8 → Encoding
  | 0 :: 0 :: _ :: _ :: _ => utf32 false
  | 0 :: _ :: _ :: _ :: _ => utf16 false
  | _ :: 0 :: 0 :: 0 :: _ => utf32 true
  | _ :: 0 :: _ :: _ :: _ => utf16 true
  | [0, _] => utf16 false
  | [_, 0] => utf16 true
  | _ => utf8

def number (littleEndian : Bool) (bytes : List UInt8) : Nat :=
  (if littleEndian then bytes.reverse else bytes).foldl (fun n byte => 256 * n + byte.toNat) 0

def units16? (littleEndian : Bool) : List UInt8 → Option (List Nat)
  | [] => some []
  | [_] => none
  | a :: b :: rest => (units16? littleEndian rest).map (number littleEndian [a, b] :: ·)

def units32? (littleEndian : Bool) : List UInt8 → Option (List Nat)
  | [] => some []
  | a :: b :: c :: d :: rest =>
    let unit := number littleEndian [a, b, c, d]
    if unit < 0x110000 then (units32? littleEndian rest).map (unit :: ·) else none
  | _ => none

def decode? (encoding : Encoding) (bytes : List UInt8) : Option CodePoints :=
  match encoding with
  | utf8 => (String.fromUTF8? ⟨bytes.toArray⟩).map CodePoints.ofString
  | utf16 littleEndian =>
    (units16? littleEndian bytes).map fun units => .ofSpellings (units.map .unit)
  | utf32 littleEndian => (units32? littleEndian bytes).map (·.map .ofNat)

end Encoding

inductive Charset where
  | latin1
  | utf8
deriving DecidableEq

namespace Charset

def name : Charset → String
  | latin1 => "latin-1"
  | utf8 => "utf-8"

def holds : Charset → CodePoint → Bool
  | latin1, point => point.toNat < 256
  | utf8, point => point.char?.isSome

def refusal : Charset → String
  | latin1 => "ordinal not in range(256)"
  | utf8 => "surrogates not allowed"

structure Fault where
  charset : Charset
  first : Nat
  stretch : CodePoints
deriving DecidableEq

def fault? (charset : Charset) (text : CodePoints) : Option Fault :=
  match (text.dropWhile charset.holds).takeWhile (!charset.holds ·) with
  | [] => none
  | stretch => some ⟨charset, (text.takeWhile charset.holds).length, stretch⟩

theorem fault?_eq_none_iff (charset : Charset) (text : CodePoints) :
    charset.fault? text = none ↔ ∀ point ∈ text, charset.holds point = true := by
  induction text with
  | nil => simp [fault?]
  | cons point rest ih =>
    cases held : charset.holds point with
    | false => simp [fault?, held]
    | true =>
      have step : charset.fault? (point :: rest) = none ↔ charset.fault? rest = none := by
        simp only [fault?, List.dropWhile_cons, held, if_true]
        split <;> simp_all
      simp [step, ih, held]

def Fault.place (fault : Fault) : String :=
  match fault.stretch with
  | [point] =>
    "character '" ++ String.ofList (numericEscape point.toNat) ++ "' in position " ++
      toString fault.first
  | stretch =>
    "characters in position " ++ toString fault.first ++ "-" ++
      toString (fault.first + stretch.length - 1)

def Fault.message (fault : Fault) : String :=
  "'" ++ fault.charset.name ++ "' codec can't encode " ++ fault.place ++ ": " ++
    fault.charset.refusal

def sendable (text : CodePoints) : Except Fault String :=
  match utf8.fault? text with
  | some fault => .error fault
  | none => .ok (CodePoints.legible text)

theorem ofString_of_sendable {text : CodePoints} {sent : String}
    (accepted : sendable text = .ok sent) : CodePoints.ofString sent = text := by
  unfold sendable at accepted
  split at accepted
  next => contradiction
  next held =>
    injection accepted with same
    rw [← same]
    exact text.ofString_legible ((fault?_eq_none_iff utf8 text).mp held)

end Charset

end ReviewDesk.Text
