import ReviewDesk.Json.Value
import ReviewDesk.Number.Whole
import ReviewDesk.Schema.Fault

set_option autoImplicit false

namespace ReviewDesk.Json

open Number Text

def asText : Json → Checked CodePoints
  | .text s => .ok s
  | _ => Checked.fail .notText

def asLiteral {α : Type} (ofName? : String → Option α) : Json → Checked α
  | .text s =>
    match s.string?.bind ofName? with
    | some value => .ok value
    | none => Checked.fail .notLiteral
  | _ => Checked.fail .notLiteral

def trueWords : List String := ["1", "true", "t", "y", "yes", "on"]

def falseWords : List String := ["0", "false", "f", "n", "no", "off"]

def boolWord (s : String) : Checked Bool :=
  let word := String.ofList (asciiLower s.toList)
  if trueWords.contains word then .ok true
  else if falseWords.contains word then .ok false
  else Checked.fail .unreadableBool

def readable {α : Type} (s : CodePoints) (read : String → Checked α) : Checked α :=
  match s.string? with
  | some word => read word
  | none => Checked.fail .brokenText

def boolOfInt (n : Int) : Checked Bool :=
  if n = 1 then .ok true else if n = 0 then .ok false else Checked.fail .unreadableBool

def int64Limit : Int := 0x8000000000000000

def realAsInt (x : Double) : Checked Int :=
  match x.value? with
  | none => Checked.fail .infiniteInt
  | some q =>
    if q.den ≠ 1 then Checked.fail .fractionalInt
    else if -int64Limit < q.num && q.num < int64Limit then .ok q.num
    else Checked.fail .oversizedInt

def asBool : Json → Checked Bool
  | .bool b => .ok b
  | .int n =>
    if -int64Limit ≤ n && n < int64Limit then boolOfInt n else Checked.fail .notBool
  | .real x =>
    match realAsInt x with
    | .ok n => boolOfInt n
    | .error _ => Checked.fail .notBool
  | .text s => readable s boolWord
  | _ => Checked.fail .notBool

def intWord (s : String) : Checked Int :=
  match whole s.toList with
  | .ok n => .ok n
  | .error .unreadable => Checked.fail .unreadableInt
  | .error .oversized => Checked.fail .oversizedInt

def asInt : Json → Checked Int
  | .bool b => .ok (if b then 1 else 0)
  | .int n => .ok n
  | .real x => realAsInt x
  | .text s => readable s intWord
  | _ => Checked.fail .notInt

def asOptionalInt : Json → Checked (Option Int)
  | .null => .ok none
  | value => (asInt value).map some

def asListOf {α : Type} (check : Json → Checked α) : Json → Checked (List α)
  | .list items =>
    Checked.all (items.mapIdx fun position item =>
      Checked.within (.index position) (check item))
  | _ => Checked.fail .notList

def asMapOf {α : Type} (check : Json → Checked α) : Json → Checked (List (CodePoints × α))
  | .object members =>
    Checked.all (members.map fun (name, value) =>
      (Checked.within (.field name) (check value)).map (name, ·))
  | _ => Checked.fail .notMap

def required {α : Type} (members : Members) (name : CodePoints) (check : Json → Checked α) :
    Checked α :=
  Checked.within (.field name) <|
    match member? members name with
    | some value => check value
    | none => Checked.fail .missing

def optional {α : Type} (members : Members) (name : CodePoints) (check : Json → Checked α)
    (fallback : α) : Checked α :=
  match member? members name with
  | some value => Checked.within (.field name) (check value)
  | none => .ok fallback

def asRecord {α : Type} (check : Members → Checked α) : Json → Checked α
  | .object members => check members
  | _ => Checked.fail .notObject

end ReviewDesk.Json
