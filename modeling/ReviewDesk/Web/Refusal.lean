import ReviewDesk.Json.Printer
import ReviewDesk.Web.Breakdown

set_option autoImplicit false

namespace ReviewDesk

def Flaw.message : Flaw → String
  | missing => "Field required"
  | notObject => "Input should be a valid dictionary"
  | notAttributes => "Input should be a valid dictionary or object to extract fields from"
  | notList => "Input should be a valid list"
  | notMap => "Input should be a valid dictionary"
  | notText => "Input should be a valid string"
  | brokenText => "Input should be a valid string, unable to parse raw data as a unicode string"
  | notLiteral => "Input should be one of the permitted values"
  | notBool => "Input should be a valid boolean"
  | unreadableBool => "Input should be a valid boolean, unable to interpret input"
  | notInt => "Input should be a valid integer"
  | unreadableInt => "Input should be a valid integer, unable to parse string as an integer"
  | fractionalInt => "Input should be a valid integer, got a number with a fractional part"
  | oversizedInt => "Unable to parse input string as an integer, exceeded maximum size"
  | infiniteInt => "Input should be a finite number"
  | tooSmall => "Input should be greater than or equal to 0"
  | tooLarge => "Input should be less than or equal to 100"
  | notJson => "JSON decode error"

namespace Web.Refusal

open Text

/-- The part of a body that a fault is about; of a missing field it is what should have held it. -/
def subject (body : Json) (fault : Fault) : Json :=
  match body, fault with
  | .object members, ⟨flaw, [.field name]⟩ =>
    if flaw = .missing then body else (Json.member? members name).getD body
  | _, _ => body

mutual

-- Names that start like this are internal, and what they hold is not sent back.
def echo : Json → Json
  | .list items => .list (echoItems items)
  | .object members => .object (echoMembers members)
  | value => value

def echoItems : List Json → List Json
  | [] => []
  | item :: rest => echo item :: echoItems rest

def echoMembers : Json.Members → Json.Members
  | [] => []
  | (name, value) :: rest =>
    if startsWith "_sa" name then echoMembers rest
    else (name, echo value) :: echoMembers rest

end

def stepJson : Step → Json
  | .field name => .text name
  | .index position => .int position

def entry (body : Json) (fault : Fault) : Json := .object [
  ("type", .text fault.flaw.name),
  ("loc", .list (.text "body" :: fault.location.map stepJson)),
  ("msg", .text fault.flaw.message),
  ("input", echo (subject body fault))]

def content (body : Json) (faults : List Fault) : Json :=
  .object [("detail", .list (faults.map (entry body)))]

def answer (body : Json) (faults : List Fault) : Answer :=
  let content := content body faults
  if !content.isFinite then .error .nonFinite
  else
    match Charset.utf8.fault? (Json.print .compact content) with
    | some fault => .error (.writing fault)
    | none => .ok (.invalid faults)

end Web.Refusal

end ReviewDesk
