import ReviewDesk.Text.CodePoint

set_option autoImplicit false

namespace ReviewDesk

open Text

inductive Flaw where
  | missing
  | notObject
  | notAttributes
  | notList
  | notMap
  | notText
  | brokenText
  | notLiteral
  | notBool
  | unreadableBool
  | notInt
  | unreadableInt
  | fractionalInt
  | oversizedInt
  | infiniteInt
  | tooSmall
  | tooLarge
  | notJson
deriving DecidableEq

def Flaw.name : Flaw → String
  | missing => "missing"
  | notObject => "model_type"
  | notAttributes => "model_attributes_type"
  | notList => "list_type"
  | notMap => "dict_type"
  | notText => "string_type"
  | brokenText => "string_unicode"
  | notLiteral => "literal_error"
  | notBool => "bool_type"
  | unreadableBool => "bool_parsing"
  | notInt => "int_type"
  | unreadableInt => "int_parsing"
  | fractionalInt => "int_from_float"
  | oversizedInt => "int_parsing_size"
  | infiniteInt => "finite_number"
  | tooSmall => "greater_than_equal"
  | tooLarge => "less_than_equal"
  | notJson => "json_invalid"

inductive Step where
  | field (name : CodePoints)
  | index (position : Nat)
deriving DecidableEq

structure Fault where
  flaw : Flaw
  location : List Step
deriving DecidableEq

def Fault.within (step : Step) (fault : Fault) : Fault :=
  { fault with location := step :: fault.location }

abbrev Checked (α : Type) := Except (List Fault) α

namespace Checked

variable {α β : Type}

def fail (flaw : Flaw) : Checked α := .error [⟨flaw, []⟩]

def within (step : Step) (checked : Checked α) : Checked α :=
  checked.mapError (·.map (Fault.within step))

def both (function : Checked (α → β)) (argument : Checked α) : Checked β :=
  match function, argument with
  | .ok f, .ok x => .ok (f x)
  | .ok _, .error faults => .error faults
  | .error faults, .ok _ => .error faults
  | .error first, .error second => .error (first ++ second)

def all : List (Checked α) → Checked (List α)
  | [] => .ok []
  | first :: rest => both (first.map List.cons) (all rest)

end Checked

end ReviewDesk
