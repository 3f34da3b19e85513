import ReviewDesk.Text.CodePoint
import ReviewDesk.Text.Quoted

set_option autoImplicit false

namespace ReviewDesk

open Text

inductive Kind where
  | error
  | warning
  | suggestion
  | info
deriving DecidableEq

namespace Kind

def all : List Kind := [.error, .warning, .suggestion, .info]

theorem mem_all (kind : Kind) : kind ∈ all := by cases kind <;> simp [all]

def name : Kind → String
  | error => "error"
  | warning => "warning"
  | suggestion => "suggestion"
  | info => "info"

def ofName? : String → Option Kind
  | "error" => some .error
  | "warning" => some .warning
  | "suggestion" => some .suggestion
  | "info" => some .info
  | _ => none

@[simp] theorem ofName?_name (kind : Kind) : ofName? kind.name = some kind := by
  cases kind <;> rfl

end Kind

inductive Severity where
  | high
  | medium
  | low
deriving DecidableEq

namespace Severity

def name : Severity → String
  | high => "high"
  | medium => "medium"
  | low => "low"

def ofName? : String → Option Severity
  | "high" => some .high
  | "medium" => some .medium
  | "low" => some .low
  | _ => none

@[simp] theorem ofName?_name (severity : Severity) : ofName? severity.name = some severity := by
  cases severity <;> rfl

end Severity

structure Issue where
  kind : Kind
  title : CodePoints
  description : CodePoints
  severity : Severity
  line : Option Int
deriving DecidableEq

def Issue.place (issue : Issue) : String :=
  match issue.line with
  | some line => "Line " ++ toString line
  | none => "File"

inductive UnknownName where
  | kind (name : String)
  | severity (name : String)

def Kind.named (name : String) : Except UnknownName Kind :=
  match Kind.ofName? name with
  | some kind => .ok kind
  | none => .error (.kind name)

def Severity.named (name : String) : Except UnknownName Severity :=
  match Severity.ofName? name with
  | some severity => .ok severity
  | none => .error (.severity name)

def UnknownName.message : UnknownName → String
  | kind name => quoted name ++ " is not a valid IssueType"
  | severity name => quoted name ++ " is not a valid Severity"

end ReviewDesk
