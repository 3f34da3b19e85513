import ReviewDesk.Report.Markdown
import ReviewDesk.Text.Encoding
import ReviewDesk.Text.Word

set_option autoImplicit false

namespace ReviewDesk.Download

open Text

def nameLimit : Nat := 40

def isNameChar (c : Char) : Bool := isWord c || c == '-'

def safeName (language : String) : List Char :=
  trim (· == '_')
    (((strip language.toList).map fun c => if isNameChar c then c else '_').take nameLimit)

def baseName (language : String) : String :=
  match safeName language with
  | [] => "code_review"
  | name => String.ofList name ++ "_code_review"

def disposition (language : String) : String :=
  "attachment; filename=\"" ++ baseName language ++ ".md\""

structure Attachment where
  contentType : String
  disposition : String
  body : String
deriving DecidableEq

inductive Failure where
  | stamp (fault : Stamp.Fault)
  | charset (fault : Charset.Fault)
deriving DecidableEq

def Failure.message : Failure → String
  | stamp fault => fault.message
  | charset fault => fault.message

def attachment (language : String) (result : Assessment) (now : Reading) :
    Except Failure Attachment :=
  match Stamp.ofReading now with
  | .error fault => .error (.stamp fault)
  | .ok written =>
    match Charset.sendable (Markdown.report language result written),
      Charset.latin1.fault? (disposition language) with
    | .error fault, _ | .ok _, some fault => .error (.charset fault)
    | .ok body, none => .ok ⟨"text/markdown; charset=utf-8", disposition language, body⟩

end ReviewDesk.Download
