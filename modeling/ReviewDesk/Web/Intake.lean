import ReviewDesk.Json.Reader
import ReviewDesk.Schema.Submission
import ReviewDesk.Web.Refusal

set_option autoImplicit false

namespace ReviewDesk.Web

open Text

def missingBody : Answer := .ok (.invalid [⟨.missing, []⟩])

def notAttributes (body : Json) : Answer := Refusal.answer body [⟨.notAttributes, []⟩]

def unreadableBody : Answer := .ok (.detail 400 "There was an error parsing the body")

def submissionOfJson : Json → Except Answer Submission
  | .object members => (Submission.ofMembers members).mapError (Refusal.answer (.object members))
  | body => .error (notAttributes body)

-- As for a reply, but with forty calls around the reader, which has been measured too.
def depthLimit : Nat := 960

def bodyText? (body : String) : Option CodePoints :=
  match body.toList with
  | '\ufeff' :: rest => some (.ofChars rest)
  | text =>
    match Encoding.detect body.toUTF8.toList with
    | .utf8 => some (.ofChars text)
    | encoding => encoding.decode? body.toUTF8.toList

def submissionOfText (body : String) : Except Answer Submission :=
  if body = "" then .error missingBody
  else
    match bodyText? body with
    | none => .error unreadableBody
    | some text =>
      match Json.read (.upTo depthLimit) text with
      | .ok value => submissionOfJson value
      | .error (.malformed position) =>
        .error (.ok (.invalid [⟨.notJson, [.index position]⟩]))
      | .error (.tooManyDigits _) | .error (.tooDeep _) => .error unreadableBody

-- A value of null is not sent, while a text that spells null is a body like any other.
def submission : Body → Except Answer Submission
  | .absent | .json .null => .error missingBody
  | .json value => submissionOfJson value
  | .raw text => submissionOfText text
  | .form fields => .error (if fields.isEmpty then missingBody else notAttributes .null)

structure FormEntry where
  code : String
  language : String
  useAI : Bool
deriving DecidableEq

def fieldOr (fallback : String) (fields : Pairs) (name : String) : String :=
  match fields.get? name with
  | some "" | none => fallback
  | some value => value

def FormEntry.ofFields (fields : Pairs) : Checked FormEntry :=
  let code := fieldOr "" fields "code"
  let language := fieldOr "javascript" fields "language"
  match fieldOr "" fields "use_ai" with
  | "" => .ok ⟨code, language, false⟩
  | word =>
    (Checked.within (.field "use_ai") (Json.boolWord word)).map fun useAI =>
      ⟨code, language, useAI⟩

def fieldLimit : Nat := 1000

def tooManyFields : Response :=
  .detail 400 ("Too many fields. Maximum number of fields is " ++ toString fieldLimit ++ ".")

-- Only a form body has fields; every other body leaves all of them to their defaults.
def formEntry : Body → Except Response FormEntry
  | .form fields =>
    if fieldLimit < fields.length then .error tooManyFields
    else (FormEntry.ofFields fields).mapError .invalid
  | _ => (FormEntry.ofFields []).mapError .invalid

end ReviewDesk.Web
