import ReviewDesk.Schema.Field

set_option autoImplicit false

namespace ReviewDesk

open Text

structure Submission where
  code : CodePoints
  language : CodePoints
  useAI : Bool
deriving DecidableEq

namespace Submission

def ofMembers (members : Json.Members) : Checked Submission :=
  Checked.both (Checked.both (Checked.both (.ok Submission.mk)
    (Json.required members "code" Json.asText))
    (Json.optional members "language" Json.asText "javascript"))
    (Json.optional members "use_ai" Json.asBool true)

def ofJson : Json → Checked Submission := Json.asRecord ofMembers

def toJson (submission : Submission) : Json := .object [
  ("code", .text submission.code),
  ("language", .text submission.language),
  ("use_ai", .bool submission.useAI)]

end Submission

end ReviewDesk
