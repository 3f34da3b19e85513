import ReviewDesk.Number.Double
import ReviewDesk.Text.CodePoint

set_option autoImplicit false

namespace ReviewDesk

open Number Text

/-- How the provider behaves: it refuses to be set up, fails on the call, or answers. -/
inductive Provider where
  | refuses (message : CodePoints)
  | fails (message : CodePoints)
  | noChoices
  | replies (content : Option CodePoints)
deriving DecidableEq

structure Message where
  role : String
  content : CodePoints
deriving DecidableEq

structure Completion where
  model : String
  messages : List Message
  maxTokens : Int
  temperature : Option Double
  topP : Option Double
  timeout : Option Double
deriving DecidableEq

inductive Call where
  | connect (apiKey baseUrl : String) (timeout : Option Double)
  | complete (completion : Completion)
deriving DecidableEq

def Call.isConnect : Call → Bool
  | connect .. => true
  | complete _ => false

end ReviewDesk
