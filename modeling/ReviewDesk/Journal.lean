import ReviewDesk.Text.CodePoint

set_option autoImplicit false

namespace ReviewDesk

open Text

inductive Level where
  | info
  | warning
deriving DecidableEq

def Level.name : Level → String
  | info => "INFO"
  | warning => "WARNING"

inductive Event where
  | asking (language : CodePoints) (model : String)
  | answered (issues : Nat) (score : Int)
  | noObject
  | unreadableObject
  | objectExpected
  | providerUnavailable (reason : CodePoints)
  | providerFailed (reason : CodePoints)
  | fallbackDone (issues : Nat) (score : Int)
  | settingsFileMissing
  | settingsFileHint
  | keyMissing
deriving DecidableEq

namespace Event

def level : Event → Level
  | asking .. | answered .. | fallbackDone .. => .info
  | _ => .warning

def tallyText (issues : Nat) (score : Int) : String :=
  "Found " ++ toString issues ++ " issues. Score: " ++ toString score

-- What the decoder says of a malformed reply would follow its message here; it is left out, and so
-- is what is logged for debugging only.
def message : Event → CodePoints
  | asking language model =>
    "Analyzing " ++ language ++ " code with DeepSeek API (model=" ++ model ++ ")"
  | answered issues score => "Analysis completed. " ++ tallyText issues score
  | noObject => "No JSON found in AI response; returning text analysis"
  | unreadableObject => "Failed to parse AI response: "
  | objectExpected => "AI response JSON is not an object; returning text analysis"
  | providerUnavailable reason =>
    "AI analysis unavailable (" ++ reason ++ "); using rule-based analysis"
  | providerFailed reason => "AI analysis failed: " ++ reason
  | fallbackDone issues score => "Fallback analysis completed. " ++ tallyText issues score
  | settingsFileMissing => ".env file not found. AI analysis disabled; rule-based analysis only."
  | settingsFileHint =>
    "Create .env from .env.example and set DEEPSEEK_API_KEY for AI analysis."
  | keyMissing =>
    "DEEPSEEK_API_KEY not set in .env. AI analysis disabled; rule-based analysis only."

end Event

end ReviewDesk
