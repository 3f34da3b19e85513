import ReviewDesk.Clock.Reading
import ReviewDesk.Provider.Prompt
import ReviewDesk.Settings
import ReviewDesk.Text.Search

set_option autoImplicit false

namespace ReviewDesk

open Number Text

structure Status where
  available : Bool
  reason : CodePoints
  keySet : Bool
  model : String
deriving DecidableEq

abbrev StatusCache := Option (Status × Reading)

namespace Status

def lifetime : Rat := 30

def placeholder : List Char := "your_api_key".toList

def unusableKey? (key : String) : Option String :=
  if key.length < 10 then some "DEEPSEEK_API_KEY appears invalid (too short)"
  else if startsWith placeholder key.toList then
    some "DEEPSEEK_API_KEY not configured (still using placeholder)"
  else none

def rejectionMarks : List CodePoints := ["401", "Unauthorized", "Invalid"]

def failureReason (message : CodePoints) : CodePoints :=
  if containsAny rejectionMarks message then "DEEPSEEK_API_KEY is invalid or expired"
  else if contains "timeout".toList (lower message.legible.toList) then
    "API request timed out (check network)"
  else "API test failed: " ++ message.take 100

def probeConnect (settings : Settings) : Call :=
  .connect settings.key settings.endpoint none

def probeCall (settings : Settings) : Call := .complete {
  model := settings.modelName
  messages := Prompt.probe
  maxTokens := 1
  temperature := none
  topP := none
  timeout := some (.ofInt 5) }

def probe (settings : Settings) (provider : Provider) : Status × List Call :=
  let failed (message : CodePoints) : Status :=
    ⟨false, failureReason message, true, settings.modelName⟩
  match provider with
  | .refuses message => (failed message, [probeConnect settings])
  | .fails message => (failed message, [probeConnect settings, probeCall settings])
  | _ =>
    (⟨true, "AI features available", true, settings.modelName⟩,
      [probeConnect settings, probeCall settings])

def fresh? (cache : StatusCache) (now : Reading) : Option Status :=
  cache.bind fun (status, probed) =>
    if (now.since probed).lessThan lifetime then some status else none

-- One reading stands for two of the clock, before the cache is looked up and after the probe. What
-- is told without a probe is not cached.
def current (cache : StatusCache) (settings : Settings) (provider : Provider) (now : Reading) :
    Status × StatusCache × List Call :=
  match fresh? cache now with
  | some status => (status, cache, [])
  | none =>
    if !settings.hasKey then
      (⟨false, "DEEPSEEK_API_KEY not set in .env", false, settings.modelName⟩, cache, [])
    else
      match unusableKey? settings.key with
      | some reason => (⟨false, reason, true, settings.modelName⟩, cache, [])
      | none =>
        let (status, calls) := probe settings provider
        (status, some (status, now), calls)

end Status

end ReviewDesk
