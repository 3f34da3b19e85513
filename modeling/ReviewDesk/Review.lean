import ReviewDesk.Analysis
import ReviewDesk.Provider.Prompt
import ReviewDesk.Reply
import ReviewDesk.Schema.Submission
import ReviewDesk.Settings

set_option autoImplicit false

namespace ReviewDesk

open Number Text

structure Outcome (ε α : Type) where
  result : Except ε α
  events : List Event
  calls : List Call

namespace Heuristic

def defaultExplanation : String := "Rule-based analysis completed."

def fallbackExplanation : String :=
  "AI analysis failed, using rule-based analysis as fallback."

-- The rules read characters, and no rule tells a surrogate from what stands for it here.
def assess (code language : CodePoints) (explanation : String) : Assessment :=
  let analysis := analyze code.legible language.legible
  .ofIssues analysis.issues analysis.score explanation .heuristic

end Heuristic

def check (submission : Submission) : Assessment :=
  Heuristic.assess submission.code submission.language Heuristic.defaultExplanation

inductive AskFailure where
  | unavailable
  | callFailed (message : CodePoints)
  | emptyReply
  | refused (message : CodePoints)
  | badReply (fault : ReplyFault)
deriving DecidableEq

def AskFailure.message : AskFailure → CodePoints
  | unavailable => "DeepSeek API key not configured"
  | callFailed message => "AI API Error: " ++ message
  | emptyReply => "No response from AI"
  | refused message => message
  | badReply fault => fault.message

namespace Provider

def reviewCompletion (settings : Settings) (code language : CodePoints) : Completion where
  model := settings.modelName
  messages := Prompt.review code language
  maxTokens := settings.tokenLimit
  temperature := some (.ofDecimal false 2 (-1))
  topP := some (.ofDecimal false 9 (-1))
  timeout := none

def content? : Provider → Option CodePoints
  | .replies (some content) =>
    match content.stripped with
    | [] => none
    | text => some text
  | _ => none

def review (provider : Provider) (settings : Settings) (code language : CodePoints) :
    Outcome AskFailure Assessment :=
  if !settings.hasKey then ⟨.error .unavailable, [], []⟩
  else
    let connect := Call.connect settings.key settings.endpoint (some settings.timeLimit)
    let complete := Call.complete (reviewCompletion settings code language)
    let asking := Event.asking language settings.modelName
    match provider with
    | .refuses message => ⟨.error (.refused message), [], [connect]⟩
    | .fails message => ⟨.error (.callFailed message), [asking], [connect, complete]⟩
    | answering =>
      match answering.content? with
      | none => ⟨.error .emptyReply, [asking], [connect, complete]⟩
      | some text =>
        match Reply.parse text with
        | (.error fault, events) =>
          ⟨.error (.badReply fault), asking :: events, [connect, complete]⟩
        | (.ok result, events) =>
          ⟨.ok result, asking :: (events ++ [.answered result.issues.length result.score]),
            [connect, complete]⟩

end Provider

/-- The warning before the rules step in; the failures without one are not made good. -/
def AskFailure.warning? (failure : AskFailure) : Option Event :=
  match failure with
  | unavailable => some (.providerUnavailable failure.message)
  | callFailed _ | emptyReply => some (.providerFailed failure.message)
  | refused _ | badReply _ => none

def assess (settings : Settings) (provider : Provider) (code language : CodePoints)
    (useAI : Bool) : Outcome AskFailure Assessment :=
  if !useAI then
    ⟨.ok (Heuristic.assess code language Heuristic.defaultExplanation), [], []⟩
  else
    let asked := provider.review settings code language
    match asked.result with
    | .ok result => ⟨.ok result, asked.events, asked.calls⟩
    | .error failure =>
      match failure.warning? with
      | none => asked
      | some warning =>
        let result := Heuristic.assess code language Heuristic.fallbackExplanation
        ⟨.ok result,
          asked.events ++ [warning, .fallbackDone result.issues.length result.score],
          asked.calls⟩

inductive ReviewFailure where
  | blankSubmission
  | asking (failure : AskFailure)
deriving DecidableEq

def ReviewFailure.message : ReviewFailure → CodePoints
  | blankSubmission => "Code and language are required"
  | asking failure => failure.message

def isBlankText (text : CodePoints) : Bool := text.all (·.satisfies isBlank)

def review (settings : Settings) (provider : Provider) (submission : Submission) :
    Outcome ReviewFailure Assessment :=
  if isBlankText submission.code || isBlankText submission.language then
    ⟨.error .blankSubmission, [], []⟩
  else
    let outcome := assess settings provider submission.code submission.language submission.useAI
    ⟨outcome.result.mapError .asking, outcome.events, outcome.calls⟩

end ReviewDesk
