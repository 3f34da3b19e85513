import ReviewDesk.Analysis

set_option autoImplicit false

namespace ReviewDesk.Plain

open Text

def heading : Kind → String
  | .error => "ERRORS"
  | .warning => "WARNINGS"
  | .suggestion => "SUGGESTIONS"
  | .info => "INFO"

def rule (mark : Char) : String := String.ofList (List.replicate 80 mark)

def issueBlock (issue : Issue) : List CodePoints := [
  "  " ++ issue.place ++ ": " ++ issue.title ++ " [" ++ issue.severity.name ++ "]",
  "    " ++ issue.description ++ "\n"]

def group (kind : Kind) (issues : List Issue) : List Issue := issues.filter (·.kind = kind)

def groupBlock (issues : List Issue) (kind : Kind) : List CodePoints :=
  match group kind issues with
  | [] => []
  | members =>
    (heading kind ++ " (" ++ toString members.length ++ "):") :: rule '-' ::
      members.flatMap issueBlock

def ratedScore (score : Int) : String := toString score ++ "/100"

def summaryLine (counts : Counts) : String :=
  "\nSummary: " ++ toString counts.errors ++ " errors, " ++ toString counts.warnings ++
    " warnings, " ++ toString counts.suggestions ++ " suggestions, " ++ toString counts.infos ++
    " info"

def openingLines (language : String) : List CodePoints :=
  ["\n" ++ rule '=', "Code Review Report (" ++ language ++ ")", rule '=' ++ "\n"]

def closingLines (analysis : Analysis) : List CodePoints := [
  summaryLine analysis.counts,
  "Score: " ++ ratedScore analysis.score ++ " (" ++ (Rating.ofScore analysis.score).name ++ ")",
  rule '=']

def report (analysis : Analysis) (language : String) : CodePoints :=
  if analysis.issues.isEmpty then
    "\n✓ No issues found (" ++ language ++ "). Score: " ++ ratedScore analysis.score ++ "\n"
  else
    .ofLines (openingLines language ++ Kind.all.flatMap (groupBlock analysis.issues) ++
      closingLines analysis)

end ReviewDesk.Plain
