import ReviewDesk.Clock.Calendar
import ReviewDesk.Schema.Assessment
import ReviewDesk.Text.Case

set_option autoImplicit false

namespace ReviewDesk.Markdown

open Text

def issueLines (issue : Issue) : List CodePoints := [
  "**" ++ issue.place ++ " · " ++ displayed issue.kind.name ++ " · " ++
    displayed issue.severity.name ++ "**",
  "",
  issue.title,
  "",
  "> " ++ issue.description,
  ""]

def countLine (assessment : Assessment) : String :=
  "**" ++ toString assessment.issues.length ++ "** issue(s) found (" ++
    toString (assessment.count .error) ++ " error(s), " ++
    toString (assessment.count .warning) ++ " warning(s), " ++
    toString (assessment.count .suggestion) ++ " suggestion(s), " ++
    toString (assessment.count .info) ++ " info)."

def explanationLines (explanation : CodePoints) : List CodePoints :=
  if explanation.isEmpty then [] else [explanation, ""]

def issuesBlock (issues : List Issue) : List CodePoints :=
  if issues.isEmpty then ["No issues found.", ""] else issues.flatMap issueLines

def openingLines (language : String) (assessment : Assessment) (written : Stamp) :
    List CodePoints := [
  "# Code review: " ++ language, "",
  "Generated: " ++ written.text, "",
  "Source: " ++ assessment.origin.label, "",
  "**Score: " ++ toString assessment.score ++ "/100** (" ++
    (Rating.ofScore assessment.score).name ++ ")", ""]

def issueSection (assessment : Assessment) : List CodePoints :=
  countLine assessment :: "" :: "## Issues" :: "" :: issuesBlock assessment.issues

def report (language : String) (assessment : Assessment) (written : Stamp) : CodePoints :=
  .ofLines (openingLines language assessment written ++
    explanationLines assessment.explanation ++ issueSection assessment)

end ReviewDesk.Markdown
