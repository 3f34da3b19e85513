import ReviewDesk.Page.Layout
import ReviewDesk.Schema.Assessment
import ReviewDesk.Text.Case

set_option autoImplicit false

namespace ReviewDesk.Page

open Text

def issueBlock (issue : Issue) : CodePoints :=
  "\n  <div class=\"issue " ++ issue.kind.name ++ "\">\n    <div class=\"issue-meta\">" ++
    issue.place ++ " · " ++ escape (displayed issue.kind.name) ++
    " · <span class=\"issue-severity-pill issue-severity-" ++ issue.severity.name ++ "\">" ++
    escape (displayed issue.severity.name) ++
    "</span></div>\n    <div class=\"issue-title\">" ++ escape issue.title ++
    "</div>\n    <div class=\"issue-desc\">" ++ escape issue.description ++
    "</div>\n  </div>"

def issueBlocks (issues : List Issue) : CodePoints :=
  if issues.isEmpty then "<p>No issues found.</p>" else issues.flatMap issueBlock

def resultsValues (language : String) (result : Assessment) (reportId : String) : Values := [
  ("title", "Results"),
  ("language", escape language),
  ("source_label", result.origin.label),
  ("score", toString result.score),
  ("rating", (Rating.ofScore result.score).name),
  ("explanation", escape result.explanation),
  ("issue_count", toString result.issues.length),
  ("error_count", toString (result.count .error)),
  ("warning_count", toString (result.count .warning)),
  ("suggestion_count", toString (result.count .suggestion)),
  ("info_count", toString (result.count .info)),
  ("issues_block", issueBlocks result.issues),
  ("report_id", reportId)]

def results (banner : CodePoints) (language : String) (result : Assessment) (reportId : String) :
    Except FillFault CodePoints :=
  render resultsTemplate (resultsValues language result reportId) banner

end ReviewDesk.Page
