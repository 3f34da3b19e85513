import ReviewDesk.Page.Banner
import ReviewDesk.Page.Form
import ReviewDesk.Page.Results
import ReviewDesk.Shelf
import ReviewDesk.Web.Intake

set_option autoImplicit false

namespace ReviewDesk.Web

open Text

structure Desk where
  shelf : Shelf
  status : StatusCache
deriving DecidableEq

def Desk.empty : Desk := ⟨.empty, none⟩

structure Circumstances where
  settings : Settings
  provider : Provider
  now : Reading

abbrev Handled := Answer × Desk

namespace Desk

def currentStatus (desk : Desk) (around : Circumstances) : Status × Desk :=
  let (status, cache, _) :=
    Status.current desk.status around.settings around.provider around.now
  (status, { desk with status := cache })

def pageAnswer : Except Page.FillFault CodePoints → Answer
  | .error fault => .error (.filling fault)
  | .ok content => (Response.html content).mapError .writing

def page (desk : Desk) (around : Circumstances)
    (content : CodePoints → Except Page.FillFault CodePoints) : Handled :=
  let (status, desk) := desk.currentStatus around
  (pageAnswer (content (Page.banner status)), desk)

def plainPage (desk : Desk) (around : Circumstances) (template : Page.Template)
    (title : String) : Handled :=
  desk.page around (Page.render template [("title", title)])

def languagesJson : Json := .object [
  ("languages", .list (Language.offered.map fun language => .object [
    ("id", .text language.id),
    ("label", .text language.label),
    ("rule_set", .text language.ruleSet.name)]))]

def statusJson (status : Status) : Json := .object [
  ("available", .bool status.available),
  ("reason", .text status.reason),
  ("api_key_set", .bool status.keySet),
  ("model", .text status.model)]

def statusAnswer (status : Status) : Answer :=
  match Charset.utf8.fault? status.reason with
  | some fault => .error (.serializing fault)
  | none => .ok (.json 200 (statusJson status))

def showStatus (desk : Desk) (around : Circumstances) : Handled :=
  let (status, desk) := desk.currentStatus around
  (statusAnswer status, desk)

def postCheck (desk : Desk) (body : Body) : Handled :=
  match submission body with
  | .error answer => (answer, desk)
  | .ok entry => (.ok (.json 200 (check entry).toJson), desk)

def writtenTexts (result : Assessment) : List CodePoints :=
  result.issues.flatMap (fun issue => [issue.title, issue.description]) ++ [result.explanation]

def resultAnswer (result : Assessment) : Answer :=
  match (writtenTexts result).findSome? Charset.utf8.fault? with
  | some fault => .error (.serializing fault)
  | none => .ok (.json 200 result.toJson)

def postAnalyze (desk : Desk) (around : Circumstances) (body : Body) : Handled :=
  match submission body with
  | .error answer => (answer, desk)
  | .ok entry =>
    match (review around.settings around.provider entry).result with
    | .ok result => (resultAnswer result, desk)
    | .error .blankSubmission =>
      (.ok (.detail 400 ReviewFailure.blankSubmission.message), desk)
    | .error (.asking failure) => (.error (.asking failure), desk)

def blankCodeError : String := "Please enter some code before running the analysis."

def shelve (desk : Desk) (around : Circumstances) (language : String) (result : Assessment) :
    Handled :=
  let (id, shelf) := desk.shelf.store language result around.now
  { desk with shelf := shelf }.page around fun banner => Page.results banner language result id

def postReview (desk : Desk) (around : Circumstances) (body : Body) : Handled :=
  match formEntry body with
  | .error response => (.ok response, desk)
  | .ok entry =>
    let language := stripped entry.language
    if isBlankText entry.code then
      desk.page around fun banner => Page.form banner blankCodeError "" language
    else
      match (assess around.settings around.provider entry.code language entry.useAI).result with
      | .ok result => desk.shelve around language result
      | .error failure => (.error (.asking failure), desk)

def attachmentResponse (attachment : Download.Attachment) : Response :=
  ⟨200, some attachment.contentType, none, some (Response.received attachment.disposition),
    .text attachment.body⟩

def expiredMessage : String := "Report not found or expired; run the review again."

def download (desk : Desk) (around : Circumstances) (query : Pairs) : Handled :=
  match stripped ((query.get? "report_id").getD "") with
  | "" => (.ok (.redirect 302 "/review"), desk)
  | id =>
    match desk.shelf.live? id around.now with
    | none => (.ok (.detail 404 expiredMessage), desk)
    | some report =>
      ((Download.attachment report.language report.result around.now).map attachmentResponse
        |>.mapError .download, desk)

end Desk

end ReviewDesk.Web
