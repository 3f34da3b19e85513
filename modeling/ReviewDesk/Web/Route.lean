import ReviewDesk.Web.Desk

set_option autoImplicit false

namespace ReviewDesk.Web

open Text

inductive Route where
  | home
  | health
  | check
  | analyze
  | review
  | download
  | languages
  | status
deriving DecidableEq

namespace Route

-- The pages that the framework adds on its own, for the docs and the schema, are not among the
-- routes, and no answer has the headers for requests from other origins.
def ofPath? : String → Option Route
  | "/" => some home
  | "/health" => some health
  | "/check" => some check
  | "/analyze" => some analyze
  | "/review" => some review
  | "/review/download" => some download
  | "/languages" => some languages
  | "/ai-status" => some status
  | _ => none

def get (route : Route) (desk : Desk) (around : Circumstances) (query : Pairs) : Handled :=
  match route with
  | home => desk.plainPage around Page.homeTemplate "Code Review Assistant"
  | health => (.ok (.json 200 (.object [("status", .text "ok")])), desk)
  | check => desk.plainPage around Page.checkTemplate "Check"
  | analyze => desk.plainPage around Page.analyzeTemplate "Analyze"
  | review => desk.page around fun banner => Page.form banner "" "" "javascript"
  | download => desk.download around query
  | languages => (.ok (.json 200 Desk.languagesJson), desk)
  | status => desk.showStatus around

def post (route : Route) (desk : Desk) (around : Circumstances) (body : Body) : Handled :=
  match route with
  | check => desk.postCheck body
  | analyze => desk.postAnalyze around body
  | review => desk.postReview around body
  | _ => (.ok .methodNotAllowed, desk)

end Route

def withoutNewline (path : List Char) : List Char :=
  if path.getLast? = some '\n' then path.dropLast else path

def routeOf? (path : List Char) : Option Route := Route.ofPath? (String.ofList (withoutNewline path))

def isLocationChar (c : Char) : Bool :=
  isUnreserved c || ":/%#?=@[]!$&'()*+,;".toList.contains c

def location (target : Target) (path : List Char) : String :=
  String.ofList (percentEncode isLocationChar
    (target.origin ++ path ++ if target.query.isEmpty then [] else '?' :: target.query))

def slashRedirect? (target : Target) : Option Response :=
  let path := trimEnd (· == '/') target.path
  if target.path ≠ path && (routeOf? path).isSome then
    some (.redirect 307 (location target path))
  else none

def Body.isWritable : Body → Bool
  | .json value => value.isFinite
  | _ => true

def Desk.handleAt (desk : Desk) (around : Circumstances) (target : Target) (method : String)
    (body : Body) : Handled :=
  match routeOf? target.path with
  | some route =>
    if method = "GET" then route.get desk around (.decode target.query)
    else if method = "POST" then route.post desk around body
    else (.ok .methodNotAllowed, desk)
  | none => (.ok ((slashRedirect? target).getD .notFound), desk)

def Desk.handle (desk : Desk) (around : Circumstances) (request : Request) : Handled :=
  match Target.resolve request.origin request.address request.parameters with
  | .error fault => (.error (.address fault), desk)
  | .ok target =>
    if request.body.isWritable then
      desk.handleAt around target (String.ofList (upper request.method.toList)) request.body
    else (.error .nonFinite, desk)

end ReviewDesk.Web
