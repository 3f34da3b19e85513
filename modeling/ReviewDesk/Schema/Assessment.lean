import ReviewDesk.Issue
import ReviewDesk.Schema.Field
import ReviewDesk.Score

set_option autoImplicit false

namespace ReviewDesk

open Text

namespace Issue

def ofMembers (members : Json.Members) : Checked Issue :=
  Checked.both (Checked.both (Checked.both (Checked.both (Checked.both
    (.ok fun kind title description line severity => ⟨kind, title, description, severity, line⟩)
    (Json.required members "type" (Json.asLiteral Kind.ofName?)))
    (Json.required members "title" Json.asText))
    (Json.required members "description" Json.asText))
    (Json.optional members "line" Json.asOptionalInt none))
    (Json.required members "severity" (Json.asLiteral Severity.ofName?))

def ofJson : Json → Checked Issue := Json.asRecord ofMembers

def lineJson (issue : Issue) : Json :=
  match issue.line with
  | some n => .int n
  | none => .null

def toJson (issue : Issue) : Json := .object [
  ("type", .text issue.kind.name),
  ("title", .text issue.title),
  ("description", .text issue.description),
  ("line", issue.lineJson),
  ("severity", .text issue.severity.name)]

end Issue

inductive Origin where
  | ai
  | heuristic
deriving DecidableEq

namespace Origin

def name : Origin → String
  | ai => "ai"
  | heuristic => "heuristic"

def ofName? : String → Option Origin
  | "ai" => some ai
  | "heuristic" => some heuristic
  | _ => none

def label : Origin → String
  | ai => "AI analysis"
  | heuristic => "Rule-based analysis"

end Origin

structure Assessment where
  issues : List Issue
  score : Int
  explanation : CodePoints
  origin : Origin
  summary : List (CodePoints × Int)
deriving DecidableEq

def Counts.toSummary (counts : Counts) : List (CodePoints × Int) :=
  Kind.all.map fun kind => (.ofString kind.name, (counts.get kind : Int))

namespace Assessment

def ofIssues (issues : List Issue) (score : Int) (explanation : CodePoints) (origin : Origin) :
    Assessment :=
  ⟨issues, score, explanation, origin, (Counts.tally (issues.map (·.kind))).toSummary⟩

def count (assessment : Assessment) (kind : Kind) : Int :=
  (assessment.summary.lookup (.ofString kind.name)).getD 0

def asScore (value : Json) : Checked Int :=
  match Json.asInt value with
  | .error faults => .error faults
  | .ok n =>
    if n < 0 then Checked.fail .tooSmall
    else if 100 < n then Checked.fail .tooLarge
    else .ok n

-- The score has a second spelling, which is looked at only when the first is absent.
def scoreMember (members : Json.Members) : Checked Int :=
  Checked.within (.field "overallScore") <|
    match Json.member? members "overallScore" with
    | some value => asScore value
    | none =>
      match Json.member? members "overall_score" with
      | some value => asScore value
      | none => Checked.fail .missing

def ofMembers (members : Json.Members) : Checked Assessment :=
  Checked.both (Checked.both (Checked.both (Checked.both (Checked.both (.ok Assessment.mk)
    (Json.optional members "issues" (Json.asListOf Issue.ofJson) []))
    (scoreMember members))
    (Json.optional members "explanation" Json.asText ""))
    (Json.required members "source" (Json.asLiteral Origin.ofName?)))
    (Json.optional members "summary" (Json.asMapOf Json.asInt) [])

def ofJson : Json → Checked Assessment := Json.asRecord ofMembers

def toJson (assessment : Assessment) : Json := .object [
  ("issues", .list (assessment.issues.map Issue.toJson)),
  ("overallScore", .int assessment.score),
  ("explanation", .text assessment.explanation),
  ("source", .text assessment.origin.name),
  ("summary", .object (assessment.summary.map fun (name, n) => (name, .int n)))]

end Assessment

end ReviewDesk
