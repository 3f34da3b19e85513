import ReviewDesk.Journal
import ReviewDesk.Json.Reader
import ReviewDesk.Schema.Assessment

set_option autoImplicit false

namespace ReviewDesk

open Text

inductive ReplyFault where
  | tooManyDigits (count : Nat)
  | tooDeep (container : Json.Container)
deriving DecidableEq

def ReplyFault.message : ReplyFault → String
  | tooManyDigits count =>
    "Exceeds the limit (" ++ toString Number.digitLimit ++
      " digits) for integer string conversion: value has " ++ toString count ++
      " digits; use sys.set_int_max_str_digits() to increase the limit"
  | tooDeep container =>
    "maximum recursion depth exceeded while decoding a JSON " ++ container.name ++
      " from a unicode string"

namespace Reply

def objectSpan? (text : CodePoints) : Option CodePoints :=
  match trimEnd (· ≠ .char '}') (trimStart (· ≠ .char '{') text) with
  | [] => none
  | span => some span

def defaultScore : Int := 50

def roundedScore (q : Rat) : Int := Number.nearestEven (Number.clamp 0 100 q)

def realScore : Number.Double → Int
  | .nan => 100
  | .infinite negative => if negative then 0 else 100
  | finite => roundedScore (finite.value?.getD 0)

def scoreOf : Json → Int
  | .int n => roundedScore n
  | .real x => realScore x
  | _ => defaultScore

def issuesOf : Json → List Issue
  | .list entries => entries.filterMap fun entry => (Issue.ofJson entry).toOption
  | _ => []

def defaultExplanation : String := "Analysis completed"

def explanationOf : Json → CodePoints
  | .text text => if text.isEmpty then defaultExplanation else text
  | _ => defaultExplanation

def member (members : Json.Members) (name : CodePoints) : Json :=
  (Json.member? members name).getD .null

def structured (members : Json.Members) : Assessment :=
  .ofIssues (issuesOf (member members "issues")) (scoreOf (member members "overallScore"))
    (explanationOf (member members "explanation")) .ai

def excerptLength : Nat := 500

def excerpt (text : CodePoints) : CodePoints :=
  if excerptLength < text.length then text.take excerptLength ++ "..." else text

def degraded (text : CodePoints) : Assessment :=
  .ofIssues
    [⟨.info, "AI Analysis Available", excerpt text, .low, none⟩]
    75 "AI provided text analysis instead of structured data" .ai

-- The interpreter allows a thousand calls inside each other, and the reader makes one for each
-- container. That twelve are around it when a reply is parsed has been measured.
def depthLimit : Nat := 988

def parse (text : CodePoints) : Except ReplyFault Assessment × List Event :=
  match objectSpan? text with
  | none => (.ok (degraded text), [.noObject])
  | some span =>
    match Json.read (.upTo depthLimit) span with
    | .error (.malformed _) => (.ok (degraded text), [.unreadableObject])
    | .error (.tooManyDigits count) => (.error (.tooManyDigits count), [])
    | .error (.tooDeep container) => (.error (.tooDeep container), [])
    | .ok (.object members) => (.ok (structured members), [])
    | .ok _ => (.ok (degraded text), [.objectExpected])

end Reply

end ReviewDesk
