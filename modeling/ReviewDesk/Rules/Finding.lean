import ReviewDesk.Issue
import ReviewDesk.Source

set_option autoImplicit false

namespace ReviewDesk

structure Finding where
  kind : Kind
  severity : Severity
  title : String
  description : String
deriving DecidableEq

def Finding.onLine (finding : Finding) (number : Nat) : Issue where
  kind := finding.kind
  title := finding.title
  description := finding.description
  severity := finding.severity
  line := some number

def raised (checks : List (Bool × Finding)) : List Finding :=
  checks.filterMap fun check => if check.1 then some check.2 else none

theorem mem_raised (finding : Finding) (checks : List (Bool × Finding)) :
    finding ∈ raised checks ↔ (true, finding) ∈ checks := by
  simp [raised]

def Issue.moved (issue : Issue) (distance : Nat) : Issue :=
  { issue with line := issue.line.map (· + distance) }

theorem Finding.onLine_add (finding : Finding) (number distance : Nat) :
    finding.onLine (number + distance) = (finding.onLine number).moved distance := by
  simp [Finding.onLine, Issue.moved]

end ReviewDesk
