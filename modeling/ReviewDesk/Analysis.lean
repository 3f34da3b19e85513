import ReviewDesk.Language
import ReviewDesk.Rules.Ecma
import ReviewDesk.Rules.General
import ReviewDesk.Rules.Java
import ReviewDesk.Rules.Python
import ReviewDesk.Score

set_option autoImplicit false

namespace ReviewDesk

def RuleSet.check : RuleSet → List SourceLine → List Issue
  | ecma => Ecma.check
  | python => Python.check
  | java => Java.check
  | general => General.check

def namedCheck? (name : String) : Option (List SourceLine → List Issue) :=
  if name = "base" then some fun _ => [] else (RuleSet.ofName? name).map RuleSet.check

structure Analysis where
  issues : List Issue
  score : Int
deriving DecidableEq

def analyze (code language : String) : Analysis :=
  let issues := (RuleSet.ofLanguage language).check (sourceLines code.toList)
  ⟨issues, score (issues.map (·.kind))⟩

def Analysis.counts (analysis : Analysis) : Counts := .tally (analysis.issues.map (·.kind))

end ReviewDesk
