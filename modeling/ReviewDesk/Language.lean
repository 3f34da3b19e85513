set_option autoImplicit false

namespace ReviewDesk

inductive RuleSet where
  | ecma
  | python
  | java
  | general
deriving DecidableEq

namespace RuleSet

def name : RuleSet → String
  | ecma => "ecma"
  | python => "python"
  | java => "java"
  | general => "general"

def ofName? : String → Option RuleSet
  | "ecma" => some ecma
  | "python" => some python
  | "java" => some java
  | "general" => some general
  | _ => none

@[simp] theorem ofName?_name (ruleSet : RuleSet) : ofName? ruleSet.name = some ruleSet := by
  cases ruleSet <;> rfl

def ofLanguage : String → RuleSet
  | "javascript" | "typescript" => ecma
  | "python" => python
  | "java" => java
  | _ => general

end RuleSet

structure Language where
  id : String
  label : String

namespace Language

def ruleSet (language : Language) : RuleSet := .ofLanguage language.id

def offered : List Language := [
  ⟨"javascript", "JavaScript"⟩,
  ⟨"typescript", "TypeScript"⟩,
  ⟨"python", "Python"⟩,
  ⟨"java", "Java"⟩,
  ⟨"cpp", "C++"⟩,
  ⟨"csharp", "C#"⟩,
  ⟨"go", "Go"⟩,
  ⟨"rust", "Rust"⟩,
  ⟨"php", "PHP"⟩,
  ⟨"ruby", "Ruby"⟩]

end Language

end ReviewDesk
