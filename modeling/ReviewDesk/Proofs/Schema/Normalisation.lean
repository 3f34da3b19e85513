import Mathlib.Logic.Relation
import ReviewDesk.Proofs.Schema.Encoding
import ReviewDesk.Proofs.Schema.Faults
import ReviewDesk.Schema.Submission

set_option autoImplicit false

namespace ReviewDesk

open Text

theorem Checked.both_eq_ok_iff {α β : Type} {function : Checked (α → β)} {argument : Checked α}
    {result : β} :
    function.both argument = .ok result ↔
      ∃ f x, function = .ok f ∧ argument = .ok x ∧ f x = result := by
  cases function <;> cases argument <;> simp [Checked.both]

theorem Checked.within_eq_ok_iff {α : Type} {step : Step} {checked : Checked α} {result : α} :
    checked.within step = .ok result ↔ checked = .ok result := by
  cases checked <;> simp [Checked.within, Except.mapError]

namespace Json

inductive Extended (names : List CodePoints) : Json → Json → Prop where
  | insert (before after : Members) (name : CodePoints) (value : Json) (unknown : name ∉ names) :
      Extended names (.object (before ++ after)) (.object (before ++ (name, value) :: after))

def Agree (names : List CodePoints) (members others : Members) : Prop :=
  ∀ name ∈ names, member? members name = member? others name

theorem member?_insert (before after : Members) {name key : CodePoints} (value : Json)
    (other : key ≠ name) :
    member? (before ++ (name, value) :: after) key = member? (before ++ after) key := by
  simp [member?, List.lookup_append, List.lookup_cons, beq_eq_false_iff_ne.mpr other]

theorem agree_insert {names : List CodePoints} (before after : Members) {name : CodePoints}
    (value : Json) (unknown : name ∉ names) :
    Agree names (before ++ (name, value) :: after) (before ++ after) :=
  fun _ known => member?_insert before after value fun same => unknown (same ▸ known)

section Fields

variable {α : Type} {check : Json → Checked α} {members others : Members} {name : CodePoints}

theorem required_congr (same : member? members name = member? others name) :
    required members name check = required others name check := by
  rw [required, required, same]

theorem optional_congr (same : member? members name = member? others name) (fallback : α) :
    optional members name check fallback = optional others name check fallback := by
  rw [optional, optional, same]

theorem asListOf_congr (items later : List Json) {item other : Json}
    (same : check other = check item) :
    asListOf check (.list (items ++ other :: later)) =
      asListOf check (.list (items ++ item :: later)) := by
  simp [asListOf, List.mapIdx_append, List.mapIdx_cons, same]

theorem asMapOf_ints (entries : List (CodePoints × Int)) :
    asMapOf asInt (.object (entries.map fun (name, n) => (name, .int n))) = .ok entries := by
  induction entries with
  | nil => rfl
  | cons entry rest ih =>
    rw [asMapOf] at ih
    rw [List.map_cons, asMapOf, List.map_cons, Checked.all, ih]
    rfl

end Fields

end Json

/-- A checked value is accepted again as it is, and nothing of what may be added to a value makes
a difference, neither to the result nor to what is found wrong. -/
structure Normalises {α : Type} (check : Json → Checked α) (form : α → Json)
    (extended : Json → Json → Prop) : Prop where
  settled : ∀ value result, check value = .ok result → check (form result) = .ok result
  indifferent : ∀ value other, Relation.ReflTransGen extended value other →
    check other = check value

theorem Normalises.of_step {α : Type} {check : Json → Checked α} {form : α → Json}
    {extended : Json → Json → Prop}
    (settled : ∀ value result, check value = .ok result → check (form result) = .ok result)
    (step : ∀ value other, extended value other → check other = check value) :
    Normalises check form extended where
  settled := settled
  indifferent value other added := by
    induction added with
    | refl => rfl
    | tail _ last ih => exact (step _ _ last).trans ih

namespace Submission

def fieldNames : List CodePoints := ["code", "language", "use_ai"]

@[simp] theorem ofJson_toJson (submission : Submission) :
    ofJson submission.toJson = .ok submission := by
  simp [ofJson, toJson, Json.asRecord, ofMembers, Json.required, Json.optional, Json.member?,
    List.lookup_cons, Json.asText, Json.asBool, Checked.both, Checked.within, Except.mapError]

theorem ofMembers_congr {members others : Json.Members}
    (agree : Json.Agree fieldNames members others) : ofMembers members = ofMembers others := by
  rw [ofMembers, Json.required_congr (agree "code" (by simp [fieldNames])),
    Json.optional_congr (agree "language" (by simp [fieldNames])),
    Json.optional_congr (agree "use_ai" (by simp [fieldNames]))]
  rfl

theorem ofJson_extended {value other : Json} (extended : Json.Extended fieldNames value other) :
    ofJson other = ofJson value := by
  cases extended with
  | insert before after name added unknown =>
    exact ofMembers_congr (Json.agree_insert before after added unknown)

theorem normalises : Normalises ofJson toJson (Json.Extended fieldNames) :=
  .of_step (fun _ result _ => ofJson_toJson result) fun _ _ => ofJson_extended

end Submission

namespace Issue

def fieldNames : List CodePoints := ["type", "title", "description", "line", "severity"]

theorem ofMembers_congr {members others : Json.Members}
    (agree : Json.Agree fieldNames members others) : ofMembers members = ofMembers others := by
  rw [ofMembers, Json.required_congr (agree "type" (by simp [fieldNames])),
    Json.required_congr (agree "title" (by simp [fieldNames])),
    Json.required_congr (agree "description" (by simp [fieldNames])),
    Json.optional_congr (agree "line" (by simp [fieldNames])),
    Json.required_congr (agree "severity" (by simp [fieldNames]))]
  rfl

theorem ofJson_extended {value other : Json} (extended : Json.Extended fieldNames value other) :
    ofJson other = ofJson value := by
  cases extended with
  | insert before after name added unknown =>
    exact ofMembers_congr (Json.agree_insert before after added unknown)

theorem normalises : Normalises ofJson toJson (Json.Extended fieldNames) :=
  .of_step (fun _ result _ => ofJson_toJson result) fun _ _ => ofJson_extended

end Issue

namespace Assessment

def fieldNames : List CodePoints :=
  ["issues", "overallScore", "overall_score", "explanation", "source", "summary"]

def withIssues (before after : Json.Members) (items : List Json) : Json.Members :=
  before ++ (.ofString "issues", .list items) :: after

inductive Extended : Json → Json → Prop where
  | outside {value other : Json} (extended : Json.Extended fieldNames value other) :
      Extended value other
  | inside (before after : Json.Members) (items later : List Json) {issue other : Json}
      (extended : Json.Extended Issue.fieldNames issue other) :
      Extended (.object (withIssues before after (items ++ issue :: later)))
        (.object (withIssues before after (items ++ other :: later)))

section Acceptance

variable {value : Json} {members : Json.Members} {result : Assessment} {n : Int}

theorem asScore_eq_ok_iff :
    asScore value = .ok n ↔ value.asInt = .ok n ∧ 0 ≤ n ∧ n ≤ 100 := by
  unfold asScore
  cases value.asInt with
  | error faults => simp
  | ok m =>
    simp only [Checked.fail, Except.ok.injEq]
    split_ifs with negative large
    next => exact iff_of_false nofun fun ⟨same, bound, _⟩ => by omega
    next => exact iff_of_false nofun fun ⟨same, _, bound⟩ => by omega
    next =>
      rw [Except.ok.injEq]
      exact ⟨fun same => ⟨same, by omega, by omega⟩, fun same => same.1⟩

theorem scoreMember_mem (accepted : scoreMember members = .ok n) : 0 ≤ n ∧ n ≤ 100 := by
  rw [scoreMember, Checked.within_eq_ok_iff] at accepted
  split at accepted
  next => exact (asScore_eq_ok_iff.mp accepted).2
  next =>
    split at accepted
    next => exact (asScore_eq_ok_iff.mp accepted).2
    next => cases accepted

theorem score_mem_of_ofJson (accepted : ofJson value = .ok result) :
    0 ≤ result.score ∧ result.score ≤ 100 := by
  cases value with
  | object members =>
    simp only [ofJson, Json.asRecord, ofMembers, Checked.both_eq_ok_iff] at accepted
    obtain ⟨_, _, ⟨_, _, ⟨_, _, ⟨_, n, ⟨_, _, ⟨⟩, -, rfl⟩, score, rfl⟩, -, rfl⟩, -, rfl⟩, -, rfl⟩ := accepted
    exact scoreMember_mem score
  | null | bool b | int m | real x | text s | list items => cases accepted

end Acceptance

theorem ofJson_toJson {result : Assessment} (bounds : 0 ≤ result.score ∧ result.score ≤ 100) :
    ofJson result.toJson = .ok result := by
  have issues : Json.asListOf Issue.ofJson (.list (result.issues.map Issue.toJson)) =
      .ok result.issues := by
    rw [Json.asListOf_of_ok (by simp [Except.toOption])]
    simp [List.filterMap_map, Except.toOption]
  have score : asScore (.int result.score) = .ok result.score := asScore_eq_ok_iff.mpr ⟨rfl, bounds⟩
  have origin : Json.asLiteral Origin.ofName? (.text result.origin.name) = .ok result.origin :=
    Json.asLiteral_name (by cases result.origin <;> rfl)
  have summary := Json.asMapOf_ints result.summary
  simp [ofJson, toJson, Json.asRecord, ofMembers, Json.required, Json.optional, Json.member?,
    List.lookup_cons, scoreMember, issues, score, origin, summary, Json.asText, Checked.both,
    Checked.within_ok]

section Additions

variable {members others : Json.Members}

theorem ofMembers_congr
    (issues : Json.optional members "issues" (Json.asListOf Issue.ofJson) [] =
      Json.optional others "issues" (Json.asListOf Issue.ofJson) [])
    (agree : Json.Agree fieldNames.tail members others) : ofMembers members = ofMembers others := by
  have score : scoreMember members = scoreMember others := by
    rw [scoreMember, scoreMember, agree "overallScore" (by simp [fieldNames]),
      agree "overall_score" (by simp [fieldNames])]
  rw [ofMembers, issues, score,
    Json.optional_congr (agree "explanation" (by simp [fieldNames])),
    Json.required_congr (agree "source" (by simp [fieldNames])),
    Json.optional_congr (agree "summary" (by simp [fieldNames]))]
  rfl

theorem optional_withIssues {before after : Json.Members} {items others : List Json}
    {check : Json → Checked (List Issue)} (same : check (.list others) = check (.list items)) :
    Json.optional (withIssues before after others) "issues" check [] =
      Json.optional (withIssues before after items) "issues" check [] := by
  simp only [withIssues, Json.optional, Json.member?, List.lookup_append, List.lookup_cons_self]
  cases before.lookup (.ofString "issues") with
  | some value => rfl
  | none => simp [same]

theorem ofJson_extended {value other : Json} (extended : Extended value other) :
    ofJson other = ofJson value := by
  cases extended with
  | outside extended =>
    cases extended with
    | insert before after name added unknown =>
      have agree := Json.agree_insert before after added unknown
      exact ofMembers_congr (Json.optional_congr (agree "issues" (by simp [fieldNames])) [])
        fun name known => agree name (List.mem_of_mem_tail known)
  | inside before after items later extended =>
    apply ofMembers_congr
    next => exact optional_withIssues (Json.asListOf_congr items later (Issue.ofJson_extended extended))
    next =>
      intro name known
      have other : name ≠ .ofString "issues" := by
        rintro rfl
        simp [fieldNames] at known
      rw [withIssues, withIssues, Json.member?_insert _ _ _ other, Json.member?_insert _ _ _ other]

end Additions

theorem normalises : Normalises ofJson toJson Extended :=
  .of_step (fun _ _ accepted => ofJson_toJson (score_mem_of_ofJson accepted))
    fun _ _ => ofJson_extended

end Assessment

theorem schemas_normalise :
    Normalises Submission.ofJson Submission.toJson (Json.Extended Submission.fieldNames) ∧
    Normalises Issue.ofJson Issue.toJson (Json.Extended Issue.fieldNames) ∧
    Normalises Assessment.ofJson Assessment.toJson Assessment.Extended ∧
    ∀ value result, Assessment.ofJson value = .ok result → 0 ≤ result.score ∧ result.score ≤ 100 :=
  ⟨Submission.normalises, Issue.normalises, Assessment.normalises,
    fun _ _ accepted => Assessment.score_mem_of_ofJson accepted⟩

def spelledIssue : Json.Members := [("type", .text "error"), ("title", .text ""),
  ("description", .text "d"), ("line", .bool true), ("severity", .text "low")]

def spelledResult (issue more : Json.Members) : Json :=
  .object (Assessment.withIssues [("overall_score", .text " +0_9.00 ")]
    (("source", .text "ai") :: ("summary", .object [("error", .real (.ofInt 2))]) :: more)
    [.object issue])

def plainResult : Assessment :=
  ⟨[⟨.error, "", "d", .low, some 1⟩], 9, "", .ai, [("error", 2)]⟩

theorem spelledResult_normalised :
    let spelled := spelledResult spelledIssue []
    let padded := spelledResult (("overallScore", .null) :: spelledIssue) [("id", .int 7)]
    Assessment.ofJson spelled = .ok plainResult ∧
      Assessment.ofJson plainResult.toJson = .ok plainResult ∧
      Relation.ReflTransGen Assessment.Extended spelled padded ∧
      Assessment.ofJson padded = .ok plainResult ∧
      0 ≤ plainResult.score ∧ plainResult.score ≤ 100 := by
  intro spelled padded
  obtain ⟨-, -, ⟨settled, indifferent⟩, bounds⟩ := schemas_normalise
  have accepted : Assessment.ofJson spelled = .ok plainResult := by decide +kernel
  have within : Assessment.Extended spelled
      (spelledResult (("overallScore", .null) :: spelledIssue) []) :=
    .inside _ _ [] [] (.insert [] spelledIssue "overallScore" .null (by decide))
  have around : Assessment.Extended
      (spelledResult (("overallScore", .null) :: spelledIssue) []) padded :=
    .outside (.insert [_, _, _, _] [] "id" (.int 7) (by decide))
  have added : Relation.ReflTransGen Assessment.Extended spelled padded :=
    .tail (.single within) around
  exact ⟨accepted, settled _ _ accepted, added, (indifferent _ _ added).trans accepted,
    bounds _ _ accepted⟩

end ReviewDesk
