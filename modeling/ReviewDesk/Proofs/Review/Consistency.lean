import ReviewDesk.Proofs.Review.Answers
import ReviewDesk.Proofs.Score.Algebra

set_option autoImplicit false

namespace ReviewDesk

open Text

theorem Counts.toSummary_tally (kinds : List Kind) :
    (Counts.tally kinds).toSummary =
      Kind.all.map fun kind => (.ofString kind.name, (kinds.count kind : Int)) := by
  simp [toSummary, get_tally]

theorem Counts.sum_toSummary (counts : Counts) :
    (counts.toSummary.map (·.2)).sum = (counts.total : Int) := by
  simp only [toSummary, Kind.all, List.map_cons, List.map_nil, List.sum_cons, List.sum_nil, get,
    total]
  omega

namespace Assessment

structure Consistent (result : Assessment) : Prop where
  summary : result.summary = Kind.all.map fun kind =>
    (.ofString kind.name, (result.issues.countP (·.kind = kind) : Int))
  total : (result.summary.map (·.2)).sum = result.issues.length
  score : 0 ≤ result.score ∧ result.score ≤ 100
  heuristic : result.origin = .heuristic →
    result.score =
      max 0 (100 - 15 * result.count .error - 8 * result.count .warning -
        3 * result.count .suggestion)

section Counting

variable {issues : List Issue} {score : Int} {explanation : CodePoints} {origin : Origin}

theorem count_ofIssues (kind : Kind) :
    (ofIssues issues score explanation origin).count kind = (issues.map (·.kind)).count kind := by
  cases kind <;>
    simp [count, ofIssues, Counts.toSummary_tally, Kind.all, Kind.name, List.lookup_cons]

theorem consistent_ofIssues (range : 0 ≤ score ∧ score ≤ 100)
    (rules : origin = .heuristic → score = ReviewDesk.score (issues.map (·.kind))) :
    (ofIssues issues score explanation origin).Consistent where
  summary := by simp only [ofIssues, Counts.toSummary_tally, count_kinds]
  total := by simp [ofIssues, Counts.sum_toSummary, Counts.total_tally]
  score := range
  heuristic := by
    intro heuristic
    simp only [count_ofIssues]
    exact (rules heuristic).trans (score_eq_counts _)

end Counting

end Assessment

theorem Heuristic.consistent_assess (code language : CodePoints) (explanation : String) :
    (Heuristic.assess code language explanation).Consistent :=
  Assessment.consistent_ofIssues (Heuristic.score_mem code language explanation) fun _ => rfl

namespace Reply

theorem consistent_degraded (text : CodePoints) : (degraded text).Consistent :=
  Assessment.consistent_ofIssues (by decide) nofun

theorem consistent_structured (members : Json.Members) : (structured members).Consistent :=
  Assessment.consistent_ofIssues (scoreOf_mem (member members "overallScore")) nofun

theorem consistent_parse {text : CodePoints} {result : Assessment}
    (parsed : (parse text).1 = .ok result) : result.Consistent := by
  rcases parse_ok_cases parsed with rfl | ⟨members, rfl⟩
  next => exact consistent_degraded text
  next => exact consistent_structured members

end Reply

section Reviews

variable {settings : Settings} {provider : Provider} {code language : CodePoints}
  {result : Assessment}

theorem Provider.consistent_review
    (answered : (provider.review settings code language).result = .ok result) :
    result.Consistent := by
  obtain ⟨text, parsed⟩ := exists_reply_of_review answered
  exact Reply.consistent_parse parsed

theorem consistent_assess {useAI : Bool}
    (answered : (assess settings provider code language useAI).result = .ok result) :
    result.Consistent := by
  rcases assess_ok_cases answered with ⟨text, parsed⟩ | ⟨explanation, rfl⟩
  next => exact Reply.consistent_parse parsed
  next => exact Heuristic.consistent_assess code language explanation

end Reviews

theorem results_consistent (settings : Settings) (provider : Provider) (submission : Submission)
    (code language text : CodePoints) :
    (check submission).Consistent ∧
    (∀ useAI result, (assess settings provider code language useAI).result = .ok result →
      result.Consistent) ∧
    (∀ result, (provider.review settings code language).result = .ok result →
      result.Consistent) ∧
    ∀ result, (Reply.parse text).1 = .ok result → result.Consistent :=
  ⟨Heuristic.consistent_assess submission.code submission.language _,
    fun _ _ => consistent_assess, fun _ => Provider.consistent_review,
    fun _ => Reply.consistent_parse⟩

def hostileReply : String :=
  "\x7b\"issues\": [3, \x7b\"type\": \"warning\", \"title\": \"\", \"description\": \"\", " ++
    "\"severity\": \"low\"\x7d], \"overallScore\": 1e999\x7d"

theorem hostile_reply_consistent :
    let settings := { Settings.unset with apiKey := some "k" }
    let said : Assessment := .ofIssues [⟨.warning, "", "", .low, none⟩] 100 "Analysis completed" .ai
    let failed := Heuristic.assess "while(true)" "java" Heuristic.fallbackExplanation
    (Reply.parse hostileReply).1 = .ok said ∧
      (assess settings (.fails "boom") "while(true)" "java" true).result = .ok failed ∧
      said.Consistent ∧ failed.Consistent ∧ failed.score = 70 := by
  intro settings said failed
  have parsed : (Reply.parse hostileReply).1 = .ok said := by decide +kernel
  have keyed : settings.hasKey = true := by decide +kernel
  have boom : (assess settings (.fails "boom") "while(true)" "java" true).result = .ok failed := by
    simp [assess, Provider.review, keyed, AskFailure.warning?, failed]
  obtain ⟨-, assessed, -, read⟩ := results_consistent settings (.fails "boom") ⟨"", "", true⟩
    "while(true)" "java" hostileReply
  exact ⟨parsed, boom, read said parsed, assessed true failed boom, by decide +kernel⟩

end ReviewDesk
