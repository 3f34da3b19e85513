import ReviewDesk.Proofs.Reply.Outcome
import ReviewDesk.Review

set_option autoImplicit false

namespace ReviewDesk

open Text

/-- What a provider can do that the rules do not step in for: it cannot be set up, or its reply
holds an object that is too much to read. -/
def Provider.IsUnhandled (provider : Provider) : Prop :=
  (∃ message, provider = .refuses message) ∨
    ∃ text span, provider.content? = some text ∧ Reply.objectSpan? text = some span ∧
      Reply.IsOverlong span

theorem Heuristic.score_mem (code language : CodePoints) (explanation : String) :
    0 ≤ (Heuristic.assess code language explanation).score ∧
      (Heuristic.assess code language explanation).score ≤ 100 := by
  have bound := score_le
    (((RuleSet.ofLanguage language.legible).check (sourceLines code.legible.toList)).map (·.kind))
  simp only [Heuristic.assess, Assessment.ofIssues, analyze]
  omega

section Outcomes

variable (settings : Settings) (provider : Provider) (code language : CodePoints)

theorem Provider.review_result (keyed : settings.hasKey = true) :
    (provider.review settings code language).result =
      match provider with
      | .refuses message => .error (.refused message)
      | .fails message => .error (.callFailed message)
      | answering =>
        match answering.content? with
        | none => .error .emptyReply
        | some text => (Reply.parse text).1.mapError .badReply := by
  cases provider with
  | refuses | fails => simp [review, keyed]
  | noChoices => simp [review, keyed, content?]
  | replies reply =>
    cases content : (replies reply).content? with
    | none => simp [review, keyed, content]
    | some text =>
      rcases parsed : Reply.parse text with ⟨_ | result, events⟩ <;>
        simp [review, keyed, content, parsed, Except.mapError]

theorem assess_result :
    (assess settings provider code language true).result =
      match (provider.review settings code language).result with
      | .ok result => .ok result
      | .error failure =>
        if failure.warning?.isSome then
          .ok (Heuristic.assess code language Heuristic.fallbackExplanation)
        else .error failure := by
  simp only [assess, Bool.not_true, Bool.false_eq_true, if_false]
  cases asked : (provider.review settings code language).result with
  | ok result => rfl
  | error failure => cases warned : failure.warning? <;> simp [asked, warned]

theorem rules_answer (explanation : String) {answer : Except AskFailure Assessment}
    (same : answer = .ok (Heuristic.assess code language explanation)) :
    ∃ result, answer = .ok result ∧ 0 ≤ result.score ∧ result.score ≤ 100 :=
  ⟨_, same, Heuristic.score_mem code language explanation⟩

theorem assess_answers_iff (useAI : Bool) :
    (∃ result, (assess settings provider code language useAI).result = .ok result ∧
      0 ≤ result.score ∧ result.score ≤ 100) ↔
        ¬ (useAI = true ∧ settings.hasKey = true ∧ provider.IsUnhandled) := by
  cases useAI with
  | false =>
    simp only [Bool.false_eq_true, false_and, not_false_iff, iff_true]
    exact rules_answer code language Heuristic.defaultExplanation rfl
  | true =>
    cases keyed : settings.hasKey with
    | false =>
      simp only [Bool.false_eq_true, false_and, and_false, not_false_iff, iff_true]
      apply rules_answer code language Heuristic.fallbackExplanation
      rw [assess_result]
      simp [Provider.review, keyed, AskFailure.warning?]
    | true =>
      simp only [true_and]
      have answer := assess_result settings provider code language
      rw [Provider.review_result settings provider code language keyed] at answer
      cases provider with
      | refuses message =>
        simp [answer, AskFailure.warning?, Provider.IsUnhandled]
      | fails message =>
        have handled : ¬ (Provider.fails message).IsUnhandled := by
          simp [Provider.IsUnhandled, Provider.content?]
        exact iff_of_true (rules_answer code language _ answer) handled
      | noChoices =>
        have handled : ¬ Provider.noChoices.IsUnhandled := by
          simp [Provider.IsUnhandled, Provider.content?]
        exact iff_of_true (rules_answer code language _ answer) handled
      | replies reply =>
        cases content : (Provider.replies reply).content? with
        | none =>
          have handled : ¬ (Provider.replies reply).IsUnhandled := by
            simp [Provider.IsUnhandled, content]
          simp only [content] at answer
          exact iff_of_true (rules_answer code language _ answer) handled
        | some text =>
          have unhandled : (Provider.replies reply).IsUnhandled ↔
              ∃ span, Reply.objectSpan? text = some span ∧ Reply.IsOverlong span := by
            simp [Provider.IsUnhandled, content]
          simp only [content] at answer
          rw [unhandled, ← Reply.parse_answers_iff, answer]
          cases (Reply.parse text).1 with
          | ok result => simp [Except.mapError]
          | error fault => simp [Except.mapError, AskFailure.warning?]

end Outcomes

theorem assess_of_refusal : ¬ ∀ (settings : Settings) (provider : Provider)
    (code language : CodePoints) (useAI : Bool),
    ∃ result, (assess settings provider code language useAI).result = .ok result := by
  intro answers
  obtain ⟨result, answered⟩ :=
    answers { Settings.unset with apiKey := some "k" } (.refuses "boom") "x = 1" "python" true
  have keyed : ({ Settings.unset with apiKey := some "k" } : Settings).hasKey = true := by
    decide +kernel
  simp [assess, Provider.review, keyed, AskFailure.warning?] at answered

section Answered

variable {settings : Settings} {provider : Provider} {code language : CodePoints}
  {result : Assessment}

theorem Provider.exists_reply_of_review
    (answered : (provider.review settings code language).result = .ok result) :
    ∃ text, (Reply.parse text).1 = .ok result := by
  by_cases keyed : settings.hasKey = true
  next =>
    rw [review_result settings provider code language keyed] at answered
    split at answered
    next => cases answered
    next => cases answered
    next =>
      split at answered
      next => cases answered
      next text _ =>
        refine ⟨text, ?_⟩
        cases parsed : (Reply.parse text).1 with
        | error fault => simp [parsed, Except.mapError] at answered
        | ok read => simpa [parsed, Except.mapError] using answered
  next => simp [review, keyed] at answered

theorem assess_ok_cases {useAI : Bool}
    (answered : (assess settings provider code language useAI).result = .ok result) :
    (∃ text, (Reply.parse text).1 = .ok result) ∨
      ∃ explanation, result = Heuristic.assess code language explanation := by
  cases useAI with
  | false =>
    cases answered
    exact .inr ⟨_, rfl⟩
  | true =>
    rw [assess_result] at answered
    split at answered
    next asked =>
      cases answered
      exact .inl (Provider.exists_reply_of_review asked)
    next =>
      split at answered <;> cases answered
      exact .inr ⟨_, rfl⟩

end Answered

end ReviewDesk
