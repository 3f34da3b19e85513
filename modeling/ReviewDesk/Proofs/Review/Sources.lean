import ReviewDesk.Proofs.Review.Answers

set_option autoImplicit false

namespace ReviewDesk

open Text

structure Provider.Answers (provider : Provider) (settings : Settings) (text : CodePoints) :
    Prop where
  keyed : settings.key ≠ ""
  reply : ∃ content, provider = .replies (some content) ∧ content.stripped = text
  worded : text ≠ []

structure Sparing (settings : Settings) (calls : List Call) : Prop where
  connects : calls.countP (·.isConnect) ≤ 1
  completes : calls.countP (!·.isConnect) ≤ 1
  keyed : calls ≠ [] → settings.key ≠ ""

theorem Settings.hasKey_iff (settings : Settings) :
    settings.hasKey = true ↔ settings.key ≠ "" := decide_eq_true_iff

theorem AskFailure.level_of_warning {failure : AskFailure} {warning : Event}
    (warned : failure.warning? = some warning) : warning.level = .warning := by
  cases failure with
  | unavailable | callFailed | emptyReply =>
    cases warned
    rfl
  | refused | badReply => cases warned

theorem Reply.origin_of_parse {text : CodePoints} {result : Assessment}
    (parsed : (parse text).1 = .ok result) : result.origin = .ai := by
  rcases parse_ok_cases parsed with rfl | ⟨members, rfl⟩ <;> rfl

theorem Provider.content?_replies (content : CodePoints) :
    (replies (some content)).content? =
      if content.stripped = [] then none else some content.stripped := by
  rw [content?]
  cases content.stripped <;> rfl

section Asking

variable {settings : Settings} {provider : Provider} {code language text : CodePoints}

theorem Provider.review_of_answer (said : provider.Answers settings text) :
    (provider.review settings code language).result =
      (Reply.parse text).1.mapError .badReply := by
  obtain ⟨content, rfl, inside⟩ := said.reply
  rw [review_result settings _ code language (settings.hasKey_iff.mpr said.keyed)]
  simp [content?_replies, inside, said.worded]

theorem Provider.review_of_silence (code language : CodePoints)
    (silent : ¬ ∃ text, provider.Answers settings text) :
    ∃ failure, (provider.review settings code language).result = .error failure ∧
      (failure.warning? = none →
        ∃ message, provider = .refuses message ∧ failure = .refused message) ∧
      ∀ event ∈ (provider.review settings code language).events, event.level = .info := by
  by_cases keyed : settings.hasKey = true
  next =>
    cases provider with
    | refuses message =>
      exact ⟨.refused message, by simp [review, keyed], fun _ => ⟨message, rfl, rfl⟩,
        by simp [review, keyed]⟩
    | fails message =>
      exact ⟨.callFailed message, by simp [review, keyed], by simp [AskFailure.warning?],
        by simp [review, keyed, Event.level]⟩
    | noChoices =>
      exact ⟨.emptyReply, by simp [review, keyed, content?], by simp [AskFailure.warning?],
        by simp [review, keyed, content?, Event.level]⟩
    | replies content =>
      have wordless : (replies content).content? = none := by
        cases content with
        | none => rfl
        | some content =>
          rw [content?_replies]
          apply if_pos
          by_contra worded
          exact silent ⟨_, settings.hasKey_iff.mp keyed, ⟨content, rfl, rfl⟩, worded⟩
      exact ⟨.emptyReply, by simp [review, keyed, wordless], by simp [AskFailure.warning?],
        by simp [review, keyed, wordless, Event.level]⟩
  next =>
    exact ⟨.unavailable, by simp [review, keyed], by simp [AskFailure.warning?],
      by simp [review, keyed]⟩

theorem assess_of_answer (said : provider.Answers settings text) :
    (assess settings provider code language true).result =
      (Reply.parse text).1.mapError .badReply := by
  rw [assess_result, Provider.review_of_answer said]
  cases (Reply.parse text).1 with
  | ok result => rfl
  | error fault => rfl

theorem assess_of_silence (silent : ¬ ∃ text, provider.Answers settings text) :
    (∃ message, provider = .refuses message ∧
      (assess settings provider code language true).result = .error (.refused message)) ∨
    ∃ result before, result = Heuristic.assess code language Heuristic.fallbackExplanation ∧
      (assess settings provider code language true).result = .ok result ∧
      (assess settings provider code language true).events =
        before ++ [.fallbackDone result.issues.length result.score] ∧
      before.countP (·.level = .warning) = 1 := by
  obtain ⟨failure, failed, unwarned, calm⟩ := Provider.review_of_silence code language silent
  simp only [assess, Bool.not_true, Bool.false_eq_true, if_false, failed]
  cases warned : failure.warning? with
  | none =>
    -- The one failure that is passed on.
    obtain ⟨message, refused, rfl⟩ := unwarned warned
    exact .inl ⟨message, refused, failed⟩
  | some warning =>
    right
    refine ⟨_, (provider.review settings code language).events ++ [warning], rfl, rfl, by simp, ?_⟩
    have quiet : (provider.review settings code language).events.countP
        (·.level = .warning) = 0 := by
      apply List.countP_eq_zero.mpr
      intro event member
      simp [calm event member]
    rw [List.countP_append, quiet, List.countP_singleton]
    simp [AskFailure.level_of_warning warned]

end Asking

section Calls

variable (settings : Settings) (provider : Provider) (code language : CodePoints)

theorem Provider.calls_review :
    (provider.review settings code language).calls.Sublist
      [.connect settings.key settings.endpoint (some settings.timeLimit),
        .complete (reviewCompletion settings code language)] := by
  by_cases keyed : settings.hasKey = true
  next =>
    cases provider with
    | refuses | fails | noChoices => simp [review, keyed, content?]
    | replies content =>
      cases said : (replies content).content? with
      | none => simp [review, keyed, said]
      | some text =>
        rcases parsed : Reply.parse text with ⟨_ | result, events⟩ <;>
          simp [review, keyed, said, parsed]
  next => simp [review, keyed]

theorem calls_assess (useAI : Bool) :
    (assess settings provider code language useAI).calls =
      if useAI then (provider.review settings code language).calls else [] := by
  cases useAI with
  | false => rfl
  | true =>
    simp only [assess, Bool.not_true, Bool.false_eq_true, if_false, if_true]
    cases asked : (provider.review settings code language).result with
    | ok result => rfl
    | error failure => cases warned : failure.warning? <;> simp [warned]

theorem sparing_assess (useAI : Bool) :
    Sparing settings (assess settings provider code language useAI).calls := by
  rw [calls_assess]
  cases useAI with
  | false => exact ⟨Nat.zero_le 1, Nat.zero_le 1, fun called => absurd rfl called⟩
  | true =>
    have few := provider.calls_review settings code language
    refine ⟨few.countP_le, few.countP_le, ?_⟩
    intro called keyless
    have unkeyed : ¬ settings.hasKey = true := by
      rw [settings.hasKey_iff]
      exact not_not_intro keyless
    simp [Provider.review, unkeyed] at called

end Calls

theorem assess_sources (settings : Settings) (provider : Provider) (submission : Submission) :
    assess settings provider submission.code submission.language false =
      ⟨.ok (check submission), [], []⟩ ∧
    (∀ text, provider.Answers settings text →
      (assess settings provider submission.code submission.language true).result =
        (Reply.parse text).1.mapError .badReply ∧
      ∀ result, (Reply.parse text).1 = .ok result → result.origin = .ai) ∧
    ((¬ ∃ text, provider.Answers settings text) →
      (∃ message, provider = .refuses message ∧
        (assess settings provider submission.code submission.language true).result =
          .error (.refused message)) ∨
      ∃ result before,
        result = { check submission with explanation := Heuristic.fallbackExplanation } ∧
        result.origin = .heuristic ∧
        (assess settings provider submission.code submission.language true).result =
          .ok result ∧
        (assess settings provider submission.code submission.language true).events =
          before ++ [.fallbackDone result.issues.length result.score] ∧
        before.countP (·.level = .warning) = 1) ∧
    ∀ useAI, Sparing settings
      (assess settings provider submission.code submission.language useAI).calls := by
  refine ⟨rfl, ?_, ?_, sparing_assess settings provider _ _⟩
  next =>
    intro text said
    exact ⟨assess_of_answer said, fun result => Reply.origin_of_parse⟩
  next =>
    intro silent
    rcases assess_of_silence silent with refused | ⟨_, before, rfl, answered, logged⟩
    next => exact .inl refused
    next => exact .inr ⟨_, before, rfl, rfl, answered, logged⟩

def trial : Settings := { Settings.unset with apiKey := some " k " }

theorem sources_told : ∃ said failed : Assessment,
    (assess trial (.replies (some " prose\n")) "x = 1" "python" true).result = .ok said ∧
      (Reply.parse "prose").1 = .ok said ∧ said.origin = .ai ∧
    (assess trial (.fails "boom") "x = 1" "python" true).result = .ok failed ∧
      failed = { check ⟨"x = 1", "python", true⟩ with
        explanation := Heuristic.fallbackExplanation } ∧
      failed.origin = .heuristic := by
  have said : (Provider.replies (some " prose\n")).Answers trial "prose" :=
    ⟨by decide +kernel, ⟨_, rfl, by decide +kernel⟩, by decide⟩
  have prose : (Reply.parse "prose").1 = .ok (Reply.degraded "prose") := by decide +kernel
  have silent : ¬ ∃ text, (Provider.fails "boom").Answers trial text := by
    rintro ⟨text, -, ⟨content, replied, -⟩, -⟩
    cases replied
  obtain ⟨-, answer, -⟩ := assess_sources trial (.replies (some " prose\n"))
    ⟨"x = 1", "python", true⟩
  obtain ⟨-, -, fallback, -⟩ := assess_sources trial (.fails "boom") ⟨"x = 1", "python", true⟩
  obtain ⟨read, ai⟩ := answer _ said
  rw [prose] at read
  rcases fallback silent with ⟨message, refused, -⟩ | ⟨failed, -, same, heuristic, boom, -⟩
  next => cases refused
  next => exact ⟨_, failed, read, prose, ai _ prose, boom, same, heuristic⟩

end ReviewDesk
