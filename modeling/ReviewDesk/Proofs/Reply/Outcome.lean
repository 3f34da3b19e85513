import ReviewDesk.Proofs.Number.Rounding
import ReviewDesk.Reply

set_option autoImplicit false

namespace ReviewDesk.Reply

open Text

theorem roundedScore_mem (q : Rat) : 0 ≤ roundedScore q ∧ roundedScore q ≤ 100 := by
  obtain ⟨low, high⟩ := Number.clamp_mem (show (0 : Rat) ≤ 100 by norm_num) q
  constructor
  next => exact Number.le_nearestEven (by exact_mod_cast low)
  next => exact Number.nearestEven_le (by exact_mod_cast high)

theorem roundedScore_intCast {n : Int} (low : 0 ≤ n) (high : n ≤ 100) : roundedScore n = n := by
  rw [roundedScore, Number.clamp_of_mem (by exact_mod_cast low) (by exact_mod_cast high),
    Number.nearestEven_intCast]

theorem scoreOf_mem (value : Json) : 0 ≤ scoreOf value ∧ scoreOf value ≤ 100 := by
  cases value with
  | int n => exact roundedScore_mem n
  | real x =>
    cases x with
    | nan => decide
    | infinite negative => cases negative <;> decide
    | finite negative significand exponent => exact roundedScore_mem _
  | null | bool | text | list | object => simp [scoreOf, defaultScore]

def IsOverlong (span : CodePoints) : Prop :=
  (∃ count, Json.read (.upTo depthLimit) span = .error (.tooManyDigits count)) ∨
    ∃ container, Json.read (.upTo depthLimit) span = .error (.tooDeep container)

theorem parse_ok_cases {text : CodePoints} {result : Assessment}
    (parsed : (parse text).1 = .ok result) :
    result = degraded text ∨ ∃ members, result = structured members := by
  unfold parse at parsed
  split at parsed
  next =>
    cases parsed
    exact .inl rfl
  next =>
    split at parsed <;> cases parsed
    next => exact .inl rfl
    next members _ => exact .inr ⟨members, rfl⟩
    next => exact .inl rfl

theorem degraded_score (text : CodePoints) : (degraded text).score = 75 := rfl

theorem parse_answers_iff (text : CodePoints) :
    (∃ result, (parse text).1 = .ok result ∧ 0 ≤ result.score ∧ result.score ≤ 100) ↔
      ¬ ∃ span, objectSpan? text = some span ∧ IsOverlong span := by
  have wrapped : ∃ result, (.ok (degraded text) : Except ReplyFault Assessment) = .ok result ∧
      0 ≤ result.score ∧ result.score ≤ 100 := ⟨_, rfl, by simp [degraded_score]⟩
  unfold parse
  cases objectSpan? text with
  | none => simpa using wrapped
  | some span =>
    simp only [Option.some.injEq, exists_eq_left', IsOverlong]
    cases Json.read (.upTo depthLimit) span with
    | error fault =>
      cases fault with
      | malformed position => simpa using wrapped
      | tooManyDigits count => simp
      | tooDeep container => simp
    | ok value =>
      cases value with
      | object members =>
        simpa [structured, Assessment.ofIssues] using scoreOf_mem (member members "overallScore")
      | null | bool | int | real | text | list => simpa using wrapped

end ReviewDesk.Reply
