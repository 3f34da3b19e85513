import ReviewDesk.Score

set_option autoImplicit false

namespace ReviewDesk

section Parts

variable {kinds first second : List Kind}

-- A score that has reached zero says nothing more about its penalty, so the parts are put together
-- by their penalties.
theorem score_of_penalty (sum : penalty kinds = penalty first + penalty second) :
    (score kinds : Int) = max 0 ((score first : Int) + score second - 100) := by
  simp only [score, sum]
  omega

theorem score_append (xs ys : List Kind) :
    (score (xs ++ ys) : Int) = max 0 ((score xs : Int) + score ys - 100) :=
  score_of_penalty (penalty_append xs ys)

theorem score_eq_counts (kinds : List Kind) :
    (score kinds : Int) = max 0 (100 - 15 * (kinds.count .error : Int) -
      8 * kinds.count .warning - 3 * kinds.count .suggestion) := by
  rw [score, penalty_eq_counts]
  omega

theorem score_perm (same : first.Perm second) : score first = score second := by
  rw [score, score, penalty_eq_counts, penalty_eq_counts]
  simp only [same.count_eq]

end Parts

theorem count_kinds (issues : List Issue) (kind : Kind) :
    (issues.map (·.kind)).count kind = issues.countP (·.kind = kind) := by
  rw [List.count, List.countP_map]
  exact List.countP_congr fun issue _ => by simp

theorem score_algebra (issues others : List Issue) :
    let given (list : List Issue) : Int := score (list.map (·.kind))
    let counts := Counts.tally (issues.map (·.kind))
    given (issues ++ others) = max 0 (given issues + given others - 100) ∧
      (∀ rearranged, rearranged.Perm issues → given rearranged = given issues) ∧
      given issues = max 0 (100 - 15 * (counts.errors : Int) - 8 * (counts.warnings : Int) -
        3 * (counts.suggestions : Int)) ∧
      counts.errors + counts.warnings + counts.suggestions + counts.infos = issues.length := by
  intro given counts
  have counted (kind : Kind) : counts.get kind = (issues.map (·.kind)).count kind :=
    Counts.get_tally _ kind
  refine ⟨?_, ?_, ?_, ?_⟩
  next =>
    simp only [given, List.map_append]
    exact score_append _ _
  next =>
    intro rearranged same
    exact congrArg Nat.cast (score_perm (same.map (·.kind)))
  next =>
    have errors : counts.errors = _ := counted .error
    have warnings : counts.warnings = _ := counted .warning
    have suggestions : counts.suggestions = _ := counted .suggestion
    rw [errors, warnings, suggestions]
    exact score_eq_counts _
  next =>
    have total := Counts.total_tally (issues.map (·.kind))
    rw [List.length_map] at total
    exact total

theorem score_of_a_clamped_part :
    let issue (kind : Kind) : Issue := ⟨kind, "", "", .low, none⟩
    let given (list : List Issue) : Int := score (list.map (·.kind))
    let issues := List.replicate 7 (issue .error) ++ [issue .info]
    let rearranged := issue .info :: List.replicate 7 (issue .error)
    rearranged.Perm issues ∧ given rearranged = given issues ∧ given issues = 0 ∧
      given (issues ++ [issue .warning]) = max 0 (0 + 92 - 100) := by
  intro issue given issues rearranged
  have same : rearranged.Perm issues := (List.perm_append_singleton _ _).symm
  obtain ⟨appended, moved, -, -⟩ := score_algebra issues [issue .warning]
  exact ⟨same, moved rearranged same, rfl, appended⟩

end ReviewDesk
