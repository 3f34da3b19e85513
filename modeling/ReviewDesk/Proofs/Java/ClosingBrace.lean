import ReviewDesk.Proofs.Java.Walk

set_option autoImplicit false

namespace ReviewDesk.Java

open Text

-- The lines hold every character of the text but the newlines, which are no braces: the surplus of
-- the lines is that of the text, and there is one line more than newlines.
theorem braceIssues_sourceLines (text : List Char) :
    braceIssues (sourceLines text) =
      if text.count '}' < text.count '{' then [missingBrace.onLine (text.count '\n' + 1)]
      else [] := by
  have surplus : 0 < netOf (sourceLines text) ↔ text.count '}' < text.count '{' := by
    rw [netOf_sourceLines, netBraces]
    omega
  have size : (sourceLines text).length = text.count '\n' + 1 := by
    rw [sourceLines, length_numberFrom, length_lines]
  simp only [braceIssues, surplus, size]

theorem missing_brace_last (code : String) :
    ((∃ issue ∈ (analyze code "java").issues, issue.isTitled "Missing closing brace" = true) ↔
      code.toList.count '}' < code.toList.count '{') ∧
      ∃ others, (∀ issue ∈ others, issue.isTitled "Missing closing brace" = false) ∧
        (analyze code "java").issues = others ++
          if code.toList.count '}' < code.toList.count '{' then
            [{ kind := .error
               title := "Missing closing brace"
               description := "One or more methods/classes are missing closing braces"
               severity := .high
               line := some ((code.toList.count '\n' + 1 : Nat) : Int) }]
          else [] := by
  have walked : ∀ issue ∈ walk .fresh (sourceLines code.toList),
      issue.isTitled "Missing closing brace" = false := fun _ => walk_not_brace
  have whole : (analyze code "java").issues = walk .fresh (sourceLines code.toList) ++
      if code.toList.count '}' < code.toList.count '{' then
        [missingBrace.onLine (code.toList.count '\n' + 1)]
      else [] := by
    rw [← braceIssues_sourceLines]
    rfl
  refine ⟨?_, walk .fresh (sourceLines code.toList), walked, whole⟩
  constructor
  next =>
    rintro ⟨issue, found, titled⟩
    rw [whole, List.mem_append] at found
    rcases found with earlier | last
    next =>
      rw [walked issue earlier] at titled
      exact absurd titled Bool.false_ne_true
    next =>
      by_contra closed
      rw [if_neg closed] at last
      exact List.not_mem_nil last
  next =>
    intro unclosed
    refine ⟨missingBrace.onLine (code.toList.count '\n' + 1), ?_, by simp [missingBrace]⟩
    rw [whole, if_pos unclosed]
    exact List.mem_concat_self

end ReviewDesk.Java
