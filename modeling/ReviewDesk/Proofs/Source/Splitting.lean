import ReviewDesk.Proofs.Analysis.Editing
import ReviewDesk.Proofs.Text.Margins

set_option autoImplicit false

namespace ReviewDesk

open Text

section Margins

def margins : List Char := [
  ' ', '\t', '\n', '\u000b', '\u000c', '\r', '\u00a0', '\u1680',
  '\u2000', '\u2001', '\u2002', '\u2003', '\u2004', '\u2005', '\u2006', '\u2007', '\u2008',
  '\u2009', '\u200a', '\u2028', '\u2029', '\u202f', '\u205f', '\u3000', '\ufeff']

theorem isMargin_eq : isMargin = margins.contains := by
  funext c
  rw [Bool.eq_iff_iff, List.contains_iff_mem]
  simp only [isMargin, isCommonBlank, Bool.or_eq_true, Bool.and_eq_true, decide_eq_true_eq,
    beq_iff_eq, le_iff_toNat, margins, List.mem_cons, List.not_mem_nil, or_false, ← Char.toNat_inj,
    Char.reduceToNat]
  omega

theorem core_trimmed (line : SourceLine) : Core margins.contains line.raw line.trimmed := by
  rw [← isMargin_eq]
  exact core_trim isMargin line.raw

theorem isCommentLine_trim (raw : List Char) :
    isCommentLine (trim isMargin raw) = isCommentLine raw := by
  rw [isCommentLine, isCommentLine, trim_trim]

end Margins

section Lines

theorem getElem?_numberFrom (index : Nat) (raws : List (List Char)) (place : Nat) :
    (numberFrom index raws)[place]? = raws[place]?.map fun raw => ⟨index + place, raw⟩ := by
  induction raws generalizing index place with
  | nil => rfl
  | cons raw rest ih =>
    cases place with
    | zero => rfl
    | succ place =>
      rw [numberFrom, List.getElem?_cons_succ, List.getElem?_cons_succ, ih,
        Nat.add_right_comm index 1, Nat.add_assoc]

theorem index_of_getElem? {text : List Char} {place : Nat} {line : SourceLine}
    (here : (sourceLines text)[place]? = some line) :
    line.index = place ∧ line.number = place + 1 := by
  rw [sourceLines, getElem?_numberFrom, Option.map_eq_some_iff] at here
  obtain ⟨raw, -, rfl⟩ := here
  simp [SourceLine.number]

theorem newline_not_mem_raw {text : List Char} {line : SourceLine}
    (listed : line ∈ sourceLines text) : '\n' ∉ line.raw := by
  have raws : (sourceLines text).map (·.raw) = lines text := raw_numberFrom 0 _
  exact newline_not_mem_line (raws ▸ List.mem_map_of_mem listed)

theorem raw_sourceLines_unlines {raws : List (List Char)} (some : raws ≠ [])
    (single : ∀ raw ∈ raws, '\n' ∉ raw) : (sourceLines (unlines raws)).map (·.raw) = raws := by
  rw [sourceLines, raw_numberFrom, lines_unlines raws single some]

end Lines

theorem sourceLines_lossless (text : List Char) :
    unlines ((sourceLines text).map (·.raw)) = text ∧
      (∀ line ∈ sourceLines text, '\n' ∉ line.raw) ∧
      (∀ (place : Nat) line, (sourceLines text)[place]? = some line →
        line.index = place ∧ line.number = place + 1) ∧
      (sourceLines text).length = text.count '\n' + 1 ∧
      (∀ raws, raws ≠ [] → (∀ raw ∈ raws, '\n' ∉ raw) →
        (sourceLines (unlines raws)).map (·.raw) = raws) ∧
      ∀ line : SourceLine, Core margins.contains line.raw line.trimmed ∧
        trim isMargin line.trimmed = line.trimmed ∧
        isCommentLine line.raw = isCommentLine line.trimmed := by
  refine ⟨unlines_sourceLines text, fun line => newline_not_mem_raw,
    fun place line => index_of_getElem?, ?_, fun raws => raw_sourceLines_unlines, fun line => ?_⟩
  next => rw [sourceLines, length_numberFrom, length_lines]
  next =>
    exact ⟨core_trimmed line, trim_trim isMargin line.raw, (isCommentLine_trim line.raw).symm⟩

theorem blank_lines_split :
    let raws := ["".toList, "\ufeff // x \r".toList, "\u3000".toList]
    let lines := sourceLines (unlines raws)
    raws ≠ [] ∧ (∀ raw ∈ raws, '\n' ∉ raw) ∧ lines.map (·.raw) = raws ∧
      lines[1]? = some ⟨1, "\ufeff // x \r".toList⟩ ∧
      SourceLine.number ⟨1, "\ufeff // x \r".toList⟩ = 2 ∧
      Core margins.contains "\ufeff // x \r".toList "// x".toList := by
  intro raws lines
  have given : raws ≠ [] := List.cons_ne_nil _ _
  have single : ∀ raw ∈ raws, '\n' ∉ raw := by decide +kernel
  have here : lines[1]? = some ⟨1, "\ufeff // x \r".toList⟩ := by decide +kernel
  obtain ⟨-, -, numbered, -, rejoined, trimmed⟩ := sourceLines_lossless (unlines raws)
  exact ⟨given, single, rejoined raws given single, here, (numbered 1 _ here).2,
    (trimmed ⟨1, "\ufeff // x \r".toList⟩).1⟩

end ReviewDesk
