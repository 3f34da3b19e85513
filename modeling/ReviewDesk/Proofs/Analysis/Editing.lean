import Mathlib.Data.List.Basic
import ReviewDesk.Proofs.Analysis.Concatenation

set_option autoImplicit false

namespace ReviewDesk

open Text

theorem newline_not_mem_line {raw text : List Char} (listed : raw ∈ lines text) : '\n' ∉ raw := by
  induction text generalizing raw with
  | nil => simp_all [lines]
  | cons c rest ih =>
    rw [lines, List.splitOn_cons_eq_if_modifyHead] at listed
    split at listed
    next =>
      rcases List.mem_cons.mp listed with rfl | later
      next => exact List.not_mem_nil
      next => exact ih later
    next inside =>
      obtain ⟨first, others, split⟩ := List.exists_cons_of_ne_nil (lines_ne_nil rest)
      rw [← lines, split, List.modifyHead_cons] at listed
      rcases List.mem_cons.mp listed with rfl | later
      next =>
        rw [List.mem_cons, not_or]
        exact ⟨fun same => inside (beq_iff_eq.mpr same.symm), ih (by simp [split])⟩
      next => exact ih (by simp [split, later])

def editLines (edit : Nat → List Char → List Char) (code : String) : String :=
  String.ofList (unlines ((lines code.toList).mapIdx edit))

def SourceLine.edited (edit : Nat → List Char → List Char) (line : SourceLine) : SourceLine :=
  ⟨line.index, edit line.index line.raw⟩

section Edits

variable {edit : Nat → List Char → List Char}

theorem numberFrom_mapIdx (edit : Nat → List Char → List Char) (index : Nat)
    (raws : List (List Char)) :
    numberFrom index (raws.mapIdx fun offset => edit (index + offset)) =
      (numberFrom index raws).map (·.edited edit) := by
  induction raws generalizing index with
  | nil => rfl
  | cons raw rest ih =>
    have next := ih (index + 1)
    simp only [Nat.add_right_comm index 1] at next
    rw [List.mapIdx_cons, numberFrom, numberFrom, List.map_cons, ← next]
    rfl

theorem lines_editLines (inline : ∀ index raw, '\n' ∉ raw → '\n' ∉ edit index raw)
    (code : String) : lines (editLines edit code).toList = (lines code.toList).mapIdx edit := by
  rw [editLines, String.toList_ofList]
  apply lines_unlines
  next =>
    intro part member
    obtain ⟨index, bound, rfl⟩ := List.mem_mapIdx.mp member
    exact inline index _ (newline_not_mem_line (List.getElem_mem bound))
  next => simpa using lines_ne_nil code.toList

theorem sourceLines_editLines (inline : ∀ index raw, '\n' ∉ raw → '\n' ∉ edit index raw)
    (code : String) :
    sourceLines (editLines edit code).toList = (sourceLines code.toList).map (·.edited edit) := by
  have edited := numberFrom_mapIdx edit 0 (lines code.toList)
  simp only [Nat.zero_add] at edited
  rw [sourceLines, lines_editLines inline, edited, sourceLines]

end Edits

section Linewise

variable {findings : SourceLine → List Finding} {f : SourceLine → SourceLine} {keep : Issue → Bool}

theorem linewise_map_filter {lines : List SourceLine}
    (own : ∀ line ∈ lines, (findings (f line)).map (·.onLine (f line).number) =
      ((findings line).map (·.onLine line.number)).filter keep) :
    linewise findings (lines.map f) = (linewise findings lines).filter keep := by
  rw [linewise, linewise, List.flatMap_map, List.filter_flatMap]
  exact List.flatMap_congr own

end Linewise

end ReviewDesk
