import ReviewDesk.Download
import ReviewDesk.Proofs.Text.Margins
import ReviewDesk.Proofs.Text.Pieces
import ReviewDesk.Proofs.Text.Word

set_option autoImplicit false

namespace ReviewDesk.Download

open Text

theorem isNameChar_iff (c : Char) : isNameChar c = true ↔ isWord c = true ∨ c = '-' := by
  simp [isNameChar]

theorem isNameChar_underscore : isNameChar '_' = true := by decide +kernel

theorem not_gap_of_isNameChar {c : Char} (named : isNameChar c = true) :
    inRanges gapRanges c = false := by
  rcases (isNameChar_iff c).mp named with word | rfl
  next => exact outside_of_areApart apart_gaps word
  next => decide

section Names

variable (language : String)

theorem mem_safeName : ∀ c ∈ safeName language, isNameChar c = true := by
  have underscore (c : Char) (same : (c == '_') = true) : isNameChar c = true :=
    eq_of_beq same ▸ isNameChar_underscore
  rw [safeName, forall_mem_trim underscore, ← List.map_take, List.forall_mem_map]
  intro c _
  split
  next named => exact named
  next => exact isNameChar_underscore

theorem length_safeName : (safeName language).length ≤ nameLimit :=
  (trim_within _ _).length_le.trans (List.length_take_le _ _)

theorem safeName_eq_nil_iff :
    safeName language = [] ↔
      ∀ c ∈ (strip language.toList).take nameLimit, c = '_' ∨ isNameChar c = false := by
  rw [safeName, trim_eq_nil_iff, ← List.map_take, List.forall_mem_map]
  refine forall₂_congr fun c _ => ?_
  cases named : isNameChar c <;> simp

theorem safeName_ofList {name : List Char} (named : ∀ c ∈ name, isNameChar c = true)
    (short : name.length ≤ nameLimit) (opened : ∀ c ∈ name.head?, (c == '_') = false)
    (closed : ∀ c ∈ name.getLast?, (c == '_') = false) : safeName (String.ofList name) = name := by
  have visible (c : Char) (member : c ∈ name) : isBlank c = false := by
    by_contra blank
    have gap := gap_of_isBlank (Bool.not_eq_false _ ▸ blank)
    rw [not_gap_of_isNameChar (named c member)] at gap
    exact Bool.false_ne_true gap
  have stripped : strip name = name :=
    trim_eq_self (fun c first => visible c (List.mem_of_mem_head? first))
      (fun c last => visible c (List.mem_of_mem_getLast? last))
  have kept : (name.map fun c => if isNameChar c then c else '_') = name :=
    (List.map_congr_left fun c member => if_pos (named c member)).trans name.map_id
  rw [safeName, String.toList_ofList, stripped, kept, List.take_of_length_le short]
  exact trim_eq_self opened closed

theorem safeName_safeName : safeName (String.ofList (safeName language)) = safeName language :=
  safeName_ofList (mem_safeName language) (length_safeName language) (head?_trim _ _)
    (getLast?_trim _ _)

theorem baseName_of_nil (none : safeName language = []) : baseName language = "code_review" := by
  rw [baseName, none]

theorem baseName_of_some (some : safeName language ≠ []) :
    baseName language = String.ofList (safeName language) ++ "_code_review" := by
  unfold baseName
  split
  next none => exact absurd none some
  next => rfl

theorem baseName_eq_plain_iff : baseName language = "code_review" ↔ safeName language = [] := by
  constructor
  next =>
    intro plain
    by_contra some
    rw [baseName_of_some language some] at plain
    have sizes : "_code_review".length = 12 ∧ "code_review".length = 11 := by decide
    have same := congrArg String.length plain
    rw [String.length_append] at same
    omega
  next => exact baseName_of_nil language

theorem baseName_safeName :
    baseName (String.ofList (safeName language)) = baseName language := by
  rw [baseName, safeName_safeName, ← baseName]

theorem mem_baseName : ∀ c ∈ (baseName language).toList, isNameChar c = true := by
  by_cases none : safeName language = []
  next =>
    rw [baseName_of_nil language none]
    exact forall_mem_literal rfl (List.all_eq_true.mp (by decide +kernel))
  next =>
    rw [baseName_of_some language none, String.toList_append, String.toList_ofList,
      List.forall_mem_append]
    exact ⟨mem_safeName language,
      forall_mem_literal rfl (List.all_eq_true.mp (by decide +kernel))⟩

end Names

/-- A value that quotes one name: nothing in the name ends the quotes, the value or the path, or
starts another parameter. -/
structure IsPlainValue (header : List Char) : Prop where
  quotes : header.count '"' = 2
  parameters : header.count ';' = 1
  kind : "attachment;".toList <+: header
  unbroken : ∀ c ∈ header, c ≠ '\r' ∧ c ≠ '\n' ∧ c ≠ '/' ∧ c ≠ '\\' ∧ isControlCode c = false

section Headers

theorem count_between {c : Char} {middle : String} (first last : String)
    (absent : c ∉ middle.toList) :
    (first ++ middle ++ last).toList.count c = first.toList.count c + last.toList.count c := by
  rw [String.toList_append, String.toList_append, List.count_append, List.count_append,
    List.count_eq_zero_of_not_mem absent, Nat.add_zero]

theorem prefix_between {start : List Char} {first : String} (middle last : String)
    (opening : start <+: first.toList) : start <+: (first ++ middle ++ last).toList := by
  rw [String.toList_append, String.toList_append, List.append_assoc]
  exact opening.trans (List.prefix_append _ _)

variable (language : String)

theorem not_mem_baseName {c : Char} (gap : inRanges gapRanges c = true) :
    c ∉ (baseName language).toList := by
  intro member
  rw [not_gap_of_isNameChar (mem_baseName language c member)] at gap
  exact Bool.false_ne_true gap

theorem unbroken_baseName : ∀ c ∈ (baseName language).toList,
    c ≠ '\r' ∧ c ≠ '\n' ∧ c ≠ '/' ∧ c ≠ '\\' ∧ isControlCode c = false := by
  intro c member
  have other (d : Char) (gap : inRanges gapRanges d = true) : c ≠ d := by
    rintro rfl
    exact not_mem_baseName language gap member
  refine ⟨other _ (by decide), other _ (by decide), other _ (by decide), other _ (by decide), ?_⟩
  by_contra control
  exact not_mem_baseName language (gap_of_isControlCode (Bool.not_eq_false _ ▸ control)) member

theorem isPlainValue_disposition : IsPlainValue (disposition language).toList where
  quotes := count_between _ _ (not_mem_baseName language (by decide))
  parameters := count_between _ _ (not_mem_baseName language (by decide))
  kind := prefix_between _ _ (by decide +kernel)
  unbroken := (forall_mem_between _
    (forall_mem_literal rfl (by simp [isControlCode, inRanges]))
    (forall_mem_literal rfl (by simp [isControlCode, inRanges]))).mpr (unbroken_baseName language)

end Headers

theorem baseName_safe (language : Option String) :
    let text := language.getD ""
    let name := baseName text
    (name = "code_review" ∨ ∃ kept : String, name = kept ++ "_code_review" ∧
        1 ≤ kept.length ∧ kept.length ≤ 40 ∧ (∀ c ∈ kept.toList, isWord c = true ∨ c = '-') ∧
        kept.toList.head? ≠ some '_' ∧ kept.toList.getLast? ≠ some '_' ∧ baseName kept = name) ∧
    (name = "code_review" ↔
      ∀ c ∈ (strip text.toList).take 40, c = '_' ∨ ¬ (isWord c = true ∨ c = '-')) ∧
    IsPlainValue (disposition text).toList := by
  intro text name
  refine ⟨?_, ?_, isPlainValue_disposition text⟩
  next =>
    by_cases none : safeName text = []
    next => exact .inl (baseName_of_nil text none)
    next =>
      have nonempty : 1 ≤ (safeName text).length := List.length_pos_iff.mpr none
      refine .inr ⟨String.ofList (safeName text), baseName_of_some text none, ?_⟩
      rw [String.length_ofList, String.toList_ofList]
      refine ⟨nonempty, length_safeName text, ?_, ?_, ?_, baseName_safeName text⟩
      next => exact fun c member => (isNameChar_iff c).mp (mem_safeName text c member)
      next =>
        intro first
        exact absurd (head?_trim _ _ '_' first) (by decide)
      next =>
        intro last
        exact absurd (getLast?_trim _ _ '_' last) (by decide)
  next =>
    rw [baseName_eq_plain_iff, safeName_eq_nil_iff]
    refine forall₂_congr fun c _ => ?_
    rw [← isNameChar_iff, Bool.not_eq_true]

example : baseName (" ../a b" ++ String.ofList (List.replicate 40 '_') ++ "z") = "a_b_code_review" := by
  decide +kernel

end ReviewDesk.Download
