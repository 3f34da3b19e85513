import ReviewDesk.Proofs.Java.Walk

set_option autoImplicit false

namespace ReviewDesk.Java

open Text

structure Alike (line other : SourceLine) : Prop where
  index : other.index = line.index
  declared : declares other.trimmed = declares line.trimmed
  void : contains "void".toList other.trimmed = contains "void".toList line.trimmed
  returned : returns other.trimmed = returns line.trimmed
  braces : netBraces other.raw = netBraces line.raw
  exits : exits other = exits line

namespace Alike

variable {line other : SourceLine}

theorem refl (line : SourceLine) : Alike line line := ⟨rfl, rfl, rfl, rfl, rfl, rfl⟩

theorem number (alike : Alike line other) : other.number = line.number :=
  congrArg (· + 1) alike.index

theorem step (alike : Alike line other) (tracker : Tracker) :
    tracker.step other = tracker.step line := by
  have entered : tracker.enter other = tracker.enter line := by
    simp only [Tracker.enter, alike.declared, alike.void, alike.number]
  have counted : (tracker.enter line).count other = (tracker.enter line).count line := by
    simp only [Tracker.count, alike.returned, alike.braces]
  rw [Tracker.step, Tracker.step, entered, counted]

end Alike

section Rewriting

variable {f : SourceLine → SourceLine} {keep : Issue → Bool}

theorem loopsForever_map (alike : ∀ line, Alike line (f line)) (text : List Char)
    (following : List SourceLine) :
    loopsForever text (following.map f) = loopsForever text following := by
  have same : exits ∘ f = exits := funext fun line => (alike line).exits
  simp only [loopsForever, exits_window, ← List.map_take, List.any_map, same]

theorem walk_map_filter (alike : ∀ line, Alike line (f line))
    (kept : ∀ number, keep (missingReturn.onLine number) = true) {lines : List SourceLine}
    (own : ∀ line ∈ lines, ∀ following,
      lineIssues (f line) (following.map f) = (lineIssues line following).filter keep)
    (tracker : Tracker) :
    walk tracker (lines.map f) = (walk tracker lines).filter keep := by
  induction lines generalizing tracker with
  | nil => rfl
  | cons line rest ih =>
    rw [List.forall_mem_cons] at own
    have complained : ((tracker.step line).2.toList.map missingReturn.onLine).filter keep =
        (tracker.step line).2.toList.map missingReturn.onLine :=
      List.filter_eq_self.mpr (List.forall_mem_map.mpr fun number _ => kept number)
    simp only [List.map_cons, walk, (alike line).step, own.1, ih own.2, List.filter_append,
      complained]

theorem netOf_map (alike : ∀ line, Alike line (f line)) (lines : List SourceLine) :
    netOf (lines.map f) = netOf lines := by
  induction lines with
  | nil => rfl
  | cons line rest ih => rw [List.map_cons, netOf, netOf, (alike line).braces, ih]

theorem check_map_filter (alike : ∀ line, Alike line (f line))
    (kept : ∀ finding ∈ [missingReturn, missingBrace], ∀ number,
      keep (finding.onLine number) = true)
    {lines : List SourceLine}
    (own : ∀ line ∈ lines, ∀ following,
      lineIssues (f line) (following.map f) = (lineIssues line following).filter keep) :
    check (lines.map f) = (check lines).filter keep := by
  have braces : (braceIssues lines).filter keep = braceIssues lines := by
    rw [filter_braceIssues, kept missingBrace (by simp), if_pos rfl]
  have same : braceIssues (lines.map f) = braceIssues lines := by
    rw [braceIssues, braceIssues, netOf_map alike, List.length_map]
  rw [check, check, List.filter_append, braces, same,
    walk_map_filter alike (kept missingReturn (by simp)) own]

end Rewriting

section Margins

theorem netBraces_of_margin {text : List Char} (marginal : ∀ c ∈ text, isMargin c = true) :
    netBraces text = 0 := by
  have opening : '{' ∉ text := fun member => Bool.false_ne_true (marginal '{' member)
  have closing : '}' ∉ text := fun member => Bool.false_ne_true (marginal '}' member)
  rw [netBraces, List.count_eq_zero_of_not_mem opening, List.count_eq_zero_of_not_mem closing]
  rfl

theorem containsAny_exits_between {left text right : List Char}
    (before : ∀ c ∈ left, isMargin c = true) (after : ∀ c ∈ right, isMargin c = true) :
    containsAny loopExits (left ++ text ++ right) = containsAny loopExits text := by
  refine containsAny_congr fun mark listed => ?_
  obtain ⟨some, clear⟩ := loopExits_clear mark listed
  exact infix_between_margins_iff some clear before after

theorem alike_of_margins {index : Nat} {left raw right : List Char}
    (before : ∀ c ∈ left, isMargin c = true) (after : ∀ c ∈ right, isMargin c = true) :
    Alike ⟨index, raw⟩ ⟨index, left ++ raw ++ right⟩ where
  index := rfl
  declared := congrArg declares (trim_between_margins before after)
  void := congrArg (contains "void".toList) (trim_between_margins before after)
  returned := congrArg returns (trim_between_margins before after)
  braces := by
    rw [netBraces_append, netBraces_append, netBraces_of_margin before,
      netBraces_of_margin after, Int.zero_add, Int.add_zero]
  exits := containsAny_exits_between before after

end Margins

end ReviewDesk.Java
