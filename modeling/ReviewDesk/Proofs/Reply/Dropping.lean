import ReviewDesk.Proofs.Reply.Classification
import ReviewDesk.Proofs.Schema.Faults

set_option autoImplicit false

namespace ReviewDesk

open Text

namespace Reply

def IsDropped (entries : List Json) (i : Nat) : Prop :=
  issuesOf (.list (entries.eraseIdx i)) = issuesOf (.list entries)

instance IsDropped.decidable (entries : List Json) (i : Nat) : Decidable (IsDropped entries i) :=
  inferInstanceAs (Decidable (_ = _))

def keptEntries (entries : List Json) : List Json :=
  (entries.zipIdx.filter fun place => ¬ IsDropped entries place.2).map Prod.fst

def bareResult (entries : List Json) : Json :=
  .object [("issues", .list entries), ("overallScore", .int 0), ("source", .text "ai")]

def IsFaulty (entries : List Json) (i : Nat) : Prop :=
  ∃ faults, Assessment.ofJson (bareResult entries) = .error faults ∧
    ∃ fault ∈ faults, [.field "issues", .index i] <+: fault.location

section Entries

variable {entries : List Json} {i : Nat}

theorem issuesOf_list (entries : List Json) :
    issuesOf (.list entries) = entries.filterMap fun entry => (Issue.ofJson entry).toOption := rfl

theorem isDropped_iff (inside : i < entries.length) :
    IsDropped entries i ↔ (Issue.ofJson entries[i]).toOption = none := by
  have split : entries = entries.take i ++ entries[i] :: entries.drop (i + 1) := by simp
  have listed := congrArg (List.filterMap fun entry => (Issue.ofJson entry).toOption) split
  rw [List.filterMap_append, List.filterMap_cons] at listed
  rw [IsDropped, issuesOf_list, issuesOf_list, List.eraseIdx_eq_take_drop_succ,
    List.filterMap_append, listed]
  cases (Issue.ofJson entries[i]).toOption with
  | none => simp
  | some issue => simp

theorem keptEntries_eq (entries : List Json) :
    keptEntries entries = entries.filter fun entry => (Issue.ofJson entry).toOption.isSome := by
  have same : ∀ place ∈ entries.zipIdx, decide (¬ IsDropped entries place.2) =
      (Issue.ofJson place.1).toOption.isSome := by
    rintro ⟨entry, i⟩ listed
    obtain ⟨inside, rfl⟩ := List.getElem?_eq_some_iff.mp (List.mk_mem_zipIdx_iff_getElem?.mp listed)
    rw [Bool.eq_iff_iff, decide_eq_true_iff, isDropped_iff inside]
    exact Option.ne_none_iff_isSome
  let keeps := fun entry => (Issue.ofJson entry).toOption.isSome
  calc keptEntries entries
      = (entries.zipIdx.filter (keeps ∘ Prod.fst)).map Prod.fst :=
        congrArg (List.map Prod.fst) (List.filter_congr same)
    _ = (entries.zipIdx.map Prod.fst).filter keeps := List.filter_map.symm
    _ = entries.filter keeps := by rw [List.zipIdx_map_fst]

theorem ofJson_bareResult (entries : List Json) :
    Assessment.ofJson (bareResult entries) =
      (Checked.within (.field "issues") (Json.asListOf Issue.ofJson (.list entries))).map
        fun issues => ⟨issues, 0, "", .ai, []⟩ := by
  have origin := Json.asLiteral_name (show Origin.ofName? "ai" = some .ai from rfl)
  cases issues : Checked.within (.field "issues") (Json.asListOf Issue.ofJson (.list entries)) <;>
    simp [Assessment.ofJson, bareResult, Json.asRecord, Assessment.ofMembers, Json.optional,
      Json.required, Json.member?, List.lookup_cons, Assessment.scoreMember, Assessment.asScore,
      Json.asInt, origin, issues, Checked.within_ok, Checked.both, Except.map]

theorem mem_faults_bareResult {fault : Fault} :
    fault ∈ (Assessment.ofJson (bareResult entries)).faults ↔
      ∃ j, ∃ inside : j < entries.length, ∃ found ∈ (Issue.ofJson entries[j]).faults,
        (found.within (.index j)).within (.field "issues") = fault := by
  rw [ofJson_bareResult, Checked.faults_map, Checked.faults_within, Json.asListOf,
    Checked.faults_all]
  simp only [List.mem_map, List.mem_flatMap, List.mem_mapIdx]
  constructor
  next =>
    rintro ⟨indexed, ⟨-, ⟨j, inside, rfl⟩, listed⟩, rfl⟩
    rw [Checked.faults_within] at listed
    obtain ⟨found, member, rfl⟩ := List.mem_map.mp listed
    exact ⟨j, inside, found, member, rfl⟩
  next =>
    rintro ⟨j, inside, found, member, rfl⟩
    refine ⟨found.within (.index j), ⟨_, ⟨j, inside, rfl⟩, ?_⟩, rfl⟩
    rw [Checked.faults_within]
    exact List.mem_map_of_mem member

theorem isFaulty_iff (inside : i < entries.length) :
    IsFaulty entries i ↔ (Issue.ofJson entries[i]).toOption = none := by
  have checked : IsFaulty entries i ↔ ∃ fault ∈ (Assessment.ofJson (bareResult entries)).faults,
      [.field "issues", .index i] <+: fault.location := by
    unfold IsFaulty
    cases Assessment.ofJson (bareResult entries) <;> simp [Checked.faults]
  rw [checked, ← Option.not_isSome_iff_eq_none,
    ← (Issue.reasoned_ofJson entries[i]).faults_eq_nil_iff]
  constructor
  next =>
    rintro ⟨fault, listed, inner⟩
    obtain ⟨j, _, found, held, rfl⟩ := mem_faults_bareResult.mp listed
    obtain rfl : i = j := by simpa [Fault.within] using inner
    exact List.ne_nil_of_mem held
  next =>
    intro some
    obtain ⟨found, member⟩ := List.exists_mem_of_ne_nil _ some
    exact ⟨_, mem_faults_bareResult.mpr ⟨i, inside, found, member, rfl⟩, by simp [Fault.within]⟩

theorem ofJson_keptEntries (entries : List Json) :
    Assessment.ofJson (bareResult (keptEntries entries)) =
      .ok ⟨issuesOf (.list entries), 0, "", .ai, []⟩ := by
  have fine : ∀ entry ∈ keptEntries entries, (Issue.ofJson entry).toOption.isSome = true := by
    rw [keptEntries_eq]
    exact fun entry member => (List.mem_filter.mp member).2
  have all : (keptEntries entries).filterMap (fun entry => (Issue.ofJson entry).toOption) =
      issuesOf (.list entries) := by
    rw [keptEntries_eq, issuesOf_list, List.filterMap_filter]
    exact List.filterMap_congr fun entry _ => by cases (Issue.ofJson entry).toOption <;> rfl
  rw [ofJson_bareResult, Json.asListOf_of_ok fine, all]
  rfl

end Entries

theorem drops_faulty_entries {members : Json.Members} {entries : List Json}
    (given : Json.member? members "issues" = some (.list entries)) :
    (∀ text span, IsObjectSpan text span →
      Json.read (.upTo depthLimit) span = .ok (.object members) →
        parse text = (.ok (structured members), [])) ∧
    (structured members).issues = issuesOf (.list entries) ∧
    (∀ i < entries.length, IsDropped entries i ↔ IsFaulty entries i) ∧
    ∃ result, Assessment.ofJson (bareResult (keptEntries entries)) = .ok result ∧
      result.issues = (structured members).issues := by
  have issues : (structured members).issues = issuesOf (.list entries) := by
    simp [structured, member, given, Assessment.ofIssues]
  refine ⟨?_, issues, ?_, _, ofJson_keptEntries entries, issues.symm⟩
  next =>
    intro text span spans read
    simp [parse, spans.found, read]
  next =>
    intro i inside
    rw [isDropped_iff inside, isFaulty_iff inside]

def mixedEntries : List Json :=
  let members (kind : String) (line : Json) : Json := .object [("type", .text kind),
    ("title", .text ""), ("description", .text ""), ("severity", .text "low"), ("line", line)]
  [members "info" (.text " 7 "), .int 3, members "fatal" .null, members "error" .null]

theorem mixed_entries_dropped :
    Json.member? [("issues", .list mixedEntries)] "issues" = some (.list mixedEntries) ∧
      ¬ IsFaulty mixedEntries 0 ∧ IsFaulty mixedEntries 1 ∧ IsFaulty mixedEntries 2 ∧
        ∃ result, Assessment.ofJson (bareResult (keptEntries mixedEntries)) = .ok result ∧
          result.issues = [⟨.info, "", "", .low, some 7⟩, ⟨.error, "", "", .low, none⟩] := by
  have given : Json.member? [("issues", .list mixedEntries)] "issues" = some (.list mixedEntries) :=
    rfl
  have kept : issuesOf (.list mixedEntries) =
      [⟨.info, "", "", .low, some 7⟩, ⟨.error, "", "", .low, none⟩] := by decide +kernel
  have length : mixedEntries.length = 4 := rfl
  -- The second entry is no object, and the third is of an unknown kind.
  obtain ⟨-, issues, agree, result, checked, same⟩ := drops_faulty_entries given
  refine ⟨given, ?_, ?_, ?_, result, checked, same.trans (issues.trans kept)⟩
  next =>
    rw [← agree 0 (by omega)]
    decide +kernel
  next =>
    rw [← agree 1 (by omega)]
    decide +kernel
  next =>
    rw [← agree 2 (by omega)]
    decide +kernel

end Reply

end ReviewDesk
