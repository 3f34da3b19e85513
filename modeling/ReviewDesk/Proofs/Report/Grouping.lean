import ReviewDesk.Proofs.Score.Algebra
import ReviewDesk.Report.Plain

set_option autoImplicit false

namespace ReviewDesk

open Text

def Kind.rank : Kind → Nat
  | error => 0
  | warning => 1
  | suggestion => 2
  | info => 3

def Kind.plural : Kind → String
  | error => "ERRORS"
  | warning => "WARNINGS"
  | suggestion => "SUGGESTIONS"
  | info => "INFO"

namespace Plain

inductive Entry where
  | heading (kind : Kind) (count : Nat)
  | block (issue : Issue)

namespace Entry

def place : Option Int → String
  | some line => "Line " ++ toString line
  | none => "File"

def lines : Entry → List CodePoints
  | heading kind count =>
    [kind.plural ++ " (" ++ toString count ++ "):", String.ofList (List.replicate 80 '-')]
  | block issue => [
    "  " ++ place issue.line ++ ": " ++ issue.title ++ " [" ++ issue.severity.name ++ "]",
    "    " ++ issue.description ++ "\n"]

def heading? : Entry → Option (Kind × Nat)
  | heading kind count => some (kind, count)
  | block _ => none

def issue? : Entry → Option Issue
  | heading .. => none
  | block issue => some issue

end Entry

def headings (entries : List Entry) : List (Kind × Nat) := entries.filterMap Entry.heading?

def blocks (entries : List Entry) : List Issue := entries.filterMap Entry.issue?

def countShown (entries : List Entry) (kind : Kind) : Nat :=
  ((headings entries).lookup kind).getD 0

def countsShown (entries : List Entry) : Counts where
  errors := countShown entries .error
  warnings := countShown entries .warning
  suggestions := countShown entries .suggestion
  infos := countShown entries .info

def summaryShown (entries : List Entry) : String :=
  "\nSummary: " ++ toString (countShown entries .error) ++ " errors, " ++
    toString (countShown entries .warning) ++ " warnings, " ++
    toString (countShown entries .suggestion) ++ " suggestions, " ++
    toString (countShown entries .info) ++ " info"

def Headed (entries : List Entry) : Prop :=
  ∀ before issue after, entries = before ++ .block issue :: after →
    ∃ count, (headings before).getLast? = some (issue.kind, count)

structure Arranged (issues : List Issue) (entries : List Entry) : Prop where
  complete : (blocks entries).Perm issues
  grouped : (blocks entries).Pairwise fun earlier later => earlier.kind.rank ≤ later.kind.rank
  stable : ∀ kind, (blocks entries).filter (·.kind = kind) = issues.filter (·.kind = kind)
  headings : headings entries = (Kind.all.filter fun kind => issues.any (·.kind = kind)).map
    fun kind => (kind, issues.countP (·.kind = kind))
  beneath : Headed entries

section Groups

variable {issues others : List Issue} {kind : Kind}

theorem length_group : (group kind issues).length = issues.countP (·.kind = kind) :=
  List.countP_eq_length_filter.symm

theorem kind_of_mem_group {issue : Issue} (member : issue ∈ group kind issues) :
    issue.kind = kind := by
  simpa using (List.mem_filter.mp member).2

theorem group_eq_nil_iff : group kind issues = [] ↔ issues.any (·.kind = kind) = false := by
  simp [group, List.filter_eq_nil_iff]

theorem perm_of_groups (same : ∀ kind, group kind issues = group kind others) :
    issues.Perm others := by
  rw [List.perm_iff_count]
  intro issue
  have counted (list : List Issue) : (group issue.kind list).count issue = list.count issue :=
    List.count_filter (by simp)
  rw [← counted issues, same, counted others]

theorem group_of_group (other : Kind) :
    group kind (group other issues) = if other = kind then group kind issues else [] := by
  simp only [group, List.filter_filter]
  split
  next same => simp [same]
  next apart =>
    rw [List.filter_eq_nil_iff]
    intro issue _ both
    simp only [Bool.and_eq_true, decide_eq_true_eq] at both
    exact apart (both.2.symm.trans both.1)

def regrouped (issues : List Issue) : List Issue := Kind.all.flatMap (group · issues)

theorem group_regrouped (kind : Kind) (issues : List Issue) :
    group kind (regrouped issues) = group kind issues := by
  have parts : group kind (regrouped issues) = Kind.all.flatMap fun other =>
      group kind (group other issues) := by
    simp only [regrouped, group, List.filter_flatMap]
  rw [parts]
  simp only [group_of_group]
  cases kind <;> simp [Kind.all]

theorem rank_regrouped (issues : List Issue) :
    (regrouped issues).Pairwise fun earlier later => earlier.kind.rank ≤ later.kind.rank := by
  rw [regrouped, List.pairwise_flatMap]
  constructor
  next =>
    intro kind _
    apply List.pairwise_of_forall_mem_list
    intro earlier member later member'
    have alike : earlier.kind = later.kind :=
      (kind_of_mem_group member).trans (kind_of_mem_group member').symm
    exact Nat.le_of_eq (congrArg Kind.rank alike)
  next =>
    have ascending : Kind.all.Pairwise fun earlier later => earlier.rank ≤ later.rank := by decide
    refine ascending.imp ?_
    intro kind other below earlier member later member'
    rw [kind_of_mem_group member, kind_of_mem_group member']
    exact below

end Groups

section Entries

variable {issues : List Issue} {kind : Kind}

def sectionOf (issues : List Issue) (kind : Kind) : List Entry :=
  match group kind issues with
  | [] => []
  | members => .heading kind members.length :: members.map .block

def arrangement (issues : List Issue) : List Entry := Kind.all.flatMap (sectionOf issues)

theorem sectionOf_of_absent (absent : issues.any (·.kind = kind) = false) :
    sectionOf issues kind = [] := by
  rw [sectionOf, group_eq_nil_iff.mpr absent]

theorem sectionOf_of_present (present : issues.any (·.kind = kind) = true) :
    sectionOf issues kind =
      .heading kind (issues.countP (·.kind = kind)) :: (group kind issues).map .block := by
  rw [sectionOf, ← length_group]
  split
  next none => simp [group_eq_nil_iff.mp none] at present
  next => rfl

theorem heading_eq_plural (kind : Kind) : heading kind = kind.plural := by cases kind <;> rfl

theorem lines_block (issue : Issue) : (Entry.block issue).lines = issueBlock issue := rfl

theorem lines_sectionOf (issues : List Issue) (kind : Kind) :
    (sectionOf issues kind).flatMap Entry.lines = groupBlock issues kind := by
  rw [sectionOf, groupBlock]
  cases group kind issues with
  | nil => rfl
  | cons issue more =>
    have shown : ((issue :: more).map Entry.block).flatMap Entry.lines =
        (issue :: more).flatMap issueBlock := by
      simp only [List.flatMap_map, lines_block]
    rw [List.flatMap_cons, shown, Entry.lines, ← heading_eq_plural]
    rfl

theorem headings_append (entries others : List Entry) :
    headings (entries ++ others) = headings entries ++ headings others :=
  List.filterMap_append

theorem blocks_map_block (issues : List Issue) : blocks (issues.map .block) = issues := by
  simp [blocks, List.filterMap_map, Function.comp_def, Entry.issue?]

theorem headings_map_block (issues : List Issue) : headings (issues.map .block) = [] := by
  simp [headings, List.filterMap_map, Function.comp_def, Entry.heading?]

theorem blocks_sectionOf (issues : List Issue) (kind : Kind) :
    blocks (sectionOf issues kind) = group kind issues := by
  cases occurs : issues.any (·.kind = kind) with
  | true => rw [sectionOf_of_present occurs]; exact blocks_map_block _
  | false => rw [sectionOf_of_absent occurs, group_eq_nil_iff.mpr occurs]; rfl

theorem headings_sectionOf (issues : List Issue) (kind : Kind) :
    headings (sectionOf issues kind) =
      if issues.any (·.kind = kind) then [(kind, issues.countP (·.kind = kind))] else [] := by
  cases occurs : issues.any (·.kind = kind) with
  | true =>
    rw [sectionOf_of_present occurs]
    exact congrArg (_ :: ·) (headings_map_block _)
  | false => rw [sectionOf_of_absent occurs]; rfl

theorem blocks_arrangement (issues : List Issue) :
    blocks (arrangement issues) = regrouped issues := by
  have parts : blocks (arrangement issues) = Kind.all.flatMap fun kind =>
      blocks (sectionOf issues kind) := List.filterMap_flatMap
  rw [parts, regrouped]
  simp only [blocks_sectionOf]

theorem headings_sections (issues : List Issue) (kinds : List Kind) :
    headings (kinds.flatMap (sectionOf issues)) =
      (kinds.filter fun kind => issues.any (·.kind = kind)).map
        fun kind => (kind, issues.countP (·.kind = kind)) := by
  induction kinds with
  | nil => rfl
  | cons kind rest ih =>
    rw [List.flatMap_cons, headings_append, ih, headings_sectionOf, List.filter_cons]
    split <;> rfl

theorem Headed.append {entries others : List Entry} (first : Headed entries)
    (second : Headed others) : Headed (entries ++ others) := by
  intro before issue after split
  rcases List.append_eq_append_iff.mp split with ⟨more, rfl, inside⟩ | ⟨more, rfl, inside⟩
  next =>
    obtain ⟨count, last⟩ := second more issue after inside
    exact ⟨count, by rw [headings_append, List.getLast?_append, last, Option.some_or]⟩
  next =>
    cases more with
    | nil =>
      obtain ⟨count, last⟩ := second [] issue after inside.symm
      cases last
    | cons entry more =>
      obtain ⟨rfl, -⟩ := List.cons.inj inside
      exact first before issue more rfl

theorem headed_sectionOf (issues : List Issue) (kind : Kind) : Headed (sectionOf issues kind) := by
  cases occurs : issues.any (·.kind = kind) with
  | false =>
    intro before issue after split
    simp [sectionOf_of_absent occurs] at split
  | true =>
    intro before issue after split
    rw [sectionOf_of_present occurs] at split
    cases before with
    | nil => cases (List.cons.inj split).1
    | cons entry before =>
      obtain ⟨rfl, inside⟩ := List.cons.inj split
      obtain ⟨earlier, later, members, rfl, shown⟩ := List.map_eq_append_iff.mp inside
      obtain ⟨first, others, rfl, same, -⟩ := List.map_eq_cons_iff.mp shown
      cases same
      have member : issue ∈ group kind issues := by simp [members]
      refine ⟨issues.countP (·.kind = kind), ?_⟩
      rw [kind_of_mem_group member]
      exact congrArg (fun rest => (_ :: rest).getLast?) (headings_map_block earlier)

theorem headed_sections (issues : List Issue) (kinds : List Kind) :
    Headed (kinds.flatMap (sectionOf issues)) := by
  induction kinds with
  | nil =>
    intro before issue after split
    simp at split
  | cons kind rest ih => exact (headed_sectionOf issues kind).append ih

theorem arranged_arrangement (issues : List Issue) : Arranged issues (arrangement issues) where
  complete := by
    rw [blocks_arrangement]
    exact perm_of_groups fun kind => group_regrouped kind issues
  grouped := blocks_arrangement issues ▸ rank_regrouped issues
  stable kind := by
    rw [blocks_arrangement]
    exact group_regrouped kind issues
  headings := headings_sections issues Kind.all
  beneath := headed_sections issues Kind.all

end Entries

section Counting

variable {issues : List Issue} {entries : List Entry}

theorem lookup_numbered (keep : Kind → Bool) (number : Kind → Nat) (kind : Kind)
    (kinds : List Kind) :
    ((kinds.filter keep).map fun kind => (kind, number kind)).lookup kind =
      if kind ∈ kinds ∧ keep kind = true then some (number kind) else none := by
  induction kinds with
  | nil => simp
  | cons other rest ih =>
    rw [List.filter_cons]
    by_cases same : kind = other
    next =>
      subst same
      cases kept : keep kind <;> simp [kept, ih]
    next =>
      have skipped : (kind == other) = false := beq_false_of_ne same
      cases keep other <;> simp [List.lookup_cons, skipped, same, ih]

-- A kind without issues has no heading, and its number is the zero that stands for none.
theorem countShown_of_arranged (arranged : Arranged issues entries) (kind : Kind) :
    countShown entries kind = issues.countP (·.kind = kind) := by
  rw [countShown, arranged.headings, lookup_numbered]
  split
  next => rfl
  next absent =>
    have none : ¬ issues.any (·.kind = kind) = true := fun occurs => absent ⟨kind.mem_all, occurs⟩
    symm
    simpa [List.countP_eq_zero] using none

theorem get_counts (analysis : Analysis) (kind : Kind) :
    analysis.counts.get kind = (group kind analysis.issues).length := by
  rw [Analysis.counts, Counts.get_tally, count_kinds, length_group]

theorem get_countsShown (entries : List Entry) (kind : Kind) :
    (countsShown entries).get kind = countShown entries kind := by
  cases kind <;> rfl

theorem counts_of_arranged {analysis : Analysis} (arranged : Arranged analysis.issues entries) :
    analysis.counts = countsShown entries := by
  apply Counts.eq_of_get
  intro kind
  rw [get_counts, length_group, get_countsShown, countShown_of_arranged arranged]

end Counting

section Reports

variable {analysis other : Analysis}

theorem report_of_issues (some : analysis.issues ≠ []) (language : String) :
    report analysis language = .ofLines (openingLines language ++
      (arrangement analysis.issues).flatMap Entry.lines ++ closingLines analysis) := by
  have body : (arrangement analysis.issues).flatMap Entry.lines =
      Kind.all.flatMap (groupBlock analysis.issues) := by
    simp only [arrangement, List.flatMap_assoc, lines_sectionOf]
  rw [report, if_neg (by simpa using some), body]

theorem report_of_groups (score : other.score = analysis.score)
    (same : ∀ kind, group kind other.issues = group kind analysis.issues) (language : String) :
    report other language = report analysis language := by
  have empty : other.issues.isEmpty = analysis.issues.isEmpty := by
    rw [Bool.eq_iff_iff, List.isEmpty_iff, List.isEmpty_iff]
    have perm := perm_of_groups same
    exact ⟨fun none => List.nil_perm.mp (none ▸ perm), fun none => List.perm_nil.mp (none ▸ perm)⟩
  have blocks : groupBlock other.issues = groupBlock analysis.issues := by
    funext kind
    rw [groupBlock, groupBlock, same]
  have counts : other.counts = analysis.counts := by
    apply Counts.eq_of_get
    intro kind
    rw [get_counts, get_counts, same]
  rw [report, report, empty, blocks, closingLines, closingLines, counts, score]

end Reports

theorem report_grouped (analysis : Analysis) (language : String) :
    (analysis.issues ≠ [] → ∃ entries, Arranged analysis.issues entries ∧
      countShown entries .error + countShown entries .warning +
        countShown entries .suggestion + countShown entries .info = analysis.issues.length ∧
      report analysis language = .ofLines (openingLines language ++ entries.flatMap Entry.lines ++
        ([summaryShown entries, "Score: " ++ ratedScore analysis.score ++ " (" ++
          (Rating.ofScore analysis.score).name ++ ")", rule '='] : List CodePoints))) ∧
    ∀ other : Analysis, other.score = analysis.score →
      (∀ kind, other.issues.filter (·.kind = kind) = analysis.issues.filter (·.kind = kind)) →
        report other language = report analysis language := by
  constructor
  next =>
    intro some
    have arranged := arranged_arrangement analysis.issues
    have counts := counts_of_arranged arranged
    refine ⟨arrangement analysis.issues, arranged, ?_, ?_⟩
    next =>
      have total : (countsShown (arrangement analysis.issues)).total = analysis.issues.length := by
        rw [← counts, Analysis.counts, Counts.total_tally, List.length_map]
      exact total
    next =>
      rw [report_of_issues some, closingLines, counts]
      rfl
  next =>
    intro other score same
    exact report_of_groups score same language

theorem interleaved_kinds_grouped :
    let issue (kind : Kind) (title : String) : Issue := ⟨kind, title, "", .low, some 1⟩
    let mixed : Analysis := ⟨[issue .info "ERRORS (2):", issue .error "a", issue .warning "b",
      issue .error "c"], 62⟩
    let tidy : Analysis := ⟨[issue .error "a", issue .error "c", issue .warning "b",
      issue .info "ERRORS (2):"], 62⟩
    mixed.issues ≠ [] ∧
      (∀ kind, tidy.issues.filter (·.kind = kind) = mixed.issues.filter (·.kind = kind)) ∧
      (∃ entries, Arranged mixed.issues entries ∧
        countShown entries .error + countShown entries .warning +
          countShown entries .suggestion + countShown entries .info = 4) ∧
      report tidy "go" = report mixed "go" := by
  intro issue mixed tidy
  have some : mixed.issues ≠ [] := List.cons_ne_nil _ _
  have same : ∀ kind,
      tidy.issues.filter (·.kind = kind) = mixed.issues.filter (·.kind = kind) := by
    intro kind
    cases kind <;> rfl
  obtain ⟨shown, congruent⟩ := report_grouped mixed "go"
  obtain ⟨entries, arranged, total, -⟩ := shown some
  exact ⟨some, same, ⟨entries, arranged, total⟩, congruent tidy rfl same⟩

end Plain

end ReviewDesk
