import ReviewDesk.Proofs.Reply.Outcome
import ReviewDesk.Proofs.Schema.Encoding

set_option autoImplicit false

namespace ReviewDesk

open Text

namespace Assessment

/-- What a valid result can hold when it is written: a score in range, no integer beyond the limit
of a reader, and, where the texts are escaped, no surrogates that would be read as a pair. -/
structure Writable (ascii : Bool) (result : Assessment) : Prop where
  score : 0 ≤ result.score ∧ result.score ≤ 100
  lines : ∀ issue ∈ result.issues, ∀ n, issue.line = some n → Json.digitCount n ≤ Number.digitLimit
  counts : ∀ entry ∈ result.summary, Json.digitCount entry.2 ≤ Number.digitLimit
  explanation : ascii = true → CodePoints.Unpaired result.explanation
  titles : ascii = true → ∀ issue ∈ result.issues, CodePoints.Unpaired issue.title
  descriptions : ascii = true → ∀ issue ∈ result.issues, CodePoints.Unpaired issue.description

def summaryJson (result : Assessment) : Json :=
  .object (result.summary.map fun (name, n) => (name, .int n))

theorem reread_toJson (ascii : Bool) (result : Assessment) :
    Json.reread ascii result.toJson = .object [
      ("issues", .list ((result.issues.map (Issue.reread ascii)).map Issue.toJson)),
      ("overallScore", .int result.score),
      ("explanation", .text (Json.rereadText ascii result.explanation)),
      ("source", .text result.origin.name),
      ("summary", Json.reread ascii result.summaryJson)] := by
  have items (issues : List Issue) : Json.rereadItems ascii (issues.map Issue.toJson) =
      (issues.map (Issue.reread ascii)).map Issue.toJson := by
    induction issues with
    | nil => rfl
    | cons issue rest ih => simp [Json.rereadItems, Issue.reread_toJson, ih]
  simp [toJson, Json.reread, Json.rereadMembers, Json.ofMembers, Json.put, items, summaryJson]

theorem fits_issue {depth level : Nat} {issue : Issue} (room : level < depth)
    (line : ∀ n, issue.line = some n → Json.digitCount n ≤ Number.digitLimit) :
    Json.Fits (.upTo depth) level issue.toJson := by
  have place : Json.Fits (.upTo depth) (level + 1) issue.lineJson := by
    unfold Issue.lineJson
    cases here : issue.line with
    | none => trivial
    | some n => simpa [Json.Fits, Json.Bounds.upTo] using line n here
  simpa [Issue.toJson, Json.Fits, Json.MembersFit, Json.Bounds.upTo, Json.Bounds.admits, room]
    using place

theorem Writable.fits {ascii : Bool} {result : Assessment} (writable : result.Writable ascii) :
    Json.Fits (.upTo Reply.depthLimit) 0 result.toJson := by
  have score : Json.digitCount result.score ≤ Number.digitLimit := by
    have bounds := writable.score
    have few : result.score.natAbs < 10 ^ 3 := by omega
    exact ((Nat.length_toDigits_le_iff (by decide) (by decide)).mpr few).trans (by decide)
  have issues : ∀ issue ∈ result.issues, Json.Fits (.upTo Reply.depthLimit) 2 issue.toJson :=
    fun issue member => fits_issue (by decide) (writable.lines issue member)
  have admitted (level : Nat) (room : level < 988) :
      (Json.Bounds.upTo Reply.depthLimit).admits level = true := decide_eq_true room
  refine ⟨admitted 0 (by decide), ⟨admitted 1 (by decide), ?_⟩, ?_, trivial, trivial,
    ⟨admitted 1 (by decide), ?_⟩, trivial⟩
  next => simpa [Json.itemsFit_iff] using issues
  next => exact decide_eq_true score
  next =>
    rw [Json.membersFit_iff]
    intro member listed
    obtain ⟨entry, counted, rfl⟩ := List.mem_map.mp listed
    exact decide_eq_true (writable.counts entry counted)

theorem Writable.reread {ascii : Bool} {result : Assessment} (writable : result.Writable ascii) :
    result.issues.map (Issue.reread ascii) = result.issues := by
  refine (List.map_congr_left fun issue member => ?_).trans (List.map_id _)
  have title := Json.rereadText_of_unpaired fun on => writable.titles on issue member
  have description := Json.rereadText_of_unpaired fun on => writable.descriptions on issue member
  simp [Issue.reread, title, description]

end Assessment

namespace Reply

theorem objectSpan?_append {pre post : CodePoints} (before : .char '{' ∉ pre)
    (after : .char '}' ∉ post) (inner : CodePoints) :
    objectSpan? (pre ++ .char '{' :: (inner ++ [.char '}']) ++ post) =
      some (.char '{' :: (inner ++ [.char '}'])) := by
  have start : trimStart (· ≠ .char '{') (pre ++ .char '{' :: (inner ++ [.char '}']) ++ post) =
      .char '{' :: (inner ++ [.char '}']) ++ post := by
    rw [trimStart, List.append_assoc, List.dropWhile_append_of_pos]
    next => simp
    next =>
      intro point member
      exact decide_eq_true fun brace => before (brace ▸ member)
  have stop : trimEnd (· ≠ .char '}') (.char '{' :: (inner ++ [.char '}']) ++ post) =
      .char '{' :: (inner ++ [.char '}']) := by
    rw [trimEnd, List.reverse_append, List.dropWhile_append_of_pos]
    next => simp
    next =>
      intro point member
      exact decide_eq_true fun brace => after (brace ▸ List.mem_reverse.mp member)
  rw [objectSpan?, start, stop]

theorem issuesOf_toJson (issues : List Issue) :
    issuesOf (.list (issues.map Issue.toJson)) = issues := by
  simp [issuesOf, List.filterMap_map, Except.toOption]

theorem parse_written {style : Json.Style} {result : Assessment} {pre post : CodePoints}
    (writable : result.Writable style.ascii) (before : .char '{' ∉ pre) (after : .char '}' ∉ post) :
    parse (pre ++ Json.print style result.toJson ++ post) =
      (.ok (.ofIssues result.issues result.score
        (if result.explanation = [] then defaultExplanation else result.explanation) .ai), []) := by
  have span : objectSpan? (pre ++ Json.print style result.toJson ++ post) =
      some (Json.print style result.toJson) := objectSpan?_append before after _
  have read := Json.read_print writable.fits style
  rw [Assessment.reread_toJson, writable.reread,
    Json.rereadText_of_unpaired writable.explanation] at read
  have score := roundedScore_intCast writable.score.1 writable.score.2
  rw [parse, span]
  simp only [read]
  simp [structured, member, Json.member?, List.lookup_cons, issuesOf_toJson, scoreOf, score,
    explanationOf]

theorem parse_print {style : Json.Style} {result : Assessment} {pre post : CodePoints}
    (writable : result.Writable style.ascii) (before : .char '{' ∉ pre) (after : .char '}' ∉ post) :
    parse (pre ++ Json.print style result.toJson ++ post) =
      (.ok {
        issues := result.issues
        score := result.score
        explanation :=
          if result.explanation = [] then defaultExplanation else result.explanation
        origin := .ai
        summary := Kind.all.map fun kind =>
          (.ofString kind.name, ((result.issues.map (·.kind)).count kind : Int)) }, []) := by
  rw [parse_written writable before after]
  simp [Assessment.ofIssues, Counts.toSummary, Counts.get_tally]

def bracedResult : Assessment where
  issues := [
    ⟨.error, "Stray \x7d\"\x7d] brace", "\\u007b and \n\t\x01\x7b and é and 😀", .high, some (-7)⟩,
    ⟨.info, "", "\x7d", .low, none⟩]
  score := 0
  explanation := ""
  origin := .heuristic
  summary := [("error", 10 ^ 20), ("\x7d", -1), ("warning", 3)]

theorem parse_bracedResult :
    bracedResult.Writable true ∧ .char '{' ∉ ("As asked \x7d:\n" : CodePoints) ∧
      .char '}' ∉ ("\nThat is all \x7b\"" : CodePoints) ∧
        parse ("As asked \x7d:\n" ++ Json.print .plain bracedResult.toJson ++ "\nThat is all \x7b\"") =
          (.ok {
            issues := bracedResult.issues
            score := 0
            explanation := "Analysis completed"
            origin := .ai
            summary := [("error", 1), ("warning", 0), ("suggestion", 0), ("info", 1)] }, []) := by
  have writable : bracedResult.Writable true := {
    score := by decide
    lines := by decide
    counts := by decide
    explanation := fun _ => CodePoints.unpaired_ofChars _
    titles := by simp [bracedResult, CodePoints.ofString, CodePoints.unpaired_ofChars]
    descriptions := by simp [bracedResult, CodePoints.ofString, CodePoints.unpaired_ofChars] }
  have before : .char '{' ∉ ("As asked \x7d:\n" : CodePoints) := by
    simp [CodePoints.ofString, CodePoints.ofChars]
  have after : .char '}' ∉ ("\nThat is all \x7b\"" : CodePoints) := by
    simp [CodePoints.ofString, CodePoints.ofChars]
  refine ⟨writable, before, after, (parse_print writable before after).trans ?_⟩
  rfl

end Reply

end ReviewDesk
