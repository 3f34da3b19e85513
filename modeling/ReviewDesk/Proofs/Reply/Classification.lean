import ReviewDesk.Proofs.Reply.RoundTrip
import ReviewDesk.Proofs.Text.Margins
import ReviewDesk.Proofs.Text.Pieces

set_option autoImplicit false

namespace ReviewDesk

open Text

section Objects

open Json Reader

variable {bounds : Bounds} {fuel level : Nat} {rest after : CodePoints} {value : Json}

theorem Json.readValue_brace
    (accepted : readValue bounds fuel level (.char '{' :: rest) = .ok (value, after)) :
    ∃ members, value = .object members := by
  cases fuel with
  | zero => cases accepted
  | succ fuel =>
    simp only [readValue] at accepted
    split at accepted
    next =>
      split at accepted
      next =>
        cases accepted
        exact ⟨[], rfl⟩
      next =>
        unfold Except.map at accepted
        split at accepted <;> cases accepted
        exact ⟨_, rfl⟩
    next => cases accepted

theorem Json.read_brace (accepted : Json.read bounds (.char '{' :: rest) = .ok value) :
    ∃ members, value = .object members := by
  have start : skipBlanks (.char '{' :: rest) = .char '{' :: rest := skipBlanks_char rfl rest
  unfold Json.read at accepted
  cases read : readAll bounds (.char '{' :: rest) with
  | error stop =>
    rw [read] at accepted
    cases accepted
  | ok found =>
    rw [read] at accepted
    cases accepted
    unfold readAll at read
    rw [start] at read
    split at read
    next => cases read
    next inside =>
      split at read <;> cases read
      exact readValue_brace inside

end Objects

namespace Reply

def IsBraced (text : CodePoints) : Prop :=
  ∃ before inner after, text = before ++ .char '{' :: (inner ++ .char '}' :: after)

def IsObjectSpan (text span : CodePoints) : Prop :=
  ∃ before inner after, .char '{' ∉ before ∧ .char '}' ∉ after ∧
    span = .char '{' :: (inner ++ [.char '}']) ∧ text = before ++ span ++ after

section Spans

variable {text span : CodePoints}

theorem IsObjectSpan.found (spans : IsObjectSpan text span) : objectSpan? text = some span := by
  obtain ⟨before, inner, after, first, last, rfl, rfl⟩ := spans
  exact objectSpan?_append first last inner

theorem IsObjectSpan.isBraced (spans : IsObjectSpan text span) : IsBraced text := by
  obtain ⟨before, inner, after, -, -, rfl, rfl⟩ := spans
  exact ⟨before, inner, after, by simp⟩

theorem isObjectSpan_of_found (found : objectSpan? text = some span) : IsObjectSpan text span := by
  have kept : trimEnd (· ≠ .char '}') (trimStart (· ≠ .char '{') text) = span ∧ span ≠ [] := by
    unfold objectSpan? at found
    split at found
    next => cases found
    next some =>
      obtain rfl := Option.some.inj found
      exact ⟨rfl, some⟩
  obtain ⟨same, some⟩ := kept
  obtain ⟨after, split, last⟩ :=
    exists_margin_after (· ≠ .char '}') (trimStart (· ≠ .char '{') text)
  rw [same] at split
  have closed : span.getLast some = .char '}' := by
    subst same
    have stopped := List.rdropWhile_last_not (· ≠ CodePoint.char '}') _ some
    simp only [decide_eq_true_eq, not_not] at stopped
    exact stopped
  obtain ⟨first, rest, rfl⟩ := List.exists_cons_of_ne_nil some
  have opened : first = .char '{' := by
    have head := List.head?_dropWhile_not (· ≠ CodePoint.char '{') text
    rw [← trimStart, split] at head
    simpa using head
  subst opened
  have more : rest ≠ [] := by
    rintro rfl
    cases closed
  refine ⟨text.takeWhile (· ≠ .char '{'), rest.dropLast, after, ?_, ?_, ?_, ?_⟩
  next =>
    intro member
    simpa using List.mem_takeWhile_imp member
  next =>
    intro member
    simpa using last _ member
  next =>
    rw [List.getLast_cons more] at closed
    rw [← closed, List.dropLast_append_getLast]
  next =>
    rw [List.append_assoc, ← split, trimStart, List.takeWhile_append_dropWhile]

theorem objectSpan?_eq_some_iff : objectSpan? text = some span ↔ IsObjectSpan text span :=
  ⟨isObjectSpan_of_found, IsObjectSpan.found⟩

theorem isBraced_iff : IsBraced text ↔ ∃ span, IsObjectSpan text span := by
  constructor
  next =>
    rintro ⟨front, middle, back, rfl⟩
    -- The first brace is not behind the one that is given, and the last one not before it.
    obtain ⟨before, opening, first, unopened⟩ :=
      List.eq_append_cons_of_mem (List.mem_concat_self : .char '{' ∈ front ++ [.char '{'])
    obtain ⟨closing, after, last, unclosed⟩ :=
      exists_last (List.mem_cons_self : .char '}' ∈ CodePoint.char '}' :: back)
    refine ⟨_, before, opening ++ middle ++ closing, after, unopened, unclosed, rfl, ?_⟩
    rw [last, ← List.singleton_append, ← List.append_assoc, first]
    simp
  next => exact fun ⟨_, spans⟩ => spans.isBraced

theorem objectSpan?_eq_none_iff : objectSpan? text = none ↔ ¬ IsBraced text := by
  rw [isBraced_iff, Option.eq_none_iff_forall_ne_some, not_exists]
  exact forall_congr' fun span => not_congr objectSpan?_eq_some_iff

end Spans

def IsRejected (span : CodePoints) : Prop :=
  ∃ position, Json.read (.upTo depthLimit) span = .error (.malformed position)

instance IsRejected.decidable (span : CodePoints) : Decidable (IsRejected span) :=
  match read : Json.read (.upTo depthLimit) span with
  | .error (.malformed position) => isTrue ⟨position, read⟩
  | .error (.tooManyDigits _) | .error (.tooDeep _) | .ok _ => isFalse (by simp [IsRejected, read])

def IsProse (text : CodePoints) : Prop :=
  ¬ IsBraced text ∨ ∃ span, IsObjectSpan text span ∧ IsRejected span

section Replies

variable {text span : CodePoints}

theorem parse_of_unbraced (unbraced : ¬ IsBraced text) :
    parse text = (.ok (degraded text), [.noObject]) := by
  rw [parse, objectSpan?_eq_none_iff.mpr unbraced]

theorem parse_of_braced (spans : IsObjectSpan text span) :
    (∃ members, Json.read (.upTo depthLimit) span = .ok (.object members) ∧
      parse text = (.ok (structured members), [])) ∨
    (IsRejected span ∧ parse text = (.ok (degraded text), [.unreadableObject])) ∨
    IsOverlong span ∧ (parse text).2 = [] := by
  have found := spans.found
  cases read : Json.read (.upTo depthLimit) span with
  | ok value =>
    obtain ⟨-, inner, -, -, -, rfl, -⟩ := spans
    obtain ⟨members, rfl⟩ := Json.read_brace read
    exact .inl ⟨members, rfl, by simp [parse, found, read]⟩
  | error fault =>
    cases fault with
    | malformed position => exact .inr (.inl ⟨⟨position, read⟩, by simp [parse, found, read]⟩)
    | tooManyDigits count => exact .inr (.inr ⟨.inl ⟨count, read⟩, by simp [parse, found, read]⟩)
    | tooDeep container => exact .inr (.inr ⟨.inr ⟨container, read⟩, by simp [parse, found, read]⟩)

theorem events_parse (text : CodePoints) :
    ∀ event ∈ (parse text).2, event = .noObject ∨ event = .unreadableObject := by
  by_cases braced : IsBraced text
  next =>
    obtain ⟨span, spans⟩ := isBraced_iff.mp braced
    rcases parse_of_braced spans with ⟨members, -, parsed⟩ | ⟨-, parsed⟩ | ⟨-, silent⟩
    next => simp [parsed]
    next => simp [parsed]
    next => simp [silent]
  next => simp [parse_of_unbraced braced]

theorem parse_of_prose (prose : IsProse text) :
    ∃ warning, parse text = (.ok (degraded text), [warning]) := by
  rcases prose with unbraced | ⟨span, spans, position, rejected⟩
  next => exact ⟨.noObject, parse_of_unbraced unbraced⟩
  next =>
    refine ⟨.unreadableObject, ?_⟩
    simp [parse, spans.found, rejected]

def proseRemark (text : CodePoints) : Assessment where
  issues := [⟨.info, "AI Analysis Available",
    text.take 500 ++ if 500 < text.length then "..." else "", .low, none⟩]
  score := 75
  explanation := "AI provided text analysis instead of structured data"
  origin := .ai
  summary := [("error", 0), ("warning", 0), ("suggestion", 0), ("info", 1)]

theorem degraded_eq (text : CodePoints) : degraded text = proseRemark text := by
  have cut : excerpt text = text.take 500 ++ if 500 < text.length then "..." else "" := by
    unfold excerpt excerptLength
    split
    next => rfl
    next short =>
      rw [List.take_of_length_le (not_lt.mp short)]
      exact (List.append_nil text).symm
  rw [proseRemark, ← cut]
  rfl

end Replies

def remarkOn (opening : CodePoints) : Assessment :=
  .ofIssues [⟨.info, "AI Analysis Available", opening ++ "...", .low, none⟩] 75
    "AI provided text analysis instead of structured data" .ai

/-- An object can spell out the very result that its text would be turned into as prose. What is
logged tells the two apart. -/
theorem parse_imitated {opening : CodePoints} (long : opening.length = excerptLength)
    (plain : .char '{' ∉ opening) :
    let text := opening ++ Json.print .compact (remarkOn opening).toJson
    parse text = (.ok (degraded text), []) := by
  intro text
  have counts : ∀ entry ∈ (Counts.tally [.info]).toSummary,
      Json.digitCount entry.2 ≤ Number.digitLimit := by decide
  have writable : (remarkOn opening).Writable false := {
    score := ⟨by simp [remarkOn, Assessment.ofIssues], by simp [remarkOn, Assessment.ofIssues]⟩
    lines := by simp [remarkOn, Assessment.ofIssues]
    counts := counts
    explanation := nofun
    titles := nofun
    descriptions := nofun }
  have parsed :=
    @parse_written .compact (remarkOn opening) opening [] writable plain List.not_mem_nil
  have kept : excerpt text = opening ++ "..." := by
    have longer : excerptLength < text.length := by
      simp [text, long, Json.print, Assessment.toJson]
    rw [excerpt, if_pos longer, List.take_left' long]
  rw [List.append_nil] at parsed
  refine parsed.trans ?_
  rw [degraded, kept]
  rfl

theorem not_prose_of_silent {text : CodePoints} (silent : (parse text).2 = []) :
    ¬ IsProse text := by
  intro prose
  obtain ⟨warning, parsed⟩ := parse_of_prose prose
  rw [parsed] at silent
  exact List.cons_ne_nil _ _ silent

theorem parse_of_object {text : CodePoints}
    (settled : ∀ span, IsObjectSpan text span →
      (∃ value, Json.read (.upTo depthLimit) span = .ok value) ∨ IsRejected span)
    (mixed : ¬ IsProse text) : ∃ span members, IsObjectSpan text span ∧
      Json.read (.upTo depthLimit) span = .ok (.object members) ∧
        parse text = (.ok (structured members), []) := by
  rw [IsProse, not_or, not_not] at mixed
  obtain ⟨span, spans⟩ := isBraced_iff.mp mixed.1
  rcases settled span spans with ⟨value, accepted⟩ | rejected
  next =>
    rcases parse_of_braced spans with ⟨members, same, parsed⟩ | ⟨⟨_, rejected⟩, -⟩ | ⟨long, -⟩
    next => exact ⟨span, members, spans, same, parsed⟩
    next => rw [accepted] at rejected; cases rejected
    next => rcases long with ⟨_, long⟩ | ⟨_, long⟩ <;> rw [accepted] at long <;> cases long
  next => exact absurd ⟨span, spans, rejected⟩ mixed.2

theorem parse_classified (text : CodePoints) :
    ((∀ span, IsObjectSpan text span →
        (∃ value, Json.read (.upTo depthLimit) span = .ok value) ∨ IsRejected span) →
      ((∃ warning, parse text = (.ok (proseRemark text), [warning])) ↔ IsProse text) ∧
      ((parse text).1 = .ok (proseRemark text) ↔
        IsProse text ∨ ∃ span members, IsObjectSpan text span ∧
          Json.read (.upTo depthLimit) span = .ok (.object members) ∧
            structured members = proseRemark text) ∧
      (¬ IsProse text → ∃ span members, IsObjectSpan text span ∧
        Json.read (.upTo depthLimit) span = .ok (.object members) ∧
          parse text = (.ok (structured members), []))) ∧
    ∀ event ∈ (parse text).2,
      event.message ≠ "AI response JSON is not an object; returning text analysis" := by
  rw [← degraded_eq]
  constructor
  next =>
    intro settled
    refine ⟨⟨?_, parse_of_prose⟩, ⟨?_, ?_⟩, parse_of_object settled⟩
    next =>
      rintro ⟨warning, parsed⟩
      by_contra mixed
      obtain ⟨span, members, -, -, silent⟩ := parse_of_object settled mixed
      exact List.cons_ne_nil _ _ (congrArg Prod.snd (parsed.symm.trans silent))
    next =>
      intro parsed
      by_cases prose : IsProse text
      next => exact .inl prose
      next =>
        obtain ⟨span, members, spans, read, same⟩ := parse_of_object settled prose
        rw [same] at parsed
        exact .inr ⟨span, members, spans, read, Except.ok.inj parsed⟩
    next =>
      rintro (prose | ⟨span, members, spans, read, same⟩)
      next =>
        obtain ⟨warning, parsed⟩ := parse_of_prose prose
        rw [parsed]
      next => rw [parse, spans.found, ← same]; simp only [read]
  next =>
    intro event member
    rcases events_parse text event member with rfl | rfl <;> decide

def imitation : CodePoints :=
  let opening : CodePoints := List.replicate excerptLength (.char 'a')
  opening ++ Json.print .compact (remarkOn opening).toJson

theorem imitation_is_no_prose :
    (∃ span members, IsObjectSpan imitation span ∧
      Json.read (.upTo depthLimit) span = .ok (.object members)) ∧
    ¬ IsProse imitation ∧ (parse imitation).1 = .ok (proseRemark imitation) := by
  have plain : .char '{' ∉ List.replicate excerptLength (CodePoint.char 'a') := by
    simp [List.mem_replicate]
  have parsed : parse imitation = (.ok (degraded imitation), []) :=
    parse_imitated (List.length_replicate ..) plain
  have mixed := not_prose_of_silent (congrArg Prod.snd parsed)
  refine ⟨?_, mixed, by rw [parsed, degraded_eq]⟩
  rw [IsProse, not_or, not_not] at mixed
  obtain ⟨span, spans⟩ := isBraced_iff.mp mixed.1
  rcases parse_of_braced spans with ⟨members, read, -⟩ | ⟨rejected, -⟩ | ⟨long, -⟩
  next => exact ⟨span, members, spans, read⟩
  next => exact absurd ⟨span, spans, rejected⟩ mixed.2
  next =>
    have scored : ∃ result, (parse imitation).1 = .ok result ∧
        0 ≤ result.score ∧ result.score ≤ 100 := by
      refine ⟨_, congrArg Prod.fst parsed, ?_⟩
      rw [degraded_score]
      decide
    exact absurd ⟨span, spans.found, long⟩ ((parse_answers_iff imitation).mp scored)

theorem IsObjectSpan.unique {text span other : CodePoints} (spans : IsObjectSpan text span)
    (spans' : IsObjectSpan text other) : span = other :=
  Option.some.inj (spans.found.symm.trans spans'.found)

theorem stray_braces_classified :
    let torn : CodePoints := "see \x7b here \x7d"
    let loose : CodePoints := "\x7d so \x7b\"issues\": 3\x7d \x7b"
    IsProse torn ∧ (∃ warning, parse torn = (.ok (degraded torn), [warning])) ∧
      ¬ IsProse loose ∧ ∃ members, parse loose = (.ok (structured members), []) := by
  intro torn loose
  -- What stands between the braces is no object in the one text, and is one in the other.
  have here : IsObjectSpan torn (.ofString "\x7b here \x7d") :=
    objectSpan?_eq_some_iff.mp (by decide +kernel)
  have rejected : IsRejected (.ofString "\x7b here \x7d") := by decide +kernel
  have inside : IsObjectSpan loose (.ofString "\x7b\"issues\": 3\x7d") :=
    objectSpan?_eq_some_iff.mp (by decide +kernel)
  have accepted : ∃ value, Json.read (.upTo depthLimit) (.ofString "\x7b\"issues\": 3\x7d") =
      .ok value := by
    have whole : (Json.read (.upTo depthLimit) (.ofString "\x7b\"issues\": 3\x7d")).isOk = true := by
      decide +kernel
    revert whole
    cases Json.read (.upTo depthLimit) (.ofString "\x7b\"issues\": 3\x7d") with
    | ok value => exact fun _ => ⟨value, rfl⟩
    | error fault => exact nofun
  have prose : IsProse torn := .inr ⟨_, here, rejected⟩
  have mixed : ¬ IsProse loose := by
    rintro (unbraced | ⟨span, spans, position, malformed⟩)
    next => exact unbraced inside.isBraced
    next =>
      rw [← inside.unique spans, accepted.choose_spec] at malformed
      cases malformed
  obtain ⟨remarked, -⟩ := (parse_classified torn).1 fun span spans =>
    .inr (here.unique spans ▸ rejected)
  obtain ⟨-, -, read⟩ := (parse_classified loose).1 fun span spans =>
    .inl (inside.unique spans ▸ accepted)
  obtain ⟨-, members, -, -, parsed⟩ := read mixed
  rw [degraded_eq]
  exact ⟨prose, remarked.mpr prose, mixed, members, parsed⟩

end Reply

end ReviewDesk
