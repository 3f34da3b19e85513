import Mathlib.Data.List.Chain
import ReviewDesk.Page.Banner
import ReviewDesk.Page.Layout
import ReviewDesk.Proofs.Page.Escaping
import ReviewDesk.Proofs.Text.Pieces

set_option autoImplicit false

namespace ReviewDesk.Page

open Text

def laidOut (place : String → CodePoints) (template : Template) : CodePoints :=
  template.flatMap fun
    | .text content => content
    | .slot name => place name
    | .formatted name format => place (name ++ ":" ++ format)

def slotNames : Template → List String
  | [] => []
  | .text _ :: rest => slotNames rest
  | .slot name :: rest => name :: slotNames rest
  | .formatted name format :: rest => (name ++ ":" ++ format) :: slotNames rest

theorem source_eq_laidOut (template : Template) : source template = laidOut placeholder template :=
  congrArg (template.flatMap ·) (funext fun piece => by cases piece <;> rfl)

theorem eq_laidOut_of_fill {values : Values} {template : Template} {content : CodePoints}
    (filled : fill values template = .ok content) :
    content = laidOut (fun name => (values.lookup name).getD []) template := by
  induction template generalizing content with
  | nil => exact (Except.ok.inj filled).symm
  | cons piece rest ih =>
    cases piece with
    | text part =>
      rw [fill] at filled
      cases inner : fill values rest with
      | error fault => simp [inner, Except.map] at filled
      | ok others =>
        rw [inner] at filled
        rw [← Except.ok.inj filled, ih inner]
        rfl
    | slot name =>
      cases found : values.lookup name with
      | none => simp [fill, found] at filled
      | some value =>
        cases inner : fill values rest with
        | error fault => simp [fill, found, inner, Except.map] at filled
        | ok others =>
          simp only [fill, found, inner] at filled
          rw [← Except.ok.inj filled, ih inner]
          simp [laidOut, found]
    | formatted name format => cases found : values.lookup name <;> simp [fill, found] at filled

/-- No occurrence of the pattern touches a text of the template or reaches from one into a
place. -/
def Separated (pattern : CodePoints) : Template → Prop
  | [] => True
  | .text content :: rest =>
    contains pattern (content : CodePoints) = false ∧
      (∃ wall ∈ (content : CodePoints).getLast?, wall ∉ pattern) ∧ Separated pattern rest
  | .slot _ :: .text content :: rest =>
    (∃ wall ∈ (content : CodePoints).head?, wall ∉ pattern) ∧
      Separated pattern (.text content :: rest)
  | _ => False

instance Separated.decidable (pattern : CodePoints) : DecidablePred (Separated pattern)
  | [] => isTrue trivial
  | .text _ :: rest =>
    have := decidable pattern rest
    inferInstanceAs (Decidable (_ ∧ _ ∧ _))
  | .slot _ :: .text content :: rest =>
    have := decidable pattern (.text content :: rest)
    inferInstanceAs (Decidable (_ ∧ _))
  | [.slot _] | .slot _ :: .slot _ :: _ | .slot _ :: .formatted _ _ :: _ | .formatted _ _ :: _ =>
    isFalse id

theorem replaceAll_laidOut {pattern : CodePoints} (some : pattern ≠ []) (substitute : CodePoints)
    (place : String → CodePoints) {template : Template} (separated : Separated pattern template) :
    replaceAll pattern substitute (laidOut place template) =
      laidOut (fun name => replaceAll pattern substitute (place name)) template := by
  fun_induction Separated pattern template with
  | case1 => rfl
  | case2 content rest ih =>
    obtain ⟨absent, apart, others⟩ := separated
    have step : replaceAll pattern substitute (content ++ laidOut place rest) =
        replaceAll pattern substitute content ++
          replaceAll pattern substitute (laidOut place rest) :=
      replaceAll_append_of_last some apart
    rw [replaceAll_of_absent (contains_eq_false_iff.mp absent), ih others] at step
    exact step
  | case3 name content rest ih =>
    obtain ⟨⟨wall, first, apart⟩, others⟩ := separated
    have head : ∃ wall ∈ (laidOut place (.text content :: rest)).head?, wall ∉ pattern := by
      refine ⟨wall, ?_, apart⟩
      simp only [laidOut, List.flatMap_cons, List.head?_append, Option.mem_def] at first ⊢
      rw [first]
      rfl
    have step : replaceAll pattern substitute
          (place name ++ laidOut place (.text content :: rest)) =
        replaceAll pattern substitute (place name) ++
          replaceAll pattern substitute (laidOut place (.text content :: rest)) :=
      replaceAll_append_of_head some head
    rw [ih others] at step
    exact step
  | case4 => exact separated.elim

/-- A line in which no markup begins and no placeholder, since a blank follows every brace. -/
def IsStyleLine (line : CodePoints) : Prop :=
  line.getLast? = some (.char '\n') ∧ .char '<' ∉ line ∧
    line.IsChain fun point next => point = .char '{' → next = .char ' '

instance (line : CodePoints) : Decidable (IsStyleLine line) :=
  inferInstanceAs (Decidable (_ ∧ _ ∧ _))

set_option maxRecDepth 2000 in
theorem isStyleLine_of_mem : ∀ line ∈ styleLines, IsStyleLine line := by
  unfold styleLines
  repeat
    refine List.forall_mem_cons.mpr ⟨ofString_of_spelled IsStyleLine rfl (by decide), ?_⟩
  exact List.forall_mem_nil _

theorem placeholder_of_spelled {name : String} {chars : List Char}
    (spelled : name = String.ofList chars) :
    placeholder name = .char '{' :: (CodePoints.ofChars chars ++ [.char '}']) := by
  simp [spelled, placeholder, CodePoints.ofString, CodePoints.ofChars]

theorem placeholder_ne_nil (name : String) : placeholder name ≠ [] := by
  simp [placeholder_of_spelled String.ofList_toList.symm]

section StyleSheet

variable {name : String} {first : Char} {rest : List Char}
  (spelled : name = String.ofList (first :: rest)) (letter : first ≠ ' ')

include spelled letter

theorem IsStyleLine.absent {line : CodePoints} (style : IsStyleLine line) :
    ¬ placeholder name <:+: line := by
  intro found
  rw [placeholder_of_spelled spelled] at found
  have chain := List.IsChain.infix style.2.2 found
  have next := (List.isChain_cons_cons.mp chain).1 rfl
  exact letter (CodePoint.char.inj next)

theorem absent_styleSheet (single : '\n' ∉ first :: rest) :
    ¬ placeholder name <:+: styleSheet := by
  have some := placeholder_ne_nil name
  have wall : .char '\n' ∉ placeholder name := by
    simpa [placeholder_of_spelled spelled, CodePoints.ofChars] using single
  have lines (parts : List String) (style : ∀ line ∈ parts, IsStyleLine line) :
      ¬ placeholder name <:+: parts.flatMap CodePoints.ofString := by
    induction parts with
    | nil => simpa using some
    | cons line others ih =>
      have this := style line (by simp)
      obtain ⟨start, ended⟩ := List.getLast?_eq_some_iff.mp this.1
      have absent := this.absent spelled letter
      rw [ended, infix_wall_iff some wall, not_or] at absent
      rw [List.flatMap_cons, ended, List.append_assoc, List.singleton_append,
        infix_wall_iff some wall, not_or]
      exact ⟨absent.1, ih fun other member => style other (by simp [member])⟩
  exact lines styleLines isStyleLine_of_mem

end StyleSheet

section Frame

def places : List String := ["title", "css", "ai_status_banner", "content"]

theorem separated_frame : ∀ name ∈ places, Separated (placeholder name) frameTemplate := by
  decide

theorem absent_placeholder : ∀ name ∈ places, ∀ other ∈ places,
    name ≠ other → contains (placeholder name) (placeholder other) = false := by
  decide

def framePlace (title banner content : CodePoints) : String → CodePoints
  | "title" => title
  | "css" => styleSheet
  | "ai_status_banner" => banner
  | "content" => content
  | name => placeholder name

def framed (title banner content : CodePoints) : CodePoints :=
  laidOut (framePlace title banner content) frameTemplate

theorem laidOut_frame (place : String → CodePoints) (css : place "css" = styleSheet) :
    laidOut place frameTemplate =
      framed (place "title") (place "ai_status_banner") (place "content") := by
  simp [laidOut, framed, framePlace, frameTemplate, css]

/-- What a title turns into: a later place that it spells is filled like one of the frame. -/
def reread (banner content title : CodePoints) : CodePoints :=
  replaceAll (placeholder "content") content
    (replaceAll (placeholder "ai_status_banner") banner
      (replaceAll (placeholder "css") styleSheet title))

theorem assemble_eq_framed (title banner content : CodePoints) :
    assemble title banner content =
      framed (reread banner content title) (replaceAll (placeholder "content") content banner)
        content := by
  have step (name : String) (known : name ∈ places) (value : CodePoints)
      (place : String → CodePoints) :=
    replaceAll_laidOut (placeholder_ne_nil name) value place (separated_frame name known)
  have own (name : String) (value : CodePoints) :
      replaceAll (placeholder name) value (placeholder name) = value :=
    replaceAll_self (placeholder_ne_nil name)
  have kept (name other : String) (value : CodePoints)
      (apart : name ∈ places ∧ other ∈ places ∧ name ≠ other) :
      replaceAll (placeholder name) value (placeholder other) = placeholder other :=
    replaceAll_of_absent
      (contains_eq_false_iff.mp (absent_placeholder name apart.1 other apart.2.1 apart.2.2))
  have css : replaceAll (placeholder "content") content
      (replaceAll (placeholder "ai_status_banner") banner styleSheet) = styleSheet := by
    rw [replaceAll_of_absent (absent_styleSheet rfl (by decide) (by decide)),
      replaceAll_of_absent (absent_styleSheet rfl (by decide) (by decide))]
  rw [assemble, source_eq_laidOut, step "title" (by simp [places]), step "css" (by simp [places]),
    step "ai_status_banner" (by simp [places]), step "content" (by simp [places]), laidOut_frame]
  next =>
    rw [own "title", kept "title" "ai_status_banner" _ (by simp [places]),
      kept "css" "ai_status_banner" _ (by simp [places]), own "ai_status_banner",
      kept "title" "content" _ (by simp [places]), kept "css" "content" _ (by simp [places]),
      kept "ai_status_banner" "content" _ (by simp [places]), own "content", reread]
  next => rw [kept "title" "css" _ (by simp [places]), own "css", css]

theorem reread_of_plain {banner content title : CodePoints}
    (plain : ∀ name ∈ ["css", "ai_status_banner", "content"], ¬ placeholder name <:+: title) :
    reread banner content title = title := by
  rw [reread, replaceAll_of_absent (plain "css" (by simp)),
    replaceAll_of_absent (plain "ai_status_banner" (by simp)),
    replaceAll_of_absent (plain "content" (by simp))]

end Frame

def isPlaceChar (c : Char) : Bool := c.isLower || c == '_'

theorem escapeChar_of_isPlaceChar {c : Char} (plain : isPlaceChar c = true) :
    escapeChar c = [c] ∧ c ≠ ';' := by
  have apart (other : Char) (special : isPlaceChar other = false) : c ≠ other := by
    rintro rfl
    rw [plain] at special
    contradiction
  have amp := apart '&' rfl
  have less := apart '<' rfl
  have greater := apart '>' rfl
  have quote := apart '"' rfl
  have single := apart '\'' rfl
  exact ⟨by simp [escapeChar, amp, less, greater, quote, single], apart ';' rfl⟩

theorem infix_escape_of_spelled {name : String} (chars : List Char) (text : CodePoints)
    (spelled : name = String.ofList chars) (plain : chars.all isPlaceChar = true) :
    placeholder name <:+: escape text ↔ placeholder name <:+: text := by
  rw [placeholder_of_spelled spelled]
  have inside (point : CodePoint) (member : point ∈ CodePoints.ofChars chars) :
      escapePoint point = [point] ∧ point ≠ .char ';' := by
    obtain ⟨c, listed, rfl⟩ := List.mem_map.mp member
    obtain ⟨same, apart⟩ := escapeChar_of_isPlaceChar (List.all_eq_true.mp plain c listed)
    exact ⟨congrArg CodePoints.ofChars same, fun eq => apart (CodePoint.char.inj eq)⟩
  apply infix_escape_iff
  next =>
    intro point member
    simp only [List.mem_cons, List.mem_append, List.not_mem_nil, or_false] at member
    rcases member with rfl | listed | rfl
    next => rfl
    next => exact (inside point listed).1
    next => rfl
  next => exact List.mem_cons_self
  next =>
    intro member
    simp only [List.mem_cons, List.mem_append, List.not_mem_nil, or_false] at member
    rcases member with brace | listed | brace
    next => exact absurd brace (by decide)
    next => exact (inside _ listed).2 rfl
    next => exact absurd brace (by decide)

theorem placeholder_infix_escape_iff {name : String} (known : name ∈ places) (text : CodePoints) :
    placeholder name <:+: escape text ↔ placeholder name <:+: text := by
  simp only [places, List.mem_cons, List.not_mem_nil, or_false] at known
  rcases known with rfl | rfl | rfl | rfl
  next => exact infix_escape_of_spelled ['t', 'i', 't', 'l', 'e'] text rfl rfl
  next => exact infix_escape_of_spelled ['c', 's', 's'] text rfl rfl
  next =>
    exact infix_escape_of_spelled ['a', 'i', '_', 's', 't', 'a', 't', 'u', 's', '_', 'b', 'a', 'n',
      'n', 'e', 'r'] text rfl rfl
  next => exact infix_escape_of_spelled ['c', 'o', 'n', 't', 'e', 'n', 't'] text rfl rfl

theorem reread_escape_of_clear {title : CodePoints} (clear : .char '{' ∉ title)
    (banner content : CodePoints) : reread banner content (escape title) = escape title := by
  apply reread_of_plain
  intro name listed found
  rw [placeholder_infix_escape_iff (List.mem_cons_of_mem "title" listed),
    placeholder_of_spelled String.ofList_toList.symm] at found
  exact clear (found.subset List.mem_cons_self)

def told (status : Status) : CodePoints :=
  if status.available then status.model else status.reason

theorem banner_split (status : Status) : ∃ before after, banner status =
    before ++ (escape (told status) ++ after) ∧ .char '{' ∉ before ∧ .char '{' ∉ after ∧
      ∃ wall ∈ after.head?, wall ∉ placeholder "content" := by
  have outside (c : Char) (apart : c ∉ ['{', 'c', 'o', 'n', 't', 'e', 'n', 't', '}']) :
      .char c ∉ placeholder "content" := by
    have spelled : placeholder "content" =
        CodePoints.ofChars ['{', 'c', 'o', 'n', 't', 'e', 'n', 't', '}'] :=
      placeholder_of_spelled rfl
    rw [spelled]
    simpa [CodePoints.ofChars] using apart
  rcases status with ⟨available, reason, keySet, model⟩
  cases available with
  | true =>
    refine ⟨"<div class=\"ai-status " ++ "available" ++
      "\"><span class=\"ai-status-icon\">" ++ "✓" ++ "</span><span class=\"ai-status-text\">" ++
      "AI analysis available (model: ", ")" ++ "</span></div>", ?_, ?_, ?_, ?_⟩
    next =>
      simp only [banner, bannerClass, bannerIcon, bannerMessage, told, if_true, List.append_assoc]
    next =>
      simp only [List.mem_append, not_or]
      and_intros
      all_goals exact not_mem_ofString rfl (by decide)
    next =>
      simp only [List.mem_append, not_or]
      and_intros
      all_goals exact not_mem_ofString rfl (by decide)
    next => exact ⟨.char ')', rfl, outside ')' (by decide)⟩
  | false =>
    refine ⟨"<div class=\"ai-status " ++ "unavailable" ++
      "\"><span class=\"ai-status-icon\">" ++ "⚠" ++ "</span><span class=\"ai-status-text\">" ++
      "AI unavailable: ",
      (if keySet then "" else ". Rule-based analysis will be used.") ++ "</span></div>",
      ?_, ?_, ?_, ?_⟩
    next =>
      simp only [banner, bannerClass, bannerIcon, bannerMessage, told, Bool.false_eq_true,
        if_false, List.append_assoc]
    next =>
      simp only [List.mem_append, not_or]
      and_intros
      all_goals exact not_mem_ofString rfl (by decide)
    next =>
      cases keySet <;> simp only [List.mem_append, not_or, if_true, Bool.false_eq_true, if_false]
      all_goals
        and_intros
        all_goals exact not_mem_ofString rfl (by decide)
    next =>
      cases keySet with
      | true => exact ⟨.char '<', rfl, outside '<' (by decide)⟩
      | false => exact ⟨.char '.', rfl, outside '.' (by decide)⟩

theorem content_infix_banner_iff (status : Status) :
    placeholder "content" <:+: banner status ↔ placeholder "content" <:+: told status := by
  have spelled : "content" = String.ofList ['c', 'o', 'n', 't', 'e', 'n', 't'] := rfl
  obtain ⟨before, after, split, clear, none, apart⟩ := banner_split status
  rw [split, ← placeholder_infix_escape_iff (by simp [places]) (told status)]
  rw [placeholder_of_spelled spelled] at apart ⊢
  exact infix_between_iff clear apart none

def shownBanner (omitted : Bool) (status : Status) : CodePoints :=
  if omitted then [] else banner status

def givenTitle (values : Values) : CodePoints := (values.lookup "title").getD defaultTitle

theorem render_of_fill {template : Template} {values : Values} {content : CodePoints}
    (filled : fill values template = .ok content) (banner : CodePoints) :
    render template values banner =
      .ok (framed (reread banner content (escape (givenTitle values)))
        (replaceAll (placeholder "content") content banner) content) := by
  rw [render, filled, ← assemble_eq_framed]
  rfl

theorem render_eq_framed (template : Template) (values : Values) (omitted : Bool)
    (status : Status) {content : CodePoints} (filled : fill values template = .ok content) :
    let banner := shownBanner omitted status
    let title := escape (givenTitle values)
    render template values banner =
        .ok (framed (reread banner content title)
          (replaceAll (placeholder "content") content banner) content) ∧
      ((∀ name ∈ ["css", "ai_status_banner", "content"],
          ¬ placeholder name <:+: givenTitle values) →
        (omitted = false → ¬ placeholder "content" <:+: told status) →
          render template values banner = .ok (framed title banner content)) := by
  intro banner title
  have page := render_of_fill filled banner
  refine ⟨page, ?_⟩
  intro plainTitle plainStatus
  have titleSpells : ∀ name ∈ ["css", "ai_status_banner", "content"],
      ¬ placeholder name <:+: title := by
    intro name listed
    rw [placeholder_infix_escape_iff (List.mem_cons_of_mem "title" listed)]
    exact plainTitle name listed
  have bannerSpells : ¬ placeholder "content" <:+: banner := by
    cases omitted with
    | true => simpa [banner, shownBanner] using placeholder_ne_nil "content"
    | false => simpa [banner, shownBanner, content_infix_banner_iff] using plainStatus rfl
  rw [page, reread_of_plain titleSpells, replaceAll_of_absent bannerSpells]

theorem render_home_literally :
    let values : Values := [("title", "\x7btitle\x7d & co")]
    let status : Status := ⟨true, "AI features available", true, "\x7bcss\x7d"⟩
    fill values homeTemplate = .ok (source homeTemplate) ∧
      (∀ name ∈ ["css", "ai_status_banner", "content"],
        ¬ placeholder name <:+: givenTitle values) ∧
      ¬ placeholder "content" <:+: told status ∧
        render homeTemplate values (banner status) =
          .ok (framed (escape "\x7btitle\x7d & co") (banner status) (source homeTemplate)) := by
  intro values status
  have plainTitle : ∀ name ∈ ["css", "ai_status_banner", "content"],
      ¬ placeholder name <:+: givenTitle values := by
    simp only [List.forall_mem_cons, ← contains_eq_false_iff]
    decide
  have plainStatus : ¬ placeholder "content" <:+: told status := by
    rw [← contains_eq_false_iff]
    decide
  exact ⟨rfl, plainTitle, plainStatus,
    (render_eq_framed homeTemplate values false status rfl).2 plainTitle fun _ => plainStatus⟩

theorem framed_injective {title content banner other : CodePoints}
    (same : framed title banner content = framed title other content) : banner = other := by
  simpa only [framed, laidOut, framePlace, frameTemplate, List.flatMap_cons, List.flatMap_nil,
    List.append_cancel_left_eq, List.append_cancel_right_eq] using same

def spellingStatus : Status :=
  ⟨false, Status.failureReason "\x7bcontent\x7d", true, "deepseek-reasoner"⟩

theorem render_rereads_banner : ¬ ∀ (template : Template) (values : Values) (omitted : Bool)
    (status : Status) (content : CodePoints), fill values template = .ok content →
      render template values (shownBanner omitted status) =
        .ok (framed (escape (givenTitle values)) (shownBanner omitted status) content) := by
  intro simultaneous
  have filled : fill [] homeTemplate = .ok (source homeTemplate) := rfl
  have clear : .char '{' ∉ givenTitle [] := not_mem_ofString rfl (by decide)
  have page := simultaneous homeTemplate [] false spellingStatus _ filled
  rw [render_of_fill filled, Except.ok.injEq, reread_escape_of_clear clear] at page
  exact absurd (framed_injective page) (by decide +kernel)

end ReviewDesk.Page
