import ReviewDesk.Proofs.Json.Number
import ReviewDesk.Proofs.Json.Text

set_option autoImplicit false

namespace ReviewDesk.Json

open Number Reader Text

/-- What a text comes back as: escapes next to each other are put together where they match. -/
def rereadText (ascii : Bool) (text : CodePoints) : CodePoints :=
  if ascii then text.rejoined else text

mutual

def reread (ascii : Bool) : Json → Json
  | .text s => .text (rereadText ascii s)
  | .list items => .list (rereadItems ascii items)
  | .object members => ofMembers (rereadMembers ascii members)
  | value => value

def rereadItems (ascii : Bool) : List Json → List Json
  | [] => []
  | item :: rest => reread ascii item :: rereadItems ascii rest

def rereadMembers (ascii : Bool) : Members → Members
  | [] => []
  | (name, value) :: rest => (rereadText ascii name, reread ascii value) :: rereadMembers ascii rest

end

mutual

def Fits (bounds : Bounds) : Nat → Json → Prop
  | _, .int n => bounds.digits.all (digitCount n ≤ ·) = true
  | _, .real _ => False
  | level, .list items => bounds.admits level = true ∧ ItemsFit bounds (level + 1) items
  | level, .object members => bounds.admits level = true ∧ MembersFit bounds (level + 1) members
  | _, _ => True

def ItemsFit (bounds : Bounds) : Nat → List Json → Prop
  | _, [] => True
  | level, item :: rest => Fits bounds level item ∧ ItemsFit bounds level rest

def MembersFit (bounds : Bounds) : Nat → Members → Prop
  | _, [] => True
  | level, (_, value) :: rest => Fits bounds level value ∧ MembersFit bounds level rest

end

theorem itemsFit_iff {bounds : Bounds} {level : Nat} (items : List Json) :
    ItemsFit bounds level items ↔ ∀ item ∈ items, Fits bounds level item := by
  induction items with
  | nil => simp [ItemsFit]
  | cons item rest ih => simp [ItemsFit, ih]

theorem membersFit_iff {bounds : Bounds} {level : Nat} (members : Members) :
    MembersFit bounds level members ↔ ∀ member ∈ members, Fits bounds level member.2 := by
  induction members with
  | nil => simp [MembersFit]
  | cons member rest ih => simp [MembersFit, ih]

def Opens (place : CodePoints) : Prop :=
  ∃ c more, place = .char c :: more ∧ c ∉ [' ', '\t', '\n', '\r', ']', '}']

theorem Opens.append {place : CodePoints} (opens : Opens place) (rest : CodePoints) :
    Opens (place ++ rest) := by
  obtain ⟨c, more, rfl, apart⟩ := opens
  exact ⟨c, more ++ rest, rfl, apart⟩

theorem skipBlanks_char {c : Char} (visible : Reader.isBlank c = false) (rest : CodePoints) :
    skipBlanks (.char c :: rest) = .char c :: rest := by
  simp [skipBlanks, CodePoint.satisfies, visible]

theorem Opens.skipBlanks {place : CodePoints} (opens : Opens place) :
    Reader.skipBlanks place = place := by
  obtain ⟨c, more, rfl, apart⟩ := opens
  simp only [List.mem_cons, List.not_mem_nil, or_false, not_or] at apart
  exact skipBlanks_char (by simp [Reader.isBlank, apart]) more

theorem skipBlanks_gap {place : CodePoints} (opens : Opens place) (style : Style) :
    skipBlanks (style.gap ++ place) = place := by
  unfold Style.gap
  split
  next =>
    have blank : skipBlanks (CodePoints.ofString " " ++ place) = skipBlanks place := by
      simp [skipBlanks, CodePoint.satisfies, Reader.isBlank, CodePoints.ofString, CodePoints.ofChars]
    rw [blank]
    exact opens.skipBlanks
  next => exact opens.skipBlanks

theorem printInt_head (n : Int) :
    ∃ c others, printInt n = c :: others ∧ (c = '-' ∨ isAsciiDigit c = true) := by
  by_cases negative : n < 0
  next => exact ⟨'-', Nat.toDigits 10 n.natAbs, by simp [printInt, Double.signed, negative], .inl rfl⟩
  next =>
    cases digits : Nat.toDigits 10 n.natAbs with
    | nil => exact absurd digits Nat.toDigits_ne_nil
    | cons c others =>
      have digit : isAsciiDigit c = true := isAsciiDigit_of_mem_toDigits (by rw [digits]; simp)
      exact ⟨c, others, by simp [printInt, Double.signed, negative, digits], .inr digit⟩

theorem opens_printText (ascii : Bool) (text : CodePoints) : Opens (printText ascii text) :=
  ⟨'"', _, rfl, by decide⟩

theorem opens_print {bounds : Bounds} {level : Nat} {value : Json} (fits : Fits bounds level value)
    (style : Style) : Opens (print style value) := by
  cases value with
  | null => exact ⟨'n', CodePoints.ofString "ull", by simp [print]; decide, by decide⟩
  | bool value =>
    cases value with
    | true => exact ⟨'t', CodePoints.ofString "rue", by simp [print]; decide, by decide⟩
    | false => exact ⟨'f', CodePoints.ofString "alse", by simp [print]; decide, by decide⟩
  | int n =>
    obtain ⟨c, others, spelled, sign⟩ := printInt_head n
    refine ⟨c, CodePoints.ofChars others, by simp [print, spelled, CodePoints.ofChars], ?_⟩
    intro blank
    simp only [List.mem_cons, List.not_mem_nil, or_false] at blank
    rcases blank with rfl | rfl | rfl | rfl | rfl | rfl <;> revert sign <;> decide
  | real x => simp [Fits] at fits
  | text s => simpa [print] using opens_printText style.ascii s
  | list items => exact ⟨'[', _, by rw [print], by decide⟩
  | object members => exact ⟨'{', _, by rw [print], by decide⟩

theorem readText_print (ascii : Bool) (opening text rest : CodePoints) :
    readText opening (text.flatMap (printPoint ascii) ++ .char '"' :: rest) =
      .ok (rereadText ascii text, rest) := by
  have joined : CodePoints.ofSpellings (text.flatMap (spelled ascii)) = rereadText ascii text := by
    cases ascii with
    | true => exact ofSpellings_ascii text
    | false => exact ofSpellings_plain text
  simp [readText, readSpellings_print, joined, Except.map]

theorem readValue_printText (bounds : Bounds) (ascii : Bool) (fuel level : Nat)
    (text rest : CodePoints) :
    readValue bounds (fuel + 1) level (printText ascii text ++ rest) =
      .ok (.text (rereadText ascii text), rest) := by
  simp [printText, readValue, readText_print, Except.map]

theorem readValue_printInt (bounds : Bounds) (n : Int) (rest : CodePoints) (fuel level : Nat) :
    readValue bounds (fuel + 1) level (.ofChars (printInt n) ++ rest) =
      readPlain bounds (.ofChars (printInt n) ++ rest) := by
  obtain ⟨c, others, spelled, sign⟩ := printInt_head n
  have plain : c ≠ '"' ∧ c ≠ '{' ∧ c ≠ '[' := by
    refine ⟨?_, ?_, ?_⟩ <;> rintro rfl <;> revert sign <;> decide
  rw [spelled]
  simp [CodePoints.ofChars, readValue, plain]

section Steps

variable {bounds : Bounds} {fuel level : Nat} {place rest : CodePoints} {value : Json}

theorem readValue_list (admitted : bounds.admits level = true) (opens : Opens place) :
    readValue bounds (fuel + 1) level (.char '[' :: place) =
      (readItems bounds fuel (level + 1) place).map fun (items, after) => (.list items, after) := by
  have start := opens.skipBlanks
  obtain ⟨c, more, rfl, apart⟩ := opens
  simp only [List.mem_cons, List.not_mem_nil, or_false, not_or] at apart
  simp [readValue, admitted, start, apart]

theorem readValue_object (admitted : bounds.admits level = true) (opens : Opens place) :
    readValue bounds (fuel + 1) level (.char '{' :: place) =
      (readMembers bounds fuel (level + 1) place).map fun (members, after) =>
        (ofMembers members, after) := by
  have start := opens.skipBlanks
  obtain ⟨c, more, rfl, apart⟩ := opens
  simp only [List.mem_cons, List.not_mem_nil, or_false, not_or] at apart
  simp [readValue, admitted, start, apart]

theorem readItems_last
    (read : readValue bounds fuel level place = .ok (value, .char ']' :: rest)) :
    readItems bounds (fuel + 1) level place = .ok ([value], rest) := by
  simp [readItems, read, skipBlanks_char (show Reader.isBlank ']' = false from rfl)]

theorem readItems_more
    (read : readValue bounds fuel level place = .ok (value, .char ',' :: rest)) :
    readItems bounds (fuel + 1) level place =
      prepend value (readItems bounds fuel level (skipBlanks rest)) := by
  simp [readItems, read, skipBlanks_char (show Reader.isBlank ',' = false from rfl)]

theorem readMembers_last (style : Style) (name : CodePoints) (opens : Opens place)
    (read : readValue bounds fuel level place = .ok (value, .char '}' :: rest)) :
    readMembers bounds (fuel + 1) level
      (printText style.ascii name ++ .char ':' :: (style.gap ++ place)) =
        .ok ([(rereadText style.ascii name, value)], rest) := by
  simp [printText, readMembers, readText_print, skipBlanks_gap opens, read,
    skipBlanks_char (show Reader.isBlank ':' = false from rfl),
    skipBlanks_char (show Reader.isBlank '}' = false from rfl)]

theorem readMembers_stop (style : Style) (name : CodePoints) {stop : Stop} (opens : Opens place)
    (stopped : readValue bounds fuel level place = .error stop) :
    readMembers bounds (fuel + 1) level
      (printText style.ascii name ++ .char ':' :: (style.gap ++ place)) = .error stop := by
  simp [printText, readMembers, readText_print, skipBlanks_gap opens, stopped,
    skipBlanks_char (show Reader.isBlank ':' = false from rfl)]

theorem readMembers_more (style : Style) (name : CodePoints) (opens : Opens place)
    (read : readValue bounds fuel level place = .ok (value, .char ',' :: rest)) :
    readMembers bounds (fuel + 1) level
      (printText style.ascii name ++ .char ':' :: (style.gap ++ place)) =
        prepend (rereadText style.ascii name, value)
          (readMembers bounds fuel level (skipBlanks rest)) := by
  simp [printText, readMembers, readText_print, skipBlanks_gap opens, read,
    skipBlanks_char (show Reader.isBlank ':' = false from rfl),
    skipBlanks_char (show Reader.isBlank ',' = false from rfl)]

end Steps

section Containers

variable {bounds : Bounds} (style : Style)

theorem printItems_more (item next : Json) (more : List Json) :
    printItems style (item :: next :: more) =
      print style item ++ .char ',' :: (style.gap ++ printItems style (next :: more)) := by
  simp [printItems]

theorem printMembers_more (name : CodePoints) (value : Json) (next : CodePoints × Json)
    (more : Members) :
    printMembers style ((name, value) :: next :: more) =
      printText style.ascii name ++ .char ':' :: (style.gap ++ (print style value ++
        .char ',' :: (style.gap ++ printMembers style (next :: more)))) := by
  simp [printMembers]

theorem opens_printItems {level : Nat} {items : List Json} (some : items ≠ [])
    (fits : ItemsFit bounds level items) : Opens (printItems style items) := by
  cases items with
  | nil => exact absurd rfl some
  | cons item rest =>
    have opens := opens_print fits.1 style
    cases rest with
    | nil => exact opens
    | cons next more => exact opens.append _

theorem opens_printMembers {members : Members} (some : members ≠ []) :
    Opens (printMembers style members) := by
  cases members with
  | nil => exact absurd rfl some
  | cons member rest =>
    have opens := opens_printText style.ascii member.1
    cases rest with
    | nil => exact opens.append _
    | cons next more => exact opens.append _

variable {style}

mutual

-- The fuel is counted in characters: a value takes one step and its first character is gone.
theorem readValue_print : ∀ (value : Json) (rest : CodePoints) {fuel level : Nat},
    Fits bounds level value → Follows rest → 2 * (print style value).length ≤ fuel →
      readValue bounds fuel level (print style value ++ rest) =
        .ok (reread style.ascii value, rest)
  | value, rest, 0, level, fits, _, enough => by
    obtain ⟨c, more, printed, -⟩ := opens_print fits style
    simp [printed] at enough
  | .null, rest, fuel + 1, level, _, _, _ => readPlain_null bounds rest
  | .bool value, rest, fuel + 1, level, _, _, _ => by
    have read := readPlain_bool bounds value rest
    cases value <;> exact read
  | .int n, rest, fuel + 1, level, fits, follows, _ =>
    (readValue_printInt bounds n rest fuel level).trans (readPlain_int follows fits)
  | .text s, rest, fuel + 1, level, _, _, _ => readValue_printText bounds style.ascii fuel level s rest
  | .list [], rest, fuel + 1, level, fits, _, _ => by
    have admitted := fits.1
    simp [print, printItems, readValue, admitted, skipBlanks_char, Reader.isBlank, reread,
      rereadItems]
  | .list (item :: items), rest, fuel + 1, level, fits, _, enough => by
    have opens := opens_printItems style (List.cons_ne_nil item items) fits.2
    have short : 2 * (printItems style (item :: items)).length < fuel := by
      simp only [print, List.length_cons, List.length_append, List.length_nil] at enough
      omega
    have read := readItems_print (item :: items) rest (List.cons_ne_nil _ _) fits.2 short
    rw [print, List.cons_append, List.append_assoc, readValue_list fits.1 (opens.append _)]
    exact congrArg _ read
  | .object [], rest, fuel + 1, level, fits, _, _ => by
    have admitted := fits.1
    simp [print, printMembers, readValue, admitted, skipBlanks_char, Reader.isBlank, reread,
      rereadMembers, ofMembers]
  | .object (member :: members), rest, fuel + 1, level, fits, _, enough => by
    have opens := opens_printMembers style (List.cons_ne_nil member members)
    have short : 2 * (printMembers style (member :: members)).length < fuel := by
      simp only [print, List.length_cons, List.length_append, List.length_nil] at enough
      omega
    have read :=
      readMembers_print (member :: members) rest (List.cons_ne_nil _ _) fits.2 short
    rw [print, List.cons_append, List.append_assoc, readValue_object fits.1 (opens.append _)]
    exact congrArg _ read

theorem readItems_print : ∀ (items : List Json) (rest : CodePoints) {fuel level : Nat},
    items ≠ [] → ItemsFit bounds level items → 2 * (printItems style items).length < fuel →
      readItems bounds fuel level (printItems style items ++ .char ']' :: rest) =
        .ok (rereadItems style.ascii items, rest)
  | [item], rest, fuel + 1, level, _, fits, enough => by
    have read := readValue_print item _ fits.1 (follows_bracket rest) (Nat.le_of_lt_succ enough)
    exact readItems_last read
  | item :: next :: more, rest, fuel + 1, level, _, fits, enough => by
    have opens := opens_printItems style (List.cons_ne_nil next more) fits.2
    simp only [printItems_more, List.length_append, List.length_cons] at enough
    have read := readValue_print item _ fits.1
      (follows_comma (style.gap ++ (printItems style (next :: more) ++ .char ']' :: rest)))
      (show _ ≤ fuel by omega)
    have later := readItems_print (next :: more) rest (List.cons_ne_nil _ _) fits.2
      (show _ < fuel by omega)
    rw [printItems_more, List.append_assoc, List.cons_append, List.append_assoc,
      readItems_more read, skipBlanks_gap (opens.append _), later]
    rfl

theorem readMembers_print : ∀ (members : Members) (rest : CodePoints) {fuel level : Nat},
    members ≠ [] → MembersFit bounds level members → 2 * (printMembers style members).length < fuel →
      readMembers bounds fuel level (printMembers style members ++ .char '}' :: rest) =
        .ok (rereadMembers style.ascii members, rest)
  | [(name, value)], rest, fuel + 1, level, _, fits, enough => by
    have opens := (opens_print fits.1 style).append (.char '}' :: rest)
    simp only [printMembers, List.length_append, List.length_cons] at enough
    have read := readValue_print value _ fits.1 (follows_brace rest) (show _ ≤ fuel by omega)
    have last := readMembers_last style name opens read
    simpa [printMembers, List.append_assoc, rereadMembers] using last
  | (name, value) :: next :: more, rest, fuel + 1, level, _, fits, enough => by
    have opens := opens_printMembers style (List.cons_ne_nil next more)
    simp only [printMembers_more, List.length_append, List.length_cons] at enough
    have read := readValue_print value _ fits.1
      (follows_comma (style.gap ++ (printMembers style (next :: more) ++ .char '}' :: rest)))
      (show _ ≤ fuel by omega)
    have later := readMembers_print (next :: more) rest (List.cons_ne_nil _ _) fits.2
      (show _ < fuel by omega)
    have step := readMembers_more style name ((opens_print fits.1 style).append _) read
    rw [skipBlanks_gap (opens.append _), later] at step
    simpa [printMembers_more, List.append_assoc, rereadMembers, prepend] using step

end

end Containers

theorem read_print {bounds : Bounds} {value : Json} (fits : Fits bounds 0 value) (style : Style) :
    read bounds (print style value) = .ok (reread style.ascii value) := by
  have start := (opens_print fits style).skipBlanks
  have whole : readValue bounds (2 * (print style value).length + 2) 0 (print style value ++ []) =
      .ok (reread style.ascii value, []) :=
    readValue_print value [] fits follows_nil (by omega)
  rw [List.append_nil] at whole
  have done : skipBlanks [] = [] := rfl
  simp [read, readAll, start, whole, done, Except.mapError]

end ReviewDesk.Json
