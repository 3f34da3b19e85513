import Mathlib.Computability.RegularExpressions
import ReviewDesk.Source

set_option autoImplicit false

namespace ReviewDesk

open Text

variable {c : Char} {text rest : List Char}

section Classes

def wordLetters : List Char :=
  "ABCDEFGHIJKLMNOPQRSTUVWXYZabcdefghijklmnopqrstuvwxyz0123456789_".toList

def callBlanks : List Char := [' ', '\t', '\n', '\u000b', '\u000c', '\r']

theorem lt_of_isWordAscii (word : isWordAscii c = true) : c.toNat < 128 := by
  have bounds : ((decide ('A' ≤ c ∧ c ≤ 'Z') || ('a' ≤ c && c ≤ 'z')) ||
    ('0' ≤ c && c ≤ '9') || c == '_') = true := word
  simp only [Bool.or_eq_true, Bool.and_eq_true, decide_eq_true_eq, beq_iff_eq, le_iff_toNat,
    ← Char.toNat_inj, Char.reduceToNat] at bounds
  omega

theorem isWordAscii_iff : isWordAscii c = true ↔ c ∈ wordLetters := by
  have forward : ∀ code < 128,
      isWordAscii (Char.ofNat code) = true → Char.ofNat code ∈ wordLetters := by decide +kernel
  -- Decided along the list, since a quantifier over characters is decided over all of them.
  have backward : wordLetters.all isWordAscii = true := by decide +kernel
  refine ⟨fun word => ?_, List.all_eq_true.mp backward c⟩
  have listed := forward c.toNat (lt_of_isWordAscii word)
  rw [Char.ofNat_toNat] at listed
  exact listed word

theorem isAsciiBlank_iff : isAsciiBlank c = true ↔ c ∈ callBlanks := by
  simp only [isAsciiBlank, callBlanks, Bool.or_eq_true, Bool.and_eq_true, decide_eq_true_eq,
    beq_iff_eq, le_iff_toNat, List.mem_cons, List.not_mem_nil, or_false, ← Char.toNat_inj,
    Char.reduceToNat]
  omega

theorem apart_of_letter (letter : c ∈ wordLetters) : c ∉ callBlanks ∧ c ≠ '(' := by
  have apart : (wordLetters.all fun c => decide (c ∉ callBlanks ∧ c ≠ '(')) = true := by
    decide +kernel
  exact of_decide_eq_true (List.all_eq_true.mp apart c letter)

theorem parenthesis_not_mem_callBlanks : '(' ∉ callBlanks := by decide

end Classes

section Scanning

def IsOpened (text : List Char) : Prop :=
  ∃ blanks after, (∀ c ∈ blanks, c ∈ callBlanks) ∧ text = blanks ++ '(' :: after

def HasCall (text : List Char) : Prop :=
  ∃ before word rest, word ∈ wordLetters ∧ IsOpened rest ∧ text = before ++ word :: rest

theorem not_isOpened_nil : ¬ IsOpened [] := by simp [IsOpened]

theorem isOpened_cons : IsOpened (c :: rest) ↔ c = '(' ∨ c ∈ callBlanks ∧ IsOpened rest := by
  constructor
  next =>
    rintro ⟨blanks, after, blank, split⟩
    cases blanks with
    | nil => exact .inl (List.cons.inj split).1
    | cons first others =>
      obtain ⟨rfl, rfl⟩ := List.cons.inj split
      obtain ⟨here, more⟩ := List.forall_mem_cons.mp blank
      exact .inr ⟨here, others, after, more, rfl⟩
  next =>
    rintro (rfl | ⟨blank, blanks, after, more, rfl⟩)
    next => exact ⟨[], rest, List.forall_mem_nil _, rfl⟩
    next => exact ⟨c :: blanks, after, List.forall_mem_cons.mpr ⟨blank, more⟩, rfl⟩

theorem not_hasCall_nil : ¬ HasCall [] := by simp [HasCall]

theorem hasCall_cons :
    HasCall (c :: rest) ↔ c ∈ wordLetters ∧ IsOpened rest ∨ HasCall rest := by
  constructor
  next =>
    rintro ⟨before, word, after, letter, opened, split⟩
    cases before with
    | nil =>
      obtain ⟨rfl, rfl⟩ := List.cons.inj split
      exact .inl ⟨letter, opened⟩
    | cons first others =>
      obtain ⟨-, rfl⟩ := List.cons.inj split
      exact .inr ⟨others, word, after, letter, opened, rfl⟩
  next =>
    rintro (⟨letter, opened⟩ | ⟨before, word, after, letter, opened, rfl⟩)
    next => exact ⟨[], c, rest, letter, opened, rfl⟩
    next => exact ⟨c :: before, word, after, letter, opened, rfl⟩

theorem hasCall_iff_spelled : HasCall text ↔ ∃ before word blanks after,
    word ∈ wordLetters ∧ (∀ c ∈ blanks, c ∈ callBlanks) ∧
      text = before ++ [word] ++ blanks ++ ['('] ++ after := by
  constructor
  next =>
    rintro ⟨before, word, _, letter, ⟨blanks, after, blank, rfl⟩, rfl⟩
    exact ⟨before, word, blanks, after, letter, blank, by simp⟩
  next =>
    rintro ⟨before, word, blanks, after, letter, blank, rfl⟩
    exact ⟨before, word, _, letter, ⟨blanks, after, blank, rfl⟩, by simp⟩

-- What the scanner has read is all in its flag: a call is found ahead, or the one that the word
-- just read begins.
theorem containsCallFrom_iff (afterWord : Bool) (text : List Char) :
    containsCallFrom afterWord text = true ↔
      afterWord = true ∧ IsOpened text ∨ HasCall text := by
  fun_induction containsCallFrom afterWord text with
  | case1 => simp [not_isOpened_nil, not_hasCall_nil]
  | case2 afterWord c rest word ih =>
    have letter := isWordAscii_iff.mp word
    have closed : ¬ IsOpened (c :: rest) := by
      rw [isOpened_cons]
      rintro (paren | ⟨blank, -⟩)
      next => exact (apart_of_letter letter).2 paren
      next => exact (apart_of_letter letter).1 blank
    simp [ih, hasCall_cons, letter, closed]
  | case3 afterWord c rest plain blank ih =>
    rw [isWordAscii_iff] at plain
    rw [isAsciiBlank_iff] at blank
    have other : c ≠ '(' := fun same => parenthesis_not_mem_callBlanks (same ▸ blank)
    simp [ih, hasCall_cons, isOpened_cons, plain, blank, other]
  | case4 afterWord c rest plain solid ih =>
    rw [isWordAscii_iff] at plain
    rw [isAsciiBlank_iff] at solid
    simp [ih, hasCall_cons, isOpened_cons, plain, solid]

theorem containsCall_iff_hasCall : containsCall text = true ↔ HasCall text := by
  simp [containsCall, containsCallFrom_iff]

end Scanning

section Pattern

open RegularExpression

def oneOf (letters : List Char) : RegularExpression Char := letters.foldr (char · + ·) 0

def callPattern : RegularExpression Char :=
  oneOf wordLetters * (oneOf wordLetters).star * (oneOf callBlanks).star * char '('

variable {letters : List Char}

theorem mem_oneOf : text ∈ (oneOf letters).matches' ↔ ∃ c ∈ letters, text = [c] := by
  induction letters with
  | nil => exact ⟨fun none => absurd none (Language.notMem_zero text), by simp⟩
  | cons c others ih =>
    rw [oneOf, List.foldr_cons, matches'_add, Language.mem_add, ← oneOf, ih,
      List.exists_mem_cons_iff]
    exact Iff.rfl

theorem mem_star_oneOf :
    text ∈ (oneOf letters).star.matches' ↔ ∀ c ∈ text, c ∈ letters := by
  rw [matches'_star, Language.mem_kstar]
  constructor
  next =>
    rintro ⟨pieces, rfl, single⟩ c member
    obtain ⟨piece, listed, inside⟩ := List.mem_flatten.mp member
    obtain ⟨d, known, rfl⟩ := mem_oneOf.mp (single piece listed)
    exact List.mem_singleton.mp inside ▸ known
  next =>
    intro all
    refine ⟨text.map ([·]), ?_, ?_⟩
    next => rw [← List.flatMap_def, List.flatMap_singleton']
    next =>
      intro piece listed
      obtain ⟨c, member, rfl⟩ := List.mem_map.mp listed
      exact mem_oneOf.mpr ⟨c, all c member, rfl⟩

-- A word is taken apart before its last character, which is the one that the blanks follow.
theorem mem_callPattern : text ∈ callPattern.matches' ↔
    ∃ start word blanks, (∀ c ∈ start, c ∈ wordLetters) ∧ word ∈ wordLetters ∧
      (∀ c ∈ blanks, c ∈ callBlanks) ∧ text = start ++ word :: (blanks ++ ['(']) := by
  rw [callPattern, matches'_mul, matches'_mul, matches'_mul, matches'_star,
    ← Language.mul_self_kstar_comm, ← matches'_star, Language.mem_mul]
  constructor
  next =>
    rintro ⟨_, ⟨_, ⟨start, letters, last, single, rfl⟩, blanks, blank, rfl⟩, _, rfl, rfl⟩
    obtain ⟨word, letter, rfl⟩ := mem_oneOf.mp single
    exact ⟨start, word, blanks, mem_star_oneOf.mp letters, letter, mem_star_oneOf.mp blank,
      by simp⟩
  next =>
    rintro ⟨start, word, blanks, letters, letter, blank, rfl⟩
    have ended := Language.append_mem_mul (mem_star_oneOf.mpr letters)
      (mem_oneOf.mpr ⟨word, letter, rfl⟩)
    have spaced := Language.append_mem_mul ended (mem_star_oneOf.mpr blank)
    exact ⟨_, spaced, ['('], rfl, by simp⟩

theorem hasCall_iff_pattern : HasCall text ↔ ∃ site ∈ callPattern.matches', site <:+: text := by
  constructor
  next =>
    rintro ⟨before, word, _, letter, ⟨blanks, after, blank, rfl⟩, rfl⟩
    refine ⟨word :: (blanks ++ ['(']), mem_callPattern.mpr ?_, before, after, by simp⟩
    exact ⟨[], word, blanks, List.forall_mem_nil _, letter, blank, rfl⟩
  next =>
    rintro ⟨site, found, before, after, rfl⟩
    obtain ⟨start, word, blanks, -, letter, blank, rfl⟩ := mem_callPattern.mp found
    exact ⟨before ++ start, word, _, letter, ⟨blanks, after, blank, rfl⟩, by simp⟩

theorem HasCall.of_infix {longer : List Char} (call : HasCall text) (inside : text <:+: longer) :
    HasCall longer := by
  rw [hasCall_iff_pattern] at call ⊢
  obtain ⟨site, written, here⟩ := call
  exact ⟨site, written, here.trans inside⟩

end Pattern

theorem call_site_grammar (text : List Char) :
    (containsCall text = true ↔ ∃ before word blanks after,
      word ∈ wordLetters ∧ (∀ c ∈ blanks, c ∈ callBlanks) ∧
        text = before ++ [word] ++ blanks ++ ['('] ++ after) ∧
    (containsCall text = true ↔ ∃ site ∈ callPattern.matches', site <:+: text) ∧
    ∀ longer, text <:+: longer → containsCall text = true → containsCall longer = true := by
  refine ⟨containsCall_iff_hasCall.trans hasCall_iff_spelled,
    containsCall_iff_hasCall.trans hasCall_iff_pattern, fun longer inside call => ?_⟩
  rw [containsCall_iff_hasCall] at call ⊢
  exact call.of_infix inside

theorem call_past_wide_blanks :
    let text := "\u00b2( x\u00a0(\u00e9_\u000b\r\n(".toList
    let longer := "\u3000".toList ++ text ++ ")".toList
    text <:+: longer ∧ containsCall text = true ∧ containsCall longer = true ∧
      ∃ site ∈ callPattern.matches', site <:+: longer := by
  intro text longer
  have inside : text <:+: longer := List.infix_append _ _ _
  have call : containsCall text = true := by
    refine (call_site_grammar text).1.mpr
      ⟨"\u00b2( x\u00a0(\u00e9".toList, '_', ['\u000b', '\r', '\n'], [], ?_, ?_, ?_⟩
    next => decide +kernel
    next => simp [callBlanks]
    next => decide +kernel
  have kept := (call_site_grammar text).2.2 longer inside call
  exact ⟨inside, call, kept, (call_site_grammar longer).2.1.mp kept⟩

end ReviewDesk
