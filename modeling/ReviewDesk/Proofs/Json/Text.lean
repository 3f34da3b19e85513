import ReviewDesk.Json.Printer
import ReviewDesk.Json.Reader
import ReviewDesk.Proofs.Text.Surrogates

set_option autoImplicit false

namespace ReviewDesk.Json

open Reader Text

theorem hex_four {n : Nat} (bound : n < 0x10000) :
    hex 4 n = [(n / 4096).digitChar, (n / 256 % 16).digitChar, (n / 16 % 16).digitChar,
      (n % 16).digitChar] := by
  have single (m : Nat) (small : m < 16) : Nat.toDigits 16 m = [m.digitChar] :=
    Nat.toDigits_of_lt_base small
  have split (m : Nat) (large : 16 ≤ m) :
      Nat.toDigits 16 m = Nat.toDigits 16 (m / 16) ++ [(m % 16).digitChar] :=
    Nat.toDigits_of_base_le (by decide) large
  by_cases one : n < 16
  next =>
    have high : n / 4096 = 0 ∧ n / 256 % 16 = 0 ∧ n / 16 % 16 = 0 ∧ n % 16 = n := by omega
    simp [hex, single n one, high, List.replicate]
  by_cases two : n < 256
  next =>
    have high : n / 4096 = 0 ∧ n / 256 % 16 = 0 ∧ n / 16 % 16 = n / 16 := by omega
    simp [hex, split n (by omega), single (n / 16) (by omega), high, List.replicate]
  by_cases three : n < 4096
  next =>
    have high : n / 4096 = 0 ∧ n / 256 % 16 = n / 16 / 16 := by omega
    simp [hex, split n (by omega), split (n / 16) (by omega), single (n / 16 / 16) (by omega), high]
  next =>
    have high : n / 4096 = n / 16 / 16 / 16 ∧ n / 256 % 16 = n / 16 / 16 % 16 := by omega
    simp [hex, split n (by omega), split (n / 16) (by omega), split (n / 16 / 16) (by omega),
      single (n / 16 / 16 / 16) (by omega), high]

theorem hexDigit?_digitChar : ∀ d < 16, hexDigit? d.digitChar = some d := by decide

theorem hexUnit?_hex {n : Nat} (bound : n < 0x10000) :
    hexUnit? (.char (n / 4096).digitChar) (.char (n / 256 % 16).digitChar)
      (.char (n / 16 % 16).digitChar) (.char (n % 16).digitChar) = some n := by
  have sum : 4096 * (n / 4096) + 256 * (n / 256 % 16) + 16 * (n / 16 % 16) + n % 16 = n := by omega
  simp only [hexUnit?, hexValue?, CodePoint.char?, Option.bind_some,
    hexDigit?_digitChar _ (show n / 4096 < 16 by omega),
    hexDigit?_digitChar _ (show n / 256 % 16 < 16 by omega),
    hexDigit?_digitChar _ (show n / 16 % 16 < 16 by omega),
    hexDigit?_digitChar _ (show n % 16 < 16 by omega)]
  simpa using sum

theorem readSpellings_unit (opening tail : CodePoints) {n : Nat} (bound : n < 0x10000)
    (more : tail ≠ []) :
    readSpellings opening (.ofChars (unitEscape n) ++ tail) =
      prepend (.unit n) (readSpellings opening tail) := by
  cases tail with
  | nil => exact absurd rfl more
  | cons next rest =>
    simp [unitEscape, hex_four bound, CodePoints.ofChars, readSpellings, hexUnit?_hex bound]

theorem readSpellings_short (opening tail : CodePoints) {mark : Char} {point : CodePoint}
    (short : mark ≠ 'u') (stands : escaped? (.char mark) = some point) :
    readSpellings opening (.char '\\' :: .char mark :: tail) =
      prepend (.point point) (readSpellings opening tail) := by
  rw [readSpellings.eq_def]
  simp [short, stands]

theorem readSpellings_plain (opening tail : CodePoints) {point : CodePoint}
    (unquoted : point ≠ .char '"') (unescaped : point ≠ .char '\\')
    (plain : point.satisfies isControl = false) :
    readSpellings opening (point :: tail) = prepend (.point point) (readSpellings opening tail) := by
  rw [readSpellings.eq_def]
  simp [unescaped, plain]

def units (point : CodePoint) : List Spelling :=
  let n := point.toNat
  if n < 0x10000 then [.unit n]
  else [.unit (0xd800 + (n - 0x10000) / 0x400), .unit (0xdc00 + (n - 0x10000) % 0x400)]

def spelled (ascii : Bool) (point : CodePoint) : List Spelling :=
  if (point.char?.bind shortEscape?).isNone && isNumeric ascii point then units point
  else [.point point]

theorem escaped?_of_shortEscape? {c mark : Char} (short : shortEscape? c = some mark) :
    mark ≠ 'u' ∧ escaped? (.char mark) = some (.char c) := by
  have table : ∀ entry ∈ shortEscapes,
      entry.2 ≠ 'u' ∧ escaped? (.char entry.2) = some (.char entry.1) := by decide
  obtain ⟨before, after, listed, -⟩ := List.lookup_eq_some_iff.mp short
  exact table (c, mark) (by simp [listed])

theorem readSpellings_numeric (opening tail : CodePoints) (point : CodePoint)
    (more : tail ≠ []) :
    readSpellings opening (.ofChars (asciiEscape point) ++ tail) =
      (units point).foldr prepend (readSpellings opening tail) := by
  have bound := point.toNat_lt
  unfold asciiEscape units
  simp only
  split
  next small => exact readSpellings_unit opening tail small more
  next large =>
    have low : 0xdc00 + (point.toNat - 0x10000) % 0x400 < 0x10000 := by omega
    have high : 0xd800 + (point.toNat - 0x10000) / 0x400 < 0x10000 := by omega
    rw [CodePoints.ofChars_append, List.append_assoc, readSpellings_unit _ _ high (by simp [more]),
      readSpellings_unit _ _ low more]
    rfl

theorem readSpellings_point (ascii : Bool) (opening tail : CodePoints) (point : CodePoint)
    (more : tail ≠ []) :
    readSpellings opening (printPoint ascii point ++ tail) =
      (spelled ascii point).foldr prepend (readSpellings opening tail) := by
  unfold printPoint spelled
  cases short : point.char?.bind shortEscape? with
  | some mark =>
    obtain ⟨c, here, listed⟩ := Option.bind_eq_some_iff.mp short
    have same : point = .char c := by
      cases point with
      | char d => exact congrArg CodePoint.char (Option.some.inj here)
      | surrogate offset => simp [CodePoint.char?] at here
    obtain ⟨other, stands⟩ := escaped?_of_shortEscape? listed
    rw [same]
    exact readSpellings_short opening tail other stands
  | none =>
    cases numeric : isNumeric ascii point with
    | true => exact readSpellings_numeric opening tail point more
    | false =>
      have plain : point.satisfies isControl = false := by
        simp only [isNumeric, Bool.or_eq_false_iff] at numeric
        exact numeric.1
      have unmarked : point ≠ .char '"' ∧ point ≠ .char '\\' := by
        constructor <;> rintro rfl <;> revert short <;> decide
      exact readSpellings_plain opening tail unmarked.1 unmarked.2 plain

theorem readSpellings_print (ascii : Bool) (opening text rest : CodePoints) :
    readSpellings opening (text.flatMap (printPoint ascii) ++ .char '"' :: rest) =
      .ok (text.flatMap (spelled ascii), rest) := by
  have collect (spellings more : List Spelling) :
      spellings.foldr prepend (.ok (more, rest)) = .ok (spellings ++ more, rest) := by
    induction spellings with
    | nil => rfl
    | cons spelling others ih => simp [ih, prepend]
  induction text with
  | nil => simp [readSpellings]
  | cons point text ih =>
    rw [List.flatMap_cons, List.append_assoc, readSpellings_point _ _ _ _ (by simp), ih, collect,
      List.flatMap_cons]

-- A unit is read together with the next one only where the two match.
theorem ofSpellings_spelled (ascii : Bool) (point : CodePoint) (others : List Spelling)
    (apart : ∀ low rest, others = .unit low :: rest →
      (isHighSurrogate point.toNat && isLowSurrogate low) = false) :
    CodePoints.ofSpellings (spelled ascii point ++ others) =
      point :: CodePoints.ofSpellings others := by
  have bound := point.toNat_lt
  unfold spelled units
  simp only
  split_ifs with numeric small
  next =>
    rw [List.singleton_append, CodePoints.ofSpellings_unit_of_apart apart, CodePoint.ofNat_toNat]
  next =>
    have pair : (isHighSurrogate (0xd800 + (point.toNat - 0x10000) / 0x400) &&
        isLowSurrogate (0xdc00 + (point.toNat - 0x10000) % 0x400)) = true := by
      simp only [isHighSurrogate, isLowSurrogate, Bool.and_eq_true, decide_eq_true_eq]
      omega
    have whole : joinSurrogates (0xd800 + (point.toNat - 0x10000) / 0x400)
        (0xdc00 + (point.toNat - 0x10000) % 0x400) = point.toNat := by
      unfold joinSurrogates
      omega
    rw [List.cons_append, List.singleton_append, CodePoints.ofSpellings_pair _ pair, whole,
      CodePoint.ofNat_toNat]
  next => rfl

theorem head_spelled {ascii : Bool} {point : CodePoint} {others rest : List Spelling} {low : Nat}
    (starts : spelled ascii point ++ others = .unit low :: rest)
    (isLow : isLowSurrogate low = true) : point.toNat = low := by
  have bound := point.toNat_lt
  simp only [isLowSurrogate, Bool.and_eq_true, decide_eq_true_eq] at isLow
  unfold spelled units at starts
  simp only at starts
  split_ifs at starts with numeric small
  next => simpa using (List.cons.inj starts).1
  next =>
    have value : 0xd800 + (point.toNat - 0x10000) / 0x400 = low := by
      simpa using (List.cons.inj starts).1
    omega
  next => simp at starts

theorem ofSpellings_plain (text : CodePoints) :
    CodePoints.ofSpellings (text.flatMap (spelled false)) = text := by
  induction text with
  | nil => rfl
  | cons point rest ih =>
    rw [List.flatMap_cons]
    cases point with
    | char c =>
      rw [ofSpellings_spelled, ih]
      intro low others _
      rw [(CodePoints.not_surrogate_char c).1, Bool.false_and]
    | surrogate offset => exact congrArg (CodePoint.surrogate offset :: ·) ih

theorem ofSpellings_ascii (text : CodePoints) :
    CodePoints.ofSpellings (text.flatMap (spelled true)) = text.rejoined := by
  fun_induction CodePoints.rejoined text with
  | case1 high low rest pair ih =>
    obtain ⟨first, second, rfl, rfl⟩ := CodePoints.exists_surrogates pair
    have single (offset : Fin 0x800) : spelled true (.surrogate offset) =
        [.unit (CodePoint.surrogate offset).toNat] := by
      have small : (CodePoint.surrogate offset).toNat < 0x10000 := by
        simp only [CodePoint.toNat]
        omega
      simp [spelled, units, small, isNumeric, CodePoint.satisfies, CodePoint.char?]
    rw [List.flatMap_cons, List.flatMap_cons, single, single, List.singleton_append,
      List.singleton_append, CodePoints.ofSpellings_pair _ pair, ih]
  | case2 high low rest apart ih =>
    rw [List.flatMap_cons, ofSpellings_spelled, ih]
    intro unit others starts
    cases isLow : isLowSurrogate unit with
    | false => exact Bool.and_false _
    | true =>
      rw [List.flatMap_cons] at starts
      rw [← isLow, ← head_spelled starts isLow]
      exact Bool.not_eq_true _ ▸ apart
  | case3 text short =>
    cases text with
    | nil => rfl
    | cons point rest =>
      cases rest with
      | nil =>
        rw [List.flatMap_cons, ofSpellings_spelled _ _ _ (by simp)]
        rfl
      | cons other rest => exact absurd rfl (short point other rest)

end ReviewDesk.Json
