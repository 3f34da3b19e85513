import Mathlib.Order.WithBot
import ReviewDesk.Proofs.Reply.Classification

set_option autoImplicit false

namespace ReviewDesk

open Text

abbrev ExtendedRat := WithBot (WithTop Rat)

namespace ExtendedRat

def ofRat (q : Rat) : ExtendedRat := ((q : WithTop Rat) : WithBot (WithTop Rat))

variable {q r : Rat}

theorem ofRat_le_ofRat_iff : ofRat q ≤ ofRat r ↔ q ≤ r :=
  WithBot.coe_le_coe.trans WithTop.coe_le_coe

theorem ofRat_inj : ofRat q = ofRat r ↔ q = r := by
  simp only [le_antisymm_iff, ofRat_le_ofRat_iff]

theorem ofRat_mono : Monotone ofRat := fun _ _ => ofRat_le_ofRat_iff.mpr

end ExtendedRat

open ExtendedRat

namespace Number

theorem clamp_eq_max_min {low high : Rat} (ordered : low ≤ high) (q : Rat) :
    clamp low high q = max low (min high q) := by
  unfold clamp
  split
  next above => rw [min_eq_left above.le, max_eq_right ordered]
  next within =>
    rw [min_eq_right (not_lt.mp within)]
    split
    next below => rw [max_eq_left below.le]
    next above => rw [max_eq_right (not_lt.mp above)]

theorem ofRat_clamp {low high : Rat} (ordered : low ≤ high) (q : Rat) :
    ofRat (clamp low high q) = max (ofRat low) (min (ofRat high) (ofRat q)) := by
  rw [clamp_eq_max_min ordered, ofRat_mono.map_max, ofRat_mono.map_min]

def Double.extended? : Double → Option ExtendedRat
  | .infinite negative => some (if negative then ⊥ else ⊤)
  | x => x.value?.map ExtendedRat.ofRat

end Number

namespace Json

def number? : Json → Option ExtendedRat
  | .int n => some (ofRat n)
  | .real x => x.extended?
  | _ => none

def isNumber : Json → Bool
  | .int _ | .real _ => true
  | _ => false

end Json

namespace Reply

open Number

structure IsSanitized (value : Json) (score : Int) : Prop where
  range : 0 ≤ score ∧ score ≤ 100
  nearest : ∀ x, value.number? = some x →
    ∃ q : Rat, ofRat q = max (ofRat 0) (min (ofRat 100) x) ∧ |q - score| ≤ 1 / 2 ∧
      (|q - score| = 1 / 2 → Even score)
  whole : ∀ n : Int, 0 ≤ n → n ≤ 100 → value.number? = some (ofRat n) → score = n
  nan : value = .real .nan → score = 100
  other : value.isNumber = false → score = 50

section Scores

variable {value worth : Json} {x y : ExtendedRat}

-- An infinity is put into range before it is rounded too, so that every number is scored by the
-- rounding of one rational, and what holds of a score is read off that rounding.
theorem exists_clamped (known : value.number? = some x) :
    ∃ q : Rat, ofRat q = max (ofRat 0) (min (ofRat 100) x) ∧ scoreOf value = nearestEven q := by
  have ordered : (0 : Rat) ≤ 100 := by norm_num
  cases value with
  | int n =>
    obtain rfl := Option.some.inj known
    exact ⟨clamp 0 100 n, ofRat_clamp ordered n, rfl⟩
  | real d =>
    cases d with
    | nan => simp [Json.number?, Double.extended?, Double.value?] at known
    | infinite negative =>
      obtain rfl := Option.some.inj known
      cases negative with
      | false =>
        refine ⟨100, ?_, (nearestEven_intCast 100).symm⟩
        simp [ofRat_le_ofRat_iff.mpr ordered]
      | true =>
        refine ⟨0, ?_, (nearestEven_intCast 0).symm⟩
        simp
    | finite negative significand exponent =>
      obtain rfl := Option.some.inj known
      exact ⟨_, ofRat_clamp ordered _, rfl⟩
  | null | bool | text | list | object => simp [Json.number?] at known

theorem isSanitized_scoreOf (value : Json) : IsSanitized value (scoreOf value) where
  range := scoreOf_mem value
  nearest := by
    intro x known
    obtain ⟨q, clamped, rounded⟩ := exists_clamped known
    rw [rounded]
    exact ⟨q, clamped, abs_sub_nearestEven_le q, even_nearestEven⟩
  whole := by
    intro n low high known
    obtain ⟨q, clamped, rounded⟩ := exists_clamped known
    have above : ofRat 0 ≤ ofRat n := ofRat_mono (by exact_mod_cast low)
    have below : ofRat n ≤ ofRat 100 := ofRat_mono (by exact_mod_cast high)
    rw [min_eq_right below, max_eq_right above, ofRat_inj] at clamped
    rw [rounded, clamped, nearestEven_intCast]
  nan := by
    rintro rfl
    rfl
  other := by
    intro other
    cases value with
    | int | real => cases other
    | null | bool | text | list | object => rfl

theorem scoreOf_mono (known : value.number? = some x) (known' : worth.number? = some y)
    (ordered : x ≤ y) : scoreOf value ≤ scoreOf worth := by
  obtain ⟨q, clamped, rounded⟩ := exists_clamped known
  obtain ⟨r, clamped', rounded'⟩ := exists_clamped known'
  have kept : ofRat q ≤ ofRat r := by
    rw [clamped, clamped']
    exact max_le_max le_rfl (min_le_min le_rfl ordered)
  rw [rounded, rounded']
  exact nearestEven_mono (ofRat_le_ofRat_iff.mp kept)

end Scores

def Rates (text : CodePoints) (value : Json) : Prop :=
  ∃ span members, IsObjectSpan text span ∧
    Json.read (.upTo depthLimit) span = .ok (.object members) ∧
      value = member members "overallScore"

theorem parse_of_rates {text : CodePoints} {value : Json} (rates : Rates text value) :
    ∃ result, parse text = (.ok result, []) ∧ result.score = scoreOf value := by
  obtain ⟨span, members, spans, read, rfl⟩ := rates
  refine ⟨structured members, ?_, rfl⟩
  rw [parse, spans.found]
  simp only [read]

def rating (n : Int) : CodePoints := Json.print .plain (.object [("overallScore", .int n)])

section Ratings

open Json Reader

variable {n : Int}

theorem objectSpan?_rating (n : Int) : objectSpan? (rating n) = some (rating n) := by
  have whole := @objectSpan?_append [] [] List.not_mem_nil List.not_mem_nil
    (printMembers .plain [("overallScore", .int n)])
  rwa [List.nil_append, List.append_nil] at whole

theorem read_rating (few : digitCount n ≤ digitLimit) :
    Json.read (.upTo depthLimit) (rating n) = .ok (.object [("overallScore", .int n)]) := by
  have fits : Fits (.upTo depthLimit) 0 (.object [("overallScore", .int n)]) :=
    ⟨rfl, decide_eq_true few, trivial⟩
  rw [rating, read_print fits]
  simp [reread, rereadMembers, ofMembers, put]

theorem read_long_rating (many : digitLimit < digitCount n) :
    Json.read (.upTo depthLimit) (rating n) = .error (.tooManyDigits (digitCount n)) := by
  let digits : CodePoints := CodePoints.ofChars (printInt n) ++ [.char '}']
  let place : CodePoints :=
    printText true "overallScore" ++ .char ':' :: (Style.plain.gap ++ digits)
  have spelled : rating n = .char '{' :: place := by
    simp [rating, print, printMembers, place, digits, Style.plain]
  have opens : Opens digits := by
    have fits : Fits .none 0 (.int n) := rfl
    have printed := opens_print fits .plain
    rw [print] at printed
    exact printed.append _
  -- The number is refused, the member around it passes the fault on, and so does the object.
  have inside (fuel : Nat) : readValue (.upTo depthLimit) (fuel + 1) 1 digits =
      .error (.tooManyDigits (digitCount n)) := by
    rw [readValue_printInt]
    exact readPlain_long (follows_brace []) (decide_eq_true many)
  have whole (fuel : Nat) : readValue (.upTo depthLimit) (fuel + 3) 0 (.char '{' :: place) =
      .error (.tooManyDigits (digitCount n)) := by
    have stopped : readMembers (.upTo depthLimit) (fuel + 2) 1 place =
        .error (.tooManyDigits (digitCount n)) := readMembers_stop .plain _ opens (inside fuel)
    rw [readValue_object rfl ((opens_printText true _).append _)]
    exact congrArg _ stopped
  have start : skipBlanks (.char '{' :: place) = .char '{' :: place := skipBlanks_char rfl place
  rw [spelled, Json.read, readAll, start, List.length_cons,
    show 2 * (place.length + 1) + 2 = 2 * place.length + 1 + 3 by omega, whole]
  rfl

theorem lt_digitCount_pow {k : Nat} (positive : 0 < k) : k < digitCount (10 ^ k) := by
  have size : (10 ^ k : Int).natAbs = 10 ^ k := Int.natAbs_pow 10 k
  rw [digitCount, size, ← not_le, Nat.length_toDigits_le_iff (by decide) positive]
  exact lt_irrefl _

theorem answered_rating_iff (n : Int) :
    (∃ result, (Reply.parse (rating n)).1 = .ok result) ↔ digitCount n ≤ digitLimit := by
  by_cases few : digitCount n ≤ digitLimit
  next =>
    refine iff_of_true ⟨structured [("overallScore", .int n)], ?_⟩ few
    rw [Reply.parse, objectSpan?_rating]
    simp only [read_rating few]
  next =>
    refine iff_of_false ?_ few
    rintro ⟨result, answered⟩
    rw [Reply.parse, objectSpan?_rating] at answered
    simp only [read_long_rating (Nat.lt_of_not_le few)] at answered
    cases answered

end Ratings

theorem scores_sanitized (value worth : Json) (n : Int) :
    IsSanitized value (scoreOf value) ∧
    (∀ x y, value.number? = some x → worth.number? = some y → x ≤ y →
      scoreOf value ≤ scoreOf worth) ∧
    (∀ text, Rates text value →
      ∃ result, parse text = (.ok result, []) ∧ result.score = scoreOf value) ∧
    ((∃ result, (parse (rating n)).1 = .ok result) ↔ Json.digitCount n ≤ 4300) :=
  ⟨isSanitized_scoreOf value, fun _ _ => scoreOf_mono, fun _ => parse_of_rates,
    answered_rating_iff n⟩

theorem half_score_to_even :
    let half : Json := .real (.finite false 0x12200000000000 (-46))
    let large : Json := .int 250
    half.number? = some (.ofRat (145 / 2)) ∧ large.number? = some (.ofRat 250) ∧
      scoreOf half = 72 ∧ scoreOf half ≤ scoreOf large ∧ Rates (rating 250) large ∧
        ∃ result, parse (rating 250) = (.ok result, []) ∧ result.score = 100 := by
  intro half large
  have exactly : (Double.finite false 0x12200000000000 (-46)).value? = some (145 / 2) := by
    decide +kernel
  have value : half.number? = some (.ofRat (145 / 2)) := congrArg (Option.map ofRat) exactly
  have worth : large.number? = some (.ofRat 250) := by simp [large, Json.number?]
  have rates : Rates (rating 250) large :=
    ⟨rating 250, [("overallScore", large)], objectSpan?_eq_some_iff.mp (objectSpan?_rating 250),
      read_rating (by decide), rfl⟩
  obtain ⟨-, ordered, -, -⟩ := scores_sanitized half large 250
  obtain ⟨-, -, read, -⟩ := scores_sanitized large half 250
  obtain ⟨result, parsed, score⟩ := read (rating 250) rates
  have kept : scoreOf half = 72 := by decide +kernel
  have clamped : scoreOf large = 100 := by decide +kernel
  exact ⟨value, worth, kept, ordered _ _ value worth (ofRat_mono (by norm_num)), rates, result,
    parsed, score.trans clamped⟩

theorem long_score_unanswered : ¬ ∃ result, (parse (rating (10 ^ 4300))).1 = .ok result := by
  rw [answered_rating_iff, not_le]
  exact lt_digitCount_pow (by decide)

end Reply

end ReviewDesk
