import Mathlib.Data.Nat.Digits.Defs
import ReviewDesk.Number.Numeral
import ReviewDesk.Proofs.Text.Margins
import ReviewDesk.Proofs.Text.Word

set_option autoImplicit false

namespace ReviewDesk.Number

open Text

def AreGroups (groups : List (List Char)) : Prop :=
  groups ≠ [] ∧ ∀ group ∈ groups, group ≠ [] ∧ ∀ c ∈ group, (digitValue? c).isSome = true

/-- An integer as it may be written: a sign or none, then groups of digits with an underscore
between any two of them, and blanks around it all. -/
structure IntegerSpelling where
  left : List Char
  sign : Option Char
  groups : List (List Char)
  right : List Char

namespace IntegerSpelling

variable (spelling : IntegerSpelling)

def body : List Char := ['_'].intercalate spelling.groups

def text : List Char := spelling.left ++ (spelling.sign.toList ++ spelling.body) ++ spelling.right

def digits : List Nat := spelling.groups.flatten.filterMap digitValue?

def isNegative : Bool := spelling.sign == some '-'

def size : Nat := Nat.ofDigits 10 spelling.digits.reverse

def value : Int := if spelling.isNegative then -spelling.size else spelling.size

structure Valid : Prop where
  left : ∀ c ∈ spelling.left, isSpace c = true
  right : ∀ c ∈ spelling.right, isSpace c = true
  sign : ∀ c ∈ spelling.sign, c = '+' ∨ c = '-'
  groups : AreGroups spelling.groups

end IntegerSpelling

section Digits

variable {c : Char} {d : Nat} {body : List Char} {digits : List Nat}

theorem ofDigits_eq (digits : List Nat) : ofDigits digits = Nat.ofDigits 10 digits.reverse := by
  have folded (n : Nat) : digits.foldl (fun n d => 10 * n + d) n =
      n * 10 ^ digits.length + Nat.ofDigits 10 digits.reverse := by
    induction digits generalizing n with
    | nil => simp
    | cons d rest ih =>
      rw [List.foldl_cons, ih, List.reverse_cons, Nat.ofDigits_append, List.length_reverse,
        List.length_cons, Nat.ofDigits_singleton]
      ring
  rw [ofDigits, folded, Nat.zero_mul, Nat.zero_add]

def digitRanges : List Range := zeros.map fun origin => (origin, origin + 9)

theorem inRanges_of_digit (digit : (digitValue? c).isSome = true) :
    inRanges digitRanges c = true := by
  rw [digitValue?, Option.isSome_map, List.find?_isSome] at digit
  obtain ⟨origin, listed, inside⟩ := digit
  simp only [Bool.and_eq_true, decide_eq_true_eq] at inside
  rw [inRanges_iff]
  exact ⟨_, List.mem_map_of_mem listed, inside.1, by simp only; omega⟩

theorem apart_digits_gaps : areApart digitRanges gapRanges = true := by decide +kernel

theorem not_isSpace_of_digit (digit : (digitValue? c).isSome = true) : isSpace c = false := by
  by_contra space
  have blank : isBlank c = true := by
    simp only [Bool.not_eq_false, isSpace, isBlank, Bool.or_eq_true] at space ⊢
    tauto
  have outside := outside_of_areApart apart_digits_gaps (inRanges_of_digit digit)
  rw [gap_of_isBlank blank] at outside
  exact Bool.false_ne_true outside.symm

theorem ne_of_digit {mark : Char} (digit : (digitValue? c).isSome = true)
    (none : digitValue? mark = none) : c ≠ mark := by
  rintro rfl
  simp [none] at digit

end Digits

section Grouping

variable {c : Char} {digits : List Nat} {group rest body : List Char} {groups : List (List Char)}

theorem groupedDigits?_group {tail : List Char} {read : Option (List Nat)}
    (ended : ∀ c n, digitValue? c = some n → groupedDigits? (c :: tail) = read.map (n :: ·))
    (some : group ≠ []) (all : ∀ c ∈ group, (digitValue? c).isSome = true) :
    groupedDigits? (group ++ tail) = read.map (group.filterMap digitValue? ++ ·) := by
  induction group with
  | nil => exact absurd rfl some
  | cons c more ih =>
    rw [List.forall_mem_cons] at all
    obtain ⟨n, digit⟩ := Option.isSome_iff_exists.mp all.1
    cases more with
    | nil =>
      rw [List.singleton_append, ended c n digit]
      simp [digit]
    | cons next others =>
      have inside : next ≠ '_' := ne_of_digit (all.2 next List.mem_cons_self) (by decide +kernel)
      have later := ih (List.cons_ne_nil _ _) all.2
      rw [List.cons_append, groupedDigits?.eq_4 _ _ (by simp) (by simp [inside]), later, digit]
      cases read <;> simp [digit]

theorem groupedDigits?_intercalate (valid : AreGroups groups) :
    groupedDigits? (['_'].intercalate groups) = some (groups.flatten.filterMap digitValue?) := by
  obtain ⟨some, all⟩ := valid
  induction groups with
  | nil => exact absurd rfl some
  | cons group others ih =>
    rw [List.forall_mem_cons] at all
    cases others with
    | nil =>
      have ended (c : Char) (n : Nat) (digit : digitValue? c = Option.some n) :
          groupedDigits? [c] = (Option.some []).map (n :: ·) := by
        rw [groupedDigits?, digit]
        rfl
      have read := groupedDigits?_group ended all.1.1 all.1.2
      simpa using read
    | cons next others =>
      have later := ih (List.cons_ne_nil _ _) all.2
      have ended (c : Char) (n : Nat) (digit : digitValue? c = Option.some n) :
          groupedDigits? (c :: '_' :: ['_'].intercalate (next :: others)) =
            (Option.some ((next :: others).flatten.filterMap digitValue?)).map (n :: ·) := by
        rw [groupedDigits?, digit, later]
        rfl
      have read := groupedDigits?_group ended all.1.1 all.1.2
      rw [List.intercalate_cons_cons, List.append_assoc, List.singleton_append, read,
        Option.map_some, ← List.filterMap_append, ← List.flatten_cons]

theorem groups_of_groupedDigits? (read : groupedDigits? body = some digits) :
    ∃ groups, AreGroups groups ∧ body = ['_'].intercalate groups ∧
      digits = groups.flatten.filterMap digitValue? := by
  induction body using groupedDigits?.induct generalizing digits with
  | case1 => simp [groupedDigits?] at read
  | case2 c =>
    rw [groupedDigits?, Option.map_eq_some_iff] at read
    obtain ⟨n, digit, rfl⟩ := read
    exact ⟨[[c]], by simp [AreGroups, digit], by simp, by simp [digit]⟩
  | case3 c rest ih =>
    simp only [groupedDigits?, bind, pure, Option.bind_eq_some_iff, Option.some.injEq] at read
    obtain ⟨n, digit, others, later, rfl⟩ := read
    obtain ⟨groups, ⟨present, all⟩, rfl, rfl⟩ := ih later
    obtain ⟨group, more, rfl⟩ := List.exists_cons_of_ne_nil present
    refine ⟨[c] :: group :: more, ⟨List.cons_ne_nil _ _, ?_⟩, by simp, by simp [digit]⟩
    exact List.forall_mem_cons.mpr ⟨by simp [digit], all⟩
  | case4 c rest another apart ih =>
    rw [groupedDigits?.eq_4 c rest another apart] at read
    simp only [bind, pure, Option.bind_eq_some_iff, Option.some.injEq] at read
    obtain ⟨n, digit, others, later, rfl⟩ := read
    obtain ⟨groups, ⟨present, all⟩, rfl, rfl⟩ := ih later
    obtain ⟨group, more, rfl⟩ := List.exists_cons_of_ne_nil present
    rw [List.forall_mem_cons] at all
    refine ⟨(c :: group) :: more, ⟨List.cons_ne_nil _ _, ?_⟩, ?_, by simp [digit]⟩
    next => exact List.forall_mem_cons.mpr ⟨by simpa [digit] using all.1.2, all.2⟩
    next => cases more <;> simp

end Grouping

section Signs

variable {body : List Char}

theorem splitSign_sign {sign : Option Char} (known : ∀ c ∈ sign, c = '+' ∨ c = '-')
    (unsigned : ∀ c ∈ body.head?, c ≠ '+' ∧ c ≠ '-') :
    splitSign (sign.toList ++ body) = (sign == some '-', body) := by
  cases sign with
  | none =>
    rw [Option.toList_none, List.nil_append, splitSign.eq_3]
    next => rfl
    next => rintro rest rfl; simp at unsigned
    next => rintro rest rfl; simp at unsigned
  | some c => rcases known c rfl with rfl | rfl <;> rfl

theorem exists_sign (text : List Char) : ∃ sign : Option Char,
    (∀ c ∈ sign, c = '+' ∨ c = '-') ∧ text = sign.toList ++ (splitSign text).2 := by
  unfold splitSign
  split
  next rest => exact ⟨some '-', by simp, rfl⟩
  next rest => exact ⟨some '+', by simp, rfl⟩
  next => exact ⟨none, by simp, rfl⟩

theorem integer?_eq (text : List Char) :
    integer? text = (groupedDigits? (splitSign (trim isSpace text)).2).bind
      (boundedInt? (splitSign (trim isSpace text)).1) := rfl

end Signs

namespace IntegerSpelling

variable {spelling : IntegerSpelling}

theorem head_body (valid : spelling.Valid) :
    ∀ c ∈ spelling.body.head?, (digitValue? c).isSome = true := by
  intro c first
  obtain ⟨present, all⟩ := valid.groups
  obtain ⟨group, more, split⟩ := List.exists_cons_of_ne_nil present
  rw [split, List.forall_mem_cons] at all
  obtain ⟨head, others, rfl⟩ := List.exists_cons_of_ne_nil all.1.1
  have starts : spelling.body.head? = some head := by
    rw [body, split]
    cases more <;> simp
  rw [starts] at first
  exact all.1.2 c (by simp [Option.some.inj first])

theorem not_isSpace_of_mem (valid : spelling.Valid) :
    ∀ c ∈ spelling.sign.toList ++ spelling.body, isSpace c = false := by
  intro c member
  rcases List.mem_append.mp member with signed | inside
  next =>
    rcases valid.sign c (Option.mem_toList.mp signed) with rfl | rfl <;> decide
  next =>
    rcases mem_of_mem_intercalate inside with rfl | ⟨group, listed, digit⟩
    next => decide
    next => exact not_isSpace_of_digit ((valid.groups.2 group listed).2 c digit)

theorem trim_text (valid : spelling.Valid) :
    trim isSpace spelling.text = spelling.sign.toList ++ spelling.body := by
  have plain := not_isSpace_of_mem valid
  rw [text, trim_between_margins valid.left valid.right]
  exact trim_eq_self (fun c first => plain c (List.mem_of_mem_head? first))
    (fun c last => plain c (List.mem_of_mem_getLast? last))

theorem integer?_text (valid : spelling.Valid) :
    integer? spelling.text =
      if spelling.digits.length ≤ digitLimit then some spelling.value else none := by
  have unsigned : ∀ c ∈ spelling.body.head?, c ≠ '+' ∧ c ≠ '-' := by
    intro c first
    have digit := head_body valid c first
    exact ⟨ne_of_digit digit (by decide +kernel), ne_of_digit digit (by decide +kernel)⟩
  have read : groupedDigits? spelling.body = some spelling.digits :=
    groupedDigits?_intercalate valid.groups
  rw [integer?_eq, trim_text valid, splitSign_sign valid.sign unsigned, read, Option.bind_some,
    boundedInt?, ofDigits_eq]
  rfl

theorem exists_of_integer? {text : List Char} {n : Int} (read : integer? text = some n) :
    ∃ spelling : IntegerSpelling, spelling.Valid ∧ spelling.text = text := by
  obtain ⟨left, right, around, before, after⟩ := exists_margins isSpace text
  rw [integer?_eq, Option.bind_eq_some_iff] at read
  obtain ⟨digits, grouped, -⟩ := read
  obtain ⟨groups, valid, spelled, -⟩ := groups_of_groupedDigits? grouped
  obtain ⟨sign, known, inner⟩ := exists_sign (trim isSpace text)
  refine ⟨⟨left, sign, groups, right⟩, ⟨before, after, known, valid⟩, ?_⟩
  rw [spelled] at inner
  exact (inner ▸ around).symm

end IntegerSpelling

theorem integer?_eq_some_iff (text : List Char) (n : Int) :
    integer? text = some n ↔ ∃ spelling : IntegerSpelling, spelling.Valid ∧
      spelling.digits.length ≤ digitLimit ∧ spelling.text = text ∧ spelling.value = n := by
  constructor
  next =>
    intro read
    obtain ⟨spelling, valid, rfl⟩ := IntegerSpelling.exists_of_integer? read
    rw [IntegerSpelling.integer?_text valid] at read
    split at read
    next short => exact ⟨spelling, valid, short, rfl, Option.some.inj read⟩
    next => cases read
  next =>
    rintro ⟨spelling, valid, short, rfl, rfl⟩
    rw [IntegerSpelling.integer?_text valid, if_pos short]

end ReviewDesk.Number
