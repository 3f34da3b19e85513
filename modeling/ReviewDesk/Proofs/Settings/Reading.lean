import ReviewDesk.Proofs.Number.Spelling
import ReviewDesk.Settings

set_option autoImplicit false

namespace ReviewDesk

open Number Text

/-- What becomes of a setting: the value that its text stands for, or the fallback where it stands
for none or is not given. -/
inductive Comes {α : Type} (means : List Char → α → Prop) (fallback : α) : Option String → α → Prop
  | given {text : String} {value : α} (known : means text.toList value) :
      Comes means fallback (some text) value
  | refused {text : String} (unknown : ∀ value, ¬ means text.toList value) :
      Comes means fallback (some text) fallback
  | absent : Comes means fallback none fallback

def Margined (text : List Char) (core : String) : Prop := Core isBlank text core.toList

def Shows (text : List Char) (core : String) : Prop := Margined text core ∧ core ≠ ""

def Spells (text : List Char) (n : Int) : Prop :=
  ∃ spelling : IntegerSpelling, spelling.Valid ∧ spelling.digits.length ≤ digitLimit ∧
    spelling.text = text ∧ spelling.value = n

def Names (text : List Char) (name : String) : Prop :=
  name.toList = upper (strip text) ∧ name ≠ ""

def levels : List (String × Nat) := [
  ("CRITICAL", 50), ("FATAL", 50), ("ERROR", 40), ("WARNING", 30), ("WARN", 30), ("INFO", 20),
  ("DEBUG", 10), ("NOTSET", 0)]

def IsLevel (name : String) : Prop := ∃ level, (name, level) ∈ levels

/-- The names of the logging facility that no level has and no text may give. -/
def reservedNames : List String := ["BASIC_FORMAT", "_STYLES"]

section Texts

variable {text core : String}

theorem margined_stripped (text : String) : Margined text.toList (stripped text) := by
  rw [Margined, stripped, String.toList_ofList]
  exact core_trim isBlank text.toList

theorem Margined.stripped_eq (margined : Margined text.toList core) :
    stripped text = core := by
  rw [stripped, strip, margined.trim_eq, String.ofList_toList]

end Texts

namespace LevelValue

variable {name : String} {level : Nat}

theorem ofName_of_level (listed : (name, level) ∈ levels) : ofName name = .number level := by
  have all : ∀ entry ∈ levels, ofName entry.1 = .number entry.2 := by decide +kernel
  exact all (name, level) listed

theorem ofName_of_reserved (reserved : name ∈ reservedNames) : ofName name ≠ .number level := by
  simp only [reservedNames, List.mem_cons, List.not_mem_nil, or_false] at reserved
  rcases reserved with rfl | rfl <;> exact LevelValue.noConfusion

theorem ofName_of_other (other : ¬ IsLevel name) (free : name ∉ reservedNames) :
    ofName name = .number 20 := by
  unfold ofName
  split <;> simp_all [IsLevel, levels, reservedNames, info]

end LevelValue

namespace Settings

theorem comes_textOr (fallback : String) (setting : Option String) :
    Comes Shows fallback setting (textOr fallback setting) := by
  cases setting with
  | none => exact .absent
  | some text =>
    rw [textOr]
    split
    next blank =>
      refine .refused fun value shown => shown.2 ?_
      rw [← shown.1.stripped_eq, blank]
    next visible => exact .given ⟨margined_stripped text, visible⟩

theorem comes_intOr (fallback : Int) (setting : Option String) :
    Comes Spells fallback setting (intOr fallback setting) := by
  cases setting with
  | none => exact .absent
  | some text =>
    rw [intOr, Option.bind_some]
    cases read : integer? text.toList with
    | none =>
      refine .refused fun n spells => ?_
      rw [(integer?_eq_some_iff _ n).mpr spells] at read
      cases read
    | some n => exact .given ((integer?_eq_some_iff _ n).mp read)

theorem comes_real (fallback : Double) (setting : Option String) :
    Comes (fun text limit => real? text = some limit) fallback setting
      ((setting.bind fun given => real? given.toList).getD fallback) := by
  cases setting with
  | none => exact .absent
  | some text =>
    rw [Option.bind_some]
    cases read : real? text.toList with
    | none => exact .refused (by simp [read])
    | some limit => exact .given read

variable (settings : Settings)

theorem comes_hostName : Comes Margined "0.0.0.0" settings.listenHost settings.hostName := by
  rw [hostName]
  cases settings.listenHost with
  | none => exact .absent
  | some text => exact .given (margined_stripped text)

theorem comes_levelName : Comes Names "INFO" settings.logLevel settings.levelName := by
  rw [levelName]
  cases settings.logLevel with
  | none => exact .absent
  | some text =>
    have shown : (textOr "" (some text)).toList = strip text.toList := by
      rw [textOr]
      split
      next blank => rw [← blank, stripped, String.toList_ofList]
      next => rw [stripped, String.toList_ofList]
    rw [shown]
    split
    next none =>
      refine .refused fun name named => named.2 ?_
      rw [← none, ← named.1, String.ofList_toList]
    next some => exact .given ⟨String.toList_ofList, some⟩

theorem threshold_eq_ok (level : Nat) :
    settings.threshold = .ok level ↔ LevelValue.ofName settings.levelName = .number level := by
  rw [threshold]
  cases LevelValue.ofName settings.levelName <;> simp

theorem threshold_eq_ok_iff (level : Nat) :
    settings.threshold = .ok level ↔
      (settings.levelName, level) ∈ levels ∨
        ¬ IsLevel settings.levelName ∧ settings.levelName ∉ reservedNames ∧ level = 20 := by
  rw [threshold_eq_ok]
  constructor
  next =>
    intro read
    by_cases known : IsLevel settings.levelName
    next =>
      obtain ⟨number, listed⟩ := known
      rw [LevelValue.ofName_of_level listed, LevelValue.number.injEq] at read
      exact .inl (read ▸ listed)
    next =>
      have free : settings.levelName ∉ reservedNames :=
        fun reserved => LevelValue.ofName_of_reserved reserved read
      rw [LevelValue.ofName_of_other known free, LevelValue.number.injEq] at read
      exact .inr ⟨known, free, read.symm⟩
  next =>
    rintro (listed | ⟨other, free, rfl⟩)
    next => exact LevelValue.ofName_of_level listed
    next => exact LevelValue.ofName_of_other other free

theorem exists_threshold_iff :
    (∃ level, settings.threshold = .ok level) ↔ settings.levelName ∉ reservedNames := by
  simp only [threshold_eq_ok]
  constructor
  next =>
    rintro ⟨level, read⟩ reserved
    exact LevelValue.ofName_of_reserved reserved read
  next =>
    intro free
    by_cases known : IsLevel settings.levelName
    next =>
      obtain ⟨level, listed⟩ := known
      exact ⟨level, LevelValue.ofName_of_level listed⟩
    next => exact ⟨20, LevelValue.ofName_of_other known free⟩

theorem intOr_of_long (fallback : Int) {spelling : IntegerSpelling} (valid : spelling.Valid)
    (long : digitLimit < spelling.digits.length) :
    intOr fallback (some (String.ofList spelling.text)) = fallback := by
  have refused : integer? spelling.text = none := by
    rw [IntegerSpelling.integer?_text valid, if_neg (Nat.not_le.mpr long)]
  rw [intOr, Option.bind_some, String.toList_ofList, refused, Option.getD_none]

end Settings

theorem visible_of_comes {fallback value : String} {setting : Option String}
    (comes : Comes Shows fallback setting value) (visible : isAllBlank fallback.toList = false) :
    isAllBlank value.toList = false := by
  cases comes with
  | refused => exact visible
  | absent => exact visible
  | given known =>
    have nonempty : value.toList ≠ [] := by simpa using known.2
    obtain ⟨c, rest, split⟩ := List.exists_cons_of_ne_nil nonempty
    have first : isBlank c = false := known.1.opened c (by simp [split])
    simp [isAllBlank, split, first]

theorem settings_answer (settings : Settings) :
    Comes Shows "" settings.apiKey settings.key ∧
      Comes Shows "deepseek-reasoner" settings.model settings.modelName ∧
      isAllBlank settings.modelName.toList = false ∧
      Comes Shows "https://api.deepseek.com" settings.baseUrl settings.endpoint ∧
      isAllBlank settings.endpoint.toList = false ∧
      Comes (fun text limit => real? text = some limit) (.ofInt 60) settings.timeout
        settings.timeLimit ∧
      Comes Spells 2000 settings.maxTokens settings.tokenLimit ∧
      Comes Margined "0.0.0.0" settings.listenHost settings.hostName ∧
      Comes Spells 8000 settings.listenPort settings.portNumber ∧
      (∀ spelling : IntegerSpelling, spelling.Valid → 4300 < spelling.digits.length →
        (settings.maxTokens = some (String.ofList spelling.text) → settings.tokenLimit = 2000) ∧
        (settings.listenPort = some (String.ofList spelling.text) → settings.portNumber = 8000)) ∧
      Comes Names "INFO" settings.logLevel settings.levelName ∧
      ((∃ level, settings.threshold = .ok level) ↔ settings.levelName ∉ reservedNames) ∧
      ∀ level, settings.threshold = .ok level ↔
        (settings.levelName, level) ∈ levels ∨
          ¬ IsLevel settings.levelName ∧ settings.levelName ∉ reservedNames ∧ level = 20 := by
  have model := Settings.comes_textOr "deepseek-reasoner" settings.model
  have baseUrl := Settings.comes_textOr "https://api.deepseek.com" settings.baseUrl
  refine ⟨Settings.comes_textOr "" settings.apiKey, model, visible_of_comes model (by decide),
    baseUrl, visible_of_comes baseUrl (by decide), Settings.comes_real _ settings.timeout,
    Settings.comes_intOr 2000 settings.maxTokens, settings.comes_hostName,
    Settings.comes_intOr 8000 settings.listenPort, ?_, settings.comes_levelName,
    settings.exists_threshold_iff, settings.threshold_eq_ok_iff⟩
  intro spelling valid long
  constructor
  next =>
    intro given
    rw [Settings.tokenLimit, given, Settings.intOr_of_long 2000 valid long]
  next =>
    intro given
    rw [Settings.portNumber, given, Settings.intOr_of_long 8000 valid long]

def nines (count : Nat) : IntegerSpelling :=
  ⟨['\u3000'], some '-', [['٣'], List.replicate (count + 1) '9'], []⟩

theorem digitValue?_nine : digitValue? '9' = some 9 := by decide +kernel

theorem digitValue?_arabic_three : digitValue? '٣' = some 3 := by decide +kernel

theorem nines_valid (count : Nat) : (nines count).Valid := by
  refine ⟨List.forall_mem_singleton.mpr rfl, List.forall_mem_nil _, by simp [nines],
    List.cons_ne_nil _ _, ?_⟩
  simp [nines, digitValue?_nine, digitValue?_arabic_three]

theorem length_digits_nines (count : Nat) : (nines count).digits.length = count + 2 := by
  simp [nines, IntegerSpelling.digits, digitValue?_nine, digitValue?_arabic_three]

theorem overlong_limits_replaced :
    let text := String.ofList (nines 4299).text
    let settings := { Settings.unset with maxTokens := some text, listenPort := some text }
    (nines 4299).Valid ∧ 4300 < (nines 4299).digits.length ∧ settings.tokenLimit = 2000 ∧
      settings.portNumber = 8000 := by
  intro text settings
  have long : 4300 < (nines 4299).digits.length := by
    rw [length_digits_nines]
    decide
  obtain ⟨-, -, -, -, -, -, -, -, -, replaced, -⟩ := settings_answer settings
  obtain ⟨limit, port⟩ := replaced (nines 4299) (nines_valid _) long
  exact ⟨nines_valid _, long, limit rfl, port rfl⟩

theorem layout_name_refused :
    let settings := { Settings.unset with logLevel := some "BASIC_FORMAT" }
    ¬ IsLevel settings.levelName ∧
      settings.threshold = .error (.unknownName "%(levelname)s:%(name)s:%(message)s") ∧
      ¬ ∃ level, settings.threshold = .ok level := by
  intro settings
  have name : settings.levelName = "BASIC_FORMAT" := by decide +kernel
  have reserved : settings.levelName ∈ reservedNames := by rw [name]; exact List.mem_cons_self
  refine ⟨?_, ?_, fun answered => settings.exists_threshold_iff.mp answered reserved⟩
  next =>
    rw [name]
    simp [IsLevel, levels]
  next => rw [Settings.threshold, name]; rfl

end ReviewDesk
