import ReviewDesk.Proofs.Review.Answers
import ReviewDesk.Proofs.Status.Probes

set_option autoImplicit false

namespace ReviewDesk

theorem assess_of_keyless {settings : Settings} (keyless : settings.hasKey = false)
    (provider : Provider) (code language : Text.CodePoints) :
    (assess settings provider code language true).calls = [] ∧
      (assess settings provider code language true).result =
        .ok (Heuristic.assess code language Heuristic.fallbackExplanation) := by
  simp [assess, Provider.review, keyless, AskFailure.warning?]

namespace Status

structure Look where
  provider : Provider
  status : Status
  calls : List Call

namespace Look

def probes (look : Look) : Bool := look.calls.any Call.isConnect

def Completed (look : Look) : Prop :=
  (∃ completion, .complete completion ∈ look.calls) ∧
    ∀ message, look.provider ≠ .fails message

end Look

def lookAt (cache : StatusCache) (settings : Settings) (provider : Provider) (now : Reading) :
    Look :=
  let (status, _, calls) := current cache settings provider now
  ⟨provider, status, calls⟩

def cacheAfter (cache : StatusCache) (settings : Settings) (provider : Provider) (now : Reading) :
    StatusCache := (current cache settings provider now).2.1

/-- What is remembered after all looks until now. Each of them may meet other settings, and the
clock may show anything; between two of them the status may be forgotten. -/
inductive Reached : StatusCache → List Look → Prop where
  | start : Reached none []
  | forget {cache : StatusCache} {history : List Look} (reached : Reached cache history) :
      Reached none history
  | look {cache : StatusCache} {history : List Look} (reached : Reached cache history)
      (settings : Settings) (provider : Provider) (now : Reading) :
      Reached (cacheAfter cache settings provider now)
        (history ++ [lookAt cache settings provider now])

def LastProbe (history : List Look) (probe : Look) : Prop :=
  ∃ before quiet, history = before ++ probe :: quiet ∧ probe.probes = true ∧
    ∀ look ∈ quiet, look.probes = false

section Histories

variable {history : List Look} {last look : Look}

theorem lastProbe_concat (probes : look.probes = true) : LastProbe (history ++ [look]) look :=
  ⟨history, [], rfl, probes, by simp⟩

theorem LastProbe.concat (known : LastProbe history last) (silent : look.calls = []) :
    LastProbe (history ++ [look]) last := by
  obtain ⟨before, quiet, rfl, probes, others⟩ := known
  refine ⟨before, quiet ++ [look], by simp, probes, ?_⟩
  intro other member
  rcases List.mem_append.mp member with old | new
  next => exact others other old
  next => simp [List.mem_singleton.mp new, Look.probes, silent]

end Histories

section Steps

variable (cache : StatusCache) (settings : Settings) (provider : Provider) (now : Reading)

theorem keySet_probe : (probe settings provider).1.keySet = true := by
  cases provider <;> rfl

theorem completed_of_available (available : (probe settings provider).1.available = true) :
    Look.Completed ⟨provider, (probe settings provider).1, (probe settings provider).2⟩ := by
  cases provider with
  | refuses message | fails message => cases available
  | noChoices | replies content => exact ⟨⟨_, .tail _ (.head _)⟩, nofun⟩

theorem look_cases :
    let look := lookAt cache settings provider now
    let later := cacheAfter cache settings provider now
    (look.calls = [] ∧ later = cache ∧ ∃ time, cache = some (look.status, time)) ∨
    (look.calls = [] ∧ later = cache ∧ look.status.available = false ∧
      look.status.keySet = settings.hasKey) ∨
    (look.probes = true ∧ later = some (look.status, now) ∧ look.status.keySet = true ∧
      (look.status.available = true → look.Completed)) := by
  unfold lookAt cacheAfter
  cases fresh : fresh? cache now with
  | some status =>
    left
    rw [current_of_fresh _ _ _ _ fresh]
    exact ⟨rfl, rfl, exists_of_fresh cache now fresh⟩
  | none =>
    right
    rcases current_of_stale cache settings provider now fresh with ⟨reason, same⟩ | same
    next =>
      left
      rw [same]
      exact ⟨rfl, rfl, rfl, rfl⟩
    next =>
      right
      obtain ⟨status, later, probed⟩ := probe_connects settings provider
      rw [same]
      refine ⟨?_, rfl, keySet_probe settings provider, completed_of_available settings provider⟩
      simp [Look.probes, probed, probeConnect, Call.isConnect]

end Steps

def Backed (history : List Look) (status : Status) : Prop :=
  status.keySet = true ∧
    (status.available = true → ∃ last, LastProbe history last ∧ last.Completed)

theorem Backed.concat {history : List Look} {status : Status} {look : Look}
    (backed : Backed history status) (silent : look.calls = []) :
    Backed (history ++ [look]) status := by
  obtain ⟨keyed, completed⟩ := backed
  refine ⟨keyed, ?_⟩
  intro available
  obtain ⟨last, known, answered⟩ := completed available
  exact ⟨last, known.concat silent, answered⟩

theorem Backed.of_probe {history : List Look} {look : Look} (probes : look.probes = true)
    (keyed : look.status.keySet = true)
    (completed : look.status.available = true → look.Completed) :
    Backed (history ++ [look]) look.status :=
  ⟨keyed, fun available => ⟨look, lastProbe_concat probes, completed available⟩⟩

-- A cached status stays backed as long as looks are silent, and a probe backs its own.
theorem Reached.backed {cache : StatusCache} {history : List Look}
    (reached : Reached cache history) :
    ∀ status time, cache = some (status, time) → Backed history status := by
  induction reached with
  | start => intro status time remembered; cases remembered
  | forget => intro status time remembered; cases remembered
  | @look cache history _ settings provider now ih =>
    intro status time remembered
    rcases look_cases cache settings provider now with
      ⟨silent, same, -⟩ | ⟨silent, same, -⟩ | ⟨probes, renewed, keyed, completed⟩
    next => exact (ih status time (same ▸ remembered)).concat silent
    next => exact (ih status time (same ▸ remembered)).concat silent
    next =>
      rw [renewed] at remembered
      cases remembered
      exact .of_probe probes keyed completed

theorem Reached.backed_or_unprobed {cache : StatusCache} {history : List Look}
    (reached : Reached cache history) (settings : Settings) (provider : Provider)
    (now : Reading) :
    let look := lookAt cache settings provider now
    Backed (history ++ [look]) look.status ∨
      look.status.available = false ∧ look.status.keySet = settings.hasKey := by
  rcases look_cases cache settings provider now with
    ⟨silent, -, time, remembered⟩ | ⟨-, -, known⟩ | ⟨probes, -, keyed, completed⟩
  next => exact .inl ((reached.backed _ _ remembered).concat silent)
  next => exact .inr known
  next => exact .inl (.of_probe probes keyed completed)

theorem status_agrees {cache : StatusCache} {history : List Look}
    (reached : Reached cache history) (settings : Settings) (provider : Provider)
    (now : Reading) :
    let look := lookAt cache settings provider now
    (look.status.keySet = false →
      ∀ (other : Provider) (submission : Submission),
        let outcome := assess settings other submission.code submission.language true
        outcome.calls = [] ∧ outcome.result =
          .ok { check submission with explanation := Heuristic.fallbackExplanation }) ∧
    (look.status.available = true → look.status.keySet = true ∧
      ∃ last, LastProbe (history ++ [look]) last ∧ last.Completed) := by
  rcases reached.backed_or_unprobed settings provider now with
    ⟨keyed, completed⟩ | ⟨unavailable, same⟩
  next =>
    refine ⟨?_, fun available => ⟨keyed, completed available⟩⟩
    intro keyless
    rw [keyed] at keyless
    cases keyless
  next =>
    constructor
    next =>
      intro keyless other submission
      exact assess_of_keyless (same ▸ keyless) other submission.code submission.language
    next =>
      intro available
      rw [unavailable] at available
      cases available

theorem keyless_after_available : ∃ cache history,
    Reached cache history ∧
    (lookAt cache .unset (.fails "boom") (.exact 29)).status.available = true ∧
    (∃ last, LastProbe (history ++ [lookAt cache .unset (.fails "boom") (.exact 29)]) last ∧
      last.Completed) ∧
    (lookAt cache .unset (.fails "boom") (.exact 30)).status.keySet = false ∧
    (assess .unset (.replies (some "fine")) "x = 1" "python" true).calls = [] ∧
    (assess .unset (.replies (some "fine")) "x = 1" "python" true).result =
      .ok { check ⟨"x = 1", "python", true⟩ with
        explanation := Heuristic.fallbackExplanation } := by
  have reached : Reached _ _ := .look .start keyed .noChoices (.exact 0)
  have available : (lookAt (cacheAfter none keyed .noChoices (.exact 0)) .unset (.fails "boom")
      (.exact 29)).status.available = true := by decide +kernel
  have keyless : (lookAt (cacheAfter none keyed .noChoices (.exact 0)) .unset (.fails "boom")
      (.exact 30)).status.keySet = false := by decide +kernel
  obtain ⟨-, answered⟩ := status_agrees reached .unset (.fails "boom") (.exact 29)
  obtain ⟨silent, -⟩ := status_agrees reached .unset (.fails "boom") (.exact 30)
  obtain ⟨quiet, same⟩ := silent keyless (.replies (some "fine")) ⟨"x = 1", "python", true⟩
  exact ⟨_, _, reached, available, (answered available).2, keyless, quiet, same⟩

end Status

end ReviewDesk
