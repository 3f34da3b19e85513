import Mathlib.Algebra.Order.Ring.Rat
import Mathlib.Tactic.Linarith
import ReviewDesk.Status

set_option autoImplicit false

namespace ReviewDesk.Status

structure Inquiry where
  settings : Settings
  provider : Provider
  time : Rat

structure Exchange where
  inquiry : Inquiry
  status : Status
  calls : List Call

def Exchange.time (exchange : Exchange) : Rat := exchange.inquiry.time

def Exchange.probes (exchange : Exchange) : Bool := exchange.calls.any Call.isConnect

namespace Inquiry

def exchange (inquiry : Inquiry) (cache : StatusCache) : Exchange :=
  let (status, _, calls) := current cache inquiry.settings inquiry.provider (.exact inquiry.time)
  ⟨inquiry, status, calls⟩

def cacheAfter (inquiry : Inquiry) (cache : StatusCache) : StatusCache :=
  (current cache inquiry.settings inquiry.provider (.exact inquiry.time)).2.1

end Inquiry

/-- The inquiries one after the other. The clock may go backwards between two of them. -/
def transcript (cache : StatusCache) : List Inquiry → List Exchange
  | [] => []
  | inquiry :: rest => inquiry.exchange cache :: transcript (inquiry.cacheAfter cache) rest

theorem inquiries_transcript (cache : StatusCache) (inquiries : List Inquiry) :
    (transcript cache inquiries).map (·.inquiry) = inquiries := by
  induction inquiries generalizing cache with
  | nil => rfl
  | cons inquiry rest ih => exact congrArg (inquiry :: ·) (ih _)

section Steps

variable (cache : StatusCache) (settings : Settings) (provider : Provider) (now : Reading)

theorem probe_connects : ∃ status later,
    probe settings provider = (status, probeConnect settings :: later) := by
  cases provider with
  | refuses message => exact ⟨_, [], rfl⟩
  | fails message => exact ⟨_, [probeCall settings], rfl⟩
  | noChoices | replies content => exact ⟨_, [probeCall settings], rfl⟩

theorem exists_of_fresh {status : Status} (fresh : fresh? cache now = some status) :
    ∃ time, cache = some (status, time) := by
  obtain ⟨⟨told, time⟩, remembered, lasting⟩ := Option.bind_eq_some_iff.mp fresh
  obtain ⟨-, same⟩ := Option.ite_none_right_eq_some.mp lasting
  cases same
  exact ⟨time, remembered⟩

theorem current_of_fresh {status : Status} (fresh : fresh? cache now = some status) :
    current cache settings provider now = (status, cache, []) := by
  simp [current, fresh]

theorem current_of_stale (stale : fresh? cache now = none) :
    (∃ reason : String, current cache settings provider now =
      (⟨false, reason, settings.hasKey, settings.modelName⟩, cache, [])) ∨
    current cache settings provider now = ((probe settings provider).1,
      some ((probe settings provider).1, now), (probe settings provider).2) := by
  unfold current
  rw [stale]
  cases keyed : settings.hasKey with
  | true =>
    cases unusableKey? settings.key with
    | some reason => exact .inl ⟨reason, rfl⟩
    | none => exact .inr rfl
  | false => exact .inl ⟨_, rfl⟩

end Steps

section Runs

variable {cache : StatusCache} {inquiry : Inquiry} {inquiries : List Inquiry} {status : Status}
  {time : Rat}

theorem fresh?_exact (status : Status) (time now : Rat) :
    fresh? (some (status, .exact time)) (.exact now) =
      if now - time < 30 then some status else none :=
  if_congr decide_eq_true_iff rfl rfl

theorem exchange_cases (inquiry : Inquiry) (cache : StatusCache) :
    (inquiry.exchange cache).calls = [] ∧ inquiry.cacheAfter cache = cache ∨
      fresh? cache (.exact inquiry.time) = none ∧ (inquiry.exchange cache).probes = true ∧
        inquiry.cacheAfter cache =
          some ((inquiry.exchange cache).status, .exact inquiry.time) := by
  unfold Exchange.probes Inquiry.exchange Inquiry.cacheAfter
  cases fresh : fresh? cache (.exact inquiry.time) with
  | some status =>
    left
    rw [current_of_fresh _ _ _ _ fresh]
    exact ⟨rfl, rfl⟩
  | none =>
    rcases current_of_stale cache inquiry.settings inquiry.provider _ fresh with
      ⟨reason, same⟩ | same
    next =>
      left
      rw [same]
      exact ⟨rfl, rfl⟩
    next =>
      right
      obtain ⟨status, later, probed⟩ := probe_connects inquiry.settings inquiry.provider
      rw [same, probed]
      exact ⟨rfl, rfl, rfl⟩

theorem exchange_of_probe (probes : (inquiry.exchange cache).probes = true) :
    fresh? cache (.exact inquiry.time) = none ∧ inquiry.cacheAfter cache =
      some ((inquiry.exchange cache).status, .exact inquiry.time) := by
  rcases exchange_cases inquiry cache with ⟨quiet, -⟩ | ⟨stale, -, remembered⟩
  next => simp [Exchange.probes, quiet] at probes
  next => exact ⟨stale, remembered⟩

theorem exchange_of_no_probe (quiet : (inquiry.exchange cache).probes = false) :
    inquiry.cacheAfter cache = cache := by
  rcases exchange_cases inquiry cache with ⟨-, kept⟩ | ⟨-, probes, -⟩
  next => exact kept
  next => exact absurd (quiet.symm.trans probes) Bool.false_ne_true

theorem late_of_probe {exchange : Exchange}
    (member : exchange ∈ transcript (some (status, .exact time)) inquiries)
    (probes : exchange.probes = true) : 30 ≤ exchange.time - time := by
  induction inquiries generalizing status time with
  | nil => exact absurd member List.not_mem_nil
  | cons inquiry rest ih =>
    let cache : StatusCache := some (status, .exact time)
    have late (probed : (inquiry.exchange cache).probes = true) : 30 ≤ inquiry.time - time := by
      have stale := (exchange_of_probe probed).1
      rw [fresh?_exact] at stale
      by_contra early
      simp [not_le.mp early] at stale
    rcases List.mem_cons.mp member with here | later
    next =>
      rw [here] at probes ⊢
      exact late probes
    next =>
      by_cases probed : (inquiry.exchange cache).probes = true
      next =>
        -- The probe made here is remembered, and it is late itself.
        rw [(exchange_of_probe probed).2] at later
        have after := ih later
        have := late probed
        linarith
      next =>
        rw [exchange_of_no_probe (Bool.not_eq_true _ ▸ probed)] at later
        exact ih later

theorem probes_apart (cache : StatusCache) (inquiries : List Inquiry) :
    (transcript cache inquiries).Pairwise fun first second =>
      first.probes = true → second.probes = true → 30 ≤ second.time - first.time := by
  induction inquiries generalizing cache with
  | nil => exact List.Pairwise.nil
  | cons inquiry rest ih =>
    refine List.pairwise_cons.mpr ⟨?_, ih _⟩
    intro second later probed probes
    rw [(exchange_of_probe probed).2] at later
    exact late_of_probe later probes

theorem answer_of_remembered {between after : List Exchange} {second : Exchange}
    (split : transcript (some (status, .exact time)) inquiries = between ++ second :: after)
    (quiet : ∀ other ∈ between, other.probes = false) (early : second.time - time < 30) :
    second.calls = [] ∧ second.status = status := by
  induction between generalizing inquiries with
  | nil =>
    cases inquiries with
    | nil => simp [transcript] at split
    | cons inquiry rest =>
      obtain ⟨rfl, -⟩ := List.cons.inj split
      have fresh : fresh? (some (status, .exact time)) (.exact inquiry.time) = some status := by
        rw [fresh?_exact]
        exact if_pos early
      have same := current_of_fresh _ inquiry.settings inquiry.provider _ fresh
      simp [Inquiry.exchange, same]
  | cons first between ih =>
    cases inquiries with
    | nil => simp [transcript] at split
    | cons inquiry rest =>
      obtain ⟨none, others⟩ := List.forall_mem_cons.mp quiet
      obtain ⟨rfl, inside⟩ := List.cons.inj split
      rw [exchange_of_no_probe none] at inside
      exact ih inside others

theorem exists_remembered {before rest : List Exchange} {first : Exchange}
    (split : transcript cache inquiries = before ++ first :: rest) (probed : first.probes = true) :
    ∃ later, rest = transcript (some (first.status, .exact first.time)) later := by
  induction before generalizing cache inquiries with
  | nil =>
    cases inquiries with
    | nil => simp [transcript] at split
    | cons inquiry later =>
      obtain ⟨rfl, inside⟩ := List.cons.inj split
      rw [(exchange_of_probe probed).2] at inside
      exact ⟨later, inside.symm⟩
  | cons other before ih =>
    cases inquiries with
    | nil => simp [transcript] at split
    | cons inquiry later => exact ih (List.cons.inj split).2

end Runs

theorem transcript_spaced (cache : StatusCache) (inquiries : List Inquiry) :
    (transcript cache inquiries).map (·.inquiry) = inquiries ∧
    (transcript cache inquiries).Pairwise (fun first second =>
      first.probes = true → second.probes = true → 30 ≤ second.time - first.time) ∧
    ∀ (before between after : List Exchange) (first second : Exchange),
      transcript cache inquiries = before ++ first :: (between ++ second :: after) →
      first.probes = true → (∀ other ∈ between, other.probes = false) →
      second.time - first.time < 30 →
        second.calls = [] ∧ second.status = first.status := by
  refine ⟨inquiries_transcript cache inquiries, probes_apart cache inquiries, ?_⟩
  intro before between after first second split probed quiet early
  obtain ⟨later, remembered⟩ := exists_remembered split probed
  exact answer_of_remembered remembered.symm quiet early

def keyed : Settings := { Settings.unset with apiKey := some "sk-test-key-123456" }

def inquiries : List Inquiry := [⟨keyed, .fails "timeout", 100⟩, ⟨.unset, .noChoices, 50⟩,
  ⟨keyed, .noChoices, 129⟩, ⟨keyed, .noChoices, 130⟩]

-- The second look answers from the cache as well, so the third one still finds the first probe.
theorem failure_kept_until_late : ∃ first second third fourth : Exchange,
    transcript none inquiries = [first, second, third, fourth] ∧
      first.probes = true ∧ first.status.available = false ∧
      third.calls = [] ∧ third.status = first.status ∧
      fourth.probes = true ∧ 30 ≤ fourth.time - first.time := by
  obtain ⟨-, apart, kept⟩ := transcript_spaced none inquiries
  refine ⟨_, _, _, _, rfl, by decide +kernel, by decide +kernel, ?_⟩
  obtain ⟨silent, same⟩ := kept [] [_] [_] _ _ rfl (by decide +kernel) (by decide +kernel)
    (by decide +kernel)
  refine ⟨silent, same, by decide +kernel, ?_⟩
  have spaced := (List.pairwise_cons.mp apart).1 _ (.tail _ (.tail _ (.head _)))
  exact spaced (by decide +kernel) (by decide +kernel)

end ReviewDesk.Status
