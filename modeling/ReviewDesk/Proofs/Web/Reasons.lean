import ReviewDesk.Proofs.Status.Probes
import ReviewDesk.Proofs.Web.Sending
import ReviewDesk.Proofs.Web.Visits

set_option autoImplicit false

namespace ReviewDesk

open Text

def Provider.IsLegible : Provider → Prop
  | .refuses message | .fails message => IsWhole message
  | .noChoices | .replies _ => True

namespace Status

theorem isWhole_failureReason {message : CodePoints} (whole : IsWhole message) :
    IsWhole (failureReason message) := by
  unfold failureReason
  split_ifs
  next => exact isWhole_ofString _
  next => exact isWhole_ofString _
  next => exact (isWhole_append _ _).mpr ⟨isWhole_ofString _, whole.take 100⟩

theorem isWhole_probe (settings : Settings) {provider : Provider} (legible : provider.IsLegible) :
    IsWhole (probe settings provider).1.reason := by
  cases provider with
  | refuses message | fails message => exact isWhole_failureReason legible
  | noChoices | replies content => exact isWhole_ofString _

def IsLegibleCache (cache : StatusCache) : Prop :=
  ∀ status time, cache = some (status, time) → IsWhole status.reason

theorem isWhole_current {cache : StatusCache} (settings : Settings) {provider : Provider}
    (now : Reading) (legible : provider.IsLegible) (known : IsLegibleCache cache) :
    IsWhole (current cache settings provider now).1.reason ∧
      IsLegibleCache (current cache settings provider now).2.1 := by
  cases fresh : fresh? cache now with
  | some status =>
    obtain ⟨time, remembered⟩ := exists_of_fresh cache now fresh
    rw [current_of_fresh _ _ _ _ fresh]
    exact ⟨known _ time remembered, known⟩
  | none =>
    rcases current_of_stale cache settings provider now fresh with ⟨reason, same⟩ | same
    next =>
      rw [same]
      exact ⟨isWhole_ofString reason, known⟩
    next =>
      have told := isWhole_probe settings legible
      rw [same]
      refine ⟨told, ?_⟩
      intro status time remembered
      cases remembered
      exact told

end Status

namespace Web.Desk

variable {desk : Desk}

theorem legible_after {visits : List Visit} (known : Status.IsLegibleCache desk.status)
    (legible : ∀ visit ∈ visits, visit.around.provider.IsLegible) :
    Status.IsLegibleCache (desk.after visits).status := by
  induction visits generalizing desk with
  | nil => exact known
  | cons visit rest ih =>
    obtain ⟨first, others⟩ := List.forall_mem_cons.mp legible
    have told := Status.isWhole_current visit.around.settings visit.around.now first known
    rw [after_cons]
    refine ih ?_ others
    rcases looked_or_reviews desk visit with (same | looked) | ⟨language, result, reviews⟩
    next => rwa [same]
    next =>
      rw [looked]
      exact told.2
    next =>
      -- The result is shelved before the status is looked at, which sees nothing of the shelf.
      rw [handle_of_reviews desk reviews]
      exact told.2

theorem isWhole_reason {visits : List Visit} {visit : Visit}
    (legible : ∀ other ∈ visits ++ [visit], other.around.provider.IsLegible) :
    IsWhole ((empty.after visits).currentStatus visit.around).1.reason := by
  rw [List.forall_mem_append, List.forall_mem_singleton] at legible
  have known : Status.IsLegibleCache (empty.after visits).status :=
    legible_after (fun _ _ remembered => nomatch remembered) legible.1
  exact (Status.isWhole_current visit.around.settings visit.around.now legible.2 known).1

end Web.Desk

end ReviewDesk
