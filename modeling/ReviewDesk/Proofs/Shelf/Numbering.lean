import ReviewDesk.Proofs.Clock.Elapsed
import ReviewDesk.Proofs.Json.Text
import ReviewDesk.Proofs.Shelf.History

set_option autoImplicit false

namespace ReviewDesk.Shelf

open Text

def hexValue (digits : List Char) : Nat :=
  digits.foldl (fun n c => 16 * n + (hexDigit? c).getD 0) 0

theorem hexValue_concat (digits : List Char) {d : Nat} (digit : d < 16) :
    hexValue (digits ++ [d.digitChar]) = 16 * hexValue digits + d := by
  rw [hexValue, List.foldl_append, List.foldl_cons, List.foldl_nil,
    Json.hexDigit?_digitChar d digit]
  rfl

theorem hexValue_toDigits (n : Nat) : hexValue (Nat.toDigits 16 n) = n := by
  induction n using Nat.strongRecOn with
  | ind n ih =>
    by_cases single : n < 16
    next =>
      have last := hexValue_concat [] single
      rw [Nat.toDigits_of_lt_base single]
      simpa [hexValue] using last
    next =>
      rw [Nat.toDigits_of_base_le (by decide) (not_lt.mp single),
        hexValue_concat _ (Nat.mod_lt n (by decide)), ih (n / 16) (by omega)]
      omega

theorem hexValue_hex (width n : Nat) : hexValue (hex width n) = n := by
  have zeros (count : Nat) (digits : List Char) :
      hexValue (List.replicate count '0' ++ digits) = hexValue digits := by
    induction count with
    | zero => rfl
    | succ count ih =>
      rw [List.replicate_succ, List.cons_append, ← ih]
      rfl
  rw [hex, zeros, hexValue_toDigits]

theorem reportId_injective : Function.Injective reportId := by
  intro m n same
  have digits := congrArg (hexValue ·.toList) same
  simpa [reportId, hexValue_hex] using digits

structure Numbered (shelf : Shelf) : Prop where
  distinct : shelf.ids.Nodup
  issued : ∀ id ∈ shelf.ids, ∃ n ≤ shelf.issued, id = reportId n

theorem numbered_empty : empty.Numbered := ⟨List.nodup_nil, fun _ member => by cases member⟩

variable {shelf : Shelf} {id language : String} {result : Assessment} {now : Reading}
  {report : ShelvedReport}

theorem ids_store (shelf : Shelf) (language : String) (result : Assessment) (now : Reading) :
    (shelf.store language result now).2.ids =
      (shelf.prune now).ids ++ [reportId (shelf.issued + 1)] := by
  simp [store, storeAs, ids]

theorem Numbered.next_not_mem (numbered : shelf.Numbered) :
    reportId (shelf.issued + 1) ∉ shelf.ids := by
  intro taken
  obtain ⟨n, given, same⟩ := numbered.issued _ taken
  have := reportId_injective same
  omega

theorem Numbered.store (numbered : shelf.Numbered) (language : String) (result : Assessment)
    (now : Reading) : (shelf.store language result now).2.Numbered := by
  have pruned : (shelf.prune now).ids.Sublist shelf.ids := List.filter_sublist.map _
  constructor
  next =>
    rw [ids_store, List.nodup_append]
    refine ⟨numbered.distinct.sublist pruned, by simp, ?_⟩
    intro other old fresh new same
    rw [List.mem_singleton.mp new] at same
    exact numbered.next_not_mem (same ▸ pruned.subset old)
  next =>
    intro id member
    rw [ids_store, List.mem_append, List.mem_singleton] at member
    rcases member with old | rfl
    next =>
      obtain ⟨n, given, same⟩ := numbered.issued id (pruned.subset old)
      exact ⟨n, Nat.le_succ_of_le given, same⟩
    next => exact ⟨_, le_rfl, rfl⟩

theorem mem_store (shelf : Shelf) (language : String) (result : Assessment) (now : Reading) :
    (reportId (shelf.issued + 1), ⟨language, result, now⟩) ∈
      (shelf.store language result now).2.reports := by
  simp [store, storeAs]

theorem mem_store_of_mem (shelved : (id, report) ∈ shelf.reports)
    (fresh : isExpired report now = false) :
    (id, report) ∈ (shelf.store language result now).2.reports := by
  simp [store, storeAs, prune, shelved, fresh]

theorem isExpired_of_recent {later : Reading} (stored : report.storedAt.NotAfter later)
    (ordered : now.NotAfter later)
    (recent : (later.since report.storedAt).lessThan lifetime = true) :
    isExpired report now = false := by
  have moderate : lifetime ≤ Number.pow2 1023 :=
    le_trans (by decide +kernel) (Number.pow2_le_pow2_iff.mpr (by decide : (9 : Int) ≤ 1023))
  exact Reading.atLeast_of_lessThan
    (Reading.lessThan_since_mono (by decide +kernel) moderate stored ordered recent)

end ReviewDesk.Shelf
