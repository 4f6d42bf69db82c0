import Mathlib.Algebra.Group.Nat.Defs
import TileIndex.Proofs.Store.Transcript

/-!
# Reservations of blobs

Blobs are numbered as they are reserved, and a number that was given out is never given out again,
whatever has been released in between. A blob is held from when it is reserved until it is released,
which happens at most once and has no part in what becomes of other blobs.

## Main statements

- `Store.handling`: a command reserves a blob, releases one, or has nothing to do with them.
- `Store.Stocked.run`: a store holds what the transcript reserves and does not release.
- `Store.inventory_run`: blobs are reserved under new numbers and released at most once.
-/

namespace TileIndex.Store

/-! ## Reservations and releases -/

/-- The blob that a command has reserved. -/
def reservation? : Command × Except Refusal (Option Int32) → Option BlobId
  | (.reserveBlob, .ok (some b)) => some b
  | _ => none

/-- The blob that a command has released. -/
def release? : Command × Except Refusal (Option Int32) → Option BlobId
  | (.releaseBlob b, .ok _) => some b
  | _ => none

/-- The blobs that a transcript reserves, in order. -/
def reservations (log : Transcript) : List BlobId := log.filterMap reservation?

/-- The blobs that a transcript releases, in order. -/
def releases (log : Transcript) : List BlobId := log.filterMap release?

theorem reservations_concat (log : Transcript) (e : Command × Except Refusal (Option Int32)) :
    reservations (log ++ [e]) = reservations log ++ (reservation? e).toList :=
  filterMap_concat reservation? log e

theorem releases_concat (log : Transcript) (e : Command × Except Refusal (Option Int32)) :
    releases (log ++ [e]) = releases log ++ (release? e).toList :=
  filterMap_concat release? log e

/-! ## What one command does about blobs -/

/-- What a command and its result tell of blobs, and what becomes of those that a store holds. -/
inductive Handling (s : Store) (e : Command × Except Refusal (Option Int32)) (s' : Store) : Prop
  | still (reserves : reservation? e = none) (releases : release? e = none)
      (held : s'.reserved = s.reserved) (next : s'.nextBlob = s.nextBlob)
  | reserved (reserves : reservation? e = some s.nextBlob) (releases : release? e = none)
      (held : s'.reserved = s.reserved.insert s.nextBlob ())
      (next : successor? s.nextBlob = some s'.nextBlob)
  | released {b : BlobId} (reserves : reservation? e = none) (releases : release? e = some b)
      (was : s.reserved.contains b = true) (held : s'.reserved = s.reserved.erase b)
      (next : s'.nextBlob = s.nextBlob)

variable {s s' : Store} {log : Transcript} {b : BlobId}

/-- **A command reserves a blob, releases one, or has nothing to do with them.** -/
theorem handling (s : Store) (c : Command) : Handling s (c, (s.perform c).1) (s.perform c).2 := by
  rcases s.perform_cases c with ⟨result, hresult, he⟩ | ⟨r, hr⟩
  · rw [hresult]
    generalize (s.perform c).2 = s' at he ⊢
    cases he with
    | reserved next => exact .reserved rfl rfl rfl next
    | released held => exact .released rfl rfl held rfl rfl
    | _ => exact .still rfl rfl rfl rfl
  · -- a refused command neither reserves a blob nor releases one
    rw [hr]
    cases c <;> exact .still rfl rfl rfl rfl

/-! ## What is held -/

/-- A store holds the blobs that a transcript reserves and does not release. They are numbered in
    the order of their reservations, and each was released at most once. -/
structure Stocked (log : Transcript) (s : Store) : Prop where
  counted : s.nextBlob.toInt = (reservations log).length
  ascending : (reservations log).Pairwise (· < ·)
  below : ∀ b ∈ reservations log, 0 ≤ b ∧ b < s.nextBlob
  held : ∀ b, s.reserved.contains b = true ↔ b ∈ reservations log ∧ b ∉ releases log
  reservedFirst : ∀ b ∈ releases log, b ∈ reservations log
  releasedOnce : (releases log).Nodup

/-- A new store holds nothing. -/
theorem Stocked.new (header : Plate.Header) (shortName fullName : String) :
    Stocked [] (Store.new header shortName fullName) where
  counted := rfl
  ascending := List.Pairwise.nil
  below b hb := by simp [reservations] at hb
  held b := by simp [Store.new, SortedMap.contains, reservations]
  reservedFirst b hb := by simp [releases] at hb
  releasedOnce := List.nodup_nil

theorem Stocked.nextBlob_nonneg (h : Stocked log s) : 0 ≤ s.nextBlob := by
  rw [Int32.le_iff_toInt_le, h.counted]
  exact Int.natCast_nonneg _

theorem Stocked.nextBlob_notMem (h : Stocked log s) : s.nextBlob ∉ reservations log :=
  fun hmem => Int32.lt_irrefl (h.below _ hmem).2

/-- A command that has nothing to do with blobs keeps the account. -/
theorem Stocked.still (h : Stocked log s) {e : Command × Except Refusal (Option Int32)}
    (hreserves : reservation? e = none) (hreleases : release? e = none)
    (hheld : s'.reserved = s.reserved) (hnext : s'.nextBlob = s.nextBlob) :
    Stocked (log ++ [e]) s' := by
  have hreserved : reservations (log ++ [e]) = reservations log := by
    simp [reservations_concat, hreserves]
  have hreleased : releases (log ++ [e]) = releases log := by
    simp [releases_concat, hreleases]
  constructor
  · rw [hreserved, hnext, h.counted]
  · rw [hreserved]
    exact h.ascending
  · rw [hreserved, hnext]
    exact h.below
  · rw [hreserved, hreleased, hheld]
    exact h.held
  · rw [hreserved, hreleased]
    exact h.reservedFirst
  · rw [hreleased]
    exact h.releasedOnce

/-- So does a reservation, whose number is new. -/
theorem Stocked.reserve (h : Stocked log s) {e : Command × Except Refusal (Option Int32)}
    (hreserves : reservation? e = some s.nextBlob) (hreleases : release? e = none)
    (hheld : s'.reserved = s.reserved.insert s.nextBlob ())
    (hnext : successor? s.nextBlob = some s'.nextBlob) : Stocked (log ++ [e]) s' := by
  have hreserved : reservations (log ++ [e]) = reservations log ++ [s.nextBlob] := by
    rw [reservations_concat, hreserves]
    rfl
  have hreleased : releases (log ++ [e]) = releases log := by
    simp [releases_concat, hreleases]
  have hlt : s.nextBlob < s'.nextBlob := lt_of_successor? hnext
  constructor
  · -- the count goes up by one
    rw [hreserved, toInt_of_successor? hnext, h.counted]
    simp
  · rw [hreserved]
    exact pairwise_concat h.ascending fun i hi => (h.below i hi).2
  · intro j hj
    rw [hreserved] at hj
    rcases List.mem_append.1 hj with hold | hnew
    · exact ⟨(h.below j hold).1, Int32.lt_trans (h.below j hold).2 hlt⟩
    · obtain rfl := List.mem_singleton.1 hnew
      exact ⟨h.nextBlob_nonneg, hlt⟩
  · intro j
    rw [hreserved, hreleased, hheld, SortedMap.contains_insert]
    by_cases hj : j = s.nextBlob
    · -- what was never reserved was never released
      have hnever : j ∉ releases log := by
        intro hmem
        exact h.nextBlob_notMem (hj ▸ h.reservedFirst j hmem)
      simp [hj ▸ hnever, hj]
    · simp [hj, h.held]
  · intro j hj
    rw [hreleased] at hj
    rw [hreserved]
    exact List.mem_append_left _ (h.reservedFirst j hj)
  · rw [hreleased]
    exact h.releasedOnce

/-- So does a release, of a blob that is held. -/
theorem Stocked.release (h : Stocked log s) {e : Command × Except Refusal (Option Int32)}
    (hreserves : reservation? e = none) (hreleases : release? e = some b)
    (hwas : s.reserved.contains b = true) (hheld : s'.reserved = s.reserved.erase b)
    (hnext : s'.nextBlob = s.nextBlob) : Stocked (log ++ [e]) s' := by
  have hreserved : reservations (log ++ [e]) = reservations log := by
    simp [reservations_concat, hreserves]
  have hreleased : releases (log ++ [e]) = releases log ++ [b] := by
    rw [releases_concat, hreleases]
    rfl
  -- a blob that is held was reserved, and has not been released yet
  obtain ⟨hbefore, hnotYet⟩ := (h.held b).1 hwas
  constructor
  · rw [hreserved, hnext, h.counted]
  · rw [hreserved]
    exact h.ascending
  · rw [hreserved, hnext]
    exact h.below
  · intro j
    rw [hreserved, hreleased, hheld, SortedMap.contains_erase]
    by_cases hj : j = b
    · -- the blob that is released is not held any more
      simp [hj]
    · simp [hj, h.held]
  · intro j hj
    rw [hreleased] at hj
    rw [hreserved]
    rcases List.mem_append.1 hj with hold | hnew
    · exact h.reservedFirst j hold
    · rw [List.mem_singleton.1 hnew]
      exact hbefore
  · rw [hreleased]
    exact pairwise_concat h.releasedOnce fun i hi e => hnotYet (e ▸ hi)

/-- So does every command. -/
theorem Stocked.handling (h : Stocked log s) {e : Command × Except Refusal (Option Int32)}
    (p : Handling s e s') : Stocked (log ++ [e]) s' := by
  cases p with
  | still reserves releases held next => exact h.still reserves releases held next
  | reserved reserves releases held next => exact h.reserve reserves releases held next
  | released reserves releases was held next => exact h.release reserves releases was held next

/-- What a store holds after a run is what the transcript of the run tells. -/
theorem Stocked.run (h : Stocked log s) (cs : List Command) :
    Stocked (log ++ s.transcript cs) (s.run cs) :=
  transcript_induction (fun {_ s} c h => h.handling (s.handling c)) h cs

/-! ## Inventories -/

/-- A blob can be released exactly if it is held. -/
theorem exists_releaseBlob_iff :
    (∃ s', s.releaseBlob b = .ok s') ↔ s.reserved.contains b = true := by
  unfold releaseBlob
  cases s.reserved.contains b <;> simp

/-- The release of any other is refused. -/
theorem releaseBlob_of_not_held (h : s.reserved.contains b = false) :
    s.releaseBlob b = .error (.blobNotReserved b) := by
  rw [releaseBlob, h]
  rfl

/-- A release takes its blob away, and no other. -/
theorem reserved_of_releaseBlob (h : s.releaseBlob b = .ok s') :
    s'.reserved = s.reserved.erase b := by
  have he := effect_of_releaseBlob h
  cases he with
  | released held => rfl

theorem eq_nextBlob_of_reserveBlob (h : s.reserveBlob = .ok (b, s')) : b = s.nextBlob := by
  have he := effect_of_reserveBlob h
  cases he with
  | reserved next => rfl

/-- A blob can be reserved as long as the next number has a successor. -/
theorem exists_reserveBlob_iff :
    (∃ b s', s.reserveBlob = .ok (b, s')) ↔ s.nextBlob ≠ Int32.maxValue := by
  rw [ne_eq, ← successor?_eq_none_iff]
  unfold reserveBlob
  cases successor? s.nextBlob <;> simp

/-- What can be said of blobs when `log` is the transcript of all that was done to a store. -/
structure Inventory (log : Transcript) (s : Store) : Prop where
  /-- Each reservation has a greater number than all before it, and none is negative. -/
  ascending : (reservations log).Pairwise (· < ·) ∧ ∀ b ∈ reservations log, 0 ≤ b
  /-- The next one will have a greater number than all so far, the released ones among them. -/
  fresh : ∀ b s', s.reserveBlob = .ok (b, s') → ∀ i ∈ reservations log, i < b
  /-- A reservation is granted as long as there are numbers left. -/
  granted : (∃ b s', s.reserveBlob = .ok (b, s')) ↔ (reservations log).length < 2 ^ 31 - 1
  /-- A blob can be released if it was reserved and has not been released, and only then. -/
  releasable : ∀ b, (∃ s', s.releaseBlob b = .ok s') ↔ b ∈ reservations log ∧ b ∉ releases log
  /-- Otherwise the release is refused as one of something not found. -/
  notFound : ∀ b, ¬ (b ∈ reservations log ∧ b ∉ releases log) →
    ∃ r : Refusal, r.kind = .notFound ∧ s.releaseBlob b = .error r
  /-- No blob was released twice. -/
  once : (releases log).Nodup
  /-- To release a blob does not change whether another one can be released. -/
  apart : ∀ b s', s.releaseBlob b = .ok s' → ∀ j, j ≠ b →
    ((∃ s'', s'.releaseBlob j = .ok s'') ↔ ∃ s'', s.releaseBlob j = .ok s'')
  /-- The blobs that are held are those that were reserved and have not been released. -/
  held : ∀ b, b ∈ s.reserved.keys ↔ b ∈ reservations log ∧ b ∉ releases log

/-- **Blobs are reserved under new numbers and released at most once.** After any run of a new
    plate. -/
theorem inventory_run (header : Plate.Header) (shortName fullName : String) (cs : List Command) :
    let s := Store.new header shortName fullName
    Inventory (s.transcript cs) (s.run cs) := by
  intro s
  have h : Stocked (s.transcript cs) (s.run cs) := (Stocked.new header shortName fullName).run cs
  constructor
  case ascending => exact ⟨h.ascending, fun b hb => (h.below b hb).1⟩
  case fresh =>
    intro b s' hb i hi
    rw [eq_nextBlob_of_reserveBlob hb]
    exact (h.below i hi).2
  case granted =>
    -- numbers are counted from zero, so the count says when they end
    have hmax : Int32.maxValue.toInt = 2 ^ 31 - 1 := Int32.toInt_maxValue
    have hle := Int32.le_iff_toInt_le.1 (Int32.le_maxValue (s.run cs).nextBlob)
    have hcounted := h.counted
    rw [exists_reserveBlob_iff, ne_eq, ← Int32.toInt_inj]
    omega
  case releasable =>
    intro b
    rw [exists_releaseBlob_iff, h.held]
  case notFound =>
    intro b hb
    rw [← h.held, Bool.not_eq_true] at hb
    exact ⟨.blobNotReserved b, rfl, releaseBlob_of_not_held hb⟩
  case once => exact h.releasedOnce
  case apart =>
    intro b s' hb j hj
    rw [exists_releaseBlob_iff, exists_releaseBlob_iff, reserved_of_releaseBlob hb,
      SortedMap.contains_erase]
    simp [hj]
  case held =>
    intro b
    rw [← SortedMap.contains_iff_mem_keys, h.held]

/-- A blob that was released is not given out again, and cannot be released again. -/
example :
    let s := Store.new (.unassigned 256 "png" .rgba .uint8) "mars" "/plates/mars"
    let cs : List Command := [.reserveBlob, .reserveBlob, .releaseBlob 1, .reserveBlob,
      .releaseBlob 1, .releaseBlob (-1), .releaseBlob 0]
    reservations (s.transcript cs) = [0, 1, 2] ∧ releases (s.transcript cs) = [1, 0] ∧
      (s.run cs).reserved.keys = [2] :=
  ⟨rfl, rfl, rfl⟩

end TileIndex.Store
