import Mathlib.Algebra.Order.Floor.Div
import Mathlib.Order.Bounds.Defs
import TileIndex.Proofs.Words
import TileIndex.Settings

/-!
# Timeouts

A reply timeout is kept in milliseconds. A length of time is rounded up to these, so a timeout is
never shorter than what was asked for, unless that is longer than the greatest number of
milliseconds. Rounding up is a lower adjoint of reading back: a number of milliseconds is enough if
and only if it is not below the rounded one.

## Main statements

- `Duration.ceilMillis_le_iff`: which numbers of milliseconds are enough.
- `Duration.ceilMillis_ofMillis`: whole milliseconds are kept.
- `Settings.waits_withReplyTimeout`: a timeout that is set is long enough, and no longer than it
  must be.
-/

namespace TileIndex

namespace Duration

variable {d d' : Duration} {ms : UInt64}

/-! ## Lengths -/

theorem toNanos_eq_zero_iff : d.toNanos = 0 ↔ d = zero := by
  obtain ⟨seconds, nanos, hnanos⟩ := d
  have hzero : seconds.toNat = 0 ↔ seconds = 0 := UInt64.toNat_inj (b := 0)
  -- both parts are zero: a sum of naturals
  simp only [toNanos, zero, mk.injEq, ← hzero]
  omega

theorem toNanos_ofMillis (ms : UInt64) : (ofMillis ms).toNanos = ms.toNat * 1000000 := by
  have hthousand : (1000 : UInt64).toNat = 1000 := rfl
  -- seconds and the milliseconds that are left over, put together again
  simp only [toNanos, ofMillis, UInt64.toNat_div, UInt64.toNat_mod, hthousand]
  omega

/-! ## Rounding up -/

/-- The least number of milliseconds that is enough, where no number is too great. -/
theorem isLeast_ceilDiv (d : Duration) :
    IsLeast {n : Nat | d.toNanos ≤ n * 1000000} (d.toNanos ⌈/⌉ 1000000) := by
  have henough (n : Nat) : d.toNanos ⌈/⌉ 1000000 ≤ n ↔ d.toNanos ≤ n * 1000000 := by
    rw [ceilDiv_le_iff_le_mul (by decide), Nat.mul_comm]
  exact ⟨(henough _).1 le_rfl, fun n hn => (henough n).2 hn⟩

theorem ceilDiv_toNanos (d : Duration) :
    d.toNanos ⌈/⌉ 1000000 = (d.toNanos + 999999) / 1000000 := by
  rw [Nat.ceilDiv_eq_add_pred_div]
  omega

/-- The rounded number is the least that is enough, as long as there is such a number. -/
theorem toNat_ceilMillis (d : Duration) :
    d.ceilMillis.toNat = min (d.toNanos ⌈/⌉ 1000000) (2 ^ 64 - 1) := by
  have hpow : Nat.pow 2 64 = 2 ^ 64 := rfl
  have hmax : (18446744073709551615 : UInt64).toNat = 2 ^ 64 - 1 := rfl
  simp only [ceilMillis, hpow, ceilDiv_toNanos]
  split
  -- the number fits
  · rename_i hlt
    rw [UInt64.toNat_ofNat_of_lt' hlt]
    exact (Nat.min_eq_left (by omega)).symm
  -- the greatest number stands for it
  · rw [hmax]
    exact (Nat.min_eq_right (by omega)).symm

/-- A number of milliseconds is enough if and only if it is not below the rounded one. The greatest
    number stands for what is longer. -/
theorem ceilMillis_le_iff :
    d.ceilMillis ≤ ms ↔ d.toNanos ≤ (ofMillis ms).toNanos ∨ ms.toNat = 2 ^ 64 - 1 := by
  have hms := ms.toNat_lt
  rw [UInt64.le_iff_toNat_le, toNat_ceilMillis, toNanos_ofMillis, Nat.mul_comm,
    ← ceilDiv_le_iff_le_mul (by decide)]
  omega

theorem ceilMillis_le_ceilMillis (h : d.toNanos ≤ d'.toNanos) : d.ceilMillis ≤ d'.ceilMillis := by
  -- what is enough for the longer length is enough for the shorter one
  rw [ceilMillis_le_iff]
  refine (ceilMillis_le_iff.1 (UInt64.le_refl d'.ceilMillis)).imp_left fun henough => ?_
  exact h.trans henough

/-- Whole milliseconds are kept. -/
theorem ceilMillis_ofMillis (ms : UInt64) : (ofMillis ms).ceilMillis = ms := by
  have hms := ms.toNat_lt
  -- a multiple is not rounded, and it fits since it came from a word
  rw [← UInt64.toNat_inj, toNat_ceilMillis, toNanos_ofMillis, Nat.mul_comm, ← smul_eq_mul,
    smul_ceilDiv (by decide)]
  omega

/-- Only no time at all takes no milliseconds. -/
theorem ceilMillis_eq_zero_iff : d.ceilMillis = 0 ↔ d = zero := by
  have hzero : (0 : UInt64).toNat = 0 := rfl
  -- nothing is below zero, so being zero is a bound, and bounds are what rounding up is adjoint to
  have hle : d.ceilMillis = 0 ↔ d.ceilMillis ≤ 0 := by
    rw [← UInt64.toNat_inj, UInt64.le_iff_toNat_le, hzero, Nat.le_zero]
  rw [hle, ceilMillis_le_iff, toNanos_ofMillis, hzero, ← toNanos_eq_zero_iff]
  omega

/-! ## Words -/

/-- The least number of milliseconds that is enough, with all results held in words of a kind. -/
def ceilMillisIn (w : Word) (d : Duration) : Option Int := do
  let whole ← w.hold (d.seconds.toNat * 1000000000)
  let length ← w.hold (whole + d.nanos)
  -- what is left over takes one more millisecond
  if length % 1000000 = 0 then w.hold (length / 1000000) else w.hold (length / 1000000 + 1)

/-- The seconds and nanoseconds of some milliseconds, with all results held in words of a kind. -/
def ofMillisIn (w : Word) (ms : UInt64) : Option (Int × Int) := do
  let seconds ← w.hold (ms.toNat / 1000)
  let nanos ← w.hold (ms.toNat % 1000 * 1000000)
  return (seconds, nanos)

/-- No result on the way exceeds 128 bits. -/
theorem ceilMillisIn_unsigned (d : Duration) :
    d.ceilMillisIn (.unsigned 128) = some ((d.toNanos ⌈/⌉ 1000000 : Nat) : Int) := by
  have hseconds := d.seconds.toNat_lt
  have hnanos := d.nanos_lt
  -- the exact sum is the length, far below the greatest word
  have hsum : (d.seconds.toNat * 1000000000 + d.nanos : Int) = d.toNanos := by
    rw [toNanos]
    omega
  have hwhole : (Word.unsigned 128).hold (d.seconds.toNat * 1000000000) =
      some (d.seconds.toNat * 1000000000 : Int) := Word.hold_unsigned (by omega) (by omega)
  have hlength : (Word.unsigned 128).hold d.toNanos = some (d.toNanos : Int) :=
    Word.hold_unsigned (by omega) (by omega)
  rw [ceilMillisIn, Word.bind_of_hold hwhole, hsum, Word.bind_of_hold hlength, ceilDiv_toNanos]
  -- with and without a remainder the quotient is the one that rounding up has
  split
  all_goals
    rw [Word.hold_unsigned (by omega) (by omega), Option.some_inj]
    omega

theorem ofMillisIn_unsigned (ms : UInt64) :
    ofMillisIn (.unsigned 128) ms =
      some (((ofMillis ms).seconds.toNat : Int), ((ofMillis ms).nanos : Int)) := by
  have hthousand : (1000 : UInt64).toNat = 1000 := rfl
  have hms := ms.toNat_lt
  have hseconds : (ms.toNat / 1000 : Int) = (ofMillis ms).seconds.toNat := by
    simp only [ofMillis, UInt64.toNat_div, hthousand]
    omega
  have hnanos : (ms.toNat % 1000 * 1000000 : Int) = (ofMillis ms).nanos := by
    simp only [ofMillis, UInt64.toNat_mod, hthousand]
    omega
  rw [ofMillisIn, hseconds, Word.bind_of_hold (Word.hold_unsigned (by omega) (by omega)), hnanos,
    Word.bind_of_hold (Word.hold_unsigned (by omega) (by omega))]
  rfl

end Duration

namespace Settings

variable {s : Settings} {d d' : Duration}

/-! ## Timeouts that are set -/

/-- What the settings become. The equation stands for the definition in what follows, as unfolding
    the definition would go on into the rounding. -/
theorem withReplyTimeout_eq (s : Settings) (d : Duration) :
    s.withReplyTimeout d = ⟨s.maxPending, d.ceilMillis, s.queueStem⟩ := rfl

theorem maxPending_withReplyTimeout : (s.withReplyTimeout d).maxPending = s.maxPending := by
  rw [withReplyTimeout_eq]

theorem replyTimeoutMs_withReplyTimeout :
    (s.withReplyTimeout d).replyTimeoutMs = d.ceilMillis := by
  rw [withReplyTimeout_eq]

theorem replyTimeout_withReplyTimeout :
    (s.withReplyTimeout d).replyTimeout = .ofMillis d.ceilMillis := by
  rw [replyTimeout, replyTimeoutMs_withReplyTimeout]

theorem withReplyTimeout_withReplyTimeout :
    (s.withReplyTimeout d).withReplyTimeout d' = s.withReplyTimeout d' := by
  rw [withReplyTimeout_eq, withReplyTimeout_eq, withReplyTimeout_eq]

theorem withReplyTimeout_congr (h : d.ceilMillis = d'.ceilMillis) :
    s.withReplyTimeout d = s.withReplyTimeout d' := by
  rw [withReplyTimeout_eq, withReplyTimeout_eq, h]

theorem validate_eq (s : Settings) : s.validate =
    if s.maxPending = 0 then .error (.argument Flaw.noPending.message)
    else if s.replyTimeoutMs = 0 then .error (.argument Flaw.noTimeout.message)
    else .ok () := by
  simp only [validate, flaw?]
  -- the flaws are looked for in this order, and the first is reported
  by_cases hpending : s.maxPending = 0
  · simp only [if_pos hpending]
  by_cases htimeout : s.replyTimeoutMs = 0
  · simp only [if_neg hpending, if_pos htimeout]
  · simp only [if_neg hpending, if_neg htimeout]

/-- A timeout that is set is refused only if it is no time at all. -/
theorem validate_withReplyTimeout (s : Settings) (d : Duration) :
    (s.withReplyTimeout d).validate =
      if s.maxPending = 0 then .error (.argument Flaw.noPending.message)
      else if d = .zero then .error (.argument Flaw.noTimeout.message)
      else .ok () := by
  rw [validate_eq, maxPending_withReplyTimeout, replyTimeoutMs_withReplyTimeout]
  exact if_congr Iff.rfl rfl (if_congr Duration.ceilMillis_eq_zero_iff rfl rfl)

/-- What comes of some settings when their reply timeout is set to a length of time. -/
structure Waits (s : Settings) (d : Duration) : Prop where
  /-- The timeout is the least number of milliseconds that is not less than the length, or the
      greatest number that there is. It is found in words of 128 bits. -/
  least : ∃ n : Nat, IsLeast {n : Nat | d.toNanos ≤ n * 1000000} n ∧
    d.ceilMillisIn (.unsigned 128) = some (n : Int) ∧
      (s.withReplyTimeout d).replyTimeoutMs.toNat = min n (2 ^ 64 - 1)
  /-- Read back it is not shorter, and longer by less than a millisecond, unless the length is more
      than the greatest number of milliseconds. -/
  close : d.toNanos ≤ (2 ^ 64 - 1) * 1000000 →
    d.toNanos ≤ (s.withReplyTimeout d).replyTimeout.toNanos ∧
      (s.withReplyTimeout d).replyTimeout.toNanos < d.toNanos + 1000000
  /-- It is read back in words of 128 bits. -/
  words : Duration.ofMillisIn (.unsigned 128) (s.withReplyTimeout d).replyTimeoutMs =
    some (((s.withReplyTimeout d).replyTimeout.seconds.toNat : Int),
      ((s.withReplyTimeout d).replyTimeout.nanos : Int))
  /-- A longer length gives no shorter timeout. -/
  monotone : ∀ d' : Duration, d.toNanos ≤ d'.toNanos →
    (s.withReplyTimeout d).replyTimeoutMs ≤ (s.withReplyTimeout d').replyTimeoutMs
  /-- Settings that let updates wait are refused afterwards if and only if the length is zero. -/
  validate : (s.withReplyTimeout d).validate =
    if s.maxPending = 0 then .error (.argument Flaw.noPending.message)
    else if d = .zero then .error (.argument Flaw.noTimeout.message)
    else .ok ()
  /-- To set the timeout that is read back changes nothing. -/
  again : (s.withReplyTimeout d).withReplyTimeout (s.withReplyTimeout d).replyTimeout =
    s.withReplyTimeout d

/-- **A reply timeout is never shortened.** It may be only where the length is more than the
    greatest number of milliseconds. -/
theorem waits_withReplyTimeout (s : Settings) (d : Duration) : s.Waits d := by
  constructor
  case least =>
    rw [replyTimeoutMs_withReplyTimeout]
    exact ⟨_, d.isLeast_ceilDiv, d.ceilMillisIn_unsigned, d.toNat_ceilMillis⟩
  case close =>
    intro hfits
    -- below the greatest number the minimum is the rounded one
    rw [replyTimeout_withReplyTimeout, Duration.toNanos_ofMillis, Duration.toNat_ceilMillis,
      Duration.ceilDiv_toNanos]
    omega
  case words =>
    rw [replyTimeoutMs_withReplyTimeout, replyTimeout_withReplyTimeout]
    exact Duration.ofMillisIn_unsigned _
  case monotone =>
    intro d' h
    rw [replyTimeoutMs_withReplyTimeout, replyTimeoutMs_withReplyTimeout]
    exact Duration.ceilMillis_le_ceilMillis h
  case validate => exact validate_withReplyTimeout s d
  case again =>
    rw [replyTimeout_withReplyTimeout, withReplyTimeout_withReplyTimeout]
    exact withReplyTimeout_congr (Duration.ceilMillis_ofMillis _)

/-- The shortest time is a millisecond, and the longest is the greatest number of them. -/
example :
    (standard.withReplyTimeout ⟨0, 1, by decide⟩).replyTimeoutMs = 1 ∧
      (standard.withReplyTimeout .longest).replyTimeoutMs = 18446744073709551615 :=
  ⟨by decide, by decide⟩

end Settings

end TileIndex
