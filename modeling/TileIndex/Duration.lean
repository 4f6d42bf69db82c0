/-!
# Durations

A length of time in seconds and nanoseconds, and its passage to and from whole milliseconds.
-/

namespace TileIndex

/-- A length of time. -/
structure Duration where
  seconds : UInt64
  nanos : Nat
  nanos_lt : nanos < 1000000000 := by decide
  deriving DecidableEq, Repr

namespace Duration

/-- No time at all. -/
def zero : Duration := ⟨0, 0, by decide⟩

instance : Inhabited Duration := ⟨zero⟩

/-- The longest length of time. -/
def longest : Duration := ⟨18446744073709551615, 999999999, by decide⟩

/-- The whole length in nanoseconds. -/
def toNanos (d : Duration) : Nat := d.seconds.toNat * 1000000000 + d.nanos

/-- The length of some milliseconds. -/
def ofMillis (ms : UInt64) : Duration where
  seconds := ms / 1000
  nanos := (ms % 1000).toNat * 1000000
  nanos_lt := by
    -- fewer than a thousand milliseconds are less than a second
    have : (ms % 1000).toNat < 1000 := by
      rw [UInt64.toNat_mod]
      exact Nat.mod_lt _ (by decide)
    omega

/-- The whole milliseconds within the length, modulo the range of the result. -/
def floorMillis (d : Duration) : UInt64 := UInt64.ofNat (d.toNanos / 1000000)

/-- The fewest whole milliseconds that are not less than the length; the greatest number stands for
    every larger one. -/
def ceilMillis (d : Duration) : UInt64 :=
  let ms := (d.toNanos + 999999) / 1000000
  if ms < Nat.pow 2 64 then UInt64.ofNat ms else 18446744073709551615

end Duration

end TileIndex
