import TileIndex.Duration
import TileIndex.Failure

/-!
# Settings

What a client can be told: how many updates it may hold back, how long it waits for a reply, and how
the names of its reply queues begin.
-/

namespace TileIndex

/-- The settings of a client. -/
structure Settings where
  /-- The number of pending updates at which the client sends them. -/
  maxPending : UInt64
  /-- The time that a call waits for its reply, in milliseconds. -/
  replyTimeoutMs : UInt64
  /-- The beginning of the name of every reply queue. -/
  queueStem : String
  deriving DecidableEq, Repr

namespace Settings

/-- The settings of a client that is told nothing. -/
def standard : Settings := ⟨10, 30000, "remote_index_"⟩

instance : Inhabited Settings := ⟨standard⟩

/-- Send pending updates at another number of them. -/
def withMaxPending (s : Settings) (n : UInt64) : Settings := { s with maxPending := n }

/-- Wait at least as long as a given time, to the millisecond. -/
def withReplyTimeout (s : Settings) (d : Duration) : Settings :=
  { s with replyTimeoutMs := d.ceilMillis }

/-- Begin the names of reply queues in another way. -/
def withQueueStem (s : Settings) (stem : String) : Settings := { s with queueStem := stem }

/-- The time that a call waits for its reply. -/
def replyTimeout (s : Settings) : Duration := Duration.ofMillis s.replyTimeoutMs

/-- Why settings cannot be used. -/
inductive Flaw
  | noPending
  | noTimeout
  deriving DecidableEq, Repr

/-- The text of a flaw. -/
def Flaw.message : Flaw → String
  | noPending => "max_pending_write_updates must be at least 1"
  | noTimeout => "reply_timeout_ms must be greater than zero"

/-- The first flaw of some settings. -/
def flaw? (s : Settings) : Option Flaw :=
  if s.maxPending = 0 then some .noPending
  else if s.replyTimeoutMs = 0 then some .noTimeout
  else none

/-- Refuse settings that cannot be used. -/
def validate (s : Settings) : Except Failure Unit :=
  match s.flaw? with
  | some f => .error (.argument f.message)
  | none => .ok ()

end Settings

end TileIndex
