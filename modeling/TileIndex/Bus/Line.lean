import TileIndex.Bus.Transport
import TileIndex.Channel
import TileIndex.Duration
import TileIndex.Protocol.Format

/-!
# Calls over a bus

A line is the channel of one client over a bus. A call puts its request on the queue of the service
and takes messages off the reply queue until one has the identifier of the request. The others are
late or repeated replies to earlier calls, and are dropped.

Time is what is left until the deadline, in nanoseconds. A listen takes the time it says, and every
look at the queue takes a moment more, so that a call with a deadline looks finitely often. A
deadline that is later than the clock can show is none at all, and then a call may look forever: it
has a result only if some look brings one.

## Main statement

- `Line.isSome_call`: a call with a deadline has a result.
-/

universe u

namespace TileIndex

/-- A channel over a bus: where its requests go, where their replies come, and how long a call
    waits. -/
structure Line where
  requestQueue : String
  replyQueue : String
  timeout : Duration
  deriving DecidableEq, Repr

namespace Line

variable {τ : Type u}

/-! ## Time -/

/-- The least time between two looks at the clock, in nanoseconds. -/
def moment : Nat := 20

/-- The last second that the clock can show. -/
def lastSecond : Nat := 9223372036854775807

/-- The longest single wait for a message. -/
def longestWait : Duration := { Duration.zero with seconds := 60 }

/-- What is left until the deadline of a call that begins to wait at some time, if it has one. -/
def timeLeft? (l : Line) (now : Duration) : Option Nat :=
  -- the clock shows whole seconds up to the last, and nanoseconds beside them
  if (now.toNanos + l.timeout.toNanos) / 1000000000 ≤ lastSecond then some l.timeout.toNanos
  else none

/-- How many milliseconds one look waits at most: the whole ones that are left, but at least one,
    and never more than the longest wait. -/
def waitMs (left : Option Nat) : UInt64 :=
  let left := left.getD longestWait.toNanos
  max 1 (UInt64.ofNat (min left longestWait.toNanos / 1000000))

/-- What is left of some time after a look. -/
def leftAfter (left : Nat) (elapsed : UInt64) : Nat := left - (elapsed.toNat * 1000000 + moment)

/-- A look takes some time. -/
theorem leftAfter_lt {left : Nat} (h : left ≠ 0) (elapsed : UInt64) :
    leftAfter left elapsed < left := by
  simp only [leftAfter, moment]
  omega

/-! ## Calls -/

/-- The message of a request, or why the request cannot be written. -/
def requestMessage (l : Line) (w : Format) (id : String) (r : Request) : Except String Message :=
  (Message.carrying id r.operation.name w.request r).map
    (·.withMetadata Message.replyToKey l.replyQueue)

/-- What comes of a listen for the reply to a call: nothing of one that finds no message, or one
    with another identifier, which is dropped. -/
def outcome? (id : String) :
    Except TransportError (Option Message) → Option (Except Failure Message)
  | .error e => some (.error (.transport e))
  | .ok none => none
  | .ok (some m) => if m.id = id then some (.ok m) else none

/-- Look for a reply until something comes of it or no time is left. Without a deadline there is no
    result if nothing ever comes of it. -/
def awaitReply (l : Line) (t : Transport τ) (id : String) (left : Option Nat) (s : τ) :
    Option (Except Failure Message × τ) :=
  if left = some 0 then some (.error (.transport .timeout), s)
  else
    let heard := t.listen l.replyQueue (waitMs left) s
    match outcome? id heard.1.found with
    | some outcome => some (outcome, heard.2)
    | none => l |>.awaitReply t id (left.map (leftAfter · heard.1.elapsed)) heard.2
partial_fixpoint

/-- The reply that a message carries. -/
def replyIn (w : Format) (m : Message) : Except Failure Reply :=
  (w.reply.read m.payload).mapError .codec

/-- Make a call under an identifier, at some time. A moment passes before its first look. -/
def call (l : Line) (w : Format) (t : Transport τ) (now : Duration) (id : String) (r : Request)
    (s : τ) : Option (Except Failure Reply × τ) :=
  match l.requestMessage w id r with
  -- a request that cannot be written goes nowhere
  | .error text => some (.error (.codec text), s)
  | .ok m =>
    match t.send l.requestQueue m s with
    | (.error e, s) => some (.error (.transport e), s)
    | (.ok (), s) =>
      (l.awaitReply t id ((l.timeLeft? now).map (leftAfter · 0)) s).map fun (outcome, s) =>
        (outcome.bind (replyIn w), s)

/-! ## Results -/

/-- Waiting with a deadline comes to an end, whatever the transport does. -/
theorem isSome_awaitReply (l : Line) (t : Transport τ) (id : String) (left : Nat) (s : τ) :
    (l.awaitReply t id (some left) s).isSome := by
  -- by induction on the time that is left: every look takes some of it
  induction left using Nat.strongRecOn generalizing s with
  | ind left ih =>
    rw [awaitReply]
    split
    · rfl
    · rename_i hleft
      have hlt : ∀ elapsed, leftAfter left elapsed < left :=
        leftAfter_lt fun hzero => hleft (congrArg some hzero)
      dsimp only
      split
      · rfl
      · exact ih _ (hlt _) _

/-- A call with a deadline has a result. -/
theorem isSome_call {l : Line} {now : Duration} (h : (l.timeLeft? now).isSome) (w : Format)
    (t : Transport τ) (id : String) (r : Request) (s : τ) : (l.call w t now id r s).isSome := by
  obtain ⟨left, hleft⟩ := Option.isSome_iff_exists.1 h
  simp only [call, hleft, Option.map_some]
  split
  · rfl
  · split
    · rfl
    · -- the request was sent, and the wait for its reply has a deadline
      rw [Option.isSome_map]
      exact isSome_awaitReply ..

end Line

end TileIndex
