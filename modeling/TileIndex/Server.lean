import TileIndex.Bus.Queues
import TileIndex.Protocol.Format
import TileIndex.Service

/-!
# Servers

A server answers the requests that arrive on a queue. It polls: it waits a while for a message, and
if one comes hands its request to the service and sends the reply to the queue that the message
names. A message that names none is dropped, and so is a reply that cannot be written. A reply
carries no metadata, so a server that is sent its own replies drops them.
-/

universe u

namespace TileIndex

/-- What a server has done. The numbers are words of the machine, and begin again at zero when they
    are used up. -/
structure Stats where
  /-- The requests answered with a result. -/
  handled : UInt64
  /-- The requests answered with a fault, and those that could not be answered. -/
  failed : UInt64
  polls : UInt64
  deriving DecidableEq, Repr, Inhabited

namespace Stats

/-- Nothing done. -/
def zero : Stats := ⟨0, 0, 0⟩

/-- Count a message that was served. -/
def count (s : Stats) (succeeded : Bool) : Stats :=
  if succeeded then { s with handled := s.handled + 1 } else { s with failed := s.failed + 1 }

end Stats

/-- A server of a service over a transport. -/
structure Server (τ : Type u) where
  service : Service
  stats : Stats
  bus : τ

namespace Server

variable {τ : Type u}

/-- The reply to a message: that of the service, if the message carries a request and is labelled
    with the name of its operation. -/
def answer (w : Format) (s : Service) (m : Message) : Reply × Service :=
  match w.request.read m.payload with
  | .error complaint => (.fault (Refusal.undecodable m.type complaint).fault, s)
  | .ok r =>
    -- a request under another label is answered, but not carried out
    if r.operation.name = m.type then s.handle r
    else (.fault (Refusal.mislabelled m.type r.operation).fault, s)

/-- Serve a message: answer it, and send the reply to the queue that the message names. -/
def serve (w : Format) (t : Transport τ) (s : Server τ) (m : Message) : Server τ :=
  match m.replyTo? with
  -- nobody waits for an answer, so the request is not even read
  | none => { s with stats := s.stats.count false }
  | some queue =>
    let (reply, service) := answer w s.service m
    -- a reply that cannot be written or sent leaves what the request did in place
    match m.reply Reply.messageType w.reply reply with
    | .error _ => { s with service := service, stats := s.stats.count false }
    | .ok outgoing =>
      match t.send queue outgoing s.bus with
      | (.error _, bus) => ⟨service, s.stats.count false, bus⟩
      | (.ok (), bus) => ⟨service, s.stats.count !reply.isFault, bus⟩

/-- Wait for a message, and serve it if one comes. A failure to listen is passed over. -/
def poll (w : Format) (t : Transport τ) (queue : String) (wait : UInt64) (s : Server τ) :
    Server τ :=
  let (heard, bus) := t.listen queue wait s.bus
  let s := { s with bus := bus, stats := { s.stats with polls := s.stats.polls + 1 } }
  match heard.found with
  | .ok (some m) => s.serve w t m
  | _ => s

/-- Poll a number of times. -/
def pollTimes (w : Format) (t : Transport τ) (queue : String) (wait : UInt64) :
    Nat → Server τ → Server τ
  | 0, s => s
  | n + 1, s => pollTimes w t queue wait n (s.poll w t queue wait)

/-- Serve what waits on a queue in memory. A message that waits brings at most one more onto the
    queue, and that one, a reply, none; so twice as many polls are enough. -/
def serveWaiting (w : Format) (queue : String) (s : Server Queues) : Server Queues :=
  s.pollTimes w Queues.transport queue 0 (2 * s.bus.pending queue)

end Server

end TileIndex
