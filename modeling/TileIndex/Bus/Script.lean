import TileIndex.Bus.Line
import TileIndex.Bus.Queues

/-!
# Scripted transports

Transports that do what they are told, to study a call or a server under any behaviour of the bus.

A rehearsal is a set of queues with faults: a send can fail, and a listen can find nothing or fail.
A playback has no queues at all: each listen and each send has its outcome laid down.
-/

namespace TileIndex

/-! ## Rehearsals -/

/-- What a listen on faulty queues does. -/
inductive Look
  /-- It finds nothing at once. -/
  | nothing
  | failure (cause : TransportError)
  /-- It listens. -/
  | listen
  deriving DecidableEq, Repr

/-- A reply that goes on a queue as soon as a request is sent. -/
structure Delivery where
  queue : String
  /-- The identifier of the reply, if not that of the request. -/
  id : Option String
  payload : List UInt8
  deriving DecidableEq, Repr

/-- Queues with faults. -/
structure Rehearsal where
  queues : Queues
  /-- The failure of the coming sends. -/
  sendFailure : Option TransportError
  /-- What goes on the queues after the next send. -/
  deliveries : List Delivery
  /-- What the coming listens do; those after them listen. -/
  looks : List Look
  /-- What callers have sent, with its queues, oldest first. -/
  sent : List (String × Message)
  deriving DecidableEq, Repr

namespace Rehearsal

/-- Put a reply on its queue, in answer to a message. -/
def deliver (m : Message) (q : Queues) (d : Delivery) : Queues :=
  q.send d.queue (Message.plain (d.id.getD m.id) Reply.messageType d.payload)

/-- Faulty queues as a transport. -/
def transport : Transport Rehearsal where
  send queue m s :=
    match s.sendFailure with
    | some e => (.error e, s)
    | none =>
      (.ok (), { s with
        queues := s.deliveries.foldl (deliver m) (s.queues.send queue m)
        deliveries := []
        sent := s.sent ++ [(queue, m)] })
  listen queue wait s :=
    let pass (s : Rehearsal) : Heard × Rehearsal :=
      let (heard, queues) := Queues.transport.listen queue wait s.queues
      (heard, { s with queues := queues })
    match s.looks with
    -- a script that is used up leaves the queues as they are
    | [] => pass s
    | .nothing :: looks => (.atOnce (.ok none), { s with looks := looks })
    | .failure e :: looks => (.atOnce (.error e), { s with looks := looks })
    | .listen :: looks => pass { s with looks := looks }

/-- Make a call on faulty queues. -/
def call (w : Format) (l : Line) (now : Duration) (id : String) (r : Request) (s : Rehearsal) :
    Option (Except Failure Reply × Rehearsal) :=
  l.call w transport now id r s

end Rehearsal

/-! ## Playbacks -/

/-- A message that was to be sent, and whether it was. -/
structure Attempt where
  queue : String
  message : Message
  delivered : Bool
  deriving DecidableEq, Repr

/-- A script of what listens and sends do, with a record of both. -/
structure Playback where
  /-- What the coming listens return; those after them return nothing. -/
  listens : List (Except TransportError (Option Message))
  /-- The failures of the coming sends; those after them succeed. -/
  sends : List (Option TransportError)
  attempts : List Attempt
  /-- The queues listened on, and how long. -/
  asked : List (String × UInt64)

namespace Playback

/-- A script of which nothing has been played. -/
def ofScript (listens : List (Except TransportError (Option Message)))
    (sends : List (Option TransportError)) : Playback := ⟨listens, sends, [], []⟩

/-- Note an attempt to send. -/
def note (s : Playback) (queue : String) (m : Message) (delivered : Bool) : Playback :=
  { s with attempts := s.attempts ++ [⟨queue, m, delivered⟩] }

/-- A script as a transport. -/
def transport : Transport Playback where
  send queue m s :=
    match s.sends with
    | some e :: sends => (.error e, { s with sends := sends }.note queue m false)
    | none :: sends => (.ok (), { s with sends := sends }.note queue m true)
    | [] => (.ok (), s.note queue m true)
  listen queue wait s :=
    let s := { s with asked := s.asked ++ [(queue, wait)] }
    match s.listens with
    | [] => (.atOnce (.ok none), s)
    | found :: listens => (.atOnce found, { s with listens := listens })

end Playback

end TileIndex
