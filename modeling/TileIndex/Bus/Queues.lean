import TileIndex.Bus.Transport

/-!
# Queues in memory

Named queues with a record of everything sent. The messages of all queues wait in one list in the
order in which they were sent; a queue is the part of it that is addressed to its name.
-/

namespace TileIndex

/-- Named queues. -/
structure Queues where
  /-- The messages that wait, with their queues, oldest first. -/
  waiting : List (String × Message)
  /-- The messages ever sent, with their queues, oldest first. -/
  sent : List (String × Message)
  deriving DecidableEq, Repr, Inhabited

namespace Queues

/-- Queues without messages. -/
def empty : Queues := ⟨[], []⟩

/-- The messages of some list that are addressed to a queue. -/
def addressedTo (queue : String) (l : List (String × Message)) : List Message :=
  (l.filter (·.1 = queue)).map (·.2)

/-- Put a message on a queue. -/
def send (q : Queues) (queue : String) (m : Message) : Queues :=
  ⟨q.waiting ++ [(queue, m)], q.sent ++ [(queue, m)]⟩

/-- Take the oldest message off a queue. -/
def pop (q : Queues) (queue : String) : Option Message × Queues :=
  match q.waiting.find? (·.1 = queue) with
  | none => (none, q)
  | some (_, m) => (some m, { q with waiting := q.waiting.eraseP (·.1 = queue) })

/-- The number of messages that wait on a queue. -/
def pending (q : Queues) (queue : String) : Nat := (addressedTo queue q.waiting).length

/-- The types of the messages ever sent to a queue, oldest first. -/
def messageTypes (q : Queues) (queue : String) : List String :=
  (addressedTo queue q.sent).map (·.type)

/-- Forget every message. -/
def clear (_ : Queues) : Queues := empty

/-- What changes queues. -/
inductive Action
  | send (queue : String) (m : Message)
  | listen (queue : String)
  | clear
  deriving DecidableEq, Repr

/-- Do something to queues; the message that a listen returns. -/
def act (q : Queues) : Action → Option Message × Queues
  | .send queue m => (none, q.send queue m)
  | .listen queue => q.pop queue
  | .clear => (none, q.clear)

/-- Queues in memory as a transport. Nothing arrives while a listener waits, so a listen that finds
    nothing waits to its end. -/
def transport : Transport Queues where
  send queue m q := (.ok (), q.send queue m)
  listen queue wait q :=
    match q.pop queue with
    | (some m, q) => (.atOnce (.ok (some m)), q)
    | (none, q) => (⟨.ok none, wait⟩, q)

end Queues

/-! ## Handles -/

/-- Queues that are reached through handles: several handles can share them. -/
structure QueueSets where
  /-- The sets of queues in the order in which they were made. -/
  sets : List Queues
  /-- The position of the set behind each handle. -/
  handles : List (String × Nat)

namespace QueueSets

/-- One set of queues behind one handle. -/
def single (handle : String) : QueueSets := ⟨[Queues.empty], [(handle, 0)]⟩

/-- The position of the set behind a handle. -/
def position? (s : QueueSets) (handle : String) : Option Nat := s.handles.lookup handle

/-- The set behind a handle. -/
def get? (s : QueueSets) (handle : String) : Option Queues :=
  (s.position? handle).bind fun n => s.sets[n]?

/-- Do something to the set behind a handle; the message that a listen returns. -/
def act (s : QueueSets) (handle : String) (a : Queues.Action) : Option Message × QueueSets :=
  match s.position? handle, s.get? handle with
  | some n, some q =>
    let (m, q) := q.act a
    (m, { s with sets := s.sets.set n q })
  | _, _ => (none, s)

/-- Another handle on the set behind a handle. -/
def share (s : QueueSets) (handle new : String) : QueueSets :=
  match s.position? handle with
  | some n => { s with handles := (new, n) :: s.handles }
  | none => s

/-- A handle on a new set. -/
def fresh (s : QueueSets) (new : String) : QueueSets :=
  ⟨s.sets ++ [Queues.empty], (new, s.sets.length) :: s.handles⟩

end QueueSets

end TileIndex
