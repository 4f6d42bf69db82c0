import Mathlib.Data.List.DropRight
import TileIndex.Proofs.Bus.Queues
import TileIndex.Proofs.Logs

/-!
# Calls through handles

Queues are used through handles, and several handles can share one set of them. Whoever calls, what
has been received from a queue is the beginning of what was sent to it, and what waits on it is the
rest. A call of clear makes both begin anew, and nothing that is done to another queue or another
set shows.

## Main statements

- `Queues.Orderly.call`: a call keeps what was received and what waits in the order of sending.
- `QueueSets.Kept.run`: so it is for every set after any run of calls through any handles.
- `QueueSets.conserves_run`: queues neither lose nor repeat, reorder or mix messages.
-/

namespace TileIndex

namespace Queues

/-! ## Calls -/

/-- What can be called on queues. -/
inductive Call
  | send (queue : String) (m : Message)
  | listen (queue : String) (wait : UInt64)
  | pending (queue : String)
  | messageTypes (queue : String)
  | history
  | clear
  deriving DecidableEq, Repr

/-- What a call returns. -/
inductive Answer
  | sent (outcome : Except TransportError Unit)
  | heard (found : Except TransportError (Option Message))
  | count (n : Nat)
  | types (l : List String)
  | messages (l : List (String × Message))
  | cleared
  deriving Repr

/-- What some queues return to a call. -/
def answer (q : Queues) : Call → Answer
  | .send queue m => .sent (transport.send queue m q).1
  | .listen queue wait => .heard (transport.listen queue wait q).1.found
  | .pending queue => .count (q.pending queue)
  | .messageTypes queue => .types (q.messageTypes queue)
  | .history => .messages q.sent
  | .clear => .cleared

/-- What a call does to queues; a question does nothing. -/
def Call.action? : Call → Option Action
  | .send queue m => some (.send queue m)
  | .listen queue _ => some (.listen queue)
  | .clear => some .clear
  | _ => none

/-- Queues after a call. -/
def after (q : Queues) (c : Call) : Queues :=
  match c.action? with
  | some a => (q.act a).2
  | none => q

/-- Whether a call is about the messages of a queue. -/
def Call.Concerns (queue : String) : Call → Prop
  | .send name _ | .listen name _ => name = queue
  | .clear => True
  | _ => False

/-! ## What calls have sent and brought -/

/-- Calls with what they returned, oldest first. -/
abbrev Log := List (Call × Answer)

/-- The calls since the queues were cleared. -/
def recent (log : Log) : Log := log.rtakeWhile (·.1 ≠ .clear)

/-- The message that a call has sent, with its queue. -/
def sent? : Call × Answer → Option (String × Message)
  | (.send queue m, .sent (.ok ())) => some (queue, m)
  | _ => none

/-- The message that a call has brought from a queue. -/
def received? (queue : String) : Call × Answer → Option Message
  | (.listen name _, .heard (.ok m)) => if name = queue then m else none
  | _ => none

/-- The messages that calls have sent, with their queues, oldest first. -/
def sends (log : Log) : List (String × Message) := log.filterMap sent?

/-- The messages that calls have brought from a queue, oldest first. -/
def received (queue : String) (log : Log) : List Message := log.filterMap (received? queue)

variable {q : Queues} {log : Log} {queue : String}

theorem recent_concat {c : Call} (h : c ≠ .clear) (a : Answer) :
    recent (log ++ [(c, a)]) = recent log ++ [(c, a)] :=
  List.rtakeWhile_concat_pos _ _ _ (by simpa using h)

theorem recent_concat_clear (a : Answer) : recent (log ++ [(.clear, a)]) = [] :=
  List.rtakeWhile_concat_neg _ _ _ (by simp)

theorem sends_concat (log : Log) (e : Call × Answer) :
    sends (log ++ [e]) = sends log ++ (sent? e).toList :=
  filterMap_concat sent? log e

theorem received_concat (queue : String) (log : Log) (e : Call × Answer) :
    received queue (log ++ [e]) = received queue log ++ (received? queue e).toList :=
  filterMap_concat (received? queue) log e

theorem answer_listen (q : Queues) (queue : String) (wait : UInt64) :
    q.answer (.listen queue wait) = .heard (.ok (q.pop queue).1) :=
  congrArg Answer.heard (listen_eq_pop queue wait q).1

/-! ## Order -/

/-- What some queues hold, when `log` is all that was called on them. -/
structure Orderly (log : Log) (q : Queues) : Prop where
  /-- What was received and what waits is what was sent, in its order. -/
  order : ∀ queue, received queue (recent log) ++ addressedTo queue q.waiting =
    addressedTo queue (sends (recent log))
  /-- Everything that was sent is on record. -/
  record : q.sent = sends (recent log)

theorem Orderly.empty : Orderly [] Queues.empty where
  order _ := rfl
  record := rfl

/-- A call that neither sends nor brings anything leaves the queues as they are. -/
theorem Orderly.still (h : Orderly log q) {e : Call × Answer} (hclear : e.1 ≠ .clear)
    (hsent : sent? e = none) (hreceived : ∀ queue, received? queue e = none) :
    Orderly (log ++ [e]) q where
  -- the call is put at the end of the log and counts for nothing there
  order queue := by
    rw [recent_concat hclear, received_concat, sends_concat, hsent, hreceived]
    simpa using h.order queue
  record := by
    rw [recent_concat hclear, sends_concat, hsent]
    simpa using h.record

/-- A send puts a message at the end of what was sent and of what waits. -/
theorem Orderly.send (h : Orderly log q) (name : String) (m : Message) :
    Orderly (log ++ [(.send name m, q.answer (.send name m))]) (q.after (.send name m)) := by
  have hsends : sends (recent (log ++ [(.send name m, q.answer (.send name m))])) =
      sends (recent log) ++ [(name, m)] := by
    rw [recent_concat (by nofun), sends_concat]
    rfl
  constructor
  · intro queue
    rw [hsends, recent_concat (by nofun), received_concat, addressedTo_append, ← h.order queue]
    show received queue (recent log) ++ [] ++ addressedTo queue (q.send name m).waiting = _
    rw [addressedTo_send, List.append_nil, List.append_assoc]
  · rw [hsends, ← h.record]
    rfl

/-- A listen takes the first message that waits to the end of what was received. -/
theorem Orderly.listen (h : Orderly log q) (name : String) (wait : UInt64) :
    Orderly (log ++ [(.listen name wait, q.answer (.listen name wait))])
      (q.after (.listen name wait)) := by
  have hsends : sends (recent (log ++ [(.listen name wait, q.answer (.listen name wait))])) =
      sends (recent log) := by
    rw [recent_concat (by nofun), sends_concat]
    exact List.append_nil _
  constructor
  · intro queue
    rw [hsends, recent_concat (by nofun), received_concat, answer_listen, ← h.order queue]
    show _ ++ (if name = queue then (q.pop name).1 else none).toList ++
      addressedTo queue (q.pop name).2.waiting = _
    rw [List.append_assoc]
    congr 1
    split
    -- what the listen brings was the oldest of what waited
    · rename_i hname
      rw [hname, ← addressedTo_pop_self]
    · rename_i hname
      exact addressedTo_pop_of_ne q hname
  · rw [hsends, ← h.record]
    exact sent_pop q name

theorem Orderly.cleared (log : Log) (q : Queues) :
    Orderly (log ++ [(.clear, q.answer .clear)]) (q.after .clear) where
  order queue := by
    -- with the log cut here and nothing that waits, both sides are empty
    rw [recent_concat_clear]
    rfl
  record := by
    rw [recent_concat_clear]
    rfl

/-- A call on queues keeps their messages in order. -/
theorem Orderly.call (h : Orderly log q) (c : Call) :
    Orderly (log ++ [(c, q.answer c)]) (q.after c) := by
  cases c with
  | send name m => exact h.send name m
  | listen name wait => exact h.listen name wait
  | clear => exact .cleared log q
  | pending | messageTypes | history => exact h.still (by nofun) rfl fun _ => rfl

/-! ## Calls on other queues -/

/-- What a queue holds: the messages that wait on it, and those that were ever sent to it. -/
def content (queue : String) (q : Queues) : List Message × List Message :=
  (addressedTo queue q.waiting, addressedTo queue q.sent)

/-- A call that is not about a queue changes nothing of it. -/
theorem content_after {c : Call} (h : ¬ c.Concerns queue) (q : Queues) :
    content queue (q.after c) = content queue q := by
  cases c with
  | send name m =>
    have hne : name ≠ queue := h
    have hsent : addressedTo queue (q.sent ++ [(name, m)]) = addressedTo queue q.sent := by
      rw [addressedTo_append, addressedTo_cons_of_ne hne, addressedTo_nil, List.append_nil]
    exact Prod.ext (addressedTo_send_of_ne q hne m) hsent
  -- a listen never takes from the record of what was sent
  | listen name wait =>
    have hsent : addressedTo queue (q.pop name).2.sent = addressedTo queue q.sent := by
      rw [sent_pop]
    exact Prod.ext (addressedTo_pop_of_ne q h) hsent
  | clear => exact absurd trivial h
  | pending | messageTypes | history => rfl

/-! ## What calls show -/

/-- How calls account for the messages of some queues, when `log` is all that was called on them. -/
structure Conserves (log : Log) (q : Queues) : Prop extends Orderly log q where
  /-- No send fails. -/
  accepts : ∀ queue m, q.answer (.send queue m) = .sent (.ok ())
  /-- A listen brings the oldest of the messages that wait. -/
  listens : ∀ queue wait,
    q.answer (.listen queue wait) = .heard (.ok (addressedTo queue q.waiting).head?)
  /-- It brings nothing exactly if none is pending. -/
  idles : ∀ queue wait,
    q.answer (.listen queue wait) = .heard (.ok none) ↔ q.answer (.pending queue) = .count 0
  /-- As many are pending as were sent and not received. -/
  counts : ∀ queue, ∃ n, q.answer (.pending queue) = .count n ∧
    (received queue (recent log)).length + n = (addressedTo queue (sends (recent log))).length
  /-- The history tells all that was sent, whether it has been received or not. -/
  history : q.answer .history = .messages (sends (recent log))
  /-- The types of the messages of a queue are those of its part of the history. -/
  types : ∀ queue, q.answer (.messageTypes queue) =
    .types ((addressedTo queue (sends (recent log))).map (·.type))

theorem head?_addressedTo (q : Queues) (queue : String) :
    (addressedTo queue q.waiting).head? = (q.pop queue).1 := by
  -- the first message of the queue is the one that is taken
  rcases q.pop_cases queue with ⟨hpop, hnone⟩ | ⟨m, before, after, hwaiting, hbefore, hpop⟩
  · rw [hpop, hnone]
    rfl
  · rw [hpop, hwaiting, addressedTo_append, addressedTo_eq_nil hbefore, addressedTo_cons_self]
    rfl

/-- In such an order, what a call shows is what the log tells. -/
theorem Orderly.conserves (h : Orderly log q) : Conserves log q := by
  have hlistens : ∀ queue wait,
      q.answer (.listen queue wait) = .heard (.ok (addressedTo queue q.waiting).head?) := by
    intro queue wait
    rw [answer_listen, head?_addressedTo]
  refine ⟨h, fun _ _ => rfl, hlistens, ?idles, ?counts, ?history, ?types⟩
  case idles =>
    intro queue wait
    rw [hlistens]
    simp [answer, Queues.pending, List.head?_eq_none_iff, List.length_eq_zero_iff]
  -- lengths of the two sides of the order
  case counts =>
    intro queue
    refine ⟨q.pending queue, rfl, ?_⟩
    rw [← h.order queue, List.length_append]
    rfl
  case history => rw [answer, h.record]
  case types =>
    intro queue
    rw [answer, messageTypes, h.record]

end Queues

/-! ## Handles -/

namespace QueueSets

open Queues (Call Log Orderly Conserves content)

/-- What can be done with handles. -/
inductive Move
  | call (handle : String) (c : Call)
  /-- Make another handle on the set behind a handle. -/
  | share (handle new : String)
  /-- Make a handle on a new set. -/
  | fresh (new : String)
  deriving DecidableEq, Repr

/-- A call on a set of queues, with what it returned. -/
structure Entry where
  /-- The position of the set. -/
  set : Nat
  call : Call
  answer : Queues.Answer
  deriving Repr

/-- The call that is made, if its handle is one. -/
def entryOf? (s : QueueSets) : Move → Option Entry
  | .call handle c => do
    let n ← s.position? handle
    let q ← s.sets[n]?
    return ⟨n, c, q.answer c⟩
  | _ => none

/-- The queues after a move. -/
def move (s : QueueSets) : Move → QueueSets
  | .call handle c =>
    match c.action? with
    | some a => (s.act handle a).2
    | none => s
  | .share handle new => s.share handle new
  | .fresh new => s.fresh new

/-- The queues after a run of moves. -/
def run (s : QueueSets) (ms : List Move) : QueueSets := ms.foldl move s

/-- The calls of a run of moves. -/
def transcript (s : QueueSets) : List Move → List Entry
  | [] => []
  | m :: ms => (s.entryOf? m).toList ++ (s.move m).transcript ms

/-- The calls on one set. -/
def callsOn (n : Nat) (log : List Entry) : Log :=
  log.filterMap fun e => if e.set = n then some (e.call, e.answer) else none

variable {s : QueueSets} {log : List Entry} {n : Nat} {q : Queues}

theorem callsOn_append (n : Nat) (log later : List Entry) :
    callsOn n (log ++ later) = callsOn n log ++ callsOn n later :=
  List.filterMap_append

theorem callsOn_singleton_self (n : Nat) (c : Call) (a : Queues.Answer) :
    callsOn n [⟨n, c, a⟩] = [(c, a)] := by
  simp [callsOn]

theorem callsOn_eq_nil (h : ∀ e ∈ log, e.set ≠ n) : callsOn n log = [] := by
  refine List.filterMap_eq_nil_iff.2 fun e he => ?_
  rw [if_neg (h e he)]

theorem entryOf?_call {handle : String} (hn : s.position? handle = some n)
    (hq : s.sets[n]? = some q) (c : Call) :
    s.entryOf? (.call handle c) = some ⟨n, c, q.answer c⟩ := by
  simp [entryOf?, hn, hq]

/-- A call through a handle is a call on the set behind it; without one, nothing is done. -/
theorem call_cases (s : QueueSets) (handle : String) (c : Call) :
    (∃ n q, s.sets[n]? = some q ∧ s.entryOf? (.call handle c) = some ⟨n, c, q.answer c⟩ ∧
        s.move (.call handle c) = { s with sets := s.sets.set n (q.after c) }) ∨
      s.entryOf? (.call handle c) = none ∧ s.move (.call handle c) = s := by
  -- a handle is one if it has a position and there is a set at it
  cases hget : s.get? handle with
  | some q =>
    obtain ⟨n, hn, hq⟩ := Option.bind_eq_some_iff.1 hget
    refine .inl ⟨n, q, hq, entryOf?_call hn hq c, ?_⟩
    unfold move Queues.after
    cases hc : c.action? with
    | some a => simp only [hc, act, hn, hget]
    | none =>
      obtain ⟨hlt, hset⟩ := List.getElem?_eq_some_iff.1 hq
      simp only [hc, ← hset, List.set_getElem_self]
  | none =>
    refine .inr ⟨?entry, ?move⟩
    case entry =>
      cases hn : s.position? handle with
      | none => simp [entryOf?, hn]
      | some n =>
        have hq : s.sets[n]? = none := by simpa [get?, hn] using hget
        simp [entryOf?, hn, hq]
    case move =>
      have hact : ∀ a, s.act handle a = (none, s) := by
        intro a
        unfold act
        rw [hget]
        split
        · rename_i h
          cases h
        · rfl
      unfold move
      cases hc : c.action? with
      | some a => simp only [hc, hact]
      | none => simp only [hc]

/-- What a move does to the sets: it is a call on one of them, it leaves them as they are, or it
    makes another. -/
theorem move_cases (s : QueueSets) (m : Move) :
    (∃ n q c, s.sets[n]? = some q ∧ s.entryOf? m = some ⟨n, c, q.answer c⟩ ∧
        (s.move m).sets = s.sets.set n (q.after c)) ∨
      s.entryOf? m = none ∧ (s.move m).sets = s.sets ∨
      s.entryOf? m = none ∧ (s.move m).sets = s.sets ++ [Queues.empty] := by
  cases m with
  | call handle c =>
    rcases s.call_cases handle c with ⟨n, q, hq, hentry, hmove⟩ | ⟨hentry, hmove⟩
    · exact .inl ⟨n, q, c, hq, hentry, by rw [hmove]⟩
    · exact .inr (.inl ⟨hentry, by rw [hmove]⟩)
  | share handle new =>
    refine .inr (.inl ⟨rfl, ?_⟩)
    show (s.share handle new).sets = s.sets
    unfold share
    split <;> rfl
  | fresh new => exact .inr (.inr ⟨rfl, rfl⟩)

/-- What every move preserves, with the call that it makes put at the end of a log, is preserved by
    a run with its transcript. -/
theorem transcript_induction {P : List Entry → QueueSets → Prop}
    (step : ∀ {log s} (m : Move), P log s → P (log ++ (s.entryOf? m).toList) (s.move m))
    {log : List Entry} {s : QueueSets} (h : P log s) (ms : List Move) :
    P (log ++ s.transcript ms) (s.run ms) := by
  -- induction over what is still to be done, with all that was done before in `log`
  induction ms generalizing s log with
  | nil => simpa [transcript, run] using h
  | cons m ms ih => simpa [transcript, run] using ih (step m h)

/-- Sets are never given up. -/
theorem length_le_move (s : QueueSets) (m : Move) : s.sets.length ≤ (s.move m).sets.length := by
  rcases s.move_cases m with ⟨n, q, c, -, -, hsets⟩ | ⟨-, hsets⟩ | ⟨-, hsets⟩
  · rw [hsets, List.length_set]
  · rw [hsets]
  · rw [hsets, List.length_append]
    exact Nat.le_add_right ..

theorem position?_cons (sets : List Queues) (handles : List (String × Nat)) (new : String) (n : Nat)
    (handle : String) : position? ⟨sets, (new, n) :: handles⟩ handle =
      if handle = new then some n else position? ⟨sets, handles⟩ handle := by
  simp only [position?, List.lookup_cons]
  -- the newest handle of a name is the one that counts
  by_cases h : handle = new
  · simp [h]
  · rw [beq_eq_false_iff_ne.2 h, if_neg h]

/-- After a move a handle stands for a set that some handle stood for, or for one just made. -/
theorem position?_move {m : Move} {handle : String} (h : (s.move m).position? handle = some n) :
    (∃ other, s.position? other = some n) ∨
      n = s.sets.length ∧ (s.move m).sets = s.sets ++ [Queues.empty] := by
  cases m with
  | call other c =>
    refine .inl ⟨handle, ?_⟩
    rcases s.call_cases other c with ⟨_, _, -, -, hmove⟩ | ⟨-, hmove⟩
    · rw [hmove] at h
      exact h
    · rw [hmove] at h
      exact h
  | share other new =>
    change (s.share other new).position? handle = some n at h
    unfold share at h
    split at h
    · -- the copy stands where the handle it is made from does
      rename_i k hk
      rw [position?_cons] at h
      split at h
      · exact .inl ⟨other, hk.trans h⟩
      · exact .inl ⟨handle, h⟩
    · exact .inl ⟨handle, h⟩
  | fresh new =>
    change (s.fresh new).position? handle = some n at h
    rw [fresh, position?_cons] at h
    split at h
    · exact .inr ⟨(Option.some.inj h).symm, rfl⟩
    · exact .inl ⟨handle, h⟩

/-! ## Sets of queues -/

/-- What sets of queues hold, when `log` is all that was called on them. -/
structure Kept (log : List Entry) (s : QueueSets) : Prop where
  /-- Every handle has a set. -/
  bound : ∀ handle n, s.position? handle = some n → n < s.sets.length
  /-- Nothing has been called on sets that are still to be made. -/
  made : ∀ e ∈ log, e.set < s.sets.length
  orderly : ∀ n q, s.sets[n]? = some q → Orderly (callsOn n log) q

theorem Kept.single (handle : String) : Kept [] (QueueSets.single handle) where
  bound h n hn := by
    rw [QueueSets.single, position?_cons] at hn
    split at hn
    · obtain rfl := Option.some.inj hn
      exact Nat.one_pos
    · cases hn
  made e he := absurd he List.not_mem_nil
  orderly n q hq := by
    obtain ⟨hn, rfl⟩ := List.getElem?_eq_some_iff.1 hq
    obtain rfl := Nat.lt_one_iff.1 hn
    exact .empty

/-- A move keeps every set in the order of the calls on it. -/
theorem Kept.move (h : Kept log s) (m : Move) :
    Kept (log ++ (s.entryOf? m).toList) (s.move m) := by
  refine ⟨?bound, ?made, ?orderly⟩
  case bound =>
    intro handle n hn
    rcases position?_move hn with ⟨other, hother⟩ | ⟨rfl, hsets⟩
    · exact Nat.lt_of_lt_of_le (h.bound other n hother) (s.length_le_move m)
    · rw [hsets, List.length_append]
      exact Nat.lt_add_one _
  case made =>
    intro e he
    refine Nat.lt_of_lt_of_le ?_ (s.length_le_move m)
    rcases List.mem_append.1 he with he | he
    · exact h.made e he
    · rcases s.move_cases m with ⟨n, q, c, hq, hentry, -⟩ | ⟨hentry, -⟩ | ⟨hentry, -⟩
      · rw [hentry, Option.toList_some, List.mem_singleton] at he
        rw [he]
        exact (List.getElem?_eq_some_iff.1 hq).1
      · simp [hentry] at he
      · simp [hentry] at he
  case orderly =>
    intro k q' hq'
    rw [callsOn_append]
    rcases s.move_cases m with ⟨n, q, c, hq, hentry, hsets⟩ | ⟨hentry, hsets⟩ | ⟨hentry, hsets⟩
    · rw [hsets, List.getElem?_set] at hq'
      rw [hentry, Option.toList_some]
      split at hq'
      -- the set on which the call was made
      · rename_i hk
        obtain rfl := hk
        split at hq'
        · obtain rfl := Option.some.inj hq'
          rw [callsOn_singleton_self]
          exact (h.orderly n q hq).call c
        · cases hq'
      · rename_i hk
        have hnil : callsOn k [⟨n, c, q.answer c⟩] = [] := callsOn_eq_nil (by simpa using hk)
        rw [hnil, List.append_nil]
        exact h.orderly k q' hq'
    · rw [hsets] at hq'
      rw [hentry]
      simpa [callsOn] using h.orderly k q' hq'
    · rw [hsets, List.getElem?_append] at hq'
      rw [hentry]
      split at hq'
      · simpa [callsOn] using h.orderly k q' hq'
      -- the new set, on which no call has been made
      · rename_i hk
        obtain ⟨hlt, rfl⟩ := List.getElem?_eq_some_iff.1 hq'
        have hnone : callsOn k log = [] := by
          refine callsOn_eq_nil fun e he hset => ?_
          have := h.made e he
          omega
        rw [hnone]
        simpa [callsOn] using Orderly.empty

theorem Kept.run (h : Kept log s) (ms : List Move) : Kept (log ++ s.transcript ms) (s.run ms) :=
  transcript_induction (fun m h => h.move m) h ms

/-! ## Calls that have nothing to do with a queue -/

/-- A move that makes no call on a set about a queue changes nothing of the queue in that set. -/
theorem content_move {queue : String} (hq : s.sets[n]? = some q) {m : Move}
    (hm : ∀ e ∈ s.entryOf? m, e.set = n → ¬ e.call.Concerns queue) :
    ∃ q', (s.move m).sets[n]? = some q' ∧ content queue q' = content queue q := by
  rcases s.move_cases m with ⟨k, q₀, c, hk, hentry, hsets⟩ | ⟨-, hsets⟩ | ⟨-, hsets⟩
  · rw [hsets, List.getElem?_set]
    split
    · -- the call is on the set, and not about the queue
      rename_i hkn
      obtain rfl := hkn
      obtain rfl := Option.some.inj (hk.symm.trans hq)
      have hc : ¬ c.Concerns queue := hm _ hentry rfl
      rw [if_pos (List.getElem?_eq_some_iff.1 hq).1]
      exact ⟨_, rfl, Queues.content_after hc q₀⟩
    · exact ⟨q, hq, rfl⟩
  · rw [hsets]
    exact ⟨q, hq, rfl⟩
  · rw [hsets, List.getElem?_append_left (List.getElem?_eq_some_iff.1 hq).1]
    exact ⟨q, hq, rfl⟩

theorem content_run {queue : String} (hq : s.sets[n]? = some q) {ms : List Move}
    (hms : ∀ e ∈ s.transcript ms, e.set = n → ¬ e.call.Concerns queue) :
    ∃ q', (s.run ms).sets[n]? = some q' ∧ content queue q' = content queue q := by
  -- what the first move leaves, the others leave
  induction ms generalizing s q with
  | nil => exact ⟨q, hq, rfl⟩
  | cons m ms ih =>
    obtain ⟨q₁, hq₁, hcontent₁⟩ := content_move hq fun e he =>
      hms e (List.mem_append_left _ (Option.mem_toList.2 he))
    obtain ⟨q₂, hq₂, hcontent₂⟩ := ih hq₁ fun e he => hms e (List.mem_append_right _ he)
    exact ⟨q₂, hq₂, hcontent₂.trans hcontent₁⟩

/-! ## What handles show -/

/-- How sets of queues account for their messages, when `log` is all that was called on them. -/
structure Conserved (log : List Entry) (s : QueueSets) : Prop where
  /-- Every set accounts for its messages by the calls on it, through whatever handle. -/
  sets : ∀ n q, s.sets[n]? = some q → Conserves (callsOn n log) q
  /-- A call through a handle is a call on the set behind it. -/
  calls : ∀ handle n, s.position? handle = some n → ∃ q, s.sets[n]? = some q ∧
    ∀ c, s.entryOf? (.call handle c) = some ⟨n, c, q.answer c⟩
  /-- A copy of a handle has the set of the handle. -/
  copies : ∀ handle new n, s.position? handle = some n →
    (s.move (.share handle new)).position? new = some n
  /-- No other handle has a set that has just been made. -/
  starts : ∀ new handle n, s.position? handle = some n →
    (s.move (.fresh new)).position? new ≠ some n
  /-- Calls on other queues and other sets change nothing of a queue. -/
  apart : ∀ n q queue later, s.sets[n]? = some q →
    (∀ e ∈ s.transcript later, e.set = n → ¬ e.call.Concerns queue) →
      ∃ q', (s.run later).sets[n]? = some q' ∧ content queue q' = content queue q

/-- **Queues neither lose nor repeat, reorder or mix messages.** After any run of calls through any
    number of handles, on one set of queues or on several. -/
theorem conserves_run (handle : String) (ms : List Move) :
    let s := single handle
    Conserved (s.transcript ms) (s.run ms) := by
  intro s
  have hkept : Kept (s.transcript ms) (s.run ms) := (Kept.single handle).run ms
  refine ⟨?sets, ?calls, ?copies, ?starts, ?apart⟩
  case sets => exact fun n q hq => (hkept.orderly n q hq).conserves
  case calls =>
    intro h n hn
    -- a handle that is bound has a set, so the call is made
    have hlt := hkept.bound h n hn
    exact ⟨_, List.getElem?_eq_getElem hlt, entryOf?_call hn (List.getElem?_eq_getElem hlt)⟩
  case copies =>
    intro h new n hn
    show (share _ h new).position? new = some n
    rw [share, hn, position?_cons, if_pos rfl]
  case starts =>
    intro new h n hn hnew
    change (fresh _ new).position? new = some n at hnew
    rw [fresh, position?_cons, if_pos rfl] at hnew
    -- the new set lies behind every set that has a handle
    exact Nat.ne_of_gt (hkept.bound h n hn) (Option.some.inj hnew)
  case apart => exact fun n q queue later hq hlater => content_run hq hlater

/-- Two handles on one set compete for its messages, a third has a set of its own, and a call of
    clear forgets what was sent before it. -/
example :
    let m (id : String) := Message.plain id "index.read" []
    let s := (single "a").run [.share "a" "b", .fresh "c", .call "a" (.send "x" (m "1")),
      .call "a" .clear, .call "a" (.send "x" (m "2")), .call "b" (.send "x" (m "3")),
      .call "c" (.send "x" (m "4")), .call "b" (.listen "x" 10), .call "a" (.listen "y" 10)]
    s.sets.map (·.waiting) = [[("x", m "3")], [("x", m "4")]] ∧
      s.sets.map (·.sent) = [[("x", m "2"), ("x", m "3")], [("x", m "4")]] ∧
      s.handles = [("c", 1), ("b", 0), ("a", 0)] :=
  ⟨by decide, by decide, by decide⟩

end QueueSets

end TileIndex
