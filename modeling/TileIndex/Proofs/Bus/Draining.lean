import TileIndex.Proofs.Bus.Serving

/-!
# Queues that a server drains

A server puts its replies on whatever queues the messages name, and one of them may be the queue
that it listens on itself. Then it hears its own replies. But a reply has no metadata, so it names
no queue, and nothing is sent for it. What waits at first is all that the server ever answers, and
the queue runs dry.

None of this depends on the format. It may be unable to write a reply, and then a reply that is due
is not sent.

## Main statements

- `Server.Draining.poll`: a poll takes the oldest message off the queue and puts at most one reply
  on it.
- `Server.Draining.length_le`: a server hears at most twice as many messages as waited at first.
- `Server.settles_pollTimes`: a server drains its queue and never answers its own answers.
-/

universe u

namespace TileIndex

/-! ## Replies that are due -/

/-- What a message that was sent looks like from outside. -/
structure Envelope where
  queue : String
  id : String
  type : String
  metadata : Option (List (String × String))
  deriving DecidableEq

/-- The envelope of something that was sent. -/
def Envelope.of (e : String × Message) : Envelope := ⟨e.1, e.2.id, e.2.type, e.2.metadata⟩

/-- The envelope of the reply to a message, if the message names a queue for it. -/
def Message.due? (m : Message) : Option Envelope :=
  m.replyTo?.map fun queue => ⟨queue, m.id, Reply.messageType, none⟩

/-- No reply that is due has metadata. -/
theorem Message.metadata_of_due? {m : Message} {e : Envelope} (h : m.due? = some e) :
    e.metadata = none := by
  obtain ⟨queue, -, rfl⟩ := Option.map_eq_some_iff.1 h
  rfl

/-- No reply is due for a message without metadata. -/
theorem Message.due?_of_metadata_eq_none {m : Message} (h : m.metadata = none) : m.due? = none := by
  simp [due?, replyTo?, metadata?, h]

namespace Queues

theorem length_addressedTo_le (queue : String) (l : List (String × Message)) :
    (addressedTo queue l).length ≤ l.length := by
  rw [addressedTo, List.length_map]
  exact List.length_filter_le ..

theorem mem_addressedTo_iff {queue : String} {l : List (String × Message)} {m : Message} :
    m ∈ addressedTo queue l ↔ (queue, m) ∈ l := by
  simp [addressedTo]

end Queues

namespace Server

open Queues (addressedTo)

variable {τ : Type u}

/-! ## Polls of queues in memory -/

/-- The messages that a number of polls bring, in order. -/
def heard (w : Format) (t : Transport τ) (queue : String) (wait : UInt64) :
    Nat → Server τ → List Message
  | 0, _ => []
  | n + 1, s => (messageIn (t.listen queue wait s.bus).1.found).toList ++
      heard w t queue wait n (s.poll w t queue wait)

variable {w : Format} {s s₀ : Server Queues} {queue : String} {wait : UInt64} {n : Nat}
  {ms : List Message} {replies : List (String × Message)} {m : Message}

/-- Over queues in memory a poll brings the oldest message that waits. -/
theorem heard_succ (w : Format) (s : Server Queues) (queue : String) (wait : UInt64) (n : Nat) :
    heard w Queues.transport queue wait (n + 1) s = (s.bus.pop queue).1.toList ++
      heard w Queues.transport queue wait n (s.poll w Queues.transport queue wait) := by
  rw [heard, (Queues.listen_eq_pop queue wait s.bus).1]
  rfl

/-! ## What has been heard and sent -/

/-- Every reply can be written. -/
def WritesReplies (w : Format) : Prop := ∀ reply, ∃ bytes, w.reply.write reply = .ok bytes

/-- What a server has heard and sent in a number of polls of a queue, from `s₀` on. -/
structure Draining (w : Format) (queue : String) (s₀ : Server Queues) (n : Nat) (ms : List Message)
    (replies : List (String × Message)) (s : Server Queues) : Prop where
  sent : s.bus.sent = s₀.bus.sent ++ replies
  /-- What was heard and what waits is what waited at first and what was sent to the queue since. -/
  order : ms ++ addressedTo queue s.bus.waiting =
    addressedTo queue s₀.bus.waiting ++ addressedTo queue replies
  /-- What was sent are replies that are due for what was heard. -/
  due : (replies.map Envelope.of).Sublist (ms.filterMap Message.due?)
  /-- They are all of them if every reply can be written. -/
  all : WritesReplies w → replies.map Envelope.of = ms.filterMap Message.due?
  atMost : ms.length ≤ n
  /-- No poll was in vain if something waits. -/
  busy : addressedTo queue s.bus.waiting ≠ [] → ms.length = n
  counted : s.stats.handled + s.stats.failed =
    s₀.stats.handled + s₀.stats.failed + .ofNat ms.length

/-- Without a poll nothing is heard or sent. -/
theorem Draining.refl (w : Format) (queue : String) (s : Server Queues) :
    Draining w queue s 0 [] [] s where
  sent := (List.append_nil _).symm
  order := (List.append_nil _).symm
  due := .slnil
  all _ := rfl
  atMost := Nat.le_refl 0
  busy _ := rfl
  counted := (UInt64.add_zero _).symm

/-- A poll of an empty queue changes nothing. -/
theorem Draining.idle (h : Draining w queue s₀ n ms replies s)
    (hnone : addressedTo queue s.bus.waiting = []) :
    Draining w queue s₀ (n + 1) ms replies s.polled where
  sent := h.sent
  order := h.order
  due := h.due
  all := h.all
  atMost := Nat.le_succ_of_le h.atMost
  busy hne := absurd hnone hne
  counted := h.counted

/-- A message is taken off the queue, and some replies are sent that are due for it. -/
theorem Draining.take (h : Draining w queue s₀ n ms replies s) (hpop : (s.bus.pop queue).1 = some m)
    {more : List (String × Message)} {service : Service} {succeeded : Bool} {bus : Queues}
    (hsent : bus.sent = (s.bus.pop queue).2.sent ++ more)
    (hwaiting : addressedTo queue bus.waiting =
      addressedTo queue (s.bus.pop queue).2.waiting ++ addressedTo queue more)
    (hdue : (more.map Envelope.of).Sublist m.due?.toList)
    (hall : WritesReplies w → more.map Envelope.of = m.due?.toList) :
    Draining w queue s₀ (n + 1) (ms ++ [m]) (replies ++ more)
      ⟨service, s.polled.stats.count succeeded, bus⟩ := by
  -- the message was the oldest on the queue
  have hfirst : addressedTo queue s.bus.waiting =
      m :: addressedTo queue (s.bus.pop queue).2.waiting := by
    rw [Queues.addressedTo_pop_self, hpop]
    rfl
  -- no poll was in vain before, and this one was not
  have hlength : (ms ++ [m]).length = n + 1 := by
    rw [List.length_append, h.busy (by rw [hfirst]; exact List.cons_ne_nil _ _)]
    rfl
  refine ⟨?sent, ?order, ?due, ?all, Nat.le_of_eq hlength, fun _ => hlength, ?counted⟩
  case sent => rw [hsent, Queues.sent_pop, h.sent, List.append_assoc]
  case order =>
    -- a reply joins both sides if it is sent to the queue itself
    have horder := h.order
    rw [hfirst, List.append_cons] at horder
    rw [hwaiting, ← List.append_assoc, horder, List.append_assoc, ← Queues.addressedTo_append]
  case due =>
    rw [List.map_append, filterMap_concat]
    exact h.due.append hdue
  case all =>
    intro hwrites
    rw [List.map_append, filterMap_concat, h.all hwrites, hall hwrites]
  case counted =>
    have hbefore := congrArg (· + 1) h.counted
    rw [handled_add_failed_count, List.length_append, UInt64.ofNat_add, ← UInt64.add_assoc]
    exact hbefore

/-- A message that is taken off the queue is served. -/
theorem Draining.serve (h : Draining w queue s₀ n ms replies s)
    (hpop : (s.bus.pop queue).1 = some m) :
    ∃ more, Draining w queue s₀ (n + 1) (ms ++ [m]) (replies ++ more)
      ({ s.polled with bus := (s.bus.pop queue).2 }.serve w Queues.transport m) := by
  obtain ⟨popped, hpopped⟩ : ∃ popped : Server Queues,
    { s.polled with bus := (s.bus.pop queue).2 } = popped := ⟨_, rfl⟩
  have hnothing := List.append_nil (s.bus.pop queue).2.sent
  have hempty := List.append_nil (addressedTo queue (s.bus.pop queue).2.waiting)
  cases hm : m.replyTo? with
  -- no queue for a reply is named
  | none =>
    rw [serve_of_replyTo?_eq_none hm]
    have hnone : m.due? = none := by rw [Message.due?, hm]; rfl
    exact ⟨[], h.take hpop hnothing.symm hempty.symm (List.nil_sublist _) fun _ => by rw [hnone]; rfl⟩
  | some other =>
    rw [hpopped]
    cases hwrite : m.reply Reply.messageType w.reply (answer w popped.service m).1 with
    | error text =>
      -- nothing is sent, and not every reply can be written
      rw [serve_of_write_error hm _ hwrite, ← hpopped]
      refine ⟨[], h.take hpop hnothing.symm hempty.symm (List.nil_sublist _) fun hall => ?_⟩
      obtain ⟨bytes, hbytes⟩ := hall (answer w popped.service m).1
      simp [Message.reply, Message.carrying, hbytes, Except.map] at hwrite
    | ok outgoing =>
      obtain ⟨bytes, -, rfl⟩ := Message.reply_eq_ok hwrite
      rw [serve_of_write_ok hm hwrite, ← hpopped]
      have hdue : m.due? = some (.of (other, .plain m.id Reply.messageType bytes)) := by
        rw [Message.due?, hm]
        rfl
      refine ⟨[(other, .plain m.id Reply.messageType bytes)],
        h.take hpop rfl (Queues.addressedTo_send ..) ?_ fun _ => ?_⟩
      · rw [hdue]
        exact List.Sublist.refl _
      · rw [hdue]
        rfl

/-- A poll takes the oldest message off the queue, and puts at most one reply on it. -/
theorem Draining.poll (h : Draining w queue s₀ n ms replies s) (wait : UInt64) :
    ∃ more, Draining w queue s₀ (n + 1) (ms ++ (s.bus.pop queue).1.toList) (replies ++ more)
      (s.poll w Queues.transport queue wait) := by
  rw [poll_eq]
  cases hpop : (s.bus.pop queue).1 with
  | some m => exact h.serve hpop
  | none =>
    -- nothing was taken, so nothing waits
    rcases s.bus.pop_cases queue with ⟨hbus, hnone⟩ | ⟨m, _, _, -, -, hbus⟩
    · rw [hbus]
      exact ⟨[], (List.append_nil ms).symm ▸ (List.append_nil replies).symm ▸ h.idle hnone⟩
    · simp [hbus] at hpop

/-- So do any number of polls, one after another. -/
theorem Draining.pollTimes (h : Draining w queue s₀ n ms replies s) (wait : UInt64) (k : Nat) :
    ∃ more, Draining w queue s₀ (n + k) (ms ++ heard w Queues.transport queue wait k s)
      (replies ++ more) (s.pollTimes w Queues.transport queue wait k) := by
  -- induction on the polls that are left, with all that was heard and sent before in `h`
  induction k generalizing s n ms replies with
  | zero => exact ⟨[], (List.append_nil ms).symm ▸ (List.append_nil replies).symm ▸ h⟩
  | succ k ih =>
    obtain ⟨more, hpoll⟩ := h.poll wait
    obtain ⟨more', hrest⟩ := ih hpoll
    rw [List.append_assoc, ← heard_succ, List.append_assoc, Nat.add_right_comm] at hrest
    exact ⟨more ++ more', hrest⟩

/-! ## How much is heard -/

/-- No reply is due for what a server has sent. -/
theorem Draining.filterMap_due?_replies (h : Draining w queue s₀ n ms replies s) :
    (addressedTo queue replies).filterMap Message.due? = [] := by
  refine List.filterMap_eq_nil_iff.2 fun m hm => Message.due?_of_metadata_eq_none ?_
  -- what was sent is due for something, and what is due has no metadata
  have hmem : Envelope.of (queue, m) ∈ ms.filterMap Message.due? :=
    h.due.mem (List.mem_map_of_mem (Queues.mem_addressedTo_iff.1 hm))
  obtain ⟨m', -, hdue⟩ := List.mem_filterMap.1 hmem
  exact Message.metadata_of_due? hdue

/-- What was heard is the beginning of what waited at first and what was sent to the queue since. -/
theorem Draining.eq_take (h : Draining w queue s₀ n ms replies s) :
    ms = (addressedTo queue s₀.bus.waiting ++ addressedTo queue replies).take n := by
  rw [← h.order]
  by_cases hnone : addressedTo queue s.bus.waiting = []
  · rw [hnone, List.append_nil, List.take_of_length_le h.atMost]
  · -- something waits, so as many were heard as polls were made
    rw [← h.busy hnone, List.take_left]

/-- Replies are due for none but the messages that waited at first. -/
theorem Draining.filterMap_due? (h : Draining w queue s₀ n ms replies s) :
    ms.filterMap Message.due? =
      ((addressedTo queue s₀.bus.waiting).take n).filterMap Message.due? := by
  have hnone : ∀ k, ((addressedTo queue replies).take k).filterMap Message.due? = [] := by
    intro k
    refine List.filterMap_eq_nil_iff.2 fun m hm => ?_
    exact List.filterMap_eq_nil_iff.1 h.filterMap_due?_replies m (List.mem_of_mem_take hm)
  conv => lhs; rw [h.eq_take]
  rw [List.take_append, List.filterMap_append, hnone, List.append_nil]

/-- No more replies are sent than messages waited at first. -/
theorem Draining.length_replies_le (h : Draining w queue s₀ n ms replies s) :
    replies.length ≤ s₀.bus.pending queue := by
  calc replies.length = (replies.map Envelope.of).length := (List.length_map _).symm
    _ ≤ (((addressedTo queue s₀.bus.waiting).take n).filterMap Message.due?).length := by
      rw [← h.filterMap_due?]
      exact h.due.length_le
    _ ≤ ((addressedTo queue s₀.bus.waiting).take n).length := List.length_filterMap_le ..
    _ ≤ s₀.bus.pending queue := List.length_take_le' ..

/-- What was heard and what waits is at most twice what waited at first. -/
theorem Draining.length_le (h : Draining w queue s₀ n ms replies s) :
    ms.length + s.bus.pending queue ≤ 2 * s₀.bus.pending queue := by
  -- lengths of the two sides of the order
  have hlength := congrArg List.length h.order
  rw [List.length_append, List.length_append] at hlength
  have hreplies := Nat.le_trans (Queues.length_addressedTo_le queue replies) h.length_replies_le
  unfold Queues.pending at hreplies ⊢
  omega

/-- After twice as many polls as messages waited at first, nothing waits. -/
theorem Draining.pending_eq_zero (h : Draining w queue s₀ n ms replies s)
    (hn : 2 * s₀.bus.pending queue ≤ n) : s.bus.pending queue = 0 := by
  by_cases hnone : addressedTo queue s.bus.waiting = []
  · rw [Queues.pending, hnone, List.length_nil]
  · -- if something waited, as many messages as polls would have been heard
    have hbusy := h.busy hnone
    have hle := h.length_le
    omega

/-- Twice as many polls as messages wait leave nothing that waits. -/
theorem pending_serveWaiting (w : Format) (queue : String) (s : Server Queues) :
    (s.serveWaiting w queue).bus.pending queue = 0 := by
  obtain ⟨replies, h⟩ := (Draining.refl w queue s).pollTimes 0 (2 * s.bus.pending queue)
  exact h.pending_eq_zero (Nat.le_of_eq (Nat.zero_add _).symm)

/-! ## Settling -/

/-- How a queue settles when a server polls it a number of times and nothing else is sent: `ms` are
    the messages that the server has heard. -/
structure Settles (w : Format) (queue : String) (s : Server Queues) (n : Nat) (ms : List Message)
    (s' : Server Queues) : Prop where
  /-- The server hears at most twice as many messages as waited at first. -/
  bounded : ms.length ≤ 2 * s.bus.pending queue
  /-- After that many polls nothing waits. -/
  emptied : 2 * s.bus.pending queue ≤ n → s'.bus.pending queue = 0
  /-- All that is sent is at most one reply for each of the messages that waited at first, were
      heard and name a queue, and exactly one if every reply can be written; and what is heard is
      what waited at first and then such replies. -/
  answered : ∃ replies, s'.bus.sent = s.bus.sent ++ replies ∧
    (replies.map Envelope.of).Sublist
      (((addressedTo queue s.bus.waiting).take n).filterMap Message.due?) ∧
    (WritesReplies w → replies.map Envelope.of =
      ((addressedTo queue s.bus.waiting).take n).filterMap Message.due?) ∧
    ms = (addressedTo queue s.bus.waiting ++ addressedTo queue replies).take n
  /-- Every message that is heard is counted. -/
  counted : s'.stats.handled + s'.stats.failed =
    s.stats.handled + s.stats.failed + .ofNat ms.length

/-- **A server never answers its own answers.** Whatever waits on its queue and on others at first,
    whatever the messages say, however they are written, and however often the server polls. -/
theorem settles_pollTimes (w : Format) (queue : String) (wait : UInt64) (s : Server Queues) (n : Nat) :
    Settles w queue s n (heard w Queues.transport queue wait n s)
      (s.pollTimes w Queues.transport queue wait n) := by
  obtain ⟨replies, h⟩ := (Draining.refl w queue s).pollTimes wait n
  rw [Nat.zero_add, List.nil_append, List.nil_append] at h
  have hdue := h.filterMap_due?
  exact ⟨Nat.le_trans (Nat.le_add_right ..) h.length_le, h.pending_eq_zero,
    ⟨replies, h.sent, hdue ▸ h.due, fun hall => (h.all hall).trans hdue, h.eq_take⟩, h.counted⟩

/-- A request whose reply is sent to the queue of the server itself, and a message of the type of
    replies that asks for one: the server hears two replies, and then nothing. -/
example :
    let asking (id type : String) (bytes : List UInt8) : Message :=
      (Message.plain id type bytes).withMetadata Message.replyToKey "orbit1"
    let opening := asking "1" "index.open" (Wire.request.encode (.openPlate "mars"))
    let q := (Queues.empty.send "orbit1" opening).send "orbit1" (asking "2" Reply.messageType [])
    let s : Server Queues := ⟨.new "/plates", .zero, q⟩
    (heard Wire.format Queues.transport "orbit1" 5 9 s).map (·.id) = ["1", "2", "1", "2"] ∧
      (s.pollTimes Wire.format Queues.transport "orbit1" 5 9).stats = ⟨0, 4, 9⟩ :=
  ⟨rfl, rfl⟩

end Server

end TileIndex
