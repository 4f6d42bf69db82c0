import TileIndex.Bus.Script
import TileIndex.Proofs.Bus.Queues
import TileIndex.Proofs.Bus.Waiting
import TileIndex.Protocol.Wire

/-!
# Calls and their replies

A call over a line sends its request and then listens on the reply queue. It drops every message
with another identifier, and ends with the first one that has its own, with the first failure to
listen, or at its deadline. What lies behind the reply stays on the queue, and no other queue is
touched. A request that cannot be written is not sent at all, and a call without a deadline may
never end.

What bytes stand for is up to the format, and so is the text that says why they stand for nothing.

## Main statements

- `Line.exists_call`: what a call asks of a transport, and what comes of it, whatever the transport
  does.
- `Rehearsal.picks_of_call`: what a call picks from queues with faults.
-/

universe u

namespace TileIndex

variable {τ : Type u}

/-! ## Records -/

/-- What a transport is asked for, and what comes of it. -/
inductive Deed
  | sent (queue : String) (m : Message) (result : Except TransportError Unit)
  | heard (queue : String) (heard : Heard)

/-- A transport with a record of what it is asked for. -/
def Transport.recorded (t : Transport τ) : Transport (τ × List Deed) where
  send queue m s :=
    let (result, s') := t.send queue m s.1
    (result, s', s.2 ++ [.sent queue m result])
  listen queue wait s :=
    let (heard, s') := t.listen queue wait s.1
    (heard, s', s.2 ++ [.heard queue heard])

/-- Listens on a queue, one after another: what they come to, and the state after them. -/
inductive Listened (t : Transport τ) (queue : String) : τ → List Heard → τ → Prop
  | nil (s : τ) : Listened t queue s [] s
  | cons {wait : UInt64} {s s₁ s' : τ} {h : Heard} {heard : List Heard} :
      t.listen queue wait s = (h, s₁) → Listened t queue s₁ heard s' →
      Listened t queue s (h :: heard) s'

namespace Line

/-! ## Waiting -/

/-- The time that listens take, in nanoseconds. -/
def spent : List Heard → Nat
  | [] => 0
  | h :: heard => h.elapsed.toNat * 1000000 + moment + spent heard

/-- Some time is left after some listens, or there is no deadline. -/
def InTime (left : Option Nat) (passed : List Heard) : Prop := ∀ n ∈ left, spent passed < n

/-- What comes of waiting for the reply to a call with some time left, or without a deadline: what
    the listens come to, and how they end. -/
inductive Awaited (id : String) (left : Option Nat) : List Heard → Except Failure Message → Prop
  /-- Something comes of a listen that begins in time. -/
  | settled (passed : List Heard) {h : Heard} {outcome : Except Failure Message} :
      (∀ p ∈ passed, outcome? id p.found = none) → InTime left passed →
      outcome? id h.found = some outcome → Awaited id left (passed ++ [h]) outcome
  /-- Nothing has come of any listen when no time is left. -/
  | expired (passed : List Heard) {n : Nat} :
      (∀ p ∈ passed, outcome? id p.found = none) → left = some n → n ≤ spent passed →
      Awaited id left passed (.error (.transport .timeout))

variable {w : Format} {l : Line} {t : Transport τ} {now : Duration} {id : String} {r : Request}
  {m : Message} {s s' : τ} {left : Option Nat} {outcome : Except Failure Message} {heard : List Heard}

/-- A listen of which nothing comes takes its time from what is left. -/
theorem Awaited.cons {h : Heard} (hleft : left ≠ some 0) (hh : outcome? id h.found = none)
    (hrest : Awaited id (left.map (leftAfter · h.elapsed)) heard outcome) :
    Awaited id left (h :: heard) outcome := by
  have hpassed : ∀ {passed : List Heard}, (∀ p ∈ passed, outcome? id p.found = none) →
      ∀ p ∈ h :: passed, outcome? id p.found = none := fun hp => List.forall_mem_cons.2 ⟨hh, hp⟩
  -- the listen is one more of those of which nothing came
  cases hrest with
  | settled passed hp hlt hout =>
    refine .settled (h :: passed) (hpassed hp) (fun n hn => ?_) hout
    obtain rfl := hn
    have hrest := hlt _ rfl
    simp only [leftAfter] at hrest
    rw [spent]
    omega
  | @expired _ n hp hn hle =>
    obtain ⟨n', rfl, rfl⟩ := Option.map_eq_some_iff.1 hn
    refine .expired _ (hpassed hp) rfl ?_
    rw [leftAfter] at hle
    rw [spent]
    omega

/-- The listens of a wait that ends are on the reply queue, and end as they should. -/
theorem Waits.awaited (h : Waits l t id left s heard outcome s') :
    Listened t l.replyQueue s heard s' ∧ Awaited id left heard outcome := by
  induction h with
  | expired s => exact ⟨.nil s, .expired [] (List.forall_mem_nil _) rfl (Nat.le_refl 0)⟩
  | @settled left _ _ _ _ hleft hlisten hout =>
    refine ⟨.cons hlisten (.nil _), .settled [] (List.forall_mem_nil _) (fun n hn => ?_) hout⟩
    -- there was time before the first listen, since the wait was not over
    obtain rfl := hn
    exact Nat.pos_of_ne_zero fun hzero => hleft (congrArg some hzero)
  | passed hleft hlisten hout _ ih => exact ⟨.cons hlisten ih.1, ih.2.cons hleft hout⟩

/-- A record of the listens leaves waiting as it is. -/
theorem Waits.recorded (h : Waits l t id left s heard outcome s') (log : List Deed) :
    Waits l t.recorded id left (s, log) heard outcome
      (s', log ++ heard.map (.heard l.replyQueue)) := by
  have hrecorded : ∀ {left s h s₁} log, t.listen l.replyQueue (waitMs left) s = (h, s₁) →
      t.recorded.listen l.replyQueue (waitMs left) (s, log) =
        (h, s₁, log ++ [.heard l.replyQueue h]) := by
    intro left s h s₁ log hlisten
    simp only [Transport.recorded, hlisten]
  induction h generalizing log with
  | expired s => exact (List.append_nil log).symm ▸ .expired (s, log)
  | settled hleft hlisten hout => exact .settled hleft (hrecorded log hlisten) hout
  | @passed _ _ _ _ h _ _ hleft hlisten hout _ ih =>
    refine .passed hleft (hrecorded log hlisten) hout ?_
    have hrest := ih (log ++ [.heard l.replyQueue h])
    rw [List.append_assoc] at hrest
    exact hrest

/-! ## Calls -/

/-- A listen that leaves a call waiting: it finds nothing, or a message with another identifier. -/
def Passes (id : String) (h : Heard) : Prop :=
  h.found = .ok none ∨ ∃ m, h.found = .ok (some m) ∧ m.id ≠ id

/-- Nothing comes of a listen only if it leaves the call waiting. -/
theorem passes_of_outcome? {h : Heard} (hh : outcome? id h.found = none) : Passes id h := by
  unfold outcome? at hh
  split at hh
  · cases hh
  · rename_i hnone
    exact .inl hnone
  · rename_i m hm
    split at hh
    · cases hh
    · rename_i hid
      exact .inr ⟨m, hm, hid⟩

/-- The deadline of a call that was made at some time has not passed after some listens. A moment
    passes before the first listen. -/
def BeforeDeadline (l : Line) (now : Duration) (heard : List Heard) : Prop :=
  ∀ left ∈ l.timeLeft? now, moment + spent heard < left

/-- How a call ends: what its send comes to, what the listens after it come to, and the result. -/
inductive Ended (w : Format) (l : Line) (now : Duration) (id : String) :
    Except TransportError Unit → List Heard → Except Failure Reply → Prop
  /-- The request is not sent, and nothing is listened to. -/
  | unsent (e : TransportError) : Ended w l now id (.error e) [] (.error (.transport e))
  /-- A message with the identifier is heard in time. -/
  | answered {passed : List Heard} {h : Heard} {m : Message} :
      (∀ p ∈ passed, Passes id p) → l.BeforeDeadline now passed →
      h.found = .ok (some m) → m.id = id → Ended w l now id (.ok ()) (passed ++ [h]) (replyIn w m)
  /-- A listen fails in time. -/
  | broken {passed : List Heard} {h : Heard} {e : TransportError} :
      (∀ p ∈ passed, Passes id p) → l.BeforeDeadline now passed →
      h.found = .error e → Ended w l now id (.ok ()) (passed ++ [h]) (.error (.transport e))
  /-- The deadline has passed. -/
  | expired {passed : List Heard} :
      (∀ p ∈ passed, Passes id p) → ¬l.BeforeDeadline now passed →
      Ended w l now id (.ok ()) passed (.error (.transport .timeout))

/-- The time that is left at the first listen is short of the time-out by a moment. -/
theorem inTime_iff {passed : List Heard} :
    InTime ((l.timeLeft? now).map (leftAfter · 0)) passed ↔ l.BeforeDeadline now passed := by
  unfold InTime BeforeDeadline
  cases l.timeLeft? now with
  | none => simp
  -- the moment before the first listen counts on either side
  | some n =>
    simp only [Option.map_some, Option.mem_some_iff, forall_eq', leftAfter, UInt64.toNat_zero]
    omega

/-- What the listens of a call come to after its request is sent is how it ends. -/
theorem Awaited.ended (h : Awaited id ((l.timeLeft? now).map (leftAfter · 0)) heard outcome) :
    Ended w l now id (.ok ()) heard (outcome.bind (replyIn w)) := by
  cases h with
  | @settled passed h _ hp hlt hout =>
    have hpassed : ∀ p ∈ passed, Passes id p := fun p hmem => passes_of_outcome? (hp p hmem)
    unfold outcome? at hout
    split at hout
    · rename_i e he
      obtain rfl := Option.some.inj hout
      exact .broken hpassed (inTime_iff.1 hlt) he
    · cases hout
    · rename_i m hm
      obtain ⟨hid, hsome⟩ := Option.ite_none_right_eq_some.1 hout
      obtain rfl := Option.some.inj hsome
      exact .answered hpassed (inTime_iff.1 hlt) hm hid
  | expired _ hp hn hle =>
    refine .expired (fun p hmem => passes_of_outcome? (hp p hmem)) fun hbefore => ?_
    exact absurd (inTime_iff.2 hbefore _ hn) (Nat.not_lt.2 hle)

/-- Listens that leave a call waiting bring no message with its identifier. -/
theorem id_ne_of_passes {passed : List Heard} (h : ∀ p ∈ passed, Passes id p) {m : Message}
    (hm : m ∈ messagesIn (passed.map (·.found))) : m.id ≠ id := by
  obtain ⟨found, hfound, hm⟩ := List.mem_filterMap.1 hm
  obtain ⟨p, hp, rfl⟩ := List.mem_map.1 hfound
  rcases h p hp with hnone | ⟨m', hm', hne⟩
  · rw [hnone] at hm
    cases hm
  · rw [hm'] at hm
    obtain rfl := Option.some.inj hm
    exact hne

/-- If a message with the identifier is heard, it is the last one, and makes the result. -/
theorem Ended.of_mem {sent : Except TransportError Unit} {result : Except Failure Reply}
    (h : Ended w l now id sent heard result) {m : Message}
    (hm : m ∈ messagesIn (heard.map (·.found))) (hid : m.id = id) :
    result = replyIn w m ∧ ∃ dropped, messagesIn (heard.map (·.found)) = dropped ++ [m] ∧
      ∀ d ∈ dropped, d.id ≠ id := by
  cases h with
  | unsent e => cases hm
  | @answered passed h m' hpassed _ hfound hid' =>
    have happend : messagesIn ((passed ++ [h]).map (·.found)) =
        messagesIn (passed.map (·.found)) ++ [m'] := by
      simp [messagesIn, hfound, messageIn]
    rw [happend] at hm ⊢
    rcases List.mem_append.1 hm with hold | hlast
    · exact absurd hid (id_ne_of_passes hpassed hold)
    · obtain rfl := List.mem_singleton.1 hlast
      exact ⟨rfl, _, rfl, fun d hd => id_ne_of_passes hpassed hd⟩
  -- the failed listen brought no message
  | @broken passed h e hpassed _ hfound =>
    have happend : messagesIn ((passed ++ [h]).map (·.found)) =
        messagesIn (passed.map (·.found)) := by
      simp [messagesIn, hfound, messageIn]
    rw [happend] at hm
    exact absurd hid (id_ne_of_passes hpassed hm)
  | expired hpassed _ => exact absurd hid (id_ne_of_passes hpassed hm)

/-- A call of which no listen fails, and which ends in time, has heard a message with its
    identifier. -/
theorem Ended.exists_mem {result : Except Failure Reply} (h : Ended w l now id (.ok ()) heard result)
    (hfound : ∀ h ∈ heard, ∃ found, h.found = .ok found) (htime : l.BeforeDeadline now heard) :
    ∃ m ∈ messagesIn (heard.map (·.found)), m.id = id := by
  cases h with
  | @answered passed h m _ _ hm hid =>
    refine ⟨m, ?_, hid⟩
    simp [messagesIn, hm, messageIn]
  -- none has failed
  | @broken passed h e _ _ herror =>
    obtain ⟨found, hok⟩ := hfound h (List.mem_append_right _ (List.mem_singleton_self h))
    rw [herror] at hok
    cases hok
  | expired _ hlate => exact absurd htime hlate

/-- What a call asks of a transport, and what comes of it: it sends its request, and listens on the
    reply queue until it ends. -/
theorem exists_call {result : Except Failure Reply} (hm : l.requestMessage w id r = .ok m)
    (h : l.call w t now id r s = some (result, s')) :
    ∃ sent s₁ heard, t.send l.requestQueue m s = (sent, s₁) ∧
      Listened t l.replyQueue s₁ heard s' ∧ Ended w l now id sent heard result ∧
      ∀ log, l.call w t.recorded now id r (s, log) = some (result, s',
        log ++ .sent l.requestQueue m sent :: heard.map (.heard l.replyQueue)) := by
  obtain ⟨⟨sent, s₁⟩, hsend⟩ : ∃ after, t.send l.requestQueue m s = after := ⟨_, rfl⟩
  have hrecorded : ∀ log, t.recorded.send l.requestQueue m (s, log) =
      (sent, s₁, log ++ [.sent l.requestQueue m sent]) := by
    intro log
    simp only [Transport.recorded, hsend]
  cases sent with
  | error e =>
    -- a request that is not sent is not waited for
    rw [call_of_send_error hm hsend] at h
    obtain ⟨rfl, rfl⟩ := Prod.mk.inj (Option.some.inj h)
    exact ⟨_, s₁, [], hsend, .nil s₁, .unsent e, fun log => call_of_send_error hm (hrecorded log)⟩
  | ok _ =>
    rw [call_of_send hm hsend] at h
    obtain ⟨⟨outcome, s₂⟩, hawait, hafter⟩ := Option.map_eq_some_iff.1 h
    obtain ⟨rfl, rfl⟩ := Prod.mk.inj hafter
    -- the wait has come to an end, so it is made of finitely many listens
    obtain ⟨heard, hwaits⟩ := exists_waits hawait
    obtain ⟨hlistened, hawaited⟩ := hwaits.awaited
    refine ⟨_, s₁, heard, hsend, hlistened, hawaited.ended, fun log => ?_⟩
    rw [call_of_send hm (hrecorded log), (hwaits.recorded _).awaitReply_eq, List.append_assoc]
    rfl

end Line

/-! ## Queues with faults -/

namespace Rehearsal

variable {s s' : Rehearsal} {queue other : String} {wait : UInt64} {heard : List Heard}

/-- A listen does what the script has for it, and leaves the queues as they are; or the script has
    nothing else, and it takes what is at the front of its queue. -/
theorem listen_cases {h : Heard} (hlisten : transport.listen queue wait s = (h, s')) :
    (∃ look, s.looks = look :: s'.looks ∧ s'.queues = s.queues ∧
      (look = .nothing ∧ h.found = .ok none ∨ ∃ e, look = .failure e ∧ h.found = .error e)) ∨
    (s.looks = .listen :: s'.looks ∨ s.looks = [] ∧ s'.looks = []) ∧
      h.found = .ok (s.queues.pop queue).1 ∧ s'.queues = (s.queues.pop queue).2 := by
  obtain ⟨hfound, hqueues⟩ := Queues.listen_eq_pop queue wait s.queues
  simp only [transport] at hlisten
  split at hlisten <;> rename_i hlooks <;> obtain ⟨rfl, rfl⟩ := Prod.mk.inj hlisten
  · exact .inr ⟨.inr ⟨hlooks, hlooks⟩, hfound, hqueues⟩
  · exact .inl ⟨_, hlooks, rfl, .inl ⟨rfl, rfl⟩⟩
  · exact .inl ⟨_, hlooks, rfl, .inr ⟨_, rfl, rfl⟩⟩
  · exact .inr ⟨.inl hlooks, hfound, hqueues⟩

/-- What a listen brings was at the front of its queue. -/
theorem addressedTo_listen_self {h : Heard} (hlisten : transport.listen queue wait s = (h, s')) :
    Queues.addressedTo queue s.queues.waiting =
      (messageIn h.found).toList ++ Queues.addressedTo queue s'.queues.waiting := by
  rcases listen_cases hlisten with ⟨look, -, hqueues, hlook⟩ | ⟨-, hfound, hqueues⟩
  · -- a listen of the script takes nothing off a queue
    have hnone : messageIn h.found = none := by
      rcases hlook with ⟨-, hfound⟩ | ⟨e, -, hfound⟩ <;> rw [hfound] <;> rfl
    rw [hnone, hqueues]
    rfl
  · rw [hfound, hqueues]
    exact s.queues.addressedTo_pop_self queue

/-- A listen leaves the other queues as they are. -/
theorem addressedTo_listen_of_ne {h : Heard} (hne : queue ≠ other)
    (hlisten : transport.listen queue wait s = (h, s')) :
    Queues.addressedTo other s'.queues.waiting = Queues.addressedTo other s.queues.waiting := by
  rcases listen_cases hlisten with ⟨look, -, hqueues, -⟩ | ⟨-, -, hqueues⟩
  · rw [hqueues]
  · rw [hqueues, s.queues.addressedTo_pop_of_ne hne]

/-- What listens bring was at the front of their queue. -/
theorem addressedTo_listened_self (h : Listened transport queue s heard s') :
    Queues.addressedTo queue s.queues.waiting =
      messagesIn (heard.map (·.found)) ++ Queues.addressedTo queue s'.queues.waiting := by
  induction h with
  | nil s => rfl
  | @cons _ _ _ _ h heard hlisten _ ih =>
    have hcons : messagesIn ((h :: heard).map (·.found)) =
        (messageIn h.found).toList ++ messagesIn (heard.map (·.found)) := by
      cases hm : messageIn h.found <;> simp [messagesIn, hm]
    rw [addressedTo_listen_self hlisten, ih, hcons, List.append_assoc]

/-- Listens leave the other queues as they are. -/
theorem addressedTo_listened_of_ne (hne : queue ≠ other) (h : Listened transport queue s heard s') :
    Queues.addressedTo other s'.queues.waiting = Queues.addressedTo other s.queues.waiting := by
  induction h with
  | nil s => rfl
  | cons hlisten _ ih => rw [ih, addressedTo_listen_of_ne hne hlisten]

/-- The replies that go on a queue as soon as a message is sent. -/
def repliesTo (m : Message) (deliveries : List Delivery) (queue : String) : List Message :=
  (deliveries.filter (·.queue = queue)).map fun d =>
    Message.plain (d.id.getD m.id) Reply.messageType d.payload

/-- Replies that are delivered go behind what waits. -/
theorem addressedTo_deliver (m : Message) (deliveries : List Delivery) (queue : String)
    (q : Queues) :
    Queues.addressedTo queue (deliveries.foldl (deliver m) q).waiting =
      Queues.addressedTo queue q.waiting ++ repliesTo m deliveries queue := by
  -- induction on what is still to be delivered, with all that was delivered before on the queues
  induction deliveries generalizing q with
  | nil => exact (List.append_nil _).symm
  | cons d deliveries ih =>
    rw [List.foldl_cons, ih]
    by_cases hd : d.queue = queue
    · subst hd
      rw [deliver, Queues.addressedTo_send_self, List.append_assoc]
      simp [repliesTo]
    · rw [deliver, Queues.addressedTo_send_of_ne q hd]
      simp [repliesTo, hd]

/-! ## Calls that end -/

/-- Some listen to come fails, or a message with an identifier waits: a call that waits for the
    message ends even if it has no deadline. -/
def Ready (queue id : String) (s : Rehearsal) : Prop :=
  (∃ e, .failure e ∈ s.looks) ∨ ∃ m ∈ Queues.addressedTo queue s.queues.waiting, m.id = id

/-- How much is left to be listened to. -/
def toHear (queue : String) (s : Rehearsal) : Nat :=
  s.looks.length + (Queues.addressedTo queue s.queues.waiting).length

/-- A listen for the reply to a call that is ready ends the call, or brings its end nearer. -/
theorem Ready.listen {id : String} {h : Heard} (hready : Ready queue id s)
    (hlisten : transport.listen queue wait s = (h, s')) (hout : Line.outcome? id h.found = none) :
    Ready queue id s' ∧ toHear queue s' < toHear queue s := by
  have hwaiting := addressedTo_listen_self hlisten
  unfold Ready toHear at *
  rw [hwaiting] at hready ⊢
  rcases listen_cases hlisten with ⟨look, hlooks, -, hlook⟩ | ⟨hlooks, hfound, -⟩
  · rcases hlook with ⟨rfl, hfound⟩ | ⟨e, -, hfound⟩
    · -- the listen is passed, and the failure or the message is still to come
      simp only [hlooks, hfound, messageIn] at hready ⊢
      exact ⟨by simpa using hready, by simp⟩
    · rw [hfound] at hout
      cases hout
  · -- the message that was taken has another identifier, or something would have come of it
    have htaken : ∀ m, messageIn h.found = some m → m.id ≠ id := by
      intro m hm hid
      rw [hfound, messageIn] at hm
      rw [hfound, hm] at hout
      simp [Line.outcome?, hid] at hout
    have hstill : Ready queue id s' := by
      rcases hready with ⟨e, he⟩ | ⟨m, hm, hid⟩
      · rcases hlooks with hlooks | ⟨hlooks, -⟩ <;> rw [hlooks] at he
        · exact .inl ⟨e, by simpa using he⟩
        · cases he
      · rcases List.mem_append.1 hm with hm | hm
        · exact absurd hid (htaken m (Option.mem_toList.1 hm))
        · exact .inr ⟨m, hm, hid⟩
    refine ⟨hstill, ?_⟩
    rcases hlooks with hlooks | ⟨hlooks, hlooks'⟩
    · simp only [hlooks, List.length_cons, List.length_append]
      omega
    · -- no failure is to come, so the message waits, and something was taken off the queue
      have hsome : messageIn h.found ≠ none := by
        intro hnone
        rw [hnone] at hready hwaiting
        rw [hfound, messageIn] at hnone
        rcases s.queues.pop_cases queue with ⟨-, hempty⟩ | ⟨m, _, _, -, -, hpop⟩
        · rw [hempty] at hwaiting
          obtain ⟨m, hm, -⟩ : ∃ m ∈ Queues.addressedTo queue s'.queues.waiting, m.id = id := by
            simpa [hlooks] using hready
          rw [(List.append_eq_nil_iff.1 hwaiting.symm).2] at hm
          cases hm
        · simp [hpop] at hnone
      obtain ⟨m, hm⟩ := Option.ne_none_iff_exists'.1 hsome
      simp only [hlooks, hlooks', hm, Option.toList_some, List.length_append, List.length_singleton]
      omega

/-- A call that is ready ends, with a deadline or without one. -/
theorem isSome_awaitReply {l : Line} {id : String} (left : Option Nat)
    (h : Ready l.replyQueue id s) : (l.awaitReply transport id left s).isSome := by
  -- by induction on what is left to be listened to
  induction hn : toHear l.replyQueue s using Nat.strongRecOn generalizing left s with
  | ind n ih =>
    rw [Line.awaitReply]
    split
    · rfl
    · dsimp only
      split
      · rfl
      · -- the call is still ready, and less is left to be listened to
        rename_i hout
        obtain ⟨hready, hlt⟩ := h.listen rfl hout
        exact ih _ (hn ▸ hlt) _ hready rfl

/-! ## What a call picks -/

/-- What the next send comes to. -/
def sending (s : Rehearsal) : Except TransportError Unit :=
  match s.sendFailure with
  | some e => .error e
  | none => .ok ()

/-- What a call picks from queues with faults: what it heard until its result, and what it left. -/
structure Picks (w : Format) (l : Line) (now : Duration) (id : String) (r : Request) (m : Message)
    (s : Rehearsal) (heard : List Heard) (result : Except Failure Reply) (s' : Rehearsal) :
    Prop where
  /-- The request goes out under the identifier, with its operation and the reply queue on it. -/
  labelled : m.id = id ∧ m.type = r.operation.name ∧ m.replyTo? = some l.replyQueue ∧
    w.request.write r = .ok m.payload
  /-- If it cannot be sent, the call fails with the failure, hears nothing and changes nothing. -/
  unsent : ∀ e, s.sendFailure = some e → result = .error (.transport e) ∧ heard = [] ∧ s' = s
  /-- The call ends with a message that has the identifier, with the failure of a listen, or at its
      deadline, whichever is first. -/
  ended : Line.Ended w l now id s.sending heard result
  /-- What it heard is what it took off the front of the reply queue. -/
  consumed : s.sendFailure = none →
    Queues.addressedTo l.replyQueue s.queues.waiting ++ repliesTo m s.deliveries l.replyQueue =
      messagesIn (heard.map (·.found)) ++ Queues.addressedTo l.replyQueue s'.queues.waiting
  /-- The request goes on its queue. -/
  posted : s.sendFailure = none →
    Queues.addressedTo l.requestQueue s'.queues.waiting =
      Queues.addressedTo l.requestQueue s.queues.waiting ++ [m] ++
        repliesTo m s.deliveries l.requestQueue
  /-- Nothing is taken off the other queues. -/
  others : s.sendFailure = none → ∀ queue, queue ≠ l.requestQueue → queue ≠ l.replyQueue →
    Queues.addressedTo queue s'.queues.waiting =
      Queues.addressedTo queue s.queues.waiting ++ repliesTo m s.deliveries queue
  /-- A message with the identifier is not lost once it is heard: it makes the result. -/
  kept : ∀ own ∈ messagesIn (heard.map (·.found)), own.id = id →
    (∀ reply, w.reply.read own.payload = .ok reply → result = .ok reply) ∧
      (∀ text, w.reply.read own.payload = .error text → result = .error (.codec text))
  /-- The first message with the identifier makes the result if no listen fails and the deadline
      does not pass, and what lies behind it stays where it is. -/
  own : ∀ dropped own rest, s.sendFailure = none →
    Queues.addressedTo l.replyQueue s.queues.waiting ++ repliesTo m s.deliveries l.replyQueue =
      dropped ++ own :: rest →
    (∀ d ∈ dropped, d.id ≠ id) → own.id = id → (∀ h ∈ heard, ∃ found, h.found = .ok found) →
    l.BeforeDeadline now heard →
      result = Line.replyIn w own ∧ Queues.addressedTo l.replyQueue s'.queues.waiting = rest

variable {w : Format} {l : Line} {now : Duration} {id : String} {r : Request} {m : Message}
  {result : Except Failure Reply}

/-- A send that succeeds puts its message on the queue, and the replies to it behind. -/
theorem addressedTo_send {sent : Except TransportError Unit}
    (h : s.sendFailure = none) (hsend : transport.send queue m s = (sent, s')) :
    Queues.addressedTo other s'.queues.waiting =
      Queues.addressedTo other s.queues.waiting ++ (if queue = other then [m] else []) ++
        repliesTo m s.deliveries other := by
  simp only [transport, h] at hsend
  obtain ⟨rfl, rfl⟩ := Prod.mk.inj hsend
  rw [addressedTo_deliver]
  split
  · rename_i hqueue
    rw [hqueue, Queues.addressedTo_send_self]
  · rename_i hqueue
    rw [Queues.addressedTo_send_of_ne _ hqueue, List.append_nil]

/-- A send that fails changes nothing. -/
theorem send_of_sendFailure {e : TransportError} (h : s.sendFailure = some e) :
    transport.send queue m s = (.error e, s) := by
  simp only [transport, h]

/-- What the next send comes to does not depend on what is sent. -/
theorem fst_send (queue : String) (m : Message) (s : Rehearsal) :
    (transport.send queue m s).1 = s.sending := by
  cases h : s.sendFailure with
  | some e => rw [send_of_sendFailure h, sending, h]
  | none => simp only [transport, sending, h]

/-- A call that sends its request, listens on its reply queue and ends so picks its own reply. -/
theorem Picks.of_ended {s₁ : Rehearsal} (hne : l.requestQueue ≠ l.replyQueue)
    (hm : l.requestMessage w id r = .ok m)
    (hsend : transport.send l.requestQueue m s = (s.sending, s₁))
    (hlistened : Listened transport l.replyQueue s₁ heard s')
    (hended : Line.Ended w l now id s.sending heard result) :
    Picks w l now id r m s heard result s' := by
  have hconsumed : s.sendFailure = none →
      Queues.addressedTo l.replyQueue s.queues.waiting ++ repliesTo m s.deliveries l.replyQueue =
        messagesIn (heard.map (·.found)) ++ Queues.addressedTo l.replyQueue s'.queues.waiting := by
    intro hnone
    rw [← addressedTo_listened_self hlistened, addressedTo_send hnone hsend, if_neg hne,
      List.append_nil]
  refine
    { labelled := ⟨Line.id_requestMessage hm, Line.type_requestMessage hm,
        Line.replyTo?_requestMessage hm, Line.write_requestMessage hm⟩
      unsent := ?unsent
      ended := hended
      consumed := hconsumed
      posted := ?posted
      others := ?others
      kept := ?kept
      own := ?own }
  case unsent =>
    intro e he
    rw [send_of_sendFailure he] at hsend
    obtain ⟨hsending, rfl⟩ := Prod.mk.inj hsend
    rw [← hsending] at hended
    cases hended
    cases hlistened
    exact ⟨rfl, rfl, rfl⟩
  case posted =>
    intro hnone
    rw [addressedTo_listened_of_ne hne.symm hlistened, addressedTo_send hnone hsend, if_pos rfl]
  case others =>
    intro hnone queue hrequest hreply
    rw [addressedTo_listened_of_ne hreply.symm hlistened, addressedTo_send hnone hsend,
      if_neg hrequest.symm, List.append_nil]
  case kept =>
    intro own hown hid
    -- the message is the last that was heard, so the call ended with it
    obtain ⟨rfl, -⟩ := hended.of_mem hown hid
    exact ⟨fun _ => Line.replyIn_of_read, fun _ => Line.replyIn_of_read_error⟩
  case own =>
    intro dropped own rest hnone hwaiting hdropped hid hfound htime
    have hsending : s.sending = .ok () := by rw [sending, hnone]
    rw [hsending] at hended
    -- some message with the identifier is heard, and there is only one that is first
    obtain ⟨own', hown', hid'⟩ := hended.exists_mem hfound htime
    obtain ⟨hresult, dropped', hheard, hdropped'⟩ := hended.of_mem hown' hid'
    have hsplit : dropped' ++ own' :: Queues.addressedTo l.replyQueue s'.queues.waiting =
        dropped ++ own :: rest := by
      rw [← hwaiting, hconsumed hnone, hheard, List.append_assoc]
      rfl
    have hskip : ∀ {before : List Message} {first : Message} {after : List Message},
        (∀ d ∈ before, d.id ≠ id) → first.id = id →
          (before ++ first :: after).dropWhile (·.id ≠ id) = first :: after := by
      intro before first after hbefore hfirst
      rw [List.dropWhile_append_of_pos (by simpa using hbefore),
        List.dropWhile_cons_of_neg (by simpa using hfirst)]
    -- both are the first of the same list with the identifier
    have hfirst := congrArg (List.dropWhile (·.id ≠ id)) hsplit
    rw [hskip hdropped' hid', hskip hdropped hid] at hfirst
    obtain ⟨rfl, rfl⟩ := List.cons.inj hfirst
    exact ⟨hresult, rfl⟩

/-- What a call on queues with faults does, whatever the queues hold, whatever they are told to do,
    and however the request and the replies are written. -/
structure PicksOwn (w : Format) (l : Line) (now : Duration) (id : String) (r : Request)
    (s : Rehearsal) : Prop where
  /-- A request that cannot be written fails the call, and nothing is asked of the queues. -/
  unwritten : ∀ text, l.requestMessage w id r = .error text →
    call w l now id r s = some (.error (.codec text), s) ∧
      ∀ log, l.call w transport.recorded now id r (s, log) = some (.error (.codec text), s, log)
  /-- The call has a result if it has a deadline. Without one it still has a result if the send or a
      listen to come fails, or if its own reply is among the messages on the reply queue. -/
  returns : ∀ m, l.requestMessage w id r = .ok m →
    (l.timeLeft? now).isSome ∨ s.sendFailure.isSome ∨ (∃ e, .failure e ∈ s.looks) ∨
      (∃ own ∈ Queues.addressedTo l.replyQueue s.queues.waiting ++
        repliesTo m s.deliveries l.replyQueue, own.id = id) →
    (call w l now id r s).isSome
  /-- The result is picked so. All that is asked of the queues is one send, of the request, and
      listens on the reply queue. -/
  picks : ∀ m result s', l.requestMessage w id r = .ok m →
    call w l now id r s = some (result, s') →
      ∃ heard, Picks w l now id r m s heard result s' ∧
        ∀ log, l.call w transport.recorded now id r (s, log) =
          some (result, s', log ++ .sent l.requestQueue m s.sending ::
            heard.map (.heard l.replyQueue))

/-- A send that succeeds leaves a call ready whose reply waits or comes with it. -/
theorem Ready.of_send (hne : l.requestQueue ≠ l.replyQueue) (hnone : s.sendFailure = none)
    (hsend : transport.send l.requestQueue m s = (.ok (), s'))
    (h : (∃ e, .failure e ∈ s.looks) ∨ ∃ own ∈ Queues.addressedTo l.replyQueue s.queues.waiting ++
      repliesTo m s.deliveries l.replyQueue, own.id = id) : Ready l.replyQueue id s' := by
  have hwaiting : Queues.addressedTo l.replyQueue s'.queues.waiting =
      Queues.addressedTo l.replyQueue s.queues.waiting ++ repliesTo m s.deliveries l.replyQueue := by
    rw [addressedTo_send hnone hsend, if_neg hne, List.append_nil]
  rcases h with ⟨e, he⟩ | hown
  · simp only [transport, hnone] at hsend
    obtain ⟨-, rfl⟩ := Prod.mk.inj hsend
    exact .inl ⟨e, he⟩
  · exact .inr (hwaiting ▸ hown)

/-- **A call picks its own reply**, over any line with different queues, from any queues with
    faults, and in any format. -/
theorem picks_of_call (w : Format) (l : Line) (now : Duration) (id : String) (r : Request)
    (s : Rehearsal) (h : l.requestQueue ≠ l.replyQueue) : PicksOwn w l now id r s := by
  refine ⟨?unwritten, ?returns, ?picks⟩
  case unwritten =>
    exact fun text htext => ⟨Line.call_of_write_error htext transport now s,
      fun log => Line.call_of_write_error htext transport.recorded now (s, log)⟩
  case returns =>
    intro m hm hends
    rcases hends with hdeadline | hends
    · exact Line.isSome_call hdeadline w transport id r s
    · cases hfailure : s.sendFailure with
      | some e =>
        rw [call, Line.call_of_send_error hm (send_of_sendFailure hfailure)]
        rfl
      | none =>
        obtain ⟨⟨sent, s₁⟩, hsend⟩ : ∃ after, transport.send l.requestQueue m s = after := ⟨_, rfl⟩
        have hsent := fst_send l.requestQueue m s
        rw [hsend, sending, hfailure] at hsent
        obtain rfl : sent = .ok () := hsent
        rw [hfailure] at hends
        have hready := Ready.of_send h hfailure hsend (hends.resolve_left nofun)
        rw [call, Line.call_of_send hm hsend, Option.isSome_map]
        exact isSome_awaitReply _ hready
  case picks =>
    intro m result s' hm hcall
    obtain ⟨sent, s₁, heard, hsend, hlistened, hended, hlog⟩ := Line.exists_call hm hcall
    -- what a send comes to is laid down, whatever is sent
    obtain rfl : sent = s.sending := by rw [← fst_send l.requestQueue m s, hsend]
    exact ⟨heard, .of_ended h hm hsend hlistened hended, hlog⟩

/-- A late reply waits before the call, its own reply comes twice, and the first listen finds
    nothing. The call has no deadline. -/
theorem picks_of_call_after_late_reply :
    let l : Line := ⟨"orbit1", "replies", .longest⟩
    let late : Message := .plain "1" Reply.messageType (Wire.reply.encode .done)
    let own : Delivery := ⟨"replies", none, Wire.reply.encode (.levels 4)⟩
    let s : Rehearsal := ⟨Queues.empty.send "replies" late, none, [own, own], [.nothing], []⟩
    l.requestQueue ≠ l.replyQueue ∧ l.timeLeft? .zero = none ∧
      PicksOwn Wire.format l .zero "2" (.onPlate 7 .numLevels) s := by
  intro l late own s
  have hne : l.requestQueue ≠ l.replyQueue := by decide
  exact ⟨hne, by decide, picks_of_call Wire.format l .zero "2" (.onPlate 7 .numLevels) s hne⟩

end Rehearsal

end TileIndex
