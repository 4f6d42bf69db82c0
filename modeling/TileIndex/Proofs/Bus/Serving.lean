import TileIndex.Bus.Script
import TileIndex.Proofs.Bus.Queues
import TileIndex.Proofs.Bus.Waiting
import TileIndex.Proofs.Service.Registry
import TileIndex.Protocol.Wire
import TileIndex.Server

/-!
# What a server does with what it hears

A server that follows a script hears some messages, and between them nothing and failures. Every
message that names a queue for its reply gets one reply there, whether or not it carries a request
that can be carried out, and every other message gets none. A message counts as handled if a result
was delivered for it, and as failed otherwise. The service is where the requests among the messages
have led it.

All of it holds of every format whose replies come back from their bytes as they were. How requests
are written does not matter: what a message asks for is whatever the format reads in it.

## Main statements

- `Server.serve_of_write_error`: a reply that cannot be written is not sent.
- `Server.Accounts.serve`: a message that is served is accounted for.
- `Server.accounts_pollTimes`: so is everything that a script brings.
-/

universe u

namespace TileIndex

/-! ## Messages that are heard -/

variable {w : Format}

/-- The request that a message brings to a service: it is labelled with the operation of the
    request, and names a queue for the reply. -/
def Message.request? (w : Format) (m : Message) : Option Request :=
  (w.request.read m.payload).toOption.filter fun r =>
    m.replyTo?.isSome && r.operation.name = m.type

/-- Why a message that asks for a reply brings no request: its payload cannot be read, or the
    request in it has another label. -/
def Message.refusal (w : Format) (m : Message) : Refusal :=
  match w.request.read m.payload with
  | .error complaint => .undecodable m.type complaint
  | .ok r => .mislabelled m.type r.operation

/-- The requests that messages bring to a service, in order. -/
def requestsIn (w : Format) (ms : List Message) : List Request := ms.filterMap (Message.request? w)

/-- The messages that name a queue for the reply, in order. -/
def answerable (ms : List Message) : List Message := ms.filter (·.replyTo?.isSome)

/-- A message brings the request that is read in it, under the conditions on label and reply queue. -/
theorem Message.request?_eq_some_iff {m : Message} {r : Request} :
    m.request? w = some r ↔ w.request.read m.payload = .ok r ∧ m.replyTo?.isSome = true ∧
      r.operation.name = m.type := by
  cases hread : w.request.read m.payload with
  | error complaint => simp [request?, hread, Except.toOption]
  | ok r' => simp [request?, hread, Except.toOption, Option.filter_eq_some_iff]

/-- A message without a queue for its reply brings no request. -/
theorem Message.request?_of_replyTo?_eq_none {m : Message} (h : m.replyTo? = none) :
    m.request? w = none := by
  rw [Option.eq_none_iff_forall_ne_some]
  intro r hr
  have := (request?_eq_some_iff.1 hr).2.1
  simp [h] at this

/-- Either reason to refuse a message is that it is malformed. -/
theorem Message.fault_refusal (w : Format) (m : Message) :
    (m.refusal w).fault = ⟨.malformed, (m.refusal w).message⟩ := by
  unfold refusal
  split <;> rfl

theorem requestsIn_concat (w : Format) (ms : List Message) (m : Message) :
    requestsIn w (ms ++ [m]) = requestsIn w ms ++ (m.request? w).toList :=
  filterMap_concat (Message.request? w) ms m

/-! ## Replies -/

/-- A reply has the identifier of the message, and no metadata. -/
theorem Message.reply_eq_ok {m outgoing : Message} {type : String} {reply : Reply}
    (h : m.reply type w.reply reply = .ok outgoing) :
    ∃ bytes, w.reply.write reply = .ok bytes ∧ outgoing = .plain m.id type bytes :=
  carrying_eq_ok h

/-- Where replies come back as they were, a reply can be written, and reads as what it is. -/
theorem Message.exists_reply (hw : w.reply.RoundTrips) (m : Message) (type : String)
    (reply : Reply) :
    ∃ outgoing, m.reply type w.reply reply = .ok outgoing ∧ outgoing.id = m.id ∧
      outgoing.type = type ∧ outgoing.metadata = none ∧
        w.reply.read outgoing.payload = .ok reply := by
  obtain ⟨bytes, hwrite, hread⟩ := hw reply
  refine ⟨.plain m.id type bytes, ?_, rfl, rfl, rfl, hread⟩
  simp only [Message.reply, carrying, hwrite, Except.map]

namespace Server

/-! ## Answers -/

/-- A message that brings a request gets the reply of the service. -/
theorem answer_of_request? {m : Message} {r : Request} (h : m.request? w = some r) (s : Service) :
    answer w s m = s.handle r := by
  obtain ⟨hread, -, hlabel⟩ := Message.request?_eq_some_iff.1 h
  simp only [answer, hread, if_pos hlabel]

/-- A message that asks for a reply and brings no request is refused, and leaves the service as it
    was. -/
theorem answer_of_request?_eq_none {m : Message} (hqueue : m.replyTo?.isSome = true)
    (h : m.request? w = none) (s : Service) : answer w s m = (.fault (m.refusal w).fault, s) := by
  cases hread : w.request.read m.payload with
  | error complaint => simp only [answer, Message.refusal, hread]
  | ok r =>
    have hlabel : r.operation.name ≠ m.type := by
      intro hlabel
      rw [Message.request?_eq_some_iff.2 ⟨hread, hqueue, hlabel⟩] at h
      cases h
    simp only [answer, Message.refusal, hread, if_neg hlabel]

/-- An answer takes the service to where the request of the message leads it, if it brings one. -/
theorem run_toList_request? {m : Message} (hqueue : m.replyTo?.isSome = true) (s : Service) :
    s.run (m.request? w).toList = (answer w s m).2 := by
  cases hr : m.request? w with
  | none =>
    rw [answer_of_request?_eq_none hqueue hr]
    rfl
  | some r =>
    rw [answer_of_request? hr]
    rfl

/-! ## Serving and polling -/

section

variable {τ : Type u} {m outgoing : Message} {queue text : String}

/-- A message without a queue for its reply is counted as failed, and nothing else comes of it. -/
theorem serve_of_replyTo?_eq_none (h : m.replyTo? = none) (t : Transport τ) (server : Server τ) :
    server.serve w t m = { server with stats := server.stats.count false } := by
  simp only [serve, h]

/-- A reply that cannot be written is counted as failed and nothing is sent, but what the request
    did to the service stays. -/
theorem serve_of_write_error (h : m.replyTo? = some queue) (t : Transport τ) {server : Server τ}
    (hwrite : m.reply Reply.messageType w.reply (answer w server.service m).1 = .error text) :
    server.serve w t m =
      ⟨(answer w server.service m).2, server.stats.count false, server.bus⟩ := by
  simp only [serve, h, hwrite]

/-- A reply that can be written is put on the queue that the message names. -/
theorem serve_of_write_ok (h : m.replyTo? = some queue) {s : Server Queues}
    (hwrite : m.reply Reply.messageType w.reply (answer w s.service m).1 = .ok outgoing) :
    s.serve w Queues.transport m =
      ⟨(answer w s.service m).2, s.stats.count !(answer w s.service m).1.isFault,
        s.bus.send queue outgoing⟩ := by
  simp only [serve, h, hwrite, Queues.transport]

/-- The server with one more poll counted. -/
def polled (s : Server τ) : Server τ :=
  { s with stats := { s.stats with polls := s.stats.polls + 1 } }

/-- A poll of queues in memory serves the message that it takes off, if there is one. -/
theorem poll_eq (s : Server Queues) (queue : String) (wait : UInt64) :
    s.poll w Queues.transport queue wait =
      match (s.bus.pop queue).1 with
      | some m => { s.polled with bus := (s.bus.pop queue).2 }.serve w Queues.transport m
      | none => { s.polled with bus := (s.bus.pop queue).2 } := by
  obtain ⟨hfound, hbus⟩ := Queues.listen_eq_pop queue wait s.bus
  simp only [poll, hfound, hbus]
  cases (s.bus.pop queue).1 <;> rfl

end

end Server

/-! ## Attempts -/

/-- What a reply that was to be sent looks like from outside: its queue, its identifier, its type
    and its metadata. -/
def Attempt.envelope (a : Attempt) : String × String × String × Option (List (String × String)) :=
  (a.queue, a.message.id, a.message.type, a.message.metadata)

/-- Whether a result was delivered. -/
def Attempt.succeeded (w : Format) (a : Attempt) : Bool :=
  a.delivered && (w.reply.read a.message.payload).toOption.any (!·.isFault)

/-- What a coming send of a script comes to. -/
theorem Playback.send_eq (queue : String) (m : Message) (b : Playback) :
    transport.send queue m b =
      (match b.sends.head?.join with
        | some e => .error e
        | none => .ok (),
      { b with sends := b.sends.tail }.note queue m b.sends.head?.join.isNone) := by
  obtain ⟨listens, sends, attempts, asked⟩ := b
  rcases sends with _ | ⟨_ | e, sends⟩ <;> rfl

namespace Server

/-- The attempt to send a reply next. -/
def attempt (server : Server Playback) (queue : String) (outgoing : Message) : Attempt where
  queue := queue
  message := outgoing
  delivered := server.bus.sends.head?.join.isNone

/-- A message that asks for a reply is answered with one attempt to send, which counts. -/
theorem serve_of_replyTo? {m outgoing : Message} {queue : String} (h : m.replyTo? = some queue)
    {server : Server Playback}
    (hwrite : m.reply Reply.messageType w.reply (answer w server.service m).1 = .ok outgoing)
    (hread : w.reply.read outgoing.payload = .ok (answer w server.service m).1) :
    server.serve w Playback.transport m =
      ⟨(answer w server.service m).2,
        server.stats.count ((server.attempt queue outgoing).succeeded w),
        { server.bus with
          sends := server.bus.sends.tail
          attempts := server.bus.attempts ++ [server.attempt queue outgoing] }⟩ := by
  -- whether the attempt counts can be told from the message that was sent
  have hsucceeded : (server.attempt queue outgoing).succeeded w =
      (server.bus.sends.head?.join.isNone && !(answer w server.service m).1.isFault) := by
    simp only [Attempt.succeeded, attempt, hread]
    rfl
  rw [hsucceeded]
  simp only [serve, h, hwrite, Playback.send_eq, attempt]
  cases server.bus.sends.head?.join with
  | none => rfl
  | some e => rfl

/-- Serving plays no listen of the script. -/
theorem listens_serve (w : Format) (server : Server Playback) (m : Message) :
    (server.serve w Playback.transport m).bus.listens = server.bus.listens := by
  cases hm : m.replyTo? with
  | none => rw [serve_of_replyTo?_eq_none hm]
  | some queue =>
    -- a reply that cannot be written is dropped, and the script is not touched either
    cases hwrite : m.reply Reply.messageType w.reply (answer w server.service m).1 with
    | error text => rw [serve_of_write_error hm _ hwrite]
    | ok outgoing =>
      simp only [serve, hm, hwrite, Playback.send_eq]
      cases server.bus.sends.head?.join <;> rfl

/-! ## Accounts -/

/-- What a server of the service `s` has done with the messages `ms` that it has heard, when the
    outcomes of sends are laid down in `sends`. -/
structure Accounts (w : Format) (s : Service) (sends : List (Option TransportError))
    (ms : List Message) (server : Server Playback) : Prop where
  /-- There is one attempt to send a reply for every message that names a queue for it, and none for
      the others, in the order in which the messages were heard. -/
  attempted : server.bus.attempts.map Attempt.envelope =
    ms.filterMap fun m => m.replyTo?.map fun queue => (queue, m.id, Reply.messageType, none)
  /-- The reply is what the service has for the request of the message after those of the messages
      before, or says why the message is malformed. -/
  answered : ∀ before m after, ms = before ++ m :: after → m.replyTo?.isSome = true →
    ∃ a reply, server.bus.attempts[(answerable before).length]? = some a ∧
      w.reply.read a.message.payload = .ok reply ∧
      (∀ r, m.request? w = some r → reply = ((s.run (requestsIn w before)).handle r).1) ∧
      (m.request? w = none → reply = .fault ⟨.malformed, (m.refusal w).message⟩)
  /-- What becomes of a reply is what is laid down for it. -/
  delivered : ∀ (i : Nat) (a : Attempt), server.bus.attempts[i]? = some a →
    a.delivered = sends[i]?.join.isNone
  /-- The service is where the requests of the messages have led it, delivered or not. -/
  service : server.service = s.run (requestsIn w ms)
  /-- Every message is counted once. -/
  counted : server.stats.handled + server.stats.failed = .ofNat ms.length
  /-- The messages that were handled are those for which a result was delivered. -/
  handled : server.stats.handled = .ofNat (server.bus.attempts.countP (Attempt.succeeded w))
  /-- What is laid down for the sends to come. -/
  later : server.bus.sends = sends.drop server.bus.attempts.length

variable {s : Service} {sends : List (Option TransportError)} {ms : List Message}
  {server : Server Playback}

/-- A server that has heard nothing has done nothing. -/
theorem Accounts.new (w : Format) (s : Service)
    (listens : List (Except TransportError (Option Message)))
    (sends : List (Option TransportError)) :
    Accounts w s sends [] ⟨s, .zero, .ofScript listens sends⟩ where
  attempted := rfl
  answered before m after h := by simp at h
  delivered i a h := by simp [Playback.ofScript] at h
  service := rfl
  counted := rfl
  handled := rfl
  later := rfl

/-- There are as many attempts as messages that ask for a reply. -/
theorem Accounts.length_attempts (h : Accounts w s sends ms server) :
    server.bus.attempts.length = (answerable ms).length := by
  have hlength := congrArg List.length h.attempted
  rw [List.length_map] at hlength
  rw [hlength, answerable, List.length_filterMap_eq_countP, List.countP_eq_length_filter]
  simp only [Option.isSome_map]

theorem handled_count (stats : Stats) (succeeded : Bool) :
    (stats.count succeeded).handled = stats.handled + if succeeded then 1 else 0 := by
  cases succeeded
  · exact (UInt64.add_zero _).symm
  · rfl

theorem handled_add_failed_count (stats : Stats) (succeeded : Bool) :
    (stats.count succeeded).handled + (stats.count succeeded).failed =
      stats.handled + stats.failed + 1 := by
  -- one of the two counters goes up; sums of words may wrap around on both sides alike
  cases succeeded
  · exact (UInt64.add_assoc _ _ _).symm
  · show stats.handled + 1 + stats.failed = _
    rw [UInt64.add_assoc, UInt64.add_comm 1, ← UInt64.add_assoc]

/-- A message without a queue for its reply is counted as failed, and nothing else comes of it. -/
theorem Accounts.drop (h : Accounts w s sends ms server) {m : Message} (hm : m.replyTo? = none) :
    Accounts w s sends (ms ++ [m]) { server with stats := server.stats.count false } := by
  refine ⟨?attempted, ?answered, h.delivered, ?service, ?counted, h.handled, h.later⟩
  case attempted => rw [h.attempted, filterMap_concat, hm]; simp
  case answered =>
    intro before x after hsplit hx
    rcases concat_eq_append_cons hsplit with ⟨-, rfl, -⟩ | ⟨after', hms, -⟩
    · simp [hm] at hx
    · exact h.answered before x after' hms hx
  case service =>
    rw [requestsIn_concat, Message.request?_of_replyTo?_eq_none hm]
    simpa using h.service
  -- the failure is counted, and no attempt goes with it
  case counted =>
    rw [handled_add_failed_count, h.counted, List.length_append, List.length_singleton,
      UInt64.ofNat_add]
    rfl

/-- A message with a queue for its reply is answered there. -/
theorem Accounts.reply (hw : w.reply.RoundTrips) (h : Accounts w s sends ms server) {m : Message}
    {queue : String} (hm : m.replyTo? = some queue) :
    Accounts w s sends (ms ++ [m]) (server.serve w Playback.transport m) := by
  have hsome : m.replyTo?.isSome = true := by rw [hm]; rfl
  obtain ⟨outgoing, hwrite, hid, htype, hmetadata, hread⟩ :=
    m.exists_reply hw Reply.messageType (answer w server.service m).1
  rw [serve_of_replyTo? hm hwrite hread]
  refine ⟨?attempted, ?answered, ?delivered, ?service, ?counted, ?handled, ?later⟩
  case attempted =>
    rw [List.map_append, h.attempted, filterMap_concat, hm]
    simp [Attempt.envelope, attempt, hid, htype, hmetadata]
  case answered =>
    intro before x after hsplit hx
    rcases concat_eq_append_cons hsplit with ⟨rfl, rfl, -⟩ | ⟨after', hms, -⟩
    · -- the last attempt is the one that answers the last message
      refine ⟨server.attempt queue outgoing, _, ?_, hread, ?_, ?_⟩
      · rw [← h.length_attempts]
        exact List.getElem?_concat_length ..
      · intro r hr
        rw [answer_of_request? hr, h.service]
      · intro hr
        rw [answer_of_request?_eq_none hsome hr, Message.fault_refusal]
    · obtain ⟨a, reply, ha, hrest⟩ := h.answered before x after' hms hx
      refine ⟨a, reply, ?_, hrest⟩
      rw [List.getElem?_append_left (List.getElem?_eq_some_iff.1 ha).1, ha]
  case delivered =>
    intro i a hi
    rcases Nat.lt_trichotomy i server.bus.attempts.length with hlt | rfl | hgt
    · -- an earlier attempt
      rw [List.getElem?_append_left hlt] at hi
      exact h.delivered i a hi
    · -- the attempt of this message takes the next outcome that is laid down
      rw [List.getElem?_concat_length] at hi
      obtain rfl := Option.some.inj hi
      rw [attempt, h.later, List.head?_drop]
    · -- the attempt of this message is the last one
      rw [List.getElem?_eq_none (by simpa [Nat.succ_le_iff] using hgt)] at hi
      cases hi
  case service =>
    rw [requestsIn_concat, Service.run_append, ← h.service, run_toList_request? hsome]
  case counted =>
    rw [handled_add_failed_count, h.counted, List.length_append, List.length_singleton,
      UInt64.ofNat_add]
    rfl
  case handled =>
    rw [List.countP_append, List.countP_singleton, UInt64.ofNat_add, ← h.handled, handled_count]
    split <;> rfl
  case later =>
    rw [List.length_append, List.length_singleton, ← List.tail_drop, ← h.later]

/-- A message that is served is accounted for. -/
theorem Accounts.serve (hw : w.reply.RoundTrips) (h : Accounts w s sends ms server) (m : Message) :
    Accounts w s sends (ms ++ [m]) (server.serve w Playback.transport m) := by
  cases hm : m.replyTo? with
  | none =>
    rw [serve_of_replyTo?_eq_none hm]
    exact h.drop hm
  | some queue => exact h.reply hw hm

/-! ## Polls -/

/-- What is told of listens and polls has no part in the accounts. -/
theorem Accounts.listen (h : Accounts w s sends ms server)
    (listens : List (Except TransportError (Option Message))) (asked : List (String × UInt64))
    (polls : UInt64) : Accounts w s sends ms ⟨server.service, { server.stats with polls := polls },
      { server.bus with listens := listens, asked := asked }⟩ :=
  ⟨h.attempted, h.answered, h.delivered, h.service, h.counted, h.handled, h.later⟩

/-- A poll plays the next listen of the script, and serves the message that it brings. -/
theorem Accounts.poll (hw : w.reply.RoundTrips) (h : Accounts w s sends ms server) (queue : String)
    (wait : UInt64) :
    Accounts w s sends (ms ++ messagesIn (server.bus.listens.take 1))
        (server.poll w Playback.transport queue wait) ∧
      (server.poll w Playback.transport queue wait).bus.listens = server.bus.listens.drop 1 := by
  obtain ⟨service, stats, listens, outcomes, attempts, asked⟩ := server
  -- the script is used up, or plays a failure, nothing or a message
  rcases listens with _ | ⟨_ | _ | m, listens⟩
  · exact ⟨(List.append_nil ms).symm ▸ h.listen .., rfl⟩
  · exact ⟨(List.append_nil ms).symm ▸ h.listen .., rfl⟩
  · exact ⟨(List.append_nil ms).symm ▸ h.listen .., rfl⟩
  · exact ⟨(h.listen ..).serve hw m, listens_serve ..⟩

/-- Polls play the script from its beginning, and serve what it brings. -/
theorem Accounts.pollTimes (hw : w.reply.RoundTrips) (h : Accounts w s sends ms server)
    (queue : String) (wait : UInt64) (n : Nat) :
    Accounts w s sends (ms ++ messagesIn (server.bus.listens.take n))
      (server.pollTimes w Playback.transport queue wait n) := by
  -- induction on the polls that are left, with all that was heard before in `ms`
  induction n generalizing server ms with
  | zero => exact (List.append_nil ms).symm ▸ h
  | succ n ih =>
    obtain ⟨hpoll, hlistens⟩ := h.poll hw queue wait
    have hrest := ih hpoll
    rw [hlistens, List.append_assoc, messagesIn, messagesIn, ← List.filterMap_append,
      ← List.take_add, Nat.add_comm] at hrest
    exact hrest

/-- The numbers of the messages that were handled and of those that failed, as long as a word of the
    machine can count the messages. -/
structure Tallies (w : Format) (ms : List Message) (server : Server Playback) : Prop where
  /-- The messages that were handled are those for which a result was delivered. -/
  handled : server.stats.handled.toNat = server.bus.attempts.countP (Attempt.succeeded w)
  /-- The others have failed. -/
  total : server.stats.handled.toNat + server.stats.failed.toNat = ms.length

/-- What is counted in words is the number itself if it does not overflow a word. -/
theorem Accounts.tallies (h : Accounts w s sends ms server) (hms : ms.length < UInt64.size) :
    Tallies w ms server := by
  have hle : server.bus.attempts.countP (Attempt.succeeded w) ≤ ms.length := by
    calc server.bus.attempts.countP (Attempt.succeeded w) ≤ server.bus.attempts.length :=
          List.countP_le_length
      _ = (answerable ms).length := h.length_attempts
      _ ≤ ms.length := List.length_filter_le ..
  have hhandled : server.stats.handled.toNat =
      server.bus.attempts.countP (Attempt.succeeded w) := by
    rw [h.handled]
    exact UInt64.toNat_ofNat_of_lt' (Nat.lt_of_le_of_lt hle hms)
  -- modulo the size of a word the sum is the number of messages
  have htotal := congrArg UInt64.toNat h.counted
  rw [UInt64.toNat_add, UInt64.toNat_ofNat_of_lt' hms] at htotal
  refine ⟨hhandled, ?_⟩
  -- no more were handled than were heard, so the sum cannot have passed the greatest word
  have hfailed := server.stats.failed.toNat_lt
  unfold UInt64.size at hms
  omega

/-- **Every message is answered once and accounted for.** Whatever a script of listens and sends
    has, and however often the server polls. -/
theorem accounts_pollTimes (hw : w.reply.RoundTrips) (s : Service)
    (listens : List (Except TransportError (Option Message))) (sends : List (Option TransportError))
    (queue : String) (wait : UInt64) (n : Nat) :
    let ms := messagesIn (listens.take n)
    let server := pollTimes w Playback.transport queue wait n ⟨s, .zero, .ofScript listens sends⟩
    Accounts w s sends ms server ∧ (ms.length < UInt64.size → Tallies w ms server) := by
  have h := (Accounts.new w s listens sends).pollTimes hw queue wait n
  exact ⟨h, h.tallies⟩

/-- A message of some type with the bytes of a request to create a plate, and a queue for the reply. -/
def creating (type : String) : Message :=
  (Message.plain "1" type (Wire.request.encode
    (.createPlate "mars" (.unassigned 256 "png" .rgba .uint8)))).withMetadata Message.replyToKey "replies"

/-- A plate is created and the reply is lost, and then the request comes under another label. -/
theorem accounts_pollTimes_of_lost_reply :
    let listens := [.ok (some (creating "index.create")), .error .timeout, .ok none,
      .ok (some (creating "index.open"))]
    let ms := [creating "index.create", creating "index.open"]
    let server := pollTimes Wire.format Playback.transport "orbit1" 5 4
      ⟨.new "/plates", .zero, .ofScript listens [some .timeout]⟩
    Wire.format.reply.RoundTrips ∧ Accounts Wire.format (.new "/plates") [some .timeout] ms server ∧
      Tallies Wire.format ms server := by
  intro listens ms server
  have hw := Wire.roundTrips_format.reply
  have h := accounts_pollTimes hw (.new "/plates") listens [some .timeout] "orbit1" 5 4
  exact ⟨hw, h.1, h.2 (by decide)⟩

/-- A plate is created although the reply is lost. A message under another label is answered, and
    one that names no queue is not. -/
example :
    let server := pollTimes Wire.format Playback.transport "orbit1" 5 6 ⟨.new "/plates", .zero,
      .ofScript [.ok (some (creating "index.create")), .error .timeout, .ok none,
        .ok (some (creating "index.open")),
        .ok (some { creating "index.create" with metadata := none })] [some .timeout]⟩
    (server.service.plateNames, server.stats) = (["mars"], ⟨0, 3, 6⟩) ∧
      server.bus.attempts.map (fun a => (a.queue, a.delivered)) = [("replies", false), ("replies", true)] :=
  ⟨rfl, rfl⟩

end Server

end TileIndex
