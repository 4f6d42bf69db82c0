import TileIndex.Proofs.Bus.Network
import TileIndex.Proofs.Logs

/-!
# Calls over a bus are linearizable

The requests of all clients go through one queue, which orders them. The server takes them in this
order and each once, so the service is at every moment where the requests taken so far have led it,
and the replies that wait, late or repeated ones among them, are those that it gave on the way. A
client picks its own reply out by the identifier of the call. The format must bring requests and
replies back from their bytes as they were; nothing else is asked of it.

## Main statements

- `Network.Consistent.move`: every move keeps requests, replies and the service in agreement.
- `Network.linearizable`: what this means for the calls.
- `Network.faithful_of_call`: what it means for the function that makes them.
-/

universe u

namespace TileIndex

theorem Service.run_concat (s : Service) (rs : List Request) (r : Request) :
    s.run (rs ++ [r]) = ((s.run rs).handle r).2 := by
  simp [run]

namespace Network

variable {ι : Type u}

/-! ## Histories -/

/-- The message that makes a call, or why its request cannot be written. -/
def Call.message (w : Format) (lines : ι → Line) (call : Call ι) : Except String Message :=
  (lines call.client).requestMessage w call.id call.request

/-- The messages of calls have the identifiers of the calls. -/
theorem map_id_eq_of_map_message {w : Format} {lines : ι → Line} {ms : List Message}
    {calls : List (Call ι)} (h : ms.map .ok = calls.map (Call.message w lines)) :
    ms.map (·.id) = calls.map (·.id) := by
  -- along both lists, which are of one length
  induction ms generalizing calls with
  | nil =>
    cases calls with
    | nil => rfl
    | cons call calls => cases h
  | cons m ms ih =>
    cases calls with
    | nil => cases h
    | cons call calls =>
      obtain ⟨hm, hms⟩ := List.cons.inj h
      rw [List.map_cons, List.map_cons, ih hms, Line.id_requestMessage hm.symm]

/-- The calls that were made, oldest first. -/
def sends (h : List (Event ι)) : List (Call ι) :=
  h.filterMap fun
    | .sent call => some call
    | _ => none

/-- The messages that were served, oldest first. -/
def serves (h : List (Event ι)) : List Message :=
  h.filterMap fun
    | .served m => some m
    | _ => none

/-- The requests of some calls, in order. -/
def requests (calls : List (Call ι)) : List Request := calls.map (·.request)

@[simp] theorem sends_append (h h' : List (Event ι)) : sends (h ++ h') = sends h ++ sends h' :=
  List.filterMap_append ..

@[simp] theorem serves_append (h h' : List (Event ι)) : serves (h ++ h') = serves h ++ serves h' :=
  List.filterMap_append ..

@[simp] theorem sends_sent (call : Call ι) : sends [.sent call] = [call] := rfl
@[simp] theorem sends_served (m : Message) : sends ([.served m] : List (Event ι)) = [] := rfl
@[simp] theorem sends_returned (call : Call ι) (result : Except Failure Reply) :
    sends [.returned call result] = [] := rfl
@[simp] theorem serves_sent (call : Call ι) : serves [.sent call] = [] := rfl
@[simp] theorem serves_served (m : Message) : serves ([.served m] : List (Event ι)) = [m] := rfl
@[simp] theorem serves_returned (call : Call ι) (result : Except Failure Reply) :
    serves [.returned call result] = [] := rfl

/-- The reply is what the service gave to the call, when it had handled the requests sent before
    that of the call and no others. -/
def Answered (s : Service) (h : List (Event ι)) (call : Call ι) (reply : Reply) : Prop :=
  ∃ k, k < (serves h).length ∧ (sends h)[k]? = some call ∧
    reply = ((s.run (requests ((sends h).take k))).handle call.request).1

/-- What happens later does not change what was replied. -/
theorem Answered.append {s : Service} {h : List (Event ι)} {call : Call ι} {reply : Reply}
    (ha : Answered s h call reply) (h' : List (Event ι)) : Answered s (h ++ h') call reply := by
  obtain ⟨k, hk, hcall, hreply⟩ := ha
  -- the call was among those sent, so later ones come behind it
  have hlt : k < (sends h).length := (List.getElem?_eq_some_iff.1 hcall).1
  refine ⟨k, ?_, ?_, ?_⟩
  · rw [serves_append, List.length_append]
    omega
  · rw [sends_append, List.getElem?_append_left hlt, hcall]
  · rw [sends_append, List.take_append_of_le_length (Nat.le_of_lt hlt), hreply]

/-- Only a call that was made gets a reply. -/
theorem Answered.mem_sends {s : Service} {h : List (Event ι)} {call : Call ι} {reply : Reply}
    (ha : Answered s h call reply) : call ∈ sends h := by
  obtain ⟨k, -, hcall, -⟩ := ha
  exact List.mem_of_getElem? hcall

/-- Among calls with different identifiers the identifier tells which call it is. -/
theorem eq_of_id_eq {calls : List (Call ι)} (hids : (calls.map (·.id)).Nodup) {call call' : Call ι}
    (hcall : call ∈ calls) (hcall' : call' ∈ calls) (h : call.id = call'.id) : call = call' := by
  obtain ⟨k, hk⟩ := List.mem_iff_getElem?.1 hcall
  obtain ⟨k', hk'⟩ := List.mem_iff_getElem?.1 hcall'
  have hlt : k < (calls.map (·.id)).length := by
    rw [List.length_map]
    exact (List.getElem?_eq_some_iff.1 hk).1
  -- the identifiers at both places are one, and none comes twice
  obtain rfl : k = k' := by
    refine (List.getElem?_inj hlt hids).1 ?_
    rw [List.getElem?_map, List.getElem?_map, hk, hk', Option.map_some, Option.map_some, h]
  exact Option.some.inj (hk.symm.trans hk')

/-- Whatever a call returned is a time-out, or the reply that the service had given to it by then. -/
def Faithful (s : Service) (h : List (Event ι)) : Prop :=
  ∀ before call result after, h = before ++ .returned call result :: after →
    result = .error (.transport .timeout) ∨
      ∃ reply, result = .ok reply ∧ Answered s before call reply

/-- One more event keeps what calls have returned faithful, if it does not return something else. -/
theorem Faithful.concat {s : Service} {h : List (Event ι)} (hf : Faithful s h) {e : Event ι}
    (he : ∀ call result, e = .returned call result → result = .error (.transport .timeout) ∨
      ∃ reply, result = .ok reply ∧ Answered s h call reply) : Faithful s (h ++ [e]) := by
  intro before call result after hsplit
  rcases concat_eq_append_cons hsplit with ⟨rfl, hlast, -⟩ | ⟨after', hbefore, -⟩
  · -- the call is the last thing that has happened
    exact he call result hlast
  · exact hf before call result after' hbefore

/-! ## Agreement -/

/-- Requests, replies and the service of a network agree, where the service was `s` at first. -/
structure Consistent (w : Format) (lines : ι → Line) (queue : String) (s : Service)
    (n : Network ι) : Prop where
  /-- The requests that were sent have been served or wait, in the order in which they were sent. -/
  inOrder : (sends n.history).map (Call.message w lines) =
    (serves n.history ++ Queues.addressedTo queue n.server.bus.waiting).map .ok
  /-- The service is where the requests that were served have led it. -/
  service : n.server.service =
    s.run (requests ((sends n.history).take (serves n.history).length))
  /-- What was ever sent to a client is a reply that the service gave. -/
  replies : ∀ e, e ∈ n.server.bus.waiting ∨ e ∈ n.server.bus.sent → e.1 ≠ queue →
    ∃ call reply, Answered s n.history call reply ∧ e.2.Answers w call.id reply
  /-- A client waits for a call that it made. -/
  made : ∀ i call, n.calls i = some call → call ∈ sends n.history
  /-- Calls with different identifiers have returned what they should. -/
  faithful : ((sends n.history).map (·.id)).Nodup → Faithful s n.history

/-- A network in which nothing has happened is in agreement. -/
theorem Consistent.new (w : Format) (lines : ι → Line) (queue : String) (s : Service) :
    Consistent w lines queue s (new s) where
  inOrder := rfl
  service := rfl
  replies e he := by simp [Network.new, Queues.empty] at he
  made i call h := by simp [Network.new] at h
  faithful _ before call result after h := by simp [Network.new] at h

variable {w : Format} {lines : ι → Line} {queue : String} {s : Service} {n : Network ι}

/-- No more requests were served than sent. -/
theorem Consistent.length_serves_le (h : Consistent w lines queue s n) :
    (serves n.history).length ≤ (sends n.history).length := by
  have hlength := congrArg List.length h.inOrder
  rw [List.length_map, List.length_map, List.length_append] at hlength
  omega

/-- What waits for clients can come and go, as long as only what was sent to them comes. -/
theorem Consistent.withBus (h : Consistent w lines queue s n) {bus : Queues}
    (hsame : Queues.addressedTo queue bus.waiting = Queues.addressedTo queue n.server.bus.waiting)
    (hold : ∀ e, e ∈ bus.waiting ∨ e ∈ bus.sent →
      e ∈ n.server.bus.waiting ∨ e ∈ n.server.bus.sent) :
    Consistent w lines queue s (n.withBus bus) where
  inOrder := hsame ▸ h.inOrder
  service := h.service
  replies e he := h.replies e (hold e he)
  made := h.made
  faithful := h.faithful

/-- A message that a client takes off its queue is gone, and nothing else changes. -/
theorem Consistent.pop (h : Consistent w lines queue s n) {other : String} (hne : other ≠ queue) :
    Consistent w lines queue s (n.withBus (n.server.bus.pop other).2) :=
  h.withBus (Queues.addressedTo_pop_of_ne _ hne) fun _ => Queues.mem_of_mem_pop

/-- The oldest message that waits for the server is the request that comes after those served. -/
theorem Consistent.next (h : Consistent w lines queue s n) {m : Message}
    (hpop : (n.server.bus.pop queue).1 = some m) :
    ∃ call, (sends n.history)[(serves n.history).length]? = some call ∧
      call.message w lines = .ok m ∧
      (sends n.history).map (Call.message w lines) =
        (serves n.history ++ m :: Queues.addressedTo queue (n.server.bus.pop queue).2.waiting).map
          .ok := by
  -- the requests sent and not served are those that wait, so the first of either is the first of both
  have horder := h.inOrder
  rw [Queues.addressedTo_pop_self, hpop, Option.toList_some, List.singleton_append] at horder
  have hnext := congrArg (·[(serves n.history).length]?) horder
  simp only [List.getElem?_map, List.getElem?_append_right (Nat.le_refl _), Nat.sub_self,
    List.getElem?_cons_zero, Option.map_some] at hnext
  obtain ⟨call, hcall, hm⟩ := Option.map_eq_some_iff.1 hnext
  exact ⟨call, hcall, hm, horder⟩

/-- Serving the request that is next keeps the agreement. -/
theorem Consistent.serve (h : Consistent w lines queue s n) {m outgoing : Message} {call : Call ι}
    {n' : Network ι} (hcall : (sends n.history)[(serves n.history).length]? = some call)
    (horder : (sends n.history).map (Call.message w lines) =
      (serves n.history ++ m :: Queues.addressedTo queue (n.server.bus.pop queue).2.waiting).map .ok)
    (hreply : (lines call.client).replyQueue ≠ queue)
    (hanswers : outgoing.Answers w call.id (n.server.service.handle call.request).1)
    (hservice : n'.server.service = (n.server.service.handle call.request).2)
    (hbus : n'.server.bus =
      (n.server.bus.pop queue).2.send (lines call.client).replyQueue outgoing)
    (hcalls : n'.calls = n.calls) (hhistory : n'.history = n.history ++ [.served m]) :
    Consistent w lines queue s n' := by
  have hsends : sends n'.history = sends n.history := by simp [hhistory]
  have hserves : serves n'.history = serves n.history ++ [m] := by simp [hhistory]
  -- the request is the one after those that were served
  have hanswered : Answered s n'.history call (n.server.service.handle call.request).1 := by
    refine ⟨(serves n.history).length, ?_, hsends ▸ hcall, ?_⟩
    · rw [hserves, List.length_append]
      exact Nat.lt_succ_self _
    · rw [hsends, h.service]
  refine ⟨?inOrder, ?service, ?replies, ?made, ?faithful⟩
  case inOrder =>
    rw [hsends, hserves, horder, hbus, Queues.addressedTo_send_of_ne _ hreply, List.append_assoc]
    rfl
  case service =>
    rw [hsends, hserves, hservice, h.service, List.length_append, List.length_singleton,
      List.take_add_one, hcall, ← Service.run_concat]
    simp [requests]
  case replies =>
    intro e he hne
    rw [hbus] at he
    -- what was sent was there before, or is the new reply
    rcases Queues.mem_of_mem_send he with he | rfl
    · obtain ⟨call', reply, ha, hm⟩ := h.replies e (Queues.mem_of_mem_pop he) hne
      exact ⟨call', reply, hhistory ▸ ha.append _, hm⟩
    · exact ⟨call, _, hanswered, hanswers⟩
  case made =>
    intro i call' hcall'
    rw [hsends]
    exact h.made i call' (hcalls ▸ hcall')
  case faithful =>
    intro hids
    rw [hsends] at hids
    rw [hhistory]
    refine (h.faithful hids).concat ?_
    intro call' result he
    cases he

/-- A poll keeps the agreement. -/
theorem Consistent.poll (hw : w.RoundTrips) (h : Consistent w lines queue s n)
    (hreply : ∀ i, (lines i).replyQueue ≠ queue) (wait : UInt64) :
    Consistent w lines queue s
      { n with
        server := n.server.poll w Queues.transport queue wait
        history := n.history ++ (n.server.bus.pop queue).1.toList.map .served } := by
  cases hpop : (n.server.bus.pop queue).1 with
  | none =>
    obtain ⟨hservice, hbus⟩ := Server.poll_of_none (w := w) wait hpop
    -- nothing waits, and nothing but the number of polls changes
    have hsame : (n.server.bus.pop queue).2 = n.server.bus := by
      rcases n.server.bus.pop_cases queue with ⟨h', -⟩ | ⟨m, before, after, -, -, h'⟩
      · rw [h']
      · simp [h'] at hpop
    rw [hsame] at hbus
    simp only [Option.toList_none, List.map_nil, List.append_nil]
    exact ⟨hbus ▸ h.inOrder, hservice ▸ h.service, hbus ▸ h.replies, h.made, h.faithful⟩
  | some m =>
    obtain ⟨call, hcall, hm, horder⟩ := h.next hpop
    obtain ⟨outgoing, hanswers, hservice, hbus⟩ := Server.poll_of_request wait hw hm hpop
    exact h.serve hcall horder (hreply call.client) hanswers hservice hbus rfl rfl

variable [DecidableEq ι]

/-- Sending a request to the server keeps the agreement. -/
theorem Consistent.send (h : Consistent w lines queue s n) {call : Call ι} {m : Message}
    (hm : call.message w lines = .ok m) :
    Consistent w lines queue s ((n.withBus (n.server.bus.send queue m)).start call) where
  inOrder := by
    -- the request is the last that was sent, and the last that waits
    show (sends (n.history ++ [.sent call])).map (Call.message w lines) =
      (serves (n.history ++ [.sent call]) ++
        Queues.addressedTo queue (n.server.bus.send queue m).waiting).map .ok
    rw [sends_append, serves_append, List.map_append, h.inOrder, Queues.addressedTo_send_self]
    simp [hm]
  service := by
    show n.server.service = s.run (requests ((sends (n.history ++ [.sent call])).take
      (serves (n.history ++ [.sent call])).length))
    rw [sends_append, serves_append, serves_sent, List.append_nil,
      List.take_append_of_le_length h.length_serves_le]
    exact h.service
  replies e he hne := by
    rcases Queues.mem_of_mem_send he with he | rfl
    · obtain ⟨call', reply, ha, hm⟩ := h.replies e he hne
      exact ⟨call', reply, ha.append _, hm⟩
    · -- the request itself goes to the server
      exact absurd rfl hne
  made i call' hcall := by
    show call' ∈ sends (n.history ++ [.sent call])
    rw [sends_append, sends_sent]
    simp only [start] at hcall
    split at hcall
    · obtain rfl := Option.some.inj hcall
      exact List.mem_append_right _ (List.mem_singleton_self _)
    · exact List.mem_append_left _ (h.made i call' hcall)
  faithful hids := by
    show Faithful s (n.history ++ [.sent call])
    have hbefore : ((sends n.history).map (·.id)).Nodup := by
      refine hids.sublist ?_
      show ((sends n.history).map (·.id)).Sublist ((sends (n.history ++ [.sent call])).map (·.id))
      rw [sends_append, List.map_append]
      exact List.sublist_append_left _ _
    refine (h.faithful hbefore).concat ?_
    intro call' result he
    cases he

/-- A call that returns keeps the agreement, if it returns what it should. -/
theorem Consistent.finish (h : Consistent w lines queue s n) (i : ι) (call : Call ι)
    {result : Except Failure Reply}
    (hresult : ((sends n.history).map (·.id)).Nodup → result = .error (.transport .timeout) ∨
      ∃ reply, result = .ok reply ∧ Answered s n.history call reply) :
    Consistent w lines queue s (n.finish i call result) := by
  -- a return is neither a send nor a serve
  have hsends : sends (n.finish i call result).history = sends n.history := by
    simp [Network.finish]
  have hserves : serves (n.finish i call result).history = serves n.history := by
    simp [Network.finish]
  refine ⟨?inOrder, ?service, ?replies, ?made, ?faithful⟩
  case inOrder =>
    rw [hsends, hserves]
    exact h.inOrder
  case service =>
    rw [hsends, hserves]
    exact h.service
  case replies =>
    intro e he hne
    obtain ⟨call', reply, ha, hm⟩ := h.replies e he hne
    exact ⟨call', reply, ha.append _, hm⟩
  case made =>
    intro j call' hcall
    rw [hsends]
    simp only [Network.finish] at hcall
    split at hcall
    · cases hcall
    · exact h.made j call' hcall
  case faithful =>
    intro hids
    rw [hsends] at hids
    refine (h.faithful hids).concat ?_
    intro call' result' he
    obtain ⟨rfl, rfl⟩ := Event.returned.inj he
    exact hresult hids

/-- A look of a client keeps the agreement: what it takes for the reply to its call is that reply. -/
theorem Consistent.look (h : Consistent w lines queue s n)
    (hreply : ∀ i, (lines i).replyQueue ≠ queue) (i : ι) (wait : UInt64) :
    Consistent w lines queue s (n.move w lines queue (.look i wait)) := by
  cases hcall : n.calls i with
  | none =>
    simp only [Network.move, hcall]
    exact h
  | some call =>
    obtain ⟨hfound, hbus⟩ := Queues.listen_eq_pop (lines i).replyQueue wait n.server.bus
    simp only [Network.move, hcall, hfound, hbus]
    have hpop := h.pop (hreply i)
    cases hm : (n.server.bus.pop (lines i).replyQueue).1 with
    | none => exact hpop
    | some m =>
      by_cases hid : m.id = call.id
      · simp only [Line.outcome?, if_pos hid]
        -- the message has the identifier of the call, so it is the reply to it
        refine hpop.finish i call fun hids => .inr ?_
        obtain ⟨call', reply, ha, hanswers⟩ :=
          h.replies _ (.inl (Queues.mem_of_pop hm)) (hreply i)
        have hsame : call' = call :=
          eq_of_id_eq hids ha.mem_sends (h.made i call hcall) (hanswers.id_eq.symm.trans hid)
        subst hsame
        exact ⟨reply, hanswers.replyIn, ha⟩
      · simp only [Line.outcome?, if_neg hid]
        exact hpop

/-- Every move keeps requests, replies and the service in agreement. -/
theorem Consistent.move (hw : w.RoundTrips) (h : Consistent w lines queue s n)
    (hrequest : ∀ i, (lines i).requestQueue = queue) (hreply : ∀ i, (lines i).replyQueue ≠ queue)
    (m : Move ι) : Consistent w lines queue s (n.move w lines queue m) := by
  cases m with
  | send i id r =>
    cases hcall : n.calls i with
    | some call =>
      simp only [Network.move, hcall]
      exact h
    | none =>
      -- every request can be written
      obtain ⟨message, hm⟩ := Line.exists_requestMessage hw.request (lines i) id r
      simp only [Network.move, hcall, hm, hrequest]
      have hsent : Consistent w lines queue s
          ((n.withBus (n.server.bus.send queue message)).start ⟨i, id, r⟩) := h.send hm
      exact hsent
  | poll wait => exact h.poll hw hreply wait
  | look i wait => exact h.look hreply i wait
  | expire i =>
    cases hcall : n.calls i with
    | none =>
      simp only [Network.move, hcall]
      exact h
    | some call =>
      simp only [Network.move, hcall]
      exact h.finish i call fun _ => .inl rfl
  | redeliver number place =>
    simp only [Network.move]
    cases hsent : n.server.bus.sent[number]? with
    | none => exact h
    | some e =>
      simp only
      split
      · exact h
      · rename_i hne
        refine h.withBus ?_ ?_
        · -- the message goes to another queue than that of the server
          rw [Queues.addressedTo_append, Queues.addressedTo_cons_of_ne hne,
            ← Queues.addressedTo_append, List.take_append_drop]
        · intro e' he'
          rcases he' with he' | he'
          · rcases List.mem_append.1 he' with he' | he'
            · exact .inl (List.mem_of_mem_take he')
            · rcases List.mem_cons.1 he' with rfl | he'
              · exact .inr (List.mem_of_getElem? hsent)
              · exact .inl (List.mem_of_mem_drop he')
          · exact .inr he'

/-- So does every sequence of moves. -/
theorem Consistent.run (hw : w.RoundTrips) (h : Consistent w lines queue s n)
    (hrequest : ∀ i, (lines i).requestQueue = queue) (hreply : ∀ i, (lines i).replyQueue ≠ queue)
    (moves : List (Move ι)) : Consistent w lines queue s (n.run w lines queue moves) := by
  induction moves generalizing n with
  | nil => exact h
  | cons m moves ih => exact ih (h.move hw hrequest hreply m)

/-! ## Linearizability -/

/-- The calls whose requests have been served. -/
def handled (h : List (Event ι)) : List (Call ι) := (sends h).take (serves h).length

/-- How the calls of a network go whose service was `s` at first. -/
structure Linearizable (w : Format) (lines : ι → Line) (s : Service) (n : Network ι) : Prop where
  /-- Requests are served in the order in which they were sent. -/
  inOrder : (serves n.history).map .ok = (handled n.history).map (Call.message w lines)
  /-- No request is served twice. -/
  once : ((serves n.history).map (·.id)).Nodup
  /-- The requests of a client are served in the order in which it sent them, and none is passed
      over. -/
  ownOrder : ∀ i, (handled n.history).filter (·.client = i) <+:
    (sends n.history).filter (·.client = i)
  /-- The service has handled the requests that were served, and no others. -/
  service : n.server.service = s.run (requests (handled n.history))
  /-- A call returns what the service replied to its own request, unless it times out. -/
  faithful : Faithful s n.history

/-- **Calls over a bus are linearizable.** Let any number of clients call a service over one queue,
    with replies on other queues, let requests and replies come back from their bytes as they were,
    and let no two calls have one identifier. Then this holds after every sequence of moves,
    whatever is given up or delivered again on the way. -/
theorem linearizable (hw : w.RoundTrips) (hrequest : ∀ i, (lines i).requestQueue = queue)
    (hreply : ∀ i, (lines i).replyQueue ≠ queue) (s : Service) (moves : List (Move ι))
    (hids : ((sends ((new s).run w lines queue moves).history).map (·.id)).Nodup) :
    Linearizable w lines s ((new s).run w lines queue moves) := by
  -- all of it is in the invariant of the run
  have h := (Consistent.new w lines queue s).run hw hrequest hreply moves
  generalize (new s).run w lines queue moves = n at h hids ⊢
  have hserves : (serves n.history).map .ok = (handled n.history).map (Call.message w lines) := by
    rw [handled, List.map_take, h.inOrder, List.map_append, List.take_left' (List.length_map _)]
  refine ⟨hserves, ?once, ?ownOrder, h.service, h.faithful hids⟩
  case once =>
    rw [map_id_eq_of_map_message hserves]
    exact hids.sublist ((List.take_sublist _ _).map _)
  case ownOrder =>
    intro i
    exact (List.take_prefix _ _).filter _

/-- What a call over a line returns while others move is a time-out, or what the service replied to
    its own request. -/
theorem faithful_of_call (hw : w.RoundTrips) (hrequest : ∀ i, (lines i).requestQueue = queue)
    (hreply : ∀ i, (lines i).replyQueue ≠ queue) (h : Consistent w lines queue s n) {n' : Network ι}
    {call : Call ι} {now : Duration} {others others' : List (List (Move ι))} {result : Except Failure Reply}
    (hfree : n.calls call.client = none)
    (hothers : ∀ moves ∈ others, ∀ m ∈ moves, m.client? ≠ some call.client)
    (hcall : (lines call.client).call w (transport w lines queue call) now call.id call.request
      (n, others) = some (result, n', others'))
    (hids : ((sends n'.history).map (·.id)).Nodup) :
    result = .error (.transport .timeout) ∨
      ∃ reply, result = .ok reply ∧ Answered s n'.history call reply := by
  obtain ⟨moves, hmoves⟩ := exists_run_of_call hfree hothers hcall
  have hafter := hmoves ▸ h.run hw hrequest hreply moves
  have hsends : sends (n'.finish call.client call result).history = sends n'.history := by
    simp [Network.finish]
  exact hafter.faithful (hsends ▸ hids) n'.history call result [] rfl

/-- One client gives up a call and makes another, and the late reply is delivered twice. -/
theorem linearizable_of_late_reply :
    let lines (other : Bool) : Line :=
      ⟨"orbit1", if other then "replies_b" else "replies_a", .ofMillis 50⟩
    let moves : List (Move Bool) :=
      [.send false "1" (.createPlate "mars" (.unassigned 256 "png" .rgba .uint8)), .expire false,
        .send false "2" (.openPlate "mars"), .send true "3" (.openPlate "moon"), .poll 0, .poll 0,
        .redeliver 3 0, .look false 0, .look false 0, .look false 0, .poll 0, .look true 0]
    let n := (new (Service.new "/plates")).run Wire.format lines "orbit1" moves
    Wire.format.RoundTrips ∧ (∀ i, (lines i).requestQueue = "orbit1") ∧
      (∀ i, (lines i).replyQueue ≠ "orbit1") ∧ ((sends n.history).map (·.id)).Nodup ∧
        Linearizable Wire.format lines (Service.new "/plates") n := by
  intro lines moves n
  have hrequest : ∀ i, (lines i).requestQueue = "orbit1" := fun _ => rfl
  have hreply : ∀ i, (lines i).replyQueue ≠ "orbit1" := by decide
  have hids : ((sends n.history).map (·.id)).Nodup := by decide +kernel
  have hw := Wire.roundTrips_format
  exact ⟨hw, hrequest, hreply, hids, linearizable hw hrequest hreply _ moves hids⟩

end Network

end TileIndex
