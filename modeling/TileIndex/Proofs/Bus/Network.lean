import TileIndex.Bus.Line
import TileIndex.Proofs.Bus.Serving

/-!
# Networks

A server and any number of clients that share queues in memory. They move in any order: a client
sends a request, looks for its reply or gives a call up, the server polls, and the bus delivers a
reply once more. The moves are those of the server and of the lines of the clients, and a history
notes what comes of them. Server and clients write requests and replies in one format.

## Main statements

- `Server.poll_of_request`: the server answers a request with what its service replies.
- `Network.exists_run_of_call`: a call over a line is made of the moves of a network.
-/

universe u

namespace TileIndex

variable {w : Format}

/-! ## Requests and replies -/

/-- A message that answers the call of an identifier: it has the identifier, and carries the reply. -/
structure Message.Answers (w : Format) (m : Message) (id : String) (reply : Reply) : Prop where
  id_eq : m.id = id
  replyIn : Line.replyIn w m = .ok reply

/-- A server reads the request in the message of a request, and hands it to its service. -/
theorem Server.answer_requestMessage (hw : w.request.RoundTrips) (s : Service) {l : Line}
    {id : String} {r : Request} {m : Message} (h : l.requestMessage w id r = .ok m) :
    answer w s m = s.handle r := by
  have hread : w.request.read m.payload = .ok r := hw.read_of_write (Line.write_requestMessage h)
  simp only [answer, hread, Line.type_requestMessage h, if_true]

namespace Server

variable {s : Server Queues} {queue : String} (wait : UInt64)

/-- A poll that finds nothing leaves the service as it was. -/
theorem poll_of_none (h : (s.bus.pop queue).1 = none) :
    (s.poll w Queues.transport queue wait).service = s.service ∧
      (s.poll w Queues.transport queue wait).bus = (s.bus.pop queue).2 := by
  rw [poll_eq, h]
  exact ⟨rfl, rfl⟩

/-- A server that finds a request hands it to its service, and sends what the service replies. -/
theorem poll_of_request (hw : w.RoundTrips) {l : Line} {id : String} {r : Request} {m : Message}
    (hm : l.requestMessage w id r = .ok m) (h : (s.bus.pop queue).1 = some m) :
    ∃ outgoing, outgoing.Answers w id (s.service.handle r).1 ∧
      (s.poll w Queues.transport queue wait).service = (s.service.handle r).2 ∧
        (s.poll w Queues.transport queue wait).bus =
          (s.bus.pop queue).2.send l.replyQueue outgoing := by
  obtain ⟨outgoing, hwrite, hid, -, -, hread⟩ :=
    m.exists_reply hw.reply Reply.messageType (s.service.handle r).1
  refine ⟨outgoing, ⟨hid.trans (Line.id_requestMessage hm), ?_⟩, ?_⟩
  · exact Line.replyIn_of_read hread
  · -- the server with the message off its queue, before it serves it
    obtain ⟨popped, hpopped⟩ : ∃ popped : Server Queues,
      { s.polled with bus := (s.bus.pop queue).2 } = popped := ⟨_, rfl⟩
    have hanswer : answer w popped.service m = s.service.handle r := by
      rw [← hpopped]
      exact answer_requestMessage hw.request s.service hm
    have hserve := serve_of_write_ok (Line.replyTo?_requestMessage hm) (hanswer ▸ hwrite)
    rw [poll_eq, h]
    simp only [hpopped, hserve, hanswer, true_and]
    rw [← hpopped]

end Server

/-! ## Calls -/

/-- A request that a client sends under an identifier. -/
structure Network.Call (ι : Type u) where
  client : ι
  id : String
  request : Request
  deriving DecidableEq

/-- What comes of a move. -/
inductive Network.Event (ι : Type u)
  | sent (call : Network.Call ι)
  | served (m : Message)
  | returned (call : Network.Call ι) (result : Except Failure Reply)

/-! ## Moves -/

/-- A server and clients that share queues. -/
structure Network (ι : Type u) where
  server : Server Queues
  /-- The call that a client is waiting for. -/
  calls : ι → Option (Network.Call ι)
  /-- What has happened, oldest first. -/
  history : List (Network.Event ι)

namespace Network

variable {ι : Type u} [DecidableEq ι] (w : Format) (lines : ι → Line) (queue : String)

/-- A server of a service, and clients that have done nothing. -/
def new (s : Service) : Network ι := ⟨⟨s, .zero, .empty⟩, fun _ => none, []⟩

/-- The network with other queues. -/
def withBus (n : Network ι) (bus : Queues) : Network ι :=
  { n with server := { n.server with bus := bus } }

/-- The network when a call has begun. -/
def start (n : Network ι) (call : Call ι) : Network ι :=
  { n with
    calls := fun j => if j = call.client then some call else n.calls j
    history := n.history ++ [.sent call] }

/-- The network when the call of a client has returned. -/
def finish (n : Network ι) (i : ι) (call : Call ι) (result : Except Failure Reply) : Network ι :=
  { n with
    calls := fun j => if j = i then none else n.calls j
    history := n.history ++ [.returned call result] }

/-- What can happen next. -/
inductive Move (ι : Type u)
  /-- A client that waits for no call sends a request, if the request can be written. -/
  | send (i : ι) (id : String) (r : Request)
  /-- The server waits for a message, and serves it if one comes. -/
  | poll (wait : UInt64)
  /-- A client that waits for a call takes a message off its reply queue. -/
  | look (i : ι) (wait : UInt64)
  /-- A client that waits for a call gives it up. -/
  | expire (i : ι)
  /-- The message of some number among those ever sent, if it was not sent to the server, is
      delivered once more, at any place among those that wait. -/
  | redeliver (number place : Nat)
  deriving DecidableEq

/-- Make a move. What cannot happen leaves the network as it is. -/
def move (n : Network ι) : Move ι → Network ι
  | .send i id r =>
    match n.calls i with
    | some _ => n
    | none =>
      match (lines i).requestMessage w id r with
      | .error text => n.finish i ⟨i, id, r⟩ (.error (.codec text))
      | .ok m => (n.withBus (n.server.bus.send (lines i).requestQueue m)).start ⟨i, id, r⟩
  | .poll wait =>
    { n with
      server := n.server.poll w Queues.transport queue wait
      history := n.history ++ (n.server.bus.pop queue).1.toList.map .served }
  | .look i wait =>
    match n.calls i with
    | none => n
    | some call =>
      let (heard, bus) := Queues.transport.listen (lines i).replyQueue wait n.server.bus
      match Line.outcome? call.id heard.found with
      | none => n.withBus bus
      | some outcome => (n.withBus bus).finish i call (outcome.bind (Line.replyIn w))
  | .expire i =>
    match n.calls i with
    | none => n
    | some call => n.finish i call (.error (.transport .timeout))
  | .redeliver number place =>
    match n.server.bus.sent[number]? with
    | none => n
    | some e =>
      if e.1 = queue then n
      else
        let waiting := n.server.bus.waiting
        n.withBus { n.server.bus with waiting := waiting.take place ++ e :: waiting.drop place }

/-- Make moves one after another. -/
def run (n : Network ι) (moves : List (Move ι)) : Network ι := moves.foldl (move w lines queue) n

theorem run_append (n : Network ι) (moves others : List (Move ι)) :
    n.run w lines queue (moves ++ others) = (n.run w lines queue moves).run w lines queue others :=
  List.foldl_append

/-! ## Calls over lines

A call over a line is one function. While it waits, others move: before every look at the reply
queue there is time for some moves. -/

/-- The client that makes a move, if a client does. -/
def Move.client? : Move ι → Option ι
  | .send i _ _ | .look i _ | .expire i => some i
  | .poll _ | .redeliver _ _ => none

/-- The queues of a network as a transport for one call. The moves of others before each look are
    laid down, and the network takes note of the call. -/
def transport (call : Call ι) : Transport (Network ι × List (List (Move ι))) where
  send name m s := (.ok (), (s.1.withBus (s.1.server.bus.send name m)).start call, s.2)
  listen name wait s :=
    let n := s.1.run w lines queue (s.2.headD [])
    let (heard, bus) := Queues.transport.listen name wait n.server.bus
    (heard, n.withBus bus, s.2.tail)

variable {w lines queue}

/-- A move changes the call of no client but the one that makes it. -/
theorem calls_move (n : Network ι) {i : ι} {m : Move ι} (h : m.client? ≠ some i) :
    (n.move w lines queue m).calls i = n.calls i := by
  cases m with
  | poll wait => rfl
  | redeliver number place =>
    simp only [move]
    split
    · rfl
    · split <;> rfl
  | send j id r =>
    have hne : i ≠ j := fun hij => h (congrArg some hij.symm)
    simp only [move]
    split
    · rfl
    · split <;> exact if_neg hne
  -- a client that looks may end its own call, and no other
  | look j wait =>
    have hne : i ≠ j := fun hij => h (congrArg some hij.symm)
    simp only [move]
    split
    · rfl
    · split
      · rfl
      · exact if_neg hne
  | expire j =>
    have hne : i ≠ j := fun hij => h (congrArg some hij.symm)
    simp only [move]
    split
    · rfl
    · exact if_neg hne

/-- Nor do the moves of others. -/
theorem calls_run (n : Network ι) {i : ι} {moves : List (Move ι)}
    (h : ∀ m ∈ moves, m.client? ≠ some i) : (n.run w lines queue moves).calls i = n.calls i := by
  induction moves generalizing n with
  | nil => rfl
  | cons m moves ih =>
    have hrest := ih (n.move w lines queue m) fun m' hm' => h m' (List.mem_cons_of_mem _ hm')
    exact hrest.trans (calls_move n (h m (List.mem_cons_self ..)))

/-- The client of a call waits for it, and the moves that are laid down are those of others. -/
def Awaiting (call : Call ι) (s : Network ι × List (List (Move ι))) : Prop :=
  s.1.calls call.client = some call ∧
    ∀ moves ∈ s.2, ∀ m ∈ moves, m.client? ≠ some call.client

/-- A listen over the transport of a call is the moves of others before it, and a look of the
    client. -/
theorem run_of_listen {call : Call ι} {wait : UInt64} {s s' : Network ι × List (List (Move ι))}
    {h : Heard} (hs : Awaiting call s)
    (hlisten : (transport w lines queue call).listen (lines call.client).replyQueue wait s =
      (h, s')) :
    Awaiting call s' ∧ ∃ moves, s.1.run w lines queue moves =
      match Line.outcome? call.id h.found with
      | none => s'.1
      | some outcome => s'.1.finish call.client call (outcome.bind (Line.replyIn w)) := by
  obtain ⟨n, others⟩ := s
  obtain ⟨hcall, hothers⟩ := hs
  have hmeanwhile : ∀ m ∈ others.headD [], m.client? ≠ some call.client := by
    cases others with
    | nil => simp
    | cons moves others => exact hothers moves (List.mem_cons_self ..)
  obtain ⟨n₁, hn₁⟩ : ∃ n₁, n.run w lines queue (others.headD []) = n₁ := ⟨_, rfl⟩
  -- the call is still waited for after the moves of others
  have hwaits : n₁.calls call.client = some call := by
    rw [← hn₁, calls_run n hmeanwhile]
    exact hcall
  obtain ⟨⟨heard, bus⟩, hheard⟩ : ∃ looked, Queues.transport.listen
    (lines call.client).replyQueue wait n₁.server.bus = looked := ⟨_, rfl⟩
  simp only [transport, hn₁, hheard] at hlisten
  obtain ⟨rfl, rfl⟩ := Prod.mk.inj hlisten
  refine ⟨⟨hwaits, fun moves hmoves => hothers moves (List.mem_of_mem_tail hmoves)⟩,
    others.headD [] ++ [.look call.client wait], ?_⟩
  rw [run_append, hn₁]
  simp only [run, List.foldl_cons, List.foldl_nil, move, hwaits, hheard]

/-- Waiting for a reply is made of looks, with the moves of others between them, and of giving up in
    the end if no look has brought the reply. -/
theorem exists_run_of_waits {call : Call ι} {left : Option Nat}
    {s s' : Network ι × List (List (Move ι))} {heard : List Heard} {outcome : Except Failure Message}
    (h : (lines call.client).Waits (transport w lines queue call) call.id left s heard outcome s')
    (hs : Awaiting call s) :
    ∃ moves, s.1.run w lines queue moves =
      s'.1.finish call.client call (outcome.bind (Line.replyIn w)) := by
  -- along the looks of the wait
  induction h with
  | expired s =>
    -- no time is left, and the client gives the call up
    refine ⟨[.expire call.client], ?_⟩
    simp [run, move, hs.1, Except.bind]
  | settled _ hlisten hout =>
    obtain ⟨-, moves, hmoves⟩ := run_of_listen hs hlisten
    rw [hout] at hmoves
    exact ⟨moves, hmoves⟩
  | passed _ hlisten hout _ ih =>
    obtain ⟨hs₁, moves, hmoves⟩ := run_of_listen hs hlisten
    rw [hout] at hmoves
    obtain ⟨rest, hrest⟩ := ih hs₁
    refine ⟨moves ++ rest, ?_⟩
    rw [run_append, hmoves]
    exact hrest

/-- A call over a line is made of moves of a network: it sends the request, looks for the reply
    while others move, and ends with its result. -/
theorem exists_run_of_call {call : Call ι} {now : Duration} {n n' : Network ι}
    {others others' : List (List (Move ι))} {result : Except Failure Reply}
    (hfree : n.calls call.client = none)
    (hothers : ∀ moves ∈ others, ∀ m ∈ moves, m.client? ≠ some call.client)
    (h : (lines call.client).call w (transport w lines queue call) now call.id call.request
      (n, others) = some (result, n', others')) :
    ∃ moves, n.run w lines queue moves = n'.finish call.client call result := by
  cases hm : (lines call.client).requestMessage w call.id call.request with
  | error text =>
    -- the request cannot be written, and the call is over
    rw [Line.call_of_write_error hm] at h
    obtain ⟨rfl, rfl, rfl⟩ := by simpa using h
    refine ⟨[.send call.client call.id call.request], ?_⟩
    simp only [run, List.foldl_cons, List.foldl_nil, move, hfree, hm]
  | ok m =>
    obtain ⟨n₁, hn₁⟩ : ∃ n₁, n.move w lines queue (.send call.client call.id call.request) = n₁ :=
      ⟨_, rfl⟩
    -- the send of the call is the first move
    have hsend : (transport w lines queue call).send (lines call.client).requestQueue m (n, others) =
        (.ok (), n₁, others) := by
      rw [← hn₁]
      simp only [transport, move, hfree, hm]
    have hwaits : n₁.calls call.client = some call := by
      rw [← hn₁]
      simp [move, hfree, hm, start]
    rw [Line.call_of_send hm hsend] at h
    obtain ⟨⟨outcome, s'⟩, hawait, hresult⟩ := Option.map_eq_some_iff.1 h
    obtain ⟨rfl, rfl⟩ := Prod.mk.inj hresult
    -- the rest of the moves are those of the wait
    obtain ⟨heard, hwaited⟩ := Line.exists_waits hawait
    obtain ⟨moves, hmoves⟩ := exists_run_of_waits hwaited ⟨hwaits, hothers⟩
    refine ⟨.send call.client call.id call.request :: moves, ?_⟩
    rw [← hmoves, ← hn₁]
    rfl

end Network

end TileIndex
