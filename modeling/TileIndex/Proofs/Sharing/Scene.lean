import TileIndex.Proofs.Sharing.Tracking

/-!
# Clients that share a service

Any number of clients, each with a threshold of its own, come and go at one service. Their requests
and those of others follow one another in any order, also between a batch that an operation sends
and the call that it then makes. The tiles of a plate are at every moment what one log of updates
leads to. A client has its updates there in the order in which it was given them, and lacks no more
than wait in its buffer. When a call of a client that could see updates is handled, it lacks none.

## Main statements

- `Scene.Kept.move`: every move keeps what the chronicle tells of every client.
- `Scene.shares_run`: how clients share a service.
-/

namespace TileIndex

/-- A client, and the call that it has still to make when it is in the middle of an operation. -/
structure Seat where
  client : Client
  calling : Option PlateCall

/-- Clients under numbers that share a service, which is kept beside the chronicle of what has
    happened there. -/
structure Scene where
  seats : Nat → Option Seat
  /-- The number that the next client gets. -/
  next : Nat
  state : Service × Chronicle

namespace Scene

open Chronicle

/-! ## Moves -/

/-- What can happen next. -/
inductive Move
  /-- A client is constructed. -/
  | enrol (settings : Settings) (make : Request)
  /-- A client that is in the middle of nothing is asked for an operation, and carries it out as far
      as the call that it makes. -/
  | start (k : Nat) (op : Client.Op)
  /-- A client makes the call that it has still to make. -/
  | finish (k : Nat)
  /-- A client that is in the middle of nothing is given up. -/
  | leave (k : Nat)
  /-- Someone else makes a request. -/
  | ask (r : Request)

/-- A new service, without clients. -/
def new (root : String) : Scene := ⟨fun _ => none, 0, moment root []⟩

def service (sc : Scene) : Service := sc.state.1

def past (sc : Scene) : Chronicle := sc.state.2

/-- The scene with another seat under a number and another state. -/
def put (sc : Scene) (k : Nat) (seat : Option Seat) (s : Service × Chronicle) : Scene :=
  { sc with seats := fun j => if j = k then seat else sc.seats j, state := s }

/-- The scene after a move. -/
def move (sc : Scene) : Move → Scene
  | .enrol settings make =>
    match Client.construct (channel none) settings make sc.state with
    | (.error _, s) => { sc with state := s }
    | (.ok c, s) => { sc.put sc.next (some ⟨c, none⟩) s with next := sc.next + 1 }
  | .start k op =>
    match sc.seats k with
    | some ⟨c, none⟩ =>
      -- what the client is given to write is written down first
      let (c, calling, s) := c.prepare (channel (some k)) op (sc.service, sc.past ++ given k c op)
      sc.put k (some ⟨c, calling⟩) s
    | _ => sc
  | .finish k =>
    match sc.seats k with
    | some ⟨c, calling⟩ =>
      let (c, s) := c.conclude (channel (some k)) calling sc.state
      sc.put k (some ⟨c, none⟩) s
    | none => sc
  | .leave k =>
    match sc.seats k with
    | some ⟨c, none⟩ => sc.put k none (c.close (channel (some k)) sc.state)
    | _ => sc
  | .ask r => { sc with state := (channel none r sc.state).2 }

/-- The scene after a sequence of moves. -/
def run (sc : Scene) (moves : List Move) : Scene := moves.foldl move sc

variable {root : String} {sc : Scene} {past' : Chronicle} {c : Client} {k j : Nat}

@[simp] theorem seats_put_self (sc : Scene) (k : Nat) (seat : Option Seat)
    (s : Service × Chronicle) : (sc.put k seat s).seats k = seat := if_pos rfl

theorem seats_put_of_ne (sc : Scene) (seat : Option Seat) (s : Service × Chronicle) (h : j ≠ k) :
    (sc.put k seat s).seats j = sc.seats j := if_neg h

/-- What was in a seat before does not matter once another client has it. -/
theorem put_put (sc : Scene) (k : Nat) (seat seat' : Option Seat) (s s' : Service × Chronicle) :
    (sc.put k seat s).put k seat' s' = sc.put k seat' s' := by
  simp only [put, Scene.mk.injEq, and_true]
  -- the seats differ at one number at most, and there the later one counts
  funext j
  split <;> rfl

/-- An operation that nothing comes into the middle of is the operation of the client. -/
theorem finish_start (h : sc.seats k = some ⟨c, none⟩) (op : Client.Op) :
    (sc.move (.start k op)).move (.finish k) =
      let (_, c', s') := c.perform (channel (some k)) op (sc.service, sc.past ++ given k c op)
      sc.put k (some ⟨c', none⟩) s' := by
  obtain ⟨⟨c', calling, s'⟩, hprepare⟩ : ∃ after, c.prepare (channel (some k)) op
    (sc.service, sc.past ++ given k c op) = after := ⟨_, rfl⟩
  -- the client is in its seat with its call between the two moves
  simp only [move, h, hprepare, seats_put_self, put_put, ← Client.conclude_prepare hprepare]
  rfl

/-! ## What is kept -/

/-- The client in a seat is the one that the chronicle tells of under a number. Fewer updates wait
    at it than its threshold, and none if it is about to make a call that could see updates. -/
structure Seated (root : String) (past : Chronicle) (k : Nat) (seat : Seat) : Prop where
  tracked : Tracked root past k seat.client
  room : seat.client.buffer.pending.length < seat.client.buffer.threshold
  clear : ∀ call ∈ seat.calling, call.flushesFirst = true → seat.client.buffer.pending = []

/-- What the chronicle tells of a number: the client that has it, or, if there is none or none any
    more, that all that was given to write under the number has been brought to the service. -/
inductive Accounted (root : String) (past : Chronicle) (k : Nat) : Option Seat → Prop
  | seated {seat : Seat} : Seated root past k seat → Accounted root past k (some seat)
  | gone : landedBy k past = writtenBy k past → Accounted root past k none

/-- A client is accounted for however the others go on. -/
theorem Accounted.onward {past : Chronicle} {seat : Option Seat} {who : Option Nat}
    (h : Accounted root past k seat) (o : Onward root who past past') (hk : who ≠ some k) :
    Accounted root past' k seat := by
  cases h with
  | seated hseat => exact .seated ⟨hseat.tracked.onward o hk, hseat.room, hseat.clear⟩
  | gone hall => exact .gone ((o.landed hk).trans (hall.trans (o.written hk).symm))

/-- What holds of every scene. Nothing has been given to write under the numbers that are to come. -/
structure Kept (root : String) (sc : Scene) : Prop where
  state : sc.state = moment root sc.past
  orderly : Orderly root sc.past
  accounted : ∀ k, Accounted root sc.past k (sc.seats k)
  unborn : ∀ k, sc.next ≤ k → sc.seats k = none ∧ writtenBy k sc.past = []

theorem Kept.new (root : String) : Kept root (.new root) where
  state := rfl
  orderly := .nil
  accounted _ := .gone rfl
  unborn _ _ := ⟨rfl, rfl⟩

/-- The service of a scene is the one that its chronicle leads to. -/
theorem Kept.service_eq (h : Kept root sc) : sc.service = Chronicle.service root sc.past :=
  congrArg Prod.fst h.state

theorem Kept.seated {seat : Seat} (h : Kept root sc) (hk : sc.seats k = some seat) :
    Seated root sc.past k seat := by
  have hseat := h.accounted k
  rw [hk] at hseat
  cases hseat with
  | seated hseat => exact hseat

theorem Kept.lt_next {seat : Seat} (h : Kept root sc) (hk : sc.seats k = some seat) :
    k < sc.next := by
  refine Nat.lt_of_not_le fun hle => ?_
  rw [(h.unborn k hle).1] at hk
  exact absurd hk nofun

/-- What someone else does leaves the clients as they were. -/
theorem Kept.pass (h : Kept root sc) (o : Onward root none sc.past past') :
    Kept root { sc with state := moment root past' } := by
  have other : ∀ j : Nat, none ≠ some j := nofun
  refine ⟨rfl, o.orderly, fun j => (h.accounted j).onward o (other j), fun j hj => ?_⟩
  exact ⟨(h.unborn j hj).1, (o.written (other j)).trans (h.unborn j hj).2⟩

/-- What a client does leaves the others as they were. -/
theorem Kept.put (h : Kept root sc) (o : Onward root (some k) sc.past past') {seat : Option Seat}
    (hseat : Accounted root past' k seat) {next : Nat} (hk : k < next) (hnext : sc.next ≤ next) :
    Kept root { sc.put k seat (moment root past') with next := next } := by
  have other : ∀ {j}, j ≠ k → some k ≠ some j := fun hj e => hj (Option.some.inj e).symm
  have hself := seats_put_self sc k seat (moment root past')
  have hothers : ∀ {j}, j ≠ k → (sc.put k seat (moment root past')).seats j = sc.seats j :=
    seats_put_of_ne sc seat (moment root past')
  refine ⟨rfl, o.orderly, fun j => ?accounted, fun j hj => ?unborn⟩
  case accounted =>
    show Accounted root past' j ((sc.put k seat (moment root past')).seats j)
    by_cases hjk : j = k
    · rw [hjk, hself]
      exact hseat
    · rw [hothers hjk]
      exact (h.accounted j).onward o (other hjk)
  case unborn =>
    have hjk : j ≠ k := Nat.ne_of_gt (Nat.lt_of_lt_of_le hk hj)
    obtain ⟨hnone, hwritten⟩ := h.unborn j (Nat.le_trans hnext hj)
    exact ⟨(hothers hjk).trans hnone, (o.written (other hjk)).trans hwritten⟩

/-! ## Moves keep it -/

/-- A construction makes a request of nobody, and seats a client to which nothing was given. -/
theorem Kept.enrol (h : Kept root sc) (settings : Settings) (make : Request) :
    Kept root (sc.move (.enrol settings make)) := by
  obtain ⟨⟨made, s⟩, hmade⟩ :
    ∃ after, Client.construct (channel none) settings make sc.state = after := ⟨_, rfl⟩
  simp only [move, hmade]
  rw [h.state] at hmade
  obtain ⟨past', rfl, o, t⟩ := exists_construct h.orderly hmade
  have hpass := h.pass o
  cases made with
  | error e => exact hpass
  | ok c =>
    -- nothing waits at a client that was just constructed
    have room : c.buffer.pending.length < c.buffer.threshold := by
      rw [(Client.buffer_of_construct hmade).1]
      exact c.buffer.threshold_pos
    have hseat : Seated root past' sc.next ⟨c, none⟩ :=
      ⟨t rfl (h.unborn _ (Nat.le_refl _)).2, room, nofun⟩
    exact hpass.put (.refl o.orderly _) (.seated hseat) (Nat.lt_succ_self _) (Nat.le_succ _)

/-- An operation as far as its call is one of the client that was asked for it. -/
theorem Kept.start (h : Kept root sc) (k : Nat) (op : Client.Op) :
    Kept root (sc.move (.start k op)) := by
  simp only [move]
  split
  · rename_i c hk
    have hseat := h.seated hk
    obtain ⟨c', calling, past', hprepare, o, t, clear⟩ := hseat.tracked.prepare h.orderly op
    -- the room is a matter of the client alone, whatever the service replies
    have room := Client.pending_lt_of_prepare hprepare hseat.room
    rw [moment_given, ← h.service_eq] at hprepare
    simp only [hprepare]
    exact h.put o (.seated ⟨t, room, clear⟩) (h.lt_next hk) (Nat.le_refl _)
  · exact h

theorem Kept.finish (h : Kept root sc) (k : Nat) : Kept root (sc.move (.finish k)) := by
  simp only [move]
  split
  · rename_i c calling hk
    have hseat := h.seated hk
    obtain ⟨past', hconclude, o, t⟩ := hseat.tracked.conclude h.orderly hseat.clear
    have hdone : Seated root past' k ⟨c, none⟩ := ⟨t, hseat.room, nofun⟩
    rw [h.state, hconclude]
    exact h.put o (.seated hdone) (h.lt_next hk) (Nat.le_refl _)
  · exact h

/-- A client that is given up sends what waits before it goes. -/
theorem Kept.leave (h : Kept root sc) (k : Nat) : Kept root (sc.move (.leave k)) := by
  simp only [move]
  split
  · rename_i c hk
    obtain ⟨past', hflush, o, t⟩ := (h.seated hk).tracked.flush h.orderly
    rw [h.state, Client.close, hflush]
    -- after the flush nothing of what the client was given is missing
    have hall := t.landed_of_pending_nil (Client.pending_drained c)
    exact h.put o (.gone hall) (h.lt_next hk) (Nat.le_refl _)
  · exact h

theorem Kept.ask (h : Kept root sc) (r : Request) : Kept root (sc.move (.ask r)) := by
  have hpass := h.pass (.handled h.orderly (.other r))
  simp only [move]
  rw [h.state, channel_moment none r rfl]
  exact hpass

/-- Every move keeps what the chronicle tells of every client. -/
theorem Kept.move (h : Kept root sc) (m : Move) : Kept root (sc.move m) := by
  cases m with
  | enrol settings make => exact h.enrol settings make
  | start k op => exact h.start k op
  | finish k => exact h.finish k
  | leave k => exact h.leave k
  | ask r => exact h.ask r

/-- So does every run of moves. -/
theorem Kept.run (h : Kept root sc) (moves : List Move) : Kept root (sc.run moves) := by
  induction moves generalizing sc with
  | nil => exact h
  | cons m moves ih => exact ih (h.move m)

/-! ## Sharing -/

/-- How clients share a service. A moment is given by the part of the chronicle before it. -/
structure Shares (root : String) (sc : Scene) : Prop where
  /-- The service is the one that the requests of the chronicle lead to. -/
  replayed : sc.service = Chronicle.service root sc.past
  /-- A request gets the reply that the service has for it at that moment. -/
  answered : ∀ before who x after, sc.past = before ++ .handled who x :: after →
    x.outcome = .ok ((Chronicle.service root before).handle x.request).1
  /-- At every moment the tiles of a plate are what the log of the plate leads to. -/
  folded : ∀ before after, sc.past = before ++ after →
    ∀ p st, (Chronicle.service root before).plates.find? p = some st →
      st.tiles = (((logOn p before).map (·.2)).foldl Store.apply st.blank).tiles
  /-- At every moment the part of a client in the log of its plate is a prefix of what the client
      was given to write. -/
  inOrder : ∀ k seat, sc.seats k = some seat → ∀ before after, sc.past = before ++ after →
    partOf k (logOn seat.client.identity.id before) <+: writtenBy k before
  /-- After a move a client lacks there only what waits in its buffer, which are fewer updates than
      its threshold. -/
  bounded : ∀ k seat, sc.seats k = some seat →
    partOf k (logOn seat.client.identity.id sc.past) ++ seat.client.buffer.pending =
        writtenBy k sc.past ∧
      seat.client.buffer.pending.length < seat.client.buffer.threshold
  /-- At the moment a call of a client that could see updates is handled, the client lacks none. -/
  current : ∀ before k p call o after,
    sc.past = before ++ .handled (some k) ⟨.onPlate p call, o⟩ :: after →
      call.flushesFirst = true → partOf k (logOn p before) = writtenBy k before
  /-- A client that is gone lacks none. -/
  settled : ∀ k, sc.seats k = none → landedBy k sc.past = writtenBy k sc.past

/-- **Clients see their own updates, and lack few of one another's.** Whatever clients come and go
    at a new service, and in whatever order their requests and those of others are handled. -/
theorem shares_run (root : String) (moves : List Move) : Shares root ((new root).run moves) := by
  have h : Kept root ((new root).run moves) := (Kept.new root).run moves
  refine ⟨h.service_eq, ?answered, ?folded, ?inOrder, ?bounded, ?current, ?settled⟩
  case answered => exact fun before who x after hpast => (h.orderly.admissible hpast).outcome
  case folded =>
    intro before after hpast p st hf
    rw [map_snd_logOn]
    exact (h.orderly.of_append hpast).logged.folded hf
  case inOrder =>
    intro k seat hk before after hpast
    rw [(h.seated hk).tracked.partOf_logOn h.orderly ⟨after, hpast.symm⟩]
    exact (h.orderly.of_append hpast).landedBy_isPrefix k
  case bounded =>
    intro k seat hk
    rw [(h.seated hk).tracked.partOf_logOn h.orderly List.prefix_rfl]
    exact ⟨(h.seated hk).tracked.whole, (h.seated hk).room⟩
  case current =>
    intro before k p call o after hpast hcall
    -- the rule for calls of clients is the only one that admits this event
    cases h.orderly.admissible hpast with
    | call current =>
      obtain ⟨hall, hown⟩ := current hcall
      rw [partOf_logOn, hall, List.filter_eq_self]
      exact fun u hu => decide_eq_true (hown u hu)
  case settled =>
    intro k hk
    have hnone := h.accounted k
    rw [hk] at hnone
    cases hnone with
    | gone hall => exact hall

/-- The second of two clients reads. What it was given is there, and the last of what the first one
    was given is not. -/
example :
    let write (col : Int32) : Client.Op := .write ⟨col, 0, 1, 1, "png"⟩ (.stored 0 0 9)
    let moves : List Move :=
      [.ask (.createPlate "mars" (.unassigned 256 "png" .rgba .uint8)),
        .enrol (Settings.standard.withMaxPending 2) (.openPlate "mars"),
        .enrol (Settings.standard.withMaxPending 3) (.openPlate "mars"),
        .start 0 (write 0), .start 1 (write 1), .start 0 (write 2),
        .start 1 (.call (.read ⟨1, 0, 1⟩ 1 true)), .start 0 (write 3), .finish 1]
    let sc := (new "/plates").run moves
    (logOn 1 sc.past).map (fun e => (e.1, e.2.header.col)) = [(some 0, 0), (some 0, 2), (some 1, 1)] ∧
      (writtenBy 0 sc.past).map (·.header.col) = [0, 2, 3] :=
  ⟨rfl, rfl⟩

end Scene

end TileIndex
