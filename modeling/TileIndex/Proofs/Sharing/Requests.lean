import TileIndex.Proofs.Service.Refusals
import TileIndex.Proofs.Sharing.Tracking

/-!
# What a client requests of a shared service

Whatever the other clients do, a client of a shared service gets to each of its requests what it can
make use of: the result that it asked for, or a refusal that belongs to the request. Its batches are
never refused, since they are for a plate that the service keeps for good. All its requests are for
that plate.

## Main statements

- `Chronicle.Tracked.adds_prepare`: in an operation a client makes requests for its own plate, and
  gets replies that suit them.
- `Chronicle.Tracked.fits_perform`: an operation comes to a result, or to the refusal of its call.
-/

universe u

namespace TileIndex

/-! ## What operations can come to -/

/-- Whether an operation always succeeds. -/
def Client.Op.isCertain : Client.Op → Bool
  | .write .. | .flush => true
  | .call (.multiRead ..) | .call (.validTiles ..) | .call .numLevels | .call .readCursor => true
  | .call _ => false

/-- What an operation can come to: a result, or the failure of a call that is refused. -/
inductive Fits : Client.Op → Except Failure Answer → Prop
  | granted (op : Client.Op) (a : Answer) : Fits op (.ok a)
  | refused {call : PlateCall} {refusal : Refusal} : Store.Refuses call refusal →
      Fits (.call call) (.error (Answer.failureOf call refusal.fault))

namespace Fits

variable {op : Client.Op} {result : Except Failure Answer}

/-- A call comes to what a reply that suits its request means. -/
theorem of_suits {p : PlateId} {call : PlateCall} {reply : Reply}
    (h : Service.Suits (.onPlate p call) reply) : Fits (.call call) (Answer.ofReply call reply) := by
  cases h with
  | accepted haccepts =>
    obtain ⟨a, ha⟩ := haccepts
    rw [ha]
    exact .granted _ a
  | @refused refusal hrefuses =>
    cases hrefuses with
    | call hcall =>
      have hfailure : Answer.ofReply call (.fault refusal.fault) =
          .error (Answer.failureOf call refusal.fault) := by
        cases call <;> rfl
      rw [hfailure]
      exact .refused hcall

/-- An operation that always succeeds ends no transaction. -/
theorem ends?_eq_none {call : PlateCall} (h : (Client.Op.call call).isCertain = true) :
    Store.ends? call = none := by
  cases call <;> first | rfl | cases h

/-- An operation that always succeeds has an answer. -/
theorem exists_of_isCertain (h : Fits op result) (hop : op.isCertain = true) :
    ∃ a, result = .ok a := by
  cases h with
  | granted _ a => exact ⟨a, rfl⟩
  | refused hrefuses =>
    -- only reads and calls that take or end something are ever refused, and none of them is certain
    cases hrefuses with
    | unknown hends | ended _ hends =>
      rw [ends?_eq_none hop] at hends
      cases hends
    | _ => cases hop

/-- A read fails only for want of the tile, in the terms in which it was asked for. -/
theorem tileNotFound_of_read {tile : Tile.Coordinate} {t : TransactionId} {exact : Bool}
    {e : Failure} (h : Fits (.call (.read tile t exact)) (.error e)) : e = .tileNotFound tile t := by
  cases h with
  | refused hrefuses =>
    cases hrefuses with
    | read target => rfl
    | unknown hends | ended _ hends => cases hends

theorem isBreakdown_eq_false {e : Failure} (h : Fits op (.error e)) : e.isBreakdown = false := by
  cases h with
  | @refused call refusal hrefuses =>
    rcases Answer.failureOf_cases call refusal.fault with ⟨tile, t, he⟩ | he | he <;> rw [he] <;> rfl

/-- No operation fails because the service does not know the plate. -/
theorem ne_unknownPlate (h : Fits op result) (p : PlateId) :
    result ≠ .error (.notFound (Refusal.unknownPlate p).message) := by
  cases h with
  | granted _ a => nofun
  | @refused call refusal hrefuses =>
    intro heq
    have hfailure := Except.error.inj heq
    have hmessage := Refusal.message_ne_unknownPlate
      (Service.Refuses.call (p := p) hrefuses).ne_unknownPlate p
    -- only the failure for an absence could be the one in question, and its words differ
    rcases Answer.failureOf_cases call refusal.fault with ⟨tile, t, he⟩ | he | he
    · rw [he] at hfailure
      cases hfailure
    · rw [he] at hfailure
      exact hmessage (Failure.notFound.inj hfailure)
    · rw [he] at hfailure
      cases hfailure

end Fits

/-! ## Requests of one client -/

/-- A request for one plate: a call on it, or a batch of updates that are all for it. -/
def Request.IsFor (p : PlateId) : Request → Prop
  | .onPlate q _ => q = p
  | .applyUpdates us => ∀ u ∈ us, u.plate = p
  | _ => False

/-- An exchange in which a request gets a reply that suits it. -/
def Exchange.IsSuited (x : Exchange) : Prop :=
  ∃ reply, x.outcome = .ok reply ∧ Service.Suits x.request reply

namespace Chronicle

variable {root : String} {past past' past'' : Chronicle} {k : Nat} {c : Client}

/-- A service that a chronicle leads to gives suitable replies to all requests for plates it knows.
    -/
theorem suits_handle (ho : Orderly root past) {r : Request} (hr : (service root past).Knows r) :
    Service.Suits r ((service root past).handle r).1 :=
  ((Service.Enrolled.new root).run _).suits ho.logged.consistent hr

/-- What was added to a chronicle is what one client has done on one plate: all its requests are for
    the plate, and get replies that suit them. -/
def Adds (k : Nat) (p : PlateId) (past past' : Chronicle) : Prop :=
  ∃ new, past' = past ++ new ∧
    ∀ who x, .handled who x ∈ new → who = some k ∧ x.request.IsFor p ∧ x.IsSuited

theorem Adds.refl (k : Nat) (p : PlateId) (past : Chronicle) : Adds k p past past :=
  ⟨[], (List.append_nil past).symm, fun _ _ hx => absurd hx List.not_mem_nil⟩

/-- What is added in two steps is what was added in each. -/
theorem Adds.trans {p : PlateId} (h : Adds k p past past') (h' : Adds k p past' past'') :
    Adds k p past past'' := by
  obtain ⟨new, rfl, hnew⟩ := h
  obtain ⟨newer, rfl, hnewer⟩ := h'
  refine ⟨new ++ newer, List.append_assoc .., fun who x hx => ?_⟩
  rcases List.mem_append.1 hx with hx | hx
  · exact hnew who x hx
  · exact hnewer who x hx

theorem Adds.given (k : Nat) (p : PlateId) (past : Chronicle) (c : Client) (op : Client.Op) :
    Adds k p past (past ++ given k c op) := by
  refine ⟨_, rfl, fun who x hx => ?_⟩
  obtain ⟨u, -, hu⟩ := List.mem_map.1 hx
  cases hu

theorem Adds.handled {p : PlateId} {x : Exchange} (hp : x.request.IsFor p) (hx : x.IsSuited) :
    Adds k p past (past ++ [.handled (some k) x]) := by
  refine ⟨_, rfl, fun who y hy => ?_⟩
  obtain ⟨rfl, rfl⟩ := Event.handled.inj (List.mem_singleton.1 hy)
  exact ⟨rfl, hp, hx⟩

/-- A client makes no request for a plate that the service does not know. -/
theorem Tracked.knows (h : Tracked root past k c) {r : Request} (hr : r.IsFor c.identity.id) :
    (service root past).Knows r := by
  cases r with
  | onPlate p call =>
    obtain rfl : p = _ := hr
    exact h.known
  | applyUpdates us =>
    intro u hu
    rw [hr u hu]
    exact h.known
  | _ => exact hr.elim

theorem Tracked.adds_request (h : Tracked root past k c) (ho : Orderly root past) {r : Request}
    (hr : r.IsFor c.identity.id) :
    Adds k c.identity.id past (channel (some k) r (moment root past)).2.2 := by
  -- the channel writes down the request with the reply that the service has for it
  rw [channel_moment _ _ rfl]
  exact .handled hr ⟨_, rfl, suits_handle ho (h.knows hr)⟩

/-- A flush adds a batch for the plate of the client, or nothing. -/
theorem Tracked.adds_flush (h : Tracked root past k c) (ho : Orderly root past) :
    Adds k c.identity.id past (c.flush (channel (some k)) (moment root past)).2.2.2 := by
  by_cases hp : c.buffer.pending = []
  · rw [Client.flush_of_pending_nil _ hp]
    exact .refl ..
  · rw [Client.flush_of_pending_ne_nil _ hp]
    exact h.adds_request ho (h.attached ho).own

theorem Tracked.adds_send (h : Tracked root past k c) (ho : Orderly root past) (call : PlateCall) :
    Adds k c.identity.id past (c.send (channel (some k)) call (moment root past)).2.2.2 :=
  h.adds_request ho rfl

/-- An operation up to its call adds what its flush does, or nothing. -/
theorem Tracked.adds_prepare (h : Tracked root past k c) (ho : Orderly root past) (op : Client.Op) :
    Adds k c.identity.id past
      (c.prepare (channel (some k)) op (moment root (past ++ given k c op))).2.2.2 := by
  cases op with
  | write header record =>
    have hgiven := Adds.given k c.identity.id past c (.write header record)
    simp only [Client.prepare, Client.perform_write]
    split
    · -- the buffer is full with this update, and is sent
      have o := Onward.wrote ho k (c.update header record)
      exact hgiven.trans ((h.wrote header record).adds_flush o.orderly)
    · exact hgiven
  | flush =>
    rw [given_flush, List.append_nil]
    exact h.adds_flush ho
  | call call =>
    rw [given_call, List.append_nil]
    simp only [Client.prepare]
    split
    · -- the call is not among what is added here, whether or not it is still to be made
      have hadds := h.adds_flush ho
      split
      · rename_i hflush
        rwa [hflush] at hadds
      · rename_i hflush
        rwa [hflush] at hadds
    · exact .refl ..

theorem Tracked.adds_conclude (h : Tracked root past k c) (ho : Orderly root past)
    (calling : Option PlateCall) :
    Adds k c.identity.id past (c.conclude (channel (some k)) calling (moment root past)).2.2 := by
  cases calling with
  | none => exact .refl ..
  | some call => exact h.adds_send ho call

/-! ## Results of one client -/

theorem Tracked.fits_send (h : Tracked root past k c) (ho : Orderly root past) (call : PlateCall) :
    Fits (.call call) (c.send (channel (some k)) call (moment root past)).1 := by
  have hsuits := suits_handle ho (h.knows (r := .onPlate c.identity.id call) rfl)
  rw [Client.send, channel_moment _ _ rfl]
  exact .of_suits hsuits

/-- An operation comes to what it can come to. -/
theorem Tracked.fits_perform (h : Tracked root past k c) (ho : Orderly root past) (op : Client.Op) :
    Fits op (c.perform (channel (some k)) op (moment root (past ++ given k c op))).1 := by
  cases op with
  | write header record =>
    rw [Client.perform_write]
    split
    · -- the batch is for a plate that is kept for good, so it is never refused
      have o := Onward.wrote ho k (c.update header record)
      obtain ⟨past', hflush, -⟩ := (h.wrote header record).flush o.orderly
      have hflushed : (c.holding (c.update header record)).flush (channel (some k))
        (moment root (past ++ given k c (.write header record))) = _ := hflush
      rw [hflushed]
      exact .granted ..
    · exact .granted ..
  | flush =>
    obtain ⟨past', hflush, -⟩ := h.flush ho
    rw [given_flush, List.append_nil, Client.perform, hflush]
    exact .granted ..
  | call call =>
    rw [given_call, List.append_nil]
    cases hf : call.flushesFirst with
    | false =>
      rw [Client.perform_call_of_not_flushesFirst _ c hf]
      exact h.fits_send ho call
    | true =>
      -- the flush succeeds, so the call is made and decides
      obtain ⟨past', hflush, o, h'⟩ := h.flush ho
      rw [Client.perform_call_of_flush_ok _ hf hflush]
      exact h'.fits_send o.orderly call

end Chronicle

/-! ## Operations in two parts -/

namespace Client

variable {σ : Type u} {ch : Channel σ} {c c' : Client} {op : Op} {s s' : σ}

/-- An operation that has still to make its call comes to what the call comes to. -/
theorem perform_of_prepare {call : PlateCall} (h : c.prepare ch op s = (c', some call, s')) :
    op = .call call ∧ c.perform ch op s = c'.send ch call s' := by
  cases op with
  | call made =>
    cases hf : made.flushesFirst with
    | false =>
      simp only [prepare, hf] at h
      -- a call that sees no updates is all of its operation
      obtain ⟨rfl, rfl, rfl⟩ := by simpa using h
      exact ⟨rfl, perform_call_of_not_flushesFirst ch c hf s⟩
    | true =>
      obtain ⟨⟨flushed, c₁, s₁⟩, hflush⟩ : ∃ after, c.flush ch s = after := ⟨_, rfl⟩
      simp only [prepare, hf, hflush, if_true] at h
      cases flushed with
      -- a failed flush is the end of the operation
      | error e => simp at h
      | ok a =>
        obtain ⟨rfl, rfl, rfl⟩ := by simpa using h
        exact ⟨rfl, perform_call_of_flush_ok ch hf hflush⟩
  | _ => simp [prepare] at h

/-- An operation does not move a client to another plate. -/
theorem identity_of_prepare {calling : Option PlateCall}
    (h : c.prepare ch op s = (c', calling, s')) : c'.identity = c.identity := by
  obtain ⟨⟨result, c₁, s₁⟩, hop⟩ : ∃ after, c.perform ch op s = after := ⟨_, rfl⟩
  -- the call of an operation does not change the client any more
  obtain rfl : c' = c₁ := by
    rw [← fst_conclude ch c' calling s', conclude_prepare h, hop]
  obtain ⟨xs, -, hstep⟩ := exists_step ch hop
  exact hstep.identity

end Client

end TileIndex
