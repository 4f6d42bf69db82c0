import TileIndex.Proofs.Client.Batching
import TileIndex.Proofs.Client.Delivery
import TileIndex.Proofs.Sharing.Chronicle

/-!
# A client among others

What a client does at a shared service goes into the chronicle. What it was given to write is, at
any time between its operations, what it has brought to the service and after that what waits in its
buffer. The other clients have no part in this: nothing that they do changes either.

## Main statements

- `Chronicle.Tracked.perform`: an operation of a client keeps the chronicle in order.
- `Chronicle.Tracked.onward`: what the others do leaves a client as it was.
-/

universe u

namespace TileIndex

/-! ## Operations in two parts -/

namespace Client

variable {σ : Type u} {ch : Channel σ} {c c' : Client} {op : Op} {s s' : σ}

/-- All of an operation but the call that it makes: the client after that, the call if it is still
    to be made, and the state. -/
def prepare (ch : Channel σ) (c : Client) (op : Op) (s : σ) : Client × Option PlateCall × σ :=
  match op with
  | .call call =>
    if call.flushesFirst then
      match c.flush ch s with
      | (.error _, c, s) => (c, none, s)
      | (.ok _, c, s) => (c, some call, s)
    else (c, some call, s)
  | op =>
    let (_, c, s) := c.perform ch op s
    (c, none, s)

/-- The call that an operation has still to make. -/
def conclude (ch : Channel σ) (c : Client) (calling : Option PlateCall) (s : σ) : Client × σ :=
  match calling with
  | none => (c, s)
  | some call => (c.send ch call s).2

/-- The two parts of an operation, one after the other, are the operation. -/
theorem conclude_prepare {calling : Option PlateCall}
    (h : c.prepare ch op s = (c', calling, s')) :
    c'.conclude ch calling s' = (c.perform ch op s).2 := by
  cases op with
  | call call =>
    cases hf : call.flushesFirst with
    | false =>
      rw [perform_call_of_not_flushesFirst ch c hf]
      simp only [prepare, hf] at h
      obtain ⟨rfl, rfl, rfl⟩ := by simpa using h
      rfl
    | true =>
      obtain ⟨⟨flushed, c₁, s₁⟩, hflush⟩ : ∃ after, c.flush ch s = after := ⟨_, rfl⟩
      simp only [prepare, hf, hflush, if_true] at h
      -- a flush that fails ends the operation in its first part
      cases flushed with
      | error e =>
        rw [perform_call_of_flush_error ch hf hflush]
        obtain ⟨rfl, rfl, rfl⟩ := by simpa using h
        rfl
      | ok a =>
        rw [perform_call_of_flush_ok ch hf hflush]
        obtain ⟨rfl, rfl, rfl⟩ := by simpa using h
        rfl
  | _ =>
    obtain ⟨rfl, rfl, rfl⟩ := by simpa [prepare] using h
    rfl

theorem fst_conclude (ch : Channel σ) (c : Client) (calling : Option PlateCall) (s : σ) :
    (c.conclude ch calling s).1 = c := by
  cases calling <;> rfl

theorem pending_lt_of_prepare {calling : Option PlateCall}
    (h : c.prepare ch op s = (c', calling, s'))
    (hc : c.buffer.pending.length < c.buffer.threshold) :
    c'.buffer.pending.length < c'.buffer.threshold := by
  obtain ⟨⟨result, c₁, s₁⟩, hop⟩ : ∃ after, c.perform ch op s = after := ⟨_, rfl⟩
  -- the call that is still to be made leaves the client as it is
  obtain rfl : c' = c₁ := by
    rw [← fst_conclude ch c' calling s', conclude_prepare h, hop]
  obtain ⟨xs, -, hstep⟩ := exists_step ch hop
  rw [hstep.threshold]
  exact hstep.pending_lt hc

end Client

namespace Chronicle

variable {root : String} {past past' : Chronicle} {k : Nat} {c : Client}

/-! ## Channels -/

/-- The channel of a client, or of someone else, to a service that they share. What goes over it is
    written down. -/
def channel (who : Option Nat) : Channel (Service × Chronicle) := fun r (s, past) =>
  let (outcome, s) := Channel.direct r s
  (outcome, s, past ++ [.handled who ⟨r, outcome⟩])

/-- The service that a chronicle leads to, beside the chronicle. -/
def moment (root : String) (past : Chronicle) : Service × Chronicle := (service root past, past)

/-- A request over the channel takes the service and the chronicle on together. -/
theorem channel_moment (who : Option Nat) (r : Request) {reply : Reply}
    (h : ((service root past).handle r).1 = reply) :
    channel who r (moment root past) =
      (.ok reply, moment root (past ++ [.handled who ⟨r, .ok reply⟩])) := by
  subst h
  simp only [moment, service_handled]
  rfl

/-! ## Going on -/

/-- A chronicle went on in order, and nothing was added but what one party did. -/
structure Onward (root : String) (who : Option Nat) (past past' : Chronicle) : Prop where
  orderly : Orderly root past'
  known : ∀ {p : PlateId}, (service root past).plates.contains p = true →
    (service root past').plates.contains p = true
  landed : ∀ {j : Nat}, who ≠ some j → landedBy j past' = landedBy j past
  written : ∀ {j : Nat}, who ≠ some j → writtenBy j past' = writtenBy j past

theorem Onward.refl (h : Orderly root past) (who : Option Nat) : Onward root who past past where
  orderly := h
  known hp := hp
  landed _ := rfl
  written _ := rfl

theorem Onward.trans {who : Option Nat} {past'' : Chronicle} (h : Onward root who past past')
    (h' : Onward root who past' past'') : Onward root who past past'' where
  orderly := h'.orderly
  known hp := h'.known (h.known hp)
  landed hj := (h'.landed hj).trans (h.landed hj)
  written hj := (h'.written hj).trans (h.written hj)

theorem Onward.wrote (h : Orderly root past) (k : Nat) (u : Update) :
    Onward root (some k) past (past ++ [.wrote k u]) where
  orderly := h.snoc (.wrote k u)
  known hp := by rwa [service_wrote]
  landed _ := landedBy_wrote k u
  written hj := writtenBy_wrote_of_ne (fun e => hj (congrArg some e)) u

theorem Onward.handled {who : Option Nat} {x : Exchange} (h : Orderly root past)
    (hx : Admissible root past (.handled who x)) :
    Onward root who past (past ++ [.handled who x]) where
  orderly := h.snoc hx
  known hp := by
    rw [service_handled]
    exact Service.contains_handle hp x.request
  landed hj := landedBy_handled_of_ne hj x
  written _ := writtenBy_handled who x

/-! ## One client -/

/-- A client is the one that a chronicle tells of under a number. What it was given to write is for
    its plate, and is what it has brought there and then what waits. -/
structure Tracked (root : String) (past : Chronicle) (k : Nat) (c : Client) : Prop where
  known : (service root past).plates.contains c.identity.id = true
  own : ∀ u ∈ writtenBy k past, u.plate = c.identity.id
  whole : landedBy k past ++ c.buffer.pending = writtenBy k past

/-- Such a client is on a plate that the service knows, with nothing for another plate. -/
theorem Tracked.attached (h : Tracked root past k c) (ho : Orderly root past) :
    c.Attached (service root past) where
  consistent := ho.logged.consistent
  known := h.known
  own u hu := h.own u (h.whole ▸ List.mem_append_right _ hu)

theorem Tracked.landed_of_pending_nil (h : Tracked root past k c) (hp : c.buffer.pending = []) :
    landedBy k past = writtenBy k past := by
  rw [← h.whole, hp, List.append_nil]

/-- What the others do leaves a client as it was. -/
theorem Tracked.onward {who : Option Nat} (h : Tracked root past k c)
    (o : Onward root who past past') (hk : who ≠ some k) : Tracked root past' k c where
  known := o.known h.known
  own := o.written hk ▸ h.own
  whole := by rw [o.landed hk, o.written hk, h.whole]

/-- On its plate, the part of a client in the log is all that it has brought to the service. -/
theorem Tracked.partOf_logOn (h : Tracked root past k c) (ho : Orderly root past)
    {before : Chronicle} (hbefore : before <+: past) :
    partOf k (logOn c.identity.id before) = landedBy k before := by
  obtain ⟨after, rfl⟩ := hbefore
  -- nothing is filtered out, since the client was given updates for its plate only
  rw [Chronicle.partOf_logOn, List.filter_eq_self]
  intro u hu
  have hmem : u ∈ writtenBy k (before ++ after) := by
    rw [writtenBy, List.filterMap_append]
    exact List.mem_append_left _ (((ho.of_append rfl).landedBy_isPrefix k).mem hu)
  exact decide_eq_true (h.own u hmem)

/-- An update that is only held back waits behind the others. -/
theorem Tracked.wrote (h : Tracked root past k c) (header : Tile.Header) (record : Record) :
    Tracked root (past ++ [.wrote k (c.update header record)]) k
      (c.holding (c.update header record)) where
  known := by
    rw [service_wrote]
    exact h.known
  own u hu := by
    rw [writtenBy_wrote_self] at hu
    rcases List.mem_append.1 hu with hu | hu
    · exact h.own u hu
    · rw [List.mem_singleton.1 hu]
      rfl
  whole := by
    rw [landedBy_wrote, Client.pending_holding, writtenBy_wrote_self, ← List.append_assoc, h.whole]

/-- A flush brings all that waits, and is never refused. -/
theorem Tracked.flush (h : Tracked root past k c) (ho : Orderly root past) :
    ∃ past', c.flush (channel (some k)) (moment root past) =
        (.ok .done, c.drained, moment root past') ∧
      Onward root (some k) past past' ∧ Tracked root past' k c.drained := by
  by_cases hp : c.buffer.pending = []
  · refine ⟨past, ?_, .refl ho _, ?_⟩
    · rw [Client.flush_of_pending_nil _ hp, Client.drained_of_pending_nil hp]
    · rwa [Client.drained_of_pending_nil hp]
  · -- the batch brings exactly what the client still lacks, so it is admissible
    have hdone : ((service root past).handle (.applyUpdates c.buffer.pending)).1 = .done := by
      rw [(h.attached ho).handle_applyUpdates]
    have o := Onward.handled ho (.batch h.whole hdone)
    refine ⟨_, ?_, o, o.known h.known, ?_, ?_⟩
    · rw [Client.flush_of_pending_ne_nil _ hp, channel_moment _ _ hdone]
      rfl
    · rw [writtenBy_handled]
      exact h.own
    · rw [landedBy_handled_self, writtenBy_handled, Exchange.applied_of_done rfl]
      exact (List.append_nil _).trans h.whole

/-- A call leaves what waits as it is. It may be one that could see updates only if none waits. -/
theorem Tracked.send (h : Tracked root past k c) (ho : Orderly root past) {call : PlateCall}
    (hcall : call.flushesFirst = true → c.buffer.pending = []) :
    ∃ past', (c.send (channel (some k)) call (moment root past)).2 = (c, moment root past') ∧
      Onward root (some k) past past' ∧ Tracked root past' k c := by
  have o := Onward.handled ho (.call fun hf => ⟨h.landed_of_pending_nil (hcall hf), h.own⟩)
  refine ⟨_, ?_, o, o.known h.known, ?_, ?_⟩
  · rw [Client.send, channel_moment _ _ rfl]
  · rw [writtenBy_handled]
    exact h.own
  · rw [landedBy_handled_self, Exchange.applied_of_updates_nil rfl, List.append_nil,
      writtenBy_handled, h.whole]

/-- What an operation gives to a client to write. -/
def given (k : Nat) (c : Client) (op : Client.Op) : Chronicle :=
  (op.updates c.identity.id).map (.wrote k)

@[simp] theorem given_flush (k : Nat) (c : Client) : given k c .flush = [] := rfl

@[simp] theorem given_call (k : Nat) (c : Client) (call : PlateCall) :
    given k c (.call call) = [] := rfl

theorem moment_given (root : String) (past : Chronicle) (k : Nat) (c : Client) (op : Client.Op) :
    moment root (past ++ given k c op) = (service root past, past ++ given k c op) := by
  cases op with
  | write header record => exact congrArg (·, _) (service_wrote _)
  | flush => rw [given_flush, List.append_nil, moment]
  | call call => rw [given_call, List.append_nil, moment]

/-- The first part of an operation keeps the chronicle in order. Nothing waits at the client when a
    call that could see updates is still to be made. -/
theorem Tracked.prepare (h : Tracked root past k c) (ho : Orderly root past) (op : Client.Op) :
    ∃ c' calling past', c.prepare (channel (some k)) op (moment root (past ++ given k c op)) =
        (c', calling, moment root past') ∧
      Onward root (some k) past past' ∧ Tracked root past' k c' ∧
      ∀ call ∈ calling, call.flushesFirst = true → c'.buffer.pending = [] := by
  cases op with
  | write header record =>
    have hw := h.wrote header record
    have o := Onward.wrote ho k (c.update header record)
    simp only [Client.prepare, Client.perform_write]
    split
    · -- the buffer is full with this update, and is sent
      obtain ⟨past', hflush, o', h'⟩ := hw.flush o.orderly
      have hflushed : (c.holding (c.update header record)).flush (channel (some k))
        (moment root (past ++ given k c (.write header record))) = _ := hflush
      simp only [hflushed]
      exact ⟨_, _, past', rfl, o.trans o', h', nofun⟩
    · exact ⟨_, _, _, rfl, o, hw, nofun⟩
  | flush =>
    obtain ⟨past', hflush, o, h'⟩ := h.flush ho
    simp only [Client.prepare, Client.perform, given_flush, List.append_nil, hflush]
    exact ⟨_, _, past', rfl, o, h', nofun⟩
  | call call =>
    simp only [Client.prepare, given_call, List.append_nil]
    cases hf : call.flushesFirst with
    -- a call that sees no updates goes by what waits
    | false =>
      refine ⟨c, some call, past, rfl, .refl ho _, h, ?_⟩
      rintro _ ⟨⟩ hf'
      simp [hf] at hf'
    | true =>
      obtain ⟨past', hflush, o, h'⟩ := h.flush ho
      simp only [hflush, if_true]
      exact ⟨_, _, past', rfl, o, h', fun _ _ _ => Client.pending_drained c⟩

/-- So does the call that an operation has still to make. -/
theorem Tracked.conclude (h : Tracked root past k c) (ho : Orderly root past)
    {calling : Option PlateCall}
    (clear : ∀ call ∈ calling, call.flushesFirst = true → c.buffer.pending = []) :
    ∃ past', c.conclude (channel (some k)) calling (moment root past) = (c, moment root past') ∧
      Onward root (some k) past past' ∧ Tracked root past' k c := by
  cases calling with
  | none => exact ⟨past, rfl, .refl ho _, h⟩
  | some call => exact h.send ho (clear call rfl)

/-- A client that is constructed is the one of any number that the chronicle has not told of. -/
theorem exists_construct {settings : Settings} {make : Request} {made : Except Halt Client}
    {s : Service × Chronicle} (ho : Orderly root past)
    (h : Client.construct (channel none) settings make (moment root past) = (made, s)) :
    ∃ past', s = moment root past' ∧ Onward root none past past' ∧
      ∀ {c k}, made = .ok c → writtenBy k past = [] → Tracked root past' k c := by
  unfold Client.construct at h
  split at h
  · obtain ⟨rfl, rfl⟩ := Prod.mk.inj h
    exact ⟨past, rfl, .refl ho none, nofun⟩
  · -- the request of a construction is nobody's, and its reply makes the client
    have o := Onward.handled ho (.other make)
    rw [channel_moment _ _ rfl] at h
    obtain ⟨rfl, rfl⟩ := Prod.mk.inj h
    refine ⟨_, rfl, o, fun {c k} hmade hk => ?_⟩
    obtain ⟨header, shortName, fullName, id, hreply, hid, -, rfl⟩ := Client.ofReply_eq_ok hmade
    have hnone : none ≠ some k := nofun
    have hwritten := (o.written hnone).trans hk
    -- nothing was written under the number, so nothing can have landed
    have hlanded := List.prefix_nil.1 (hwritten ▸ o.orderly.landedBy_isPrefix k)
    refine ⟨?_, ?_, ?_⟩
    · rw [service_handled]
      exact ho.logged.consistent.contains_of_opened hreply hid
    · rw [hwritten]
      nofun
    · rw [hlanded, hwritten]
      rfl

end Chronicle

end TileIndex
