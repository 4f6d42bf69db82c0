import TileIndex.Proofs.Client.Exchanges
import TileIndex.Proofs.Logs

/-!
# Delivery of updates

Whatever a channel does, a client hands over the updates that are written to it once and in the
order in which they are written. Updates leave the buffer of a client before their batch is handed
over, and a batch is not handed over again, so a channel that fails takes nothing away from this.

## Main statements

- `Client.Steps.batched_append_pending`: what was handed over and what waits is what was written.
- `Client.Step.guarded`: a call that could see updates is handed over after them.
- `Client.delivers_of_construct`: delivery from the construction of a client on.
-/

universe u

namespace TileIndex

/-- A batch in an exchange is not empty and has at most `n` updates. -/
def Exchange.Bounded (n : Nat) (x : Exchange) : Prop :=
  ∀ us, x.request = .applyUpdates us → us ≠ [] ∧ us.length ≤ n

theorem Exchange.bounded_of_onPlate {x : Exchange} {p : PlateId} {call : PlateCall}
    (h : x.request = .onPlate p call) (n : Nat) : x.Bounded n := by
  intro us hus
  exact absurd (h.symm.trans hus) Request.noConfusion

/-- A batch succeeds only with the reply that acknowledges it. -/
theorem eq_done_of_bind_ofBatchReply {o : Except Failure Reply} {a : Answer}
    (h : o.bind Answer.ofBatchReply = .ok a) : o = .ok .done := by
  cases o with
  | error e => simp [Except.bind] at h
  | ok reply => cases reply <;> simp [Except.bind, Answer.ofBatchReply] at h ⊢

namespace Client

variable {σ : Type u} {c c' : Client} {op : Op} {xs : List Exchange}
  {result : Except Failure Answer} {entries : List Entry}

/-! ## What is written -/

/-- The updates that an operation writes to a client of a plate. -/
def Op.updates (p : PlateId) : Op → List Update
  | .write header record => [⟨p, header, record⟩]
  | _ => []

/-- The updates that operations write to a client of a plate, in order. -/
def written (p : PlateId) (ops : List Op) : List Update := ops.flatMap (Op.updates p)

/-! ## Flushes -/

theorem Flush.pending (h : Flush c xs result c') : c'.buffer.pending = [] := by
  cases h with
  | nothing hp => exact hp
  | batch o hp => rfl

/-- A flush hands over what waits, in order. -/
theorem Flush.batched (h : Flush c xs result c') : batched xs = c.buffer.pending := by
  cases h with
  | nothing hp => exact hp.symm
  | batch o hp => exact batched_batch c.buffer.pending o

/-- The one exchange of a flush carries what waits, and the flush comes to what becomes of it. -/
theorem Flush.mem (h : Flush c xs result c') {x : Exchange} (hx : x ∈ xs) :
    x.request = .applyUpdates c.buffer.pending ∧ c.buffer.pending ≠ [] ∧
      x.outcome.bind Answer.ofBatchReply = result := by
  cases h with
  | nothing hp => simp at hx
  | batch o hp =>
    obtain rfl := List.mem_singleton.1 hx
    exact ⟨rfl, hp, rfl⟩

theorem Flush.bounded {n : Nat} (h : Flush c xs result c') (hn : c.buffer.pending.length ≤ n) :
    ∀ x ∈ xs, x.Bounded n := by
  intro x hx us hus
  obtain ⟨hr, hne, -⟩ := h.mem hx
  obtain rfl := Request.applyUpdates.inj (hr.symm.trans hus)
  exact ⟨hne, hn⟩

/-- A flush that succeeds has handed over nothing that was not acknowledged. -/
theorem Flush.acknowledged {a : Answer} (h : Flush c xs (.ok a) c') :
    ∀ x ∈ xs, ∃ us, x = ⟨.applyUpdates us, .ok .done⟩ := by
  intro x hx
  obtain ⟨hr, -, ho⟩ := h.mem hx
  refine ⟨c.buffer.pending, ?_⟩
  rw [← hr, ← eq_done_of_bind_ofBatchReply ho]

/-! ## Operations -/

/-- What an operation hands over and what waits after it is what waited before it and what it
    writes. -/
theorem Step.batched_append_pending (h : Step c op xs result c') :
    batched xs ++ c'.buffer.pending = c.buffer.pending ++ op.updates c.identity.id := by
  -- the buffer gives up all that it has or nothing, and a batch that fails does not come back to it
  cases h with
  | hold hroom => rfl
  | fill hfull hflush => rw [hflush.batched, hflush.pending, List.append_nil]; rfl
  | flush hflush => rw [hflush.batched, hflush.pending]; rfl
  | call o hf => exact (List.append_nil _).symm
  | flushAndCall o hf hflush =>
    rw [batched_append, batched_call, hflush.batched, hflush.pending, List.append_nil]
    rfl
  | refuse hf hflush => rw [hflush.batched, hflush.pending]; rfl

/-- The buffer of a client never reaches its threshold between two operations. -/
theorem Step.pending_lt (h : Step c op xs result c')
    (hc : c.buffer.pending.length < c.buffer.threshold) :
    c'.buffer.pending.length < c.buffer.threshold := by
  -- an operation that flushes leaves nothing behind, also when the flush fails
  have hnone : c'.buffer.pending = [] → c'.buffer.pending.length < c.buffer.threshold := by
    intro hp
    rw [hp]
    exact c.buffer.threshold_pos
  cases h with
  | hold hroom =>
    rw [pending_holding, List.length_append]
    exact hroom
  | fill hfull hflush => exact hnone hflush.pending
  | flush hflush => exact hnone hflush.pending
  | call o hf => exact hc
  | flushAndCall o hf hflush => exact hnone hflush.pending
  | refuse hf hflush => exact hnone hflush.pending

theorem Step.bounded (h : Step c op xs result c')
    (hc : c.buffer.pending.length < c.buffer.threshold) :
    ∀ x ∈ xs, x.Bounded c.buffer.threshold := by
  cases h with
  | hold hroom => simp
  | fill hfull hflush =>
    -- fewer updates than the threshold waited, and this is one more
    refine hflush.bounded ?_
    rw [pending_holding, List.length_append]
    exact hc
  | flush hflush => exact hflush.bounded (Nat.le_of_lt hc)
  | call o hf =>
    intro x hx
    obtain rfl := List.mem_singleton.1 hx
    exact Exchange.bounded_of_onPlate rfl _
  | flushAndCall o hf hflush =>
    intro x hx
    rcases List.mem_append.1 hx with hx | hx
    · exact hflush.bounded (Nat.le_of_lt hc) x hx
    · obtain rfl := List.mem_singleton.1 hx
      exact Exchange.bounded_of_onPlate rfl _
  | refuse hf hflush => exact hflush.bounded (Nat.le_of_lt hc)

theorem Flush.not_mem_onPlate (h : Flush c xs result c') {p : PlateId} {call : PlateCall}
    {o : Except Failure Reply} : (⟨.onPlate p call, o⟩ : Exchange) ∉ xs := by
  intro hx
  exact absurd (h.mem hx).1 Request.noConfusion

/-- A call that could see updates is the last exchange of its operation. Everything that waits is
    handed over before it, and has been acknowledged. -/
theorem Step.guarded (h : Step c op xs result c') {front back : List Exchange} {p : PlateId}
    {call : PlateCall} {o : Except Failure Reply} (hxs : xs = front ++ ⟨.onPlate p call, o⟩ :: back)
    (hcall : call.flushesFirst = true) :
    op = .call call ∧ p = c.identity.id ∧ back = [] ∧ batched front = c.buffer.pending ∧
      ∀ x ∈ front, ∃ us, x = ⟨.applyUpdates us, .ok .done⟩ := by
  have hmem : ⟨.onPlate p call, o⟩ ∈ xs := by simp [hxs]
  -- only the rule of a call that flushes first has such an exchange
  cases h with
  | hold hroom => simp at hmem
  | fill hfull hflush => exact absurd hmem hflush.not_mem_onPlate
  | flush hflush => exact absurd hmem hflush.not_mem_onPlate
  | refuse hf hflush => exact absurd hmem hflush.not_mem_onPlate
  | call o' hf =>
    -- the one exchange is a call of the other kind
    obtain ⟨⟨rfl, rfl⟩, rfl⟩ := by simpa using List.mem_singleton.1 hmem
    simp [hf] at hcall
  | @flushAndCall call' ys a c' o' hf hflush =>
    rcases concat_eq_append_cons hxs with ⟨rfl, hlast, rfl⟩ | ⟨front', rfl, -⟩
    · obtain ⟨⟨rfl, rfl⟩, rfl⟩ := by simpa using hlast
      exact ⟨rfl, rfl, rfl, hflush.batched, hflush.acknowledged⟩
    · -- otherwise the call would be in the flush
      exact absurd (List.mem_append_right _ (List.mem_cons_self ..)) hflush.not_mem_onPlate

/-- A call that can see no updates is all that its operation hands over. -/
theorem Step.unguarded {call : PlateCall} (h : Step c (.call call) xs result c')
    (hcall : call.flushesFirst = false) : ∃ o, xs = [⟨.onPlate c.identity.id call, o⟩] := by
  cases h with
  | call o hf => exact ⟨o, rfl⟩
  | flushAndCall o hf hflush => simp [hf] at hcall
  | refuse hf hflush => simp [hf] at hcall

/-! ## Runs -/

/-- What was handed over and what waits is what waited at first and what was written. -/
theorem Steps.batched_append_pending (h : Steps c entries c') :
    batched (handed entries) ++ c'.buffer.pending =
      c.buffer.pending ++ written c.identity.id (entries.map (·.op)) := by
  -- what waits after an entry is what the entries after it begin with
  induction h with
  | nil c => simp [written]
  | @cons c c₁ c' e entries hstep hrest ih =>
    calc batched (handed (e :: entries)) ++ c'.buffer.pending
        = batched e.exchanges ++ (batched (handed entries) ++ c'.buffer.pending) := by
          rw [handed_cons, batched_append, List.append_assoc]
      _ = (batched e.exchanges ++ c₁.buffer.pending) ++
            written c.identity.id (entries.map (·.op)) := by
          rw [ih, hstep.identity, List.append_assoc]
      _ = c.buffer.pending ++ written c.identity.id ((e :: entries).map (·.op)) := by
          rw [hstep.batched_append_pending, List.append_assoc]
          rfl

/-- A call that could see updates is handed over when all that were written before it have been. -/
theorem Steps.guarded (h : Steps c entries c') {before after : List Entry} {e : Entry}
    (hentries : entries = before ++ e :: after) {front back : List Exchange} {p : PlateId}
    {call : PlateCall} {o : Except Failure Reply}
    (hxs : e.exchanges = front ++ ⟨.onPlate p call, o⟩ :: back) (hcall : call.flushesFirst = true) :
    p = c.identity.id ∧ back = [] ∧
      batched (handed before ++ front) =
        c.buffer.pending ++ written c.identity.id (before.map (·.op)) ∧
      ∀ x ∈ front, ∃ us, x = ⟨.applyUpdates us, .ok .done⟩ := by
  subst hentries
  -- the client at which the operation begins, with what waits there
  obtain ⟨c₁, hbefore, hrest⟩ := h.of_append
  cases hrest with
  | cons hstep _ =>
    obtain ⟨-, hp, hback, hfront, hacknowledged⟩ := hstep.guarded hxs hcall
    refine ⟨hbefore.frame.1 ▸ hp, hback, ?_, hacknowledged⟩
    rw [batched_append, hfront]
    exact hbefore.batched_append_pending

theorem Steps.unguarded (h : Steps c entries c') {e : Entry} (he : e ∈ entries) {call : PlateCall}
    (hop : e.op = .call call) (hcall : call.flushesFirst = false) :
    ∃ o, e.exchanges = [⟨.onPlate c.identity.id call, o⟩] := by
  -- the entry is a step of the client at which it begins, which is of the same plate
  obtain ⟨before, after, rfl⟩ := List.append_of_mem he
  obtain ⟨c₁, hbefore, hrest⟩ := h.of_append
  cases hrest with
  | cons hstep _ =>
    obtain ⟨o, hxs⟩ := (hop ▸ hstep).unguarded hcall
    exact ⟨o, hbefore.frame.1 ▸ hxs⟩

theorem Steps.pending_lt (h : Steps c entries c')
    (hc : c.buffer.pending.length < c.buffer.threshold) :
    c'.buffer.pending.length < c.buffer.threshold := by
  -- the threshold of the client at each entry is the one at the start
  induction h with
  | nil c => exact hc
  | cons hstep _ ih =>
    rw [← hstep.threshold]
    exact ih (hstep.threshold ▸ hstep.pending_lt hc)

theorem Steps.bounded (h : Steps c entries c')
    (hc : c.buffer.pending.length < c.buffer.threshold) :
    ∀ x ∈ handed entries, x.Bounded c.buffer.threshold := by
  induction h with
  | nil c => simp
  | cons hstep _ ih =>
    intro x hx
    rcases List.mem_append.1 hx with hx | hx
    · exact hstep.bounded hc x hx
    · rw [← hstep.threshold]
      exact ih (hstep.threshold ▸ hstep.pending_lt hc) x hx

/-! ## From construction on -/

/-- How the updates that are written to a client of the plate `p` with the threshold `n` leave it,
    in view of the record of its operations, what waits after them, and what is handed over when the
    client is then given up. -/
structure Delivers (p : PlateId) (n : Nat) (entries : List Entry) (waiting : List Update)
    (last : List Exchange) : Prop where
  /-- What was handed over, followed by what waits, is what was written. -/
  inOrder : batched (handed entries) ++ waiting = written p (entries.map (·.op))
  /-- No batch is empty or has more updates than the threshold. -/
  bounded : ∀ x ∈ handed entries ++ last, x.Bounded n
  /-- Fewer updates wait than the threshold. -/
  fewWait : waiting.length < n
  /-- When a call that could see updates is handed over, all those written before it have been, and
      the ones that its own operation sends have been acknowledged. -/
  guarded : ∀ before e after, entries = before ++ e :: after →
    ∀ front q call o back, e.exchanges = front ++ ⟨.onPlate q call, o⟩ :: back →
      call.flushesFirst = true →
        q = p ∧ back = [] ∧ batched (handed before ++ front) = written p (before.map (·.op)) ∧
          ∀ x ∈ front, ∃ us, x = ⟨.applyUpdates us, .ok .done⟩
  /-- Another call is all that its operation hands over. -/
  unguarded : ∀ e ∈ entries, ∀ call, e.op = .call call → call.flushesFirst = false →
    ∃ o, e.exchanges = [⟨.onPlate p call, o⟩]
  /-- Once the client has been given up, everything has been handed over. -/
  nothingLeft : batched (handed entries ++ last) = written p (entries.map (·.op))

/-- **Updates are delivered once, in order and in bounded batches.** Whatever the channel does, whatever
    is asked of a client that was constructed over it, and after any number of operations. -/
theorem delivers_of_construct (ch : Channel σ) {settings : Settings} {make : Request} {s₀ s₁ : σ}
    (h : construct ch settings make s₀ = (.ok c, s₁)) (ops : List Op) :
    let (entries, c', s') := c.record ch ops s₁
    entries.map (·.op) = ops ∧
      Delivers c.identity.id settings.maxPending.toNat entries c'.buffer.pending
        (c'.close ch.logged (s', [])).2 := by
  obtain ⟨hempty, hthreshold⟩ := buffer_of_construct h
  obtain ⟨⟨entries, c', s'⟩, hrecord⟩ : ∃ after, c.record ch ops s₁ = after := ⟨_, rfl⟩
  obtain ⟨⟨result, c'', s''⟩, hflush⟩ : ∃ after, c'.flush ch s' = after := ⟨_, rfl⟩
  obtain ⟨xs, hlog, hlast⟩ := exists_flush ch hflush
  obtain ⟨hsteps, hops, -, -⟩ := record_spec ch hrecord
  have hroom : c.buffer.pending.length < c.buffer.threshold := by
    rw [hempty]
    exact c.buffer.threshold_pos
  -- nothing waits at a client that has just been constructed
  have hbalance := hsteps.batched_append_pending
  rw [hempty, List.nil_append] at hbalance
  -- giving a client up hands over what a last flush does
  have hclose : (c'.close ch.logged (s', [])).2 = xs := by
    rw [close, hlog, List.nil_append]
  simp only [hrecord, hclose]
  rw [← hthreshold]
  refine ⟨hops, hbalance, ?bounded, hsteps.pending_lt hroom, ?guarded, ?unguarded, ?nothingLeft⟩
  case bounded =>
    intro x hx
    rcases List.mem_append.1 hx with hx | hx
    · exact hsteps.bounded hroom x hx
    · exact hlast.bounded (Nat.le_of_lt (hsteps.pending_lt hroom)) x hx
  case guarded =>
    intro before e after hentries front q call o back hxs hcall
    have hguard := hsteps.guarded hentries hxs hcall
    rwa [hempty, List.nil_append] at hguard
  case unguarded =>
    intro e he call hop hcall
    exact hsteps.unguarded he hop hcall
  case nothingLeft => rw [batched_append, hlast.batched, hbalance]

/-- A client that sends two updates at a time, and whose first batch times out. -/
theorem delivers_of_construct_planned :
    let plates :=
      (Service.new "/plates").run [.createPlate "mars" (.unassigned 256 "png" .rgba .uint8)]
    let timeout : Plan := ⟨some Operation.applyUpdates.name, .error (.transport .timeout)⟩
    let ops : List Op :=
      [.write ⟨0, 0, 1, 1, "png"⟩ (.stored 0 0 9), .write ⟨1, 0, 1, 1, "png"⟩ (.stored 0 9 9),
        .write ⟨0, 1, 1, 1, "png"⟩ (.stored 1 0 9), .call (.read ⟨0, 0, 1⟩ 1 true)]
    ∃ c s, construct Channel.direct.planned (Settings.standard.withMaxPending 2) (.openPlate "mars")
        (plates, [timeout]) = (.ok c, s) ∧
      let (entries, c', s') := c.record Channel.direct.planned ops s
      entries.map (·.op) = ops ∧
        Delivers c.identity.id 2 entries c'.buffer.pending
          (c'.close Channel.direct.planned.logged (s', [])).2 := by
  intro plates timeout ops
  obtain ⟨c, s, hmade⟩ : ∃ c s, construct Channel.direct.planned
      (Settings.standard.withMaxPending 2) (.openPlate "mars") (plates, [timeout]) = (.ok c, s) :=
    ⟨_, _, rfl⟩
  exact ⟨c, s, hmade, delivers_of_construct Channel.direct.planned hmade ops⟩

end Client

end TileIndex
