import TileIndex.Proofs.Client.Operations

/-!
# What goes over a channel

What a client hands over in the course of an operation, told by rules that speak of the client
alone. A channel has a part in them only through the outcomes of the exchanges, which the rules
leave open, so whatever follows from the rules holds over every channel.

## Main statements

- `Client.exists_step`: every operation over a logged channel goes by the rules.
- `Client.Step.client`: the client after an operation is the same, whatever came of the exchanges.
- `Client.record_spec`: so does every run, and its record is what the channel logs.
-/

universe u

namespace TileIndex

/-- The updates that a request carries. -/
def Request.updates : Request → List Update
  | .applyUpdates us => us
  | _ => []

/-- The updates in a sequence of exchanges, in the order in which they were handed over. -/
def batched (xs : List Exchange) : List Update := xs.flatMap (·.request.updates)

@[simp] theorem batched_nil : batched [] = [] := rfl

@[simp] theorem batched_append (xs ys : List Exchange) :
    batched (xs ++ ys) = batched xs ++ batched ys := List.flatMap_append

@[simp] theorem batched_batch (us : List Update) (o : Except Failure Reply) :
    batched [⟨.applyUpdates us, o⟩] = us := by
  simp [batched, Request.updates]

@[simp] theorem batched_call (p : PlateId) (call : PlateCall) (o : Except Failure Reply) :
    batched [⟨.onPlate p call, o⟩] = [] := rfl

namespace Client

variable {σ : Type u}

/-! ## Rules -/

/-- Sending what waits at a client: the exchanges, the result, and the client after it. -/
inductive Flush (c : Client) : List Exchange → Except Failure Answer → Client → Prop
  | nothing : c.buffer.pending = [] → Flush c [] (.ok .done) c
  | batch (o : Except Failure Reply) : c.buffer.pending ≠ [] →
      Flush c [⟨.applyUpdates c.buffer.pending, o⟩] (o.bind Answer.ofBatchReply) c.drained

/-- Carrying out an operation: the exchanges, the result, and the client after it. -/
inductive Step (c : Client) : Op → List Exchange → Except Failure Answer → Client → Prop
  | hold {header : Tile.Header} {record : Record} :
      c.pending + 1 < c.buffer.threshold →
      Step c (.write header record) [] (.ok .done) (c.holding (c.update header record))
  | fill {header : Tile.Header} {record : Record} {xs : List Exchange}
      {result : Except Failure Answer} {c' : Client} :
      c.buffer.threshold ≤ c.pending + 1 →
      Flush (c.holding (c.update header record)) xs result c' →
      Step c (.write header record) xs result c'
  | flush {xs : List Exchange} {result : Except Failure Answer} {c' : Client} :
      Flush c xs result c' → Step c .flush xs result c'
  | call {call : PlateCall} (o : Except Failure Reply) :
      call.flushesFirst = false →
      Step c (.call call) [⟨.onPlate c.identity.id call, o⟩] (o.bind (Answer.ofReply call)) c
  | flushAndCall {call : PlateCall} {xs : List Exchange} {a : Answer} {c' : Client}
      (o : Except Failure Reply) :
      call.flushesFirst = true → Flush c xs (.ok a) c' →
      Step c (.call call) (xs ++ [⟨.onPlate c.identity.id call, o⟩])
        (o.bind (Answer.ofReply call)) c'
  | refuse {call : PlateCall} {xs : List Exchange} {e : Failure} {c' : Client} :
      call.flushesFirst = true → Flush c xs (.error e) c' →
      Step c (.call call) xs (.error e) c'

/-- A flush leaves the client with nothing to send, whatever came of the batch. -/
theorem Flush.client {c c' : Client} {xs : List Exchange} {result : Except Failure Answer}
    (h : Flush c xs result c') : c' = c.drained := by
  cases h with
  | nothing hp => exact (drained_of_pending_nil hp).symm
  | batch o hp => rfl

theorem Flush.identity {c c' : Client} {xs : List Exchange} {result : Except Failure Answer}
    (h : Flush c xs result c') : c'.identity = c.identity := by
  rw [h.client]
  rfl

/-- A flush over a logged channel goes by the rules, and does what it does over the channel. -/
theorem exists_flush (ch : Channel σ) {c c' : Client} {s s' : σ} {result : Except Failure Answer}
    (h : c.flush ch s = (result, c', s')) :
    ∃ xs, (∀ log, c.flush ch.logged (s, log) = (result, c', s', log ++ xs)) ∧
      Flush c xs result c' := by
  -- the two sides of this case are the two rules
  by_cases hp : c.buffer.pending = []
  · rw [flush_of_pending_nil ch hp] at h
    obtain ⟨rfl, rfl, rfl⟩ := by simpa using h
    refine ⟨[], fun log => ?_, .nothing hp⟩
    rw [flush_of_pending_nil _ hp, List.append_nil]
  · rw [flush_of_pending_ne_nil ch hp] at h
    obtain ⟨rfl, rfl, rfl⟩ := by simpa using h
    refine ⟨_, fun log => ?_, .batch (ch (.applyUpdates c.buffer.pending) s).1 hp⟩
    rw [flush_of_pending_ne_nil _ hp]
    rfl

/-- An operation over a logged channel goes by the rules, and does what it does over the channel. -/
theorem exists_step (ch : Channel σ) {c c' : Client} {op : Op} {s s' : σ}
    {result : Except Failure Answer} (h : c.perform ch op s = (result, c', s')) :
    ∃ xs, (∀ log, c.perform ch.logged op (s, log) = (result, c', s', log ++ xs)) ∧
      Step c op xs result c' := by
  cases op with
  | write header record =>
    rw [perform_write] at h
    split at h
    · -- the update fills the buffer, so the write is a flush of it
      rename_i hfull
      obtain ⟨xs, hlog, hflush⟩ := exists_flush ch h
      refine ⟨xs, fun log => ?_, .fill hfull hflush⟩
      rw [perform_write, if_pos hfull, hlog log]
    · rename_i hroom
      obtain ⟨rfl, rfl, rfl⟩ := by simpa using h
      refine ⟨[], fun log => ?_, .hold (Nat.lt_of_not_le hroom)⟩
      rw [perform_write, if_neg hroom, List.append_nil]
  | flush =>
    obtain ⟨xs, hlog, hflush⟩ := exists_flush ch h
    exact ⟨xs, hlog, .flush hflush⟩
  | call call =>
    cases hf : call.flushesFirst with
    | false =>
      -- a call that can see no updates goes over by itself
      rw [perform_call_of_not_flushesFirst ch c hf] at h
      obtain ⟨rfl, rfl, rfl⟩ := by simpa [send] using h
      refine ⟨_, fun log => ?_, .call (ch (.onPlate c.identity.id call) s).1 hf⟩
      rw [perform_call_of_not_flushesFirst _ c hf]
      rfl
    | true =>
      obtain ⟨⟨flushed, c₁, s₁⟩, hflush⟩ : ∃ after, c.flush ch s = after := ⟨_, rfl⟩
      obtain ⟨xs, hlog, hrule⟩ := exists_flush ch hflush
      -- the call is made only if the flush has not failed
      cases flushed with
      | error e =>
        rw [perform_call_of_flush_error ch hf hflush] at h
        obtain ⟨rfl, rfl, rfl⟩ := by simpa using h
        exact ⟨xs, fun log => perform_call_of_flush_error _ hf (hlog log), .refuse hf hrule⟩
      | ok a =>
        rw [perform_call_of_flush_ok ch hf hflush] at h
        obtain ⟨rfl, rfl, rfl⟩ := by simpa [send] using h
        have hcall := Step.flushAndCall (ch (.onPlate c₁.identity.id call) s₁).1 hf hrule
        rw [← hrule.identity] at hcall
        refine ⟨_, fun log => ?_, hcall⟩
        rw [perform_call_of_flush_ok _ hf (hlog log)]
        simp only [send, Channel.logged, List.append_assoc]

/-! ## Records -/

/-- What an operation handed over, and its result. -/
structure Entry where
  op : Op
  exchanges : List Exchange
  result : Except Failure Answer

/-- Everything that was handed over. -/
def handed (entries : List Entry) : List Exchange := entries.flatMap (·.exchanges)

@[simp] theorem handed_nil : handed [] = [] := rfl

@[simp] theorem handed_cons (e : Entry) (entries : List Entry) :
    handed (e :: entries) = e.exchanges ++ handed entries := rfl

/-- Carry out operations one after another and keep a record: what each of them handed over and its
    result, and the client and the state after them. -/
def record (ch : Channel σ) (c : Client) : List Op → σ → List Entry × Client × σ
  | [], s => ([], c, s)
  | op :: ops, s =>
    let (result, c, s, exchanges) := c.perform ch.logged op (s, [])
    let (entries, c, s) := c.record ch ops s
    (⟨op, exchanges, result⟩ :: entries, c, s)

/-- A record of operations that go by the rules, from one client to another. -/
inductive Steps : Client → List Entry → Client → Prop
  | nil (c : Client) : Steps c [] c
  | cons {c c₁ c' : Client} {e : Entry} {entries : List Entry} :
      Step c e.op e.exchanges e.result c₁ → Steps c₁ entries c' → Steps c (e :: entries) c'

/-- A record is cut at any entry into two that go by the rules. -/
theorem Steps.of_append {c c' : Client} {front back : List Entry}
    (h : Steps c (front ++ back) c') : ∃ c₁, Steps c front c₁ ∧ Steps c₁ back c' := by
  induction front generalizing c with
  | nil => exact ⟨c, .nil c, h⟩
  | cons e front ih =>
    cases h with
    | cons hstep hrest =>
      obtain ⟨c₁, hfront, hback⟩ := ih hrest
      exact ⟨c₁, .cons hstep hfront, hback⟩

/-- The record of a run goes by the rules. It has an entry for every operation, with the result that
    the operation has in the run, and it has all that the channel logs in the course of the run. -/
theorem record_spec (ch : Channel σ) {c c' : Client} {ops : List Op} {s s' : σ}
    {entries : List Entry} (h : c.record ch ops s = (entries, c', s')) :
    Steps c entries c' ∧ entries.map (·.op) = ops ∧
      c.run ch ops s = (entries.map (·.result), c', s') ∧
      ∀ log, c.run ch.logged ops (s, log) =
        (entries.map (·.result), c', s', log ++ handed entries) := by
  -- along the operations, each from the client and the state that the one before it left
  induction ops generalizing c c' s s' entries with
  | nil =>
    obtain ⟨rfl, rfl, rfl⟩ := by simpa [record] using h
    exact ⟨.nil c, rfl, rfl, fun log => by simp [run]⟩
  | cons op ops ih =>
    obtain ⟨⟨result, c₁, s₁⟩, hop⟩ : ∃ after, c.perform ch op s = after := ⟨_, rfl⟩
    obtain ⟨xs, hlog, hstep⟩ := exists_step ch hop
    obtain ⟨⟨rest, c₂, s₂⟩, hrest⟩ : ∃ after, c₁.record ch ops s₁ = after := ⟨_, rfl⟩
    obtain ⟨hsteps, hops, hrun, hlogged⟩ := ih hrest
    -- the entry of an operation is logged from nothing, the run after what was logged before
    have hfirst := hlog []
    rw [List.nil_append] at hfirst
    simp only [record, hfirst, hrest] at h
    obtain ⟨rfl, rfl, rfl⟩ := by simpa using h
    refine ⟨.cons hstep hsteps, by simp [hops], ?_, fun log => ?_⟩
    · simp only [run, hop, hrun, List.map_cons]
    · simp only [run, hlog, hlogged, List.map_cons, handed_cons, List.append_assoc]

/-! ## Frames -/

/-- The client after an operation does not depend on the exchanges. -/
theorem Step.client {c c' : Client} {op : Op} {xs : List Exchange}
    {result : Except Failure Answer} (h : Step c op xs result c') : c' = c.after op := by
  -- `after` makes the same distinctions as the rules, by the buffer and by the kind of call
  cases h with
  | hold hroom => exact (if_pos hroom).symm
  | fill hfull hflush => exact hflush.client.trans (if_neg (Nat.not_lt.2 hfull)).symm
  | flush hflush => exact hflush.client
  | call o hcall => exact (if_neg (Bool.not_eq_true _ ▸ hcall)).symm
  | flushAndCall o hcall hflush => exact hflush.client.trans (if_pos hcall).symm
  | refuse hcall hflush => exact hflush.client.trans (if_pos hcall).symm

theorem Step.identity {c c' : Client} {op : Op} {xs : List Exchange}
    {result : Except Failure Answer} (h : Step c op xs result c') : c'.identity = c.identity := by
  obtain ⟨us, hafter⟩ := c.exists_after_eq op
  rw [h.client, hafter]

theorem Step.header {c c' : Client} {op : Op} {xs : List Exchange}
    {result : Except Failure Answer} (h : Step c op xs result c') : c'.header = c.header := by
  obtain ⟨us, hafter⟩ := c.exists_after_eq op
  rw [h.client, hafter]

theorem Step.threshold {c c' : Client} {op : Op} {xs : List Exchange}
    {result : Except Failure Answer} (h : Step c op xs result c') :
    c'.buffer.threshold = c.buffer.threshold := by
  obtain ⟨us, hafter⟩ := c.exists_after_eq op
  rw [h.client, hafter]

/-- Operations never change which plate a client is of, nor its threshold. -/
theorem Steps.frame {c c' : Client} {entries : List Entry} (h : Steps c entries c') :
    c'.identity = c.identity ∧ c'.buffer.threshold = c.buffer.threshold := by
  induction h with
  | nil c => exact ⟨rfl, rfl⟩
  | cons hstep _ ih => exact ⟨ih.1.trans hstep.identity, ih.2.trans hstep.threshold⟩

end Client

end TileIndex
