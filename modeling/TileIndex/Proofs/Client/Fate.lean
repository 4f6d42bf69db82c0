import TileIndex.Proofs.Client.Delivery

/-!
# What becomes of updates

A client forgets a batch when it hands it over, so a batch that fails is gone. It is not gone
silently: the operation that handed it over reports the failure. An update that was written
therefore waits, has been acknowledged, or was lost with a failure that some operation returned.

## Main statements

- `Client.Step.settled`: the operation that hands over a batch that fails returns its failure.
- `Client.accounts_of_construct`: the fates of all the updates of a client, and what success means.
-/

universe u

namespace TileIndex

/-- What has become of an update. -/
inductive Fate
  | waiting
  | acknowledged
  | lost (e : Failure)
  deriving DecidableEq, Repr

/-- What becomes of the updates in a batch. -/
def Exchange.fate (x : Exchange) : Fate :=
  match x.outcome.bind Answer.ofBatchReply with
  | .ok _ => .acknowledged
  | .error e => .lost e

/-- The updates that were handed over, each with its fate. -/
def fates (xs : List Exchange) : List (Update × Fate) :=
  xs.flatMap fun x => x.request.updates.map (·, x.fate)

/-- Each update that was handed over has one fate. -/
theorem fst_fates (xs : List Exchange) : (fates xs).map Prod.fst = batched xs := by
  simp [fates, batched, List.map_flatMap, Function.comp_def]

theorem Exchange.fate_of_done {x : Exchange} (h : x.outcome = .ok .done) :
    x.fate = .acknowledged := by
  rw [fate, h]
  rfl

theorem Exchange.fate_of_error {x : Exchange} {e : Failure}
    (h : x.outcome.bind Answer.ofBatchReply = .error e) : x.fate = .lost e := by
  rw [fate, h]

/-- Where no batch has failed, all updates have been acknowledged. -/
theorem fates_of_done {xs : List Exchange}
    (h : ∀ x ∈ xs, ∀ us, x.request = .applyUpdates us → x.outcome = .ok .done) :
    fates xs = (batched xs).map (·, .acknowledged) := by
  have hbatch : ∀ x ∈ xs,
      x.request.updates.map (·, x.fate) = x.request.updates.map (·, .acknowledged) := by
    -- an exchange that is no batch carries no updates, so its fate does not matter
    rintro ⟨r, o⟩ hx
    cases r with
    | applyUpdates us => rw [Exchange.fate_of_done (h _ hx us rfl)]
    | _ => rfl
  rw [fates, batched, List.map_flatMap, List.flatMap_def, List.flatMap_def,
    List.map_congr_left hbatch]

namespace Client

variable {σ : Type u} {c c' : Client} {op : Op} {xs : List Exchange}
  {result : Except Failure Answer} {entries : List Entry}

/-! ## Operations -/

/-- A batch is acknowledged, or its failure is what its operation returns. -/
theorem Step.settled (h : Step c op xs result c') {x : Exchange} (hx : x ∈ xs) {us : List Update}
    (hus : x.request = .applyUpdates us) :
    x.outcome = .ok .done ∨
      ∃ e, x.outcome.bind Answer.ofBatchReply = .error e ∧ result = .error e := by
  -- a flush returns what its batch comes to
  have hflush : ∀ {c₁ c₂ : Client}, Flush c₁ xs result c₂ → x.outcome = .ok .done ∨
      ∃ e, x.outcome.bind Answer.ofBatchReply = .error e ∧ result = .error e := by
    intro c₁ c₂ hf
    obtain ⟨-, -, ho⟩ := hf.mem hx
    cases result with
    | ok a => exact .inl (eq_done_of_bind_ofBatchReply ho)
    | error e => exact .inr ⟨e, ho, rfl⟩
  cases h with
  | hold hroom => simp at hx
  | fill hfull hf => exact hflush hf
  | flush hf => exact hflush hf
  | refuse hcall hf => exact hflush hf
  -- a call carries no updates
  | call o hcall =>
    obtain rfl := List.mem_singleton.1 hx
    exact absurd hus Request.noConfusion
  | flushAndCall o hcall hf =>
    -- the call is made, so the flush before it has succeeded
    rcases List.mem_append.1 hx with hx | hx
    · obtain ⟨us', rfl⟩ := hf.acknowledged x hx
      exact .inl rfl
    · obtain rfl := List.mem_singleton.1 hx
      exact absurd hus Request.noConfusion

/-- An operation that succeeds has handed over no batch that failed. -/
theorem Step.done_of_ok {a : Answer} (h : Step c op xs (.ok a) c') :
    ∀ x ∈ xs, ∀ us, x.request = .applyUpdates us → x.outcome = .ok .done := by
  intro x hx us hus
  rcases h.settled hx hus with hdone | ⟨e, -, he⟩
  · exact hdone
  · cases he

/-- A call that returns an answer was handed over, as the last of its operation. -/
theorem Step.made_of_ok {call : PlateCall} {a : Answer} (h : Step c (.call call) xs (.ok a) c') :
    ∃ front o, xs = front ++ [⟨.onPlate c.identity.id call, o⟩] := by
  -- the result is a variable while the rules are distinguished
  generalize hr : (Except.ok a : Except Failure Answer) = result at h
  cases h with
  | call o hcall => exact ⟨[], o, rfl⟩
  | @flushAndCall _ front _ _ o hcall hf => exact ⟨front, o, rfl⟩
  | refuse hcall hf => cases hr

/-! ## Runs -/

/-- In a run, too, a batch is acknowledged or its failure is what its operation returns. -/
theorem Steps.settled (h : Steps c entries c') {e : Entry} (he : e ∈ entries) {x : Exchange}
    (hx : x ∈ e.exchanges) {us : List Update} (hus : x.request = .applyUpdates us) :
    x.outcome = .ok .done ∨
      ∃ f, x.outcome.bind Answer.ofBatchReply = .error f ∧ e.result = .error f := by
  obtain ⟨before, after, rfl⟩ := List.append_of_mem he
  obtain ⟨c₁, -, hrest⟩ := h.of_append
  cases hrest with
  | cons hstep _ => exact hstep.settled hx hus

/-- As long as no operation has failed, no batch has. -/
theorem Steps.done_of_ok (h : Steps c entries c') (hok : ∀ e ∈ entries, ∃ a, e.result = .ok a) :
    ∀ x ∈ handed entries, ∀ us, x.request = .applyUpdates us → x.outcome = .ok .done := by
  intro x hx us hus
  obtain ⟨e, he, hxe⟩ := List.mem_flatMap.1 hx
  obtain ⟨a, ha⟩ := hok e he
  rcases h.settled he hxe hus with hdone | ⟨f, -, hf⟩
  · exact hdone
  · cases ha.symm.trans hf

/-- A call that could see updates and returns an answer was made after all that were written before
    it were acknowledged, unless an earlier operation failed. -/
theorem Steps.durable (h : Steps c entries c') (hempty : c.buffer.pending = [])
    {before after : List Entry} {e : Entry} (hentries : entries = before ++ e :: after)
    (hok : ∀ d ∈ before, ∃ a, d.result = .ok a) {call : PlateCall} {a : Answer}
    (hop : e.op = .call call) (hcall : call.flushesFirst = true) (ha : e.result = .ok a) :
    ∃ front o, e.exchanges = front ++ [⟨.onPlate c.identity.id call, o⟩] ∧
      fates (handed before ++ front) =
        (written c.identity.id (before.map (·.op))).map (·, .acknowledged) := by
  obtain ⟨c₁, hbefore, hrest⟩ := (hentries ▸ h).of_append
  cases hrest with
  | cons hstep _ =>
    rw [hop, ha] at hstep
    -- the call was made, so everything was handed over before it, and nothing of that has failed
    obtain ⟨front, o, hxs⟩ := hstep.made_of_ok
    obtain ⟨-, -, hall, -⟩ := h.guarded hentries hxs hcall
    rw [hempty, List.nil_append] at hall
    refine ⟨front, o, hbefore.frame.1 ▸ hxs, ?_⟩
    rw [← hall]
    refine fates_of_done fun x hx us hus => ?_
    rcases List.mem_append.1 hx with hx | hx
    · exact hbefore.done_of_ok hok x hx us hus
    · exact hstep.done_of_ok x (hxs ▸ List.mem_append_left _ hx) us hus

/-! ## From construction on -/

/-- The updates that were written to a client, each with its fate. -/
def ledger (entries : List Entry) (waiting : List Update) : List (Update × Fate) :=
  fates (handed entries) ++ waiting.map (·, .waiting)

/-- How the updates that are written to a client of the plate `p` are accounted for, in view of the
    record of its operations and of what waits after them. -/
structure Accounts (p : PlateId) (entries : List Entry) (waiting : List Update) : Prop where
  /-- Every update that was written has one fate. -/
  complete : (ledger entries waiting).map Prod.fst = written p (entries.map (·.op))
  /-- The updates of a batch are acknowledged when the service has acknowledged it, and are otherwise
      lost with the failure of the batch, which the operation that handed it over returns. -/
  settled : ∀ e ∈ entries, ∀ x ∈ e.exchanges, ∀ us, x.request = .applyUpdates us →
    x.fate = .acknowledged ∧ x.outcome = .ok .done ∨
      ∃ f, x.fate = .lost f ∧ x.outcome.bind Answer.ofBatchReply = .error f ∧ e.result = .error f
  /-- As long as no operation has failed, a call that could see updates returns an answer only if
      all those written before it were acknowledged before it was made. -/
  durable : ∀ before e after, entries = before ++ e :: after →
    (∀ d ∈ before, ∃ a, d.result = .ok a) →
      ∀ call a, e.op = .call call → call.flushesFirst = true → e.result = .ok a →
        ∃ front o, e.exchanges = front ++ [⟨.onPlate p call, o⟩] ∧
          fates (handed before ++ front) =
            (written p (before.map (·.op))).map (·, .acknowledged)

/-- **No update is lost silently.** Whatever the channel does, and whatever is asked of a client
    that was constructed over it. -/
theorem accounts_of_construct (ch : Channel σ) {settings : Settings} {make : Request} {s₀ s₁ : σ}
    (h : construct ch settings make s₀ = (.ok c, s₁)) (ops : List Op) :
    let (entries, c', _) := c.record ch ops s₁
    entries.map (·.op) = ops ∧ Accounts c.identity.id entries c'.buffer.pending := by
  obtain ⟨hempty, -⟩ := buffer_of_construct h
  obtain ⟨⟨entries, c', s'⟩, hrecord⟩ : ∃ after, c.record ch ops s₁ = after := ⟨_, rfl⟩
  obtain ⟨hsteps, hops, -, -⟩ := record_spec ch hrecord
  simp only [hrecord]
  refine ⟨hops, ?complete, ?settled, ?durable⟩
  case complete =>
    -- the ledger without the fates is what was handed over and what waits
    have hwaiting : (c'.buffer.pending.map fun u => (u, Fate.waiting)).map Prod.fst =
        c'.buffer.pending := by simp [Function.comp_def]
    rw [ledger, List.map_append, fst_fates, hwaiting, hsteps.batched_append_pending, hempty,
      List.nil_append]
  case settled =>
    intro e he x hx us hus
    rcases hsteps.settled he hx hus with hdone | ⟨f, hf, hresult⟩
    · exact .inl ⟨Exchange.fate_of_done hdone, hdone⟩
    · exact .inr ⟨f, Exchange.fate_of_error hf, hf, hresult⟩
  case durable =>
    intro before e after hentries hok call a hop hcall ha
    exact hsteps.durable hempty hentries hok hop hcall ha

/-- A client that writes an update, completes a transaction, and meets a malformed reply after that. -/
theorem accounts_of_construct_planned :
    let plates :=
      (Service.new "/plates").run [.createPlate "mars" (.unassigned 256 "png" .rgba .uint8)]
    let malformed : Plan := ⟨some Operation.readCursor.name, .error (.codec "unexpected end of input")⟩
    let ops : List Op :=
      [.call (.beginTransaction "base" none), .write ⟨0, 0, 1, 1, "png"⟩ (.stored 0 0 9),
        .call (.completeTransaction 1 true), .write ⟨1, 0, 1, 1, "png"⟩ (.stored 0 9 9),
        .call .readCursor]
    ∃ c s, construct Channel.direct.planned Settings.standard (.openPlate "mars")
        (plates, [malformed]) = (.ok c, s) ∧
      let (entries, c', _) := c.record Channel.direct.planned ops s
      entries.map (·.op) = ops ∧ Accounts c.identity.id entries c'.buffer.pending := by
  intro plates malformed ops
  obtain ⟨c, s, hmade⟩ : ∃ c s, construct Channel.direct.planned Settings.standard
      (.openPlate "mars") (plates, [malformed]) = (.ok c, s) := ⟨_, _, rfl⟩
  exact ⟨c, s, hmade, accounts_of_construct Channel.direct.planned hmade ops⟩

end Client

end TileIndex
