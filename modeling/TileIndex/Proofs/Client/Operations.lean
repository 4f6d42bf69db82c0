import TileIndex.Client

/-!
# What an operation comes to

Each operation of a client in terms of the batch it sends, if it sends one, and the call it then
makes, whatever the channel does.
-/

universe u

namespace TileIndex

/-- There can be room for all the updates that a client with some settings may hold back. -/
def Settings.HasRoom (settings : Settings) : Prop :=
  settings.maxPending.toNat ≤ WriteBuffer.greatestRoom

instance (settings : Settings) : Decidable settings.HasRoom := inferInstanceAs (Decidable (_ ≤ _))

namespace Client

variable {σ : Type u}

/-! ## Buffers -/

/-- The client with one more update that waits. -/
def holding (c : Client) (u : Update) : Client :=
  { c with buffer := { c.buffer with pending := c.buffer.pending ++ [u] } }

/-- The client with nothing that waits. -/
def drained (c : Client) : Client := { c with buffer := { c.buffer with pending := [] } }

@[simp] theorem pending_holding (c : Client) (u : Update) :
    (c.holding u).buffer.pending = c.buffer.pending ++ [u] := rfl

@[simp] theorem pending_drained (c : Client) : c.drained.buffer.pending = [] := rfl

theorem drained_of_pending_nil {c : Client} (h : c.buffer.pending = []) : c.drained = c := by
  -- the buffer is the only field that differs, and it is empty already
  obtain ⟨identity, header, pending, threshold, pos⟩ := c
  simp only at h
  subst h
  rfl

/-! ## Operations -/

/-- Nothing is sent where nothing waits. -/
theorem flush_of_pending_nil (ch : Channel σ) {c : Client} (h : c.buffer.pending = []) (s : σ) :
    c.flush ch s = (.ok .done, c, s) := by
  unfold flush WriteBuffer.drain
  rw [if_pos h]

/-- Otherwise what waits is sent as one batch, and is gone whatever comes of it. -/
theorem flush_of_pending_ne_nil (ch : Channel σ) {c : Client} (h : c.buffer.pending ≠ []) (s : σ) :
    c.flush ch s =
      ((ch (.applyUpdates c.buffer.pending) s).1.bind Answer.ofBatchReply, c.drained,
        (ch (.applyUpdates c.buffer.pending) s).2) := by
  unfold flush WriteBuffer.drain
  rw [if_neg h]
  rfl

/-- A write flushes when its update fills the buffer, and else only holds it back. -/
theorem perform_write (ch : Channel σ) (c : Client) (header : Tile.Header) (record : Record)
    (s : σ) :
    c.perform ch (.write header record) s =
      if c.buffer.threshold ≤ c.pending + 1 then (c.holding (c.update header record)).flush ch s
      else (.ok .done, c.holding (c.update header record), s) := by
  unfold perform WriteBuffer.push pending WriteBuffer.size
  simp only [List.length_append, List.length_singleton, decide_eq_true_eq]
  rfl

theorem perform_call_of_not_flushesFirst (ch : Channel σ) (c : Client) {call : PlateCall}
    (h : call.flushesFirst = false) (s : σ) :
    c.perform ch (.call call) s = c.send ch call s := by
  simp [perform, h]

theorem perform_call_of_flush_ok (ch : Channel σ) {c c' : Client} {call : PlateCall}
    (h : call.flushesFirst = true) {s s' : σ} {a : Answer}
    (hf : c.flush ch s = (.ok a, c', s')) :
    c.perform ch (.call call) s = c'.send ch call s' := by
  simp [perform, h, hf]

/-- A call is not made when the flush before it fails. -/
theorem perform_call_of_flush_error (ch : Channel σ) {c c' : Client} {call : PlateCall}
    (h : call.flushesFirst = true) {s s' : σ} {e : Failure}
    (hf : c.flush ch s = (.error e, c', s')) :
    c.perform ch (.call call) s = (.error e, c', s') := by
  simp [perform, h, hf]

/-! ## Clients afterwards -/

/-- The client after an operation. What it hands over has no part in this, nor has what comes of it. -/
def after (c : Client) : Op → Client
  | .write header record =>
    if c.pending + 1 < c.buffer.threshold then c.holding (c.update header record) else c.drained
  | .flush => c.drained
  | .call call => if call.flushesFirst then c.drained else c

/-- An operation changes what waits and nothing else. -/
theorem exists_after_eq (c : Client) (op : Op) :
    ∃ us, c.after op = { c with buffer := { c.buffer with pending := us } } := by
  cases op with
  | write header record =>
    simp only [after]
    split
    · exact ⟨c.buffer.pending ++ [c.update header record], rfl⟩
    · exact ⟨[], rfl⟩
  | flush => exact ⟨[], rfl⟩
  | call call =>
    simp only [after]
    split
    · exact ⟨[], rfl⟩
    · exact ⟨c.buffer.pending, rfl⟩

/-! ## Construction -/

theorem new_of_hasRoom {settings : Settings} (h : settings.HasRoom) :
    WriteBuffer.new settings.maxPending.toNat = .ok (.empty settings.maxPending.toNat) :=
  if_pos h

theorem new_of_not_hasRoom {settings : Settings} (h : ¬settings.HasRoom) :
    WriteBuffer.new settings.maxPending.toNat = .error .capacityOverflow :=
  if_neg h

section

variable {operation : Operation} {settings : Settings} {header : Plate.Header} {id : PlateId}
  {reply : Reply} {c : Client}

/-- An opened plate with an identifier makes a client, if there is room for what it may hold back. -/
theorem ofReply_opened (hid : header.id = some id) (operation : Operation) (h : settings.HasRoom)
    (shortName fullName : String) :
    ofReply operation settings (.opened header shortName fullName) =
      .ok ⟨⟨id, shortName, fullName⟩, header, .empty settings.maxPending.toNat⟩ := by
  simp only [ofReply, hid, new_of_hasRoom h]

/-- Without the room it makes a panic. -/
theorem ofReply_opened_of_not_hasRoom (hid : header.id = some id) (operation : Operation)
    (h : ¬settings.HasRoom) (shortName fullName : String) :
    ofReply operation settings (.opened header shortName fullName) =
      .error (.panic .capacityOverflow) := by
  simp only [ofReply, hid, new_of_not_hasRoom h]

/-- There is a client for no other reply. -/
theorem ofReply_eq_ok (h : ofReply operation settings reply = .ok c) :
    ∃ header shortName fullName id, reply = .opened header shortName fullName ∧
      header.id = some id ∧ settings.HasRoom ∧
      c = ⟨⟨id, shortName, fullName⟩, header, .empty settings.maxPending.toNat⟩ := by
  unfold ofReply at h
  split at h
  · rename_i header shortName fullName
    split at h
    · simp at h
    · rename_i id hid
      -- an opened plate with an identifier: the room for its buffer decides
      by_cases hroom : settings.HasRoom
      · rw [new_of_hasRoom hroom] at h
        exact ⟨header, shortName, fullName, id, rfl, hid, hroom, (Except.ok.inj h).symm⟩
      · rw [new_of_not_hasRoom hroom] at h
        simp at h
  · simp at h
  · simp at h

/-- There is a panic for no other reply. -/
theorem ofReply_eq_panic {p : Panic} (h : ofReply operation settings reply = .error (.panic p)) :
    p = .capacityOverflow ∧ ¬settings.HasRoom ∧
      ∃ header shortName fullName id, reply = .opened header shortName fullName ∧
        header.id = some id := by
  unfold ofReply at h
  split at h
  · rename_i header shortName fullName
    split at h
    · simp at h
    · rename_i id hid
      -- a buffer without room is the only cause
      by_cases hroom : settings.HasRoom
      · rw [new_of_hasRoom hroom] at h
        simp at h
      · rw [new_of_not_hasRoom hroom] at h
        obtain rfl := Halt.panic.inj (Except.error.inj h)
        exact ⟨rfl, hroom, header, shortName, fullName, id, rfl, hid⟩
  · simp at h
  · simp at h

/-- A reply that makes a client under some settings does not fail under others. -/
theorem ofReply_ne_failure (h : ofReply operation settings reply = .ok c) (operation' : Operation)
    (settings' : Settings) (e : Failure) :
    ofReply operation' settings' reply ≠ .error (.failure e) := by
  obtain ⟨header, shortName, fullName, id, rfl, hid, -⟩ := ofReply_eq_ok h
  by_cases hroom : settings'.HasRoom
  · rw [ofReply_opened hid _ hroom]
    nofun
  · rw [ofReply_opened_of_not_hasRoom hid _ hroom]
    nofun

end

/-- Settings that can be used have a threshold. -/
theorem maxPending_ne_zero_of_validate {settings : Settings} (h : settings.validate = .ok ()) :
    settings.maxPending ≠ 0 := by
  intro hzero
  have hflaw : settings.flaw? = some .noPending := if_pos hzero
  simp [Settings.validate, hflaw] at h

/-- Under settings that can be used, what comes of the request makes the result. -/
theorem construct_of_validate {ch : Channel σ} {settings : Settings} {r : Request}
    {outcome : Except Failure Reply} {s s' : σ} (hvalid : settings.validate = .ok ())
    (hcall : ch r s = (outcome, s')) :
    construct ch settings r s =
      ((outcome.mapError .failure).bind (ofReply r.operation settings), s') := by
  simp only [construct, hvalid, hcall]

/-- So a reply alone decides whether there is a client. -/
theorem construct_of_reply {ch : Channel σ} {settings : Settings} {r : Request} {reply : Reply}
    {s s' : σ} (hvalid : settings.validate = .ok ()) (hcall : ch r s = (.ok reply, s')) :
    construct ch settings r s = (ofReply r.operation settings reply, s') :=
  construct_of_validate hvalid hcall

/-- Nothing waits at a client that was just constructed, and its threshold is that of its settings. -/
theorem buffer_of_construct {ch : Channel σ} {settings : Settings} {make : Request} {c : Client}
    {s s' : σ} (h : construct ch settings make s = (.ok c, s')) :
    c.buffer.pending = [] ∧ c.buffer.threshold = settings.maxPending.toNat := by
  cases hvalid : settings.validate with
  | error e =>
    rw [construct, hvalid] at h
    simp at h
  | ok u =>
    have hpos : settings.maxPending.toNat ≠ 0 := by
      intro hzero
      exact maxPending_ne_zero_of_validate hvalid (UInt64.toNat_inj.1 hzero)
    obtain ⟨⟨outcome, s₁⟩, hout⟩ : ∃ after, ch make s = after := ⟨_, rfl⟩
    rw [construct_of_validate hvalid hout] at h
    cases outcome with
    | error e => cases h
    | ok reply =>
      obtain ⟨header, shortName, fullName, id, -, -, -, rfl⟩ := ofReply_eq_ok (Prod.mk.inj h).1
      refine ⟨rfl, ?_⟩
      -- a buffer has a threshold of at least one, and this one is not zero
      show max settings.maxPending.toNat 1 = settings.maxPending.toNat
      omega

end Client

end TileIndex
