import TileIndex.Bus.Line

/-!
# Calls step by step

A call writes its request, sends it, and waits for the reply. The function that waits may never
return, so what it returns is described by a relation with one case for each thing that a look at
the reply queue can bring. The relation is the graph of the function, and whatever is to be proved
of a call that returns goes by induction on it.

## Main statements

- `Line.waits_iff`: waiting returns exactly what the relation says.
- `Line.call_of_send`: what a call comes to once its request is sent.
-/

universe u

namespace TileIndex

/-! ## Messages -/

/-- A message carries a value if the value can be written, and then has no metadata. -/
theorem Message.carrying_eq_ok {α : Type} {id type : String} {c : Coding α} {a : α} {m : Message}
    (h : carrying id type c a = .ok m) :
    ∃ bytes, c.write a = .ok bytes ∧ m = plain id type bytes := by
  -- only a value that was written is wrapped
  cases hwrite : c.write a with
  | error text => simp [carrying, hwrite, Except.map] at h
  | ok bytes =>
    simp only [carrying, hwrite, Except.map, Except.ok.injEq] at h
    exact ⟨bytes, rfl, h.symm⟩

namespace Line

variable {τ : Type u} {l : Line} {w : Format} {t : Transport τ} {now : Duration} {id : String}
  {r : Request} {m : Message} {s s₁ s' : τ} {left : Option Nat} {outcome : Except Failure Message}

/-- The message of a request has the bytes of the request, and the reply queue in its metadata. -/
theorem requestMessage_eq_ok (h : l.requestMessage w id r = .ok m) :
    ∃ bytes, w.request.write r = .ok bytes ∧
      m = (Message.plain id r.operation.name bytes).withMetadata Message.replyToKey l.replyQueue := by
  unfold requestMessage at h
  cases hcarrying : Message.carrying id r.operation.name w.request r with
  | error text => simp [hcarrying, Except.map] at h
  | ok m' =>
    obtain ⟨bytes, hwrite, rfl⟩ := Message.carrying_eq_ok hcarrying
    simp only [hcarrying, Except.map, Except.ok.injEq] at h
    exact ⟨bytes, hwrite, h.symm⟩

/-- The message of a request has the identifier of the call. -/
theorem id_requestMessage (h : l.requestMessage w id r = .ok m) : m.id = id := by
  obtain ⟨bytes, -, rfl⟩ := requestMessage_eq_ok h
  rfl

/-- It is labelled with the operation. -/
theorem type_requestMessage (h : l.requestMessage w id r = .ok m) : m.type = r.operation.name := by
  obtain ⟨bytes, -, rfl⟩ := requestMessage_eq_ok h
  rfl

/-- It names the reply queue of the line. -/
theorem replyTo?_requestMessage (h : l.requestMessage w id r = .ok m) :
    m.replyTo? = some l.replyQueue := by
  obtain ⟨bytes, -, rfl⟩ := requestMessage_eq_ok h
  simp [Message.plain, Message.withMetadata, Message.setEntry, Message.replyTo?, Message.metadata?]

/-- It carries what the format has written for the request. -/
theorem write_requestMessage (h : l.requestMessage w id r = .ok m) :
    w.request.write r = .ok m.payload := by
  obtain ⟨bytes, hwrite, rfl⟩ := requestMessage_eq_ok h
  exact hwrite

/-- A request that the format can write has a message. -/
theorem exists_requestMessage (h : w.request.RoundTrips) (l : Line) (id : String) (r : Request) :
    ∃ m, l.requestMessage w id r = .ok m := by
  obtain ⟨bytes, hwrite, -⟩ := h r
  simp only [requestMessage, Message.carrying, hwrite, Except.map]
  exact ⟨_, rfl⟩

/-! ## Waiting -/

/-- Waiting for the reply to a call with some time left, or without a deadline: what the looks come
    to, what comes of them, and the state after them. -/
inductive Waits (l : Line) (t : Transport τ) (id : String) :
    Option Nat → τ → List Heard → Except Failure Message → τ → Prop
  /-- No time is left. -/
  | expired (s : τ) : Waits l t id (some 0) s [] (.error (.transport .timeout)) s
  /-- Something comes of a look. -/
  | settled {left : Option Nat} {s s' : τ} {h : Heard} {outcome : Except Failure Message} :
      left ≠ some 0 → t.listen l.replyQueue (waitMs left) s = (h, s') →
      outcome? id h.found = some outcome → Waits l t id left s [h] outcome s'
  /-- Nothing comes of a look, and the time it takes is gone. -/
  | passed {left : Option Nat} {s s₁ s' : τ} {h : Heard} {heard : List Heard}
      {outcome : Except Failure Message} :
      left ≠ some 0 → t.listen l.replyQueue (waitMs left) s = (h, s₁) →
      outcome? id h.found = none →
      Waits l t id (left.map (leftAfter · h.elapsed)) s₁ heard outcome s' →
      Waits l t id left s (h :: heard) outcome s'

/-- Whatever waiting returns is the end of finitely many looks. -/
theorem exists_waits (h : l.awaitReply t id left s = some (outcome, s')) :
    ∃ heard, Waits l t id left s heard outcome s' := by
  -- the looks before the last are those of the call that the loop makes on itself
  refine awaitReply.partial_correctness l t id
    (fun left s after => ∃ heard, Waits l t id left s heard after.1 after.2) ?_ left s _ h
  intro again ih left s after hafter
  dsimp only at hafter
  split at hafter
  · -- the time is over before the look
    rename_i hzero
    obtain rfl := Option.some.inj hafter
    exact ⟨[], hzero ▸ .expired s⟩
  · rename_i hleft
    split at hafter
    · rename_i outcome hout
      obtain rfl := Option.some.inj hafter
      exact ⟨_, .settled hleft rfl hout⟩
    · -- nothing came of the look, so the loop goes on
      rename_i hout
      obtain ⟨heard, hrest⟩ := ih _ _ _ hafter
      exact ⟨_, .passed hleft rfl hout hrest⟩

/-- Looks that come to something are what waiting does. -/
theorem Waits.awaitReply_eq {heard : List Heard} (h : Waits l t id left s heard outcome s') :
    l.awaitReply t id left s = some (outcome, s') := by
  induction h with
  | expired s => rw [awaitReply, if_pos rfl]
  | settled hleft hlisten hout =>
    rw [awaitReply, if_neg hleft]
    simp only [hlisten, hout]
  | passed hleft hlisten hout _ ih =>
    rw [awaitReply, if_neg hleft]
    simp only [hlisten, hout]
    exact ih

/-- Waiting returns exactly what the relation says. -/
theorem waits_iff : l.awaitReply t id left s = some (outcome, s') ↔
    ∃ heard, Waits l t id left s heard outcome s' :=
  ⟨exists_waits, fun ⟨_, h⟩ => h.awaitReply_eq⟩

/-! ## Calls -/

/-- A reply that can be read is what a call brings. -/
theorem replyIn_of_read {reply : Reply} (h : w.reply.read m.payload = .ok reply) :
    replyIn w m = .ok reply := by
  rw [replyIn, h]
  rfl

/-- A reply that cannot be read fails the call, with what the format says of it. -/
theorem replyIn_of_read_error {text : String} (h : w.reply.read m.payload = .error text) :
    replyIn w m = .error (.codec text) := by
  rw [replyIn, h]
  rfl

/-- A call whose request cannot be written asks nothing of the transport. -/
theorem call_of_write_error {text : String} (h : l.requestMessage w id r = .error text)
    (t : Transport τ) (now : Duration) (s : τ) :
    l.call w t now id r s = some (.error (.codec text), s) := by
  simp only [call, h]

/-- A request that is not sent is not waited for. -/
theorem call_of_send_error {e : TransportError} (hm : l.requestMessage w id r = .ok m)
    (hsend : t.send l.requestQueue m s = (.error e, s₁)) :
    l.call w t now id r s = some (.error (.transport e), s₁) := by
  simp only [call, hm, hsend]

/-- What a call comes to once its request is sent. -/
theorem call_of_send (hm : l.requestMessage w id r = .ok m)
    (hsend : t.send l.requestQueue m s = (.ok (), s₁)) :
    l.call w t now id r s =
      (l.awaitReply t id ((l.timeLeft? now).map (leftAfter · 0)) s₁).map fun after =>
        (after.1.bind (replyIn w), after.2) := by
  simp only [call, hm, hsend]

end Line

end TileIndex
