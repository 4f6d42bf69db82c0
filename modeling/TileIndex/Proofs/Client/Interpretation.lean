import TileIndex.Proofs.Client.Delivery

/-!
# What clients make of replies

A service may send any reply to any request. A client takes a reply for an answer if it is of the
one kind that belongs to the operation, and then hands on what the reply carries. All else is a
failure: that of the channel, the one that a fault means, or one of a reply that does not fit. An
operation that flushes first goes on to its own request only if the batch was acknowledged, and what
it leaves waiting at the client does not depend on any reply.

## Main statements

- `Client.interprets_call`: the result of a call interprets its outcome.
- `Client.Step.conveys`: an operation hands over its requests up to the first that fails.
- `Client.interpreted_perform`: the replies to every operation are interpreted soundly.
-/

universe u

namespace TileIndex

/-! ## Answers and their replies -/

/-- What the reply that belongs to an operation is called. -/
def Operation.replyKind : Operation → String
  | openPlate | createPlate => "opened"
  | read => "record"
  | multiRead => "records"
  | reserveBlob => "blob id"
  | validTiles => "tile headers"
  | numLevels => "level count"
  | beginTransaction | readCursor => "transaction id"
  | applyUpdates | releaseBlob | completeTransaction | failTransaction => "ack"

/-- The reply that carries an answer. -/
def Answer.toReply : Answer → Reply
  | done => .done
  | record r => .record r
  | records rs => .records rs
  | blob b => .blob b
  | headers hs => .headers hs
  | levels n => .levels n
  | transaction t => .transaction t

/-- A reply carries one answer at most. -/
theorem Answer.toReply_inj {a b : Answer} (h : a.toReply = b.toReply) : a = b := by
  cases a <;> cases b <;> simp_all [toReply]

/-- The result of an operation interprets what came of its request. -/
structure Interprets (r : Request) (outcome : Except Failure Reply)
    (result : Except Failure Answer) : Prop where
  /-- It is an answer exactly if the reply belongs to the operation, and is what the reply carries. -/
  answered : ∀ a, result = .ok a ↔
    outcome = .ok a.toReply ∧ a.toReply.kind = r.operation.replyKind
  /-- A failure of the channel is passed on. -/
  passed : ∀ e, outcome = .error e → result = .error e
  /-- A read reports an absent tile as it was asked for. -/
  missing : ∀ plate tile t exact f, r = .onPlate plate (.read tile t exact) →
    outcome = .ok (.fault f) → f.kind = .tileNotFound → result = .error (.tileNotFound tile t)
  /-- Any other absence is reported in the words of the fault. -/
  absent : ∀ f, outcome = .ok (.fault f) →
    f.kind = .notFound ∨ f.kind = .tileNotFound ∧ r.operation ≠ .read →
    result = .error (.notFound f.message)
  /-- So is a refusal. -/
  refused : ∀ f, outcome = .ok (.fault f) → f.kind = .rejected ∨ f.kind = .malformed →
    result = .error (.remote f.message)
  /-- A reply that is no fault and does not belong to the operation is reported as such. -/
  unfit : ∀ reply, outcome = .ok reply → reply.isFault = false →
    reply.kind ≠ r.operation.replyKind →
    result = .error (.codec ("unexpected " ++ reply.kind ++ " reply to " ++ r.operation.name))

/-- The failure that a fault means to a request. -/
def Request.failureOf : Request → Fault → Failure
  | .onPlate _ call, f => Answer.failureOf call f
  | _, f => .ofFault f

theorem Failure.ofFault_of_absent {f : Fault} (h : f.kind = .notFound ∨ f.kind = .tileNotFound) :
    ofFault f = .notFound f.message := by
  rcases h with h | h <;> rw [ofFault, h]

theorem Failure.ofFault_of_refused {f : Fault} (h : f.kind = .rejected ∨ f.kind = .malformed) :
    ofFault f = .remote f.message := by
  rcases h with h | h <;> rw [ofFault, h]

/-- A fault means the same to all requests, except for the absence of a tile that is read. -/
theorem Request.failureOf_eq_ofFault {r : Request} {f : Fault}
    (h : f.kind ≠ .tileNotFound ∨ r.operation ≠ .read) : r.failureOf f = .ofFault f := by
  -- only calls on a plate look at the fault at all, and of them only reads
  unfold failureOf
  split
  · unfold Answer.failureOf
    split
    · rename_i hkind
      exact (h.resolve_left (not_not_intro hkind) rfl).elim
    · rfl
  · rfl

/-- What a way of interpreting replies to a request has to satisfy, reply by reply. -/
theorem Interprets.of_reply {r : Request} {interpret : Reply → Except Failure Answer}
    (hbelongs : ∀ reply, reply.kind = r.operation.replyKind →
      ∃ a, interpret reply = .ok a ∧ reply = a.toReply)
    (hunfit : ∀ reply, reply.isFault = false → reply.kind ≠ r.operation.replyKind →
      interpret reply = .error (.unexpected r.operation reply))
    (hfault : ∀ f, interpret (.fault f) = .error (r.failureOf f))
    (outcome : Except Failure Reply) : Interprets r outcome (outcome.bind interpret) where
  answered a := by
    cases outcome with
    | error e => simp [Except.bind]
    | ok reply =>
      show interpret reply = .ok a ↔ Except.ok reply = .ok a.toReply ∧ _
      rw [Except.ok.injEq]
      -- the reply belongs to the operation, or it is one of the others
      by_cases hkind : reply.kind = r.operation.replyKind
      · obtain ⟨b, hb, rfl⟩ := hbelongs reply hkind
        rw [hb, Except.ok.injEq]
        constructor
        · rintro rfl
          exact ⟨rfl, hkind⟩
        · exact fun h => Answer.toReply_inj h.1
      · -- any other reply is interpreted as a failure
        obtain ⟨e, he⟩ : ∃ e, interpret reply = .error e := by
          cases reply with
          | fault f => exact ⟨_, hfault f⟩
          | _ => exact ⟨_, hunfit _ rfl hkind⟩
        rw [he]
        constructor
        · nofun
        · rintro ⟨rfl, h⟩
          exact absurd h hkind
  passed e he := by rw [he]; rfl
  missing plate tile t exact f hr hf hkind := by
    subst hr hf
    show interpret (.fault f) = _
    rw [hfault]
    simp [Request.failureOf, Answer.failureOf, hkind]
  absent f hf h := by
    subst hf
    show interpret (.fault f) = _
    rw [hfault, Request.failureOf_eq_ofFault, Failure.ofFault_of_absent (h.imp id And.left)]
    rcases h with h | h
    · exact .inl (by rw [h]; decide)
    · exact .inr h.2
  refused f hf h := by
    subst hf
    show interpret (.fault f) = _
    rw [hfault, Request.failureOf_eq_ofFault, Failure.ofFault_of_refused h]
    rcases h with h | h <;> exact .inl (by rw [h]; decide)
  unfit reply ho hf hkind := by
    subst ho
    exact hunfit reply hf hkind

namespace Client

variable {σ : Type u} {c c' : Client} {op : Op} {xs : List Exchange}
  {result : Except Failure Answer}

/-- An acknowledgement is the only answer to a batch. -/
theorem interprets_batch (us : List Update) (o : Except Failure Reply) :
    Interprets (.applyUpdates us) o (o.bind Answer.ofBatchReply) := by
  refine .of_reply ?belongs ?unfit (fun f => rfl) o
  case belongs =>
    intro reply h
    -- the acknowledgement is the one reply of its kind
    cases reply with
    | done => exact ⟨.done, rfl, rfl⟩
    | _ => simp [Reply.kind, Request.operation, Operation.replyKind] at h
  case unfit =>
    intro reply hf h
    cases reply with
    | done => exact absurd rfl h
    | fault f => exact Bool.noConfusion hf
    | _ => rfl

theorem interprets_call (p : PlateId) (call : PlateCall) (o : Except Failure Reply) :
    Interprets (.onPlate p call) o (o.bind (Answer.ofReply call)) := by
  refine .of_reply ?belongs ?unfit (fun f => ?fault) o
  case belongs =>
    -- every call by every reply: the kinds differ wherever the reply is not the one for the call
    intro reply h
    cases call <;> cases reply <;>
      first
        | exact ⟨_, rfl, rfl⟩
        | simp [Reply.kind, Request.operation, PlateCall.operation, Operation.replyKind] at h
  case unfit =>
    intro reply hf h
    cases call <;> cases reply <;>
      first
        | rfl
        | exact absurd rfl h
        | exact Bool.noConfusion hf
  case fault => cases call <;> rfl

/-! ## Requests in order -/

/-- The requests that send what waits. -/
def batches (c : Client) : List Request :=
  if c.buffer.pending = [] then [] else [.applyUpdates c.buffer.pending]

/-- The requests that an operation has to hand over, in order. -/
def requests (c : Client) : Op → List Request
  | .write header record =>
    if c.pending + 1 < c.buffer.threshold then []
    else [.applyUpdates (c.buffer.pending ++ [c.update header record])]
  | .flush => c.batches
  | .call call => (if call.flushesFirst then c.batches else []) ++ [.onPlate c.identity.id call]

/-- Requests that are handed over in order, until one of them fails or there are no more. The result
    is that of the last one which was handed over. -/
inductive Conveys : List Request → List Exchange → Except Failure Answer → Prop
  | nothing : Conveys [] [] (.ok .done)
  | failed {r : Request} {rs : List Request} {o : Except Failure Reply} {e : Failure} :
      Interprets r o (.error e) → Conveys (r :: rs) [⟨r, o⟩] (.error e)
  | last {r : Request} {o : Except Failure Reply} {a : Answer} :
      Interprets r o (.ok a) → Conveys [r] [⟨r, o⟩] (.ok a)
  | next {r r' : Request} {rs : List Request} {o : Except Failure Reply} {a : Answer}
      {xs : List Exchange} {result : Except Failure Answer} :
      Interprets r o (.ok a) → Conveys (r' :: rs) xs result →
      Conveys (r :: r' :: rs) (⟨r, o⟩ :: xs) result

theorem Conveys.single {r : Request} {o : Except Failure Reply} (h : Interprets r o result) :
    Conveys [r] [⟨r, o⟩] result := by
  cases result with
  | error e => exact .failed h
  | ok a => exact .last h

/-- Requests behind one that fails are not handed over. -/
theorem Conveys.append_of_error {rs : List Request} {e : Failure}
    (h : Conveys rs xs (.error e)) (rs' : List Request) : Conveys (rs ++ rs') xs (.error e) := by
  -- the failure came before the requests that are put at the end, so none of these was handed over
  generalize hresult : Except.error e = result at h
  induction h with
  | nothing => cases hresult
  | failed hfailed => exact .failed hfailed
  | last _ => cases hresult
  | next hdone _ ih => exact .next hdone (ih hresult)

/-- When all requests have been answered, one more can be handed over. -/
theorem Conveys.concat {rs : List Request} {a : Answer} (h : Conveys rs xs (.ok a)) {r : Request}
    {o : Except Failure Reply} (hr : Interprets r o result) :
    Conveys (rs ++ [r]) (xs ++ [⟨r, o⟩]) result := by
  generalize hdone : Except.ok a = before at h
  -- along the requests that were answered; the new one comes behind the last of them
  induction h with
  | nothing => exact .single hr
  | failed _ => cases hdone
  | last hlast => exact .next hlast (.single hr)
  | next hnext _ ih => exact .next hnext (ih hdone)

/-- A flush hands over its batch, if there is one. -/
theorem Flush.conveys (h : Flush c xs result c') : Conveys c.batches xs result := by
  cases h with
  | nothing hp =>
    rw [batches, if_pos hp]
    exact .nothing
  | batch o hp =>
    rw [batches, if_neg hp]
    exact .single (interprets_batch _ o)

theorem batches_holding (c : Client) (u : Update) :
    (c.holding u).batches = [.applyUpdates (c.buffer.pending ++ [u])] :=
  if_neg (List.append_ne_nil_of_right_ne_nil _ (List.cons_ne_nil u []))

/-- An operation hands over its requests in order, up to the first that fails. -/
theorem Step.conveys (h : Step c op xs result c') : Conveys (c.requests op) xs result := by
  cases h with
  | hold hroom =>
    rw [requests, if_pos hroom]
    exact .nothing
  | fill hfull hflush =>
    -- the batch is what waits at the client that holds the new update as well
    rw [requests, if_neg (Nat.not_lt.2 hfull), ← batches_holding]
    exact hflush.conveys
  | flush hflush => exact hflush.conveys
  | call o hcall =>
    rw [requests, hcall]
    exact .single (interprets_call _ _ o)
  | flushAndCall o hcall hflush =>
    rw [requests, hcall]
    exact hflush.conveys.concat (interprets_call _ _ o)
  | refuse hcall hflush =>
    rw [requests, hcall]
    exact hflush.conveys.append_of_error _

/-! ## Operations -/

/-- Whether an operation sends what waits, its own update included. -/
def flushes (c : Client) : Op → Bool
  | .write .. => c.buffer.threshold ≤ c.pending + 1
  | .flush => true
  | .call call => call.flushesFirst

/-- What can be said of an operation that was carried out, whatever came of its exchanges. -/
structure Interpreted (c : Client) (op : Op) (xs : List Exchange)
    (result : Except Failure Answer) (c' : Client) : Prop where
  /-- Its requests were handed over in order, until one of them failed. -/
  conveyed : Conveys (c.requests op) xs result
  identity : c'.identity = c.identity
  header : c'.header = c.header
  threshold : c'.buffer.threshold = c.buffer.threshold
  /-- Nothing waits after a flush, whether or not it has failed. -/
  emptied : c.flushes op = true → c'.buffer.pending = []
  /-- What waited goes on to wait if there was no flush, and an update is put at its end. -/
  kept : c.flushes op = false →
    c'.buffer.pending = c.buffer.pending ++ op.updates c.identity.id

theorem pending_after_of_flushes (h : c.flushes op = true) : (c.after op).buffer.pending = [] := by
  cases op with
  | write header record =>
    have hfull : ¬ c.pending + 1 < c.buffer.threshold := by simpa [flushes] using h
    rw [after, if_neg hfull, pending_drained]
  | flush => rfl
  | call call =>
    have hcall : call.flushesFirst = true := h
    rw [after, if_pos hcall, pending_drained]

/-- Without a flush an update is put behind what waits. -/
theorem pending_after_of_not_flushes (h : c.flushes op = false) :
    (c.after op).buffer.pending = c.buffer.pending ++ op.updates c.identity.id := by
  cases op with
  | write header record =>
    have hroom : c.pending + 1 < c.buffer.threshold := by simpa [flushes] using h
    rw [after, if_pos hroom, pending_holding]
    rfl
  | flush => exact Bool.noConfusion h
  | call call =>
    have hcall : call.flushesFirst = false := h
    rw [after, if_neg (Bool.eq_false_iff.1 hcall)]
    exact (List.append_nil _).symm

theorem Step.interpreted (h : Step c op xs result c') : Interpreted c op xs result c' where
  conveyed := h.conveys
  identity := h.identity
  header := h.header
  threshold := h.threshold
  -- what waits after it does not depend on the replies
  emptied hflushes := by rw [h.client, pending_after_of_flushes hflushes]
  kept hflushes := by rw [h.client, pending_after_of_not_flushes hflushes]

/-- **Replies are interpreted soundly.** Over every channel and from every state of it, what an
    operation of a client hands over in the course of it is interpreted as it should be, reply by
    reply. -/
theorem interpreted_perform (ch : Channel σ) (c : Client) (op : Op) (s : σ) :
    ∃ result c' s' xs, c.perform ch op s = (result, c', s') ∧
      (∀ log, c.perform ch.logged op (s, log) = (result, c', s', log ++ xs)) ∧
      Interpreted c op xs result c' := by
  obtain ⟨xs, hlog, hstep⟩ := exists_step ch (rfl : c.perform ch op s = _)
  exact ⟨_, _, _, xs, rfl, hlog, hstep.interpreted⟩

/-- A batch is answered with a count and the call behind it is not made; then a read of an absent
    version is reported with the negative transaction that was asked for. -/
example :
    let c : Client := ⟨⟨1, "mars", "/plates/mars"⟩, .unassigned 256 "png" .rgba .uint8, .empty 8⟩
    let ch := (Channel.direct.planned).logged
    let plans : List Plan :=
      [⟨some "index.multi_write_update", .ok (.levels 3)⟩,
        ⟨some "index.read", .ok (.fault ⟨.tileNotFound, "gone"⟩)⟩]
    let (results, c', _, log) :=
      c.run ch [.write ⟨0, 0, 0, 1, "png"⟩ (.stored 0 0 9), .call (.failTransaction 1),
        .call (.read ⟨0, 0, 0⟩ (-7) false)] ((Service.new "/plates", plans), [])
    results = [.ok .done,
        .error (.codec "unexpected level count reply to index.multi_write_update"),
        .error (.tileNotFound ⟨0, 0, 0⟩ (-7))] ∧
      c'.buffer.pending = [] ∧ log.map (·.request.operation) = [.applyUpdates, .read] :=
  ⟨rfl, rfl, rfl⟩

end Client

end TileIndex
