import TileIndex.Proofs.Service.Log

/-!
# Chronicles

What happens at a service that several clients share, told as one sequence: which client is given
which update to write, and which requests are handled for whom. A chronicle is in order when every
request gets the reply that the service has for it at that moment, when a batch of a client brings
all that the client was given and has not yet sent, and when a call that could see updates comes
after such a batch.

## Main statements

- `Chronicle.Orderly.logged`: the service is what one log of updates leads to.
- `Chronicle.Orderly.landedBy_isPrefix`: the part of a client in the log is a prefix of what it was
  given.
-/

namespace TileIndex

/-- What can happen at a service that clients share. The clients have numbers. -/
inductive Chronicle.Event
  /-- A client is given an update to write. -/
  | wrote (client : Nat) (u : Update)
  /-- A request of a client, or of someone else, is handled. -/
  | handled (who : Option Nat) (x : Exchange)

/-- All that has happened, oldest first. -/
abbrev Chronicle := List Chronicle.Event

namespace Chronicle

variable {root : String} {past : Chronicle} {k : Nat}

/-! ## What a chronicle tells -/

def Event.request? : Event → Option Request
  | wrote .. => none
  | handled _ x => some x.request

/-- The update that a client is given by an event. -/
def Event.given? (k : Nat) : Event → Option Update
  | wrote j u => if j = k then some u else none
  | handled .. => none

/-- The updates that an event brings to the service, and whose they are. -/
def Event.landed : Event → List (Option Nat × Update)
  | wrote .. => []
  | handled who x => x.applied.map (who, ·)

/-- The service that the requests lead to. -/
def service (root : String) (past : Chronicle) : Service :=
  (Service.new root).run (past.filterMap Event.request?)

/-- The updates that a client was given to write. -/
def writtenBy (k : Nat) (past : Chronicle) : List Update := past.filterMap (Event.given? k)

/-- The updates that were brought to the service, and whose they are. -/
def log (past : Chronicle) : List (Option Nat × Update) := past.flatMap Event.landed

/-- The updates that were brought to a plate, and whose they are. -/
def logOn (p : PlateId) (past : Chronicle) : List (Option Nat × Update) :=
  (log past).filter (·.2.plate = p)

/-- The updates of a client in a log. -/
def partOf (k : Nat) (l : List (Option Nat × Update)) : List Update :=
  (l.filter (·.1 = some k)).map (·.2)

/-- The updates of a client that were brought to the service. -/
def landedBy (k : Nat) (past : Chronicle) : List Update := partOf k (log past)

/-- What a client is given does not concern the service until it is brought there. -/
@[simp] theorem service_wrote (u : Update) :
    service root (past ++ [.wrote k u]) = service root past := by
  simp [service, List.filterMap_cons, Event.request?]

@[simp] theorem service_handled (who : Option Nat) (x : Exchange) :
    service root (past ++ [.handled who x]) = ((service root past).handle x.request).2 := by
  simp [service, Event.request?, Service.run]

@[simp] theorem writtenBy_wrote_self (u : Update) :
    writtenBy k (past ++ [.wrote k u]) = writtenBy k past ++ [u] := by
  simp [writtenBy, Event.given?]

theorem writtenBy_wrote_of_ne {j : Nat} (h : j ≠ k) (u : Update) :
    writtenBy k (past ++ [.wrote j u]) = writtenBy k past := by
  simp [writtenBy, Event.given?, h]

@[simp] theorem writtenBy_handled (who : Option Nat) (x : Exchange) :
    writtenBy k (past ++ [.handled who x]) = writtenBy k past := by
  simp [writtenBy, Event.given?]

@[simp] theorem log_wrote (j : Nat) (u : Update) : log (past ++ [.wrote j u]) = log past := by
  simp [log, Event.landed]

@[simp] theorem log_handled (who : Option Nat) (x : Exchange) :
    log (past ++ [.handled who x]) = log past ++ x.applied.map (who, ·) := by
  simp [log, Event.landed]

@[simp] theorem landedBy_wrote (j : Nat) (u : Update) :
    landedBy k (past ++ [.wrote j u]) = landedBy k past := by
  rw [landedBy, log_wrote, landedBy]

@[simp] theorem landedBy_handled_self (x : Exchange) :
    landedBy k (past ++ [.handled (some k) x]) = landedBy k past ++ x.applied := by
  simp [landedBy, partOf, List.filter_map, Function.comp_def]

theorem landedBy_handled_of_ne {who : Option Nat} (h : who ≠ some k) (x : Exchange) :
    landedBy k (past ++ [.handled who x]) = landedBy k past := by
  simp [landedBy, partOf, List.filter_map, Function.comp_def, h]

/-- On a plate, the part of a client in the log is what it has brought to that plate. -/
theorem partOf_logOn (k : Nat) (p : PlateId) (past : Chronicle) :
    partOf k (logOn p past) = (landedBy k past).filter (·.plate = p) := by
  simp only [partOf, logOn, landedBy, List.filter_map, List.filter_filter, Function.comp_def]
  exact congrArg _ (List.filter_congr fun e _ => Bool.and_comm ..)

theorem map_snd_logOn (p : PlateId) (past : Chronicle) :
    (logOn p past).map (·.2) = ((log past).map (·.2)).filter (·.plate = p) := by
  rw [logOn, List.filter_map]
  rfl

/-! ## Order -/

/-- What can happen next. -/
inductive Admissible (root : String) (past : Chronicle) : Event → Prop
  | wrote (k : Nat) (u : Update) : Admissible root past (.wrote k u)
  /-- A batch brings all that its client was given and has not yet sent. -/
  | batch {k : Nat} {us : List Update} (whole : landedBy k past ++ us = writtenBy k past)
      (done : ((service root past).handle (.applyUpdates us)).1 = .done) :
      Admissible root past (.handled (some k) ⟨.applyUpdates us, .ok .done⟩)
  /-- A call that could see updates comes when its client has sent all that it was given, which is
      for the plate of the call. -/
  | call {k : Nat} {p : PlateId} {call : PlateCall}
      (current : call.flushesFirst = true →
        landedBy k past = writtenBy k past ∧ ∀ u ∈ writtenBy k past, u.plate = p) :
      Admissible root past (.handled (some k)
        ⟨.onPlate p call, .ok ((service root past).handle (.onPlate p call)).1⟩)
  /-- Someone else may ask for anything. -/
  | other (r : Request) :
      Admissible root past (.handled none ⟨r, .ok ((service root past).handle r).1⟩)

/-- Everything in a chronicle could happen when it did. -/
inductive Orderly (root : String) : Chronicle → Prop
  | nil : Orderly root []
  | snoc {past : Chronicle} {e : Event} :
      Orderly root past → Admissible root past e → Orderly root (past ++ [e])

/-- A chronicle in order was in order at every earlier moment. -/
theorem Orderly.of_append {before after : Chronicle} (h : Orderly root past)
    (hpast : past = before ++ after) : Orderly root before := by
  -- events are put at the end, so the induction takes the last one off
  induction h generalizing after with
  | nil =>
    obtain ⟨rfl, -⟩ := List.nil_eq_append_iff.1 hpast
    exact .nil
  | @snoc past e horder he ih =>
    rcases List.eq_nil_or_concat after with rfl | ⟨after', last, rfl⟩
    · rw [List.append_nil] at hpast
      exact hpast ▸ .snoc horder he
    · -- the last event is not among the first ones
      rw [List.concat_eq_append, ← List.append_assoc] at hpast
      exact ih (List.append_inj' hpast rfl).1

/-- Every event could happen when it did. -/
theorem Orderly.admissible {before after : Chronicle} {e : Event} (h : Orderly root past)
    (hpast : past = before ++ e :: after) : Admissible root before e := by
  have hsplit : past = (before ++ [e]) ++ after := by simp [hpast]
  have hfirst : Orderly root (before ++ [e]) := h.of_append hsplit
  -- the chronicle has to be a variable before its order is taken apart
  generalize hsnoc : before ++ [e] = past' at hfirst
  cases hfirst with
  | nil => simp at hsnoc
  | snoc horder he =>
    obtain ⟨rfl, hlast⟩ := List.append_inj' hsnoc rfl
    exact List.singleton_inj.1 hlast ▸ he

/-- Whoever makes a request gets the reply that the service has for it. -/
theorem Admissible.outcome {who : Option Nat} {x : Exchange}
    (h : Admissible root past (.handled who x)) :
    x.outcome = .ok ((service root past).handle x.request).1 := by
  cases h with
  | batch whole done => rw [done]
  | call current => rfl
  | other r => rfl

/-! ## What follows from the order -/

/-- The service is what the updates in the log lead to. -/
theorem Orderly.logged (h : Orderly root past) :
    (service root past).Logged ((log past).map (·.2)) := by
  induction h with
  | nil => exact .new root
  | @snoc past e horder he ih =>
    cases e with
    | wrote k u => simpa using ih
    | handled who x =>
      -- the reply in the chronicle is the one of the service, and tells what was written
      have hx : x = ⟨x.request, .ok ((service root past).handle x.request).1⟩ := by
        rw [← he.outcome]
      have hnext := ih.handle x.request
      rw [← hx] at hnext
      simpa [Function.comp_def] using hnext

/-- What a client has brought to the service is the beginning of what it was given. -/
theorem Orderly.landedBy_isPrefix (h : Orderly root past) (k : Nat) :
    landedBy k past <+: writtenBy k past := by
  induction h with
  | nil => exact List.prefix_rfl
  | @snoc past e horder he ih =>
    cases he with
    | wrote j u =>
      rw [landedBy_wrote]
      -- what is given grows at its end
      by_cases hj : j = k
      · subst hj
        rw [writtenBy_wrote_self]
        exact ih.trans (List.prefix_append ..)
      · rw [writtenBy_wrote_of_ne hj]
        exact ih
    | @batch j us whole done =>
      rw [writtenBy_handled]
      by_cases hj : j = k
      · -- nothing of what the client was given is missing now
        subst hj
        rw [landedBy_handled_self, Exchange.applied_of_done rfl]
        exact whole ▸ List.prefix_rfl
      · rw [landedBy_handled_of_ne fun e => hj (Option.some.inj e)]
        exact ih
    | @call j p call current =>
      rw [writtenBy_handled]
      by_cases hj : j = k
      · -- a call brings no updates
        subst hj
        rw [landedBy_handled_self, Exchange.applied_of_updates_nil rfl, List.append_nil]
        exact ih
      · rw [landedBy_handled_of_ne fun e => hj (Option.some.inj e)]
        exact ih
    | other r =>
      have hne : (none : Option Nat) ≠ some k := nofun
      rw [writtenBy_handled, landedBy_handled_of_ne hne]
      exact ih

end Chronicle

end TileIndex
