import TileIndex.Client
import TileIndex.Proofs.Service.Names
import TileIndex.Proofs.Store.Reads

/-!
# What requests are refused for

Each request has reasons of its own for which it is refused. Some have none. A plate that the
service does not know is no reason for requests that carry the identifiers of known plates, and none
for an open or a create request, which carries no identifier. A request that is granted gets the
reply that a client accepts for it.

## Main statements

- `Service.Enrolled.suits`: a request gets the reply that a client accepts for it, or is refused for
  a reason of its own.
- `Refusal.message_ne_unknownPlate`: no other refusal reads like that of an unknown plate.
-/

namespace TileIndex

/-! ## Calls -/

namespace Store

/-- The transaction that a call ends. -/
def ends? : PlateCall → Option TransactionId
  | .completeTransaction t _ | .failTransaction t => some t
  | _ => none

/-- What a call is refused for. -/
inductive Refuses : PlateCall → Refusal → Prop
  | read {tile : Tile.Coordinate} {t : TransactionId} {exact : Bool} (target : TransactionId) :
      Refuses (.read tile t exact) (.noRecord tile target)
  | reserveBlob {size : UInt64} : Refuses (.reserveBlob size) .blobsExhausted
  | releaseBlob {b : BlobId} {offset : UInt64} :
      Refuses (.releaseBlob b offset) (.blobNotReserved b)
  | negative {description : String} {t : TransactionId} :
      Refuses (.beginTransaction description (some t)) (.negativeTransaction t)
  | inUse {description : String} {t : TransactionId} :
      Refuses (.beginTransaction description (some t)) (.transactionInUse t)
  | last {description : String} {chosen : Option TransactionId} (t : TransactionId) :
      Refuses (.beginTransaction description chosen) (.noSuccessor t)
  | unknown {call : PlateCall} {t : TransactionId} :
      ends? call = some t → Refuses call (.unknownTransaction t)
  | ended {call : PlateCall} {t : TransactionId} (state : TransactionState) :
      ends? call = some t → Refuses call (.transactionEnded t state)

variable {s : Store} {refusal : Refusal}

/-- What the beginning of a transaction is refused for. -/
theorem refuses_of_begin {description : String} {chosen : Option TransactionId}
    (h : s.begin description chosen = .error refusal) :
    Refuses (.beginTransaction description chosen) refusal := by
  unfold begin at h
  split at h
  · rename_i r hidentifier
    obtain rfl := Except.error.inj h
    -- the identifier was refused
    unfold identifier at hidentifier
    split at hidentifier
    · cases hidentifier
    split at hidentifier
    · obtain rfl := Except.error.inj hidentifier
      exact .negative
    split at hidentifier
    · obtain rfl := Except.error.inj hidentifier
      exact .inUse
    · cases hidentifier
  · -- or it has no successor
    split at h
    · obtain rfl := Except.error.inj h
      exact .last _
    · cases h

/-- What the end of a transaction is refused for. -/
theorem refuses_of_finish {call : PlateCall} {t : TransactionId} {state : TransactionState}
    (hcall : ends? call = some t) (h : s.finish t state = .error refusal) :
    Refuses call refusal := by
  unfold finish at h
  split at h
  · -- there is no such transaction
    obtain rfl := Except.error.inj h
    exact .unknown hcall
  · -- there is one, and it has ended
    split at h
    · cases h
    · obtain rfl := Except.error.inj h
      exact .ended _ hcall

/-- A call is refused for a reason of its own. -/
theorem refuses_of_serve {call : PlateCall} (h : s.serve call = .error refusal) :
    Refuses call refusal := by
  cases call with
  | read tile t exact =>
    obtain rfl := eq_noRecord_of_read (error_of_map_eq_error h)
    exact .read _
  | reserveBlob size =>
    have hreserve := error_of_map_eq_error h
    unfold Store.reserveBlob at hreserve
    split at hreserve
    · obtain rfl := Except.error.inj hreserve
      exact .reserveBlob
    · cases hreserve
  | releaseBlob b offset =>
    have hrelease := error_of_map_eq_error h
    unfold Store.releaseBlob at hrelease
    split at hrelease
    · cases hrelease
    · obtain rfl := Except.error.inj hrelease
      exact .releaseBlob
  | beginTransaction description chosen => exact refuses_of_begin (error_of_map_eq_error h)
  | completeTransaction t moveCursor =>
    have hcomplete := error_of_map_eq_error h
    unfold complete at hcomplete
    split at hcomplete
    · -- the cursor is moved only after the transaction has ended, and that is never refused
      rename_i hfinish
      obtain rfl := Except.error.inj hcomplete
      exact refuses_of_finish rfl hfinish
    · cases hcomplete
  | failTransaction t => exact refuses_of_finish rfl (error_of_map_eq_error h)
  -- these are never refused
  | multiRead | validTiles | numLevels | readCursor => cases h

end Store

/-! ## Requests -/

namespace Service

/-- What a request is refused for if the service knows the plates whose identifiers it carries. -/
inductive Refuses : Request → Refusal → Prop
  | unnamed {name : String} : Refuses (.openPlate name) (.noPlateNamed name)
  | name {name : String} {header : Plate.Header} :
      Refuses (.createPlate name header) (.invalidName name)
  | size {name : String} {header : Plate.Header} :
      Refuses (.createPlate name header) (.invalidTileSize header.tileSize)
  | taken {name : String} {header : Plate.Header} :
      Refuses (.createPlate name header) (.nameInUse name)
  | exhausted {name : String} {header : Plate.Header} :
      Refuses (.createPlate name header) .platesExhausted
  | call {p : PlateId} {call : PlateCall} {refusal : Refusal} :
      Store.Refuses call refusal → Refuses (.onPlate p call) refusal

/-- A service knows the plates whose identifiers a request carries. -/
def Knows (s : Service) : Request → Prop
  | .onPlate p _ => s.plates.contains p = true
  | .applyUpdates us => ∀ u ∈ us, s.plates.contains u.plate = true
  | _ => True

/-- What a creation is refused for. -/
theorem refuses_of_createPlate {s : Service} {name : String} {header : Plate.Header}
    {refusal : Refusal} (h : s.createPlate name header = .error refusal) :
    Refuses (.createPlate name header) refusal := by
  unfold createPlate at h
  split at h
  · obtain rfl := Except.error.inj h
    exact .name
  split at h
  · obtain rfl := Except.error.inj h
    exact .size
  split at h
  · obtain rfl := Except.error.inj h
    exact .taken
  split at h
  · obtain rfl := Except.error.inj h
    exact .exhausted
  · cases h

theorem store_of_contains {s : Service} {p : PlateId} (h : s.plates.contains p = true) :
    ∃ st, s.plates.find? p = some st ∧ s.store p = .ok st := by
  obtain ⟨st, hst⟩ := Option.isSome_iff_exists.1 h
  exact ⟨st, hst, by rw [store, hst]⟩

/-- A request about known plates is refused for a reason of its own. -/
theorem Enrolled.refuses_of_dispatch {root : String} {log : Transcript} {s : Service} {r : Request}
    {refusal : Refusal} (h : Enrolled root log s) (hr : s.Knows r)
    (hd : s.dispatch r = .error refusal) : Refuses r refusal := by
  cases r with
  | openPlate name =>
    have hopen := error_of_map_eq_error hd
    unfold openPlate at hopen
    split at hopen
    · obtain rfl := Except.error.inj hopen
      exact .unnamed
    · -- a name stands for a plate that is kept
      rename_i p hp
      obtain ⟨st, hst, -⟩ := h.pointed hp
      rw [store, hst] at hopen
      cases hopen
  | createPlate name header => exact refuses_of_createPlate hd
  | applyUpdates us =>
    -- no update is for an unknown plate, and nothing else stops a batch
    have hnone : us.find? (fun u => !s.plates.contains u.plate) = none := by
      simpa [List.find?_eq_none, Knows] using hr
    simp only [dispatch, applyUpdates, hnone] at hd
    cases hd
  | onPlate p call =>
    obtain ⟨st, -, hstore⟩ := store_of_contains hr
    simp only [dispatch, callPlate, hstore] at hd
    split at hd
    · rename_i hserve
      obtain rfl := Except.error.inj hd
      exact .call (Store.refuses_of_serve hserve)
    · cases hd

/-- A client takes a reply to a request for the result that it asked for. One that is to be
    constructed has room for what it may hold back. -/
def Accepts : Request → Reply → Prop
  | .onPlate _ call, reply => ∃ a, Answer.ofReply call reply = .ok a
  | .applyUpdates _, reply => Answer.ofBatchReply reply = .ok .done
  | r, reply => ∀ settings : Settings, settings.HasRoom →
      ∃ c, Client.ofReply r.operation settings reply = .ok c

/-- A client accepts the reply to a request that is granted. -/
theorem Granted.accepts {s s' : Service} {r : Request} {reply : Reply} (h : s.Consistent)
    (g : Granted s r reply s') : Accepts r reply := by
  cases g with
  | opened named found =>
    exact fun settings hroom => ⟨_, Client.ofReply_opened (h.identified found) _ hroom _ _⟩
  | created valid sized free next =>
    exact fun settings hroom => ⟨_, Client.ofReply_opened rfl _ hroom _ _⟩
  | written known => rfl
  | served found granted => exact Store.exists_answer_of_serve granted

/-- The replies that a request can get: one that a client accepts for it, or a refusal of its own. -/
inductive Suits (r : Request) : Reply → Prop
  | accepted {reply : Reply} : Accepts r reply → Suits r reply
  | refused {refusal : Refusal} : Refuses r refusal → Suits r (.fault refusal.fault)

/-- A request gets a reply that suits it if the service knows the plates whose identifiers it
    carries. -/
theorem Enrolled.suits {root : String} {log : Transcript} {s : Service} {r : Request}
    (h : Enrolled root log s) (hs : s.Consistent) (hr : s.Knows r) : Suits r (s.handle r).1 := by
  unfold handle
  cases hd : s.dispatch r with
  | ok answer => exact .accepted ((granted_of_dispatch hd).accepts hs)
  | error refusal => exact .refused (h.refuses_of_dispatch hr hd)

/-- No client accepts a fault. -/
theorem not_accepts_fault (r : Request) (f : Fault) : ¬Accepts r (.fault f) := by
  cases r with
  | onPlate p call =>
    rintro ⟨a, ha⟩
    cases call <;> cases ha
  | applyUpdates us => nofun
  | openPlate name | createPlate name header =>
    intro h
    -- it is enough that no client is made under the standard settings
    obtain ⟨c, hc⟩ := h default (by decide)
    cases hc

/-! ## Failures -/

/-- An unknown plate is no reason of any request. -/
theorem Refuses.ne_unknownPlate {r : Request} {refusal : Refusal} (h : Refuses r refusal)
    (p : PlateId) : refusal ≠ .unknownPlate p := by
  cases h with
  | call hcall => cases hcall <;> nofun
  | _ => nofun

end Service

/-- No other refusal reads like that of an unknown plate. -/
theorem Refusal.message_ne_unknownPlate {r : Refusal} (h : ∀ p, r ≠ .unknownPlate p) (q : PlateId) :
    r.message ≠ (Refusal.unknownPlate q).message := by
  intro heq
  have hlist : r.message.toList = ("unknown platefile id " ++ Text.ofInt32 q).toList :=
    congrArg String.toList heq
  clear heq
  unfold Refusal.message at hlist
  cases r with
  | unknownPlate p => exact h p rfl
  -- the texts differ in one of their first letters
  | _ => simp at hlist

/-- Whether a failure says that client and service do not understand or do not reach each other. -/
def Failure.isBreakdown : Failure → Bool
  | .codec _ | .transport _ => true
  | _ => false

/-- No reply that suits a request is the fault of an unknown plate. -/
theorem Service.Suits.ne_unknownPlate {r : Request} {reply : Reply} (h : Suits r reply)
    (p : PlateId) : reply ≠ .fault (Refusal.unknownPlate p).fault := by
  rintro rfl
  generalize hf : Reply.fault (Refusal.unknownPlate p).fault = reply at h
  cases h with
  | accepted haccepts => exact not_accepts_fault r _ (hf ▸ haccepts)
  | refused hrefuses =>
    -- equal faults have equal texts
    have hmessage := congrArg Fault.message (Reply.fault.inj hf)
    exact Refusal.message_ne_unknownPlate hrefuses.ne_unknownPlate p hmessage.symm

/-- The failure that reports a fault has the text of the fault. -/
theorem Failure.ofFault_cases (f : Fault) :
    Failure.ofFault f = .notFound f.message ∨ Failure.ofFault f = .remote f.message := by
  unfold ofFault
  split
  · exact .inl rfl
  · exact .inl rfl
  · exact .inr rfl
  · exact .inr rfl

/-- The failure of a call reads like its fault, or tells of an absent tile. -/
theorem Answer.failureOf_cases (call : PlateCall) (f : Fault) :
    (∃ tile t, failureOf call f = .tileNotFound tile t) ∨ failureOf call f = .notFound f.message ∨
      failureOf call f = .remote f.message := by
  unfold failureOf
  split
  · exact .inl ⟨_, _, rfl⟩
  · exact .inr (Failure.ofFault_cases f)

end TileIndex
