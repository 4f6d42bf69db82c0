import TileIndex.Proofs.SortedMap
import TileIndex.Store

/-!
# Stores that change in place

`Store.serve` makes a new store for a call that is granted and leaves the old one to a call that is
refused. A service that runs has one store, which every step of a call changes where it is, and what
has been changed when a later step refuses the call stays changed. Here calls are told in such
steps. They have the results of `Store.serve` all the same, so a call that is refused has undone
nothing and has nothing to undo: whatever it changed before the refusal was no change.

## Main statements

- `InPlace.run_serve`: a call in steps ends as `Store.serve` says, and a refusal leaves the store as
  it was.
-/

namespace TileIndex.InPlace

/-- Work on a state, in steps that change the state in place. A refusal ends the work and takes none
    of the earlier changes back. -/
abbrev Work (σ α : Type) := EStateM Refusal σ α

/-- How work ends that is told by its result: a refusal leaves the state that there was before. -/
def ending {σ α : Type} (s : σ) : Except Refusal (α × σ) → EStateM.Result Refusal σ α
  | .ok (a, s') => .ok a s'
  | .error r => .error r s

/-! ## Blobs -/

/-- Reserve a blob: the next identifier is moved on, and then the blob is put among the reserved
    ones. -/
def reserveBlob : Work Store BlobId := do
  let b := (← get).nextBlob
  match Store.successor? b with
  | none => throw .blobsExhausted
  | some following =>
    modify fun s => { s with nextBlob := following }
    modify fun s => { s with reserved := s.reserved.insert b () }
    return b

/-- Release a blob: it is taken out of the reserved ones, and only then refused if it was not there. -/
def releaseBlob (b : BlobId) : Work Store Unit := do
  let held := (← get).reserved.contains b
  modify fun s => { s with reserved := s.reserved.erase b }
  if held then return () else throw (.blobNotReserved b)

/-! ## Transactions -/

/-- The identifier for a new transaction. -/
def identifier (chosen : Option TransactionId) : Work Store TransactionId := do
  match chosen with
  | none => return (← get).nextTransaction
  | some t =>
    if t < 0 then throw (.negativeTransaction t)
    else if (← get).transactions.contains t then throw (.transactionInUse t)
    else return t

/-- Begin a transaction: the next identifier is moved on, and then the transaction is put down. -/
def begin (description : String) (chosen : Option TransactionId) : Work Store TransactionId := do
  let t ← identifier chosen
  match Store.successor? t with
  | none => throw (.noSuccessor t)
  | some following =>
    modify fun s => { s with nextTransaction := max s.nextTransaction following }
    modify fun s => { s with transactions := s.transactions.insert t ⟨description, .active⟩ }
    return t

/-- End an active transaction. -/
def finish (t : TransactionId) (state : TransactionState) : Work Store Unit := do
  match (← get).transactions.find? t with
  | none => throw (.unknownTransaction t)
  | some x =>
    if x.state = .active then
      modify fun s => { s with transactions := s.transactions.insert t { x with state := state } }
    else throw (.transactionEnded t x.state)

/-- End a transaction in success: the cursor is moved when the transaction has ended. -/
def complete (t : TransactionId) (moveCursor : Bool) : Work Store Unit := do
  finish t .completed
  if moveCursor then modify fun s => { s with cursor := max s.cursor t }

/-! ## Calls -/

/-- Answer a call on a plate. -/
def serve : PlateCall → Work Store Reply
  | .read c t exact => do
    match (← get).read c t exact with
    | .ok r => return .record r
    | .error refusal => throw refusal
  | .multiRead c first last => return .records ((← get).multiRead c first last)
  | .reserveBlob _ => return .blob (← reserveBlob)
  | .releaseBlob b _ => do
    releaseBlob b
    return .done
  | .validTiles level region first last atLeast =>
    return .headers ((← get).validTiles level region first last atLeast)
  | .numLevels => return .levels (← get).numLevels
  | .beginTransaction description chosen => return .transaction (← begin description chosen)
  | .completeTransaction t moveCursor => do
    complete t moveCursor
    return .done
  | .failTransaction t => do
    finish t .failed
    return .done
  | .readCursor => return .transaction (← get).cursor

theorem run_reserveBlob (s : Store) : reserveBlob.run s = ending s s.reserveBlob := by
  simp only [reserveBlob, Store.reserveBlob, EStateM.run_bind, EStateM.run_get]
  cases Store.successor? s.nextBlob <;> rfl

/-- Releasing a blob in steps takes nothing out if the blob is not held. -/
theorem run_releaseBlob (b : BlobId) (s : Store) :
    (releaseBlob b).run s = ending s ((s.releaseBlob b).map fun s' => ((), s')) := by
  simp only [releaseBlob, Store.releaseBlob, EStateM.run_bind, EStateM.run_get, EStateM.run_modify]
  cases h : s.reserved.contains b with
  | true => rfl
  | false =>
    -- nothing was taken out
    rw [SortedMap.erase_of_not_contains h]
    rfl

/-- An identifier is found in steps as it is at once, and nothing changes. -/
theorem run_identifier (chosen : Option TransactionId) (s : Store) :
    (identifier chosen).run s = ending s ((s.identifier chosen).map fun t => (t, s)) := by
  cases chosen with
  | none => rfl
  | some t =>
    simp only [identifier, Store.identifier]
    -- the two checks are made in the same order
    by_cases hneg : t < 0
    · rw [if_pos hneg, if_pos hneg]
      rfl
    · rw [if_neg hneg, if_neg hneg]
      simp only [EStateM.run_bind, EStateM.run_get]
      split <;> rfl

/-- To begin a transaction in steps is to begin it at once. -/
theorem run_begin (description : String) (chosen : Option TransactionId) (s : Store) :
    (begin description chosen).run s = ending s (s.begin description chosen) := by
  simp only [begin, Store.begin, EStateM.run_bind, run_identifier]
  -- both refusals, of the identifier and for want of a successor, come before the first change
  cases s.identifier chosen with
  | error r => rfl
  | ok t =>
    simp only [Except.map, ending]
    cases Store.successor? t <;> rfl

/-- So it is with ending one. -/
theorem run_finish (t : TransactionId) (state : TransactionState) (s : Store) :
    (finish t state).run s = ending s ((s.finish t state).map fun s' => ((), s')) := by
  simp only [finish, Store.finish, EStateM.run_bind, EStateM.run_get]
  cases s.transactions.find? t with
  -- neither refusal comes after a change
  | none => rfl
  | some x =>
    simp only
    split <;> rfl

/-- So it is with completing one. -/
theorem run_complete (t : TransactionId) (moveCursor : Bool) (s : Store) :
    (complete t moveCursor).run s = ending s ((s.complete t moveCursor).map fun s' => ((), s')) := by
  simp only [complete, Store.complete, EStateM.run_bind, run_finish]
  -- moving the cursor comes last and is never refused
  cases s.finish t .completed with
  | error r => rfl
  | ok s' => cases moveCursor <;> rfl

/-- A call in steps has the result that it has at once, and leaves the store as it was if it is
    refused. -/
theorem run_serve (call : PlateCall) (s : Store) : (serve call).run s = ending s (s.serve call) := by
  cases call with
  | read c t exact =>
    simp only [serve, Store.serve, EStateM.run_bind, EStateM.run_get]
    cases s.read c t exact <;> rfl
  | reserveBlob size =>
    simp only [serve, Store.serve, EStateM.run_bind, run_reserveBlob]
    cases s.reserveBlob <;> rfl
  | releaseBlob b offset =>
    simp only [serve, Store.serve, EStateM.run_bind, run_releaseBlob]
    cases s.releaseBlob b <;> rfl
  | beginTransaction description chosen =>
    simp only [serve, Store.serve, EStateM.run_bind, run_begin]
    cases s.begin description chosen <;> rfl
  | completeTransaction t moveCursor =>
    simp only [serve, Store.serve, EStateM.run_bind, run_complete]
    cases s.complete t moveCursor <;> rfl
  | failTransaction t =>
    simp only [serve, Store.serve, Store.fail, EStateM.run_bind, run_finish]
    cases s.finish t .failed <;> rfl
  -- the other calls look at the store in one step
  | _ => rfl

end TileIndex.InPlace
