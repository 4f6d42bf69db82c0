import TileIndex.Failure
import TileIndex.Protocol.Request

/-!
# What replies mean

For every call there is one kind of reply that answers it. A fault is a failure, and so is a reply
of another kind.
-/

namespace TileIndex

/-- The result of an operation of a client. -/
inductive Answer
  | done
  | record (record : Record)
  | records (records : List (TransactionId × Record))
  | blob (blob : BlobId)
  | headers (headers : List Tile.Header)
  | levels (count : Int32)
  | transaction (transaction : TransactionId)
  deriving DecidableEq, Repr

/-- Whether a call could see the updates that wait at its client, or end their transaction or blob.
    Such a call goes out after them. -/
def PlateCall.flushesFirst : PlateCall → Bool
  | reserveBlob .. | beginTransaction .. | readCursor => false
  | _ => true

namespace Answer

/-- The failure that a fault means to a call: a read reports an absent tile in its own terms. -/
def failureOf (call : PlateCall) (f : Fault) : Failure :=
  match call, f.kind with
  | .read tile t _, .tileNotFound => .tileNotFound tile t
  | _, _ => .ofFault f

/-- The result of a call that a reply brings. -/
def ofReply : PlateCall → Reply → Except Failure Answer
  -- a fault answers any call
  | call, .fault f => .error (failureOf call f)
  | .read .., .record r => .ok (.record r)
  | .multiRead .., .records rs => .ok (.records rs)
  | .reserveBlob _, .blob b => .ok (.blob b)
  | .releaseBlob .., .done => .ok .done
  | .validTiles .., .headers hs => .ok (.headers hs)
  | .numLevels, .levels n => .ok (.levels n)
  | .beginTransaction .., .transaction t => .ok (.transaction t)
  | .completeTransaction .., .done => .ok .done
  | .failTransaction _, .done => .ok .done
  | .readCursor, .transaction t => .ok (.transaction t)
  | call, reply => .error (.unexpected call.operation reply)

/-- The result of a batch that a reply brings. -/
def ofBatchReply : Reply → Except Failure Answer
  | .fault f => .error (.ofFault f)
  | .done => .ok .done
  | reply => .error (.unexpected .applyUpdates reply)

end Answer

end TileIndex
