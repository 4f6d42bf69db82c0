import TileIndex.Plate

/-!
# Replies

What a service answers: the result that belongs to the operation, or a fault.
-/

namespace TileIndex

/-- The kinds of fault. -/
inductive FaultKind
  /-- An unknown plate, transaction or blob. -/
  | notFound
  /-- No record of the tile under the constraints of the request. -/
  | tileNotFound
  /-- A conflict with the state of the service. -/
  | rejected
  /-- A request that no state of the service admits. -/
  | malformed
  deriving DecidableEq, Repr

/-- A fault that a service reports in place of a result. -/
structure Fault where
  kind : FaultKind
  message : String
  deriving DecidableEq, Repr

/-- A reply from an index service. -/
inductive Reply
  /-- A plate that was opened or created. -/
  | opened (header : Plate.Header) (shortName fullName : String)
  | record (record : Record)
  | records (records : List (TransactionId × Record))
  | blob (blob : BlobId)
  | headers (headers : List Tile.Header)
  | levels (count : Int32)
  | transaction (transaction : TransactionId)
  | done
  | fault (fault : Fault)
  deriving DecidableEq, Repr

namespace Reply

/-- What a reply is called in a report that it does not fit its request. -/
def kind : Reply → String
  | opened .. => "opened"
  | record _ => "record"
  | records _ => "records"
  | blob _ => "blob id"
  | headers _ => "tile headers"
  | levels _ => "level count"
  | transaction _ => "transaction id"
  | done => "ack"
  | fault _ => "fault"

/-- Whether a reply is a fault. -/
def isFault : Reply → Bool
  | fault _ => true
  | _ => false

/-- The type of the messages that carry replies. -/
def messageType : String := "index.reply"

end Reply

end TileIndex
