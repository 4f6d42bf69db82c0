import TileIndex.Protocol.Operation
import TileIndex.Protocol.Reply
import TileIndex.Text.Quoted
import TileIndex.Transaction

/-!
# Refusals

Why a service does not grant a request. A refusal travels as a fault: its kind and its text.
-/

namespace TileIndex

/-- Why a service does not grant a request. -/
inductive Refusal
  | unknownPlate (plate : PlateId)
  | noPlateNamed (name : String)
  /-- A name that is empty or holds a slash. -/
  | invalidName (name : String)
  | invalidTileSize (size : Int32)
  | nameInUse (name : String)
  | platesExhausted
  /-- No record of a tile at the transaction that a read was directed to. -/
  | noRecord (tile : Tile.Coordinate) (transaction : TransactionId)
  | blobsExhausted
  | blobNotReserved (blob : BlobId)
  | negativeTransaction (transaction : TransactionId)
  | transactionInUse (transaction : TransactionId)
  /-- A transaction after which no other could be begun. -/
  | noSuccessor (transaction : TransactionId)
  | unknownTransaction (transaction : TransactionId)
  | transactionEnded (transaction : TransactionId) (state : TransactionState)
  /-- A message whose label is not the name of the operation in it. -/
  | mislabelled (label : String) (operation : Operation)
  /-- A message whose payload cannot be read as a request, and what the format says of it. -/
  | undecodable (label complaint : String)
  deriving DecidableEq, Repr

namespace Refusal

/-- The kind of fault that a refusal is. -/
def kind : Refusal → FaultKind
  | unknownPlate _ | noPlateNamed _ | blobNotReserved _ | unknownTransaction _ => .notFound
  | noRecord .. => .tileNotFound
  | nameInUse _ | platesExhausted | blobsExhausted | transactionInUse _ | transactionEnded .. =>
    .rejected
  | invalidName _ | invalidTileSize _ | negativeTransaction _ | noSuccessor _ | mislabelled ..
  | undecodable .. => .malformed

/-- The text of a refusal. -/
def message : Refusal → String
  | unknownPlate p => "unknown platefile id " ++ Text.ofInt32 p
  | noPlateNamed n => "no platefile named " ++ n
  | invalidName n => "invalid platefile name " ++ Text.Quoted.encode n
  | invalidTileSize z => "tile size " ++ Text.ofInt32 z ++ " is not a positive power of two"
  | nameInUse n => "platefile " ++ n ++ " already exists"
  | platesExhausted => "platefile ids exhausted"
  | noRecord c t =>
    "no record for col=" ++ Text.ofInt32 c.col ++ " row=" ++ Text.ofInt32 c.row ++ " level=" ++
      Text.ofInt32 c.level ++ " at transaction " ++ Text.ofInt32 t
  | blobsExhausted => "blob ids exhausted"
  | blobNotReserved b => "blob " ++ Text.ofInt32 b ++ " is not reserved"
  | negativeTransaction t => "transaction id override " ++ Text.ofInt32 t ++ " is negative"
  | transactionInUse t => "transaction id " ++ Text.ofInt32 t ++ " is already in use"
  | noSuccessor t => "transaction id " ++ Text.ofInt32 t ++ " leaves no successor"
  | unknownTransaction t => "unknown transaction " ++ Text.ofInt32 t
  | transactionEnded t s => "transaction " ++ Text.ofInt32 t ++ " is already " ++ s.word
  | mislabelled l o => "message type " ++ l ++ " does not match " ++ o.name ++ " payload"
  | undecodable l complaint => "could not decode " ++ l ++ ": " ++ complaint

/-- The fault that a refusal travels as. -/
def fault (r : Refusal) : Fault := ⟨r.kind, r.message⟩

end Refusal

end TileIndex
