import TileIndex.Plate
import TileIndex.Protocol.Operation

/-!
# Requests

A request opens or creates a plate by name, carries a batch of updates, or makes one call on the
plate that its identifier names.
-/

namespace TileIndex

/-- A call on one plate. -/
inductive PlateCall
  /-- The record of a tile at or before a transaction, or exactly at it. -/
  | read (tile : Tile.Coordinate) (transaction : TransactionId) (exact : Bool)
  /-- Every record of a tile within a closed range of transactions. -/
  | multiRead (tile : Tile.Coordinate) (first last : TransactionId)
  /-- Room for some bytes in a blob. -/
  | reserveBlob (size : UInt64)
  /-- The end of writing to a reserved blob. -/
  | releaseBlob (blob : BlobId) (offset : UInt64)
  /-- The tiles of a region with enough records within a closed range of transactions. -/
  | validTiles (level : Int32) (region : Tile.Region) (first last : TransactionId)
      (atLeast : UInt32)
  /-- One more than the deepest level. -/
  | numLevels
  /-- A new transaction, with an identifier of the caller's choice or the next one. -/
  | beginTransaction (description : String) (chosen : Option TransactionId)
  /-- The success of a transaction, which may move the read cursor. -/
  | completeTransaction (transaction : TransactionId) (moveCursor : Bool)
  /-- The failure of a transaction. -/
  | failTransaction (transaction : TransactionId)
  /-- The highest transaction that default reads see. -/
  | readCursor
  deriving DecidableEq, Repr

/-- A request to an index service. -/
inductive Request
  | openPlate (name : String)
  | createPlate (name : String) (header : Plate.Header)
  | applyUpdates (updates : List Update)
  | onPlate (plate : PlateId) (call : PlateCall)
  deriving DecidableEq, Repr

/-- The operation that a call asks for. -/
def PlateCall.operation : PlateCall → Operation
  | read .. => .read
  | multiRead .. => .multiRead
  | reserveBlob .. => .reserveBlob
  | releaseBlob .. => .releaseBlob
  | validTiles .. => .validTiles
  | numLevels => .numLevels
  | beginTransaction .. => .beginTransaction
  | completeTransaction .. => .completeTransaction
  | failTransaction .. => .failTransaction
  | readCursor => .readCursor

/-- The operation that a request asks for. -/
def Request.operation : Request → Operation
  | openPlate _ => .openPlate
  | createPlate .. => .createPlate
  | applyUpdates _ => .applyUpdates
  | onPlate _ call => call.operation

end TileIndex
