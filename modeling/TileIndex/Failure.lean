import TileIndex.Protocol.Operation
import TileIndex.Protocol.Reply
import TileIndex.Text.Decimal

/-!
# Failures

What a caller of the index sees when an operation does not succeed. Every failure is returned by the
call that met it; nothing is tried again. An operation that panics returns nothing at all.
-/

namespace TileIndex

/-- A failure of the transport under a call. -/
inductive TransportError
  /-- No message arrived before the deadline. -/
  | timeout
  /-- The state of the queues can no longer be trusted. -/
  | poisoned (what : String)
  deriving DecidableEq, Repr

/-- The text of a transport failure. -/
def TransportError.message : TransportError → String
  | timeout => "timed out waiting for reply"
  | poisoned what => "queue state poisoned: " ++ what

/-- A failure of an index operation. -/
inductive Failure
  /-- A malformed address or an unusable setting. -/
  | argument (text : String)
  /-- No such plate, transaction or blob. -/
  | notFound (text : String)
  /-- No record of the tile under the constraints asked for. -/
  | tileNotFound (tile : Tile.Coordinate) (transaction : TransactionId)
  /-- The service refused the request. -/
  | remote (text : String)
  /-- The request or the reply was not delivered. -/
  | transport (cause : TransportError)
  /-- The request cannot be written, or the reply not read, or it does not fit the request. -/
  | codec (text : String)
  deriving DecidableEq, Repr

namespace Failure

/-- The text of a failure. -/
def message : Failure → String
  | argument text => "invalid argument: " ++ text
  | notFound text => "not found: " ++ text
  | tileNotFound tile transaction =>
    "tile not found: col=" ++ Text.ofInt32 tile.col ++ " row=" ++ Text.ofInt32 tile.row ++
      " level=" ++ Text.ofInt32 tile.level ++ " transaction=" ++ Text.ofInt32 transaction
  | remote text => "remote error: " ++ text
  | transport cause => "transport error: " ++ cause.message
  | codec text => "codec error: " ++ text

/-- Whether a failure reports an absence that callers meet in the normal course of work. -/
def isNotFound : Failure → Bool
  | notFound _ | tileNotFound .. => true
  | _ => false

/-- The failure that reports a fault of the service. -/
def ofFault (f : Fault) : Failure :=
  match f.kind with
  | .notFound | .tileNotFound => notFound f.message
  | .rejected | .malformed => remote f.message

/-- The failure that reports a reply which does not belong to the operation. -/
def unexpected (operation : Operation) (reply : Reply) : Failure :=
  codec ("unexpected " ++ reply.kind ++ " reply to " ++ operation.name)

/-- The failure that reports an opened plate without an identifier. -/
def unidentified (operation : Operation) : Failure :=
  codec (operation.name ++ " reply carried no platefile id")

end Failure

/-! ## Panics -/

/-- Why the program that an operation runs in stops short. -/
inductive Panic
  /-- Room was asked for more than can be addressed. -/
  | capacityOverflow
  deriving DecidableEq, Repr

/-- The text of a panic. -/
def Panic.message : Panic → String
  | capacityOverflow => "capacity overflow"

/-- Why something that was begun has no result. -/
inductive Halt
  /-- It failed, and says so to its caller. -/
  | failure (cause : Failure)
  /-- It never returned. -/
  | panic (cause : Panic)
  deriving DecidableEq, Repr

end TileIndex
