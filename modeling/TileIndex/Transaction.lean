import TileIndex.Tile

/-!
# Transactions

A transaction is a unit of work on a plate. It begins active and ends once, in success or in
failure.
-/

namespace TileIndex

/-- The states of a transaction. -/
inductive TransactionState
  | active
  | completed
  | failed
  deriving DecidableEq, Repr

/-- The word for a state. -/
def TransactionState.word : TransactionState → String
  | active => "Active"
  | completed => "Completed"
  | failed => "Failed"

/-- A transaction of a plate. -/
structure Transaction where
  description : String
  state : TransactionState
  deriving DecidableEq, Repr

end TileIndex
