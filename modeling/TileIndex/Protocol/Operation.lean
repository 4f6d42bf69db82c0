/-!
# Operations

What a client can ask of a service. Each operation has a name, which also labels the messages that
carry its requests.
-/

namespace TileIndex

/-- The operations of an index service. -/
inductive Operation
  | openPlate
  | createPlate
  | read
  | multiRead
  | reserveBlob
  | applyUpdates
  | releaseBlob
  | validTiles
  | numLevels
  | beginTransaction
  | completeTransaction
  | failTransaction
  | readCursor
  deriving DecidableEq, Repr

namespace Operation

/-- Every operation once. -/
def all : List Operation :=
  [openPlate, createPlate, read, multiRead, reserveBlob, applyUpdates, releaseBlob, validTiles,
    numLevels, beginTransaction, completeTransaction, failTransaction, readCursor]

/-- The name of an operation. -/
def name : Operation → String
  | openPlate => "index.open"
  | createPlate => "index.create"
  | read => "index.read"
  | multiRead => "index.multi_read"
  | reserveBlob => "index.write_request"
  | applyUpdates => "index.multi_write_update"
  | releaseBlob => "index.write_complete"
  | validTiles => "index.valid_tiles"
  | numLevels => "index.num_levels"
  | beginTransaction => "index.transaction_request"
  | completeTransaction => "index.transaction_complete"
  | failTransaction => "index.transaction_failed"
  | readCursor => "index.transaction_cursor"

/-- The operation with a given name. -/
def ofName? (s : String) : Option Operation := all.find? (·.name = s)

/-- What is said of a name that no operation has. -/
def unknownName (s : String) : String := "unknown index operation: " ++ s

theorem mem_all (o : Operation) : o ∈ all := by cases o <;> decide

theorem ofName?_name (o : Operation) : ofName? o.name = some o := by cases o <;> decide

end Operation

end TileIndex
