import TileIndex.Wire.Coding

/-!
# Messages

A message carries a payload under an identifier and a type. Its metadata is a list of keys with
their values in which the first entry of a key counts.
-/

namespace TileIndex

/-- A message on the bus. -/
structure Message where
  /-- A reply has the identifier of its request. -/
  id : String
  type : String
  payload : List UInt8
  metadata : Option (List (String × String))
  deriving DecidableEq, Repr

namespace Message

/-- The key of the queue that the reply to a message should go to. -/
def replyToKey : String := "reply-to"

/-- A message without metadata. -/
def plain (id type : String) (payload : List UInt8) : Message := ⟨id, type, payload, none⟩

/-- A message without metadata that carries a value, or why the value cannot be written. -/
def carrying {α : Type} (id type : String) (c : Coding α) (a : α) : Except String Message :=
  (c.write a).map (plain id type)

/-- Set the value of a key in a list of entries: in its first entry, or in a new one at the end. -/
def setEntry (key value : String) : List (String × String) → List (String × String)
  | [] => [(key, value)]
  | e :: rest => if e.1 = key then (key, value) :: rest else e :: setEntry key value rest

/-- Set a key of the metadata. -/
def withMetadata (m : Message) (key value : String) : Message :=
  { m with metadata := some (setEntry key value (m.metadata.getD [])) }

/-- Set keys of the metadata one after another. -/
def withAll (m : Message) (entries : List (String × String)) : Message :=
  entries.foldl (fun m e => m.withMetadata e.1 e.2) m

/-- The value of a key of the metadata. -/
def metadata? (m : Message) (key : String) : Option String :=
  ((m.metadata.getD []).find? (·.1 = key)).map (·.2)

/-- The queue that the reply should go to. -/
def replyTo? (m : Message) : Option String := m.metadata? replyToKey

/-- A reply to a message: it has the identifier of the message, and no metadata. -/
def reply {α : Type} (m : Message) (type : String) (c : Coding α) (a : α) : Except String Message :=
  carrying m.id type c a

end Message

end TileIndex
