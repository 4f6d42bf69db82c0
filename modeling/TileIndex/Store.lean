import TileIndex.Protocol.Request
import TileIndex.Refusal
import TileIndex.SortedMap

/-!
# Stores

The records, the transactions and the blob reservations of one plate. Every tile keeps one record
for each transaction that wrote it. The records of a failed transaction stay in the store and are
hidden from every read.

Commands change a store and may be refused; a refused command leaves the store as it was. Queries
only look at it.
-/

namespace TileIndex

/-- What a store keeps for one tile under one transaction. -/
structure TileEntry where
  header : Tile.Header
  record : Record
  deriving DecidableEq, Repr

/-- The entries of one tile by the transaction that wrote them. -/
abbrev TileHistory := SortedMap TransactionId TileEntry

/-- The state of one plate. -/
structure Store where
  header : Plate.Header
  shortName : String
  fullName : String
  tiles : SortedMap Tile.Coordinate TileHistory
  transactions : SortedMap TransactionId Transaction
  /-- The identifier of the next transaction that does not choose its own. -/
  nextTransaction : TransactionId
  /-- The highest transaction that default reads see. -/
  cursor : TransactionId
  reserved : SortedMap BlobId Unit
  nextBlob : BlobId
  deriving DecidableEq

namespace Store

/-- A plate without tiles. -/
def new (header : Plate.Header) (shortName fullName : String) : Store where
  header := header
  shortName := shortName
  fullName := fullName
  tiles := SortedMap.empty
  transactions := SortedMap.empty
  nextTransaction := 1
  cursor := 0
  reserved := SortedMap.empty
  nextBlob := 0

/-! ## Queries -/

/-- The state of a transaction that has been begun. -/
def transactionState? (s : Store) (t : TransactionId) : Option TransactionState :=
  (s.transactions.find? t).map (·.state)

/-- The description of a transaction that has been begun. -/
def description? (s : Store) (t : TransactionId) : Option String :=
  (s.transactions.find? t).map (·.description)

/-- Whether reads see what a transaction wrote: they do unless it failed. -/
def visible (s : Store) (t : TransactionId) : Bool := s.transactionState? t ≠ some .failed

/-- What is kept for a tile, by transaction. -/
def history (s : Store) (c : Tile.Coordinate) : List (TransactionId × TileEntry) :=
  match s.tiles.find? c with
  | some h => h.entries
  | none => []

/-- The visible entries of a history within a closed range of transactions, oldest first. -/
def within (s : Store) (first last : TransactionId) (h : List (TransactionId × TileEntry)) :
    List (TransactionId × TileEntry) :=
  h.filter fun e => first ≤ e.1 && e.1 ≤ last && s.visible e.1

/-- The transaction that a read is directed to. -/
def target (s : Store) (t : TransactionId) : TransactionId := if t < 0 then s.cursor else t

/-- The entry that a read directed to a transaction finds: the newest visible one at or before it,
    or the visible one exactly at it. -/
def entryAt? (s : Store) (c : Tile.Coordinate) (t : TransactionId) (exact : Bool) :
    Option (TransactionId × TileEntry) :=
  let passes (e : TransactionId × TileEntry) : Bool :=
    (if exact then e.1 = t else e.1 ≤ t) && s.visible e.1
  -- a history ascends, so the newest entry that passes is the first from its end
  (s.history c).reverse.find? passes

/-- The record of a tile at or before a transaction, or exactly at it. -/
def read (s : Store) (c : Tile.Coordinate) (t : TransactionId) (exact : Bool) :
    Except Refusal Record :=
  match s.entryAt? c (s.target t) exact with
  | some (_, e) => .ok e.record
  | none => .error (.noRecord c (s.target t))

/-- Every visible record of a tile within a closed range of transactions, oldest first. -/
def multiRead (s : Store) (c : Tile.Coordinate) (first last : TransactionId) :
    List (TransactionId × Record) :=
  (s.within first last (s.history c)).map fun (t, e) => (t, e.record)

/-- The header of the newest of some entries, if there are enough of them. -/
def newestOf (atLeast : UInt32) (es : List (TransactionId × TileEntry)) : Option Tile.Header :=
  if atLeast.toNat ≤ es.length then es.getLast?.map (·.2.header) else none

/-- For every tile of a region with enough visible records within a closed range of transactions,
    the header of the newest of them. -/
def validTiles (s : Store) (level : Int32) (region : Tile.Region) (first last : TransactionId)
    (atLeast : UInt32) : List Tile.Header :=
  -- tiles ascend by coordinate, and so do the headers
  let here := s.tiles.entriesWhere fun c => c.level = level && region.contains c.col c.row
  here.filterMap fun (_, h) => newestOf atLeast (s.within first last h.entries)

/-- The number of levels down to a given one; the greatest number stands for every larger one. -/
def levelsDownTo (level : Int32) : Int32 :=
  if level < 0 then 0 else if level = Int32.maxValue then Int32.maxValue else level + 1

/-- One more than the deepest level that a tile has been written at. -/
def numLevels (s : Store) : Int32 :=
  s.tiles.keys.foldl (fun n c => max n (levelsDownTo c.level)) 0

/-! ## Commands -/

/-- The identifier after a given one, unless it is the last. -/
def successor? (n : Int32) : Option Int32 := if n = Int32.maxValue then none else some (n + 1)

/-- Write an update, replacing what its tile has under its transaction. -/
def apply (s : Store) (u : Update) : Store :=
  let c := u.header.coordinate
  let h := (s.tiles.find? c).getD SortedMap.empty
  { s with tiles := s.tiles.insert c (h.insert u.header.transaction ⟨u.header, u.record⟩) }

/-- The identifier for a new transaction: the one chosen, if it is neither negative nor taken, or
    the next one. -/
def identifier (s : Store) : Option TransactionId → Except Refusal TransactionId
  | none => .ok s.nextTransaction
  | some t =>
    if t < 0 then .error (.negativeTransaction t)
    else if s.transactions.contains t then .error (.transactionInUse t)
    else .ok t

/-- Begin a transaction; its identifier. Identifiers that are not chosen stay above all others. -/
def begin (s : Store) (description : String) (chosen : Option TransactionId) :
    Except Refusal (TransactionId × Store) :=
  match s.identifier chosen with
  | .error r => .error r
  | .ok t =>
    match successor? t with
    | none => .error (.noSuccessor t)
    | some following =>
      -- a chosen identifier below the next one leaves the next one alone
      .ok (t, { s with
        nextTransaction := max s.nextTransaction following
        transactions := s.transactions.insert t ⟨description, .active⟩ })

/-- End an active transaction. -/
def finish (s : Store) (t : TransactionId) (state : TransactionState) : Except Refusal Store :=
  match s.transactions.find? t with
  | none => .error (.unknownTransaction t)
  | some x =>
    -- a transaction ends once
    if x.state = .active then
      .ok { s with transactions := s.transactions.insert t { x with state := state } }
    else .error (.transactionEnded t x.state)

/-- End a transaction in success. The cursor follows if asked to, and never moves back. -/
def complete (s : Store) (t : TransactionId) (moveCursor : Bool) : Except Refusal Store :=
  match s.finish t .completed with
  | .error r => .error r
  | .ok s => .ok (if moveCursor then { s with cursor := max s.cursor t } else s)

/-- End a transaction in failure. -/
def fail (s : Store) (t : TransactionId) : Except Refusal Store := s.finish t .failed

/-- Reserve a blob; its identifier, which is never given out again. -/
def reserveBlob (s : Store) : Except Refusal (BlobId × Store) :=
  match successor? s.nextBlob with
  | none => .error .blobsExhausted
  | some following =>
    .ok (s.nextBlob, { s with
      nextBlob := following, reserved := s.reserved.insert s.nextBlob () })

/-- Release a blob that is reserved. -/
def releaseBlob (s : Store) (b : BlobId) : Except Refusal Store :=
  if s.reserved.contains b then .ok { s with reserved := s.reserved.erase b }
  else .error (.blobNotReserved b)

/-! ## Runs -/

/-- What can be done to a store. -/
inductive Command
  | apply (update : Update)
  | begin (description : String) (chosen : Option TransactionId)
  | complete (transaction : TransactionId) (moveCursor : Bool)
  | fail (transaction : TransactionId)
  | reserveBlob
  | releaseBlob (blob : BlobId)
  deriving DecidableEq, Repr

/-- The effect of a command that is granted; a command that gives out an identifier returns it. -/
def attempt (s : Store) : Command → Except Refusal (Option Int32 × Store)
  | .apply u => .ok (none, s.apply u)
  | .begin d chosen => (s.begin d chosen).map fun (t, s) => (some t, s)
  | .complete t moveCursor => (s.complete t moveCursor).map fun s => (none, s)
  | .fail t => (s.fail t).map fun s => (none, s)
  | .reserveBlob => s.reserveBlob.map fun (b, s) => (some b, s)
  | .releaseBlob b => (s.releaseBlob b).map fun s => (none, s)

/-- Carry out a command: what it returns, and the store after it. -/
def perform (s : Store) (c : Command) : Except Refusal (Option Int32) × Store :=
  match s.attempt c with
  | .ok (result, s) => (.ok result, s)
  | .error r => (.error r, s)

/-- The store after a run of commands. -/
def run (s : Store) (cs : List Command) : Store := cs.foldl (fun s c => (s.perform c).2) s

/-- What the commands of a run return. -/
def results (s : Store) : List Command → List (Except Refusal (Option Int32))
  | [] => []
  | c :: cs => (s.perform c).1 :: (s.perform c).2.results cs

/-! ## Calls -/

/-- Answer a call on the plate: the reply, and the store after it. -/
def serve (s : Store) : PlateCall → Except Refusal (Reply × Store)
  | .read c t exact => (s.read c t exact).map fun r => (.record r, s)
  | .multiRead c first last => .ok (.records (s.multiRead c first last), s)
  | .reserveBlob _ => s.reserveBlob.map fun (b, s) => (.blob b, s)
  | .releaseBlob b _ => (s.releaseBlob b).map fun s => (.done, s)
  | .validTiles level region first last atLeast =>
    .ok (.headers (s.validTiles level region first last atLeast), s)
  | .numLevels => .ok (.levels s.numLevels, s)
  | .beginTransaction d chosen => (s.begin d chosen).map fun (t, s) => (.transaction t, s)
  | .completeTransaction t moveCursor => (s.complete t moveCursor).map fun s => (.done, s)
  | .failTransaction t => (s.fail t).map fun s => (.done, s)
  | .readCursor => .ok (.transaction s.cursor, s)

/-- The reply to an open or create request. -/
def opened (s : Store) : Reply := .opened s.header s.shortName s.fullName

end Store

end TileIndex
