import TileIndex.Channel
import TileIndex.Client.Answer
import TileIndex.Client.WriteBuffer
import TileIndex.Settings

/-!
# Clients

A client holds one plate of a service that it reaches over a channel. It keeps updates back and
sends them in batches, but never lets a call that could see them go ahead of them. Updates leave the
buffer before their batch is handed over, so a batch that fails is lost, and the failure is reported
to whoever caused it to be sent.
-/

universe u

namespace TileIndex

/-- A client of one plate. -/
structure Client where
  identity : Plate.Identity
  header : Plate.Header
  buffer : WriteBuffer
  deriving DecidableEq

namespace Client

/-- What can be asked of a client. -/
inductive Op
  /-- Write an update, now or with a later batch. -/
  | write (header : Tile.Header) (record : Record)
  /-- Send what waits. -/
  | flush
  /-- Make a call on the plate. -/
  | call (call : PlateCall)
  deriving DecidableEq, Repr

variable {σ : Type u}

/-! ## Operations -/

/-- The number of updates that wait. -/
def pending (c : Client) : Nat := c.buffer.size

/-- Send what waits as one batch. Nothing is sent when nothing waits. -/
def flush (ch : Channel σ) (c : Client) (s : σ) : Except Failure Answer × Client × σ :=
  match c.buffer.drain with
  | (none, _) => (.ok .done, c, s)
  | (some updates, buffer) =>
    -- the buffer is empty from here on, whatever becomes of the batch
    let (outcome, s) := ch (.applyUpdates updates) s
    (outcome.bind Answer.ofBatchReply, { c with buffer := buffer }, s)

/-- Hand a call over, and take its result from the reply. -/
def send (ch : Channel σ) (c : Client) (call : PlateCall) (s : σ) :
    Except Failure Answer × Client × σ :=
  let (outcome, s) := ch (.onPlate c.identity.id call) s
  (outcome.bind (Answer.ofReply call), c, s)

/-- The update that a client writes: it carries the identifier of the client's plate. -/
def update (c : Client) (header : Tile.Header) (record : Record) : Update :=
  ⟨c.identity.id, header, record⟩

/-- Carry out an operation. -/
def perform (ch : Channel σ) (c : Client) (op : Op) (s : σ) :
    Except Failure Answer × Client × σ :=
  match op with
  | .write header record =>
    let (full, buffer) := c.buffer.push (c.update header record)
    let c := { c with buffer := buffer }
    if full then c.flush ch s else (.ok .done, c, s)
  | .flush => c.flush ch s
  | .call call =>
    if call.flushesFirst then
      -- a batch that fails keeps the call from being made
      match c.flush ch s with
      | (.error e, c, s) => (.error e, c, s)
      | (.ok _, c, s) => c.send ch call s
    else c.send ch call s

/-- Carry out operations one after another: their results, and the client and the state after them. -/
def run (ch : Channel σ) (c : Client) : List Op → σ → List (Except Failure Answer) × Client × σ
  | [], s => ([], c, s)
  | op :: ops, s =>
    let (result, c, s) := c.perform ch op s
    let (results, c, s) := c.run ch ops s
    (result :: results, c, s)

/-- Give a client up. What waits is sent, whether or not that succeeds. -/
def close (ch : Channel σ) (c : Client) (s : σ) : σ := (c.flush ch s).2.2

/-! ## Construction -/

/-- The client of a plate that a reply opened or created. Its buffer is made last, so nothing but
    the buffer stands between such a reply and the client. -/
def ofReply (operation : Operation) (settings : Settings) : Reply → Except Halt Client
  | .opened header shortName fullName =>
    match header.id with
    | none => .error (.failure (.unidentified operation))
    | some id =>
      match WriteBuffer.new settings.maxPending.toNat with
      | .error p => .error (.panic p)
      | .ok buffer => .ok ⟨⟨id, shortName, fullName⟩, header, buffer⟩
  | .fault f => .error (.failure (.ofFault f))
  | reply => .error (.failure (.unexpected operation reply))

/-- Construct a client from the reply to one request. Nothing is sent under unusable settings. -/
def construct (ch : Channel σ) (settings : Settings) (r : Request) (s : σ) :
    Except Halt Client × σ :=
  match settings.validate with
  | .error e => (.error (.failure e), s)
  | .ok () =>
    let (outcome, s) := ch r s
    ((outcome.mapError .failure).bind (ofReply r.operation settings), s)

/-- Open a plate by its name. -/
def openPlate (ch : Channel σ) (settings : Settings) (name : String) (s : σ) :
    Except Halt Client × σ :=
  construct ch settings (.openPlate name) s

/-- Create a plate. An identifier in the header is not sent. -/
def createPlate (ch : Channel σ) (settings : Settings) (name : String) (header : Plate.Header)
    (s : σ) : Except Halt Client × σ :=
  construct ch settings (.createPlate name { header with id := none }) s

end Client

end TileIndex
