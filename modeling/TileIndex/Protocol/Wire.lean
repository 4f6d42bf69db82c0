import TileIndex.Protocol.Format
import TileIndex.Wire.Codec

/-!
# A format of requests and replies

A format that clients and services in one program can use. Every request and every reply begins with
a byte of its own, so no bytes at all are neither, and the bytes of a request are never those of a
reply.

Nothing is proved of these bytes but that they come back as what they were: what is proved of calls
and of servers holds of every format.

## Main statement

- `Wire.roundTrips_format`: requests and replies come back from their bytes as they were.
-/

namespace TileIndex.Wire

/-! ## Parts -/

/-- Tile coordinates. -/
def coordinate : Codec Tile.Coordinate :=
  (Codec.int32.pair (Codec.int32.pair Codec.int32)).via
    (fun c => (c.col, c.row, c.level)) (fun (c, r, l) => ⟨c, r, l⟩) fun _ => rfl

/-- Regions. -/
def region : Codec Tile.Region :=
  (Codec.int32.pair (Codec.int32.pair (Codec.int32.pair Codec.int32))).via
    (fun g => (g.col, g.row, g.width, g.height)) (fun (c, r, w, h) => ⟨c, r, w, h⟩) fun _ => rfl

/-- Tile headers. -/
def tileHeader : Codec Tile.Header :=
  (Codec.int32.pair (Codec.int32.pair (Codec.int32.pair (Codec.int32.pair Codec.string)))).via
    (fun h => (h.col, h.row, h.level, h.transaction, h.filetype))
    (fun (c, r, l, t, f) => ⟨c, r, l, t, f⟩) fun _ => rfl

/-- Record states. -/
def recordStatus : Codec RecordStatus :=
  Codec.bool.via (· = .invalid) (fun b => if b then .invalid else .valid) fun s => by
    cases s <;> rfl

/-- Records. -/
def record : Codec Record :=
  (Codec.int32.pair (Codec.uint64.pair (Codec.uint64.pair recordStatus))).via
    (fun r => (r.blob, r.offset, r.size, r.status)) (fun (b, o, z, s) => ⟨b, o, z, s⟩) fun _ => rfl

/-- Updates. -/
def update : Codec Update :=
  (Codec.int32.pair (tileHeader.pair record)).via
    (fun u => (u.plate, u.header, u.record)) (fun (p, h, r) => ⟨p, h, r⟩) fun _ => rfl

/-- Pixel layouts. -/
def pixelFormat : Codec Plate.PixelFormat :=
  Codec.word 1
    (fun | .gray => 0 | .grayAlpha => 1 | .rgb => 2 | .rgba => 3)
    (fun | 0 => .gray | 1 => .grayAlpha | 2 => .rgb | _ => .rgba)
    fun a => by cases a <;> decide

/-- Channel types. -/
def channelType : Codec Plate.ChannelType :=
  Codec.word 1
    (fun | .uint8 => 0 | .uint16 => 1 | .int16 => 2 | .float32 => 3)
    (fun | 0 => .uint8 | 1 => .uint16 | 2 => .int16 | _ => .float32)
    fun a => by cases a <;> decide

/-- Plate headers. -/
def plateHeader : Codec Plate.Header :=
  (Codec.int32.pair (Codec.int32.pair (Codec.string.pair
    (pixelFormat.pair (channelType.pair Codec.int32.option))))).via
    (fun h => (h.version, h.tileSize, h.tileFiletype, h.pixelFormat, h.channelType, h.id))
    (fun (v, z, f, p, c, i) => ⟨v, z, f, p, c, i⟩) fun _ => rfl

/-- Kinds of fault. -/
def faultKind : Codec FaultKind :=
  Codec.word 1
    (fun | .notFound => 0 | .tileNotFound => 1 | .rejected => 2 | .malformed => 3)
    (fun | 0 => .notFound | 1 => .tileNotFound | 2 => .rejected | _ => .malformed)
    fun a => by cases a <;> decide

/-- Faults. -/
def fault : Codec Fault :=
  (faultKind.pair Codec.string).via (fun f => (f.kind, f.message)) (fun (k, m) => ⟨k, m⟩)
    fun _ => rfl

/-! ## Calls -/

/-- The tile, the transaction and the exactness of a read. -/
def readArgs := coordinate.pair (Codec.int32.pair Codec.bool)

/-- The tile and the range of a read of many records. -/
def multiReadArgs := coordinate.pair (Codec.int32.pair Codec.int32)

/-- The blob and the offset of a release. -/
def releaseBlobArgs := Codec.int32.pair Codec.uint64

/-- The level, the region, the range and the least count of a tile query. -/
def validTilesArgs :=
  Codec.int32.pair (region.pair (Codec.int32.pair (Codec.int32.pair Codec.uint32)))

/-- The description and the chosen identifier of a new transaction. -/
def beginArgs := Codec.string.pair Codec.int32.option

/-- The transaction that succeeded, and whether the cursor follows. -/
def completeArgs := Codec.int32.pair Codec.bool

/-- Calls on a plate. -/
def call : Codec PlateCall where
  encode
    | .read c t e => 0 :: readArgs.encode (c, t, e)
    | .multiRead c b e => 1 :: multiReadArgs.encode (c, b, e)
    | .reserveBlob n => 2 :: Codec.uint64.encode n
    | .releaseBlob b o => 3 :: releaseBlobArgs.encode (b, o)
    | .validTiles l g b e n => 4 :: validTilesArgs.encode (l, g, b, e, n)
    | .numLevels => [5]
    | .beginTransaction d o => 6 :: beginArgs.encode (d, o)
    | .completeTransaction t u => 7 :: completeArgs.encode (t, u)
    | .failTransaction t => 8 :: Codec.int32.encode t
    | .readCursor => [9]
  decode
    | 0 :: bytes => (readArgs.decode bytes).map fun ((c, t, e), rest) => (.read c t e, rest)
    | 1 :: bytes =>
      (multiReadArgs.decode bytes).map fun ((c, b, e), rest) => (.multiRead c b e, rest)
    | 2 :: bytes => (Codec.uint64.decode bytes).map fun (n, rest) => (.reserveBlob n, rest)
    | 3 :: bytes => (releaseBlobArgs.decode bytes).map fun ((b, o), rest) => (.releaseBlob b o, rest)
    | 4 :: bytes =>
      (validTilesArgs.decode bytes).map fun ((l, g, b, e, n), rest) => (.validTiles l g b e n, rest)
    | 5 :: rest => some (.numLevels, rest)
    | 6 :: bytes => (beginArgs.decode bytes).map fun ((d, o), rest) => (.beginTransaction d o, rest)
    | 7 :: bytes =>
      (completeArgs.decode bytes).map fun ((t, u), rest) => (.completeTransaction t u, rest)
    | 8 :: bytes => (Codec.int32.decode bytes).map fun (t, rest) => (.failTransaction t, rest)
    | 9 :: rest => some (.readCursor, rest)
    | _ => none
  decode_encode a rest := by
    cases a <;> simp [Codec.decode_encode]

/-! ## Messages -/

/-- The name and the header of a new plate. -/
def createArgs := Codec.string.pair plateHeader

/-- The plate and the call on it. -/
def onPlateArgs := Codec.int32.pair call

/-- Requests. -/
def request : Codec Request where
  encode
    | .openPlate n => 16 :: Codec.string.encode n
    | .createPlate n h => 17 :: createArgs.encode (n, h)
    | .applyUpdates us => 18 :: update.list.encode us
    | .onPlate p c => 19 :: onPlateArgs.encode (p, c)
  decode
    | 16 :: bytes => (Codec.string.decode bytes).map fun (n, rest) => (.openPlate n, rest)
    | 17 :: bytes => (createArgs.decode bytes).map fun ((n, h), rest) => (.createPlate n h, rest)
    | 18 :: bytes => (update.list.decode bytes).map fun (us, rest) => (.applyUpdates us, rest)
    | 19 :: bytes => (onPlateArgs.decode bytes).map fun ((p, c), rest) => (.onPlate p c, rest)
    | _ => none
  decode_encode a rest := by
    cases a <;> simp [Codec.decode_encode]

/-- The header and the names of an opened plate. -/
def openedArgs := plateHeader.pair (Codec.string.pair Codec.string)

/-- Replies. -/
def reply : Codec Reply where
  encode
    | .opened h s f => 32 :: openedArgs.encode (h, s, f)
    | .record r => 33 :: record.encode r
    | .records rs => 34 :: (Codec.int32.pair record).list.encode rs
    | .blob b => 35 :: Codec.int32.encode b
    | .headers hs => 36 :: tileHeader.list.encode hs
    | .levels n => 37 :: Codec.int32.encode n
    | .transaction t => 38 :: Codec.int32.encode t
    | .done => [39]
    | .fault f => 40 :: fault.encode f
  decode
    | 32 :: bytes => (openedArgs.decode bytes).map fun ((h, s, f), rest) => (.opened h s f, rest)
    | 33 :: bytes => (record.decode bytes).map fun (r, rest) => (.record r, rest)
    | 34 :: bytes =>
      ((Codec.int32.pair record).list.decode bytes).map fun (rs, rest) => (.records rs, rest)
    | 35 :: bytes => (Codec.int32.decode bytes).map fun (b, rest) => (.blob b, rest)
    | 36 :: bytes => (tileHeader.list.decode bytes).map fun (hs, rest) => (.headers hs, rest)
    | 37 :: bytes => (Codec.int32.decode bytes).map fun (n, rest) => (.levels n, rest)
    | 38 :: bytes => (Codec.int32.decode bytes).map fun (t, rest) => (.transaction t, rest)
    | 39 :: rest => some (.done, rest)
    | 40 :: bytes => (fault.decode bytes).map fun (f, rest) => (.fault f, rest)
    | _ => none
  decode_encode a rest := by
    cases a <;> simp [Codec.decode_encode]

/-! ## The format -/

/-- Requests and replies in the bytes of their codecs. -/
def format : Format where
  request := request.coding "not a request"
  reply := reply.coding "not a reply"

theorem roundTrips_format : format.RoundTrips :=
  ⟨request.roundTrips_coding _, reply.roundTrips_coding _⟩

end TileIndex.Wire
