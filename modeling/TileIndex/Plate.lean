import TileIndex.Tile

/-!
# Plates

A plate is a pyramid of tiles that share a size, a file type and a pixel layout. A caller fills in a
header without an identifier; the service's copy carries the identifier it assigned.
-/

namespace TileIndex.Plate

/-- The pixel layout of the tiles of a plate. -/
inductive PixelFormat
  | gray
  | grayAlpha
  | rgb
  | rgba
  deriving DecidableEq, Repr

instance : Inhabited PixelFormat := ⟨.rgba⟩

/-- The storage type of one channel of a pixel. -/
inductive ChannelType
  | uint8
  | uint16
  | int16
  | float32
  deriving DecidableEq, Repr

instance : Inhabited ChannelType := ⟨.uint8⟩

/-- The description of a plate. -/
structure Header where
  version : Int32
  tileSize : Int32
  tileFiletype : String
  pixelFormat : PixelFormat
  channelType : ChannelType
  id : Option PlateId
  deriving DecidableEq, Repr, Inhabited

/-- A header of the first version, with no identifier yet. -/
def Header.unassigned (tileSize : Int32) (tileFiletype : String) (pixelFormat : PixelFormat)
    (channelType : ChannelType) : Header :=
  ⟨1, tileSize, tileFiletype, pixelFormat, channelType, none⟩

/-- The names of a plate: the identifier assigned to it, the name it was created under, and where it
    is kept. -/
structure Identity where
  id : PlateId
  shortName : String
  fullName : String
  deriving DecidableEq, Repr, Inhabited

/-- The tile sizes a plate can have: one of the powers of two from 1 to 2^30. -/
def isTileSize (n : Int32) : Bool :=
  (List.range 31).any fun k => n.toInt = Nat.pow 2 k

end TileIndex.Plate
