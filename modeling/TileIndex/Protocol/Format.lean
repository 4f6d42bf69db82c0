import TileIndex.Protocol.Reply
import TileIndex.Protocol.Request
import TileIndex.Wire.Coding

/-!
# Formats

A client and a service must agree how requests and replies are written as bytes. The protocol does
not depend on the bytes, so the agreement is a parameter of everything that goes over a bus.
-/

namespace TileIndex

/-- How the requests and the replies of a service are written. -/
structure Format where
  request : Coding Request
  reply : Coding Reply

/-- Requests and replies come back from their bytes as they were. -/
structure Format.RoundTrips (w : Format) : Prop where
  request : w.request.RoundTrips
  reply : w.reply.RoundTrips

end TileIndex
