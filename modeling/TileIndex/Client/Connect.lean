import TileIndex.Address
import TileIndex.Client

/-!
# Clients by address

A client can be constructed from the address of its plate: the settings are checked, the address is
read, a channel to the service is made, and one request goes over it.
-/

universe u v

namespace TileIndex

/-- A way to make channels to the services that addresses name. A connection is what tells the
    channels apart. -/
structure Connector (κ : Type v) (σ : Type u) where
  connect : Address → Settings → σ → Except Failure κ × σ
  channel : κ → Channel σ

namespace Client

variable {κ : Type v} {σ : Type u}

/-- Construct a client over a new connection to the service of an address. -/
def constructAt (via : Connector κ σ) (url : String) (settings : Settings)
    (make : Channel σ → String → σ → Except Halt Client × σ) (s : σ) :
    Except Halt (Client × κ) × σ :=
  match settings.validate with
  | .error e => (.error (.failure e), s)
  | .ok () =>
    -- nothing is connected for an address that cannot be read
    match Address.parse url with
    | .error e => (.error (.failure e), s)
    | .ok address =>
      match via.connect address settings s with
      | (.error e, s) => (.error (.failure e), s)
      | (.ok connection, s) =>
        let (client, s) := make (via.channel connection) address.name s
        (client.map (·, connection), s)

/-- Open the plate at an address. -/
def openAt (via : Connector κ σ) (url : String) (settings : Settings) (s : σ) :
    Except Halt (Client × κ) × σ :=
  constructAt via url settings (fun ch name => openPlate ch settings name) s

/-- Create a plate at an address. -/
def createAt (via : Connector κ σ) (url : String) (settings : Settings) (header : Plate.Header)
    (s : σ) : Except Halt (Client × κ) × σ :=
  constructAt via url settings (fun ch name => createPlate ch settings name header) s

end Client

end TileIndex
