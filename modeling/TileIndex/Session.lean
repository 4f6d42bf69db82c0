import TileIndex.Fleet

/-!
# Sessions

Clients that hand their requests directly to one service. Outcomes can be laid down for coming
requests, which shows how clients bear with a service that answers anything at all, and everything
that is handed over is logged.
-/

namespace TileIndex

/-- What the clients of a session act on: the service, the plans for coming requests, and the log. -/
abbrev Desk := (Service × List Plan) × List Exchange

namespace Desk

/-- A service without plates, no plans and nothing logged. -/
def new (root : String) : Desk := ((Service.new root, []), [])

/-- The channel of every client. -/
def channel : Channel Desk := Channel.direct.planned.logged

/-- The service. -/
def service (d : Desk) : Service := d.1.1

/-- Lay down an outcome for a coming request. -/
def plan (p : Plan) (d : Desk) : Desk := ((d.1.1, d.1.2 ++ [p]), d.2)

/-- Hand a request to the service past the clients. -/
def request (r : Request) (d : Desk) : Reply × Desk :=
  let (reply, s) := d.service.handle r
  (reply, (s, d.1.2), d.2)

/-- Read the requests off the log. -/
def takeLog (d : Desk) : List Request × Desk := (d.2.map (·.request), d.1, [])

end Desk

/-- Clients over one desk. -/
abbrev Session := Fleet Unit Desk

namespace Session

/-- The channel of a client. -/
def channel : Unit → Channel Desk := fun _ => Desk.channel

/-- Take in a client under a name, if it could be constructed. -/
def enrol (s : Session) (name : String)
    (make : Channel Desk → Desk → Except Halt Client × Desk) :
    Except Halt Unit × Session :=
  match make Desk.channel s.state with
  | (.error e, d) => (.error e, { s with state := d })
  | (.ok client, d) => (.ok (), Fleet.enter channel { s with state := d } name client ())

/-- Open a plate for a client under a name. -/
def openPlate (s : Session) (name : String) (settings : Settings) (plate : String) :
    Except Halt Unit × Session :=
  s.enrol name fun ch => Client.openPlate ch settings plate

/-- Create a plate for a client under a name. -/
def createPlate (s : Session) (name : String) (settings : Settings) (plate : String)
    (header : Plate.Header) : Except Halt Unit × Session :=
  s.enrol name fun ch => Client.createPlate ch settings plate header

end Session

end TileIndex
