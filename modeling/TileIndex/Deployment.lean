import TileIndex.Bus.Line
import TileIndex.Bus.Name
import TileIndex.Client.Connect
import TileIndex.Fleet
import TileIndex.Server

/-!
# Deployments

A service on a queue in memory, with a server that runs at times, and clients that reach it by
address. While the server runs it serves every message as soon as it is sent. While it does not,
messages wait, and calls end at their deadline. Every call has one, as the clock of a deployment
begins at zero and no setting lets a client wait for longer than it can show.
-/

namespace TileIndex

/-- The service, its queue, and what its clients share. -/
structure Site where
  /-- How requests and replies are written on the queues. -/
  format : Format
  queues : Queues
  service : Service
  /-- The queue that the server listens on. -/
  queue : String
  /-- What the server has done since it was started, while it runs. -/
  running : Option Stats
  /-- The nonce of the unique names. -/
  nonce : Nat
  /-- The number of the next unique name. -/
  serial : Nat
  /-- How many of the messages sent have been reported. -/
  reported : Nat

namespace Site

/-- A service without plates whose server does not run. The nonce should be fresh for every name
    that is given from outside. -/
def new (w : Format) (root queue : String) (nonce : Nat) : Site :=
  ⟨w, Queues.empty, Service.new root, queue, none, nonce, 0, 0⟩

/-- Let the server, if it runs, serve what waits. -/
def settle (s : Site) : Site :=
  match s.running with
  | none => s
  | some stats =>
    let served := Server.serveWaiting s.format s.queue ⟨s.service, stats, s.queues⟩
    { s with queues := served.bus, service := served.service, running := some served.stats }

/-- Send a message, and let the server serve it. -/
def send (s : Site) (queue : String) (m : Message) : Site :=
  { s with queues := s.queues.send queue m }.settle

/-- The bus of a site. -/
def transport : Transport Site where
  send queue m s := (.ok (), s.send queue m)
  listen queue wait s :=
    let (heard, queues) := Queues.transport.listen queue wait s.queues
    (heard, { s with queues := queues })

/-- A line whose calls have a deadline. -/
abbrev Connection := { l : Line // (l.timeLeft? .zero).isSome }

/-- The channel of a line. Every call has an identifier of its own. -/
def channel (c : Connection) : Channel Site := fun r s =>
  let s' := { s with serial := s.serial + 1 }
  (c.val.call s.format transport .zero (correlationId s.nonce s.serial) r s').get
    (Line.isSome_call c.property ..)

/-- No client can be told to wait for longer than the clock can show. -/
theorem isSome_timeLeft? (requestQueue replyQueue : String) (settings : Settings) :
    ((Line.mk requestQueue replyQueue settings.replyTimeout).timeLeft? .zero).isSome := by
  -- the greatest number of milliseconds is still a thousand times less than that of seconds
  have hseconds : settings.replyTimeout.seconds.toNat ≤ 18446744073709551 := by
    have hlt := settings.replyTimeoutMs.toNat_lt
    have hdiv : settings.replyTimeout.seconds.toNat = settings.replyTimeoutMs.toNat / 1000 := rfl
    omega
  have hnanos := settings.replyTimeout.nanos_lt
  have hzero : Duration.zero.toNanos = 0 := rfl
  have hdue : (Duration.zero.toNanos + settings.replyTimeout.toNanos) / 1000000000 ≤
      Line.lastSecond := by
    rw [hzero, Duration.toNanos, Line.lastSecond]
    omega
  rw [Line.timeLeft?, if_pos hdue]
  rfl

/-- Lines to the service of an address, each with a reply queue of its own. -/
def connector : Connector Connection Site where
  connect a settings s :=
    let replyQueue := uniqueName (settings.queueStem ++ a.name) s.nonce s.serial
    (.ok ⟨⟨a.key, replyQueue, settings.replyTimeout⟩, isSome_timeLeft? ..⟩,
      { s with serial := s.serial + 1 })
  channel := channel

/-- Start the server. -/
def start (s : Site) : Site := { s with running := some .zero }.settle

/-- Stop the server; what it did, if it ran. -/
def stop (s : Site) : Option Stats × Site := (s.running, { s with running := none })

/-- The messages sent and not yet reported, which are now. -/
def report (s : Site) : List (String × Message) × Site :=
  (s.queues.sent.drop s.reported, { s with reported := s.queues.sent.length })

end Site

/-- Clients that reach one site. -/
abbrev Deployment := Fleet Site.Connection Site

namespace Deployment

/-- A site without clients. -/
def new (w : Format) (root queue : String) (nonce : Nat) : Deployment :=
  Fleet.new (Site.new w root queue nonce)

/-- Take in a client under a name, if it could be constructed. -/
def enrol (d : Deployment) (name : String)
    (make : Site → Except Halt (Client × Site.Connection) × Site) : Except Halt Unit × Deployment :=
  match make d.state with
  | (.error e, s) => (.error e, { d with state := s })
  | (.ok (client, connection), s) =>
    (.ok (), Fleet.enter Site.channel { d with state := s } name client connection)

/-- Open the plate at an address for a client under a name. -/
def openAt (d : Deployment) (name : String) (settings : Settings) (url : String) :
    Except Halt Unit × Deployment :=
  d.enrol name (Client.openAt Site.connector url settings)

/-- Create a plate at an address for a client under a name. -/
def createAt (d : Deployment) (name : String) (settings : Settings) (url : String)
    (header : Plate.Header) : Except Halt Unit × Deployment :=
  d.enrol name (Client.createAt Site.connector url settings header)

/-- The line of the client of a name. -/
def line? (d : Deployment) (name : String) : Option Line := (d.members.find? name).map (·.2.val)

end Deployment

end TileIndex
