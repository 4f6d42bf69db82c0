import TileIndex.Client

/-!
# Fleets

Clients under names that share one state: the services they reach and whatever lies between. Every
client has a connection, which tells its channel from those of the others.
-/

universe u v w

namespace TileIndex

/-- Clients under names, with their connections, and the state that their channels act on. -/
structure Fleet (κ : Type v) (σ : Type u) where
  members : SortedMap String (Client × κ)
  state : σ

namespace Fleet

variable {κ : Type v} {σ : Type u} (channel : κ → Channel σ)

/-- A fleet without clients. -/
def new (s : σ) : Fleet κ σ := ⟨SortedMap.empty, s⟩

/-- The number of waiting updates of every client. -/
def pending (f : Fleet κ σ) : List (String × Nat) :=
  f.members.entries.map fun (name, client, _) => (name, client.pending)

/-- Give up the client of a name, if there is one. -/
def leave (f : Fleet κ σ) (name : String) : Option (Fleet κ σ) :=
  (f.members.find? name).map fun (client, connection) =>
    ⟨f.members.erase name, client.close (channel connection) f.state⟩

/-- Take a client in under a name, and then give up the one that had the name. -/
def enter (f : Fleet κ σ) (name : String) (client : Client) (connection : κ) : Fleet κ σ :=
  -- the earlier holder of the name sends what waits before it goes
  let f := (f.leave channel name).getD f
  { f with members := f.members.insert name (client, connection) }

/-- Carry out an operation of the client of a name, if there is one. -/
def perform (f : Fleet κ σ) (name : String) (op : Client.Op) :
    Option (Except Failure Answer × Fleet κ σ) :=
  (f.members.find? name).map fun (client, connection) =>
    let (result, client, s) := client.perform (channel connection) op f.state
    (result, ⟨f.members.insert name (client, connection), s⟩)

/-- Give up all clients in the order of their names. After each, part of the state is read off. -/
def closeAll {α : Type w} (observe : σ → α × σ) (f : Fleet κ σ) : List (String × α) × σ :=
  go f.members.entries f.state
where
  /-- Give up some clients, one after another. -/
  go : List (String × Client × κ) → σ → List (String × α) × σ
    | [], s => ([], s)
    | (name, client, connection) :: rest, s =>
      let (seen, s) := observe (client.close (channel connection) s)
      let (others, s) := go rest s
      ((name, seen) :: others, s)

end Fleet

end TileIndex
