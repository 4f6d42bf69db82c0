import TileIndex.Store

/-!
# Services

The authoritative index of every plate under one root. Requests are handled one at a time, so that
the reply to a request reflects every request before it. A request that is refused leaves the
service as it was.
-/

namespace TileIndex

/-- The state of a service. -/
structure Service where
  /-- Where the plates are kept, without a slash at its end. -/
  root : String
  plates : SortedMap PlateId Store
  names : SortedMap String PlateId
  /-- The identifier of the next plate. -/
  nextPlate : PlateId
  deriving DecidableEq

namespace Service

/-- A text without the slashes at its end. -/
def trimSlashes (s : String) : String :=
  String.ofList (s.toList.reverse.dropWhile (· = '/')).reverse

/-- A service without plates. -/
def new (root : String) : Service where
  root := trimSlashes root
  plates := SortedMap.empty
  names := SortedMap.empty
  nextPlate := 1

/-- The names of the plates, ascending. -/
def plateNames (s : Service) : List String := s.names.keys

/-- The store of a plate. -/
def store (s : Service) (p : PlateId) : Except Refusal Store :=
  match s.plates.find? p with
  | some st => .ok st
  | none => .error (.unknownPlate p)

/-! ## Opening and creating -/

/-- Open a plate by its name. -/
def openPlate (s : Service) (name : String) : Except Refusal Reply :=
  match s.names.find? name with
  | none => .error (.noPlateNamed name)
  | some p => (s.store p).map Store.opened

/-- Whether a plate can have a name: one that is not empty and holds no slash. -/
def isPlateName (name : String) : Bool := name ≠ "" && !name.toList.contains '/'

/-- Create a plate. Its header is the one given, with the identifier that the service assigns. -/
def createPlate (s : Service) (name : String) (header : Plate.Header) :
    Except Refusal (Reply × Service) :=
  if !isPlateName name then .error (.invalidName name)
  else if !Plate.isTileSize header.tileSize then .error (.invalidTileSize header.tileSize)
  else if s.names.contains name then .error (.nameInUse name)
  else
    match Store.successor? s.nextPlate with
    | none => .error .platesExhausted
    | some following =>
      -- an identifier in the header given does not count
      let st := Store.new { header with id := some s.nextPlate } name (s.root ++ "/" ++ name)
      .ok (st.opened, { s with
        plates := s.plates.insert s.nextPlate st
        names := s.names.insert name s.nextPlate
        nextPlate := following })

/-! ## Batches -/

/-- Write one update to the plate it names. -/
def apply (s : Service) (u : Update) : Service :=
  { s with plates := s.plates.adjust u.plate (·.apply u) }

/-- Write a batch of updates: all of them, or none if one names an unknown plate. -/
def applyUpdates (s : Service) (us : List Update) : Except Refusal (Reply × Service) :=
  -- every plate is looked up before anything is written
  match us.find? fun u => !s.plates.contains u.plate with
  | some u => .error (.unknownPlate u.plate)
  | none => .ok (.done, us.foldl apply s)

/-! ## Requests -/

/-- Make a call on the plate it names. -/
def callPlate (s : Service) (p : PlateId) (c : PlateCall) : Except Refusal (Reply × Service) :=
  match s.store p with
  | .error r => .error r
  | .ok st =>
    match st.serve c with
    | .error r => .error r
    | .ok (reply, st) => .ok (reply, { s with plates := s.plates.insert p st })

/-- The reply to a request and the service after it, if the request is granted. -/
def dispatch (s : Service) : Request → Except Refusal (Reply × Service)
  | .openPlate name => (s.openPlate name).map fun reply => (reply, s)
  | .createPlate name header => s.createPlate name header
  | .applyUpdates us => s.applyUpdates us
  | .onPlate p c => s.callPlate p c

/-- The reply to a request, and the service after it. A refusal is a fault. -/
def handle (s : Service) (r : Request) : Reply × Service :=
  match s.dispatch r with
  | .ok answer => answer
  | .error refusal => (.fault refusal.fault, s)

/-- The service after a run of requests. -/
def run (s : Service) (rs : List Request) : Service := rs.foldl (fun s r => (s.handle r).2) s

/-- The replies to a run of requests. -/
def replies (s : Service) : List Request → List Reply
  | [] => []
  | r :: rs => (s.handle r).1 :: (s.handle r).2.replies rs

end Service

end TileIndex
