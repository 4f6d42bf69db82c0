import TileIndex.Failure
import TileIndex.Service

/-!
# Channels

A channel hands one request over and brings its reply back, or fails. A fault of the service is a
reply; a failure is the channel's own. What a channel does may depend on everything that went over
it before, so it acts on a state.
-/

universe u

namespace TileIndex

/-- A way to hand requests over, acting on a state. -/
abbrev Channel (σ : Type u) := Request → σ → Except Failure Reply × σ

/-- A request that was handed over, and what came of it. -/
structure Exchange where
  request : Request
  outcome : Except Failure Reply

/-- An outcome laid down for a coming request: for the first one of an operation, given by its name,
    or for the first one at all. -/
structure Plan where
  operation : Option String
  outcome : Except Failure Reply

/-- Whether a plan is for a request. -/
def Plan.isFor (p : Plan) (r : Request) : Bool := p.operation.all (· = r.operation.name)

namespace Channel

/-- The channel that hands requests directly to a service. -/
def direct : Channel Service := fun r s =>
  let (reply, s) := s.handle r
  (.ok reply, s)

/-- A channel with a log of what went over it. -/
def logged {σ : Type u} (ch : Channel σ) : Channel (σ × List Exchange) := fun r (s, log) =>
  let (outcome, s) := ch r s
  (outcome, s, log ++ [⟨r, outcome⟩])

/-- A channel with plans. A request takes the first plan for it, if there is one, and is then not
    handed over. -/
def planned {σ : Type u} (ch : Channel σ) : Channel (σ × List Plan) := fun r (s, plans) =>
  -- the first plan for the request is used up, and the others wait
  match plans.find? (·.isFor r) with
  | some p => (p.outcome, s, plans.eraseP (·.isFor r))
  | none =>
    let (outcome, s) := ch r s
    (outcome, s, plans)

end Channel

end TileIndex
