import TileIndex.Proofs.Client.Operations
import TileIndex.Proofs.Service.Commutation
import TileIndex.Proofs.Service.Registry

/-!
# Batching cannot be observed

A client of a service that it reaches directly is compared with one that holds nothing back. At
every moment the service, once the updates that wait have been written to it, is the one that the
other client would have. An operation that sends what waits keeps this service as it is, and an
operation that does not commutes with what waits. So the threshold of a client shows neither in its
results nor in what it leaves behind, as long as there is a client: a threshold for which there can
be no room is accepted by the settings, and then the construction panics.

## Main statements

- `Client.Attached.perform`: an operation has the result that it has when nothing is held back.
- `Client.lifetime_withMaxPending`: two thresholds for which there can be room cannot be told apart.
- `Client.lifetime_of_not_hasRoom`: a threshold without room shows at once.
-/

namespace TileIndex

namespace Client

/-! ## Holding nothing back -/

/-- What an operation on a plate does when every update is written at once. -/
def performAtOnce (p : PlateId) : Op → Service → Except Failure Answer × Service
  | .write header record, s => (.ok .done, s.apply ⟨p, header, record⟩)
  | .flush, s => (.ok .done, s)
  | .call call, s =>
    let (reply, s) := s.handle (.onPlate p call)
    (Answer.ofReply call reply, s)

/-- The service once the updates that wait at a client have been written. -/
def settled (c : Client) (s : Service) : Service := c.buffer.pending.foldl Service.apply s

/-- The client works on a plate that the service knows, and what waits is for that plate. -/
structure Attached (c : Client) (s : Service) : Prop where
  consistent : s.Consistent
  known : s.plates.contains c.identity.id = true
  own : ∀ u ∈ c.buffer.pending, u.plate = c.identity.id

theorem settled_of_pending_nil {c : Client} {s : Service} (h : c.buffer.pending = []) :
    c.settled s = s := by
  rw [settled, h]
  rfl

theorem Attached.settled {c : Client} {s : Service} (h : c.Attached s) :
    (c.settled s).Consistent ∧ (c.settled s).plates.contains c.identity.id = true := by
  refine ⟨h.consistent.foldl_apply _, ?_⟩
  rw [Client.settled, Service.contains_foldl_apply]
  exact h.known

theorem Attached.handle_applyUpdates {c : Client} {s : Service} (h : c.Attached s) :
    s.handle (.applyUpdates c.buffer.pending) = (.done, c.settled s) := by
  -- a batch is refused only for an update to a plate that the service does not know
  refine Service.handle_applyUpdates_of_known fun u hu => ?_
  rw [h.own u hu]
  exact h.known

/-! ## What operations do to the settled service -/

/-- A flush over a service that knows the plate succeeds and settles the service. -/
theorem Attached.flush {c : Client} {s : Service} (h : c.Attached s) :
    c.flush Channel.direct s = (.ok .done, c.drained, c.settled s) := by
  by_cases hp : c.buffer.pending = []
  · rw [flush_of_pending_nil _ hp, settled_of_pending_nil hp, drained_of_pending_nil hp]
  · rw [flush_of_pending_ne_nil _ hp]
    simp only [Channel.direct, h.handle_applyUpdates]
    rfl

theorem Attached.drained {c : Client} {s : Service} (h : c.Attached s) :
    c.drained.Attached (c.settled s) where
  consistent := h.settled.1
  known := h.settled.2
  own u hu := by simp [Client.drained] at hu

/-- Requests of others leave the client on a plate that the service knows. -/
theorem Attached.handle {c : Client} {s : Service} (h : c.Attached s) (r : Request) :
    c.Attached (s.handle r).2 where
  consistent := h.consistent.handle r
  known := Service.contains_handle h.known r
  own := h.own

/-- A request that passes what waits at a client can be handled before it is written or after. -/
theorem Attached.handle_settled {c : Client} {s : Service} (h : c.Attached s) {r : Request}
    (hr : r.Passes c.identity.id) :
    (c.settled s).handle r = ((s.handle r).1, c.settled (s.handle r).2) :=
  Service.handle_foldl_apply s h.own hr (h.consistent.ne_nextPlate h.known)

/-- An update that is put behind what waits is the last to be written. -/
theorem settled_holding (c : Client) (u : Update) (s : Service) :
    (c.holding u).settled s = (c.settled s).apply u := by
  simp [settled, holding, List.foldl_append]

theorem Attached.holding {c : Client} {s : Service} (h : c.Attached s) (header : Tile.Header)
    (record : Record) : (c.holding (c.update header record)).Attached s where
  consistent := h.consistent
  known := h.known
  own := by
    intro u hu
    rcases List.mem_append.1 hu with hu | hu
    · exact h.own u hu
    · rw [List.mem_singleton.1 hu]
      rfl

/-- An operation has the result that it has when nothing is held back, and takes the settled service
    to where it then goes. -/
theorem Attached.perform {c c' : Client} {s s' : Service} (h : c.Attached s) {op : Op}
    {result : Except Failure Answer} (hop : c.perform Channel.direct op s = (result, c', s')) :
    (result, c'.settled s') = performAtOnce c.identity.id op (c.settled s) ∧
      c'.Attached s' ∧ c'.identity = c.identity := by
  cases op with
  | write header record =>
    have hu := h.holding header record
    have hs := settled_holding c (c.update header record) s
    rw [perform_write] at hop
    split at hop
    · -- the buffer is full with this update, and is sent
      obtain ⟨rfl, rfl, rfl⟩ := by simpa using hu.flush.symm.trans hop
      refine ⟨?_, hu.drained, rfl⟩
      rw [settled_of_pending_nil (pending_drained _), hs]
      rfl
    · -- it waits, and the settled service has it already
      obtain ⟨rfl, rfl, rfl⟩ := by simpa using hop
      refine ⟨?_, hu, rfl⟩
      rw [hs]
      rfl
  | flush =>
    obtain ⟨rfl, rfl, rfl⟩ := by simpa using h.flush.symm.trans hop
    exact ⟨rfl, h.drained, rfl⟩
  | call call =>
    cases hf : call.flushesFirst with
    | true =>
      -- what waits goes out first, and after that nothing waits
      rw [perform_call_of_flush_ok _ hf h.flush] at hop
      obtain ⟨rfl, rfl, rfl⟩ := by simpa [send, Channel.direct] using hop
      exact ⟨rfl, h.drained.handle _, rfl⟩
    | false =>
      rw [perform_call_of_not_flushesFirst _ c hf] at hop
      obtain ⟨rfl, rfl, rfl⟩ := by simpa [send, Channel.direct] using hop
      refine ⟨?_, h.handle _, rfl⟩
      -- what waits stays, and the call passes it
      have hp : (Request.onPlate c.identity.id call).Passes c.identity.id := fun _ => hf
      simp only [performAtOnce, h.handle_settled hp]
      rfl

/-! ## Turns -/

/-- What happens next at a service: a client carries out an operation, or someone else makes a
    request. -/
inductive Turn
  | own (op : Op)
  | other (r : Request)
  deriving DecidableEq

/-- What a turn brings to whoever takes it. -/
inductive Outcome
  | result (result : Except Failure Answer)
  | reply (reply : Reply)

/-- Take turns at a service: what they bring, and the client and the service after them. -/
def play (c : Client) : List Turn → Service → List Outcome × Client × Service
  | [], s => ([], c, s)
  | .own op :: turns, s =>
    let (result, c, s) := c.perform Channel.direct op s
    let (outcomes, c, s) := c.play turns s
    (.result result :: outcomes, c, s)
  | .other r :: turns, s =>
    let (reply, s) := s.handle r
    let (outcomes, c, s) := c.play turns s
    (.reply reply :: outcomes, c, s)

/-- Take turns at a service when every update to a plate is written at once. -/
def playAtOnce (p : PlateId) : List Turn → Service → List Outcome × Service
  | [], s => ([], s)
  | .own op :: turns, s =>
    let (result, s) := performAtOnce p op s
    let (outcomes, s) := playAtOnce p turns s
    (.result result :: outcomes, s)
  | .other r :: turns, s =>
    let (reply, s) := s.handle r
    let (outcomes, s) := playAtOnce p turns s
    (.reply reply :: outcomes, s)

/-- Turns bring what they bring when nothing is held back, as long as whatever someone else asks
    passes what waits. -/
theorem Attached.play {c : Client} {s : Service} (h : c.Attached s) {turns : List Turn}
    (alone : ∀ r, .other r ∈ turns → r.Passes c.identity.id) :
    ((c.play turns s).1, (c.play turns s).2.1.settled (c.play turns s).2.2) =
        playAtOnce c.identity.id turns (c.settled s) ∧
      (c.play turns s).2.1.Attached (c.play turns s).2.2 := by
  -- along the turns, with the settled service as the invariant
  induction turns generalizing c s with
  | nil => exact ⟨rfl, h⟩
  | cons turn turns ih =>
    have later : ∀ r, .other r ∈ turns → r.Passes c.identity.id :=
      fun r hr => alone r (List.mem_cons_of_mem _ hr)
    cases turn with
    | own op =>
      obtain ⟨⟨result, c', s'⟩, hop⟩ : ∃ after, c.perform Channel.direct op s = after := ⟨_, rfl⟩
      obtain ⟨hr, h', hid⟩ := h.perform hop
      obtain ⟨hrest, hlast⟩ := ih h' (hid ▸ later)
      rw [hid] at hrest
      refine ⟨?_, ?_⟩
      · simp only [Client.play, playAtOnce, hop, ← hr, ← hrest]
      · simpa only [Client.play, hop] using hlast
    | other r =>
      -- the request of someone else sees the service without what waits
      have hp : r.Passes c.identity.id := alone r (List.mem_cons_self ..)
      obtain ⟨hrest, hlast⟩ := ih (h.handle r) later
      refine ⟨?_, ?_⟩
      · simp only [Client.play, playAtOnce, h.handle_settled hp, ← hrest]
      · simpa only [Client.play] using hlast

/-! ## Lifetimes -/

/-- Construct a client of a service by a request, take turns, and give the client up: what the turns
    brought, and the service that is left. -/
def lifetime (settings : Settings) (make : Request) (turns : List Turn) (s : Service) :
    Except Halt (List Outcome) × Service :=
  match construct Channel.direct settings make s with
  | (.error e, s) => (.error e, s)
  | (.ok c, s) =>
    let (outcomes, c, s) := c.play turns s
    (.ok outcomes, c.close Channel.direct s)

/-- The plate of a client that a reply opens, and why there is none, do not depend on settings for
    which there can be room. -/
theorem map_identity_ofReply {settings settings' : Settings} (h : settings.HasRoom)
    (h' : settings'.HasRoom) (operation : Operation) (reply : Reply) :
    (ofReply operation settings reply).map (·.identity.id) =
      (ofReply operation settings' reply).map (·.identity.id) := by
  cases reply with
  | opened header shortName fullName =>
    cases hid : header.id with
    | none => simp only [ofReply, hid]
    | some id =>
      rw [ofReply_opened hid operation h, ofReply_opened hid operation h']
      rfl
  | _ => rfl

/-- A lifetime in which every update is written at once. -/
def lifetimeAtOnce (settings : Settings) (make : Request) (turns : List Turn) (s : Service) :
    Except Halt (List Outcome) × Service :=
  match settings.validate with
  | .error e => (.error (.failure e), s)
  | .ok () =>
    match (ofReply make.operation settings (s.handle make).1).map (·.identity.id) with
    | .error e => (.error e, (s.handle make).2)
    | .ok p =>
      let (outcomes, s) := playAtOnce p turns (s.handle make).2
      (.ok outcomes, s)

/-- A lifetime brings what it brings when nothing is held back. -/
theorem lifetime_eq_lifetimeAtOnce (settings : Settings) (make : Request) (turns : List Turn)
    {s : Service} (h : s.Consistent)
    (alone : ∀ header shortName fullName p, (s.handle make).1 = .opened header shortName fullName →
      header.id = some p → ∀ r, .other r ∈ turns → r.Passes p) :
    lifetime settings make turns s = lifetimeAtOnce settings make turns s := by
  unfold lifetime lifetimeAtOnce
  cases hvalid : settings.validate with
  | error e => simp only [construct, hvalid]
  | ok u =>
    have hcall : Channel.direct make s = (.ok (s.handle make).1, (s.handle make).2) := rfl
    rw [construct_of_reply hvalid hcall]
    cases hc : ofReply make.operation settings (s.handle make).1 with
    | error e => rfl
    | ok c =>
      obtain ⟨header, shortName, fullName, id, hreply, hid, -, hnew⟩ := ofReply_eq_ok hc
      have hempty : c.buffer.pending = [] := by rw [hnew]; rfl
      have hplate : c.identity.id = id := by rw [hnew]
      -- the client starts with nothing that waits, on a plate that the service has just opened
      have hatt : c.Attached (s.handle make).2 :=
        ⟨h.handle make, hplate ▸ h.contains_of_opened hreply hid, by simp [hempty]⟩
      have hpass := alone header shortName fullName id hreply hid
      obtain ⟨hplay, hlast⟩ := hatt.play (hplate ▸ hpass)
      rw [settled_of_pending_nil hempty] at hplay
      simp only [Except.map, ← hplay, close, hlast.flush]

/-- Settings with a threshold that is not zero have no flaw but that of the timeout. -/
theorem flaw?_withMaxPending (settings : Settings) {n : UInt64} (hn : 1 ≤ n) :
    (settings.withMaxPending n).flaw? =
      if settings.replyTimeoutMs = 0 then some .noTimeout else none := by
  have h : n ≠ 0 := by
    rintro rfl
    exact absurd hn (by decide)
  exact if_neg h

/-- **Batching cannot be observed.** Take any service that requests can lead to, and construct a
    client of it by any request, under settings that differ in nothing but the threshold. Whatever
    the client is then asked to do, and whatever others ask of the service as long as they neither
    read nor write the plate of the client nor end a transaction or a blob of it, every result and
    every reply is the same under both thresholds, and so is the service once the client has been
    given up. There must be room for what either threshold holds back. -/
theorem lifetime_withMaxPending (root : String) (past : List Request) (settings : Settings)
    {m n : UInt64} (hm : 1 ≤ m) (hn : 1 ≤ n) (hroom : (settings.withMaxPending m).HasRoom)
    (hroom' : (settings.withMaxPending n).HasRoom) (make : Request) (turns : List Turn)
    (alone : ∀ header shortName fullName p,
      (((Service.new root).run past).handle make).1 = .opened header shortName fullName →
        header.id = some p → ∀ r, .other r ∈ turns → r.Passes p) :
    lifetime (settings.withMaxPending m) make turns ((Service.new root).run past) =
      lifetime (settings.withMaxPending n) make turns ((Service.new root).run past) := by
  have hs : ((Service.new root).run past).Consistent := (Service.Consistent.new root).run past
  rw [lifetime_eq_lifetimeAtOnce _ _ _ hs alone, lifetime_eq_lifetimeAtOnce _ _ _ hs alone]
  unfold lifetimeAtOnce Settings.validate
  rw [flaw?_withMaxPending settings hm, flaw?_withMaxPending settings hn,
    map_identity_ofReply hroom hroom']

/-- A client that holds up to two updates back, while someone else asks about another plate. -/
theorem lifetime_withMaxPending_three :
    let plates :=
      (Service.new "/plates").run [.createPlate "mars" (.unassigned 256 "png" .rgba .uint8)]
    let turns : List Turn :=
      [.own (.write ⟨0, 0, 1, 1, "png"⟩ (.stored 0 0 9)), .other (.onPlate 2 .numLevels),
        .own (.call (.beginTransaction "base" none)),
        .own (.write ⟨0, 0, 1, 1, "png"⟩ (.stored 0 9 9)),
        .own (.call (.read ⟨0, 0, 1⟩ 1 true)), .own (.write ⟨1, 0, 1, 1, "png"⟩ (.stored 1 0 9))]
    (Request.onPlate 2 .numLevels).Passes 1 ∧ (Settings.standard.withMaxPending 3).HasRoom ∧
      (Settings.standard.withMaxPending 1).HasRoom ∧
      lifetime (Settings.standard.withMaxPending 3) (.openPlate "mars") turns plates =
        lifetime (Settings.standard.withMaxPending 1) (.openPlate "mars") turns plates := by
  intro plates turns
  have hpass : (Request.onPlate 2 .numLevels).Passes 1 := fun h => absurd h (by decide)
  have hthree : (Settings.standard.withMaxPending 3).HasRoom := by decide
  have hone : (Settings.standard.withMaxPending 1).HasRoom := by decide
  refine ⟨hpass, hthree, hone,
    lifetime_withMaxPending _ _ _ (by decide) (by decide) hthree hone _ _ ?_⟩
  intro header shortName fullName p hr hid r hmem
  -- the client gets the first plate
  obtain ⟨rfl, -, -⟩ := Reply.opened.inj hr
  obtain rfl : 1 = p := Option.some.inj hid
  obtain rfl : r = .onPlate 2 .numLevels := by simpa [turns] using hmem
  exact hpass

/-- Without room a construction panics once its request has opened a plate, and no turn is taken. -/
theorem lifetime_of_not_hasRoom {settings : Settings} {make : Request} {s : Service}
    {header : Plate.Header} {shortName fullName : String} {p : PlateId}
    (hvalid : settings.validate = .ok ()) (hroom : ¬settings.HasRoom)
    (hreply : (s.handle make).1 = .opened header shortName fullName) (hid : header.id = some p)
    (turns : List Turn) :
    lifetime settings make turns s = (.error (.panic .capacityOverflow), (s.handle make).2) := by
  -- the request is handled before the buffer is made
  have hcall : Channel.direct make s = (.ok (s.handle make).1, (s.handle make).2) := rfl
  rw [lifetime, construct_of_reply hvalid hcall, hreply,
    ofReply_opened_of_not_hasRoom hid _ hroom]

/-- The settings accept the greatest threshold, but no client can be constructed with it, so a
    creation and a flush tell it apart from a threshold of one. -/
theorem not_forall_lifetime_withMaxPending :
    ¬∀ (root : String) (past : List Request) (settings : Settings) (m n : UInt64) (make : Request)
      (turns : List Turn), 1 ≤ m → 1 ≤ n →
        (∀ header shortName fullName p,
          (((Service.new root).run past).handle make).1 = .opened header shortName fullName →
            header.id = some p → ∀ r, .other r ∈ turns → r.Passes p) →
        lifetime (settings.withMaxPending m) make turns ((Service.new root).run past) =
          lifetime (settings.withMaxPending n) make turns ((Service.new root).run past) := by
  intro h
  obtain ⟨create, hcreate⟩ :
    ∃ create, Request.createPlate "mars" (.unassigned 256 "png" .rgba .uint8) = create := ⟨_, rfl⟩
  have hsame := h "/plates" [] .standard 1 18446744073709551615 create [.own .flush] (by decide)
    (by decide) (by simp)
  have hone : (lifetime (Settings.standard.withMaxPending 1) create [.own .flush]
      (Service.new "/plates")).1 = .ok [.result (.ok .done)] := by rw [← hcreate]; rfl
  -- the plate is created, but there can be no room for the updates that might wait
  have hmost : lifetime (Settings.standard.withMaxPending 18446744073709551615) create [.own .flush]
      (Service.new "/plates") = (.error (.panic .capacityOverflow), _) :=
    lifetime_of_not_hasRoom rfl (by decide) (by rw [← hcreate]; rfl) rfl _
  have hfirst := congrArg Prod.fst hsame
  rw [Service.run, List.foldl_nil, hone, hmost] at hfirst
  cases hfirst

end Client

end TileIndex
