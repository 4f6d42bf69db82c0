import TileIndex.Client.Connect
import TileIndex.Proofs.Client.Operations
import TileIndex.Proofs.Service.Names

/-!
# Construction by address

A client is constructed in steps: the settings are checked, the address is read, a connection is
made, and one request goes over it. The first step that fails is the end of it. There is a client if
all succeed, the reply is an opened plate with an identifier, and there is room for the updates that
the client may hold back; otherwise nothing is left to be given up. Settings are not checked for the
room, so for want of it a construction panics after its request was carried out.

## Main statements

- `Client.exists_constructing`: what a construction asks of a connector, and what comes of it.
- `Client.constructs_at`: construction is all or nothing, and a plate that was created is the one
  that is opened under its name ever after.
-/

universe u v

namespace TileIndex

variable {κ : Type v} {σ : Type u}

/-! ## Records -/

/-- What is asked of a connector and its channels, and what comes of it. -/
inductive Contact (κ : Type v)
  | connected (address : Address) (settings : Settings) (result : Except Failure κ)
  | handed (connection : κ) (exchange : Exchange)

/-- A connector with a record of what is asked of it and its channels. -/
def Connector.recorded (via : Connector κ σ) : Connector κ (σ × List (Contact κ)) where
  connect address settings s :=
    let (result, s') := via.connect address settings s.1
    (result, s', s.2 ++ [.connected address settings result])
  channel connection r s :=
    let (outcome, s') := via.channel connection r s.1
    (outcome, s', s.2 ++ [.handed connection ⟨r, outcome⟩])

/-- Connections to a service that requests are handed to directly. -/
def Connector.direct : Connector Unit Service where
  connect _ _ s := (.ok (), s)
  channel _ := Channel.direct

namespace Client

/-! ## Steps -/

/-- The course of a construction over one request for the name in the address: the contacts, the
    result, and the state after it. -/
inductive Constructing (via : Connector κ σ) (url : String) (settings : Settings)
    (request : String → Request) (s : σ) :
    List (Contact κ) → Except Halt (Client × κ) → σ → Prop
  /-- The settings cannot be used. -/
  | unusable {e : Failure} : settings.validate = .error e →
      Constructing via url settings request s [] (.error (.failure e)) s
  /-- The address cannot be read. -/
  | unreadable {e : Failure} : settings.validate = .ok () → Address.parse url = .error e →
      Constructing via url settings request s [] (.error (.failure e)) s
  /-- No connection can be made. -/
  | unconnected {a : Address} {e : Failure} {s' : σ} : settings.validate = .ok () →
      Address.parse url = .ok a → via.connect a settings s = (.error e, s') →
      Constructing via url settings request s [.connected a settings (.error e)]
        (.error (.failure e)) s'
  /-- The request is handed over, and what comes of it makes the result. -/
  | answered {a : Address} {k : κ} {outcome : Except Failure Reply} {s₁ s' : σ} :
      settings.validate = .ok () → Address.parse url = .ok a →
      via.connect a settings s = (.ok k, s₁) →
      via.channel k (request a.name) s₁ = (outcome, s') →
      Constructing via url settings request s
        [.connected a settings (.ok k), .handed k ⟨request a.name, outcome⟩]
        (((outcome.mapError .failure).bind (ofReply (request a.name).operation settings)).map (·, k))
        s'

/-- Construct a client from the reply to a request for the name in an address. -/
def constructFor (via : Connector κ σ) (url : String) (settings : Settings)
    (request : String → Request) (s : σ) : Except Halt (Client × κ) × σ :=
  constructAt via url settings (fun ch name => construct ch settings (request name)) s

/-- Opening a plate is construction from a request to open it. -/
theorem openAt_eq (via : Connector κ σ) (url : String) (settings : Settings) (s : σ) :
    openAt via url settings s = constructFor via url settings .openPlate s := rfl

/-- Creating a plate is construction from a request to create it, with no identifier. -/
theorem createAt_eq (via : Connector κ σ) (url : String) (settings : Settings)
    (header : Plate.Header) (s : σ) :
    createAt via url settings header s =
      constructFor via url settings (.createPlate · { header with id := none }) s := rfl

variable {via : Connector κ σ} {url : String} {settings : Settings} {request : String → Request}
  {s s' : σ} {contacts : List (Contact κ)} {result : Except Halt (Client × κ)}

/-- A construction goes by its course, over a recorded connector as over the connector itself. -/
theorem Constructing.constructFor_eq
    (h : Constructing via url settings request s contacts result s') :
    constructFor via url settings request s = (result, s') ∧
      ∀ log, constructFor via.recorded url settings request (s, log) =
        (result, s', log ++ contacts) := by
  unfold constructFor constructAt
  cases h with
  | unusable hinvalid => simp only [hinvalid, List.append_nil, implies_true, and_self]
  | unreadable hvalid hurl => simp only [hvalid, hurl, List.append_nil, implies_true, and_self]
  | unconnected hvalid hurl hconnect =>
    simp only [hvalid, hurl, hconnect, Connector.recorded, implies_true, and_self]
  | answered hvalid hurl hconnect hcall =>
    refine ⟨?_, fun log => ?_⟩
    · simp only [hvalid, hurl, hconnect, construct_of_validate hvalid hcall]
    · simp only [hvalid, hurl, hconnect, Connector.recorded]
      rw [construct_of_validate hvalid (by simp only [hcall]; rfl)]
      simp only [List.append_assoc, List.cons_append, List.nil_append]

/-- There is one course that a construction can take. -/
theorem Constructing.unique {contacts' : List (Contact κ)} {result' : Except Halt (Client × κ)}
    {s'' : σ} (h : Constructing via url settings request s contacts result s')
    (h' : Constructing via url settings request s contacts' result' s'') :
    result = result' ∧ contacts = contacts' ∧ s' = s'' := by
  -- over a recorded connector a construction leaves its contacts behind, so both have left the same
  have hlog := (h.constructFor_eq.2 []).symm.trans (h'.constructFor_eq.2 [])
  obtain ⟨hresult, hrest⟩ := Prod.mk.inj hlog
  obtain ⟨hstate, hcontacts⟩ := Prod.mk.inj hrest
  exact ⟨hresult, hcontacts, hstate⟩

/-- Every construction goes by the course: it asks nothing more of a connector. -/
theorem exists_constructing (via : Connector κ σ) (url : String) (settings : Settings)
    (request : String → Request) (s : σ) :
    ∃ contacts result s', Constructing via url settings request s contacts result s' := by
  cases hvalid : settings.validate with
  | error e => exact ⟨_, _, _, .unusable hvalid⟩
  | ok _ =>
    cases hurl : Address.parse url with
    | error e => exact ⟨_, _, _, .unreadable hvalid hurl⟩
    | ok a =>
      obtain ⟨⟨connection, s₁⟩, hconnect⟩ : ∃ after, via.connect a settings s = after := ⟨_, rfl⟩
      cases connection with
      | error e => exact ⟨_, _, _, .unconnected hvalid hurl hconnect⟩
      | ok k => exact ⟨_, _, _, .answered hvalid hurl hconnect rfl⟩

/-! ## All or nothing -/

/-- Give up what a construction has made, if it has made a client. -/
def abandon (via : Connector κ σ) : Except Halt (Client × κ) → σ → σ
  | .ok (c, k), s => c.close (via.channel k) s
  | .error _, s => s

/-- The reply to a request that was handed over is an opened plate with an identifier. -/
def BringsPlate (contacts : List (Contact κ)) : Prop :=
  ∃ k r header shortName fullName id,
    .handed k ⟨r, .ok (.opened header shortName fullName)⟩ ∈ contacts ∧ header.id = some id

/-- What can be said of a construction over one request for the name in the address, from its
    contacts, its result and the state after it. -/
structure AllOrNothing (via : Connector κ σ) (url : String) (settings : Settings)
    (request : String → Request) (s : σ) (contacts : List (Contact κ))
    (result : Except Halt (Client × κ)) (s' : σ) : Prop where
  /-- Unusable settings are reported whatever the address is, and nothing is asked of the connector. -/
  unusable : ∀ e, settings.validate = .error e →
    result = .error (.failure e) ∧ contacts = [] ∧ s' = s
  /-- So is an address that cannot be read, if the settings can be used. -/
  unreadable : ∀ e, settings.validate = .ok () → Address.parse url = .error e →
    result = .error (.failure e) ∧ contacts = [] ∧ s' = s
  /-- Nothing is handed over without a connection. -/
  unconnected : ∀ a e s₁, settings.validate = .ok () → Address.parse url = .ok a →
    via.connect a settings s = (.error e, s₁) →
      result = .error (.failure e) ∧ contacts = [.connected a settings (.error e)] ∧ s' = s₁
  /-- Once there is a connection, the request is handed over, and nothing else is. -/
  once : ∀ a k s₁, settings.validate = .ok () → Address.parse url = .ok a →
    via.connect a settings s = (.ok k, s₁) →
      ∃ outcome, via.channel k (request a.name) s₁ = (outcome, s') ∧
        contacts = [.connected a settings (.ok k), .handed k ⟨request a.name, outcome⟩]
  /-- There is a client exactly if the reply is an opened plate with an identifier and there is
      room. -/
  succeeds : (∃ made, result = .ok made) ↔ settings.HasRoom ∧ BringsPlate contacts
  /-- It panics exactly if the reply is such and there is no room. -/
  panics : (∃ p, result = .error (.panic p)) ↔ ¬settings.HasRoom ∧ BringsPlate contacts
  /-- The client is that of the reply. Nothing waits, and its threshold is that of the settings. -/
  made : ∀ c k, result = .ok (c, k) → ∃ r header shortName fullName id,
    .handed k ⟨r, .ok (.opened header shortName fullName)⟩ ∈ contacts ∧ header.id = some id ∧
      c.identity = ⟨id, shortName, fullName⟩ ∧ c.header = header ∧ c.buffer.pending = [] ∧
        c.buffer.threshold = settings.maxPending.toNat
  /-- Nothing more is handed over when what was made is given up. -/
  abandoned : ∀ log, abandon via.recorded result (s', log) = (s', log)

/-- The client that a construction has made, from the reply that made it. -/
theorem exists_opened_of_answered {ch : Channel σ} {r : Request} {outcome : Except Failure Reply}
    {k k' : κ} {c : Client} (hvalid : settings.validate = .ok ()) (hcall : ch r s = (outcome, s'))
    (h : ((outcome.mapError .failure).bind (ofReply r.operation settings)).map (·, k) =
      .ok (c, k')) :
    k' = k ∧ settings.HasRoom ∧ ∃ header shortName fullName id,
      outcome = .ok (.opened header shortName fullName) ∧
        header.id = some id ∧ c.identity = ⟨id, shortName, fullName⟩ ∧ c.header = header ∧
          c.buffer.pending = [] ∧ c.buffer.threshold = settings.maxPending.toNat := by
  obtain ⟨made, hmade⟩ :
    ∃ made, (outcome.mapError .failure).bind (ofReply r.operation settings) = made := ⟨_, rfl⟩
  have hconstruct := construct_of_validate hvalid hcall
  rw [hmade] at h hconstruct
  cases made with
  | error e => cases h
  | ok made =>
    obtain ⟨rfl, rfl⟩ := Prod.mk.inj (Except.ok.inj h)
    obtain ⟨hpending, hthreshold⟩ := buffer_of_construct hconstruct
    -- a channel that fails makes no client
    cases outcome with
    | error e => cases hmade
    | ok reply =>
      obtain ⟨header, shortName, fullName, id, rfl, hid, hroom, rfl⟩ := ofReply_eq_ok hmade
      exact ⟨rfl, hroom, header, shortName, fullName, id, rfl, hid, rfl, rfl, hpending, hthreshold⟩

/-- The client that a construction has made is that of the reply, and there was room for its buffer. -/
theorem Constructing.made (h : Constructing via url settings request s contacts result s')
    (c : Client) (k : κ) (hmade : result = .ok (c, k)) :
    settings.HasRoom ∧ ∃ r header shortName fullName id,
      .handed k ⟨r, .ok (.opened header shortName fullName)⟩ ∈ contacts ∧ header.id = some id ∧
        c.identity = ⟨id, shortName, fullName⟩ ∧ c.header = header ∧ c.buffer.pending = [] ∧
          c.buffer.threshold = settings.maxPending.toNat := by
  cases h with
  | unusable | unreadable | unconnected => cases hmade
  | answered hvalid hurl hconnect hcall =>
    obtain ⟨rfl, hroom, header, shortName, fullName, id, rfl, hid, hclient⟩ :=
      exists_opened_of_answered hvalid hcall hmade
    exact ⟨hroom, _, header, shortName, fullName, id,
      List.mem_cons_of_mem _ (List.mem_singleton_self _), hid, hclient⟩

/-- A construction that panics had a plate opened, and no room for the buffer of its client. -/
theorem Constructing.panicked (h : Constructing via url settings request s contacts result s')
    {p : Panic} (hpanic : result = .error (.panic p)) :
    ¬settings.HasRoom ∧ BringsPlate contacts := by
  cases h with
  | unusable | unreadable | unconnected => cases hpanic
  | @answered a _ outcome _ _ hvalid hurl hconnect hcall =>
    -- a failure of the channel is an error and no panic
    cases outcome with
    | error e => cases hpanic
    | ok reply =>
      change (ofReply (request a.name).operation settings reply).map (·, _) = .error (.panic p)
        at hpanic
      have hreply := error_of_map_eq_error hpanic
      obtain ⟨-, hroom, header, shortName, fullName, id, rfl, hid⟩ := ofReply_eq_panic hreply
      exact ⟨hroom, _, _, header, shortName, fullName, id,
        List.mem_cons_of_mem _ (List.mem_singleton_self _), hid⟩

/-- What a construction comes to once its request has opened a plate: a client if there is room, and
    otherwise a panic. -/
theorem Constructing.result_of_bringsPlate
    (h : Constructing via url settings request s contacts result s') (hplate : BringsPlate contacts) :
    (settings.HasRoom → ∃ made, result = .ok made) ∧
      (¬settings.HasRoom → ∃ p, result = .error (.panic p)) := by
  obtain ⟨k, r, header, shortName, fullName, id, hmem, hid⟩ := hplate
  cases h with
  -- nothing was handed over on these courses, so there was no reply
  | unusable | unreadable | unconnected => simp at hmem
  | answered hvalid hurl hconnect hcall =>
    obtain ⟨rfl, -, rfl⟩ : k = _ ∧ r = _ ∧ _ = _ := by simpa using hmem
    refine ⟨fun hroom => ?_, fun hroom => ?_⟩
    · exact ⟨_, congrArg (Except.map (·, _)) (ofReply_opened hid _ hroom _ _)⟩
    · exact ⟨_, congrArg (Except.map (·, _)) (ofReply_opened_of_not_hasRoom hid _ hroom _ _)⟩

/-- Every course that a construction can take is all or nothing. -/
theorem Constructing.allOrNothing
    (h : Constructing via url settings request s contacts result s') :
    AllOrNothing via url settings request s contacts result s' := by
  refine
    { unusable := ?unusable
      unreadable := ?unreadable
      unconnected := ?unconnected
      once := ?once
      succeeds := ⟨?client, fun hopened => (h.result_of_bringsPlate hopened.2).1 hopened.1⟩
      panics := ⟨?panicked, fun hopened => (h.result_of_bringsPlate hopened.2).2 hopened.1⟩
      made := fun c k hmade => (h.made c k hmade).2
      abandoned := ?abandoned }
  case unusable => exact fun e he => h.unique (.unusable he)
  case unreadable => exact fun e hvalid he => h.unique (.unreadable hvalid he)
  case unconnected =>
    exact fun a e s₁ hvalid hurl hconnect => h.unique (.unconnected hvalid hurl hconnect)
  case once =>
    intro a k s₁ hvalid hurl hconnect
    obtain ⟨⟨outcome, s₂⟩, hcall⟩ : ∃ after, via.channel k (request a.name) s₁ = after := ⟨_, rfl⟩
    obtain ⟨-, hcontacts, rfl⟩ := h.unique (.answered hvalid hurl hconnect hcall)
    exact ⟨outcome, hcall, hcontacts⟩
  case client =>
    rintro ⟨⟨c, k⟩, hmade⟩
    obtain ⟨hroom, r, header, shortName, fullName, id, hmem, hid, -⟩ := h.made c k hmade
    exact ⟨hroom, k, r, header, shortName, fullName, id, hmem, hid⟩
  case panicked =>
    rintro ⟨p, hpanic⟩
    exact h.panicked hpanic
  case abandoned =>
    intro log
    cases hresult : result with
    | error e => rfl
    | ok made =>
      -- a new client has nothing to flush when it is closed
      obtain ⟨c, k⟩ := made
      obtain ⟨-, r, header, shortName, fullName, id, -, -, -, -, hpending, -⟩ := h.made c k hresult
      rw [abandon, close, flush_of_pending_nil _ hpending]

/-! ## Opening what was created -/

/-- A plate that was created over direct connections to a service is opened under its name ever
    after, by whatever address and with whatever settings there is room for, as it was created. -/
def Reopens (s : Service) : Prop :=
  ∀ url settings header c s' a, createAt .direct url settings header s = (.ok (c, ()), s') →
    Address.parse url = .ok a → ∀ later url' settings' a', settings'.validate = .ok () →
      settings'.HasRoom → Address.parse url' = .ok a' → a'.name = a.name →
        ∃ c', openAt .direct url' settings' (s'.run later) = (.ok (c', ()), s'.run later) ∧
          c'.identity = c.identity ∧ c'.header = c.header

/-- A construction over a direct connection is a construction from the reply of the service. -/
theorem constructFor_direct {a : Address} (hvalid : settings.validate = .ok ())
    (hurl : Address.parse url = .ok a) (request : String → Request) (s : Service) :
    constructFor .direct url settings request s =
      ((ofReply (request a.name).operation settings (s.handle (request a.name)).1).map (·, ()),
        (s.handle (request a.name)).2) := by
  have hcall : Connector.direct.channel () (request a.name) s =
      (.ok (s.handle (request a.name)).1, (s.handle (request a.name)).2) := rfl
  -- the connection is always made and the channel always replies
  exact (Constructing.answered hvalid hurl rfl hcall).constructFor_eq.1

/-- The plates that a service lists have the headers and the names with which they were created. -/
theorem reopens_of_enrolled {root : String} {log : Service.Transcript} {s : Service}
    (h : Service.Enrolled root log s) : Reopens s := by
  intro url settings header c s' a hcreate hurl later url' settings' a' hvalid' hroom' hurl' hname
  have hvalid : settings.validate = .ok () := by
    cases hsettings : settings.validate with
    | ok _ => rfl
    | error e => simp [createAt, constructAt, hsettings] at hcreate
  rw [createAt_eq, constructFor_direct hvalid hurl] at hcreate
  obtain ⟨hmade, rfl⟩ := Prod.mk.inj hcreate
  obtain ⟨asked, hasked⟩ : ∃ asked : Plate.Header, { header with id := none } = asked := ⟨_, rfl⟩
  simp only [hasked] at hmade ⊢
  obtain ⟨reply, hreply⟩ : ∃ reply, (s.handle (.createPlate a.name asked)).1 = reply := ⟨_, rfl⟩
  have hcall : Channel.direct (.createPlate a.name asked) s =
      (.ok reply, (s.handle (.createPlate a.name asked)).2) := by
    rw [← hreply]
    rfl
  rw [hreply] at hmade
  obtain ⟨-, -, assigned, shortName, fullName, id, hopened, hid, hidentity, hheader, -⟩ :=
    exists_opened_of_answered hvalid hcall hmade
  obtain rfl := Except.ok.inj hopened
  -- the creation is in the transcript from here on, whatever is requested later
  have hfounded := h.founding (s.founding (.createPlate a.name asked))
  rw [hreply] at hfounded
  have hmem : ⟨a.name, asked, .opened assigned shortName fullName⟩ ∈ Service.creations
      (log ++ [(.createPlate a.name asked, .opened assigned shortName fullName)]) := by
    rw [Service.creations_concat]
    exact List.mem_append_right _ (List.mem_singleton_self _)
  -- whatever was requested since, the creation still decides what is opened
  have hopen := (hfounded.run later).handle_openPlate (Service.mem_creations_append hmem _)
  refine ⟨⟨⟨id, shortName, fullName⟩, assigned, .empty settings'.maxPending.toNat⟩, ?_,
    hidentity.symm, hheader.symm⟩
  rw [openAt_eq, constructFor_direct hvalid' hurl', hname, hopen, ofReply_opened hid _ hroom']
  rfl

/-- **Construction is all or nothing**, by any address, with any settings and over any connector,
    whether a plate is opened or created, and if it panics nothing more is handed over either. The
    header of a plate to be created is handed over without an identifier. A plate that was created
    in a service with any past is the one that is opened under its name ever after. -/
theorem constructs_at (via : Connector κ σ) (url : String) (settings : Settings)
    (header : Plate.Header) (s : σ) (root : String) (past : List Request) :
    (∃ contacts result s', AllOrNothing via url settings .openPlate s contacts result s' ∧
      openAt via url settings s = (result, s') ∧
        ∀ log, openAt via.recorded url settings (s, log) = (result, s', log ++ contacts)) ∧
    (∃ contacts result s',
      AllOrNothing via url settings (.createPlate · { header with id := none }) s contacts result s' ∧
        createAt via url settings header s = (result, s') ∧
          ∀ log, createAt via.recorded url settings header (s, log) =
            (result, s', log ++ contacts)) ∧
    Reopens ((Service.new root).run past) := by
  obtain ⟨opening, opened, s₁, hopen⟩ := exists_constructing via url settings .openPlate s
  obtain ⟨creating, created, s₂, hcreate⟩ :=
    exists_constructing via url settings (.createPlate · { header with id := none }) s
  exact ⟨⟨opening, opened, s₁, hopen.allOrNothing, hopen.constructFor_eq⟩,
    ⟨creating, created, s₂, hcreate.allOrNothing, hcreate.constructFor_eq⟩,
    reopens_of_enrolled ((Service.Enrolled.new root).run past)⟩

/-- An opened plate with an identifier is not enough for a client: with the greatest threshold,
    which the settings accept, a plate is created and the construction panics. -/
theorem not_forall_succeeds :
    ¬∀ (url : String) (settings : Settings) (header : Plate.Header) (s : Service),
      (∃ made, (createAt .direct url settings header s).1 = .ok made) ↔
        BringsPlate (createAt Connector.direct.recorded url settings header (s, [])).2.2 := by
  intro h
  obtain ⟨settings, hsettings⟩ :
    ∃ settings, Settings.standard.withMaxPending 18446744073709551615 = settings := ⟨_, rfl⟩
  have hiff := h "pf://orbit1/mars" settings (.unassigned 256 "png" .rgba .uint8) (.new "/plates")
  obtain ⟨opened, hopened⟩ : ∃ opened : Plate.Header,
    { Plate.Header.unassigned 256 "png" .rgba .uint8 with id := some 1 } = opened := ⟨_, rfl⟩
  have hcontacts : (createAt Connector.direct.recorded "pf://orbit1/mars" settings
      (.unassigned 256 "png" .rgba .uint8) (Service.new "/plates", [])).2.2 =
        [.connected ⟨"localhost", 5672, "orbit1", "mars"⟩ settings (.ok ()),
          .handed () ⟨.createPlate "mars" (.unassigned 256 "png" .rgba .uint8),
            .ok (.opened opened "mars" "/plates/mars")⟩] := by
    rw [← hsettings, ← hopened]
    rfl
  have hpanic : (createAt .direct "pf://orbit1/mars" settings (.unassigned 256 "png" .rgba .uint8)
      (Service.new "/plates")).1 = .error (.panic .capacityOverflow) := by
    rw [← hsettings]
    rfl
  -- the reply is an opened plate with an identifier
  have hplate : BringsPlate (createAt Connector.direct.recorded "pf://orbit1/mars" settings
      (.unassigned 256 "png" .rgba .uint8) (Service.new "/plates", [])).2.2 := by
    rw [hcontacts]
    exact ⟨(), _, opened, "mars", "/plates/mars", 1,
      List.mem_cons_of_mem _ (List.mem_singleton_self _), by rw [← hopened]⟩
  obtain ⟨made, hmade⟩ := hiff.2 hplate
  rw [hpanic] at hmade
  cases hmade

/-- The identifier of the caller does not count, and another address with the name opens the plate. -/
example :
    let header : Plate.Header := { Plate.Header.unassigned 256 "png" .rgba .uint8 with id := some 9 }
    let created := createAt .direct "pf://orbit1/mars" .standard header (Service.new "/plates")
    let opened := openAt .direct "pf://host:99/orbit2/mars" .standard created.2
    created.1.map (·.1.identity) = .ok ⟨1, "mars", "/plates/mars"⟩ ∧
      opened.1.map (·.1.identity) = .ok ⟨1, "mars", "/plates/mars"⟩ :=
  ⟨rfl, rfl⟩

end Client

end TileIndex
