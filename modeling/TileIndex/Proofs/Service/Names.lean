import Mathlib.Algebra.Group.Int.Defs
import TileIndex.Proofs.Service.Log

/-!
# Names of plates

A service finds its plates by name and by identifier. A plate enters both tables when it is created
and is never taken out or replaced, so what the tables say is what the transcript of all requests
tells of creations, and a plate is opened under its name with the reply that its creation got.

## Main statements

- `Service.founding`: a request creates a plate, or leaves names and headers alone.
- `Service.Enrolled.run`: the tables keep what the transcript tells of creations.
- `Service.register_run`: the register of plates stays consistent.
-/

namespace TileIndex

namespace Service

/-! ## Creations -/

/-- The creation of a plate: its name, the header that was asked for, and the reply. -/
structure Creation where
  name : String
  asked : Plate.Header
  reply : Reply

/-- The creation that a request has come to. -/
def creation? : Request × Reply → Option Creation
  | (.createPlate name header, reply) =>
    if reply.isFault then none else some ⟨name, header, reply⟩
  | _ => none

/-- The creations that a transcript tells of, in order. -/
def creations (log : Transcript) : List Creation := log.filterMap creation?

/-- The identifier that a plate was given. -/
def Creation.plate? (c : Creation) : Option PlateId :=
  match c.reply with
  | .opened header _ _ => header.id
  | _ => none

theorem creations_concat (log : Transcript) (e : Request × Reply) :
    creations (log ++ [e]) = creations log ++ (creation? e).toList :=
  filterMap_concat creation? log e

/-! ## What one request does to the tables -/

/-- What an open request for a plate is answered with. -/
def sign? (s : Service) (p : PlateId) : Option Reply := (s.plates.find? p).map Store.opened

/-- What a request and its reply tell of creations, and what becomes of the two tables. -/
inductive Founding (s : Service) (e : Request × Reply) (s' : Service) : Prop
  | still (founds : creation? e = none) (root : s'.root = s.root) (names : s'.names = s.names)
      (next : s'.nextPlate = s.nextPlate) (signs : ∀ p, s'.sign? p = s.sign? p)
  | founded {name : String} {header : Plate.Header}
      (founds : creation? e = some ⟨name, header, (s.founded name header).opened⟩)
      (valid : isPlateName name = true) (sized : Plate.isTileSize header.tileSize = true)
      (free : s.names.contains name = false) (root : s'.root = s.root)
      (names : s'.names = s.names.insert name s.nextPlate)
      (next : Store.successor? s.nextPlate = some s'.nextPlate)
      (signs : ∀ p, s'.sign? p =
        if p = s.nextPlate then some (s.founded name header).opened else s.sign? p)

variable {s s' : Service} {log : Transcript} {root : String} {p : PlateId} {c : Creation}

/-- A batch changes no plate in what an open request is answered with. -/
theorem sign?_foldl_apply (s : Service) (us : List Update) (p : PlateId) :
    sign? (us.foldl apply s) p = s.sign? p := by
  rw [sign?, sign?, find?_foldl_apply, Option.map_map]
  congr 1
  funext st
  exact st.opened_foldl_apply _

/-- A store that is put in is described as it is, and the others as before. -/
theorem sign?_of_insert {st : Store} (h : s'.plates = s.plates.insert p st) (q : PlateId) :
    s'.sign? q = if q = p then some st.opened else s.sign? q := by
  rw [sign?, h, SortedMap.find?_insert]
  split <;> rfl

/-- What a granted request does to the two tables. -/
theorem founding_of_granted {r : Request} {reply : Reply} (g : Granted s r reply s') :
    Founding s (r, reply) s' := by
  cases g with
  -- opening and writing leave both tables alone
  | opened named found => exact .still rfl rfl rfl rfl fun p => rfl
  | created valid sized free next =>
    exact .founded rfl valid sized free rfl rfl next (sign?_of_insert rfl)
  | @written us known =>
    rw [foldl_apply_eq]
    exact .still rfl rfl rfl rfl (s.sign?_foldl_apply us)
  | @served q call st st' reply found granted =>
    refine .still rfl rfl rfl rfl fun p => ?_
    -- the plate that was called keeps its header and its names
    rw [sign?_of_insert rfl, Store.opened_of_serve granted]
    by_cases hp : p = q
    · rw [if_pos hp, hp, sign?, found]
      rfl
    · rw [if_neg hp]

/-- **A request creates a plate, or leaves names and headers alone.** -/
theorem founding (s : Service) (r : Request) : Founding s (r, (s.handle r).1) (s.handle r).2 := by
  rcases s.handle_cases r with g | ⟨refusal, e⟩
  · exact founding_of_granted g
  · -- a request that gets a fault creates nothing, whatever it asks for
    rw [e]
    refine .still ?_ rfl rfl rfl fun p => rfl
    cases r <;> rfl

/-! ## What the tables keep -/

/-- What a creation comes to: the reply has the header that was asked for with the identifier of the
    plate, its name, and where it is kept. -/
structure Creation.Founds (c : Creation) (root : String) (p : PlateId) : Prop where
  reply : c.reply = .opened { c.asked with id := some p } c.name (root ++ "/" ++ c.name)
  valid : isPlateName c.name = true
  sized : Plate.isTileSize c.asked.tileSize = true

/-- The reply to a creation tells the identifier of the plate. -/
theorem Creation.Founds.plate? (h : c.Founds root p) : c.plate? = some p := by
  rw [Creation.plate?, h.reply]

/-- The two tables of a service keep the creations that a transcript tells of. Identifiers are
    counted from one in the order of the creations. -/
structure Enrolled (root : String) (log : Transcript) (s : Service) : Prop where
  rooted : s.root = root
  counted : s.nextPlate.toInt = (creations log).length + 1
  numbered : (creations log).map (·.plate?.map Int32.toInt) =
    (List.range (creations log).length).map fun k : Nat => some ((k : Int) + 1)
  founds : ∀ c ∈ creations log, ∃ p, c.Founds root p ∧ 0 < p ∧ p < s.nextPlate
  named : ∀ name p, s.names.find? name = some p ↔
    ∃ c ∈ creations log, c.name = name ∧ c.plate? = some p
  signed : ∀ p reply, s.sign? p = some reply ↔
    ∃ c ∈ creations log, c.plate? = some p ∧ c.reply = reply

/-- The tables of a new service are empty. -/
theorem Enrolled.new (root : String) : Enrolled (trimSlashes root) [] (Service.new root) where
  rooted := rfl
  counted := rfl
  numbered := rfl
  founds c hc := by simp [creations] at hc
  named name p := by simp [Service.new, creations]
  signed p reply := by simp [sign?, Service.new, creations]

/-- They keep what they keep if a request creates nothing. -/
theorem Enrolled.still (h : Enrolled root log s) {e : Request × Reply} (hfounds : creation? e = none)
    (hroot : s'.root = s.root) (hnames : s'.names = s.names) (hnext : s'.nextPlate = s.nextPlate)
    (hsigns : ∀ p, s'.sign? p = s.sign? p) : Enrolled root (log ++ [e]) s' := by
  have hsame : creations (log ++ [e]) = creations log := by simp [creations_concat, hfounds]
  constructor
  · rw [hroot, h.rooted]
  · rw [hnext, hsame, h.counted]
  · rw [hsame]
    exact h.numbered
  · rw [hsame, hnext]
    exact h.founds
  · rw [hsame, hnames]
    exact h.named
  · intro p reply
    rw [hsame, hsigns]
    exact h.signed p reply

theorem Enrolled.nextPlate_pos (h : Enrolled root log s) : 0 < s.nextPlate := by
  rw [Int32.lt_iff_toInt_lt, h.counted]
  show (0 : Int) < _
  omega

/-- No plate that was created has the identifier of the next one. -/
theorem Enrolled.sign?_nextPlate (h : Enrolled root log s) : s.sign? s.nextPlate = none := by
  rw [Option.eq_none_iff_forall_ne_some]
  intro reply hreply
  obtain ⟨c, hc, hplate, -⟩ := (h.signed _ _).1 hreply
  obtain ⟨p, hp, -, hlt⟩ := h.founds c hc
  obtain rfl : p = s.nextPlate := Option.some.inj (hp.plate?.symm.trans hplate)
  exact Int32.lt_irrefl hlt

/-- A plate that is created is put into both tables. -/
theorem Enrolled.found (h : Enrolled root log s) {e : Request × Reply}
    (hfounds : creation? e = some c) (hc : c.Founds root s.nextPlate)
    (hfree : s.names.contains c.name = false) (hroot : s'.root = s.root)
    (hnames : s'.names = s.names.insert c.name s.nextPlate)
    (hnext : Store.successor? s.nextPlate = some s'.nextPlate)
    (hsigns : ∀ p, s'.sign? p = if p = s.nextPlate then some c.reply else s.sign? p) :
    Enrolled root (log ++ [e]) s' := by
  -- the new creation comes last, with the identifier that comes next
  have hmore : creations (log ++ [e]) = creations log ++ [c] := by
    rw [creations_concat, hfounds]
    rfl
  have hlt : s.nextPlate < s'.nextPlate := Store.lt_of_successor? hnext
  constructor
  · rw [hroot, h.rooted]
  · rw [hmore, Store.toInt_of_successor? hnext, h.counted]
    simp
  · rw [hmore, List.map_append, h.numbered, List.length_append, List.length_singleton,
      List.range_succ, List.map_append]
    simp [hc.plate?, h.counted]
  · intro d hd
    rw [hmore] at hd
    rcases List.mem_append.1 hd with hold | hlast
    · obtain ⟨p, hp, hpos, hbelow⟩ := h.founds d hold
      exact ⟨p, hp, hpos, Int32.lt_trans hbelow hlt⟩
    · rw [List.mem_singleton.1 hlast]
      exact ⟨s.nextPlate, hc, h.nextPlate_pos, hlt⟩
  · intro name p
    -- the name was free, so it stands for the new plate alone
    have hnone : s.names.find? c.name = none := by simpa [SortedMap.contains] using hfree
    rw [hmore, exists_mem_concat, ← h.named, hnames, SortedMap.find?_insert, hc.plate?]
    by_cases hn : name = c.name
    · simp [hn, hnone]
    · simp [hn, Ne.symm hn]
  · intro p reply
    rw [hmore, exists_mem_concat, ← h.signed, hsigns, hc.plate?]
    -- the new plate is described by its creation, and the others as before
    by_cases hp : p = s.nextPlate
    · simp [hp, h.sign?_nextPlate]
    · simp [hp, Ne.symm hp]

/-- So every request keeps the tables in step with the transcript. -/
theorem Enrolled.founding (h : Enrolled root log s) {e : Request × Reply} (f : Founding s e s') :
    Enrolled root (log ++ [e]) s' := by
  cases f with
  | still founds root names next signs => exact h.still founds root names next signs
  | founded founds valid sized free root names next signs =>
    exact h.found founds ⟨h.rooted ▸ rfl, valid, sized⟩ free root names next signs

/-- The tables keep what the transcript of a run tells of creations. -/
theorem Enrolled.run (h : Enrolled root log s) (rs : List Request) :
    Enrolled root (log ++ s.transcript rs) (s.run rs) :=
  transcript_induction (fun {_ s} r h => h.founding (s.founding r)) h rs

/-! ## Looking plates up -/

theorem Creation.Founds.fields (h : c.Founds root p) {st : Store} (e : st.opened = c.reply) :
    st.header = { c.asked with id := some p } ∧ st.shortName = c.name ∧
      st.fullName = root ++ "/" ++ c.name :=
  Reply.opened.inj (e.trans h.reply)

/-- Every store that a service keeps is that of a plate that was created. -/
theorem Enrolled.exists_creation (h : Enrolled root log s) {st : Store}
    (hst : s.plates.find? p = some st) :
    ∃ c ∈ creations log, c.Founds root p ∧ st.opened = c.reply := by
  have hsign : s.sign? p = some st.opened := by rw [sign?, hst, Option.map_some]
  obtain ⟨c, hc, hplate, hreply⟩ := (h.signed _ _).1 hsign
  obtain ⟨q, hq, -, -⟩ := h.founds c hc
  obtain rfl : q = p := Option.some.inj (hq.plate?.symm.trans hplate)
  exact ⟨c, hc, hq, hreply.symm⟩

/-- Every plate that was created is found under its name, with the reply to its creation. -/
theorem Enrolled.exists_store (h : Enrolled root log s) (hc : c ∈ creations log) :
    ∃ p st, c.Founds root p ∧ s.names.find? c.name = some p ∧ s.plates.find? p = some st ∧
      st.opened = c.reply := by
  obtain ⟨p, hp, -, -⟩ := h.founds c hc
  -- the creation is in the table of names, and its reply in that of the stores
  have hname := (h.named c.name p).2 ⟨c, hc, rfl, hp.plate?⟩
  have hsign := (h.signed p c.reply).2 ⟨c, hc, hp.plate?, rfl⟩
  obtain ⟨st, hst, hopened⟩ := Option.map_eq_some_iff.1 hsign
  exact ⟨p, st, hp, hname, hst, hopened⟩

/-- A name is taken exactly if a plate was created under it. -/
theorem Enrolled.contains_name_iff (h : Enrolled root log s) (name : String) :
    s.names.contains name = true ↔ ∃ c ∈ creations log, c.name = name := by
  rw [SortedMap.contains, Option.isSome_iff_exists]
  -- the table leads from a name to its creation, and from a creation to its name
  constructor
  · rintro ⟨p, hp⟩
    obtain ⟨c, hc, hname, -⟩ := (h.named name p).1 hp
    exact ⟨c, hc, hname⟩
  · rintro ⟨c, hc, rfl⟩
    obtain ⟨p, st, -, hp, -⟩ := h.exists_store hc
    exact ⟨p, hp⟩

/-- A plate that was created is opened with the reply to its creation. -/
theorem Enrolled.handle_openPlate (h : Enrolled root log s) (hc : c ∈ creations log) :
    s.handle (.openPlate c.name) = (c.reply, s) := by
  obtain ⟨p, st, -, hp, hst, hopened⟩ := h.exists_store hc
  simp only [handle, dispatch, openPlate, store, hp, hst, Except.map, hopened]

/-- No other name can be opened. -/
theorem Enrolled.handle_openPlate_unknown (h : Enrolled root log s) {name : String}
    (hname : ∀ c ∈ creations log, c.name ≠ name) :
    s.handle (.openPlate name) = (.fault (Refusal.noPlateNamed name).fault, s) := by
  have hnone : s.names.find? name = none := by
    rw [Option.eq_none_iff_forall_ne_some]
    intro p hp
    obtain ⟨c, hc, e, -⟩ := (h.named name p).1 hp
    exact hname c hc e
  simp only [handle, dispatch, openPlate, hnone, Except.map]

/-- A name that was created cannot be created again. -/
theorem Enrolled.isFault_createPlate (h : Enrolled root log s) (hc : c ∈ creations log)
    (header : Plate.Header) : (s.handle (.createPlate c.name header)).1.isFault = true := by
  rcases s.handle_cases (.createPlate c.name header) with g | ⟨refusal, e⟩
  · -- a name that is taken is not free
    generalize (s.handle (.createPlate c.name header)).1 = reply at g
    generalize (s.handle (.createPlate c.name header)).2 = s' at g
    cases g with
    | created valid sized free next =>
      rw [(h.contains_name_iff c.name).2 ⟨c, hc, rfl⟩] at free
      cases free
  · rw [e]
    rfl

/-! ## The register -/

/-- A plate can have any name that is not empty and holds no slash. -/
theorem isPlateName_iff {name : String} :
    isPlateName name = true ↔ name ≠ "" ∧ '/' ∉ name.toList := by
  simp [isPlateName]

theorem exists_pow_of_isTileSize {n : Int32} (h : Plate.isTileSize n = true) :
    ∃ k : Nat, n.toInt = 2 ^ k := by
  obtain ⟨k, -, hk⟩ := List.any_eq_true.1 h
  refine ⟨k, (of_decide_eq_true hk).trans ?_⟩
  exact Int.natCast_pow 2 k

/-- What can be said of names and identifiers of plates when `log` is the transcript of all that was
    asked of a service. -/
structure Register (root : String) (log : Transcript) (s : Service) : Prop where
  /-- The root is the one that the service was made with. -/
  rooted : s.root = root
  /-- Every name stands for a plate that has this name, keeps its identifier in its header, and lies
      under the root. -/
  pointed : ∀ name p, s.names.find? name = some p → ∃ st, s.plates.find? p = some st ∧
    st.shortName = name ∧ st.header.id = some p ∧ st.fullName = root ++ "/" ++ name
  /-- Every plate has one name and no other. -/
  named : ∀ p st, s.plates.find? p = some st →
    ∃ name, s.names.find? name = some p ∧ ∀ other, s.names.find? other = some p → other = name
  /-- The identifiers that were given out are 1, 2, 3 and so on. -/
  numbered : (creations log).map (·.plate?.map Int32.toInt) =
    (List.range (creations log).length).map fun k : Nat => some ((k : Int) + 1)
  /-- Every plate lies below the identifier of the next one. -/
  below : ∀ p st, s.plates.find? p = some st → 0 < p ∧ p < s.nextPlate
  /-- The tile size of every plate is a power of two. -/
  sized : ∀ p st, s.plates.find? p = some st → ∃ k : Nat, st.header.tileSize.toInt = 2 ^ k
  /-- Every plate has the header that it was created with, apart from the identifier. -/
  asked : ∀ p st, s.plates.find? p = some st →
    ∃ c ∈ creations log, c.name = st.shortName ∧ st.header = { c.asked with id := some p }
  /-- No name is empty or has a slash. -/
  proper : ∀ name p, s.names.find? name = some p → name ≠ "" ∧ '/' ∉ name.toList
  /-- The names, ascending, are those of the plates that were created. -/
  listed : s.plateNames.Pairwise (· < ·) ∧
    ∀ name, name ∈ s.plateNames ↔ ∃ c ∈ creations log, c.name = name
  /-- A plate that was created can be opened ever after, with the reply that its creation got. -/
  reopened : ∀ c ∈ creations log, ∀ later,
    (s.run later).handle (.openPlate c.name) = (c.reply, s.run later)
  /-- Any other name is refused for being unknown. -/
  unknown : ∀ name, (∀ c ∈ creations log, c.name ≠ name) →
    s.handle (.openPlate name) = (.fault (Refusal.noPlateNamed name).fault, s)
  /-- No name is created twice. -/
  once : ∀ c ∈ creations log, ∀ later header,
    ((s.run later).handle (.createPlate c.name header)).1.isFault = true

/-- A name stands for a plate that has this name. -/
theorem Enrolled.pointed (h : Enrolled root log s) {name : String}
    (hp : s.names.find? name = some p) : ∃ st, s.plates.find? p = some st ∧
      st.shortName = name ∧ st.header.id = some p ∧ st.fullName = root ++ "/" ++ name := by
  obtain ⟨c, hc, rfl, -⟩ := (h.named name p).1 hp
  obtain ⟨q, st, hfounds, hq, hst, hopened⟩ := h.exists_store hc
  obtain rfl : q = p := Option.some.inj (hq.symm.trans hp)
  obtain ⟨hheader, hshort, hfull⟩ := hfounds.fields hopened
  exact ⟨st, hst, hshort, by rw [hheader], hfull⟩

theorem mem_creations_append (hc : c ∈ creations log) (log' : Transcript) :
    c ∈ creations (log ++ log') := by
  rw [creations, List.filterMap_append]
  exact List.mem_append_left _ hc

/-- **The register of plates stays consistent.** After any run of requests to a new service, granted
    or refused. -/
theorem register_run (root : String) (rs : List Request) :
    let s := Service.new root
    Register (trimSlashes root) (s.transcript rs) (s.run rs) := by
  intro s
  have h : Enrolled (trimSlashes root) (s.transcript rs) (s.run rs) := (Enrolled.new root).run rs
  constructor
  case rooted => exact h.rooted
  case pointed => exact fun name p hp => h.pointed hp
  case named =>
    intro p st hst
    obtain ⟨c, hc, hfounds, -⟩ := h.exists_creation hst
    have hname := (h.named c.name p).2 ⟨c, hc, rfl, hfounds.plate?⟩
    refine ⟨c.name, hname, fun other ho => ?_⟩
    -- both names are the one that the plate keeps
    obtain ⟨st₁, hst₁, hshort₁, -⟩ := h.pointed hname
    obtain ⟨st₂, hst₂, hshort₂, -⟩ := h.pointed ho
    obtain rfl : st₁ = st₂ := Option.some.inj (hst₁.symm.trans hst₂)
    exact hshort₂.symm.trans hshort₁
  case numbered => exact h.numbered
  case below =>
    intro p st hst
    obtain ⟨c, hc, hfounds, -⟩ := h.exists_creation hst
    obtain ⟨q, hq, hpos, hlt⟩ := h.founds c hc
    -- the identifier that was counted is the one of the creation
    obtain rfl : q = p := Option.some.inj (hq.plate?.symm.trans hfounds.plate?)
    exact ⟨hpos, hlt⟩
  case sized =>
    intro p st hst
    obtain ⟨c, -, hfounds, hopened⟩ := h.exists_creation hst
    rw [(hfounds.fields hopened).1]
    exact exists_pow_of_isTileSize hfounds.sized
  case asked =>
    intro p st hst
    obtain ⟨c, hc, hfounds, hopened⟩ := h.exists_creation hst
    obtain ⟨hheader, hshort, -⟩ := hfounds.fields hopened
    exact ⟨c, hc, hshort.symm, hheader⟩
  case proper =>
    intro name p hp
    obtain ⟨c, hc, rfl, -⟩ := (h.named name p).1 hp
    obtain ⟨q, hfounds, -, -⟩ := h.founds c hc
    exact isPlateName_iff.1 hfounds.valid
  -- names are kept in a sorted map, and the tables have exactly those of creations
  case listed =>
    refine ⟨?_, fun name => ?_⟩
    · rw [plateNames, SortedMap.keys, List.pairwise_map]
      exact (s.run rs).names.sorted
    · rw [plateNames, ← SortedMap.contains_iff_mem_keys, h.contains_name_iff]
  -- the creation is in the transcript of every longer run
  case reopened =>
    intro c hc later
    exact (h.run later).handle_openPlate (mem_creations_append hc _)
  case unknown => exact fun name hname => h.handle_openPlate_unknown hname
  case once =>
    intro c hc later header
    exact (h.run later).isFault_createPlate (mem_creations_append hc _) header

/-- A second creation of a name, a name with a slash and a tile size that is no power of two create
    nothing. -/
example :
    let header (n : Int32) : Plate.Header := .unassigned n "png" .rgba .uint8
    let rs : List Request := [.createPlate "mars" (header 256), .createPlate "mars" (header 512),
      .createPlate "a/b" (header 256), .createPlate "odd" (header 300), .createPlate "luna" (header 1)]
    ((Service.new "/plates//").run rs).plateNames = ["luna", "mars"] ∧
      ((Service.new "/plates//").run rs).handle (.openPlate "luna") =
        (.opened { header 1 with id := some 2 } "luna" "/plates/luna",
          (Service.new "/plates//").run rs) := by
  decide

end Service

end TileIndex
