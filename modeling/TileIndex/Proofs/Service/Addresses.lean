import TileIndex.Proofs.Address.Reading
import TileIndex.Proofs.Service.Names

/-!
# Addresses of plates

A service takes a name for a plate if it is not empty and has no slash, and an address is read by
cutting a text at its slashes. Neither looks at the other, and yet they agree: the names that a
service takes are those that an address can have.

## Main statements

- `Service.isPlateName_iff_exists_parse`: plates can have the names that addresses have.
- `Service.addressed_run`: no address is unusable for its name, and every plate has an address.
-/

namespace TileIndex

/-- No other refusal looks like that of a name. -/
theorem Refusal.fault_ne_invalidName {r : Refusal} (h : ∀ n, r ≠ .invalidName n) (n : String) :
    r.fault ≠ (Refusal.invalidName n).fault := by
  intro hfault
  have hkind : r.kind = .malformed := congrArg Fault.kind hfault
  have hmessage : r.message.toList = ("invalid platefile name " ++ Text.Quoted.encode n).toList :=
    congrArg (fun f => f.message.toList) hfault
  clear hfault
  unfold message at hmessage
  cases r with
  | invalidName m => exact h m rfl
  -- the texts of refusals of this kind differ in their first letters
  | invalidTileSize | negativeTransaction | noSuccessor | mislabelled | undecodable =>
    simp at hmessage
  -- the others are of another kind
  | _ => simp [kind] at hkind

namespace Service

variable {root : String} {log : Transcript} {s : Service} {name : String}

/-- Plates can have the names that addresses have, and no others. -/
theorem isPlateName_iff_exists_parse :
    isPlateName name = true ↔ ∃ url a, Address.parse url = .ok a ∧ a.name = name := by
  rw [isPlateName_iff]
  constructor
  · rintro ⟨hne, hslash⟩
    -- the name is read back behind any proper key
    have hkey : "k" ≠ "" ∧ '/' ∉ "k".toList := by decide
    exact ⟨_, _, Address.parse_key_name hkey.1 hkey.2 hne hslash, rfl⟩
  · rintro ⟨url, a, ha, rfl⟩
    exact (Address.proper_of_parse ha).2

/-- A creation under a name that plates can have is not refused for the name. -/
theorem ne_invalidName_of_createPlate {header : Plate.Header} {refusal : Refusal}
    (hname : isPlateName name = true) (h : s.createPlate name header = .error refusal) (n : String) :
    refusal ≠ .invalidName n := by
  -- the first check is passed, and no other refuses for the name
  rintro rfl
  simp only [createPlate, hname, Bool.not_true, Bool.false_eq_true, if_false] at h
  split at h
  · cases h
  split at h
  · cases h
  split at h <;> cases h

/-- A create request for a name that no plate can have is refused for the name. -/
theorem handle_createPlate_of_not_isPlateName (hname : isPlateName name = false)
    (header : Plate.Header) :
    s.handle (.createPlate name header) = (.fault (Refusal.invalidName name).fault, s) := by
  simp only [handle, dispatch, createPlate, hname, Bool.not_false, if_true]

/-- No other create request looks as if it were. -/
theorem handle_createPlate_ne_invalidName (hname : isPlateName name = true) (header : Plate.Header)
    (n : String) :
    (s.handle (.createPlate name header)).1 ≠ .fault (Refusal.invalidName n).fault := by
  intro hfault
  unfold handle at hfault
  cases hd : s.dispatch (.createPlate name header) with
  | ok answer =>
    -- the reply to a request that is granted is no fault
    rw [hd] at hfault
    have g := granted_of_dispatch hd
    rw [hfault] at g
    cases g
  | error refusal =>
    rw [hd] at hfault
    exact Refusal.fault_ne_invalidName (ne_invalidName_of_createPlate hname hd) n
      (Reply.fault.inj hfault)

theorem Enrolled.isPlateName (h : Enrolled root log s) {c : Creation} (hc : c ∈ creations log) :
    isPlateName c.name = true := by
  obtain ⟨p, hp, -⟩ := h.founds c hc
  exact hp.valid

/-- How addresses and plates agree on names, when `log` is the transcript of all that was asked of a
    service. -/
structure Addressed (log : Transcript) (s : Service) : Prop where
  /-- No state of a service refuses to create a plate for the name in an address. -/
  usable : ∀ url a, Address.parse url = .ok a → ∀ (s' : Service) header n,
    (s'.handle (.createPlate a.name header)).1 ≠ .fault (Refusal.invalidName n).fault
  /-- Every state refuses to create one for a name that no address has. -/
  unusable : ∀ name, (∀ url a, Address.parse url = .ok a → a.name ≠ name) →
    ∀ (s' : Service) header, s'.handle (.createPlate name header) =
      (.fault (Refusal.invalidName name).fault, s')
  /-- A plate that was created has an address with every key. -/
  reachable : ∀ c ∈ creations log, ∀ key : String, key ≠ "" → '/' ∉ key.toList →
    Address.parse ("pf://" ++ key ++ "/" ++ c.name) =
      .ok ⟨Address.defaultHost, Address.defaultPort, key, c.name⟩
  /-- So has every plate that is kept, and its name stands for it. -/
  kept : ∀ p st, s.plates.find? p = some st → s.names.find? st.shortName = some p ∧
    ∀ key : String, key ≠ "" → '/' ∉ key.toList →
      Address.parse ("pf://" ++ key ++ "/" ++ st.shortName) =
        .ok ⟨Address.defaultHost, Address.defaultPort, key, st.shortName⟩

theorem Enrolled.addressed (h : Enrolled root log s) : Addressed log s := by
  have hreachable : ∀ c ∈ creations log, ∀ key : String, key ≠ "" → '/' ∉ key.toList →
      Address.parse ("pf://" ++ key ++ "/" ++ c.name) =
        .ok ⟨Address.defaultHost, Address.defaultPort, key, c.name⟩ := by
    intro c hc key hkey hslash
    obtain ⟨hne, hproper⟩ := isPlateName_iff.1 (h.isPlateName hc)
    exact Address.parse_key_name hkey hslash hne hproper
  refine ⟨?usable, ?unusable, hreachable, ?kept⟩
  case usable =>
    intro url a ha s' header n
    exact handle_createPlate_ne_invalidName (isPlateName_iff_exists_parse.2 ⟨url, a, ha, rfl⟩) header n
  case unusable =>
    intro name hnone s' header
    refine handle_createPlate_of_not_isPlateName (Bool.eq_false_iff.2 fun hname => ?_) header
    obtain ⟨url, a, ha, hurl⟩ := isPlateName_iff_exists_parse.1 hname
    exact hnone url a ha hurl
  case kept =>
    intro p st hst
    obtain ⟨c, hc, hfounds, hopened⟩ := h.exists_creation hst
    obtain ⟨-, hshort, -⟩ := hfounds.fields hopened
    rw [hshort]
    exact ⟨(h.named c.name p).2 ⟨c, hc, rfl, hfounds.plate?⟩, hreachable c hc⟩

/-- **Addresses and the service agree on names.** After any run of requests to a new service,
    whatever the names in them. -/
theorem addressed_run (root : String) (rs : List Request) :
    let s := Service.new root
    Addressed (s.transcript rs) (s.run rs) :=
  ((Enrolled.new root).run rs).addressed

/-- Names with colons and blanks, and one that looks like the beginning of an address. -/
example :
    let header : Plate.Header := .unassigned 256 "png" .rgba .uint8
    let s := (Service.new "/plates").run
      [.createPlate "pf:" header, .createPlate "a b:80%2F" header, .createPlate "pf://k/a" header]
    s.plateNames = ["a b:80%2F", "pf:"] ∧
      Address.parse "pf://pf:/pf:" = .ok ⟨"localhost", 5672, "pf:", "pf:"⟩ ∧
      Address.parse "pf://k/a b:80%2F" = .ok ⟨"localhost", 5672, "k", "a b:80%2F"⟩ :=
  ⟨by decide, rfl, rfl⟩

end Service

end TileIndex
