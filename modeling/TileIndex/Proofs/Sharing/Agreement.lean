import TileIndex.Proofs.Sharing.Requests
import TileIndex.Proofs.Sharing.Scene

/-!
# Clients and their service agree

Clients that share a service report what their operations come to. Whatever they do, and in whatever
order their requests are handled, no operation fails because client and service do not understand
each other, and each client speaks of one plate all its life, the one that it was opened on.

## Main statements

- `Scene.reports_start_finish`: an operation that nothing comes into the middle of is reported as it
  is.
- `Scene.Kept.fits`: what a client reports of an operation is a result, or a refusal of its call.
- `Scene.Kept.continues`: every move goes on with requests of clients for their own plates.
- `Scene.agrees_run`: clients and their service agree.
-/

namespace TileIndex

namespace Scene

open Chronicle

/-! ## Reports -/

/-- What a client that was asked for an operation reports of it. -/
structure Report where
  client : Nat
  op : Client.Op
  result : Except Failure Answer

/-- What a client reports in a move. An operation that makes a call comes to its end with the call,
    and any other at its start. -/
def report? (sc : Scene) : Move → Option Report
  | .start k op =>
    match sc.seats k with
    | some ⟨c, none⟩ =>
      let s := (sc.service, sc.past ++ given k c op)
      if (c.prepare (channel (some k)) op s).2.1.isSome then none
      else some ⟨k, op, (c.perform (channel (some k)) op s).1⟩
    | _ => none
  | .finish k =>
    match sc.seats k with
    | some ⟨c, some call⟩ => some ⟨k, .call call, (c.send (channel (some k)) call sc.state).1⟩
    | _ => none
  | _ => none

/-- What the clients report in the course of some moves. -/
def reports (sc : Scene) : List Move → List Report
  | [] => []
  | m :: moves => (sc.report? m).toList ++ (sc.move m).reports moves

variable {root : String} {sc : Scene} {c : Client} {k : Nat}

/-- Of an operation that nothing comes into the middle of, a client reports what the operation comes
    to. -/
theorem reports_start_finish (h : sc.seats k = some ⟨c, none⟩) (op : Client.Op) :
    sc.reports [.start k op, .finish k] =
      [⟨k, op, (c.perform (channel (some k)) op (sc.service, sc.past ++ given k c op)).1⟩] := by
  obtain ⟨⟨c', calling, s'⟩, hprepare⟩ : ∃ after, c.prepare (channel (some k)) op
    (sc.service, sc.past ++ given k c op) = after := ⟨_, rfl⟩
  have hmove : sc.move (.start k op) = sc.put k (some ⟨c', calling⟩) s' := by
    simp only [move, h, hprepare]
  cases calling with
  | none =>
    -- the operation was over at its start, and there is nothing to finish
    simp only [reports, report?, h, hprepare, hmove, seats_put_self]
    rfl
  | some call =>
    have hreport : sc.report? (.start k op) = none := by
      simp only [report?, h, hprepare]
      rfl
    obtain ⟨rfl, hperform⟩ := Client.perform_of_prepare hprepare
    simp only [reports, hreport, hmove, hperform]
    simp only [report?, seats_put_self]
    rfl

theorem Kept.fits (h : Kept root sc) {m : Move} {report : Report} (hm : sc.report? m = some report) :
    Fits report.op report.result := by
  cases m with
  | start k op =>
    simp only [report?] at hm
    split at hm
    · rename_i c hk
      -- the chronicle has the update of a write from the start of the operation on
      have hfits := (h.seated hk).tracked.fits_perform h.orderly op
      rw [moment_given, ← h.service_eq] at hfits
      obtain ⟨-, hreport⟩ := Option.ite_none_left_eq_some.1 hm
      obtain rfl := Option.some.inj hreport
      exact hfits
    · cases hm
  | finish k =>
    simp only [report?] at hm
    split at hm
    · rename_i c call hk
      obtain rfl := Option.some.inj hm
      rw [h.state]
      exact (h.seated hk).tracked.fits_send h.orderly call
    · cases hm
  | _ => cases hm

/-- What the clients report is what their operations can come to. -/
theorem Kept.fits_of_mem_reports (h : Kept root sc) (moves : List Move) {report : Report}
    (hreport : report ∈ sc.reports moves) : Fits report.op report.result := by
  -- a report is of the first move or of a later one
  induction moves generalizing sc with
  | nil => exact absurd hreport List.not_mem_nil
  | cons m moves ih =>
    rcases List.mem_append.1 hreport with hnow | hlater
    · exact h.fits (Option.mem_toList.1 hnow)
    · exact ih (h.move m) hlater

/-! ## Requests -/

/-- A construction adds to the chronicle what it does over its channel. -/
theorem past_enrol (sc : Scene) (settings : Settings) (make : Request) :
    (sc.move (.enrol settings make)).past =
      (Client.construct (channel none) settings make sc.state).2.2 := by
  obtain ⟨⟨made, s⟩, hmade⟩ :
    ∃ after, Client.construct (channel none) settings make sc.state = after := ⟨_, rfl⟩
  simp only [move, hmade]
  cases made <;> rfl

theorem construct_past (settings : Settings) (make : Request) (s : Service × Chronicle) :
    (Client.construct (channel none) settings make s).2.2 = s.2 ∨
      (Client.construct (channel none) settings make s).2.2 =
        s.2 ++ [.handled none ⟨make, .ok (s.1.handle make).1⟩] := by
  -- settings that cannot be used end a construction before its request
  unfold Client.construct
  split
  · exact .inl rfl
  · exact .inr rfl

/-- The chronicle of a scene went on with requests of clients in their seats, each for its own plate
    and with a reply that suits it, and with what others request. -/
def Continues (sc : Scene) (past' : Chronicle) : Prop :=
  ∃ new, past' = sc.past ++ new ∧ ∀ k x, .handled (some k) x ∈ new →
    ∃ seat, sc.seats k = some seat ∧ x.request.IsFor seat.client.identity.id ∧ x.IsSuited

theorem Continues.refl (sc : Scene) : sc.Continues sc.past :=
  ⟨[], (List.append_nil _).symm, fun _ _ hx => absurd hx List.not_mem_nil⟩

theorem Continues.other (sc : Scene) (x : Exchange) :
    sc.Continues (sc.past ++ [.handled none x]) := by
  refine ⟨_, rfl, fun k y hy => ?_⟩
  cases (Event.handled.inj (List.mem_singleton.1 hy)).1

/-- What one client adds goes on so. -/
theorem Continues.of_adds {seat : Seat} {past' : Chronicle} (hk : sc.seats k = some seat)
    (h : Adds k seat.client.identity.id sc.past past') : sc.Continues past' := by
  obtain ⟨new, hpast, hnew⟩ := h
  refine ⟨new, hpast, fun j x hx => ?_⟩
  obtain ⟨hj, hfor, hsuited⟩ := hnew (some j) x hx
  obtain rfl := Option.some.inj hj
  exact ⟨seat, hk, hfor, hsuited⟩

/-- Every move goes on so. -/
theorem Kept.continues (h : Kept root sc) (m : Move) : sc.Continues (sc.move m).past := by
  cases m with
  | enrol settings make =>
    rw [past_enrol]
    rcases construct_past settings make sc.state with hsame | hmore
    · rw [hsame]
      exact .refl sc
    · rw [hmore]
      exact .other sc _
  | start k op =>
    simp only [Scene.move]
    split
    · rename_i c hk
      have hadds := (h.seated hk).tracked.adds_prepare h.orderly op
      rw [moment_given, ← h.service_eq] at hadds
      exact .of_adds hk hadds
    · exact .refl sc
  | finish k =>
    simp only [Scene.move]
    split
    · rename_i c calling hk
      rw [h.state]
      exact .of_adds hk ((h.seated hk).tracked.adds_conclude h.orderly calling)
    · exact .refl sc
  | leave k =>
    simp only [Scene.move]
    split
    · rename_i c hk
      rw [h.state]
      exact .of_adds hk ((h.seated hk).tracked.adds_flush h.orderly)
    · exact .refl sc
  | ask r => exact .other sc _

/-! ## Plates of clients -/

theorem next_le_move (sc : Scene) (m : Move) : sc.next ≤ (sc.move m).next := by
  -- only a construction gives out a number
  cases m with
  | enrol settings make =>
    simp only [move]
    split
    · exact Nat.le_refl _
    · exact Nat.le_succ _
  | ask r => exact Nat.le_refl _
  | _ =>
    simp only [move]
    split <;> exact Nat.le_refl _

/-- A client in a seat keeps its plate when the seat is filled again by the same client. -/
theorem identity_put {j : Nat} {after : Option Seat} {s : Service × Chronicle} {seat' : Seat}
    (hafter : ∀ seat', after = some seat' →
      ∃ seat, sc.seats j = some seat ∧ seat'.client.identity = seat.client.identity)
    (h : (sc.put j after s).seats k = some seat') :
    ∃ seat, sc.seats k = some seat ∧ seat'.client.identity = seat.client.identity := by
  by_cases hk : k = j
  · subst hk
    rw [seats_put_self] at h
    exact hafter seat' h
  · rw [seats_put_of_ne _ _ _ hk] at h
    exact ⟨seat', h, rfl⟩

/-- A client that had its number before a move is the same client after it. -/
theorem identity_move {m : Move} {seat' : Seat} (hlt : k < sc.next)
    (h : (sc.move m).seats k = some seat') :
    ∃ seat, sc.seats k = some seat ∧ seat'.client.identity = seat.client.identity := by
  cases m with
  | enrol settings make =>
    simp only [move] at h
    split at h
    · exact ⟨seat', h, rfl⟩
    · -- the new client has another number
      rename_i c s _
      have hother := seats_put_of_ne sc (some ⟨c, none⟩) s (Nat.ne_of_lt hlt)
      exact ⟨seat', hother.symm.trans h, rfl⟩
  | start j op =>
    simp only [move] at h
    split at h
    · rename_i c hj
      refine identity_put (fun after hafter => ⟨_, hj, ?_⟩) h
      obtain rfl := Option.some.inj hafter
      exact Client.identity_of_prepare rfl
    · exact ⟨seat', h, rfl⟩
  | finish j =>
    simp only [move] at h
    split at h
    · rename_i c calling hj
      refine identity_put (fun after hafter => ⟨_, hj, ?_⟩) h
      obtain rfl := Option.some.inj hafter
      exact congrArg Client.identity (Client.fst_conclude ..)
    · exact ⟨seat', h, rfl⟩
  | leave j =>
    simp only [move] at h
    split at h
    · refine identity_put (fun after hafter => ?_) h
      cases hafter
    · exact ⟨seat', h, rfl⟩
  | ask r => exact ⟨seat', h, rfl⟩

/-- What every move preserves is preserved by a sequence of moves. -/
theorem Kept.run_induction {P : Scene → Prop} (h : Kept root sc)
    (step : ∀ {sc} m, Kept root sc → P sc → P (sc.move m)) (hp : P sc) (moves : List Move) :
    P (sc.run moves) := by
  induction moves generalizing sc with
  | nil => exact hp
  | cons m moves ih => exact ih (h.move m) (step m h hp)

/-- The client of a number is one of a plate, and all that it has requested is for that plate. -/
structure Bound (p : PlateId) (k : Nat) (sc : Scene) : Prop where
  enrolled : k < sc.next
  seated : ∀ seat, sc.seats k = some seat → seat.client.identity.id = p
  spoken : ∀ x, .handled (some k) x ∈ sc.past → x.request.IsFor p

/-- A client speaks of its plate in every move, its own or another's. -/
theorem Bound.move {p : PlateId} (b : Bound p k sc) (h : Kept root sc) (m : Move) :
    Bound p k (sc.move m) := by
  refine ⟨Nat.lt_of_lt_of_le b.enrolled (next_le_move sc m), fun seat' hk => ?seated,
    fun x hx => ?spoken⟩
  case seated =>
    obtain ⟨seat, hseat, hidentity⟩ := identity_move b.enrolled hk
    rw [hidentity]
    exact b.seated seat hseat
  case spoken =>
    obtain ⟨new, hpast, hnew⟩ := h.continues m
    rw [hpast] at hx
    rcases List.mem_append.1 hx with hold | hlast
    · exact b.spoken x hold
    · -- what is new was requested by the client in the seat, which is bound
      obtain ⟨seat, hk, hfor, -⟩ := hnew k x hlast
      exact b.seated seat hk ▸ hfor

theorem Bound.run {p : PlateId} (b : Bound p k sc) (h : Kept root sc) (moves : List Move) :
    Bound p k (sc.run moves) :=
  h.run_induction (fun m h b => Bound.move b h m) b moves

/-- Whoever has requested something as a client has a number, and got a reply that suits the
    request. -/
def Answered (sc : Scene) : Prop :=
  ∀ k x, .handled (some k) x ∈ sc.past → k < sc.next ∧ x.IsSuited

theorem Answered.new (root : String) : Answered (new root) :=
  fun _ _ hx => absurd hx List.not_mem_nil

/-- Only clients that have a number make requests as clients, and all of them suit. -/
theorem Answered.move (ha : Answered sc) (h : Kept root sc) (m : Move) : Answered (sc.move m) := by
  intro k x hx
  obtain ⟨new, hpast, hnew⟩ := h.continues m
  rw [hpast] at hx
  rcases List.mem_append.1 hx with hold | hlast
  · exact ⟨Nat.lt_of_lt_of_le (ha k x hold).1 (next_le_move sc m), (ha k x hold).2⟩
  · obtain ⟨seat, hk, -, hsuited⟩ := hnew k x hlast
    exact ⟨Nat.lt_of_lt_of_le (h.lt_next hk) (next_le_move sc m), hsuited⟩

theorem Answered.run (ha : Answered sc) (h : Kept root sc) (moves : List Move) :
    Answered (sc.run moves) :=
  h.run_induction (fun m h ha => Answered.move ha h m) ha moves

/-! ## Constructions -/

/-- Whether a request opens or creates a plate. -/
def isOpening : Request → Bool
  | .openPlate _ | .createPlate .. => true
  | _ => false

/-- What keeps a plate from being opened or created is in the settings, or a refusal of the request. -/
theorem Kept.error_of_construct (h : Kept root sc) {settings : Settings} {make : Request}
    {e : Failure} {s : Service × Chronicle} (hmake : isOpening make = true)
    (hmade : Client.construct (channel none) settings make sc.state = (.error (.failure e), s)) :
    e.isBreakdown = false ∧ ∀ p, e ≠ .notFound (Refusal.unknownPlate p).message := by
  have hknows : (Chronicle.service root sc.past).Knows make := by
    cases make with
    | openPlate | createPlate => trivial
    | applyUpdates | onPlate => cases hmake
  have hsuits := suits_handle h.orderly hknows
  rw [h.state] at hmade
  unfold Client.construct at hmade
  split at hmade
  · -- settings that cannot be used fail with their flaw
    rename_i hinvalid
    obtain ⟨rfl, -⟩ := by simpa using hmade
    unfold Settings.validate at hinvalid
    split at hinvalid
    · obtain rfl := Except.error.inj hinvalid
      exact ⟨rfl, nofun⟩
    · cases hinvalid
  · rw [channel_moment _ _ rfl] at hmade
    obtain ⟨hreply, -⟩ := Prod.mk.inj hmade
    generalize ((Chronicle.service root sc.past).handle make).1 = reply at hsuits hreply
    cases hsuits with
    | accepted haccepts =>
      -- an accepted opening makes a client under some settings, so it fails under none
      obtain ⟨c, hc⟩ : ∃ c, Client.ofReply make.operation default reply = .ok c := by
        cases make with
        | openPlate | createPlate => exact haccepts default (by decide)
        | applyUpdates | onPlate => cases hmake
      exact absurd hreply (Client.ofReply_ne_failure hc _ settings e)
    | @refused refusal hrefuses =>
      -- the failure reads like the refusal, and no refusal of an opening names an unknown plate
      obtain rfl : Failure.ofFault refusal.fault = e := Halt.failure.inj (Except.error.inj hreply)
      have hmessage := Refusal.message_ne_unknownPlate hrefuses.ne_unknownPlate
      rcases Failure.ofFault_cases refusal.fault with hf | hf <;> rw [hf]
      · exact ⟨rfl, fun p hp => hmessage p (Failure.notFound.inj hp)⟩
      · exact ⟨rfl, nofun⟩

/-- The reply that makes a client names its plate, and is the last of the chronicle. -/
theorem opened_of_construct {settings : Settings} {make : Request} {s s' : Service × Chronicle}
    (h : Client.construct (channel none) settings make s = (.ok c, s')) :
    ∃ header shortName fullName,
      s'.2 = s.2 ++ [.handled none ⟨make, .ok (.opened header shortName fullName)⟩] ∧
        header.id = some c.identity.id := by
  unfold Client.construct at h
  split at h
  · cases (Prod.mk.inj h).1
  · obtain ⟨hmade, rfl⟩ := Prod.mk.inj h
    obtain ⟨header, shortName, fullName, id, hreply, hid, -, rfl⟩ := Client.ofReply_eq_ok hmade
    exact ⟨header, shortName, fullName, by rw [← hreply], hid⟩

/-- A client that was just constructed is bound to its plate. -/
theorem Bound.enrol (ha : Answered sc) {settings : Settings} {make : Request}
    {s : Service × Chronicle}
    (hmade : Client.construct (channel none) settings make sc.state = (.ok c, s)) :
    Bound c.identity.id sc.next (sc.move (.enrol settings make)) := by
  -- the new client sits under the number that was the next one
  have hmove : sc.move (.enrol settings make) =
      { sc.put sc.next (some ⟨c, none⟩) s with next := sc.next + 1 } := by
    simp only [Scene.move, hmade]
  obtain ⟨header, shortName, fullName, hpast, -⟩ := opened_of_construct hmade
  rw [hmove]
  refine ⟨Nat.lt_succ_self _, fun seat hk => ?seated, fun x hx => ?spoken⟩
  case seated =>
    obtain rfl := Option.some.inj ((seats_put_self sc sc.next (some ⟨c, none⟩) s).symm.trans hk)
    rfl
  case spoken =>
    have hx' : .handled (some sc.next) x ∈ s.2 := hx
    rw [hpast] at hx'
    rcases List.mem_append.1 hx' with hold | hlast
    · -- nobody has spoken under a number that was not given out
      exact absurd (ha sc.next x hold).1 (Nat.lt_irrefl _)
    · cases (Event.handled.inj (List.mem_singleton.1 hlast)).1

/-! ## Agreement -/

/-- How clients and a new service agree in the course of some moves. -/
structure Agrees (root : String) (moves : List Move) : Prop where
  /-- No operation fails because client and service do not understand or do not reach each other. -/
  understood : ∀ report ∈ (new root).reports moves, ∀ e, report.result = .error e →
    e.isBreakdown = false
  /-- Writes, flushes and the calls that only ask for what is there succeed, except for reads. -/
  certain : ∀ report ∈ (new root).reports moves, report.op.isCertain = true →
    ∃ a, report.result = .ok a
  /-- A read fails for an absent tile, and for nothing else. -/
  reading : ∀ report ∈ (new root).reports moves, ∀ tile t exact e,
    report.op = .call (.read tile t exact) → report.result = .error e → e = .tileNotFound tile t
  /-- No operation fails because the service does not know its plate. -/
  known : ∀ report ∈ (new root).reports moves, ∀ p,
    report.result ≠ .error (.notFound (Refusal.unknownPlate p).message)
  /-- No request of a client is refused for that either. -/
  answered : ∀ k x, .handled (some k) x ∈ ((new root).run moves).past → ∀ p,
    x.outcome ≠ .ok (.fault (Refusal.unknownPlate p).fault)
  /-- The same holds of what opens or creates the plate of a client. -/
  opening : ∀ before settings make after e s, moves = before ++ .enrol settings make :: after →
    isOpening make = true →
      Client.construct (channel none) settings make ((new root).run before).state =
          (.error (.failure e), s) →
        e.isBreakdown = false ∧ ∀ p, e ≠ .notFound (Refusal.unknownPlate p).message
  /-- Whatever a client requests after its construction is for the plate of the reply that it was
      constructed from, and so are all updates in its batches. -/
  addressed : ∀ before settings make after c s, moves = before ++ .enrol settings make :: after →
    Client.construct (channel none) settings make ((new root).run before).state = (.ok c, s) →
      ∃ header shortName fullName p,
        s.2 = ((new root).run before).past ++
            [.handled none ⟨make, .ok (.opened header shortName fullName)⟩] ∧
          header.id = some p ∧
            ∀ x, .handled (some ((new root).run before).next) x ∈ ((new root).run moves).past →
              x.request.IsFor p

/-- **Clients and their service agree.** Whatever clients come and go at a new service, and in
    whatever order their requests and those of others are handled. -/
theorem agrees_run (root : String) (moves : List Move) : Agrees root moves := by
  have hkept : Kept root (new root) := .new root
  have hfits : ∀ {report}, report ∈ (new root).reports moves → Fits report.op report.result :=
    fun hreport => hkept.fits_of_mem_reports moves hreport
  refine ⟨?understood, ?certain, ?reading, ?known, ?answered, ?opening, ?addressed⟩
  case understood =>
    intro report hreport e he
    exact (he ▸ hfits hreport).isBreakdown_eq_false
  case certain => exact fun report hreport hop => (hfits hreport).exists_of_isCertain hop
  case reading =>
    intro report hreport tile t exact e hop he
    exact (hop ▸ he ▸ hfits hreport).tileNotFound_of_read
  case known => exact fun report hreport p => (hfits hreport).ne_unknownPlate p
  case answered =>
    intro k x hx p hfault
    obtain ⟨reply, hreply, hsuits⟩ := ((Answered.new root).run hkept moves k x hx).2
    exact hsuits.ne_unknownPlate p (Except.ok.inj (hreply.symm.trans hfault))
  case opening =>
    intro before settings make after e s _ hmake hmade
    exact (hkept.run before).error_of_construct hmake hmade
  case addressed =>
    intro before settings make after c s hmoves hmade
    obtain ⟨header, shortName, fullName, hpast, hid⟩ := opened_of_construct hmade
    refine ⟨header, shortName, fullName, c.identity.id, hpast, hid, fun x hx => ?_⟩
    -- the client is bound to its plate when it is constructed, and every later move keeps it so
    have hbound := Bound.enrol ((Answered.new root).run hkept before) hmade
    have hrun : (new root).run moves =
        (((new root).run before).move (.enrol settings make)).run after := by
      rw [hmoves, Scene.run, List.foldl_append]
      rfl
    rw [hrun] at hx
    exact (hbound.run ((hkept.run before).move _) after).spoken x hx

/-- A tile that waits at one client is absent for another, until it is sent. -/
example :
    let write : Client.Op := .write ⟨1, 0, 2, 1, "png"⟩ (.stored 0 0 9)
    let read : Client.Op := .call (.read ⟨1, 0, 2⟩ 1 true)
    let moves : List Move :=
      [.enrol .standard (.createPlate "mars" (.unassigned 256 "png" .rgba .uint8)),
        .enrol .standard (.openPlate "mars"), .start 0 write, .start 1 read, .finish 1,
        .start 1 read, .start 0 .flush, .finish 1]
    ((new "/plates").reports moves).map (fun report => (report.client, report.result)) =
      [(0, .ok .done), (1, .error (.tileNotFound ⟨1, 0, 2⟩ 1)), (0, .ok .done),
        (1, .ok (.record (.stored 0 0 9)))] :=
  rfl

end Scene

end TileIndex
