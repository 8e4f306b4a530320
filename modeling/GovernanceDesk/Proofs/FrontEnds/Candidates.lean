import GovernanceDesk.Proofs.FrontEnds.Requests
import GovernanceDesk.Proofs.Recipients
import GovernanceDesk.Proofs.Text.Margins

/-!
# Who can be picked for a new request

The requester comes first and the contacts follow. A contact with the address of the requester is
left out where the two addresses agree as they are written, letter case aside. A notification goes by
the trimmed addresses, so a contact whose address has other blanks around it than the requester's
stays on the list although it is the requester's.

* `Recipients.sameAddress`: when two texts are one address to a notification.
* `Intake.OffersInOrder`, `Intake.OffersRequesterOnce`: what the candidates of a request are.
* `Server.offers_requester_once_iff`: the candidates of every request that either front end makes.
-/

namespace GovernanceDesk
set_option autoImplicit false

/-! ## One address -/

namespace Recipients

/-- Whether two texts are one address to a notification. -/
def sameAddress (a b : String) : Bool :=
  Text.sameLetters (Text.trim a) (Text.trim b)

/-- Of two texts that are one address only the first is told. -/
theorem resolve_pair (a b : String) (m : Mailboxes) :
    (⟨[a, b], false, false⟩ : Recipients).resolve m =
      if sameAddress a b then [Text.trim a] else [Text.trim a, Text.trim b] := by
  rw [sameAddress]
  cases same : Text.sameLetters (Text.trim a) (Text.trim b) <;>
    simp [resolve, selected, addOnce, same]

end Recipients

open Recipients

/-! ## Candidates -/

namespace Intake

variable {i : Intake}

/-- The requester, and then contacts in their order. None is missing that has another address. -/
structure OffersInOrder (i : Intake) : Prop where
  first : i.recipientCandidates.head? = some i.requester
  inOrder : i.recipientCandidates.tail.Sublist i.contacts
  others : (i.recipientCandidates.tail.filter fun c => !sameAddress c.email i.requester.email) =
    i.contacts.filter fun c => !sameAddress c.email i.requester.email

/-- Nobody but the requester stands there with the requester's address. -/
def OffersRequesterOnce (i : Intake) : Prop :=
  ∀ c ∈ i.recipientCandidates.tail, sameAddress c.email i.requester.email = false

theorem mem_tail_recipientCandidates {c : Contact} :
    c ∈ i.recipientCandidates.tail ↔
      c ∈ i.contacts ∧ Text.sameLetters c.email i.requester.email = false := by
  rw [recipientCandidates, List.tail_cons, List.mem_filter, Bool.not_eq_true']

theorem offersInOrder (i : Intake) : i.OffersInOrder where
  first := rfl
  inOrder := List.filter_sublist
  others := by
    rw [recipientCandidates, List.tail_cons, List.filter_filter]
    refine List.filter_congr fun c _ => ?_
    -- Whoever is left out as written alike is the same once both are trimmed.
    cases alike : Text.sameLetters c.email i.requester.email with
    | false => exact Bool.and_true _
    | true =>
      rw [sameAddress, Text.sameLetters_trim alike]
      rfl

/-- The requester stands there once when every contact with the requester's address has it with the
same blanks around it. -/
theorem offersRequesterOnce_iff : i.OffersRequesterOnce ↔
    ∀ c ∈ i.contacts, sameAddress c.email i.requester.email = true →
      Text.margins c.email = Text.margins i.requester.email := by
  constructor
  · intro once c mem same
    rw [← Text.sameLetters_iff_margins same]
    by_contra apart
    have there := mem_tail_recipientCandidates.2 ⟨mem, Bool.not_eq_true _ ▸ apart⟩
    exact Bool.false_ne_true ((once c there).symm.trans same)
  · intro margins c there
    obtain ⟨mem, apart⟩ := mem_tail_recipientCandidates.1 there
    rw [← Bool.not_eq_true]
    intro same
    have alike := (Text.sameLetters_iff_margins same).2 (margins c mem same)
    exact Bool.false_ne_true (apart.symm.trans alike)

/-- Where all contacts are trimmed it is the requester's own address that counts. -/
theorem offersRequesterOnce_iff_of_trimmed
    (trimmed : ∀ c ∈ i.contacts, Text.trim c.email = c.email) : i.OffersRequesterOnce ↔
      ((∃ c ∈ i.contacts, sameAddress c.email i.requester.email = true) →
        Text.trim i.requester.email = i.requester.email) := by
  rw [offersRequesterOnce_iff]
  constructor
  · rintro margins ⟨c, mem, same⟩
    rw [← Text.margins_eq_nil_iff, ← margins c mem same, Text.margins_eq_nil_iff]
    exact trimmed c mem
  · intro tidy c mem same
    rw [Text.margins_eq_nil_iff.2 (trimmed c mem), Text.margins_eq_nil_iff.2 (tidy ⟨c, mem, same⟩)]

end Intake

/-! ## On the command line -/

namespace Cli

theorem trim_of_readContact {written : String} {c : Contact} (h : readContact written = .ok c) :
    Text.trim c.email = c.email := by
  rw [readContact] at h
  split at h
  · cases h
  · dsimp only at h
    split at h <;> cases h
    exact Text.trim_trim _

theorem trim_of_mapM_readContact {written : List String} {contacts : List Contact}
    (h : written.mapM readContact = .ok contacts) :
    ∀ c ∈ contacts, Text.trim c.email = c.email := by
  intro c mem
  obtain ⟨w, -, read⟩ := exists_mem_of_forall₂ (forall₂_of_mapM_ok h).flip mem
  exact trim_of_readContact read

theorem Desk.createIntake_of_code {d : Desk} {name requester email : String}
    {written : List String} (made : (d.createIntake name requester email written).1.output.code = 0) :
    ∃ contacts, written.mapM readContact = .ok contacts ∧
      (d.createIntake name requester email written).2.load (d.store.nextId d.moment) =
        .ok { Intake.opened (d.store.nextId d.moment) name ⟨requester, email, none⟩ d.now with
          contacts := contacts } := by
  rw [createIntake] at made ⊢
  split at made
  · exact absurd made Nat.one_ne_zero
  next address =>
    rw [if_neg address]
    split at made
    · exact absurd made Nat.one_ne_zero
    next contacts read =>
      rw [read]
      dsimp only
      refine ⟨contacts, rfl, ?_⟩
      cases room : d.store.hasRoomFor (d.store.nextId d.moment) with
      | true =>
        obtain ⟨s', created, -, loaded⟩ := Store.createWithContacts_of_room room name
          ⟨requester, email, none⟩ contacts
        rw [created]
        exact loaded
      | false =>
        obtain ⟨e, s', failed, -⟩ := Store.createWithContacts_of_no_room room name
          ⟨requester, email, none⟩ contacts
        rw [failed] at made
        exact absurd made Nat.one_ne_zero

end Cli

/-! ## Every new request -/

namespace Server

/-- Every request that either front end makes offers the requester and then its contacts in their
order, every contact with another address among them. Of a posted request the requester stands there
once exactly when every contact that has the requester's address has it with the same blanks around
it. Contacts come trimmed from a command line, the requester does not: there it is exactly when the
requester's address has no blanks around it, or no contact has it. -/
theorem offers_requester_once_iff (server : Server) (m : Moment) :
    (∀ (r : ApiRequest) (b : NewIntake), r.Posts .intakes b → (server.answer m r).1.status = 200 →
      ∃ i, (server.answer m r).2.store.load (server.store.nextId m) = .ok i ∧
        i.requester = b.requester ∧ i.contacts = b.contacts ∧ i.OffersInOrder ∧
        (i.OffersRequesterOnce ↔
          ∀ c ∈ b.contacts, sameAddress c.email b.requester.email = true →
            Text.margins c.email = Text.margins b.requester.email)) ∧
    ∀ (around : Cli.Surroundings) (args : List String) (json : Bool)
      (name requester email : String) (written : List String),
      Cli.Asks server.store around args json (.createIntake name requester email written) →
      (Cli.run server.store m around args).1.code = 0 →
      ∃ i, (Cli.run server.store m around args).2.load (server.store.nextId m) = .ok i ∧
        i.requester = ⟨requester, email, none⟩ ∧ written.mapM Cli.readContact = .ok i.contacts ∧
        i.OffersInOrder ∧
        (i.OffersRequesterOnce ↔
          ((∃ c ∈ i.contacts, sameAddress c.email email = true) → Text.trim email = email)) := by
  refine ⟨fun r b posted well => ?_, fun around args json name requester email written asked done => ?_⟩
  · obtain ⟨-, -, -, loaded⟩ | ⟨-, refused, -⟩ := answer_createIntake_cases posted server m
    · exact ⟨_, loaded, rfl, rfl, Intake.offersInOrder _, Intake.offersRequesterOnce_iff⟩
    · exact absurd well (Reply.status_ne_of_mem_refusals refused)
  · obtain ⟨path, performed⟩ := Cli.run_of_asks asked nofun m
    rw [performed] at done ⊢
    obtain ⟨contacts, read, loaded⟩ := Cli.Desk.createIntake_of_code done
    refine ⟨_, loaded, rfl, read, Intake.offersInOrder _, ?_⟩
    exact Intake.offersRequesterOnce_iff_of_trimmed (Cli.trim_of_mapM_readContact read)

theorem offers_requester_once_tidy :
    tidyRequest.Posts .intakes tidyIntake ∧
    ((start Store.emptyDesk).answer Store.firstMoment tidyRequest).1.status = 200 ∧
    Cli.Asks Store.emptyDesk Cli.inFolder (lineOf tidyIntake) false tidyIntake.command ∧
    (Cli.run Store.emptyDesk Store.firstMoment Cli.inFolder (lineOf tidyIntake)).1.code = 0 ∧
    (∃ i, ((start Store.emptyDesk).answer Store.firstMoment tidyRequest).2.store.load "r1" = .ok i ∧
      i.OffersRequesterOnce) ∧
    ∃ i, (Cli.run Store.emptyDesk Store.firstMoment Cli.inFolder (lineOf tidyIntake)).2.load "r1" =
      .ok i ∧ i.OffersRequesterOnce := by
  have made : (tidyIntake.HasAddresses ∧ Text.trim tidyIntake.requestName ≠ "") ∧
      Store.emptyDesk.hasRoomFor (Store.emptyDesk.nextId Store.firstMoment) = true := by
    decide +kernel
  obtain ⟨-, reply, -⟩ := (answer_createIntake_cases posts_tidyRequest (start Store.emptyDesk)
    Store.firstMoment).resolve_right fun never => never.1 made
  have well : ((start Store.emptyDesk).answer Store.firstMoment tidyRequest).1.status = 200 := by
    rw [reply]
    rfl
  obtain ⟨-, done, -⟩ := (Cli.run_createIntake_cases (asks_lineOf tidyIntake) isPlain_tidyIntake
    Store.firstMoment).resolve_right fun never => never.1 ⟨made.1.1, made.2⟩
  have offers := offers_requester_once_iff (start Store.emptyDesk) Store.firstMoment
  obtain ⟨i, loaded, -, -, -, once⟩ := offers.1 _ _ posts_tidyRequest well
  obtain ⟨i', loaded', -, -, -, once'⟩ := offers.2 _ _ _ _ _ _ _ (asks_lineOf tidyIntake) done
  refine ⟨posts_tidyRequest, well, asks_lineOf tidyIntake, done, ⟨i, loaded, once.2 ?_⟩, i', loaded',
    once'.2 fun _ => ?_⟩
  · decide +kernel
  · decide +kernel

/-- A contact with the requester's address and a blank in front of it. -/
def blankedIntake : NewIntake :=
  ⟨"Data platform", ⟨"Ada", "ada@x.gov", none⟩, [⟨"Ada again", " ada@x.gov", none⟩]⟩

def blankedRequest : ApiRequest := intakeRequest
  ("\x7b\"request_name\":\"Data platform\"," ++
    "\"requester\":\x7b\"name\":\"Ada\",\"email\":\"ada@x.gov\"\x7d," ++
    "\"contacts\":[\x7b\"name\":\"Ada again\",\"email\":\" ada@x.gov\"\x7d]\x7d")

/-- The contact is offered beside the requester, and a notification to both goes to one address. -/
theorem requester_offered_twice :
    blankedRequest.Posts .intakes blankedIntake ∧
    ((start Store.emptyDesk).answer Store.firstMoment blankedRequest).1.status = 200 ∧
    ∃ i, ((start Store.emptyDesk).answer Store.firstMoment blankedRequest).2.store.load "r1" = .ok i ∧
      i.recipientCandidates.map Contact.email = ["ada@x.gov", " ada@x.gov"] ∧
      (⟨i.recipientCandidates.map Contact.email, false, false⟩ : Recipients).resolve .standard =
        ["ada@x.gov"] ∧
      ¬i.OffersRequesterOnce := by
  have posted : blankedRequest.Posts .intakes blankedIntake :=
    ⟨rfl, by decide +kernel, ok_of_toOption_eq_some (by decide +kernel)⟩
  have made : (blankedIntake.HasAddresses ∧ Text.trim blankedIntake.requestName ≠ "") ∧
      Store.emptyDesk.hasRoomFor (Store.emptyDesk.nextId Store.firstMoment) = true := by
    decide +kernel
  obtain ⟨-, reply, -, loaded⟩ := (answer_createIntake_cases posted (start Store.emptyDesk)
    Store.firstMoment).resolve_right fun never => never.1 made
  refine ⟨posted, by rw [reply]; rfl, _, loaded, rfl, ?_, fun once => ?_⟩
  · exact (resolve_pair "ada@x.gov" " ada@x.gov" .standard).trans (if_pos (by decide +kernel))
  · exact absurd (once ⟨"Ada again", " ada@x.gov", none⟩ (by decide +kernel)) (by decide +kernel)

end Server

end GovernanceDesk
