import GovernanceDesk.Proofs.Form.Shown
import GovernanceDesk.Proofs.FrontEnds.Asking
import GovernanceDesk.Proofs.Store.Listing
import GovernanceDesk.Proofs.Store.Room
import GovernanceDesk.Proofs.Text.Trimming

/-!
# New requests from either front end

The server trims the name of a new request and refuses a blank one, and it stores contacts as they
are sent. The command line stores the name as it is typed, blank or not, and trims the contacts. So
the same request comes out alike only where there is nothing to trim, or where both refuse it.

* `NewIntake.command`, `NewIntake.read_line`: the command that asks for a request, and a line that
  is read as it.
* `Cli.Desk.createIntake_of_room`, `Server.createIntake_of_room`: what each front end makes of it.
* `MadeAlike`: both refuse, or both make the same request but for its id and its times.
* `Server.created_alike_iff`: when they do.
-/

namespace GovernanceDesk
set_option autoImplicit false

/-! ## What is asked for -/

/-- A contact as it is typed. -/
def Contact.written (c : Contact) : String :=
  c.name ++ "=" ++ c.email

def Contact.trimmed (c : Contact) : Contact :=
  { c with name := Text.trim c.name, email := Text.trim c.email }

theorem Contact.map_trimmed_eq_self_iff {contacts : List Contact} :
    contacts.map trimmed = contacts ↔ ∀ c ∈ contacts, c.trimmed = c := by
  constructor
  · intro same
    exact List.map_inj_left.1 (same.trans (List.map_id contacts).symm)
  · intro each
    rw [List.map_congr_left each, List.map_id']

namespace NewIntake

def command (b : NewIntake) : Cli.Command :=
  .createIntake b.requestName b.requester.name b.requester.email (b.contacts.map Contact.written)

def options (b : NewIntake) : List (String × String) :=
  ("requester", b.requester.name) :: ("email", b.requester.email) ::
    b.contacts.map fun c => ("contact", c.written)

/-- Nobody has a role, and no name holds the sign that ends it on a command line. -/
structure IsPlain (b : NewIntake) : Prop where
  requester : b.requester.role = none
  roles : ∀ c ∈ b.contacts, c.role = none
  names : ∀ c ∈ b.contacts, '=' ∉ c.name.toList

def HasAddresses (b : NewIntake) : Prop :=
  ∀ c ∈ b.requester :: b.contacts, isEmail c.email = true

instance (b : NewIntake) : Decidable b.HasAddresses :=
  inferInstanceAs (Decidable (∀ c ∈ b.requester :: b.contacts, isEmail c.email = true))

/-- There is nothing to trim, and the request has a name. -/
structure IsTidy (b : NewIntake) : Prop where
  name : Text.IsTidy b.requestName
  contacts : ∀ c ∈ b.contacts, c.trimmed = c

theorem IsTidy.trim_ne {b : NewIntake} (h : b.IsTidy) : Text.trim b.requestName ≠ "" := by
  rw [h.name.1]
  exact h.name.2

theorem takes_options (b : NewIntake) : Cli.Verb.createIntake.Takes b.options := by
  have accepted : ∀ name ∈ ["requester", "email", "contact"], ∀ value,
      Cli.Verb.createIntake.accepts name value = true := by
    simp only [List.forall_mem_cons, List.not_mem_nil, false_imp_iff, implies_true, and_true]
    exact ⟨fun _ => rfl, fun _ => rfl, fun _ => rfl⟩
  have repeated : Cli.Verb.createIntake.repeats "contact" = true := rfl
  constructor
  · simp [options, accepted]
  · simp [options, List.pairwise_map, repeated, List.pairwise_of_forall]

/-- Every request can be asked for on a command line. -/
theorem read_line (b : NewIntake) :
    Cli.Invocation.read (Cli.Verb.createIntake.line b.options [b.requestName]) =
      .ok ⟨none, false, b.command⟩ := by
  have others : ∀ name ≠ "contact",
      (b.contacts.map fun c => ("contact", c.written)).filter (fun e => e.1 == name) = [] := by
    intro name other
    simp [other.symm]
  have contacts : (b.contacts.map fun c => ("contact", c.written)).filter
      (fun e => e.1 == "contact") = b.contacts.map fun c => ("contact", c.written) := by
    simp
  have command : Cli.Command.ofArguments? .createIntake
      (.withOperands .createIntake b.options [b.requestName]) = some b.command := by
    simp [Cli.Command.ofArguments?, Cli.Arguments.value?, Cli.Arguments.all,
      Cli.Arguments.withOperands, options, others, contacts, Cli.joined, NewIntake.command]
  rw [Cli.Invocation.read_line b.takes_options (fun most bounded => nomatch bounded) rfl command]
  simp [Cli.Arguments.has, Cli.Arguments.value?, Cli.Arguments.all, Cli.Arguments.withOperands,
    options, others]

/-- The request as the command line makes it. -/
def asTyped (b : NewIntake) (id : String) (now : Instant) : Intake :=
  { Intake.opened id b.requestName b.requester now with contacts := b.contacts.map Contact.trimmed }

/-- The request as the server makes it. -/
def asPosted (b : NewIntake) (id : String) (now : Instant) : Intake :=
  { Intake.opened id (Text.trim b.requestName) b.requester now with contacts := b.contacts }

theorem checked_eq (b : NewIntake) (addresses : b.HasAddresses)
    (named : Text.trim b.requestName ≠ "") : b.checked = .ok (Text.trim b.requestName) := by
  have none : (b.requester :: b.contacts).find? (fun c => !isEmail c.email) = none := by
    refine List.find?_eq_none.2 fun c mem => ?_
    rw [addresses c mem]
    exact Bool.false_ne_true
  rw [checked, if_neg (by simpa using named), none]

theorem exists_checked_error {b : NewIntake}
    (bad : ¬b.HasAddresses ∨ Text.trim b.requestName = "") : ∃ e, b.checked = .error e := by
  rw [checked]
  split
  · exact ⟨_, rfl⟩
  next named =>
    obtain bad | blank := bad
    · split
      · exact ⟨_, rfl⟩
      next none =>
        refine absurd (fun c mem => ?_) bad
        simpa using List.find?_eq_none.1 none c mem
    · rw [blank] at named
      exact absurd rfl named

end NewIntake

variable {b : NewIntake} {m : Moment}

/-! ## On the command line -/

namespace Cli

theorem readContact_written {c : Contact} (plain : '=' ∉ c.name.toList) (role : c.role = none) :
    readContact c.written =
      if isEmail c.email then .ok c.trimmed else .error (.badAddress (Text.trim c.email)) := by
  obtain ⟨before, behind⟩ := Text.cut_at_first plain c.email.toList
  have cut : cutAtEquals? c.written = some (c.name, c.email) := by
    have text : c.written.toList = c.name.toList ++ '=' :: c.email.toList := by
      simp [Contact.written]
    rw [cutAtEquals?, text, before, behind]
    simp
  rw [readContact, cut]
  dsimp only
  rw [isEmail_trim, Contact.trimmed, role]

theorem mapM_readContact {contacts : List Contact}
    (plain : ∀ c ∈ contacts, '=' ∉ c.name.toList) (roles : ∀ c ∈ contacts, c.role = none)
    (addresses : ∀ c ∈ contacts, isEmail c.email = true) :
    (contacts.map Contact.written).mapM readContact = .ok (contacts.map Contact.trimmed) := by
  induction contacts with
  | nil => rfl
  | cons c rest ih =>
    rw [List.forall_mem_cons] at plain roles addresses
    rw [List.map_cons, List.mapM_cons, readContact_written plain.1 roles.1, if_pos addresses.1,
      ih plain.2 roles.2 addresses.2]
    rfl

theorem exists_mapM_readContact_error {contacts : List Contact}
    (plain : ∀ c ∈ contacts, '=' ∉ c.name.toList) (roles : ∀ c ∈ contacts, c.role = none)
    (bad : ¬∀ c ∈ contacts, isEmail c.email = true) :
    ∃ e, (contacts.map Contact.written).mapM readContact = .error e := by
  cases read : (contacts.map Contact.written).mapM readContact with
  | error e => exact ⟨e, rfl⟩
  | ok found =>
    refine absurd (fun c mem => ?_) bad
    obtain ⟨c', this⟩ := ok_of_mapM_ok read (List.mem_map_of_mem mem)
    rw [readContact_written (plain c mem) (roles c mem)] at this
    split at this
    next address => exact address
    · exact nomatch this

variable {d : Desk}

theorem Desk.code_madeReport (d : Desk) (i : Intake) : (d.madeReport i).output.code = 0 := by
  rw [madeReport, report]
  split <;> rfl

theorem Desk.createIntake_of_room (plain : b.IsPlain) (addresses : b.HasAddresses)
    (room : d.store.hasRoomFor (d.store.nextId d.moment) = true) :
    ∃ s', d.perform b.command = (d.madeReport (b.asTyped (d.store.nextId d.moment) d.now), s') ∧
      d.store.WroteOnly (d.store.nextId d.moment) s' ∧
      s'.load (d.store.nextId d.moment) = .ok (b.asTyped (d.store.nextId d.moment) d.now) := by
  obtain ⟨address, rest⟩ := List.forall_mem_cons.1 addresses
  have requester : (⟨b.requester.name, b.requester.email, none⟩ : Contact) = b.requester := by
    rw [← plain.requester]
  obtain ⟨s', made, wrote, loaded⟩ := Store.createWithContacts_of_room room b.requestName b.requester
    (b.contacts.map Contact.trimmed)
  refine ⟨s', ?_, wrote, loaded⟩
  change d.createIntake b.requestName b.requester.name b.requester.email
    (b.contacts.map Contact.written) = _
  rw [createIntake, address, mapM_readContact plain.names plain.roles rest, requester, Bool.not_true,
    if_neg Bool.false_ne_true]
  dsimp only
  rw [made]
  rfl

theorem Desk.createIntake_refused (plain : b.IsPlain)
    (never : ¬(b.HasAddresses ∧ d.store.hasRoomFor (d.store.nextId d.moment) = true)) :
    ∃ c s', d.perform b.command = (.refused c, s') ∧ s'.files = d.store.files := by
  change ∃ c s', d.createIntake b.requestName b.requester.name b.requester.email
    (b.contacts.map Contact.written) = _ ∧ _
  rw [createIntake]
  split
  · exact ⟨_, _, rfl, rfl⟩
  next address =>
    split
    · exact ⟨_, _, rfl, rfl⟩
    next contacts read =>
      rw [not_and_or, Bool.not_eq_true] at never
      obtain bad | full := never
      · have others : ¬∀ c ∈ b.contacts, isEmail c.email = true := by
          intro all
          exact bad (List.forall_mem_cons.2 ⟨by simpa using address, all⟩)
        obtain ⟨e, failed⟩ := exists_mapM_readContact_error plain.names plain.roles others
        rw [failed] at read
        cases read
      · obtain ⟨e, s', failed, files⟩ := Store.createWithContacts_of_no_room full b.requestName
          ⟨b.requester.name, b.requester.email, none⟩ contacts
        rw [failed]
        exact ⟨_, s', rfl, files⟩

variable {s : Store} {around : Surroundings} {args : List String} {json : Bool}

theorem run_createIntake_cases (asked : Asks s around args json b.command) (plain : b.IsPlain)
    (m : Moment) :
    ((b.HasAddresses ∧ s.hasRoomFor (s.nextId m) = true) ∧
      (run s m around args).1.code = 0 ∧ s.WroteOnly (s.nextId m) (run s m around args).2 ∧
      (run s m around args).2.load (s.nextId m) = .ok (b.asTyped (s.nextId m) m.now)) ∨
    (¬(b.HasAddresses ∧ s.hasRoomFor (s.nextId m) = true) ∧
      (run s m around args).1.code ≠ 0 ∧ (run s m around args).2.files = s.files) := by
  obtain ⟨path, performed⟩ := run_of_asks asked nofun m
  rw [performed]
  by_cases made : b.HasAddresses ∧ s.hasRoomFor (s.nextId m) = true
  · obtain ⟨s', done, wrote, loaded⟩ := Desk.createIntake_of_room (d := ⟨s, path, m, json⟩) plain
      made.1 made.2
    rw [done]
    exact .inl ⟨made, Desk.code_madeReport _ _, wrote, loaded⟩
  · obtain ⟨c, s', done, files⟩ := Desk.createIntake_refused (d := ⟨s, path, m, json⟩) plain made
    rw [done]
    exact .inr ⟨made, Nat.one_ne_zero, files⟩

end Cli

/-! ## In a request to the server -/

namespace Server

variable {server : Server} {r : ApiRequest}

theorem answer_of_posts_intake (posted : r.Posts .intakes b) :
    server.answer m r = server.createIntake m b := by
  obtain answered | ⟨empty, -⟩ := answer_of_posts posted rfl server m
  · rw [answered, answerPost, posted.value, withValue]
  · exact absurd empty List.not_mem_nil

theorem createIntake_of_room (addresses : b.HasAddresses) (named : Text.trim b.requestName ≠ "")
    (room : server.store.hasRoomFor (server.store.nextId m) = true) :
    ∃ s', server.createIntake m b =
        (.ok (encode (b.asPosted (server.store.nextId m) m.now)), server.announcing s') ∧
      server.store.WroteOnly (server.store.nextId m) s' ∧
      s'.load (server.store.nextId m) = .ok (b.asPosted (server.store.nextId m) m.now) := by
  obtain ⟨s', made, wrote, loaded⟩ := Store.createWithContacts_of_room room
    (Text.trim b.requestName) b.requester b.contacts
  refine ⟨s', ?_, wrote, loaded⟩
  rw [createIntake, b.checked_eq addresses named]
  dsimp only
  rw [made]
  rfl

theorem createIntake_refused
    (never : ¬((b.HasAddresses ∧ Text.trim b.requestName ≠ "") ∧
      server.store.hasRoomFor (server.store.nextId m) = true)) :
    (server.createIntake m b).1.status ∈ Reply.refusals ∧
      (server.createIntake m b).2.store.files = server.store.files := by
  rw [createIntake]
  split
  next e _ => exact ⟨e.status_mem_refusals, rfl⟩
  next name checked =>
    rw [not_and_or, not_and_or, not_not, Bool.not_eq_true] at never
    obtain bad | full := never
    · obtain ⟨e, failed⟩ := NewIntake.exists_checked_error bad
      rw [failed] at checked
      cases checked
    · obtain ⟨e, s', failed, files⟩ := Store.createWithContacts_of_no_room full name b.requester
        b.contacts
      rw [failed]
      exact ⟨e.status_mem_refusals, files⟩

theorem answer_createIntake_cases (posted : r.Posts .intakes b) (server : Server) (m : Moment) :
    (((b.HasAddresses ∧ Text.trim b.requestName ≠ "") ∧
        server.store.hasRoomFor (server.store.nextId m) = true) ∧
      (server.answer m r).1 = .ok (encode (b.asPosted (server.store.nextId m) m.now)) ∧
      server.store.WroteOnly (server.store.nextId m) (server.answer m r).2.store ∧
      (server.answer m r).2.store.load (server.store.nextId m) =
        .ok (b.asPosted (server.store.nextId m) m.now)) ∨
    (¬((b.HasAddresses ∧ Text.trim b.requestName ≠ "") ∧
        server.store.hasRoomFor (server.store.nextId m) = true) ∧
      (server.answer m r).1.status ∈ Reply.refusals ∧
      (server.answer m r).2.store.files = server.store.files) := by
  rw [answer_of_posts_intake posted]
  by_cases made : (b.HasAddresses ∧ Text.trim b.requestName ≠ "") ∧
      server.store.hasRoomFor (server.store.nextId m) = true
  · obtain ⟨s', done, wrote, loaded⟩ := createIntake_of_room made.1.1 made.1.2 made.2
    rw [done]
    exact .inl ⟨made, rfl, wrote, loaded⟩
  · exact .inr ⟨made, createIntake_refused made⟩

end Server

/-! ## Both alike -/

/-- Neither front end changes a file, or each writes one request, and the two requests agree in
everything but their ids and their times. -/
def MadeAlike (s : Store) (id id' : String) (typed : Cli.Output × Store) (posted : Reply × Server) :
    Prop :=
  (∃ i j, (typed.1.code = 0 ∧ s.WroteOnly id typed.2 ∧ typed.2.load id = .ok i) ∧
    (posted.1 = .ok (encode j) ∧ s.WroteOnly id' posted.2.store ∧
      posted.2.store.load id' = .ok j) ∧
    j = { i with id := j.id, createdAt := j.createdAt, updatedAt := j.updatedAt }) ∨
  (typed.1.code ≠ 0 ∧ typed.2.files = s.files) ∧
    posted.1.status ∈ Reply.refusals ∧ posted.2.store.files = s.files

namespace MadeAlike

variable {s : Store} {id id' : String} {typed : Cli.Output × Store} {posted : Reply × Server}

theorem code_eq_zero_iff (h : MadeAlike s id id' typed posted) :
    typed.1.code = 0 ↔ posted.1.status = 200 := by
  obtain ⟨i, j, ⟨code, -⟩, ⟨reply, -⟩, -⟩ | ⟨⟨code, -⟩, refusal, -⟩ := h
  · rw [reply]
    exact iff_of_true code rfl
  · exact iff_of_false code (Reply.status_ne_of_mem_refusals refusal)

/-- Where both make a request, it is these two that have to agree. -/
theorem iff_of_made {i j : Intake}
    (made : typed.1.code = 0 ∧ s.WroteOnly id typed.2 ∧ typed.2.load id = .ok i)
    (made' : posted.1 = .ok (encode j) ∧ s.WroteOnly id' posted.2.store ∧
      posted.2.store.load id' = .ok j) :
    MadeAlike s id id' typed posted ↔
      j = { i with id := j.id, createdAt := j.createdAt, updatedAt := j.updatedAt } := by
  constructor
  · rintro (⟨i', j', ⟨-, -, loaded⟩, ⟨-, -, loaded'⟩, same⟩ | ⟨⟨code, -⟩, -⟩)
    · cases made.2.2.symm.trans loaded
      cases made'.2.2.symm.trans loaded'
      exact same
    · exact absurd made.1 code
  · exact fun same => .inl ⟨i, j, made, made', same⟩

end MadeAlike

/-- Trimming is all that makes a difference. -/
theorem NewIntake.asPosted_eq_iff {id id' : String} {now now' : Instant} :
    b.asPosted id' now' = { b.asTyped id now with
        id := (b.asPosted id' now').id, createdAt := (b.asPosted id' now').createdAt,
        updatedAt := (b.asPosted id' now').updatedAt } ↔
      Text.trim b.requestName = b.requestName ∧ ∀ c ∈ b.contacts, c.trimmed = c := by
  rw [← Contact.map_trimmed_eq_self_iff, eq_comm (a := b.contacts.map Contact.trimmed)]
  simp [asPosted, asTyped, Intake.opened]

/-- A new request is asked for on a command line and in a request to the server, from the same
store. Both make the same of it exactly when both make it and there is nothing to trim, or when
neither makes it. The command line makes it without a look at its name. -/
theorem Server.created_alike_iff (server : Server) (m m' : Moment) {around : Cli.Surroundings}
    {args : List String} {json : Bool} {r : ApiRequest}
    (typed : Cli.Asks server.store around args json b.command) (posted : r.Posts .intakes b)
    (plain : b.IsPlain) :
    MadeAlike server.store (server.store.nextId m) (server.store.nextId m')
        (Cli.run server.store m around args) (server.answer m' r) ↔
      (b.IsTidy ∧ b.HasAddresses ∧ server.store.hasRoomFor (server.store.nextId m) = true ∧
        server.store.hasRoomFor (server.store.nextId m') = true) ∨
      (¬(b.HasAddresses ∧ server.store.hasRoomFor (server.store.nextId m) = true) ∧
        ¬((b.HasAddresses ∧ Text.trim b.requestName ≠ "") ∧
          server.store.hasRoomFor (server.store.nextId m') = true)) := by
  have atLine := Cli.run_createIntake_cases typed plain m
  have atServer := answer_createIntake_cases posted server m'
  obtain ⟨made, facts⟩ | ⟨never, refused⟩ := atLine
  · obtain ⟨made', facts'⟩ | ⟨never', refused'⟩ := atServer
    · rw [MadeAlike.iff_of_made facts facts', NewIntake.asPosted_eq_iff]
      constructor
      · rintro ⟨name, contacts⟩
        exact .inl ⟨⟨⟨name, name ▸ made'.1.2⟩, contacts⟩, made.1, made.2, made'.2⟩
      · rintro (⟨tidy, -⟩ | ⟨never, -⟩)
        · exact ⟨tidy.name.1, tidy.contacts⟩
        · exact absurd made never
    · refine iff_of_false (fun alike => ?_) ?_
      · exact Reply.status_ne_of_mem_refusals refused'.1 (alike.code_eq_zero_iff.1 facts.1)
      · rintro (⟨tidy, addresses, -, room'⟩ | ⟨never, -⟩)
        · exact never' ⟨⟨addresses, tidy.trim_ne⟩, room'⟩
        · exact never made
  · obtain ⟨made', facts'⟩ | ⟨never', refused'⟩ := atServer
    · refine iff_of_false (fun alike => ?_) ?_
      · have well : (server.answer m' r).1.status = 200 := by
          rw [facts'.1]
          rfl
        exact refused.1 (alike.code_eq_zero_iff.2 well)
      · rintro (⟨-, addresses, room, -⟩ | ⟨-, never'⟩)
        · exact never ⟨addresses, room⟩
        · exact never' made'
    · exact iff_of_true (.inr ⟨refused, refused'⟩) (.inr ⟨never, never'⟩)

/-! ### A request with a contact, and one without a name -/

namespace Server

def secondMoment : Moment := ⟨Store.noon, fun _ => "r2"⟩

def tidyIntake : NewIntake :=
  ⟨"Data platform", ⟨"Ada", "ada@x.gov", none⟩, [⟨"Bo", "bo@x.gov", none⟩]⟩

def blankIntake : NewIntake := ⟨"  ", ⟨"Ada", "ada@x.gov", none⟩, []⟩

def lineOf (b : NewIntake) : List String :=
  Cli.Verb.createIntake.line b.options [b.requestName]

def intakeRequest (body : String) : ApiRequest :=
  ⟨"POST", "/api/intakes", some "application/json", body⟩

def tidyRequest : ApiRequest := intakeRequest
  ("\x7b\"request_name\":\"Data platform\"," ++
    "\"requester\":\x7b\"name\":\"Ada\",\"email\":\"ada@x.gov\"\x7d," ++
    "\"contacts\":[\x7b\"name\":\"Bo\",\"email\":\"bo@x.gov\"\x7d]\x7d")

def blankRequest : ApiRequest := intakeRequest
  ("\x7b\"request_name\":\"  \"," ++
    "\"requester\":\x7b\"name\":\"Ada\",\"email\":\"ada@x.gov\"\x7d\x7d")

theorem asks_lineOf (b : NewIntake) :
    Cli.Asks Store.emptyDesk Cli.inFolder (lineOf b) false b.command :=
  Cli.asks_of_read b.read_line rfl (by decide +kernel)

theorem posts_tidyRequest : tidyRequest.Posts .intakes tidyIntake where
  method := rfl
  route := by decide +kernel
  value := ok_of_toOption_eq_some (by decide +kernel)

theorem isPlain_tidyIntake : tidyIntake.IsPlain := ⟨rfl, by decide, by decide⟩

theorem created_alike_iff_tidy :
    Cli.Asks Store.emptyDesk Cli.inFolder (lineOf tidyIntake) false tidyIntake.command ∧
    tidyRequest.Posts .intakes tidyIntake ∧ tidyIntake.IsPlain ∧
    MadeAlike Store.emptyDesk "r1" "r2"
      (Cli.run Store.emptyDesk Store.firstMoment Cli.inFolder (lineOf tidyIntake))
      ((start Store.emptyDesk).answer secondMoment tidyRequest) := by
  have tidy : tidyIntake.IsTidy := ⟨by decide +kernel, by decide +kernel⟩
  refine ⟨asks_lineOf tidyIntake, posts_tidyRequest, isPlain_tidyIntake, ?_⟩
  exact (created_alike_iff (start Store.emptyDesk) Store.firstMoment secondMoment
    (asks_lineOf tidyIntake) posts_tidyRequest isPlain_tidyIntake).2
    (.inl ⟨tidy, by decide +kernel, by decide +kernel, by decide +kernel⟩)

/-- The command line makes a request without a name; the server refuses it. -/
theorem blank_name_made_on_command_line :
    Cli.Asks Store.emptyDesk Cli.inFolder (lineOf blankIntake) false blankIntake.command ∧
    blankRequest.Posts .intakes blankIntake ∧ blankIntake.IsPlain ∧
    (∃ i, (Cli.run Store.emptyDesk Store.firstMoment Cli.inFolder (lineOf blankIntake)).2.load "r1" =
      .ok i ∧ i.requestName = "  ") ∧
    ((start Store.emptyDesk).answer secondMoment blankRequest).1.status ∈ Reply.refusals ∧
    ¬MadeAlike Store.emptyDesk "r1" "r2"
      (Cli.run Store.emptyDesk Store.firstMoment Cli.inFolder (lineOf blankIntake))
      ((start Store.emptyDesk).answer secondMoment blankRequest) := by
  have posted : blankRequest.Posts .intakes blankIntake :=
    ⟨rfl, by decide +kernel, ok_of_toOption_eq_some (by decide +kernel)⟩
  have plain : blankIntake.IsPlain := ⟨rfl, by decide, by decide⟩
  have room : blankIntake.HasAddresses ∧
      Store.emptyDesk.hasRoomFor (Store.emptyDesk.nextId Store.firstMoment) = true := by
    decide +kernel
  have blank : Text.trim blankIntake.requestName = "" := by
    decide +kernel
  have atLine := Cli.run_createIntake_cases (asks_lineOf blankIntake) plain Store.firstMoment
  have atServer := answer_createIntake_cases posted (start Store.emptyDesk) secondMoment
  obtain ⟨-, made, -, loaded⟩ := atLine.resolve_right fun never => never.1 room
  obtain ⟨-, refused, -⟩ := atServer.resolve_left fun made => made.1.1.2 blank
  refine ⟨asks_lineOf blankIntake, posted, plain, ⟨_, loaded, rfl⟩, refused, fun alike => ?_⟩
  exact Reply.status_ne_of_mem_refusals refused (alike.code_eq_zero_iff.1 made)

end Server

end GovernanceDesk
