import GovernanceDesk.Proofs.FrontEnds.Asking

/-!
# Feedback from either front end

The command line reads the target and the source of a feedback before its text, the server reads the
text first, and each has its own way to fill in a source that is not given. Still both add the same
records: either front end adds a record exactly when the texts stand for one, the request is there
and its manifest can be written, and the store is then the same.

* `NewFeedback.command`, `NewFeedback.read_line`: the command that asks for a feedback, and a line
  that is read as it.
* `Store.FeedbackAdded`: what it is for a feedback to be added.
* `Cli.Desk.addFeedback_of_added`, `Server.answer_of_added`: each front end adds it.
* `Cli.Desk.addFeedback_of_not_added`, `Server.answer_of_not_added`: or refuses.
* `Server.feedback_added_alike`: so both do the same.
-/

namespace GovernanceDesk
set_option autoImplicit false

/-! ## What is asked for -/

namespace NewFeedback

/-- The command line names the usual source where none is given. -/
def command (b : NewFeedback) (id : String) : Cli.Command :=
  .addFeedback id b.target (b.source.getD "governance-team") b.author b.text

def options (b : NewFeedback) : List (String × String) :=
  ("target", b.target) ::
    ((b.source.map fun kind => ("type", kind)).toList ++
      (b.author.map fun author => ("author", author)).toList)

theorem takes_options (b : NewFeedback) : Cli.Verb.addFeedback.Takes b.options := by
  obtain ⟨target, source, text, author⟩ := b
  constructor
  · have target' : Cli.Verb.addFeedback.accepts "target" target = true := rfl
    have type' : ∀ kind, Cli.Verb.addFeedback.accepts "type" kind = true := fun _ => rfl
    have author' : ∀ name, Cli.Verb.addFeedback.accepts "author" name = true := fun _ => rfl
    cases source <;> cases author <;> simp [options, target', type', author']
  · cases source <;> cases author <;> simp [options]

/-- Every feedback can be asked for on a command line. -/
theorem read_line (b : NewFeedback) (id : String) :
    Cli.Invocation.read (Cli.Verb.addFeedback.line b.options [id, b.text]) =
      .ok ⟨none, false, b.command id⟩ := by
  have command : Cli.Command.ofArguments? .addFeedback
      (.withOperands .addFeedback b.options [id, b.text]) = some (b.command id) := by
    obtain ⟨target, source, text, author⟩ := b
    cases source <;> cases author <;> rfl
  rw [Cli.Invocation.read_line b.takes_options (fun most bounded => nomatch bounded) rfl command]
  obtain ⟨target, source, text, author⟩ := b
  cases source <;> cases author <;> rfl

/-- The source that is asked for; the governance team is the usual one. -/
def readSource (b : NewFeedback) : Except Failure FeedbackSource :=
  match b.source with
  | some written => Tagged.read written
  | none => .ok .governanceTeam

theorem read_source_getD (b : NewFeedback) :
    Tagged.read (b.source.getD "governance-team") = b.readSource := by
  rw [readSource]
  cases b.source with
  | some written => rfl
  | none =>
    have usual : Tagged.ofSpelling? "governance-team" = some FeedbackSource.governanceTeam := by
      decide +kernel
    rw [Option.getD_none, Tagged.read, usual]

theorem checked_eq_ok_iff {b : NewFeedback} {text : String} {target : FeedbackTarget}
    {source : FeedbackSource} :
    b.checked = .ok (text, target, source) ↔
      (text = Text.trim b.text ∧ text ≠ "") ∧ Tagged.read b.target = .ok target ∧
        b.readSource = .ok source := by
  have said : b.checked = if (Text.trim b.text).isEmpty then .error (.invalid (.blank "feedback"))
      else Tagged.read b.target >>= fun target => b.readSource >>= fun source =>
        .ok (Text.trim b.text, target, source) := by
    obtain ⟨target, source, text, author⟩ := b
    cases source <;> rfl
  rw [said]
  constructor
  · intro checked
    split at checked
    · exact nomatch checked
    next nonblank =>
      obtain ⟨target', readTarget, rest⟩ := ok_of_bind_ok checked
      obtain ⟨source', readSource, rest⟩ := ok_of_bind_ok rest
      cases rest
      exact ⟨⟨rfl, by simpa using nonblank⟩, readTarget, readSource⟩
  · rintro ⟨⟨rfl, nonblank⟩, readTarget, readSource⟩
    rw [if_neg (by simpa using nonblank), readTarget, readSource]
    rfl

end NewFeedback

/-! ## What it is to add a record -/

/-- A record is added to a request as it was asked for, and the request is saved with it. -/
structure Store.FeedbackAdded (s : Store) (m : Moment) (id : String) (b : NewFeedback) (i : Intake)
    (f : Feedback) (s' : Store) : Prop where
  loaded : s.load id = .ok i
  numbered : f.id = Feedback.nextId i.feedback
  target : Tagged.read b.target = .ok f.target
  source : b.readSource = .ok f.source
  text : f.text = Text.trim b.text
  nonblank : f.text ≠ ""
  author : f.author = b.author
  dated : f.createdAt = m.now
  saved : s.save { i with feedback := i.feedback ++ [f] } = .ok s'

variable {s s' : Store} {m : Moment} {id : String} {b : NewFeedback} {i : Intake} {f : Feedback}

theorem Store.FeedbackAdded.record_eq (h : s.FeedbackAdded m id b i f s') :
    f = ⟨Feedback.nextId i.feedback, f.target, f.source, Text.trim b.text, b.author, m.now⟩ := by
  rw [← h.numbered, ← h.text, ← h.author, ← h.dated]

theorem Store.FeedbackAdded.withFeedback_eq (h : s.FeedbackAdded m id b i f s') :
    i.withFeedback f.target f.source (Text.trim b.text) b.author m.now =
      { i with feedback := i.feedback ++ [f] } := by
  rw [Intake.withFeedback, Feedback.append, ← h.record_eq]

theorem Store.FeedbackAdded.not_isEmpty (h : s.FeedbackAdded m id b i f s') :
    ¬(Text.trim b.text).isEmpty = true := by
  rw [← h.text]
  simpa using h.nonblank

/-! ## On the command line -/

namespace Cli

/-- What the command line says of a record that was added to the request of an id. -/
def addedReport (json : Bool) (id : String) (f : Feedback) : Report :=
  if json then .value (.fields [("feedback_id", .text f.id), ("id", .text id)])
  else .lines ["Added feedback [" ++ f.id ++ "] on " ++ f.target.stage.label]

theorem Desk.finish_of_not_ok {d : Desk} {result : Except Complaint (Report × Store)}
    (never : ∀ report s', result ≠ .ok (report, s')) :
    ∃ c, d.finish result = (.refused c, d.store) := by
  cases result with
  | ok r => exact absurd rfl (never r.1 r.2)
  | error c => exact ⟨c, rfl⟩

theorem Desk.addFeedback_of_added {d : Desk} (h : d.store.FeedbackAdded d.moment id b i f s') :
    d.addFeedback id b.target (b.source.getD "governance-team") b.author b.text =
      (addedReport d.json i.id f, s') := by
  have loaded : d.load id = .ok i := by
    rw [Desk.load, h.loaded]
    rfl
  have saved : d.save (i.withFeedback f.target f.source (Text.trim b.text) b.author d.now) =
      .ok s' := by
    rw [Desk.save, Desk.now, h.withFeedback_eq, h.saved]
    rfl
  rw [Desk.addFeedback, h.target, b.read_source_getD, h.source]
  simp only [Except.mapError, bind, Except.bind, if_neg h.not_isEmpty, loaded, saved]
  rw [addedReport, h.numbered]
  rfl

theorem Desk.addFeedback_of_not_added {d : Desk}
    (never : ¬ ∃ i f s', d.store.FeedbackAdded d.moment id b i f s') :
    ∃ c, d.addFeedback id b.target (b.source.getD "governance-team") b.author b.text =
      (.refused c, d.store) := by
  rw [addFeedback]
  refine finish_of_not_ok fun report s' done => never ?_
  obtain ⟨target, readTarget, rest⟩ := ok_of_bind_ok done
  obtain ⟨source, readSource, rest⟩ := ok_of_bind_ok rest
  rw [b.read_source_getD] at readSource
  dsimp only at rest
  split at rest
  · exact nomatch rest
  next nonblank =>
    obtain ⟨i, loaded, rest⟩ := ok_of_bind_ok rest
    obtain ⟨s'', saved, -⟩ := ok_of_bind_ok rest
    exact ⟨i, ⟨Feedback.nextId i.feedback, target, source, Text.trim b.text, b.author, d.now⟩, s'',
      ok_of_mapError_ok loaded, rfl, ok_of_mapError_ok readTarget, ok_of_mapError_ok readSource,
      rfl, by simpa using nonblank, rfl, rfl, ok_of_mapError_ok saved⟩

end Cli

/-! ## In a request to the server -/

namespace Server

theorem finish_of_not_ok {server : Server} {result : Except Failure (Tree × Store)}
    (never : ∀ view s', result ≠ .ok (view, s')) :
    ∃ e, server.finish result = (.ofFailure e, server) := by
  cases result with
  | ok r => exact absurd rfl (never r.1 r.2)
  | error e => exact ⟨e, rfl⟩

theorem addFeedback_of_added {server : Server} (h : server.store.FeedbackAdded m id b i f s') :
    server.addFeedback m id b =
      (.ok (recordView { i with feedback := i.feedback ++ [f] } f.id), server.announcing s') := by
  have checked : b.checked = .ok (Text.trim b.text, f.target, f.source) :=
    NewFeedback.checked_eq_ok_iff.2 ⟨⟨rfl, h.text ▸ h.nonblank⟩, h.target, h.source⟩
  have added : server.store.addFeedback m id f.target f.source (Text.trim b.text) b.author =
      .ok ({ i with feedback := i.feedback ++ [f] }, f.id, s') := by
    rw [Store.addFeedback, h.loaded]
    change (server.store.save _ >>= fun s' => _) = _
    rw [h.withFeedback_eq, h.saved, h.numbered]
    rfl
  rw [addFeedback, checked]
  change server.finish (server.store.addFeedback m id f.target f.source (Text.trim b.text) b.author
    >>= _) = _
  rw [added]
  rfl

theorem addFeedback_of_not_added {server : Server}
    (never : ¬ ∃ i f s', server.store.FeedbackAdded m id b i f s') :
    ∃ e, server.addFeedback m id b = (.ofFailure e, server) := by
  rw [addFeedback]
  refine finish_of_not_ok fun view s' done => never ?_
  obtain ⟨⟨text, target, source⟩, checked, rest⟩ := ok_of_bind_ok done
  obtain ⟨⟨text', nonblank⟩, readTarget, readSource⟩ := NewFeedback.checked_eq_ok_iff.1 checked
  obtain ⟨⟨k, feedbackId, s''⟩, stored, -⟩ := ok_of_bind_ok rest
  obtain ⟨i, loaded, rest⟩ := ok_of_bind_ok stored
  obtain ⟨saved, written, -⟩ := ok_of_bind_ok rest
  exact ⟨i, ⟨Feedback.nextId i.feedback, target, source, text, b.author, m.now⟩, saved, loaded, rfl,
    readTarget, readSource, text', nonblank, rfl, rfl, written⟩

/-- A record of the request is found by its id, and what is found has that id. -/
theorem recordView_of_mem (mem : f ∈ i.feedback) :
    ∃ g ∈ i.feedback, g.id = f.id ∧ recordView i f.id = g.view := by
  have found : (i.feedback.find? fun g => g.id == f.id).isSome = true :=
    List.find?_isSome.2 ⟨f, mem, beq_self_eq_true f.id⟩
  obtain ⟨g, first⟩ := Option.isSome_iff_exists.1 found
  refine ⟨g, List.mem_of_find?_eq_some first, by simpa using List.find?_some first, ?_⟩
  rw [recordView, first]

/-- Feedback that is posted is added, unless the id of the request is empty. -/
theorem answer_of_posts_feedback {r : ApiRequest} (server : Server) (m : Moment)
    (posted : r.Posts (.feedback id) b) :
    server.answer m r = server.addFeedback m id b ∨
      id = "" ∧ server.answer m r = (.bare 404, server) := by
  obtain answered | ⟨empty, answered⟩ := answer_of_posts posted rfl server m
  · left
    rw [answered, answerPost, posted.value, withValue]
  · exact .inr ⟨(List.mem_singleton.1 empty).symm, answered⟩

theorem answer_of_added {server : Server} {r : ApiRequest} (posted : r.Posts (.feedback id) b)
    (h : server.store.FeedbackAdded m id b i f s') :
    ∃ g ∈ i.feedback ++ [f], g.id = f.id ∧
      server.answer m r = (.ok g.view, server.announcing s') := by
  obtain ⟨g, mem, same, view⟩ := recordView_of_mem (i := { i with feedback := i.feedback ++ [f] })
    (List.mem_append_right i.feedback (List.mem_singleton_self f))
  refine ⟨g, mem, same, ?_⟩
  obtain answered | ⟨rfl, -⟩ := server.answer_of_posts_feedback m posted
  · rw [answered, addFeedback_of_added h, view]
  · exact absurd (Store.isIntakeId_of_load h.loaded) (by decide)

theorem answer_of_not_added {server : Server} {r : ApiRequest} (posted : r.Posts (.feedback id) b)
    (never : ¬ ∃ i f s', server.store.FeedbackAdded m id b i f s') :
    (server.answer m r).1.status ∈ Reply.refusals ∧ (server.answer m r).2 = server := by
  obtain answered | ⟨-, answered⟩ := server.answer_of_posts_feedback m posted
  · obtain ⟨e, refused⟩ := addFeedback_of_not_added never
    rw [answered, refused]
    exact ⟨e.status_mem_refusals, rfl⟩
  · rw [answered]
    exact ⟨show (404 : Nat) ∈ Reply.refusals by decide, rfl⟩

/-! ## Both alike -/

/-- A feedback that is asked for on a command line or in a request to the server, at the same time
and from the same store, is added by both or by neither. Either both lead to the same store and name
the same id for the new record, or both leave the store as it was. -/
theorem feedback_added_alike (server : Server) (m : Moment) {around : Cli.Surroundings}
    {args : List String} {json : Bool} {r : ApiRequest}
    (typed : Cli.Asks server.store around args json (b.command id))
    (posted : r.Posts (.feedback id) b) :
    (∃ i f s', server.store.FeedbackAdded m id b i f s' ∧
      Cli.run server.store m around args = ((Cli.addedReport json i.id f).output, s') ∧
      (Cli.addedReport json i.id f).output.code = 0 ∧
      ∃ g ∈ i.feedback ++ [f], g.id = f.id ∧
        server.answer m r = (.ok g.view, server.announcing s')) ∨
    ((Cli.run server.store m around args).1.code = 1 ∧
        (Cli.run server.store m around args).2 = server.store) ∧
      (server.answer m r).1.status ∈ Reply.refusals ∧ (server.answer m r).2 = server := by
  obtain ⟨path, run⟩ := Cli.run_of_asks typed nofun m
  have performed : Cli.Desk.perform ⟨server.store, path, m, json⟩ (b.command id) =
      Cli.Desk.addFeedback ⟨server.store, path, m, json⟩ id b.target
        (b.source.getD "governance-team") b.author b.text := rfl
  rw [performed] at run
  by_cases added : ∃ i f s', server.store.FeedbackAdded m id b i f s'
  · obtain ⟨i, f, s', h⟩ := added
    left
    refine ⟨i, f, s', h, ?_, ?_, answer_of_added posted h⟩
    · rw [run, Cli.Desk.addFeedback_of_added h]
    · rw [Cli.addedReport]
      split <;> rfl
  · right
    obtain ⟨c, refused⟩ := Cli.Desk.addFeedback_of_not_added
      (d := ⟨server.store, path, m, json⟩) added
    rw [run, refused]
    exact ⟨⟨rfl, rfl⟩, answer_of_not_added posted added⟩

/-- A plan is missing; the target is not spelled as records spell it. -/
def planned : NewFeedback := ⟨"intake-request", none, " Add a plan ", some "Grace"⟩

def plannedLine : List String :=
  Cli.Verb.addFeedback.line planned.options ["r1", planned.text]

def plannedRequest : ApiRequest where
  method := "POST"
  address := "/api/intakes/r1/feedback"
  mediaType := some "application/json"
  body := "\x7b\"target_form\": \"intake-request\", \"feedback\": \" Add a plan \", " ++
    "\"author\": \"Grace\"\x7d"

theorem asks_plannedLine :
    Cli.Asks Store.smallDesk Cli.inFolder plannedLine false (planned.command "r1") :=
  Cli.asks_of_read (planned.read_line "r1") rfl (by decide +kernel)

theorem posts_plannedRequest : plannedRequest.Posts (.feedback "r1") planned where
  method := rfl
  route := by decide +kernel
  value := ok_of_toOption_eq_some (by decide +kernel)

theorem feedback_added_alike_plan :
    Cli.Asks Store.smallDesk Cli.inFolder plannedLine false (planned.command "r1") ∧
    plannedRequest.Posts (.feedback "r1") planned ∧
    ∃ i f s', Store.smallDesk.FeedbackAdded Store.firstMoment "r1" planned i f s' ∧
      f.id = "FB1" ∧ f.text = "Add a plan" ∧
      (Cli.run Store.smallDesk Store.firstMoment Cli.inFolder plannedLine).2 = s' ∧
      ((start Store.smallDesk).answer Store.firstMoment plannedRequest).2.store = s' := by
  have done : (Cli.run Store.smallDesk Store.firstMoment Cli.inFolder plannedLine).1.code = 0 := by
    decide +kernel
  refine ⟨asks_plannedLine, posts_plannedRequest, ?_⟩
  obtain ⟨i, f, s', added, run, -, g, -, -, answer⟩ | ⟨⟨failed, -⟩, -⟩ :=
    feedback_added_alike (start Store.smallDesk) Store.firstMoment asks_plannedLine
      posts_plannedRequest
  · refine ⟨i, f, s', added, ?_, ?_, congrArg Prod.snd run, ?_⟩
    · have loaded := added.loaded.symm.trans Store.load_smallDesk
      cases loaded
      rw [added.numbered]
      decide
    · rw [added.text]
      decide +kernel
    · rw [answer]
      rfl
  · exact absurd (done.symm.trans failed) (by decide)

end Server

end GovernanceDesk
