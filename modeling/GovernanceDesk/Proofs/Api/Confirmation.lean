import GovernanceDesk.Api.Server
import GovernanceDesk.Proofs.Store.Footprint
import GovernanceDesk.Proofs.Store.Validated

/-!
# Looking at a form and submitting it

A client that looks at the form of an action is shown the question that the action will ask. The
submission that follows is a request of its own, on a form that is opened anew, perhaps on another
day. If what it fills in passes the check, the answer keeps to what was shown.

* `Reply.confirmation?`: the question that a reply shows.
* `ApiRequest.isOn`: the requests on one action of one intake.
* `Submission.validates`: whether the form that a submission fills in passes its check.
* `Server.confirmation_kept`: what is shown, what is asked and what is answered once it is confirmed.
-/

namespace GovernanceDesk
set_option autoImplicit false

/-- The confirmation in the value of a reply, unless it is null. -/
def Reply.confirmation? : Reply → Option Tree
  | .value _ body =>
    (body.fields?.bind (List.lookup "confirmation")).filter fun t => !t.isNull
  | _ => none

/-! ## Requests on one action -/

/-- Whether a request is about an action of an intake, however its address is written. -/
def ApiRequest.isOn (r : ApiRequest) (id kind : String) : Prop :=
  (Route.ofAddress? r.address).bind Route.decodedNames? = some (.action id kind)

instance (r : ApiRequest) (id kind : String) : Decidable (r.isOn id kind) :=
  inferInstanceAs (Decidable (_ = _))

/-- What a submission asks the store to run. -/
def Submission.request (b : Submission) (id : String) (kind : ActionKind) : ActionRequest :=
  ⟨id, kind, b.values, b.recipients, b.button, b.confirmed⟩

/-- Whether the form that a submission fills in passes its check. -/
def Submission.validates (b : Submission) (s : Store) (today : Date) (id kind : String) : Bool :=
  (ActionKind.read kind).toOption.any fun kind => s.validates today (b.request id kind)

namespace Submission

variable {b : Submission} {s : Store} {today : Date} {id kind : String}

theorem exists_kind_of_validates (valid : b.validates s today id kind = true) :
    ∃ k, ActionKind.read kind = .ok k ∧ s.validates today (b.request id k) = true := by
  rw [validates] at valid
  cases read : ActionKind.read kind with
  | error e =>
    rw [read] at valid
    exact nomatch valid
  | ok k =>
    rw [read] at valid
    exact ⟨k, rfl, valid⟩

/-- Neither the day nor a confirmation given with it plays a part in the check of a submission. -/
theorem validates_confirmed (valid : b.validates s today id kind = true) (day : Date)
    (confirmed : Bool) : { b with confirmed := confirmed }.validates s day id kind = true := by
  obtain ⟨k, read, valid⟩ := exists_kind_of_validates valid
  rw [validates, read]
  exact Store.validates_anotherDay valid day

end Submission

namespace Server

variable {server : Server} {m : Moment} {r : ApiRequest} {id kind : String}

theorem allowsPost_of_decodedNames {route : Route}
    (decoded : route.decodedNames? = some (.action id kind)) : route.allowsPost = true := by
  cases route with
  | action id' kind' => rfl
  | intake part | taskList part | feedback part | actions part =>
    obtain ⟨_, -, other⟩ := Option.map_eq_some_iff.1 decoded
    exact nomatch other
  | events | config | intakes => exact nomatch decoded

theorem answer_get (looks : r.method = "GET") (on : r.isOn id kind) :
    server.answer m r = (server.answerGet m (.action id kind), server) := by
  obtain ⟨route, addressed, decoded⟩ := Option.bind_eq_some_iff.1 on
  have allowed : route.allows r.method = true := by rw [Route.allows, looks]; rfl
  rw [answer, looks, addressed]
  simp only [String.reduceBEq, Bool.false_eq_true, if_false]
  rw [answerOn, allowed, decoded, looks]
  simp only [Bool.not_true, String.reduceBEq, Bool.false_eq_true, if_false]

theorem answer_submission (posts : r.method = "POST") (on : r.isOn id kind) {b : Submission}
    (sent : (r.value : Except Reply Submission) = .ok b) :
    server.answer m r = server.submit m id kind b := by
  obtain ⟨route, addressed, decoded⟩ := Option.bind_eq_some_iff.1 on
  have allowed : route.allows r.method = true := by
    rw [Route.allows, posts, allowsPost_of_decodedNames decoded]
    rfl
  rw [answer, posts, addressed]
  simp only [String.reduceBEq, Bool.false_eq_true, if_false]
  rw [answerOn, allowed, decoded, posts]
  simp only [Bool.not_true, beq_self_eq_true, Bool.false_eq_true, if_false, if_true]
  rw [answerPost, sent, withValue]

/-! ## Looking -/

theorem confirmation?_view (f : ActionForm) (ctx : ActionContext) :
    (Reply.ok (f.view ctx)).confirmation? =
      (f.kind.confirmation? ctx).map Confirmation.encoded := by
  have entry : (Reply.ok (f.view ctx)).confirmation? =
      (some (f.kind.confirmationView ctx)).filter fun t => !t.isNull := rfl
  rw [entry, ActionKind.confirmationView]
  cases f.kind.confirmation? ctx <;> rfl

/-- The form of an action is shown with the question that the action asks on that request. -/
theorem answerGet_action {k : ActionKind} {ctx : ActionContext} (read : ActionKind.read kind = .ok k)
    (loaded : server.store.loadContext id m.today = .ok ctx) :
    (server.answerGet m (.action id kind)).status = 200 ∧
      (server.answerGet m (.action id kind)).confirmation? =
        (k.confirmation? ctx).map Confirmation.encoded := by
  obtain ⟨f, hydrated, kept⟩ : ∃ f, (ActionForm.fresh k id).hydrate (.ok ctx) = .ok f ∧
      f.kind = k := ⟨_, rfl, rfl⟩
  have looked : server.store.look m.today (.action id kind) = .ok (f.view ctx) := by
    rw [Store.look, Store.formView, read]
    simp only [bind, Except.bind, loaded, hydrated]
    rfl
  rw [answerGet, looked]
  · exact ⟨rfl, by rw [confirmation?_view, kept]⟩
  · nofun

/-! ## Submitting -/

/-- The statuses under which a mutation that was sent is reported. -/
theorem runReply_ofForm (m : Mutation) (f : ActionForm) :
    (runReply (.ofForm m f)).status ∈ [200, 400, 503] ∧
      (runReply (.ofForm m f)).confirmation? = none := by
  rw [ActionRun.ofForm]
  split
  · exact ⟨List.mem_of_elem_eq_true rfl, rfl⟩
  · cases f.phase == .editing with
    | false => exact ⟨List.mem_of_elem_eq_true rfl, rfl⟩
    | true => exact ⟨List.mem_of_elem_eq_true rfl, rfl⟩

variable {b : Submission}

/-- The reply to a submission is the reply to its run. -/
theorem submit_eq {k : ActionKind} {i : Intake} (read : ActionKind.read kind = .ok k)
    (loaded : server.store.load id = .ok i) {run : ActionRun} {s : Store}
    (ran : server.store.runAction m.today m.now (b.request id k) = (.ok run, s)) :
    server.submit m id kind b = (runReply run,
      if isDone run then server.announcing s else { server with store := s }) := by
  rw [Submission.request] at ran
  unfold submit
  rw [read]
  dsimp only [bind, Except.bind]
  rw [loaded]
  dsimp only [pure, Except.pure]
  rw [ran]

theorem submit_confirmed (valid : b.validates server.store m.today id kind = true)
    (confirmed : b.confirmed = true) : (server.submit m id kind b).1.status ∈ [200, 400, 503] := by
  obtain ⟨k, read, valid⟩ := b.exists_kind_of_validates valid
  obtain ⟨ctx, f, filled, -⟩ := Store.exists_filled_of_validates valid
  obtain ⟨mutation, answered, sent⟩ := Store.runAction_confirmed valid confirmed m.now
  have there : server.store.load id = .ok ctx.intake := Store.load_of_loadContext filled.loaded
  rw [submit_eq read there (Prod.ext sent rfl)]
  exact (runReply_ofForm mutation answered).1

/-- A valid submission without the confirmation is answered with the question, and then nothing has
changed, or it is sent, and then there is none. -/
theorem submit_unconfirmed (valid : b.validates server.store m.today id kind = true)
    (unconfirmed : b.confirmed = false) :
    ∃ k ctx, ActionKind.read kind = .ok k ∧ server.store.loadContext id m.today = .ok ctx ∧
      ((∃ question, k.confirmation? ctx = some question ∧
        server.submit m id kind b =
          (.value 409 (.fields [("confirmation", question.encoded)]), server)) ∨
      k.confirmation? ctx = none ∧ (server.submit m id kind b).1.status ∈ [200, 400, 503] ∧
        (server.submit m id kind b).1.confirmation? = none) := by
  obtain ⟨k, read, valid⟩ := b.exists_kind_of_validates valid
  obtain ⟨ctx, loaded, ends⟩ := Store.runAction_unconfirmed valid unconfirmed m.now
  have there : server.store.load id = .ok ctx.intake := Store.load_of_loadContext loaded
  refine ⟨k, ctx, read, loaded, ?_⟩
  rcases ends with ⟨question, asks, stopped⟩ | ⟨quiet, mutation, answered, sent⟩
  · exact .inl ⟨question, asks, by rw [submit_eq read there stopped]; rfl⟩
  · rw [submit_eq read there (Prod.ext sent rfl)]
    exact .inr ⟨quiet, runReply_ofForm mutation answered⟩

/-- Whoever looks at the form of an action and submits it, filled in so that it passes its check and
without a confirmation, gets the conflict status exactly if a question was shown, and with it the
same question, and the desk is as it was. With the confirmation the same submission is neither a
conflict nor refused for what was filled in. Any of these may happen on another day. -/
theorem confirmation_kept (server : Server) {get post again : ApiRequest} {id kind : String}
    {b : Submission} (asked posted resent : Moment)
    (looks : get.method = "GET" ∧ get.isOn id kind)
    (posts : post.method = "POST" ∧ post.isOn id kind)
    (repeats : again.method = "POST" ∧ again.isOn id kind)
    (sent : (post.value : Except Reply Submission) = .ok { b with confirmed := false })
    (sentAgain : (again.value : Except Reply Submission) = .ok { b with confirmed := true })
    (valid : b.validates server.store posted.today id kind = true) :
    (server.answer asked get).1.status = 200 ∧
      (server.answer asked get).1.confirmation? = (server.answer posted post).1.confirmation? ∧
      ((server.answer posted post).1.status = 409 ↔
        (server.answer asked get).1.confirmation?.isSome = true) ∧
      ((server.answer posted post).1.status = 409 → (server.answer posted post).2 = server) ∧
      (server.answer resent again).1.status ≠ 409 ∧
      (server.answer resent again).1.status ≠ 422 := by
  rw [answer_get looks.1 looks.2, answer_submission posts.1 posts.2 sent,
    answer_submission repeats.1 repeats.2 sentAgain]
  dsimp only
  obtain ⟨k, ctx, read, loaded, ends⟩ :=
    submit_unconfirmed (b.validates_confirmed valid posted.today false) rfl
  obtain ⟨looked, shown⟩ :=
    answerGet_action read (Store.loadContext_anotherDay loaded asked.today)
  have sentOn : (server.submit resent id kind { b with confirmed := true }).1.status ∈
      [200, 400, 503] :=
    submit_confirmed (b.validates_confirmed valid resent.today true) rfl
  have elsewhere : ∀ status ∈ [200, 400, 503], status ≠ 409 ∧ status ≠ 422 := by decide
  -- The question hangs on the request that is loaded, not on the day.
  have same : k.confirmation? { ctx with today := asked.today } = k.confirmation? ctx := rfl
  rw [same] at shown
  refine ⟨looked, ?_⟩
  generalize server.answerGet asked (.action id kind) = look at looked shown ⊢
  generalize server.submit resent id kind { b with confirmed := true } = last at sentOn ⊢
  rcases ends with ⟨question, asks, stopped⟩ | ⟨quiet, status, silent⟩
  · rw [stopped, shown, asks]
    exact ⟨rfl, iff_of_true rfl rfl, fun _ => rfl, elsewhere _ sentOn⟩
  · rw [silent, shown, quiet]
    exact ⟨rfl, iff_of_false (elsewhere _ status).1 nofun,
      fun conflict => absurd conflict (elsewhere _ status).1, elsewhere _ sentOn⟩

/-! ### Closing a request whose edits are requested -/

def closing : ApiRequest where
  method := "GET"
  address := "/api/intakes/r1/actions/close-request"
  mediaType := none
  body := ""

/-- The same form submitted untouched. -/
def closingWith (body : String) : ApiRequest :=
  { closing with method := "POST", mediaType := some "application/json", body := body }

def isUntouched (confirmed : Bool) (b : Submission) : Bool :=
  b.values.isEmpty && decide (b.recipients = none ∧ b.button = .complete ∧ b.confirmed = confirmed)

theorem value_of_isUntouched {r : ApiRequest} {confirmed : Bool}
    (h : (r.value : Except Reply Submission).toOption.any (isUntouched confirmed) = true) :
    (r.value : Except Reply Submission) = .ok ⟨∅, none, .complete, confirmed⟩ := by
  cases read : (r.value : Except Reply Submission) with
  | error reply =>
    rw [read] at h
    exact nomatch h
  | ok b =>
    rw [read] at h
    obtain ⟨empty, rest⟩ := Bool.and_eq_true_iff.1 h
    obtain ⟨recipients, button, given⟩ := of_decide_eq_true rest
    obtain ⟨values, _, _, _⟩ := b
    cases recipients
    cases button
    cases given
    cases NameMap.isEmpty_iff.1 empty
    rfl

theorem confirmation_kept_closing :
    let server := start .returnedDesk
    let post := closingWith "\x7b\x7d"
    let again := closingWith "\x7b\"confirmed\": true\x7d"
    let b : Submission := ⟨∅, none, .complete, false⟩
    let m := Store.firstMoment
    closing.method = "GET" ∧ closing.isOn "r1" "close-request" ∧
      post.method = "POST" ∧ post.isOn "r1" "close-request" ∧
      again.method = "POST" ∧ again.isOn "r1" "close-request" ∧
      (post.value : Except Reply Submission) = .ok b ∧
      (again.value : Except Reply Submission) = .ok { b with confirmed := true } ∧
      b.validates server.store m.today "r1" "close-request" = true ∧
      (server.answer m closing).1.confirmation?.isSome = true ∧
      (server.answer m post).1.status = 409 ∧ (server.answer m post).2 = server ∧
      (server.answer m again).1.status ≠ 409 ∧
      (server.answer m again).1.status ≠ 422 := by
  intro server post again b m
  have on : closing.isOn "r1" "close-request" := by decide +kernel
  have onPost : post.isOn "r1" "close-request" := by decide +kernel
  have onAgain : again.isOn "r1" "close-request" := by decide +kernel
  have sent : (post.value : Except Reply Submission) = .ok b :=
    value_of_isUntouched (by decide +kernel)
  have sentAgain : (again.value : Except Reply Submission) = .ok { b with confirmed := true } :=
    value_of_isUntouched (by decide +kernel)
  have valid : b.validates server.store m.today "r1" "close-request" = true := by
    decide +kernel
  have asks : (server.answer m closing).1.confirmation?.isSome = true := by decide +kernel
  obtain ⟨-, -, conflict, unchanged, last⟩ := confirmation_kept server m m m
    ⟨rfl, on⟩ ⟨rfl, onPost⟩ ⟨rfl, onAgain⟩ sent sentAgain valid
  exact ⟨rfl, on, rfl, onPost, rfl, onAgain, sent, sentAgain, valid, asks, conflict.2 asks,
    unchanged (conflict.2 asks), last⟩

end Server

end GovernanceDesk
