import GovernanceDesk.Api.Server
import GovernanceDesk.Proofs.Store.Running

/-!
# What answering a request does

Looking at something changes nothing. A request that changes something is answered with 200 exactly
when the manifest of one request was written and all listeners were told once; any other answer
means that no file was written and nobody was told.

* `Store.createWithContacts_cases`: a new request is there with its contacts, or no file changed.
* `Server.Answered`: the two ways in which a request that may change something can end.
* `Server.answer_effect`: every answer is of this kind.
-/

namespace GovernanceDesk
set_option autoImplicit false

/-! ## Statuses -/

/-- The statuses of refusals. -/
def Reply.refusals : List Nat := [400, 404, 405, 409, 415, 422, 500, 503]

theorem Reply.status_ne_of_mem_refusals {status : Nat} (h : status ∈ Reply.refusals) :
    status ≠ 200 := by
  rintro rfl
  exact absurd h (by decide)

theorem Failure.status_mem_refusals (e : Failure) : e.status ∈ Reply.refusals := by
  cases e <;> exact List.mem_of_elem_eq_true rfl

theorem ApiRequest.status_of_value_error {α : Type} [Coded α] {r : ApiRequest} {reply : Reply}
    (h : (r.value : Except Reply α) = .error reply) : reply.status ∈ Reply.refusals := by
  rw [value] at h
  split at h
  · cases h
    decide
  · dsimp only at h
    split at h
    · cases h
      decide
    · cases h
      decide
    · split at h
      · exact nomatch h
      · cases h
        decide

/-! ## Writing twice -/

namespace Store

variable {s s' s'' : Store} {id : String}

theorem WroteOnly.trans (first : WroteOnly s id s') (second : WroteOnly s' id s'') :
    WroteOnly s id s'' := by
  have place : s'.manifestPlace id = s.manifestPlace id := manifestPlace_of_root first.root id
  obtain ⟨i, named, loaded, there⟩ := second.written
  rw [place] at there
  refine ⟨⟨i, named, loaded, there⟩, Nat.lt_trans first.newer second.newer, ?_, ?_, ?_, ?_⟩
  · intro other ne e isFile
    rw [second.files other (place ▸ ne) e isFile, first.files other ne e isFile]
  · intro other ne
    rw [second.others other ne, first.others other ne]
  · rw [second.config, first.config]
  · rw [second.root, first.root]

/-- How many ids were handed out is not on file. -/
theorem WroteOnly.of_handedOut {handedOut : Nat}
    (h : WroteOnly { s with handedOut := handedOut } id s') : WroteOnly s id s' :=
  ⟨h.written, h.newer, h.files, h.others, h.config, h.root⟩

theorem createWithContacts_cases (s : Store) (m : Moment) (name : String) (requester : Contact)
    (contacts : List Contact) :
    (∃ i s', s.createWithContacts m name requester contacts = (.ok i, s') ∧
      WroteOnly s i.id s') ∨
    ∃ e s', s.createWithContacts m name requester contacts = (.error e, s') ∧
      s'.files = s.files := by
  rw [createWithContacts]
  obtain ⟨s', created, saved⟩ | ⟨e, handedOut, failed⟩ := create_cases s m name requester
  · rw [created]
    dsimp only
    split
    · exact .inl ⟨_, s', rfl, saved.wroteOnly.of_handedOut⟩
    · obtain ⟨s'', again⟩ := saved.exists_save_again
        (j := { Intake.opened (m.idOf (s.handedOut + 1)) name requester m.now with
          contacts := contacts }) rfl
      rw [again]
      exact .inl ⟨_, s'', rfl,
        saved.wroteOnly.of_handedOut.trans (saved_of_save again).wroteOnly⟩
  · rw [failed]
    exact .inr ⟨e, _, rfl, rfl⟩

end Store

/-! ## Answers -/

namespace Server

/-- A request that may change something ends well, with one manifest written and one update sent, or
it is refused without either. -/
inductive Answered (server : Server) : Reply × Server → Prop where
  | wrote (reply : Reply) (server' : Server) (well : reply.status = 200)
      (written : ∃ id, server.store.WroteOnly id server'.store)
      (told : server'.updates = server.updates.send) : Answered server (reply, server')
  | refused (reply : Reply) (server' : Server) (refusal : reply.status ∈ Reply.refusals)
      (files : server'.store.files = server.store.files)
      (quiet : server'.updates = server.updates) : Answered server (reply, server')

variable {server : Server} {m : Moment}

theorem answered_finish {result : Except Failure (Tree × Store)}
    (written : ∀ view s', result = .ok (view, s') → ∃ id, server.store.WroteOnly id s') :
    Answered server (server.finish result) := by
  cases result with
  | ok found => exact .wrote _ _ rfl (written found.1 found.2 rfl) rfl
  | error e => exact .refused _ _ e.status_mem_refusals rfl rfl

theorem answered_createIntake (b : NewIntake) : Answered server (server.createIntake m b) := by
  rw [createIntake]
  split
  next e _ => exact .refused _ _ e.status_mem_refusals rfl rfl
  next name _ =>
    obtain ⟨i, s', created, written⟩ | ⟨e, s', failed, files⟩ :=
      server.store.createWithContacts_cases m name b.requester b.contacts
    · rw [created]
      exact .wrote _ _ rfl ⟨i.id, written⟩ rfl
    · rw [failed]
      exact .refused _ _ e.status_mem_refusals files rfl

theorem answered_addFeedback (id : String) (b : NewFeedback) :
    Answered server (server.addFeedback m id b) := by
  refine answered_finish fun view s' posted => ?_
  obtain ⟨⟨text, target, source⟩, -, rest⟩ := ok_of_bind_ok posted
  obtain ⟨⟨k, feedbackId, s''⟩, added, rest⟩ := ok_of_bind_ok rest
  cases rest
  obtain ⟨i, loaded, rest⟩ := ok_of_bind_ok added
  obtain ⟨saved, hs, rest⟩ := ok_of_bind_ok rest
  cases rest
  exact ⟨_, (Store.saved_of_save hs).wroteOnly⟩

/-- A run that ends without completing its action is answered with a refusal. -/
theorem status_runReply_of_not_done {run : ActionRun} (h : isDone run = false) :
    (runReply run).status ∈ Reply.refusals := by
  cases run with
  | done => exact nomatch h
  | invalid messages => exact Failure.status_mem_refusals (.validation messages)
  | needsConfirmation question => exact List.mem_of_elem_eq_true rfl
  | failed message retryable => cases retryable <;> exact List.mem_of_elem_eq_true rfl

theorem answered_submit (id kind : String) (b : Submission) :
    Answered server (server.submit m id kind b) := by
  unfold submit
  split
  next e _ => exact .refused _ _ e.status_mem_refusals rfl rfl
  next kind _ =>
    dsimp only
    have ends := Store.ran server.store m.today m.now
      ⟨id, kind, b.values, b.recipients, b.button, b.confirmed⟩
    split
    next e s ended =>
      rw [ended] at ends
      cases ends
      exact .refused _ _ e.status_mem_refusals rfl rfl
    next run s ended =>
      rw [ended] at ends
      cases ends with
      | done ctx f mutation i s' flash redirect sent applied =>
        exact .wrote _ _ rfl ⟨i.id, (Store.apply_cases applied).2.wroteOnly⟩ rfl
      | without answer unfinished =>
        have undone : isDone run = false := by
          cases run with
          | done => exact nomatch unfinished
          | _ => rfl
        simp only [undone, Bool.false_eq_true, if_false]
        exact .refused _ _ (status_runReply_of_not_done undone) rfl rfl

theorem answered_withValue {α : Type} [Coded α] {r : ApiRequest} {go : α → Reply × Server}
    (each : ∀ x, Answered server (go x)) : Answered server (server.withValue r.value go) := by
  cases sent : (r.value : Except Reply α) with
  | ok x => exact each x
  | error reply => exact .refused _ _ (r.status_of_value_error sent) rfl rfl

theorem answered_answerPost (r : ApiRequest) (route : Route) :
    Answered server (server.answerPost m r route) := by
  cases route with
  | intakes => exact answered_withValue answered_createIntake
  | feedback id => exact answered_withValue (answered_addFeedback id)
  | action id kind => exact answered_withValue (answered_submit id kind)
  | _ => exact .refused _ _ (show (405 : Nat) ∈ Reply.refusals by decide) rfl rfl

theorem answered_of_post (server : Server) (m : Moment) {r : ApiRequest}
    (post : r.method = "POST") : Answered server (server.answer m r) := by
  have notAsked : (r.method == "OPTIONS") = false := by rw [post]; decide
  rw [answer, notAsked]
  simp only [Bool.false_eq_true, if_false]
  split
  next route _ =>
    rw [answerOn]
    split
    · exact .refused _ _ (show (405 : Nat) ∈ Reply.refusals by decide) rfl rfl
    · split
      · exact .refused _ _ (show (400 : Nat) ∈ Reply.refusals by decide) rfl rfl
      · rw [post]
        exact answered_answerPost r _
  · exact .refused _ _ (show (404 : Nat) ∈ Reply.refusals by decide) rfl rfl

/-- Looking changes nothing, on whatever route. -/
theorem answer_of_not_post {r : ApiRequest} (notPost : r.method ≠ "POST") :
    (server.answer m r).2 = server := by
  have other : (r.method == "POST") = false := beq_eq_false_iff_ne.2 notPost
  rw [answer]
  split
  · rfl
  · split
    · rw [answerOn]
      split
      · rfl
      · split
        · rfl
        · rw [other]
          simp only [Bool.false_eq_true, if_false]
          split
          · rfl
          · rfl
    · rfl

/-- A request that only looks leaves everything as it is. One that may change something is answered
with 200 exactly when the manifest of one request was written and one update was sent; with any
other status no file was written and nothing was sent. -/
theorem answer_effect (server : Server) (m : Moment) (r : ApiRequest) :
    (r.method ≠ "POST" → (server.answer m r).2 = server) ∧
    (r.method = "POST" →
      ((server.answer m r).1.status = 200 ↔
        (∃ id, server.store.WroteOnly id (server.answer m r).2.store) ∧
          (server.answer m r).2.updates = server.updates.send) ∧
      ((server.answer m r).1.status ≠ 200 →
        (server.answer m r).1.status ∈ Reply.refusals ∧
          (server.answer m r).2.store.files = server.store.files ∧
          (server.answer m r).2.updates = server.updates)) := by
  refine ⟨answer_of_not_post, fun post => ?_⟩
  have answered := answered_of_post server m post
  generalize server.answer m r = result at answered
  cases answered with
  | wrote reply server' well written told =>
    exact ⟨⟨fun _ => ⟨written, told⟩, fun _ => well⟩, fun other => absurd well other⟩
  | refused reply server' refusal files quiet =>
    have other := Reply.status_ne_of_mem_refusals refusal
    refine ⟨⟨fun well => absurd well other, fun wrote => ?_⟩, fun _ => ⟨refusal, files, quiet⟩⟩
    obtain ⟨⟨id, written⟩, -⟩ := wrote
    exact absurd (files ▸ written.newer) (Nat.lt_irrefl _)

/-- Feedback on the one request of a desk. -/
def remark : ApiRequest where
  method := "POST"
  address := "/api/intakes/r1/feedback"
  mediaType := some "application/json"
  body := "\x7b\"target_form\": \"INTAKE_REQUEST\", \"feedback\": \"Add a plan\"\x7d"

theorem answer_effect_remark :
    remark.method = "POST" ∧ ((start .smallDesk).answer Store.firstMoment remark).1.status = 200 ∧
      (∃ id, Store.smallDesk.WroteOnly id
        ((start .smallDesk).answer Store.firstMoment remark).2.store) ∧
      ((start .smallDesk).answer Store.firstMoment remark).2.updates = Updates.none.send := by
  have well : ((start .smallDesk).answer Store.firstMoment remark).1.status = 200 := by
    decide +kernel
  exact ⟨rfl, well, ((answer_effect (start .smallDesk) Store.firstMoment remark).2 rfl).1.1 well⟩

end Server

end GovernanceDesk
