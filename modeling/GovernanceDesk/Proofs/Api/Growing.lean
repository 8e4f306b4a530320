import GovernanceDesk.Proofs.Api.Answers
import GovernanceDesk.Proofs.Store.Growing

/-!
# What requests leave behind

A request, however it is answered, makes the store grow or leaves it alone, and what the watcher
remembers is not touched.

* `Server.Grown`: the server before and after some requests.
* `Server.grown_answer`: one request.
* `Server.sent_answer`: how many updates it sends.
-/

namespace GovernanceDesk
set_option autoImplicit false

namespace Server

variable {server server' : Server} {m : Moment}

structure Grown (server server' : Server) : Prop where
  store : server.store.Grown server'.store
  watcher : server'.watcher = server.watcher

theorem Grown.refl (server : Server) : server.Grown server :=
  ⟨.refl server.store, rfl⟩

/-! ## Handlers -/

theorem grown_finish {result : Except Failure (Tree × Store)}
    (each : ∀ view s, result = .ok (view, s) → server.store.Grown s) :
    server.Grown (server.finish result).2 := by
  cases result with
  | ok found => exact ⟨each found.1 found.2 rfl, rfl⟩
  | error e => exact .refl server

theorem grown_createIntake (b : NewIntake) : server.Grown (server.createIntake m b).2 := by
  rw [createIntake]
  split
  · exact .refl server
  next name _ =>
    have made := server.store.grown_createWithContacts m name b.requester b.contacts
    split <;> next created =>
      rw [created] at made
      exact ⟨made, rfl⟩

theorem grown_addFeedback (id : String) (b : NewFeedback) :
    server.Grown (server.addFeedback m id b).2 := by
  refine grown_finish fun view s posted => ?_
  obtain ⟨_, _, rest⟩ := ok_of_bind_ok posted
  obtain ⟨_, added, rest⟩ := ok_of_bind_ok rest
  cases rest
  exact Store.grown_addFeedback added

theorem grown_submit (id kind : String) (b : Submission) :
    server.Grown (server.submit m id kind b).2 := by
  unfold submit
  split
  · exact .refl server
  next kind _ =>
    dsimp only
    have ran := server.store.grown_runAction m.today m.now
      ⟨id, kind, b.values, b.recipients, b.button, b.confirmed⟩
    split
    next ended =>
      rw [ended] at ran
      exact ⟨ran, rfl⟩
    next ended =>
      rw [ended] at ran
      split
      · exact ⟨ran, rfl⟩
      · exact ⟨ran, rfl⟩

theorem grown_withValue {α : Type} {value : Except Reply α} {go : α → Reply × Server}
    (each : ∀ x, server.Grown (go x).2) : server.Grown (server.withValue value go).2 := by
  cases value with
  | ok x => exact each x
  | error reply => exact .refl server

theorem grown_answerPost (r : ApiRequest) (route : Route) :
    server.Grown (server.answerPost m r route).2 := by
  cases route with
  | intakes => exact grown_withValue grown_createIntake
  | feedback id => exact grown_withValue (grown_addFeedback id)
  | action id kind => exact grown_withValue (grown_submit id kind)
  | _ => exact .refl server

/-! ## Requests -/

theorem grown_answer (server : Server) (m : Moment) (r : ApiRequest) :
    server.Grown (server.answer m r).2 := by
  rw [answer]
  split
  · exact .refl server
  split
  · rw [answerOn]
    split
    · exact .refl server
    split
    · exact .refl server
    split
    · exact grown_answerPost r _
    split
    · exact .refl server
    · exact .refl server
  · exact .refl server

/-- Exactly the posts that are answered with 200 send an update, and each sends one. -/
theorem sent_answer (server : Server) (m : Moment) (r : ApiRequest) :
    (server.answer m r).2.updates.sent = server.updates.sent +
      if r.method = "POST" ∧ (server.answer m r).1.status = 200 then 1 else 0 := by
  by_cases post : r.method = "POST"
  · have answered := answered_of_post server m post
    generalize server.answer m r = result at answered
    cases answered with
    | wrote reply server' well written told =>
      rw [told, if_pos ⟨post, well⟩]
      rfl
    | refused reply server' refusal files quiet =>
      have other := Reply.status_ne_of_mem_refusals refusal
      rw [quiet, if_neg fun both => other both.2]
      rfl
  · rw [answer_of_not_post post, if_neg fun both => post both.1]
    rfl

end Server

end GovernanceDesk
