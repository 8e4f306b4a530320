import GovernanceDesk.Proofs.Files.Growing
import GovernanceDesk.Proofs.Store.Running

/-!
# How a store grows

Every change of a store adds to its files or writes them over, and leaves the desk where it lies.

* `Store.Grown`: the stores before and after some changes.
* `Store.grown_save`, `Store.grown_create`, `Store.grown_runAction`: a store grows by each of them.
-/

namespace GovernanceDesk
set_option autoImplicit false

namespace Store

variable {s s' s'' : Store}

structure Grown (s s' : Store) : Prop where
  files : s.files.Grown s'.files
  root : s'.root = s.root

namespace Grown

theorem refl (s : Store) : s.Grown s :=
  ⟨.refl, rfl⟩

theorem trans (h : s.Grown s') (h' : s'.Grown s'') : s.Grown s'' :=
  ⟨h.files.trans h'.files, h'.root.trans h.root⟩

end Grown

theorem grown_writeDocument {α : Type} [Coded α] {place : Place} {x : α}
    (written : s.writeDocument place x = .ok s') : s.Grown s' := by
  rw [writeDocument] at written
  split at written
  next files put =>
    cases written
    exact ⟨FileTree.grown_write put, rfl⟩
  · cases written

theorem grown_save {i : Intake} (saved : s.save i = .ok s') : s.Grown s' := by
  obtain ⟨_, _, written⟩ := ok_of_bind_ok saved
  exact grown_writeDocument written

theorem grown_saveConfig {c : Config} (saved : s.saveConfig c = .ok s') : s.Grown s' :=
  grown_writeDocument saved

theorem grown_create (s : Store) (m : Moment) (name : String) (requester : Contact) :
    s.Grown (s.create m name requester).2 := by
  rw [create]
  split
  · dsimp only
    split
    next saved => exact ⟨(grown_save saved).files, (grown_save saved).root⟩
    · exact ⟨.refl, rfl⟩
  · exact .refl s

theorem grown_createWithContacts (s : Store) (m : Moment) (name : String) (requester : Contact)
    (contacts : List Contact) : s.Grown (s.createWithContacts m name requester contacts).2 := by
  rw [createWithContacts]
  have made := s.grown_create m name requester
  split
  next e s' failed =>
    rw [failed] at made
    exact made
  next i s' created =>
    rw [created] at made
    split
    · exact made
    · dsimp only
      split
      next saved => exact made.trans (grown_save saved)
      · exact made

theorem grown_addFeedback {m : Moment} {id : String} {target : FeedbackTarget}
    {source : FeedbackSource} {text : String} {author : Option String} {i : Intake}
    {feedbackId : String}
    (added : s.addFeedback m id target source text author = .ok (i, feedbackId, s')) :
    s.Grown s' := by
  obtain ⟨_, _, rest⟩ := ok_of_bind_ok added
  obtain ⟨_, saved, rest⟩ := ok_of_bind_ok rest
  cases rest
  exact grown_save saved

theorem grown_runAction (s : Store) (today : Date) (now : Instant) (r : ActionRequest) :
    s.Grown (s.runAction today now r).2 := by
  have ends := s.ran today now r
  generalize s.runAction today now r = result at ends
  cases ends with
  | done ctx f m i s' flash redirect sent applied =>
    obtain ⟨_, _, rest⟩ := ok_of_bind_ok applied
    obtain ⟨_, saved, rest⟩ := ok_of_bind_ok rest
    cases rest
    exact grown_save saved
  | without => exact .refl s

end Store

end GovernanceDesk
