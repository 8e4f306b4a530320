import GovernanceDesk.Cli.Run
import GovernanceDesk.Proofs.Store.Growing

/-!
# What commands leave behind

A command line, whatever it says, makes the files grow or leaves them alone, on the desk it names
and on every other.

* `Cli.Desk.grown_perform`: each command on its desk.
* `Cli.grown_run`: a whole command line.
-/

namespace GovernanceDesk.Cli
set_option autoImplicit false

namespace Desk

variable {d : Desk}

/-! ## Single commands -/

theorem grown_finish {result : Except Complaint (Report × Store)}
    (each : ∀ report s, result = .ok (report, s) → d.store.Grown s) :
    d.store.Grown (d.finish result).2 := by
  cases result with
  | ok r => exact each r.1 r.2 rfl
  | error c => exact .refl d.store

theorem grown_makeFolders {s : Store} (made : d.makeFolders = .ok s) : d.store.Grown s := by
  rw [makeFolders] at made
  split at made
  next files folders =>
    cases made
    exact ⟨FileTree.grown_makeFolder folders, rfl⟩
  · cases made

theorem grown_save {i : Intake} {s : Store} (saved : d.save i = .ok s) : d.store.Grown s :=
  Store.grown_save (ok_of_mapError_ok saved)

theorem grown_init (name : Option String) : d.store.Grown (d.init name).2 := by
  refine grown_finish fun report s done => ?_
  obtain ⟨made, folders, rest⟩ := ok_of_bind_ok done
  refine (grown_makeFolders folders).trans ?_
  dsimp only at rest
  split at rest
  · obtain ⟨configured, written, rest⟩ := ok_of_bind_ok rest
    cases rest
    exact Store.grown_saveConfig (ok_of_mapError_ok written)
  · cases rest
    exact .refl _

theorem grown_createIntake (name requester email : String) (contacts : List String) :
    d.store.Grown (d.createIntake name requester email contacts).2 := by
  rw [createIntake]
  split
  · exact .refl d.store
  split
  · exact .refl d.store
  next contacts _ =>
    have made := d.store.grown_createWithContacts d.moment name ⟨requester, email, none⟩ contacts
    split <;> next created =>
      rw [created] at made
      exact made

theorem grown_setStatus (id stage status : String) :
    d.store.Grown (d.setStatus id stage status).2 := by
  refine grown_finish fun report s done => ?_
  obtain ⟨_, _, rest⟩ := ok_of_bind_ok done
  obtain ⟨_, _, rest⟩ := ok_of_bind_ok rest
  obtain ⟨_, _, rest⟩ := ok_of_bind_ok rest
  obtain ⟨_, saved, rest⟩ := ok_of_bind_ok rest
  cases rest
  exact grown_save saved

theorem grown_addFeedback (id target source : String) (author : Option String) (text : String) :
    d.store.Grown (d.addFeedback id target source author text).2 := by
  refine grown_finish fun report s done => ?_
  obtain ⟨_, _, rest⟩ := ok_of_bind_ok done
  obtain ⟨_, _, rest⟩ := ok_of_bind_ok rest
  dsimp only at rest
  split at rest
  · cases rest
  obtain ⟨_, _, rest⟩ := ok_of_bind_ok rest
  obtain ⟨_, saved, rest⟩ := ok_of_bind_ok rest
  cases rest
  exact grown_save saved

theorem grown_runAction (id kind : String) (options : RunOptions) :
    d.store.Grown (d.runAction id kind options).2 := by
  unfold runAction
  split
  · exact .refl d.store
  next r _ =>
    have done := d.store.grown_runAction d.today d.now r
    split <;> next ended =>
      rw [ended] at done
      exact done

theorem grown_perform (d : Desk) (c : Command) : d.store.Grown (d.perform c).2 := by
  cases c with
  | init name => exact grown_init name
  | createIntake name requester email contacts =>
    exact grown_createIntake name requester email contacts
  | setStatus id stage status => exact grown_setStatus id stage status
  | addFeedback id target source author text =>
    exact grown_addFeedback id target source author text
  | runAction id kind options => exact grown_runAction id kind options
  | _ => exact .refl d.store

end Desk

/-! ## Command lines -/

theorem grown_storeAt (s : Store) (cwd : Place) (path : String) (c : Command) :
    s.files.Grown (storeAt s cwd path c).files := by
  cases c with
  | init name => exact FileTree.grown_makeWay s.files cwd path
  | _ => exact .refl

/-- A command on another desk makes the same files grow. -/
theorem grown_run (s : Store) (m : Moment) (around : Surroundings) (args : List String) :
    s.Grown (run s m around args).2 := by
  rw [run]
  split
  · exact .refl s
  next i _ =>
    let path := rootPath s.files around.cwd i.root
    let desk : Desk := ⟨storeAt s around.cwd path i.command, path, m, i.json⟩
    have reached : s.files.Grown desk.store.files := grown_storeAt s around.cwd path i.command
    exact ⟨reached.trans (desk.grown_perform i.command).files, rfl⟩

end GovernanceDesk.Cli
