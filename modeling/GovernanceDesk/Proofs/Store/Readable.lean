import GovernanceDesk.Proofs.Store.Listing
import GovernanceDesk.Store.RunAction

/-!
# A desk that can be read

Where everything that is there can be read, a form opens on every request that is there.

* `Store.Readable`: every manifest describes a request under the id of its folder, and the
  configuration describes one.
* `Store.Readable.loadContext`: what a form is opened on.
* `Store.Saved.readable`, `Store.readable_create`: a desk stays readable.
-/

namespace GovernanceDesk
set_option autoImplicit false

theorem exists_mapM_ok {ε α β : Type} {f : α → Except ε β} {xs : List α}
    (each : ∀ x ∈ xs, ∃ y, f x = .ok y) : ∃ ys, xs.mapM f = .ok ys := by
  induction xs with
  | nil => exact ⟨[], rfl⟩
  | cons x xs ih =>
    obtain ⟨y, here⟩ := each x (List.mem_cons_self ..)
    obtain ⟨ys, there⟩ := ih fun x mem => each x (List.mem_cons_of_mem _ mem)
    exact ⟨y :: ys, by rw [List.mapM_cons, here, there]; rfl⟩

namespace Store

variable {s : Store} {i j : Intake} {id : String}

structure Readable (s : Store) : Prop where
  requests : ∀ id, isIntakeId id = true → s.files.isThere (s.manifestPlace id) = true →
    ∃ i, s.load id = .ok i ∧ i.id = id
  config : s.files.isThere s.configPlace = true → ∃ c, s.config = .ok c

theorem load_of_missing (isId : isIntakeId id = true)
    (missing : s.files.isThere (s.manifestPlace id) = false) :
    s.load id = .error (.intakeNotFound id) := by
  rw [load_of_isIntakeId isId, readDocument]
  rw [FileTree.isThere, Option.isSome_eq_false_iff, Option.isNone_iff_eq_none] at missing
  rw [missing]

/-- A folder whose manifest, if there is one, can be loaded is listed with what lies in it. -/
theorem listed_of_loads {folder : String} (loads : isIntakeId folder = true →
    s.files.isThere (s.manifestPlace folder) = true → ∃ i, s.load folder = .ok i) :
    s.listed folder = .ok (s.load folder).toOption := by
  rw [listed]
  by_cases isId : isIntakeId folder = true
  · cases there : s.files.isThere (s.manifestPlace folder) with
    | true =>
      obtain ⟨i, loaded⟩ := loads isId there
      rw [loaded]
      rfl
    | false =>
      rw [load_of_missing isId there]
      rfl
  · rw [load_of_not_isIntakeId isId]
    rfl

namespace Readable

theorem wellNamed (h : s.Readable) : s.WellNamed := by
  intro id i loaded
  obtain ⟨i', loaded', named⟩ := h.requests id (isIntakeId_of_load loaded) (isThere_of_load loaded)
  cases loaded.symm.trans loaded'
  exact named

/-! ## Reading -/

theorem listed (h : s.Readable) (folder : String) : ∃ found, s.listed folder = .ok found := by
  refine ⟨_, listed_of_loads fun isId there => ?_⟩
  obtain ⟨i, loaded, -⟩ := h.requests folder isId there
  exact ⟨i, loaded⟩

theorem intakes (h : s.Readable) (loaded : s.load id = .ok i) : ∃ all, s.intakes = .ok all := by
  obtain ⟨n, folder⟩ := FileTree.isFolder_iff.1 (isFolder_intakesPlace_of_load loaded)
  obtain ⟨found, read⟩ := exists_mapM_ok fun name (_ : name ∈ s.folders) => h.listed name
  rw [Store.intakes, folder]
  exact ⟨_, by rw [read]; rfl⟩

theorem existingLcids (h : s.Readable) (loaded : s.load id = .ok i) :
    ∃ held, s.existingLcids = .ok held := by
  obtain ⟨all, read⟩ := h.intakes loaded
  exact ⟨_, by rw [Store.existingLcids, read]; rfl⟩

theorem configIfAny (h : s.Readable) : ∃ c, s.configIfAny = .ok c := by
  rw [Store.configIfAny]
  cases there : s.files.isThere s.configPlace with
  | true =>
    obtain ⟨c, read⟩ := h.config there
    exact ⟨some c, by rw [read]⟩
  | false =>
    rw [FileTree.isThere, Option.isSome_eq_false_iff, Option.isNone_iff_eq_none] at there
    exact ⟨none, by rw [Store.config, readDocument, there]⟩

/-- A form opens on every request that is there, with the life cycle IDs that are held. -/
theorem loadContext (h : s.Readable) (loaded : s.load id = .ok i) (today : Date) :
    ∃ ctx, s.loadContext id today = .ok ctx ∧ ctx.intake = i ∧
      s.existingLcids = .ok ctx.existingLcids := by
  obtain ⟨c, configured⟩ := h.configIfAny
  obtain ⟨held, listed⟩ := h.existingLcids loaded
  refine ⟨⟨i, held, today, ((c.map Config.lcid).getD .standard).years⟩, ?_, rfl, listed⟩
  rw [Store.loadContext, loaded, configured, listed]
  rfl

end Readable

/-! ## Staying readable -/

/-- A request that is saved can be read, and everything else as before. -/
theorem Saved.readable {s' : Store} (h : Saved s i s') (readable : s.Readable) : s'.Readable where
  requests id isId there := by
    by_cases same : id = i.id
    · exact ⟨i, same ▸ h.load_self, same.symm⟩
    · rw [h.load_other same]
      refine readable.requests id isId ?_
      rw [FileTree.isThere, manifestPlace_of_root h.root,
        h.files.find?_off_way fun on => same (eq_of_manifestPlace_on_way on)] at there
      exact there
  config there := by
    rw [h.config_eq]
    refine readable.config ?_
    rw [FileTree.isThere, configPlace_of_root h.root,
      h.files.find?_off_way configPlace_off_way] at there
    exact there

theorem readable_create (readable : s.Readable) (m : Moment) (name : String)
    (requester : Contact) : (s.create m name requester).2.Readable := by
  have before (handedOut : Nat) : ({ s with handedOut := handedOut } : Store).Readable :=
    ⟨readable.requests, readable.config⟩
  obtain ⟨s', created, saved⟩ | ⟨e, handedOut, failed⟩ := create_cases s m name requester
  · rw [created]
    exact saved.readable (before _)
  · rw [failed]
    exact before _

end Store

end GovernanceDesk
