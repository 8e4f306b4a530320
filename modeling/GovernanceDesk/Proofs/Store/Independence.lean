import GovernanceDesk.Proofs.Form.OtherLcids
import GovernanceDesk.Proofs.Store.Outcome
import GovernanceDesk.Proofs.Store.Retimed

/-!
# Independence of actions on different requests

A run reads all manifests before it touches one: the life cycle IDs that are held come from all of
them. But only issuing an ID makes use of these, so two runs of other actions on different requests
do not notice each other, whichever comes first.

* `Store.AlikeFor`: stores that a run on one request cannot tell apart.
* `Store.RunsAlike`, `Store.runAction_alike`: runs on such stores, at two times.
* `Store.alikeFor_run`: a run leaves a store that is alike for every other request.
* `Store.runAction_independent`: two runs in either order.
-/

namespace GovernanceDesk
set_option autoImplicit false

variable {clocks : List (Instant × Instant)}

/-! ## Listing after a write -/

namespace FileTree

variable {files : FileTree} {place outer : Place} {content : Content}

/-- A file that is put in its place adds no folder anywhere. -/
theorem mem_children_of_put {e : String × FileEntry}
    (mem : e ∈ (files.put place (.file content)).children outer) (folder : e.2.isFolder = true) :
    e ∈ files.children outer := by
  by_cases fits : files.Fits place
  · rw [mem_children_iff, entries_put fits] at mem
    rcases mem_replaceEntry mem with here | held
    · rw [(Prod.mk.inj here).2] at folder
      exact nomatch folder
    · exact mem_children_iff.2 held
  · rw [put_of_not_fits fits] at mem
    exact mem

end FileTree

namespace Store

variable {s t : Store} {i k : Intake} {id : String}

theorem mem_folders_of_withManifest {name : String} (mem : name ∈ (s.withManifest i).folders) :
    name ∈ s.folders := by
  obtain ⟨e, held, rfl⟩ := List.mem_map.1 mem
  obtain ⟨child, folder⟩ := List.mem_filter.1 held
  exact List.mem_map.2 ⟨e, List.mem_filter.2
    ⟨FileTree.mem_children_of_put child folder, folder⟩, rfl⟩

theorem exists_intakes_withManifest (saved : Saved s i (s.withManifest i)) {all : List Intake}
    (listed : s.intakes = .ok all) : ∃ after, (s.withManifest i).intakes = .ok after := by
  have elsewhere : s.intakesPlace ≠ s.manifestPlace i.id := by
    rw [manifestPlace]
    simp
  have place : (s.withManifest i).files.find? (s.withManifest i).intakesPlace =
      s.files.find? s.intakesPlace :=
    FileTree.find?_put_of_ne elsewhere
  rw [intakes] at listed
  rw [intakes, place]
  split at listed
  · exact ⟨[], rfl⟩
  · cases listed
  · obtain ⟨found, read, -⟩ := ok_of_bind_ok listed
    have each : ∀ name ∈ (s.withManifest i).folders,
        ∃ here, (s.withManifest i).listed name = .ok here := by
      intro name mem
      rw [Store.listed]
      by_cases own : name = i.id
      · rw [own, saved.load_self]
        exact ⟨some i, rfl⟩
      · rw [saved.load_other own]
        exact ok_of_mapM_ok read (mem_folders_of_withManifest mem)
    obtain ⟨after, readAfter⟩ := exists_mapM_ok each
    exact ⟨_, by rw [readAfter]; rfl⟩

theorem exists_existingLcids_withManifest (saved : Saved s i (s.withManifest i))
    {held : List LcidRecord} (listed : s.existingLcids = .ok held) :
    ∃ after, (s.withManifest i).existingLcids = .ok after := by
  obtain ⟨all, read, -⟩ := ok_of_bind_ok listed
  obtain ⟨after, readAfter⟩ := exists_intakes_withManifest saved read
  exact ⟨_, by rw [existingLcids, readAfter]; rfl⟩

/-! ## Stores that are alike for one request -/

/-- The request and the configuration are the same, and the life cycle IDs that are held, whichever
they are, can be read in both stores or in neither. -/
structure AlikeFor (id : String) (s t : Store) : Prop where
  load : t.load id = s.load id
  config : t.config = s.config
  listing : EndsAlike (fun _ _ => True) s.existingLcids t.existingLcids

theorem AlikeFor.refl (id : String) (s : Store) : AlikeFor id s s :=
  ⟨rfl, rfl, .refl (fun _ => trivial) _⟩

theorem AlikeFor.symm (h : AlikeFor id s t) : AlikeFor id t s := by
  refine ⟨h.load.symm, h.config.symm, ?_⟩
  have listing := h.listing
  generalize s.existingLcids = before at listing ⊢
  generalize t.existingLcids = after at listing ⊢
  cases listing with
  | failed e => exact .failed e
  | ended => exact .ended trivial

theorem alikeFor_withManifest (saved : Saved s k (s.withManifest k)) (apart : id ≠ k.id)
    {held : List LcidRecord} (listed : s.existingLcids = .ok held) :
    AlikeFor id s (s.withManifest k) := by
  obtain ⟨after, listedAfter⟩ := exists_existingLcids_withManifest saved listed
  refine ⟨saved.load_other apart, saved.config_eq, ?_⟩
  rw [listed, listedAfter]
  exact .ended trivial

theorem AlikeFor.loadContext (h : AlikeFor id s t) (today : Date) :
    EndsAlike (fun ctx ctx' => ∃ lcids, ctx' = ctx.knowing lcids) (s.loadContext id today)
      (t.loadContext id today) := by
  rw [Store.loadContext, Store.loadContext, h.load, configIfAny_congr h.config]
  refine (EndsAlike.refl (Q := Eq) (fun _ => rfl) (s.load id)).bind ?_
  rintro i _ rfl
  refine (EndsAlike.refl (Q := Eq) (fun _ => rfl) s.configIfAny).bind ?_
  rintro config _ rfl
  exact h.listing.bind fun _ lcids _ => .ended ⟨lcids, rfl⟩

/-! ## Runs on them -/

variable {r : ActionRequest} {today : Date} {now later : Instant}

theorem AlikeFor.pressed (h : AlikeFor r.intakeId s t) {f : ActionForm}
    (other : f.kind ≠ .issueLcid) (today : Date) (lcids : List LcidRecord) :
    t.pressed today r (f.knowing lcids) =
      (s.pressed today r f).map (ActionForm.withLcids lcids) := by
  rw [Store.pressed, Store.pressed, ActionForm.fill_knowing other]
  cases filled : f.fill r with
  | error e => rfl
  | ok g =>
    have other' : g.kind ≠ .issueLcid := by
      rw [ActionForm.kind_of_fill filled]
      exact other
    have contexts := h.loadContext today
    dsimp only [bind, Except.bind, Except.map]
    generalize s.loadContext r.intakeId today = before at contexts ⊢
    generalize t.loadContext r.intakeId today = after at contexts ⊢
    cases contexts with
    | failed e => rfl
    | ended related =>
      obtain ⟨others, rfl⟩ := related
      exact ActionForm.press_knowing other' r _ lcids others

/-- Two runs on one request that give the same answer, and that both leave their stores as they were
or both write the request over, the same but for times. -/
inductive RunsAlike (clocks : List (Instant × Instant)) (id : String) (s t : Store) :
    Except Failure ActionRun × Store → Except Failure ActionRun × Store → Prop where
  | unchanged (answer : Except Failure ActionRun) : RunsAlike clocks id s t (answer, s) (answer, t)
  | wrote (answer : Except Failure ActionRun) (k k' : Intake) (named : k.id = id)
      (loaded : ∃ i, s.load id = .ok i) (listed : ∃ held, s.existingLcids = .ok held)
      (related : k.Retimed clocks k') :
    RunsAlike clocks id s t (answer, s.withManifest k) (answer, t.withManifest k')

/-- What a mutation on the request writes: the request, at its place in each store. -/
theorem AlikeFor.apply (h : AlikeFor id s t) (loaded : s.load id = .ok i) (named : i.id = id)
    {m : Mutation} (target : m.intakeId = id) (other : m.operation.action ≠ .issueLcid)
    (kind : ActionKind) (today : Date) (tick : now.Retimed clocks later) :
    EndsAlike (fun p p' => p.1.id = id ∧ p.1.Retimed clocks p'.1 ∧ p.2 = s.withManifest p.1 ∧
      p'.2 = t.withManifest p'.1) (s.apply today now kind m) (t.apply today later kind m) := by
  have loaded' : t.load id = .ok i := h.load.trans loaded
  have ends : EndsAlike (Intake.Retimed clocks) (s.applied today now kind m)
      (t.applied today later kind m) :=
    applied_retimed (by rw [target, h.load]) h.config other today tick
  rw [Store.apply, Store.apply]
  cases first : s.applied today now kind m with
  | error e =>
    rw [first] at ends
    rw [ends.of_error]
    exact .failed e
  | ok k =>
    rw [first] at ends
    obtain ⟨i', _, cases⟩ := applied_cases first
    have same : i' = i := by
      have again := cases.loaded
      rw [target, loaded] at again
      exact (Except.ok.inj again).symm
    have own : k.id = id := by rw [cases.id_eq, same, named]
    obtain ⟨k', second, related⟩ := ends.of_ok
    rw [second]
    dsimp only [bind, Except.bind]
    rw [save_of_load loaded own, save_of_load loaded' (related.id_eq.trans own)]
    exact .ended ⟨own, related, rfl, rfl⟩

theorem AlikeFor.send (h : AlikeFor id s t) (loaded : s.load id = .ok i) (named : i.id = id)
    (listed : ∃ held, s.existingLcids = .ok held) {m : Mutation} (target : m.intakeId = id)
    (other : m.operation.action ≠ .issueLcid) (today : Date) (tick : now.Retimed clocks later)
    (f : ActionForm) (lcids : List LcidRecord) :
    RunsAlike clocks id s t (s.send today now f m) (t.send today later (f.knowing lcids) m) := by
  have expect : (f.knowing lcids).expectSubmitting = f.expectSubmitting := rfl
  rw [Store.send, Store.send, ActionForm.dispatchWith, ActionForm.dispatchWith, expect]
  cases f.expectSubmitting with
  | error e => exact .unchanged _
  | ok _ =>
    have ends := h.apply loaded named target other m.operation.action today tick
    dsimp only [bind, Except.bind, pure, Except.pure]
    rw [Store.dispatch, Store.dispatch]
    cases first : s.apply today now m.operation.action m with
    | error e =>
      rw [first] at ends
      rw [ends.of_error]
      dsimp only
      rw [ActionForm.ofForm_answered_knowing]
      exact .unchanged _
    | ok after =>
      rw [first] at ends
      obtain ⟨⟨k', t'⟩, second, own, related, here, there⟩ := ends.of_ok
      obtain ⟨k, s'⟩ := after
      dsimp only at own related here there
      rw [second, here, there]
      dsimp only
      rw [ActionForm.ofForm_answered_knowing, related.id_eq, related.lcid_eq]
      exact .wrote _ _ _ own ⟨i, loaded⟩ listed related

/-- A run of an action that issues no life cycle ID does the same on stores that are alike for its
request, whenever it takes place. -/
theorem runAction_alike (h : AlikeFor r.intakeId s t)
    (named : ∀ i, s.load r.intakeId = .ok i → i.id = r.intakeId)
    (other : r.kind ≠ .issueLcid) (today : Date) (tick : now.Retimed clocks later) :
    RunsAlike clocks r.intakeId s t (s.runAction today now r) (t.runAction today later r) := by
  have contexts := h.loadContext today
  rw [runAction, runAction]
  cases first : s.loadContext r.intakeId today with
  | error e =>
    rw [first] at contexts
    rw [contexts.of_error]
    exact .unchanged _
  | ok ctx =>
    rw [first] at contexts
    obtain ⟨_, second, lcids, rfl⟩ := contexts.of_ok
    obtain ⟨f, hydrated, editing, kind⟩ : ∃ f,
        (ActionForm.fresh r.kind r.intakeId).hydrate (.ok ctx) = .ok f ∧ f.phase = .editing ∧
          f.kind = r.kind := ⟨_, rfl, rfl, rfl⟩
    have other : f.kind ≠ .issueLcid := kind ▸ other
    rw [second, ActionForm.hydrate_knowing, hydrated]
    have opened : (f.knowing lcids).phase = f.phase := rfl
    dsimp only [Except.map]
    rw [opened, editing, if_neg (by decide), if_neg (by decide), h.pressed other today lcids]
    cases pressed : s.pressed today r f with
    | error e => exact .unchanged _
    | ok result =>
      obtain ⟨g, o⟩ := result
      cases o with
      | invalid messages => exact .unchanged _
      | needsConfirmation question =>
        dsimp only [Except.map, ActionForm.withLcids]
        split <;> exact .unchanged _
      | dispatch m =>
        obtain ⟨filled, entered, rest⟩ := ok_of_bind_ok pressed
        obtain ⟨ctx', again, sent⟩ := ok_of_bind_ok rest
        obtain ⟨-, told, built⟩ := ActionForm.sends_of_press sent
        have mutation := ActionKind.built_of_buildMutation built
        have loaded := load_of_loadContext again
        have own := named _ loaded
        have elsewhere : m.operation.action ≠ .issueLcid := by
          rw [mutation.action, ActionForm.kind_of_fill entered]
          exact other
        exact h.send loaded own ⟨_, existingLcids_of_loadContext again⟩
          (mutation.intakeId.trans own) elsewhere today tick g lcids

/-! ## Two runs -/

theorem RunsAlike.answer_eq {x y : Except Failure ActionRun × Store}
    (h : RunsAlike clocks id s t x y) : y.1 = x.1 := by
  cases h <;> rfl

theorem RunsAlike.stores {x y : Except Failure ActionRun × Store}
    (h : RunsAlike clocks id s t x y) :
    (x.2 = s ∧ y.2 = t) ∨ ∃ k k', x.2 = s.withManifest k ∧ y.2 = t.withManifest k' ∧ k.id = id ∧
      (∃ i, s.load id = .ok i) ∧ (∃ held, s.existingLcids = .ok held) ∧ k.Retimed clocks k' := by
  cases h with
  | unchanged => exact .inl ⟨rfl, rfl⟩
  | wrote _ k k' named loaded listed related =>
    exact .inr ⟨k, k', rfl, rfl, named, loaded, listed, related⟩

/-- A run leaves a store that is alike for every other request. -/
theorem alikeFor_run (named : s.WellNamed) (other : r.kind ≠ .issueLcid) (apart : id ≠ r.intakeId)
    (today : Date) (now : Instant) : AlikeFor id s (s.runAction today now r).2 := by
  have runs : RunsAlike [] r.intakeId s s _ _ := runAction_alike (.refl _ s) (named r.intakeId)
    other today (.inl (Eq.refl now))
  obtain ⟨same, -⟩ | ⟨k, -, wrote, -, own, ⟨i, loaded⟩, ⟨held, listed⟩, -⟩ := runs.stores
  · rw [same]
    exact .refl id s
  · rw [wrote]
    exact alikeFor_withManifest (saved_of_save (save_of_load loaded own)) (own ▸ apart) listed

/-- Two actions on different requests, neither of which issues a life cycle ID: on the same day each
run gives the same answer whether it comes first or last, and in the end the stores differ in nothing
but the times that the clock showed to each run in either order. -/
theorem runAction_independent (named : s.WellNamed) {r q : ActionRequest}
    (apart : r.intakeId ≠ q.intakeId) (rKind : r.kind ≠ .issueLcid) (qKind : q.kind ≠ .issueLcid) (today : Date) (a a' b b' : Instant) :
    ((s.runAction today b' q).2.runAction today a' r).1 = (s.runAction today a r).1 ∧
      ((s.runAction today a r).2.runAction today b q).1 = (s.runAction today b' q).1 ∧
      ((s.runAction today a r).2.runAction today b q).2.Retimed [(a, a'), (b, b')]
        ((s.runAction today b' q).2.runAction today a' r).2 := by
  have alikeR := alikeFor_run named qKind apart today b'
  have alikeQ := alikeFor_run named rKind apart.symm today a
  have first : RunsAlike [(a, a')] r.intakeId s (s.runAction today b' q).2 _ _ :=
    runAction_alike alikeR (named r.intakeId) rKind today (.inr (List.mem_singleton_self _))
  have namedQ : ∀ i, (s.runAction today a r).2.load q.intakeId = .ok i → i.id = q.intakeId := by
    intro i loaded
    rw [alikeQ.load] at loaded
    exact named _ _ loaded
  have second : RunsAlike [(b, b')] q.intakeId (s.runAction today a r).2 s _ _ :=
    runAction_alike alikeQ.symm namedQ qKind today (.inr (List.mem_singleton_self _))
  refine ⟨first.answer_eq, second.answer_eq.symm, ?_⟩
  -- The store after one run is the one that the other run starts from in the other order.
  rcases first.stores with ⟨rSame, rSame'⟩ | ⟨k, k', rWrote, rWrote', ownR, ⟨i, loaded⟩, -, relatedR⟩
  · rcases second.stores with ⟨qSame, qSame'⟩ | ⟨l, l', qWrote, qWrote', -, -, -, relatedQ⟩
    · rw [rSame', qSame, qSame', rSame]
      exact .refl s
    · rw [rSame', qWrote, rSame, qWrote']
      exact retimed_withManifest (relatedQ.mono (by simp))
  · have relatedR := relatedR.mono (show [(a, a')] ⊆ [(a, a'), (b, b')] by simp)
    rcases second.stores with ⟨qSame, qSame'⟩ | ⟨l, l', qWrote, qWrote', ownQ, -, -, relatedQ⟩
    · rw [rWrote', qSame, qSame', rWrote]
      exact retimed_withManifest relatedR
    · rw [rWrote', qWrote, rWrote, qWrote']
      refine retimed_withManifest_comm ?_ ?_ relatedR (relatedQ.mono (by simp))
      · rw [ownR]
        exact isThere_of_load loaded
      · rw [ownR, ownQ]
        exact apart

/-! ### Two requests -/

/-- The desk with one request and another that was opened after it. -/
def twoDesk : Store :=
  (smallDesk.create ⟨noon, fun _ => "r2"⟩ "Data portal" ⟨"Bo", "bo@example.gov", none⟩).2

def closingOf (id : String) : ActionRequest := ⟨id, .closeRequest, ∅, none, .complete, true⟩

theorem readable_twoDesk : twoDesk.Readable :=
  readable_create readable_smallDesk _ _ _

def teaTime : Instant := ⟨noon.date, 57600, 0, by decide⟩

/-- Edits are requested on one, and the other is closed. The run that comes last is at tea time. -/
theorem runAction_independent_twoDesk :
    twoDesk.WellNamed ∧ (editsOf "INTAKE_REQUEST").intakeId ≠ (closingOf "r2").intakeId ∧
      (editsOf "INTAKE_REQUEST").kind ≠ .issueLcid ∧ (closingOf "r2").kind ≠ .issueLcid ∧
      twoDesk.completes noon.date noon (editsOf "INTAKE_REQUEST") = true ∧
      twoDesk.completes noon.date noon (closingOf "r2") = true ∧
      ((twoDesk.runAction noon.date noon (editsOf "INTAKE_REQUEST")).2.runAction noon.date teaTime
        (closingOf "r2")).2.Retimed [(noon, teaTime), (teaTime, noon)]
        ((twoDesk.runAction noon.date noon (closingOf "r2")).2.runAction noon.date teaTime
          (editsOf "INTAKE_REQUEST")).2 := by
  have apart : (editsOf "INTAKE_REQUEST").intakeId ≠ (closingOf "r2").intakeId := by decide
  have edits : (editsOf "INTAKE_REQUEST").kind ≠ .issueLcid := by decide
  have closes : (closingOf "r2").kind ≠ .issueLcid := by decide
  have done : twoDesk.completes noon.date noon (editsOf "INTAKE_REQUEST") = true := by
    decide +kernel
  have done' : twoDesk.completes noon.date noon (closingOf "r2") = true := by
    decide +kernel
  obtain ⟨-, -, same⟩ := runAction_independent readable_twoDesk.wellNamed apart edits
    closes noon.date noon teaTime teaTime noon
  exact ⟨readable_twoDesk.wellNamed, apart, edits, closes, done, done', same⟩

end Store

end GovernanceDesk
