import GovernanceDesk.Proofs.Form.Chosen
import GovernanceDesk.Proofs.Store.LcidRuns
import GovernanceDesk.Proofs.Store.Outcome

/-!
# Life cycle IDs that are used again

The form that issues a life cycle ID can be told to use one that exists. The record that is stored
then has what the request gives for each of its fields, and the chosen record's for the others. It
stands under the chosen number only where the request held none of its own: a request that holds an
ID has that one confirmed.

* `Store.Stored`: the request that a run has stored.
* `LcidRecord.DecidedBy`: where each field of a record comes from.
* `Store.record_decided_by_choice`: the record after a run that chose an existing ID.
* `Store.lcidNumber?_of_choice`: the number after such a run.
-/

namespace GovernanceDesk
set_option autoImplicit false

/-! ## Records and decisions -/

namespace LcidRecord

/-- A record has what a decision fixes. -/
structure Follows (l : LcidRecord) (d : LcidDecision) : Prop where
  expiresAt : l.expiresAt = d.expiresAt
  scope : l.scope = d.scope
  nextSteps : l.nextSteps = d.nextSteps
  costBaseline : l.costBaseline = d.costBaseline

/-- Each field of a record is read from the values entered if they have it, and else as it would be
read from a chosen record. -/
structure DecidedBy (l : LcidRecord) (values : FormValues) (chosen : LcidRecord) : Prop where
  expiresAt : (if values.contains "expiresAt" then values.date? "expiresAt"
    else some chosen.expiresAt) = some l.expiresAt
  scope : (if values.contains "scope" then values.text? "scope"
    else Text.nonblank? chosen.scope) = some l.scope
  nextSteps : (if values.contains "nextSteps" then values.text? "nextSteps"
    else Text.nonblank? chosen.nextSteps) = some l.nextSteps
  costBaseline : (if values.contains "costBaseline" then values.text? "costBaseline"
    else chosen.costBaseline.bind Text.nonblank?) = l.costBaseline

variable {l chosen : LcidRecord} {d : LcidDecision} {values filled : FormValues}

theorem Follows.decidedBy (h : l.Follows d) (read : d.ReadFrom filled)
    (source : ∀ name ∈ FormValues.lcidFields, filled.get? name =
      (if values.contains name then values else FormValues.ofChosen chosen).get? name) :
    l.DecidedBy values chosen := by
  have text : ∀ name ∈ FormValues.lcidFields, filled.text? name =
      if values.contains name then values.text? name
      else (FormValues.ofChosen chosen).text? name := by
    intro name own
    rw [FormValues.text?_congr (source name own)]
    split <;> rfl
  have date : filled.date? "expiresAt" = if values.contains "expiresAt"
      then values.date? "expiresAt" else (FormValues.ofChosen chosen).date? "expiresAt" := by
    rw [FormValues.date?_congr (source "expiresAt" (by decide))]
    split <;> rfl
  obtain ⟨scope, nextSteps, costBaseline⟩ := FormValues.text?_ofChosen chosen
  constructor
  · rw [h.expiresAt, ← read.expiresAt, date, FormValues.date?_ofChosen]
  · rw [h.scope, ← read.scope, text _ (by decide), scope]
  · rw [h.nextSteps, ← read.nextSteps, text _ (by decide), nextSteps]
  · rw [h.costBaseline, read.costBaseline, text _ (by decide), costBaseline]

end LcidRecord

/-! ## Runs -/

namespace Store

variable {s s' : Store} {today : Date} {now : Instant} {r : ActionRequest}

/-- The request that a run has stored. Nothing else was written, and it is the request that the run
names where that lies under its own id. -/
structure Stored (s : Store) (r : ActionRequest) (s' : Store) (k : Intake) : Prop where
  loaded : s'.load k.id = .ok k
  only : WroteOnly s k.id s'
  target : (∀ i, s.load r.intakeId = .ok i → i.id = r.intakeId) → k.id = r.intakeId

/-- A run that completes its action has sent a form, and what that led to is stored. -/
theorem exists_stored_of_completes (done : s.completes today now r = true) :
    ∃ ctx f m i j k, Sent s today r ctx f m ∧ Applied s today now r.kind m i j k ∧
      Stored s r (s.runAction today now r).2 k := by
  have ends := ran s today now r
  rw [completes] at done
  generalize s.runAction today now r = result at ends done ⊢
  cases ends with
  | without _ unfinished =>
    rw [unfinished] at done
    exact absurd done Bool.false_ne_true
  | done ctx f m k s' _ _ sent apply =>
    obtain ⟨⟨i, j, applied⟩, saved⟩ := apply_cases apply
    refine ⟨ctx, f, m, i, j, k, sent, applied, saved.load_self, saved.wroteOnly, fun named => ?_⟩
    obtain ⟨_, _, completed⟩ := completed_of_sent named sent apply
    exact completed.id

variable {ctx : ActionContext} {f : ActionForm} {m : Mutation} {i j k : Intake}

/-- An issue and a confirmation both leave a record that has what the decision fixes. -/
theorem Applied.exists_follows {kind : ActionKind} {d : LcidDecision}
    (h : Applied s today now kind m i j k)
    (decides : m.operation = .confirmLcid { d with lcid := none } ∨ m.operation = .issueLcid d) :
    ∃ l, k.lcid = some l ∧ l.Follows d := by
  have affected := h.affected
  rw [h.lcid_eq]
  rcases decides with confirms | issues
  · rw [confirms] at affected
    cases affected with
    | confirmed _ l held => exact ⟨_, rfl, rfl, rfl, rfl, rfl⟩
  · rw [issues] at affected
    cases affected with
    | issued _ l new =>
      rw [issue_eq new]
      exact ⟨_, rfl, rfl, rfl, rfl, rfl⟩

variable {number : String} {records : List LcidRecord} {chosen : LcidRecord}

/-- The fields of a chosen record on a form that was sent. -/
theorem Sent.get?_of_chosen (h : Sent s today r ctx f m) (kind : r.kind = .issueLcid)
    (uses : r.values.flag "useExistingLcid" = true) (named : r.values.text? "lcid" = some number)
    (listed : s.existingLcids = .ok records)
    (found : records.find? (fun l => l.lcid == number) = some chosen) :
    ∀ name ∈ FormValues.lcidFields, f.values.get? name =
      (if r.values.contains name then r.values else FormValues.ofChosen chosen).get? name := by
  obtain ⟨opened, ready, filled⟩ := h.filled
  have known := existingLcids_of_loadContext h.loaded
  cases listed.symm.trans known
  cases ready with
  | ready =>
    intro name own
    exact ActionForm.get?_fill_of_chosen filled kind uses named found own

/-- Each field of the record that is stored after an existing ID was chosen comes from the request,
where that gives it, and from the chosen record where it does not. -/
theorem record_decided_by_choice (done : s.completes today now r = true)
    (kind : r.kind = .issueLcid) (uses : r.values.flag "useExistingLcid" = true)
    (named : r.values.text? "lcid" = some number) (listed : s.existingLcids = .ok records)
    (found : records.find? (fun l => l.lcid == number) = some chosen) :
    ∃ k l, Stored s r (s.runAction today now r).2 k ∧ k.lcid = some l ∧
      l.DecidedBy r.values chosen := by
  obtain ⟨ctx, f, m, i, j, k, sent, applied, stored⟩ := exists_stored_of_completes done
  obtain ⟨d, read, operation⟩ := sent.exists_decision kind
  obtain ⟨l, held, follows⟩ := applied.exists_follows (operation.imp And.right And.right)
  exact ⟨k, l, stored, held,
    follows.decidedBy read (sent.get?_of_chosen kind uses named listed found)⟩

/-- The chosen number on a form that was sent. -/
theorem Sent.lcid_of_chosen (h : Sent s today r ctx f m)
    (named : r.values.text? "lcid" = some number) : f.values.text? "lcid" = some number := by
  obtain ⟨opened, ready, filled⟩ := h.filled
  obtain ⟨value, entered⟩ := FormValues.exists_get?_of_text? named
  have held := ActionForm.get?_fill filled (by decide : "lcid" ∉ FormValues.lcidFields)
  rw [entered, Option.some_or, ← entered] at held
  rw [FormValues.text?_congr held, named]

/-- A request that held no ID ends up with the chosen number. One that held an ID keeps the number
it has. -/
theorem lcidNumber?_of_choice (done : s.completes today now r = true)
    (kind : r.kind = .issueLcid) (uses : r.values.flag "useExistingLcid" = true)
    (named : r.values.text? "lcid" = some number) :
    ∃ i old k, s.load r.intakeId = .ok i ∧ s.load i.id = .ok old ∧
      Stored s r (s.runAction today now r).2 k ∧
      k.lcidNumber? = if i.lcid.isSome then old.lcidNumber? else some number := by
  obtain ⟨ctx, f, m, old, j, k, sent, applied, stored⟩ := exists_stored_of_completes done
  obtain ⟨told, built⟩ := sent.built
  have target := (ActionKind.built_of_buildMutation built).intakeId
  refine ⟨ctx.intake, old, k, load_of_loadContext sent.loaded, target ▸ applied.loaded, stored, ?_⟩
  obtain ⟨d, read, ⟨holds, confirms⟩ | ⟨free, issues⟩⟩ := sent.exists_decision kind
  · rw [if_pos holds]
    exact applied.lcidNumber?_eq fun d issues => nomatch confirms.symm.trans issues
  · obtain ⟨l, issued, held⟩ := applied.lcidNumber?_of_issueLcid issues
    have chosen : d.lcid = some number := by
      rw [read.lcid, sent.flag_useExistingLcid, if_pos uses, sent.lcid_of_chosen named]
    rw [free, held]
    rcases issue_cases issued with same | ⟨unnamed, -⟩
    · exact same.symm.trans chosen
    · exact nomatch unnamed.symm.trans chosen

/-! ### Two requests, and the number of the first for the second -/

def currentLcid (number scope : String) : LcidRecord where
  lcid := number
  issuedAt := noon
  expiresAt := ⟨2031, 10, 12, by decide⟩
  retiresAt := none
  scope := scope
  nextSteps := "Build it"
  trbFollowUp := .notRecommended
  costBaseline := none
  expiredManually := false

def firstLcid : LcidRecord := currentLcid "26289A" "All of it"

def secondLcid : LcidRecord := currentLcid "26289B" "A part"

def holding (id : String) (l : LcidRecord) : Intake :=
  { Intake.opened id "Data platform" ⟨"Ada", "ada@example.gov", none⟩ noon with lcid := some l }

def heldDesk : Store := pairDesk.saving (holding "r1" firstLcid)

def sharedDesk : Store := heldDesk.saving (holding "r2" secondLcid)

/-- The ID of the first request is chosen for the second; only the next steps are given anew. -/
def reuse : ActionRequest where
  intakeId := "r2"
  kind := .issueLcid
  values := NameMap.ofList [("lcid", .text " 26289A "), ("useExistingLcid", .text "Yes"),
    ("nextSteps", .text " Share it "), ("trbFollowUp", .text "RECOMMENDED_BUT_NOT_CRITICAL")]
  recipients := none
  button := .complete
  confirmed := true

-- The kernel evaluates the desks once for all that is seen of them in one statement.
theorem seen_desks :
    (pairDesk.save (holding "r1" firstLcid)).isOk = true ∧
    (heldDesk.save (holding "r2" secondLcid)).isOk = true ∧
    heldDesk.folders = ["r1", "r2"] ∧ sharedDesk.folders = ["r1", "r2"] ∧
    (heldDesk.files.find? heldDesk.configPlace).isNone = true ∧
    (sharedDesk.files.find? sharedDesk.configPlace).isNone = true := by
  decide +kernel

theorem saved_heldDesk : Saved pairDesk (holding "r1" firstLcid) heldDesk :=
  saved_saving seen_desks.1

theorem saved_sharedDesk : Saved heldDesk (holding "r2" secondLcid) sharedDesk :=
  saved_saving seen_desks.2.1

theorem readable_heldDesk : heldDesk.Readable :=
  saved_heldDesk.readable (readable_create readable_smallDesk _ _ _)

theorem readable_sharedDesk : sharedDesk.Readable :=
  saved_sharedDesk.readable readable_heldDesk

/-- The second request, while it holds no ID. -/
def secondOpened : Intake :=
  .opened "r2" "Data portal" ⟨"Ada", "ada@example.gov", none⟩ noon

theorem load_heldDesk : heldDesk.load "r1" = .ok (holding "r1" firstLcid) ∧
    heldDesk.load "r2" = .ok secondOpened := by
  have created : (smallDesk.create ⟨noon, fun _ => "r2"⟩ "Data portal"
      ⟨"Ada", "ada@example.gov", none⟩).1.isOk = true := by
    decide +kernel
  exact ⟨saved_heldDesk.load_self,
    (saved_heldDesk.load_other (by decide)).trans (load_create created)⟩

theorem load_sharedDesk : sharedDesk.load "r1" = .ok (holding "r1" firstLcid) ∧
    sharedDesk.load "r2" = .ok (holding "r2" secondLcid) :=
  ⟨(saved_sharedDesk.load_other (by decide)).trans saved_heldDesk.load_self,
    saved_sharedDesk.load_self⟩

/-- What a form is opened on where two requests lie in order and there is no configuration. -/
theorem loadContext_of_pair {first second : Intake} (folders : s.folders = ["r1", "r2"])
    (unset : (s.files.find? s.configPlace).isNone = true)
    (loads : s.load "r1" = .ok first ∧ s.load "r2" = .ok second)
    (older : olderFirst first second = true)
    (numbered : ([first, second].filterMap Intake.lcid).Pairwise fun a b => a.lcid ≤ b.lcid) :
    s.existingLcids = .ok ([first, second].filterMap Intake.lcid) ∧
      s.loadContext "r2" today =
        .ok ⟨second, [first, second].filterMap Intake.lcid, today, 5⟩ := by
  have read : s.folders.mapM s.listed = .ok ([first, second].map some) := by
    rw [folders]
    simp only [List.mapM_cons, List.mapM_nil, listed, loads.1, loads.2]
    rfl
  have listed : s.existingLcids = .ok ([first, second].filterMap Intake.lcid) :=
    existingLcids_of_sorted (isFolder_intakesPlace_of_load loads.1) read
      (List.pairwise_pair.2 older) numbered
  have config : s.configIfAny = .ok none := by
    rw [configIfAny, Store.config, readDocument, Option.isNone_iff_eq_none.1 unset]
  refine ⟨listed, ?_⟩
  rw [loadContext, loads.2, config, listed]
  rfl

theorem loadContext_heldDesk : heldDesk.loadContext "r2" noon.date =
    .ok ⟨secondOpened, [firstLcid], noon.date, 5⟩ := by
  obtain ⟨-, -, folders, -, unset, -⟩ := seen_desks
  exact (loadContext_of_pair folders unset load_heldDesk (by decide) (by decide)).2

theorem lcids_sharedDesk : sharedDesk.existingLcids = .ok [firstLcid, secondLcid] ∧
    sharedDesk.loadContext "r2" noon.date =
      .ok ⟨holding "r2" secondLcid, [firstLcid, secondLcid], noon.date, 5⟩ := by
  obtain ⟨-, -, -, folders, -, unset⟩ := seen_desks
  exact loadContext_of_pair folders unset load_sharedDesk (by decide) (by decide)

-- The listing of the IDs is put in by hand, for the kernel does not sort them.
theorem completes_reuse : heldDesk.completes noon.date noon reuse = true ∧
    sharedDesk.completes noon.date noon reuse = true := by
  have known : ∀ e ∈ reuse.values.entries, (reuse.kind.field? e.1).isSome = true := by
    decide +kernel
  constructor
  · refine completes_of_filledForm readable_heldDesk load_heldDesk.2 rfl known ?_ nofun noon
    have context : heldDesk.loadContext reuse.intakeId noon.date = _ := loadContext_heldDesk
    rw [filledForm, context]
    decide +kernel
  · refine completes_of_filledForm readable_sharedDesk load_sharedDesk.2 rfl known ?_ nofun noon
    have context : sharedDesk.loadContext reuse.intakeId noon.date = _ := lcids_sharedDesk.2
    rw [filledForm, context]
    decide +kernel

theorem chosen_by_reuse : reuse.values.flag "useExistingLcid" = true ∧
    reuse.values.text? "lcid" = some "26289A" := by
  decide +kernel

theorem record_decided_by_reuse :
    sharedDesk.completes noon.date noon reuse = true ∧ reuse.kind = .issueLcid ∧
      reuse.values.flag "useExistingLcid" = true ∧
      reuse.values.text? "lcid" = some "26289A" ∧
      sharedDesk.existingLcids = .ok [firstLcid, secondLcid] ∧
      [firstLcid, secondLcid].find? (fun l => l.lcid == "26289A") = some firstLcid ∧
      ∃ k l, Stored sharedDesk reuse (sharedDesk.runAction noon.date noon reuse).2 k ∧
        k.lcid = some l ∧ l.DecidedBy reuse.values firstLcid := by
  obtain ⟨uses, named⟩ := chosen_by_reuse
  have found : [firstLcid, secondLcid].find? (fun l => l.lcid == "26289A") = some firstLcid := by
    decide
  have record := record_decided_by_choice completes_reuse.2 rfl uses named lcids_sharedDesk.1 found
  exact ⟨completes_reuse.2, rfl, uses, named, lcids_sharedDesk.1, found, record⟩

/-- The second request gets the chosen number while it holds none, and else keeps its own. -/
theorem lcidNumber?_of_reuse :
    heldDesk.completes noon.date noon reuse = true ∧
      sharedDesk.completes noon.date noon reuse = true ∧ reuse.kind = .issueLcid ∧
      reuse.values.flag "useExistingLcid" = true ∧
      reuse.values.text? "lcid" = some "26289A" ∧
      (∃ k, Stored heldDesk reuse (heldDesk.runAction noon.date noon reuse).2 k ∧
        k.lcidNumber? = some "26289A") ∧
      ∃ k, Stored sharedDesk reuse (sharedDesk.runAction noon.date noon reuse).2 k ∧
        k.lcidNumber? = some "26289B" := by
  obtain ⟨uses, named⟩ := chosen_by_reuse
  obtain ⟨done, done'⟩ := completes_reuse
  refine ⟨done, done', rfl, uses, named, ?_, ?_⟩
  · obtain ⟨i, old, k, loaded, -, stored, number⟩ := lcidNumber?_of_choice done rfl uses named
    cases load_heldDesk.2.symm.trans loaded
    exact ⟨k, stored, number⟩
  · obtain ⟨i, old, k, loaded, again, stored, number⟩ := lcidNumber?_of_choice done' rfl uses named
    cases load_sharedDesk.2.symm.trans loaded
    cases load_sharedDesk.2.symm.trans again
    exact ⟨k, stored, number⟩

/-- The ID that is chosen for a request which holds one is not the one it ends up with. -/
theorem chosen_number_passed_over :
    ¬ ∀ (s : Store) (today : Date) (now : Instant) (r : ActionRequest) (number : String)
      (records : List LcidRecord), s.WellNamed → s.completes today now r = true →
      r.kind = .issueLcid → r.values.flag "useExistingLcid" = true →
      r.values.text? "lcid" = some number → s.existingLcids = .ok records →
      number ∈ records.map LcidRecord.lcid →
      (s.runAction today now r).2.lcidNumber? r.intakeId = some number := by
  intro claim
  have replaced := claim sharedDesk noon.date noon reuse "26289A" _ readable_sharedDesk.wellNamed
    completes_reuse.2 rfl chosen_by_reuse.1 chosen_by_reuse.2 lcids_sharedDesk.1 (by decide)
  have held : sharedDesk.lcidNumber? "r2" = some "26289B" := by
    rw [lcidNumber?_of_load load_sharedDesk.2]
    rfl
  have kept := lcidNumber?_run readable_sharedDesk.wellNamed ⟨noon.date, noon, reuse⟩ held
  exact absurd (replaced.symm.trans kept) (by decide)

end Store

end GovernanceDesk
