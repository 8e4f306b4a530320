import GovernanceDesk.Proofs.Action.Built
import GovernanceDesk.Proofs.Form.Filled
import GovernanceDesk.Proofs.Store.Effects
import GovernanceDesk.Proofs.Store.Saving

/-!
# Running one action

A run either completes the action, and then the request it names is written once and nothing else
is, or it leaves the store as it was, whatever it answers.

* `Store.Ran`: how a run can end.
* `Store.WroteOnly`: one request was written, and everything else is the same.
* `Store.runAction_frame`: every run is of one of the two kinds.
* `Store.Reached`: the stores that one run after another can lead to.
-/

namespace GovernanceDesk
set_option autoImplicit false

/-! ## How a run ends -/

namespace ActionRun

def isDone : Except Failure ActionRun → Bool
  | .ok (.done ..) => true
  | _ => false

end ActionRun

namespace Store

variable {s : Store} {today : Date} {now : Instant} {r : ActionRequest}

/-- Whether a run ends with the action completed. -/
def completes (s : Store) (today : Date) (now : Instant) (r : ActionRequest) : Bool :=
  ActionRun.isDone (s.runAction today now r).1

/-- What a run sends: a form was opened on the request as loaded and filled in, it passed its check,
and the mutation was built from its values. -/
structure Sent (s : Store) (today : Date) (r : ActionRequest) (ctx : ActionContext)
    (f : ActionForm) (m : Mutation) : Prop where
  loaded : s.loadContext r.intakeId today = .ok ctx
  filled : ∃ opened, (ActionForm.fresh r.kind r.intakeId).Opened (.ok ctx) opened ∧
    opened.fill r = .ok f
  fine : r.kind.problems f.values = ∅
  built : ∃ told, r.kind.buildMutation f.values ctx told = .ok m

/-- The ends of a run: the mutation that was sent took effect, or nothing happened. -/
inductive Ran (s : Store) (today : Date) (now : Instant) (r : ActionRequest) :
    Except Failure ActionRun × Store → Prop where
  | done (ctx : ActionContext) (f : ActionForm) (m : Mutation) (i : Intake) (s' : Store)
      (flash : Option Flash) (redirect : Option String) (sent : Sent s today r ctx f m)
      (applied : s.apply today now r.kind m = .ok (i, s')) :
    Ran s today now r (.ok (.done m flash redirect), s')
  | without (answer : Except Failure ActionRun) (unfinished : ActionRun.isDone answer = false) :
    Ran s today now r (answer, s)

theorem ran_of_send {f pressed : ActionForm} {ctx : ActionContext} {m : Mutation}
    (sent : Sent s today r ctx f m) : Ran s today now r (s.send today now pressed m) := by
  rw [send, ActionForm.dispatchWith]
  cases pressed.expectSubmitting with
  | error e => exact .without _ rfl
  | ok _ =>
    change Ran s today now r (.ok (.ofForm m (pressed.answered (s.dispatch today now m).1)),
      (s.dispatch today now m).2)
    obtain ⟨_, built⟩ := sent.built
    rw [dispatch, (ActionKind.built_of_buildMutation built).action]
    split
    next i s' applied => exact .done ctx f m i s' _ _ sent applied
    next e _ =>
      refine .without _ ?_
      -- An answer that is an error leaves the form in another phase than the last.
      rw [SubmitError.ofFailure]
      split <;> rfl

theorem ran (s : Store) (today : Date) (now : Instant) (r : ActionRequest) :
    Ran s today now r (s.runAction today now r) := by
  rw [runAction]
  split
  · exact .without _ rfl
  next f opening =>
    split
    · exact .without _ rfl
    split
    · exact .without _ rfl
    · exact .without _ rfl
    · split <;> exact .without _ rfl
    next m pressed =>
      obtain ⟨filled, hf, rest⟩ := ok_of_bind_ok pressed
      obtain ⟨ctx, loaded, hp⟩ := ok_of_bind_ok rest
      obtain ⟨fine, built⟩ := ActionForm.sends_of_press hp
      -- The form was opened on the same request that it is pressed on.
      rw [loaded] at opening
      obtain ⟨-, opened⟩ := ActionForm.hydrate_cases opening
      have same : filled.kind = r.kind := by
        rw [ActionForm.kind_of_fill hf]
        exact opened.kind_eq
      rw [same] at fine built
      exact ran_of_send ⟨loaded, ⟨f, opened, hf⟩, fine, built⟩

/-! ## What a run changes -/

theorem load_of_loadContext {id : String} {ctx : ActionContext}
    (h : s.loadContext id today = .ok ctx) : s.load id = .ok ctx.intake := by
  obtain ⟨i, loaded, rest⟩ := ok_of_bind_ok h
  obtain ⟨_, _, rest⟩ := ok_of_bind_ok rest
  obtain ⟨_, _, rest⟩ := ok_of_bind_ok rest
  cases rest
  exact loaded

theorem existingLcids_of_loadContext {id : String} {ctx : ActionContext}
    (h : s.loadContext id today = .ok ctx) : s.existingLcids = .ok ctx.existingLcids := by
  obtain ⟨_, _, rest⟩ := ok_of_bind_ok h
  obtain ⟨_, _, rest⟩ := ok_of_bind_ok rest
  obtain ⟨_, listed, rest⟩ := ok_of_bind_ok rest
  cases rest
  exact listed

/-- A mutation that took effect: the request as loaded, after the operation, and as saved. -/
structure Applied (s : Store) (today : Date) (now : Instant) (kind : ActionKind) (m : Mutation)
    (i j k : Intake) : Prop where
  loaded : s.load m.intakeId = .ok i
  affected : i.Affected today now (s.issue today now) m.operation j
  stored : k = (if m.operation.keepsEditsRequest then j else j.withoutEditsRequest now).recorded
    kind m now

theorem applied_cases {kind : ActionKind} {m : Mutation} {k : Intake}
    (h : s.applied today now kind m = .ok k) : ∃ i j, Applied s today now kind m i j k := by
  obtain ⟨i, loaded, rest⟩ := ok_of_bind_ok h
  obtain ⟨_, _, rest⟩ := ok_of_bind_ok rest
  obtain ⟨j, effect, rest⟩ := ok_of_bind_ok rest
  cases rest
  exact ⟨i, j, loaded, Intake.affected_of_withEffect effect, rfl⟩

/-- The request is saved as the operation left it, with its entry in the history; only its stages
can differ, by a request for edits that is taken back. -/
theorem Applied.exists_eq {kind : ActionKind} {m : Mutation} {i j k : Intake}
    (h : Applied s today now kind m i j k) :
    ∃ statuses, k = { j with
      statuses := statuses
      history := Intake.latest (j.history ++ [ActionRecord.ofMutation kind m now])
      updatedAt := now } := by
  have stored := h.stored
  split at stored
  · exact ⟨_, stored⟩
  · obtain ⟨statuses, updatedAt, same⟩ := Intake.exists_withoutEditsRequest_eq j now
    rw [same] at stored
    exact ⟨statuses, stored⟩

theorem Applied.id_eq {kind : ActionKind} {m : Mutation} {i j k : Intake}
    (h : Applied s today now kind m i j k) : k.id = i.id := by
  obtain ⟨_, same⟩ := h.exists_eq
  rw [same]
  exact h.affected.untouched.1.id

theorem Applied.lcid_eq {kind : ActionKind} {m : Mutation} {i j k : Intake}
    (h : Applied s today now kind m i j k) : k.lcid = j.lcid := by
  obtain ⟨_, same⟩ := h.exists_eq
  rw [same]

theorem apply_cases {kind : ActionKind} {m : Mutation} {k : Intake} {s' : Store}
    (h : s.apply today now kind m = .ok (k, s')) :
    (∃ i j, Applied s today now kind m i j k) ∧ Saved s k s' := by
  obtain ⟨k, happlied, rest⟩ := ok_of_bind_ok h
  obtain ⟨saved, hs, rest⟩ := ok_of_bind_ok rest
  cases rest
  exact ⟨applied_cases happlied, saved_of_save hs⟩

/-- A completed run on a request that lies under its own id: the request was loaded, a form on it
was sent, an operation of its action took effect on it, and it was saved. -/
structure Completed (s : Store) (today : Date) (now : Instant) (r : ActionRequest) (m : Mutation)
    (i j k : Intake) (s' : Store) : Prop where
  applied : Applied s today now r.kind m i j k
  loaded : s.load r.intakeId = .ok i
  action : m.operation.action = r.kind
  id : k.id = r.intakeId
  saved : Saved s k s'
  sent : ∃ ctx f, ctx.intake = i ∧ Sent s today r ctx f m

/-- A form that was sent from a request under its own id completes its action on that request. -/
theorem completed_of_sent (named : ∀ i, s.load r.intakeId = .ok i → i.id = r.intakeId)
    {ctx : ActionContext} {f : ActionForm} {m : Mutation} {k : Intake} {s' : Store}
    (sent : Sent s today r ctx f m) (apply : s.apply today now r.kind m = .ok (k, s')) :
    ∃ i j, Completed s today now r m i j k s' := by
  obtain ⟨⟨i, j, applied⟩, saved⟩ := apply_cases apply
  obtain ⟨_, hb⟩ := sent.built
  have built := ActionKind.built_of_buildMutation hb
  have opened := load_of_loadContext sent.loaded
  -- The id goes from the request to the context, to the mutation and to what is saved.
  have target : m.intakeId = r.intakeId := by
    rw [built.intakeId, named _ opened]
  have loaded := applied.loaded
  rw [target] at loaded
  have id : k.id = r.intakeId := by rw [applied.id_eq, named _ loaded]
  have same : ctx.intake = i := Except.ok.inj (opened.symm.trans loaded)
  exact ⟨i, j, applied, loaded, built.action, id, saved, ctx, f, same, sent⟩

theorem run_cases_of_named (named : ∀ i, s.load r.intakeId = .ok i → i.id = r.intakeId)
    (today : Date) (now : Instant) :
    (s.completes today now r = true ∧
      ∃ m i j k, Completed s today now r m i j k (s.runAction today now r).2) ∨
    (s.completes today now r = false ∧ (s.runAction today now r).2 = s) := by
  have ends := ran s today now r
  rw [completes]
  generalize s.runAction today now r = result at ends ⊢
  cases ends with
  | without _ unfinished => exact .inr ⟨unfinished, rfl⟩
  | done ctx f m k s' _ _ sent apply =>
    obtain ⟨i, j, run⟩ := completed_of_sent named sent apply
    exact .inl ⟨rfl, m, i, j, k, run⟩

theorem run_cases (hs : s.WellNamed) (today : Date) (now : Instant) (r : ActionRequest) :
    (s.completes today now r = true ∧
      ∃ m i j k, Completed s today now r m i j k (s.runAction today now r).2) ∨
    (s.completes today now r = false ∧ (s.runAction today now r).2 = s) :=
  run_cases_of_named (hs r.intakeId) today now

theorem completed_of_completes (hs : s.WellNamed) (h : s.completes today now r = true) :
    ∃ m i j k, Completed s today now r m i j k (s.runAction today now r).2 := by
  obtain ⟨-, run⟩ | ⟨unfinished, -⟩ := run_cases hs today now r
  · exact run
  · rw [unfinished] at h
    exact nomatch h

/-- The manifest of one request was written. No other file has another content or another time of
writing, and every other request and the configuration are read as before. -/
structure WroteOnly (s : Store) (id : String) (s' : Store) : Prop where
  written : ∃ i, i.id = id ∧ s'.load id = .ok i ∧
    s'.files.find? (s.manifestPlace id) = some ⟨.file (.document (encode i)), s'.files.writes⟩
  newer : s.files.writes < s'.files.writes
  files : ∀ place, place ≠ s.manifestPlace id → ∀ e : FileEntry, e.isFolder = false →
    (s'.files.find? place = some e ↔ s.files.find? place = some e)
  others : ∀ other, other ≠ id → s'.load other = s.load other
  config : s'.config = s.config
  root : s'.root = s.root

theorem Saved.wroteOnly {i : Intake} {s' : Store} (h : Saved s i s') : WroteOnly s i.id s' where
  written := ⟨i, rfl, h.load_self, h.files.here⟩
  newer := h.files.later
  files _ ne _ isFile := h.files.file_iff ne isFile
  others _ ne := h.load_other ne
  config := h.config_eq
  root := h.root

/-- A run that completes the action writes the request it names and nothing else; any other leaves
the store as it was. Every request keeps the name of its folder for its id. -/
theorem runAction_frame (hs : s.WellNamed) (today : Date) (now : Instant) (r : ActionRequest) :
    (s.runAction today now r).2.WellNamed ∧
      if s.completes today now r then WroteOnly s r.intakeId (s.runAction today now r).2
      else (s.runAction today now r).2 = s := by
  obtain ⟨done, m, i, j, k, run⟩ | ⟨unfinished, same⟩ := run_cases hs today now r
  · refine ⟨run.saved.wellNamed hs, ?_⟩
    rw [if_pos done, ← run.id]
    exact run.saved.wroteOnly
  · rw [same, unfinished]
    exact ⟨hs, rfl⟩

/-! ## Runs one after another -/

/-- The stores that a request can come to be in: it was just opened, or runs that completed their
action came after that. -/
inductive Reached (id : String) : Store → Prop where
  | opened {s : Store} {name : String} {requester : Contact} {start : Instant} (named : s.WellNamed)
      (fresh : s.load id = .ok (.opened id name requester start)) : Reached id s
  | acted {s : Store} (h : Reached id s) (today : Date) (now : Instant) (r : ActionRequest)
      (done : s.completes today now r = true) : Reached id (s.runAction today now r).2

theorem Reached.wellNamed {id : String} (h : Reached id s) : s.WellNamed := by
  induction h with
  | opened named => exact named
  | acted _ today now r _ ih => exact (runAction_frame ih today now r).1

/-- What holds of a request as it starts, and still holds after every run that completes an action
on it, holds of it in every store that is reached. -/
theorem Reached.invariant {id : String} {P : Intake → Prop}
    (opened : ∀ name requester start, P (.opened id name requester start))
    (step : ∀ {s today now r m i j k s'}, Completed s today now r m i j k s' → P i → P k)
    (h : Reached id s) {i : Intake} (loaded : s.load id = .ok i) : P i := by
  induction h generalizing i with
  | opened named fresh =>
    cases fresh.symm.trans loaded
    exact opened _ _ _
  | @acted s before today now r done ih =>
    obtain ⟨m, i', j, k, run⟩ := completed_of_completes before.wellNamed done
    by_cases same : id = k.id
    · rw [same, run.saved.load_self] at loaded
      cases loaded
      exact step run (ih (same ▸ run.id ▸ run.loaded))
    · rw [run.saved.load_other same] at loaded
      exact ih loaded

/-! ## A desk with one request -/

def noon : Instant := ⟨⟨2026, 10, 16, by decide⟩, 43200, 0, by decide⟩

/-- A desk without requests, in a folder of its own. -/
def emptyDesk : Store :=
  ⟨((∅ : FileTree).put ["desk"] .folder).put ["desk", ".easi"] .folder, ["desk"], 0⟩

def firstMoment : Moment := ⟨noon, fun _ => "r1"⟩

def smallDesk : Store :=
  (emptyDesk.create firstMoment "Data platform" ⟨"Ada", "ada@example.gov", none⟩).2

/-- Edits to one of the forms, requested on the one request. -/
def editsOf (form : String) : ActionRequest where
  intakeId := "r1"
  kind := .requestEdits
  values := NameMap.ofList [("intakeFormStep", .text form), ("emailFeedback", .text "Add a plan")]
  recipients := none
  button := .complete
  confirmed := false

/-- A new life cycle ID, with the suggested day of expiry. -/
def issueTo (id : String) : ActionRequest where
  intakeId := id
  kind := .issueLcid
  values := NameMap.ofList [("scope", .text "All of it"), ("nextSteps", .text "Build it"),
    ("trbFollowUp", .text "NOT_RECOMMENDED")]
  recipients := none
  button := .complete
  confirmed := false

/-- What is seen of a request is seen of the request that is loaded. -/
theorem exists_load_of_any {id : String} {p : Intake → Bool}
    (h : (s.load id).toOption.any p = true) : ∃ i, s.load id = .ok i ∧ p i = true :=
  exists_ok_of_any h

/-- Nothing stands in the folder of the desk. -/
theorem find?_emptyDesk {rest : Place} (below : rest ≠ []) :
    emptyDesk.files.find? (emptyDesk.deskPlace ++ rest) = none := by
  rw [emptyDesk, FileTree.find?_put_of_ne (by simp [deskPlace, below]),
    FileTree.find?_put_of_ne (by simp [deskPlace])]
  rfl

theorem wellNamed_emptyDesk : emptyDesk.WellNamed := by
  refine wellNamed_of_no_requests fun id => ?_
  rw [manifestPlace_eq]
  exact find?_emptyDesk (List.cons_ne_nil _ _)

theorem wellNamed_smallDesk : smallDesk.WellNamed :=
  wellNamed_create wellNamed_emptyDesk firstMoment _ _

theorem load_smallDesk : smallDesk.load "r1" =
    .ok (.opened "r1" "Data platform" ⟨"Ada", "ada@example.gov", none⟩ noon) := by
  have created : (emptyDesk.create firstMoment "Data platform"
      ⟨"Ada", "ada@example.gov", none⟩).1.isOk = true := by
    decide +kernel
  exact load_create created

theorem reached_smallDesk : Reached "r1" smallDesk :=
  .opened wellNamed_smallDesk load_smallDesk

theorem runAction_frame_editsOf :
    smallDesk.WellNamed ∧ smallDesk.completes noon.date noon (editsOf "INTAKE_REQUEST") = true ∧
      WroteOnly smallDesk "r1"
        (smallDesk.runAction noon.date noon (editsOf "INTAKE_REQUEST")).2 := by
  have done : smallDesk.completes noon.date noon (editsOf "INTAKE_REQUEST") = true := by
    decide +kernel
  have frame := (runAction_frame wellNamed_smallDesk noon.date noon (editsOf "INTAKE_REQUEST")).2
  rw [if_pos done] at frame
  exact ⟨wellNamed_smallDesk, done, frame⟩

end Store

end GovernanceDesk
