import GovernanceDesk.Proofs.Store.LcidNumbers

/-!
# Numbers through runs of actions

A form issues an ID only to a request that holds none, and the mutation it sends takes effect on the
request as it was opened. So the numbers that requests hold stay with them through all runs, and a
number that is new when it is issued was held by nobody at any time before.

* `Store.Completed.issue_cases`: what a run that issues an ID has found.
* `Store.lcidNumber?_runs`: every number is kept.
* `Store.issued_not_held_before`: a new number differs from every earlier one.
-/

namespace GovernanceDesk
set_option autoImplicit false

/-! ## Issues by forms -/

namespace ActionKind

/-- No form starts with the choice of an existing ID. -/
theorem get?_defaults_useExistingLcid (kind : ActionKind) (ctx : ActionContext) :
    (kind.defaults ctx).get? "useExistingLcid" = none := by
  unfold defaults
  split
  · rw [FormValues.get?_setText, if_neg (by decide), FormValues.get?_withLcid _ _ (by decide)]
    rfl
  · rw [FormValues.get?_setText, if_neg (by decide)]
    rfl
  · rw [FormValues.get?_withLcid _ _ (by decide)]
    rfl
  · rw [FormValues.get?_setTextIfAny, if_neg (by decide)]
    rfl
  · rfl

end ActionKind

namespace Store

variable {s s' : Store} {today : Date} {now : Instant} {r : ActionRequest} {number : String}

theorem Sent.flag_useExistingLcid {ctx : ActionContext} {f : ActionForm} {m : Mutation}
    (h : Sent s today r ctx f m) :
    f.values.flag "useExistingLcid" = r.values.flag "useExistingLcid" := by
  obtain ⟨opened, ready, filled⟩ := h.filled
  cases ready with
  | ready =>
    have own : "useExistingLcid" ∉ FormValues.lcidFields := by decide
    have entered := ActionForm.get?_fill filled own
    dsimp only at entered
    rw [ActionKind.get?_defaults_useExistingLcid, Option.or_none] at entered
    rw [FormValues.flag, FormValues.flag, entered]

/-- The operation of a form that issues an ID, with the decision that was read from its values. -/
theorem Sent.exists_decision {ctx : ActionContext} {f : ActionForm} {m : Mutation}
    (h : Sent s today r ctx f m) (kind : r.kind = .issueLcid) :
    ∃ d : LcidDecision, d.ReadFrom f.values ∧
      (ctx.intake.lcid.isSome = true ∧ m.operation = .confirmLcid { d with lcid := none } ∨
        ctx.intake.lcid = none ∧ m.operation = .issueLcid d) := by
  obtain ⟨told, built⟩ := h.built
  obtain ⟨-, -, read⟩ := ActionKind.buildMutation_cases built
  rw [kind] at read
  exact ActionKind.readOperation_issueLcid read

/-- A form issues an ID only to a request that holds none. -/
theorem Completed.issue_cases {m : Mutation} {i j k : Intake} {d : LcidDecision}
    (h : Completed s today now r m i j k s') (issues : m.operation = .issueLcid d) :
    i.lcid = none ∧ (r.values.flag "useExistingLcid" = false → d.lcid = none) := by
  obtain ⟨ctx, f, rfl, sent⟩ := h.sent
  have kind : r.kind = .issueLcid := by
    rw [← h.action, issues]
    rfl
  obtain ⟨d', decision, ⟨-, same⟩ | ⟨free, same⟩⟩ := sent.exists_decision kind
  · exact nomatch issues.symm.trans same
  · cases issues.symm.trans same
    refine ⟨free, fun unused => ?_⟩
    rw [decision.lcid, sent.flag_useExistingLcid, unused]
    rfl

theorem Completed.not_issue_of_held {m : Mutation} {i j k : Intake}
    (h : Completed s today now r m i j k s') (held : i.lcidNumber? = some number) :
    ∀ d, m.operation ≠ .issueLcid d := by
  intro d issues
  rw [Intake.lcidNumber?, (h.issue_cases issues).1] at held
  cases held

theorem Completed.new_number {m : Mutation} {i j k : Intake}
    (h : Completed s today now r m i j k s') (kind : r.kind = .issueLcid) (free : i.lcid = none)
    (unused : r.values.flag "useExistingLcid" = false) :
    ∃ number, k.lcidNumber? = some number ∧ ∀ id, s.lcidNumber? id ≠ some number := by
  obtain ⟨d, issues⟩ : ∃ d, m.operation = .issueLcid d := by
    have affected := h.applied.affected
    have action := h.action
    rw [kind] at action
    generalize m.operation = op at affected action ⊢
    cases affected with
    | issued d => exact ⟨d, rfl⟩
    | confirmed _ l held => exact nomatch free.symm.trans held
    | _ => exact nomatch action
  obtain ⟨l, issued, number⟩ := h.applied.lcidNumber?_of_issueLcid issues
  have unnamed := (h.issue_cases issues).2 unused
  exact ⟨l.lcid, number, not_held_of_issue issued unnamed⟩

/-! ## Actions one after another -/

end Store

/-- An action that is run, on a day and at a time. -/
structure Run where
  today : Date
  now : Instant
  request : ActionRequest

namespace Store

variable {s : Store} {id number : String}

def run (s : Store) (a : Run) : Store :=
  (s.runAction a.today a.now a.request).2

def runs (s : Store) (as : List Run) : Store :=
  as.foldl run s

@[simp] theorem runs_append (s : Store) (as bs : List Run) :
    s.runs (as ++ bs) = (s.runs as).runs bs :=
  List.foldl_append ..

theorem wellNamed_run (named : s.WellNamed) (a : Run) : (s.run a).WellNamed :=
  (runAction_frame named a.today a.now a.request).1

theorem wellNamed_runs (named : s.WellNamed) (as : List Run) : (s.runs as).WellNamed := by
  induction as generalizing s with
  | nil => exact named
  | cons a as ih => exact ih (wellNamed_run named a)

theorem lcidNumber?_run (named : s.WellNamed) (a : Run) (held : s.lcidNumber? id = some number) :
    (s.run a).lcidNumber? id = some number := by
  rw [Store.run]
  obtain ⟨-, m, i, j, k, run⟩ | ⟨-, same⟩ := run_cases named a.today a.now a.request
  · rw [run.saved.lcidNumber?_eq]
    split
    next own =>
      have before : i.lcidNumber? = some number := by
        rw [← lcidNumber?_of_load run.loaded, ← run.id, own]
        exact held
      rw [run.applied.lcidNumber?_eq (run.not_issue_of_held before), before]
    · exact held
  · rw [same]
    exact held

/-- A number that is held at some time is held from then on. -/
theorem lcidNumber?_runs (named : s.WellNamed) (as : List Run)
    (held : s.lcidNumber? id = some number) : (s.runs as).lcidNumber? id = some number := by
  induction as generalizing s with
  | nil => exact held
  | cons a as ih => exact ih (wellNamed_run named a) (lcidNumber?_run named a held)

/-- A new number is one that no request has held at any time before. -/
theorem issued_not_held_before (named : s.WellNamed) (earlier between : List Run) (a : Run)
    (kind : a.request.kind = .issueLcid)
    (unused : a.request.values.flag "useExistingLcid" = false)
    (free : (s.runs (earlier ++ between)).lcidNumber? a.request.intakeId = none)
    (done : (s.runs (earlier ++ between)).completes a.today a.now a.request = true) :
    ∃ number, (s.runs (earlier ++ between ++ [a])).lcidNumber? a.request.intakeId = some number ∧
      ∀ id, (s.runs earlier).lcidNumber? id ≠ some number := by
  have before := wellNamed_runs named earlier
  obtain ⟨m, i, j, k, run⟩ := completed_of_completes (wellNamed_runs named _) done
  have none : i.lcid = none := by
    rw [lcidNumber?_of_load run.loaded] at free
    exact Option.map_eq_none_iff.1 free
  obtain ⟨number, new, fresh⟩ := run.new_number kind none unused
  refine ⟨number, ?_, fun id held => fresh id ?_⟩
  · have after := run.saved.lcidNumber?_eq a.request.intakeId
    rw [if_pos run.id, new] at after
    rw [runs_append s (earlier ++ between)]
    exact after
  · rw [runs_append]
    exact lcidNumber?_runs before between held

/-! ### Two requests -/

def pairDesk : Store :=
  (smallDesk.create ⟨noon, fun _ => "r2"⟩ "Data portal" ⟨"Ada", "ada@example.gov", none⟩).2

def firstIssue : List Run := [⟨noon.date, noon, issueTo "r1"⟩]

def secondIssue : Run := ⟨noon.date, noon, issueTo "r2"⟩

theorem wellNamed_pairDesk : pairDesk.WellNamed :=
  wellNamed_create wellNamed_smallDesk _ _ _

/-- An ID for the second request after one was issued to the first. -/
theorem issued_not_held_before_pair :
    pairDesk.WellNamed ∧ secondIssue.request.kind = .issueLcid ∧
      secondIssue.request.values.flag "useExistingLcid" = false ∧
      (pairDesk.runs (firstIssue ++ [])).lcidNumber? "r2" = none ∧
      (pairDesk.runs (firstIssue ++ [])).completes noon.date noon secondIssue.request = true ∧
      ∃ number,
        (pairDesk.runs (firstIssue ++ [] ++ [secondIssue])).lcidNumber? "r2" = some number ∧
        ∀ id, (pairDesk.runs firstIssue).lcidNumber? id ≠ some number := by
  have unused : secondIssue.request.values.flag "useExistingLcid" = false := by decide +kernel
  have free : (pairDesk.runs (firstIssue ++ [])).lcidNumber? "r2" = none := by decide +kernel
  have done : (pairDesk.runs (firstIssue ++ [])).completes noon.date noon
      secondIssue.request = true := by
    decide +kernel
  exact ⟨wellNamed_pairDesk, rfl, unused, free, done,
    issued_not_held_before wellNamed_pairDesk firstIssue [] secondIssue rfl unused free done⟩

end Store

end GovernanceDesk
