import GovernanceDesk.Proofs.Store.Running

/-!
# What an operation may change

Of the fields of a request an operation changes few, and which ones can be told from the operation
alone. Closing and opening a request and looking after its life cycle ID go past its stages, but for
a form whose edits were requested: that one counts as handed in.

* `Operation.decision?`, `Operation.step?`, `Operation.dateOf?`: what an operation sets, if it does.
* `Intake.Footprint`: a request before and after an operation, field by field.
* `Store.apply_footprint`: whatever takes effect keeps to the footprint of its operation.
-/

namespace GovernanceDesk
set_option autoImplicit false

/-! ## What operations set -/

namespace Operation

/-- What an operation decides, if it is a decision. -/
def decision? : Operation → Option Decision
  | issueLcid _ | confirmLcid _ => some .lcidIssued
  | rejectIntake .. => some .notApproved
  | markNotGovernance _ => some .notGovernance
  | _ => none

/-- The step an operation takes a request to: that of a form to be edited, the one it is moved to,
or the last one for a decision. -/
def step? : Operation → Option Step
  | requestEdits .intakeRequest _ => some .initialRequestForm
  | requestEdits .draftBusinessCase _ => some .draftBusinessCase
  | requestEdits .finalBusinessCase _ => some .finalBusinessCase
  | progressToNewStep newStep .. => some newStep
  | issueLcid _ | confirmLcid _ | rejectIntake .. | markNotGovernance _ =>
    some .decisionAndNextSteps
  | _ => none

/-- The date an operation gives a meeting, or that it has none: only a move to that meeting does. -/
def dateOf? (meeting : Step) : Operation → Option (Option Date)
  | progressToNewStep newStep date _ _ => if newStep = meeting then some date else none
  | _ => none

def writesLcid : Operation → Bool
  | issueLcid _ | confirmLcid _ | updateLcid .. | retireLcid .. | changeLcidRetirementDate _
  | unretireLcid _ | expireLcid .. => true
  | _ => false

/-- Whether an operation takes a request back to work. -/
def resumesWork : Operation → Bool
  | requestEdits .. | progressToNewStep .. => true
  | _ => false

/-- Whether an operation only closes or opens a request, or looks after its life cycle ID. -/
def isUpkeep : Operation → Bool
  | closeRequest _ | reopenRequest _ | updateLcid .. | retireLcid .. | changeLcidRetirementDate _
  | unretireLcid _ | expireLcid .. => true
  | _ => false

end Operation

/-! ## Footprints -/

namespace Intake

variable {i j k : Intake} {today : Date} {now : Instant}
  {issue : LcidDecision → Except Failure LcidRecord} {op : Operation}

/-- A request before and after an operation: its filing is never touched, and each other field
changes only by an operation that sets it. -/
structure Footprint (op : Operation) (i k : Intake) : Prop where
  filing : SameFiling i k
  decision : k.decision = op.decision?.getD i.decision
  step : k.step = op.step?.getD i.step
  grtDate : k.grtDate = (op.dateOf? .grtMeeting).getD i.grtDate
  grbDate : k.grbDate = (op.dateOf? .grbMeeting).getD i.grbDate
  lcid : op.writesLcid = false → k.lcid = i.lcid
  feedback : op.resumesWork = false → k.feedback = i.feedback
  statuses : op.isUpkeep = true → k.statuses = i.statuses ∨
    ∃ stage, i.statuses.status stage = .editsRequested ∧
      k.statuses = i.statuses.set stage .submitted

/-! ### Up to the history -/

theorem Affected.decision_eq (h : Affected i today now issue op j) :
    j.decision = op.decision?.getD i.decision := by
  cases h with
  | moved newStep date feedback recommendations =>
    obtain ⟨_, _, _, same⟩ := exists_moved_eq i newStep date feedback recommendations now
    rw [same]
    rfl
  | _ => rfl

theorem Affected.step_eq (h : Affected i today now issue op j) :
    j.step = op.step?.getD i.step := by
  cases h with
  | editsRequested target => cases target <;> rfl
  | moved newStep date feedback recommendations =>
    obtain ⟨_, _, _, same⟩ := exists_moved_eq i newStep date feedback recommendations now
    rw [same]
    rfl
  | _ => rfl

theorem Affected.dates_eq (h : Affected i today now issue op j) :
    j.grtDate = (op.dateOf? .grtMeeting).getD i.grtDate ∧
      j.grbDate = (op.dateOf? .grbMeeting).getD i.grbDate := by
  cases h with
  | moved newStep date feedback recommendations =>
    cases newStep <;> cases feedback <;> cases recommendations <;> exact ⟨rfl, rfl⟩
  | _ => exact ⟨rfl, rfl⟩

theorem Affected.lcid_eq (h : Affected i today now issue op j) (elsewhere : op.writesLcid = false) :
    j.lcid = i.lcid := by
  cases h with
  | moved newStep date feedback recommendations =>
    obtain ⟨_, _, _, same⟩ := exists_moved_eq i newStep date feedback recommendations now
    rw [same]
    rfl
  | editsRequested | rejected | declared | closed | reopened => rfl
  | _ => exact nomatch elsewhere

theorem Affected.feedback_eq (h : Affected i today now issue op j)
    (elsewhere : op.resumesWork = false) : j.feedback = i.feedback := by
  cases h with
  | editsRequested | moved => exact nomatch elsewhere
  | _ => rfl

theorem Affected.statuses_eq (h : Affected i today now issue op j) (upkeep : op.isUpkeep = true) :
    j.statuses = i.statuses := by
  cases h with
  | editsRequested | moved | issued | confirmed | rejected | declared => exact nomatch upkeep
  | _ => rfl

/-! ### As saved -/

/-- A request for edits that is taken back is one stage that changes. -/
theorem withoutEditsRequest_statuses (i : Intake) (now : Instant) :
    (i.withoutEditsRequest now).statuses = i.statuses ∨
      ∃ stage, i.statuses.status stage = .editsRequested ∧
        (i.withoutEditsRequest now).statuses = i.statuses.set stage .submitted := by
  rw [withoutEditsRequest]
  split
  next stage requested =>
    have waits := List.find?_some requested
    exact .inr ⟨stage, beq_iff_eq.1 waits, rfl⟩
  · exact .inl rfl

end Intake

namespace Store

variable {s s' : Store} {today : Date} {now : Instant} {kind : ActionKind} {m : Mutation}
  {i j k : Intake}

theorem Applied.statuses_cases (h : Applied s today now kind m i j k)
    (upkeep : m.operation.isUpkeep = true) :
    k.statuses = i.statuses ∨ ∃ stage, i.statuses.status stage = .editsRequested ∧
      k.statuses = i.statuses.set stage .submitted := by
  have takesBack : m.operation.keepsEditsRequest = false := by
    cases op : m.operation with
    | requestEdits =>
      rw [op] at upkeep
      exact nomatch upkeep
    | _ => rfl
  have stored := h.stored
  rw [takesBack, if_neg Bool.false_ne_true] at stored
  have same : k.statuses = (j.withoutEditsRequest now).statuses := by
    rw [stored, Intake.recorded_statuses]
  rw [same, ← h.affected.statuses_eq upkeep]
  exact j.withoutEditsRequest_statuses now

theorem Applied.footprint (h : Applied s today now kind m i j k) :
    Intake.Footprint m.operation i k := by
  have statuses := h.statuses_cases
  obtain ⟨_, rfl⟩ := h.exists_eq
  have affected := h.affected
  obtain ⟨id, requestName, requester, contacts, submittedAt, createdAt⟩ := affected.untouched.1
  exact {
    filing := ⟨id, requestName, requester, contacts, submittedAt, createdAt⟩
    decision := affected.decision_eq
    step := affected.step_eq
    grtDate := affected.dates_eq.1
    grbDate := affected.dates_eq.2
    lcid := affected.lcid_eq
    feedback := affected.feedback_eq
    statuses := statuses }

/-- A mutation that takes effect loads the request it names, changes of it only what the operation
sets, and saves it. -/
theorem apply_footprint (h : s.apply today now kind m = .ok (k, s')) :
    ∃ i, s.load m.intakeId = .ok i ∧ s'.load k.id = .ok k ∧
      Intake.Footprint m.operation i k := by
  obtain ⟨⟨i, j, applied⟩, saved⟩ := apply_cases h
  exact ⟨i, applied.loaded, saved.load_self, applied.footprint⟩

/-- A desk whose one request has edits to its first form requested. -/
def returnedDesk : Store :=
  (smallDesk.runAction noon.date noon (editsOf "INTAKE_REQUEST")).2

def withdrawal : Mutation := ⟨"r1", none, none, none, .closeRequest (some "Withdrawn")⟩

theorem apply_footprint_withdrawal :
    ∃ k s', returnedDesk.apply noon.date noon .closeRequest withdrawal = .ok (k, s') ∧
      ∃ i, returnedDesk.load "r1" = .ok i ∧ s'.load k.id = .ok k ∧
        Intake.Footprint (.closeRequest (some "Withdrawn")) i k := by
  have accepted : (returnedDesk.apply noon.date noon .closeRequest withdrawal).isOk = true := by
    decide +kernel
  cases applied : returnedDesk.apply noon.date noon .closeRequest withdrawal with
  | error e =>
    rw [applied] at accepted
    exact nomatch accepted
  | ok after => exact ⟨after.1, after.2, rfl, apply_footprint applied⟩

end Store

end GovernanceDesk
