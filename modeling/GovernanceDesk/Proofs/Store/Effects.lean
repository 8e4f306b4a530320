import GovernanceDesk.Store.Effect

/-!
# The effect of an operation, case by case

What an operation makes of a request when it is not refused, one case for each operation. Later
proofs about requests go by these cases.

* `Intake.Affected`: the request before and after one operation.
* `Intake.affected_of_withEffect`: every effect is one of these cases.
* `Intake.Affected.untouched`: what stays as it was in all of them.
* `Intake.openEdits`: the forms that have edits requested, and what becomes of them.
-/

namespace GovernanceDesk
set_option autoImplicit false

namespace Intake

variable {i j : Intake}

/-! ## Cases -/

inductive Affected (i : Intake) (today : Date) (now : Instant)
    (issue : LcidDecision → Except Failure LcidRecord) : Operation → Intake → Prop where
  | editsRequested (target : FeedbackTarget) (text : String) :
    Affected i today now issue (.requestEdits target text) (i.withEditsRequested target text now)
  | moved (newStep : Step) (date : Option Date) (feedback recommendations : Option String) :
    Affected i today now issue (.progressToNewStep newStep date feedback recommendations)
      ((((i.movedTo newStep).withMeeting newStep date).withFeedbackIfAny .noTargetProvided
        .governanceTeam feedback now).withFeedbackIfAny .grbMeeting .reviewer recommendations now)
  | issued (d : LcidDecision) (l : LcidRecord) (free : issue d = .ok l) :
    Affected i today now issue (.issueLcid d) ({ i with lcid := some l }.decided .lcidIssued now)
  | confirmed (d : LcidDecision) (l : LcidRecord) (held : i.lcid = some l) :
    Affected i today now issue (.confirmLcid d)
      ({ i with lcid := some (l.confirmed d) }.decided .lcidIssued now)
  | updated (expiresAt : Option Date) (scope nextSteps costBaseline reason : Option String)
      (l : LcidRecord) (held : i.lcid = some l) :
    Affected i today now issue (.updateLcid expiresAt scope nextSteps costBaseline reason)
      { i with lcid := some (l.updated expiresAt scope nextSteps costBaseline) }
  | retired (retiresAt : Date) (reason : Option String) (l : LcidRecord)
      (held : i.lcid = some l) :
    Affected i today now issue (.retireLcid retiresAt reason)
      { i with lcid := some { l with retiresAt := some retiresAt } }
  | retirementMoved (retiresAt : Date) (l : LcidRecord) (held : i.lcid = some l) :
    Affected i today now issue (.changeLcidRetirementDate retiresAt)
      { i with lcid := some { l with retiresAt := some retiresAt } }
  | unretired (reason : Option String) (l : LcidRecord) (held : i.lcid = some l) :
    Affected i today now issue (.unretireLcid reason)
      { i with lcid := some { l with retiresAt := none } }
  | expired (reason : String) (nextSteps : Option String) (l : LcidRecord)
      (held : i.lcid = some l) :
    Affected i today now issue (.expireLcid reason nextSteps)
      { i with lcid := some (l.expiredEarly today nextSteps) }
  | rejected (reason nextSteps : String) (trbFollowUp : TrbFollowUp) :
    Affected i today now issue (.rejectIntake reason nextSteps trbFollowUp)
      (i.decided .notApproved now)
  | declared (reason : Option String) :
    Affected i today now issue (.markNotGovernance reason) (i.decided .notGovernance now)
  | closed (reason : Option String) :
    Affected i today now issue (.closeRequest reason) { i with state := .closed }
  | reopened (reason : Option String) :
    Affected i today now issue (.reopenRequest reason) { i with state := .opened }

theorem changeLcid_cases {name : String} {change : LcidRecord → LcidRecord}
    (h : i.changeLcid name change = .ok j) :
    ∃ l, i.lcid = some l ∧ j = { i with lcid := some (change l) } := by
  rw [changeLcid] at h
  split at h
  next l held =>
    cases h
    exact ⟨l, held, rfl⟩
  · exact nomatch h

theorem affected_of_withEffect {name : String} {op : Operation} {today : Date} {now : Instant}
    {issue : LcidDecision → Except Failure LcidRecord}
    (h : i.withEffect name op today now issue = .ok j) : Affected i today now issue op j := by
  cases op with
  | issueLcid d =>
    obtain ⟨l, free, hl⟩ := ok_of_bind_ok h
    cases hl
    exact .issued d l free
  | confirmLcid d =>
    obtain ⟨changed, hc, hd⟩ := ok_of_bind_ok h
    obtain ⟨l, held, rfl⟩ := changeLcid_cases hc
    cases hd
    exact .confirmed d l held
  | updateLcid expiresAt scope nextSteps costBaseline reason =>
    obtain ⟨l, held, rfl⟩ := changeLcid_cases h
    exact .updated expiresAt scope nextSteps costBaseline reason l held
  | retireLcid retiresAt reason =>
    obtain ⟨l, held, rfl⟩ := changeLcid_cases h
    exact .retired retiresAt reason l held
  | changeLcidRetirementDate retiresAt =>
    obtain ⟨l, held, rfl⟩ := changeLcid_cases h
    exact .retirementMoved retiresAt l held
  | unretireLcid reason =>
    obtain ⟨l, held, rfl⟩ := changeLcid_cases h
    exact .unretired reason l held
  | expireLcid reason nextSteps =>
    obtain ⟨l, held, rfl⟩ := changeLcid_cases h
    exact .expired reason nextSteps l held
  | requestEdits target text => cases h; exact .editsRequested target text
  | progressToNewStep newStep date feedback recommendations =>
    cases h
    exact .moved newStep date feedback recommendations
  | rejectIntake reason nextSteps trbFollowUp =>
    cases h
    exact .rejected reason nextSteps trbFollowUp
  | markNotGovernance reason => cases h; exact .declared reason
  | closeRequest reason => cases h; exact .closed reason
  | reopenRequest reason => cases h; exact .reopened reason

/-! ## What operations leave alone -/

/-- A move leaves all but the step, the stages, the feedback and the dates of meetings alone. -/
theorem exists_moved_eq (i : Intake) (newStep : Step) (date : Option Date)
    (feedback recommendations : Option String) (now : Instant) :
    ∃ records grtDate grbDate,
      (((i.movedTo newStep).withMeeting newStep date).withFeedbackIfAny .noTargetProvided
        .governanceTeam feedback now).withFeedbackIfAny .grbMeeting .reviewer recommendations now =
      { i.movedTo newStep with feedback := records, grtDate := grtDate, grbDate := grbDate } := by
  cases newStep <;> cases feedback <;> cases recommendations <;> exact ⟨_, _, _, rfl⟩

theorem exists_withoutEditsRequest_eq (i : Intake) (now : Instant) :
    ∃ statuses updatedAt,
      i.withoutEditsRequest now = { i with statuses := statuses, updatedAt := updatedAt } := by
  rw [withoutEditsRequest]
  split
  · exact ⟨_, _, rfl⟩
  · exact ⟨_, _, rfl⟩

variable {today : Date} {now : Instant} {issue : LcidDecision → Except Failure LcidRecord}
  {op : Operation}

/-- Who asked for what, and when. -/
structure SameFiling (i k : Intake) : Prop where
  id : k.id = i.id
  requestName : k.requestName = i.requestName
  requester : k.requester = i.requester
  contacts : k.contacts = i.contacts
  submittedAt : k.submittedAt = i.submittedAt
  createdAt : k.createdAt = i.createdAt

/-- No operation touches the filing of a request, and none its history. -/
theorem Affected.untouched (h : Affected i today now issue op j) :
    SameFiling i j ∧ j.history = i.history := by
  cases h with
  | moved newStep date feedback recommendations =>
    obtain ⟨_, _, _, same⟩ := exists_moved_eq i newStep date feedback recommendations now
    rw [same]
    exact ⟨⟨rfl, rfl, rfl, rfl, rfl, rfl⟩, rfl⟩
  | _ => exact ⟨⟨rfl, rfl, rfl, rfl, rfl, rfl⟩, rfl⟩

@[simp] theorem recorded_statuses (i : Intake) (kind : ActionKind) (m : Mutation) (now : Instant) :
    (i.recorded kind m now).statuses = i.statuses := by
  rw [recorded]

/-! ## Forms with edits requested -/

/-- The forms that have edits requested, in the order in which they are looked at. -/
def openEdits (i : Intake) : List Stage :=
  editableForms.filter fun s => i.statuses.status s == .editsRequested

theorem editsRequested?_eq_head? (i : Intake) : i.editsRequested? = i.openEdits.head? :=
  (List.head?_filter ..).symm

theorem openEdits_congr
    (h : ∀ s ∈ editableForms, j.statuses.status s = .editsRequested ↔
      i.statuses.status s = .editsRequested) : j.openEdits = i.openEdits := by
  refine List.filter_congr fun s hs => ?_
  rw [Bool.eq_iff_iff, beq_iff_eq, beq_iff_eq]
  exact h s hs

theorem statusAfterMove_ne_editsRequested (table : StageTable) (current target stage : Stage) :
    table.statusAfterMove current target stage ≠ .editsRequested := by
  unfold StageTable.statusAfterMove
  split
  · split
    · exact nofun
    · split <;> exact nofun
  · split <;> exact nofun

theorem openEdits_movedTo (i : Intake) (newStep : Step) : (i.movedTo newStep).openEdits = [] := by
  refine List.filter_eq_nil_iff.2 fun s _ => ?_
  rw [beq_iff_eq]
  exact statusAfterMove_ne_editsRequested i.statuses i.step.stage newStep.stage s

/-- A decision touches the last stage only, and its form has no edits requested. -/
theorem openEdits_decided (i : Intake) (decision : Decision) (now : Instant) :
    (i.decided decision now).openEdits = i.openEdits := by
  refine openEdits_congr fun s hs => ?_
  have other : s ≠ .decisionAndNextSteps := by
    rintro rfl
    exact absurd hs (by decide)
  rw [decided, withStatus, StageTable.status_set, if_neg other]

/-- Apart from a request for edits, a move drops every open one and no other operation touches
any. -/
theorem Affected.openEdits_eq (h : Affected i today now issue op j)
    (other : op.keepsEditsRequest = false) :
    j.openEdits = if op.action = .progressToNewStep then [] else i.openEdits := by
  cases h with
  | editsRequested => exact nomatch other
  | moved newStep date feedback recommendations =>
    obtain ⟨_, _, _, same⟩ := exists_moved_eq i newStep date feedback recommendations now
    rw [same]
    exact openEdits_movedTo i newStep
  | issued _ l => exact openEdits_decided { i with lcid := some l } _ _
  | confirmed d l => exact openEdits_decided { i with lcid := some (l.confirmed d) } _ _
  | rejected => exact openEdits_decided i _ _
  | declared => exact openEdits_decided i _ _
  | _ => rfl

/-- Without the first element that passes, the list of those that pass is its own tail. -/
theorem filter_without_first {α : Type} [DecidableEq α] {p : α → Bool} {l : List α} (h : l.Nodup)
    {a : α} (first : l.find? p = some a) :
    l.filter (fun x => x != a && p x) = (l.filter p).tail := by
  induction l with
  | nil => exact nomatch first
  | cons x l ih =>
    obtain ⟨fresh, rest⟩ := List.nodup_cons.1 h
    by_cases passes : p x = true
    · rw [List.find?_cons_of_pos passes] at first
      obtain rfl : x = a := Option.some.inj first
      rw [List.filter_cons_of_pos passes, List.tail_cons, List.filter_cons_of_neg (by simp)]
      refine List.filter_congr fun y hy => ?_
      have ne : y ≠ x := fun same => fresh (same ▸ hy)
      rw [bne_iff_ne.2 ne, Bool.true_and]
    · rw [List.find?_cons_of_neg passes] at first
      rw [List.filter_cons_of_neg (by simp [passes]), List.filter_cons_of_neg passes]
      exact ih rest first

/-- Taking back an open request for edits takes back the first one. -/
theorem openEdits_withoutEditsRequest (i : Intake) (now : Instant) :
    (i.withoutEditsRequest now).openEdits = i.openEdits.tail := by
  rw [withoutEditsRequest]
  split
  next first requested =>
    rw [openEdits, openEdits, ← filter_without_first (by decide) requested]
    refine List.filter_congr fun s _ => ?_
    rw [withStatus, StageTable.status_set]
    by_cases same : s = first
    · rw [if_pos same, same]
      simp
    · rw [if_neg same, bne_iff_ne.2 same, Bool.true_and]
  next none =>
    rw [editsRequested?_eq_head?, List.head?_eq_none_iff] at none
    rw [none, List.tail_nil]

end Intake

end GovernanceDesk
