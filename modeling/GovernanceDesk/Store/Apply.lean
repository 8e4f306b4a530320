import GovernanceDesk.Form.ActionForm
import GovernanceDesk.Store
import GovernanceDesk.Store.Effect

/-!
# Mutations on the store

* `Store.issue`: the record of a newly issued life cycle ID, an existing ID or the first free one.
* `Store.apply`: a mutation takes effect, takes back an open request for edits, enters the history
  and is saved.
* `Store.dispatch`: the same as an answer to a form.
-/

namespace GovernanceDesk
set_option autoImplicit false

namespace Store

/-- The ID a decision names if somebody holds it; without one the first free ID of the day. -/
def chooseLcid (s : Store) (today : Date) (chosen : Option String) : Except Failure String := do
  let held ← s.existingLcids
  match chosen with
  | some lcid =>
    if held.any fun l => l.lcid == lcid then return lcid else throw (.lcidNotFound lcid)
  | none => return Lcid.allocate today (held.map LcidRecord.lcid)

def issue (s : Store) (today : Date) (now : Instant) (d : LcidDecision) :
    Except Failure LcidRecord := do
  let lcid ← s.chooseLcid today d.lcid
  return {
    lcid := lcid
    issuedAt := now
    expiresAt := d.expiresAt
    retiresAt := none
    scope := d.scope
    nextSteps := d.nextSteps
    trbFollowUp := d.trbFollowUp
    costBaseline := d.costBaseline
    expiredManually := false }

/-- The request of a mutation as it is after it. -/
def applied (s : Store) (today : Date) (now : Instant) (kind : ActionKind) (m : Mutation) :
    Except Failure Intake := do
  let i ← s.load m.intakeId
  let _ ← s.configIfAny
  let i ← i.withEffect m.intakeId m.operation today now (s.issue today now)
  let i := if m.operation.keepsEditsRequest then i else i.withoutEditsRequest now
  return i.recorded kind m now

def apply (s : Store) (today : Date) (now : Instant) (kind : ActionKind) (m : Mutation) :
    Except Failure (Intake × Store) := do
  let i ← s.applied today now kind m
  return (i, ← s.save i)

end Store

/-- Failures of the files themselves do not get through to the form as a refusal. -/
def Failure.isTransport : Failure → Bool
  | storage _ | unreadable _ | malformed _ => true
  | _ => false

def SubmitError.ofFailure (e : Failure) : SubmitError :=
  if e.isTransport then .transport e.message else .rejected e.message

namespace Store

def dispatch (s : Store) (today : Date) (now : Instant) (m : Mutation) :
    Except SubmitError Outcome × Store :=
  match s.apply today now m.operation.action m with
  | .ok (i, s) => (.ok ⟨i.id, m.operation.name, i.lcid.map LcidRecord.lcid⟩, s)
  | .error e => (.error (.ofFailure e), s)

end Store

end GovernanceDesk
