import GovernanceDesk.Proofs.Store.LcidNumbers
import GovernanceDesk.Proofs.Store.Untouched

/-!
# Life cycle IDs that are given a day of expiry

An ID gets its day of expiry when it is issued or confirmed, and an update may move it. A day that
is still to come makes the ID current whatever became of it before, unless it is retired. Only a
confirmation leaves an early expiry standing, so an ID that was expired early stays expired then.

* `LcidRecord.status_eq_issued_iff`: when an ID is current.
* `Operation.expiryGiven?`, `Intake.keepsEarlyExpiry`: the day an operation gives, and the one case
  in which an early expiry stands.
* `Intake.Affected.record_of_expiryGiven`: the record after such an operation.
* `Store.issued_after_expiry_given_iff`: which IDs are current once they were given a day.
-/

namespace GovernanceDesk
set_option autoImplicit false

namespace LcidRecord

/-- An ID is current while it was not expired early, has not passed its day of expiry and has no
retirement that has come. -/
theorem status_eq_issued_iff {l : LcidRecord} {today : Date} :
    l.status today = .issued ↔
      l.expiredManually = false ∧ today ≤ l.expiresAt ∧
        ∀ d, l.retiresAt = some d → ¬ d ≤ today := by
  have current : ¬ l.expiresAt < today ↔ today ≤ l.expiresAt := Bool.not_eq_true _ ▸ Iff.rfl
  have unretired : (l.retiresAt.any fun d => decide (d ≤ today)) = false ↔
      ∀ d, l.retiresAt = some d → ¬ d ≤ today := by
    cases l.retiresAt with
    | none => exact iff_of_true rfl fun _ planned => nomatch planned
    | some date => simp
  rw [status, ← unretired, ← current]
  split
  next past =>
    rw [Bool.or_eq_true, decide_eq_true_eq] at past
    refine iff_of_false nofun fun ⟨early, ahead, _⟩ => ?_
    rw [early] at past
    exact past.elim nofun ahead
  next running =>
    rw [Bool.or_eq_true, decide_eq_true_eq, not_or, Bool.not_eq_true] at running
    rw [and_iff_right running.1, and_iff_right running.2]
    split
    next retired => exact iff_of_false nofun (by rw [retired]; nofun)
    next standing => exact iff_of_true rfl (Bool.not_eq_true _ ▸ standing)

end LcidRecord

/-- The day of expiry that an operation gives a life cycle ID, if it gives one. -/
def Operation.expiryGiven? : Operation → Option Date
  | issueLcid d | confirmLcid d => some d.expiresAt
  | updateLcid expiresAt .. => expiresAt
  | _ => none

namespace Intake

/-- Whether an ID that was expired early stays so through an operation that gives it a day of
expiry: a confirmation does not take an early expiry back. -/
def keepsEarlyExpiry (i : Intake) : Operation → Bool
  | .confirmLcid _ => i.lcid.any LcidRecord.expiredManually
  | _ => false

variable {i j : Intake} {today : Date} {now : Instant}
  {issue : LcidDecision → Except Failure LcidRecord} {op : Operation} {day : Date}

/-- After an operation that gives a day of expiry, the record has that day; every one but a
confirmation takes back an early expiry. -/
theorem Affected.record_of_expiryGiven (h : Affected i today now issue op j)
    (new : ∀ d l, issue d = .ok l → l.expiresAt = d.expiresAt ∧ l.expiredManually = false)
    (given : op.expiryGiven? = some day) :
    ∃ l, j.lcid = some l ∧ l.expiresAt = day ∧ l.expiredManually = i.keepsEarlyExpiry op := by
  cases h with
  | issued d l made =>
    obtain ⟨expiresAt, fresh⟩ := new d l made
    cases given
    exact ⟨l, rfl, expiresAt, fresh⟩
  | confirmed d l held =>
    cases given
    refine ⟨l.confirmed d, rfl, rfl, ?_⟩
    rw [keepsEarlyExpiry, held]
    rfl
  | updated expiresAt scope nextSteps costBaseline reason l held =>
    obtain rfl : expiresAt = some day := given
    exact ⟨_, rfl, rfl, Bool.and_false _⟩
  | _ => exact nomatch given

end Intake

namespace Store

variable {s s' : Store} {today : Date} {now : Instant} {kind : ActionKind} {m : Mutation}
  {day : Date}

theorem Applied.record_of_expiryGiven {i j k : Intake} (h : Applied s today now kind m i j k)
    (given : m.operation.expiryGiven? = some day) :
    ∃ l, k.lcid = some l ∧ l.expiresAt = day ∧
      l.expiredManually = i.keepsEarlyExpiry m.operation := by
  rw [h.lcid_eq]
  refine h.affected.record_of_expiryGiven (fun d l made => ?_) given
  rw [issue_eq made]
  exact ⟨rfl, rfl⟩

/-- An ID that was given a day of expiry which is still to come is current unless it is retired by
now; but one that was expired early stays expired when it is only confirmed. -/
theorem issued_after_expiry_given_iff {k : Intake}
    (taken : s.apply today now kind m = .ok (k, s'))
    (given : m.operation.expiryGiven? = some day) (current : today ≤ day) :
    ∃ i l, s.load m.intakeId = .ok i ∧ s'.load k.id = .ok k ∧ k.lcid = some l ∧
      l.expiresAt = day ∧
      (l.status today = .issued ↔ i.keepsEarlyExpiry m.operation = false ∧
        ∀ d, l.retiresAt = some d → ¬ d ≤ today) := by
  obtain ⟨⟨i, j, applied⟩, saved⟩ := apply_cases taken
  obtain ⟨l, held, expiresAt, early⟩ := applied.record_of_expiryGiven given
  refine ⟨i, l, applied.loaded, saved.load_self, held, expiresAt, ?_⟩
  rw [LcidRecord.status_eq_issued_iff, early, expiresAt, and_iff_right current]

/-! ### An ID that was expired early and is confirmed -/

def nextTerm : Date := ⟨2032, 10, 16, by decide⟩

/-- The ID that was expired early, confirmed for another term. -/
def confirming : Mutation where
  intakeId := "r1"
  recipients := none
  additionalInfo := none
  adminNote := none
  operation := .confirmLcid ⟨none, nextTerm, "All of it", "Build it", .notRecommended, none⟩

theorem apply_confirming :
    ∃ k s', expiredDesk.apply noon.date noon .issueLcid confirming = .ok (k, s') ∧
      k.lcid = some { expiredLcid with expiresAt := nextTerm } := by
  have seen : (expiredDesk.apply noon.date noon .issueLcid confirming).toOption.any
      (fun answer => decide (answer.1.lcid = some { expiredLcid with expiresAt := nextTerm })) =
        true := by
    decide +kernel
  obtain ⟨⟨k, s'⟩, taken, held⟩ := exists_ok_of_any seen
  exact ⟨k, s', taken, of_decide_eq_true held⟩

theorem issued_after_confirming_iff :
    ∃ k s', expiredDesk.apply noon.date noon .issueLcid confirming = .ok (k, s') ∧
      confirming.operation.expiryGiven? = some nextTerm ∧ noon.date ≤ nextTerm ∧
      ∃ i l, expiredDesk.load "r1" = .ok i ∧ s'.load k.id = .ok k ∧ k.lcid = some l ∧
        l.expiresAt = nextTerm ∧
        (l.status noon.date = .issued ↔ i.keepsEarlyExpiry confirming.operation = false ∧
          ∀ d, l.retiresAt = some d → ¬ d ≤ noon.date) := by
  obtain ⟨k, s', taken, -⟩ := apply_confirming
  have given : confirming.operation.expiryGiven? = some nextTerm := rfl
  have current : noon.date ≤ nextTerm := by decide
  have status := issued_after_expiry_given_iff taken given current
  exact ⟨k, s', taken, given, current, status⟩

/-- An ID that was expired early is still expired after it was confirmed for another term. -/
theorem early_expiry_survives_confirmation :
    ¬ ∀ (s s' : Store) (today : Date) (now : Instant) (kind : ActionKind) (m : Mutation)
      (k : Intake) (l : LcidRecord) (day : Date),
      s.apply today now kind m = .ok (k, s') → m.operation.expiryGiven? = some day →
      today ≤ day → k.lcid = some l → (∀ d, l.retiresAt = some d → ¬ d ≤ today) →
      l.status today = .issued := by
  intro claim
  obtain ⟨k, s', taken, held⟩ := apply_confirming
  have issued := claim expiredDesk s' noon.date noon .issueLcid confirming k _ nextTerm taken rfl
    (by decide) held (fun _ planned => nomatch planned)
  exact absurd issued (by decide)

end Store

end GovernanceDesk
