import GovernanceDesk.Proofs.Form.Shown
import GovernanceDesk.Proofs.Store.Running

/-!
# Forms sent back untouched

A form on a life cycle ID that is opened and sent without an entry writes back what it showed. To
issue the ID again or to move its retirement leaves its record as it is. An update does so only
where the ID was not expired early, for with the day of expiry it also takes back an early expiry.

* `Store.Completed.lcid_of_untouched`: the record after such a form.
* `Store.lcid_after_untouched_run`: the record that is stored after the whole run.
-/

namespace GovernanceDesk
set_option autoImplicit false

namespace Store

variable {s s' : Store} {today : Date} {now : Instant} {r : ActionRequest} {i : Intake}
  {l : LcidRecord}

/-- The values that are sent are those that the form was opened with. -/
theorem Sent.values_of_untouched {ctx : ActionContext} {f : ActionForm} {m : Mutation}
    (h : Sent s today r ctx f m) (untouched : r.values = ∅) : f.values = r.kind.defaults ctx := by
  obtain ⟨opened, ready, filled⟩ := h.filled
  rw [ActionForm.values_of_fill_untouched filled untouched]
  cases ready with
  | ready => rfl

/-- The operation that an untouched form describes, as it reads the values it was opened with. -/
theorem Completed.reading_of_untouched {m : Mutation} {j k : Intake}
    (h : Completed s today now r m i j k s') (untouched : r.values = ∅) :
    ∃ ctx : ActionContext, ctx.intake = i ∧
      (r.kind.readOperation (r.kind.defaults ctx) i).value? = some m.operation := by
  obtain ⟨ctx, f, same, sent⟩ := h.sent
  obtain ⟨told, built⟩ := sent.built
  obtain ⟨-, -, read⟩ := ActionKind.buildMutation_cases built
  rw [sent.values_of_untouched untouched, same] at read
  exact ⟨ctx, same, read⟩

/-! ## The three forms -/

theorem Completed.lcid_of_untouched_update {m : Mutation} {j k : Intake}
    (h : Completed s today now r m i j k s') (kind : r.kind = .updateLcid)
    (untouched : r.values = ∅) (held : i.lcid = some l) (tidy : l.IsTidy) :
    k.lcid = some { l with expiredManually := false } := by
  obtain ⟨ctx, rfl, read⟩ := h.reading_of_untouched untouched
  rw [kind] at read
  have shown : l.ShownBy (ActionKind.updateLcid.defaults ctx) :=
    LcidRecord.shownBy_defaults (.inr rfl) held tidy
  have affected := h.applied.affected
  rw [ActionKind.readOperation_updateLcid read] at affected
  rw [h.applied.lcid_eq]
  cases affected with
  | updated _ _ _ _ _ l' held' =>
    cases held.symm.trans held'
    rw [LcidRecord.updated_of_shown shown]

theorem Completed.lcid_of_untouched_issue {m : Mutation} {j k : Intake}
    (h : Completed s today now r m i j k s') (kind : r.kind = .issueLcid)
    (untouched : r.values = ∅) (held : i.lcid = some l) (tidy : l.IsTidy) :
    k.lcid = some l := by
  obtain ⟨ctx, rfl, read⟩ := h.reading_of_untouched untouched
  rw [kind] at read
  have shown : l.ShownBy (ActionKind.issueLcid.defaults ctx) :=
    LcidRecord.shownBy_defaults (.inl rfl) held tidy
  have affected := h.applied.affected
  rw [h.applied.lcid_eq]
  obtain ⟨d, decision, ⟨-, same⟩ | ⟨free, -⟩⟩ := ActionKind.readOperation_issueLcid read
  · rw [same] at affected
    cases affected with
    | confirmed _ l' held' =>
      cases held.symm.trans held'
      have kept : l.confirmed d = l :=
        LcidRecord.confirmed_of_shown shown (LcidRecord.trbFollowUp_defaults held) decision
      exact congrArg some kept
  · exact nomatch held.symm.trans free

theorem Completed.lcid_of_untouched_retire {m : Mutation} {j k : Intake}
    (h : Completed s today now r m i j k s') (kind : r.kind = .retireLcid)
    (untouched : r.values = ∅) (held : i.lcid = some l) {date : Date}
    (planned : l.retiresAt = some date) : k.lcid = some l := by
  obtain ⟨ctx, rfl, read⟩ := h.reading_of_untouched untouched
  rw [kind] at read
  have retiring : ctx.intake.lcid.any (·.retiresAt.isSome) = true := by
    rw [held, Option.any_some, planned]
    rfl
  obtain ⟨date', shown, same⟩ := ActionKind.readOperation_retireLcid retiring read
  rw [LcidRecord.retiresAt_defaults held planned] at shown
  cases shown
  have affected := h.applied.affected
  rw [same] at affected
  rw [h.applied.lcid_eq]
  cases affected with
  | retirementMoved _ l' held' =>
    cases held.symm.trans held'
    rw [← planned]

theorem Completed.lcid_of_untouched {m : Mutation} {j k : Intake}
    (h : Completed s today now r m i j k s')
    (kind : r.kind = .updateLcid ∨ r.kind = .issueLcid ∨
      r.kind = .retireLcid ∧ l.retiresAt.isSome = true)
    (untouched : r.values = ∅) (held : i.lcid = some l) (tidy : l.IsTidy) :
    k.lcid = some (if r.kind = .updateLcid then { l with expiredManually := false } else l) := by
  rcases kind with update | issue | ⟨retire, planned⟩
  · rw [if_pos update]
    exact h.lcid_of_untouched_update update untouched held tidy
  · rw [issue, if_neg (by decide)]
    exact h.lcid_of_untouched_issue issue untouched held tidy
  · obtain ⟨date, planned⟩ := Option.isSome_iff_exists.1 planned
    rw [retire, if_neg (by decide)]
    exact h.lcid_of_untouched_retire retire untouched held planned

/-! ## Whole runs -/

/-- What is stored after a form on a life cycle ID was sent untouched: the record as it was, but
for an early expiry, which an update takes back. -/
theorem lcid_after_untouched_run (loaded : s.load r.intakeId = .ok i) (named : i.id = r.intakeId)
    (held : i.lcid = some l) (tidy : l.IsTidy) (untouched : r.values = ∅)
    (kind : r.kind = .updateLcid ∨ r.kind = .issueLcid ∨
      r.kind = .retireLcid ∧ l.retiresAt.isSome = true)
    (done : s.completes today now r = true) :
    ∃ k, (s.runAction today now r).2.load r.intakeId = .ok k ∧
      k.lcid = some (if r.kind = .updateLcid then { l with expiredManually := false } else l) ∧
      (k.lcid = some l ↔ (r.kind = .updateLcid → l.expiredManually = false)) := by
  have only : ∀ i', s.load r.intakeId = .ok i' → i'.id = r.intakeId := by
    intro i' again
    cases loaded.symm.trans again
    exact named
  obtain ⟨-, m, i', j, k, run⟩ | ⟨unfinished, -⟩ := run_cases_of_named only today now
  · cases loaded.symm.trans run.loaded
    have after := run.saved.load_self
    rw [run.id] at after
    have record := run.lcid_of_untouched kind untouched held tidy
    refine ⟨k, after, record, ?_⟩
    rw [record]
    by_cases update : r.kind = .updateLcid
    · rw [if_pos update, imp_iff_right update, Option.some.injEq]
      constructor
      · intro same
        exact (congrArg LcidRecord.expiredManually same).symm
      · intro early
        rw [← early]
    · rw [if_neg update]
      exact iff_of_true rfl fun is => absurd is update
  · rw [unfinished] at done
    exact nomatch done

/-! ### An ID that was expired early -/

def expiring : ActionRequest :=
  ⟨"r1", .expireLcid, NameMap.ofList [("reason", .text "Cancelled")], none, .complete, false⟩

def expiredDesk : Store :=
  ((smallDesk.runAction noon.date noon (issueTo "r1")).2.runAction noon.date noon expiring).2

def expiredLcid : LcidRecord where
  lcid := "26289A"
  issuedAt := noon
  expiresAt := noon.date
  retiresAt := none
  scope := "All of it"
  nextSteps := "Build it"
  trbFollowUp := .notRecommended
  costBaseline := none
  expiredManually := true

def untouchedUpdate : ActionRequest := ⟨"r1", .updateLcid, ∅, none, .complete, false⟩

-- The kernel evaluates a desk once for all that is seen of it in one statement.
theorem seen_expiredDesk :
    smallDesk.completes noon.date noon (issueTo "r1") = true ∧
    (smallDesk.runAction noon.date noon (issueTo "r1")).2.completes noon.date noon expiring = true ∧
    (expiredDesk.load "r1").toOption.any (fun i => decide (i.lcid = some expiredLcid)) = true ∧
    expiredDesk.completes noon.date noon untouchedUpdate = true ∧
    ((expiredDesk.runAction noon.date noon untouchedUpdate).2.load "r1").toOption.any
      (fun k => decide (k.lcid = some { expiredLcid with expiredManually := false })) = true := by
  decide +kernel

theorem reached_expiredDesk : Reached "r1" expiredDesk := by
  obtain ⟨issued, expired, -⟩ := seen_expiredDesk
  exact .acted (.acted reached_smallDesk noon.date noon (issueTo "r1") issued) noon.date noon expiring
    expired

theorem load_expiredDesk :
    ∃ i, expiredDesk.load "r1" = .ok i ∧ i.id = "r1" ∧ i.lcid = some expiredLcid := by
  obtain ⟨-, -, seen, -⟩ := seen_expiredDesk
  obtain ⟨i, loaded, held⟩ := exists_load_of_any seen
  exact ⟨i, loaded, reached_expiredDesk.wellNamed "r1" i loaded, of_decide_eq_true held⟩

theorem isTidy_expiredLcid : expiredLcid.IsTidy where
  scope := by decide +kernel
  nextSteps := by decide +kernel
  costBaseline := nofun

theorem completes_untouchedUpdate :
    expiredDesk.completes noon.date noon untouchedUpdate = true :=
  seen_expiredDesk.2.2.2.1

theorem lcid_after_untouched_update :
    ∃ i, expiredDesk.load "r1" = .ok i ∧ i.id = "r1" ∧ i.lcid = some expiredLcid ∧
      expiredLcid.IsTidy ∧ expiredDesk.completes noon.date noon untouchedUpdate = true ∧
      ∃ k, (expiredDesk.runAction noon.date noon untouchedUpdate).2.load "r1" = .ok k ∧
        k.lcid = some { expiredLcid with expiredManually := false } ∧
        (k.lcid = some expiredLcid ↔
          (untouchedUpdate.kind = .updateLcid → expiredLcid.expiredManually = false)) := by
  obtain ⟨i, loaded, named, held⟩ := load_expiredDesk
  exact ⟨i, loaded, named, held, isTidy_expiredLcid, completes_untouchedUpdate,
    lcid_after_untouched_run loaded named held isTidy_expiredLcid rfl (.inl rfl)
      completes_untouchedUpdate⟩

/-- An update that changes nothing on the form takes back an early expiry. -/
theorem early_expiry_lost_to_untouched_update :
    ¬ ∀ (s : Store) (today : Date) (now : Instant) (r : ActionRequest) (i k : Intake)
      (l : LcidRecord), s.load r.intakeId = .ok i → i.id = r.intakeId → i.lcid = some l →
      l.IsTidy → r.values = ∅ → r.kind = .updateLcid → s.completes today now r = true →
      (s.runAction today now r).2.load r.intakeId = .ok k → k.lcid = some l := by
  intro claim
  obtain ⟨i, loaded, named, held⟩ := load_expiredDesk
  obtain ⟨k, after, lost⟩ := exists_load_of_any seen_expiredDesk.2.2.2.2
  have kept := claim expiredDesk noon.date noon untouchedUpdate i k expiredLcid loaded named held
    isTidy_expiredLcid rfl rfl completes_untouchedUpdate after
  exact absurd (kept.symm.trans (of_decide_eq_true lost)) (by decide)

end Store

end GovernanceDesk
