import GovernanceDesk.Proofs.Action.Built
import GovernanceDesk.Proofs.Form.Checked
import GovernanceDesk.Proofs.Form.Log

/-!
# What a form hands out

Between the press of a button and the answer to its question a form is not checked again, and the
context may change. A mutation that it hands out is sound all the same.

* `ActionForm.Kept`: what holds of a form and its log before and after every operation.
* `SoundDispatch`: what is true of a mutation when it is handed out.
* `ActionForm.soundDispatch_of_log`: it is true in every log.
-/

namespace GovernanceDesk
set_option autoImplicit false

/-- Phases of a form that does not wait for an answer and has had no final one. -/
def Phase.isIdle : Phase → Bool
  | loadingDefaults | editing | validating | confirming => true
  | submitting | done | failed => false

/-- After every mutation that was handed out came the answer that it did not get through. -/
def AllReturned (log : List FormEvent) : Prop :=
  ∀ before e between, log = before ++ e :: between → e.dispatched?.isSome = true →
    ∃ r ∈ between, r.isTransport = true

/-- A mutation was handed out under the button that was pressed last: nobody is told exactly when
the button says so, and an open request for edits is dropped only after the question. -/
structure AnswersPress (e : FormEvent) (m : Mutation) (button : Button) (ctx : ActionContext) :
    Prop where
  silent_iff : m.recipients = none ↔ button = .completeWithoutEmail
  notified : ∀ recipients, m.recipients = some recipients →
    recipients = e.form.recipients ∧ recipients.problem? = none
  confirmed : e.form.kind ≠ .requestEdits → ctx.intake.editsRequested?.isSome = true →
    e.isConfirm = true

/-- A mutation that an event hands out: what was entered is valid, it is built from that and the
context of the same event, and no earlier one can still take effect. -/
structure SoundDispatch (kind : ActionKind) (earlier : List FormEvent) (e : FormEvent)
    (m : Mutation) : Prop where
  sameKind : e.form.kind = kind
  valid : kind.problems e.form.values = ∅
  existing : kind = .issueLcid → e.form.values.flag "useExistingLcid" = true →
    ∃ ctx ∈ hydrations earlier, ∃ l ∈ ctx.existingLcids,
      e.form.values.text? "lcid" = some l.lcid
  built : ∃ ctx, e.context? = some ctx ∧
    kind.buildMutation e.form.values ctx m.recipients = .ok m
  pressed : ∃ button ctx, lastSubmit? (earlier ++ [e]) = some (button, ctx) ∧
    AnswersPress e m button ctx
  returned : AllReturned earlier

/-! ## Mutations that came back -/

section Returned

variable {log : List FormEvent} {e : FormEvent}

theorem allReturned_nil : AllReturned [] := by
  intro before e between h
  simp at h

/-- Everything is back if it was and nothing new is handed out, or if the answer just came. -/
theorem allReturned_append (silent : e.dispatched? = none)
    (h : e.isTransport = true ∨ AllReturned log) : AllReturned (log ++ [e]) := by
  intro before d between split sent
  rcases List.eq_nil_or_concat between with rfl | ⟨init, last, rfl⟩
  · obtain ⟨-, rfl⟩ : log = before ∧ e = d := by simpa using List.append_inj' split rfl
    rw [silent] at sent
    exact nomatch sent
  · have parts : log ++ [e] = before ++ d :: init ++ [last] := by simpa using split
    obtain ⟨front, rfl⟩ : log = before ++ d :: init ∧ e = last := by
      simpa using List.append_inj' parts rfl
    rcases h with transport | back
    · exact ⟨e, by simp, transport⟩
    · obtain ⟨r, hr, ht⟩ := back before d init front sent
      exact ⟨r, by simp [hr], ht⟩

end Returned

namespace ActionForm

/-! ## What every operation keeps -/

/-- The invariant of a form and its log. While the question is open, what was entered is the checked
form, under the button pressed last. -/
structure Kept (kind : ActionKind) (log : List FormEvent) (f : ActionForm) : Prop where
  sameKind : f.kind = kind
  hydrated : ∀ l ∈ f.existingLcids, ∃ ctx ∈ hydrations log, l ∈ ctx.existingLcids
  checked : f.phase = .confirming →
    f.problems f.emailSuppressed = ∅ ∧
      ∃ button ctx, lastSubmit? log = some (button, ctx) ∧
        f.emailSuppressed = button.suppressesEmail
  returned : f.phase.isIdle = true → AllReturned log

theorem kept_fresh (kind : ActionKind) (intakeId : String) : Kept kind [] (fresh kind intakeId) where
  sameKind := rfl
  hydrated _ mem := nomatch mem
  checked asking := nomatch asking
  returned _ := allReturned_nil

variable {kind : ActionKind} {log : List FormEvent} {f f' : ActionForm} {op : FormOp}
  {o : Option SubmitOutcome}

theorem mem_hydrations_append {ctx : ActionContext} (e : FormEvent) (h : ctx ∈ hydrations log) :
    ctx ∈ hydrations (log ++ [e]) := by
  rw [hydrations_append]
  exact List.mem_append_left _ h

theorem Kept.refused (h : Kept kind log f) (e : Failure) :
    Kept kind (log ++ [⟨f, op, .error e⟩]) f where
  sameKind := h.sameKind
  hydrated l hl := by
    obtain ⟨ctx, hc, mem⟩ := h.hydrated l hl
    exact ⟨ctx, mem_hydrations_append _ hc, mem⟩
  checked asking := by
    have quiet : FormEvent.submit? ⟨f, op, .error e⟩ = none := by
      cases op <;> rfl
    rw [lastSubmit?_append_none quiet]
    exact h.checked asking
  returned idle := allReturned_append rfl (.inr (h.returned idle))

/-- Only opening a form tells it which life cycle IDs there are. -/
theorem Performed.hydrated_append (p : Performed f op f' o)
    (h : ∀ l ∈ f.existingLcids, ∃ ctx ∈ hydrations log, l ∈ ctx.existingLcids) :
    ∀ l ∈ f'.existingLcids,
      ∃ ctx ∈ hydrations (log ++ [⟨f, op, .ok (f', o)⟩]), l ∈ ctx.existingLcids := by
  have old : f'.existingLcids = f.existingLcids → ∀ l ∈ f'.existingLcids,
      ∃ ctx ∈ hydrations (log ++ [⟨f, op, .ok (f', o)⟩]), l ∈ ctx.existingLcids := by
    intro same l hl
    obtain ⟨ctx, hc, mem⟩ := h l (same ▸ hl)
    exact ⟨ctx, mem_hydrations_append _ hc, mem⟩
  cases p with
  | hydrated _ opened =>
    cases opened with
    | failed => exact old rfl
    | ready ctx =>
      intro l hl
      refine ⟨ctx, ?_, hl⟩
      rw [hydrations_append]
      simp [FormEvent.hydration?]
  | pressed _ settled => exact old settled.sameEntries.existingLcids
  | confirmed _ begun => exact old begun.sameEntries.existingLcids
  | answered => exact old (sameEntries_answered f _).existingLcids
  | _ => exact old rfl

theorem Performed.kind_eq (p : Performed f op f' o) : f'.kind = f.kind := by
  cases p with
  | hydrated _ opened => exact opened.kind_eq
  | pressed _ settled => exact settled.sameEntries.kind
  | confirmed _ begun => exact begun.sameEntries.kind
  | answered => exact (sameEntries_answered f _).kind
  | _ => rfl

/-- The question is asked only by the press of a button on a form without problems. -/
theorem Performed.checked_of_confirming (p : Performed f op f' o) (asking : f'.phase = .confirming) :
    f'.problems f'.emailSuppressed = ∅ ∧
      ∃ button ctx, lastSubmit? (log ++ [⟨f, op, .ok (f', o)⟩]) = some (button, ctx) ∧
        f'.emailSuppressed = button.suppressesEmail := by
  cases p with
  | hydrated _ opened => cases opened <;> exact nomatch asking
  | entered _ editing => exact nomatch editing.symm.trans asking
  | addressed editing => exact nomatch editing.symm.trans asking
  | cancelled => exact nomatch asking
  | confirmed _ begun => cases begun <;> exact nomatch asking
  | @answered answer _ =>
    rcases answer with (detail | detail) | outcome <;> exact nomatch asking
  | @pressed button ctx _ _ _ settled =>
    cases settled with
    | refused => exact nomatch asking
    | begun _ _ _ _ rest => cases rest <;> exact nomatch asking
    | asked question fine _ => exact ⟨fine, button, ctx, lastSubmit?_append_some rfl, rfl⟩

/-- A form that takes entries again has every mutation back. -/
theorem Performed.returned_append (p : Performed f op f' o)
    (h : f.phase.isIdle = true → AllReturned log) (idle : f'.phase.isIdle = true) :
    AllReturned (log ++ [⟨f, op, .ok (f', o)⟩]) := by
  cases p with
  | hydrated loading => exact allReturned_append rfl (.inr (h (loading ▸ rfl)))
  | entered _ editing => exact allReturned_append rfl (.inr (h (editing ▸ rfl)))
  | addressed editing => exact allReturned_append rfl (.inr (h (editing ▸ rfl)))
  | cancelled confirming => exact allReturned_append rfl (.inr (h (confirming ▸ rfl)))
  | pressed editing settled =>
    have back := h (editing ▸ rfl)
    cases settled with
    | refused => exact allReturned_append rfl (.inr back)
    | asked => exact allReturned_append rfl (.inr back)
    | begun _ _ _ _ rest =>
      cases rest with
      | sent => exact nomatch idle
      | unbuilt => exact allReturned_append rfl (.inr back)
  | confirmed confirming begun =>
    cases begun with
    | sent => exact nomatch idle
    | unbuilt => exact allReturned_append rfl (.inr (h (confirming ▸ rfl)))
  | @answered answer _ =>
    rcases answer with (detail | detail) | outcome
    · exact allReturned_append rfl (.inl rfl)
    · exact nomatch idle
    · exact nomatch idle

theorem Kept.performed (h : Kept kind log f) (p : Performed f op f' o) :
    Kept kind (log ++ [⟨f, op, .ok (f', o)⟩]) f' where
  sameKind := p.kind_eq.trans h.sameKind
  hydrated := p.hydrated_append h.hydrated
  checked := p.checked_of_confirming
  returned := p.returned_append h.returned

theorem Kept.step (h : Kept kind log f) (op : FormOp) :
    Kept kind (log ++ [f.event op]) (f.next (f.perform op)) := by
  rw [event]
  cases answer : f.perform op with
  | error e => exact h.refused e
  | ok r => exact h.performed (ActionForm.performed answer)

theorem Kept.run (h : Kept kind log f) (ops : List FormOp) :
    Kept kind (log ++ f.log ops) (f.after ops) := by
  induction ops generalizing log f with
  | nil =>
    rw [ActionForm.log, List.append_nil]
    exact h
  | cons op ops ih =>
    have rest := ih (h.step op)
    rw [List.append_assoc] at rest
    exact rest

theorem kept_after (kind : ActionKind) (intakeId : String) (ops : List FormOp) :
    Kept kind ((fresh kind intakeId).log ops) ((fresh kind intakeId).after ops) :=
  (kept_fresh kind intakeId).run ops

/-! ## Handing out -/

/-- A form without problems that issues an ID again names one it was opened with. -/
theorem Kept.existing (h : Kept .issueLcid log f) {suppressEmail : Bool}
    (fine : f.problems suppressEmail = ∅) (uses : f.values.flag "useExistingLcid" = true) :
    ∃ ctx ∈ hydrations log, ∃ l ∈ ctx.existingLcids, f.values.text? "lcid" = some l.lcid := by
  obtain ⟨valid, known, -⟩ := checks_of_problems_eq_empty fine
  obtain ⟨lcid, chosen⟩ := ActionKind.lcid_of_problems_eq_empty (h.sameKind ▸ valid) uses
  obtain ⟨l, mem, rfl⟩ := chosenLcid?_of_checked h.sameKind uses known chosen
  obtain ⟨ctx, hc, hl⟩ := h.hydrated l mem
  exact ⟨ctx, hc, l, hl, chosen⟩

theorem suppressesEmail_iff {button : Button} :
    button.suppressesEmail = true ↔ button = .completeWithoutEmail := by
  cases button <;> decide

/-- Who is told under a button, by a form that was checked under it. -/
theorem recipients_under {button : Button} {recipients : Option Recipients}
    (told : recipients = if button.suppressesEmail then none else some f.recipients)
    (fine : button.suppressesEmail = false → f.recipients.problem? = none) :
    (recipients = none ↔ button = .completeWithoutEmail) ∧
      ∀ r, recipients = some r → r = f.recipients ∧ r.problem? = none := by
  rw [← suppressesEmail_iff]
  cases suppressed : button.suppressesEmail with
  | true =>
    rw [suppressed, if_pos rfl] at told
    exact ⟨iff_of_true told rfl, fun r hr => nomatch told.symm.trans hr⟩
  | false =>
    rw [suppressed] at told
    refine ⟨iff_of_false (by simp [told]) (by simp), fun r hr => ?_⟩
    obtain rfl : f.recipients = r := by simpa [hr] using told.symm
    exact ⟨rfl, fine suppressed⟩

/-- A mutation is sound if it is built from a form that was checked under the button pressed last. -/
theorem Kept.soundDispatch (h : Kept kind log f) {e : FormEvent} (found : e.form = f)
    (idle : f.phase.isIdle = true) {button : Button} {pressedIn ctx : ActionContext} {m : Mutation}
    (given : e.context? = some ctx)
    (pressed : lastSubmit? (log ++ [e]) = some (button, pressedIn))
    (fine : f.problems button.suppressesEmail = ∅)
    (built : f.kind.buildMutation f.values ctx
      (if button.suppressesEmail then none else some f.recipients) = .ok m)
    (asked : kind ≠ .requestEdits → pressedIn.intake.editsRequested?.isSome = true →
      e.isConfirm = true) :
    SoundDispatch kind log e m := by
  subst found
  obtain ⟨valid, -, addressed⟩ := checks_of_problems_eq_empty fine
  have told := (ActionKind.built_of_buildMutation built).recipients
  obtain ⟨silent, notified⟩ := recipients_under told addressed
  have same := h.sameKind
  exact {
    sameKind := same
    valid := same ▸ valid
    existing := by
      rintro rfl uses
      exact h.existing fine uses
    built := ⟨ctx, given, by rw [told, ← same]; exact built⟩
    pressed := ⟨button, pressedIn, pressed, silent, notified, same.symm ▸ asked⟩
    returned := h.returned idle }

theorem Kept.soundDispatch_of_submit (h : Kept kind log f) {button : Button} {ctx : ActionContext}
    {m : Mutation} (editing : f.phase = .editing)
    (settled : Settled (f.pressing button) ctx f' (.dispatch m)) (reply : FormReply)
    (accepted : reply.isOk = true) :
    SoundDispatch kind log ⟨f, .submit button ctx, reply⟩ m := by
  cases settled with
  | begun _ _ fine quiet rest =>
    cases rest with
    | sent _ built =>
      have pressed : FormEvent.submit? ⟨f, .submit button ctx, reply⟩ = some (button, ctx) := by
        cases reply with
        | error e => exact nomatch accepted
        | ok r => rfl
      refine h.soundDispatch rfl (editing ▸ rfl) rfl (lastSubmit?_append_some pressed) fine built ?_
      intro other requested
      -- No question was asked, so no edits were requested.
      rw [ActionKind.confirmation?, if_neg (h.sameKind.symm ▸ other), Option.map_eq_none_iff] at quiet
      rw [quiet] at requested
      exact nomatch requested

theorem Kept.soundDispatch_of_confirm (h : Kept kind log f) {ctx : ActionContext} {m : Mutation}
    (confirming : f.phase = .confirming)
    (begun : Begun { f with confirmationOpen := false } ctx f' (.dispatch m)) (reply : FormReply) :
    SoundDispatch kind log ⟨f, .confirm ctx, reply⟩ m := by
  obtain ⟨fine, button, pressedIn, last, suppressed⟩ := h.checked confirming
  cases begun with
  | sent _ built =>
    have pressed : lastSubmit? (log ++ [⟨f, .confirm ctx, reply⟩]) = some (button, pressedIn) :=
      (lastSubmit?_append_none rfl).trans last
    refine h.soundDispatch rfl (confirming ▸ rfl) rfl pressed (suppressed ▸ fine) ?_ fun _ _ => rfl
    rw [← suppressed]
    exact built

/-- Whatever is done to a form in whatever order: every mutation it hands out is sound. A refused
press of a button does not count as a press. -/
theorem soundDispatch_of_log {kind : ActionKind} {intakeId : String} {ops : List FormOp}
    {earlier later : List FormEvent} {e : FormEvent} {m : Mutation}
    (h : (fresh kind intakeId).log ops = earlier ++ e :: later) (sent : e.dispatched? = some m) :
    SoundDispatch kind earlier e m := by
  obtain ⟨before, op, rfl, rfl⟩ := log_split h
  have kept := kept_after kind intakeId before
  rw [event] at sent ⊢
  cases answer : ((fresh kind intakeId).after before).perform op with
  | error failure =>
    rw [answer] at sent
    exact nomatch sent
  | ok r =>
    obtain ⟨f', o⟩ := r
    rw [answer] at sent
    obtain rfl : o = some (.dispatch m) := by
      simp only [FormEvent.dispatched?] at sent
      split at sent
      next m' same =>
        cases sent
        exact congrArg Prod.snd (Except.ok.inj same)
      · exact nomatch sent
    cases performed answer with
    | pressed editing settled => exact kept.soundDispatch_of_submit editing settled _ rfl
    | confirmed confirming begun => exact kept.soundDispatch_of_confirm confirming begun _

/-- A request whose intake form has edits requested. -/
def reworkContext : ActionContext :=
  let now : Instant := ⟨⟨2026, 10, 15, by decide⟩, 32400, 0, by decide⟩
  let ada : Contact := ⟨"Ada", "ada@example.gov", none⟩
  ⟨(Intake.opened "r1" "Data platform" ada now).withStatus .intakeForm .editsRequested now, [],
    now.date, 1⟩

/-- Closing it: the mutation gets lost once and is sent again without an email. -/
def closingTwice : List FormOp :=
  [.hydrate (.ok reworkContext), .submit .complete reworkContext, .confirm reworkContext,
    .resolve (.error (.transport "offline")), .submit .completeWithoutEmail reworkContext,
    .confirm reworkContext]

theorem soundDispatch_of_closingTwice :
    let log := (fresh .closeRequest "r1").log closingTwice
    let e := ((fresh .closeRequest "r1").after (closingTwice.take 5)).event (.confirm reworkContext)
    let m : Mutation := ⟨"r1", none, none, none, .closeRequest none⟩
    log = log.take 5 ++ [e] ∧ e.dispatched? = some m ∧
      SoundDispatch .closeRequest (log.take 5) e m := by
  intro log e m
  have split : log = log.take 5 ++ [e] := rfl
  have sent : e.dispatched? = some m := by decide +kernel
  exact ⟨split, sent, soundDispatch_of_log split sent⟩

end ActionForm

end GovernanceDesk
