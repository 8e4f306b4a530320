import GovernanceDesk.Proofs.Form.Steps

/-!
# The log of a form

Everything that is ever done to a form is one of seven operations. The log of a sequence of them
keeps, for each, the form it found and what it answered; a refused operation leaves the form as it
was and still enters the log.

* `FormOp`, `ActionForm.perform`: the operations and what each answers.
* `ActionForm.Performed`: what an operation does that is not refused.
* `ActionForm.log`, `ActionForm.after`: a sequence of operations and the form it leaves.
* `hydrations`, `lastSubmit?`: what a log says about loading and pressing buttons.
-/

namespace GovernanceDesk
set_option autoImplicit false

inductive FormOp where
  | hydrate (loaded : Except Failure ActionContext)
  | setValue (name : String) (value : FieldValue)
  | setRecipients (recipients : Recipients)
  | submit (button : Button) (ctx : ActionContext)
  | confirm (ctx : ActionContext)
  | cancel
  | resolve (answer : Except SubmitError Outcome)

/-- The form afterwards, with the outcome if a button was pressed or the question answered. -/
abbrev FormReply := Except Failure (ActionForm × Option SubmitOutcome)

/-- One operation in a log, with the form it found. -/
structure FormEvent where
  form : ActionForm
  op : FormOp
  reply : FormReply

namespace ActionForm

def perform (f : ActionForm) : FormOp → FormReply
  | .hydrate loaded => (f.hydrate loaded).map fun f => (f, none)
  | .setValue name value => (f.setValue name value).map fun f => (f, none)
  | .setRecipients recipients => (f.setRecipients recipients).map fun f => (f, none)
  | .submit button ctx => (f.submit button ctx).map fun r => (r.1, some r.2)
  | .confirm ctx => (f.confirm ctx).map fun r => (r.1, some r.2)
  | .cancel => f.cancel.map fun f => (f, none)
  | .resolve answer => (f.resolve answer).map fun f => (f, none)

/-- All that an operation can do to a form when it is not refused. -/
inductive Performed (f : ActionForm) : FormOp → ActionForm → Option SubmitOutcome → Prop where
  | hydrated {loaded : Except Failure ActionContext} {f' : ActionForm}
      (loading : f.phase = .loadingDefaults) (opened : Opened f loaded f') :
    Performed f (.hydrate loaded) f' none
  | entered {name : String} {value : FieldValue} (values : FormValues)
      (editing : f.phase = .editing) :
    Performed f (.setValue name value) { f with values := values } none
  | addressed {recipients : Recipients} (editing : f.phase = .editing) :
    Performed f (.setRecipients recipients) { f with recipients := recipients } none
  | pressed {button : Button} {ctx : ActionContext} {f' : ActionForm} {o : SubmitOutcome}
      (editing : f.phase = .editing) (settled : Settled (f.pressing button) ctx f' o) :
    Performed f (.submit button ctx) f' (some o)
  | confirmed {ctx : ActionContext} {f' : ActionForm} {o : SubmitOutcome}
      (confirming : f.phase = .confirming)
      (begun : Begun { f with confirmationOpen := false } ctx f' o) :
    Performed f (.confirm ctx) f' (some o)
  | cancelled (confirming : f.phase = .confirming) :
    Performed f .cancel { f with confirmationOpen := false, phase := .editing } none
  | answered {answer : Except SubmitError Outcome} (submitting : f.phase = .submitting) :
    Performed f (.resolve answer) (f.answered answer) none

theorem performed {f f' : ActionForm} {op : FormOp} {o : Option SubmitOutcome}
    (h : f.perform op = .ok (f', o)) : Performed f op f' o := by
  cases op <;> obtain ⟨r, hr, he⟩ := ok_of_map_ok h <;> cases he
  case hydrate =>
    obtain ⟨loading, opened⟩ := hydrate_cases hr
    exact .hydrated loading opened
  case setValue =>
    obtain ⟨editing, values, rfl⟩ := setValue_cases hr
    exact .entered values editing
  case setRecipients =>
    obtain ⟨editing, rfl⟩ := setRecipients_cases hr
    exact .addressed editing
  case submit =>
    obtain ⟨editing, settled⟩ := submit_cases hr
    exact .pressed editing settled
  case confirm =>
    obtain ⟨confirming, begun⟩ := confirm_cases hr
    exact .confirmed confirming begun
  case cancel =>
    obtain ⟨confirming, rfl⟩ := cancel_cases hr
    exact .cancelled confirming
  case resolve =>
    obtain ⟨submitting, rfl⟩ := resolve_cases hr
    exact .answered submitting

/-- The form that is there after an operation was answered. -/
def next (f : ActionForm) : FormReply → ActionForm
  | .ok (f', _) => f'
  | .error _ => f

def event (f : ActionForm) (op : FormOp) : FormEvent :=
  ⟨f, op, f.perform op⟩

def log (f : ActionForm) : List FormOp → List FormEvent
  | [] => []
  | op :: ops => f.event op :: (f.next (f.perform op)).log ops

def after (f : ActionForm) : List FormOp → ActionForm
  | [] => f
  | op :: ops => (f.next (f.perform op)).after ops

end ActionForm

/-! ## What an event says -/

namespace FormEvent

/-- The context a form was opened with. -/
def hydration? (e : FormEvent) : Option ActionContext :=
  match e.op, e.reply with
  | .hydrate (.ok ctx), .ok _ => some ctx
  | _, _ => none

/-- The button that was pressed and the context it was pressed in; a refused press is none. -/
def submit? (e : FormEvent) : Option (Button × ActionContext) :=
  match e.op, e.reply with
  | .submit button ctx, .ok _ => some (button, ctx)
  | _, _ => none

/-- The context that the event itself was given to build a mutation from. -/
def context? (e : FormEvent) : Option ActionContext :=
  match e.op with
  | .submit _ ctx | .confirm ctx => some ctx
  | _ => none

def dispatched? (e : FormEvent) : Option Mutation :=
  match e.reply with
  | .ok (_, some (.dispatch m)) => some m
  | _ => none

/-- Whether the event took the answer that a mutation did not get through. -/
def isTransport (e : FormEvent) : Bool :=
  match e.op, e.reply with
  | .resolve (.error (.transport _)), .ok _ => true
  | _, _ => false

def isConfirm (e : FormEvent) : Bool :=
  match e.op with
  | .confirm _ => true
  | _ => false

end FormEvent

def hydrations (log : List FormEvent) : List ActionContext :=
  log.filterMap FormEvent.hydration?

def lastSubmit? (log : List FormEvent) : Option (Button × ActionContext) :=
  (log.filterMap FormEvent.submit?).getLast?

/-! ## Logs of longer sequences -/

theorem lastSubmit?_append_some {log : List FormEvent} {e : FormEvent}
    {press : Button × ActionContext} (h : e.submit? = some press) :
    lastSubmit? (log ++ [e]) = some press := by
  simp [lastSubmit?, h]

theorem lastSubmit?_append_none {log : List FormEvent} {e : FormEvent} (h : e.submit? = none) :
    lastSubmit? (log ++ [e]) = lastSubmit? log := by
  simp [lastSubmit?, h]

theorem hydrations_append (log : List FormEvent) (e : FormEvent) :
    hydrations (log ++ [e]) = hydrations log ++ e.hydration?.toList := by
  cases h : e.hydration? <;> simp [hydrations, h]

namespace ActionForm

/-- What stands before an event is the log of the operations before it. -/
theorem log_split {f : ActionForm} {ops : List FormOp} {earlier later : List FormEvent}
    {e : FormEvent} (h : f.log ops = earlier ++ e :: later) :
    ∃ before op, earlier = f.log before ∧ e = (f.after before).event op := by
  induction earlier generalizing f ops with
  | nil =>
    cases ops with
    | nil => exact nomatch h
    | cons op ops => exact ⟨[], op, rfl, (List.cons.inj h).1.symm⟩
  | cons first earlier ih =>
    cases ops with
    | nil => exact nomatch h
    | cons op ops =>
      obtain ⟨same, rest⟩ := List.cons.inj h
      obtain ⟨before, last, hb, he⟩ := ih rest
      exact ⟨op :: before, last, by rw [← same, hb]; rfl, he⟩

end ActionForm

end GovernanceDesk
