import GovernanceDesk.Proofs.Lcid.Allocation
import GovernanceDesk.Proofs.Store.Listing
import GovernanceDesk.Proofs.Store.Running

/-!
# The numbers of life cycle IDs

Only an issue gives a request another number than it has, and an issue that names no number gives it
one that nobody holds. The store issues an ID to a request whether or not it holds one, so of two
mutations that were built while it held none the second replaces the number of the first.

* `Store.lcidNumber?`: the number of the life cycle ID that a request holds.
* `Store.not_held_of_issue`: a number that an issue does not name is free.
* `Store.Applied.lcidNumber?_iff`: when a request has a number after a mutation.
* `Store.lcidNumber?_after_change_iff`: which mutations, one after the other, leave it its number.
-/

namespace GovernanceDesk
set_option autoImplicit false

/-! ## What an operation does to the number -/

namespace Intake

variable {i j : Intake} {today : Date} {now : Instant}
  {issue : LcidDecision → Except Failure LcidRecord} {op : Operation}

def lcidNumber? (i : Intake) : Option String :=
  i.lcid.map LcidRecord.lcid

theorem Affected.lcidNumber?_eq (h : Affected i today now issue op j)
    (other : ∀ d, op ≠ .issueLcid d) : j.lcidNumber? = i.lcidNumber? := by
  cases h with
  | issued d => exact absurd rfl (other d)
  | moved newStep date feedback recommendations =>
    obtain ⟨_, _, _, same⟩ := exists_moved_eq i newStep date feedback recommendations now
    rw [same]
    rfl
  | confirmed _ _ held | updated _ _ _ _ _ _ held | retired _ _ _ held | retirementMoved _ _ held
  | unretired _ _ held | expired _ _ _ held =>
    rw [lcidNumber?, lcidNumber?, held]
    rfl
  | _ => rfl

theorem Affected.lcidNumber?_of_issueLcid {d : LcidDecision}
    (h : Affected i today now issue (.issueLcid d) j) :
    ∃ l, issue d = .ok l ∧ j.lcidNumber? = some l.lcid := by
  cases h with
  | issued _ l free => exact ⟨l, free, rfl⟩

/-- Whether a number that somebody holds is the request's after an operation: a decision to issue
must name it, and any other operation leaves the request the number it has. -/
def HasNumberAfter (i : Intake) (number : String) : Operation → Prop
  | .issueLcid d => d.lcid = some number
  | _ => i.lcidNumber? = some number

theorem hasNumberAfter_iff (number : String) (other : ∀ d, op ≠ .issueLcid d) :
    i.HasNumberAfter number op ↔ i.lcidNumber? = some number := by
  cases op with
  | issueLcid d => exact absurd rfl (other d)
  | _ => rfl

end Intake

/-! ## Numbers in a store -/

namespace Store

variable {s s' : Store} {today : Date} {now : Instant} {id number : String}

def lcidNumber? (s : Store) (id : String) : Option String :=
  (s.load id).toOption.bind Intake.lcidNumber?

theorem lcidNumber?_of_load {i : Intake} (h : s.load id = .ok i) :
    s.lcidNumber? id = i.lcidNumber? := by
  rw [lcidNumber?, h]
  rfl

theorem exists_load_of_lcidNumber? (h : s.lcidNumber? id = some number) :
    ∃ i l, s.load id = .ok i ∧ i.lcid = some l ∧ l.lcid = number := by
  obtain ⟨i, loaded, held⟩ := Option.bind_eq_some_iff.1 h
  obtain ⟨l, record, same⟩ := Option.map_eq_some_iff.1 held
  refine ⟨i, l, ?_, record, same⟩
  cases found : s.load id with
  | error e =>
    rw [found] at loaded
    exact nomatch loaded
  | ok j =>
    rw [found] at loaded
    exact congrArg Except.ok (Option.some.inj loaded)

theorem Saved.lcidNumber?_eq {i : Intake} (h : Saved s i s') (id : String) :
    s'.lcidNumber? id = if i.id = id then i.lcidNumber? else s.lcidNumber? id := by
  split
  next here =>
    rw [← here]
    exact lcidNumber?_of_load h.load_self
  next elsewhere => rw [lcidNumber?, h.load_other (Ne.symm elsewhere), lcidNumber?]

/-! ## Issues -/

theorem issue_cases {d : LcidDecision} {l : LcidRecord} (h : s.issue today now d = .ok l) :
    d.lcid = some l.lcid ∨ d.lcid = none ∧ ∃ records, s.existingLcids = .ok records ∧
      l.lcid = Lcid.allocate today (records.map LcidRecord.lcid) := by
  obtain ⟨chosen, choice, rest⟩ := ok_of_bind_ok h
  cases rest
  obtain ⟨records, listed, rest⟩ := ok_of_bind_ok choice
  cases named : d.lcid with
  | some name =>
    rw [named] at rest
    dsimp only at rest
    split at rest
    · cases rest
      exact .inl rfl
    · exact nomatch rest
  | none =>
    rw [named] at rest
    cases rest
    exact .inr ⟨rfl, records, listed, rfl⟩

/-- But for its number, a newly issued record holds what its decision fixes. -/
theorem issue_eq {d : LcidDecision} {l : LcidRecord} (h : s.issue today now d = .ok l) :
    l = ⟨l.lcid, now, d.expiresAt, none, d.scope, d.nextSteps, d.trbFollowUp, d.costBaseline,
      false⟩ := by
  obtain ⟨chosen, -, rest⟩ := ok_of_bind_ok h
  cases rest
  rfl

/-- A number that is not named by its decision is nobody's yet. -/
theorem not_held_of_issue {d : LcidDecision} {l : LcidRecord}
    (issued : s.issue today now d = .ok l) (unnamed : d.lcid = none) (id : String) :
    s.lcidNumber? id ≠ some l.lcid := by
  intro held
  obtain ⟨i, l', loaded, record, same⟩ := exists_load_of_lcidNumber? held
  rcases issue_cases issued with named | ⟨-, records, listed, fresh⟩
  · rw [unnamed] at named
    exact nomatch named
  · have taken : l'.lcid ∈ records.map LcidRecord.lcid :=
      List.mem_map_of_mem (mem_existingLcids_of_load loaded record listed)
    rw [same, fresh] at taken
    exact Lcid.allocate_not_mem _ _ taken

/-! ## Mutations that take effect -/

theorem Applied.lcidNumber?_eq {kind : ActionKind} {m : Mutation} {i j k : Intake}
    (h : Applied s today now kind m i j k) (other : ∀ d, m.operation ≠ .issueLcid d) :
    k.lcidNumber? = i.lcidNumber? := by
  rw [Intake.lcidNumber?, h.lcid_eq]
  exact h.affected.lcidNumber?_eq other

theorem Applied.lcidNumber?_of_issueLcid {kind : ActionKind} {m : Mutation} {i j k : Intake}
    {d : LcidDecision} (h : Applied s today now kind m i j k)
    (issues : m.operation = .issueLcid d) :
    ∃ l, s.issue today now d = .ok l ∧ k.lcidNumber? = some l.lcid := by
  have affected := h.affected
  rw [issues] at affected
  obtain ⟨l, issued, number⟩ := affected.lcidNumber?_of_issueLcid
  refine ⟨l, issued, ?_⟩
  rw [Intake.lcidNumber?, h.lcid_eq]
  exact number

/-- Whether the request of a mutation has a number afterwards that somebody holds. -/
theorem Applied.lcidNumber?_iff {kind : ActionKind} {m : Mutation} {i j k : Intake}
    (h : Applied s today now kind m i j k) (held : s.lcidNumber? id = some number) :
    k.lcidNumber? = some number ↔ i.HasNumberAfter number m.operation := by
  by_cases issues : ∃ d, m.operation = .issueLcid d
  · obtain ⟨d, issues⟩ := issues
    obtain ⟨l, issued, new⟩ := h.lcidNumber?_of_issueLcid issues
    rw [issues, new]
    rcases issue_cases issued with named | ⟨unnamed, -⟩
    · rw [Intake.HasNumberAfter, named]
    · have free : l.lcid ≠ number := by
        rintro rfl
        exact not_held_of_issue issued unnamed id held
      rw [Intake.HasNumberAfter, unnamed]
      exact iff_of_false (fun same => free (Option.some.inj same)) nofun
  · have other : ∀ d, m.operation ≠ .issueLcid d := fun d same => issues ⟨d, same⟩
    rw [Intake.hasNumberAfter_iff number other, h.lcidNumber?_eq other]

/-! ## Mutations one after another -/

end Store

/-- A mutation that reaches the store, as it is or in answer to a form. -/
inductive Change where
  | applied (today : Date) (now : Instant) (kind : ActionKind) (m : Mutation)
  | dispatched (today : Date) (now : Instant) (m : Mutation)

namespace Change

def mutation : Change → Mutation
  | applied _ _ _ m => m
  | dispatched _ _ m => m

def today : Change → Date
  | applied today _ _ _ => today
  | dispatched today _ _ => today

def now : Change → Instant
  | applied _ now _ _ => now
  | dispatched _ now _ => now

/-- The action it enters the history as; an answer to a form goes by its operation. -/
def kind : Change → ActionKind
  | applied _ _ kind _ => kind
  | dispatched _ _ m => m.operation.action

end Change

namespace Store

variable {s s' : Store} {today : Date} {now : Instant} {id number : String}

def change (s : Store) : Change → Store
  | .applied today now kind m =>
    match s.apply today now kind m with
    | .ok (_, s') => s'
    | .error _ => s
  | .dispatched today now m => (s.dispatch today now m).2

/-- Whether a mutation takes effect. -/
def accepts (s : Store) : Change → Bool
  | .applied today now kind m => (s.apply today now kind m).isOk
  | .dispatched today now m => (s.dispatch today now m).1.isOk

def changes (s : Store) (cs : List Change) : Store :=
  cs.foldl change s

@[simp] theorem changes_concat (s : Store) (cs : List Change) (c : Change) :
    s.changes (cs ++ [c]) = (s.changes cs).change c :=
  List.foldl_concat ..

/-- A mutation takes effect on its request, as the action it is sent for, and is saved; or nothing
happens. -/
theorem accepted_cases (s : Store) (c : Change) :
    (s.accepts c = true ∧ ∃ i j k,
      Applied s c.today c.now c.kind c.mutation i j k ∧ Saved s k (s.change c)) ∨
    (s.accepts c = false ∧ s.change c = s) := by
  cases c with
  | applied today now kind m =>
    rw [accepts, change]
    cases h : s.apply today now kind m with
    | error e => exact .inr ⟨rfl, rfl⟩
    | ok result =>
      obtain ⟨⟨i, j, applied⟩, saved⟩ := apply_cases h
      exact .inl ⟨rfl, i, j, result.1, applied, saved⟩
  | dispatched today now m =>
    rw [accepts, change, dispatch]
    cases h : s.apply today now m.operation.action m with
    | error e => exact .inr ⟨rfl, rfl⟩
    | ok result =>
      obtain ⟨⟨i, j, applied⟩, saved⟩ := apply_cases h
      exact .inl ⟨rfl, i, j, result.1, applied, saved⟩

/-- A request still has its number after a mutation took effect unless that wrote the request with
another number: an issue that did not name it, or the record that was found under another id. -/
theorem lcidNumber?_after_change_iff (s : Store) (earlier : List Change) (c : Change)
    (held : (s.changes earlier).lcidNumber? id = some number)
    (effective : (s.changes earlier).accepts c = true) :
    ∃ i, (s.changes earlier).load c.mutation.intakeId = .ok i ∧
      ((s.changes (earlier ++ [c])).lcidNumber? id = some number ↔
        (i.id = id → i.HasNumberAfter number c.mutation.operation)) := by
  rw [changes_concat]
  obtain ⟨-, i, j, k, applied, saved⟩ | ⟨refused, -⟩ := accepted_cases (s.changes earlier) c
  · refine ⟨i, applied.loaded, ?_⟩
    rw [saved.lcidNumber?_eq, applied.id_eq]
    by_cases same : i.id = id
    · rw [if_pos same, applied.lcidNumber?_iff held, imp_iff_right same]
    · rw [if_neg same]
      exact iff_of_true held fun own => absurd own same
  · rw [refused] at effective
    exact nomatch effective

/-! ### A decision sent twice -/

/-- A decision to issue an ID to the one request, as its form sends it while there is none. -/
def issuing : Change := .dispatched noon.date noon
  { intakeId := "r1"
    recipients := none
    additionalInfo := none
    adminNote := none
    operation := .issueLcid
      ⟨none, ⟨2031, 10, 16, by decide⟩, "All of it", "Build it", .notRecommended, none⟩ }

theorem lcidNumber?_after_issuing :
    (smallDesk.changes [issuing]).lcidNumber? "r1" = some "26289A" := by
  decide +kernel

theorem accepts_issuing_again : (smallDesk.changes [issuing]).accepts issuing = true := by
  decide +kernel

theorem lcidNumber?_after_second_issue_iff :
    (smallDesk.changes [issuing]).lcidNumber? "r1" = some "26289A" ∧
      (smallDesk.changes [issuing]).accepts issuing = true ∧
      ∃ i, (smallDesk.changes [issuing]).load "r1" = .ok i ∧
        ((smallDesk.changes ([issuing] ++ [issuing])).lcidNumber? "r1" = some "26289A" ↔
          (i.id = "r1" → i.HasNumberAfter "26289A" issuing.mutation.operation)) :=
  ⟨lcidNumber?_after_issuing, accepts_issuing_again,
    lcidNumber?_after_change_iff smallDesk [issuing] issuing lcidNumber?_after_issuing
      accepts_issuing_again⟩

/-- The second of two forms that were submitted on the same request replaces the number of the
first. -/
theorem lcidNumber?_lost_to_second_issue :
    ¬ ∀ s : Store, s.WellNamed → ∀ (earlier : List Change) (c : Change) (id number : String),
      (s.changes earlier).lcidNumber? id = some number → (s.changes earlier).accepts c = true →
      (s.changes (earlier ++ [c])).lcidNumber? id = some number := by
  intro claim
  have kept := claim smallDesk wellNamed_smallDesk [issuing] issuing "r1" "26289A"
    lcidNumber?_after_issuing accepts_issuing_again
  have replaced :
      (smallDesk.changes ([issuing] ++ [issuing])).lcidNumber? "r1" = some "26289B" := by
    decide +kernel
  exact absurd (kept.symm.trans replaced) (by decide)

end Store

end GovernanceDesk
