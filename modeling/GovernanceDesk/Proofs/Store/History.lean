import GovernanceDesk.Proofs.Store.Calls
import Mathlib.Data.List.DropRight

/-!
# The history through all calls

Every mutation that takes effect on a request enters its history, as the action it was sent for and
with everything it carries, and nothing else does. A history that is full loses its oldest entry.

* `Enactment.entry`: what a mutation enters the history as.
* `Store.Touched.history_eq`: the history after one thing was done to a request.
* `Store.history_after_calls`: the history after any calls.
-/

namespace GovernanceDesk
set_option autoImplicit false

namespace Enactment

/-- The entry of a mutation in the history. -/
def entry (e : Enactment) : ActionRecord where
  action := e.kind
  operation := e.mutation.operation
  recipients := e.mutation.recipients
  additionalInfo := e.mutation.additionalInfo
  adminNote := e.mutation.adminNote
  createdAt := e.now

/-- A history with the entries of mutations that took effect; the first of them cuts it to its
limit. -/
def extend (history : List ActionRecord) (es : List Enactment) : List ActionRecord :=
  if es = [] then history else (history ++ es.map entry).rtake 200

/-- A window over what is in the window already is the window over all of it. -/
theorem rtake_rtake_append {α : Type} (n : Nat) (xs ys : List α) :
    (xs.rtake n ++ ys).rtake n = (xs ++ ys).rtake n := by
  rw [List.rtake_eq_reverse_take_reverse, List.rtake_eq_reverse_take_reverse,
    List.rtake_eq_reverse_take_reverse, List.reverse_append, List.reverse_append,
    List.reverse_reverse, List.take_append, List.take_append, List.take_take]
  have inner : min (n - ys.reverse.length) n = n - ys.reverse.length :=
    Nat.min_eq_left (Nat.sub_le ..)
  rw [inner]

theorem extend_concat (history : List ActionRecord) (es : List Enactment) (e : Enactment) :
    (extend history es ++ [e.entry]).rtake 200 = extend history (es ++ [e]) := by
  have nonempty : es ++ [e] ≠ [] := List.append_ne_nil_of_right_ne_nil es (List.cons_ne_nil e [])
  rw [extend, extend, if_neg nonempty, List.map_append, List.map_singleton, ← List.append_assoc]
  by_cases first : es = []
  · rw [if_pos first, first, List.map_nil, List.append_nil]
  · rw [if_neg first, rtake_rtake_append]

end Enactment

theorem Intake.latest_eq_rtake (history : List ActionRecord) :
    latest history = history.rtake historyLimit :=
  rfl

/-! ## Every call -/

namespace Store

variable {s : Store} {id : String}

theorem Applied.history_eq {today : Date} {now : Instant} {kind : ActionKind} {m : Mutation}
    {i j k : Intake} (h : Applied s today now kind m i j k) :
    k.history = (i.history ++ [Enactment.entry ⟨kind, m, now⟩]).rtake 200 := by
  obtain ⟨_, same⟩ := h.exists_eq
  have entry : ActionRecord.ofMutation kind m now = Enactment.entry ⟨kind, m, now⟩ := rfl
  rw [same, h.affected.untouched.2, Intake.latest_eq_rtake, entry, historyLimit]

theorem Touched.history_eq {i j : Intake} {c : Call} {es : List Enactment}
    {e? : Option Enactment} {history : List ActionRecord} (h : Touched s i c e? j)
    (before : i.history = Enactment.extend history es) :
    j.history = Enactment.extend history (es ++ e?.toList) := by
  cases h with
  | changed _ applied =>
    rw [applied.history_eq, before]
    exact Enactment.extend_concat history es _
  | ran _ run =>
    rw [run.applied.history_eq, before]
    exact Enactment.extend_concat history es _
  | statusTyped =>
    obtain ⟨_, same⟩ := exists_reported_eq i _ _ _
    rw [same, Option.toList_none, List.append_nil]
    exact before
  | _ =>
    rw [Option.toList_none, List.append_nil]
    exact before

/-- After any calls the history is the earlier one with one entry for each mutation that took effect
on the request, in order and cut to the last two hundred; and a mutation that a form sends goes by
the action of the form. -/
theorem history_after_calls {i : Intake} (loaded : s.load id = .ok i) (cs : List Call)
    (named : ∀ c ∈ cs, s.NamedAt c.intakeId) :
    (∃ k, (s.calls cs).load id = .ok k ∧
        k.history = Enactment.extend i.history (s.enactments id cs)) ∧
      ∀ (kind : ActionKind) (values : FormValues) (ctx : ActionContext)
        (told : Option Recipients) (m : Mutation),
        kind.buildMutation values ctx told = .ok m → m.operation.action = kind := by
  refine ⟨?_, fun kind values ctx told m built => ?_⟩
  · exact calls_related (R := fun es k => k.history = Enactment.extend i.history es) rfl cs
      (fun _ _ => Touched.history_eq) loaded named
  · exact (ActionKind.built_of_buildMutation built).action

/-- Edits are requested, an ID that is not there cannot be unretired, and one is issued. -/
def threeMutations : List Call :=
  [.ran ⟨noon.date, noon, editsOf "INTAKE_REQUEST"⟩,
    .changed (.dispatched noon.date noon ⟨"r1", none, none, none, .unretireLcid none⟩),
    .changed issuing]

theorem history_after_threeMutations :
    smallDesk.load "r1" =
        .ok (.opened "r1" "Data platform" ⟨"Ada", "ada@example.gov", none⟩ noon) ∧
      (∀ c ∈ threeMutations, smallDesk.NamedAt c.intakeId) ∧
      (smallDesk.enactments "r1" threeMutations).map Enactment.kind =
        [.requestEdits, .issueLcid] ∧
      (∃ k, (smallDesk.calls threeMutations).load "r1" = .ok k ∧
        k.history = Enactment.extend [] (smallDesk.enactments "r1" threeMutations)) ∧
      ∀ (kind : ActionKind) (values : FormValues) (ctx : ActionContext)
        (told : Option Recipients) (m : Mutation),
        kind.buildMutation values ctx told = .ok m → m.operation.action = kind := by
  have named : ∀ c ∈ threeMutations, smallDesk.NamedAt c.intakeId :=
    fun c _ => wellNamed_smallDesk c.intakeId
  have enacted : (smallDesk.enactments "r1" threeMutations).map Enactment.kind =
      [.requestEdits, .issueLcid] := by
    decide +kernel
  exact ⟨load_smallDesk, named, enacted, history_after_calls load_smallDesk threeMutations named⟩

end Store

end GovernanceDesk
