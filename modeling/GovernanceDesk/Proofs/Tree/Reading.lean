import GovernanceDesk.Proofs.Tree.Fitting
import GovernanceDesk.Proofs.Tree.Reordered

/-!
# Reading back what was written

What is stored or sent is fitted to its shape before it is decoded. A shape that asks for a field
that its encoding leaves out, or has another name for it, would lose values that `decode` alone
would give back.

* `Entries.Written`: the fields of a record as they are written, slot by slot.
* `WellShaped`: a type whose values are written in its shape.
* `Draft.read_ofTree`: every value is read back, whatever the order of fields.
* `Draft.read_undoes_encode`: requests and mutations are, and so are those that were read before.
-/

namespace GovernanceDesk
set_option autoImplicit false

/-! ## Fields -/

/-- Fields as they are written for slots, in their order. A slot that is not needed may be passed
over. -/
inductive Entries.Written : List (Slot Shape) → Entries → Prop where
  | nil : Written [] []
  | field (slot : Slot Shape) {slots : List (Slot Shape)} {t : Tree} {entries : Entries}
      (held : slot.content.Admits t) (rest : Written slots entries) :
    Written (slot :: slots) ((slot.name, t) :: entries)
  | skip {slot : Slot Shape} {slots : List (Slot Shape)} {entries : Entries}
      (free : slot.isNeeded = false) (rest : Written slots entries) :
    Written (slot :: slots) entries

/-- A type whose values are written in its shape. -/
class WellShaped (α : Type) [Coded α] : Prop where
  admits : ∀ x : α, (shape α).Admits (encode x)

namespace Entries.Written

variable {slots : List (Slot Shape)} {entries : Entries}

theorem sublist (h : Written slots entries) :
    (entries.map Prod.fst).Sublist (slots.map Slot.name) := by
  induction h with
  | nil => exact .slnil
  | field _ _ _ ih => exact ih.cons_cons _
  | skip _ _ ih => exact ih.cons _

theorem needed (h : Written slots entries) {slot : Slot Shape} (mem : slot ∈ slots)
    (isNeeded : slot.isNeeded = true) : slot.name ∈ entries.map Prod.fst := by
  induction h with
  | nil => exact absurd mem List.not_mem_nil
  | field _ _ _ ih =>
    rcases List.mem_cons.1 mem with rfl | later
    · exact List.mem_cons_self ..
    · exact List.mem_cons_of_mem _ (ih later)
  | skip free _ ih =>
    rcases List.mem_cons.1 mem with rfl | later
    · exact absurd isNeeded (by rw [free]; exact Bool.false_ne_true)
    · exact ih later

/-- Where no two slots share a name, what is found under the name of a slot fits there. -/
theorem held (h : Written slots entries) (distinct : (slots.map Slot.name).Nodup)
    {slot : Slot Shape} (mem : slot ∈ slots) {t : Tree}
    (found : entries.lookup slot.name = some t) : slot.content.Admits t := by
  induction h with
  | nil => exact absurd mem List.not_mem_nil
  | @field first slots value entries here rest ih =>
    rw [List.map_cons, List.nodup_cons] at distinct
    rw [lookup_cons_ite] at found
    rcases List.mem_cons.1 mem with rfl | later
    · rw [if_pos rfl] at found
      cases found
      exact here
    · have other : slot.name ≠ first.name := fun same =>
        distinct.1 (same ▸ List.mem_map.2 ⟨slot, later, rfl⟩)
      rw [if_neg other] at found
      exact ih distinct.2 later found
  | @skip first slots entries free rest ih =>
    rw [List.map_cons, List.nodup_cons] at distinct
    rcases List.mem_cons.1 mem with rfl | later
    · have there := rest.sublist.subset (mem_names_iff.2 (Option.isSome_of_eq_some found))
      exact absurd there distinct.1
    · exact ih distinct.2 later found

theorem admits_record (h : Written slots entries) (distinct : (slots.map Slot.name).Nodup) :
    (Shape.record slots).Admits (.fields entries) :=
  .record (distinct.sublist h.sublist) (fun _ mem => h.sublist.subset mem)
    (fun _ mem isNeeded => h.needed mem isNeeded) fun _ mem _ found => h.held distinct mem found

theorem admits_inputs (h : Written slots entries) (distinct : (slots.map Slot.name).Nodup) :
    (Shape.inputs slots).Admits (.fields entries) :=
  .inputs (distinct.sublist h.sublist) (fun _ mem => h.sublist.subset mem)
    (fun _ mem isNeeded => h.needed mem isNeeded) fun _ mem _ found => h.held distinct mem found

variable {α : Type} [Coded α] [WellShaped α]

theorem need (name : String) (x : α) (rest : Written slots entries) :
    Written (.need α name :: slots) ((name, encode x) :: entries) :=
  .field (.need α name) (WellShaped.admits x) rest

theorem given (name : String) (x : α) (rest : Written slots entries) :
    Written (.given α name :: slots) ((name, encode x) :: entries) :=
  .field (.given α name) (WellShaped.admits x) rest

variable [LawfulCoded α]

theorem ifSome (name : String) (x : Option α) (rest : Written slots entries) :
    Written (.optional α name :: slots) (Entries.ifSome name x ++ entries) := by
  cases x with
  | none => exact .skip rfl rest
  | some x =>
    exact .field (.optional α name)
      (.present (LawfulCoded.encode_ne_null x) (WellShaped.admits x)) rest

theorem ifSomeLast (name : String) (x : Option α) :
    Written [.optional α name] (Entries.ifSome name x) := by
  rw [← List.append_nil (Entries.ifSome name x)]
  exact ifSome name x .nil

theorem orNull (name : String) (x : Option α) (rest : Written slots entries) :
    Written (.optional α name :: slots) (Entries.orNull name x :: entries) := by
  cases x with
  | none => exact .field (.optional α name) (.absent _) rest
  | some x =>
    exact .field (.optional α name)
      (.present (LawfulCoded.encode_ne_null x) (WellShaped.admits x)) rest

end Entries.Written

open Entries (Written)

/-! ## Leaves, choices and lists -/

instance : WellShaped String := ⟨.text⟩

instance : WellShaped Bool := ⟨.mark⟩

instance : WellShaped Date := ⟨fun d => .text d.iso⟩

instance : WellShaped Instant := ⟨fun t => .text t.text⟩

instance {α : Type} [Coded α] [WellShaped α] : WellShaped (List α) where
  admits xs := by
    refine .list fun t mem => ?_
    obtain ⟨x, -, rfl⟩ := List.mem_map.1 mem
    exact WellShaped.admits x

instance {α : Type} [Tagged α] [LawfulTagged α] : WellShaped α where
  admits x := by
    have mem : x ∈ (Tagged.all : List α) := List.mem_of_find?_eq_some (LawfulTagged.ofTag?_tag x)
    exact .choice (List.mem_map.2 ⟨x, mem, rfl⟩)

instance : WellShaped ActionKind where
  admits kind := .choice (List.mem_map.2 ⟨kind, by cases kind <;> decide, rfl⟩)

/-! ## People, life cycle IDs and feedback -/

instance : WellShaped Contact where
  admits c := by
    refine Written.admits_record ?_ (by decide)
    exact .need _ _ <| .need _ _ <| .ifSomeLast _ _

instance : WellShaped Recipients where
  admits r := by
    refine Written.admits_record ?_ (by decide)
    exact .given _ _ <| .given _ _ <| .given _ _ .nil

instance : WellShaped LcidRecord where
  admits l := by
    refine Written.admits_record ?_ (by decide)
    simp only [List.append_assoc, List.cons_append, List.nil_append]
    exact .need _ _ <| .need _ _ <| .need _ _ <| .ifSome _ _ <| .need _ _ <| .need _ _ <|
      .need _ _ <| .ifSome _ _ <| .given _ _ .nil

instance : WellShaped LcidDecision where
  admits d := by
    refine Written.admits_record ?_ (by decide)
    simp only [List.append_assoc, List.cons_append, List.nil_append]
    exact .ifSome _ _ <| .need _ _ <| .need _ _ <| .need _ _ <| .need _ _ <| .ifSomeLast _ _

instance : WellShaped Feedback where
  admits f := by
    refine Written.admits_record ?_ (by decide)
    exact .need _ _ <| .need _ _ <| .need _ _ <| .need _ _ <| .ifSome _ _ <| .need _ _ .nil

/-! ## Stage tables -/

namespace StageTable

theorem tags_sublist (table : StageTable) (stages : List Stage) :
    ((stages.filterMap fun s => (table.entry s).map fun status => (s, status)).map
      fun e => Stage.tag e.1).Sublist (stages.map Stage.tag) := by
  induction stages with
  | nil => exact .slnil
  | cons stage stages ih =>
    cases here : table.entry stage with
    | none =>
      rw [List.filterMap_cons_none (by rw [here]; rfl)]
      exact ih.cons _
    | some status =>
      rw [List.filterMap_cons_some (by rw [here]; rfl)]
      exact ih.cons_cons _

instance : WellShaped StageTable where
  admits table := by
    have names : (table.entries.map fun e => (Stage.tag e.1, encode e.2)).map Prod.fst =
        table.entries.map fun e => Stage.tag e.1 := List.map_map ..
    have among := table.tags_sublist Stage.all
    have distinct : (Stage.all.map Stage.tag).Nodup := by decide
    refine .map (names ▸ distinct.sublist among) ?_ ?_
    · rintro tags ⟨⟩ name mem
      rw [names] at mem
      exact among.subset mem
    · intro name t found
      obtain ⟨e, -, same⟩ := List.mem_map.1 (Entries.mem_of_lookup found)
      cases same
      exact WellShaped.admits e.2

end StageTable

/-! ## Operations and mutations -/

namespace Operation

theorem admits_reason (reason : Option String) :
    reasonShape.Admits (.fields [Entries.orNull "reason" reason]) :=
  Written.admits_inputs (.orNull _ _ .nil) (by decide)

/-- What an operation carries is written in the shape that goes by its name. -/
theorem exists_variant (op : Operation) :
    ∃ content, variants.lookup op.name = some content ∧ content.Admits op.encodeInput := by
  cases op with
  | requestEdits target emailFeedback =>
    exact ⟨_, rfl, Written.admits_inputs (.need _ _ <| .need _ _ .nil) (by decide)⟩
  | progressToNewStep newStep meetingDate feedback grbRecommendations =>
    exact ⟨_, rfl, Written.admits_inputs
      (.need _ _ <| .orNull _ _ <| .orNull _ _ <| .orNull _ _ .nil) (by decide)⟩
  | issueLcid decision | confirmLcid decision => exact ⟨_, rfl, WellShaped.admits decision⟩
  | updateLcid expiresAt scope nextSteps costBaseline reason =>
    exact ⟨_, rfl, Written.admits_inputs
      (.orNull _ _ <| .orNull _ _ <| .orNull _ _ <| .orNull _ _ <| .orNull _ _ .nil) (by decide)⟩
  | retireLcid retiresAt reason =>
    exact ⟨_, rfl, Written.admits_inputs (.need _ _ <| .orNull _ _ .nil) (by decide)⟩
  | changeLcidRetirementDate retiresAt =>
    exact ⟨_, rfl, Written.admits_inputs (.need _ _ .nil) (by decide)⟩
  | expireLcid reason nextSteps =>
    exact ⟨_, rfl, Written.admits_inputs (.need _ _ <| .orNull _ _ .nil) (by decide)⟩
  | rejectIntake reason nextSteps trbFollowUp =>
    exact ⟨_, rfl, Written.admits_inputs (.need _ _ <| .need _ _ <| .need _ _ .nil) (by decide)⟩
  | unretireLcid reason | markNotGovernance reason | closeRequest reason | reopenRequest reason =>
    exact ⟨_, rfl, admits_reason reason⟩

instance : WellShaped Operation where
  admits op := by
    obtain ⟨content, variant, held⟩ := op.exists_variant
    exact .cases (by decide) variant held

end Operation

instance : WellShaped Mutation where
  admits m := by
    refine Written.admits_record ?_ (by decide)
    simp only [List.append_assoc, List.cons_append, List.nil_append]
    exact .need _ _ <| .orNull _ _ <| .ifSome _ _ <| .ifSome _ _ <| .need _ _ .nil

/-! ## Requests -/

instance : WellShaped ActionRecord where
  admits r := by
    refine Written.admits_record ?_ (by decide)
    simp only [List.append_assoc, List.cons_append, List.nil_append]
    exact .need _ _ <| .need _ _ <| .ifSome _ _ <| .ifSome _ _ <| .ifSome _ _ <| .need _ _ .nil

instance : WellShaped Intake where
  admits i := by
    refine Written.admits_record ?_ (by decide)
    simp only [List.append_assoc, List.cons_append, List.nil_append]
    exact .need _ _ <| .need _ _ <| .need _ _ <| .given _ _ <| .need _ _ <| .need _ _ <|
      .need _ _ <| .given _ _ <| .given _ _ <| .ifSome _ _ <| .ifSome _ _ <| .ifSome _ _ <|
      .given _ _ <| .ifSome _ _ <| .need _ _ <| .need _ _ .nil

/-! ## Reading -/

section Reading

variable {α : Type} [Coded α] [LawfulCoded α] [OrderFree α] {x : α} {t : Tree}

theorem decode_rearranged (h : t.Rearranged (encode x)) : decode t = some x := by
  rw [OrderFree.decode_eq h, LawfulCoded.decode_encode]

namespace Draft

variable [WellShaped α]

/-- A value whose shape is not nested too deep is read back, whatever the order of its fields. -/
theorem read_ofTree (room : (shape α).nesting ≤ Shape.maxNesting) (h : t.Rearranged (encode x)) :
    (ofTree t).read = .ok x := by
  obtain ⟨u, fits, related⟩ := Shape.exists_fit (WellShaped.admits x) h false room
  rw [read, Shape.fit, fits]
  simp only [bind, Except.bind, decode_rearranged related]

/-- What is written for a value that was read is read as the same value and written the same. -/
theorem read_again (room : (shape α).nesting ≤ Shape.maxNesting) {d : Draft} (h : d.read = .ok x)
    (alike : t.Rearranged (encode x)) :
    (ofTree t).read = (d.read : Except Misfit α) ∧
      ∀ y : α, (ofTree t).read = .ok y → encode y = encode x := by
  have back := read_ofTree room alike
  refine ⟨back.trans h.symm, fun y again => ?_⟩
  cases back.symm.trans again
  rfl

end Draft

end Reading

theorem Intake.nesting_le : (shape Intake).nesting ≤ Shape.maxNesting := by decide

theorem Mutation.nesting_le : (shape Mutation).nesting ≤ Shape.maxNesting := by decide

/-- Requests and mutations are read back from what they are written as, and what is written for one
that was read, from whatever draft, is read as the same and written the same. -/
theorem Draft.read_undoes_encode :
    (∀ (i : Intake) (t : Tree), t.Rearranged (encode i) →
      decode t = some i ∧ (ofTree t).read = .ok i) ∧
    (∀ (m : Mutation) (t : Tree), t.Rearranged (encode m) →
      decode t = some m ∧ (ofTree t).read = .ok m) ∧
    (∀ (d : Draft) (i : Intake), d.read = .ok i → ∀ t : Tree, t.Rearranged (encode i) →
      (ofTree t).read = (d.read : Except Misfit Intake) ∧
        ∀ again : Intake, (ofTree t).read = .ok again → encode again = encode i) ∧
    (∀ (d : Draft) (m : Mutation), d.read = .ok m → ∀ t : Tree, t.Rearranged (encode m) →
      (ofTree t).read = (d.read : Except Misfit Mutation) ∧
        ∀ again : Mutation, (ofTree t).read = .ok again → encode again = encode m) := by
  refine ⟨fun i t h => ?_, fun m t h => ?_, fun d i h t alike => ?_, fun d m h t alike => ?_⟩
  · exact ⟨decode_rearranged h, read_ofTree Intake.nesting_le h⟩
  · exact ⟨decode_rearranged h, read_ofTree Mutation.nesting_le h⟩
  · exact read_again Intake.nesting_le h alike
  · exact read_again Mutation.nesting_le h alike

/-! ## A request and a mutation -/

/-- A request that was just opened, with nothing yet where there is a default. -/
def Intake.bare : Intake :=
  ⟨"I1", "Portal", ⟨"Ada", "ada@example.com", none⟩, [], .initialRequestForm, .opened, .noDecision,
    ∅, [], none, none, none, [], none, ⟨⟨2026, 3, 1, rfl⟩, 0, 0, rfl⟩,
    ⟨⟨2026, 3, 1, rfl⟩, 60, 0, rfl⟩⟩

/-- The request without the fields that have a default, and with one that is not known. -/
def Draft.bareIntake : Draft :=
  .ofTree <| .fields
    [("created_at", .text "2026-03-01T00:00:00Z"), ("decision_state", .text "NO_DECISION"),
      ("id", .text "I1"), ("origin", .text "paper"), ("request_name", .text "Portal"),
      ("requester", .fields [("email", .text "ada@example.com"), ("name", .text "Ada")]),
      ("state", .text "OPEN"), ("step", .text "INITIAL_REQUEST_FORM"),
      ("updated_at", .text "2026-03-01T01:01:00+01:00")]

def Mutation.reopening : Mutation :=
  ⟨"I1", none, none, some "Asked by phone", .reopenRequest (some "New scope")⟩

/-- The mutation with its fields by name: what the operation carries comes before its tag. -/
def Tree.reopeningByName : Tree :=
  .fields
    [("adminNote", .text "Asked by phone"), ("notificationRecipients", .null),
      ("operation", .fields
        [("input", .fields [("reason", .text "New scope")]), ("name", .text "ReopenRequest")]),
      ("systemIntakeID", .text "I1")]

/-- The mutation as the list of its values. -/
def Draft.listedReopening : Draft :=
  .list
    [.text "I1", .null, .null, .text "Asked by phone",
      .list [.text "ReopenRequest", .fields [(.text "reason", .text "New scope")]]]

theorem Tree.reopeningByName_rearranged :
    Tree.reopeningByName.Rearranged (encode Mutation.reopening) := by
  have operation : (Tree.fields [("input", .fields [("reason", .text "New scope")]),
      ("name", .text "ReopenRequest")]).Rearranged (encode Mutation.reopening.operation) := by
    refine .fields (by decide) (by decide) fun name => ?_
    by_cases isName : name = "name"
    · subst isName
      exact .some (.same _)
    by_cases isInput : name = "input"
    · subst isInput
      exact .some (.same _)
    · simp only [lookup_cons_ite, if_neg isName, if_neg isInput]
      exact .none
  refine .fields (by decide) (by decide) fun name => ?_
  by_cases isNote : name = "adminNote"
  · subst isNote
    exact .some (.same _)
  by_cases isRecipients : name = "notificationRecipients"
  · subst isRecipients
    exact .some (.same _)
  by_cases isOperation : name = "operation"
  · subst isOperation
    exact .some operation
  by_cases isId : name = "systemIntakeID"
  · subst isId
    exact .some (.same _)
  · change Option.Rel _ _ (List.lookup name [("systemIntakeID", _), ("notificationRecipients", _),
      ("adminNote", _), ("operation", _)])
    simp only [lookup_cons_ite, if_neg isNote, if_neg isRecipients, if_neg isOperation, if_neg isId]
    exact .none

theorem Draft.read_undoes_encode_reopening :
    Tree.reopeningByName.Rearranged (encode Mutation.reopening) ∧
    (ofTree Tree.reopeningByName).read = .ok Mutation.reopening ∧
    bareIntake.read = .ok Intake.bare ∧
    (ofTree (encode Intake.bare)).read = (bareIntake.read : Except Misfit Intake) ∧
    listedReopening.read = .ok Mutation.reopening ∧
    (ofTree Tree.reopeningByName).read = (listedReopening.read : Except Misfit Mutation) := by
  have bare : bareIntake.read = .ok Intake.bare := rfl
  have listed : listedReopening.read = .ok Mutation.reopening := by decide
  have byName := Tree.reopeningByName_rearranged
  exact ⟨byName, (read_undoes_encode.2.1 _ _ byName).2,
    bare, (read_undoes_encode.2.2.1 _ _ bare _ (.same _)).1,
    listed, (read_undoes_encode.2.2.2 _ _ listed _ byName).1⟩

end GovernanceDesk
