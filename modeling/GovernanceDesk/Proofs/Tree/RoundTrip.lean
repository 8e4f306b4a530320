import GovernanceDesk.Proofs.Calendar.Written
import GovernanceDesk.Intake

/-!
# Encoding and decoding

Every value that is stored or sent is read back from its tree as it was. A record is a list of fields
of which some are left out when they have no value, so the work is in the look-ups: `Entries.need`,
`Entries.getOr` and `Entries.optional` each find what was written under the name.

* `LawfulCoded`: decoding undoes encoding, and no value is written as null.
* Instances for leaves, lists, closed choices and all the records a request is made of.
-/

namespace GovernanceDesk
set_option autoImplicit false

/-- A coding that reads back what it writes and leaves null for values that are missing. -/
class LawfulCoded (α : Type) [Coded α] : Prop where
  decode_encode : ∀ x : α, decode (encode x) = some x
  encode_ne_null : ∀ x : α, (encode x).isNull = false

attribute [simp] LawfulCoded.decode_encode LawfulCoded.encode_ne_null

/-- The tags of a closed set are all different. -/
class LawfulTagged (α : Type) [Tagged α] : Prop where
  ofTag?_tag : ∀ x : α, Tagged.ofTag? (Tagged.tag x) = some x

/-! ## Leaves, choices and lists -/

instance : LawfulCoded String := ⟨fun _ => rfl, fun _ => rfl⟩

instance : LawfulCoded Bool := ⟨fun _ => rfl, fun _ => rfl⟩

theorem Date.decode_encode (d : Date) : (decode (encode d) : Option Date) = some d := by
  show (Tree.text? (.text d.iso)).bind Date.ofRecord? = some d
  rw [Tree.text?, Option.bind_some, d.ofRecord?_iso]

instance : LawfulCoded Date := ⟨Date.decode_encode, fun _ => rfl⟩

theorem Instant.decode_encode (t : Instant) : (decode (encode t) : Option Instant) = some t := by
  show (Tree.text? (.text t.text)).bind Instant.ofRecord? = some t
  rw [Tree.text?, Option.bind_some, t.ofRecord?_text]

instance : LawfulCoded Instant := ⟨Instant.decode_encode, fun _ => rfl⟩

instance {α : Type} [Tagged α] [LawfulTagged α] : LawfulCoded α :=
  ⟨LawfulTagged.ofTag?_tag, fun _ => rfl⟩

instance : LawfulTagged Stage := ⟨fun x => by cases x <;> decide⟩

instance : LawfulTagged Status := ⟨fun x => by cases x <;> decide⟩

instance : LawfulTagged Step := ⟨fun x => by cases x <;> decide⟩

instance : LawfulTagged RequestState := ⟨fun x => by cases x <;> decide⟩

instance : LawfulTagged Decision := ⟨fun x => by cases x <;> decide⟩

instance : LawfulTagged FeedbackTarget := ⟨fun x => by cases x <;> decide⟩

instance : LawfulTagged FeedbackSource := ⟨fun x => by cases x <;> decide⟩

instance : LawfulTagged TrbFollowUp := ⟨fun x => by cases x <;> decide⟩

instance : LawfulCoded ActionKind := ⟨fun x => by cases x <;> decide, fun _ => rfl⟩

theorem mapM_decode_encode {α : Type} [Coded α] [LawfulCoded α] (xs : List α) :
    (xs.map encode).mapM decode = some xs := by
  induction xs with
  | nil => rfl
  | cons x xs ih =>
    rw [List.map_cons, List.mapM_cons, ih, LawfulCoded.decode_encode]
    rfl

instance {α : Type} [Coded α] [LawfulCoded α] : LawfulCoded (List α) :=
  ⟨mapM_decode_encode, fun _ => rfl⟩

/-! ## Fields -/

namespace Entries

variable {α : Type} [Coded α]

@[simp] theorem lookup_ifSome (name other : String) (x : Option α) :
    (ifSome name x).lookup other = if other = name then x.map encode else none := by
  cases x with
  | none => simp [ifSome]
  | some x =>
    by_cases h : other = name
    · simp [ifSome, h]
    · simp [ifSome, List.lookup_cons, h, beq_eq_false_iff_ne.2 h]

/-- What is read where an optional field was looked up. -/
def read? (found : Option Tree) : Option (Option α) :=
  match found with
  | none => some none
  | some t => if t.isNull then some none else (decode t).map some

/-- What a field that is null when it has no value is written as. -/
def nullable (x : Option α) : Tree :=
  match x with
  | none => .null
  | some x => encode x

theorem need_eq (entries : Entries) (name : String) :
    need (α := α) entries name = (entries.lookup name).bind decode := rfl

theorem getOr_eq (entries : Entries) (name : String) (default : α) :
    getOr entries name default = (entries.lookup name).elim (some default) decode := by
  rw [getOr]
  cases entries.lookup name <;> rfl

theorem optional_eq (entries : Entries) (name : String) :
    optional (α := α) entries name = read? (entries.lookup name) := rfl

theorem orNull_eq (name : String) (x : Option α) : orNull name x = (name, nullable x) := by
  cases x <;> rfl

/-- A field that was left out when it had no value is read as it was. -/
@[simp] theorem read?_map_encode [LawfulCoded α] (x : Option α) : read? (x.map encode) = some x := by
  cases x with
  | none => rfl
  | some x => simp [read?]

/-- A field that was written as null when it had no value is read as it was. -/
@[simp] theorem read?_nullable [LawfulCoded α] (x : Option α) : read? (some (nullable x)) = some x := by
  cases x with
  | none => rfl
  | some x => simp [read?, nullable]

end Entries

end GovernanceDesk
