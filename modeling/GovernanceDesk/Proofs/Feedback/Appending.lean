import GovernanceDesk.Feedback
import GovernanceDesk.Proofs.Text.Numbers
import Mathlib.Data.List.Induction
import Mathlib.Data.List.Nodup

/-!
# Feedback that is appended

A new record gets a number that is larger than every number an earlier id carries, however that is
written. So ids that were distinct stay distinct, unless the numbers run out.

* `Feedback.Carries`: the number in an id, and how it may be written.
* `Feedback.number?_eq_some_iff`: it is the number that is read.
* `Feedback.le_lastNumber`, `Feedback.nextId_not_mem`: the next id is past all others.
* `Feedback.Extended`: what records become when others are appended to them, one after another.
* `Feedback.Extended.nodup_ids`: distinct ids stay distinct.
-/

namespace GovernanceDesk
set_option autoImplicit false

namespace Feedback

/-! ## The number in an id -/

/-- The last number that fits in sixty-four bits. -/
def finalNumber : Nat := 2 ^ 64 - 1

/-- An id carries a number: it is written behind `FB`, with or without a plus sign and zeros in
front, and fits in sixty-four bits. -/
def Carries (id : String) (n : Nat) : Prop :=
  n ≤ finalNumber ∧ ∃ sign ∈ ["", "+"], ∃ zeros,
    id = "FB" ++ sign ++ String.ofList (List.replicate zeros '0') ++ toString n

/-- The digits of a number behind `FB`, with or without a plus sign. -/
theorem number?_eq_some_iff_chars {id : String} {n : Nat} :
    number? id = some n ↔ n ≤ finalNumber ∧ ∃ ds, Text.readNat? ds = some n ∧
      (id.toList = ['F', 'B', '+'] ++ ds ∨ id.toList = ['F', 'B'] ++ ds) := by
  have fits : n ≤ finalNumber ↔ n < UInt64.size := by
    rw [finalNumber, UInt64.size]
    omega
  have readOf : ∀ ds, (Text.readNat? ds).filter (· < UInt64.size) = some n ↔
      n ≤ finalNumber ∧ Text.readNat? ds = some n := by
    intro ds
    rw [Option.filter_eq_some_iff, decide_eq_true_iff, fits, and_comm]
  rw [number?]
  split
  next ds chars =>
    rw [readOf]
    constructor
    · rintro ⟨small, read⟩
      exact ⟨small, ds, read, .inl chars⟩
    · rintro ⟨small, ds', read, signed | plain⟩
      · rw [chars] at signed
        cases signed
        exact ⟨small, read⟩
      · rw [chars] at plain
        cases plain
        -- A number does not start with the sign.
        have decimal := (Text.readNat?_eq_some_iff.1 read).2.1 '+' List.mem_cons_self
        exact absurd decimal (by decide)
  next ds other chars =>
    rw [readOf]
    constructor
    · rintro ⟨small, read⟩
      exact ⟨small, ds, read, .inr chars⟩
    · rintro ⟨small, ds', read, signed | plain⟩
      · rw [chars] at signed
        cases signed
        exact (other ds' rfl).elim
      · rw [chars] at plain
        cases plain
        exact ⟨small, read⟩
  next noSign noNumber =>
    refine iff_of_false nofun ?_
    rintro ⟨-, ds, -, signed | plain⟩
    · exact noSign ds signed
    · exact noNumber ds plain

/-- A number with zeros in front, as digits. -/
theorem readNat?_eq_some_iff_zeros {ds : List Char} {n : Nat} :
    Text.readNat? ds = some n ↔ ∃ zeros, ds = List.replicate zeros '0' ++ Text.digits n := by
  rw [Text.readNat?_eq_some_iff]
  constructor
  · rintro ⟨nonempty, decimal, rfl⟩
    exact Text.exists_zeros_digits nonempty decimal
  · rintro ⟨zeros, rfl⟩
    have nonempty : List.replicate zeros '0' ++ Text.digits n ≠ [] :=
      List.append_ne_nil_of_right_ne_nil _ Nat.toDigits_ne_nil
    refine ⟨nonempty, fun c mem => ?_, ?_⟩
    · rcases List.mem_append.1 mem with zero | digit
      · rw [List.eq_of_mem_replicate zero]
        decide
      · exact Text.isDecimalDigit_of_mem_digits digit
    · rw [Text.valueOf_replicate_zero, Text.valueOf_digits]

theorem toList_written (sign : String) (zeros n : Nat) :
    ("FB" ++ sign ++ String.ofList (List.replicate zeros '0') ++ toString n).toList =
      ['F', 'B'] ++ sign.toList ++ (List.replicate zeros '0' ++ Text.digits n) := by
  have number : (toString n).toList = Text.digits n := Nat.toList_repr
  simp only [String.toList_append, String.toList_ofList, number, List.append_assoc]
  rfl

theorem number?_eq_some_iff {id : String} {n : Nat} : number? id = some n ↔ Carries id n := by
  rw [number?_eq_some_iff_chars, Carries]
  refine and_congr_right fun _ => ?_
  simp only [readNat?_eq_some_iff_zeros, ← String.toList_inj, toList_written]
  constructor
  · rintro ⟨_, ⟨zeros, rfl⟩, signed | plain⟩
    · exact ⟨"+", by simp, zeros, signed⟩
    · exact ⟨"", by simp, zeros, plain⟩
  · rintro ⟨sign, known, zeros, written⟩
    refine ⟨_, ⟨zeros, rfl⟩, ?_⟩
    obtain rfl | rfl : sign = "" ∨ sign = "+" := by simpa using known
    · exact .inr written
    · exact .inl written

example : number? "FB+007" = some 7 := by decide

/-! ## The next id -/

variable {records : List Feedback} {n : Nat}

/-- The last number is the largest of those on the records and zero. -/
theorem lastNumber_eq_max (records : List Feedback) :
    lastNumber records ∈ 0 :: records.filterMap (fun f => number? f.id) ∧
      ∀ n ∈ 0 :: records.filterMap (fun f => number? f.id), n ≤ lastNumber records :=
  List.max?_eq_some_iff.1 List.max?_cons'

theorem le_lastNumber {f : Feedback} (mem : f ∈ records) (carried : Carries f.id n) :
    n ≤ lastNumber records := by
  have number : n ∈ records.filterMap fun f => number? f.id :=
    List.mem_filterMap.2 ⟨f, mem, number?_eq_some_iff.2 carried⟩
  exact (lastNumber_eq_max records).2 n (List.mem_cons_of_mem 0 number)

/-- The last number is on one of the records, if it is not zero. -/
theorem lastNumber_cases (records : List Feedback) :
    lastNumber records = 0 ∨ ∃ f ∈ records, Carries f.id (lastNumber records) := by
  rcases List.mem_cons.1 (lastNumber_eq_max records).1 with zero | attained
  · exact .inl zero
  · obtain ⟨f, mem, carried⟩ := List.mem_filterMap.1 attained
    exact .inr ⟨f, mem, number?_eq_some_iff.1 carried⟩

/-- There is a number left for one more record. -/
def HasRoom (records : List Feedback) : Prop :=
  ∀ f ∈ records, ¬ Carries f.id finalNumber

theorem hasRoom_iff :
    HasRoom records ↔ ∀ f ∈ records, number? f.id ≠ some finalNumber := by
  simp only [HasRoom, Ne, number?_eq_some_iff]

instance (records : List Feedback) : Decidable (HasRoom records) :=
  decidable_of_iff _ hasRoom_iff.symm

theorem lastNumber_lt (room : HasRoom records) : lastNumber records < finalNumber := by
  obtain zero | ⟨f, mem, carried⟩ := lastNumber_cases records
  · rw [zero, finalNumber]
    decide
  · refine Nat.lt_of_le_of_ne carried.1 fun last => ?_
    rw [last] at carried
    exact room f mem carried

theorem carries_idOfNumber (fits : n ≤ finalNumber) : Carries (idOfNumber n) n :=
  ⟨fits, "", by simp, 0, by simp [idOfNumber]⟩

/-- While there is room no record has the next id. -/
theorem nextId_not_mem (room : HasRoom records) : nextId records ∉ records.map Feedback.id := by
  intro taken
  obtain ⟨f, mem, same⟩ := List.mem_map.1 taken
  have carried : Carries f.id (lastNumber records + 1) := by
    rw [same]
    exact carries_idOfNumber (lastNumber_lt room)
  have bound := le_lastNumber mem carried
  omega

/-! ## Records one after another -/

/-- On the way from some records to others this one was added, to those before it. -/
structure Added (before after earlier : List Feedback) (f : Feedback) : Prop where
  since : before <+: earlier
  here : earlier ++ [f] <+: after

theorem Added.hasRoom {before after earlier : List Feedback} {f : Feedback}
    (h : Added before after earlier f) (room : HasRoom after) : HasRoom earlier := by
  intro g mem
  have later : g ∈ earlier ++ [f] := List.mem_append_left [f] mem
  exact room g (h.here.subset later)

/-- Records were appended, each with the id that was next. -/
structure Extended (before after : List Feedback) : Prop where
  kept : before <+: after
  numbered : ∀ earlier f, Added before after earlier f → f.id = nextId earlier

theorem Extended.refl (records : List Feedback) : Extended records records where
  kept := List.prefix_rfl
  numbered earlier f added := by
    have longer := added.here.length_le
    have shorter := added.since.length_le
    rw [List.length_append, List.length_singleton] at longer
    omega

theorem Extended.append {before after : List Feedback} (h : Extended before after)
    (target : FeedbackTarget) (source : FeedbackSource) (text : String) (author : Option String)
    (now : Instant) : Extended before (Feedback.append after target source text author now) where
  kept := h.kept.trans (List.prefix_append ..)
  numbered earlier f added := by
    obtain last | sooner := List.prefix_concat_iff.1 added.here
    · obtain ⟨rfl, same⟩ := List.append_inj' last rfl
      rw [List.singleton_inj.1 same]
    · exact h.numbered earlier f ⟨added.since, sooner⟩

theorem Extended.nodup_ids {before after : List Feedback} (h : Extended before after)
    (distinct : (before.map Feedback.id).Nodup)
    (room : ∀ earlier f, Added before after earlier f → HasRoom earlier) :
    (after.map Feedback.id).Nodup := by
  obtain ⟨new, rfl⟩ := h.kept
  -- The new records are looked at in the order in which they were added.
  suffices soFar : ∀ part, part <+: new → ((before ++ part).map Feedback.id).Nodup from
    soFar new List.prefix_rfl
  intro part
  induction part using List.reverseRecOn with
  | nil =>
    intro _
    rw [List.append_nil]
    exact distinct
  | append_singleton part f ih =>
    intro within
    have added : Added before (before ++ new) (before ++ part) f := by
      refine ⟨List.prefix_append .., ?_⟩
      rw [List.append_assoc]
      exact (List.prefix_append_right_inj before).2 within
    have fresh := nextId_not_mem (room _ f added)
    rw [← h.numbered _ f added] at fresh
    rw [← List.append_assoc, List.map_append, List.map_singleton, List.nodup_append_comm,
      List.singleton_append, List.nodup_cons]
    exact ⟨fresh, ih ((List.prefix_append ..).trans within)⟩

end Feedback

end GovernanceDesk
