import GovernanceDesk.NameMap

/-!
# Failures

Why an operation was refused, as causes, and the one wording of each.

* `BadValue`: what is wrong with a value that someone wrote.
* `Failure`: every way an operation can fail.
* `Failure.message`: the text shown to people and sent to clients.
-/

namespace GovernanceDesk
set_option autoImplicit false

inductive BadValue where
  /-- A word that is none of the spellings of a closed set of choices. -/
  | spelling (written noun : String)
  | intakeId (id : String)
  | blank (what : String)
  | email (address : String)
  | other (message : String)

def BadValue.message : BadValue → String
  | spelling written noun => s!"'{written}' is not a valid {noun}"
  | intakeId id => s!"invalid intake id '{id}'"
  | blank what => s!"{what} must not be empty"
  | email address => s!"invalid email address: {address}"
  | other message => message

/-- Messages by field; the form as a whole has the name `root`, its recipients `recipients`. -/
abbrev Messages := NameMap String

inductive Failure where
  | notInitialized
  | intakeNotFound (id : String)
  | invalid (value : BadValue)
  | unknownField (action field : String)
  | unknownAction (written : String)
  | wrongPhase (expected actual : String)
  | validation (messages : Messages)
  | busy
  | noLcid (id : String)
  | lcidNotFound (lcid : String)
  /-- A file or directory could not be read or written. -/
  | storage (detail : String)
  /-- A stored document does not describe what it should. -/
  | unreadable (detail : String)
  /-- A message does not describe what it should. -/
  | malformed (detail : String)

namespace Failure

def message : Failure → String
  | notInitialized => "not initialized: run 'easi init'"
  | intakeNotFound id => s!"system intake not found: {id}"
  | invalid value => "invalid value: " ++ value.message
  | unknownField action field => s!"unknown field '{field}' for action '{action}'"
  | unknownAction written => s!"unknown action: {written}"
  | wrongPhase expected actual => s!"action form is {actual}, expected {expected}"
  | validation messages => "validation failed on " ++ toString messages.size ++ " field(s)"
  | busy => "a submission is already in flight"
  | noLcid id => s!"system intake {id} has no life cycle ID"
  | lcidNotFound lcid => s!"life cycle ID not found: {lcid}"
  | storage detail | unreadable detail | malformed detail => detail

end Failure

/-- A computation in two parts succeeds when both do. -/
theorem ok_of_bind_ok {ε α β : Type} {x : Except ε α} {f : α → Except ε β} {y : β}
    (h : (x >>= f) = .ok y) : ∃ a, x = .ok a ∧ f a = .ok y := by
  cases x with
  | error e => exact nomatch h
  | ok a => exact ⟨a, rfl, h⟩

theorem ok_of_map_ok {ε α β : Type} {x : Except ε α} {f : α → β} {y : β}
    (h : x.map f = .ok y) : ∃ a, x = .ok a ∧ f a = y := by
  cases x with
  | error e => exact nomatch h
  | ok a => exact ⟨a, rfl, Except.ok.inj h⟩

theorem ok_of_mapError_ok {ε ε' α : Type} {x : Except ε α} {g : ε → ε'} {a : α}
    (h : x.mapError g = .ok a) : x = .ok a := by
  cases x with
  | error e => exact nomatch h
  | ok b =>
    cases h
    rfl

theorem exists_ok_of_isSome {ε α : Type} {x : Except ε α} (h : x.toOption.isSome = true) :
    ∃ a, x = .ok a := by
  cases x with
  | error e => exact nomatch h
  | ok a => exact ⟨a, rfl⟩

theorem ok_of_toOption_eq_some {ε α : Type} {x : Except ε α} {a : α} (h : x.toOption = some a) :
    x = .ok a := by
  cases x with
  | error e => exact nomatch h
  | ok b =>
    cases h
    rfl

/-- What is seen of a result is seen of a value. -/
theorem exists_ok_of_any {ε α : Type} {x : Except ε α} {p : α → Bool}
    (h : x.toOption.any p = true) : ∃ a, x = .ok a ∧ p a = true := by
  obtain ⟨a, rfl⟩ := exists_ok_of_isSome (Option.isSome_of_any h)
  exact ⟨a, rfl, h⟩

end GovernanceDesk
