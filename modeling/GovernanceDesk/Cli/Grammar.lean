import GovernanceDesk.Text.Decimal

/-!
# What a command line may hold

Commands stand in scopes: `desk` on its own, and the commands on requests, feedback and actions in
scopes of their own. Every command has operands and options.

* `Scope`, `Verb`, `Level`: the scopes, the commands, and how far a command line has come.
* `Flag`: an option with its names and what it takes.
* `Verb.operands`, `Verb.flags`: what belongs to a command.
-/

namespace GovernanceDesk.Cli
open Text
set_option autoImplicit false

/-! ## Commands -/

inductive Scope where
  | desk
  | intake
  | feedback
  | action
deriving DecidableEq

inductive Verb where
  | init
  | tasks
  | serve
  | createIntake
  | listIntakes
  | showIntake
  | setStatus
  | addFeedback
  | listFeedback
  | listActions
  | showAction
  | runAction
deriving DecidableEq

/-- How far the words of a command have come: to a scope, to a command, or to a question for help
about either. -/
inductive Level where
  | scope (s : Scope)
  | verb (v : Verb)
  | helpOn (topic : Scope ⊕ Verb)
deriving DecidableEq

namespace Scope

/-- The command or scope a word names. -/
def enter? : Scope → String → Option (Scope ⊕ Verb)
  | desk, "init" => some (.inr .init)
  | desk, "intake" => some (.inl intake)
  | desk, "tasks" => some (.inr .tasks)
  | desk, "feedback" => some (.inl feedback)
  | desk, "action" => some (.inl action)
  | desk, "serve" => some (.inr .serve)
  | intake, "create" => some (.inr .createIntake)
  | intake, "list" => some (.inr .listIntakes)
  | intake, "show" => some (.inr .showIntake)
  | intake, "set-status" => some (.inr .setStatus)
  | feedback, "add" => some (.inr .addFeedback)
  | feedback, "list" => some (.inr .listFeedback)
  | action, "list" => some (.inr .listActions)
  | action, "show" => some (.inr .showAction)
  | action, "run" => some (.inr .runAction)
  | _, _ => none

end Scope

/-! ## Options -/

/-- What an option takes: nothing, a value once, or a value each time it is written. The last two
kinds end the reading with a text of their own. -/
inductive FlagKind where
  | switch
  | value
  | values
  | help
  | version
deriving DecidableEq

/-- Which values an option accepts. -/
inductive ValueRule where
  | anything
  | something
  | socketNumber
deriving DecidableEq

structure Flag where
  name : String
  short : Option Char
  kind : FlagKind
  rule : ValueRule
  required : Bool
deriving DecidableEq

namespace Flag

def switch (name : String) : Flag := ⟨name, none, .switch, .anything, false⟩

def value (name : String) : Flag := ⟨name, none, .value, .anything, false⟩

def values (name : String) : Flag := ⟨name, none, .values, .anything, false⟩

def withLetter (f : Flag) (c : Char) : Flag := { f with short := some c }

def needed (f : Flag) : Flag := { f with required := true }

def takesValue (f : Flag) : Bool := f.kind == .value || f.kind == .values

/-- The options that every scope and every command has. -/
def shared : List Flag :=
  [{ value "root" with rule := .something }, (switch "json").withLetter 'j',
    ⟨"help", some 'h', .help, .anything, false⟩, ⟨"version", some 'V', .version, .anything, false⟩]

end Flag

/-! ## Values -/

/-- The number of a socket, with a sign or without, below 65536. -/
def readSocket? (s : String) : Option Nat :=
  match s.toList with
  | '+' :: ds => (readNat? ds).filter (· < 65536)
  | '-' :: ds => (readNat? ds).filter (· = 0)
  | ds => (readNat? ds).filter (· < 65536)

def ValueRule.accepts : ValueRule → String → Bool
  | anything, _ => true
  | something, s => !s.isEmpty
  | socketNumber, s => (readSocket? s).isSome

/-! ## What belongs to a command -/

namespace Verb

/-- The least and the most operands of a command; without a most there may be any number. -/
def operands : Verb → Nat × Option Nat
  | init | listIntakes | serve => (0, some 0)
  | tasks | showIntake | listFeedback | listActions => (1, some 1)
  | showAction | runAction => (2, some 2)
  | setStatus => (3, some 3)
  | createIntake => (1, none)
  | addFeedback => (2, none)

def flags : Verb → List Flag
  | init => [.value "name"]
  | serve => [{ (Flag.value "port").withLetter 'p' with rule := .socketNumber }]
  | createIntake =>
    [(Flag.value "requester").needed, (Flag.value "email").needed, .values "contact"]
  | addFeedback => [(Flag.value "target").needed, .value "type", .value "author"]
  | runAction =>
    [.values "set", .values "to", .switch "notify-governance", .switch "notify-investment",
      .switch "no-email", (Flag.switch "yes").withLetter 'y']
  | _ => []

def words : Verb → List String
  | init => ["init"]
  | tasks => ["tasks"]
  | serve => ["serve"]
  | createIntake => ["intake", "create"]
  | listIntakes => ["intake", "list"]
  | showIntake => ["intake", "show"]
  | setStatus => ["intake", "set-status"]
  | addFeedback => ["feedback", "add"]
  | listFeedback => ["feedback", "list"]
  | listActions => ["action", "list"]
  | showAction => ["action", "show"]
  | runAction => ["action", "run"]

end Verb

def Scope.words : Scope → List String
  | desk => []
  | intake => ["intake"]
  | feedback => ["feedback"]
  | action => ["action"]

namespace Level

def flags : Level → List Flag
  | scope _ => Flag.shared
  | verb v => Flag.shared ++ v.flags
  | helpOn _ => []

def words : Level → List String
  | scope s | helpOn (.inl s) => s.words
  | verb v | helpOn (.inr v) => v.words

end Level

end GovernanceDesk.Cli
