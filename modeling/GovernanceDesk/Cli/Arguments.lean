import GovernanceDesk.Cli.Grammar

/-!
# Reading a command line

The arguments are taken one by one. An argument is the end of the options, an option by its long
name, one or more by their letters, a value that an option waits for, the name of a command, or an
operand.

* `Refusal`: why there is no command: it is badly written, or a text is asked for instead.
* `Arguments`: what was read so far.
* `Arguments.take`, `Arguments.read`: one argument, and all of them.
-/

namespace GovernanceDesk.Cli
set_option autoImplicit false

inductive Refusal where
  | badUsage
  | help (level : Level)
  | version (level : Level)
deriving DecidableEq

structure Arguments where
  level : Level
  /-- The values of options at this level, in the order in which they were written. -/
  given : List (String × String)
  /-- The same of the levels above. -/
  above : List (String × String)
  operands : List String
  /-- An option that stands without its value so far. -/
  waiting : Option Flag
  /-- Whether whatever follows is an operand. -/
  onlyOperands : Bool
deriving DecidableEq

namespace Arguments

def start : Arguments := ⟨.scope .desk, [], [], [], none, false⟩

/-! ## Options -/

/-- An option with its value; only some may be written twice at one level. -/
def give (a : Arguments) (f : Flag) (value : String) : Except Refusal Arguments :=
  let isRepeated := a.given.any fun e => e.1 == f.name
  if !f.rule.accepts value || (f.kind != .values && isRepeated) then .error .badUsage
  else .ok { a with given := a.given ++ [(f.name, value)], waiting := none }

/-- An option that was named, with the value attached to it if any. -/
def meet (a : Arguments) (f : Flag) (attached : Option String) : Except Refusal Arguments :=
  if a.waiting.isSome then .error .badUsage
  else match attached, f.takesValue with
  | some value, true => a.give f value
  | none, true => .ok { a with waiting := some f }
  | some _, false => .error .badUsage
  | none, false =>
    match f.kind with
    | .help => .error (.help a.level)
    | .version => .error (.version a.level)
    | _ => a.give f ""

/-- A long name, cut at the first equals sign. -/
def takeLong (a : Arguments) (cs : List Char) : Except Refusal Arguments :=
  let name := String.ofList (cs.takeWhile (· != '='))
  let attached := match cs.dropWhile (· != '=') with
    | [] => none
    | _ :: value => some (String.ofList value)
  match a.level.flags.find? fun f => f.name == name with
  | some f => a.meet f attached
  | none => .error .badUsage

/-- What follows the letter of an option that takes a value; an equals sign may stand between. -/
def attachedValue : List Char → Option String
  | [] => none
  | '=' :: value => some (String.ofList value)
  | value => some (String.ofList value)

/-- Letters of options; what follows one that takes a value is its value. -/
def takeLetters (a : Arguments) : List Char → Except Refusal Arguments
  | [] => .ok a
  | c :: rest =>
    match a.level.flags.find? fun f => f.short == some c with
    | none => .error .badUsage
    | some f =>
      if f.takesValue then a.meet f (attachedValue rest)
      else match a.meet f none with
      | .ok a => a.takeLetters rest
      | .error e => .error e

/-! ## Words -/

/-- The level a word leads to; values written above it stay in force. -/
def enter (a : Arguments) (level : Level) : Arguments :=
  { a with level := level, given := [], above := a.above ++ a.given }

def levelOf : Scope ⊕ Verb → Level
  | .inl s => .scope s
  | .inr v => .verb v

/-- The name of a command, or an operand of the one that was named. -/
def takeWord (a : Arguments) (word : String) : Except Refusal Arguments :=
  match a.level with
  | .scope s =>
    if a.onlyOperands then .error .badUsage
    else match s.enter? word with
    | some next => .ok (a.enter (levelOf next))
    | none => if word == "help" then .ok (a.enter (.helpOn (.inl s))) else .error .badUsage
  | .verb v =>
    if v.operands.2.any fun most => most ≤ a.operands.length then .error .badUsage
    else .ok { a with operands := a.operands ++ [word] }
  | .helpOn (.inl s) =>
    match s.enter? word with
    | some next => .ok (a.enter (.helpOn next))
    | none => .error .badUsage
  | .helpOn (.inr _) => .error .badUsage

/-! ## One argument and all -/

/-- An argument that is no option. -/
def takePlain (a : Arguments) (arg : String) : Except Refusal Arguments :=
  match a.waiting with
  | some f => if a.onlyOperands then .error .badUsage else a.give f arg
  | none => a.takeWord arg

def isHelpQuestion : Level → Bool
  | .helpOn _ => true
  | _ => false

def take (a : Arguments) (arg : String) : Except Refusal Arguments :=
  if a.onlyOperands || isHelpQuestion a.level then a.takePlain arg
  else match arg.toList with
  | ['-', '-'] => .ok { a with onlyOperands := true }
  | '-' :: '-' :: cs => a.takeLong cs
  | '-' :: c :: cs => a.takeLetters (c :: cs)
  | _ => a.takePlain arg

/-- Whether all that a command needs is there. -/
def isComplete (a : Arguments) (v : Verb) : Bool :=
  a.waiting.isNone && v.operands.1 ≤ a.operands.length &&
    v.flags.all fun f => !f.required || a.given.any fun e => e.1 == f.name

/-- Reads a whole command line; gives the command with what belongs to it. -/
def read (args : List String) : Except Refusal (Verb × Arguments) := do
  let a ← args.foldlM take start
  match a.level with
  | .verb v => if a.isComplete v then .ok (v, a) else .error .badUsage
  | .helpOn _ => .error (.help a.level)
  | .scope _ => .error .badUsage

/-! ## Looking up -/

/-- The values of an option, those from above first. -/
def all (a : Arguments) (name : String) : List String :=
  ((a.above ++ a.given).filter fun e => e.1 == name).map Prod.snd

/-- The value of an option; of several the one written closest to the operands. -/
def value? (a : Arguments) (name : String) : Option String :=
  (a.all name).getLast?

def has (a : Arguments) (name : String) : Bool :=
  (a.value? name).isSome

end Arguments

end GovernanceDesk.Cli
