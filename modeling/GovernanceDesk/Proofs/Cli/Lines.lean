import GovernanceDesk.Cli.Run
import GovernanceDesk.Proofs.Text.Cuts

/-!
# Command lines that are written out

A command can be written with its options by their long names, each with its value behind an equals
sign, and with its operands behind the end of the options. Such a line is read as these options and
operands, whatever their texts hold.

* `Verb.line`: the line of a command with options and operands.
* `Verb.Takes`: options that a command takes.
* `Arguments.read_line`, `Invocation.read_line`: what is read from the line.
-/

namespace GovernanceDesk.Cli
set_option autoImplicit false

/-! ## Lines -/

def optionText (name value : String) : String :=
  "--" ++ name ++ "=" ++ value

namespace Verb

def line (v : Verb) (options : List (String × String)) (operands : List String) : List String :=
  v.words ++ ((options.map fun o => optionText o.1 o.2) ++ "--" :: operands)

def flag? (v : Verb) (name : String) : Option Flag :=
  (Level.verb v).flags.find? fun f => f.name == name

/-- Whether an option of a name takes a value. -/
def accepts (v : Verb) (name value : String) : Bool :=
  (v.flag? name).any fun f => f.takesValue && f.rule.accepts value

def repeats (v : Verb) (name : String) : Bool :=
  (v.flag? name).any fun f => f.kind == .values

/-- Options with values that they take, written twice only where they may be. -/
structure Takes (v : Verb) (options : List (String × String)) : Prop where
  accepted : ∀ o ∈ options, v.accepts o.1 o.2 = true
  once : options.Pairwise fun a b => a.1 = b.1 → v.repeats b.1 = true

variable {v : Verb} {name value : String} {f : Flag}

theorem exists_flag_of_accepts (accepted : v.accepts name value = true) :
    ∃ f, v.flag? name = some f ∧ f.takesValue = true ∧ f.rule.accepts value = true := by
  obtain ⟨f, known, takes⟩ := (Option.any_eq_true _ _).1 accepted
  rw [Bool.and_eq_true] at takes
  exact ⟨f, known, takes⟩

theorem kind_of_repeats (known : v.flag? name = some f) (repeated : v.repeats name = true) :
    f.kind = .values := by
  rw [repeats, known] at repeated
  exact eq_of_beq repeated

theorem name_of_flag? (known : v.flag? name = some f) : f.name = name := by
  have found := List.find?_some known
  simpa using found

/-- No name of an option ends early at an equals sign. -/
theorem equals_not_mem_of_flag? (known : v.flag? name = some f) : '=' ∉ name.toList := by
  have all : ∀ f ∈ (Level.verb v).flags, '=' ∉ f.name.toList := by
    cases v <;> decide
  rw [← name_of_flag? known]
  exact all f (List.mem_of_find?_eq_some known)

end Verb

/-! ## Reading them -/

namespace Arguments

/-- A command with the options read so far. -/
def withOptions (v : Verb) (options : List (String × String)) : Arguments :=
  ⟨.verb v, options, [], [], none, false⟩

/-- A command with all its options and the operands read so far. -/
def withOperands (v : Verb) (options : List (String × String)) (operands : List String) :
    Arguments :=
  ⟨.verb v, options, [], operands, none, true⟩

variable {v : Verb} {options : List (String × String)}

theorem foldlM_words (v : Verb) : v.words.foldlM take start = .ok (withOptions v []) := by
  cases v <;> rfl

theorem meet_of_takesValue {a : Arguments} {f : Flag} {value : String} (settled : a.waiting = none)
    (takes : f.takesValue = true) : a.meet f (some value) = a.give f value := by
  simp only [meet, settled, takes, Option.isSome_none, Bool.false_eq_true, if_false]

theorem give_of_takes {name value : String} {f : Flag}
    (takes : v.Takes (options ++ [(name, value)])) (known : v.flag? name = some f)
    (accepts : f.rule.accepts value = true) :
    (withOptions v options).give f value = .ok (withOptions v (options ++ [(name, value)])) := by
  have named := Verb.name_of_flag? known
  have fresh : (f.kind != .values && (withOptions v options).given.any fun e => e.1 == f.name) =
      false := by
    cases repeated : (withOptions v options).given.any fun e => e.1 == f.name with
    | false => rw [Bool.and_false]
    | true =>
      obtain ⟨e, mem, same⟩ := List.any_eq_true.1 repeated
      rw [beq_iff_eq, named] at same
      have apart := (List.pairwise_append.1 takes.once).2.2
      have repeated := apart e mem (name, value) (List.mem_singleton_self _) same
      rw [Verb.kind_of_repeats known repeated]
      rfl
  rw [give, accepts, fresh, named]
  rfl

/-- One option that the command takes. -/
theorem take_optionText {name value : String} (takes : v.Takes (options ++ [(name, value)])) :
    (withOptions v options).take (optionText name value) =
      .ok (withOptions v (options ++ [(name, value)])) := by
  obtain ⟨f, known, takesValue, accepts⟩ := Verb.exists_flag_of_accepts
    (takes.accepted (name, value) (List.mem_append_right options (List.mem_singleton_self _)))
  have plain := Verb.equals_not_mem_of_flag? known
  obtain ⟨before, behind⟩ := Text.cut_at_first plain value.toList
  have text : (optionText name value).toList =
      '-' :: '-' :: (name.toList ++ '=' :: value.toList) := by
    simp [optionText]
  have long : (withOptions v options).take (optionText name value) =
      (withOptions v options).takeLong (name.toList ++ '=' :: value.toList) := by
    rw [take, text]
    cases name.toList <;> rfl
  have found : (withOptions v options).level.flags.find? (fun f => f.name == name) = some f := known
  rw [long, takeLong, before, behind]
  dsimp only
  rw [String.ofList_toList, String.ofList_toList, found]
  dsimp only
  rw [meet_of_takesValue rfl takesValue]
  exact give_of_takes takes known accepts

theorem foldlM_options (more : List (String × String)) (takes : v.Takes (options ++ more)) :
    (more.map fun o => optionText o.1 o.2).foldlM take (withOptions v options) =
      .ok (withOptions v (options ++ more)) := by
  induction more generalizing options with
  | nil =>
    rw [List.append_nil]
    rfl
  | cons o rest ih =>
    rw [List.append_cons] at takes
    have first : v.Takes (options ++ [o]) :=
      ⟨fun e mem => takes.accepted e (List.mem_append_left rest mem),
        (List.pairwise_append.1 takes.once).1⟩
    rw [List.map_cons, List.foldlM_cons, take_optionText first, List.append_cons options o rest]
    exact ih takes

/-- Behind the end of the options every argument is an operand, as long as there is room. -/
theorem foldlM_operands (operands words : List String)
    (room : ∀ most ∈ v.operands.2, operands.length + words.length ≤ most) :
    words.foldlM take (withOperands v options operands) =
      .ok (withOperands v options (operands ++ words)) := by
  induction words generalizing operands with
  | nil =>
    rw [List.append_nil]
    rfl
  | cons word rest ih =>
    have fits : (v.operands.2.any fun most => decide (most ≤ operands.length)) = false := by
      rw [Option.any_eq_false_iff_get]
      intro bounded
      have bound := room _ (Option.get_mem bounded)
      rw [List.length_cons] at bound
      rw [decide_eq_false_iff_not]
      omega
    have first : (withOperands v options operands).take word =
        .ok (withOperands v options (operands ++ [word])) := by
      change (if (v.operands.2.any fun most => decide (most ≤ operands.length)) = true then
        _ else _) = _
      rw [fits]
      rfl
    rw [List.foldlM_cons, first, List.append_cons operands word rest]
    refine ih _ fun most bounded => ?_
    have bound := room most bounded
    simp only [List.length_append, List.length_cons, List.length_nil] at bound ⊢
    omega

theorem read_line {operands : List String} (takes : v.Takes options)
    (room : ∀ most ∈ v.operands.2, operands.length ≤ most)
    (complete : (withOperands v options operands).isComplete v = true) :
    Arguments.read (v.line options operands) = .ok (v, withOperands v options operands) := by
  have named : v.words.foldlM take start = .ok (withOptions v []) := foldlM_words v
  have given : (options.map fun o => optionText o.1 o.2).foldlM take (withOptions v []) =
      .ok (withOptions v options) := foldlM_options options takes
  have ended : (withOptions v options).take "--" = .ok (withOperands v options []) := rfl
  have worded : operands.foldlM take (withOperands v options []) =
      .ok (withOperands v options operands) := by
    refine foldlM_operands [] operands fun most bounded => ?_
    simpa using room most bounded
  have all : (v.line options operands).foldlM take start =
      .ok (withOperands v options operands) := by
    rw [Verb.line, List.foldlM_append, named]
    change List.foldlM take (withOptions v []) _ = _
    rw [List.foldlM_append, given]
    change List.foldlM take (withOptions v options) _ = _
    rw [List.foldlM_cons, ended]
    exact worded
  rw [Arguments.read, all]
  change (if (withOperands v options operands).isComplete v = true then _ else _) = _
  rw [if_pos complete]

end Arguments

/-- The command that a line is read as, with the options that all commands share. -/
theorem Invocation.read_line {v : Verb} {options : List (String × String)} {operands : List String}
    {c : Command} (takes : v.Takes options) (room : ∀ most ∈ v.operands.2, operands.length ≤ most)
    (complete : (Arguments.withOperands v options operands).isComplete v = true)
    (command : Command.ofArguments? v (Arguments.withOperands v options operands) = some c) :
    Invocation.read (v.line options operands) =
      .ok ⟨(Arguments.withOperands v options operands).value? "root",
        (Arguments.withOperands v options operands).has "json", c⟩ := by
  rw [Invocation.read, Arguments.read_line takes room complete]
  dsimp only [bind, Except.bind]
  rw [command]

end GovernanceDesk.Cli
