import GovernanceDesk.Failure
import GovernanceDesk.Text.Characters
import GovernanceDesk.Tree.Coded

/-!
# Closed sets of choices

Stages, statuses, decisions and the like are closed sets whose members have a tag such as
`GRT_MEETING`. Records hold the tag itself; people may write it in any case, with hyphens and with
blanks around it.

* `Tagged`: the members of a set, their tags, and the noun used in messages.
* `Tagged.ofTag?`: exact reading, for records.
* `Tagged.ofSpelling?`, `Tagged.read`: lenient reading, for people.
-/

namespace GovernanceDesk
set_option autoImplicit false

class Tagged (α : Type) where
  noun : String
  all : List α
  tag : α → String

namespace Tagged

variable {α : Type} [Tagged α]

def ofTag? (s : String) : Option α :=
  all.find? fun x => tag x == s

/-- Trimmed, hyphens taken for underscores, in capitals. -/
def normalized (s : String) : String :=
  Text.upper (Text.exchange '-' '_' (Text.trim s))

def ofSpelling? (s : String) : Option α :=
  ofTag? (normalized s)

def read (s : String) : Except Failure α :=
  match ofSpelling? s with
  | some x => .ok x
  | none => .error (.invalid (.spelling s (noun α)))

end Tagged

/-! ## In records -/

namespace Tagged

def tags (α : Type) [Tagged α] : List String :=
  (all : List α).map tag

end Tagged

instance {α : Type} [Tagged α] : Coded α :=
  ⟨.choice (Tagged.tags α), fun x => .text (Tagged.tag x), fun t => t.text?.bind Tagged.ofTag?⟩

end GovernanceDesk
