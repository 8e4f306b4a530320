import GovernanceDesk.Recipients

/-!
# Configuration of a desk

* `Config`: the project, the shared mailboxes and the usual term of a life cycle ID.
* `Config.warnings`: what is questionable about a configuration.
-/

namespace GovernanceDesk
set_option autoImplicit false

structure Project where
  name : String
  description : Option String
deriving DecidableEq

instance : Coded Project where
  shape := .record [.need String "name", .optional String "description"]
  encode p := .fields [("name", encode p.name), Entries.orNull "description" p.description]
  decode t := do
    let entries ← t.fields?
    return { name := ← entries.need "name", description := ← entries.optional "description" }

/-- For how many years a new life cycle ID is suggested to run. -/
structure LcidTerm where
  years : UInt32
deriving DecidableEq

namespace LcidTerm

def standard : LcidTerm := ⟨5⟩

instance : Coded LcidTerm where
  shape := .record [.given UInt32 "default_term_years"]
  encode t := .fields [("default_term_years", encode t.years)]
  decode t := do
    let entries ← t.fields?
    return { years := ← entries.getOr "default_term_years" standard.years }

end LcidTerm

structure Config where
  version : UInt32
  project : Project
  mailboxes : Mailboxes
  lcid : LcidTerm
deriving DecidableEq

namespace Config

def forProject (name : String) : Config :=
  ⟨1, ⟨name, none⟩, .standard, .standard⟩

instance : Coded Config where
  shape := .record
    [.given UInt32 "version", .need Project "project", .given Mailboxes "notifications",
      .given LcidTerm "lcid"]
  encode c := .fields
    [("version", encode c.version), ("project", encode c.project),
      ("notifications", encode c.mailboxes), ("lcid", encode c.lcid)]
  decode t := do
    let entries ← t.fields?
    return {
      version := ← entries.getOr "version" 1
      project := ← entries.need "project"
      mailboxes := ← entries.getOr "notifications" .standard
      lcid := ← entries.getOr "lcid" .standard }

end Config

/-! ## Warnings -/

structure ConfigWarning where
  isError : Bool
  message : String
deriving DecidableEq

namespace ConfigWarning

def level (w : ConfigWarning) : String :=
  if w.isError then "error" else "warning"

def encoded (w : ConfigWarning) : Tree :=
  .fields [("level", .text w.level), ("message", .text w.message)]

end ConfigWarning

namespace Config

def mailboxWarnings (key address : String) : List ConfigWarning :=
  if isEmail address then []
  else [⟨true, s!"notifications.{key} '{address}' is not a valid email address"⟩]

def warnings (c : Config) : List ConfigWarning :=
  mailboxWarnings "it_governance_mailbox" c.mailboxes.governance ++
  mailboxWarnings "it_investment_mailbox" c.mailboxes.investment ++
  if c.lcid.years = 0 then
    [⟨false, "lcid.default_term_years is 0; new LCIDs will be prefilled as already expired"⟩]
  else []

end Config

end GovernanceDesk
