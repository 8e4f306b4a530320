import GovernanceDesk.Email
import GovernanceDesk.Tree.Coded

/-!
# Recipients of notifications

Who is told about an action: addresses picked one by one and two shared mailboxes.

* `Recipients.problem?`: what is wrong with a selection.
* `Recipients.resolve`: the addresses a selection stands for, each once.
-/

namespace GovernanceDesk
set_option autoImplicit false

/-- The shared mailboxes that the two check boxes stand for. -/
structure Mailboxes where
  governance : String
  investment : String
deriving DecidableEq

namespace Mailboxes

def standard : Mailboxes :=
  ⟨"it_governance@example.gov", "it_investments@example.gov"⟩

instance : Coded Mailboxes where
  shape := .record
    [.given String "it_governance_mailbox", .given String "it_investment_mailbox"]
  encode m := .fields
    [("it_governance_mailbox", encode m.governance), ("it_investment_mailbox", encode m.investment)]
  decode t := do
    let entries ← t.fields?
    return {
      governance := ← entries.getOr "it_governance_mailbox" standard.governance
      investment := ← entries.getOr "it_investment_mailbox" standard.investment }

end Mailboxes

structure Recipients where
  addresses : List String
  notifyGovernance : Bool
  notifyInvestment : Bool
deriving DecidableEq

namespace Recipients

def nobody : Recipients := ⟨[], false, false⟩

/-- What a form starts from: the requester and the governance mailbox. -/
def forRequester (address : String) : Recipients := ⟨[address], true, false⟩

instance : Coded Recipients where
  shape := .record
    [.given (List String) "regularRecipientEmails", .given Bool "shouldNotifyItGovernance",
      .given Bool "shouldNotifyItInvestment"]
  encode r := .fields
    [("regularRecipientEmails", encode r.addresses),
      ("shouldNotifyItGovernance", encode r.notifyGovernance),
      ("shouldNotifyItInvestment", encode r.notifyInvestment)]
  decode t := do
    let entries ← t.fields?
    return {
      addresses := ← entries.getOr "regularRecipientEmails" []
      notifyGovernance := ← entries.getOr "shouldNotifyItGovernance" false
      notifyInvestment := ← entries.getOr "shouldNotifyItInvestment" false }

def isEmpty (r : Recipients) : Bool :=
  r.addresses.isEmpty && !r.notifyGovernance && !r.notifyInvestment

def invalidAddresses (r : Recipients) : List String :=
  r.addresses.filter fun a => !isEmail a

def problem? (r : Recipients) : Option String :=
  if r.isEmpty then some "Select at least one recipient"
  else if r.invalidAddresses.isEmpty then none
  else some ("Invalid email address: " ++ ", ".intercalate r.invalidAddresses)

/-! ## Addresses -/

/-- The selected addresses in order, the mailboxes last. -/
def selected (r : Recipients) (m : Mailboxes) : List String :=
  r.addresses ++ (if r.notifyGovernance then [m.governance] else []) ++
    (if r.notifyInvestment then [m.investment] else [])

/-- Adds an address, trimmed, unless it stands there already in any letter case. -/
def addOnce (listed : List String) (address : String) : List String :=
  let address := Text.trim address
  if listed.any (Text.sameLetters · address) then listed else listed ++ [address]

def resolve (r : Recipients) (m : Mailboxes) : List String :=
  (r.selected m).foldl addOnce []

end Recipients

end GovernanceDesk
