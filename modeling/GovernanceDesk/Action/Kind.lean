import GovernanceDesk.Failure
import GovernanceDesk.Text.Characters
import GovernanceDesk.Tagged

/-!
# Actions

The actions an administrator can take on a request, with the short name under which each is
addressed and its title.
-/

namespace GovernanceDesk
set_option autoImplicit false

inductive ActionKind where
  | requestEdits
  | progressToNewStep
  | issueLcid
  | updateLcid
  | retireLcid
  | unretireLcid
  | expireLcid
  | notApproved
  | notGovernance
  | closeRequest
  | reopenRequest
deriving DecidableEq

namespace ActionKind

def all : List ActionKind :=
  [requestEdits, progressToNewStep, issueLcid, updateLcid, retireLcid, unretireLcid, expireLcid,
    notApproved, notGovernance, closeRequest, reopenRequest]

def slug : ActionKind → String
  | requestEdits => "request-edits"
  | progressToNewStep => "progress-to-new-step"
  | issueLcid => "issue-lcid"
  | updateLcid => "update-lcid"
  | retireLcid => "retire-lcid"
  | unretireLcid => "unretire-lcid"
  | expireLcid => "expire-lcid"
  | notApproved => "not-approved"
  | notGovernance => "not-governance"
  | closeRequest => "close-request"
  | reopenRequest => "reopen-request"

def title : ActionKind → String
  | requestEdits => "Request edits to a form"
  | progressToNewStep => "Progress to a new step"
  | issueLcid => "Issue a Life Cycle ID"
  | updateLcid => "Update a Life Cycle ID"
  | retireLcid => "Retire a Life Cycle ID"
  | unretireLcid => "Remove retirement date"
  | expireLcid => "Expire a Life Cycle ID"
  | notApproved => "Not approved by GRB"
  | notGovernance => "Not an IT Governance request"
  | closeRequest => "Close request"
  | reopenRequest => "Re-open request"

/-! ## Reading -/

def ofSlug? (s : String) : Option ActionKind :=
  all.find? fun kind => kind.slug == s

/-- Trimmed, underscores taken for hyphens, in small letters. -/
def normalized (s : String) : String :=
  Text.lower (Text.exchange '_' '-' (Text.trim s))

def read (s : String) : Except Failure ActionKind :=
  match ofSlug? (normalized s) with
  | some kind => .ok kind
  | none => .error (.unknownAction (normalized s))

instance : Coded ActionKind :=
  ⟨.choice (all.map slug), fun kind => .text kind.slug, fun t => t.text?.bind ofSlug?⟩

end ActionKind

end GovernanceDesk
