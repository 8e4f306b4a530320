import GovernanceDesk.Intake

/-!
# What an action form is filled in against

The request as last loaded, the life cycle IDs that can be used again, the day, and the usual term
of a life cycle ID.
-/

namespace GovernanceDesk
set_option autoImplicit false

structure ActionContext where
  intake : Intake
  existingLcids : List LcidRecord
  today : Date
  lcidTermYears : UInt32

namespace ActionContext

def encoded (c : ActionContext) : Tree :=
  .fields
    [("intake", encode c.intake), ("existing_lcids", encode c.existingLcids),
      ("today", encode c.today), ("lcid_term_years", encode c.lcidTermYears)]

end ActionContext

/-! ## Confirmation -/

structure Confirmation where
  title : String
  content : String
deriving DecidableEq

namespace Confirmation

def encoded (c : Confirmation) : Tree :=
  .fields [("title", .text c.title), ("content", .text c.content)]

/-- The question asked before an open request for edits is dropped. -/
def ofStage (stage : Stage) : Confirmation :=
  ⟨"Are you sure you want to complete this action?",
    "You previously requested edits to \"" ++ stage.label ++
      "\". Completing this action will remove that edits request, and the requester will no " ++
      "longer be able to make changes to that form."⟩

end Confirmation

/-- The confirmation an action needs: any but a request for edits does while one is open. -/
def ActionKind.confirmation? (kind : ActionKind) (ctx : ActionContext) : Option Confirmation :=
  if kind = .requestEdits then none else ctx.intake.editsRequested?.map Confirmation.ofStage

end GovernanceDesk
