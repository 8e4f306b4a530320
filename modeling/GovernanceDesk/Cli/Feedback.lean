import GovernanceDesk.Cli.Intakes

/-!
# Commands on feedback

Adding a record, and listing all records of a request in the order of its task list.
-/

namespace GovernanceDesk.Cli
set_option autoImplicit false

def feedbackRow (f : Feedback) : List String :=
  [f.id, f.target.stage.label, f.source.tag, orDash f.author, f.text]

/-- All feedback on a request, stage by stage. -/
def allShown (i : Intake) : List Feedback :=
  Stage.all.flatMap (Feedback.shown i.feedback)

namespace Desk

def addFeedback (d : Desk) (id target source : String) (author : Option String) (text : String) :
    Report × Store :=
  d.finish do
    let target : FeedbackTarget ← (Tagged.read target).mapError .failed
    let source : FeedbackSource ← (Tagged.read source).mapError .failed
    let text := Text.trim text
    if text.isEmpty then throw .blankFeedback
    let i ← d.load id
    let feedbackId := Feedback.nextId i.feedback
    let s ← d.save (i.withFeedback target source text author d.now)
    return (d.report (.fields [("feedback_id", .text feedbackId), ("id", .text i.id)])
      ["Added feedback [" ++ feedbackId ++ "] on " ++ target.stage.label], s)

def listFeedback (d : Desk) (id : String) : Report :=
  .ofResult do
    let shown := allShown (← d.load id)
    return d.report (encode shown)
      (if shown.isEmpty then ["No feedback."]
      else Table.lines ["ID", "STEP", "FROM", "AUTHOR", "FEEDBACK"] (shown.map feedbackRow))

end Desk

end GovernanceDesk.Cli
