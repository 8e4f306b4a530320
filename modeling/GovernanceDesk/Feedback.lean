import GovernanceDesk.Calendar.Instant
import GovernanceDesk.Stage

/-!
# Feedback on a request

Feedback records are only ever added. Their numbers run on within a request: FB1, FB2, ...

* `FeedbackTarget`, `FeedbackSource`: what a record is about and who it comes from.
* `Feedback.number?`, `Feedback.nextId`: the number an id carries and the first id past them all.
* `Feedback.append`: adding a record.
* `Feedback.shown`: the records behind a row of the task list, in the order they are shown.
-/

namespace GovernanceDesk
set_option autoImplicit false

/-! ## Targets and sources -/

inductive FeedbackTarget where
  | intakeRequest
  | draftBusinessCase
  | finalBusinessCase
  | grbMeeting
  | noTargetProvided
deriving DecidableEq

namespace FeedbackTarget

def all : List FeedbackTarget :=
  [intakeRequest, draftBusinessCase, finalBusinessCase, grbMeeting, noTargetProvided]

def tag : FeedbackTarget → String
  | intakeRequest => "INTAKE_REQUEST"
  | draftBusinessCase => "DRAFT_BUSINESS_CASE"
  | finalBusinessCase => "FINAL_BUSINESS_CASE"
  | grbMeeting => "GRB_MEETING"
  | noTargetProvided => "NO_TARGET_PROVIDED"

instance : Tagged FeedbackTarget := ⟨"FeedbackTarget", all, tag⟩

/-- The row of the task list behind which the record is shown. -/
def stage : FeedbackTarget → Stage
  | intakeRequest => .intakeForm
  | noTargetProvided => .initialReviewFeedback
  | draftBusinessCase => .draftBusinessCase
  | finalBusinessCase => .finalBusinessCase
  | grbMeeting => .grbMeeting

end FeedbackTarget

inductive FeedbackSource where
  | governanceTeam
  | reviewer
deriving DecidableEq

namespace FeedbackSource

def all : List FeedbackSource := [governanceTeam, reviewer]

def tag : FeedbackSource → String
  | governanceTeam => "GOVERNANCE_TEAM"
  | reviewer => "REVIEWER"

instance : Tagged FeedbackSource := ⟨"FeedbackType", all, tag⟩

/-- The governance team comes before the reviewers. -/
def rank : FeedbackSource → Nat
  | governanceTeam => 0
  | reviewer => 1

end FeedbackSource

/-! ## Records -/

structure Feedback where
  id : String
  target : FeedbackTarget
  source : FeedbackSource
  text : String
  author : Option String
  createdAt : Instant
deriving DecidableEq

namespace Feedback

instance : Coded Feedback where
  shape := .record
    [.need String "id", .need FeedbackTarget "target_form", .need FeedbackSource "feedback_type",
      .need String "feedback", .optional String "author", .need Instant "created_at"]
  encode f := .fields <|
    [("id", encode f.id), ("target_form", encode f.target), ("feedback_type", encode f.source),
      ("feedback", encode f.text)] ++
    Entries.ifSome "author" f.author ++ [("created_at", encode f.createdAt)]
  decode t := do
    let entries ← t.fields?
    return {
      id := ← entries.need "id"
      target := ← entries.need "target_form"
      source := ← entries.need "feedback_type"
      text := ← entries.need "feedback"
      author := ← entries.optional "author"
      createdAt := ← entries.need "created_at" }

/-! ## Ids -/

/-- The number in an id `FB12`, with or without a plus sign, if it fits in sixty-four bits. -/
def number? (id : String) : Option Nat :=
  match id.toList with
  | 'F' :: 'B' :: '+' :: ds | 'F' :: 'B' :: ds => (Text.readNat? ds).filter (· < UInt64.size)
  | _ => none

def lastNumber (records : List Feedback) : Nat :=
  (records.filterMap fun f => number? f.id).foldl max 0

def idOfNumber (n : Nat) : String :=
  "FB" ++ toString n

/-- The id with the number after the highest one, without a bound. A counter of sixty-four bits
overflows behind `FB18446744073709551615`: once a record has that id, such a counter gives another id
than this one. -/
def nextId (records : List Feedback) : String :=
  idOfNumber (lastNumber records + 1)

/-! ## Adding and showing -/

def append (records : List Feedback) (target : FeedbackTarget) (source : FeedbackSource)
    (text : String) (author : Option String) (now : Instant) : List Feedback :=
  records ++ [⟨nextId records, target, source, text, author, now⟩]

def concerns (stage : Stage) (f : Feedback) : Bool :=
  f.target.stage == stage

def isAbout (records : List Feedback) (stage : Stage) : Bool :=
  records.any (concerns stage)

/-- The governance team first, and of one source the newest first. -/
def shownBefore (a b : Feedback) : Bool :=
  a.source.rank < b.source.rank || (a.source == b.source && !(a.createdAt.before b.createdAt))

/-- The records behind a row of the task list; equals keep the order in which they were added. -/
def shown (records : List Feedback) (stage : Stage) : List Feedback :=
  (records.filter (concerns stage)).mergeSort shownBefore

end Feedback

end GovernanceDesk
