import GovernanceDesk.Api.Body
import GovernanceDesk.Api.Route
import GovernanceDesk.Api.Updates
import GovernanceDesk.Api.View

/-!
# The server

* `Server`: the store and what the server remembers between requests.
* `Server.answer`: the reply to a request, and the server after it.
* `Server.watch`: looking at the files once.

A request is refused for its path, then its method, then the names in its path, then its body, and
only then for what it asks. Whoever changed something tells all listeners.
-/

namespace GovernanceDesk
set_option autoImplicit false

structure Server where
  store : Store
  updates : Updates
  watcher : Watcher

namespace Server

def start (s : Store) : Server := ⟨s, .none, .start⟩

/-- The server after a change that was announced. -/
def announcing (server : Server) (s : Store) : Server :=
  { server with store := s, updates := server.updates.send }

def watch (server : Server) : Server :=
  { server with
    watcher := server.watcher.look server.store
    updates :=
      if server.watcher.notices server.store then server.updates.send else server.updates }

end Server

/-! ## Looking -/

namespace Store

def viewOf (s : Store) (id : String) (view : Intake → Tree) : Except Failure Tree :=
  (s.load id).map view

/-- The form of an action as it opens on a request. -/
def formView (s : Store) (id kind : String) (today : Date) : Except Failure Tree := do
  let kind ← ActionKind.read kind
  let ctx ← s.loadContext id today
  let form ← (ActionForm.fresh kind id).hydrate (.ok ctx)
  return form.view ctx

/-- What can be looked at on a route that answers with a value. -/
def look (s : Store) (today : Date) : Route → Except Failure Tree
  | .events => .ok .null
  | .config => s.config.map Config.view
  | .intakes => s.intakes.map fun all => .list (all.map fun i => i.summaryView today)
  | .intake id => s.viewOf id fun i => i.fullView today
  | .taskList id => s.viewOf id Intake.taskListView
  | .feedback id => s.viewOf id Intake.feedbackView
  | .actions id => s.viewOf id Intake.actionsView
  | .action id kind => s.formView id kind today

end Store

/-! ## Changing -/

namespace NewIntake

/-- The trimmed name of the request, if that and all addresses will do. -/
def checked (b : NewIntake) : Except Failure String :=
  let name := Text.trim b.requestName
  if name.isEmpty then .error (.invalid (.blank "request_name"))
  else match (b.requester :: b.contacts).find? fun c => !isEmail c.email with
  | some c => .error (.invalid (.email c.email))
  | none => .ok name

end NewIntake

namespace NewFeedback

/-- The trimmed text, the target and the source; the governance team is the usual source. -/
def checked (b : NewFeedback) : Except Failure (String × FeedbackTarget × FeedbackSource) := do
  let text := Text.trim b.text
  if text.isEmpty then throw (.invalid (.blank "feedback"))
  let target ← Tagged.read b.target
  let source ← match b.source with
    | some written => Tagged.read written
    | none => pure .governanceTeam
  return (text, target, source)

end NewFeedback

namespace Server

/-- Ends a request that changed the store, or failed to. -/
def finish (server : Server) (result : Except Failure (Tree × Store)) : Reply × Server :=
  match result with
  | .ok (view, s) => (.ok view, server.announcing s)
  | .error e => (.ofFailure e, server)

def createIntake (server : Server) (m : Moment) (b : NewIntake) : Reply × Server :=
  match b.checked with
  | .error e => (.ofFailure e, server)
  | .ok name =>
    match server.store.createWithContacts m name b.requester b.contacts with
    | (.ok i, s) => (.ok (encode i), server.announcing s)
    | (.error e, s) => (.ofFailure e, { server with store := s })

/-- The record with an id as clients are shown it. -/
def recordView (i : Intake) (feedbackId : String) : Tree :=
  match i.feedback.find? fun f => f.id == feedbackId with
  | some f => f.view
  | none => .null

def addFeedback (server : Server) (m : Moment) (id : String) (b : NewFeedback) : Reply × Server :=
  server.finish do
    let (text, target, source) ← b.checked
    let (i, feedbackId, s) ← server.store.addFeedback m id target source text b.author
    return (recordView i feedbackId, s)

/-- What a finished run of an action is answered with. -/
def doneView (m : Mutation) (flash : Option Flash) (redirect : Option String) : Tree := .fields
  [("mutation", encode m), Entries.orNull "message" (flash.map Flash.text),
    Entries.orNull "redirect" redirect]

def runReply : ActionRun → Reply
  | .done m flash redirect => .ok (doneView m flash redirect)
  | .invalid messages => .ofFailure (.validation messages)
  | .needsConfirmation question => .value 409 (.fields [("confirmation", question.encoded)])
  | .failed message retryable =>
    .value (if retryable then 503 else 400) (.fields [("error", .text message)])

def isDone : ActionRun → Bool
  | .done .. => true
  | _ => false

/-- A submission of an action form. The request has to be there before anything else is done. -/
def submit (server : Server) (m : Moment) (id kind : String) (b : Submission) : Reply × Server :=
  match (do let kind ← ActionKind.read kind; let _ ← server.store.load id; return kind) with
  | .error e => (.ofFailure e, server)
  | .ok kind =>
    let request : ActionRequest := ⟨id, kind, b.values, b.recipients, b.button, b.confirmed⟩
    match server.store.runAction m.today m.now request with
    | (.error e, s) => (.ofFailure e, { server with store := s })
    | (.ok run, s) =>
      (runReply run, if isDone run then server.announcing s else { server with store := s })

/-! ## Answering -/

/-- Goes on with the value of a request, unless it was refused. -/
def withValue {α : Type} (server : Server) (value : Except Reply α)
    (go : α → Reply × Server) : Reply × Server :=
  match value with
  | .ok x => go x
  | .error reply => (reply, server)

def answerPost (server : Server) (m : Moment) (r : ApiRequest) : Route → Reply × Server
  | .intakes => server.withValue r.value (server.createIntake m)
  | .feedback id => server.withValue r.value (server.addFeedback m id)
  | .action id kind => server.withValue r.value (server.submit m id kind)
  | _ => (.bare 405, server)

def answerGet (server : Server) (m : Moment) : Route → Reply
  | .events => .stream
  | route =>
    match server.store.look m.today route with
    | .ok view => .ok view
    | .error e => .ofFailure e

end Server

namespace Route

/-- The route with its names decoded, if they all stand for texts. -/
def decodedNames? : Route → Option Route
  | events => some events
  | config => some config
  | intakes => some intakes
  | intake id => (decoded? id).map intake
  | taskList id => (decoded? id).map taskList
  | feedback id => (decoded? id).map feedback
  | actions id => (decoded? id).map actions
  | action id kind => do return action (← decoded? id) (← decoded? kind)

end Route

namespace Server

def answerOn (server : Server) (m : Moment) (r : ApiRequest) (route : Route) : Reply × Server :=
  if !route.allows r.method then (.bare 405, server)
  else match route.decodedNames? with
  | none => (.bare 400, server)
  | some route =>
    if r.method == "POST" then server.answerPost m r route
    else if r.method == "HEAD" then ((server.answerGet m route).withoutBody, server)
    else (server.answerGet m route, server)

/-- The reply to a request. Whether a route could be asked is itself never refused. -/
def answer (server : Server) (m : Moment) (r : ApiRequest) : Reply × Server :=
  if r.method == "OPTIONS" then (.bare 200, server)
  else match Route.ofAddress? r.address with
  | some route => server.answerOn m r route
  | none => (.bare 404, server)

end Server

end GovernanceDesk
