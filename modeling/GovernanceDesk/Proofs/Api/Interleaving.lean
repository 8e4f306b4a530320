import GovernanceDesk.Api.Server
import GovernanceDesk.Proofs.Tree.Records

/-!
# Posts handled at the same time

Feedback is added and an action is run while the handler holds the lock on all writes, so to the
other handlers each is one step. A new request is made without the lock: it is saved, and saved once
more with its contacts, and between the two other handlers go on.

* `Post`, `Handling`, `Server.proceed`: the handling of one post, step by step.
* `Server.proceed_proceed_intake`: nobody coming between, the steps are `Server.createIntake`.
* `Traffic.turns`: many handlings in any order of their steps.
* `Receipt`: what a client knows from the answer to be in the desk.
-/

namespace GovernanceDesk
set_option autoImplicit false

/-! ## One post -/

/-- What may change something, once its path and its body are read. -/
inductive Post where
  | intake (b : NewIntake)
  | feedback (id : String) (b : NewFeedback)
  | action (id kind : String) (b : Submission)

/-- How far a post is. After the first of two saves the handler has the whole request in memory. -/
inductive Handling where
  | waiting (p : Post)
  | half (i : Intake)
  | answered (reply : Reply)

namespace Handling

def isOk : Handling → Bool
  | answered reply => reply.status == 200
  | _ => false

end Handling

namespace Server

/-- Up to the first save of a new request. -/
def beginIntake (server : Server) (m : Moment) (b : NewIntake) : Handling × Server :=
  match b.checked with
  | .error e => (.answered (.ofFailure e), server)
  | .ok name =>
    match server.store.create m name b.requester with
    | (.error e, s) => (.answered (.ofFailure e), { server with store := s })
    | (.ok i, s) =>
      if b.contacts.isEmpty then (.answered (.ok (encode i)), server.announcing s)
      else (.half { i with contacts := b.contacts }, { server with store := s })

/-- The second save of a new request, as it is in memory. -/
def endIntake (server : Server) (i : Intake) : Reply × Server :=
  match server.store.save i with
  | .ok s => (.ok (encode i), server.announcing s)
  | .error e => (.ofFailure e, server)

/-- A post that is answered. -/
def answeredWith (answer : Reply × Server) : Handling × Server :=
  (.answered answer.1, answer.2)

/-- One step of a handling. -/
def proceed (server : Server) (m : Moment) : Handling → Handling × Server
  | .waiting (.intake b) => server.beginIntake m b
  | .waiting (.feedback id b) => answeredWith (server.addFeedback m id b)
  | .waiting (.action id kind b) => answeredWith (server.submit m id kind b)
  | .half i => answeredWith (server.endIntake i)
  | .answered reply => (.answered reply, server)

/-- A new request whose handling nobody comes between is made as by the server alone. -/
theorem proceed_proceed_intake (server : Server) (m later : Moment) (b : NewIntake) :
    (server.proceed m (.waiting (.intake b))).2.proceed later
        (server.proceed m (.waiting (.intake b))).1 =
      answeredWith (server.createIntake m b) := by
  rw [proceed, beginIntake, createIntake]
  cases b.checked with
  | error e => rfl
  | ok name =>
    dsimp only
    rw [Store.createWithContacts]
    generalize server.store.create m name b.requester = created
    obtain ⟨e | i, s⟩ := created
    · rfl
    · dsimp only
      cases b.contacts.isEmpty with
      | true => rfl
      | false =>
        simp only [Bool.false_eq_true, if_false, proceed, endIntake]
        cases s.save { i with contacts := b.contacts } <;> rfl

end Server

/-! ## Receipts -/

/-- What the answer to a post acknowledges: a feedback record or an entry of the history. -/
inductive Receipt where
  | feedback (id : String) (f : Feedback)
  | action (id : String) (a : ActionRecord)

namespace Receipt

def intakeId : Receipt → String
  | feedback id _ | action id _ => id

/-- The value of an answer that says that all went well. -/
def body? : Reply → Option Tree
  | .value 200 body => some body
  | _ => none

/-- What the answer to a post, given at a time, acknowledges. -/
def of? (now : Instant) (reply : Reply) : Post → Option Receipt
  | .intake _ => none
  | .feedback id _ => ((body? reply).bind decode).map (.feedback id)
  | .action id _ _ =>
    (((body? reply).bind Tree.fields?).bind (Entries.need · "mutation")).map fun m =>
      .action id (.ofMutation m.operation.action m now)

/-- What a step of a handling acknowledges. -/
def ofStep? (now : Instant) : Handling → Handling → Option Receipt
  | .waiting p, .answered reply => of? now reply p
  | _, _ => none

/-- The acknowledged entries of the history of one request, in their order. -/
def actionsOn (id : String) (receipts : List Receipt) : List ActionRecord :=
  receipts.filterMap fun
    | action id' a => if id' = id then some a else none
    | feedback .. => none

end Receipt

/-! ## Many posts -/

/-- The server, how far each post is, and the receipts so far. -/
structure Traffic where
  server : Server
  handlings : List Handling
  receipts : List Receipt

/-- Which handling goes on, and when. -/
structure Turn where
  place : Nat
  moment : Moment

def Server.receiving (server : Server) (posts : List Post) : Traffic :=
  ⟨server, posts.map .waiting, []⟩

namespace Traffic

def turn (t : Traffic) (u : Turn) : Traffic :=
  match t.handlings[u.place]? with
  | none => t
  | some h =>
    let (h', server) := t.server.proceed u.moment h
    ⟨server, t.handlings.set u.place h',
      t.receipts ++ (Receipt.ofStep? u.moment.now h h').toList⟩

def turns (t : Traffic) (us : List Turn) : Traffic :=
  us.foldl turn t

theorem turns_concat (t : Traffic) (us : List Turn) (u : Turn) :
    t.turns (us ++ [u]) = (t.turns us).turn u := by
  rw [turns, List.foldl_append]
  rfl

end Traffic

end GovernanceDesk
