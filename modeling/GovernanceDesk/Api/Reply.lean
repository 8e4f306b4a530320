import GovernanceDesk.Failure
import GovernanceDesk.Tree.Coded

/-!
# Replies

* `Reply`: a status with a value, a status alone, or a stream of updates that stays open.
* `Failure.status`: the status under which each failure is reported.
* `Reply.ofFailure`: the reply to a request that failed.
-/

namespace GovernanceDesk
set_option autoImplicit false

inductive Reply where
  | value (status : Nat) (body : Tree)
  | bare (status : Nat)
  | stream

namespace Reply

def status : Reply → Nat
  | value status _ | bare status => status
  | stream => 200

def ok (body : Tree) : Reply := value 200 body

/-- The same reply without its value. -/
def withoutBody : Reply → Reply
  | value status _ => bare status
  | reply => reply

end Reply

/-- What was asked for badly, what is not there, what does not fit the present state, what was
filled in badly, and what is no fault of the request. -/
def Failure.status : Failure → Nat
  | notInitialized | invalid _ | unknownField .. | unknownAction _ => 400
  | intakeNotFound _ | lcidNotFound _ => 404
  | wrongPhase .. | busy | noLcid _ => 409
  | validation _ => 422
  | storage _ | unreadable _ | malformed _ => 500

/-- The messages of a failed validation, if the failure is one. -/
def Failure.messages? : Failure → Option Messages
  | validation messages => some messages
  | _ => none

def Reply.ofFailure (e : Failure) : Reply :=
  .value e.status (.fields (("error", .text e.message) :: Entries.ifSome "errors" e.messages?))

end GovernanceDesk
