import GovernanceDesk.Failure
import GovernanceDesk.Json.Writer

/-!
# What a command prints

* `Complaint`: why a command did not do what it was asked for.
* `Report`: the lines a command prints and its complaint, if any.
* `Output`: the same as texts and an exit code.
-/

namespace GovernanceDesk.Cli
set_option autoImplicit false

/-! ## Complaints -/

inductive Complaint where
  | failed (e : Failure)
  | failedTo (what : String) (e : Failure)
  | noSuchIntake (id : String) (e : Failure)
  | badAddress (address : String)
  | badContact (written : String)
  | blankFeedback
  | badSetting (written : String)
  | badCheckBox (name written : String)
  | invalidFields (count : Nat)
  | unconfirmed
  | unfinished (message : String)

namespace Complaint

def message : Complaint → String
  | failed e => e.message
  | failedTo what e => "failed to " ++ what ++ ": " ++ e.message
  | noSuchIntake id e => "intake '" ++ id ++ "' not found: " ++ e.message
  | badAddress address => "invalid email address: " ++ address
  | badContact written => "contact must be NAME=EMAIL, got '" ++ written ++ "'"
  | blankFeedback => "feedback must not be empty"
  | badSetting written => "--set expects NAME=VALUE, got '" ++ written ++ "'"
  | badCheckBox name written =>
    name ++ " is a checkbox, expected true or false, got '" ++ written ++ "'"
  | invalidFields count => "the form has " ++ toString count ++ " invalid field(s)"
  | unconfirmed => "confirmation required; rerun with --yes to proceed"
  | unfinished message => message

end Complaint

/-! ## Reports -/

structure Report where
  printed : List String
  /-- Lines for the eye only, before the complaint. -/
  remarks : List String
  complaint : Option Complaint

namespace Report

def lines (printed : List String) : Report := ⟨printed, [], none⟩

def value (t : Tree) : Report := lines [Json.pretty t]

def refused (c : Complaint) : Report := ⟨[], [], some c⟩

def ofResult : Except Complaint Report → Report
  | .ok report => report
  | .error c => refused c

end Report

structure Output where
  code : Nat
  out : String
  err : String
deriving DecidableEq

def closed (lines : List String) : String :=
  String.join (lines.map (· ++ "\n"))

/-- A complaint is the last line and the exit code is one. -/
def Report.output (r : Report) : Output where
  code := if r.complaint.isSome then 1 else 0
  out := closed r.printed
  err := closed (r.remarks ++ (r.complaint.map fun c => "error: " ++ c.message).toList)

end GovernanceDesk.Cli
