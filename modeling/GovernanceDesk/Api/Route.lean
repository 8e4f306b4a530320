import GovernanceDesk.Json.Reader
import GovernanceDesk.Place

/-!
# Routes

What a request asks for, by its address and its method.

* `Route.decoded?`: the text that a percent-encoded part of a path stands for.
* `Route.pathChars`: the path in an address, which may name a scheme and a host before it and have
  a query and a fragment after it.
* `Route.ofAddress?`: the route of an address.
* `Route.allows`: the methods that a route answers to.
-/

namespace GovernanceDesk
set_option autoImplicit false

/-- The parts of a path that name something are kept as they are written there. -/
inductive Route where
  | events
  | config
  | intakes
  | intake (id : String)
  | taskList (id : String)
  | feedback (id : String)
  | actions (id : String)
  | action (id kind : String)
deriving DecidableEq

namespace Route

/-! ## Percent encoding -/

/-- A percent sign with two hexadecimal digits after it stands for one byte; any other byte, a
percent sign without them included, stands for itself. -/
def decodedBytes : List UInt8 → List UInt8
  | 37 :: a :: b :: rest =>
    let digit? := fun (n : UInt8) => Json.hexValue? (Char.ofNat n.toNat)
    match digit? a, digit? b with
    | some high, some low => UInt8.ofNat (high * 16 + low) :: decodedBytes rest
    | _, _ => 37 :: decodedBytes (a :: b :: rest)
  | byte :: rest => byte :: decodedBytes rest
  | [] => []

/-- The text that a part of a path stands for, if its bytes are one. -/
def decoded? (part : String) : Option String :=
  String.fromUTF8? ⟨(decodedBytes part.toUTF8.toList).toArray⟩

/-! ## Paths -/

def isHostEnd (c : Char) : Bool :=
  c == '/' || c == '?' || c == '#'

/-- What follows the scheme and the host, if an address names them. -/
def afterHost : List Char → List Char
  | '/' :: rest => '/' :: rest
  | address =>
    match address.dropWhile (· != ':') with
    | ':' :: '/' :: '/' :: rest => rest.dropWhile fun c => !isHostEnd c
    | _ => address

/-- The path in an address, up to the query or the fragment. -/
def pathChars (address : String) : List Char :=
  (afterHost address.toList).takeWhile fun c => c != '?' && c != '#'

/-- The parts of the path, empty ones included. -/
def parts (address : String) : List String :=
  (Path.splitChars (pathChars address)).map String.ofList

def ofParts? : List String → Option Route
  | ["", "api", "events"] => some events
  | ["", "api", "config"] => some config
  | ["", "api", "intakes"] => some intakes
  | ["", "api", "intakes", id] => some (intake id)
  | ["", "api", "intakes", id, "task-list"] => some (taskList id)
  | ["", "api", "intakes", id, "feedback"] => some (feedback id)
  | ["", "api", "intakes", id, "actions"] => some (actions id)
  | ["", "api", "intakes", id, "actions", kind] => some (action id kind)
  | _ => none

/-- The names in the path of a route. -/
def names : Route → List String
  | events | config | intakes => []
  | intake id | taskList id | feedback id | actions id => [id]
  | action id kind => [id, kind]

/-- The route of an address; a name in it is never empty. -/
def ofAddress? (address : String) : Option Route :=
  (ofParts? (parts address)).filter fun route => route.names.all fun name => !name.isEmpty

/-! ## Methods -/

def allowsPost : Route → Bool
  | intakes | feedback _ | action .. => true
  | _ => false

/-- Everything can be looked at, with or without the answer's body. -/
def allows (route : Route) (method : String) : Bool :=
  method == "GET" || method == "HEAD" || (method == "POST" && route.allowsPost)

end Route

end GovernanceDesk
