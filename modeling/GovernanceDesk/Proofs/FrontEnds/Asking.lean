import GovernanceDesk.Proofs.Api.Answers
import GovernanceDesk.Proofs.Cli.Growing
import GovernanceDesk.Proofs.Cli.Lines

/-!
# Two front ends of one desk

The same thing can be asked for on a command line and in a request to the server. However a command
line or an address is written, it is what is read from it that counts.

* `Cli.Asks`: a command line that gives a command to the desk of a store.
* `Cli.run_of_asks`: running it is performing the command there.
* `ApiRequest.Posts`: a request that posts a value on a route.
* `Server.answer_of_posts`: what it is answered with.
-/

namespace GovernanceDesk
set_option autoImplicit false

/-! ## Command lines -/

namespace Cli

variable {s : Store} {around : Surroundings} {args : List String} {json : Bool} {c : Command}

/-- A command line is read as a command, and the desk it names is the one of the store. -/
def Asks (s : Store) (around : Surroundings) (args : List String) (json : Bool) (c : Command) :
    Prop :=
  ∃ root, invocation around args = .ok ⟨root, json, c⟩ ∧
    s.files.resolve around.cwd (rootPath s.files around.cwd root) = s.root

/-- Without a root that is named anywhere the desk is the one around the place where one stands. -/
theorem asks_of_read (read : Invocation.read args = .ok ⟨none, json, c⟩)
    (unnamed : around.namedRoot = none)
    (there : s.files.resolve around.cwd (rootPath s.files around.cwd none) = s.root) :
    Asks s around args json c := by
  refine ⟨none, ?_, there⟩
  rw [invocation, read, unnamed]
  rfl

/-- Someone stands in the folder of the desk and has named no other. -/
def inFolder : Surroundings := ⟨["desk"], none⟩

/-- A command that is given to a desk, so any but the one that sets a desk up. -/
def Command.IsForDesk (c : Command) : Prop :=
  ∀ name, c ≠ .init name

theorem storeAt_of_isForDesk (forDesk : c.IsForDesk) (s : Store) (cwd : Place) (path : String) :
    storeAt s cwd path c = { s with root := s.files.resolve cwd path } := by
  cases c with
  | init name => exact absurd rfl (forDesk name)
  | _ => rfl

theorem run_of_asks (asked : Asks s around args json c) (forDesk : c.IsForDesk) (m : Moment) :
    ∃ path, run s m around args =
      ((Desk.perform ⟨s, path, m, json⟩ c).1.output, (Desk.perform ⟨s, path, m, json⟩ c).2) := by
  obtain ⟨root, read, there⟩ := asked
  have here : storeAt s around.cwd (rootPath s.files around.cwd root) c = s := by
    rw [storeAt_of_isForDesk forDesk, there]
  refine ⟨rootPath s.files around.cwd root, ?_⟩
  rw [run, read]
  dsimp only
  rw [here]
  have kept := (Desk.grown_perform ⟨s, rootPath s.files around.cwd root, m, json⟩ c).root
  rw [← kept]

end Cli

/-! ## Requests to the server -/

/-- The route an address names, its names being the texts that they stand for. -/
def Route.named? (address : String) : Option Route :=
  (ofParts? (parts address)).bind decodedNames?

/-- A request posts a value on a route. -/
structure ApiRequest.Posts {α : Type} [Coded α] (r : ApiRequest) (route : Route) (x : α) : Prop where
  method : r.method = "POST"
  route : Route.named? r.address = some route
  value : r.value = .ok x

theorem Route.decoded?_empty : decoded? "" = some "" := by
  decide +kernel

theorem Route.empty_mem_names_of_decodedNames? {route decoded : Route}
    (names : route.decodedNames? = some decoded) (empty : "" ∈ route.names) :
    "" ∈ decoded.names := by
  cases route with
  | events | config | intakes => exact absurd empty List.not_mem_nil
  | intake id | taskList id | feedback id | actions id =>
    cases List.mem_singleton.1 empty
    rw [decodedNames?, decoded?_empty] at names
    cases names
    exact List.mem_singleton_self ""
  | action id kind =>
    obtain ⟨id', decodedId, names⟩ := Option.bind_eq_some_iff.1 names
    obtain ⟨kind', decodedKind, names⟩ := Option.bind_eq_some_iff.1 names
    cases names
    rcases List.mem_cons.1 empty with rfl | later
    · cases decoded?_empty.symm.trans decodedId
      exact List.mem_cons_self
    · cases List.mem_singleton.1 later
      cases decoded?_empty.symm.trans decodedKind
      exact List.mem_cons_of_mem _ (List.mem_singleton_self "")

theorem Route.allowsPost_of_decodedNames? {route decoded : Route}
    (names : route.decodedNames? = some decoded) : decoded.allowsPost = route.allowsPost := by
  cases route with
  | events | config | intakes =>
    cases names
    rfl
  | intake id | taskList id | feedback id | actions id =>
    obtain ⟨id', -, rfl⟩ := Option.map_eq_some_iff.1 names
    rfl
  | action id kind =>
    obtain ⟨id', -, names⟩ := Option.bind_eq_some_iff.1 names
    obtain ⟨kind', -, names⟩ := Option.bind_eq_some_iff.1 names
    cases names
    rfl

/-- A value is posted on its route, unless a name on the way there is empty. -/
theorem Server.answer_of_posts {α : Type} [Coded α] {r : ApiRequest} {route : Route} {x : α}
    (posted : r.Posts route x) (takesPosts : route.allowsPost = true) (server : Server) (m : Moment) :
    server.answer m r = server.answerPost m r route ∨
      "" ∈ route.names ∧ server.answer m r = (.bare 404, server) := by
  obtain ⟨written, parts, names⟩ := Option.bind_eq_some_iff.1 posted.route
  have post : (r.method == "POST") = true := by
    rw [posted.method]
    decide
  have notOptions : (r.method == "OPTIONS") = false := by
    rw [posted.method]
    decide
  have allowed : written.allows r.method = true := by
    rw [Route.allows, post, ← Route.allowsPost_of_decodedNames? names, takesPosts]
    simp
  rw [Server.answer, notOptions, Route.ofAddress?, parts]
  by_cases full : (written.names.all fun name => !name.isEmpty) = true
  · left
    rw [Option.filter_some, if_pos full]
    change server.answerOn m r written = _
    rw [Server.answerOn, allowed, names]
    change (if (r.method == "POST") = true then _ else _) = _
    rw [if_pos post]
  · right
    refine ⟨Route.empty_mem_names_of_decodedNames? names ?_, ?_⟩
    · obtain ⟨name, mem, blank⟩ := List.all_eq_false.1 (Bool.not_eq_true _ ▸ full)
      have same : name = "" := by simpa using blank
      exact same ▸ mem
    · rw [Option.filter_some, if_neg full]
      rfl

end GovernanceDesk
