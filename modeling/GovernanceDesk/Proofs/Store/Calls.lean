import GovernanceDesk.Api.Server
import GovernanceDesk.Cli.Feedback
import GovernanceDesk.Proofs.Store.LcidRuns

/-!
# Calls that write to a request

A request that is there is written by mutations, by actions that are run, by feedback that is added
through the server or at the command line, and by statuses that are set. One call reads the request
it names, does one thing to it and saves it, or it leaves the store as it was.

* `Call`, `Store.call`, `Store.calls`: everything that writes to a request, once and in sequence.
* `Enactment`, `Store.enactments`: the mutations that took effect on a request.
* `Store.Touched`, `Store.settles`: what one call makes of the request it names.
* `Store.calls_related`: what every call keeps is kept by all of them.
-/

namespace GovernanceDesk
set_option autoImplicit false

/-! ## Calls -/

/-- Where commands are given: how the desk's path is shown, whether to print values, and when. -/
structure Terminal where
  path : String
  json : Bool
  moment : Moment

def Terminal.desk (t : Terminal) (s : Store) : Cli.Desk :=
  ⟨s, t.path, t.moment, t.json⟩

inductive Call where
  | changed (c : Change)
  | ran (a : Run)
  | feedbackPosted (updates : Updates) (watcher : Watcher) (m : Moment) (id : String)
      (b : NewFeedback)
  | feedbackTyped (t : Terminal) (id target source : String) (author : Option String)
      (text : String)
  | statusSet (m : Moment) (id : String) (stage : Stage) (status : Status)
  | statusTyped (t : Terminal) (id stage status : String)

/-- The request that a call names. -/
def Call.intakeId : Call → String
  | changed c => c.mutation.intakeId
  | ran a => a.request.intakeId
  | feedbackPosted _ _ _ id _ | feedbackTyped _ id _ _ _ _ | statusSet _ id _ _
  | statusTyped _ id _ _ => id

/-- A mutation that took effect, as what and when. -/
structure Enactment where
  kind : ActionKind
  mutation : Mutation
  now : Instant

namespace Store

/-- The store a change leads to, unless it was refused. -/
def after {ε α : Type} (s : Store) : Except ε (α × Store) → Store
  | .ok (_, s') => s'
  | .error _ => s

def call (s : Store) : Call → Store
  | .changed c => s.change c
  | .ran a => s.run a
  | .feedbackPosted updates watcher m id b =>
    ((⟨s, updates, watcher⟩ : Server).addFeedback m id b).2.store
  | .feedbackTyped t id target source author text =>
    ((t.desk s).addFeedback id target source author text).2
  | .statusSet m id stage status => s.after (s.setStatus m id stage status)
  | .statusTyped t id stage status => ((t.desk s).setStatus id stage status).2

def calls (s : Store) (cs : List Call) : Store :=
  cs.foldl call s

/-- The mutation that takes effect through a call: one that is accepted, or the one with which a run
completes its action. -/
def enactment? (s : Store) : Call → Option Enactment
  | .changed c => if s.accepts c then some ⟨c.kind, c.mutation, c.now⟩ else none
  | .ran a =>
    match (s.runAction a.today a.now a.request).1 with
    | .ok (.done m _ _) => some ⟨a.request.kind, m, a.now⟩
    | _ => none
  | _ => none

/-- The mutation that takes effect on one request. -/
def enactmentOn? (s : Store) (id : String) (c : Call) : Option Enactment :=
  if c.intakeId = id then s.enactment? c else none

def enactments (s : Store) (id : String) : List Call → List Enactment
  | [] => []
  | c :: cs => (s.enactmentOn? id c).toList ++ (s.call c).enactments id cs

/-- What is found under a name carries it as its id. -/
def NamedAt (s : Store) (name : String) : Prop :=
  ∀ i, s.load name = .ok i → i.id = name

/-! ## One call -/

/-- A request before and after a call that goes through, with the mutation that takes effect. -/
inductive Touched (s : Store) (i : Intake) : Call → Option Enactment → Intake → Prop where
  | changed (c : Change) {j k : Intake}
      (applied : Applied s c.today c.now c.kind c.mutation i j k) :
    Touched s i (.changed c) (some ⟨c.kind, c.mutation, c.now⟩) k
  | ran (a : Run) {m : Mutation} {j k : Intake}
      (run : Completed s a.today a.now a.request m i j k (s.run a)) :
    Touched s i (.ran a) (some ⟨a.request.kind, m, a.now⟩) k
  | feedbackPosted (updates : Updates) (watcher : Watcher) (m : Moment) (id : String)
      (b : NewFeedback) (target : FeedbackTarget) (source : FeedbackSource) (text : String) :
    Touched s i (.feedbackPosted updates watcher m id b) none
      (i.withFeedback target source text b.author m.now)
  | feedbackTyped (t : Terminal) (id target source : String) (author : Option String)
      (text : String) (target' : FeedbackTarget) (source' : FeedbackSource) :
    Touched s i (.feedbackTyped t id target source author text) none
      (i.withFeedback target' source' (Text.trim text) author t.moment.now)
  | statusSet (m : Moment) (id : String) (stage : Stage) (status : Status) :
    Touched s i (.statusSet m id stage status) none (i.withStatus stage status m.now)
  | statusTyped (t : Terminal) (id stage status : String) (stage' : Stage) (status' : Status) :
    Touched s i (.statusTyped t id stage status) none
      (Cli.reported i stage' status' t.moment.now)

variable {s s' : Store} {id : String}

theorem exists_reported_eq (i : Intake) (stage : Stage) (status : Status) (now : Instant) :
    ∃ submittedAt, Cli.reported i stage status now =
      { i.withStatus stage status now with submittedAt := submittedAt } := by
  rw [Cli.reported]
  split
  · exact ⟨_, rfl⟩
  · exact ⟨_, rfl⟩

theorem Touched.id_eq {i k : Intake} {c : Call} {e? : Option Enactment} (h : Touched s i c e? k) :
    k.id = i.id := by
  cases h with
  | changed _ applied => exact applied.id_eq
  | ran _ run => exact run.applied.id_eq
  | statusTyped =>
    obtain ⟨_, same⟩ := exists_reported_eq i _ _ _
    rw [same]
    rfl
  | _ => rfl

/-- A call that goes through has read a request, done one thing to it and saved it. -/
structure WentThrough (s : Store) (c : Call) (i k : Intake) : Prop where
  loaded : s.load c.intakeId = .ok i
  touched : Touched s i c (s.enactment? c) k
  saved : Saved s k (s.call c)

/-- A call goes through, or it does nothing. -/
def Settles (s : Store) (c : Call) : Prop :=
  (∃ i k, WentThrough s c i k) ∨ s.enactment? c = none ∧ s.call c = s

/-! ### Mutations and runs -/

theorem settles_changed (s : Store) (c : Change) : s.Settles (.changed c) := by
  obtain ⟨effective, i, j, k, applied, saved⟩ | ⟨refused, same⟩ := accepted_cases s c
  · refine .inl ⟨i, k, applied.loaded, ?_, saved⟩
    rw [enactment?, if_pos effective]
    exact .changed c applied
  · refine .inr ⟨?_, same⟩
    rw [enactment?, refused]
    rfl

theorem settles_ran (a : Run) (named : s.NamedAt a.request.intakeId) : s.Settles (.ran a) := by
  have ends := ran s a.today a.now a.request
  generalize hr : s.runAction a.today a.now a.request = result at ends
  have here : s.run a = result.2 := congrArg Prod.snd hr
  cases ends with
  | without answer unfinished =>
    refine .inr ⟨?_, here⟩
    rw [enactment?, hr]
    cases answer with
    | error e => rfl
    | ok ended =>
      cases ended with
      | done => exact nomatch unfinished
      | _ => rfl
  | done ctx f m k s' flash redirect sent apply =>
    obtain ⟨i, j, run⟩ := completed_of_sent named sent apply
    have run : Completed s a.today a.now a.request m i j k (s.run a) := by
      rw [here]
      exact run
    refine .inl ⟨i, k, run.loaded, ?_, run.saved⟩
    rw [enactment?, hr]
    exact .ran a run

/-! ### Feedback and statuses -/

/-- Of the calls that are no mutation, each has a result that says what it does. -/
theorem settles_of_result {c : Call} {ε α : Type} (result : Except ε (α × Store))
    (noMutation : s.enactment? c = none) (here : s.call c = s.after result)
    (through : ∀ a s', result = .ok (a, s') →
      ∃ i k, s.load c.intakeId = .ok i ∧ Touched s i c none k ∧ Saved s k s') :
    s.Settles c := by
  cases result with
  | error e => exact .inr ⟨noMutation, here⟩
  | ok answer =>
    obtain ⟨i, k, loaded, touched, saved⟩ := through answer.1 answer.2 rfl
    refine .inl ⟨i, k, loaded, ?_, ?_⟩
    · rw [noMutation]
      exact touched
    · rw [here]
      exact saved

theorem server_finish_store (server : Server) (result : Except Failure (Tree × Store)) :
    (server.finish result).2.store = server.store.after result := by
  cases result <;> rfl

theorem desk_finish_store (d : Cli.Desk) (result : Except Cli.Complaint (Cli.Report × Store)) :
    (d.finish result).2 = d.store.after result := by
  cases result <;> rfl

theorem settles_feedbackPosted (s : Store) (updates : Updates) (watcher : Watcher) (m : Moment)
    (id : String) (b : NewFeedback) : s.Settles (.feedbackPosted updates watcher m id b) := by
  refine settles_of_result _ rfl (server_finish_store ⟨s, updates, watcher⟩ _) ?_
  intro view s' posted
  obtain ⟨⟨text, target, source⟩, -, rest⟩ := ok_of_bind_ok posted
  obtain ⟨⟨k, feedbackId, s''⟩, added, rest⟩ := ok_of_bind_ok rest
  cases rest
  obtain ⟨i, loaded, rest⟩ := ok_of_bind_ok added
  obtain ⟨saved, hs, rest⟩ := ok_of_bind_ok rest
  cases rest
  exact ⟨i, _, loaded, .feedbackPosted updates watcher m id b target source text, saved_of_save hs⟩

theorem settles_feedbackTyped (s : Store) (t : Terminal) (id target source : String)
    (author : Option String) (text : String) :
    s.Settles (.feedbackTyped t id target source author text) := by
  refine settles_of_result _ rfl (desk_finish_store (t.desk s) _) ?_
  intro report s' typed
  obtain ⟨target', -, rest⟩ := ok_of_bind_ok typed
  obtain ⟨source', -, rest⟩ := ok_of_bind_ok rest
  dsimp only at rest
  split at rest
  · exact nomatch rest
  obtain ⟨i, loaded, rest⟩ := ok_of_bind_ok rest
  obtain ⟨saved, hs, rest⟩ := ok_of_bind_ok rest
  cases rest
  exact ⟨i, _, ok_of_mapError_ok loaded,
    .feedbackTyped t id target source author text target' source',
    saved_of_save (ok_of_mapError_ok hs)⟩

theorem settles_statusSet (s : Store) (m : Moment) (id : String) (stage : Stage)
    (status : Status) : s.Settles (.statusSet m id stage status) := by
  refine settles_of_result (s.setStatus m id stage status) rfl rfl ?_
  intro k s' set
  obtain ⟨i, loaded, rest⟩ := ok_of_bind_ok set
  obtain ⟨saved, hs, rest⟩ := ok_of_bind_ok rest
  cases rest
  exact ⟨i, _, loaded, .statusSet m id stage status, saved_of_save hs⟩

theorem settles_statusTyped (s : Store) (t : Terminal) (id stage status : String) :
    s.Settles (.statusTyped t id stage status) := by
  refine settles_of_result _ rfl (desk_finish_store (t.desk s) _) ?_
  intro report s' typed
  obtain ⟨stage', -, rest⟩ := ok_of_bind_ok typed
  obtain ⟨status', -, rest⟩ := ok_of_bind_ok rest
  obtain ⟨i, loaded, rest⟩ := ok_of_bind_ok rest
  obtain ⟨saved, hs, rest⟩ := ok_of_bind_ok rest
  cases rest
  exact ⟨i, _, ok_of_mapError_ok loaded, .statusTyped t id stage status stage' status',
    saved_of_save (ok_of_mapError_ok hs)⟩

theorem settles (c : Call) (named : s.NamedAt c.intakeId) : s.Settles c := by
  cases c with
  | changed c => exact settles_changed s c
  | ran a => exact settles_ran a named
  | feedbackPosted => exact settles_feedbackPosted ..
  | feedbackTyped => exact settles_feedbackTyped ..
  | statusSet => exact settles_statusSet ..
  | statusTyped => exact settles_statusTyped ..

/-! ## Calls one after another -/

theorem Saved.namedAt {i : Intake} (h : Saved s i s') (named : s.NamedAt id) : s'.NamedAt id := by
  intro j loaded
  by_cases same : id = i.id
  · rw [same, h.load_self] at loaded
    cases loaded
    exact same.symm
  · rw [h.load_other same] at loaded
    exact named j loaded

theorem namedAt_call {c : Call} (own : s.NamedAt c.intakeId) (named : s.NamedAt id) :
    (s.call c).NamedAt id := by
  obtain ⟨i, k, went⟩ | ⟨-, same⟩ := settles c own
  · exact went.saved.namedAt named
  · rw [same]
    exact named

/-- What a call makes of a request that is there, whichever request it names. -/
theorem load_call {c : Call} {i : Intake} (own : s.NamedAt c.intakeId)
    (loaded : s.load id = .ok i) :
    ∃ k, (s.call c).load id = .ok k ∧
      (Touched s i c (s.enactmentOn? id c) k ∨ k = i ∧ s.enactmentOn? id c = none) := by
  rw [enactmentOn?]
  obtain ⟨i', k, went⟩ | ⟨nothing, same⟩ := settles c own
  · have saved := went.saved
    have there : k.id = c.intakeId := by rw [went.touched.id_eq, own i' went.loaded]
    split
    next here =>
      have read := went.loaded
      rw [here, loaded] at read
      cases read
      have self := saved.load_self
      rw [there, here] at self
      exact ⟨k, self, .inl went.touched⟩
    next elsewhere =>
      have kept : (s.call c).load id = .ok i := by
        rw [saved.load_other (there ▸ Ne.symm elsewhere), loaded]
      exact ⟨i, kept, .inr ⟨rfl, rfl⟩⟩
  · rw [same, nothing, ite_self]
    exact ⟨i, loaded, .inr ⟨rfl, rfl⟩⟩

/-- What holds of a request at first, and still holds after each thing that is done to it, holds of
it after all calls. -/
theorem calls_related {R : List Enactment → Intake → Prop} {i : Intake} (start : R [] i)
    (cs : List Call)
    (step : ∀ c ∈ cs, ∀ {s : Store} {es : List Enactment} {j k : Intake} {e? : Option Enactment},
      Touched s j c e? k → R es j → R (es ++ e?.toList) k)
    (loaded : s.load id = .ok i) (named : ∀ c ∈ cs, s.NamedAt c.intakeId) :
    ∃ k, (s.calls cs).load id = .ok k ∧ R (s.enactments id cs) k := by
  suffices general : ∀ es, R es i → ∃ k, (s.calls cs).load id = .ok k ∧
      R (es ++ s.enactments id cs) k from general [] start
  clear start
  induction cs generalizing s i with
  | nil =>
    intro es h
    refine ⟨i, loaded, ?_⟩
    rw [enactments, List.append_nil]
    exact h
  | cons c cs ih =>
    intro es h
    have own := named c List.mem_cons_self
    have rest : ∀ c' ∈ cs, (s.call c).NamedAt c'.intakeId := fun c' hc' =>
      namedAt_call own (named c' (List.mem_cons_of_mem c hc'))
    obtain ⟨j, here, touched⟩ := load_call own loaded
    have next : R (es ++ (s.enactmentOn? id c).toList) j := by
      obtain touched | ⟨rfl, nothing⟩ := touched
      · exact step c List.mem_cons_self touched h
      · rw [nothing, Option.toList_none, List.append_nil]
        exact h
    obtain ⟨k, there, all⟩ :=
      ih (fun c' hc' => step c' (List.mem_cons_of_mem c hc')) here rest _ next
    refine ⟨k, there, ?_⟩
    rw [enactments, ← List.append_assoc]
    exact all

end Store

end GovernanceDesk
