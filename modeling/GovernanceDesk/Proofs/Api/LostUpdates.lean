import GovernanceDesk.Proofs.Api.Answers
import GovernanceDesk.Proofs.Api.Interleaving
import GovernanceDesk.Proofs.Feedback.Shown
import GovernanceDesk.Proofs.Store.FeedbackGrowth
import GovernanceDesk.Proofs.Store.History

/-!
# Updates lost between two saves

Feedback and history that were acknowledged stay in the desk whatever is handled at the same time,
with one exception: the making of a new request saves what it has in memory, and in memory there is
no feedback and no history. Done after an update of the same request was acknowledged, that save
wipes it out.

* `Store.Keeps`: everything acknowledged is in the request it was acknowledged for.
* `Store.Wrote`, `Server.wrote_proceed`: what one step of a handling writes.
* `Traffic.keeps_iff`: acknowledged updates are kept just as long as no such save comes after one.
-/

namespace GovernanceDesk
set_option autoImplicit false

/-! ## Windows -/

theorem rtake_suffix_rtake {α : Type} {xs ys : List α} (h : xs <:+ ys) (n : Nat) :
    xs.rtake n <:+ ys.rtake n := by
  refine List.suffix_of_suffix_length_le ((List.drop_suffix ..).trans h) (List.drop_suffix ..) ?_
  have shorter := h.length_le
  rw [List.rtake, List.rtake, List.length_drop, List.length_drop]
  omega

/-- A window that lies at the end of a list still does after both have moved on. -/
theorem rtake_concat_suffix {α : Type} {xs ys : List α} {n : Nat} (h : xs.rtake n <:+ ys) (x : α) :
    (xs ++ [x]).rtake n <:+ (ys ++ [x]).rtake n := by
  rw [← Enactment.rtake_rtake_append]
  exact rtake_suffix_rtake (List.suffix_append_self_iff.2 h) n

/-! ## What is kept -/

namespace Receipt

/-- A request that has everything that was acknowledged for it: all feedback, and of the history the
last entries, as many as it keeps. -/
structure KeptBy (receipts : List Receipt) (id : String) (i : Intake) : Prop where
  feedback : ∀ f, .feedback id f ∈ receipts → f ∈ i.feedback
  history : (actionsOn id receipts).rtake historyLimit <:+ i.history

variable {receipts : List Receipt} {id : String} {i k : Intake}

theorem actionsOn_eq_nil (none : ∀ r ∈ receipts, r.intakeId ≠ id) : actionsOn id receipts = [] := by
  refine List.filterMap_eq_nil_iff.2 fun r mem => ?_
  have elsewhere := none r mem
  cases r with
  | feedback => rfl
  | action id' a => exact if_neg elsewhere

theorem keptBy_of_none (none : ∀ r ∈ receipts, r.intakeId ≠ id) (i : Intake) :
    KeptBy receipts id i where
  feedback f mem := absurd rfl (none _ mem)
  history := by
    rw [actionsOn_eq_nil none, List.rtake_nil]
    exact List.nil_suffix

theorem actionsOn_concat (receipts : List Receipt) (r : Receipt) :
    actionsOn id (receipts ++ [r]) = actionsOn id receipts ++ actionsOn id [r] :=
  List.filterMap_append

theorem KeptBy.concat_other (h : KeptBy receipts id i) {r : Receipt} (other : r.intakeId ≠ id) :
    KeptBy (receipts ++ [r]) id i where
  feedback f mem := by
    rcases List.mem_append.1 mem with before | new
    · exact h.feedback f before
    · exact absurd (congrArg intakeId (List.mem_singleton.1 new)).symm other
  history := by
    have none : actionsOn id [r] = [] :=
      actionsOn_eq_nil fun r' mem => List.mem_singleton.1 mem ▸ other
    rw [actionsOn_concat, none, List.append_nil]
    exact h.history

theorem KeptBy.concat_feedback (h : KeptBy receipts id i) {f : Feedback} (added : f ∈ k.feedback)
    (grown : i.feedback <+: k.feedback) (history : k.history = i.history) :
    KeptBy (receipts ++ [.feedback id f]) id k where
  feedback f' mem := by
    rcases List.mem_append.1 mem with before | new
    · exact grown.subset (h.feedback f' before)
    · cases List.mem_singleton.1 new
      exact added
  history := by
    have none : actionsOn id [.feedback id f] = [] := rfl
    rw [actionsOn_concat, none, List.append_nil, history]
    exact h.history

theorem KeptBy.concat_action (h : KeptBy receipts id i) {a : ActionRecord}
    (grown : i.feedback <+: k.feedback)
    (history : k.history = (i.history ++ [a]).rtake historyLimit) :
    KeptBy (receipts ++ [.action id a]) id k where
  feedback f mem := by
    rcases List.mem_append.1 mem with before | new
    · exact grown.subset (h.feedback f before)
    · cases List.mem_singleton.1 new
  history := by
    have one : actionsOn id [.action id a] = [a] := by simp [actionsOn]
    rw [actionsOn_concat, one, history]
    exact rtake_concat_suffix h.history a

/-- Where nothing is left, nothing that was acknowledged is kept. -/
theorem not_keptBy_of_blank {r : Receipt} (mem : r ∈ receipts) (feedback : i.feedback = [])
    (history : i.history = []) : ¬ KeptBy receipts r.intakeId i := by
  intro kept
  cases r with
  | feedback id f =>
    have found := kept.feedback f mem
    rw [feedback] at found
    exact List.not_mem_nil found
  | action id a =>
    have window : (actionsOn id receipts).rtake historyLimit <:+ i.history := kept.history
    rw [history, List.suffix_nil] at window
    have found : a ∈ actionsOn id receipts :=
      List.mem_filterMap.2 ⟨_, mem, if_pos rfl⟩
    have some : 0 < (actionsOn id receipts).length := List.length_pos_of_mem found
    have length := congrArg List.length window
    rw [List.rtake, List.length_drop, List.length_nil, historyLimit] at length
    omega

end Receipt

namespace Store

/-- Everything acknowledged is in the request that it was acknowledged for. -/
def Keeps (s : Store) (receipts : List Receipt) : Prop :=
  ∀ r ∈ receipts, ∃ i, s.load r.intakeId = .ok i ∧ Receipt.KeptBy receipts r.intakeId i

variable {s s' : Store} {receipts : List Receipt} {id : String} {i k : Intake}

theorem Keeps.keptBy (keeps : s.Keeps receipts) (loaded : s.load id = .ok i) :
    Receipt.KeptBy receipts id i := by
  by_cases some : ∃ r ∈ receipts, r.intakeId = id
  · obtain ⟨r, mem, rfl⟩ := some
    obtain ⟨i', loaded', kept⟩ := keeps r mem
    cases loaded.symm.trans loaded'
    exact kept
  · exact Receipt.keptBy_of_none (fun r mem same => some ⟨r, mem, same⟩) i

/-! ## What one step writes -/

/-- A request was written, and every other is read as before. -/
structure Holds (s : Store) (i : Intake) (s' : Store) : Prop where
  self : s'.load i.id = .ok i
  others : ∀ id, id ≠ i.id → s'.load id = s.load id

theorem Saved.holds (h : Saved s i s') : Holds s i s' :=
  ⟨h.load_self, fun _ ne => h.load_other ne⟩

theorem Holds.wellNamed (h : Holds s i s') (named : s.WellNamed) : s'.WellNamed := by
  intro id j loaded
  by_cases same : id = i.id
  · rw [same, h.self] at loaded
    cases loaded
    exact same.symm
  · rw [h.others _ same] at loaded
    exact named id j loaded

/-- One step of a handling: nothing is written; or a new request is, as it is in memory; or a
request that was read is written back with what is acknowledged. -/
inductive Wrote (s : Store) : Option String → Option Receipt → Store → Prop where
  | nothing {s' : Store} (same : ∀ id, s'.load id = s.load id) : Wrote s none none s'
  | newborn {s' : Store} (i : Intake) (feedback : i.feedback = []) (history : i.history = [])
      (holds : Holds s i s') : Wrote s (some i.id) none s'
  | feedback {s' : Store} (i k : Intake) (f : Feedback) (loaded : s.load k.id = .ok i)
      (holds : Holds s k s') (added : f ∈ k.feedback) (grown : i.feedback <+: k.feedback)
      (history : k.history = i.history) : Wrote s none (some (.feedback k.id f)) s'
  | action {s' : Store} (i k : Intake) (a : ActionRecord) (loaded : s.load k.id = .ok i)
      (holds : Holds s k s') (grown : i.feedback <+: k.feedback)
      (history : k.history = (i.history ++ [a]).rtake historyLimit) :
    Wrote s none (some (.action k.id a)) s'

/-- What is kept stays kept when a request is written back with one more receipt. -/
theorem Keeps.concat (keeps : s.Keeps receipts) {r : Receipt} (holds : Holds s k s')
    (target : r.intakeId = k.id) (kept : Receipt.KeptBy (receipts ++ [r]) k.id k) :
    s'.Keeps (receipts ++ [r]) := by
  have here : s'.load k.id = .ok k ∧ Receipt.KeptBy (receipts ++ [r]) k.id k := ⟨holds.self, kept⟩
  intro r' mem
  by_cases same : r'.intakeId = k.id
  · rw [same]
    exact ⟨k, here⟩
  · rcases List.mem_append.1 mem with before | new
    · obtain ⟨i, loaded, kept⟩ := keeps r' before
      refine ⟨i, (holds.others _ same).trans loaded, kept.concat_other ?_⟩
      rw [target]
      exact Ne.symm same
    · rw [List.mem_singleton.1 new] at same
      exact absurd target same

theorem Keeps.wrote (keeps : s.Keeps receipts) {made : Option String} {r? : Option Receipt}
    (wrote : Wrote s made r? s') (clear : ∀ id, made = some id → ∀ r ∈ receipts, r.intakeId ≠ id) :
    s'.Keeps (receipts ++ r?.toList) := by
  cases wrote with
  | nothing same =>
    rw [Option.toList_none, List.append_nil]
    intro r mem
    rw [same]
    exact keeps r mem
  | newborn i _ _ holds =>
    rw [Option.toList_none, List.append_nil]
    intro r mem
    rw [holds.others _ (clear i.id rfl r mem)]
    exact keeps r mem
  | feedback i k f loaded holds added grown history =>
    exact keeps.concat holds rfl ((keeps.keptBy loaded).concat_feedback added grown history)
  | action i k a loaded holds grown history =>
    exact keeps.concat holds rfl ((keeps.keptBy loaded).concat_action grown history)

/-- A new request that is written from memory over one with receipts keeps none of them. -/
theorem not_keeps_of_wrote {r? : Option Receipt} (wrote : Wrote s (some id) r? s') {r : Receipt}
    (mem : r ∈ receipts) (target : r.intakeId = id) : ¬ s'.Keeps (receipts ++ r?.toList) := by
  cases wrote with
  | newborn i feedback history holds =>
    rw [Option.toList_none, List.append_nil]
    intro keeps
    obtain ⟨i', loaded, kept⟩ := keeps r mem
    rw [target, holds.self] at loaded
    cases loaded
    exact Receipt.not_keptBy_of_blank mem feedback history kept

end Store

/-! ## Receipts in answers -/

theorem Receipt.body?_of_refusal {reply : Reply} (refusal : reply.status ∈ Reply.refusals) :
    Receipt.body? reply = none := by
  unfold Receipt.body?
  split
  · exact absurd rfl (Reply.status_ne_of_mem_refusals refusal)
  · rfl

theorem Receipt.of?_of_refusal {reply : Reply} (refusal : reply.status ∈ Reply.refusals)
    (now : Instant) (p : Post) : Receipt.of? now reply p = none := by
  have nothing := Receipt.body?_of_refusal refusal
  cases p with
  | intake => rfl
  | feedback | action =>
    rw [Receipt.of?, nothing]
    rfl

theorem Receipt.of?_ofFailure (e : Failure) (now : Instant) (p : Post) :
    Receipt.of? now (.ofFailure e) p = none := by
  have refusal : (Reply.ofFailure e).status ∈ Reply.refusals := e.status_mem_refusals
  exact Receipt.of?_of_refusal refusal now p

theorem Receipt.of?_recordView {i : Intake} {feedbackId : String}
    (there : ∃ f ∈ i.feedback, f.id = feedbackId) (now : Instant) (id : String) (b : NewFeedback) :
    ∃ f ∈ i.feedback, Receipt.of? now (.ok (Server.recordView i feedbackId)) (.feedback id b) =
      some (.feedback id f) := by
  obtain ⟨f, mem, same⟩ := there
  have found : (i.feedback.find? fun f => f.id == feedbackId).isSome = true :=
    List.find?_isSome.2 ⟨f, mem, beq_iff_eq.2 same⟩
  obtain ⟨shown, found⟩ := Option.isSome_iff_exists.1 found
  refine ⟨shown, List.mem_of_find?_eq_some found, ?_⟩
  change ((some (Server.recordView i feedbackId)).bind decode).map (Receipt.feedback id) = _
  rw [Server.recordView, found, Option.bind_some, Feedback.decode_view, Option.map_some]

theorem Receipt.of?_doneView (m : Mutation) (flash : Option Flash) (redirect : Option String)
    (now : Instant) (id kind : String) (b : Submission) :
    Receipt.of? now (.ok (Server.doneView m flash redirect)) (.action id kind b) =
      some (.action id (.ofMutation m.operation.action m now)) := by
  simp [Receipt.of?, Receipt.body?, Reply.ok, Server.doneView, Tree.fields?, Entries.need_eq]

/-! ## One step -/

/-- The request that a step of a handling saves as it is in memory. -/
def Server.saved? (server : Server) (m : Moment) : Handling → Option String
  | .waiting (.intake b) =>
    match b.checked with
    | .ok name => (server.store.create m name b.requester).1.toOption.map Intake.id
    | .error _ => none
  | .half i => if (server.store.save i).isOk then some i.id else none
  | _ => none

/-- In memory a new request has no feedback and no history. -/
def Handling.Blank : Handling → Prop
  | half i => i.feedback = [] ∧ i.history = []
  | _ => True

namespace Server

open Store (Wrote)

variable {server : Server} {m : Moment}

theorem wrote_beginIntake (b : NewIntake) :
    Wrote server.store (server.saved? m (.waiting (.intake b)))
        (Receipt.ofStep? m.now (.waiting (.intake b)) (server.beginIntake m b).1)
        (server.beginIntake m b).2.store ∧
      (server.beginIntake m b).1.Blank := by
  rw [saved?, beginIntake]
  cases b.checked with
  | error e => exact ⟨.nothing fun _ => rfl, trivial⟩
  | ok name =>
    dsimp only
    obtain ⟨s', created, saved⟩ | ⟨e, handedOut, failed⟩ :=
      server.store.create_cases m name b.requester
    · rw [created]
      have holds : Store.Holds server.store
          (.opened (m.idOf (server.store.handedOut + 1)) name b.requester m.now) s' :=
        ⟨saved.holds.self, saved.holds.others⟩
      cases b.contacts.isEmpty with
      | true => exact ⟨.newborn _ rfl rfl holds, trivial⟩
      | false => exact ⟨.newborn _ rfl rfl holds, rfl, rfl⟩
    · rw [failed]
      exact ⟨.nothing fun _ => rfl, trivial⟩

theorem wrote_endIntake {i : Intake} (blank : (Handling.half i).Blank) :
    Wrote server.store (server.saved? m (.half i)) none (server.endIntake i).2.store := by
  rw [saved?, endIntake]
  cases again : server.store.save i with
  | error e => exact .nothing fun _ => rfl
  | ok s' => exact .newborn i blank.1 blank.2 (Store.saved_of_save again).holds

/-- What a result holds was written, and nothing where there is none. -/
theorem wrote_finish {answer : Reply × Server} {result : Except Failure (Tree × Store)} {p : Post}
    (h : answer = server.finish result)
    (written : ∀ view s', result = .ok (view, s') →
      Wrote server.store none (Receipt.of? m.now (.ok view) p) s') :
    Wrote server.store none (Receipt.of? m.now answer.1 p) answer.2.store := by
  rw [h]
  cases result with
  | ok found => exact written found.1 found.2 rfl
  | error e =>
    rw [finish, Receipt.of?_ofFailure]
    exact .nothing fun _ => rfl

theorem wrote_addFeedback (named : server.store.WellNamed) (id : String) (b : NewFeedback) :
    Wrote server.store none (Receipt.of? m.now (server.addFeedback m id b).1 (.feedback id b))
      (server.addFeedback m id b).2.store := by
  refine wrote_finish rfl fun view s' posted => ?_
  obtain ⟨⟨text, target, source⟩, -, rest⟩ := ok_of_bind_ok posted
  obtain ⟨⟨k, feedbackId, s''⟩, added, rest⟩ := ok_of_bind_ok rest
  cases rest
  obtain ⟨i, loaded, rest⟩ := ok_of_bind_ok added
  obtain ⟨saved, hs, rest⟩ := ok_of_bind_ok rest
  cases rest
  have own : (i.withFeedback target source text b.author m.now).id = id := named id i loaded
  have there : ∃ f ∈ (i.withFeedback target source text b.author m.now).feedback,
      f.id = Feedback.nextId i.feedback :=
    ⟨_, List.mem_concat_self, rfl⟩
  obtain ⟨f, mem, acknowledged⟩ := Receipt.of?_recordView there m.now id b
  rw [acknowledged, ← own]
  rw [← own] at loaded
  exact .feedback i _ f loaded (Store.saved_of_save hs).holds mem (List.prefix_append ..) rfl

theorem wrote_submit (named : server.store.WellNamed) (id kind : String) (b : Submission) :
    Wrote server.store none (Receipt.of? m.now (server.submit m id kind b).1 (.action id kind b))
      (server.submit m id kind b).2.store := by
  unfold submit
  split
  next e _ =>
    rw [Receipt.of?_ofFailure]
    exact .nothing fun _ => rfl
  next kind' _ =>
    dsimp only
    have ends := Store.ran server.store m.today m.now
      ⟨id, kind', b.values, b.recipients, b.button, b.confirmed⟩
    split
    next e s ended =>
      rw [ended] at ends
      cases ends
      rw [Receipt.of?_ofFailure]
      exact .nothing fun _ => rfl
    next run s ended =>
      rw [ended] at ends
      cases ends with
      | done ctx f mutation k s' flash redirect sent applied =>
        have completed := fun own => Store.completed_of_sent own sent applied
        obtain ⟨i, j, run⟩ := completed (named id)
        have loaded : server.store.load k.id = .ok i := by
          rw [run.id]
          exact run.loaded
        have acknowledged : Receipt.of? m.now (runReply (.done mutation flash redirect))
            (.action id kind b) =
              some (.action k.id (.ofMutation mutation.operation.action mutation m.now)) := by
          rw [run.id]
          exact Receipt.of?_doneView mutation flash redirect m.now id kind b
        rw [acknowledged, run.action]
        exact .action i k _ loaded run.saved.holds
          (run.applied.extended (Feedback.Extended.refl i.feedback)).kept run.applied.history_eq
      | without answer unfinished =>
        have undone : isDone run = false := by
          cases run with
          | done => exact nomatch unfinished
          | _ => rfl
        rw [Receipt.of?_of_refusal (status_runReply_of_not_done undone)]
        simp only [undone, Bool.false_eq_true, if_false]
        exact .nothing fun _ => rfl

/-- Whatever a handling is at, its next step is of one of the four kinds. -/
theorem wrote_proceed (named : server.store.WellNamed) {h : Handling} (blank : h.Blank) :
    Wrote server.store (server.saved? m h) (Receipt.ofStep? m.now h (server.proceed m h).1)
        (server.proceed m h).2.store ∧
      (server.proceed m h).1.Blank := by
  cases h with
  | waiting p =>
    cases p with
    | intake b =>
      rw [proceed]
      exact wrote_beginIntake b
    | feedback id b =>
      simp only [proceed, answeredWith, saved?, Receipt.ofStep?, Handling.Blank, and_true]
      exact wrote_addFeedback named id b
    | action id kind b =>
      simp only [proceed, answeredWith, saved?, Receipt.ofStep?, Handling.Blank, and_true]
      exact wrote_submit named id kind b
  | half i => exact ⟨wrote_endIntake blank, trivial⟩
  | answered reply => exact ⟨.nothing fun _ => rfl, trivial⟩

end Server

theorem Store.Wrote.wellNamed {s s' : Store} {made : Option String} {r? : Option Receipt}
    (wrote : Store.Wrote s made r? s') (named : s.WellNamed) : s'.WellNamed := by
  cases wrote with
  | nothing same =>
    intro id i loaded
    exact named id i ((same id).symm.trans loaded)
  | newborn i _ _ holds => exact holds.wellNamed named
  | feedback i k f _ holds => exact holds.wellNamed named
  | action i k a _ holds => exact holds.wellNamed named

/-! ## All steps -/

namespace Traffic

/-- A step that saves a request as it is in memory, after an update of it was acknowledged. -/
def Overwrites (t : Traffic) (u : Turn) : Prop :=
  ∃ h id, t.handlings[u.place]? = some h ∧ t.server.saved? u.moment h = some id ∧
    ∃ r ∈ t.receipts, r.intakeId = id

/-- What all steps keep: every request is under its id, and new ones in memory are blank. -/
structure Sound (t : Traffic) : Prop where
  named : t.server.store.WellNamed
  blank : ∀ h ∈ t.handlings, h.Blank

variable {t : Traffic} {u : Turn}

theorem sound_receiving {server : Server} (named : server.store.WellNamed) (posts : List Post) :
    (server.receiving posts).Sound where
  named := named
  blank h mem := by
    obtain ⟨p, -, rfl⟩ := List.mem_map.1 mem
    trivial

theorem turn_of_getElem? {h : Handling} (there : t.handlings[u.place]? = some h) :
    t.turn u = ⟨(t.server.proceed u.moment h).2,
      t.handlings.set u.place (t.server.proceed u.moment h).1,
      t.receipts ++ (Receipt.ofStep? u.moment.now h (t.server.proceed u.moment h).1).toList⟩ := by
  rw [turn, there]

theorem Sound.turn (sound : t.Sound) (u : Turn) : (t.turn u).Sound := by
  cases there : t.handlings[u.place]? with
  | none =>
    rw [Traffic.turn, there]
    exact sound
  | some h =>
    obtain ⟨wrote, blank⟩ := Server.wrote_proceed (m := u.moment) sound.named
      (sound.blank h (List.mem_of_getElem? there))
    rw [turn_of_getElem? there]
    refine ⟨wrote.wellNamed sound.named, fun h' mem => ?_⟩
    rcases List.mem_or_eq_of_mem_set mem with before | rfl
    · exact sound.blank h' before
    · exact blank

theorem Sound.turns (sound : t.Sound) (us : List Turn) : (t.turns us).Sound := by
  induction us generalizing t with
  | nil => exact sound
  | cons u us ih => exact ih (sound.turn u)

/-- One step keeps what was acknowledged exactly if it does not overwrite any of it. -/
theorem keeps_turn_iff (sound : t.Sound) (keeps : t.server.store.Keeps t.receipts) :
    (t.turn u).server.store.Keeps (t.turn u).receipts ↔ ¬ t.Overwrites u := by
  cases there : t.handlings[u.place]? with
  | none =>
    rw [Traffic.turn, there]
    refine iff_of_true keeps ?_
    rintro ⟨h, -, found, -⟩
    exact nomatch there.symm.trans found
  | some h =>
    obtain ⟨wrote, -⟩ := Server.wrote_proceed (m := u.moment) sound.named
      (sound.blank h (List.mem_of_getElem? there))
    rw [turn_of_getElem? there]
    constructor
    · rintro kept ⟨h', id, found, saved, r, mem, target⟩
      cases there.symm.trans found
      rw [saved] at wrote
      exact Store.not_keeps_of_wrote wrote mem target kept
    · intro clear
      refine keeps.wrote wrote fun id saved r mem target => ?_
      exact clear ⟨h, id, there, saved, r, mem, target⟩

/-- Of all posts that are handled at the same time, in any order of their steps, everything that was
acknowledged is in the desk at every moment, exactly if no handling of a new request saves it from
memory after an update of it was acknowledged. -/
theorem keeps_iff {server : Server} (named : server.store.WellNamed) (posts : List Post)
    (us : List Turn) :
    (∀ made, made <+: us →
      ((server.receiving posts).turns made).server.store.Keeps
        ((server.receiving posts).turns made).receipts) ↔
    ∀ made u, made ++ [u] <+: us → ¬ ((server.receiving posts).turns made).Overwrites u := by
  have sound : ∀ made, ((server.receiving posts).turns made).Sound :=
    (sound_receiving named posts).turns
  constructor
  · intro kept made u next
    have after := kept (made ++ [u]) next
    rw [turns_concat] at after
    exact (keeps_turn_iff (sound made) (kept made ((List.prefix_append ..).trans next))).1 after
  · intro clear made on
    induction made using List.reverseRecOn with
    | nil => exact fun r mem => absurd mem List.not_mem_nil
    | append_singleton made u ih =>
      rw [turns_concat]
      exact (keeps_turn_iff (sound made) (ih ((List.prefix_append ..).trans on))).2
        (clear made u on)

/-! ## Feedback between two saves -/

/-- A new request with a contact. -/
def newPlatform : NewIntake where
  requestName := "Data platform"
  requester := ⟨"Ada", "ada@example.gov", none⟩
  contacts := [⟨"Grace", "grace@example.gov", none⟩]

/-- The making of the request and feedback on it. -/
def crossingPosts : List Post :=
  [.intake newPlatform, .feedback "r1" ⟨"INTAKE_REQUEST", none, "Add a plan", none⟩]

/-- The request is saved, feedback is added to it, and the request is saved with its contact. -/
def crossingTurns : List Turn :=
  [⟨0, Store.firstMoment⟩, ⟨1, Store.firstMoment⟩, ⟨0, Store.firstMoment⟩]

/-- Both posts handled in these turns. -/
def crossing : Traffic :=
  ((Server.start .emptyDesk).receiving crossingPosts).turns crossingTurns

theorem not_keeps_crossing : ¬ crossing.server.store.Keeps crossing.receipts := by
  have acknowledged : crossing.receipts.any (fun r => r.intakeId == "r1") = true := by
    decide +kernel
  have blank : (crossing.server.store.load "r1").toOption.any
      (fun i => i.feedback.isEmpty && i.history.isEmpty) = true := by
    decide +kernel
  obtain ⟨r, mem, target⟩ := List.any_eq_true.1 acknowledged
  obtain ⟨i, loaded, nothing⟩ := Store.exists_load_of_any blank
  rw [Bool.and_eq_true, List.isEmpty_iff, List.isEmpty_iff] at nothing
  intro keeps
  have kept : Receipt.KeptBy crossing.receipts r.intakeId i := by
    rw [beq_iff_eq.1 target]
    exact keeps.keptBy loaded
  exact Receipt.not_keptBy_of_blank mem nothing.1 nothing.2 kept

theorem keeps_iff_crossing :
    Store.emptyDesk.WellNamed ∧ ∃ made u, made ++ [u] <+: crossingTurns ∧
      (((Server.start .emptyDesk).receiving crossingPosts).turns made).Overwrites u := by
  refine ⟨Store.wellNamed_emptyDesk, ?_⟩
  by_contra never
  have named : (Server.start .emptyDesk).store.WellNamed := Store.wellNamed_emptyDesk
  have kept := (keeps_iff named crossingPosts crossingTurns).2
    (fun made u next wipes => never ⟨made, u, next, wipes⟩) crossingTurns List.prefix_rfl
  exact not_keeps_crossing kept

/-- That all posts were answered with 200 does not mean that what was acknowledged is there. -/
theorem acknowledged_feedback_lost :
    ¬ ∀ (server : Server) (posts : List Post) (us : List Turn), server.store.WellNamed →
      (∀ h ∈ ((server.receiving posts).turns us).handlings, h.isOk = true) →
      ((server.receiving posts).turns us).server.store.Keeps
        ((server.receiving posts).turns us).receipts := by
  intro always
  have answered : crossing.handlings.all Handling.isOk = true := by
    decide +kernel
  have kept := always (.start .emptyDesk) crossingPosts crossingTurns Store.wellNamed_emptyDesk
    (List.all_eq_true.1 answered)
  exact not_keeps_crossing kept

end Traffic

end GovernanceDesk
