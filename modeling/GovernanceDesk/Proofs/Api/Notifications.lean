import GovernanceDesk.Proofs.Api.Growing
import GovernanceDesk.Proofs.Api.Watching
import GovernanceDesk.Proofs.Cli.Growing

/-!
# What a listener is told

While a client listens, requests are answered, commands are given next to the server, and the
watcher looks at the files. Whenever the client takes what waits for it, it gets one frame for each
thing there was to tell since it did so last, up to the room there is.

* `Happening`, `Course`: what can happen, and the server in the course of it.
* `Course.Tells`, `Course.tallies`: what there is to tell, and how much of it up to each drain.
* `Course.drained`: the frames that a listener takes.
* `Course.Sound`: what holds at every time. `Course.sent_after`: what one happening sends.
* `Course.drained_complete`: the frames are those that the tallies say, and no change of a manifest
  goes untold.
-/

namespace GovernanceDesk
set_option autoImplicit false

inductive Happening where
  | request (m : Moment) (r : ApiRequest)
  | command (m : Moment) (around : Cli.Surroundings) (args : List String)
  /-- The watcher looks at the files. -/
  | poll
  /-- The listener takes what waits for it. -/
  | drain

/-- The server at some time, and the store as it was when the watcher looked last, if it did. -/
structure Course where
  server : Server
  polled : Option Store

namespace Course

def start (s : Store) : Course := ⟨.start s, none⟩

/-! ## What happens -/

def after (c : Course) : Happening → Course
  | .request m r => { c with server := (c.server.answer m r).2 }
  | .command m around args =>
    { c with server := { c.server with store := (Cli.run c.server.store m around args).2 } }
  | .poll => ⟨c.server.watch, some c.server.store⟩
  | .drain => c

def run (c : Course) (hs : List Happening) : Course :=
  hs.foldl after c

/-- What a listener gets at each drain. -/
def drained (c : Course) (l : Listener) : List Happening → List (List String)
  | [] => []
  | .drain :: hs => l.frames c.server.updates :: c.drained (.start c.server.updates) hs
  | h :: hs => (c.after h).drained l hs

/-! ## What there is to tell -/

/-- A post was answered with 200, or some manifest was found written since the last poll. -/
def Tells (c : Course) : Happening → Prop
  | .request m r => r.method = "POST" ∧ (c.server.answer m r).1.status = 200
  | .poll => c.server.store.WroteManifestSince c.polled
  | .command .. | .drain => False

instance (c : Course) (h : Happening) : Decidable (c.Tells h) :=
  match h with
  | .request .. => inferInstanceAs (Decidable (_ ∧ _))
  | .poll => inferInstanceAs (Decidable (c.server.store.WroteManifestSince c.polled))
  | .command .. | .drain => inferInstanceAs (Decidable False)

/-- How much there was to tell up to each drain since the one before, if there are `due` already. -/
def tallies (c : Course) (due : Nat) : List Happening → List Nat
  | [] => []
  | .drain :: hs => due :: c.tallies 0 hs
  | h :: hs => (c.after h).tallies (due + if c.Tells h then 1 else 0) hs

/-! ## At every time -/

variable {c : Course} {s : Store}

/-- The watcher is up to date with its last look, and the files only grew since then. -/
def Sound (c : Course) : Prop :=
  c.server.watcher.Follows c.polled c.server.store

theorem sound_start (s : Store) : (start s).Sound :=
  Watcher.follows_start s

theorem grown_after (c : Course) (h : Happening) :
    c.server.store.Grown (c.after h).server.store := by
  cases h with
  | request m r => exact (c.server.grown_answer m r).store
  | command m around args => exact Cli.grown_run c.server.store m around args
  | poll => exact .refl _
  | drain => exact .refl _

theorem grown_run (c : Course) (hs : List Happening) :
    c.server.store.Grown (c.run hs).server.store := by
  induction hs generalizing c with
  | nil => exact .refl _
  | cons h hs ih => exact (c.grown_after h).trans (ih (c.after h))

theorem Sound.after (sound : c.Sound) (h : Happening) : (c.after h).Sound := by
  have grown := c.grown_after h
  cases h with
  | request m r =>
    rw [Sound, Course.after, (c.server.grown_answer m r).watcher]
    exact Watcher.Follows.grown sound grown
  | command m around args => exact Watcher.Follows.grown sound grown
  | poll => exact Watcher.Follows.look sound
  | drain => exact sound

theorem Sound.run (sound : c.Sound) (hs : List Happening) : (c.run hs).Sound := by
  induction hs generalizing c with
  | nil => exact sound
  | cons h hs ih => exact ih (sound.after h)

/-- One update is sent when there is something to tell, and none otherwise. -/
theorem Sound.sent_after (sound : c.Sound) (h : Happening) :
    (c.after h).server.updates.sent =
      c.server.updates.sent + if c.Tells h then 1 else 0 := by
  cases h with
  | request m r => exact c.server.sent_answer m r
  | poll =>
    change (if c.server.watcher.notices c.server.store then c.server.updates.send
      else c.server.updates).sent = _
    by_cases written : c.server.store.WroteManifestSince c.polled
    · rw [if_pos (sound.notices_iff.2 written), if_pos (show c.Tells .poll from written)]
      rfl
    · rw [if_neg (mt sound.notices_iff.1 written), if_neg (show ¬ c.Tells .poll from written)]
      rfl
  | command | drain => rfl

/-! ## What is told -/

/-- A listener that has passed on all but the `due` last updates gets what the tallies say. -/
theorem Sound.drained_eq (sound : c.Sound) (l : Listener) (due : Nat)
    (level : c.server.updates.sent = l.passed + due) (hs : List Happening) :
    c.drained l hs = (c.tallies due hs).map fun k => List.replicate (min 64 k) Updates.frame := by
  induction hs generalizing c l due with
  | nil => rfl
  | cons h hs ih =>
    have next : (c.after h).server.updates.sent =
        l.passed + (due + if c.Tells h then 1 else 0) := by
      rw [sound.sent_after h, level, Nat.add_assoc]
    have later := ih (sound.after h) l _ next
    cases h with
    | drain =>
      have waiting : l.waiting c.server.updates = min 64 due := by
        rw [Listener.waiting, level, Nat.add_sub_cancel_left, Nat.min_comm]
        rfl
      rw [drained, tallies, List.map_cons, Listener.frames, waiting]
      exact congrArg _ (ih sound (.start c.server.updates) 0 rfl)
    | request | command | poll => exact later

/-- The tallies of a longer course end with those of its later part. -/
theorem exists_tallies_append (c : Course) (due : Nat) (hs hs' : List Happening) :
    ∃ front due', c.tallies due (hs ++ hs') = front ++ (c.run hs).tallies due' hs' := by
  induction hs generalizing c due with
  | nil => exact ⟨[], due, rfl⟩
  | cons h hs ih =>
    cases h with
    | drain =>
      obtain ⟨front, due', rest⟩ := ih c 0
      exact ⟨due :: front, due', congrArg (due :: ·) rest⟩
    | request | command | poll => exact ih _ _

theorem tallies_of_tells {h : Happening} (tells : c.Tells h) (due : Nat) (hs : List Happening) :
    c.tallies due (h :: hs) = (c.after h).tallies (due + 1) hs := by
  cases h with
  | request | poll => simp only [tallies, if_pos tells]
  | command | drain => exact tells.elim

/-- Nothing that is due is lost before the next drain. -/
theorem exists_tallies_drain {hs : List Happening} (undrained : .drain ∉ hs) (c : Course)
    (due : Nat) : ∃ k, due ≤ k ∧ c.tallies due (hs ++ [.drain]) = [k] := by
  induction hs generalizing c due with
  | nil => exact ⟨due, Nat.le_refl due, rfl⟩
  | cons h hs ih =>
    rw [List.mem_cons, not_or] at undrained
    obtain ⟨k, most, last⟩ := ih undrained.2 (c.after h) (due + if c.Tells h then 1 else 0)
    refine ⟨k, Nat.le_trans (Nat.le_add_right ..) most, ?_⟩
    cases h with
    | drain => exact absurd rfl undrained.1
    | request | command | poll => exact last

theorem polled_run {hs : List Happening} (unpolled : .poll ∉ hs) (c : Course) :
    (c.run hs).polled = c.polled := by
  induction hs generalizing c with
  | nil => rfl
  | cons h hs ih =>
    rw [List.mem_cons, not_or] at unpolled
    refine (ih unpolled.2 (c.after h)).trans ?_
    cases h with
    | poll => exact absurd rfl unpolled.1
    | request | command | drain => rfl

/-- What was written before a poll is there to be told at that poll. -/
theorem Sound.tells_poll (sound : c.Sound) {h : Happening} {quiet : List Happening}
    (written : (c.after h).server.store.WroteManifestSince (some c.server.store))
    (unpolled : .poll ∉ quiet) : (c.run (h :: quiet)).Tells .poll := by
  have same : (c.run (h :: quiet)).polled = c.polled := by
    refine (polled_run unpolled (c.after h)).trans ?_
    cases h with
    | poll =>
      obtain ⟨_, _, differs⟩ := written
      exact absurd rfl differs
    | request | command | drain => rfl
  have later := (c.after h).grown_run quiet
  change (c.run (h :: quiet)).server.store.WroteManifestSince (c.run (h :: quiet)).polled
  rw [same]
  cases polled : c.polled with
  | none =>
    obtain ⟨id, there, -⟩ := written
    exact Store.wroteManifestSince_none_iff.2 ⟨id, later.isSome_manifestTime? there⟩
  | some p =>
    exact written.widen (sound.before p polled) (c.grown_after h) later

/-- From the time at which a client starts to listen, each drain gives it one frame, up to
sixty-four, for each post answered with 200 and for each poll that found a manifest written since
the poll before, or found any manifest as the first to do so. A change of a manifest, whoever made
it, is told at the first drain after the next poll. -/
theorem drained_complete (s : Store) (before hs : List Happening) :
    let c := (start s).run before
    let drained := c.drained (.start c.server.updates) hs
    drained = (c.tallies 0 hs).map (fun k => List.replicate (min 64 k) Updates.frame) ∧
    ∀ earlier h quiet rest, hs = earlier ++ h :: (quiet ++ .poll :: (rest ++ [.drain])) →
      ((c.run earlier).after h).server.store.WroteManifestSince
        (some (c.run earlier).server.store) →
      .poll ∉ quiet → .drain ∉ rest →
      ∃ frames, drained.getLast? = some frames ∧ frames ≠ [] := by
  intro c drained
  have sound : c.Sound := (sound_start s).run before
  have told := sound.drained_eq (.start c.server.updates) 0 rfl hs
  refine ⟨told, ?_⟩
  rintro earlier h quiet rest split written unpolled undrained
  -- The poll counts, and what is due at the drain after it is all that counted since.
  have tells := (sound.run earlier).tells_poll written unpolled
  obtain ⟨front, due, tail⟩ := exists_tallies_append c 0 (earlier ++ h :: quiet)
    (.poll :: (rest ++ [.drain]))
  have here : c.run (earlier ++ h :: quiet) = (c.run earlier).run (h :: quiet) :=
    List.foldl_append
  obtain ⟨k, most, last⟩ := exists_tallies_drain undrained
    (((c.run earlier).run (h :: quiet)).after .poll) (due + 1)
  rw [here, tallies_of_tells tells, last, List.append_assoc, List.cons_append, ← split] at tail
  refine ⟨List.replicate (min 64 k) Updates.frame, ?_, ?_⟩
  · rw [show drained = _ from told, tail, List.map_append]
    exact List.getLast?_concat
  · rw [ne_eq, List.replicate_eq_nil_iff]
    omega

/-! ### Two requests on a new desk -/

/-- A server that is started where no desk is set up, among no files at all. -/
def unmadeDesk : Store := ⟨∅, ["desk"], 0⟩

def typed (args : List String) : Happening :=
  .command ⟨Store.noon, fun n => "r" ++ toString n⟩ ⟨["desk"], none⟩ args

/-- The desk is set up, and the watcher finds no manifest yet. -/
def settingUp : List Happening := [typed ["init"], .poll]

/-- A new request that is posted, told of once for the post and once for its manifest. -/
def posting : List Happening :=
  [.request ⟨Store.noon, fun n => "r" ++ toString n⟩
    { method := "POST"
      address := "/api/intakes"
      mediaType := some "application/json"
      body := "\x7b\"request_name\": \"Data platform\", \"requester\": " ++
        "\x7b\"name\": \"Ada\", \"email\": \"ada@example.gov\"\x7d\x7d" },
    .poll, .drain]

def typing : Happening :=
  typed ["intake", "create", "Data portal", "--requester", "Bo", "--email", "bo@example.gov"]

theorem drained_complete_two_requests :
    let c := (start unmadeDesk).run settingUp
    let drained := c.drained (.start c.server.updates) (posting ++ [typing, .poll, .drain])
    drained = [[Updates.frame, Updates.frame], [Updates.frame]] ∧
    ((c.run posting).after typing).server.store.WroteManifestSince
      (some (c.run posting).server.store) ∧
    ∃ frames, drained.getLast? = some frames ∧ frames ≠ [] := by
  obtain ⟨told, changes⟩ := drained_complete unmadeDesk settingUp
    (posting ++ [typing, .poll, .drain])
  have tallied : ((start unmadeDesk).run settingUp).tallies 0
      (posting ++ [typing, .poll, .drain]) = [2, 1] := by decide +kernel
  have written : ((((start unmadeDesk).run settingUp).run posting).after
      typing).server.store.WroteManifestSince
        (some (((start unmadeDesk).run settingUp).run posting).server.store) := by decide +kernel
  refine ⟨?_, written,
    changes posting typing [] [] rfl written List.not_mem_nil List.not_mem_nil⟩
  rw [told, tallied]
  rfl

end Course

end GovernanceDesk
