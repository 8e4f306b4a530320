import GovernanceDesk.Proofs.Store.Effects
import GovernanceDesk.Proofs.Store.Saving
import GovernanceDesk.Store.Apply
import Mathlib.Data.List.Forall2

/-!
# What the clock leaves in a request

The day of a run decides what it does; the time only ends up in the records that it writes. So the
same operation at two times leaves two requests that differ in nothing but those times.

* `Instant.Retimed`: two times, equal or read off two clocks.
* `Feedback.Retimed`, `ActionRecord.Retimed`, `Intake.Retimed`: records that differ in such times.
* `EndsAlike`: two computations that both fail for one reason or both succeed.
* `Store.applied_retimed`: a mutation at two times.
-/

namespace GovernanceDesk
set_option autoImplicit false

/-! ## Times -/

/-- The same time, or one pair of times that two clocks showed. -/
def Instant.Retimed (clocks : List (Instant × Instant)) (x y : Instant) : Prop :=
  x = y ∨ (x, y) ∈ clocks

variable {clocks wider : List (Instant × Instant)}

theorem Instant.Retimed.mono {x y : Instant} (h : x.Retimed clocks y) (sub : clocks ⊆ wider) :
    x.Retimed wider y :=
  h.imp_right fun mem => sub mem

/-! ## Records -/

inductive Feedback.Retimed (clocks : List (Instant × Instant)) (f : Feedback) : Feedback → Prop where
  | mk (createdAt : Instant) (time : f.createdAt.Retimed clocks createdAt) :
    Retimed clocks f { f with createdAt := createdAt }

inductive ActionRecord.Retimed (clocks : List (Instant × Instant)) (a : ActionRecord) :
    ActionRecord → Prop where
  | mk (createdAt : Instant) (time : a.createdAt.Retimed clocks createdAt) :
    Retimed clocks a { a with createdAt := createdAt }

/-- Two requests that are the same in everything but the times of their last change and in their
feedback and their history. -/
inductive Intake.Retimed (clocks : List (Instant × Instant)) (i : Intake) : Intake → Prop where
  | mk (feedback : List Feedback) (history : List ActionRecord) (updatedAt : Instant)
      (records : List.Forall₂ (Feedback.Retimed clocks) i.feedback feedback)
      (entries : List.Forall₂ (ActionRecord.Retimed clocks) i.history history)
      (time : i.updatedAt.Retimed clocks updatedAt) :
    Retimed clocks i { i with feedback := feedback, history := history, updatedAt := updatedAt }

theorem Feedback.Retimed.refl (f : Feedback) : f.Retimed clocks f :=
  .mk f.createdAt (.inl rfl)

theorem ActionRecord.Retimed.refl (a : ActionRecord) : a.Retimed clocks a :=
  .mk a.createdAt (.inl rfl)

theorem Feedback.Retimed.mono {f g : Feedback} (h : f.Retimed clocks g) (sub : clocks ⊆ wider) :
    f.Retimed wider g := by
  cases h with
  | mk createdAt time => exact .mk createdAt (time.mono sub)

theorem ActionRecord.Retimed.mono {a b : ActionRecord} (h : a.Retimed clocks b)
    (sub : clocks ⊆ wider) : a.Retimed wider b := by
  cases h with
  | mk createdAt time => exact .mk createdAt (time.mono sub)

/-- Ids are numbered on, whenever the records were made. -/
theorem Feedback.nextId_retimed {records others : List Feedback}
    (h : List.Forall₂ (Feedback.Retimed clocks) records others) : nextId others = nextId records := by
  have ids : others.filterMap (fun f => number? f.id) = records.filterMap fun f => number? f.id := by
    induction h with
    | nil => rfl
    | cons first _ ih =>
      cases first
      rw [List.filterMap_cons, List.filterMap_cons, ih]
  rw [nextId, lastNumber, ids, nextId, lastNumber]

/-! ## Requests -/

namespace Intake

variable {i k : Intake} {now later : Instant}

theorem latest_retimed {history others : List ActionRecord}
    (h : List.Forall₂ (ActionRecord.Retimed clocks) history others) :
    List.Forall₂ (ActionRecord.Retimed clocks) (latest history) (latest others) := by
  rw [latest, latest, h.length_eq]
  exact List.forall₂_drop _ h

namespace Retimed

theorem refl (i : Intake) : i.Retimed clocks i :=
  .mk i.feedback i.history i.updatedAt (List.forall₂_same.2 fun f _ => .refl f)
    (List.forall₂_same.2 fun a _ => .refl a) (.inl rfl)

theorem mono (h : i.Retimed clocks k) (sub : clocks ⊆ wider) : i.Retimed wider k := by
  cases h with
  | mk feedback history updatedAt records entries time =>
    exact .mk feedback history updatedAt (records.imp fun _ _ r => r.mono sub)
      (entries.imp fun _ _ r => r.mono sub) (time.mono sub)

theorem id_eq (h : i.Retimed clocks k) : k.id = i.id := by
  cases h
  rfl

theorem lcid_eq (h : i.Retimed clocks k) : k.lcid = i.lcid := by
  cases h
  rfl

variable (tick : now.Retimed clocks later)
include tick

theorem withStatus (h : i.Retimed clocks k) (stage : Stage) (status : Status) :
    (i.withStatus stage status now).Retimed clocks (k.withStatus stage status later) := by
  cases h with
  | mk feedback history _ records entries =>
    exact .mk feedback history later records entries tick

theorem withFeedback (h : i.Retimed clocks k) (target : FeedbackTarget) (source : FeedbackSource)
    (text : String) (author : Option String) :
    (i.withFeedback target source text author now).Retimed clocks
      (k.withFeedback target source text author later) := by
  cases h with
  | mk feedback history updatedAt records entries time =>
    refine .mk _ history updatedAt ?_ entries time
    rw [Intake.withFeedback, Feedback.append, Feedback.append, Feedback.nextId_retimed records]
    exact List.rel_append records (.cons (.mk later tick) .nil)

theorem withFeedbackIfAny (h : i.Retimed clocks k) (target : FeedbackTarget)
    (source : FeedbackSource) (text? : Option String) :
    (i.withFeedbackIfAny target source text? now).Retimed clocks
      (k.withFeedbackIfAny target source text? later) := by
  cases text? with
  | none => exact h
  | some text => exact withFeedback tick h target source text none

theorem withoutEditsRequest (h : i.Retimed clocks k) :
    (i.withoutEditsRequest now).Retimed clocks (k.withoutEditsRequest later) := by
  have same : k.editsRequested? = i.editsRequested? := by
    cases h
    rfl
  rw [Intake.withoutEditsRequest, Intake.withoutEditsRequest, same]
  split
  · exact withStatus tick h _ _
  · exact h

theorem recorded (h : i.Retimed clocks k) (kind : ActionKind) (m : Mutation) :
    (i.recorded kind m now).Retimed clocks (k.recorded kind m later) := by
  cases h with
  | mk feedback history updatedAt records entries time =>
    have added : List.Forall₂ (ActionRecord.Retimed clocks)
        (i.history ++ [ActionRecord.ofMutation kind m now])
        (history ++ [ActionRecord.ofMutation kind m later]) :=
      List.rel_append entries (.cons (.mk later tick) .nil)
    have kept := latest_retimed added
    rw [Intake.recorded, Intake.recorded]
    -- What the histories are is put aside; compared as they stand, both would be unfolded.
    generalize latest (history ++ [ActionRecord.ofMutation kind m later]) = after at kept ⊢
    generalize latest (i.history ++ [ActionRecord.ofMutation kind m now]) = before at kept ⊢
    exact .mk feedback after later records kept tick

end Retimed

end Intake

/-! ## Computations -/

/-- Both fail for the same reason, or both succeed with related values. -/
inductive EndsAlike {ε α β : Type} (R : α → β → Prop) : Except ε α → Except ε β → Prop where
  | failed (e : ε) : EndsAlike R (.error e) (.error e)
  | ended {a : α} {b : β} (related : R a b) : EndsAlike R (.ok a) (.ok b)

namespace EndsAlike

variable {ε α β γ δ : Type} {R : α → β → Prop} {S : γ → δ → Prop}

theorem refl {Q : α → α → Prop} (each : ∀ a, Q a a) (x : Except ε α) : EndsAlike Q x x := by
  cases x with
  | error e => exact .failed e
  | ok a => exact .ended (each a)

theorem of_error {e : ε} {y : Except ε β} (h : EndsAlike R (.error e) y) : y = .error e := by
  cases h
  rfl

theorem of_ok {a : α} {y : Except ε β} (h : EndsAlike R (.ok a) y) : ∃ b, y = .ok b ∧ R a b := by
  cases h with
  | ended related => exact ⟨_, rfl, related⟩

theorem bind {x : Except ε α} {y : Except ε β} {f : α → Except ε γ} {g : β → Except ε δ}
    (h : EndsAlike R x y) (rest : ∀ a b, R a b → EndsAlike S (f a) (g b)) :
    EndsAlike S (x >>= f) (y >>= g) := by
  cases h with
  | failed e => exact .failed e
  | ended related => exact rest _ _ related

end EndsAlike

/-! ## Operations -/

namespace Intake

variable {now later : Instant} {issue issue' : LcidDecision → Except Failure LcidRecord}

/-- Apart from an issue, an operation at two times does the same. -/
theorem withEffect_retimed (i : Intake) (name : String) {op : Operation} (today : Date)
    (tick : now.Retimed clocks later) (other : op.action ≠ .issueLcid) :
    EndsAlike (Intake.Retimed clocks) (i.withEffect name op today now issue)
      (i.withEffect name op today later issue') := by
  cases op with
  | issueLcid | confirmLcid => exact absurd rfl other
  | requestEdits target text =>
    refine .ended (Retimed.withFeedback tick ?_ _ _ _ _)
    exact .mk i.feedback i.history later (List.forall₂_same.2 fun f _ => .refl f)
      (List.forall₂_same.2 fun a _ => .refl a) tick
  | progressToNewStep newStep date feedback recommendations =>
    exact .ended (Retimed.withFeedbackIfAny tick
      (Retimed.withFeedbackIfAny tick (.refl _) _ _ _) _ _ _)
  | updateLcid | retireLcid | changeLcidRetirementDate | unretireLcid | expireLcid =>
    exact .refl Retimed.refl _
  | rejectIntake | markNotGovernance =>
    exact .ended (Retimed.withStatus tick (.refl _) _ _)
  | closeRequest | reopenRequest => exact .refl Retimed.refl _

end Intake

namespace Store

variable {s t : Store} {now later : Instant} {kind : ActionKind} {m : Mutation}

theorem configIfAny_congr (config : t.config = s.config) : t.configIfAny = s.configIfAny := by
  rw [configIfAny, config, configIfAny]

/-- A mutation that issues no life cycle ID, at two times and on two stores in which its request and
the configuration are the same. -/
theorem applied_retimed (load : t.load m.intakeId = s.load m.intakeId)
    (config : t.config = s.config) (other : m.operation.action ≠ .issueLcid) (today : Date)
    (tick : now.Retimed clocks later) :
    EndsAlike (Intake.Retimed clocks) (s.applied today now kind m)
      (t.applied today later kind m) := by
  rw [applied, applied, load, configIfAny_congr config]
  refine (EndsAlike.refl (Q := Eq) (fun _ => rfl) (s.load m.intakeId)).bind ?_
  rintro i _ rfl
  refine (EndsAlike.refl (Q := Eq) (fun _ => rfl) s.configIfAny).bind ?_
  rintro _ _ -
  refine (i.withEffect_retimed m.intakeId today tick other).bind fun j k changed => .ended ?_
  refine Intake.Retimed.recorded tick ?_ kind m
  split
  · exact changed
  · exact Intake.Retimed.withoutEditsRequest tick changed

end Store

/-! ## Stores -/

/-- The same entry, or two manifests of requests that differ in times. -/
inductive FileEntry.Retimed (clocks : List (Instant × Instant)) : FileEntry → FileEntry → Prop where
  | same (e : FileEntry) : Retimed clocks e e
  | manifest {i k : Intake} (related : i.Retimed clocks k) (m n : Nat) :
    Retimed clocks ⟨.file (.document (encode i)), m⟩ ⟨.file (.document (encode k)), n⟩

/-- Manifests are no folders, whatever the times in them. -/
theorem FileEntry.Retimed.isFolder_eq {e e' : FileEntry} (h : e.Retimed clocks e') :
    e'.isFolder = e.isFolder := by
  cases h with
  | same => rfl
  | manifest => simp only [isFolder]

namespace FileTree

variable {files files' : FileTree} {place other : Place} {i i' k k' : Intake}

/-- The same files and folders in the same order, but for the times in manifests and the times at
which these were written. -/
structure Retimed (clocks : List (Instant × Instant)) (files files' : FileTree) : Prop where
  entries : List.Forall₂ (fun e e' => e'.1 = e.1 ∧ e.2.Retimed clocks e'.2) files.entries
    files'.entries
  writes : files'.writes = files.writes

theorem Retimed.refl (files : FileTree) : files.Retimed clocks files where
  entries := List.forall₂_same.2 fun e _ => ⟨rfl, .same e.2⟩
  writes := rfl

theorem forall₂_replaceEntry {R : FileEntry → FileEntry → Prop} {e e' : FileEntry} (here : R e e')
    {entries entries' : List (Place × FileEntry)}
    (h : List.Forall₂ (fun e e' => e'.1 = e.1 ∧ R e.2 e'.2) entries entries') (place : Place) :
    List.Forall₂ (fun e e' => e'.1 = e.1 ∧ R e.2 e'.2) (replaceEntry place e entries)
      (replaceEntry place e' entries') := by
  induction h with
  | nil => exact .cons ⟨rfl, here⟩ .nil
  | cons first rest ih =>
    rw [replaceEntry, replaceEntry, first.1]
    split
    · exact .cons ⟨rfl, here⟩ rest
    · exact .cons first ih

theorem Retimed.isFolder_eq (h : files.Retimed clocks files') (place : Place) :
    files'.isFolder place = files.isFolder place := by
  obtain ⟨entries, -⟩ := h
  rw [isFolder, isFolder, find?, find?, findIn, findIn]
  split
  · rfl
  · generalize files.entries = before at entries ⊢
    generalize files'.entries = after at entries ⊢
    induction entries with
    | nil => rfl
    | @cons e e' _ _ first _ ih =>
      obtain ⟨key, entry⟩ := e
      obtain ⟨key', entry'⟩ := e'
      obtain ⟨same, related⟩ := first
      dsimp only at same related
      rw [lookup_cons_ite, lookup_cons_ite, same]
      split
      · exact related.isFolder_eq
      · exact ih

theorem Retimed.put (h : files.Retimed clocks files') (place : Place)
    (related : i.Retimed clocks k) :
    (files.put place (.file (.document (encode i)))).Retimed clocks
      (files'.put place (.file (.document (encode k)))) := by
  have alike : files'.Fits place ↔ files.Fits place := fits_congr h.isFolder_eq
  by_cases fits : files.Fits place
  · refine ⟨?_, ?_⟩
    · rw [entries_put fits, entries_put (alike.2 fits)]
      exact forall₂_replaceEntry (.manifest related _ _) h.entries place
    · rw [writes_put fits, writes_put (alike.2 fits), h.writes]
  · rw [put_of_not_fits fits, put_of_not_fits (mt alike.1 fits)]
    exact h

/-- Two replacements commute, one of a place that is there at least: none is added before the
other. -/
theorem replaceEntry_comm (ne : place ≠ other) (e e' : FileEntry)
    {entries : List (Place × FileEntry)} (there : (entries.lookup place).isSome = true) :
    replaceEntry place e (replaceEntry other e' entries) =
      replaceEntry other e' (replaceEntry place e entries) := by
  induction entries with
  | nil => exact nomatch there
  | cons first rest ih =>
    obtain ⟨key, old⟩ := first
    rw [lookup_cons_ite] at there
    by_cases here : key = place
    · subst here
      simp [replaceEntry, ne]
    · rw [if_neg fun same => here same.symm] at there
      by_cases next : key = other
      · subst next
        simp [replaceEntry, here]
      · simp [replaceEntry, here, next, ih there]

/-- Two manifests are written in either order, one over what is there. -/
theorem retimed_put_put (ne : place ≠ other) (there : files.isThere place = true)
    (first : i.Retimed clocks i') (second : k.Retimed clocks k') :
    ((files.put place (.file (.document (encode i)))).put other
        (.file (.document (encode k)))).Retimed clocks
      ((files.put other (.file (.document (encode k')))).put place
        (.file (.document (encode i')))) := by
  have same : files.Retimed clocks files := .refl files
  have alike (content : Content) :
      (files.put place (.file content)).Fits other ↔ files.Fits other :=
    fits_congr fun _ => isFolder_put_file
  have alike' (content : Content) :
      (files.put other (.file content)).Fits place ↔ files.Fits place :=
    fits_congr fun _ => isFolder_put_file
  by_cases fits : files.Fits place
  · by_cases fits' : files.Fits other
    · have held : (files.entries.lookup place).isSome = true := by
        rw [isThere, find?, findIn, if_neg (mt List.isEmpty_iff.1 fits.ne_nil)] at there
        exact there
      refine ⟨?_, ?_⟩
      · rw [entries_put ((alike _).2 fits'), entries_put fits, entries_put ((alike' _).2 fits),
          entries_put fits', replaceEntry_comm ne _ _ held]
        exact forall₂_replaceEntry (.manifest second _ _)
          (forall₂_replaceEntry (.manifest first _ _) same.entries _) _
      · rw [writes_put ((alike _).2 fits'), writes_put fits, writes_put ((alike' _).2 fits),
          writes_put fits']
    · rw [put_of_not_fits (mt (alike _).1 fits'), put_of_not_fits fits']
      exact same.put place first
  · rw [put_of_not_fits fits, put_of_not_fits (mt (alike' _).1 fits)]
    exact same.put other second

end FileTree

namespace Store

/-- The same store, but for the times in manifests and the times at which these were written. -/
structure Retimed (clocks : List (Instant × Instant)) (s t : Store) : Prop where
  files : s.files.Retimed clocks t.files
  root : t.root = s.root
  handedOut : t.handedOut = s.handedOut

variable {s : Store} {i i' k k' : Intake}

theorem Retimed.refl (s : Store) : s.Retimed clocks s where
  files := .refl s.files
  root := rfl
  handedOut := rfl

theorem retimed_withManifest (related : i.Retimed clocks i') :
    (s.withManifest i).Retimed clocks (s.withManifest i') where
  files := by
    rw [withManifest_files, withManifest_files, related.id_eq]
    exact (FileTree.Retimed.refl s.files).put _ related
  root := rfl
  handedOut := rfl

/-- Two requests of which one is there are written in either order. -/
theorem retimed_withManifest_comm (there : s.files.isThere (s.manifestPlace i.id) = true)
    (apart : i.id ≠ k.id) (first : i.Retimed clocks i') (second : k.Retimed clocks k') :
    ((s.withManifest i).withManifest k).Retimed clocks ((s.withManifest k').withManifest i') where
  files := by
    have ne : s.manifestPlace i.id ≠ s.manifestPlace k.id := fun same =>
      apart (eq_of_manifestPlace_on_way ⟨[], by rw [List.append_nil, same]⟩)
    simp only [withManifest_files, manifestPlace_withManifest, first.id_eq, second.id_eq]
    exact FileTree.retimed_put_put ne there first second
  root := rfl
  handedOut := rfl

end Store

end GovernanceDesk
