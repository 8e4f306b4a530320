import GovernanceDesk.Proofs.Files.Paths
import GovernanceDesk.Proofs.Store.Running

/-!
# Ids stay in their folder

An id that is accepted is one name, so the path of its manifest leads two names below the folder of
all requests and nowhere else. With any other id every operation ends before it looks at a file: it
comes out the same on every store and leaves the store as it is. Most report the failure itself; a
mutation is rejected with its message, and a form is not opened.

* `isName_of_isIntakeId`: what an accepted id is.
* `Layout.Confines`: where the manifest of an accepted id lies.
* `Store.RefusesId`: how the operations end with an id that is not accepted.
* `Store.confines_or_refusesId`: each id is one or the other.
-/

namespace GovernanceDesk
set_option autoImplicit false

/-! ## Accepted ids -/

variable {id : String}

def isIdChar (c : Char) : Bool :=
  Text.isLatinLetter c || Text.isDecimalDigit c || c == '_' || c == '-'

theorem isIdChar_of_isIntakeId (h : isIntakeId id = true) : ∀ c ∈ id.toList, isIdChar c = true := by
  rw [isIntakeId] at h
  split at h
  · exact absurd h Bool.false_ne_true
  next first rest chars =>
    rw [Bool.and_eq_true, Bool.and_eq_true, List.all_eq_true] at h
    obtain ⟨⟨start, others⟩, -⟩ := h
    rw [chars, List.forall_mem_cons]
    refine ⟨?_, fun c mem => others c mem⟩
    have alphanumeric : (Text.isLatinLetter first || Text.isDecimalDigit first) = true := start
    rw [isIdChar, alphanumeric]
    rfl

theorem isName_of_isIntakeId (h : isIntakeId id = true) : Path.IsName id := by
  have chars := isIdChar_of_isIntakeId h
  have dotless : '.' ∉ id.toList := fun mem => absurd (chars '.' mem) (by decide)
  refine ⟨?_, ?_, ?_, fun c forbidden mem => ?_⟩
  · rintro rfl
    exact absurd h (by decide)
  · rintro rfl
    exact dotless (by decide)
  · rintro rfl
    exact dotless (by decide)
  · have others : ('/' :: '\x00' :: Path.lineBreaks).any isIdChar = false := by decide
    exact List.any_eq_false.1 others c forbidden (chars c mem)

theorem isIntakeId_of_check (h : checkIntakeId id = .ok ()) : isIntakeId id = true := by
  rw [checkIntakeId] at h
  split at h
  next accepted => exact accepted
  · cases h

/-! ## Where their manifests lie -/

namespace Layout

variable {root : String}

theorem isName_manifestFile : Path.IsName manifestFile := by
  decide

theorem names_manifestPath (h : Path.IsName id) :
    Path.names (manifestPath root id) = Path.names (intakesPath root) ++ [id, manifestFile] := by
  rw [manifestPath, Path.names_join isName_manifestFile.isRooted_eq, intakePath,
    Path.names_join h.isRooted_eq, h.names_eq, isName_manifestFile.names_eq, List.append_assoc]
  rfl

theorem resolve_manifestPath (h : Path.IsName id) (files : FileTree) (place : Place) :
    files.resolve place (manifestPath root id) =
      files.resolve place (intakesPath root) ++ [id, manifestFile] := by
  rw [manifestPath, files.resolve_join_name place _ isName_manifestFile, intakePath,
    files.resolve_join_name place _ h, List.append_assoc]
  rfl

theorem resolve_intakesPath (files : FileTree) (place : Place) :
    files.resolve place (intakesPath root) = files.resolve place root ++ [".easi", "intakes"] := by
  have relative : Path.isRooted intakesDir = false := by decide
  have names : Path.names intakesDir = [".easi", "intakes"] := by decide
  have desk : Path.IsName ".easi" := by decide
  have intakes : Path.IsName "intakes" := by decide
  rw [intakesPath, files.resolve_join place _ relative, names, List.foldl_cons, List.foldl_cons,
    files.step_of_isName _ desk, files.step_of_isName _ intakes, List.append_assoc]
  rfl

/-- The manifest of an id lies two names below the folder of all requests, in the entry of that folder
which has the id for its name, and that is where the store looks for it. No other id that is accepted
has the same path. -/
structure Confines (root id : String) : Prop where
  isName : Path.IsName id
  manifest : Path.IsName manifestFile
  text : manifestPath root id = intakesPath root ++ "/" ++ id ++ "/" ++ manifestFile
  names : Path.names (manifestPath root id) = Path.names (intakesPath root) ++ [id, manifestFile]
  leads : ∀ (s : Store) (place : Place), s.files.resolve place root = s.root →
    s.files.resolve place (manifestPath root id) = s.manifestPlace id
  alone : ∀ other, checkIntakeId other = .ok () → manifestPath root other = manifestPath root id →
    other = id

theorem manifestPath_eq (h : Path.IsName id) :
    manifestPath root id = intakesPath root ++ "/" ++ id ++ "/" ++ manifestFile := by
  have relative : Path.isRooted intakesDir = false := by decide
  have folder : (intakesPath root).toList.getLast? = some 's' := by
    obtain ⟨-, joined⟩ | ⟨_, -, joined⟩ | ⟨-, -, joined⟩ := Path.join_cases root relative <;>
      rw [intakesPath, joined] <;> simp [intakesDir]
  have inFolder : intakePath root id = intakesPath root ++ "/" ++ id :=
    Path.join_of_getLast? folder (by decide) h.isRooted_eq
  obtain ⟨c, last, other⟩ := h.exists_getLast?
  have ending : (intakePath root id).toList.getLast? = some c := by
    rw [inFolder, String.toList_append, List.getLast?_append, last]
    rfl
  rw [manifestPath, Path.join_of_getLast? ending other isName_manifestFile.isRooted_eq, inFolder]

theorem confines_of_check (h : checkIntakeId id = .ok ()) (root : String) : Confines root id := by
  have isName := isName_of_isIntakeId (isIntakeId_of_check h)
  refine ⟨isName, isName_manifestFile, manifestPath_eq isName, names_manifestPath isName,
    fun s place here => ?_, fun other accepted same => ?_⟩
  · rw [resolve_manifestPath isName, resolve_intakesPath, here, Store.manifestPlace_eq,
      Store.deskPlace, List.append_assoc, List.append_assoc]
    rfl
  · have otherName := isName_of_isIntakeId (isIntakeId_of_check accepted)
    have names : Path.names (manifestPath root other) = _ := names_manifestPath otherName
    rw [same, names_manifestPath isName, List.append_cancel_left_eq] at names
    exact (List.cons.inj names).1.symm

end Layout

/-! ## Ids that are refused -/

/-- With an id that is refused every operation ends the same on every store, and the store stays as it
is. -/
structure Store.RefusesId (id : String) (e : Failure) : Prop where
  load : ∀ s : Store, s.load id = .error e
  save : ∀ (s : Store) (i : Intake), i.id = id → s.save i = .error e
  setStatus : ∀ (s : Store) m stage status, s.setStatus m id stage status = .error e
  addFeedback : ∀ (s : Store) m target source text author,
    s.addFeedback m id target source text author = .error e
  loadContext : ∀ (s : Store) today, s.loadContext id today = .error e
  apply : ∀ (s : Store) today now kind (m : Mutation), m.intakeId = id →
    s.apply today now kind m = .error e
  dispatch : ∀ (s : Store) today now (m : Mutation), m.intakeId = id →
    s.dispatch today now m = (.error (.rejected e.message), s)
  runAction : ∀ (s : Store) today now (r : ActionRequest), r.intakeId = id →
    s.runAction today now r = (.ok (.failed loadFailedText true), s)

namespace Store

theorem refusesId_of_not (h : ¬isIntakeId id = true) : RefusesId id (.invalid (.intakeId id)) := by
  have load : ∀ s : Store, s.load id = .error (.invalid (.intakeId id)) :=
    fun s => load_of_not_isIntakeId h
  have loadContext : ∀ (s : Store) today, s.loadContext id today = .error (.invalid (.intakeId id)) := by
    intro s today
    rw [Store.loadContext, load]
    rfl
  have apply : ∀ (s : Store) today now kind (m : Mutation), m.intakeId = id →
      s.apply today now kind m = .error (.invalid (.intakeId id)) := by
    intro s today now kind m sentTo
    rw [Store.apply, applied, sentTo, load]
    rfl
  refine ⟨load, fun s i same => ?_, fun s m stage status => ?_,
    fun s m target source text author => ?_, loadContext, apply, fun s today now m sentTo => ?_,
    fun s today now r opens => ?_⟩
  · rw [Store.save, checkIntakeId, same, if_neg h]
    rfl
  · rw [Store.setStatus, load]
    rfl
  · rw [Store.addFeedback, load]
    rfl
  · rw [Store.dispatch, apply s today now _ m sentTo]
    rfl
  · rw [Store.runAction, opens, loadContext]
    rfl

/-- An id is accepted, and then its manifest lies right in its own folder for every root; or it is
refused, and then no operation looks at a file or changes one. -/
theorem confines_or_refusesId (id : String) :
    (checkIntakeId id = .ok () ∧ ∀ root, Layout.Confines root id) ∨
      (checkIntakeId id = .error (.invalid (.intakeId id)) ∧
        RefusesId id (.invalid (.intakeId id))) := by
  by_cases accepted : isIntakeId id = true
  · have checked : checkIntakeId id = .ok () := if_pos accepted
    exact .inl ⟨checked, Layout.confines_of_check checked⟩
  · exact .inr ⟨if_neg accepted, refusesId_of_not accepted⟩

/-- A request is to be closed whose id leads out of the folder of all requests. -/
def closingOutside : ActionRequest := ⟨"../../outside", .closeRequest, ∅, none, .complete, false⟩

def mutationOutside : Mutation := ⟨"../../outside", none, none, none, .closeRequest none⟩

/-- An action that is run on such an id comes to an end without a failure, and a mutation that is sent
to it is rejected as any other that the store does not take. -/
theorem run_outside_ends_without_failure :
    checkIntakeId closingOutside.intakeId = .error (.invalid (.intakeId closingOutside.intakeId)) ∧
      (emptyDesk.runAction noon.date noon closingOutside).1 = .ok (.failed loadFailedText true) ∧
      (¬∃ e, (emptyDesk.runAction noon.date noon closingOutside).1 = .error e) ∧
      (emptyDesk.dispatch noon.date noon mutationOutside).1 =
        .error (.rejected "invalid value: invalid intake id '../../outside'") := by
  have refused : ¬isIntakeId closingOutside.intakeId = true := by decide +kernel
  have refuses := refusesId_of_not refused
  have ends := refuses.runAction emptyDesk noon.date noon closingOutside rfl
  refine ⟨if_neg refused, ?_, fun ⟨e, failed⟩ => ?_, ?_⟩
  · rw [ends]
  · rw [ends] at failed
    exact nomatch failed
  · rw [refuses.dispatch emptyDesk noon.date noon mutationOutside rfl]
    rfl

end Store

end GovernanceDesk
