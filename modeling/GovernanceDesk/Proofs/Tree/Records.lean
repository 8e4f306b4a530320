import GovernanceDesk.Proofs.Tree.RoundTrip

/-!
# The records of a request

A request, its history and the mutations that made it are read back as they were written. Of a record
only the names of its fields matter here: no name comes twice, so each look-up finds its own field.
-/

namespace GovernanceDesk
set_option autoImplicit false

/-! ## People and life cycle IDs -/

instance : LawfulCoded Contact where
  decode_encode c := by
    unfold instCodedContact
    simp [Tree.fields?, Entries.need_eq, Entries.optional_eq, lookup_cons_ite]
  encode_ne_null _ := rfl

instance : LawfulCoded Recipients where
  decode_encode r := by
    unfold Recipients.instCoded
    simp [Tree.fields?, Entries.getOr_eq, lookup_cons_ite]
  encode_ne_null _ := rfl

instance : LawfulCoded LcidRecord where
  decode_encode l := by
    unfold LcidRecord.instCoded
    simp [Tree.fields?, Entries.need_eq, Entries.getOr_eq, Entries.optional_eq, lookup_cons_ite,
      List.lookup_append]
  encode_ne_null _ := rfl

instance : LawfulCoded LcidDecision where
  decode_encode d := by
    unfold instCodedLcidDecision
    simp [Tree.fields?, Entries.need_eq, Entries.optional_eq, lookup_cons_ite, List.lookup_append]
  encode_ne_null _ := rfl

/-! ## Stage tables and feedback -/

namespace StageTable

theorem entry_foldl_set (table start : StageTable) (stages : List Stage) (s : Stage) :
    ((stages.filterMap fun s => (table.entry s).map fun status => (s, status)).foldl
      (fun table e => table.set e.1 e.2) start).entry s =
      if s ∈ stages ∧ (table.entry s).isSome then table.entry s else start.entry s := by
  induction stages generalizing start with
  | nil => simp
  | cons stage stages ih =>
    cases hs : table.entry stage with
    | none =>
      rw [List.filterMap_cons_none (by rw [hs]; rfl), ih]
      by_cases h : s = stage
      · subst h
        simp [hs]
      · simp [h]
    | some status =>
      rw [List.filterMap_cons_some (by rw [hs]; rfl), List.foldl_cons, ih, entry_set]
      by_cases h : s = stage
      · subst h
        simp [hs]
      · simp [h]

theorem ofEntries_entries (table : StageTable) : ofEntries table.entries = table := by
  apply ext
  intro s
  have h := entry_foldl_set table empty Stage.all s
  cases hs : table.entry s with
  | none =>
    rw [ofEntries, entries, h, hs, if_neg (fun c => absurd c.2 (by decide))]
    rfl
  | some status => rw [ofEntries, entries, h, hs, if_pos ⟨s.mem_all, rfl⟩]

theorem mapM_decode_entries (es : List (Stage × Status)) :
    (es.map fun e => (Stage.tag e.1, encode e.2)).mapM (fun e => do
      let stage : Stage ← Tagged.ofTag? e.1
      let status : Status ← decode e.2
      return (stage, status)) = some es := by
  induction es with
  | nil => rfl
  | cons e es ih =>
    have tag : Tagged.ofTag? (Stage.tag e.1) = some e.1 := LawfulTagged.ofTag?_tag e.1
    rw [List.map_cons, List.mapM_cons, ih]
    simp [tag]

instance : LawfulCoded StageTable where
  decode_encode table := by
    unfold StageTable.instCoded
    simp only [Tree.fields?, Option.bind_eq_bind, Option.bind_some]
    have read := mapM_decode_entries table.entries
    simp only [Option.bind_eq_bind] at read
    rw [read, Option.bind_some, ofEntries_entries]
    rfl
  encode_ne_null _ := rfl

end StageTable

instance : LawfulCoded Feedback where
  decode_encode f := by
    unfold Feedback.instCoded
    simp [Tree.fields?, Entries.need_eq, Entries.optional_eq, lookup_cons_ite, List.lookup_append]
  encode_ne_null _ := rfl

/-! ## Operations and mutations -/

namespace Operation

theorem decodeInput_encodeInput (op : Operation) : decodeInput op.name op.encodeInput = some op := by
  cases op <;>
    simp [name, encodeInput, decodeInput, decodeReason, Tree.fields?, Entries.need_eq,
      Entries.optional_eq, Entries.orNull_eq, lookup_cons_ite]

instance : LawfulCoded Operation where
  decode_encode op := by
    unfold Operation.instCoded
    simp [Tree.fields?, Tree.text?, lookup_cons_ite, decodeInput_encodeInput]
  encode_ne_null _ := rfl

end Operation

instance : LawfulCoded Mutation where
  decode_encode m := by
    unfold instCodedMutation
    simp [Tree.fields?, Entries.need_eq, Entries.optional_eq, Entries.orNull_eq, lookup_cons_ite,
      List.lookup_append]
  encode_ne_null _ := rfl

/-! ## Requests -/

instance : LawfulCoded ActionRecord where
  decode_encode r := by
    unfold ActionRecord.instCoded
    simp [Tree.fields?, Entries.need_eq, Entries.optional_eq, lookup_cons_ite, List.lookup_append]
  encode_ne_null _ := rfl

/-- Every field of a request is found in its record. -/
theorem Intake.fields_encode (i : Intake) :
    ∃ entries : Entries, encode i = .fields entries ∧
      (entries.need "id" = some i.id ∧ entries.need "request_name" = some i.requestName ∧
        entries.need "requester" = some i.requester ∧
        entries.getOr "contacts" [] = some i.contacts) ∧
      (entries.need "step" = some i.step ∧ entries.need "state" = some i.state ∧
        entries.need "decision_state" = some i.decision ∧
        entries.getOr "step_statuses" ∅ = some i.statuses ∧
        entries.getOr "feedback" [] = some i.feedback) ∧
      (entries.optional "lcid" = some i.lcid ∧ entries.optional "grt_date" = some i.grtDate ∧
        entries.optional "grb_date" = some i.grbDate ∧
        entries.getOr "history" [] = some i.history) ∧
      entries.optional "submitted_at" = some i.submittedAt ∧
      entries.need "created_at" = some i.createdAt ∧
      entries.need "updated_at" = some i.updatedAt := by
  refine ⟨_, rfl, ⟨?_, ?_, ?_, ?_⟩, ⟨?_, ?_, ?_, ?_, ?_⟩, ⟨?_, ?_, ?_, ?_⟩, ?_, ?_, ?_⟩
  all_goals
    simp [Entries.need_eq, Entries.getOr_eq, Entries.optional_eq, lookup_cons_ite,
      List.lookup_append]

instance : LawfulCoded Intake where
  decode_encode i := by
    obtain ⟨entries, he, ⟨id, name, requester, contacts⟩, ⟨step, state, decision, statuses, feedback⟩,
      ⟨lcid, grtDate, grbDate, history⟩, submittedAt, createdAt, updatedAt⟩ := i.fields_encode
    rw [he]
    -- Every field is read off the same entries, so each is replaced before any is passed on.
    simp only [decode, Tree.fields?, Option.bind_eq_bind, Option.bind, id, name, requester, contacts,
      step, state, decision, statuses, feedback, lcid, grtDate, grbDate, history, submittedAt,
      createdAt, updatedAt]
    rfl
  encode_ne_null _ := rfl

end GovernanceDesk
