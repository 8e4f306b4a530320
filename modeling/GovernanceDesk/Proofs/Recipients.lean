import GovernanceDesk.Proofs.Email
import GovernanceDesk.Proofs.Text.Numbers
import GovernanceDesk.Proofs.Text.Trimming
import GovernanceDesk.Recipients

/-!
# Who is told

A selection of recipients comes down to a list in which every address stands once, in the spelling and
at the place of its first occurrence. Where the selection is valid the list can be written in one line
and taken apart again.

* `Text.firsts`: the texts that no earlier one has the same letters as.
* `isEmail_chars`: what can stand in an address.
* `Recipients.addressesIn`: taking a line of addresses apart.
* `Recipients.resolve_lists_each_once`: what is on the list, and when its line can be read.
-/

namespace GovernanceDesk
set_option autoImplicit false

/-! ## Texts by their letters -/

namespace Text

theorem sameLetters_iff {a b : String} : sameLetters a b = true ↔ lower a = lower b :=
  beq_iff_eq

/-- The texts that no earlier one has the same letters as. -/
def firsts (xs : List String) : List String :=
  (xs.zipIdx.filter fun e => !(xs.take e.2).any (sameLetters · e.1)).map Prod.fst

variable {xs : List String}

theorem firsts_concat (xs : List String) (x : String) :
    firsts (xs ++ [x]) = firsts xs ++ if xs.any (sameLetters · x) then [] else [x] := by
  -- What comes before an element of the list is the same whether or not `x` follows.
  have before : xs.zipIdx.filter (fun e => !((xs ++ [x]).take e.2).any (sameLetters · e.1)) =
      xs.zipIdx.filter fun e => !(xs.take e.2).any (sameLetters · e.1) := by
    refine List.filter_congr fun e mem => ?_
    have within : e.2 ≤ xs.length := Nat.le_of_lt (List.snd_lt_of_mem_zipIdx mem)
    rw [List.take_append_of_le_length within]
  rw [firsts, List.zipIdx_append, List.filter_append, before, List.map_append, firsts]
  congr 1
  cases there : xs.any (sameLetters · x) <;> simp [there]

theorem any_firsts (xs : List String) (x : String) :
    (firsts xs).any (sameLetters · x) = xs.any (sameLetters · x) := by
  induction xs using List.reverseRecOn with
  | nil => rfl
  | append_singleton xs y ih =>
    rw [firsts_concat, List.any_append, List.any_append, ih]
    cases there : xs.any (sameLetters · y) with
    | false => rfl
    | true =>
      -- `y` is left out, for an earlier text has its letters.
      obtain ⟨a, mem, same⟩ := List.any_eq_true.1 there
      rw [if_pos rfl, Bool.eq_iff_iff]
      simp only [List.any_nil, List.any_cons, Bool.or_false, Bool.or_eq_true]
      refine ⟨.inl, fun either => either.elim id fun sameY => List.any_eq_true.2 ⟨a, mem, ?_⟩⟩
      exact sameLetters_iff.2 ((sameLetters_iff.1 same).trans (sameLetters_iff.1 sameY))

theorem pairwise_firsts (xs : List String) :
    (firsts xs).Pairwise fun a b => sameLetters a b = false := by
  induction xs using List.reverseRecOn with
  | nil => exact .nil
  | append_singleton xs x ih =>
    rw [firsts_concat]
    split
    · rw [List.append_nil]
      exact ih
    next new =>
      rw [← any_firsts, Bool.not_eq_true, List.any_eq_false] at new
      refine List.pairwise_append.2 ⟨ih, List.pairwise_singleton .., fun a mem b here => ?_⟩
      rw [List.mem_singleton.1 here, ← Bool.not_eq_true]
      exact new a mem

theorem exists_mem_firsts {x : String} (mem : x ∈ xs) : ∃ a ∈ firsts xs, sameLetters a x = true := by
  refine List.any_eq_true.1 ?_
  rw [any_firsts]
  exact List.any_eq_true.2 ⟨x, mem, sameLetters_iff.2 rfl⟩

theorem mem_of_mem_firsts {x : String} (mem : x ∈ firsts xs) : x ∈ xs := by
  obtain ⟨e, held, rfl⟩ := List.mem_map.1 mem
  exact List.fst_mem_of_mem_zipIdx (List.mem_filter.1 held).1

theorem firsts_eq_nil_iff : firsts xs = [] ↔ xs = [] := by
  constructor
  · intro none
    refine List.eq_nil_iff_forall_not_mem.2 fun x mem => ?_
    obtain ⟨a, there, -⟩ := exists_mem_firsts mem
    rw [none] at there
    exact List.not_mem_nil there
  · rintro rfl
    rfl

end Text

/-! ## Characters of addresses -/

namespace Text

theorem toNat_of_isLatinLetter {c : Char} (h : isLatinLetter c = true) :
    0x41 ≤ c.toNat ∧ c.toNat ≤ 0x7A := by
  simp only [isLatinLetter, Bool.or_eq_true, Bool.and_eq_true, decide_eq_true_eq, Char.le_def,
    UInt32.le_iff_toNat_le] at h
  change (97 ≤ c.toNat ∧ c.toNat ≤ 122) ∨ (65 ≤ c.toNat ∧ c.toNat ≤ 90) at h
  omega

theorem isBlank_of_isLatinLetter {c : Char} (h : isLatinLetter c = true) : isBlank c = false := by
  have range := toNat_of_isLatinLetter h
  exact isBlank_of_printable (by omega) (by omega)

end Text

namespace Email
open Text

variable {c : Char} {cs : List Char}

/-- A character that neither parts two addresses nor stands around one. Line breaks are blank. -/
def IsPlain (c : Char) : Prop := c ≠ ',' ∧ isBlank c = false

theorem isPlain_of_isLocalChar (h : isLocalChar c = true) : IsPlain c := by
  refine ⟨?_, ?_⟩
  · rintro rfl
    exact absurd h (by decide)
  · rw [isLocalChar, Bool.or_eq_true, Bool.or_eq_true, List.contains_iff_mem] at h
    rcases h with (letter | digit) | mark
    · exact isBlank_of_isLatinLetter letter
    · exact isBlank_of_isDecimalDigit digit
    · simp only [List.mem_cons, List.not_mem_nil, or_false] at mark
      rcases mark with rfl | rfl | rfl | rfl | rfl <;>
        exact isBlank_of_printable (by decide) (by decide)

theorem isLocalChar_of_isLatinLetter (h : isLatinLetter c = true) : isLocalChar c = true := by
  rw [isLocalChar, h]
  rfl

/-- What can stand in a domain can stand in front of it. -/
theorem isLocalChar_of_isDomainChar (h : isDomainChar c = true) : isLocalChar c = true := by
  rw [isDomainChar, Bool.or_eq_true, Bool.or_eq_true, beq_iff_eq, beq_iff_eq] at h
  rcases h with (alphanumeric | rfl) | rfl
  · rw [isLocalChar, alphanumeric]
    rfl
  · rfl
  · rfl

theorem isPlain_of_isAddress (h : isAddress cs = true) (mem : c ∈ cs) : IsPlain c := by
  obtain ⟨name, domain, suffix, rfl, some, host, letters⟩ := isAddress_iff.1 h
  simp only [List.mem_append, List.mem_cons] at mem
  rcases mem with before | rfl | inside | rfl | last
  · exact isPlain_of_isLocalChar (some.all c before)
  · exact ⟨by decide, by decide⟩
  · exact isPlain_of_isLocalChar (isLocalChar_of_isDomainChar (host.all c inside))
  · exact ⟨by decide, by decide⟩
  · exact isPlain_of_isLocalChar (isLocalChar_of_isLatinLetter (letters.all c last))

end Email

/-- In an address without blanks around it there are no blanks and no commas. -/
theorem isPlain_of_isEmail {s : String} (h : isEmail (Text.trim s) = true) {c : Char}
    (mem : c ∈ (Text.trim s).toList) : Email.IsPlain c := by
  rw [isEmail_trim] at h
  rw [Text.trim, String.toList_ofList] at mem
  exact Email.isPlain_of_isAddress h mem

/-! ## Lines of addresses -/

namespace Recipients

/-- The texts of a line, between commas that are followed by one space each. -/
def addressesIn (line : String) : List String :=
  match line.toList.splitOn ',' with
  | [] => []
  | first :: rest => (first :: rest.map (List.drop 1)).map String.ofList

theorem intercalate_comma_space (xs : List (List Char)) (x : List Char) :
    [',', ' '].intercalate (x :: xs) = [','].intercalate (x :: xs.map (' ' :: ·)) := by
  induction xs generalizing x with
  | nil => rfl
  | cons y ys ih =>
    rw [List.intercalate_cons_cons, ih y, List.map_cons, List.intercalate_cons_cons,
      List.intercalate_cons_cons_left, List.append_assoc, List.append_assoc]
    rfl

/-- A line of texts without commas is taken apart into these texts. -/
theorem addressesIn_intercalate {xs : List String} (some : xs ≠ [])
    (plain : ∀ x ∈ xs, ',' ∉ x.toList) : addressesIn (", ".intercalate xs) = xs := by
  obtain ⟨x, rest, rfl⟩ := List.exists_cons_of_ne_nil some
  obtain ⟨first, others⟩ := List.forall_mem_cons.1 plain
  have apart : (", ".intercalate (x :: rest)).toList.splitOn ',' =
      x.toList :: rest.map fun y => ' ' :: y.toList := by
    rw [String.toList_intercalate, List.map_cons]
    change ([',', ' '].intercalate (x.toList :: rest.map String.toList)).splitOn ',' = _
    rw [intercalate_comma_space, List.map_map]
    refine List.splitOn_intercalate ',' (fun part mem => ?_) (List.cons_ne_nil _ _)
    rcases List.mem_cons.1 mem with rfl | later
    · exact first
    · obtain ⟨y, there, rfl⟩ := List.mem_map.1 later
      exact List.not_mem_cons_of_ne_of_not_mem (by decide) (others y there)
  rw [addressesIn, apart]
  simp [Function.comp_def]

/-! ## The list -/

variable {r : Recipients} {m : Mailboxes}

theorem foldl_addOnce (xs : List String) :
    xs.foldl addOnce [] = Text.firsts (xs.map Text.trim) := by
  induction xs using List.reverseRecOn with
  | nil => rfl
  | append_singleton xs x ih =>
    rw [List.foldl_concat, ih, addOnce, Text.any_firsts, List.map_append, List.map_singleton,
      Text.firsts_concat]
    split
    · rw [List.append_nil]
    · rfl

theorem resolve_eq (r : Recipients) (m : Mailboxes) :
    r.resolve m = Text.firsts ((r.selected m).map Text.trim) :=
  foldl_addOnce (r.selected m)

theorem selected_eq_nil_iff : r.selected m = [] ↔ r.isEmpty = true := by
  rw [selected, isEmpty]
  cases r.notifyGovernance <;> cases r.notifyInvestment <;> simp

theorem problem?_eq_none_iff : r.problem? = none ↔
    r.isEmpty = false ∧ ∀ a ∈ r.addresses, isEmail a = true := by
  rw [problem?]
  cases r.isEmpty with
  | true => simp
  | false => simp [invalidAddresses]

theorem isEmail_of_mem_selected (valid : ∀ a ∈ r.addresses, isEmail a = true)
    (governance : r.notifyGovernance = true → isEmail m.governance = true)
    (investment : r.notifyInvestment = true → isEmail m.investment = true) {a : String}
    (mem : a ∈ r.selected m) : isEmail a = true := by
  rw [selected, List.mem_append, List.mem_append] at mem
  rcases mem with (regular | mailbox) | mailbox
  · exact valid a regular
  · split at mailbox
    next notified => exact List.mem_singleton.1 mailbox ▸ governance notified
    · cases mailbox
  · split at mailbox
    next notified => exact List.mem_singleton.1 mailbox ▸ investment notified
    · cases mailbox

/-- Every address that is selected is on the list once, trimmed, where its letters first occur; the list
is empty just when nothing is selected. Where the selection is valid, and so are the mailboxes that it
asks for, the list is not empty and holds addresses without a comma, a blank or a line break, and its
line stands for no other list of texts without commas. -/
theorem resolve_lists_each_once (r : Recipients) (m : Mailboxes) :
    r.resolve m = Text.firsts ((r.selected m).map Text.trim) ∧
      (r.resolve m).Pairwise (fun a b => Text.sameLetters a b = false) ∧
      (∀ a ∈ r.selected m, ∃ b ∈ r.resolve m, Text.sameLetters b (Text.trim a) = true) ∧
      (r.resolve m = [] ↔ r.isEmpty = true) ∧
      (r.problem? = none → (r.notifyGovernance = true → isEmail m.governance = true) →
        (r.notifyInvestment = true → isEmail m.investment = true) →
        r.resolve m ≠ [] ∧
          (∀ a ∈ r.resolve m, isEmail a = true ∧
            ∀ c ∈ a.toList, c ≠ ',' ∧ Text.isBlank c = false) ∧
          addressesIn (", ".intercalate (r.resolve m)) = r.resolve m ∧
          ∀ others : List String, others ≠ [] → (∀ a ∈ others, ',' ∉ a.toList) →
            ", ".intercalate others = ", ".intercalate (r.resolve m) → others = r.resolve m) := by
  have nothing : r.resolve m = [] ↔ r.isEmpty = true := by
    rw [resolve_eq, Text.firsts_eq_nil_iff, List.map_eq_nil_iff, selected_eq_nil_iff]
  refine ⟨resolve_eq r m, ?_, fun a mem => ?_, nothing, fun fine governance investment => ?_⟩
  · rw [resolve_eq]
    exact Text.pairwise_firsts _
  · rw [resolve_eq]
    exact Text.exists_mem_firsts (List.mem_map_of_mem mem)
  obtain ⟨chosen, valid⟩ := problem?_eq_none_iff.1 fine
  have some : r.resolve m ≠ [] := fun none => Bool.false_ne_true (chosen.symm.trans (nothing.1 none))
  have each : ∀ a ∈ r.resolve m, isEmail a = true ∧ ∀ c ∈ a.toList, Email.IsPlain c := by
    intro a mem
    rw [resolve_eq] at mem
    obtain ⟨b, there, rfl⟩ := List.mem_map.1 (Text.mem_of_mem_firsts mem)
    have email : isEmail (Text.trim b) = true :=
      (isEmail_trim b).trans (isEmail_of_mem_selected valid governance investment there)
    exact ⟨email, fun c mem => isPlain_of_isEmail email mem⟩
  have commaless : ∀ a ∈ r.resolve m, ',' ∉ a.toList := fun a mem comma =>
    ((each a mem).2 ',' comma).1 rfl
  have read := addressesIn_intercalate some commaless
  refine ⟨some, each, read, fun others some' commaless' same => ?_⟩
  rw [← addressesIn_intercalate some' commaless', same, read]

/-- A mailbox that was also picked by hand, in capitals. -/
def pickedTwice : Recipients :=
  ⟨[" ada@example.gov\n", "IT_GOVERNANCE@example.gov"], true, true⟩

theorem resolve_lists_each_once_picked_twice :
    pickedTwice.resolve .standard =
        ["ada@example.gov", "IT_GOVERNANCE@example.gov", "it_investments@example.gov"] ∧
      pickedTwice.problem? = none ∧
      addressesIn (", ".intercalate (pickedTwice.resolve .standard)) =
        pickedTwice.resolve .standard := by
  have listed : pickedTwice.resolve .standard =
      ["ada@example.gov", "IT_GOVERNANCE@example.gov", "it_investments@example.gov"] := by
    decide +kernel
  have fine : pickedTwice.problem? = none := by decide +kernel
  obtain ⟨-, -, -, -, valid⟩ := resolve_lists_each_once pickedTwice .standard
  obtain ⟨-, -, read, -⟩ := valid fine (fun _ => by decide +kernel) fun _ => by
    decide +kernel
  exact ⟨listed, fine, read⟩

end Recipients

end GovernanceDesk
