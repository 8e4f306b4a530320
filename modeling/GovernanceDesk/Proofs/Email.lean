import GovernanceDesk.Email
import GovernanceDesk.Proofs.Text.Cuts
import Mathlib.Computability.RegularExpressions

/-!
# The language of addresses

An address is a local part, an at sign, a domain, a full stop and a suffix. A domain may hold full
stops itself, so the pattern that says this can be followed in many ways; but the suffix holds none,
and reading an address at its only at sign and at its last full stop accepts the same texts.

* `Email.pattern`: the texts that are addresses, as a regular expression.
* `Email.Written`: an address put together from its three parts.
* `Email.ReadsDirectly`: an address taken apart at its only at sign and its last full stop.
* `isEmail_by_pattern`: the three are one.
-/

namespace GovernanceDesk
set_option autoImplicit false

namespace Email
open Text

variable {c : Char} {cs name domain suffix : List Char}

/-! ## Parts -/

/-- So many characters at least, all of one kind. -/
structure IsRun (least : Nat) (kind : Char → Bool) (cs : List Char) : Prop where
  length : least ≤ cs.length
  all : ∀ c ∈ cs, kind c = true

/-- An address and the parts it is put together from. -/
structure Written (cs name domain suffix : List Char) : Prop where
  whole : cs = name ++ '@' :: (domain ++ '.' :: suffix)
  name : IsRun 1 isLocalChar name
  domain : IsRun 1 isDomainChar domain
  suffix : IsRun 2 isLatinLetter suffix

namespace IsRun

variable {least : Nat} {kind : Char → Bool}

theorem iff_and : IsRun least kind cs ↔ least ≤ cs.length ∧ ∀ c ∈ cs, kind c = true :=
  ⟨fun h => ⟨h.length, h.all⟩, fun h => ⟨h.1, h.2⟩⟩

theorem one_iff : IsRun 1 kind cs ↔ cs.isEmpty = false ∧ cs.all kind = true := by
  cases cs <;> simp [iff_and]

theorem reverse_iff : IsRun least kind cs.reverse ↔ IsRun least kind cs := by
  simp only [iff_and, List.length_reverse, List.mem_reverse]

theorem notMem (h : IsRun least kind cs) (other : kind c = false) : c ∉ cs := fun mem =>
  Bool.false_ne_true (other.symm.trans (h.all c mem))

end IsRun

/-! ## The reader -/

theorem isDomain_iff : isDomain cs = true ↔
    ∃ domain suffix, cs = domain ++ '.' :: suffix ∧ IsRun 1 isDomainChar domain ∧
      IsRun 2 isLatinLetter suffix := by
  constructor
  · intro read
    rw [isDomain] at read
    split at read
    next backwards rest =>
      have whole := congrArg List.reverse (eq_of_dropWhile rest)
      rw [List.reverse_reverse, reverse_append_cons] at whole
      rw [Bool.and_eq_true, Bool.and_eq_true, decide_eq_true_eq, Bool.not_eq_true'] at read
      obtain ⟨⟨long, some⟩, all⟩ := read
      refine ⟨_, _, whole, IsRun.reverse_iff.2 (IsRun.one_iff.2 ⟨some, all⟩), ?_⟩
      exact IsRun.reverse_iff.2 ⟨long, fun c mem => List.mem_takeWhile_imp mem⟩
    · exact absurd read Bool.false_ne_true
  · rintro ⟨domain, suffix, rfl, some, letters⟩
    have letters := IsRun.reverse_iff.2 letters
    obtain ⟨nonempty, all⟩ := IsRun.one_iff.1 (IsRun.reverse_iff.2 some)
    rw [isDomain, reverse_append_cons, takeWhile_append_cons letters.all (by decide),
      dropWhile_append_cons letters.all (by decide)]
    simp only [letters.length, nonempty, all, decide_true, Bool.not_false, Bool.and_self]

theorem isAddress_iff : isAddress cs = true ↔ ∃ name domain suffix, Written cs name domain suffix := by
  constructor
  · intro read
    rw [isAddress] at read
    split at read
    next behind rest =>
      rw [Bool.and_eq_true, Bool.not_eq_true', isDomain_iff] at read
      obtain ⟨some, domain, suffix, rfl, host, letters⟩ := read
      refine ⟨_, domain, suffix, eq_of_dropWhile rest, IsRun.one_iff.2 ⟨some, ?_⟩, host, letters⟩
      exact List.all_eq_true.2 fun c mem => List.mem_takeWhile_imp mem
    · exact absurd read Bool.false_ne_true
  · rintro ⟨name, domain, suffix, rfl, some, host, letters⟩
    have read : isDomain (domain ++ '.' :: suffix) = true :=
      isDomain_iff.2 ⟨domain, suffix, rfl, host, letters⟩
    rw [isAddress, takeWhile_append_cons some.all (by decide),
      dropWhile_append_cons some.all (by decide)]
    simp only [(IsRun.one_iff.1 some).1, read, Bool.not_false, Bool.and_self]

/-! ## The pattern -/

/-- The characters from one to another. -/
def between (first last : Char) : List Char :=
  (List.range' first.toNat (last.toNat + 1 - first.toNat)).map Char.ofNat

def letters : List Char := between 'A' 'Z' ++ between 'a' 'z'

def localChars : List Char := letters ++ between '0' '9' ++ ['.', '_', '%', '+', '-']

def domainChars : List Char := letters ++ between '0' '9' ++ ['.', '-']

/-- One character out of several. -/
def oneOf : List Char → RegularExpression Char
  | [] => 0
  | c :: cs => .char c + oneOf cs

/-- So many matches of an expression at least, one after the other. -/
def atLeast (expression : RegularExpression Char) : Nat → RegularExpression Char
  | 0 => expression.star
  | least + 1 => expression * atLeast expression least

/-- What a text has to match from its start to its end. -/
def pattern : RegularExpression Char :=
  atLeast (oneOf localChars) 1 * .char '@' * atLeast (oneOf domainChars) 1 * .char '.' *
    atLeast (oneOf letters) 2

theorem mem_between {first last : Char} (plain : last.toNat < 0xD800) :
    c ∈ between first last ↔ first ≤ c ∧ c ≤ last := by
  rw [between, List.mem_map, Char.le_def, Char.le_def, UInt32.le_iff_toNat_le, UInt32.le_iff_toNat_le]
  change _ ↔ first.toNat ≤ c.toNat ∧ c.toNat ≤ last.toNat
  constructor
  · rintro ⟨n, range, rfl⟩
    rw [List.mem_range'_1] at range
    have valid : n.isValidChar := .inl (by omega)
    have same : (Char.ofNat n).toNat = n := by
      rw [Char.ofNat, dif_pos valid]
      rfl
    omega
  · intro range
    exact ⟨c.toNat, List.mem_range'_1.2 (by omega), Char.ofNat_toNat c⟩

theorem mem_letters : c ∈ letters ↔ isLatinLetter c = true := by
  rw [letters, List.mem_append, mem_between (by decide), mem_between (by decide), or_comm]
  simp only [isLatinLetter, Bool.or_eq_true, Bool.and_eq_true, decide_eq_true_eq]

theorem mem_localChars : c ∈ localChars ↔ isLocalChar c = true := by
  rw [localChars, List.mem_append, List.mem_append, mem_letters, mem_between (by decide)]
  simp only [isLocalChar, isDecimalDigit, Bool.or_eq_true, Bool.and_eq_true, decide_eq_true_eq,
    List.contains_iff_mem]

theorem mem_domainChars : c ∈ domainChars ↔ isDomainChar c = true := by
  rw [domainChars, List.mem_append, List.mem_append, mem_letters, mem_between (by decide)]
  simp only [isDomainChar, isDecimalDigit, Bool.or_eq_true, Bool.and_eq_true, decide_eq_true_eq,
    List.mem_cons, List.not_mem_nil, or_false, beq_iff_eq, or_assoc]

theorem mem_oneOf {chars : List Char} : cs ∈ (oneOf chars).matches' ↔ ∃ c ∈ chars, cs = [c] := by
  induction chars with
  | nil => simp [oneOf]
  | cons c chars ih =>
    change cs = [c] ∨ cs ∈ (oneOf chars).matches' ↔ _
    rw [ih, List.exists_mem_cons_iff]

theorem mem_star_oneOf {chars : List Char} :
    cs ∈ (oneOf chars).star.matches' ↔ ∀ c ∈ cs, c ∈ chars := by
  rw [RegularExpression.matches'_star, Language.mem_kstar]
  constructor
  · rintro ⟨parts, rfl, matched⟩ c mem
    obtain ⟨part, there, inside⟩ := List.mem_flatten.1 mem
    obtain ⟨x, listed, rfl⟩ := mem_oneOf.1 (matched part there)
    rw [List.mem_singleton.1 inside]
    exact listed
  · intro listed
    refine ⟨cs.map ([·]), ?_, fun part mem => ?_⟩
    · rw [← List.flatMap_def, List.flatMap_singleton']
    · obtain ⟨c, there, rfl⟩ := List.mem_map.1 mem
      exact mem_oneOf.2 ⟨c, listed c there, rfl⟩

theorem mem_atLeast_oneOf {chars : List Char} {kind : Char → Bool} {least : Nat}
    (ofKind : ∀ c, c ∈ chars ↔ kind c = true) :
    cs ∈ (atLeast (oneOf chars) least).matches' ↔ IsRun least kind cs := by
  induction least generalizing cs with
  | zero =>
    rw [atLeast, mem_star_oneOf, IsRun.iff_and]
    simp only [ofKind, Nat.zero_le, true_and]
  | succ least ih =>
    rw [atLeast, RegularExpression.matches'_mul, Language.mem_mul]
    constructor
    · rintro ⟨first, matched, rest, run, rfl⟩
      obtain ⟨c, listed, rfl⟩ := mem_oneOf.1 matched
      have run := ih.1 run
      exact ⟨Nat.succ_le_succ run.length, List.forall_mem_cons.2 ⟨(ofKind c).1 listed, run.all⟩⟩
    · rintro ⟨long, all⟩
      obtain ⟨c, rest, rfl⟩ := List.exists_cons_of_length_pos (Nat.lt_of_lt_of_le least.succ_pos long)
      obtain ⟨first, others⟩ := List.forall_mem_cons.1 all
      exact ⟨[c], mem_oneOf.2 ⟨c, (ofKind c).2 first, rfl⟩, rest,
        ih.2 ⟨Nat.le_of_succ_le_succ long, others⟩, rfl⟩

theorem mem_pattern_iff :
    cs ∈ pattern.matches' ↔ ∃ name domain suffix, Written cs name domain suffix := by
  simp only [pattern, RegularExpression.matches'_mul, Language.mem_mul,
    mem_atLeast_oneOf fun _ => mem_localChars, mem_atLeast_oneOf fun _ => mem_domainChars,
    mem_atLeast_oneOf fun _ => mem_letters, RegularExpression.matches'_char]
  -- The pattern is nested to the left, a written address to the right.
  constructor
  · rintro ⟨_, ⟨_, ⟨_, ⟨name, some, _, rfl, rfl⟩, domain, host, rfl⟩, _, rfl, rfl⟩, suffix, tail, rfl⟩
    exact ⟨name, domain, suffix, by simp, some, host, tail⟩
  · rintro ⟨name, domain, suffix, rfl, some, host, tail⟩
    exact ⟨_, ⟨_, ⟨_, ⟨name, some, _, rfl, rfl⟩, domain, host, rfl⟩, _, rfl, rfl⟩, suffix, tail, by simp⟩

/-! ## Reading at the signs -/

def beforeAt (cs : List Char) : List Char := cs.takeWhile (· != '@')

def behindAt (cs : List Char) : List Char := (cs.dropWhile (· != '@')).tail

def beforeLastStop (cs : List Char) : List Char := (cs.rdropWhile (· != '.')).dropLast

def behindLastStop (cs : List Char) : List Char := cs.rtakeWhile (· != '.')

/-- An address taken apart at its only at sign and at the last full stop behind it. -/
structure ReadsDirectly (cs : List Char) : Prop where
  once : cs.count '@' = 1
  name : IsRun 1 isLocalChar (beforeAt cs)
  domain : IsRun 1 isDomainChar (beforeLastStop (behindAt cs))
  suffix : IsRun 2 isLatinLetter (behindLastStop (behindAt cs))

theorem at_append (fresh : '@' ∉ name) (rest : List Char) :
    beforeAt (name ++ '@' :: rest) = name ∧ behindAt (name ++ '@' :: rest) = rest := by
  obtain ⟨before, behind⟩ := cut_at_first fresh rest
  rw [beforeAt, behindAt, before, behind]
  exact ⟨rfl, rfl⟩

theorem lastStop_append (domain : List Char) (fresh : '.' ∉ suffix) :
    beforeLastStop (domain ++ '.' :: suffix) = domain ∧
      behindLastStop (domain ++ '.' :: suffix) = suffix := by
  obtain ⟨behind, before⟩ := cut_at_last domain fresh
  rw [beforeLastStop, behindLastStop, before, behind, List.dropLast_concat]
  exact ⟨rfl, rfl⟩

/-- Without a full stop nothing is left of a domain. -/
theorem beforeLastStop_of_notMem (none : '.' ∉ cs) : beforeLastStop cs = [] := by
  rw [beforeLastStop, List.rdropWhile_eq_nil_iff.2 (forall_mem_bne none)]
  rfl

/-- The parts of an address are what stands around its signs. -/
theorem Written.readsDirectly (h : Written cs name domain suffix) : ReadsDirectly cs := by
  obtain ⟨rfl, some, host, letters⟩ := h
  have inName : '@' ∉ name := some.notMem (by decide)
  have inDomain : '@' ∉ domain := host.notMem (by decide)
  have inSuffix : '@' ∉ suffix := letters.notMem (by decide)
  obtain ⟨before, behind⟩ := at_append inName (domain ++ '.' :: suffix)
  obtain ⟨first, last⟩ := lastStop_append domain (letters.notMem (by decide))
  refine ⟨?_, ?_, ?_, ?_⟩
  · simp [List.count_eq_zero_of_not_mem inName, List.count_eq_zero_of_not_mem inDomain,
      List.count_eq_zero_of_not_mem inSuffix]
  · rw [before]
    exact some
  · rw [behind, first]
    exact host
  · rw [behind, last]
    exact letters

theorem readsDirectly_iff :
    ReadsDirectly cs ↔ ∃ name domain suffix, Written cs name domain suffix := by
  constructor
  · rintro ⟨once, some, host, letters⟩
    have sign : '@' ∈ cs := List.count_pos_iff.1 (once ▸ Nat.one_pos)
    obtain ⟨name, rest, rfl, fresh⟩ := List.eq_append_cons_of_mem sign
    obtain ⟨before, behind⟩ := at_append fresh rest
    rw [before] at some
    rw [behind] at host letters
    have stop : '.' ∈ rest := by
      by_contra none
      rw [beforeLastStop_of_notMem none] at host
      exact absurd host.length (by decide)
    obtain ⟨domain, suffix, rfl, fresh⟩ := exists_last_of_mem stop
    obtain ⟨first, last⟩ := lastStop_append domain fresh
    rw [first] at host
    rw [last] at letters
    exact ⟨name, domain, suffix, rfl, some, host, letters⟩
  · rintro ⟨name, domain, suffix, written⟩
    exact written.readsDirectly

end Email

/-- A text is an address exactly when, without the blanks around it, it matches the pattern; when it can
be put together from a local part, a domain and a suffix in some way; and when it is made of such parts
as it is taken apart at its only at sign and at the last full stop behind it. -/
theorem isEmail_by_pattern (s : String) :
    (isEmail s = true ↔ Text.trimChars s.toList ∈ Email.pattern.matches') ∧
    (isEmail s = true ↔
      ∃ name domain suffix, Email.Written (Text.trimChars s.toList) name domain suffix) ∧
    (isEmail s = true ↔ Email.ReadsDirectly (Text.trimChars s.toList)) := by
  have parts : isEmail s = true ↔
      ∃ name domain suffix, Email.Written (Text.trimChars s.toList) name domain suffix :=
    Email.isAddress_iff
  exact ⟨parts.trans Email.mem_pattern_iff.symm, parts, parts.trans Email.readsDirectly_iff.symm⟩

end GovernanceDesk
