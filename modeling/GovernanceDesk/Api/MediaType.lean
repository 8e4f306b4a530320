import GovernanceDesk.Text.Characters

/-!
# Media types

What a request says about the kind of its body, such as `application/json; charset=utf-8`.

* `MediaType.read?`: the type, the subtype and the suffix after a plus sign, in small letters.
* `MediaType.isJson`: whether a body of that type is JSON.

Parameters are read only to see that they are well formed: a name, an equals sign, and a word or a
quoted text.
-/

namespace GovernanceDesk
open Text
set_option autoImplicit false

structure MediaType where
  type : String
  subtype : String
  suffix : Option String
deriving DecidableEq

namespace MediaType

/-! ## Characters -/

/-- The characters of names and unquoted values. -/
def isWordChar (c : Char) : Bool :=
  isLatinLetter c || isDecimalDigit c || "!#$%&'*+-.^_`|~".toList.contains c

/-- The characters that a quoted text may hold, its closing quote aside: a request names media
types in ASCII. -/
def isQuotableChar (c : Char) : Bool :=
  31 < c.toNat && c.toNat < 127

/-! ## Parameters -/

/-- Where a reader of parameters stands; a flag says whether anything was read there yet. -/
inductive ParameterState where
  | name (begun : Bool)
  | value (begun : Bool)
  | quoted (begun : Bool)
  | afterQuoted

namespace ParameterState

/-- What a character does; none where it is not allowed. -/
def next (c : Char) : ParameterState → Option ParameterState
  | name false =>
    if c = ' ' then some (name false) else if isWordChar c then some (name true) else none
  | name true =>
    if c = '=' then some (value false) else if isWordChar c then some (name true) else none
  | value false =>
    if c = '"' then some (quoted false) else if isWordChar c then some (value true) else none
  | value true =>
    if c = ';' then some (name false) else if isWordChar c then some (value true) else none
  | quoted begun =>
    if c = '"' ∧ begun then some afterQuoted
    else if isQuotableChar c then some (quoted true) else none
  | afterQuoted =>
    if c = ';' then some (name false) else if c = ' ' then some afterQuoted else none

/-- Whether the text may end here. -/
def isFinal : ParameterState → Bool
  | name begun => !begun
  | value _ | afterQuoted => true
  | quoted _ => false

end ParameterState

def areParameters (cs : List Char) : Bool :=
  (cs.foldlM (fun (state : ParameterState) c => state.next c) (.name false)).any
    ParameterState.isFinal

/-! ## Types -/

/-- The part of a subtype after its last plus sign, if anything stands before the sign. -/
def suffixChars? (subtype : List Char) : Option (List Char) :=
  let fromEnd := subtype.reverse.takeWhile (· != '+')
  if fromEnd.length + 1 < subtype.length then some fromEnd.reverse else none

def read? (s : String) : Option MediaType := do
  let type := s.toList.takeWhile isWordChar
  let rest ← match s.toList.dropWhile isWordChar with
    | '/' :: rest => if type.isEmpty then none else some rest
    | _ => none
  let subtype := rest.takeWhile isWordChar
  let isComplete ← match rest.dropWhile isWordChar with
    | [] => some true
    | ';' :: parameters => some (!subtype.isEmpty && areParameters parameters)
    | _ => none
  if isComplete then
    let text := fun cs => lower (String.ofList cs)
    let suffix := suffixChars? subtype
    let stem := match suffix with
      | some cs => subtype.take (subtype.length - cs.length - 1)
      | none => subtype
    some ⟨text type, text stem, suffix.map text⟩
  else none

/-- JSON itself, or a format that says it is written in JSON. -/
def isJson (m : MediaType) : Bool :=
  m.type == "application" && (m.subtype == "json" || m.suffix == some "json")

end MediaType

end GovernanceDesk
