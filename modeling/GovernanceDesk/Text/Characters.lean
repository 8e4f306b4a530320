/-!
# Letters and blanks

Spellings and email addresses are compared without regard to case. Only the twenty-six basic Latin
letters have a case here; every other character equals itself alone. Everything the desk reads from
people is trimmed first: spellings of stages, form values, email addresses. Blank means the Unicode
property `White_Space`.

* `sameLetters`: whether two texts agree up to case.
* `isBlank`: the twenty-five characters of the property.
* `trimChars`, `trim`: the text without the blanks at its two ends.
-/

namespace GovernanceDesk.Text
set_option autoImplicit false

/-! ## Letters -/

def lower (s : String) : String :=
  String.ofList (s.toList.map Char.toLower)

def upper (s : String) : String :=
  String.ofList (s.toList.map Char.toUpper)

/-- Whether two texts agree up to the case of basic Latin letters. -/
def sameLetters (s t : String) : Bool :=
  lower s == lower t

/-- Every occurrence of one character replaced by another. -/
def exchange (old new : Char) (s : String) : String :=
  String.ofList (s.toList.map fun c => if c = old then new else c)

def isLatinLetter (c : Char) : Bool :=
  ('a' ≤ c && c ≤ 'z') || ('A' ≤ c && c ≤ 'Z')

def isDecimalDigit (c : Char) : Bool :=
  '0' ≤ c && c ≤ '9'

/-! ## Blanks -/

/-- Closed ranges of code points that make up the property `White_Space`. -/
def blankRanges : List (Nat × Nat) :=
  [(0x09, 0x0D), (0x20, 0x20), (0x85, 0x85), (0xA0, 0xA0), (0x1680, 0x1680), (0x2000, 0x200A),
    (0x2028, 0x2029), (0x202F, 0x202F), (0x205F, 0x205F), (0x3000, 0x3000)]

def isBlank (c : Char) : Bool :=
  blankRanges.any fun range => range.1 ≤ c.toNat && c.toNat ≤ range.2

/-! ## Trimming -/

def trimStart (cs : List Char) : List Char :=
  cs.dropWhile isBlank

def trimEnd (cs : List Char) : List Char :=
  (trimStart cs.reverse).reverse

def trimChars (cs : List Char) : List Char :=
  trimEnd (trimStart cs)

def trim (s : String) : String :=
  String.ofList (trimChars s.toList)

/-- The trimmed text, or nothing when only blanks were written. -/
def nonblank? (s : String) : Option String :=
  let t := trim s
  if t.isEmpty then none else some t

end GovernanceDesk.Text
