import GovernanceDesk.Text.Characters

/-!
# Email addresses

An address, blanks around it aside, is a local part, an at sign, a domain, a full stop and a suffix
of two or more letters. `isEmail` reads the address from its end: the suffix is what follows the
last full stop.
-/

namespace GovernanceDesk
set_option autoImplicit false

namespace Email
open Text

def isLocalChar (c : Char) : Bool :=
  isLatinLetter c || isDecimalDigit c || ['.', '_', '%', '+', '-'].contains c

def isDomainChar (c : Char) : Bool :=
  isLatinLetter c || isDecimalDigit c || c == '.' || c == '-'

/-- Whether characters are a domain, a full stop and a suffix. -/
def isDomain (cs : List Char) : Bool :=
  let suffix := cs.reverse.takeWhile isLatinLetter
  match cs.reverse.dropWhile isLatinLetter with
  | '.' :: domain => 2 ≤ suffix.length && !domain.isEmpty && domain.all isDomainChar
  | _ => false

def isAddress (cs : List Char) : Bool :=
  let localPart := cs.takeWhile isLocalChar
  match cs.dropWhile isLocalChar with
  | '@' :: domain => !localPart.isEmpty && isDomain domain
  | _ => false

end Email

def isEmail (s : String) : Bool :=
  Email.isAddress (Text.trimChars s.toList)

end GovernanceDesk
