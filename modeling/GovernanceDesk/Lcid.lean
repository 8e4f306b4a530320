import GovernanceDesk.Calendar.Instant
import GovernanceDesk.Tagged

/-!
# Life cycle IDs

A decision to approve gives a request a life cycle ID. Whether it has expired or is retired follows
from its dates; only an early expiry is kept on record.

* `LcidRecord`, `LcidRecord.status`: the record and its standing on a given day.
* `Lcid.number`: the ID of the n-th issue of a day: two digits of the year, three of the day of the
  year, a letter, and from the twenty-seventh issue on the round of the alphabet.
* `Lcid.allocate`: the first ID of a day that nobody holds.
-/

namespace GovernanceDesk
set_option autoImplicit false

inductive LcidStatus where
  | issued
  | retired
  | expired
deriving DecidableEq

namespace LcidStatus

def all : List LcidStatus := [issued, retired, expired]

def tag : LcidStatus → String
  | issued => "ISSUED"
  | retired => "RETIRED"
  | expired => "EXPIRED"

instance : Tagged LcidStatus := ⟨"LcidStatus", all, tag⟩

end LcidStatus

/-- Whether the technical review board should be consulted afterwards. -/
inductive TrbFollowUp where
  | stronglyRecommended
  | recommendedButNotCritical
  | notRecommended
deriving DecidableEq

namespace TrbFollowUp

def all : List TrbFollowUp := [stronglyRecommended, recommendedButNotCritical, notRecommended]

def tag : TrbFollowUp → String
  | stronglyRecommended => "STRONGLY_RECOMMENDED"
  | recommendedButNotCritical => "RECOMMENDED_BUT_NOT_CRITICAL"
  | notRecommended => "NOT_RECOMMENDED"

instance : Tagged TrbFollowUp := ⟨"TrbFollowUp", all, tag⟩

end TrbFollowUp

/-! ## Records -/

structure LcidRecord where
  lcid : String
  issuedAt : Instant
  expiresAt : Date
  retiresAt : Option Date
  scope : String
  nextSteps : String
  trbFollowUp : TrbFollowUp
  costBaseline : Option String
  expiredManually : Bool
deriving DecidableEq

namespace LcidRecord

def status (r : LcidRecord) (today : Date) : LcidStatus :=
  if r.expiredManually || decide (r.expiresAt < today) then .expired
  else if r.retiresAt.any fun d => decide (d ≤ today) then .retired
  else .issued

instance : Coded LcidRecord where
  shape := .record
    [.need String "lcid", .need Instant "issued_at", .need Date "expires_at",
      .optional Date "retires_at", .need String "scope", .need String "next_steps",
      .need TrbFollowUp "trb_follow_up", .optional String "cost_baseline",
      .given Bool "expired_manually"]
  encode r := .fields <|
    [("lcid", encode r.lcid), ("issued_at", encode r.issuedAt),
      ("expires_at", encode r.expiresAt)] ++
    Entries.ifSome "retires_at" r.retiresAt ++
    [("scope", encode r.scope), ("next_steps", encode r.nextSteps),
      ("trb_follow_up", encode r.trbFollowUp)] ++
    Entries.ifSome "cost_baseline" r.costBaseline ++
    [("expired_manually", encode r.expiredManually)]
  decode t := do
    let entries ← t.fields?
    return {
      lcid := ← entries.need "lcid"
      issuedAt := ← entries.need "issued_at"
      expiresAt := ← entries.need "expires_at"
      retiresAt := ← entries.optional "retires_at"
      scope := ← entries.need "scope"
      nextSteps := ← entries.need "next_steps"
      trbFollowUp := ← entries.need "trb_follow_up"
      costBaseline := ← entries.optional "cost_baseline"
      expiredManually := ← entries.getOr "expired_manually" false }

end LcidRecord

/-! ## Numbers -/

namespace Lcid
open Text

/-- What all IDs of one day begin with. The remainder of a year before year 0 keeps its sign. -/
def dayPart (date : Date) : List Char :=
  paddedInt 2 (date.year.tmod 100) ++ padded 3 date.ordinal

def letter (sequence : Nat) : Char :=
  Char.ofNat ('A'.toNat + sequence % 26)

def roundPart (sequence : Nat) : List Char :=
  if sequence / 26 = 0 then [] else digits (sequence / 26)

def numberChars (date : Date) (sequence : Nat) : List Char :=
  dayPart date ++ letter sequence :: roundPart sequence

/-- The ID of the issue with the given number, from 0, on a day. -/
def number (date : Date) (sequence : Nat) : String :=
  String.ofList (numberChars date sequence)

/-- The first ID at or after `sequence` that is not taken, trying `tries` of them. -/
def firstFree (date : Date) (taken : List String) : Nat → Nat → String
  | 0, sequence => number date sequence
  | tries + 1, sequence =>
    if taken.contains (number date sequence) then firstFree date taken tries (sequence + 1)
    else number date sequence

/-- The first free ID of a day. Among one more candidate than there are IDs taken, one is free. -/
def allocate (date : Date) (taken : List String) : String :=
  firstFree date taken taken.length 0

end Lcid

end GovernanceDesk
