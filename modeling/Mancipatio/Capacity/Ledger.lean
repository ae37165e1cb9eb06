import Mancipatio.Snapshot
import Mancipatio.FxRates.Rule
import Mancipatio.Library.Rows
import Mancipatio.Library.Execution
import Mancipatio.Library.Decimals

/-!
# The raise-cap ledger

Every on-chain sale approval and every treasury mint is counted in euros against the rolling twelve-month cap
of one subject: the SPV through which the asset is issued, or the issuer. Amounts are in cents. The tables
are those of one network.
-/

namespace Mancipatio.Capacity
open Checked Rows

/-! ## Dates -/

structure Date where
  year : Int
  month : Nat
  day : Nat
  deriving DecidableEq, Repr

namespace Date

def le (a b : Date) : Prop :=
  a.year < b.year ∨ a.year = b.year ∧ (a.month < b.month ∨ a.month = b.month ∧ a.day ≤ b.day)
  deriving Decidable

instance : LE Date := ⟨le⟩
instance (a b : Date) : Decidable (a ≤ b) := inferInstanceAs (Decidable (le a b))

def least (a b : Date) : Date :=
  if a ≤ b then a else b

def daysInMonth (year : Int) (month : Nat) : Nat :=
  if month = 2 then
    if year % 4 = 0 ∧ (year % 100 ≠ 0 ∨ year % 400 = 0) then 29 else 28
  else if month = 4 ∨ month = 6 ∨ month = 9 ∨ month = 11 then 30
  else 31

-- `- interval '12 months'`
def yearBefore (d : Date) : Date :=
  { year := d.year - 1, month := d.month, day := min d.day (daysInMonth (d.year - 1) d.month) }

def dayBefore (d : Date) : Date :=
  if 1 < d.day then { d with day := d.day - 1 }
  else if 1 < d.month then { d with month := d.month - 1, day := daysInMonth d.year (d.month - 1) }
  else { year := d.year - 1, month := 12, day := 31 }

variable {a b : Date}

theorem le_refl (a : Date) : a ≤ a :=
  .inr ⟨rfl, .inr ⟨rfl, Nat.le_refl _⟩⟩

theorem yearBefore_mono (before : a ≤ b) : a.yearBefore ≤ b.yearBefore := by
  rcases before with earlier | ⟨year, earlier | ⟨month, day⟩⟩
  · exact .inl (Int.sub_lt_sub_right earlier 1)
  · exact .inr ⟨by simp only [yearBefore, year], .inl earlier⟩
  · refine .inr ⟨by simp only [yearBefore, year], .inr ⟨month, ?_⟩⟩
    simp only [yearBefore, year, month]
    exact min_le_min_right _ day

theorem le_trans {c : Date} (first : a ≤ b) (second : b ≤ c) : a ≤ c := by
  rcases first with earlier | ⟨year, earlier | ⟨month, day⟩⟩ <;>
    rcases second with earlier' | ⟨year', earlier' | ⟨month', day'⟩⟩
  · exact .inl (Int.lt_trans earlier earlier')
  · exact .inl (year' ▸ earlier)
  · exact .inl (year' ▸ earlier)
  · exact .inl (year ▸ earlier')
  · exact .inr ⟨year.trans year', .inl (Nat.lt_trans earlier earlier')⟩
  · exact .inr ⟨year.trans year', .inl (month' ▸ earlier)⟩
  · exact .inl (year ▸ earlier')
  · exact .inr ⟨year.trans year', .inl (month ▸ earlier')⟩
  · exact .inr ⟨year.trans year', .inr ⟨month.trans month', Nat.le_trans day day'⟩⟩

end Date

/-! ## Rows -/

inductive CapacityError where
  | spvNotFound
  | spvAmbiguous
  | spvSubjectConflict
  | invalidTerms
  | invalidGross
  | invalidReleaseReason
  | invalidSignature
  | saleMismatch
  | reservationExists
  | reservationNotFound
  | reservationNotLive
  | reservationNotConsumed
  | reservationNotReleasable
  | reservationAlreadyBooked
  | mintAlreadyBooked
  | fxRateMissing
  | fxDecimalsMismatch
  | fxRateStale
  | applicationNotApproved
  | applicationAlreadyApproved
  | applicationAmountExceeded
  | raiseTypeMismatch
  | scheduleMismatch
  | saleCapExceeded
  | subjectOnHold
  | treasuryValueBelowFloor
  | issuedAtInFuture
  | issuedAtBackdated
  | refIsSale
  | spvAnnualCapExceeded
  | noRevalueHold
  | revalueNotAllowed
  -- raised by a unique index or a check of a table
  | uniqueViolation
  | checkViolation
  deriving DecidableEq, Repr

inductive RaiseType where
  | mature
  | startup
  deriving DecidableEq, Repr

abbrev Rate := { q : Rat // 0 < q }

structure FxRate where
  kind : FxKind
  eurPerToken : Rate
  decimals : Nat
  asOf : Int
  maxAge : Int
  overrideAuto : Bool
  deriving DecidableEq, Repr

structure FxAutoRate where
  eurPerToken : Rate
  decimals : Nat
  asOf : Int
  maxAge : Int
  deriving DecidableEq, Repr

inductive Subject where
  | spv (id : Nat)
  | issuer (pda : Pubkey)
  deriving DecidableEq, Repr

def subjectOf (spvId : Option Nat) (issuerPda : Pubkey) : Subject :=
  match spvId with
  | some id => .spv id
  | none => .issuer issuerPda

structure ApprovalTerms where
  saleId : Nat
  approvalPda : Pubkey
  salePda : Pubkey
  paymentMint : Pubkey
  maxGrossRaise : Nat
  minPricePerUnit : Nat
  maxPricePerUnit : Nat
  raiseType : RaiseType
  cliffMonths : Nat
  vestingMonths : Nat
  expiresAt : Int
  deriving DecidableEq, Repr

structure SaleTerms extends ApprovalTerms where
  paymentDecimals : Nat
  fxRate : Rate
  deriving DecidableEq, Repr

def ApprovalTerms.same (a b : ApprovalTerms) : Prop :=
  a.paymentMint = b.paymentMint ∧ a.maxGrossRaise = b.maxGrossRaise ∧ a.minPricePerUnit = b.minPricePerUnit ∧
    a.maxPricePerUnit = b.maxPricePerUnit ∧ a.raiseType = b.raiseType ∧ a.cliffMonths = b.cliffMonths ∧
    a.vestingMonths = b.vestingMonths ∧ a.expiresAt = b.expiresAt
  deriving Decidable

inductive Kind where
  | sale (terms : SaleTerms)
  | treasuryMint (amountUnits : Nat) (mintSignature : Option String)
  deriving DecidableEq, Repr

inductive ReleaseReason where
  | revoked
  | expired
  | txFailed
  | closedUnsold
  | admin
  deriving DecidableEq, Repr

inductive Status where
  | reserved
  | consumed
  | booked (amountEur : Nat) (issuedAt : Date) (issuance : Option Nat)
  | released (reason : ReleaseReason)
  deriving DecidableEq, Repr

structure Reservation where
  id : Nat
  kind : Kind
  shareClass : Pubkey
  assetPda : Option Pubkey
  issuerPda : Pubkey
  spvId : Option Nat
  applicationId : Option Nat
  applicationHash : Hash
  amountEur : Nat
  chainConfirmedAt : Option Int
  status : Status
  adopted : Bool
  reservedBy : String
  deriving DecidableEq, Repr

inductive IssuanceSource where
  | sale
  | treasuryMint
  | manual
  deriving DecidableEq, Repr

structure SpvIssuance where
  id : Nat
  spvId : Nat
  assetPda : Option Pubkey
  salePubkey : Option Pubkey
  amountEur : Nat
  issuedAt : Date
  source : IssuanceSource
  deriving DecidableEq, Repr

structure Spv where
  id : Nat
  issuerPda : Option Pubkey
  annualCapEur : Nat
  deriving DecidableEq, Repr

structure LaunchApplication where
  approved : Bool
  raiseType : RaiseType
  cliffMonths : Option Nat
  vestingMonths : Option Nat
  linkedSale : Option Pubkey
  raiseAmount : Nat
  deriving DecidableEq, Repr

namespace Reservation

variable (r : Reservation)

def subject : Subject :=
  subjectOf r.spvId r.issuerPda

def terms : Option SaleTerms :=
  match r.kind with
  | .sale terms => some terms
  | .treasuryMint _ _ => none

def mintSignature : Option String :=
  match r.kind with
  | .sale _ => none
  | .treasuryMint _ signature => signature

-- `status in ('reserved','consumed')`
def live : Bool :=
  match r.status with
  | .reserved | .consumed => true
  | .booked _ _ _ | .released _ => false

-- `status in ('reserved','consumed','booked')`
def counted : Bool :=
  match r.status with
  | .reserved | .consumed | .booked _ _ _ => true
  | .released _ => false

def backs (application : Nat) : Prop :=
  r.applicationId = some application ∧ r.terms ≠ none ∧ r.counted = true
  deriving Decidable

-- the keys of the three partial unique indexes
def liveSaleKey : Option (Pubkey × Nat) :=
  r.terms.bind fun terms => if r.live then some (r.shareClass, terms.saleId) else none

def countedSalePda : Option Pubkey :=
  r.terms.bind fun terms => if r.counted then some terms.salePda else none

end Reservation

def indexesHold (rows : List Reservation) : Prop :=
  (rows.map Reservation.id).Nodup ∧ (rows.filterMap Reservation.liveSaleKey).Nodup ∧
    (rows.filterMap Reservation.countedSalePda).Nodup ∧ (rows.filterMap Reservation.mintSignature).Nodup

instance (rows : List Reservation) : Decidable (indexesHold rows) :=
  inferInstanceAs (Decidable (_ ∧ _ ∧ _ ∧ _))

/-! ## The tables -/

/-- Reservations and SPVs are in the order of their creation. -/
structure Ledger where
  reservations : List Reservation
  issuances : List SpvIssuance
  spvs : List Spv
  assetProfiles : Pubkey → Option Nat
  fxRates : Pubkey → Option FxRate
  fxAutoRates : Pubkey → Option FxAutoRate
  applications : Nat → Option LaunchApplication
  platformRaiseLimit : Option Nat
  -- the limits of the dossiers that belong to an issuer
  clientRaiseLimits : Pubkey → List Nat
  -- the price and the payment mint of the newest indexed sale of a share class
  salePrices : Pubkey → Option (Nat × Pubkey)
  indexedSales : List Pubkey
  -- the close date that the issuance job of a sale carries
  closeDates : Pubkey → Option Date
  holds : List (Subject × String)
  now : Int
  today : Date

def emptyLedger (spvs : List Spv) (platformRaiseLimit : Option Nat) (clientRaiseLimits : Pubkey → List Nat)
    (now : Int) (today : Date) : Ledger where
  reservations := []
  issuances := []
  spvs
  assetProfiles := fun _ => none
  fxRates := fun _ => none
  fxAutoRates := fun _ => none
  applications := fun _ => none
  platformRaiseLimit
  clientRaiseLimits
  salePrices := fun _ => none
  indexedSales := []
  closeDates := fun _ => none
  holds := []
  now
  today

/-- The euro value of base units, rounded up to cents. The quotient is rounded before. -/
def saleCapacityEur (units : Nat) (rate : Rate) (decimals : Nat) : Nat :=
  -- a rate has 10 decimals, a power of ten is computed to 16 significant digits
  ⌈Decimals.div ((units : Rat) * rate.1) (10 ^ decimals) 10 (16 - decimals) * 100⌉₊

section functions
variable (l : Ledger)

def fxEffectiveRate (mint : Pubkey) : Option FxRate :=
  let auto' := (l.fxAutoRates mint).map fun a =>
    ({ kind := .rate, eurPerToken := a.eurPerToken, decimals := a.decimals, asOf := a.asOf, maxAge := a.maxAge,
       overrideAuto := false } : FxRate)
  let pinned := fun m : FxRate => decide (m.kind = .eurPeg ∨ m.overrideAuto = true)
  let fresh := fun rate : FxRate => some (decide (l.now - rate.maxAge ≤ rate.asOf))
  (effectiveRow pinned FxRate.asOf fresh (l.fxRates mint) auto').join

structure CapacityReport where
  subject : Subject
  cap : Nat
  issued : Nat
  reserved : Nat
  used : Nat
  remaining : Nat
  holds : Nat
  deriving DecidableEq, Repr

def inWindow (date : Date) : Prop :=
  ¬ date ≤ l.today.yearBefore
  deriving Decidable

def bookedWithin (r : Reservation) : Nat :=
  match r.status with
  | .booked amountEur issuedAt _ => if inWindow l issuedAt then amountEur else 0
  | .reserved | .consumed | .released _ => 0

def issued : Subject → Nat
  | .spv id => (l.issuances.map fun i => if i.spvId = id ∧ inWindow l i.issuedAt then i.amountEur else 0).sum
  | .issuer pda => (l.reservations.map fun r => if r.subject = .issuer pda then bookedWithin l r else 0).sum

def reserved (subject : Subject) : Nat :=
  (l.reservations.map fun r => if r.subject = subject ∧ r.live = true then r.amountEur else 0).sum

def capOf : Subject → Except CapacityError Nat
  | .spv id => do
      let spv ← okOr (lookup Spv.id id l.spvs) .spvNotFound
      return spv.annualCapEur
  | .issuer pda => return (l.clientRaiseLimits pda).max?.getD (l.platformRaiseLimit.getD 300000000)

def saleCapacity (subject : Subject) : Except CapacityError CapacityReport := do
  let cap ← capOf l subject
  let issued := issued l subject
  let reserved := reserved l subject
  return { subject, cap, issued, reserved, used := issued + reserved, remaining := cap - issued - reserved,
           holds := l.holds.countP fun hold => hold.1 = subject }

def saleCapacitySpv (assetPda : Option Pubkey) (issuerPda : Pubkey) (strict : Bool) : Except CapacityError (Option Nat) := do
  let ofIssuer := l.spvs.filter fun spv => spv.issuerPda = some issuerPda
  require (¬ (1 < ofIssuer.length ∧ strict = true)) .spvAmbiguous
  let byIssuer := ofIssuer.head?.map Spv.id
  match assetPda.bind l.assetProfiles with
  | none => return byIssuer
  | some profile =>
      let spv := lookup Spv.id profile l.spvs
      if spv = none ∨ (byIssuer ≠ none ∧ byIssuer ≠ some profile) ∨ (∃ issuer ∈ spv.bind Spv.issuerPda, issuer ≠ issuerPda) then do
        require (strict = false) (if spv = none then .spvNotFound else .spvSubjectConflict)
        return byIssuer
      else
        return some (byIssuer.getD profile)

def saleCapacityCheckSubject (assetPda : Option Pubkey) (issuerPda : Pubkey) (spvId : Option Nat) :
    Except CapacityError Unit := do
  let resolved ← saleCapacitySpv l assetPda issuerPda true
  require (¬ (resolved ≠ none ∧ spvId ≠ resolved ∨
    ∃ spv ∈ l.spvs, some spv.id = spvId ∧ spv.issuerPda ≠ none ∧ spv.issuerPda ≠ some issuerPda)) .spvSubjectConflict

def saleCapacityLock (spvId : Option Nat) (issuerPda : Pubkey) : Except CapacityError Subject := do
  require (∀ id ∈ spvId, lookup Spv.id id l.spvs ≠ none) .spvNotFound
  return subjectOf spvId issuerPda

def requireRoom (report : CapacityReport) (amount : Nat) : Except CapacityError Unit :=
  require (report.used + amount ≤ report.cap) .saleCapExceeded

def writeReservations (rows : List Reservation) : Except CapacityError Ledger := do
  require (indexesHold rows) .uniqueViolation
  return { l with reservations := rows }

def insertReservation (r : Reservation) : Except CapacityError Ledger := do
  require (r.adopted = true ∨ ∀ hold ∈ l.holds, hold.1 ≠ r.subject) .subjectOnHold
  require (0 < r.amountEur) .checkViolation
  writeReservations l (l.reservations ++ [r])

def updateReservation (r : Reservation) : Except CapacityError Ledger := do
  require (0 < r.amountEur) .checkViolation
  writeReservations l (upsert Reservation.id r l.reservations)

def findReservation (id : Nat) : Except CapacityError Reservation :=
  okOr (lookup Reservation.id id l.reservations) .reservationNotFound

def findSale (id : Nat) : Except CapacityError (Reservation × SaleTerms) := do
  let r ← findReservation l id
  let terms ← okOr r.terms .reservationNotFound
  return (r, terms)

end functions

end Mancipatio.Capacity
