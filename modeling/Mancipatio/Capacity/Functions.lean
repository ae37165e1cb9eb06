import Mancipatio.Capacity.Ledger

/-!
# The functions of the raise-cap ledger

Each runs as one transaction: it returns the new tables and its reply, or changes nothing.
-/

namespace Mancipatio.Capacity
open Checked Rows Execution

inductive Action where
  | unchanged
  | adoptedTerms
  | reactivated
  | inserted
  | existing
  | adopted
  deriving DecidableEq, Repr

structure Reply where
  row : Reservation
  existing : Bool := false
  grew : Bool := false
  bookError : Bool := false
  linkedExisting : Bool := false
  action : Option Action := none
  overCap : Bool := false
  capacity : Option CapacityReport := none
  deriving DecidableEq, Repr

def CapacityReport.overCap (report : CapacityReport) : Bool :=
  report.cap < report.used

section functions
variable (l : Ledger)

/-! ## Sales -/

structure SaleRequest where
  -- of the new row
  id : Nat
  shareClass : Pubkey
  assetPda : Option Pubkey
  issuerPda : Pubkey
  spvId : Option Nat
  applicationId : Option Nat
  applicationHash : Hash
  approval : ApprovalTerms
  paymentDecimals : Nat
  reservedBy : String
  deriving DecidableEq, Repr

def SaleRequest.row (request : SaleRequest) (rate : Rate) (amountEur : Nat) : Reservation where
  id := request.id
  kind := .sale { request.approval with paymentDecimals := request.paymentDecimals, fxRate := rate }
  shareClass := request.shareClass
  assetPda := request.assetPda
  issuerPda := request.issuerPda
  spvId := request.spvId
  applicationId := request.applicationId
  applicationHash := request.applicationHash
  amountEur
  chainConfirmedAt := none
  status := .reserved
  adopted := false
  reservedBy := request.reservedBy

def validTerms (a : ApprovalTerms) : Prop :=
  0 < a.maxGrossRaise ∧ 0 < a.minPricePerUnit ∧ a.minPricePerUnit ≤ a.maxPricePerUnit ∧ l.now < a.expiresAt ∧
    a.vestingMonths ≤ 255 ∧ (a.raiseType = .mature → a.cliffMonths = 0 ∧ a.vestingMonths = 0) ∧
    (a.raiseType = .startup → a.cliffMonths < a.vestingMonths)
  deriving Decidable

def Reservation.retriedBy (existing : Reservation) (request : SaleRequest) : Prop :=
  existing.status = .reserved ∧ existing.chainConfirmedAt = none ∧
    (∃ terms ∈ existing.terms, terms.approvalPda = request.approval.approvalPda ∧
      terms.toApprovalTerms.same request.approval) ∧
    existing.applicationHash = request.applicationHash ∧ existing.reservedBy = request.reservedBy ∧
    existing.applicationId = request.applicationId
  deriving Decidable

def requireApplication (request : SaleRequest) (amount : Nat) : Except CapacityError Unit :=
  match request.applicationId with
  | none => .ok ()
  | some id => do
      let app ← okOr ((l.applications id).filter LaunchApplication.approved) .applicationNotApproved
      require (app.raiseType = request.approval.raiseType) .raiseTypeMismatch
      require (request.approval.raiseType = .startup → app.cliffMonths = some request.approval.cliffMonths ∧
        app.vestingMonths = some request.approval.vestingMonths) .scheduleMismatch
      require (app.linkedSale = none ∧ ∀ r ∈ l.reservations, ¬ r.backs id) .applicationAlreadyApproved
      require (amount ≤ app.raiseAmount) .applicationAmountExceeded

def reserveSaleCapacity (request : SaleRequest) : Except CapacityError (Ledger × Reply) := do
  require (validTerms l request.approval) .invalidTerms
  saleCapacityCheckSubject l request.assetPda request.issuerPda request.spvId
  let subject ← saleCapacityLock l request.spvId request.issuerPda
  match l.reservations.find? fun r => r.liveSaleKey = some (request.shareClass, request.approval.saleId) with
  | some existing => do
      require (existing.retriedBy request) .reservationExists
      let capacity ← saleCapacity l subject
      return (l, { row := existing, existing := true, capacity := some capacity })
  | none => do
      let fx ← okOr (fxEffectiveRate l request.approval.paymentMint) .fxRateMissing
      require (fx.decimals = request.paymentDecimals) .fxDecimalsMismatch
      require (¬ (fx.kind = .rate ∧ fx.asOf < l.now - fx.maxAge)) .fxRateStale
      let amount := saleCapacityEur request.approval.maxGrossRaise fx.eurPerToken fx.decimals
      requireApplication l request amount
      let capacity ← saleCapacity l subject
      requireRoom capacity amount
      let row := request.row fx.eurPerToken amount
      let l' ← insertReservation l row
      let capacity ← saleCapacity l' subject
      return (l', { row, capacity := some capacity })

def confirmSaleReservation (id : Nat) : Except CapacityError (Ledger × Reply) := do
  let (r, _) ← findSale l id
  require (r.live = true) .reservationNotLive
  let row := { r with chainConfirmedAt := some (r.chainConfirmedAt.getD l.now) }
  return (← updateReservation l row, { row })

/-- The row that the use of an approval leaves: counted at the sale's maximum, also where that is larger
than what was reserved. -/
def Reservation.consumedAt (r : Reservation) (terms : SaleTerms) (gross : Nat) (now : Int) : Reservation :=
  let eur := saleCapacityEur gross terms.fxRate terms.paymentDecimals
  let confirmed := some (r.chainConfirmedAt.getD now)
  if terms.maxGrossRaise < gross then
    { r with status := .consumed, chainConfirmedAt := confirmed, adopted := true, amountEur := max r.amountEur eur,
             kind := .sale { terms with maxGrossRaise := gross } }
  else
    { r with status := .consumed, chainConfirmedAt := confirmed, amountEur := min r.amountEur eur }

def consumeSaleReservation (id : Nat) (salePda : Pubkey) (saleGrossMax : Nat) : Except CapacityError (Ledger × Reply) := do
  let (r, terms) ← findSale l id
  require (terms.salePda = salePda) .saleMismatch
  match r.status with
  | .consumed | .booked _ _ _ => return (l, { row := r })
  | .released _ => .error .reservationNotLive
  | .reserved => do
      require (0 < saleGrossMax ∧ saleGrossMax < 2 ^ 64) .invalidGross
      let row := r.consumedAt terms saleGrossMax l.now
      let l' ← updateReservation l row
      let capacity ← saleCapacity l' r.subject
      return (l', { row, grew := terms.maxGrossRaise < saleGrossMax, capacity := some capacity })

def addIssuance (r : Reservation) (spvId amountEur : Nat) (issuedAt : Date) (salePubkey : Option Pubkey)
    (source : IssuanceSource) : Ledger :=
  { l with issuances := l.issuances ++
      [{ id := l.issuances.length, spvId, assetPda := r.assetPda, salePubkey, amountEur, issuedAt, source }] }

def bookIssuance (r : Reservation) (amountEur : Nat) (issuedAt : Date) (salePubkey : Option Pubkey)
    (source : IssuanceSource) : Ledger × Option Nat × Bool :=
  match r.spvId with
  | none => (l, none, false)
  | some spvId =>
      match l.issuances.find? fun i => i.spvId = spvId ∧ i.source = .sale ∧ source = .sale ∧ i.salePubkey = salePubkey with
      | some existing => (l, some existing.id, true)
      | none => (addIssuance l r spvId amountEur issuedAt salePubkey source, some l.issuances.length, false)

/-- `insertFails` stands for whatever else makes the database refuse the row of an SPV. -/
def bookSaleReservation (id gross : Nat) (issuedAt : Option Date) (insertFails : Bool) :
    Except CapacityError (Ledger × Reply) := do
  let (r, terms) ← findSale l id
  let _ ← saleCapacityLock l r.spvId r.issuerPda
  match r.status with
  | .booked _ _ _ | .released .closedUnsold => return (l, { row := r })
  | .reserved | .released _ => .error .reservationNotConsumed
  | .consumed => do
      require (gross ≤ terms.maxGrossRaise) .invalidGross
      if gross = 0 then do
        let row := { r with status := .released .closedUnsold }
        return (← updateReservation l row, { row })
      else if r.spvId ≠ none ∧ insertFails = true then
        return (l, { row := r, bookError := true })
      else do
        let issued := ((issuedAt.or (l.closeDates terms.salePda)).getD l.today).least l.today
        let booked := saleCapacityEur gross terms.fxRate terms.paymentDecimals
        let (counted, issuance, linked) := bookIssuance l r booked issued (some terms.salePda) .sale
        let row := { r with status := .booked booked issued issuance }
        let l' ← updateReservation counted row
        let capacity ← saleCapacity l' r.subject
        return (l', { row, linkedExisting := linked, overCap := capacity.overCap, capacity := some capacity })

def releaseSaleReservation (id : Nat) (reason : ReleaseReason) : Except CapacityError (Ledger × Reply) := do
  require (reason ≠ .closedUnsold) .invalidReleaseReason
  let r ← findReservation l id
  match r.status with
  | .released _ => return (l, { row := r })
  | .consumed | .booked _ _ _ => .error .reservationNotReleasable
  | .reserved => do
      let row := { r with status := .released reason }
      return (← updateReservation l row, { row })

/-! ## Adopted approvals -/

structure OnChainApproval where
  -- of the row, if none is known
  id : Nat
  shareClass : Pubkey
  assetPda : Option Pubkey
  issuerPda : Pubkey
  approval : ApprovalTerms
  applicationHash : Hash
  approvedBy : String
  deriving DecidableEq, Repr

def OnChainApproval.row (chain : OnChainApproval) (spvId : Option Nat) (rate : Rate) (decimals amountEur : Nat) (now : Int) :
    Reservation where
  id := chain.id
  kind := .sale { chain.approval with paymentDecimals := decimals, fxRate := rate }
  shareClass := chain.shareClass
  assetPda := chain.assetPda
  issuerPda := chain.issuerPda
  spvId
  applicationId := none
  applicationHash := chain.applicationHash
  amountEur
  chainConfirmedAt := some now
  status := .reserved
  adopted := true
  reservedBy := chain.approvedBy

/-- The row of an approval account: a live one before all others, else the newest. -/
def findApproval (approvalPda : Pubkey) : Option Reservation :=
  let rows := l.reservations.filter fun r => r.terms.any fun terms => terms.approvalPda = approvalPda
  (rows.filter Reservation.live).getLast?.or rows.getLast?

def Reservation.matchesChain (r : Reservation) (chain : OnChainApproval) : Prop :=
  (∃ terms ∈ r.terms, terms.toApprovalTerms.same chain.approval) ∧ r.applicationHash = chain.applicationHash ∧
    r.reservedBy = chain.approvedBy
  deriving Decidable

/-- The rate at which an adopted approval is counted: the locked one, unless another mint is paid in. -/
def adoptionRate (locked : Option SaleTerms) (paymentMint : Pubkey) : Except CapacityError (Rate × Nat) :=
  match locked.filter fun terms => terms.paymentMint = paymentMint with
  | some terms => .ok (terms.fxRate, terms.paymentDecimals)
  | none => do
      let fx ← okOr (fxEffectiveRate l paymentMint) .fxRateMissing
      return (fx.eurPerToken, fx.decimals)

def Reservation.adoptedAt (r : Reservation) (terms : SaleTerms) (chain : OnChainApproval) (rate : Rate) (decimals amount : Nat)
    (now : Int) : Reservation :=
  { r with
    status := .reserved
    chainConfirmedAt := some (r.chainConfirmedAt.getD now)
    applicationId := if r.applicationHash = chain.applicationHash then r.applicationId else none
    applicationHash := chain.applicationHash
    kind := .sale
      { chain.approval with
        saleId := terms.saleId, approvalPda := terms.approvalPda, salePda := terms.salePda,
        paymentDecimals := decimals, fxRate := rate }
    reservedBy := chain.approvedBy
    amountEur := max amount r.amountEur
    adopted := true }

/-- The chain is the truth: an approval with other terms, one whose row was released, and one that nobody
reserved are counted, past the cap if need be. -/
def adoptSaleApproval (chain : OnChainApproval) (spvId : Option Nat) : Except CapacityError (Ledger × Reply) := do
  let subject ← saleCapacityLock l spvId chain.issuerPda
  match findApproval l chain.approval.approvalPda with
  | none => do
      let (rate, decimals) ← adoptionRate l none chain.approval.paymentMint
      let amount := saleCapacityEur chain.approval.maxGrossRaise rate decimals
      let row := chain.row spvId rate decimals amount l.now
      let l' ← insertReservation l row
      let capacity ← saleCapacity l' subject
      return (l', { row, action := some .inserted, overCap := capacity.overCap, capacity := some capacity })
  | some r =>
      let unchanged : Except CapacityError (Ledger × Reply) := .ok (l, { row := r, action := some .unchanged })
      let adopt (action : Action) : Except CapacityError (Ledger × Reply) := do
        let terms ← okOr r.terms .reservationNotFound
        let (rate, decimals) ← adoptionRate l (some terms) chain.approval.paymentMint
        let amount := saleCapacityEur chain.approval.maxGrossRaise rate decimals
        let row := r.adoptedAt terms chain rate decimals amount l.now
        let l' ← updateReservation l row
        let capacity ← saleCapacity l' subject
        return (l', { row, action := some action, overCap := capacity.overCap, capacity := some capacity })
      match r.status with
      | .consumed | .booked _ _ _ => unchanged
      | .reserved => if r.matchesChain chain then unchanged else adopt .adoptedTerms
      | .released _ => adopt .reactivated

/-! ## Treasury mints -/

/-- The price by which a treasury mint is valued: of the newest indexed sale, else the least of the newest
approval. -/
def treasuryPrice (shareClass : Pubkey) : Option (Nat × Pubkey) :=
  let approvals := l.reservations.filterMap fun r =>
    if r.shareClass = shareClass then r.terms.map fun terms => (terms.minPricePerUnit, terms.paymentMint) else none
  ((l.salePrices shareClass).filter fun price => 0 < price.1).or approvals.getLast?

structure TreasuryRequest where
  id : Nat
  shareClass : Pubkey
  assetPda : Option Pubkey
  issuerPda : Pubkey
  spvId : Option Nat
  amountUnits : Nat
  amountEur : Rat
  applicationHash : Hash
  reservedBy : String
  deriving DecidableEq, Repr

def TreasuryRequest.row (request : TreasuryRequest) (amountEur : Nat) : Reservation where
  id := request.id
  kind := .treasuryMint request.amountUnits none
  shareClass := request.shareClass
  assetPda := request.assetPda
  issuerPda := request.issuerPda
  spvId := request.spvId
  applicationId := none
  applicationHash := request.applicationHash
  amountEur
  chainConfirmedAt := none
  status := .reserved
  adopted := false
  reservedBy := request.reservedBy

def reserveTreasuryMintCapacity (request : TreasuryRequest) : Except CapacityError (Ledger × Reply) := do
  let amount := ⌈request.amountEur * 100⌉₊
  require (0 < request.amountUnits ∧ request.amountUnits < 2 ^ 64 ∧ 0 < amount) .invalidTerms
  require (100 ≤ amount) .treasuryValueBelowFloor
  let floor := (treasuryPrice l request.shareClass).bind fun (price, mint) =>
    (fxEffectiveRate l mint).map fun fx => saleCapacityEur (request.amountUnits * price) fx.eurPerToken fx.decimals
  require (∀ value ∈ floor, value ≤ amount) .treasuryValueBelowFloor
  saleCapacityCheckSubject l request.assetPda request.issuerPda request.spvId
  let subject ← saleCapacityLock l request.spvId request.issuerPda
  let capacity ← saleCapacity l subject
  requireRoom capacity amount
  let row := request.row amount
  let l' ← insertReservation l row
  let capacity ← saleCapacity l' subject
  return (l', { row, capacity := some capacity })

def Reservation.landed (r : Reservation) : Reservation :=
  match r.status with
  | .released _ => { r with status := .reserved, adopted := true }
  | .reserved | .consumed | .booked _ _ _ => r

def Reservation.minted (r : Reservation) (units : Nat) (signature : String) (issuedAt : Date) (issuance : Option Nat)
    (now : Int) : Reservation :=
  { r with
    kind := .treasuryMint units (some signature)
    status := .booked r.amountEur issuedAt issuance
    chainConfirmedAt := some now }

def bookTreasuryMint (id : Nat) (signature : String) (issuedAt : Option Date) (insertFails : Bool) :
    Except CapacityError (Ledger × Reply) := do
  let r ← findReservation l id
  match r.kind with
  | .sale _ => .error .reservationNotFound
  | .treasuryMint units _ => do
      require (signature ≠ "") .invalidSignature
      let _ ← saleCapacityLock l r.spvId r.issuerPda
      match r.status with
      | .booked _ _ _ => do
          require (r.mintSignature = some signature) .reservationAlreadyBooked
          return (l, { row := r })
      | .consumed | .reserved | .released _ => do
          require (∀ x ∈ l.reservations, x.mintSignature = some signature → x.id = id) .mintAlreadyBooked
          -- a mint whose reservation was released is counted all the same
          let found := r.landed
          require (found.status = .reserved) .reservationNotLive
          if found.spvId ≠ none ∧ insertFails = true then
            return (← updateReservation l found, { row := found, bookError := true })
          else do
            let issued := (issuedAt.getD l.today).least l.today
            let (counted, issuance, _) := bookIssuance l found found.amountEur issued none .treasuryMint
            let row := found.minted units signature issued issuance l.now
            let l' ← updateReservation counted row
            let capacity ← saleCapacity l' r.subject
            return (l', { row, overCap := capacity.overCap, capacity := some capacity })

def treasuryMintFloor (shareClass : Pubkey) (amountUnits : Nat) : Except CapacityError Nat :=
  match treasuryPrice l shareClass with
  | none => .ok 100
  | some (price, mint) => do
      let fx ← okOr (fxEffectiveRate l mint) .fxRateMissing
      return max 100 (saleCapacityEur (amountUnits * price) fx.eurPerToken fx.decimals)

structure OnChainMint where
  id : Nat
  shareClass : Pubkey
  assetPda : Option Pubkey
  issuerPda : Pubkey
  amountUnits : Nat
  mintKey : String
  authority : String
  applicationHash : Hash
  deriving DecidableEq, Repr

def OnChainMint.row (chain : OnChainMint) (spvId : Option Nat) (amountEur : Nat) (issuedAt : Date) (issuance : Option Nat)
    (now : Int) : Reservation where
  id := chain.id
  kind := .treasuryMint chain.amountUnits (some chain.mintKey)
  shareClass := chain.shareClass
  assetPda := chain.assetPda
  issuerPda := chain.issuerPda
  spvId
  applicationId := none
  applicationHash := chain.applicationHash
  amountEur
  chainConfirmedAt := some now
  status := .booked amountEur issuedAt issuance
  adopted := true
  reservedBy := chain.authority

def adoptTreasuryMint (chain : OnChainMint) (spvId : Option Nat) (issuedAt : Option Date) :
    Except CapacityError (Ledger × Reply) := do
  require (0 < chain.amountUnits ∧ chain.amountUnits < 2 ^ 64 ∧ chain.mintKey ≠ "") .invalidTerms
  let subject ← saleCapacityLock l spvId chain.issuerPda
  match l.reservations.find? fun r => r.mintSignature = some chain.mintKey with
  | some r => do
      let capacity ← saleCapacity l r.subject
      return (l, { row := r, action := some .existing, overCap := capacity.overCap, capacity := some capacity })
  | none => do
      let amount ← treasuryMintFloor l chain.shareClass chain.amountUnits
      let issued := (issuedAt.getD l.today).least l.today
      let booked := chain.row spvId amount issued none l.now
      let inserted ← insertReservation l booked
      let (counted, issuance, _) := bookIssuance inserted booked amount issued none .treasuryMint
      let row := chain.row spvId amount issued issuance l.now
      let l' ← updateReservation counted row
      let capacity ← saleCapacity l' subject
      return (l', { row, action := some .adopted, overCap := capacity.overCap, capacity := some capacity })

/-! ## Manual rows -/

structure Adjustment where
  spvId : Nat
  amountEur : Rat
  assetPda : Option Pubkey
  issuedAt : Option Date
  noteLength : Nat
  capOverride : Bool
  allowBackdate : Bool
  deriving DecidableEq, Repr

def requireManualRow (adjustment : Adjustment) : Except CapacityError Unit := do
  require (∀ asset ∈ adjustment.assetPda, asset ∉ l.indexedSales ∧
    (∀ r ∈ l.reservations, ∀ terms ∈ r.terms, terms.salePda ≠ asset) ∧
    ∀ i ∈ l.issuances, ¬ (i.source = .sale ∧ i.salePubkey = some asset)) .refIsSale
  require (adjustment.capOverride = true ∨ ∀ hold ∈ l.holds, hold.1 ≠ .spv adjustment.spvId) .subjectOnHold

def enforceSpvAnnualCap (spv : Spv) (adjustment : Adjustment) (amount : Nat) (issuedAt : Date) : Except CapacityError Unit :=
  require (adjustment.capOverride = true ∨ ¬ inWindow l issuedAt ∨ issued l (.spv spv.id) + amount ≤ spv.annualCapEur)
    .spvAnnualCapExceeded

def recordSpvAdjustment (adjustment : Adjustment) : Except CapacityError Ledger := do
  let spv ← okOr (lookup Spv.id adjustment.spvId l.spvs) .spvNotFound
  let amount := ⌊adjustment.amountEur * 100 + 1 / 2⌋₊
  let issuedAt := adjustment.issuedAt.getD l.today
  require (0 < amount ∧ 10 ≤ adjustment.noteLength ∧ adjustment.noteLength ≤ 2000) .invalidTerms
  require (issuedAt ≤ l.today) .issuedAtInFuture
  require (Date.dayBefore^[30] l.today ≤ issuedAt ∨ adjustment.allowBackdate = true) .issuedAtBackdated
  requireManualRow l adjustment
  let capacity ← saleCapacity l (.spv adjustment.spvId)
  require (adjustment.capOverride = true ∨ ¬ inWindow l issuedAt ∨ capacity.used + amount ≤ capacity.cap) .saleCapExceeded
  enforceSpvAnnualCap l spv adjustment amount issuedAt
  return { l with issuances := l.issuances ++
    [{ id := l.issuances.length, spvId := adjustment.spvId, assetPda := adjustment.assetPda, salePubkey := none,
       amountEur := amount, issuedAt, source := .manual }] }

end functions

/-! ## Runs -/

inductive CapacityLabel where
  | reserveSaleCapacity (request : SaleRequest)
  | confirmSaleReservation (id : Nat)
  | consumeSaleReservation (id : Nat) (salePda : Pubkey) (saleGrossMax : Nat)
  | bookSaleReservation (id gross : Nat) (issuedAt : Option Date) (insertFails : Bool)
  | releaseSaleReservation (id : Nat) (reason : ReleaseReason)
  | adoptSaleApproval (chain : OnChainApproval) (spvId : Option Nat)
  | reserveTreasuryMintCapacity (request : TreasuryRequest)
  | bookTreasuryMint (id : Nat) (signature : String) (issuedAt : Option Date) (insertFails : Bool)
  | adoptTreasuryMint (chain : OnChainMint) (spvId : Option Nat) (issuedAt : Option Date)
  | recordSpvAdjustment (adjustment : Adjustment)
  | registerSpv (spv : Spv)
  | setSpvIssuer (id : Nat) (issuerPda : Option Pubkey)
  | setAssetProfile (asset : Pubkey) (spvId : Option Nat)
  | setFxRate (mint : Pubkey) (rate : Option FxRate)
  | setFxAutoRate (mint : Pubkey) (rate : Option FxAutoRate)
  | setApplication (id : Nat) (application : Option LaunchApplication)
  | setSalePrice (shareClass : Pubkey) (price : Option (Nat × Pubkey))
  | indexSale (salePda : Pubkey) (closeDate : Option Date)
  | setHolds (holds : List (Subject × String))
  | tick (seconds : Nat) (today : Date)

def step (l : Ledger) : CapacityLabel → Except CapacityError Ledger
  | .reserveSaleCapacity request => Prod.fst <$> reserveSaleCapacity l request
  | .confirmSaleReservation id => Prod.fst <$> confirmSaleReservation l id
  | .consumeSaleReservation id salePda saleGrossMax => Prod.fst <$> consumeSaleReservation l id salePda saleGrossMax
  | .bookSaleReservation id gross issuedAt insertFails => Prod.fst <$> bookSaleReservation l id gross issuedAt insertFails
  | .releaseSaleReservation id reason => Prod.fst <$> releaseSaleReservation l id reason
  | .adoptSaleApproval chain spvId => Prod.fst <$> adoptSaleApproval l chain spvId
  | .reserveTreasuryMintCapacity request => Prod.fst <$> reserveTreasuryMintCapacity l request
  | .bookTreasuryMint id signature issuedAt insertFails => Prod.fst <$> bookTreasuryMint l id signature issuedAt insertFails
  | .adoptTreasuryMint chain spvId issuedAt => Prod.fst <$> adoptTreasuryMint l chain spvId issuedAt
  | .recordSpvAdjustment adjustment => recordSpvAdjustment l adjustment
  | .registerSpv spv => do
      require (lookup Spv.id spv.id l.spvs = none) .uniqueViolation
      return { l with spvs := l.spvs ++ [spv] }
  | .setSpvIssuer id issuerPda =>
      .ok { l with spvs := l.spvs.map fun spv => if spv.id = id then { spv with issuerPda } else spv }
  | .setAssetProfile asset spvId => .ok { l with assetProfiles := Function.update l.assetProfiles asset spvId }
  | .setFxRate mint rate => .ok { l with fxRates := Function.update l.fxRates mint rate }
  | .setFxAutoRate mint rate => .ok { l with fxAutoRates := Function.update l.fxAutoRates mint rate }
  | .setApplication id application => .ok { l with applications := Function.update l.applications id application }
  | .setSalePrice shareClass price => .ok { l with salePrices := Function.update l.salePrices shareClass price }
  | .indexSale salePda closeDate =>
      .ok { l with
        indexedSales := salePda :: l.indexedSales
        closeDates := Function.update l.closeDates salePda closeDate }
  | .setHolds holds => .ok { l with holds }
  | .tick seconds today => do
      require (l.today ≤ today) .invalidTerms
      return { l with now := l.now + seconds, today }

end Mancipatio.Capacity
