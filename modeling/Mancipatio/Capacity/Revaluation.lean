import Mancipatio.Capacity.Counting

/-!
# Revaluation

A row that was counted at a stale rate is held until it is counted anew at the effective one, never lower. The
value of a treasury mint that nobody reserved may be set by hand.
-/

namespace Mancipatio.Capacity
open Checked Rows Execution

/-- The ledger, and the mints whose `adopted_from` says that nobody had reserved them. -/
structure Books where
  ledger : Ledger
  unreserved : List Nat

section functions
variable (l : Ledger)

def FxRate.staleAt (fx : FxRate) (now : Int) : Prop :=
  fx.kind = .rate ∧ fx.asOf < now - fx.maxAge
  deriving Decidable

structure MintFloor where
  floorEur : Nat
  fxMissing : Bool
  fxStale : Bool
  deriving DecidableEq, Repr

def mintFloor (shareClass : Pubkey) (amountUnits : Nat) : MintFloor :=
  match treasuryPrice l shareClass with
  | none => { floorEur := 100, fxMissing := false, fxStale := false }
  | some (price, mint) =>
      match fxEffectiveRate l mint with
      | none => { floorEur := 100, fxMissing := true, fxStale := false }
      | some fx =>
          { floorEur := max 100 (saleCapacityEur (amountUnits * price) fx.eurPerToken fx.decimals), fxMissing := false,
            fxStale := fx.staleAt l.now }

def Reservation.fxRevalueHold (r : Reservation) : Subject × String :=
  (r.subject, "FX_REVALUE " ++ toString r.id)

def Reservation.revaluedLive (r : Reservation) (terms : SaleTerms) (rate : Rate) : Reservation :=
  { r with
    kind := .sale { terms with fxRate := max terms.fxRate rate }
    amountEur := max r.amountEur (saleCapacityEur terms.maxGrossRaise (max terms.fxRate rate) terms.paymentDecimals) }

/-- A booked value, brought from the locked rate to another. -/
def rescaledEur (bookedEur : Nat) (rate locked : Rate) : Nat :=
  ⌈Decimals.div ((bookedEur : Rat) / 100 * rate.1) locked.1 12 10 * 100⌉₊

def Reservation.revaluedBooked (r : Reservation) (terms : SaleTerms) (rate : Rate) (bookedEur : Nat) (issuedAt : Date)
    (issuance : Option Nat) : Reservation :=
  { r with
    kind := .sale { terms with fxRate := max terms.fxRate rate }
    status := .booked (max bookedEur (rescaledEur bookedEur rate terms.fxRate)) issuedAt issuance }

def Reservation.valuedAt (r : Reservation) (amountEur : Nat) (issuedAt : Date) (issuance : Option Nat) : Reservation :=
  { r with amountEur, status := .booked amountEur issuedAt issuance }

def writeIssuance (issuance : Option Nat) (value : Nat → Nat) : Ledger :=
  { l with issuances := l.issuances.map fun i =>
      if some i.id = issuance then { i with amountEur := value i.amountEur } else i }

def clearHold (hold : Subject × String) : Ledger :=
  { l with holds := l.holds.filter fun other => other ≠ hold }

def revalued (unreserved : List Nat) (r : Reservation) : Except CapacityError (Ledger × Reservation) :=
  match r.kind with
  | .sale terms => do
      let fx ← okOr (fxEffectiveRate l terms.paymentMint) .fxRateMissing
      require (¬fx.staleAt l.now) .fxRateStale
      require (fx.decimals = terms.paymentDecimals) .fxDecimalsMismatch
      match r.status with
      | .reserved | .consumed => do
          let row := r.revaluedLive terms fx.eurPerToken
          return (← updateReservation l row, row)
      | .booked bookedEur issuedAt issuance =>
          if terms.fxRate < fx.eurPerToken then do
            let row := r.revaluedBooked terms fx.eurPerToken bookedEur issuedAt issuance
            let l' ← updateReservation l row
            return (writeIssuance l' issuance (max (max bookedEur (rescaledEur bookedEur fx.eurPerToken terms.fxRate))), row)
          else return (l, r)
      | .released _ => return (l, r)
  | .treasuryMint units _ =>
      match r.status with
      | .booked _ issuedAt issuance =>
          if r.adopted = true ∧ r.id ∈ unreserved then do
            let floor := mintFloor l r.shareClass units
            require (floor.fxMissing = false) .fxRateMissing
            require (floor.fxStale = false) .fxRateStale
            let amount := max r.amountEur floor.floorEur
            let row := r.valuedAt amount issuedAt issuance
            let l' ← updateReservation l row
            return (writeIssuance l' issuance (max amount), row)
          else return (l, r)
      | .reserved | .consumed | .released _ => return (l, r)

end functions

def revalueCapacityFx (b : Books) (id : Nat) : Except CapacityError (Books × Reply) := do
  let r ← findReservation b.ledger id
  let _ ← saleCapacityLock b.ledger r.spvId r.issuerPda
  require (r.fxRevalueHold ∈ b.ledger.holds) .noRevalueHold
  let (l, row) ← revalued b.ledger b.unreserved r
  let l' := clearHold l r.fxRevalueHold
  let capacity ← saleCapacity l' r.subject
  return ({ b with ledger := l' }, { row, overCap := capacity.overCap, capacity := some capacity })

/-- The value that a super admin sets for an unreserved mint; `reasonLength` is that of the trimmed reason. -/
def revalueTreasuryMint (b : Books) (id : Nat) (amountEur : Option Rat) (reasonLength : Nat) (by' : Option String) :
    Except CapacityError (Books × Reply) := do
  let r ← findReservation b.ledger id
  let _ ← saleCapacityLock b.ledger r.spvId r.issuerPda
  match r.kind, r.status with
  | .treasuryMint units _, .booked _ issuedAt issuance => do
      require (r.adopted = true ∧ r.id ∈ b.unreserved) .revalueNotAllowed
      let amount := ⌈amountEur.getD 0 * 100⌉₊
      require (0 < amount ∧ 10 ≤ reasonLength ∧ by' ≠ none) .invalidTerms
      require ((mintFloor b.ledger r.shareClass units).floorEur ≤ amount) .treasuryValueBelowFloor
      let row := r.valuedAt amount issuedAt issuance
      let l ← updateReservation b.ledger row
      let l' := writeIssuance l issuance fun _ => amount
      let capacity ← saleCapacity l' r.subject
      return ({ b with ledger := l' }, { row, overCap := capacity.overCap, capacity := some capacity })
  | _, _ => .error .revalueNotAllowed

inductive BooksLabel where
  | ledger (label : CapacityLabel)
  | revalueCapacityFx (id : Nat)
  | revalueTreasuryMint (id : Nat) (amountEur : Option Rat) (reasonLength : Nat) (by' : Option String)

def adoptedUnreserved (b : Books) : CapacityLabel → List Nat
  | .adoptTreasuryMint chain _ _ =>
      if ∃ r ∈ b.ledger.reservations, r.mintSignature = some chain.mintKey then b.unreserved else chain.id :: b.unreserved
  | _ => b.unreserved

def stepBooks (b : Books) : BooksLabel → Except CapacityError Books
  | .ledger label => do
      return { ledger := ← step b.ledger label, unreserved := adoptedUnreserved b label }
  | .revalueCapacityFx id => Prod.fst <$> revalueCapacityFx b id
  | .revalueTreasuryMint id amountEur reasonLength by' => Prod.fst <$> revalueTreasuryMint b id amountEur reasonLength by'

end Mancipatio.Capacity
