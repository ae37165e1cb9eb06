import Mancipatio.Basic
import Mancipatio.Library.Execution
import Mancipatio.Library.Ledger

/-!
# Offers

A maker escrows units of a share class for sale at a fixed price; anyone may open, fund and take an
offer, and after its expiry anyone may send the units back.
-/

namespace Mancipatio.Offers
open Checked Execution Ledger

inductive OfferStatus where
  | open
  | filled
  | cancelled
  | expired
  deriving DecidableEq, Repr

structure Offer where
  maker : Pubkey
  mint : Pubkey
  paymentMint : Pubkey
  amount : Nat
  price : Nat
  status : OfferStatus
  expiresAt : Int
  deposited : Nat
  deriving DecidableEq, Repr

def createOffer (mintInitialized used : Bool) (pauseFlags : PauseFlags) (maker mint paymentMint : Pubkey)
    (amount price : Nat) (expiresAt now : Int) : Except RegistryError Offer := do
  require (mintInitialized = true) .mintNotInitialized
  require (used = false) .accountAlreadyInUse
  require (¬ isPaused pauseFlags pauseSecondary) .platformPaused
  require (0 < amount ∧ 0 < price) .invalidOfferParams
  require (expiresAt = 0 ∨ now < expiresAt) .invalidExpiry
  return { maker, mint, paymentMint, amount, price, status := .open, expiresAt, deposited := 0 }

/-- The only credit of the deposit ledger, up to what the offer sells. -/
def depositToOfferEscrow (offer : Offer) (maker : Pubkey) (pauseFlags : PauseFlags) (amount : Nat) :
    Except RegistryError Offer := do
  require (offer.maker = maker) .unauthorized
  require (offer.status = .open) .offerNotOpen
  require (¬ isPaused pauseFlags pauseSecondary) .platformPaused
  require (0 < amount) .invalidDepositAmount
  let projected ← okOr (checkedAdd 64 offer.deposited amount) .overflow
  require (projected ≤ offer.amount) .invalidDepositAmount
  return { offer with deposited := projected }

def takeOffer (offer : Offer) (pauseFlags : PauseFlags) (takerBlocked makerBlocked : Bool) (receiver : ReceiverKyc)
    (now : Int) : Except RegistryError Offer := do
  require (offer.status = .open) .offerNotOpen
  require (¬ isPaused pauseFlags pauseSecondary) .platformPaused
  require (takerBlocked = false ∧ makerBlocked = false) .partyBlocklisted
  require (offer.expiresAt = 0 ∨ now ≤ offer.expiresAt) .offerExpired
  require (offer.amount ≤ offer.deposited) .offerNotFunded
  receiver
  return { offer with deposited := offer.deposited - offer.amount, status := .filled }

/-- The refund that cancelling and expiring share. It never asks for the maker's own units. -/
def release (offer : Offer) (status : OfferStatus) (escrow : Nat) (receiver : ReceiverKyc) : Offer × EscrowRelease :=
  let release := splitEscrowRelease escrow offer.deposited receiver
  ({ offer with deposited := offer.deposited - release.fromLedger, status }, release)

def cancelOffer (offer : Offer) (maker : Pubkey) (escrow : Nat) (receiver : ReceiverKyc) :
    Except RegistryError (Offer × EscrowRelease) := do
  require (offer.maker = maker) .unauthorized
  require (offer.status = .open) .offerNotOpen
  return release offer .cancelled escrow receiver

def expireOffer (offer : Offer) (escrow : Nat) (receiver : ReceiverKyc) (now : Int) :
    Except RegistryError (Offer × EscrowRelease) := do
  require (offer.status = .open) .offerNotOpen
  require (0 < offer.expiresAt ∧ offer.expiresAt < now) .offerNotExpired
  return release offer .expired escrow receiver

/-! ## The market -/

abbrev OfferKey := Pubkey × BitVec 64

inductive Address where
  | key (key : Pubkey)
  | offer (key : OfferKey)
  | escrow (key : OfferKey)
  deriving DecidableEq

/-- A reclaimed offer leaves a tag behind, so its address is never used again. -/
inductive OfferAccount where
  | live (offer : Offer)
  | tombstone
  deriving DecidableEq, Repr

structure Market where
  offers : OfferKey → Option OfferAccount
  shares : Accounts Address
  payments : Accounts Address
  blocked : Address → Bool
  now : Int

inductive OfferInstruction where
  | createOffer (mintInitialized : Bool) (pauseFlags : PauseFlags) (maker mint paymentMint : Pubkey) (key : OfferKey)
      (amount price : Nat) (expiresAt : Int)
  | depositToOfferEscrow (maker : Pubkey) (pauseFlags : PauseFlags) (key : OfferKey) (source : Address) (amount : Nat)
  | takeOffer (taker : Pubkey) (pauseFlags : PauseFlags) (receiver : ReceiverKyc) (key : OfferKey)
      (takerShares : Address) (immutableOwner : Bool) (takerPayment makerPayment : Address)
  | cancelOffer (maker : Pubkey) (receiver : ReceiverKyc) (key : OfferKey) (makerShares : Address) (immutableOwner : Bool)
  | expireOffer (receiver : ReceiverKyc) (key : OfferKey) (makerShares : Address) (immutableOwner : Bool)
  | reclaimRent (key : OfferKey)
  -- whatever the token programs and the blocklist let others do
  | setShares (key : Pubkey) (account : Option (TokenAccount Address))
  | setPayments (key : Pubkey) (account : Option (TokenAccount Address))
  | inboundTransfer (key : OfferKey) (amount : Nat)
  | setBlocked (wallet : Address) (blocked : Bool)
  | tick (seconds : Nat)

instance : Inhabited OfferInstruction := ⟨.tick 0⟩

def liveOffer (m : Market) (key : OfferKey) : Except RegistryError Offer :=
  match m.offers key with
  | some (.live offer) => .ok offer
  | _ => .error .accountNotInitialized

def holderAccount (accounts : Accounts Address) (address owner : Address) (mint : Pubkey) :
    Except RegistryError (TokenAccount Address) := do
  let account ← okOr (accounts address) .accountNotInitialized
  require (account.mint = .key mint ∧ account.owner = owner) .unauthorized
  return account

/-- The hook refuses a blocked source, and a destination whose owner could be reassigned. -/
def hookTransfer (m : Market) (mint : Pubkey) (source authority destination : Address) (immutableOwner : Bool)
    (amount : Nat) : Except RegistryError (Accounts Address) := do
  let shares ← transfer .insufficientFunds (.key mint) source authority m.shares destination amount
  require (immutableOwner = true) .immutableOwnerRequired
  require (m.blocked authority = false) .senderBlocked
  return shares

def payOut (m : Market) (mint : Pubkey) (key : OfferKey) (destination : Address) (immutableOwner : Bool) (payout : Nat) :
    Except RegistryError (Accounts Address) :=
  if 0 < payout then
    hookTransfer m mint (.escrow key) (.offer key) destination immutableOwner payout
  else
    .ok m.shares

def step (m : Market) : OfferInstruction → Except RegistryError Market
  | .createOffer mintInitialized pauseFlags maker mint paymentMint key amount price expiresAt => do
      let offer ← createOffer mintInitialized (m.offers key).isSome pauseFlags maker mint paymentMint amount price
        expiresAt m.now
      require (m.shares (.escrow key) = none) .accountAlreadyInUse
      return { m with
        offers := Function.update m.offers key (some (.live offer))
        shares := Function.update m.shares (.escrow key)
          (some { mint := .key mint, owner := .offer key, amount := 0, frozen := false }) }
  | .depositToOfferEscrow maker pauseFlags key source amount => do
      let offer ← liveOffer m key
      let _ ← holderAccount m.shares source (.key maker) offer.mint
      let deposited ← depositToOfferEscrow offer maker pauseFlags amount
      let shares ← hookTransfer m offer.mint source (.key maker) (.escrow key) true amount
      return { m with offers := Function.update m.offers key (some (.live deposited)), shares }
  | .takeOffer taker pauseFlags receiver key takerShares immutableOwner takerPayment makerPayment => do
      let offer ← liveOffer m key
      let _ ← holderAccount m.shares takerShares (.key taker) offer.mint
      let _ ← holderAccount m.payments takerPayment (.key taker) offer.paymentMint
      let _ ← holderAccount m.payments makerPayment (.key offer.maker) offer.paymentMint
      let filled ← takeOffer offer pauseFlags (m.blocked (.key taker)) (m.blocked (.key offer.maker)) receiver m.now
      let payments ←
        transfer .insufficientFunds (.key offer.paymentMint) takerPayment (.key taker) m.payments makerPayment offer.price
      let shares ← hookTransfer m offer.mint (.escrow key) (.offer key) takerShares immutableOwner offer.amount
      return { m with offers := Function.update m.offers key (some (.live filled)), shares, payments }
  | .cancelOffer maker receiver key makerShares immutableOwner => do
      let offer ← liveOffer m key
      let escrow ← okOr (m.shares (.escrow key)) .accountNotInitialized
      let _ ← holderAccount m.shares makerShares (.key offer.maker) offer.mint
      let (cancelled, release) ← cancelOffer offer maker escrow.amount receiver
      let shares ← payOut m offer.mint key makerShares immutableOwner release.payout
      return { m with offers := Function.update m.offers key (some (.live cancelled)), shares }
  | .expireOffer receiver key makerShares immutableOwner => do
      let offer ← liveOffer m key
      let escrow ← okOr (m.shares (.escrow key)) .accountNotInitialized
      let _ ← holderAccount m.shares makerShares (.key offer.maker) offer.mint
      let (expired, release) ← expireOffer offer escrow.amount receiver m.now
      let shares ← payOut m offer.mint key makerShares immutableOwner release.payout
      return { m with offers := Function.update m.offers key (some (.live expired)), shares }
  | .reclaimRent key => do
      let offer ← liveOffer m key
      require (offer.status ≠ .open) .accountNotClosable
      let escrow ← okOr (m.shares (.escrow key)) .accountNotInitialized
      require (escrow.amount = 0) .escrowNotEmpty
      return { m with
        offers := Function.update m.offers key (some .tombstone)
        shares := Function.update m.shares (.escrow key) none }
  | .setShares key account => return { m with shares := Function.update m.shares (.key key) account }
  | .setPayments key account => return { m with payments := Function.update m.payments (.key key) account }
  | .inboundTransfer key amount => do
      let escrow ← okOr (m.shares (.escrow key)) .accountNotInitialized
      return { m with
        shares := Function.update m.shares (.escrow key) (some { escrow with amount := escrow.amount + amount }) }
  | .setBlocked wallet blocked => return { m with blocked := Function.update m.blocked wallet blocked }
  | .tick seconds => return { m with now := m.now + seconds }

def market (shares payments : Pubkey → Option (TokenAccount Address)) (blocked : Address → Bool) (now : Int) : Market :=
  { offers := fun _ => none
    shares := fun | .key key => shares key | _ => none
    payments := fun | .key key => payments key | _ => none
    blocked, now }

end Mancipatio.Offers
