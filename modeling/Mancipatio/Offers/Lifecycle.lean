import Mancipatio.Offers.Offer

/-!
# The life of an offer
-/

namespace Mancipatio.Offers
open Checked Execution Ledger

/-! ## What a step does -/

def OfferInstruction.ends (key : OfferKey) : OfferInstruction → Option OfferStatus
  | .takeOffer _ _ _ key' _ _ _ _ => if key' = key then some .filled else none
  | .cancelOffer _ _ key' _ _ => if key' = key then some .cancelled else none
  | .expireOffer _ key' _ _ => if key' = key then some .expired else none
  | _ => none

def OfferInstruction.isOutside : OfferInstruction → Bool
  | .setShares _ _ | .setPayments _ _ | .inboundTransfer _ _ | .setBlocked _ _ | .tick _ => true
  | _ => false

def Untouched (shares shares' : Accounts Address) (key : OfferKey) : Prop :=
  (shares' (.escrow key)).map TokenAccount.holder = (shares (.escrow key)).map TokenAccount.holder ∧
    balance shares (.escrow key) ≤ balance shares' (.escrow key)

def payout (offer : Offer) (escrow : Nat) (receiver : ReceiverKyc) : Nat :=
  (splitEscrowRelease escrow offer.deposited receiver).payout

inductive Effect (m : Market) : OfferInstruction → Market → Prop
  | created {mintInitialized pauseFlags maker mint paymentMint key amount price expiresAt offer} :
      m.offers key = none → offer.mint = mint → offer.status = .open → offer.deposited = 0 →
      Effect m (.createOffer mintInitialized pauseFlags maker mint paymentMint key amount price expiresAt)
        { m with
          offers := Function.update m.offers key (some (.live offer))
          shares := Function.update m.shares (.escrow key)
            (some { mint := .key mint, owner := .offer key, amount := 0, frozen := false }) }
  | deposited {maker pauseFlags key source amount offer shares} : m.offers key = some (.live offer) →
      offer.status = .open → offer.deposited + amount ≤ offer.amount →
      transfer RegistryError.insufficientFunds (.key offer.mint) source (.key maker) m.shares (.escrow key) amount =
        .ok shares →
      Effect m (.depositToOfferEscrow maker pauseFlags key source amount)
        { m with
          offers := Function.update m.offers key (some (.live { offer with deposited := offer.deposited + amount }))
          shares }
  | taken {taker pauseFlags receiver key takerShares immutableOwner takerPayment makerPayment offer shares payments} :
      m.offers key = some (.live offer) → offer.status = .open → (offer.expiresAt = 0 ∨ m.now ≤ offer.expiresAt) →
      offer.amount ≤ offer.deposited →
      (∃ account, m.shares takerShares = some account ∧ account.owner = .key taker) →
      (∃ account, m.payments makerPayment = some account ∧ account.owner = .key offer.maker) →
      transfer RegistryError.insufficientFunds (.key offer.paymentMint) takerPayment (.key taker) m.payments makerPayment
        offer.price = .ok payments →
      transfer RegistryError.insufficientFunds (.key offer.mint) (.escrow key) (.offer key) m.shares takerShares
        offer.amount = .ok shares →
      Effect m (.takeOffer taker pauseFlags receiver key takerShares immutableOwner takerPayment makerPayment)
        { m with
          offers := Function.update m.offers key
            (some (.live { offer with deposited := offer.deposited - offer.amount, status := .filled }))
          shares, payments }
  | returned {instruction key status makerShares receiver offer shares} : instruction.ends key = some status →
      status ≠ .open → status ≠ .filled → m.offers key = some (.live offer) → offer.status = .open →
      (status = .expired → 0 < offer.expiresAt ∧ offer.expiresAt < m.now) →
      sweep RegistryError.insufficientFunds (.key offer.mint) (.escrow key) (.offer key) m.shares makerShares
        (payout offer (balance m.shares (.escrow key)) receiver) = .ok shares →
      Effect m instruction
        { m with
          offers := Function.update m.offers key (some (.live { offer with
            deposited := offer.deposited - min (balance m.shares (.escrow key)) offer.deposited, status }))
          shares }
  | reclaimed {key offer} : m.offers key = some (.live offer) → offer.status ≠ .open →
      Effect m (.reclaimRent key)
        { m with
          offers := Function.update m.offers key (some .tombstone)
          shares := Function.update m.shares (.escrow key) none }
  | outside {instruction shares payments blocked now} : instruction.isOutside = true →
      (∀ key, Untouched m.shares shares key) →
      Effect m instruction { m with shares, payments, blocked, now }

section inversion
variable {m m' : Market}

theorem liveOffer_ok {key : OfferKey} {offer : Offer} (live : liveOffer m key = .ok offer) :
    m.offers key = some (.live offer) := by
  unfold liveOffer at live
  split at live
  · next found =>
      cases live
      exact found
  · cases live

theorem holderAccount_ok {accounts : Accounts Address} {address owner : Address} {mint : Pubkey}
    {account : TokenAccount Address} (held : holderAccount accounts address owner mint = .ok account) :
    accounts address = some account ∧ account.mint = .key mint ∧ account.owner = owner := by
  simp only [holderAccount, bind_eq_ok, okOr_eq_ok, require_eq_ok, pure_eq_ok, exists_const] at held
  obtain ⟨account', found, own, rfl⟩ := held
  exact ⟨found, own⟩

theorem hookTransfer_ok {mint : Pubkey} {source authority destination : Address} {immutableOwner : Bool} {amount : Nat}
    {shares : Accounts Address}
    (moved : hookTransfer m mint source authority destination immutableOwner amount = .ok shares) :
    transfer RegistryError.insufficientFunds (.key mint) source authority m.shares destination amount = .ok shares := by
  simp only [hookTransfer, bind_eq_ok, require_eq_ok, pure_eq_ok, exists_const] at moved
  obtain ⟨shares', moved, -, -, rfl⟩ := moved
  exact moved

theorem payOut_ok {mint : Pubkey} {key : OfferKey} {destination : Address} {immutableOwner : Bool} {payout : Nat}
    {shares : Accounts Address} (paid : payOut m mint key destination immutableOwner payout = .ok shares) :
    sweep RegistryError.insufficientFunds (.key mint) (.escrow key) (.offer key) m.shares destination payout = .ok shares := by
  unfold payOut at paid
  unfold sweep
  split at paid
  · next some' =>
      rw [if_pos some']
      exact hookTransfer_ok paid
  · next none' =>
      rw [if_neg none']
      exact paid

theorem untouched_update_of_ne {shares : Accounts Address} {key : OfferKey} {address : Address}
    {account : Option (TokenAccount Address)} (apart : Address.escrow key ≠ address) :
    Untouched shares (Function.update shares address account) key := by
  constructor
  · rw [Function.update_of_ne apart]
  · rw [balance_update_of_ne apart]

theorem inboundTransfer_effect {key : OfferKey} {amount : Nat} (stepped : step m (.inboundTransfer key amount) = .ok m') :
    Effect m (.inboundTransfer key amount) m' := by
  simp only [step, bind_eq_ok, okOr_eq_ok, pure_eq_ok] at stepped
  obtain ⟨escrow, held, rfl⟩ := stepped
  apply Effect.outside rfl
  intro other
  by_cases same : Address.escrow other = Address.escrow key
  · rw [Untouched, same, Function.update_self, held, balance_update_self, balance_of_held held]
    exact ⟨rfl, Nat.le_add_right _ _⟩
  · exact untouched_update_of_ne same

theorem takeOffer_effect {taker : Pubkey} {pauseFlags : PauseFlags} {receiver : ReceiverKyc} {key : OfferKey}
    {takerShares takerPayment makerPayment : Address} {immutableOwner : Bool}
    (stepped : step m (.takeOffer taker pauseFlags receiver key takerShares immutableOwner takerPayment makerPayment) =
      .ok m') :
    Effect m (.takeOffer taker pauseFlags receiver key takerShares immutableOwner takerPayment makerPayment) m' := by
  simp only [step, takeOffer, bind_eq_ok, require_eq_ok, pure_eq_ok, exists_const] at stepped
  obtain ⟨offer, live, account, shareAccount, -, -, payee, payeeAccount, filled,
    ⟨open', -, -, running, funded, -, -, rfl⟩, payments, paid, shares, moved, rfl⟩ := stepped
  obtain ⟨found, -, owner⟩ := holderAccount_ok shareAccount
  obtain ⟨payee', -, payeeOwner⟩ := holderAccount_ok payeeAccount
  exact .taken (liveOffer_ok live) open' running funded ⟨account, found, owner⟩ ⟨payee, payee', payeeOwner⟩ paid
    (hookTransfer_ok moved)

theorem step_effect {instruction : OfferInstruction} (stepped : step m instruction = .ok m') : Effect m instruction m' := by
  cases instruction with
  | createOffer mintInitialized pauseFlags maker mint paymentMint key amount price expiresAt =>
      simp only [step, createOffer, bind_eq_ok, require_eq_ok, pure_eq_ok, exists_const] at stepped
      obtain ⟨offer, ⟨-, unused, -, -, -, rfl⟩, -, rfl⟩ := stepped
      exact .created (Option.isNone_iff_eq_none.mp (by simpa using unused)) rfl rfl rfl
  | depositToOfferEscrow maker pauseFlags key source amount =>
      simp only [step, depositToOfferEscrow, bind_eq_ok, require_eq_ok, okOr_eq_ok, checkedAdd_eq_some, pure_eq_ok,
        exists_const] at stepped
      obtain ⟨offer, live, -, -, deposited, ⟨-, open', -, -, _, ⟨rfl, -⟩, within, rfl⟩, shares, moved, rfl⟩ := stepped
      exact .deposited (liveOffer_ok live) open' within (hookTransfer_ok moved)
  | takeOffer => exact takeOffer_effect stepped
  | cancelOffer maker receiver key makerShares immutableOwner =>
      simp only [step, cancelOffer, release, bind_eq_ok, require_eq_ok, okOr_eq_ok, pure_eq_ok, exists_const,
        Prod.exists, Prod.mk.injEq] at stepped
      obtain ⟨offer, live, escrow, held, -, -, cancelled, released, ⟨-, open', rfl, rfl⟩, shares, paid, rfl⟩ := stepped
      rw [splitEscrowRelease_fromLedger, ← balance_of_held held]
      rw [← balance_of_held held] at paid
      exact .returned (if_pos rfl) (by decide) (by decide) (liveOffer_ok live) open' (by intro h; cases h) (payOut_ok paid)
  | expireOffer receiver key makerShares immutableOwner =>
      simp only [step, expireOffer, release, bind_eq_ok, require_eq_ok, okOr_eq_ok, pure_eq_ok, exists_const,
        Prod.exists, Prod.mk.injEq] at stepped
      obtain ⟨offer, live, escrow, held, -, -, expired, released, ⟨open', ended, rfl, rfl⟩, shares, paid, rfl⟩ := stepped
      rw [splitEscrowRelease_fromLedger, ← balance_of_held held]
      rw [← balance_of_held held] at paid
      exact .returned (if_pos rfl) (by decide) (by decide) (liveOffer_ok live) open' (fun _ => ended) (payOut_ok paid)
  | reclaimRent key =>
      simp only [step, bind_eq_ok, require_eq_ok, okOr_eq_ok, pure_eq_ok, exists_const] at stepped
      obtain ⟨offer, live, ended, -, -, -, rfl⟩ := stepped
      exact .reclaimed (liveOffer_ok live) ended
  | setShares key account =>
      simp only [step, pure_eq_ok] at stepped
      subst stepped
      exact .outside rfl fun other => untouched_update_of_ne (by simp)
  | inboundTransfer => exact inboundTransfer_effect stepped
  | setPayments | setBlocked | tick =>
      simp only [step, pure_eq_ok] at stepped
      subst stepped
      exact .outside rfl fun other => ⟨rfl, Nat.le_refl _⟩

end inversion

/-! ## The books of the offers -/

structure Sound (m : Market) : Prop where
  escrowed : ∀ key offer, m.offers key = some (.live offer) → offer.status = .open →
    ∃ account, m.shares (.escrow key) = some account ∧ account.holder = (.key offer.mint, .offer key, false) ∧
      offer.deposited ≤ account.amount
  owned : ∀ key account, m.shares (.escrow key) = some account → account.owner = .offer key
  recorded : ∀ key offer, m.offers key = some (.live offer) → offer.deposited ≤ offer.amount

theorem sound_market (shares payments : Pubkey → Option (TokenAccount Address)) (blocked : Address → Bool) (now : Int) :
    Sound (market shares payments blocked now) where
  escrowed := by simp [market]
  owned := by simp [market]
  recorded := by simp [market]

section books
variable {m m' : Market} {shares : Accounts Address} {key : OfferKey}

theorem transfer_untouched {mint source authority destination : Address} {amount : Nat} (apart : Address.escrow key ≠ source)
    (moved : transfer RegistryError.insufficientFunds mint source authority m.shares destination amount = .ok shares) :
    Untouched m.shares shares key :=
  ⟨transfer_holder moved _, (transfer_kept apart moved).2⟩

theorem sweep_untouched {mint source authority destination : Address} {amount : Nat} (apart : Address.escrow key ≠ source)
    (swept : sweep RegistryError.insufficientFunds mint source authority m.shares destination amount = .ok shares) :
    Untouched m.shares shares key :=
  ⟨sweep_holder swept _, (sweep_kept apart swept).2⟩

theorem escrow_ne {other : OfferKey} (apart : other ≠ key) : Address.escrow other ≠ Address.escrow key :=
  fun same => apart (Address.escrow.inj same)

theorem source_ne (sound : Sound m) {mint source destination : Address} {wallet : Pubkey} {amount : Nat} (key : OfferKey)
    (moved : transfer RegistryError.insufficientFunds mint source (.key wallet) m.shares destination amount = .ok shares) :
    Address.escrow key ≠ source := by
  rintro rfl
  obtain ⟨payer, -, held, -, ⟨-, -, owner⟩, -⟩ := transfer_ok moved
  have owned := sound.owned key payer held
  rw [owner] at owned
  cases owned

theorem escrowed_kept (sound : Sound m) {offer : Offer} (live : m.offers key = some (.live offer))
    (open' : offer.status = .open) (untouched : Untouched m.shares shares key) :
    ∃ account, shares (.escrow key) = some account ∧ account.holder = (.key offer.mint, .offer key, false) ∧
      offer.deposited ≤ account.amount := by
  obtain ⟨account, held, holder, covered⟩ := sound.escrowed key offer live open'
  refine ⟨_, held_of_holder held untouched.1, holder, covered.trans ?_⟩
  rw [← balance_of_held held]
  exact untouched.2

theorem owned_kept (sound : Sound m)
    (same : (shares (.escrow key)).map TokenAccount.holder = (m.shares (.escrow key)).map TokenAccount.holder)
    {account : TokenAccount Address} (held : shares (.escrow key) = some account) : account.owner = .offer key := by
  rw [held, Option.map_some] at same
  obtain ⟨before, held', holder⟩ := Option.map_eq_some_iff.mp same.symm
  have owner : before.owner = account.owner := congrArg (fun h : Address × Address × Bool => h.2.1) holder
  rw [← owner]
  exact sound.owned key before held'

theorem sound_rewritten (sound : Sound m) {payments : Accounts Address} {offer' : Offer}
    (holder : ∀ other, (shares (.escrow other)).map TokenAccount.holder = (m.shares (.escrow other)).map TokenAccount.holder)
    (others : ∀ other, other ≠ key → Untouched m.shares shares other) (recorded : offer'.deposited ≤ offer'.amount)
    (escrowed : offer'.status = .open → ∃ account, shares (.escrow key) = some account ∧
      account.holder = (.key offer'.mint, .offer key, false) ∧ offer'.deposited ≤ account.amount) :
    Sound { m with offers := Function.update m.offers key (some (.live offer')), shares, payments } where
  escrowed := by
    intro other row found open'
    rcases updated_row found with ⟨rfl, new⟩ | ⟨apart, old⟩
    · obtain rfl := OfferAccount.live.inj new
      exact escrowed open'
    · exact escrowed_kept sound old open' (others other apart)
  owned := fun other account held => owned_kept sound (holder other) held
  recorded := by
    intro other row found
    rcases updated_row found with ⟨rfl, new⟩ | ⟨-, old⟩
    · obtain rfl := OfferAccount.live.inj new
      exact recorded
    · exact sound.recorded other row old

theorem sound_step {instruction : OfferInstruction} (sound : Sound m) (stepped : step m instruction = .ok m') :
    Sound m' := by
  cases step_effect stepped with
  | @created _ _ maker mint paymentMint key amount price expiresAt offer unused sells open' empty =>
      refine ⟨?_, ?_, ?_⟩
      · intro other row found running
        rcases updated_row found with ⟨rfl, new⟩ | ⟨apart, old⟩
        · obtain rfl := OfferAccount.live.inj new
          refine ⟨_, Function.update_self _ _ _, ?_, ?_⟩
          · rw [sells]
            rfl
          · rw [empty]
        · exact escrowed_kept sound old running (untouched_update_of_ne (escrow_ne apart))
      · intro other account held
        rcases updated_row held with ⟨same, rfl⟩ | ⟨-, old⟩
        · rw [Address.escrow.inj same]
        · exact sound.owned other account old
      · intro other row found
        rcases updated_row found with ⟨rfl, new⟩ | ⟨-, old⟩
        · obtain rfl := OfferAccount.live.inj new
          rw [empty]
          exact Nat.zero_le _
        · exact sound.recorded other row old
  | @deposited maker _ key source amount offer shares live open' within moved =>
      have untouched := fun other => transfer_untouched (source_ne sound other moved) moved
      apply sound_rewritten sound (fun other => transfer_holder moved (.escrow other)) (fun other _ => untouched other) within
      intro _
      obtain ⟨account, held, holder, covered⟩ := sound.escrowed key offer live open'
      refine ⟨_, held_of_holder held (transfer_holder moved _), holder, ?_⟩
      have gained := transfer_balance moved (.escrow key)
      rw [if_neg (source_ne sound key moved), if_pos rfl, balance_of_held held] at gained
      dsimp only
      omega
  | @taken _ _ _ key _ _ _ _ offer shares payments live open' running funded _ _ paid moved =>
      have left := (Nat.sub_le offer.deposited offer.amount).trans (sound.recorded key offer live)
      apply sound_rewritten sound (fun other => transfer_holder moved (.escrow other)) _ left
      · intro status
        cases status
      · intro other apart
        exact transfer_untouched (escrow_ne apart) moved
  | @returned _ key status makerShares receiver offer shares _ ended _ live _ _ swept =>
      have left := (Nat.sub_le offer.deposited (min (balance m.shares (.escrow key)) offer.deposited)).trans
        (sound.recorded key offer live)
      apply sound_rewritten sound (fun other => sweep_holder swept (.escrow other)) _ left
      · intro status
        exact absurd status ended
      · intro other apart
        exact sweep_untouched (escrow_ne apart) swept
  | @reclaimed key offer live ended =>
      refine ⟨?_, ?_, ?_⟩
      · intro other row found running
        rcases updated_row found with ⟨rfl, new⟩ | ⟨apart, old⟩
        · cases new
        · exact escrowed_kept sound old running (untouched_update_of_ne (escrow_ne apart))
      · intro other account held
        rcases updated_cases held with ⟨-, new⟩ | ⟨-, old⟩
        · cases new
        · exact sound.owned other account old
      · intro other row found
        rcases updated_row found with ⟨rfl, new⟩ | ⟨-, old⟩
        · cases new
        · exact sound.recorded other row old
  | outside _ untouched =>
      exact
        { escrowed := fun key offer live open' => escrowed_kept sound live open' (untouched key)
          owned := fun key account held => owned_kept sound (untouched key).1 held
          recorded := sound.recorded }

end books

/-! ## The end of an offer -/

def Ended (m : Market) (key : OfferKey) : Prop :=
  ∃ account, m.offers key = some account ∧ ∀ offer, account = .live offer → offer.status ≠ .open

section ending
variable {m m' : Market} {key : OfferKey} {instruction : OfferInstruction} {status : OfferStatus}

theorem ends_eq_some (ends : instruction.ends key = some status) :
    (∃ taker pauseFlags receiver takerShares immutableOwner takerPayment makerPayment, status = .filled ∧
      instruction = .takeOffer taker pauseFlags receiver key takerShares immutableOwner takerPayment makerPayment) ∨
    (∃ maker receiver makerShares immutableOwner, status = .cancelled ∧
      instruction = .cancelOffer maker receiver key makerShares immutableOwner) ∨
    ∃ receiver makerShares immutableOwner, status = .expired ∧
      instruction = .expireOffer receiver key makerShares immutableOwner := by
  cases instruction with
  | takeOffer taker pauseFlags receiver key' takerShares immutableOwner takerPayment makerPayment =>
      simp only [OfferInstruction.ends, Option.ite_none_right_eq_some, Option.some.injEq] at ends
      obtain ⟨rfl, rfl⟩ := ends
      exact .inl ⟨taker, pauseFlags, receiver, takerShares, immutableOwner, takerPayment, makerPayment, rfl, rfl⟩
  | cancelOffer maker receiver key' makerShares immutableOwner =>
      simp only [OfferInstruction.ends, Option.ite_none_right_eq_some, Option.some.injEq] at ends
      obtain ⟨rfl, rfl⟩ := ends
      exact .inr (.inl ⟨maker, receiver, makerShares, immutableOwner, rfl, rfl⟩)
  | expireOffer receiver key' makerShares immutableOwner =>
      simp only [OfferInstruction.ends, Option.ite_none_right_eq_some, Option.some.injEq] at ends
      obtain ⟨rfl, rfl⟩ := ends
      exact .inr (.inr ⟨receiver, makerShares, immutableOwner, rfl, rfl⟩)
  | _ => cases ends

theorem ends_step (stepped : step m instruction = .ok m') (ends : instruction.ends key = some status) :
    (∃ offer, m.offers key = some (.live offer) ∧ offer.status = .open) ∧
      ∃ offer', m'.offers key = some (.live offer') ∧ offer'.status = status ∧ status ≠ .open := by
  cases step_effect stepped with
  | created | deposited | reclaimed => cases ends
  | @taken _ _ _ key' _ _ _ _ offer _ _ live open' =>
      simp only [OfferInstruction.ends, Option.ite_none_right_eq_some, Option.some.injEq] at ends
      obtain ⟨rfl, rfl⟩ := ends
      exact ⟨⟨offer, live, open'⟩, _, Function.update_self _ _ _, rfl, by decide⟩
  | @returned _ key' status' _ _ offer _ ends' ended _ live open' =>
      obtain ⟨rfl, rfl⟩ : key' = key ∧ status' = status := by
        rcases ends_eq_some ends with ⟨_, _, _, _, _, _, _, rfl, rfl⟩ | ⟨_, _, _, _, rfl, rfl⟩ | ⟨_, _, _, rfl, rfl⟩
        all_goals
          simp only [OfferInstruction.ends, Option.ite_none_right_eq_some, Option.some.injEq] at ends'
          exact ⟨ends'.1.symm, ends'.2.symm⟩
      exact ⟨⟨offer, live, open'⟩, _, Function.update_self _ _ _, rfl, ended⟩
  | outside outside =>
      rcases ends_eq_some ends with ⟨_, _, _, _, _, _, _, -, rfl⟩ | ⟨_, _, _, _, -, rfl⟩ | ⟨_, _, _, -, rfl⟩
      all_goals cases outside

theorem ended_step (stepped : step m instruction = .ok m') (ended : Ended m key) : Ended m' key := by
  obtain ⟨account, stored, finished⟩ := ended
  -- a step that rewrites this offer found it open, or reclaims it
  have rewritten : ∀ other offer new, m.offers other = some (.live offer) → offer.status = .open →
      Function.update m.offers other new key = some account := by
    intro other offer new live open'
    have apart : key ≠ other := by
      rintro rfl
      rw [stored, Option.some.injEq] at live
      exact finished offer live open'
    exact (Function.update_of_ne apart _ _).trans stored
  cases step_effect stepped with
  | @created _ _ _ _ _ other _ _ _ _ unused =>
      have apart : key ≠ other := by
        rintro rfl
        rw [stored] at unused
        cases unused
      exact ⟨account, (Function.update_of_ne apart _ _).trans stored, finished⟩
  | deposited live open' | taken live open' | returned _ _ _ live open' =>
      exact ⟨account, rewritten _ _ _ live open', finished⟩
  | @reclaimed other offer live closed =>
      by_cases same : key = other
      · subst same
        exact ⟨.tombstone, Function.update_self _ _ _, fun offer same => nomatch same⟩
      · exact ⟨account, (Function.update_of_ne same _ _).trans stored, finished⟩
  | outside => exact ⟨account, stored, finished⟩

theorem status_step {offer' : Offer} (stepped : step m instruction = .ok m') (live' : m'.offers key = some (.live offer'))
    (closed : offer'.status ≠ .open) :
    instruction.ends key = some offer'.status ∨
      ∃ offer, m.offers key = some (.live offer) ∧ offer.status = offer'.status := by
  cases step_effect stepped with
  | @created _ _ _ _ _ _ _ _ _ _ _ _ open' =>
      rcases updated_row live' with ⟨-, new⟩ | ⟨-, old⟩
      · obtain rfl := OfferAccount.live.inj new
        exact absurd open' closed
      · exact .inr ⟨offer', old, rfl⟩
  | deposited _ open' =>
      rcases updated_row live' with ⟨-, new⟩ | ⟨-, old⟩
      · obtain rfl := OfferAccount.live.inj new
        exact absurd open' closed
      · exact .inr ⟨offer', old, rfl⟩
  | taken =>
      rcases updated_row live' with ⟨rfl, new⟩ | ⟨-, old⟩
      · obtain rfl := OfferAccount.live.inj new
        exact .inl (if_pos rfl)
      · exact .inr ⟨offer', old, rfl⟩
  | returned ends =>
      rcases updated_row live' with ⟨rfl, new⟩ | ⟨-, old⟩
      · obtain rfl := OfferAccount.live.inj new
        exact .inl ends
      · exact .inr ⟨offer', old, rfl⟩
  | reclaimed =>
      rcases updated_row live' with ⟨-, new⟩ | ⟨-, old⟩
      · cases new
      · exact .inr ⟨offer', old, rfl⟩
  | outside => exact .inr ⟨offer', live', rfl⟩

end ending

/-! ## What a taker and a maker receive -/

section deliveries
variable {m m' : Market} {key : OfferKey}

theorem take_step {taker : Pubkey} {pauseFlags : PauseFlags} {receiver : ReceiverKyc}
    {takerShares takerPayment makerPayment : Address} {immutableOwner : Bool} (sound : Sound m)
    (stepped : step m (.takeOffer taker pauseFlags receiver key takerShares immutableOwner takerPayment makerPayment) =
      .ok m') :
    ∃ offer, m.offers key = some (.live offer) ∧ offer.status = .open ∧ offer.deposited = offer.amount ∧
      (∃ account, m.shares takerShares = some account ∧ account.owner = .key taker) ∧
      (∃ account, m.payments makerPayment = some account ∧ account.owner = .key offer.maker) ∧
      balance m'.shares takerShares = balance m.shares takerShares + offer.amount ∧
      balance m'.payments makerPayment + (if makerPayment = takerPayment then offer.price else 0) =
        balance m.payments makerPayment + offer.price := by
  cases step_effect stepped with
  | @taken _ _ _ _ _ _ _ _ offer shares payments live open' _ funded receives earns paid moved =>
      have exact := Nat.le_antisymm (sound.recorded key offer live) funded
      obtain ⟨account, held, owner⟩ := receives
      have apart : takerShares ≠ .escrow key := by
        rintro rfl
        have owned := sound.owned key account held
        rw [owner] at owned
        cases owned
      have gained := transfer_balance moved takerShares
      rw [if_neg apart, if_pos rfl, Nat.add_zero] at gained
      have earned := transfer_balance paid makerPayment
      rw [if_pos rfl] at earned
      exact ⟨offer, live, open', exact, ⟨account, held, owner⟩, earns, gained, earned⟩
  | returned ends ended notFilled =>
      simp only [OfferInstruction.ends, Option.ite_none_right_eq_some, Option.some.injEq] at ends
      exact absurd ends.2.symm notFilled
  | outside outside => cases outside

/-- Take and expiry disagree on the clock. -/
theorem not_taken_of_expired {m₁ m₂ : Market} {taker : Pubkey} {pauseFlags : PauseFlags} {receiver receiver' : ReceiverKyc}
    {takerShares takerPayment makerPayment makerShares : Address} {immutableOwner immutableOwner' : Bool}
    (taken : step m (.takeOffer taker pauseFlags receiver key takerShares immutableOwner takerPayment makerPayment) =
      .ok m₁)
    (expired : step m (.expireOffer receiver' key makerShares immutableOwner') = .ok m₂) : False := by
  simp only [step, takeOffer, expireOffer, bind_eq_ok, require_eq_ok, okOr_eq_ok, pure_eq_ok, exists_const, Prod.exists]
    at taken expired
  obtain ⟨offer, live, -, -, -, -, -, -, filled, ⟨-, -, -, running, -⟩, -⟩ := taken
  obtain ⟨offer', live', -, -, -, -, _, _, ⟨-, ⟨dated, ended⟩, -⟩, -⟩ := expired
  obtain rfl := Except.ok.inj (live.symm.trans live')
  rcases running with never | within
  · exact dated.ne' never
  · exact within.not_gt ended

def Refunded (m m' : Market) (offer : Offer) (destination : Address) (receiver : ReceiverKyc) : Prop :=
  ∃ paid, balance m'.shares destination = balance m.shares destination + paid ∧ offer.deposited ≤ paid ∧
    ∀ refusal, receiver = .error refusal → paid = offer.deposited

theorem payOut_succeeds {mint : Pubkey} {destination : Address} {payout : Nat} {account payee : TokenAccount Address}
    (held : m.shares (.escrow key) = some account) (holder : account.holder = (.key mint, .offer key, false))
    (received : m.shares destination = some payee) (mint' : payee.mint = .key mint) (thawed : payee.frozen = false)
    (apart : Address.escrow key ≠ destination) (enough : payout ≤ account.amount)
    (room : payee.amount + payout < 2 ^ 64) (unblocked : m.blocked (.offer key) = false) :
    ∃ shares, payOut m mint key destination true payout = .ok shares := by
  simp only [TokenAccount.holder, Prod.mk.injEq] at holder
  obtain ⟨own, authority, thawed'⟩ := holder
  unfold payOut
  by_cases positive : 0 < payout
  · obtain ⟨shares, moved⟩ := transfer_succeeds held received apart ⟨own, mint', authority⟩ ⟨thawed', thawed⟩ enough room
    refine ⟨shares, ?_⟩
    rw [if_pos positive]
    simp only [hookTransfer, bind_eq_ok, require_eq_ok, pure_eq_ok, exists_const]
    exact ⟨shares, moved, trivial, unblocked, rfl⟩
  · exact ⟨m.shares, if_neg positive⟩

/-- An open offer whose maker has an account for the units, where two accounts of one mint fit its 64-bit
supply, and whose own address is not on the blocklist. -/
structure Refundable (m : Market) (key : OfferKey) (offer : Offer) (destination : Address) : Prop where
  live : m.offers key = some (.live offer)
  open' : offer.status = .open
  received : ∃ payee, m.shares destination = some payee ∧ payee.holder = (.key offer.mint, .key offer.maker, false) ∧
    payee.amount + balance m.shares (.escrow key) < 2 ^ 64
  unblocked : m.blocked (.offer key) = false

theorem refund_succeeds (sound : Sound m) {offer : Offer} {destination : Address}
    (refundable : Refundable m key offer destination) (receiver : ReceiverKyc) :
    ∃ account payee shares, m.shares (.escrow key) = some account ∧
      holderAccount m.shares destination (.key offer.maker) offer.mint = .ok payee ∧
      payOut m offer.mint key destination true (splitEscrowRelease account.amount offer.deposited receiver).payout =
        .ok shares ∧
      ∀ m', m'.shares = shares → Refunded m m' offer destination receiver := by
  obtain ⟨account, held, title, covered⟩ := sound.escrowed key offer refundable.live refundable.open'
  obtain ⟨payee, received, holder, room⟩ := refundable.received
  simp only [TokenAccount.holder, Prod.mk.injEq] at holder
  obtain ⟨mint', owner, thawed⟩ := holder
  have apart : Address.escrow key ≠ destination := by
    rintro rfl
    have owned := sound.owned key payee received
    rw [owner] at owned
    cases owned
  rw [balance_of_held held] at room
  have paid := splitEscrowRelease_payout_le account.amount offer.deposited receiver
  obtain ⟨shares, moved⟩ := payOut_succeeds held title received mint' thawed apart paid
    ((Nat.add_le_add_left paid _).trans_lt room) refundable.unblocked
  refine ⟨account, payee, shares, held, ?_, moved, ?_⟩
  · simp only [holderAccount, bind_eq_ok, okOr_eq_ok, require_eq_ok, pure_eq_ok, exists_const]
    exact ⟨payee, received, ⟨mint', owner⟩, rfl⟩
  · rintro m' rfl
    have gained := sweep_balance (payOut_ok moved) destination
    rw [if_neg apart.symm, if_pos rfl, Nat.add_zero] at gained
    have ledger := splitEscrowRelease_ledger_le_payout account.amount offer.deposited receiver
    rw [Nat.min_eq_right covered] at ledger
    refine ⟨_, gained, ledger, fun refusal refused => ?_⟩
    rw [splitEscrowRelease_payout_of_refused _ _ _ refused, Nat.min_eq_right covered]

theorem cancel_succeeds (sound : Sound m) {offer : Offer} {destination : Address}
    (refundable : Refundable m key offer destination) (receiver : ReceiverKyc) :
    ∃ m', step m (.cancelOffer offer.maker receiver key destination true) = .ok m' ∧
      Refunded m m' offer destination receiver := by
  obtain ⟨account, payee, shares, held, received, moved, refunded⟩ := refund_succeeds sound refundable receiver
  refine ⟨{ m with
    offers := Function.update m.offers key (some (.live (release offer .cancelled account.amount receiver).1)), shares },
    ?_, refunded _ rfl⟩
  simp only [step, liveOffer, refundable.live, held, cancelOffer, bind_eq_ok, okOr_eq_ok, require_eq_ok, pure_eq_ok,
    exists_const]
  exact ⟨offer, rfl, account, rfl, payee, received, _, ⟨rfl, refundable.open', rfl⟩, shares, moved, rfl⟩

theorem expire_succeeds (sound : Sound m) {offer : Offer} {destination : Address}
    (refundable : Refundable m key offer destination) (dated : 0 < offer.expiresAt) (ended : offer.expiresAt < m.now)
    (receiver : ReceiverKyc) :
    ∃ m', step m (.expireOffer receiver key destination true) = .ok m' ∧ Refunded m m' offer destination receiver := by
  obtain ⟨account, payee, shares, held, received, moved, refunded⟩ := refund_succeeds sound refundable receiver
  refine ⟨{ m with
    offers := Function.update m.offers key (some (.live (release offer .expired account.amount receiver).1)), shares },
    ?_, refunded _ rfl⟩
  simp only [step, liveOffer, refundable.live, held, expireOffer, bind_eq_ok, okOr_eq_ok, require_eq_ok, pure_eq_ok,
    exists_const]
  exact ⟨offer, rfl, account, rfl, payee, received, _, ⟨refundable.open', ⟨dated, ended⟩, rfl⟩, shares, moved, rfl⟩

end deliveries

/-! ## The lifecycle -/

def Ends {initial : Market} (run : Run step initial) (i : Nat) (key : OfferKey) (status : OfferStatus) : Prop :=
  i < run.length ∧ (run.label i).ends key = some status

/-- The fill delivers exactly what is sold for exactly the price, paid to the maker in the same step. A
cancel and an expiry only fail when the offer's own address is on the blocklist. -/
theorem offer_lifecycle (shares payments : Pubkey → Option (TokenAccount Address)) (blocked : Address → Bool) (now : Int)
    (run : Run step (market shares payments blocked now)) :
    (∀ key, ∀ i ≤ run.length, ∀ offer, (run.state i).offers key = some (.live offer) →
      offer.deposited ≤ offer.amount ∧
      (offer.status = .open → offer.deposited ≤ balance (run.state i).shares (.escrow key)) ∧
      (offer.status ≠ .open → ∃ j < i, Ends run j key offer.status)) ∧
    (∀ key i j status status', Ends run i key status → Ends run j key status' → i = j) ∧
    (∀ i < run.length, ∀ taker pauseFlags receiver key takerShares immutableOwner takerPayment makerPayment,
      run.label i = .takeOffer taker pauseFlags receiver key takerShares immutableOwner takerPayment makerPayment →
      ∃ offer, (run.state i).offers key = some (.live offer) ∧ offer.status = .open ∧ offer.deposited = offer.amount ∧
        (∃ account, (run.state i).shares takerShares = some account ∧ account.owner = .key taker) ∧
        (∃ account, (run.state i).payments makerPayment = some account ∧ account.owner = .key offer.maker) ∧
        balance (run.state (i + 1)).shares takerShares = balance (run.state i).shares takerShares + offer.amount ∧
        balance (run.state (i + 1)).payments makerPayment + (if makerPayment = takerPayment then offer.price else 0) =
          balance (run.state i).payments makerPayment + offer.price) ∧
    (∀ i ≤ run.length, ∀ key offer destination, Refundable (run.state i) key offer destination → ∀ receiver,
      (∃ m', step (run.state i) (.cancelOffer offer.maker receiver key destination true) = .ok m' ∧
        Refunded (run.state i) m' offer destination receiver) ∧
      (0 < offer.expiresAt → offer.expiresAt < (run.state i).now →
        ∃ m', step (run.state i) (.expireOffer receiver key destination true) = .ok m' ∧
          Refunded (run.state i) m' offer destination receiver)) ∧
    ∀ m key take expire m₁ m₂, step m take = .ok m₁ → take.ends key = some .filled → step m expire = .ok m₂ →
      expire.ends key ≠ some .expired := by
  have sound := run.invariant (sound_market shares payments blocked now) fun m a m' => sound_step
  refine ⟨?books, ?once, ?fill, ?refund, ?exclusive⟩
  case books =>
    intro key i within offer live
    refine ⟨(sound i within).recorded key offer live, fun open' => ?_, fun closed => ?_⟩
    · obtain ⟨account, held, -, covered⟩ := (sound i within).escrowed key offer live open'
      rwa [balance_of_held held]
    · induction i generalizing offer with
      | zero =>
          rw [run.starts] at live
          cases live
      | succ i ih =>
          rcases status_step (run.next i within) live closed with ends | ⟨before, old, same⟩
          · exact ⟨i, Nat.lt_succ_self i, within, ends⟩
          · obtain ⟨j, lt, ends⟩ := ih (Nat.le_of_succ_le within) before old (same ▸ closed)
            exact ⟨j, Nat.lt_succ_of_lt lt, same ▸ ends⟩
  case once =>
    have notLater : ∀ key i j status status', Ends run i key status → Ends run j key status' → ¬ i < j := by
      rintro key i j status status' ⟨lt, first⟩ ⟨lt', second⟩ ordered
      obtain ⟨-, offer, live, closed⟩ := ends_step (run.next i lt) first
      obtain ⟨⟨offer', live', open'⟩, -⟩ := ends_step (run.next j lt') second
      have ended : Ended (run.state j) key := by
        apply run.invariant_from (P := (Ended · key)) _ _ j lt'.le ordered
        · refine ⟨_, live, fun other same => ?_⟩
          obtain rfl := OfferAccount.live.inj same
          intro open''
          exact closed.2 (closed.1 ▸ open'')
        · intro k within _ sofar
          exact ended_step (run.next k within) sofar
      obtain ⟨account, stored, finished⟩ := ended
      rw [live', Option.some.injEq] at stored
      exact finished offer' stored.symm open'
    intro key i j status status' first second
    exact Nat.le_antisymm (Nat.le_of_not_lt (notLater key j i status' status second first))
      (Nat.le_of_not_lt (notLater key i j status status' first second))
  case fill =>
    intro i lt taker pauseFlags receiver key takerShares immutableOwner takerPayment makerPayment label
    exact take_step (sound i lt.le) (label ▸ run.next i lt)
  case refund =>
    intro i within key offer destination refundable receiver
    exact ⟨cancel_succeeds (sound i within) refundable receiver,
      fun dated ended => expire_succeeds (sound i within) refundable dated ended receiver⟩
  case exclusive =>
    intro m key take expire m₁ m₂ taken filled expired ends
    rcases ends_eq_some filled with ⟨_, _, _, _, _, _, _, -, rfl⟩ | ⟨_, _, _, _, other, -⟩ | ⟨_, _, _, other, -⟩
    · rcases ends_eq_some ends with ⟨_, _, _, _, _, _, _, other, -⟩ | ⟨_, _, _, _, other, -⟩ | ⟨_, _, _, -, rfl⟩
      · cases other
      · cases other
      · exact not_taken_of_expired taken expired
    · cases other
    · cases other

/-! ## An offer on the blocklist -/

def exampleOffer : Offer :=
  { maker := 5, mint := 9, paymentMint := 8, amount := 4, price := 100, status := .open, expiresAt := 0, deposited := 4 }

def exampleWallet (amount : Nat) : TokenAccount Address :=
  { mint := .key 9, owner := .key 5, amount, frozen := false }

def exampleEscrow (amount : Nat) : TokenAccount Address :=
  { mint := .key 9, owner := .offer (1, 1), amount, frozen := false }

def exampleMarket : Market :=
  market (fun _ => some (exampleWallet 10)) (fun _ => none) (fun _ => false) 0

def exampleCreated : Market :=
  { exampleMarket with
    offers := Function.update exampleMarket.offers (1, 1) (some (.live { exampleOffer with deposited := 0 }))
    shares := Function.update exampleMarket.shares (.escrow (1, 1)) (some (exampleEscrow 0)) }

def exampleFunded : Market :=
  { exampleCreated with
    offers := Function.update exampleCreated.offers (1, 1) (some (.live exampleOffer))
    shares := Function.update (Function.update exampleCreated.shares (.key 1) (some (exampleWallet 6))) (.escrow (1, 1))
      (some (exampleEscrow 4)) }

def exampleBlocked : Market :=
  { exampleFunded with blocked := Function.update exampleFunded.blocked (.offer (1, 1)) true }

def exampleRun : Run step exampleMarket where
  length := 3
  state := fun | 0 => exampleMarket | 1 => exampleCreated | 2 => exampleFunded | _ => exampleBlocked
  label := fun
    | 0 => .createOffer true 0 5 9 8 (1, 1) 4 100 0
    | 1 => .depositToOfferEscrow 5 0 (1, 1) (.key 1) 4
    | _ => .setBlocked (.offer (1, 1)) true
  starts := rfl
  next := fun
    | 0, _ => rfl
    | 1, _ => rfl
    | 2, _ => rfl

theorem blocked_offer_not_cancelled : (exampleRun.state 3).offers (1, 1) = some (.live exampleOffer) ∧
    exampleOffer.status = .open ∧ 0 < exampleOffer.deposited ∧
    step (exampleRun.state 3) (.cancelOffer 5 (.ok ()) (1, 1) (.key 1) true) = .error .senderBlocked :=
  ⟨rfl, rfl, by decide, rfl⟩

end Mancipatio.Offers
