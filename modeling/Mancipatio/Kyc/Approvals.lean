import Mancipatio.Kyc
import Mancipatio.Library.Execution
import Mancipatio.Library.Slots

/-!
# Approving, revoking and reclaiming KYC entries

A registry counts its entries. Its address is derived from the key that created it, and the address of an
entry from its registry and its holder; the authority of a registry rotates.
-/

namespace Mancipatio.Approvals
open Checked Execution Slots

def maxKycValiditySecs : Int := 63072000
def stateVersion : Nat := 1

structure RegistryAccount extends KycRegistry where
  entriesCount : Nat
  deriving DecidableEq, Repr

structure EntryAccount extends KycEntry where
  accreditationLevel : Nat
  providerId : Nat
  externalRefHash : BitVec 256
  version : Nat
  deriving DecidableEq, Repr

def blankEntry : EntryAccount :=
  { registry := 0, holder := 0, status := .pending, jurisdiction := 0, expiry := 0, accreditationLevel := 0,
    providerId := 0, externalRefHash := 0, version := 0 }

structure Decision where
  jurisdiction : Nat
  accreditationLevel : Nat
  expiry : Int
  providerId : Nat
  externalRefHash : BitVec 256
  deriving DecidableEq, Repr

def countEntry (registry : RegistryAccount) (isNew : Bool) : Except RegistryError RegistryAccount :=
  if isNew then do
    return { registry with entriesCount := ← okOr (checkedAdd 64 registry.entriesCount 1) .overflow }
  else
    .ok registry

def approveHolder (address : Pubkey) (registry : RegistryAccount) (entry : EntryAccount) (authority holder : Pubkey)
    (decision : Decision) (now : Int) : Except RegistryError (RegistryAccount × EntryAccount) := do
  require (registry.authority = authority) .unauthorized
  require (now < decision.expiry) .kycExpiryInPast
  let latest ← okOr (checkedAddInt 64 now maxKycValiditySecs) .overflow
  require (decision.expiry ≤ latest) .kycExpiryTooFar
  -- every written entry has a version, and a fresh account is all zeros
  let registry ← countEntry registry (decide (entry.version = 0))
  return (registry,
    { registry := address, holder, status := .approved, jurisdiction := decision.jurisdiction, expiry := decision.expiry,
      accreditationLevel := decision.accreditationLevel, providerId := decision.providerId,
      externalRefHash := decision.externalRefHash, version := stateVersion })

def revokeHolder (registry : RegistryAccount) (entry : EntryAccount) (authority : Pubkey) :
    Except RegistryError EntryAccount := do
  require (registry.authority = authority) .unauthorized
  return { entry with status := .revoked }

def reclaimKycEntry (linked : Pubkey) (registry : RegistryAccount) (entry : EntryAccount) (caller owner : Pubkey)
    (now : Int) : Except RegistryError RegistryAccount := do
  require (linked = entry.registry) .unauthorized
  require (caller = registry.authority) .unauthorized
  require (owner = registry.authority) .unauthorized
  require (entry.status = .revoked ∧ entry.expiry ≤ now) .accountNotClosable
  return { registry with entriesCount := registry.entriesCount - 1 }

/-! ## The book of all registries -/

structure Book where
  registries : Pubkey → Option RegistryAccount
  entries : Pubkey → Pubkey → Option EntryAccount
  now : Int

inductive BookInstruction where
  | createKycRegistry (authority : Pubkey) (isAdmin : Bool)
      (approvedJurisdictions blockedJurisdictions : JurisdictionBitmap)
  | updateKycRegistryJurisdictions (authority registry : Pubkey)
      (approvedJurisdictions blockedJurisdictions : JurisdictionBitmap)
  | approveHolder (authority registry holder : Pubkey) (decision : Decision)
  | revokeHolder (authority registry holder : Pubkey)
  | reclaimRent (caller owner : Pubkey) (target : Pubkey × Pubkey) (linked : Pubkey)
  -- an accepted rotation
  | setAuthority (registry authority : Pubkey)
  | tick (seconds : Nat)

instance : Inhabited BookInstruction := ⟨.tick 0⟩

def Book.setEntry (b : Book) (registry holder : Pubkey) (entry : Option EntryAccount) : Book :=
  { b with entries := Function.update b.entries registry (Function.update (b.entries registry) holder entry) }

def Book.setRegistry (b : Book) (registry : Pubkey) (account : RegistryAccount) : Book :=
  { b with registries := Function.update b.registries registry (some account) }

@[simp] theorem setRegistry_entries (b : Book) (registry : Pubkey) (account : RegistryAccount) :
    (b.setRegistry registry account).entries = b.entries := rfl

theorem setEntry_entries (b : Book) (registry holder other holder' : Pubkey) (entry : Option EntryAccount) :
    (b.setEntry registry holder entry).entries other holder' =
      if other = registry ∧ holder' = holder then entry else b.entries other holder' := by
  unfold Book.setEntry
  by_cases same : other = registry
  · subst same
    by_cases written : holder' = holder <;> simp [written]
  · simp [same]

def step (b : Book) : BookInstruction → Except RegistryError Book
  | .createKycRegistry authority isAdmin approvedJurisdictions blockedJurisdictions => do
      require (isAdmin = true) .accountNotInitialized
      require (b.registries authority = none) .accountAlreadyInUse
      return b.setRegistry authority { authority, approvedJurisdictions, blockedJurisdictions, entriesCount := 0 }
  | .updateKycRegistryJurisdictions authority registry approvedJurisdictions blockedJurisdictions => do
      let account ← okOr (b.registries registry) .accountNotInitialized
      require (account.authority = authority) .unauthorized
      return b.setRegistry registry { account with approvedJurisdictions, blockedJurisdictions }
  | .approveHolder authority registry holder decision => do
      let account ← okOr (b.registries registry) .accountNotInitialized
      let (account, entry) ←
        approveHolder registry account ((b.entries registry holder).getD blankEntry) authority holder decision b.now
      return (b.setRegistry registry account).setEntry registry holder (some entry)
  | .revokeHolder authority registry holder => do
      let account ← okOr (b.registries registry) .accountNotInitialized
      let entry ← okOr (b.entries registry holder) .accountNotInitialized
      let entry ← revokeHolder account entry authority
      return b.setEntry registry holder (some entry)
  | .reclaimRent caller owner target linked => do
      let entry ← okOr (b.entries target.1 target.2) .unauthorized
      let account ← okOr (b.registries linked) .unauthorized
      let account ← reclaimKycEntry linked account entry caller owner b.now
      return (b.setRegistry linked account).setEntry target.1 target.2 none
  | .setAuthority registry authority => do
      let account ← okOr (b.registries registry) .accountNotInitialized
      return b.setRegistry registry { account with authority }
  | .tick seconds => return { b with now := b.now + seconds }

def book (now : Int) : Book :=
  { registries := fun _ => none, entries := fun _ _ => none, now }

/-! ## What a step does -/

theorem countEntry_ok {registry registry' : RegistryAccount} {isNew : Bool}
    (counted : countEntry registry isNew = .ok registry') :
    registry' = { registry with entriesCount := registry.entriesCount + if isNew then 1 else 0 } := by
  unfold countEntry at counted
  cases isNew with
  | true =>
      simp only [if_true, bind_eq_ok, okOr_eq_ok, checkedAdd_eq_some, pure_eq_ok] at counted
      obtain ⟨_, ⟨rfl, -⟩, rfl⟩ := counted
      rfl
  | false =>
      cases counted
      rfl

inductive Effect (b : Book) : BookInstruction → Book → Prop
  | created {authority isAdmin approved blocked account} : b.registries authority = none → account.entriesCount = 0 →
      Effect b (.createKycRegistry authority isAdmin approved blocked) (b.setRegistry authority account)
  | updated {authority registry approvedJurisdictions blockedJurisdictions account} :
      b.registries registry = some account →
      Effect b (.updateKycRegistryJurisdictions authority registry approvedJurisdictions blockedJurisdictions)
        (b.setRegistry registry { account with approvedJurisdictions, blockedJurisdictions })
  | rotated {registry authority account} : b.registries registry = some account →
      Effect b (.setAuthority registry authority) (b.setRegistry registry { account with authority })
  | approved {authority registry holder decision account account' entry} : b.registries registry = some account →
      entry.registry = registry → entry.version ≠ 0 →
      account'.entriesCount = account.entriesCount +
        (if ((b.entries registry holder).getD blankEntry).version = 0 then 1 else 0) →
      Effect b (.approveHolder authority registry holder decision)
        ((b.setRegistry registry account').setEntry registry holder (some entry))
  | revoked {authority registry holder entry} : b.entries registry holder = some entry →
      Effect b (.revokeHolder authority registry holder)
        (b.setEntry registry holder (some { entry with status := .revoked }))
  | reclaimed {caller owner registry holder linked account entry} : b.entries registry holder = some entry →
      entry.registry = linked → b.registries linked = some account → entry.status = .revoked → entry.expiry ≤ b.now →
      Effect b (.reclaimRent caller owner (registry, holder) linked)
        ((b.setRegistry linked { account with entriesCount := account.entriesCount - 1 }).setEntry registry holder none)
  | passed {seconds : Nat} : Effect b (.tick seconds) { b with now := b.now + seconds }

theorem step_effect {b b' : Book} {instruction : BookInstruction} (stepped : step b instruction = .ok b') :
    Effect b instruction b' := by
  cases instruction with
  | createKycRegistry authority isAdmin approved blocked =>
      simp only [step, bind_eq_ok, require_eq_ok, pure_eq_ok, exists_const] at stepped
      obtain ⟨-, unused, rfl⟩ := stepped
      exact .created unused rfl
  | updateKycRegistryJurisdictions authority registry approved blocked =>
      simp only [step, bind_eq_ok, require_eq_ok, okOr_eq_ok, pure_eq_ok, exists_const] at stepped
      obtain ⟨account, found, -, rfl⟩ := stepped
      exact .updated found
  | approveHolder authority registry holder decision =>
      simp only [step, approveHolder, bind_eq_ok, require_eq_ok, okOr_eq_ok, pure_eq_ok, Prod.exists, Prod.mk.injEq,
        exists_const] at stepped
      obtain ⟨account, found, _, _, ⟨-, -, -, -, -, account', counted, rfl, rfl⟩, rfl⟩ := stepped
      refine .approved found rfl Nat.one_ne_zero ?_
      rw [countEntry_ok counted]
      simp only [decide_eq_true_eq]
  | revokeHolder authority registry holder =>
      simp only [step, revokeHolder, bind_eq_ok, require_eq_ok, okOr_eq_ok, pure_eq_ok, exists_const] at stepped
      obtain ⟨account, -, entry, held, _, ⟨-, rfl⟩, rfl⟩ := stepped
      exact .revoked held
  | reclaimRent caller owner target linked =>
      simp only [step, reclaimKycEntry, bind_eq_ok, require_eq_ok, okOr_eq_ok, pure_eq_ok, exists_const] at stepped
      obtain ⟨entry, held, account, found, _, ⟨home, -, -, ⟨status, ended⟩, rfl⟩, rfl⟩ := stepped
      exact .reclaimed held home.symm found status ended
  | setAuthority registry authority =>
      simp only [step, bind_eq_ok, okOr_eq_ok, pure_eq_ok] at stepped
      obtain ⟨account, found, rfl⟩ := stepped
      exact .rotated found
  | tick seconds =>
      simp only [step, pure_eq_ok] at stepped
      subst stepped
      exact .passed

/-! ## The count -/

structure Sound (b : Book) : Prop where
  counted : ∀ registry account, b.registries registry = some account →
    (account.entriesCount : ℕ∞) = (occupied (b.entries registry)).encard
  home : ∀ registry holder entry, b.entries registry holder = some entry →
    entry.registry = registry ∧ entry.version ≠ 0 ∧ (b.registries registry).isSome

theorem sound_book (now : Int) : Sound (book now) where
  counted := by simp [book]
  home := by simp [book]

section sound
variable {b : Book} {registry : Pubkey} {account account' : RegistryAccount}

theorem sound_setRegistry (sound : Sound b) (counted : (account'.entriesCount : ℕ∞) = (occupied (b.entries registry)).encard) :
    Sound (b.setRegistry registry account') where
  counted := by
    intro other found hasRegistry
    by_cases same : other = registry
    · subst same
      obtain rfl : account' = found := by simpa [Book.setRegistry] using hasRegistry
      exact counted
    · exact sound.counted other found (by simpa [Book.setRegistry, same] using hasRegistry)
  home := by
    intro other holder entry held
    obtain ⟨home, versioned, exists'⟩ := sound.home other holder entry held
    refine ⟨home, versioned, ?_⟩
    by_cases same : other = registry
    · simp [Book.setRegistry, same]
    · simpa [Book.setRegistry, same] using exists'

theorem setRegistry_self (found : b.registries registry = some account) : b.setRegistry registry account = b := by
  rw [Book.setRegistry, ← found, Function.update_eq_self]

theorem sound_write {holder : Pubkey} {entry : Option EntryAccount} (sound : Sound b)
    (found : (b.registries registry).isSome)
    (home : ∀ new, entry = some new → new.registry = registry ∧ new.version ≠ 0)
    (counted : (account'.entriesCount : ℕ∞) =
      (occupied (Function.update (b.entries registry) holder entry)).encard) :
    Sound ((b.setRegistry registry account').setEntry registry holder entry) where
  counted := by
    intro other known hasRegistry
    by_cases same : other = registry
    · subst same
      obtain rfl : account' = known := by simpa [Book.setRegistry, Book.setEntry] using hasRegistry
      simpa [Book.setRegistry, Book.setEntry] using counted
    · have before := sound.counted other known (by simpa [Book.setRegistry, Book.setEntry, same] using hasRegistry)
      simpa [Book.setRegistry, Book.setEntry, same] using before
  home := by
    intro other holder' entry' held
    by_cases same : other = registry
    · subst same
      simp only [Book.setRegistry, Book.setEntry, Function.update_self] at held ⊢
      by_cases written : holder' = holder
      · subst written
        rw [Function.update_self] at held
        exact ⟨(home _ held).1, (home _ held).2, rfl⟩
      · rw [Function.update_of_ne written] at held
        obtain ⟨home, versioned, -⟩ := sound.home other holder' entry' held
        exact ⟨home, versioned, rfl⟩
    · simpa [Book.setRegistry, Book.setEntry, same] using
        sound.home other holder' entry' (by simpa [Book.setRegistry, Book.setEntry, same] using held)

end sound

theorem sound_step {b b' : Book} {instruction : BookInstruction} (sound : Sound b)
    (stepped : step b instruction = .ok b') : Sound b' := by
  cases step_effect stepped with
  | @created authority isAdmin approved blocked account unused zero =>
      have none' : occupied (b.entries authority) = ∅ := by
        apply Set.eq_empty_of_forall_notMem
        intro holder member
        obtain ⟨entry, held⟩ := Option.isSome_iff_exists.mp member
        have exists' := (sound.home authority holder entry held).2.2
        rw [unused] at exists'
        exact Bool.false_ne_true exists'
      apply sound_setRegistry sound
      rw [none', zero, Set.encard_empty]
      rfl
  | updated found | rotated found =>
      apply sound_setRegistry sound
      have before := sound.counted _ _ found
      exact before
  | @approved authority registry holder decision account account' entry found home versioned counted =>
      apply sound_write sound (by rw [found]; rfl)
      · rintro _ ⟨⟩
        exact ⟨home, versioned⟩
      · have before := sound.counted registry account found
        cases held : b.entries registry holder with
        | none =>
            rw [held, Option.getD_none, if_pos (show blankEntry.version = 0 from rfl)] at counted
            rw [counted, encard_fill held, ← before]
            rfl
        | some old =>
            have versioned' := (sound.home registry holder old held).2.1
            rw [held, Option.getD_some, if_neg versioned', Nat.add_zero] at counted
            rw [counted, occupied_overwrite held, before]
  | @revoked authority registry holder entry held =>
      obtain ⟨home, versioned, exists'⟩ := sound.home registry holder entry held
      obtain ⟨account, found⟩ := Option.isSome_iff_exists.mp exists'
      rw [← setRegistry_self found]
      apply sound_write sound exists'
      · rintro _ ⟨⟩
        exact ⟨home, versioned⟩
      · rw [occupied_overwrite held, sound.counted registry account found]
  | @reclaimed caller owner registry holder linked account entry held home found status ended =>
      obtain rfl : linked = registry := home.symm.trans (sound.home registry holder entry held).1
      apply sound_write sound (by rw [found]; rfl)
      · rintro _ ⟨⟩
      · exact (count_vacate held (sound.counted linked account found)).2
  | passed => exact ⟨sound.counted, sound.home⟩

/-! ## The registries of a run -/

/-- A removed entry was reclaimed, and nothing but a revoked entry past its expiry is. -/
theorem removed_step {b b' : Book} {instruction : BookInstruction} {registry holder : Pubkey} {entry : EntryAccount}
    (stepped : step b instruction = .ok b') (held : b.entries registry holder = some entry)
    (removed : b'.entries registry holder = none) : entry.status = .revoked ∧ entry.expiry ≤ b.now := by
  have kept : ∀ other holder' new, (if registry = other ∧ holder = holder' then some new
      else b.entries registry holder) ≠ none := by
    intro other holder' new
    split <;> simp [held]
  cases step_effect stepped with
  | created | updated | rotated | passed => exact absurd (held.symm.trans removed) (by simp)
  | approved | revoked =>
      simp only [setEntry_entries, setRegistry_entries] at removed
      exact absurd removed (kept _ _ _)
  | reclaimed held' home found status ended =>
      simp only [setEntry_entries, setRegistry_entries] at removed
      split at removed
      · next same =>
          obtain ⟨rfl, rfl⟩ := same
          obtain rfl : entry = _ := Option.some.inj (held.symm.trans held')
          exact ⟨status, ended⟩
      · exact absurd (held.symm.trans removed) (by simp)

theorem reclaim_step {b b' : Book} {caller owner registry holder linked : Pubkey} (sound : Sound b)
    (stepped : step b (.reclaimRent caller owner (registry, holder) linked) = .ok b') :
    ∃ account, b.registries registry = some account ∧ 0 < account.entriesCount ∧
      b'.registries registry = some { account with entriesCount := account.entriesCount - 1 } := by
  cases step_effect stepped with
  | @reclaimed _ _ _ _ _ account entry held home found status ended =>
      obtain rfl : linked = registry := home.symm.trans (sound.home registry holder entry held).1
      exact ⟨account, found, (count_vacate held (sound.counted linked account found)).1,
        by simp [Book.setRegistry, Book.setEntry]⟩

/-- The counter of a registry is the number of its entries, a reclaim always finds an entry counted, and no
reclaimed entry passes the receiver check of any registry. -/
theorem registry_counts_entries (now : Int) (run : Run step (book now)) :
    (∀ i ≤ run.length, ∀ registry account, (run.state i).registries registry = some account →
      (account.entriesCount : ℕ∞) = {holder | ((run.state i).entries registry holder).isSome}.encard) ∧
    (∀ i < run.length, ∀ caller owner registry holder linked,
      run.label i = .reclaimRent caller owner (registry, holder) linked →
      ∃ account, (run.state i).registries registry = some account ∧ 0 < account.entriesCount ∧
        (run.state (i + 1)).registries registry =
          some { account with entriesCount := account.entriesCount - 1 }) ∧
    ∀ i < run.length, ∀ registry holder entry, (run.state i).entries registry holder = some entry →
      (run.state (i + 1)).entries registry holder = none →
      ∀ account : KycRegistry, ¬ entry.toKycEntry.Eligible account (run.state i).now := by
  have sound := run.invariant (sound_book now) fun b instruction b' => sound_step
  refine ⟨fun i within => (sound i within).counted, ?reclaims, ?removals⟩
  case reclaims =>
    intro i within caller owner registry holder linked reclaimed
    have stepped := run.next i within
    rw [reclaimed] at stepped
    exact reclaim_step (sound i (Nat.le_of_lt within)) stepped
  case removals =>
    intro i within registry holder entry held removed account eligible
    have status := (removed_step (run.next i within) held removed).1
    rw [eligible.approved] at status
    cases status

end Mancipatio.Approvals
