import Mancipatio.Issuance.Supply

/-!
# Where minted and seized units go

Fresh units reach a wallet through a sale, or as the treasury of an issuer that is an Admin itself. Units that are
minted or seized into a vault which is not a delivery stay there until the program burns them.
-/

namespace Mancipatio.Issuance
open Checked Execution Authority Custody Sales

/-- The escrow of a running vault that can only burn holds so many units. -/
def HeldToBurn (c : ClassLedger) (id amount : Nat) : Prop :=
  ∃ vault, c.vaults id = some vault ∧ vault.vaultType ≠ .deliveryEscrow ∧ VaultState.running vault.state ∧
    amount ≤ c.units (.custodyEscrow id)

def Burned (c : ClassLedger) (id amount : Nat) (c' : ClassLedger) : Prop :=
  amount ≤ c.units (.custodyEscrow id) ∧ c'.units (.custodyEscrow id) = 0 ∧ c'.supply + c.units (.custodyEscrow id) = c.supply

section steps
variable {asset : Asset} {c c' : ClassLedger} {label : ClassLabel} {id other amount moved : Nat} {source destination account : Account}

theorem HeldToBurn.mono (held : HeldToBurn c id amount) (vaults : c'.vaults id = c.vaults id)
    (units : c.units (.custodyEscrow id) ≤ c'.units (.custodyEscrow id)) : HeldToBurn c' id amount := by
  obtain ⟨vault, stored, burning, running, enough⟩ := held
  exact ⟨vault, vaults.trans stored, burning, running, enough.trans units⟩

theorem HeldToBurn.moveUnits {d : ClassLedger} (held : HeldToBurn d id amount) (apart : Account.custodyEscrow id ≠ source)
    (stepped : moveUnits d source destination moved = .ok c') : HeldToBurn c' id amount := by
  obtain ⟨units, gone, rfl⟩ := moveUnits_ok stepped
  exact held.mono rfl (Holdings.le_move gone apart)

theorem HeldToBurn.minted {minted : ClassLedger} {shareClass : ShareClass} (held : HeldToBurn c id amount)
    (emitted : mintTo c destination moved = .ok minted) : HeldToBurn { minted with shareClass } id amount := by
  rw [mintTo_ok emitted]
  have more : c.units (.custodyEscrow id) ≤ Holdings.credit c.units destination moved (.custodyEscrow id) := Holdings.le_credit _
  exact held.mono rfl more

theorem HeldToBurn.setVault {vault' : CustodyVault} (held : HeldToBurn c id amount)
    (kept : other = id → ∀ vault, c.vaults id = some vault → vault.vaultType ≠ .deliveryEscrow → VaultState.running vault.state →
      vault'.vaultType ≠ .deliveryEscrow ∧ VaultState.running vault'.state) : HeldToBurn (setVault c other vault') id amount := by
  obtain ⟨vault, stored, burning, running, enough⟩ := held
  by_cases here : other = id
  · obtain ⟨burning', running'⟩ := kept here vault stored burning running
    subst here
    exact ⟨vault', Function.update_self _ _ _, burning', running', enough⟩
  · exact ⟨vault, (Function.update_of_ne (Ne.symm here) _ _).trans stored, burning, running, enough⟩

/-- The final burn of a vault takes what is in its own escrow, and of no other. -/
theorem HeldToBurn.retired {vault' : CustodyVault} {circulatingSupply : Nat} (held : HeldToBurn c id amount)
    (burned : burnFrom (Issuance.setCirculating (Issuance.setVault c other vault') circulatingSupply) (.custodyEscrow other)
      (c.units (.custodyEscrow other)) = .ok c') : HeldToBurn c' id amount ∨ Burned c id amount c' := by
  obtain ⟨vault, stored, burning, running, enough⟩ := held
  obtain ⟨units, debited, within, rfl⟩ := burnFrom_ok burned
  by_cases here : id = other
  · subst here
    obtain ⟨-, rfl⟩ := Holdings.debit_eq_some.mp debited
    refine .inr ⟨enough, ?_, Nat.sub_add_cancel within⟩
    exact (Function.update_self _ _ _).trans (Nat.sub_self _)
  · have apart : Account.custodyEscrow id ≠ .custodyEscrow other := fun same => here (Account.custodyEscrow.inj same)
    refine .inl ⟨vault, (Function.update_of_ne here _ _).trans stored, burning, running, ?_⟩
    show amount ≤ units (.custodyEscrow id)
    rw [Holdings.debit_of_ne debited apart]
    exact enough

theorem held_step (held : HeldToBurn c id amount) (stepped : classStep asset c label = .ok c') :
    HeldToBurn c' id amount ∨ Burned c id amount c' := by
  cases label with
  | initializeShareClassMint ctx =>
      simp only [classStep, initializeShareClassMint, bind_eq_ok, pure_eq_ok] at stepped
      obtain ⟨-, -, -, -, -, -, -, -, rfl⟩ := stepped
      exact .inl held
  | lockSupply isAdmin =>
      simp only [classStep, lockSupply, bind_eq_ok, pure_eq_ok] at stepped
      obtain ⟨-, -, rfl⟩ := stepped
      exact .inl held
  | mintToTreasury ctx destination remaining amount =>
      simp only [classStep, mintToTreasury, bind_eq_ok, require_eq_ok, registry_eq_ok, pure_eq_ok, Prod.exists, exists_const] at stepped
      obtain ⟨-, -, -, -, -, -, -, -, -, -, -, -, -, -, -, minted, emitted, rfl⟩ := stepped
      exact .inl (held.minted emitted)
  | buy ctx sale account amount now =>
      simp only [classStep, bind_eq_ok, pure_eq_ok, Prod.exists] at stepped
      obtain ⟨-, -, -, -, minted, emitted, rfl⟩ := stepped
      exact .inl (held.minted emitted)
  | openCustodyVault other =>
      simp only [classStep, bind_eq_ok, require_eq_ok, pure_eq_ok, exists_const] at stepped
      obtain ⟨fresh, vault, -, rfl⟩ := stepped
      apply Or.inl (held.setVault _)
      rintro rfl old stored
      rw [fresh] at stored
      cases stored
  | depositToCustodyVault other depositor account moved pauseFlags =>
      simp only [classStep, bind_eq_ok, okOr_eq_ok, registry_eq_ok] at stepped
      obtain ⟨before, found, vault, deposited, gone⟩ := stepped
      refine .inl (HeldToBurn.moveUnits (held.setVault ?_) (by simp) gone)
      rintro rfl old stored burning
      obtain rfl := Option.some.inj (found.symm.trans stored)
      exact absurd (depositToCustodyVault_ok deposited).2.1 burning
  | triggerCustodyVault other authority isAdmin =>
      simp only [classStep, bind_eq_ok, okOr_eq_ok, registry_eq_ok, pure_eq_ok] at stepped
      obtain ⟨before, found, vault, triggered, rfl⟩ := stepped
      apply Or.inl (held.setVault _)
      rintro rfl old stored burning -
      obtain rfl := Option.some.inj (found.symm.trans stored)
      rw [(triggerCustodyVault_ok triggered).2]
      exact ⟨burning, .inr rfl⟩
  | realizeCustodyVault other authority isAdmin kycRegistry kycEntry now =>
      simp only [classStep, bind_eq_ok, Prod.exists] at stepped
      obtain ⟨-, -, vault, circulating, -, burned⟩ := stepped
      exact held.retired burned
  | revertCustodyVault other payer isAdmin now =>
      simp only [classStep, bind_eq_ok, Prod.exists] at stepped
      obtain ⟨-, -, vault, circulating, -, burned⟩ := stepped
      exact held.retired burned
  | returnCustodyVault other signer isAdmin account receiver now =>
      simp only [classStep, bind_eq_ok, okOr_eq_ok, registry_eq_ok, Prod.exists] at stepped
      obtain ⟨before, found, vault, release, returned, gone⟩ := stepped
      have delivery := (returnCustodyVault_ok returned).1
      have apart : id ≠ other := by
        rintro rfl
        obtain ⟨old, stored, burning, -⟩ := held
        obtain rfl := Option.some.inj (found.symm.trans stored)
        exact burning delivery
      refine .inl (HeldToBurn.moveUnits (held.setVault fun same => absurd same.symm apart) ?_ gone)
      exact fun same => apart (Account.custodyEscrow.inj same)
  | acceptCustodyAuthority other newAuthority =>
      simp only [classStep, bind_eq_ok, okOr_eq_ok, pure_eq_ok] at stepped
      obtain ⟨before, found, rfl⟩ := stepped
      apply Or.inl (held.setVault _)
      rintro rfl old stored burning running
      obtain rfl := Option.some.inj (found.symm.trans stored)
      exact ⟨burning, running⟩
  | seizeIntoQuarantine other source amount =>
      simp only [classStep, seizeIntoQuarantine, bind_eq_ok, require_eq_ok, exists_const] at stepped
      obtain ⟨unmarked, -, -, -, -, gone⟩ := stepped
      refine .inl (held.moveUnits ?_ gone)
      rintro rfl
      -- a running vault has its marker, and no units are seized from a marked owner
      obtain ⟨vault, stored, -, running, -⟩ := held
      simp [ClassLedger.marked, Account.owner, stored, running] at unmarked
  | createRightsIssuance =>
      cases stepped
      exact .inl held
  | claimMilestone | transfer => exact .inl (held.moveUnits (by simp) stepped)
  | burn owner account moved =>
      obtain ⟨units, debited, -, rfl⟩ := burnFrom_ok stepped
      exact .inl (held.mono rfl (Holdings.debit_of_ne debited (by simp)).ge)

inductive MintedTo (c : ClassLedger) (ctx : IssuerContext) (amount : Nat) (c' : ClassLedger) : Account → Prop
  | treasury {own : Account} (owner : own.owner = .key ctx.authority) (admin : isActiveAdmin ctx.registry ctx.authority) :
      MintedTo c ctx amount c' own
  | vault {id : Nat} {vault : CustodyVault} (stored : c.vaults id = some vault) (active : vault.state = .active)
      (burning : BurnOnly vault) (held : HeldToBurn c' id (c.units (.custodyEscrow id) + amount)) :
      MintedTo c ctx amount c' (.custodyEscrow id)
  | rights {id : Nat} (issued : c.issuances id = true) : MintedTo c ctx amount c' (.rightsEscrow id)

theorem minted_step {ctx : IssuerContext} {remaining : List Holder}
    (stepped : classStep asset c (.mintToTreasury ctx destination remaining amount) = .ok c') :
    MintedTo c ctx amount c' destination ∧ c'.units = Holdings.credit c.units destination amount := by
  simp only [classStep, mintToTreasury, bind_eq_ok, require_eq_ok, registry_eq_ok, pure_eq_ok, Prod.exists, exists_const] at stepped
  obtain ⟨-, -, -, -, -, -, -, -, -, -, -, bound, searched, own, admin, minted, emitted, rfl⟩ := stepped
  obtain rfl := mintTo_ok emitted
  refine ⟨?_, rfl⟩
  rcases own with owner | rfl
  · exact .treasury owner (admin.resolve_left (not_not_intro owner)).2
  · rcases boundToEscrowParent_ok searched with ⟨id, vault, rfl, stored, active, burning⟩ | ⟨id, rfl, issued⟩
    · refine .vault stored active burning ⟨vault, stored, burning.1, .inl active, ?_⟩
      show c.units (.custodyEscrow id) + amount ≤ Holdings.credit c.units (.custodyEscrow id) amount (.custodyEscrow id)
      rw [Holdings.credit, Function.update_self]
    · exact .rights issued

/-- An escrow that is in use: of a vault whose end is open, or of a rights issuance. -/
inductive RunningEscrow (c : ClassLedger) : Holder → Prop
  | vault {id : Nat} {vault : CustodyVault} (stored : c.vaults id = some vault) (running : VaultState.running vault.state) :
      RunningEscrow c (.vault id)
  | issuance {id : Nat} (issued : c.issuances id = true) : RunningEscrow c (.issuance id)

theorem marked_eq_true {owner : Holder} : c.marked owner = true ↔ RunningEscrow c owner := by
  cases owner with
  | key | program =>
      refine ⟨Bool.noConfusion, ?_⟩
      intro running
      cases running
  | issuance id =>
      refine ⟨.issuance, ?_⟩
      intro running
      cases running with
      | issuance issued => exact issued
  | vault id =>
      simp only [ClassLedger.marked, Option.any_eq_true, decide_eq_true_eq]
      constructor
      · intro found
        obtain ⟨vault, stored, running⟩ := found
        exact .vault stored running
      · intro running
        cases running with
        | vault stored running => exact ⟨_, stored, running⟩

/-- A seizure: what is asked for, or all there is, goes from a holder's account to the escrow of a quarantine. -/
structure Seized (c : ClassLedger) (id : Nat) (source : Account) (amount : Nat) (c' : ClassLedger) (taken : Nat) : Prop where
  holder : ¬ RunningEscrow c source.owner
  quarantine : ∃ vault, c.vaults id = some vault ∧ c'.vaults id = some vault ∧ vault.quarantine ∧ vault.state = .active
  positive : 0 < taken
  asked : taken = if amount = 0 then c.units source else amount
  left : c'.units source + taken = c.units source
  arrived : c'.units (.custodyEscrow id) = c.units (.custodyEscrow id) + taken
  supply : c'.supply = c.supply

theorem seized_step (stepped : classStep asset c (.seizeIntoQuarantine id source amount) = .ok c') :
    ∃ taken, Seized c id source amount c' taken := by
  simp only [classStep, seizeIntoQuarantine, bind_eq_ok, okOr_eq_ok, require_eq_ok, exists_const] at stepped
  obtain ⟨unmarked, vault, stored, ⟨quarantine, active⟩, positive, gone⟩ := stepped
  have holder : ¬ RunningEscrow c source.owner := by
    rw [← marked_eq_true, unmarked]
    exact Bool.noConfusion
  have apart : source ≠ .custodyEscrow id := by
    rintro rfl
    exact holder (.vault stored (.inl active))
  obtain ⟨units, moved, rfl⟩ := moveUnits_ok gone
  obtain ⟨between, debited, rfl⟩ := Option.map_eq_some_iff.mp moved
  obtain ⟨enough, rfl⟩ := Holdings.debit_eq_some.mp debited
  refine ⟨_, holder, ⟨vault, stored, stored, quarantine, active⟩, positive, rfl, ?_, ?_, rfl⟩
  · show Holdings.credit _ _ _ source + _ = _
    rw [Holdings.credit, Function.update_of_ne apart, Function.update_self]
    exact Nat.sub_add_cancel enough
  · show Holdings.credit _ _ _ (Account.custodyEscrow id) = _
    rw [Holdings.credit, Function.update_self, Function.update_of_ne (Ne.symm apart)]

theorem Seized.held {taken : Nat} (seized : Seized c id source amount c' taken) :
    HeldToBurn c' id (c.units (.custodyEscrow id) + taken) := by
  obtain ⟨vault, -, stored, ⟨redemption, -⟩, active⟩ := seized.quarantine
  refine ⟨vault, stored, ?_, .inl active, seized.arrived.ge⟩
  rw [redemption]
  exact VaultType.noConfusion

end steps

/-! ## Whole histories -/

def HeldIn (k id amount : Nat) (b : Book) : Prop :=
  ∃ c, b.classes k = some c ∧ HeldToBurn c id amount

structure Contained {initial : Book} (run : Run bookStep initial) : Prop where
  minted : ∀ i < run.length, ∀ k ctx destination remaining amount,
    run.label i = .onClass k (.mintToTreasury ctx destination remaining amount) →
    ∃ c c', (run.state i).classes k = some c ∧ (run.state (i + 1)).classes k = some c' ∧
      MintedTo c ctx amount c' destination ∧ c'.units = Holdings.credit c.units destination amount
  seized : ∀ i < run.length, ∀ k id source amount, run.label i = .onClass k (.seizeIntoQuarantine id source amount) →
    ∃ c c' taken, (run.state i).classes k = some c ∧ (run.state (i + 1)).classes k = some c' ∧
      Seized c id source amount c' taken ∧ HeldToBurn c' id (c.units (.custodyEscrow id) + taken)
  kept : ∀ i j, i ≤ j → j ≤ run.length → ∀ k id amount, HeldIn k id amount (run.state i) →
    HeldIn k id amount (run.state j) ∨ ∃ m, i ≤ m ∧ m < j ∧ ∃ c c', (run.state m).classes k = some c ∧
      (run.state (m + 1)).classes k = some c' ∧ Burned c id amount c'

theorem heldIn_step {k id amount : Nat} {b b' : Book} {label : BookLabel} (held : HeldIn k id amount b) (effect : BookEffect b label b') :
    HeldIn k id amount b' ∨ ∃ c c', b.classes k = some c ∧ b'.classes k = some c' ∧ Burned c id amount c' := by
  obtain ⟨c, stored, held⟩ := held
  cases effect with
  | @opened _ classIndex _ _ _ added =>
      obtain ⟨unused, -, -⟩ := addShareClass_ok added
      have apart : k ≠ classIndex := by
        rintro rfl
        rw [stored] at unused
        cases unused
      exact .inl ⟨c, (Function.update_of_ne apart _ _).trans stored, held⟩
  | activated => exact .inl ⟨c, stored, held⟩
  | @moved classIndex _ before after stored' stepped =>
      by_cases here : k = classIndex
      · subst here
        obtain rfl := Option.some.inj (stored.symm.trans stored')
        rcases held_step held stepped with still | burned
        · exact .inl ⟨after, Function.update_self _ _ _, still⟩
        · exact .inr ⟨c, after, stored, Function.update_self _ _ _, burned⟩
      · exact .inl ⟨c, (Function.update_of_ne here _ _).trans stored, held⟩

/-- In every history of an asset, fresh units outside a sale are an Admin issuer's own or lie in an escrow, and what
is minted or seized into a vault that does not deliver leaves it only by being burned. -/
theorem emission_contained {assetType : AssetType} (run : Run bookStep (createAsset assetType)) : Contained run := by
  refine ⟨?minted, ?seized, ?kept⟩
  case minted =>
    intro i within k ctx destination remaining amount label
    have stepped := run.next i within
    rw [label] at stepped
    obtain ⟨c, c', before, after, moved⟩ := onClass_ok stepped
    exact ⟨c, c', before, after, minted_step moved⟩
  case seized =>
    intro i within k id source amount label
    have stepped := run.next i within
    rw [label] at stepped
    obtain ⟨c, c', before, after, moved⟩ := onClass_ok stepped
    obtain ⟨taken, seized⟩ := seized_step moved
    exact ⟨c, c', taken, before, after, seized, seized.held⟩
  case kept =>
    intro i j after within k id amount held
    induction j, after using Nat.le_induction with
    | base => exact .inl held
    | succ j after ih =>
        rcases ih (Nat.le_of_succ_le within) with still | ⟨m, from', before, burned⟩
        · apply (heldIn_step still (book_effect (run.next j within))).imp_right
          intro burned
          exact ⟨j, after, Nat.lt_succ_self j, burned⟩
        · exact .inr ⟨m, from', Nat.lt_succ_of_lt before, burned⟩

end Mancipatio.Issuance
