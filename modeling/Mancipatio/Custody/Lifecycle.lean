import Mancipatio.Library.Execution
import Mancipatio.Custody.Vault

/-!
# The life of a custody vault

One vault with its escrow, the units of the class outside it and the class counter. Deposits, the exits,
raw transfers, issuance and burns elsewhere come in any order.
-/

namespace Mancipatio.Custody
open Checked Execution

structure CustodyEscrow where
  vault : CustodyVault
  escrow : Nat
  beneficiaryUnits : Nat
  otherUnits : Nat
  circulatingSupply : Nat
  -- the vault's own address is on the hook's blocklist
  vaultBlocked : Bool
  now : Int
  deriving DecidableEq, Repr

inductive CustodyLabel where
  | depositToCustodyVault (depositor : Pubkey) (amount : Nat) (pauseFlags : PauseFlags) (depositorBlocked : Bool)
  | triggerCustodyVault (authority : Pubkey) (isAdmin : Bool)
  | realizeCustodyVault (authority : Pubkey) (isAdmin : Bool) (kycRegistry : Option (Pubkey × KycRegistry))
      (kycEntry : Option KycEntry)
  | revertCustodyVault (payer : Pubkey) (isAdmin : Bool)
  | returnCustodyVault (signer : Pubkey) (isAdmin : Bool) (receiver : ReceiverKyc)
  | acceptCustodyAuthority (newAuthority : Pubkey)
  -- raw transfers into the escrow and between the accounts outside it
  | inboundTransfer (amount : Nat)
  | inboundFromBeneficiary (amount : Nat)
  | transferToBeneficiary (amount : Nat)
  | transferFromBeneficiary (amount : Nat)
  -- issuance, a holder's own burn and the burn of another vault
  | issue (amount : Nat)
  | issueToEscrow (amount : Nat)
  | holderBurn (amount : Nat)
  | vaultBurn (amount : Nat)
  | setVaultBlocked (blocked : Bool)
  | tick (seconds : Nat)
  deriving DecidableEq, Repr

instance : Inhabited CustodyLabel := ⟨.tick 0⟩

def debit (balance amount : Nat) : Except RegistryError Nat :=
  okOr (checkedSub balance amount) .insufficientFunds

def step (c : CustodyEscrow) : CustodyLabel → Except RegistryError CustodyEscrow
  | .depositToCustodyVault depositor amount pauseFlags depositorBlocked => do
      let vault ← depositToCustodyVault c.vault depositor amount pauseFlags
      -- the depositor's leg runs through the hook; the escrow's marker settles the receiver side
      require (depositorBlocked = false) .senderBlocked
      let beneficiaryUnits ← debit c.beneficiaryUnits amount
      return { c with vault, beneficiaryUnits, escrow := c.escrow + amount }
  | .triggerCustodyVault authority isAdmin => do
      let vault ← triggerCustodyVault c.vault authority isAdmin
      return { c with vault }
  | .realizeCustodyVault authority isAdmin kycRegistry kycEntry => do
      let (vault, circulatingSupply) ←
        realizeCustodyVault c.vault authority isAdmin kycRegistry kycEntry c.escrow c.circulatingSupply c.now
      return { c with vault, circulatingSupply, escrow := 0 }
  | .revertCustodyVault payer isAdmin => do
      let (vault, circulatingSupply) ←
        revertCustodyVault c.vault payer isAdmin c.escrow c.circulatingSupply c.now
      return { c with vault, circulatingSupply, escrow := 0 }
  | .returnCustodyVault signer isAdmin receiver => do
      let (vault, release) ← returnCustodyVault c.vault signer isAdmin c.escrow receiver c.now
      -- the hook refuses a blocked source; an empty payout makes no transfer
      require (release.payout = 0 ∨ c.vaultBlocked = false) .senderBlocked
      let escrow ← debit c.escrow release.payout
      return { c with vault, escrow, beneficiaryUnits := c.beneficiaryUnits + release.payout }
  | .acceptCustodyAuthority newAuthority =>
      return { c with vault := { c.vault with authority := newAuthority } }
  | .inboundTransfer amount => do
      let otherUnits ← debit c.otherUnits amount
      return { c with otherUnits, escrow := c.escrow + amount }
  | .inboundFromBeneficiary amount => do
      let beneficiaryUnits ← debit c.beneficiaryUnits amount
      return { c with beneficiaryUnits, escrow := c.escrow + amount }
  | .transferToBeneficiary amount => do
      let otherUnits ← debit c.otherUnits amount
      return { c with otherUnits, beneficiaryUnits := c.beneficiaryUnits + amount }
  | .transferFromBeneficiary amount => do
      let beneficiaryUnits ← debit c.beneficiaryUnits amount
      return { c with beneficiaryUnits, otherUnits := c.otherUnits + amount }
  | .issue amount => do
      let circulatingSupply ← okOr (checkedAdd 64 c.circulatingSupply amount) .overflow
      return { c with circulatingSupply, otherUnits := c.otherUnits + amount }
  | .issueToEscrow amount => do
      require (c.vault.state = .active ∧ c.vault.vaultType ≠ .deliveryEscrow) .vaultNotAcceptingDeposits
      let circulatingSupply ← okOr (checkedAdd 64 c.circulatingSupply amount) .overflow
      return { c with circulatingSupply, escrow := c.escrow + amount }
  | .holderBurn amount => do
      let otherUnits ← debit c.otherUnits amount
      return { c with otherUnits }
  | .vaultBurn amount => do
      let otherUnits ← debit c.otherUnits amount
      let circulatingSupply ← burnEscrow amount c.circulatingSupply
      return { c with otherUnits, circulatingSupply }
  | .setVaultBlocked blocked => return { c with vaultBlocked := blocked }
  | .tick seconds => return { c with now := c.now + seconds }

def opened (vault : CustodyVault) (beneficiaryUnits otherUnits circulatingSupply : Nat) (now : Int) : CustodyEscrow :=
  { vault, escrow := 0, beneficiaryUnits, otherUnits, circulatingSupply, vaultBlocked := false, now }

/-! ## What a step does to the vault and to the units -/

def VaultState.closed (state : VaultState) : Prop :=
  state = .realized ∨ state = .reverted ∨ state = .returned
  deriving Decidable

inductive Edge : VaultType → VaultState → VaultState → Prop
  | trigger (vaultType) : Edge vaultType .active .triggered
  | realize (vaultType) : Edge vaultType .triggered .realized
  | revert {vaultType} : vaultType ≠ .deliveryEscrow → Edge vaultType .active .reverted
  | returnActive : Edge .deliveryEscrow .active .returned
  | returnTriggered : Edge .deliveryEscrow .triggered .returned

def contributed (_ : CustodyEscrow) : CustodyLabel → Nat
  | .depositToCustodyVault _ amount _ _ => amount
  | _ => 0

def repaidUnchecked (c : CustodyEscrow) : CustodyLabel → Nat
  | .returnCustodyVault _ _ receiver => (splitEscrowRelease c.escrow c.vault.deposited receiver).fromLedger
  | _ => 0

def CustodyEscrow.units (c : CustodyEscrow) : Nat := c.escrow + c.beneficiaryUnits + c.otherUnits

inductive Effect (c : CustodyEscrow) : CustodyLabel → CustodyEscrow → Prop
  | deposited {amount pauseFlags depositorBlocked} :
      c.vault.state = .active → c.vault.vaultType = .deliveryEscrow → amount ≤ c.beneficiaryUnits →
      Effect c (.depositToCustodyVault c.vault.beneficiary amount pauseFlags depositorBlocked)
        { c with
          vault := { c.vault with deposited := c.vault.deposited + amount }
          beneficiaryUnits := c.beneficiaryUnits - amount
          escrow := c.escrow + amount }
  | triggered {authority isAdmin} : c.vault.state = .active →
      Effect c (.triggerCustodyVault authority isAdmin) { c with vault := { c.vault with state := .triggered } }
  | burned {label state} : Edge c.vault.vaultType c.vault.state state → state = .realized ∨ state = .reverted →
      contributed c label = 0 → repaidUnchecked c label = 0 →
      Effect c label
        { c with
          vault := { c.vault with state }
          circulatingSupply := c.circulatingSupply - c.escrow
          escrow := 0 }
  | returned {signer isAdmin receiver release} :
      c.vault.vaultType = .deliveryEscrow → c.vault.state = .active ∨ c.vault.state = .triggered →
      release = splitEscrowRelease c.escrow c.vault.deposited receiver → 
      Effect c (.returnCustodyVault signer isAdmin receiver)
        { c with
          vault := { c.vault with
            deposited := c.vault.deposited - release.fromLedger
            state := if release.withheld = 0 then .returned else c.vault.state }
          escrow := c.escrow - release.payout
          beneficiaryUnits := c.beneficiaryUnits + release.payout }
  | elsewhere {label c' authority} : c'.vault = { c.vault with authority } → c.escrow ≤ c'.escrow →
      c'.units + c.circulatingSupply ≤ c.units + c'.circulatingSupply →
      contributed c label = 0 → repaidUnchecked c label = 0 → Effect c label c'

theorem debit_ok {balance amount rest : Nat} (debited : debit balance amount = .ok rest) :
    amount ≤ balance ∧ rest = balance - amount := by
  simp only [debit, okOr_eq_ok, checkedSub_eq_some] at debited
  exact ⟨debited.2, debited.1.symm⟩

theorem step_effect {c c' : CustodyEscrow} {label : CustodyLabel} (stepped : step c label = .ok c') :
    Effect c label c' := by
  cases label with
  | depositToCustodyVault depositor amount pauseFlags depositorBlocked =>
      simp only [step, bind_eq_ok, pure_eq_ok] at stepped
      obtain ⟨vault, deposit, -, -, units, debited, rfl⟩ := stepped
      obtain ⟨active, delivery, rfl, -, rfl⟩ := depositToCustodyVault_ok deposit
      obtain ⟨funded, rfl⟩ := debit_ok debited
      exact .deposited active delivery funded
  | triggerCustodyVault authority isAdmin =>
      simp only [step, bind_eq_ok, pure_eq_ok] at stepped
      obtain ⟨vault, trigger, rfl⟩ := stepped
      obtain ⟨active, rfl⟩ := triggerCustodyVault_ok trigger
      exact .triggered active
  | realizeCustodyVault authority isAdmin kycRegistry kycEntry =>
      simp only [step, bind_eq_ok, pure_eq_ok, Prod.exists] at stepped
      obtain ⟨vault, supply, realized, rfl⟩ := stepped
      obtain ⟨triggered, rfl, burn⟩ := realizeCustodyVault_ok realized
      obtain ⟨-, rfl⟩ := burnEscrow_ok burn
      exact .burned (triggered ▸ .realize _) (.inl rfl) rfl rfl
  | revertCustodyVault payer isAdmin =>
      simp only [step, bind_eq_ok, pure_eq_ok, Prod.exists] at stepped
      obtain ⟨vault, supply, reverted, rfl⟩ := stepped
      obtain ⟨active, burning, rfl, burn⟩ := revertCustodyVault_ok reverted
      obtain ⟨-, rfl⟩ := burnEscrow_ok burn
      exact .burned (active ▸ .revert burning) (.inr rfl) rfl rfl
  | returnCustodyVault signer isAdmin receiver =>
      simp only [step, bind_eq_ok, pure_eq_ok, Prod.exists] at stepped
      obtain ⟨vault, release, returned, -, -, escrow, debited, rfl⟩ := stepped
      obtain ⟨delivery, running, split, rfl⟩ := returnCustodyVault_ok returned
      obtain ⟨-, rfl⟩ := debit_ok debited
      exact .returned delivery running split
  | issueToEscrow amount =>
      simp only [step, bind_eq_ok, okOr_eq_ok, checkedAdd_eq_some, pure_eq_ok] at stepped
      obtain ⟨-, -, _, ⟨rfl, -⟩, rfl⟩ := stepped
      refine .elsewhere rfl ?_ ?_ rfl rfl <;> simp only [CustodyEscrow.units] <;> omega
  | issue amount =>
      simp only [step, bind_eq_ok, okOr_eq_ok, checkedAdd_eq_some, pure_eq_ok] at stepped
      obtain ⟨_, ⟨rfl, -⟩, rfl⟩ := stepped
      refine .elsewhere rfl ?_ ?_ rfl rfl <;> simp only [CustodyEscrow.units] <;> omega
  | vaultBurn amount =>
      simp only [step, bind_eq_ok, pure_eq_ok] at stepped
      obtain ⟨_, debited, _, burn, rfl⟩ := stepped
      obtain ⟨funded, rfl⟩ := debit_ok debited
      obtain ⟨counted, rfl⟩ := burnEscrow_ok burn
      refine .elsewhere rfl ?_ ?_ rfl rfl <;> simp only [CustodyEscrow.units] <;> omega
  | inboundTransfer | inboundFromBeneficiary | transferToBeneficiary | transferFromBeneficiary | holderBurn =>
      simp only [step, bind_eq_ok, pure_eq_ok] at stepped
      obtain ⟨_, debited, rfl⟩ := stepped
      obtain ⟨funded, rfl⟩ := debit_ok debited
      refine .elsewhere rfl ?_ ?_ rfl rfl <;> simp only [CustodyEscrow.units] <;> omega
  | acceptCustodyAuthority | setVaultBlocked | tick =>
      simp only [step, pure_eq_ok] at stepped
      subst stepped
      exact .elsewhere rfl (Nat.le_refl _) (Nat.le_refl _) rfl rfl

/-! ## Invariants -/

structure Kept (c : CustodyEscrow) : Prop where
  burning : c.vault.realizeAction = .burnAndAttest
  unretired : c.vault.vaultType ≠ .conversionPending
  unexpired : c.vault.state ≠ .expired
  named : c.vault.vaultType = .deliveryEscrow → c.vault.beneficiary ≠ 0 ∧ 0 < c.vault.deadline
  ledger : ¬ c.vault.state.closed → c.vault.deposited ≤ c.escrow
  counted : c.units ≤ c.circulatingSupply

theorem not_expired_of_edge {vaultType : VaultType} {state state' : VaultState}
    (edge : Edge vaultType state state') : state' ≠ .expired := by
  cases edge <;> simp

theorem kept_step {c c' : CustodyEscrow} {label : CustodyLabel} (kept : Kept c)
    (stepped : step c label = .ok c') : Kept c' := by
  have counted := kept.counted
  unfold CustodyEscrow.units at counted
  cases step_effect stepped with
  | deposited active delivery funded =>
      have ledger := kept.ledger (by simp [VaultState.closed, active])
      exact
        { kept with
          ledger := fun _ => Nat.add_le_add_right ledger _
          counted := by simp only [CustodyEscrow.units]; omega }
  | triggered active =>
      exact
        { kept with
          unexpired := by simp
          ledger := fun _ => kept.ledger (by simp [VaultState.closed, active]) }
  | burned edge closing =>
      refine { kept with unexpired := not_expired_of_edge edge, ledger := ?_, counted := ?_ }
      · intro still
        exact absurd (closing.imp_right .inl) still
      · simp only [CustodyEscrow.units]
        omega
  | @returned _ _ receiver release delivery running split =>
      have paid := splitEscrowRelease_payout_add_withheld c.escrow c.vault.deposited receiver
      rw [← split] at paid
      have fromLedger : release.fromLedger = min c.escrow c.vault.deposited := by
        rw [split, splitEscrowRelease_fromLedger]
      have below := splitEscrowRelease_ledger_le_payout c.escrow c.vault.deposited receiver
      rw [← split] at below
      have ledger := kept.ledger (by rcases running with h | h <;> simp [VaultState.closed, h])
      refine { kept with unexpired := ?_, ledger := ?_, counted := ?_ }
      · dsimp only
        split
        · simp
        · exact kept.unexpired
      · intro _
        dsimp only
        omega
      · simp only [CustodyEscrow.units]
        omega
  | elsewhere same grown conserved =>
      obtain ⟨vault, escrow, beneficiaryUnits, otherUnits, circulatingSupply, vaultBlocked, now⟩ := c'
      subst same
      simp only [CustodyEscrow.units] at conserved grown
      exact
        { kept with
          ledger := fun still => Nat.le_trans (kept.ledger still) grown
          counted := by simp only [CustodyEscrow.units]; omega }

theorem kept_opened {authority : Pubkey} {isAdmin mintInitialized : Bool} {pauseFlags : PauseFlags}
    {vaultType : VaultType} {realizeAction : RealizeAction} {amount : Nat} {deadline : Int}
    {beneficiary : Pubkey} {kycRegistry : Option Pubkey} {now : Int} {vault : CustodyVault}
    (clock : 0 ≤ now) (created : openCustodyVault authority isAdmin mintInitialized pauseFlags vaultType realizeAction
      amount deadline beneficiary kycRegistry now = .ok vault)
    {beneficiaryUnits otherUnits circulatingSupply : Nat} (counted : beneficiaryUnits + otherUnits ≤ circulatingSupply) :
    Kept (opened vault beneficiaryUnits otherUnits circulatingSupply now) := by
  obtain ⟨active, empty, burning, unretired, -, named⟩ := openCustodyVault_ok created
  refine
    { burning, unretired, unexpired := ?_, named := ?_, ledger := ?_, counted := ?_ }
  · simp [opened, active]
  · intro delivery
    obtain ⟨beneficiary, earliest, -⟩ := named delivery
    simp only [deliveryEscrowMinDeadlineSecs] at earliest
    exact ⟨beneficiary, by simp only [opened]; omega⟩
  · simp [opened, empty]
  · simpa [opened, CustodyEscrow.units] using counted

/-! ## Status, ledger and repayments -/

theorem edge_step {c c' : CustodyEscrow} {label : CustodyLabel} (stepped : step c label = .ok c') :
    c'.vault.state = c.vault.state ∨ Edge c.vault.vaultType c.vault.state c'.vault.state := by
  cases step_effect stepped with
  | deposited => exact .inl rfl
  | triggered active => exact .inr (active ▸ .trigger _)
  | burned edge => exact .inr edge
  | @returned _ _ _ release delivery running =>
      by_cases drained : release.withheld = 0
      · simp only [drained, if_true, delivery]
        rcases running with active | triggered
        · exact .inr (active ▸ .returnActive)
        · exact .inr (triggered ▸ .returnTriggered)
      · simp [drained]
  | elsewhere same => exact .inl (by rw [same])

theorem not_closed_of_edge {vaultType : VaultType} {state state' : VaultState}
    (edge : Edge vaultType state state') : ¬ state.closed := by
  cases edge <;> decide

theorem closed_step {c c' : CustodyEscrow} {label : CustodyLabel} (closed : c.vault.state.closed)
    (stepped : step c label = .ok c') : c'.vault.state = c.vault.state :=
  (edge_step stepped).resolve_right fun edge => not_closed_of_edge edge closed

theorem ledger_step (c : CustodyEscrow) (label : CustodyLabel) (c' : CustodyEscrow)
    (stepped : step c label = .ok c') :
    c'.vault.deposited + repaidUnchecked c label = c.vault.deposited + contributed c label := by
  cases step_effect stepped with
  | deposited => rfl
  | triggered => rfl
  | burned _ _ noDeposit noReturn => rw [noDeposit, noReturn]
  | @returned _ _ receiver release _ _ split =>
      have fromLedger : release.fromLedger = min c.escrow c.vault.deposited := by
        rw [split, splitEscrowRelease_fromLedger]
      simp only [contributed, repaidUnchecked, ← split]
      omega
  | elsewhere same _ _ noDeposit noReturn => rw [same, noDeposit, noReturn]

theorem refused_step {c c' : CustodyEscrow} {signer : Pubkey} {isAdmin : Bool} {receiver : ReceiverKyc}
    (stepped : step c (.returnCustodyVault signer isAdmin receiver) = .ok c') (refused : receiver ≠ .ok ()) :
    c'.beneficiaryUnits = c.beneficiaryUnits + repaidUnchecked c (.returnCustodyVault signer isAdmin receiver) := by
  cases receiver with
  | ok => exact absurd rfl refused
  | error e =>
      simp only [step, bind_eq_ok, pure_eq_ok, Prod.exists] at stepped
      obtain ⟨vault, release, returned, -, -, escrow, -, rfl⟩ := stepped
      obtain ⟨-, -, rfl, -⟩ := returnCustodyVault_ok returned
      simp only [repaidUnchecked, splitEscrowRelease_fromLedger,
        splitEscrowRelease_payout_of_refused c.escrow c.vault.deposited _ rfl]

/-! ## Exits -/

theorem debit_of_le {balance amount : Nat} (funded : amount ≤ balance) :
    debit balance amount = .ok (balance - amount) := by
  simp [debit, funded]

theorem return_succeeds {c : CustodyEscrow} (kept : Kept c) (delivery : c.vault.vaultType = .deliveryEscrow)
    (running : c.vault.state = .active ∨ c.vault.state = .triggered)
    {signer : Pubkey} {isAdmin : Bool} {receiver : ReceiverKyc}
    (passed : (splitEscrowRelease c.escrow c.vault.deposited receiver).payout = 0 ∨ c.vaultBlocked = false)
    (allowed : (signer = c.vault.authority ∧ isAdmin = true) ∨ (0 < c.vault.deadline ∧ c.vault.deadline ≤ c.now))
    (payable : 0 < c.vault.deposited ∨ receiver = .ok () ∨ c.escrow ≤ c.vault.deposited) :
    ∃ c', step c (.returnCustodyVault signer isAdmin receiver) = .ok c' ∧
      c'.beneficiaryUnits = c.beneficiaryUnits + (splitEscrowRelease c.escrow c.vault.deposited receiver).payout ∧
      ((splitEscrowRelease c.escrow c.vault.deposited receiver).withheld = 0 → c'.vault.state = .returned) := by
  obtain ⟨vault, returned⟩ :=
    returnCustodyVault_succeeds delivery (kept.named delivery).1 running allowed payable
  obtain ⟨-, -, -, same⟩ := returnCustodyVault_ok returned
  have funded := splitEscrowRelease_payout_le c.escrow c.vault.deposited receiver
  refine
    ⟨{ c with
        vault
        escrow := c.escrow - (splitEscrowRelease c.escrow c.vault.deposited receiver).payout
        beneficiaryUnits := c.beneficiaryUnits + (splitEscrowRelease c.escrow c.vault.deposited receiver).payout },
      ?_, rfl, ?_⟩
  · simp only [step, bind_eq_ok, pure_eq_ok, Prod.exists, require_eq_ok, exists_const]
    exact ⟨_, _, returned, passed, _, debit_of_le funded, rfl⟩
  · intro drained
    rw [same]
    simp [drained]

/-- After its deadline anyone can return the recorded deposit to the beneficiary, whatever the receiver
gate says of it. -/
def Recoverable (c : CustodyEscrow) : Prop :=
  ∀ signer isAdmin receiver, c.vault.deadline ≤ c.now → c.vaultBlocked = false → 0 < c.vault.deposited →
    ∃ c', step c (.returnCustodyVault signer isAdmin receiver) = .ok c' ∧
      c.beneficiaryUnits + c.vault.deposited ≤ c'.beneficiaryUnits

/-- The ways out of the two states that are not final. A delivery vault is returned as soon as the hook lets its units go
and none of them is withheld from the beneficiary, and not before. -/
structure Exits (c : CustodyEscrow) : Prop where
  active : c.vault.state = .active →
    ∃ c', step c (.triggerCustodyVault c.vault.authority true) = .ok c' ∧ c'.vault.state = .triggered
  triggered : c.vault.state = .triggered → c.vault.vaultType ≠ .deliveryEscrow → ∀ kycRegistry kycEntry,
    ∃ c', step c (.realizeCustodyVault c.vault.authority true kycRegistry kycEntry) = .ok c' ∧
      c'.vault.state = .realized
  converted : c.vault.state = .triggered → ∀ kycRegistry kycEntry,
    requireRealizeKyc c.vault kycRegistry kycEntry c.now = .ok () →
      ∃ c', step c (.realizeCustodyVault c.vault.authority true kycRegistry kycEntry) = .ok c' ∧
        c'.vault.state = .realized
  delivery : c.vault.vaultType = .deliveryEscrow → ∀ receiver,
    (∃ c', step c (.returnCustodyVault c.vault.authority true receiver) = .ok c' ∧ c'.vault.state = .returned) ↔
      (c.escrow = 0 ∨ c.vaultBlocked = false) ∧ (receiver = .ok () ∨ c.escrow ≤ c.vault.deposited)

theorem unfinished_of_kept {c : CustodyEscrow} (kept : Kept c) (running : ¬ c.vault.state.closed) :
    c.vault.state = .active ∨ c.vault.state = .triggered := by
  have unexpired := kept.unexpired
  cases state : c.vault.state <;> simp_all [VaultState.closed]

theorem recoverable_of_kept {c : CustodyEscrow} (kept : Kept c) (running : ¬ c.vault.state.closed)
    (delivery : c.vault.vaultType = .deliveryEscrow) : Recoverable c := by
  intro signer isAdmin receiver overdue unblocked deposited
  obtain ⟨c', stepped, paid, -⟩ :
      ∃ c', step c (.returnCustodyVault signer isAdmin receiver) = .ok c' ∧ _ ∧ _ :=
    return_succeeds kept delivery (unfinished_of_kept kept running) (.inr unblocked)
      (.inr ⟨(kept.named delivery).2, overdue⟩) (.inl deposited)
  have ledger := kept.ledger running
  have below := splitEscrowRelease_ledger_le_payout c.escrow c.vault.deposited receiver
  exact ⟨c', stepped, by omega⟩

theorem realize_succeeds {c : CustodyEscrow} (kept : Kept c) (triggered : c.vault.state = .triggered)
    {kycRegistry : Option (Pubkey × KycRegistry)} {kycEntry : Option KycEntry}
    (accepted : requireRealizeKyc c.vault kycRegistry kycEntry c.now = .ok ()) :
    ∃ c', step c (.realizeCustodyVault c.vault.authority true kycRegistry kycEntry) = .ok c' ∧
      c'.vault.state = .realized := by
  have covered : c.escrow ≤ c.circulatingSupply := by
    have counted := kept.counted
    unfold CustodyEscrow.units at counted
    omega
  refine
    ⟨{ c with
        vault := { c.vault with state := .realized }
        circulatingSupply := c.circulatingSupply - c.escrow
        escrow := 0 }, ?_, rfl⟩
  simp [step, realizeCustodyVault, burnEscrow, triggered, kept.burning, accepted, covered]

/-- What a return that closes the vault has paid out: the whole escrow, past the hook and past the gate. -/
theorem complete_of_returned {c c' : CustodyEscrow} {signer : Pubkey} {isAdmin : Bool} {receiver : ReceiverKyc}
    (stepped : step c (.returnCustodyVault signer isAdmin receiver) = .ok c') (returned : c'.vault.state = .returned) :
    (c.escrow = 0 ∨ c.vaultBlocked = false) ∧ (receiver = .ok () ∨ c.escrow ≤ c.vault.deposited) := by
  simp only [step, bind_eq_ok, pure_eq_ok, Prod.exists, require_eq_ok, exists_const] at stepped
  obtain ⟨vault, release, accepted, passed, escrow, -, rfl⟩ := stepped
  obtain ⟨-, running, rfl, rfl⟩ := returnCustodyVault_ok accepted
  have drained : (splitEscrowRelease c.escrow c.vault.deposited receiver).withheld = 0 := by
    by_contra withheld
    simp only [withheld, if_false] at returned
    rcases running with active | triggered
    · cases active.symm.trans returned
    · cases triggered.symm.trans returned
  have paid := splitEscrowRelease_payout_add_withheld c.escrow c.vault.deposited receiver
  rw [drained, Nat.add_zero] at paid
  refine ⟨?_, ?_⟩
  · rwa [paid] at passed
  · cases receiver with
    | ok => exact .inl rfl
    | error refusal =>
        rw [splitEscrowRelease_payout_of_refused _ _ _ rfl] at paid
        exact .inr (min_eq_left_iff.mp paid)

theorem exits_of_kept {c : CustodyEscrow} (kept : Kept c) (running : ¬ c.vault.state.closed) : Exits c where
  active := by
    intro active
    refine ⟨{ c with vault := { c.vault with state := .triggered } }, ?_, rfl⟩
    simp [step, triggerCustodyVault, active]
  triggered := by
    intro triggered burnable kycRegistry kycEntry
    apply realize_succeeds kept triggered
    simp [requireRealizeKyc, burnable]
  converted := by
    intro triggered kycRegistry kycEntry accepted
    exact realize_succeeds kept triggered accepted
  delivery := by
    intro delivery receiver
    constructor
    · intro exit
      obtain ⟨c', stepped, returned⟩ := exit
      exact complete_of_returned stepped returned
    · intro conditions
      obtain ⟨passed, complete⟩ := conditions
      have paid := splitEscrowRelease_payout_eq c.escrow c.vault.deposited receiver complete
      have unfinished := unfinished_of_kept kept running
      obtain ⟨c', stepped, -, drained⟩ := return_succeeds kept delivery unfinished (paid.symm ▸ passed)
        (.inl ⟨rfl, rfl⟩) (.inr complete)
      have split := splitEscrowRelease_payout_add_withheld c.escrow c.vault.deposited receiver
      exact ⟨c', stepped, drained (by omega)⟩

/-! ## The statement -/

theorem kept_run {vault : CustodyVault} {beneficiaryUnits otherUnits circulatingSupply : Nat} {now : Int}
    (start : Kept (opened vault beneficiaryUnits otherUnits circulatingSupply now))
    (run : Run step (opened vault beneficiaryUnits otherUnits circulatingSupply now)) :
    ∀ i ≤ run.length, Kept (run.state i) := by
  apply run.invariant start
  intro c label c' kept stepped
  exact kept_step kept stepped

/-- While a vault is not closed its escrow covers its ledger, its status can leave and, past the deadline
of a delivery, the deposit can be recovered by anyone. The status follows the listed edges and never
leaves a final state. What is repaid without a KYC verdict is never more than what was deposited, and a
refused beneficiary is repaid nothing else. -/
theorem custody_vault_lifecycle {authority : Pubkey} {isAdmin mintInitialized : Bool} {pauseFlags : PauseFlags}
    {vaultType : VaultType} {realizeAction : RealizeAction} {amount : Nat} {deadline : Int}
    {beneficiary : Pubkey} {kycRegistry : Option Pubkey} {now : Int} {vault : CustodyVault} (clock : 0 ≤ now)
    (created : openCustodyVault authority isAdmin mintInitialized pauseFlags vaultType realizeAction
      amount deadline beneficiary kycRegistry now = .ok vault)
    {beneficiaryUnits otherUnits circulatingSupply : Nat} (counted : beneficiaryUnits + otherUnits ≤ circulatingSupply)
    (run : Run step (opened vault beneficiaryUnits otherUnits circulatingSupply now)) :
    (∀ i ≤ run.length, ¬ (run.state i).vault.state.closed →
      (run.state i).vault.deposited ≤ (run.state i).escrow ∧ Exits (run.state i) ∧
        ((run.state i).vault.vaultType = .deliveryEscrow → Recoverable (run.state i))) ∧
    (∀ i < run.length, (run.state (i + 1)).vault.state = (run.state i).vault.state ∨
      Edge (run.state i).vault.vaultType (run.state i).vault.state (run.state (i + 1)).vault.state) ∧
    (∀ first last, first ≤ last → last ≤ run.length → (run.state first).vault.state.closed →
      (run.state last).vault.state = (run.state first).vault.state) ∧
    (∀ i ≤ run.length, run.total repaidUnchecked i ≤ run.total contributed i) ∧
    ∀ i < run.length, ∀ signer isAdmin receiver, run.label i = .returnCustodyVault signer isAdmin receiver →
      receiver ≠ .ok () → (run.state (i + 1)).beneficiaryUnits =
        (run.state i).beneficiaryUnits + repaidUnchecked (run.state i) (run.label i) := by
  have kept := kept_run (kept_opened clock created counted) run
  refine ⟨?_, ?_, ?_, ?_, ?_⟩
  · intro i within running
    exact ⟨(kept i within).ledger running, exits_of_kept (kept i within) running,
      recoverable_of_kept (kept i within) running⟩
  · intro i within
    exact edge_step (run.next i within)
  · intro first last ordered within closed
    refine run.invariant_from (P := fun c => c.vault.state = (run.state first).vault.state) rfl ?_ last within
      ordered
    intro i before _ same
    rw [← same] at closed ⊢
    exact closed_step closed (run.next i before)
  · intro i within
    have stock := run.stock_add_outflow ledger_step i within
    have empty : (opened vault beneficiaryUnits otherUnits circulatingSupply now).vault.deposited = 0 :=
      (openCustodyVault_ok created).2.1
    omega
  · intro i within signer isAdmin receiver returned refused
    have stepped := run.next i within
    rw [returned] at stepped ⊢
    exact refused_step stepped refused

/-- The path on which every burn is triggered first and every return comes before the trigger. -/
inductive LinearEdge : VaultState → VaultState → Prop
  | trigger : LinearEdge .active .triggered
  | realize : LinearEdge .triggered .realized
  | revert : LinearEdge .triggered .reverted
  | return : LinearEdge .active .returned

def exampleVault : CustodyVault :=
  { authority := 1, vaultType := .redemptionQueue, realizeAction := .burnAndAttest, amount := 5, state := .active,
    deadline := 0, beneficiary := 0, deposited := 0, kycRegistry := 0 }

def exampleRun : Run step (opened exampleVault 0 5 5 10) :=
  .ofLabels _ _ [.inboundTransfer 5, .revertCustodyVault 1 true] rfl

theorem revert_skips_triggered :
    ¬ ∀ i < exampleRun.length,
      (exampleRun.state (i + 1)).vault.state = (exampleRun.state i).vault.state ∨
        LinearEdge (exampleRun.state i).vault.state (exampleRun.state (i + 1)).vault.state := by
  intro linear
  have edge : VaultState.reverted = .active ∨ LinearEdge .active .reverted := linear 1 (by decide)
  rcases edge with same | edge
  · cases same
  · cases edge

def deliveryVault : CustodyVault :=
  { authority := 1, vaultType := .deliveryEscrow, realizeAction := .burnAndAttest, amount := 4, state := .active,
    deadline := 90000, beneficiary := 2, deposited := 0, kycRegistry := 3 }

def deliveryRun : Run step (opened deliveryVault 4 1 5 10) :=
  .ofLabels _ _ [.depositToCustodyVault 2 4 0 false, .inboundTransfer 1, .triggerCustodyVault 1 true, .tick 90000,
    .returnCustodyVault 9 false (.error .receiverNotApproved)] rfl

theorem custody_vault_lifecycle_example :
    (exampleRun.state 1).vault.deposited ≤ (exampleRun.state 1).escrow ∧ Exits (exampleRun.state 1) ∧
      Recoverable (deliveryRun.state 4) ∧ (deliveryRun.state 5).beneficiaryUnits = 0 + 4 ∧
      ¬ ∃ c', step (deliveryRun.state 5) (.returnCustodyVault 1 true (.error .receiverNotApproved)) = .ok c' ∧
        c'.vault.state = .returned := by
  have created : openCustodyVault 1 true true 0 .redemptionQueue .burnAndAttest 5 0 0 none 10 = .ok exampleVault :=
    rfl
  have held := (custody_vault_lifecycle (by decide) created (by decide) exampleRun).1 1 (by decide) (by decide)
  have delivered : openCustodyVault 1 true true 0 .deliveryEscrow .burnAndAttest 4 90000 2 (some 3) 10 =
      .ok deliveryVault := rfl
  obtain ⟨unfinished, -, -, -, refused⟩ := custody_vault_lifecycle (by decide) delivered (by decide) deliveryRun
  refine ⟨held.1, held.2.1, (unfinished 4 (by decide) (by decide)).2.2 rfl, ?_, ?_⟩
  · exact refused 4 (by decide) 9 false (.error .receiverNotApproved) rfl (by decide)
  · exact fun exit => absurd (((unfinished 5 (by decide) (by decide)).2.1.delivery rfl _).mp exit) (by decide)

end Mancipatio.Custody
