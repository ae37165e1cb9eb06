import Mancipatio.Distributions.Plan
import Mancipatio.Library.Execution
import Mancipatio.Library.Rows

/-!
# Every batch of a distribution is paid once
-/

namespace Mancipatio.Distributions
open Bytes Checked Execution Ledger Rows

structure DistributionEscrow where
  distribution : Distribution
  plan : DistributionPlan
  batches : List DistributionBatch
  accounts : Accounts Pubkey

structure BatchCall where
  isAdmin : Bool
  pauseFlags : PauseFlags
  batchId : BitVec 32
  recipients : List Pubkey
  amounts : List (BitVec 64)
  proof : List Hash

inductive DistributionInstruction where
  | distributeBatch (call : BatchCall)
  | closeDistribution (isAdmin : Bool) (refundAccount : Pubkey)
  -- whatever the token program lets others do
  | setAccount (address : Pubkey) (account : Option (TokenAccount Pubkey))
  | inboundTransfer (amount : Nat)
  | setFrozen (frozen : Bool)

instance : Inhabited DistributionInstruction := ⟨.inboundTransfer 0⟩

/-- The escrow belongs to the distribution: others can only add to it or freeze it. -/
def changeEscrow (v : DistributionEscrow) (change : TokenAccount Pubkey → TokenAccount Pubkey) :
    Except RegistryError DistributionEscrow := do
  let escrow ← okOr (v.accounts v.distribution.escrow) .accountNotInitialized
  return { v with accounts := Function.update v.accounts v.distribution.escrow (some (change escrow)) }

def step (hashv : Hashv) (v : DistributionEscrow) : DistributionInstruction → Except RegistryError DistributionEscrow
  | .distributeBatch call => do
      let receipt := lookup DistributionBatch.batchId call.batchId v.batches
      match ← distributeBatch hashv v.distribution v.plan receipt v.accounts call.isAdmin call.pauseFlags call.batchId
        call.recipients call.amounts call.proof with
      | none => return v
      | some (distribution, batch, accounts) => return { v with distribution, batches := v.batches ++ [batch], accounts }
  | .closeDistribution isAdmin refundAccount => do
      let (distribution, accounts) ← closeDistribution v.distribution v.accounts isAdmin refundAccount
      return { v with distribution, accounts }
  | .setAccount address account => do
      require (address ≠ v.distribution.escrow) .unauthorized
      return { v with accounts := Function.update v.accounts address account }
  | .inboundTransfer amount => changeEscrow v fun escrow => { escrow with amount := escrow.amount + amount }
  | .setFrozen frozen => changeEscrow v fun escrow => { escrow with frozen }

def opened (created : Distribution × DistributionPlan × Accounts Pubkey) : DistributionEscrow :=
  { distribution := created.1, plan := created.2.1, batches := [], accounts := created.2.2 }

/-! ## What a step does -/

def Describes (v : DistributionEscrow) (call : BatchCall) (entries : List BatchEntry) : Prop :=
  batchEntries v.distribution v.accounts (call.recipients.zip call.amounts) = .ok entries

def leafOf (hashv : Hashv) (v : DistributionEscrow) (batchId : BitVec 32) (entries : List BatchEntry) : Hash :=
  distributionBatchLeaf hashv v.distribution.address batchId entries

def totalOf (amounts : List (BitVec 64)) : Nat :=
  (amounts.map BitVec.toNat).sum

def paymentsOf (call : BatchCall) : List (Pubkey × Nat) :=
  call.recipients.zip (call.amounts.map BitVec.toNat)

def receiptOf (hashv : Hashv) (v : DistributionEscrow) (call : BatchCall) (entries : List BatchEntry) : DistributionBatch :=
  { batchId := call.batchId
    batchHash := leafOf hashv v call.batchId entries
    totalAmount := totalOf call.amounts
    paidCount := call.amounts.length
    version := stateVersion }

inductive Effect (hashv : Hashv) (v : DistributionEscrow) : DistributionInstruction → DistributionEscrow → Prop
  | paid {call entries accounts} :
      lookup DistributionBatch.batchId call.batchId v.batches = none → Describes v call entries →
      verifyMerkleProof hashv v.plan.batchRoot (leafOf hashv v call.batchId entries) call.proof = true →
      v.distribution.status = .distributing → call.amounts.length = call.recipients.length →
      v.distribution.distributedAmount + totalOf call.amounts ≤ v.distribution.totalAmount →
      transferAll RegistryError.insufficientFunds v.distribution.paymentMint v.distribution.escrow v.distribution.address
        v.accounts (paymentsOf call) = .ok accounts →
      Effect hashv v (.distributeBatch call)
        { v with
          distribution := { v.distribution with
            distributedAmount := v.distribution.distributedAmount + totalOf call.amounts
            paidCount := v.distribution.paidCount + call.amounts.length }
          batches := v.batches ++ [receiptOf hashv v call entries]
          accounts }
  | replayed {call entries batch} :
      lookup DistributionBatch.batchId call.batchId v.batches = some batch → Describes v call entries →
      batch.batchHash = leafOf hashv v call.batchId entries → Effect hashv v (.distributeBatch call) v
  | closed {isAdmin refundAccount escrow refund swept} :
      v.distribution.status = .distributing → v.accounts v.distribution.escrow = some escrow →
      v.accounts refundAccount = some refund →
      refund.mint = v.distribution.paymentMint → refund.owner = v.distribution.funder →
      (∀ address, balance swept address + (if address = v.distribution.escrow then escrow.amount else 0) =
        balance v.accounts address + if refundAccount = address then escrow.amount else 0) →
      Effect hashv v (.closeDistribution isAdmin refundAccount)
        { v with
          distribution := { v.distribution with status := .closed }
          accounts := Function.update swept v.distribution.escrow none }
  | outside {address account} : address ≠ v.distribution.escrow →
      Effect hashv v (.setAccount address account) { v with accounts := Function.update v.accounts address account }
  | grown {instruction escrow escrow'} : v.accounts v.distribution.escrow = some escrow →
      escrow'.mint = escrow.mint → escrow'.owner = escrow.owner → escrow.amount ≤ escrow'.amount →
      (∀ call, instruction ≠ .distributeBatch call) →
      (∀ isAdmin refundAccount, instruction ≠ .closeDistribution isAdmin refundAccount) →
      Effect hashv v instruction
        { v with accounts := Function.update v.accounts v.distribution.escrow (some escrow') }

theorem batchTotal_ok {amounts : List (BitVec 64)} {total : Nat} (counted : batchTotal amounts = .ok total) :
    total = totalOf amounts := by
  have general : ∀ (amounts : List (BitVec 64)) (start total : Nat),
      amounts.foldlM (fun sum amount => okOr (checkedAdd 64 sum amount.toNat) RegistryError.overflow) start = .ok total →
      start + totalOf amounts = total := by
    intro amounts
    induction amounts with
    | nil =>
        intro start total counted
        simpa [totalOf] using counted
    | cons amount rest ih =>
        intro start total counted
        simp only [List.foldlM_cons, bind_eq_ok, okOr_eq_ok, checkedAdd_eq_some] at counted
        obtain ⟨_, ⟨rfl, -⟩, counted⟩ := counted
        have later := ih _ _ counted
        simp only [totalOf, List.map_cons, List.sum_cons] at later ⊢
        omega
  simpa using (general amounts 0 total counted).symm

section inversion
variable {hashv : Hashv} {v v' : DistributionEscrow}

theorem distributeBatch_effect {call : BatchCall} (stepped : step hashv v (.distributeBatch call) = .ok v') :
    Effect hashv v (.distributeBatch call) v' := by
  simp only [step, bind_eq_ok] at stepped
  obtain ⟨outcome, distributed, stepped⟩ := stepped
  simp only [distributeBatch, bind_eq_ok, require_eq_ok, exists_const] at distributed
  obtain ⟨-, -, ⟨-, -, paired, -⟩, -, entries, described, distributed⟩ := distributed
  cases receipt : lookup DistributionBatch.batchId call.batchId v.batches with
  | some batch =>
      simp only [receipt, bind_eq_ok, require_eq_ok, pure_eq_ok, exists_const] at distributed
      obtain ⟨⟨-, -, same⟩, rfl⟩ := distributed
      cases stepped
      exact .replayed receipt described same
  | none =>
      simp only [receipt, bind_eq_ok, require_eq_ok, okOr_eq_ok, checkedAdd_eq_some, pure_eq_ok,
        exists_const] at distributed
      obtain ⟨proved, open', _, -, -, total, counted, _, ⟨rfl, -⟩, within, accounts, moved, _, ⟨rfl, -⟩, rfl⟩ := distributed
      obtain rfl := batchTotal_ok counted
      cases stepped
      exact .paid receipt described proved open' paired within moved

theorem closeDistribution_effect {isAdmin : Bool} {refundAccount : Pubkey}
    (stepped : step hashv v (.closeDistribution isAdmin refundAccount) = .ok v') :
    Effect hashv v (.closeDistribution isAdmin refundAccount) v' := by
  simp only [step, closeDistribution, bind_eq_ok, require_eq_ok, okOr_eq_ok, pure_eq_ok, Prod.exists, Prod.mk.injEq,
    exists_const] at stepped
  obtain ⟨_, _, ⟨-, open', escrow, held, refund, destination, mint, owner, swept, moved, rfl, rfl⟩, rfl⟩ := stepped
  refine .closed ?_ held destination mint owner ?_
  · cases status : v.distribution.status with
    | distributing => rfl
    | closed => exact absurd status open'
  · exact sweep_balance moved

theorem changeEscrow_ok {change : TokenAccount Pubkey → TokenAccount Pubkey} (changed : changeEscrow v change = .ok v') :
    ∃ escrow, v.accounts v.distribution.escrow = some escrow ∧
      v' = { v with accounts := Function.update v.accounts v.distribution.escrow (some (change escrow)) } := by
  simp only [changeEscrow, bind_eq_ok, okOr_eq_ok, pure_eq_ok] at changed
  obtain ⟨escrow, held, rfl⟩ := changed
  exact ⟨escrow, held, rfl⟩

theorem step_effect {instruction : DistributionInstruction} (stepped : step hashv v instruction = .ok v') :
    Effect hashv v instruction v' := by
  cases instruction with
  | distributeBatch => exact distributeBatch_effect stepped
  | closeDistribution => exact closeDistribution_effect stepped
  | setAccount address account =>
      simp only [step, bind_eq_ok, require_eq_ok, pure_eq_ok, exists_const] at stepped
      obtain ⟨apart, rfl⟩ := stepped
      exact .outside apart
  | inboundTransfer amount =>
      obtain ⟨escrow, held, rfl⟩ := changeEscrow_ok stepped
      exact .grown held rfl rfl (Nat.le_add_right _ _) (by simp) (by simp)
  | setFrozen frozen =>
      obtain ⟨escrow, held, rfl⟩ := changeEscrow_ok stepped
      exact .grown held rfl rfl (Nat.le_refl _) (by simp) (by simp)

end inversion

/-! ## The books -/

structure Accounted (hashv : Hashv) (v : DistributionEscrow) : Prop where
  versions : v.distribution.version = distributionStateVersion ∧ v.plan.version = stateVersion ∧
    ∀ batch ∈ v.batches, batch.version = stateVersion
  foreign : v.distribution.funder ≠ v.distribution.address
  ids : (v.batches.map DistributionBatch.batchId).Nodup
  committed : ∀ batch ∈ v.batches, ∃ entries proof, batch.batchHash = leafOf hashv v batch.batchId entries ∧
    verifyMerkleProof hashv v.plan.batchRoot batch.batchHash proof = true
  total : (v.batches.map DistributionBatch.totalAmount).sum = v.distribution.distributedAmount
  within : v.distribution.distributedAmount ≤ v.distribution.totalAmount
  funded : v.distribution.status = .distributing → ∃ escrow, v.accounts v.distribution.escrow = some escrow ∧
    escrow.owner = v.distribution.address ∧ escrow.mint = v.distribution.paymentMint ∧
    v.distribution.totalAmount ≤ v.distribution.distributedAmount + escrow.amount
  swept : v.distribution.status = .closed → v.accounts v.distribution.escrow = none

theorem accounted_opened {hashv : Hashv} {isAdmin mintInitialized : Bool} {pauseFlags : PauseFlags}
    {address funder paymentMint escrow source : Pubkey} {accounts : Accounts Pubkey} {totalAmount snapshotSupply : Nat}
    {batchRoot : Hash} {batchCount : Nat} {created : Distribution × DistributionPlan × Accounts Pubkey}
    (creation : createDistribution isAdmin mintInitialized pauseFlags address funder paymentMint escrow accounts source
      totalAmount snapshotSupply batchRoot batchCount = .ok created) : Accounted hashv (opened created) := by
  simp only [createDistribution, bind_eq_ok, require_eq_ok, okOr_eq_ok, pure_eq_ok, exists_const] at creation
  obtain ⟨foreign, -, -, empty, payer, sent, ⟨-, owner⟩, -, -, -, funded, moved, rfl⟩ := creation
  have apart : escrow ≠ source := by
    rintro rfl
    rw [empty] at sent
    cases sent
  have held := held_of_holder (Function.update_self _ _ _) (transfer_holder moved escrow)
  have amount := transfer_balance moved escrow
  rw [if_neg apart, if_pos rfl, Nat.add_zero, balance_update_self, Nat.zero_add] at amount
  exact
    { versions := ⟨rfl, rfl, by simp [opened]⟩
      foreign := foreign
      ids := by simp [opened]
      committed := by simp [opened]
      total := by simp [opened]
      within := Nat.zero_le _
      funded := fun _ => ⟨_, held, rfl, rfl, by simp [opened, amount]⟩
      swept := by simp [opened] }

theorem payments_sum {call : BatchCall} (paired : call.amounts.length = call.recipients.length) :
    ((paymentsOf call).map Prod.snd).sum = totalOf call.amounts := by
  rw [paymentsOf, List.map_snd_zip (by simp [paired]), totalOf]

theorem accounted_step {hashv : Hashv} {v v' : DistributionEscrow} {instruction : DistributionInstruction}
    (accounted : Accounted hashv v) (stepped : step hashv v instruction = .ok v') : Accounted hashv v' := by
  cases step_effect stepped with
  | replayed => exact accounted
  | @paid call entries accounts fresh described proved open' paired within moved =>
      obtain ⟨escrow, held, owner, mint, covered⟩ := accounted.funded open'
      have kept := held_of_holder held (transferAll_holder moved _)
      have left := transferAll_balance moved v.distribution.escrow
      rw [if_pos rfl, payments_sum paired] at left
      have before := balance_of_held held
      refine { accounted with versions := ?_, ids := ?_, committed := ?_, total := ?_, within := within, funded := ?_, swept := ?_ }
      · obtain ⟨current, plan, receipts⟩ := accounted.versions
        refine ⟨current, plan, ?_⟩
        intro batch member
        rcases List.mem_append.mp member with old | new
        · exact receipts batch old
        · rw [List.mem_singleton.mp new]
          rfl
      · exact nodup_append_of_fresh _ accounted.ids fresh
      · intro batch member
        rcases List.mem_append.mp member with old | new
        · exact accounted.committed batch old
        · rw [List.mem_singleton.mp new]
          exact ⟨entries, call.proof, rfl, proved⟩
      · rw [sum_append_row, accounted.total]
        rfl
      · intro _
        refine ⟨_, kept, owner, mint, ?_⟩
        dsimp only
        omega
      · intro closed
        rw [open'] at closed
        cases closed
  | closed => exact { accounted with funded := by simp, swept := fun _ => Function.update_self _ _ _ }
  | outside apart =>
      refine { accounted with funded := ?_, swept := ?_ }
      · dsimp only
        rw [Function.update_of_ne (Ne.symm apart)]
        exact accounted.funded
      · dsimp only
        rw [Function.update_of_ne (Ne.symm apart)]
        exact accounted.swept
  | @grown _ escrow escrow' held mint owner more =>
      refine { accounted with funded := ?_, swept := ?_ }
      · intro open'
        obtain ⟨account, stored, owned, minted, covered⟩ := accounted.funded open'
        rw [held] at stored
        cases stored
        exact ⟨escrow', Function.update_self _ _ _, owner.trans owned, mint.trans minted, covered.trans (Nat.add_le_add_left more _)⟩
      · intro closed
        have gone := accounted.swept closed
        rw [held] at gone
        cases gone

/-! ## What stays -/

structure SameTerms (v v' : DistributionEscrow) : Prop where
  address : v'.distribution.address = v.distribution.address
  funder : v'.distribution.funder = v.distribution.funder
  paymentMint : v'.distribution.paymentMint = v.distribution.paymentMint
  escrow : v'.distribution.escrow = v.distribution.escrow
  totalAmount : v'.distribution.totalAmount = v.distribution.totalAmount
  plan : v'.plan = v.plan

theorem sameTerms_step {hashv : Hashv} {v v' : DistributionEscrow} {instruction : DistributionInstruction}
    (stepped : step hashv v instruction = .ok v') : SameTerms v v' := by
  cases step_effect stepped with
  | paid | replayed | closed | outside | grown => exact ⟨rfl, rfl, rfl, rfl, rfl, rfl⟩

theorem SameTerms.trans {u v w : DistributionEscrow} (first : SameTerms u v) (second : SameTerms v w) : SameTerms u w where
  address := second.address.trans first.address
  funder := second.funder.trans first.funder
  paymentMint := second.paymentMint.trans first.paymentMint
  escrow := second.escrow.trans first.escrow
  totalAmount := second.totalAmount.trans first.totalAmount
  plan := second.plan.trans first.plan

theorem receipt_step {hashv : Hashv} {v v' : DistributionEscrow} {instruction : DistributionInstruction}
    {batchId : BitVec 32} {batch : DistributionBatch} (stored : lookup DistributionBatch.batchId batchId v.batches = some batch)
    (stepped : step hashv v instruction = .ok v') :
    lookup DistributionBatch.batchId batchId v'.batches = some batch := by
  cases step_effect stepped with
  | paid => exact lookup_append_of_found _ stored _
  | replayed | closed | outside | grown => exact stored

theorem closed_step {hashv : Hashv} {v v' : DistributionEscrow} {instruction : DistributionInstruction}
    (closed : v.distribution.status = .closed) (stepped : step hashv v instruction = .ok v') :
    v'.distribution.status = .closed := by
  cases step_effect stepped with
  | paid _ _ _ open' =>
      rw [closed] at open'
      cases open'
  | closed => rfl
  | replayed | outside | grown => exact closed

end Mancipatio.Distributions
