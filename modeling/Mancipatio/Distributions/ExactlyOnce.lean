import Mancipatio.Distributions.Receipts

/-!
# Replays, retries and the close of a distribution
-/

namespace Mancipatio.Distributions
open Bytes Checked Execution Ledger Rows

def callPreimages (hashv : Hashv) (v : DistributionEscrow) (call : BatchCall) (entries : List BatchEntry) :
    List (List UInt8) :=
  batchBytes v.distribution.address (call.batchId, entries) ::
    Merkle.path hashv keyBytes (leafOf hashv v call.batchId entries) call.proof

theorem committed_member {hashv : Hashv} {v : DistributionEscrow} {call : BatchCall} {entries : List BatchEntry}
    {S : Set (List UInt8)} (collisionFree : Set.InjOn hashv S) (tree : Merkle.Tree (BitVec 32 × List BatchEntry))
    (committed : tree.digest hashv keyBytes (batchBytes v.distribution.address) = v.plan.batchRoot)
    (built : ∀ x ∈ tree.preimages hashv keyBytes (batchBytes v.distribution.address), x ∈ S)
    (hashed : ∀ x ∈ callPreimages hashv v call entries, x ∈ S)
    (proved : verifyMerkleProof hashv v.plan.batchRoot (leafOf hashv v call.batchId entries) call.proof = true) :
    (call.batchId, entries) ∈ tree.leaves := by
  rw [verifyMerkleProof_iff, ← committed] at proved
  obtain ⟨leaf, member, same⟩ := Merkle.verify_sound keyBytes_length keyBytes_injective collisionFree
    (batchBytes_length _) (hashed _ List.mem_cons_self) call.proof tree built
    (fun x member => hashed x (List.mem_cons_of_mem _ member)) proved
  exact batchBytes_injective _ same ▸ member

structure Pays (hashv : Hashv) (v v' : DistributionEscrow) (call : BatchCall) (entries : List BatchEntry) : Prop where
  proved : verifyMerkleProof hashv v.plan.batchRoot (leafOf hashv v call.batchId entries) call.proof = true
  moved : ∀ address, balance v'.accounts address +
      (if address = v.distribution.escrow then totalOf call.amounts else 0) =
    balance v.accounts address + paidTo (paymentsOf call) address

theorem call_receipt {hashv : Hashv} {v v' : DistributionEscrow} {call : BatchCall}
    (stepped : step hashv v (.distributeBatch call) = .ok v') :
    ∃ entries batch, Describes v call entries ∧
      lookup DistributionBatch.batchId call.batchId v'.batches = some batch ∧
      batch.batchHash = leafOf hashv v call.batchId entries ∧
      (lookup DistributionBatch.batchId call.batchId v.batches = none → Pays hashv v v' call entries) := by
  cases distributeBatch_effect stepped with
  | @paid _ entries accounts fresh described proved open' paired within moved =>
      refine ⟨entries, receiptOf hashv v call entries, described, lookup_append_new _ rfl fresh, rfl, fun _ => ⟨proved, ?_⟩⟩
      intro address
      have balanced := transferAll_balance moved address
      rw [payments_sum paired] at balanced
      exact balanced
  | @replayed _ entries batch stored described same =>
      refine ⟨entries, batch, described, stored, same, fun fresh => ?_⟩
      rw [stored] at fresh
      cases fresh
  | grown _ _ _ _ call => exact absurd rfl (call _)

theorem replay_unchanged {hashv : Hashv} {v v' : DistributionEscrow} {call : BatchCall} {batch : DistributionBatch}
    (stored : lookup DistributionBatch.batchId call.batchId v.batches = some batch)
    (stepped : step hashv v (.distributeBatch call) = .ok v') : v' = v := by
  cases distributeBatch_effect stepped with
  | paid fresh =>
      rw [stored] at fresh
      cases fresh
  | replayed => rfl
  | grown _ _ _ _ call => exact absurd rfl (call _)

theorem describes_unique {v : DistributionEscrow} {call : BatchCall} {entries entries' : List BatchEntry}
    (one : Describes v call entries) (two : Describes v call entries') : entries = entries' := by
  rw [Describes, two] at one
  exact (Except.ok.inj one).symm

section history
variable {hashv : Hashv} {initial : DistributionEscrow} (run : Run (step hashv) initial)

theorem sameTerms_run {i j : Nat} (ordered : i ≤ j) (within : j ≤ run.length) : SameTerms (run.state i) (run.state j) := by
  apply run.related (R := SameTerms) (fun _ => ⟨rfl, rfl, rfl, rfl, rfl, rfl⟩) SameTerms.trans within ordered
  intro k below _
  exact sameTerms_step (run.next k below)

theorem receipt_run {i : Nat} {batchId : BitVec 32} {batch : DistributionBatch}
    (stored : lookup DistributionBatch.batchId batchId (run.state i).batches = some batch) :
    ∀ j ≤ run.length, i ≤ j → lookup DistributionBatch.batchId batchId (run.state j).batches = some batch := by
  apply run.invariant_from (P := fun v => lookup DistributionBatch.batchId batchId v.batches = some batch) stored
  intro j within _ kept
  exact receipt_step kept (run.next j within)

theorem closed_run {i : Nat} (closed : (run.state i).distribution.status = .closed) :
    ∀ j ≤ run.length, i ≤ j → (run.state j).distribution.status = .closed := by
  apply run.invariant_from (P := fun v => v.distribution.status = .closed) closed
  intro j within _ kept
  exact closed_step kept (run.next j within)

theorem earlier_receipt {i j : Nat} {call : BatchCall} {entries : List BatchEntry} (before : i < j)
    (within : j ≤ run.length) (label : run.label i = .distributeBatch call)
    (described : Describes (run.state i) call entries) :
    ∃ batch, lookup DistributionBatch.batchId call.batchId (run.state j).batches = some batch ∧
      batch.batchHash = leafOf hashv (run.state j) call.batchId entries := by
  have stepped := run.next i (before.trans_le within)
  rw [label] at stepped
  obtain ⟨entries', batch, described', stored, hash, -⟩ := call_receipt stepped
  obtain rfl := describes_unique described described'
  refine ⟨batch, receipt_run run stored j within before, ?_⟩
  rw [hash, leafOf, leafOf, (sameTerms_run run before.le within).address]

end history

structure Wellformed (v : DistributionEscrow) (call : BatchCall) : Prop where
  admin : call.isAdmin = true
  unpaused : ¬ isPaused call.pauseFlags pauseDistributions
  shape : call.amounts ≠ [] ∧ call.amounts.length ≤ maxDistributionBatchSize ∧
    call.amounts.length = call.recipients.length ∧ ∀ a ∈ call.amounts, 0 < a.toNat
  planned : call.batchId.toNat < v.plan.batchCount ∧ call.proof.length ≤ 32

section acceptance
variable {hashv : Hashv} {v : DistributionEscrow} {call : BatchCall} {entries : List BatchEntry}
variable (accounted : Accounted hashv v) (wellformed : Wellformed v call) (described : Describes v call entries)
include accounted wellformed described

theorem replay_succeeds {batch : DistributionBatch}
    (stored : lookup DistributionBatch.batchId call.batchId v.batches = some batch)
    (hash : batch.batchHash = leafOf hashv v call.batchId entries) : step hashv v (.distributeBatch call) = .ok v := by
  obtain ⟨current, plan, receipts⟩ := accounted.versions
  obtain ⟨member, same⟩ := mem_of_lookup _ stored
  simp only [step, stored, bind_eq_ok]
  refine ⟨none, ?_, rfl⟩
  simp only [distributeBatch, bind_eq_ok, require_eq_ok, pure_eq_ok, exists_const]
  exact ⟨wellformed.admin, wellformed.unpaused, wellformed.shape, ⟨current, plan, wellformed.planned⟩, entries, described,
    ⟨receipts batch member, same, hash⟩, trivial⟩

theorem payment_succeeds {accounts : Accounts Pubkey} (open' : v.distribution.status = .distributing)
    (fresh : lookup DistributionBatch.batchId call.batchId v.batches = none)
    (proved : verifyMerkleProof hashv v.plan.batchRoot (leafOf hashv v call.batchId entries) call.proof = true)
    (counted : batchTotal call.amounts = .ok (totalOf call.amounts))
    (fits : v.distribution.totalAmount < 2 ^ 64 ∧ v.distribution.paidCount + call.amounts.length < 2 ^ 32)
    (within : v.distribution.distributedAmount + totalOf call.amounts ≤ v.distribution.totalAmount)
    (moved : transferAll RegistryError.insufficientFunds v.distribution.paymentMint v.distribution.escrow v.distribution.address
      v.accounts (paymentsOf call) = .ok accounts) :
    step hashv v (.distributeBatch call) = .ok { v with
      distribution := { v.distribution with
        distributedAmount := v.distribution.distributedAmount + totalOf call.amounts
        paidCount := v.distribution.paidCount + call.amounts.length }
      batches := v.batches ++ [receiptOf hashv v call entries]
      accounts } := by
  obtain ⟨current, plan, -⟩ := accounted.versions
  obtain ⟨escrow, held, owner, mint, -⟩ := accounted.funded open'
  simp only [step, fresh, bind_eq_ok]
  refine ⟨some ({ v.distribution with
    distributedAmount := v.distribution.distributedAmount + totalOf call.amounts
    paidCount := v.distribution.paidCount + call.amounts.length }, receiptOf hashv v call entries, accounts), ?_, rfl⟩
  simp only [distributeBatch, bind_eq_ok, require_eq_ok, okOr_eq_ok, checkedAdd_eq_some, pure_eq_ok, exists_const]
  exact ⟨wellformed.admin, wellformed.unpaused, wellformed.shape, ⟨current, plan, wellformed.planned⟩, entries, described,
    proved, open', escrow, held, ⟨owner, mint⟩, _, counted, _, ⟨rfl, by omega⟩, within, accounts, moved, _, ⟨rfl, fits.2⟩, rfl⟩

end acceptance

/-- The batch totals add up to what was distributed, within the funded amount, and the escrow covers the
rest while open. A batch id is paid once, for a proven payload; its payload can be repeated without
effect and no other is accepted. The close sends the whole escrow to the funder and ends all payments. -/
theorem distribution_exactly_once {hashv : Hashv} {isAdmin mintInitialized : Bool} {pauseFlags : PauseFlags}
    {address funder paymentMint escrow source : Pubkey} {accounts : Accounts Pubkey} {totalAmount snapshotSupply : Nat}
    {batchRoot : Hash} {batchCount : Nat} {created : Distribution × DistributionPlan × Accounts Pubkey}
    (creation : createDistribution isAdmin mintInitialized pauseFlags address funder paymentMint escrow accounts source
      totalAmount snapshotSupply batchRoot batchCount = .ok created)
    (run : Run (step hashv) (opened created)) :
    (∀ i ≤ run.length, Accounted hashv (run.state i)) ∧
    (∀ i j, i < j → j < run.length → ∀ call call', run.label i = .distributeBatch call →
      run.label j = .distributeBatch call' → call'.batchId = call.batchId → run.state (j + 1) = run.state j) ∧
    (∀ i < run.length, ∀ call, run.label i = .distributeBatch call →
      lookup DistributionBatch.batchId call.batchId (run.state i).batches = none →
      ∃ entries, Describes (run.state i) call entries ∧ Pays hashv (run.state i) (run.state (i + 1)) call entries ∧
        ∀ (S : Set (List UInt8)) (tree : Merkle.Tree (BitVec 32 × List BatchEntry)), Set.InjOn hashv S →
          tree.digest hashv keyBytes (batchBytes (run.state i).distribution.address) = (run.state i).plan.batchRoot →
          (∀ x ∈ tree.preimages hashv keyBytes (batchBytes (run.state i).distribution.address), x ∈ S) →
          (∀ x ∈ callPreimages hashv (run.state i) call entries, x ∈ S) → (call.batchId, entries) ∈ tree.leaves) ∧
    (∀ i j, i < j → j ≤ run.length → ∀ call, run.label i = .distributeBatch call →
      ∀ entries, Describes (run.state i) call entries →
      (∀ pauseFlags proof, ¬ isPaused pauseFlags pauseDistributions → proof.length ≤ 32 →
        Describes (run.state j) call entries →
        step hashv (run.state j) (.distributeBatch { call with isAdmin := true, pauseFlags, proof }) = .ok (run.state j)) ∧
      ∀ S : Set (List UInt8), Set.InjOn hashv S → ∀ call' entries', call'.batchId = call.batchId →
        Describes (run.state j) call' entries' → entries' ≠ entries →
        batchBytes (run.state j).distribution.address (call.batchId, entries) ∈ S →
        batchBytes (run.state j).distribution.address (call.batchId, entries') ∈ S →
        (step hashv (run.state j) (.distributeBatch call')).isOk = false) ∧
    (∀ i < run.length, ∀ isAdmin refundAccount, run.label i = .closeDistribution isAdmin refundAccount →
      ∃ escrow refund, (run.state i).accounts (run.state i).distribution.escrow = some escrow ∧
        (run.state i).accounts refundAccount = some refund ∧ refund.owner = (run.state i).distribution.funder ∧
        (run.state (i + 1)).accounts (run.state i).distribution.escrow = none ∧
        balance (run.state (i + 1)).accounts refundAccount = refund.amount + escrow.amount ∧
        ∀ j, i < j → j < run.length → ∀ call, run.label j = .distributeBatch call → run.state (j + 1) = run.state j) := by
  have books : ∀ i ≤ run.length, Accounted hashv (run.state i) := by
    apply run.invariant (accounted_opened creation)
    intro v instruction v' accounted stepped
    exact accounted_step accounted stepped
  refine ⟨books, ?_, ?_, ?_, ?_⟩
  · intro i j before within call call' label label' same
    have first := run.next i (before.trans within)
    rw [label] at first
    obtain ⟨-, batch, -, stored, -⟩ := call_receipt first
    have kept := receipt_run run stored j within.le before
    have second := run.next j within
    rw [label'] at second
    rw [← same] at kept
    exact replay_unchanged kept second
  · intro i within call label fresh
    have stepped := run.next i within
    rw [label] at stepped
    obtain ⟨entries, -, described, -, -, pays⟩ := call_receipt stepped
    refine ⟨entries, described, pays fresh, ?_⟩
    intro S tree collisionFree committed built hashed
    exact committed_member collisionFree tree committed built hashed (pays fresh).proved
  · intro i j before within call label entries described
    obtain ⟨batch, stored, hash⟩ := earlier_receipt run before within label described
    constructor
    · intro pauseFlags proof unpaused short again
      have stepped := run.next i (before.trans_le within)
      rw [label] at stepped
      simp only [step, distributeBatch, bind_eq_ok, require_eq_ok, exists_const] at stepped
      obtain ⟨-, ⟨-, -, shape, ⟨-, -, counted, -⟩, -⟩, -⟩ := stepped
      rw [← (sameTerms_run run before.le within).plan] at counted
      have wellformed : Wellformed (run.state j) { call with isAdmin := true, pauseFlags, proof } :=
        ⟨rfl, unpaused, shape, counted, short⟩
      exact replay_succeeds (books j within) wellformed again stored hash
    · intro S collisionFree call' entries' same described' differs member member'
      cases stepped : step hashv (run.state j) (.distributeBatch call') with
      | error => rfl
      | ok next =>
          have kept := stored
          rw [← same] at kept
          cases distributeBatch_effect stepped with
          | paid fresh =>
              rw [kept] at fresh
              cases fresh
          | @replayed _ entries'' batch' stored' described'' hash' =>
              obtain rfl := describes_unique described' described''
              rw [kept] at stored'
              cases stored'
              rw [hash, same] at hash'
              have payload := batchBytes_injective _ (collisionFree member member' hash')
              exact absurd (congrArg Prod.snd payload).symm differs
          | grown _ _ _ _ call => exact absurd rfl (call _)
  · intro i within isAdmin refundAccount label
    have stepped := run.next i within
    rw [label] at stepped
    have accounted := books i within.le
    have later : ∀ v', run.state (i + 1) = v' → v'.distribution.status = .closed →
        ∀ j, i < j → j < run.length → ∀ call, run.label j = .distributeBatch call → run.state (j + 1) = run.state j := by
      rintro v' rfl closed j before below call label'
      have still := closed_run run closed j below.le before
      have replayed := run.next j below
      rw [label'] at replayed
      generalize run.state (j + 1) = after at replayed ⊢
      cases distributeBatch_effect replayed with
      | paid _ _ _ open' =>
          rw [still] at open'
          cases open'
      | replayed => rfl
      | grown _ _ _ _ call => exact absurd rfl (call _)
    generalize after : run.state (i + 1) = v' at stepped ⊢
    cases closeDistribution_effect stepped with
    | @closed _ _ escrow refund swept open' held destination mint owner moved =>
        refine ⟨escrow, refund, held, destination, owner, Function.update_self _ _ _, ?_, later _ after rfl⟩
        have apart : refundAccount ≠ (run.state i).distribution.escrow := by
          rintro rfl
          obtain ⟨stored, found, owned, -⟩ := accounted.funded open'
          rw [destination] at found
          cases found
          exact accounted.foreign (owner.symm.trans owned)
        have swept := moved refundAccount
        rw [if_neg apart, if_pos rfl, balance_of_held destination, Nat.add_zero] at swept
        exact (balance_update_of_ne apart).trans swept
    | grown _ _ _ _ _ close => exact absurd rfl (close _ _)

/-! A distribution of 100 units whose one batch pays 40 and 30, is closed, and whose batch is then repeated. -/

def exampleEntries : List BatchEntry :=
  [(11, 1, 40), (12, 2, 30)]

def exampleLeaf : Hash := 0xda08e401a91cec03f8d154cf91be57539d49db2b0d2b85e358bed650171ea0a3

/-- SHA-256 on the one string that the example hashes, the only one of its length. -/
def exampleHashv : Hashv := fun x =>
  if x.length = 216 then exampleLeaf else 0

def exampleAccounts : Accounts Pubkey := fun address =>
  if address = 20 then some ⟨9, 3, 150, false⟩
  else if address = 11 then some ⟨9, 1, 0, false⟩
  else if address = 12 then some ⟨9, 2, 8, false⟩
  else none

def exampleCreated : Distribution × DistributionPlan × Accounts Pubkey :=
  ({ address := 7, funder := 3, paymentMint := 9, escrow := 8, totalAmount := 100, distributedAmount := 0, paidCount := 0,
     status := .distributing, version := 2 },
   { batchRoot := exampleLeaf, batchCount := 1, version := 1 },
   Function.update (Function.update (Function.update exampleAccounts 8 (some ⟨9, 7, 0, false⟩)) 20 (some ⟨9, 3, 50, false⟩))
     8 (some ⟨9, 7, 100, false⟩))

def exampleCall : BatchCall :=
  { isAdmin := true, pauseFlags := 0, batchId := 0, recipients := [11, 12], amounts := [40, 30], proof := [] }

def examplePaid : DistributionEscrow :=
  { distribution := { exampleCreated.1 with distributedAmount := 70, paidCount := 2 }
    plan := exampleCreated.2.1
    batches := [{ batchId := 0, batchHash := exampleLeaf, totalAmount := 70, paidCount := 2, version := 1 }]
    accounts :=
      Function.update (Function.update (Function.update (Function.update exampleCreated.2.2 8 (some ⟨9, 7, 60, false⟩)) 11
        (some ⟨9, 1, 40, false⟩)) 8 (some ⟨9, 7, 30, false⟩)) 12 (some ⟨9, 2, 38, false⟩) }

def exampleClosed : DistributionEscrow :=
  { examplePaid with
    distribution := { examplePaid.distribution with status := .closed }
    accounts :=
      Function.update (Function.update (Function.update examplePaid.accounts 8 (some ⟨9, 7, 0, false⟩)) 20
        (some ⟨9, 3, 80, false⟩)) 8 none }

theorem exampleLeaf_eq : leafOf exampleHashv (opened exampleCreated) 0 exampleEntries = exampleLeaf := by
  decide +kernel

theorem example_accounted : Accounted exampleHashv (opened exampleCreated) := by
  have creation : createDistribution true true 0 7 3 9 8 exampleAccounts 20 100 100 exampleLeaf 1 = .ok exampleCreated := rfl
  exact accounted_opened creation

theorem example_paid : step exampleHashv (opened exampleCreated) (.distributeBatch exampleCall) = .ok examplePaid := by
  have wellformed : Wellformed (opened exampleCreated) exampleCall :=
    ⟨rfl, by decide, by simp [exampleCall, maxDistributionBatchSize], by decide⟩
  have described : Describes (opened exampleCreated) exampleCall exampleEntries := rfl
  have proved : verifyMerkleProof exampleHashv exampleLeaf (leafOf exampleHashv (opened exampleCreated) 0 exampleEntries)
      [] = true := by
    rw [exampleLeaf_eq]
    rfl
  have moved : transferAll RegistryError.insufficientFunds 9 8 7 exampleCreated.2.2 (paymentsOf exampleCall) =
      .ok examplePaid.accounts := rfl
  have paid := payment_succeeds example_accounted wellformed described rfl rfl proved rfl (by decide) (by decide) moved
  have receipt : receiptOf exampleHashv (opened exampleCreated) exampleCall exampleEntries = ⟨0, exampleLeaf, 70, 2, 1⟩ := by
    rw [receiptOf, ← exampleLeaf_eq]
    rfl
  rw [paid, receipt]
  rfl

theorem example_closed : step exampleHashv examplePaid (.closeDistribution true 20) = .ok exampleClosed := rfl

theorem example_replayed : step exampleHashv exampleClosed (.distributeBatch exampleCall) = .ok exampleClosed := by
  have accounted := accounted_step (accounted_step example_accounted example_paid) example_closed
  have wellformed : Wellformed exampleClosed exampleCall :=
    ⟨rfl, by decide, by simp [exampleCall, maxDistributionBatchSize], by decide⟩
  have described : Describes exampleClosed exampleCall exampleEntries := rfl
  exact replay_succeeds accounted wellformed described rfl exampleLeaf_eq.symm

def exampleRun : Run (step exampleHashv) (opened exampleCreated) where
  length := 3
  state := fun i => if i = 0 then opened exampleCreated else if i = 1 then examplePaid else exampleClosed
  label := fun i => if i = 1 then .closeDistribution true 20 else .distributeBatch exampleCall
  starts := rfl
  next := by
    intro i within
    match i, within with
    | 0, _ => exact example_paid
    | 1, _ => exact example_closed
    | 2, _ => exact example_replayed

theorem distribution_exactly_once_example :
    balance (exampleRun.state 2).accounts 20 = 80 ∧ exampleRun.state 3 = exampleRun.state 2 := by
  have creation : createDistribution true true 0 7 3 9 8 exampleAccounts 20 100 100 exampleLeaf 1 = .ok exampleCreated := rfl
  obtain ⟨-, once, -⟩ := distribution_exactly_once creation exampleRun
  exact ⟨rfl, once 0 2 (by decide) (by decide) exampleCall exampleCall rfl rfl rfl⟩

end Mancipatio.Distributions
