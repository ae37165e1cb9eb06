import Mancipatio.Capacity.Cap

/-!
# Adopted approvals

The chain is counted once. The subject that an adoption locks and reports is the one of the row it rewrites
only if the SPV it resolved is still the row's.
-/

namespace Mancipatio.Capacity
open Checked Rows Execution

def ApprovalCounted (l' : Ledger) (chain : OnChainApproval) (row : Reservation) : Prop :=
  row ∈ l'.reservations ∧ row.counted = true ∧ ∃ terms, row.terms = some terms ∧
    terms.approvalPda = chain.approval.approvalPda ∧
    (row.status = .reserved →
      saleCapacityEur chain.approval.maxGrossRaise terms.fxRate terms.paymentDecimals ≤ row.amountEur)

def Reported (l' : Ledger) (locked : Subject) (reply : Reply) : Prop :=
  reply.row.subject = locked ∧ ∃ report, saleCapacity l' reply.row.subject = .ok report ∧ reply.overCap = report.overCap

/-- An adoption that changes a row finds it under the subject that it locks. -/
def SameSubject (l : Ledger) : CapacityLabel → Prop
  | .adoptSaleApproval chain spvId => ∀ r ∈ findApproval l chain.approval.approvalPda,
      (r.status = .reserved ∧ ¬ r.matchesChain chain ∨ r.counted = false) → r.subject = subjectOf spvId chain.issuerPda
  | _ => True

section adoption
variable {l l' : Ledger} {chain : OnChainApproval} {spvId : Option Nat} {reply : Reply}

theorem adoption_counts (formed : WellFormed l) (stepped : adoptSaleApproval l chain spvId = .ok (l', reply)) :
    ApprovalCounted l' chain reply.row := by
  obtain ⟨-, adopted⟩ := adoptSaleApproval_adopted stepped
  cases adopted with
  | inserted new =>
      subst new
      exact ⟨List.mem_append_right _ (List.mem_singleton_self _), rfl, _, rfl, rfl, fun _ => Nat.le_refl _⟩
  | @unchanged r found status =>
      obtain ⟨member, terms, sale, approval⟩ := findApproval_mem found
      refine ⟨member, ?_, terms, sale, approval, ?_⟩
      · rcases status with consumed | ⟨_, _, _, booked⟩ | ⟨reserved, -⟩
        · rw [Reservation.counted, consumed]
        · rw [Reservation.counted, booked]
        · rw [Reservation.counted, reserved]
      · intro reserved
        rcases status with consumed | ⟨_, _, _, booked⟩ | ⟨-, ⟨terms', sale', -, gross, -⟩, -⟩
        · rw [consumed] at reserved
          cases reserved
        · rw [booked] at reserved
          cases reserved
        · obtain rfl : terms' = terms := Option.some.inj (sale'.symm.trans sale)
          rw [← gross]
          exact formed.covered r member reserved terms' sale
  | @changed r terms rate decimals capacity row action fresh new found sale status =>
      subst new
      obtain ⟨member, terms', sale', approval⟩ := findApproval_mem found
      obtain rfl : terms' = terms := Option.some.inj (sale'.symm.trans sale)
      refine ⟨?_, rfl, _, rfl, approval, fun _ => Nat.le_max_left _ _⟩
      exact (mem_of_lookup _ (lookup_rewrite l _)).1

/-- A changed row is reported under the locked subject exactly if it already was counted there. -/
theorem adoption_reported (stepped : adoptSaleApproval l chain spvId = .ok (l', reply)) :
    (reply.action ≠ some .unchanged → Reported l' (subjectOf spvId chain.issuerPda) reply) ↔
      SameSubject l (.adoptSaleApproval chain spvId) := by
  obtain ⟨-, adopted⟩ := adoptSaleApproval_adopted stepped
  cases adopted with
  | inserted new found _ reported =>
      subst new
      refine ⟨fun _ r known => ?_, fun _ _ => ⟨rfl, _, reported, rfl⟩⟩
      rw [found] at known
      cases known
  | unchanged found status =>
      refine ⟨fun _ r known changes => ?_, fun _ changed => absurd rfl changed⟩
      rw [found] at known
      cases known
      rcases status with consumed | ⟨_, _, _, booked⟩ | ⟨reserved, matched⟩
      · simp [consumed, Reservation.counted] at changes
      · simp [booked, Reservation.counted] at changes
      · simp [reserved, matched, Reservation.counted] at changes
  | @changed r terms rate decimals capacity row action fresh new found sale status kept reported =>
      have same : row.subject = r.subject := by
        rw [new]
        exact (adoptedAt_continues _ _ _ _ _ _).subject
      constructor
      · intro locked r' known _
        obtain rfl : r = r' := Option.some.inj (found.symm.trans known)
        exact same.symm.trans (locked fun unchanged => fresh (Option.some.inj unchanged)).1
      · intro locked _
        have before : r.subject = subjectOf spvId chain.issuerPda := by
          apply locked r found
          rcases status with reserved | ⟨reason, released⟩
          · exact .inl reserved
          · exact .inr (by rw [Reservation.counted, released])
        refine ⟨same.trans before, capacity, ?_, rfl⟩
        rw [show row.subject = _ from same.trans before]
        exact reported

theorem mint_reported {chain : OnChainMint} {issuedAt : Option Date}
    (stepped : adoptTreasuryMint l chain spvId issuedAt = .ok (l', reply)) (adopted : reply.action = some .adopted) :
    Reported l' (subjectOf spvId chain.issuerPda) reply := by
  simp only [adoptTreasuryMint, bind_eq_ok, require_eq_ok, exists_const] at stepped
  obtain ⟨-, subject, locked, stepped⟩ := stepped
  obtain ⟨-, rfl⟩ := saleCapacityLock_ok locked
  split at stepped
  case h_1 =>
    simp only [bind_eq_ok, pure_eq_ok, Prod.mk.injEq] at stepped
    obtain ⟨_, -, -, rfl⟩ := stepped
    cases adopted
  case h_2 =>
    simp only [bind_eq_ok, pure_eq_ok, Prod.mk.injEq] at stepped
    obtain ⟨_, -, _, -, _, -, capacity, reported, rfl, rfl⟩ := stepped
    exact ⟨rfl, capacity, reported, rfl⟩

end adoption

/-! ## Whole runs -/

section runs
variable {spvs : List Spv} {platformRaiseLimit : Option Nat} {clientRaiseLimits : Pubkey → List Nat} {now : Int} {today : Date}

structure ChainCountedOnce (run : Run step (emptyLedger spvs platformRaiseLimit clientRaiseLimits now today)) : Prop where
  sales : ∀ i ≤ run.length, ∀ a ∈ (run.state i).reservations, ∀ b ∈ (run.state i).reservations, ∀ salePda,
    a.countedSalePda = some salePda → b.countedSalePda = some salePda → a = b
  mints : ∀ i ≤ run.length, ∀ a ∈ (run.state i).reservations, ∀ b ∈ (run.state i).reservations, ∀ mintKey,
    a.mintSignature = some mintKey → b.mintSignature = some mintKey → a = b
  approvals : ∀ i < run.length, ∀ chain spvId reply, run.label i = .adoptSaleApproval chain spvId →
    adoptSaleApproval (run.state i) chain spvId = .ok (run.state (i + 1), reply) →
    ApprovalCounted (run.state (i + 1)) chain reply.row
  subjects : ∀ i < run.length, ∀ chain spvId reply, run.label i = .adoptSaleApproval chain spvId →
    adoptSaleApproval (run.state i) chain spvId = .ok (run.state (i + 1), reply) →
    reply.action ≠ some .unchanged → Reported (run.state (i + 1)) (subjectOf spvId chain.issuerPda) reply
  treasury : ∀ i < run.length, ∀ chain spvId issuedAt reply, run.label i = .adoptTreasuryMint chain spvId issuedAt →
    adoptTreasuryMint (run.state i) chain spvId issuedAt = .ok (run.state (i + 1), reply) →
    reply.action = some .adopted → Reported (run.state (i + 1)) (subjectOf spvId chain.issuerPda) reply

end runs

/-- Whatever is reserved, released, used, booked and adopted, each sale and each mint is counted by one row, and an
adopted approval by a row of its size. The rewritten row is the one that was locked and reported exactly as long as
every adoption resolves to the subject that the row has. -/
theorem adoption_locks_row_subject (spvs : List Spv) (platformRaiseLimit : Option Nat)
    (clientRaiseLimits : Pubkey → List Nat) (now : Int) (today : Date)
    (run : Run step (emptyLedger spvs platformRaiseLimit clientRaiseLimits now today)) :
    ChainCountedOnce run ↔ ∀ i < run.length, SameSubject (run.state i) (run.label i) := by
  have formed := wellFormed_run run
  constructor
  · intro once i inside
    have stepped := run.next i inside
    cases labelled : run.label i with
    | adoptSaleApproval chain spvId =>
        simp only [labelled, step, map_eq_ok] at stepped
        obtain ⟨⟨l', reply⟩, stepped, same⟩ := stepped
        obtain rfl : l' = run.state (i + 1) := same
        exact (adoption_reported stepped).mp (once.subjects i inside chain spvId reply labelled stepped)
    | _ => trivial
  · intro locked
    refine ⟨?sales, ?mints, ?approvals, ?subjects, ?treasury⟩
    case sales =>
      intro i inside a first b second salePda counted counted'
      exact eq_of_indexed (formed i inside).indexes.2.2.1 first second counted counted'
    case mints =>
      intro i inside a first b second mintKey counted counted'
      exact eq_of_indexed (formed i inside).indexes.2.2.2 first second counted counted'
    case approvals =>
      intro i inside chain spvId reply _ stepped
      exact adoption_counts (formed i (Nat.le_of_lt inside)) stepped
    case subjects =>
      intro i inside chain spvId reply labelled stepped
      have same := locked i inside
      rw [labelled] at same
      exact (adoption_reported stepped).mpr same
    case treasury =>
      intro i inside chain spvId issuedAt reply _ stepped
      exact mint_reported stepped

def Resolves (l : Ledger) : CapacityLabel → Prop
  | .adoptSaleApproval chain spvId => saleCapacitySpv l chain.assetPda chain.issuerPda false = .ok spvId
  | .adoptTreasuryMint chain spvId _ => saleCapacitySpv l chain.assetPda chain.issuerPda false = .ok spvId
  | _ => True

instance (l : Ledger) (label : CapacityLabel) : Decidable (Resolves l label) :=
  match label with
  | .adoptSaleApproval _ _ | .adoptTreasuryMint _ _ _ => inferInstanceAs (Decidable (_ = _))
  | .reserveSaleCapacity _ | .confirmSaleReservation _ | .consumeSaleReservation _ _ _ | .bookSaleReservation _ _ _ _
  | .releaseSaleReservation _ _ | .reserveTreasuryMintCapacity _ | .bookTreasuryMint _ _ _ _
  | .recordSpvAdjustment _ | .registerSpv _ | .setSpvIssuer _ _ | .setAssetProfile _ _ | .setFxRate _ _
  | .setFxAutoRate _ _ | .setApplication _ _ | .setSalePrice _ _ | .indexSale _ _ | .setHolds _ | .tick _ _ =>
      inferInstanceAs (Decidable True)

instance (l : Ledger) (label : CapacityLabel) : Decidable (SameSubject l label) :=
  match label with
  | .adoptSaleApproval _ _ => inferInstanceAs (Decidable (∀ r ∈ findApproval l _, _ → _))
  | .reserveSaleCapacity _ | .confirmSaleReservation _ | .consumeSaleReservation _ _ _ | .bookSaleReservation _ _ _ _
  | .releaseSaleReservation _ _ | .reserveTreasuryMintCapacity _ | .bookTreasuryMint _ _ _ _ | .adoptTreasuryMint _ _ _
  | .recordSpvAdjustment _ | .registerSpv _ | .setSpvIssuer _ _ | .setAssetProfile _ _ | .setFxRate _ _
  | .setFxAutoRate _ _ | .setApplication _ _ | .setSalePrice _ _ | .indexSale _ _ | .setHolds _ | .tick _ _ =>
      inferInstanceAs (Decidable True)

def lateLanding : List CapacityLabel :=
  [.setFxRate 2 (some examplePeg), .reserveSaleCapacity (exampleRequest 0 100), .releaseSaleReservation 0 .txFailed,
    .reserveSaleCapacity (exampleRequest 1 100), .registerSpv { id := 3, issuerPda := some 7, annualCapEur := 30000 },
    .adoptSaleApproval
      { id := 9, shareClass := 1, assetPda := none, issuerPda := 7, approval := (exampleRequest 0 100).approval,
        applicationHash := 0, approvedBy := "admin" } (some 3)]

def lateLandingRun : Run step exampleLedger :=
  Run.ofLabels step exampleLedger lateLanding (by decide +kernel)

theorem adoption_reports_other_subject : ∃ run : Run step exampleLedger,
    (∀ i < run.length, Resolves (run.state i) (run.label i)) ∧ ¬ ChainCountedOnce run := by
  refine ⟨lateLandingRun, by decide +kernel, ?_⟩
  intro once
  have stepped := lateLandingRun.next 5 (by decide)
  obtain ⟨⟨l', reply⟩, adopted, same⟩ := map_eq_ok.mp stepped
  obtain rfl : l' = lateLandingRun.state 6 := same
  have locked := (adoption_reported adopted).mp (once.subjects 5 (by decide) _ _ reply rfl adopted)
  exact absurd locked (by decide +kernel)

end Mancipatio.Capacity
