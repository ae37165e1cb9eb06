import Mancipatio.Snapshot
import Mancipatio.Library.Checked
import Mancipatio.Library.Execution
import Mancipatio.Library.Rows

/-!
# Advisory votes of a share class

An admin opens a proposal over a holder snapshot, each holder votes once with the weight of its leaf while the window is
open, and anyone closes the vote behind it.
-/

namespace Mancipatio.Governance
open Checked Execution Rows

/-! ## Accounts -/

inductive ProposalStatus where
  | active
  | finalized
  deriving DecidableEq, Repr

inductive ProposalOutcome where
  | pending
  | passed
  | rejected
  deriving DecidableEq, Repr

inductive VoteChoice where
  | inFavor
  | against
  | abstain
  deriving DecidableEq, Repr

structure Proposal where
  shareClass : Pubkey
  authority : Pubkey
  proposalId : Nat
  metadataHash : Hash
  snapshotSlot : Nat
  snapshotRoot : Hash
  startTs : Int
  endTs : Int
  forWeight : Nat
  againstWeight : Nat
  abstainWeight : Nat
  status : ProposalStatus
  outcome : ProposalOutcome
  version : Nat
  deriving DecidableEq, Repr

abbrev ProposalKey := Pubkey × Nat

structure VoteRecord where
  proposal : ProposalKey
  voter : Pubkey
  choice : VoteChoice
  weight : Nat
  deriving DecidableEq, Repr

inductive ProposalError where
  | accountNotInitialized
  | accountAlreadyInUse
  | invalidProposalParams
  | proposalNotActive
  | votingNotStarted
  | votingClosed
  | invalidMerkleProof
  | overflow
  | proposalNotEnded
  deriving DecidableEq, Repr

def stateVersion : Nat := 1

/-! ## Instructions -/

structure ProposalParams where
  metadataHash : Hash
  snapshotSlot : Nat
  snapshotRoot : Hash
  startTs : Int
  endTs : Int
  deriving DecidableEq, Repr

def createProposal (isAdmin shareClassExists taken : Bool) (authority : Pubkey) (key : ProposalKey) (params : ProposalParams) :
    Except ProposalError Proposal := do
  require (isAdmin = true) .accountNotInitialized
  require (shareClassExists = true) .accountNotInitialized
  require (taken = false) .accountAlreadyInUse
  require (params.startTs ≤ params.endTs) .invalidProposalParams
  return {
    shareClass := key.1
    authority
    proposalId := key.2
    metadataHash := params.metadataHash
    snapshotSlot := params.snapshotSlot
    snapshotRoot := params.snapshotRoot
    startTs := params.startTs
    endTs := params.endTs
    forWeight := 0
    againstWeight := 0
    abstainWeight := 0
    status := .active
    outcome := .pending
    version := stateVersion }

def Proposal.weight (p : Proposal) : VoteChoice → Nat
  | .inFavor => p.forWeight
  | .against => p.againstWeight
  | .abstain => p.abstainWeight

def Proposal.withWeight (p : Proposal) (choice : VoteChoice) (weight : Nat) : Proposal :=
  match choice with
  | .inFavor => { p with forWeight := weight }
  | .against => { p with againstWeight := weight }
  | .abstain => { p with abstainWeight := weight }

def castVote (hashv : Hashv) (p : Proposal) (recorded : Bool) (key : ProposalKey) (voter : Pubkey) (choice : VoteChoice)
    (weight : BitVec 64) (proof : List Hash) (now : Int) : Except ProposalError (Proposal × VoteRecord) := do
  require (p.status = .active) .proposalNotActive
  require (recorded = false) .accountAlreadyInUse
  require (p.startTs ≤ now) .votingNotStarted
  require (now < p.endTs) .votingClosed
  require (verifyMerkleProof hashv p.snapshotRoot (snapshotLeaf hashv voter weight) proof) .invalidMerkleProof
  let counted ← okOr (checkedAdd 64 (p.weight choice) weight.toNat) .overflow
  return (p.withWeight choice counted, { proposal := key, voter, choice, weight := weight.toNat })

def finalizeProposal (p : Proposal) (now : Int) : Except ProposalError Proposal := do
  require (p.status = .active) .proposalNotActive
  require (p.endTs ≤ now) .proposalNotEnded
  return { p with
    outcome := if p.againstWeight < p.forWeight then .passed else .rejected
    status := .finalized }

/-! ## All proposals of the program -/

structure Ballots where
  admins : Pubkey → Bool
  shareClasses : Pubkey → Bool
  proposals : ProposalKey → Option Proposal
  records : List VoteRecord
  now : Int

inductive GovernanceInstruction where
  | createProposal (authority : Pubkey) (key : ProposalKey) (params : ProposalParams)
  | castVote (key : ProposalKey) (voter : Pubkey) (choice : VoteChoice) (weight : BitVec 64) (proof : List Hash)
  | finalizeProposal (key : ProposalKey)
  -- the authority instructions and the share classes move on beside the votes
  | setAdmin (key : Pubkey) (admin : Bool)
  | addShareClass (key : Pubkey)
  | tick (seconds : Nat)

instance : Inhabited GovernanceInstruction := ⟨.tick 0⟩

def recordedBy (key : ProposalKey) (voter : Pubkey) (records : List VoteRecord) : Bool :=
  records.any fun r => r.proposal = key ∧ r.voter = voter

def step (hashv : Hashv) (g : Ballots) : GovernanceInstruction → Except ProposalError Ballots
  | .createProposal authority key params => do
      let p ← createProposal (g.admins authority) (g.shareClasses key.1) (g.proposals key).isSome authority key params
      return { g with proposals := Function.update g.proposals key (some p) }
  | .castVote key voter choice weight proof => do
      let p ← okOr (g.proposals key) .accountNotInitialized
      let (p, record) ← castVote hashv p (recordedBy key voter g.records) key voter choice weight proof g.now
      return { g with proposals := Function.update g.proposals key (some p), records := g.records ++ [record] }
  | .finalizeProposal key => do
      let p ← okOr (g.proposals key) .accountNotInitialized
      let p ← finalizeProposal p g.now
      return { g with proposals := Function.update g.proposals key (some p) }
  | .setAdmin key admin => return { g with admins := Function.update g.admins key admin }
  | .addShareClass key => return { g with shareClasses := Function.update g.shareClasses key true }
  | .tick seconds => return { g with now := g.now + seconds }

def launched (admins shareClasses : Pubkey → Bool) (now : Int) : Ballots :=
  { admins, shareClasses, proposals := fun _ => none, records := [], now }

/-! ## What the instructions do -/

section weights
variable (p : Proposal) (choice other : VoteChoice) (weight : Nat)

@[simp] theorem withWeight_weight :
    (p.withWeight choice weight).weight other = if other = choice then weight else p.weight other := by
  cases choice <;> cases other <;> rfl

@[simp] theorem withWeight_status : (p.withWeight choice weight).status = p.status := by
  cases choice <;> rfl

@[simp] theorem withWeight_outcome : (p.withWeight choice weight).outcome = p.outcome := by
  cases choice <;> rfl

end weights

structure Terms where
  shareClass : Pubkey
  authority : Pubkey
  proposalId : Nat
  params : ProposalParams
  deriving DecidableEq, Repr

def Proposal.terms (p : Proposal) : Terms where
  shareClass := p.shareClass
  authority := p.authority
  proposalId := p.proposalId
  params :=
    { metadataHash := p.metadataHash, snapshotSlot := p.snapshotSlot, snapshotRoot := p.snapshotRoot
      startTs := p.startTs, endTs := p.endTs }

@[simp] theorem withWeight_terms (p : Proposal) (choice : VoteChoice) (weight : Nat) :
    (p.withWeight choice weight).terms = p.terms := by
  cases choice <;> rfl

inductive Effect (hashv : Hashv) (g : Ballots) : GovernanceInstruction → Ballots → Prop where
  | created {authority : Pubkey} {key : ProposalKey} {params : ProposalParams} {p : Proposal} (isAdmin : g.admins authority = true)
      (fresh : g.proposals key = none) (ordered : params.startTs ≤ params.endTs)
      (terms : p.terms = { shareClass := key.1, authority, proposalId := key.2, params })
      (unvoted : ∀ choice, p.weight choice = 0) (active : p.status = .active) (pending : p.outcome = .pending) :
      Effect hashv g (.createProposal authority key params) { g with proposals := Function.update g.proposals key (some p) }
  | cast {key : ProposalKey} {voter : Pubkey} {choice : VoteChoice} {weight : BitVec 64} {proof : List Hash} {p : Proposal}
      (stored : g.proposals key = some p) (active : p.status = .active) (first : recordedBy key voter g.records = false)
      (opened : p.startTs ≤ g.now) (running : g.now < p.endTs)
      (proved : verifyMerkleProof hashv p.snapshotRoot (snapshotLeaf hashv voter weight) proof = true)
      (fits : p.weight choice + weight.toNat < 2 ^ 64) :
      Effect hashv g (.castVote key voter choice weight proof)
        { g with
          proposals := Function.update g.proposals key (some (p.withWeight choice (p.weight choice + weight.toNat)))
          records := g.records ++ [{ proposal := key, voter, choice, weight := weight.toNat }] }
  | closed {key : ProposalKey} {p : Proposal} (stored : g.proposals key = some p) (active : p.status = .active)
      (ended : p.endTs ≤ g.now) :
      Effect hashv g (.finalizeProposal key)
        { g with
          proposals := Function.update g.proposals key (some
            { p with outcome := if p.againstWeight < p.forWeight then .passed else .rejected, status := .finalized }) }
  | elsewhere {instruction : GovernanceInstruction} {g' : Ballots} (proposals : g'.proposals = g.proposals)
      (records : g'.records = g.records) (later : g.now ≤ g'.now) : Effect hashv g instruction g'

theorem step_effect {hashv : Hashv} {g g' : Ballots} {instruction : GovernanceInstruction}
    (stepped : step hashv g instruction = .ok g') : Effect hashv g instruction g' := by
  cases instruction with
  | createProposal authority key params =>
      simp only [step, createProposal, bind_eq_ok, require_eq_ok, pure_eq_ok, exists_const] at stepped
      obtain ⟨p, ⟨isAdmin, -, fresh, ordered, rfl⟩, rfl⟩ := stepped
      apply Effect.created isAdmin (Option.isSome_eq_false_iff.mp fresh |> Option.isNone_iff_eq_none.mp) ordered rfl ?_ rfl rfl
      intro choice
      cases choice <;> rfl
  | castVote key voter choice weight proof =>
      simp only [step, castVote, bind_eq_ok, okOr_eq_ok, require_eq_ok, checkedAdd_eq_some, pure_eq_ok, exists_const] at stepped
      obtain ⟨p, stored, _, ⟨active, first, opened, running, proved, _, ⟨rfl, fits⟩, rfl⟩, rfl⟩ := stepped
      exact .cast stored active first opened running proved fits
  | finalizeProposal key =>
      simp only [step, finalizeProposal, bind_eq_ok, okOr_eq_ok, require_eq_ok, pure_eq_ok, exists_const] at stepped
      obtain ⟨p, stored, _, ⟨active, ended, rfl⟩, rfl⟩ := stepped
      exact .closed stored active ended
  | setAdmin key admin =>
      obtain rfl := Except.ok.inj stepped
      exact .elsewhere rfl rfl (Int.le_refl _)
  | addShareClass key =>
      obtain rfl := Except.ok.inj stepped
      exact .elsewhere rfl rfl (Int.le_refl _)
  | tick seconds =>
      obtain rfl := Except.ok.inj stepped
      exact .elsewhere rfl rfl (by dsimp only; omega)

end Mancipatio.Governance
