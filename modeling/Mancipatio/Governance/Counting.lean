import Mancipatio.Governance.Proposals

/-!
# What a vote counts
-/

namespace Mancipatio.Governance
open Checked Execution Rows

/-! ## The books -/

def castFor (records : List VoteRecord) (key : ProposalKey) (choice : VoteChoice) : Nat :=
  ((records.filter fun r => r.proposal = key ∧ r.choice = choice).map VoteRecord.weight).sum

def cast (records : List VoteRecord) (key : ProposalKey) : Nat :=
  ((records.filter fun r => r.proposal = key).map VoteRecord.weight).sum

theorem castFor_append (records : List VoteRecord) (r : VoteRecord) (key : ProposalKey) (choice : VoteChoice) :
    castFor (records ++ [r]) key choice =
      castFor records key choice + if r.proposal = key ∧ r.choice = choice then r.weight else 0 := by
  unfold castFor
  rw [List.filter_append, List.map_append, List.sum_append]
  split
  case isTrue counts => simp [counts]
  case isFalse other => simp [other]

theorem castFor_unknown {records : List VoteRecord} {key : ProposalKey} (unknown : ∀ r ∈ records, r.proposal ≠ key)
    (choice : VoteChoice) : castFor records key choice = 0 := by
  have none' : (records.filter fun r => r.proposal = key ∧ r.choice = choice) = [] := by
    apply List.filter_eq_nil_iff.mpr
    intro r member
    simp [unknown r member]
  rw [castFor, none']
  rfl

theorem cast_split (records : List VoteRecord) (key : ProposalKey) :
    cast records key = castFor records key .inFavor + castFor records key .against + castFor records key .abstain := by
  induction records with
  | nil => rfl
  | cons r rest ih =>
      unfold cast castFor at *
      simp only [List.filter_cons]
      by_cases here : r.proposal = key
      · cases choice : r.choice with
        | inFavor =>
            simp only [here, decide_true, and_self, reduceCtorEq, and_false, decide_false, if_true, Bool.false_eq_true, if_false,
              List.map_cons, List.sum_cons]
            omega
        | against =>
            simp only [here, decide_true, and_self, reduceCtorEq, and_false, decide_false, if_true, Bool.false_eq_true, if_false,
              List.map_cons, List.sum_cons]
            omega
        | abstain =>
            simp only [here, decide_true, and_self, reduceCtorEq, and_false, decide_false, if_true, Bool.false_eq_true, if_false,
              List.map_cons, List.sum_cons]
            omega
      · simp [here, ih]

def Proposal.decided (p : Proposal) : ProposalOutcome :=
  if p.againstWeight < p.forWeight then .passed else .rejected

structure Tallied (g : Ballots) : Prop where
  keyed : ∀ key p, g.proposals key = some p → (p.shareClass, p.proposalId) = key ∧ p.startTs ≤ p.endTs
  counted : ∀ key p, g.proposals key = some p → ∀ choice, p.weight choice = castFor g.records key choice
  distinct : (g.records.map fun r => (r.proposal, r.voter)).Nodup
  known : ∀ r ∈ g.records, ∃ p, g.proposals r.proposal = some p
  outcome : ∀ key p, g.proposals key = some p →
    p.status = .active ∧ p.outcome = .pending ∨ p.status = .finalized ∧ p.endTs ≤ g.now ∧ p.outcome = p.decided

theorem tallied_launched (admins shareClasses : Pubkey → Bool) (now : Int) : Tallied (launched admins shareClasses now) where
  keyed := by simp [launched]
  counted := by simp [launched]
  distinct := List.nodup_nil
  known := by simp [launched]
  outcome := by simp [launched]

theorem recordedBy_eq_false {key : ProposalKey} {voter : Pubkey} {records : List VoteRecord} :
    recordedBy key voter records = false ↔ (key, voter) ∉ records.map fun r => (r.proposal, r.voter) := by
  simp [recordedBy]

/-! ## One step -/

theorem tallied_step {hashv : Hashv} {g g' : Ballots} {instruction : GovernanceInstruction} (tallied : Tallied g)
    (stepped : step hashv g instruction = .ok g') : Tallied g' := by
  cases step_effect stepped with
  | @created authority key params p isAdmin fresh ordered terms unvoted active pending =>
      have unknown : ∀ r ∈ g.records, r.proposal ≠ key := by
        rintro r member rfl
        obtain ⟨old, stored⟩ := tallied.known r member
        rw [fresh] at stored
        cases stored
      have own : p.shareClass = key.1 ∧ p.proposalId = key.2 ∧ p.startTs = params.startTs ∧ p.endTs = params.endTs :=
        ⟨congrArg Terms.shareClass terms, congrArg Terms.proposalId terms, congrArg (fun t => t.params.startTs) terms,
          congrArg (fun t => t.params.endTs) terms⟩
      constructor
      case keyed =>
        intro other q found
        rcases updated_row found with ⟨rfl, rfl⟩ | ⟨-, old⟩
        · obtain ⟨shareClass, proposalId, startTs, endTs⟩ := own
          exact ⟨Prod.ext shareClass proposalId, by rw [startTs, endTs]; exact ordered⟩
        · exact tallied.keyed other q old
      case counted =>
        intro other q found choice
        rcases updated_row found with ⟨rfl, rfl⟩ | ⟨-, old⟩
        · rw [unvoted, castFor_unknown unknown]
        · exact tallied.counted other q old choice
      case distinct => exact tallied.distinct
      case known =>
        intro r member
        obtain ⟨old, stored⟩ := tallied.known r member
        exact ⟨old, (Function.update_of_ne (unknown r member) _ _).trans stored⟩
      case outcome =>
        intro other q found
        rcases updated_row found with ⟨rfl, rfl⟩ | ⟨-, old⟩
        · exact .inl ⟨active, pending⟩
        · exact tallied.outcome other q old
  | @cast key voter choice weight proof p stored active first opened running proved fits =>
      constructor
      case keyed =>
        intro other q found
        rcases updated_row found with ⟨rfl, rfl⟩ | ⟨-, old⟩
        · have same := withWeight_terms p choice (p.weight choice + weight.toNat)
          have before := tallied.keyed other p stored
          rw [show (p.withWeight choice _).shareClass = p.shareClass from congrArg Terms.shareClass same,
            show (p.withWeight choice _).proposalId = p.proposalId from congrArg Terms.proposalId same,
            show (p.withWeight choice _).startTs = p.startTs from congrArg (fun t => t.params.startTs) same,
            show (p.withWeight choice _).endTs = p.endTs from congrArg (fun t => t.params.endTs) same]
          exact before
        · exact tallied.keyed other q old
      case counted =>
        intro other q found choice'
        rw [castFor_append]
        rcases updated_row found with ⟨rfl, rfl⟩ | ⟨apart, old⟩
        · rw [withWeight_weight, ← tallied.counted other p stored choice']
          by_cases same : choice' = choice
          · simp [same]
          · simp [same, Ne.symm same]
        · simp [tallied.counted other q old choice', Ne.symm apart]
      case distinct =>
        rw [List.map_append, List.map_singleton]
        apply List.nodup_append.mpr
        refine ⟨tallied.distinct, List.nodup_singleton _, ?_⟩
        intro a member b last same
        rw [List.mem_singleton.mp last] at same
        exact recordedBy_eq_false.mp first (same ▸ member)
      case known =>
        intro r member
        rcases List.mem_append.mp member with old | new
        · obtain ⟨q, found⟩ := tallied.known r old
          by_cases here : r.proposal = key
          · exact ⟨_, by rw [here]; exact Function.update_self _ _ _⟩
          · exact ⟨q, (Function.update_of_ne here _ _).trans found⟩
        · rw [List.mem_singleton.mp new]
          exact ⟨_, Function.update_self _ _ _⟩
      case outcome =>
        intro other q found
        rcases updated_row found with ⟨rfl, rfl⟩ | ⟨-, old⟩
        · left
          rw [withWeight_status, withWeight_outcome]
          refine ⟨active, ?_⟩
          rcases tallied.outcome other p stored with ⟨-, pending⟩ | ⟨done, -⟩
          · exact pending
          · rw [active] at done
            cases done
        · exact tallied.outcome other q old
  | @closed key p stored active ended =>
      constructor
      case keyed =>
        intro other q found
        rcases updated_row found with ⟨rfl, rfl⟩ | ⟨-, old⟩
        · exact tallied.keyed other p stored
        · exact tallied.keyed other q old
      case counted =>
        intro other q found choice
        rcases updated_row found with ⟨rfl, rfl⟩ | ⟨-, old⟩
        · rw [← tallied.counted other p stored choice]
          cases choice <;> rfl
        · exact tallied.counted other q old choice
      case distinct => exact tallied.distinct
      case known =>
        intro r member
        obtain ⟨q, found⟩ := tallied.known r member
        by_cases here : r.proposal = key
        · exact ⟨_, by rw [here]; exact Function.update_self _ _ _⟩
        · exact ⟨q, (Function.update_of_ne here _ _).trans found⟩
      case outcome =>
        intro other q found
        rcases updated_row found with ⟨rfl, rfl⟩ | ⟨-, old⟩
        · exact .inr ⟨rfl, ended, rfl⟩
        · exact tallied.outcome other q old
  | elsewhere proposals records later =>
      constructor
      case keyed => rw [proposals]; exact tallied.keyed
      case counted => rw [proposals, records]; exact tallied.counted
      case distinct => rw [records]; exact tallied.distinct
      case known => rw [proposals, records]; exact tallied.known
      case outcome =>
        rw [proposals]
        intro key p stored
        exact (tallied.outcome key p stored).imp_right fun done => ⟨done.1, done.2.1.trans later, done.2.2⟩

structure Proposal.Follows (p p' : Proposal) : Prop where
  terms : p'.terms = p.terms
  weights : ∀ choice, p.weight choice ≤ p'.weight choice
  final : p.status = .finalized → p' = p

theorem Proposal.Follows.refl (p : Proposal) : p.Follows p where
  terms := rfl
  weights := fun _ => Nat.le_refl _
  final := fun _ => rfl

theorem Proposal.Follows.trans {p q r : Proposal} (first : p.Follows q) (second : q.Follows r) : p.Follows r where
  terms := second.terms.trans first.terms
  weights := fun choice => (first.weights choice).trans (second.weights choice)
  final := fun done => by
    obtain rfl := first.final done
    exact second.final done

theorem follows_step {hashv : Hashv} {g g' : Ballots} {instruction : GovernanceInstruction} {key : ProposalKey} {p : Proposal}
    (stored : g.proposals key = some p) (stepped : step hashv g instruction = .ok g') :
    ∃ p', g'.proposals key = some p' ∧ p.Follows p' := by
  cases step_effect stepped with
  | @created _ other _ _ _ fresh =>
      have apart : key ≠ other := by
        rintro rfl
        rw [fresh] at stored
        cases stored
      exact ⟨p, (Function.update_of_ne apart _ _).trans stored, .refl p⟩
  | @cast other _ choice weight _ q stored' active =>
      by_cases same : key = other
      · subst same
        obtain rfl := Option.some.inj (stored.symm.trans stored')
        refine ⟨_, Function.update_self _ _ _, withWeight_terms _ _ _, ?_, ?_⟩
        · intro choice'
          rw [withWeight_weight]
          split
          case isTrue same => exact same ▸ Nat.le_add_right _ _
          case isFalse => exact Nat.le_refl _
        · intro done
          rw [active] at done
          cases done
      · exact ⟨p, (Function.update_of_ne same _ _).trans stored, .refl p⟩
  | @closed other q stored' active =>
      by_cases same : key = other
      · subst same
        obtain rfl := Option.some.inj (stored.symm.trans stored')
        refine ⟨_, Function.update_self _ _ _, rfl, ?_, ?_⟩
        · intro choice
          cases choice <;> exact Nat.le_refl _
        · intro done
          rw [active] at done
          cases done
      · exact ⟨p, (Function.update_of_ne same _ _).trans stored, .refl p⟩
  | elsewhere proposals => exact ⟨p, by rw [proposals]; exact stored, .refl p⟩

theorem follows_run {hashv : Hashv} {g : Ballots} (run : Run (step hashv) g) {i j : Nat} (ordered : i ≤ j) (within : j ≤ run.length)
    {key : ProposalKey} {p : Proposal} (stored : (run.state i).proposals key = some p) :
    ∃ p', (run.state j).proposals key = some p' ∧ p.Follows p' := by
  apply run.invariant_from (P := fun g => ∃ p', g.proposals key = some p' ∧ p.Follows p') ⟨p, stored, .refl p⟩ ?_ j within ordered
  rintro k inside - ⟨q, found, follows⟩
  obtain ⟨r, found', follows'⟩ := follows_step found (run.next k inside)
  exact ⟨r, found', follows.trans follows'⟩

/-! ## The snapshot behind a vote -/

def Admissible (hashv : Hashv) (S : Set (List UInt8)) : GovernanceInstruction → Prop
  | .castVote _ voter _ weight proof => ∀ x ∈ proofPreimages hashv voter weight proof, x ∈ S
  | _ => True

/-- Every record is a leaf of whatever snapshot its proposal was opened over. -/
def Backed (hashv : Hashv) (S : Set (List UInt8)) (g : Ballots) : Prop :=
  ∀ r ∈ g.records, ∀ p, g.proposals r.proposal = some p →
    ∀ (root : Hash) (totalWeight : Nat) (snapshot : Snapshot hashv S root totalWeight), p.snapshotRoot = root →
      ∃ weight : BitVec 64, weight.toNat = r.weight ∧ (r.voter, weight) ∈ snapshot.tree.leaves

theorem withWeight_snapshotRoot (p : Proposal) (choice : VoteChoice) (weight : Nat) :
    (p.withWeight choice weight).snapshotRoot = p.snapshotRoot :=
  congrArg (fun t => t.params.snapshotRoot) (withWeight_terms p choice weight)

theorem backed_step {hashv : Hashv} {S : Set (List UInt8)} (collisionFree : Set.InjOn hashv S) {g g' : Ballots}
    {instruction : GovernanceInstruction} (tallied : Tallied g) (backed : Backed hashv S g) (admissible : Admissible hashv S instruction)
    (stepped : step hashv g instruction = .ok g') : Backed hashv S g' := by
  intro r member p' found root totalWeight snapshot opened
  cases step_effect stepped with
  | @created authority key params p isAdmin fresh =>
      rcases updated_row found with ⟨here, rfl⟩ | ⟨-, old⟩
      · obtain ⟨old, stored⟩ := tallied.known r member
        rw [here, fresh] at stored
        cases stored
      · exact backed r member p' old root totalWeight snapshot opened
  | @cast key voter choice weight proof p stored active first started running proved fits =>
      rcases updated_row found with ⟨here, rfl⟩ | ⟨apart, old⟩
      · rw [withWeight_snapshotRoot] at opened
        rcases List.mem_append.mp member with earlier | new
        · exact backed r earlier p (by rw [here]; exact stored) root totalWeight snapshot opened
        · rw [List.mem_singleton.mp new]
          subst opened
          exact ⟨weight, rfl, snapshot.member collisionFree admissible proved⟩
      · rcases List.mem_append.mp member with earlier | new
        · exact backed r earlier p' old root totalWeight snapshot opened
        · rw [List.mem_singleton.mp new] at apart
          exact absurd rfl apart
  | @closed key p stored active ended =>
      rcases updated_row found with ⟨here, rfl⟩ | ⟨-, old⟩
      · exact backed r member p (by rw [here]; exact stored) root totalWeight snapshot opened
      · exact backed r member p' old root totalWeight snapshot opened
  | elsewhere proposals records =>
      rw [records] at member
      rw [proposals] at found
      exact backed r member p' found root totalWeight snapshot opened

theorem cast_le {hashv : Hashv} {S : Set (List UInt8)} {root : Hash} {totalWeight : Nat} (snapshot : Snapshot hashv S root totalWeight)
    {records : List VoteRecord} {key : ProposalKey} (distinct : (records.map fun r => (r.proposal, r.voter)).Nodup)
    (backed : ∀ r ∈ records, r.proposal = key → ∃ weight : BitVec 64, weight.toNat = r.weight ∧ (r.voter, weight) ∈ snapshot.tree.leaves) :
    cast records key ≤ totalWeight := by
  apply Nat.le_trans _ snapshot.weights
  unfold cast
  apply sum_le_of_keys VoteRecord.voter Prod.fst VoteRecord.weight (fun entry : Pubkey × BitVec 64 => entry.2.toNat)
  · have filtered : ((records.filter fun r => r.proposal = key).map fun r => (r.proposal, r.voter)).Nodup :=
      distinct.sublist (List.filter_sublist.map _)
    apply List.Nodup.of_map (fun voter => (key, voter))
    rw [List.map_map]
    have same : ∀ r ∈ records.filter (fun r => r.proposal = key),
        ((fun voter => (key, voter)) ∘ VoteRecord.voter) r = (r.proposal, r.voter) := by
      intro r member
      rw [Function.comp_apply, of_decide_eq_true (List.mem_filter.mp member).2]
    rw [List.map_congr_left same]
    exact filtered
  · intro r member
    obtain ⟨listed, here⟩ := List.mem_filter.mp member
    obtain ⟨weight, same, leaf⟩ := backed r listed (of_decide_eq_true here)
    exact ⟨_, leaf, rfl, Nat.le_of_eq same.symm⟩

/-! ## The statement -/

/-- What an accepted vote writes: its record, and its weight in the count of its choice. -/
structure Voted (key : ProposalKey) (voter : Pubkey) (choice : VoteChoice) (weight : BitVec 64) (g g' : Ballots) : Prop where
  record : g'.records = g.records ++ [{ proposal := key, voter, choice, weight := weight.toNat }]
  counted : ∃ p p', g.proposals key = some p ∧ g'.proposals key = some p' ∧ p'.terms = p.terms ∧ p'.status = p.status ∧
    ∀ other, p'.weight other = p.weight other + if other = choice then weight.toNat else 0
  others : ∀ other, other ≠ key → g'.proposals other = g.proposals other

theorem voted_step {hashv : Hashv} {g g' : Ballots} {key : ProposalKey} {voter : Pubkey} {choice : VoteChoice} {weight : BitVec 64}
    {proof : List Hash} (stepped : step hashv g (.castVote key voter choice weight proof) = .ok g') :
    Voted key voter choice weight g g' := by
  simp only [step, castVote, bind_eq_ok, okOr_eq_ok, require_eq_ok, checkedAdd_eq_some, pure_eq_ok, exists_const] at stepped
  obtain ⟨p, stored, _, ⟨-, -, -, -, -, _, ⟨rfl, -⟩, rfl⟩, rfl⟩ := stepped
  constructor
  case record => rfl
  case counted =>
    refine ⟨p, _, stored, Function.update_self _ _ _, withWeight_terms _ _ _, withWeight_status _ _ _, ?_⟩
    intro other
    rw [withWeight_weight]
    by_cases same : other = choice
    · rw [if_pos same, if_pos same, same]
    · rw [if_neg same, if_neg same, Nat.add_zero]
  case others => exact fun other apart => Function.update_of_ne apart _ _

theorem unrecorded_of_cast {hashv : Hashv} {g g' : Ballots} {key : ProposalKey} {voter : Pubkey} {choice : VoteChoice}
    {weight : BitVec 64} {proof : List Hash} (stepped : step hashv g (.castVote key voter choice weight proof) = .ok g') :
    recordedBy key voter g.records = false := by
  cases step_effect stepped with
  | cast _ _ first => exact first
  | elsewhere _ records _ =>
      have voted := (voted_step stepped).record
      rw [records] at voted
      simp at voted

structure Counts (hashv : Hashv) (S : Set (List UInt8)) (g : Ballots) (key : ProposalKey) (p : Proposal) (totalWeight : Nat)
    (snapshot : Snapshot hashv S p.snapshotRoot totalWeight) : Prop where
  leaves : ∀ r ∈ g.records, r.proposal = key → ∃ weight : BitVec 64, weight.toNat = r.weight ∧ (r.voter, weight) ∈ snapshot.tree.leaves
  within : p.forWeight + p.againstWeight + p.abstainWeight ≤ totalWeight
  provable : ∀ leaf ∈ snapshot.tree.leaves,
    ∃ proof, verifyMerkleProof hashv p.snapshotRoot (snapshotLeaf hashv leaf.1 leaf.2) proof = true ∧
      ∀ x ∈ proofPreimages hashv leaf.1 leaf.2 proof, x ∈ S
  -- the counts of the choices are 64 bits wide, and the program does not know the weight of the snapshot
  enabled : totalWeight < 2 ^ 64 → p.status = .active → p.startTs ≤ g.now → g.now < p.endTs → ∀ voter weight,
    (voter, weight) ∈ snapshot.tree.leaves → recordedBy key voter g.records = false → ∀ choice proof,
      verifyMerkleProof hashv p.snapshotRoot (snapshotLeaf hashv voter weight) proof = true →
        ∃ g', step hashv g (.castVote key voter choice weight proof) = .ok g' ∧ Voted key voter choice weight g g'

theorem counts_of_backed {hashv : Hashv} {S : Set (List UInt8)} {g : Ballots} (tallied : Tallied g)
    (backed : Backed hashv S g) {key : ProposalKey} {p : Proposal} (stored : g.proposals key = some p) {totalWeight : Nat}
    (snapshot : Snapshot hashv S p.snapshotRoot totalWeight) : Counts hashv S g key p totalWeight snapshot := by
  have leaves : ∀ r ∈ g.records, r.proposal = key →
      ∃ weight : BitVec 64, weight.toNat = r.weight ∧ (r.voter, weight) ∈ snapshot.tree.leaves := by
    rintro r member rfl
    exact backed r member p stored _ totalWeight snapshot rfl
  constructor
  case leaves => exact leaves
  case within =>
    have counted := tallied.counted key p stored
    have bound := cast_le snapshot tallied.distinct leaves
    rw [cast_split, ← counted, ← counted, ← counted] at bound
    exact bound
  case provable => exact fun leaf member => snapshot.provable member
  case enabled =>
    intro small active started running voter weight member first choice proof proved
    let record : VoteRecord := { proposal := key, voter, choice, weight := weight.toNat }
    have bound : cast (g.records ++ [record]) key ≤ totalWeight := by
      apply cast_le snapshot
      · rw [List.map_append, List.map_singleton]
        apply List.nodup_append.mpr
        refine ⟨tallied.distinct, List.nodup_singleton _, ?_⟩
        intro a listed b last same
        rw [List.mem_singleton.mp last] at same
        exact recordedBy_eq_false.mp first (same ▸ listed)
      · intro r listed here
        rcases List.mem_append.mp listed with earlier | new
        · exact leaves r earlier here
        · rw [List.mem_singleton.mp new]
          exact ⟨weight, rfl, member⟩
    have counted := tallied.counted key p stored choice
    have fits : p.weight choice + weight.toNat < 2 ^ 64 := by
      have more : castFor (g.records ++ [record]) key choice = p.weight choice + weight.toNat := by
        rw [castFor_append, if_pos ⟨rfl, rfl⟩, counted]
      have part : castFor (g.records ++ [record]) key choice ≤ cast (g.records ++ [record]) key := by
        rw [cast_split]
        cases choice <;> omega
      omega
    have voted : castVote hashv p (recordedBy key voter g.records) key voter choice weight proof g.now =
        .ok (p.withWeight choice (p.weight choice + weight.toNat), record) := by
      simp only [castVote, bind_eq_ok, okOr_eq_ok, require_eq_ok, checkedAdd_eq_some, pure_eq_ok, exists_const]
      exact ⟨active, first, started, running, proved, _, ⟨rfl, fits⟩, rfl⟩
    have stepped : step hashv g (.castVote key voter choice weight proof) = .ok { g with
        proposals := Function.update g.proposals key (some (p.withWeight choice (p.weight choice + weight.toNat)))
        records := g.records ++ [record] } := by
      simp only [step, bind_eq_ok, okOr_eq_ok, pure_eq_ok]
      exact ⟨p, stored, _, voted, rfl⟩
    exact ⟨_, stepped, voted_step stepped⟩

theorem record_step {hashv : Hashv} {g g' : Ballots} {instruction : GovernanceInstruction} (stepped : step hashv g instruction = .ok g')
    {r : VoteRecord} (new : r ∈ g'.records) (absent : r ∉ g.records) :
    ∃ weight proof p, instruction = .castVote r.proposal r.voter r.choice weight proof ∧ g.proposals r.proposal = some p ∧
      p.status = .active ∧ p.startTs ≤ g.now ∧ g.now < p.endTs := by
  cases step_effect stepped with
  | created => exact absurd new absent
  | @cast key voter choice weight proof p stored active first started running proved fits =>
      rcases List.mem_append.mp new with old | last
      · exact absurd old absent
      · rw [List.mem_singleton.mp last]
        exact ⟨weight, proof, p, rfl, stored, active, started, running⟩
  | closed => exact absurd new absent
  | elsewhere _ records =>
      rw [records] at new
      exact absurd new absent

theorem proposal_step {hashv : Hashv} {g g' : Ballots} {instruction : GovernanceInstruction} (stepped : step hashv g instruction = .ok g')
    {key : ProposalKey} {p : Proposal} (new : g'.proposals key = some p) (absent : g.proposals key = none) :
    instruction = .createProposal p.authority key p.terms.params ∧ g.admins p.authority = true := by
  cases step_effect stepped with
  | @created authority key' params p' isAdmin fresh ordered terms =>
      rcases updated_row new with ⟨rfl, rfl⟩ | ⟨-, old⟩
      · rw [show p.authority = authority from congrArg Terms.authority terms, show p.terms.params = params from congrArg Terms.params terms]
        exact ⟨rfl, isAdmin⟩
      · rw [absent] at old
        cases old
  | @cast key' _ _ _ _ _ stored =>
      rcases updated_row new with ⟨rfl, rfl⟩ | ⟨-, old⟩
      · rw [absent] at stored
        cases stored
      · rw [absent] at old
        cases old
  | @closed key' _ stored =>
      rcases updated_row new with ⟨rfl, rfl⟩ | ⟨-, old⟩
      · rw [absent] at stored
        cases stored
      · rw [absent] at old
        cases old
  | elsewhere proposals =>
      rw [proposals, absent] at new
      cases new

theorem finalizeProposal_enabled (hashv : Hashv) {g : Ballots} {key : ProposalKey} {p : Proposal} (stored : g.proposals key = some p)
    (active : p.status = .active) (ended : p.endTs ≤ g.now) : ∃ g', step hashv g (.finalizeProposal key) = .ok g' := by
  refine ⟨{ g with proposals := Function.update g.proposals key (some
    { p with outcome := if p.againstWeight < p.forWeight then .passed else .rejected, status := .finalized }) }, ?_⟩
  simp only [step, finalizeProposal, bind_eq_ok, okOr_eq_ok, require_eq_ok, pure_eq_ok, exists_const]
  exact ⟨p, stored, _, ⟨active, ended, rfl⟩, rfl⟩

/-- Proposals come from admins and keep their terms, each vote is cast once inside its window, the weights are those of the
votes and within the snapshot, every leaf of a snapshot below 2 ^ 64 can vote, and the outcome is the majority of the votes
and final. -/
theorem proposal_counts_its_snapshot {hashv : Hashv} {admins shareClasses : Pubkey → Bool} {now : Int}
    (run : Run (step hashv) (launched admins shareClasses now)) :
    (∀ i ≤ run.length, Tallied (run.state i) ∧ ∀ key p, (run.state i).proposals key = some p →
      (∃ j < i, run.label j = .createProposal p.authority key p.terms.params ∧ (run.state j).admins p.authority = true) ∧
      (p.status = .active → p.endTs ≤ (run.state i).now → ∃ g', step hashv (run.state i) (.finalizeProposal key) = .ok g')) ∧
    (∀ i j, i ≤ j → j ≤ run.length → ∀ key p, (run.state i).proposals key = some p →
      ∃ p', (run.state j).proposals key = some p' ∧ p.Follows p') ∧
    (∀ i ≤ run.length, ∀ r ∈ (run.state i).records, ∃ j < i, ∃ weight proof p,
      run.label j = .castVote r.proposal r.voter r.choice weight proof ∧ (run.state j).proposals r.proposal = some p ∧
        p.status = .active ∧ p.startTs ≤ (run.state j).now ∧ (run.state j).now < p.endTs) ∧
    (∀ i < run.length, ∀ key voter choice weight proof, run.label i = .castVote key voter choice weight proof →
      recordedBy key voter (run.state i).records = false ∧ Voted key voter choice weight (run.state i) (run.state (i + 1))) ∧
    (∀ S : Set (List UInt8), Set.InjOn hashv S → (∀ i < run.length, Admissible hashv S (run.label i)) → ∀ i ≤ run.length, ∀ key p,
      (run.state i).proposals key = some p → ∀ (totalWeight : Nat) (snapshot : Snapshot hashv S p.snapshotRoot totalWeight),
        Counts hashv S (run.state i) key p totalWeight snapshot) := by
  have tallied : ∀ i ≤ run.length, Tallied (run.state i) :=
    run.invariant (tallied_launched admins shareClasses now) fun _ _ _ tallied stepped => tallied_step tallied stepped
  refine ⟨?_, ?_, ?_, ?_, ?_⟩
  · intro i within
    refine ⟨tallied i within, ?_⟩
    intro key p stored
    refine ⟨?_, finalizeProposal_enabled hashv stored⟩
    have initially : ((launched admins shareClasses now).proposals key).isSome ≠ true := Bool.false_ne_true
    obtain ⟨j, before, differs, since⟩ :=
      run.lastWrite (fun g => (g.proposals key).isSome) (i := i) (v := true) (by rw [stored]; rfl) initially
    have absent : (run.state j).proposals key = none := Option.not_isSome_iff_eq_none.mp differs
    obtain ⟨q, created⟩ := Option.isSome_iff_exists.mp (since (j + 1) (Nat.lt_succ_self j) before)
    obtain ⟨label, isAdmin⟩ := proposal_step (run.next j (Nat.lt_of_lt_of_le before within)) created absent
    obtain ⟨p', found, follows⟩ := follows_run run before within created
    obtain rfl := Option.some.inj (found.symm.trans stored)
    rw [show q.authority = p'.authority from (congrArg Terms.authority follows.terms).symm] at isAdmin label
    rw [← follows.terms] at label
    exact ⟨j, before, label, isAdmin⟩
  · intro i j ordered within key p stored
    exact follows_run run ordered within stored
  · intro i within r member
    obtain ⟨j, before, differs, since⟩ :=
      run.lastWrite (fun g => decide (r ∈ g.records)) (i := i) (v := true) (decide_eq_true member) Bool.false_ne_true
    have absent : r ∉ (run.state j).records := fun listed => differs (decide_eq_true listed)
    have new : r ∈ (run.state (j + 1)).records := of_decide_eq_true (since (j + 1) (Nat.lt_succ_self j) before)
    exact ⟨j, before, record_step (run.next j (Nat.lt_of_lt_of_le before within)) new absent⟩
  · intro i within key voter choice weight proof label
    have stepped := run.next i within
    rw [label] at stepped
    exact ⟨unrecorded_of_cast stepped, voted_step stepped⟩
  · intro S collisionFree admissible i within key p stored totalWeight snapshot
    have backed : ∀ i ≤ run.length, 0 ≤ i → Backed hashv S (run.state i) := by
      apply run.invariant_from (P := Backed hashv S)
      · rw [run.starts]
        intro r member
        cases member
      · intro i inside _ backed
        exact backed_step collisionFree (tallied i inside.le) backed (admissible i inside) (run.next i inside)
    exact counts_of_backed (tallied i within) (backed i within (Nat.zero_le i)) stored snapshot

end Mancipatio.Governance
