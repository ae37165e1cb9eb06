import Mancipatio.Authority.Machine

/-!
# Proposals and the super admin that staged them

Whether a proposal is still the current super admin's is read off the stored keys when it is executed.
A key that loses the role and gets it back finds its old proposals executable again.
-/

namespace Mancipatio.Authority
open Checked Execution

/-! ## The three proposals of a super admin -/

inductive ProposalSlot where
  | admin (newAdmin : Pubkey)
  | custody (vault : Nat)
  | issuer (issuer : Nat)
  deriving DecidableEq, Repr

/-- What an execution compares with the live roles. An issuer recovery is also bound to the authority that it
replaces. -/
structure Staged where
  proposedBy : Pubkey
  against : Option Pubkey
  expiresAt : Int
  deriving DecidableEq, Repr

def PendingAdmin.staged (pending : PendingAdmin) : Staged :=
  { proposedBy := pending.proposedBy, against := none, expiresAt := pending.window.expiresAt }

def AuthorityProposal.staged (proposal : AuthorityProposal) : Staged :=
  { proposedBy := proposal.proposedBy, against := none, expiresAt := proposal.window.expiresAt }

def IssuerRecovery.staged (recovery : IssuerRecovery) : Staged :=
  { proposedBy := recovery.proposedBy, against := some recovery.currentAuthority,
    expiresAt := recovery.window.expiresAt }

def Registry.staged (r : Registry) : ProposalSlot → Option Staged
  | .admin newAdmin => (r.pendingAdmins newAdmin).map PendingAdmin.staged
  | .custody vault => (r.vaultTransfers vault).map AuthorityProposal.staged
  | .issuer issuer => (r.issuerRecoveries issuer).map IssuerRecovery.staged

def Registry.bound (r : Registry) : ProposalSlot → Option Pubkey
  | .issuer issuer => (r.issuers issuer).map Issuer.authority
  | .admin _ | .custody _ => none

def RegistryLabel.stages : RegistryLabel → Option ProposalSlot
  | .proposeAdmin _ newAdmin => some (.admin newAdmin)
  | .proposeCustodyAuthority _ vault _ => some (.custody vault)
  | .proposeIssuerRecovery _ issuer _ => some (.issuer issuer)
  | _ => none

def RegistryLabel.executes : RegistryLabel → Option ProposalSlot
  | .addAdmin newAdmin => some (.admin newAdmin)
  | .acceptCustodyAuthority _ vault => some (.custody vault)
  | .executeIssuerRecovery _ issuer => some (.issuer issuer)
  | _ => none

/-! ## Stale proposals -/

def Moved (r : Registry) (slot : ProposalSlot) (p : Staged) : Prop :=
  p.proposedBy ≠ r.platform.admin ∨ ∃ authority, r.bound slot = some authority ∧ p.against ≠ some authority

def Stale (r : Registry) (slot : ProposalSlot) (p : Staged) : Prop :=
  p.expiresAt ≤ r.now ∨ Moved r slot p

/-- The instruction gives the role, or the registration, back to the key that the proposal stores. -/
def Returns (r : Registry) (slot : ProposalSlot) (p : Staged) : RegistryLabel → Prop
  | .acceptPlatformAdmin newAdmin | .executePlatformRecovery newAdmin =>
      r.platform.admin ≠ newAdmin ∧ p.proposedBy = newAdmin ∧
        ∀ authority, r.bound slot = some authority → p.against = some authority
  | .recoverIssuerRegistration _ newAuthority issuer =>
      slot = .issuer issuer ∧ r.bound slot ≠ some newAuthority ∧ p.against = some newAuthority ∧
        p.proposedBy = r.platform.admin
  | _ => False

def Revives (r : Registry) (label : RegistryLabel) : Prop :=
  ∃ slot p, r.staged slot = some p ∧ r.now < p.expiresAt ∧ Returns r slot p label

section step
variable {r r' : Registry} {label : RegistryLabel} {slot : ProposalSlot}

theorem bound_same (same : Same r r') {authority : Pubkey} (stored : r.bound slot = some authority) :
    r'.bound slot = some authority := by
  cases slot with
  | admin | custody => cases stored
  | issuer issuer =>
      obtain ⟨record, found, rfl⟩ := Option.map_eq_some_iff.mp stored
      obtain ⟨record', found', authority⟩ := same.issuers issuer record found
      simp [Registry.bound, found', authority]

theorem bound_update {issuer : Nat} {record : Option Issuer} {authority : Pubkey}
    {s : Registry} (written : s.issuers = Function.update r.issuers issuer record)
    (other : slot ≠ .issuer issuer) (stored : r.bound slot = some authority) : s.bound slot = some authority := by
  cases slot with
  | admin | custody => cases stored
  | issuer key =>
      have apart : key ≠ issuer := by
        rintro rfl
        exact other rfl
      simpa [Registry.bound, written, apart] using stored

theorem staged_same (same : Same r r') : r'.staged slot = r.staged slot := by
  cases slot with
  | admin newAdmin => simp [Registry.staged, same.pendingAdmins]
  | custody vault => simp [Registry.staged, same.vaultTransfers]
  | issuer issuer => simp [Registry.staged, same.issuerRecoveries]

theorem writesRoles_of_executes (executes : label.executes = some slot) : label.writesRoles = true := by
  cases label <;> first | rfl | cases executes

theorem executes_ok (stepped : step r label = .ok r') (executes : label.executes = some slot) :
    ∃ p, r.staged slot = some p ∧ ¬ Stale r slot p := by
  have writes := writesRoles_of_executes executes
  cases step_effect stepped with
  | @addedAdmin newAdmin pending stored proposer _ _ unexpired =>
      cases executes
      refine ⟨_, congrArg (Option.map PendingAdmin.staged) stored, ?_⟩
      rintro (expired | foreign | ⟨_, bound, _⟩)
      · exact Int.not_lt.mpr expired unexpired
      · exact foreign proposer
      · cases bound
  | @acceptedCustody vault newAuthority transfer role stored proposer unexpired =>
      cases executes
      refine ⟨_, congrArg (Option.map AuthorityProposal.staged) stored, ?_⟩
      rintro (expired | foreign | ⟨_, bound, _⟩)
      · exact Int.not_lt.mpr expired unexpired
      · exact foreign proposer
      · cases bound
  | @executedIssuerRecovery newAuthority issuer record recovery _ _ _ found stored current proposer unexpired =>
      cases executes
      refine ⟨_, congrArg (Option.map IssuerRecovery.staged) stored, ?_⟩
      rintro (expired | foreign | ⟨authority, bound, differs⟩)
      · exact Int.not_lt.mpr expired unexpired
      · exact foreign proposer
      · obtain rfl : record.authority = authority := by simpa [Registry.bound, found] using bound
        exact differs (congrArg some current)
  | paused quiet | elsewhere quiet =>
      rw [quiet] at writes
      cases writes
  | _ => cases executes

/-- A slot that a step does not stage anew holds what it held, or the same proposal retired. -/
theorem staged_step {p' : Staged} (stepped : step r label = .ok r') (kept : label.stages ≠ some slot)
    (stored : r'.staged slot = some p') :
    ∃ p, r.staged slot = some p ∧
      (p' = p ∨ p' = { p with against := some 0 } ∧ ∃ authority, r'.bound slot = some authority ∧ authority ≠ 0) := by
  cases step_effect stepped with
  | @proposedAdmin newAdmin =>
      cases slot with
      | admin key =>
          have other : key ≠ newAdmin := by
            rintro rfl
            exact kept rfl
          exact ⟨p', by simpa [Registry.staged, other] using stored, .inl rfl⟩
      | custody | issuer => exact ⟨p', stored, .inl rfl⟩
  | @addedAdmin newAdmin | @cancelledAdminProposal _ newAdmin =>
      cases slot with
      | admin key =>
          have other : key ≠ newAdmin := by
            rintro rfl
            simp [Registry.staged] at stored
          exact ⟨p', by simpa [Registry.staged, other] using stored, .inl rfl⟩
      | custody | issuer => exact ⟨p', stored, .inl rfl⟩
  | @proposedCustody vault newAuthority =>
      cases slot with
      | custody key =>
          have other : key ≠ vault := by
            rintro rfl
            exact kept rfl
          exact ⟨p', by simpa [Registry.staged, other] using stored, .inl rfl⟩
      | admin | issuer => exact ⟨p', stored, .inl rfl⟩
  | @acceptedCustody vault | @cancelledCustody _ vault =>
      cases slot with
      | custody key =>
          have other : key ≠ vault := by
            rintro rfl
            simp [Registry.staged] at stored
          exact ⟨p', by simpa [Registry.staged, other] using stored, .inl rfl⟩
      | admin | issuer => exact ⟨p', stored, .inl rfl⟩
  | @rotatedIssuer newAuthority issuer _ _ _ signed =>
      cases slot with
      | issuer key =>
          by_cases same : key = issuer
          · subst same
            obtain ⟨_, retired, rfl⟩ := Option.map_eq_some_iff.mp stored
            simp only [Function.update_self, Option.map_eq_some_iff] at retired
            obtain ⟨recovery, found, rfl⟩ := retired
            exact ⟨_, congrArg (Option.map IssuerRecovery.staged) found, .inr ⟨rfl, newAuthority, by simp [Registry.bound], signed⟩⟩
          · exact ⟨p', by simpa [Registry.staged, same] using stored, .inl rfl⟩
      | admin | custody => exact ⟨p', stored, .inl rfl⟩
  | @proposedIssuerRecovery issuer _ newAuthority =>
      cases slot with
      | issuer key =>
          have other : key ≠ issuer := by
            rintro rfl
            exact kept rfl
          exact ⟨p', by simpa [Registry.staged, other] using stored, .inl rfl⟩
      | admin | custody => exact ⟨p', stored, .inl rfl⟩
  | @cancelledIssuerRecovery _ issuer | @executedIssuerRecovery _ issuer =>
      cases slot with
      | issuer key =>
          have other : key ≠ issuer := by
            rintro rfl
            simp [Registry.staged] at stored
          exact ⟨p', by simpa [Registry.staged, other] using stored, .inl rfl⟩
      | admin | custody => exact ⟨p', stored, .inl rfl⟩
  | elsewhere _ same => exact ⟨p', staged_same same ▸ stored, .inl rfl⟩
  | _ => exact ⟨p', by cases slot <;> exact stored, .inl rfl⟩

theorem now_mono (stepped : step r label = .ok r') : r.now ≤ r'.now := by
  cases step_effect stepped with
  | elsewhere _ same => exact same.now
  | _ => exact Int.le_refl _

/-- Only a step that revives a proposal makes it match the live roles again. -/
theorem stale_step {p : Staged} (stepped : step r label = .ok r') (harmless : ¬ Revives r label)
    (stored : r.staged slot = some p) (stored' : r'.staged slot = some p) (stale : Stale r slot p) :
    Stale r' slot p := by
  by_cases expired : p.expiresAt ≤ r.now
  · exact .inl (Int.le_trans expired (now_mono stepped))
  have moved : Moved r slot p := stale.resolve_left expired
  have notReturned : ¬ Returns r slot p label := by
    intro returned
    exact harmless ⟨slot, p, stored, Int.not_le.mp expired, returned⟩
  apply Or.inr
  cases step_effect stepped with
  | @accepted newAdmin | @executed newAdmin =>
      rcases moved with foreign | other
      · by_cases back : p.proposedBy = newAdmin
        · have differs : ¬ ∀ authority, r.bound slot = some authority → p.against = some authority := by
            intro agrees
            exact notReturned ⟨fun same => foreign (back.trans same.symm), back, agrees⟩
          push Not at differs
          exact .inr (by cases slot <;> exact differs)
        · exact .inl back
      · exact .inr (by cases slot <;> exact other)
  | @recoveredRegistration newAuthority issuer record =>
      rcases moved with foreign | ⟨authority, bound, differs⟩
      · exact .inl foreign
      by_cases same : slot = .issuer issuer
      · subst same
        by_cases foreign : p.proposedBy = r.platform.admin
        · refine .inr ⟨newAuthority, by simp [Registry.bound], ?_⟩
          intro back
          apply notReturned
          refine ⟨rfl, ?_, back, foreign⟩
          rintro unchanged
          rw [unchanged] at bound
          exact differs (back.trans bound)
        · exact .inl foreign
      · exact .inr ⟨authority, bound_update rfl same bound, differs⟩
  | @rotatedIssuer newAuthority issuer _ _ _ signed =>
      rcases moved with foreign | ⟨authority, bound, differs⟩
      · exact .inl foreign
      by_cases same : slot = .issuer issuer
      · subst same
        obtain ⟨_, retired, rfl⟩ := Option.map_eq_some_iff.mp stored'
        simp only [Function.update_self, Option.map_eq_some_iff] at retired
        obtain ⟨recovery, -, rfl⟩ := retired
        refine .inr ⟨newAuthority, by simp [Registry.bound], ?_⟩
        intro back
        exact signed (Option.some.inj back).symm
      · exact .inr ⟨authority, bound_update rfl same bound, differs⟩
  | @executedIssuerRecovery newAuthority issuer =>
      rcases moved with foreign | ⟨authority, bound, differs⟩
      · exact .inl foreign
      by_cases same : slot = .issuer issuer
      · subst same
        simp [Registry.staged] at stored'
      · exact .inr ⟨authority, bound_update rfl same bound, differs⟩
  | elsewhere _ same =>
      rcases moved with foreign | ⟨authority, bound, differs⟩
      · exact .inl (same.admin ▸ foreign)
      · exact .inr ⟨authority, bound_same same bound, differs⟩
  | _ =>
      rcases moved with foreign | ⟨authority, bound, differs⟩
      · exact .inl foreign
      · exact .inr ⟨authority, by cases slot <;> exact bound, differs⟩

end step

/-! ## Whole histories -/

section run
variable {initial : Registry} {run : Run step initial} {slot : ProposalSlot}

/-- Step `i` staged the proposal that is in the slot when step `j` begins, unless it has been taken since. -/
structure StagedAt (run : Run step initial) (slot : ProposalSlot) (i j : Nat) : Prop where
  made : (run.label i).stages = some slot
  before : i < j
  within : j ≤ run.length
  last : ∀ m, i < m → m < j → (run.label m).stages ≠ some slot

def RoleMoved (run : Run step initial) (slot : ProposalSlot) (i k : Nat) : Prop :=
  (run.state k).platform.admin ≠ (run.state i).platform.admin ∨
    ∃ authority, (run.state k).bound slot = some authority ∧ (run.state i).bound slot ≠ some authority

/-- No proposal can be executed once a role that it depends on has moved, whatever happened to the role since. -/
def NeverOutlived (run : Run step initial) : Prop :=
  ∀ slot i j k, StagedAt run slot i j → i < k → k ≤ j → RoleMoved run slot i k →
    ∀ label, label.executes = some slot → ∀ r', step (run.state j) label ≠ .ok r'

def Held (Q : Staged → Prop) (slot : ProposalSlot) (r : Registry) : Prop :=
  ∀ p, r.staged slot = some p → Stale r slot p ∨ Q p

def WrittenUnder (r : Registry) (slot : ProposalSlot) (p : Staged) : Prop :=
  p.proposedBy = r.platform.admin ∧ p.against = r.bound slot

theorem stages_ok {r r' : Registry} {label : RegistryLabel} (stepped : step r label = .ok r')
    (stages : label.stages = some slot) : Held (WrittenUnder r slot) slot r' := by
  cases step_effect stepped with
  | proposedAdmin | proposedCustody =>
      cases stages
      intro p stored
      simp only [Registry.staged, Function.update_self, Option.map_some, Option.some.injEq] at stored
      subst stored
      exact .inr ⟨rfl, rfl⟩
  | proposedIssuerRecovery found =>
      cases stages
      intro p stored
      simp only [Registry.staged, Function.update_self, Option.map_some, Option.some.injEq] at stored
      subst stored
      exact .inr ⟨rfl, by simp [Registry.bound, found, IssuerRecovery.staged]⟩
  | @paused label _ quiet => cases label <;> simp_all [RegistryLabel.writesRoles, RegistryLabel.stages]
  | elsewhere quiet => cases label <;> simp_all [RegistryLabel.writesRoles, RegistryLabel.stages]
  | _ => cases stages

theorem held_step {Q : Staged → Prop} {r r' : Registry} {label : RegistryLabel} (stepped : step r label = .ok r')
    (harmless : ¬ Revives r label) (kept : label.stages ≠ some slot) (held : Held Q slot r) : Held Q slot r' := by
  intro p' stored'
  obtain ⟨p, stored, rfl | ⟨rfl, authority, bound, nonzero⟩⟩ := staged_step stepped kept stored'
  · rcases held p' stored with stale | asWritten
    · exact .inl (stale_step stepped harmless stored stored' stale)
    · exact .inr asWritten
  · refine .inl (.inr (.inr ⟨authority, bound, ?_⟩))
    intro retired
    exact nonzero (Option.some.inj retired).symm

theorem held_until {Q : Staged → Prop} {i j k : Nat} (staged : StagedAt run slot i j)
    (harmless : ∀ m < run.length, ¬ Revives (run.state m) (run.label m)) (after : i < k)
    (held : Held Q slot (run.state k)) (m : Nat) (later : k ≤ m) (upto : m ≤ j) : Held Q slot (run.state m) := by
  induction m, later using Nat.le_induction with
  | base => exact held
  | succ m later ih =>
      have within : m < run.length := Nat.lt_of_lt_of_le upto staged.within
      apply held_step (run.next m within) (harmless m within)
      · exact staged.last m (Nat.lt_of_lt_of_le after later) upto
      · exact ih (Nat.le_of_succ_le upto)

theorem stale_of_roleMoved {i k : Nat} (moved : RoleMoved run slot i k)
    (held : Held (WrittenUnder (run.state i) slot) slot (run.state k)) :
    Held (fun _ => False) slot (run.state k) := by
  intro p stored
  rcases held p stored with stale | ⟨proposer, against⟩
  · exact .inl stale
  · rcases moved with admin | ⟨authority, now, before⟩
    · exact .inl (.inr (.inl fun same => admin (same.symm.trans proposer)))
    · exact .inl (.inr (.inr ⟨authority, now, fun same => before (against.symm.trans same)⟩))

end run

/-- Where no step gives a role back to a key whose unexpired proposal is still stored, no proposal outlives
the super admin that staged it, nor an issuer recovery the authority that it was staged against. -/
theorem proposal_never_outlives_proposer {initial : Registry} (run : Run step initial)
    (harmless : ∀ m < run.length, ¬ Revives (run.state m) (run.label m)) : NeverOutlived run := by
  intro slot i j k staged after upto moved label executes r' executed
  have written : Held (WrittenUnder (run.state i) slot) slot (run.state (i + 1)) :=
    stages_ok (run.next i (Nat.lt_of_lt_of_le staged.before staged.within)) staged.made
  have standing := held_until staged harmless (Nat.lt_succ_self i) written k after upto
  have stale := held_until staged harmless after (stale_of_roleMoved moved standing) j upto (Nat.le_refl j)
  obtain ⟨p, stored, live⟩ := executes_ok executed executes
  rcases stale p stored with gone | impossible
  · exact live gone
  · exact impossible

def rotatedIssuerRun : Run step (initializePlatform 1 (some 3) 0) :=
  .ofLabels _ _
    [.setPauseFlags 1 0 pauseOnboarding, .registerIssuer 5 0, .proposeIssuerRecovery 1 0 6,
      .proposeIssuerAuthority 5 0 7, .acceptIssuerAuthority 7 0]
    (by decide +kernel)

theorem proposal_never_outlives_proposer_example :
    (step (rotatedIssuerRun.state 5) (.executeIssuerRecovery 6 0)).isOk = false := by
  have harmless : ∀ m < rotatedIssuerRun.length, ¬ Revives (rotatedIssuerRun.state m) (rotatedIssuerRun.label m) := by
    rintro m within ⟨slot, p, -, -, returned⟩
    change m < 5 at within
    interval_cases m <;> exact returned
  have staged : StagedAt rotatedIssuerRun (.issuer 0) 2 5 := by
    refine ⟨rfl, by decide, Nat.le_refl _, ?_⟩
    intro m after before
    interval_cases m <;> decide
  have moved : RoleMoved rotatedIssuerRun (.issuer 0) 2 5 :=
    .inr ⟨7, by decide +kernel, by decide +kernel⟩
  have never := proposal_never_outlives_proposer rotatedIssuerRun harmless _ 2 5 5 staged (by decide) (Nat.le_refl _)
    moved (.executeIssuerRecovery 6 0) rfl
  cases outcome : step (rotatedIssuerRun.state 5) (.executeIssuerRecovery 6 0) with
  | ok r' => exact absurd outcome (never r')
  | error => rfl

def roundTrip : Run step (initializePlatform 1 (some 3) 0) :=
  .ofLabels _ _
    [.setPauseFlags 1 0 platformBootstrapOpen, .proposeAdmin 1 9, .proposePlatformAdmin 1 2, .tick 172800,
      .acceptPlatformAdmin 2, .proposePlatformAdmin 2 1, .tick 172800, .acceptPlatformAdmin 1]
    (by decide +kernel)

theorem round_trip_revives_grant : ¬ NeverOutlived roundTrip := by
  intro never
  have staged : StagedAt roundTrip (.admin 9) 1 8 := by
    refine ⟨by decide, by decide, by decide, ?_⟩
    intro m after before
    interval_cases m <;> decide
  have moved : RoleMoved roundTrip (.admin 9) 1 5 := .inl (by decide +kernel)
  have granted : (step (roundTrip.state 8) (.addAdmin 9)).isOk = true := by decide +kernel
  cases outcome : step (roundTrip.state 8) (.addAdmin 9) with
  | ok r' => exact never _ 1 8 5 staged (by decide) (by decide) moved _ rfl r' outcome
  | error e =>
      rw [outcome] at granted
      cases granted

end Mancipatio.Authority
