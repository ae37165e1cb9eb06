import Mancipatio.Hook.Execute
import Mancipatio.Kyc.Receiver

/-!
# One KYC verdict

The hook reads raw bytes, the registry program deserializes; they judge a receiver alike.
-/

namespace Mancipatio
open Checked Borsh Hook

def Holds {α : Type} (chain : Chain) (program : Pubkey) (type : AccountType α) (address : Pubkey) (a : α) : Prop :=
  (chain address).owner = program ∧ type.tryDeserialize (chain address).data = some a

theorem Holds.owned {α : Type} {chain : Chain} {program address : Pubkey} {type : AccountType α} {a : α}
    (holds : Holds chain program type address a) : (chain address).ownedBy program :=
  ⟨holds.1, AccountType.ne_nil_of_tryDeserialize holds.2⟩

def registryReason : HookError → RegistryError
  | .holderKycExpired => .receiverKycExpired
  | .jurisdictionBlocked => .receiverJurisdictionBlocked
  | .invalidKycRegistry | .kycRegistryRequired => .invalidKycRegistry
  | _ => .receiverNotApproved

theorem approved_iff (status : KycStatus) : status.toByte = kycStatusApproved ↔ status = .approved := by
  cases status <;> decide

section verdict
variable {find : FindProgramAddress} {chain : Chain} {config : TransferHookConfig} {registryKey entryKey : Pubkey}
variable {registry : KycRegistryAccount} {now : Int}

theorem receiverVerdict_eq {entry : KycEntryAccount} (named : config.kycRegistry = some registryKey)
    (registered : Holds chain assetRegistryProgram KycRegistryAccount.type registryKey registry)
    (entered : Holds chain assetRegistryProgram KycEntryAccount.type entryKey entry) :
    receiverVerdict chain config registryKey entryKey now = (do
      require (entry.status = .approved) .receiverNotApproved
      require (now < entry.expiry.toInt) .holderKycExpired
      require (entry.jurisdiction.toNat / 8 < jurisdictionBitmapBytes ∧
        jurisdictionBit registry.approvedJurisdictions.toList entry.jurisdiction.toNat = true ∧
        jurisdictionBit registry.blockedJurisdictions.toList entry.jurisdiction.toNat = false) .jurisdictionBlocked) := by
  unfold receiverVerdict
  rw [named, kycEntryStatus_eq entered.2, kycEntryExpiry_eq entered.2, kycEntryJurisdiction_eq entered.2,
    kycRegistryBitmaps_eq registered.2]
  simp only [okOr, require, registered.owned, entered.owned, approved_iff, jurisdictionAllowed, decide_eq_true_eq, if_true,
    Bind.bind, Except.bind]

theorem configuredRegistry_eq {data : List UInt8} (read : TransferHookConfig.type.tryDeserialize data = some config)
    (named : config.kycRegistry = some registryKey) : configuredRegistry data = .ok registryKey := by
  obtain ⟨-, tagged, key⟩ := (config_fields read).2 registryKey named
  simp only [configuredRegistry, bind_eq_ok, require_eq_ok, pure_eq_ok, exists_const]
  exact ⟨tagged, key⟩

theorem requireApprovedReceiver_eq {entry : KycEntryAccount} {tail : List Pubkey} {receiver : Pubkey}
    (registered : Holds chain assetRegistryProgram KycRegistryAccount.type registryKey registry)
    (entered : Holds chain assetRegistryProgram KycEntryAccount.type (kycEntryAddress find registryKey receiver) entry)
    (listed : registryKey ∈ tail ∧ kycEntryAddress find registryKey receiver ∈ tail) :
    requireApprovedReceiver find chain tail registryKey receiver now = (do
      require (entry.status = .approved) .receiverNotApproved
      require (now < entry.expiry.toInt) .receiverKycExpired
      require (entry.jurisdiction.toNat / 8 < jurisdictionBitmapBytes ∧
        jurisdictionBit registry.approvedJurisdictions.toList entry.jurisdiction.toNat = true ∧
        jurisdictionBit registry.blockedJurisdictions.toList entry.jurisdiction.toNat = false)
        .receiverJurisdictionBlocked) := by
  unfold requireApprovedReceiver
  simp only [requireKycEntryCurrent, KycRegistryAccount.requireJurisdictionAllowed, KycEntryAccount.entry, registered.2,
    entered.2, okOr, require, registered.owned, entered.owned, listed, if_true, Bind.bind, Except.bind]
  by_cases current : entry.status = .approved
  · by_cases unexpired : now < entry.expiry.toInt
    · simp only [current, unexpired, if_true]
    · simp only [current, unexpired, if_true, if_false]
  · simp only [current, if_false]

theorem receiverKycOutcome_gated {tail : List Pubkey} {mint receiver : Pubkey}
    (gated : config.restrictionMode = .kycGated) (named : config.kycRegistry = some registryKey)
    (configured : Holds chain transferHookProgram TransferHookConfig.type (hookConfigAddress find mint) config)
    (listed : hookConfigAddress find mint ∈ tail) :
    receiverKycOutcome find chain tail mint receiver now = (do
      requireApprovedReceiver find chain tail registryKey receiver now
      return .approved) := by
  obtain ⟨mode, fields⟩ := config_fields configured.2
  obtain ⟨enough, -, -⟩ := fields registryKey named
  rw [gated] at mode
  unfold receiverKycOutcome configuredOutcome
  rw [if_pos ⟨listed, configured.owned⟩, configuredRegistry_eq configured.2 named]
  simp only [require, hookConfigMinLen, enough, if_true, mode, RestrictionMode.toByte, ne_eq, not_true_eq_false, if_false,
    Bind.bind, Except.bind]

end verdict

/-! ## Eligible receivers and clawbacks -/

section clawback
variable {find : FindProgramAddress} {chain : Chain} {mint receiver registryKey : Pubkey} {tail : List Pubkey} {now : Int}

theorem requireApprovedReceiver_ok {u : Unit}
    (approved : requireApprovedReceiver find chain tail registryKey receiver now = .ok u) :
    ∃ entry registry, Holds chain assetRegistryProgram KycEntryAccount.type (kycEntryAddress find registryKey receiver) entry ∧
      Holds chain assetRegistryProgram KycRegistryAccount.type registryKey registry ∧
      entry.entry.Eligible registry.registry now := by
  simp only [requireApprovedReceiver, bind_eq_ok, require_eq_ok, okOr_eq_ok, requireKycEntryCurrent_ok, exists_const]
    at approved
  obtain ⟨-, ⟨owner, -⟩, entry, read, ⟨current, unexpired⟩, -, ⟨owner', -⟩, registry, read', allowed⟩ := approved
  rw [requireJurisdictionAllowed_eq] at allowed
  obtain ⟨jurisdiction, unblocked⟩ := requireJurisdictionAllowed_ok.mp allowed
  exact ⟨entry, registry, ⟨owner, read⟩, ⟨owner', read'⟩, ⟨current, unexpired, jurisdiction, unblocked⟩⟩

theorem receiverKycOutcome_approved (approved : receiverKycOutcome find chain tail mint receiver now = .ok .approved) :
    ∃ registryKey, configuredRegistry (chain (hookConfigAddress find mint)).data = .ok registryKey ∧
      requireApprovedReceiver find chain tail registryKey receiver now = .ok () := by
  unfold receiverKycOutcome configuredOutcome at approved
  dsimp only at approved
  split at approved
  · simp only [bind_eq_ok, require_eq_ok, exists_const] at approved
    obtain ⟨-, approved⟩ := approved
    split at approved
    · cases approved
    · simp only [bind_eq_ok, pure_eq_ok] at approved
      obtain ⟨registryKey, named, _, passed, -⟩ := approved
      exact ⟨registryKey, named, passed⟩
  · cases approved

theorem receiverKycOutcome_open (opened : receiverKycOutcome find chain tail mint receiver now = .ok .openByConfig) :
    (chain (hookConfigAddress find mint)).data.getD 104 0 ≠ 1 := by
  unfold receiverKycOutcome configuredOutcome at opened
  dsimp only at opened
  split at opened
  · simp only [bind_eq_ok, require_eq_ok, exists_const] at opened
    obtain ⟨-, opened⟩ := opened
    split at opened
    · next mode => exact mode
    · simp only [bind_eq_ok, pure_eq_ok] at opened
      obtain ⟨_, -, _, -, other⟩ := opened
      cases other
  · cases opened

theorem receiverVerdict_ok {config : TransferHookConfig} {entryKey : Pubkey}
    (accepted : receiverVerdict chain config registryKey entryKey now = .ok ()) :
    config.kycRegistry = some registryKey ∧ kycEntryStatus (chain entryKey).data = .ok kycStatusApproved ∧
      ∃ expiry, kycEntryExpiry (chain entryKey).data = .ok expiry ∧ now < expiry := by
  simp only [receiverVerdict, bind_eq_ok, okOr_eq_ok, require_eq_ok, exists_const] at accepted
  obtain ⟨_, named, rfl, -, -, _, status, rfl, expiry, read, after, -⟩ := accepted
  exact ⟨named, status, expiry, read, after⟩

theorem not_current_of_clawback {entry : KycEntry} {reason : ClawbackReason} (fits : entry.expiry < 2 ^ 63)
    (clawed : clawbackReason entry now = .ok reason) : ¬ (entry.status = .approved ∧ now < entry.expiry) := by
  rintro ⟨current, unexpired⟩
  simp only [clawbackReason, bind_eq_ok, require_eq_ok, pure_eq_ok, exists_const] at clawed
  obtain ⟨revoked | lapsed, -⟩ := clawed
  · rw [current] at revoked
    cases revoked
  · unfold saturatingAddInt kycExpiryClawbackGraceSecs at lapsed
    omega

theorem clawbackFromHolder_ok {ctx : ClawbackContext} {reason : ClawbackReason}
    (clawed : clawbackFromHolder find chain ctx mint receiver now = .ok reason) :
    ∃ entry, Holds chain assetRegistryProgram KycEntryAccount.type (kycEntryAddress find ctx.kycRegistry receiver) entry ∧
      (chain (hookConfigAddress find mint)).data.getD 104 0 = 1 ∧
      configuredRegistry (chain (hookConfigAddress find mint)).data = .ok ctx.kycRegistry ∧
      ¬ (entry.status = .approved ∧ now < entry.expiry.toInt) := by
  simp only [clawbackFromHolder, bind_eq_ok, require_eq_ok, okOr_eq_ok, exists_const] at clawed
  obtain ⟨-, -, -, -, -, -, -, ⟨owner, -⟩, entry, read, -, -, mode, registryKey, configured, rfl, reasoned⟩ := clawed
  exact ⟨entry, ⟨owner, read⟩, mode, configured, not_current_of_clawback (BitVec.toInt_lt) reasoned⟩

end clawback

/-! ## The agreement -/

/-- For a gated mint, whatever its registry and the entry of the receiver hold, the hook accepts or refuses
the receiver exactly as the registry program does, for the same reason. Nobody whom either accepts can be
clawed back for its KYC. -/
theorem kyc_verdicts_agree (find : FindProgramAddress) (chain : Chain) (mint receiver : Pubkey) (tail : List Pubkey)
    (now : Int) :
    (∀ config registryKey registry, config.restrictionMode = .kycGated → config.kycRegistry = some registryKey →
      Holds chain transferHookProgram TransferHookConfig.type (hookConfigAddress find mint) config →
      Holds chain assetRegistryProgram KycRegistryAccount.type registryKey registry →
      (chain (kycEntryAddress find registryKey receiver) = unset ∨ ∃ entry,
        Holds chain assetRegistryProgram KycEntryAccount.type (kycEntryAddress find registryKey receiver) entry) →
      hookConfigAddress find mint ∈ tail → registryKey ∈ tail → kycEntryAddress find registryKey receiver ∈ tail →
      receiverKycOutcome find chain tail mint receiver now =
        ((receiverVerdict chain config registryKey (kycEntryAddress find registryKey receiver) now).mapError
          registryReason).map fun _ => .approved) ∧
    ∀ ctx reason, clawbackFromHolder find chain ctx mint receiver now = .ok reason →
      receiverKycOutcome find chain tail mint receiver now ≠ .ok .approved ∧
      receiverKycOutcome find chain tail mint receiver now ≠ .ok .openByConfig ∧
      ∀ config registryKey,
        Holds chain transferHookProgram TransferHookConfig.type (hookConfigAddress find mint) config →
        receiverVerdict chain config registryKey (kycEntryAddress find registryKey receiver) now ≠ .ok () := by
  refine ⟨?agree, ?exclusive⟩
  case agree =>
    intro config registryKey registry gated named configured registered entered listed listed' listed''
    rw [receiverKycOutcome_gated gated named configured listed]
    rcases entered with missing | ⟨entry, entered⟩
    · have absent : ¬ unset.ownedBy assetRegistryProgram := by decide
      have refused : requireApprovedReceiver find chain tail registryKey receiver now = .error .receiverNotApproved := by
        simp only [requireApprovedReceiver, missing, absent, listed'', require, if_true, if_false, Bind.bind, Except.bind]
      have refused' : receiverVerdict chain config registryKey (kycEntryAddress find registryKey receiver) now =
          .error .receiverNotApproved := by
        simp only [receiverVerdict, missing, absent, named, okOr, require, if_true, if_false, Bind.bind, Except.bind]
      rw [refused, refused']
      rfl
    · rw [requireApprovedReceiver_eq registered entered ⟨listed', listed''⟩, receiverVerdict_eq named registered entered]
      simp only [mapError_bind, mapError_require, registryReason]
      exact (map_eq_bind _ _).symm
  case exclusive =>
    intro ctx reason clawed
    obtain ⟨entry, entered, mode, configured, stale⟩ := clawbackFromHolder_ok clawed
    refine ⟨fun approved => ?_, fun opened => ?_, fun config registryKey holds accepted => ?_⟩
    · obtain ⟨registryKey, named, passed⟩ := receiverKycOutcome_approved approved
      obtain rfl := Except.ok.inj (named.symm.trans configured)
      obtain ⟨entry', registry, entered', -, eligible⟩ := requireApprovedReceiver_ok passed
      obtain rfl := Option.some.inj (entered.2.symm.trans entered'.2)
      exact stale ⟨eligible.approved, eligible.unexpired⟩
    · exact receiverKycOutcome_open opened mode
    · obtain ⟨named, current, unexpired⟩ := receiverVerdict_ok accepted
      obtain rfl := Except.ok.inj ((configuredRegistry_eq holds.2 named).symm.trans configured)
      rw [kycEntryStatus_eq entered.2, Except.ok.injEq, approved_iff] at current
      obtain ⟨expiry, read, after⟩ := unexpired
      obtain rfl := Except.ok.inj ((kycEntryExpiry_eq entered.2).symm.trans read)
      exact stale ⟨current, after⟩

end Mancipatio
