import Mancipatio.Hook.FrontMetas
import Mancipatio.Kyc.Agreement

/-!
# The list of extra accounts of a mint

The hook program writes the list when the mint is set up and resizes it on every change of the mode. The
registry program takes its length for a proof of the mode.
-/

namespace Mancipatio.Hook
open Checked Borsh Execution

/-- The library that writes the list into a buffer. A buffer keeps its length. -/
structure MetaListLibrary where
  sizeOf : Nat → Nat
  sizeOf_strictMono : StrictMono sizeOf
  init : List UInt8 → List ExtraAccountMeta → Except HookError (List UInt8)
  init_length : ∀ {buffer metas data}, init buffer metas = .ok data → data.length = buffer.length
  update : List UInt8 → List ExtraAccountMeta → Except HookError (List UInt8)
  update_length : ∀ {buffer metas data}, update buffer metas = .ok data → data.length = buffer.length

def zeroed (n : Nat) : List UInt8 :=
  List.replicate n 0

def resize (data : List UInt8) (size : Nat) : List UInt8 :=
  data.take size ++ zeroed (size - data.length)

@[simp] theorem zeroed_length (n : Nat) : (zeroed n).length = n :=
  List.length_replicate

@[simp] theorem resize_length (data : List UInt8) (size : Nat) : (resize data size).length = size := by
  simp [resize]
  omega

/-! ## Instructions -/

structure BlocklistAuthorityAccount where
  authority : Pubkey
  bump : BitVec 8
  deriving DecidableEq, Repr

def BlocklistAuthorityAccount.type : AccountType BlocklistAuthorityAccount where
  discriminator := [43, 125, 116, 230, 242, 105, 11, 43]
  codec := (Codec.pair keyCodec u8).iso (fun (authority, bump) => { authority, bump }) (fun a => (a.authority, a.bump))
    (fun _ => rfl) (fun _ => rfl)
  tagged := rfl

section instructions
variable (lib : MetaListLibrary) (find : FindProgramAddress) (mint : Pubkey)

-- `["blocklist_authority"]`
def blocklistAuthorityAddress : Pubkey :=
  find [[98, 108, 111, 99, 107, 108, 105, 115, 116, 95, 97, 117, 116, 104, 111, 114, 105, 116, 121]] transferHookProgram

/-- `8 + TransferHookConfig::INIT_SPACE` -/
def hookConfigSpace : Nat := 140

def loadAccount {α : Type} (chain : Chain) (type : AccountType α) (address : Pubkey) : Except HookError α := do
  require ((chain address).owner = transferHookProgram) .accountNotInitialized
  okOr (type.tryDeserialize (chain address).data) .accountDidNotDeserialize

/-- Written over the front of the account, whose other bytes stay. -/
def storeAccount {α : Type} (chain : Chain) (type : AccountType α) (address : Pubkey) (a : α) : Except HookError Chain := do
  let data := (chain address).data
  let written := type.trySerialize a
  require (written.length ≤ data.length) .accountDidNotSerialize
  return Function.update chain address { (chain address) with data := written ++ data.drop written.length }

def createAccount (chain : Chain) (address : Pubkey) (space : Nat) : Except HookError Chain := do
  require (chain address = unset) .accountAlreadyInUse
  return Function.update chain address { owner := transferHookProgram, data := zeroed space }

def initializeTransferHookConfig (chain : Chain) (shareClass blocklist : Pubkey) (mode : RestrictionMode)
    (kycRegistry : Option Pubkey) (bump : BitVec 8) : Except HookError Chain := do
  require ((chain shareClass).owner = assetRegistryProgram) .unauthorized
  require (isShareClassAccount (chain shareClass)) .unauthorized
  let created ← createAccount chain (hookConfigAddress find mint) hookConfigSpace
  validateModeRegistry mode kycRegistry
  storeAccount created TransferHookConfig.type (hookConfigAddress find mint)
    { mint, shareClass, blocklist, restrictionMode := mode, kycRegistry, version := 1, bump }

def initializeExtraAccountMetaList (chain : Chain) : Except HookError Chain := do
  let config ← loadAccount chain TransferHookConfig.type (hookConfigAddress find mint)
  let metas ← buildMetas config.restrictionMode config.kycRegistry
  let created ← createAccount chain (extraMetasAddress find mint) (lib.sizeOf metas.length)
  let data ← lib.init (created (extraMetasAddress find mint)).data metas
  return Function.update created (extraMetasAddress find mint) { owner := transferHookProgram, data }

/-- Growing, the buffer is resized before the list is written; shrinking, after. -/
def rewriteMetas (data : List UInt8) (metas : List ExtraAccountMeta) : Except HookError (List UInt8) :=
  let newSize := lib.sizeOf metas.length
  if data.length < newSize then
    lib.update (resize data newSize) metas
  else do
    let written ← lib.update data metas
    return resize written newSize

def requireRegistryShown (chain : Chain) (kycRegistry account : Option Pubkey) : Except HookError Unit :=
  match kycRegistry, account with
  | some key, some shown => require (shown = key ∧ isKycRegistryAccount (chain shown)) .invalidKycRegistry
  | some _, none => .error .invalidKycRegistry
  | none, some _ => .error .kycRegistryNotAllowed
  | none, none => .ok ()

def updateTransferHookConfig (chain : Chain) (authority : Pubkey) (mode : RestrictionMode)
    (kycRegistry account : Option Pubkey) : Except HookError Chain := do
  let role ← loadAccount chain BlocklistAuthorityAccount.type (blocklistAuthorityAddress find)
  require (role.authority = authority) .unauthorized
  let config ← loadAccount chain TransferHookConfig.type (hookConfigAddress find mint)
  let list := chain (extraMetasAddress find mint)
  require (list.owner = transferHookProgram) .metaListNotInitialized
  validateModeRegistry mode kycRegistry
  requireRegistryShown chain kycRegistry account
  let version := if config.version = 255 then 255 else config.version + 1
  let metas ← buildMetas mode kycRegistry
  let data ← rewriteMetas lib list.data metas
  storeAccount (Function.update chain (extraMetasAddress find mint) { list with data }) TransferHookConfig.type
    (hookConfigAddress find mint) { config with restrictionMode := mode, kycRegistry, version }

/-! ## Runs -/

/-- `elsewhere` is any other instruction of any program: only the instructions above write the two accounts
of the mint. -/
inductive HookLabel where
  | initializeTransferHookConfig (shareClass blocklist : Pubkey) (mode : RestrictionMode) (kycRegistry : Option Pubkey)
      (bump : BitVec 8)
  | initializeExtraAccountMetaList
  | updateTransferHookConfig (authority : Pubkey) (mode : RestrictionMode) (kycRegistry account : Option Pubkey)
  | elsewhere (chain : Chain)

def HookLabel.signers : HookLabel → List Pubkey
  | .initializeTransferHookConfig shareClass _ _ _ _ => [shareClass]
  | .updateTransferHookConfig authority _ _ _ => [authority]
  | .initializeExtraAccountMetaList | .elsewhere _ => []

def metaListStep (chain : Chain) (label : HookLabel) : Except HookError Chain := do
  require (label.signers.all (· ≠ 0) = true) .missingSignature
  match label with
  | .initializeTransferHookConfig shareClass blocklist mode kycRegistry bump =>
      initializeTransferHookConfig find mint chain shareClass blocklist mode kycRegistry bump
  | .initializeExtraAccountMetaList => initializeExtraAccountMetaList lib find mint chain
  | .updateTransferHookConfig authority mode kycRegistry account =>
      updateTransferHookConfig lib find mint chain authority mode kycRegistry account
  | .elsewhere chain' => do
      require (chain' (hookConfigAddress find mint) = chain (hookConfigAddress find mint) ∧
        chain' (extraMetasAddress find mint) = chain (extraMetasAddress find mint)) .unauthorized
      return chain'

def beforeSetup (chain : Chain) : Chain :=
  Function.update (Function.update chain (hookConfigAddress find mint) unset) (extraMetasAddress find mint) unset

end instructions

/-! ## What the instructions leave -/

section effects
variable {lib : MetaListLibrary} {find : FindProgramAddress} {mint : Pubkey} {chain chain' : Chain}

theorem loadAccount_ok {α : Type} {type : AccountType α} {address : Pubkey} {a : α} :
    loadAccount chain type address = .ok a ↔ Holds chain transferHookProgram type address a := by
  simp only [loadAccount, bind_eq_ok, require_eq_ok, okOr_eq_ok, exists_const]
  exact Iff.rfl

theorem storeAccount_ok {α : Type} {type : AccountType α} {address : Pubkey} {a : α}
    (stored : storeAccount chain type address a = .ok chain') :
    (chain' address).owner = (chain address).owner ∧ type.tryDeserialize (chain' address).data = some a ∧
      (chain' address).data.length = (chain address).data.length ∧ ∀ other, other ≠ address → chain' other = chain other := by
  simp only [storeAccount, bind_eq_ok, require_eq_ok, pure_eq_ok, exists_const] at stored
  obtain ⟨fits, rfl⟩ := stored
  simp only [Function.update_self]
  refine ⟨trivial, AccountType.tryDeserialize_trySerialize a _, ?_, fun other ne => Function.update_of_ne ne _ _⟩
  rw [List.length_append, List.length_drop]
  omega

theorem createAccount_ok {address : Pubkey} {space : Nat} (created : createAccount chain address space = .ok chain') :
    chain address = unset ∧ chain' = Function.update chain address { owner := transferHookProgram, data := zeroed space } := by
  simp only [createAccount, bind_eq_ok, require_eq_ok, pure_eq_ok, exists_const] at created
  exact ⟨created.1, created.2.symm⟩

theorem rewriteMetas_length {data written : List UInt8} {metas : List ExtraAccountMeta}
    (rewritten : rewriteMetas lib data metas = .ok written) : written.length = lib.sizeOf metas.length := by
  unfold rewriteMetas at rewritten
  dsimp only at rewritten
  split at rewritten
  · rw [lib.update_length rewritten, resize_length]
  · simp only [bind_eq_ok, pure_eq_ok] at rewritten
    obtain ⟨_, -, rfl⟩ := rewritten
    exact resize_length _ _

/-! ## The invariant -/

def RestrictionMode.metas : RestrictionMode → Nat
  | .open => 1
  | .kycGated => 7

structure Configured (find : FindProgramAddress) (mint : Pubkey) (chain : Chain) (config : TransferHookConfig) : Prop where
  holds : Holds chain transferHookProgram TransferHookConfig.type (hookConfigAddress find mint) config
  minted : config.mint = mint
  space : (chain (hookConfigAddress find mint)).data.length = hookConfigSpace
  coherent : validateModeRegistry config.restrictionMode config.kycRegistry = .ok ()

def Listed (lib : MetaListLibrary) (find : FindProgramAddress) (mint : Pubkey) (chain : Chain) (mode : RestrictionMode) : Prop :=
  (chain (extraMetasAddress find mint)).owner = transferHookProgram ∧
    (chain (extraMetasAddress find mint)).data.length = lib.sizeOf mode.metas

inductive SetUp (lib : MetaListLibrary) (find : FindProgramAddress) (mint : Pubkey) (chain : Chain) : Prop where
  | neither : chain (hookConfigAddress find mint) = unset → chain (extraMetasAddress find mint) = unset →
      SetUp lib find mint chain
  | configured {config} : Configured find mint chain config → chain (extraMetasAddress find mint) = unset →
      SetUp lib find mint chain
  | both {config} : Configured find mint chain config → Listed lib find mint chain config.restrictionMode →
      SetUp lib find mint chain

theorem buildMetas_metas {mode : RestrictionMode} {kycRegistry : Option Pubkey} {metas : List ExtraAccountMeta}
    (built : buildMetas mode kycRegistry = .ok metas) : metas.length = mode.metas := by
  rw [buildMetas_length built]
  cases mode <;> rfl

theorem setUp_beforeSetup (distinct : hookConfigAddress find mint ≠ extraMetasAddress find mint) :
    SetUp lib find mint (beforeSetup find mint chain) := by
  apply SetUp.neither
  · rw [beforeSetup, Function.update_of_ne distinct, Function.update_self]
  · exact Function.update_self ..

theorem configured_stored {config : TransferHookConfig}
    (stored : storeAccount chain TransferHookConfig.type (hookConfigAddress find mint) config = .ok chain')
    (minted : config.mint = mint) (coherent : validateModeRegistry config.restrictionMode config.kycRegistry = .ok ())
    (owner : (chain (hookConfigAddress find mint)).owner = transferHookProgram)
    (space : (chain (hookConfigAddress find mint)).data.length = hookConfigSpace) :
    Configured find mint chain' config := by
  obtain ⟨owner', read, space', -⟩ := storeAccount_ok stored
  exact ⟨⟨owner'.trans owner, read⟩, minted, space'.trans space, coherent⟩

theorem Configured.kept {config : TransferHookConfig} (configured : Configured find mint chain config)
    (same : chain' (hookConfigAddress find mint) = chain (hookConfigAddress find mint)) :
    Configured find mint chain' config := by
  obtain ⟨holds, minted, space, coherent⟩ := configured
  refine ⟨?_, minted, same ▸ space, coherent⟩
  unfold Holds
  rw [same]
  exact holds

theorem unset_not_owned : unset.owner ≠ transferHookProgram := by
  decide

theorem configured_of_loaded {config : TransferHookConfig} (sound : SetUp lib find mint chain)
    (loaded : Holds chain transferHookProgram TransferHookConfig.type (hookConfigAddress find mint) config) :
    Configured find mint chain config ∧ (chain (extraMetasAddress find mint) = unset ∨
      Listed lib find mint chain config.restrictionMode) := by
  cases sound with
  | neither absent => exact absurd (absent ▸ loaded.1) unset_not_owned
  | configured configured listless =>
      obtain rfl := Option.some.inj (configured.holds.2.symm.trans loaded.2)
      exact ⟨configured, .inl listless⟩
  | both configured listed =>
      obtain rfl := Option.some.inj (configured.holds.2.symm.trans loaded.2)
      exact ⟨configured, .inr listed⟩

theorem setUp_step (distinct : hookConfigAddress find mint ≠ extraMetasAddress find mint) (label : HookLabel)
    (sound : SetUp lib find mint chain) (stepped : metaListStep lib find mint chain label = .ok chain') :
    SetUp lib find mint chain' := by
  simp only [metaListStep, bind_eq_ok, require_eq_ok, exists_const] at stepped
  obtain ⟨-, stepped⟩ := stepped
  cases label with
  | initializeTransferHookConfig shareClass blocklist mode kycRegistry bump =>
      simp only [initializeTransferHookConfig, bind_eq_ok, require_eq_ok, exists_const] at stepped
      obtain ⟨-, -, created, creation, _, coherent, stored⟩ := stepped
      obtain ⟨fresh, rfl⟩ := createAccount_ok creation
      have listless : chain (extraMetasAddress find mint) = unset := by
        cases sound with
        | neither _ listless => exact listless
        | configured configured | both configured =>
            exact absurd (fresh ▸ configured.holds.1) unset_not_owned
      apply SetUp.configured
      · apply configured_stored stored rfl coherent
        · rw [Function.update_self]
        · rw [Function.update_self]
          exact zeroed_length _
      · rw [(storeAccount_ok stored).2.2.2 _ distinct.symm, Function.update_of_ne distinct.symm]
        exact listless
  | initializeExtraAccountMetaList =>
      simp only [initializeExtraAccountMetaList, bind_eq_ok, loadAccount_ok, pure_eq_ok] at stepped
      obtain ⟨config, loaded, metas, built, created, creation, data, written, rfl⟩ := stepped
      obtain ⟨-, rfl⟩ := createAccount_ok creation
      obtain ⟨configured, -⟩ := configured_of_loaded sound loaded
      apply SetUp.both
      · apply configured.kept
        rw [Function.update_of_ne distinct, Function.update_of_ne distinct]
      · rw [Function.update_self] at written
        constructor
        · rw [Function.update_self]
        · rw [Function.update_self, lib.init_length written, zeroed_length, buildMetas_metas built]
  | updateTransferHookConfig authority mode kycRegistry account =>
      simp only [updateTransferHookConfig, bind_eq_ok, loadAccount_ok, require_eq_ok, exists_const] at stepped
      obtain ⟨_, -, -, config, loaded, listed, _, coherent, _, -, metas, built, data, written, stored⟩ := stepped
      obtain ⟨configured, -⟩ := configured_of_loaded sound loaded
      apply SetUp.both
      · apply configured_stored stored configured.minted coherent
        · rw [Function.update_of_ne distinct]
          exact configured.holds.1
        · rw [Function.update_of_ne distinct]
          exact configured.space
      · rw [Listed, (storeAccount_ok stored).2.2.2 _ distinct.symm, Function.update_self, rewriteMetas_length written,
          buildMetas_metas built]
        exact ⟨listed, rfl⟩
  | elsewhere other =>
      simp only [bind_eq_ok, require_eq_ok, pure_eq_ok, exists_const] at stepped
      obtain ⟨⟨sameConfig, sameList⟩, rfl⟩ := stepped
      cases sound with
      | neither absent listless => exact .neither (sameConfig.trans absent) (sameList.trans listless)
      | configured configured listless => exact .configured (configured.kept sameConfig) (sameList.trans listless)
      | both configured listed =>
          refine .both (configured.kept sameConfig) ?_
          unfold Listed
          rw [sameList]
          exact listed

/-! ## The length as a proof of the mode -/

theorem metas_open {mode : RestrictionMode} : lib.sizeOf mode.metas = lib.sizeOf 1 ↔ mode = .open := by
  rw [lib.sizeOf_strictMono.injective.eq_iff]
  cases mode <;> simp [RestrictionMode.metas]

theorem Configured.mode_byte {config : TransferHookConfig} (configured : Configured find mint chain config) :
    (chain (hookConfigAddress find mint)).data.getD 104 0 = 1 ↔ config.restrictionMode = .kycGated := by
  rw [(config_fields configured.holds.2).1]
  cases config.restrictionMode <;> decide

theorem Configured.read {config : TransferHookConfig} (configured : Configured find mint chain config) (shareClass : Pubkey) :
    readHookConfig (chain (hookConfigAddress find mint)) mint shareClass =
      if config.shareClass = shareClass then .ok (config.restrictionMode = .kycGated) else .error .hookConfigInvalid := by
  have enough : hookConfigMinLen ≤ (chain (hookConfigAddress find mint)).data.length := by
    rw [configured.space]
    decide
  obtain ⟨minted, class'⟩ := config_keys configured.holds.2
  unfold readHookConfig
  simp only [require, configured.holds.1, enough, minted, configured.minted, class', configured.mode_byte, true_and, if_true]
  split <;> rfl

theorem requireReceiverKycForMintTo_ok {openLength : Nat} {tail : List Pubkey} {receiver : Pubkey} {now : Int}
    (passed : requireReceiverKycForMintTo find chain openLength tail mint receiver now = .ok ()) :
    receiverKycOutcome find chain tail mint receiver now = .ok .approved ∨
      receiverKycOutcome find chain tail mint receiver now = .ok .openByConfig ∨
      (chain (extraMetasAddress find mint)).ownedBy transferHookProgram ∧
        (chain (extraMetasAddress find mint)).data.length = openLength := by
  simp only [requireReceiverKycForMintTo, bind_eq_ok] at passed
  obtain ⟨outcome, decided, passed⟩ := passed
  cases outcome with
  | approved => exact .inl decided
  | openByConfig => exact .inr (.inl decided)
  | configUnavailable =>
      simp only [bind_eq_ok, require_eq_ok, exists_const] at passed
      exact .inr (.inr passed.2)

theorem Configured.passes {config : TransferHookConfig} (configured : Configured find mint chain config)
    (opened : config.restrictionMode = .open) {tail : List Pubkey} (receiver : Pubkey) (now : Int)
    (shown : hookConfigAddress find mint ∈ tail ∨
      Listed lib find mint chain config.restrictionMode ∧ extraMetasAddress find mint ∈ tail) :
    requireReceiverKycForMintTo find chain (lib.sizeOf 1) tail mint receiver now = .ok () := by
  have enough : hookConfigMinLen ≤ (chain (hookConfigAddress find mint)).data.length := by
    rw [configured.space]
    decide
  have ungated : (chain (hookConfigAddress find mint)).data.getD 104 0 ≠ 1 := by
    rw [Ne, configured.mode_byte, opened]
    decide
  unfold requireReceiverKycForMintTo receiverKycOutcome
  by_cases named : hookConfigAddress find mint ∈ tail
  · simp only [named, configured.holds.owned, and_self, if_true, configuredOutcome, require, enough, ungated, ne_eq,
      not_false_eq_true, Bind.bind, Except.bind]
    rfl
  · obtain ⟨⟨owner, length⟩, listed⟩ := shown.resolve_left named
    rw [metas_open.mpr opened] at length
    have owned : (chain (extraMetasAddress find mint)).ownedBy transferHookProgram := by
      refine ⟨owner, List.ne_nil_of_length_pos ?_⟩
      rw [length]
      exact Nat.lt_of_le_of_lt (Nat.zero_le _) (lib.sizeOf_strictMono Nat.zero_lt_one)
    simp only [named, false_and, if_false, require, listed, owned, length, if_true, Bind.bind, Except.bind]

structure ModeProven (lib : MetaListLibrary) (find : FindProgramAddress) (mint : Pubkey) (chain : Chain)
    (config : TransferHookConfig) : Prop where
  shape : (chain (extraMetasAddress find mint)).owner = transferHookProgram →
    ((chain (extraMetasAddress find mint)).data.length = lib.sizeOf 1 ↔ config.restrictionMode = .open)
  read : ∀ shareClass, readHookConfig (chain (hookConfigAddress find mint)) mint shareClass =
    if config.shareClass = shareClass then .ok (config.restrictionMode = .kycGated) else .error .hookConfigInvalid
  gated : config.restrictionMode = .kycGated → ∀ tail receiver now,
    requireReceiverKycForMintTo find chain (lib.sizeOf 1) tail mint receiver now = .ok () →
    ∃ registryKey entry registry, config.kycRegistry = some registryKey ∧
      Holds chain assetRegistryProgram KycEntryAccount.type (kycEntryAddress find registryKey receiver) entry ∧
      Holds chain assetRegistryProgram KycRegistryAccount.type registryKey registry ∧
      entry.entry.Eligible registry.registry now
  opened : config.restrictionMode = .open → ∀ tail receiver now,
    hookConfigAddress find mint ∈ tail ∨
      (chain (extraMetasAddress find mint)).owner = transferHookProgram ∧ extraMetasAddress find mint ∈ tail →
    requireReceiverKycForMintTo find chain (lib.sizeOf 1) tail mint receiver now = .ok ()

theorem modeProven_of_setUp {config : TransferHookConfig} (sound : SetUp lib find mint chain)
    (loaded : Holds chain transferHookProgram TransferHookConfig.type (hookConfigAddress find mint) config) :
    ModeProven lib find mint chain config := by
  obtain ⟨configured, list⟩ := configured_of_loaded sound loaded
  have listed (owner : (chain (extraMetasAddress find mint)).owner = transferHookProgram) :
      Listed lib find mint chain config.restrictionMode := by
    apply list.resolve_left
    intro listless
    exact unset_not_owned (listless ▸ owner)
  have shape (owner : (chain (extraMetasAddress find mint)).owner = transferHookProgram) :
      (chain (extraMetasAddress find mint)).data.length = lib.sizeOf 1 ↔ config.restrictionMode = .open := by
    rw [(listed owner).2]
    exact metas_open
  refine ⟨shape, configured.read, ?gated, ?opened⟩
  case gated =>
    intro gated tail receiver now passed
    rcases requireReceiverKycForMintTo_ok passed with approved | opened | ⟨owned, short⟩
    · obtain ⟨registryKey, named, approved⟩ := receiverKycOutcome_approved approved
      obtain ⟨entry, registry, entered, registered, eligible⟩ := requireApprovedReceiver_ok approved
      cases stored : config.kycRegistry with
      | none =>
          have coherent := configured.coherent
          rw [gated, stored] at coherent
          cases coherent
      | some key =>
          obtain rfl := Except.ok.inj ((configuredRegistry_eq configured.holds.2 stored).symm.trans named)
          exact ⟨key, entry, registry, rfl, entered, registered, eligible⟩
    · exact absurd (configured.mode_byte.mpr gated) (receiverKycOutcome_open opened)
    · rw [(shape owned.1).mp short] at gated
      cases gated
  case opened =>
    intro opened tail receiver now shown
    exact configured.passes opened receiver now (shown.imp_right fun ⟨owner, member⟩ => ⟨listed owner, member⟩)

end effects

/-- Whenever the list exists, so does a configuration, and the list is short just when the mode is `Open`.
Units of a gated mint are issued to eligible receivers only, and an open mint asks nobody for an entry,
whatever accounts the caller lists. -/
theorem list_length_proves_mode (lib : MetaListLibrary) (find : FindProgramAddress) (mint : Pubkey) (chain : Chain)
    (distinct : hookConfigAddress find mint ≠ extraMetasAddress find mint)
    (run : Run (metaListStep lib find mint) (beforeSetup find mint chain)) :
    ∀ i ≤ run.length,
      ((run.state i (extraMetasAddress find mint)).owner = transferHookProgram →
        ∃ config, Holds (run.state i) transferHookProgram TransferHookConfig.type (hookConfigAddress find mint) config) ∧
      ∀ config, Holds (run.state i) transferHookProgram TransferHookConfig.type (hookConfigAddress find mint) config →
        ModeProven lib find mint (run.state i) config := by
  intro i within
  have sound : SetUp lib find mint (run.state i) :=
    run.invariant (setUp_beforeSetup distinct) (fun _ label _ sound stepped => setUp_step distinct label sound stepped) i within
  refine ⟨fun owner => ?_, fun config loaded => modeProven_of_setUp sound loaded⟩
  cases sound with
  | neither _ listless | configured _ listless => exact absurd (listless ▸ owner) unset_not_owned
  | both configured => exact ⟨_, configured.holds⟩

/-! ## A mint that becomes gated -/

/-- The list at the front of the account, which must have room for it. -/
def writeTlv (buffer : List UInt8) (metas : List ExtraAccountMeta) : Except HookError (List UInt8) := do
  require (extraAccountMetaListHeader + extraAccountMetaSize * metas.length ≤ buffer.length) .invalidAccountData
  return resize (packMetaList (metas.map ExtraAccountMeta.entry)) buffer.length

theorem writeTlv_length {buffer data : List UInt8} {metas : List ExtraAccountMeta}
    (written : writeTlv buffer metas = .ok data) : data.length = buffer.length := by
  simp only [writeTlv, bind_eq_ok, pure_eq_ok] at written
  obtain ⟨_, -, rfl⟩ := written
  exact resize_length _ _

def tlvMetaList : MetaListLibrary where
  sizeOf := fun n => extraAccountMetaListHeader + extraAccountMetaSize * n
  sizeOf_strictMono := fun m n less => by
    dsimp only [extraAccountMetaSize]
    omega
  init := writeTlv
  init_length := writeTlv_length
  update := writeTlv
  update_length := writeTlv_length

def exampleFind : FindProgramAddress := fun seeds _ =>
  BitVec.ofNat 256 (seeds.map List.length).sum

def exampleChain : Chain :=
  Function.update (Function.update (Function.update (fun _ => unset)
    1 { owner := assetRegistryProgram, data := [169, 98, 255, 104, 159, 47, 105, 6] })
    19 { owner := transferHookProgram, data := BlocklistAuthorityAccount.type.trySerialize { authority := 7, bump := 0 } })
    3 { owner := assetRegistryProgram, data := resize KycRegistryAccount.type.discriminator 306 }

instance : Inhabited HookLabel := ⟨.initializeExtraAccountMetaList⟩

def exampleRun : Run (metaListStep tlvMetaList exampleFind 0) (beforeSetup exampleFind 0 exampleChain) :=
  Run.ofLabels _ _ [.initializeTransferHookConfig 1 0 .open none 255, .initializeExtraAccountMetaList,
    .updateTransferHookConfig 7 .kycGated (some 3) (some 3)] (by decide +kernel)

def exampleConfig : TransferHookConfig :=
  { mint := 0, shareClass := 1, blocklist := 0, restrictionMode := .kycGated, kycRegistry := some 3, version := 2, bump := 255 }

theorem list_length_proves_mode_example : ModeProven tlvMetaList exampleFind 0 (exampleRun.state 3) exampleConfig :=
  (list_length_proves_mode tlvMetaList exampleFind 0 exampleChain (by decide +kernel) exampleRun 3 (Nat.le_refl 3)).2 _
    (by unfold Holds; decide +kernel)

end Mancipatio.Hook
