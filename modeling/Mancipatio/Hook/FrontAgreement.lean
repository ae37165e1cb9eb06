import Mancipatio.Hook.FrontMetas

/-!
# The front and the hook name the same accounts
-/

namespace Mancipatio.Hook
open Bytes Borsh Checked

/-! ## What fits -/

def MetaSeed.Fits : MetaSeed → Prop
  | .literal bytes => bytes.length < 256
  | .instructionData index length => index < 256 ∧ length < 256
  | .accountKey index => index < 256
  | .accountData accountIndex dataIndex length => accountIndex < 256 ∧ dataIndex < 256 ∧ length < 256

def MetaKind.Fits : MetaKind → Prop
  | .fixed _ => True
  | .pda programIndex seeds =>
      (∀ index ∈ programIndex, index < 128) ∧ (∀ seed ∈ seeds, seed.Fits) ∧ (packSeeds seeds).length ≤ 32

structure ListFits (entries : List ExtraAccountMetaEntry) : Prop where
  each : ∀ entry ∈ entries, entry.kind.Fits
  length : 4 + entries.length * extraAccountMetaSize < 2 ^ 32

/-! ## A packed list is read back -/

theorem toNat_ofNat_of_fits {n : Nat} (fits : n < 256) : (UInt8.ofNat n).toNat = n := by
  rw [UInt8.toNat_ofNat', Nat.mod_eq_of_lt fits]

theorem seedsWithin_padding (n k : Nat) : seedsWithin n (List.replicate k 0) = .ok [] := by
  cases n with
  | zero => rfl
  | succ n =>
      cases k with
      | zero => rfl
      | succ k => rfl

theorem readSeed_pack {seed : MetaSeed} (fits : seed.Fits) (rest : List UInt8) :
    ∃ kind tail, seed.pack ++ rest = kind :: tail ∧ kind ≠ 0 ∧ readSeed kind tail = .ok (seed, rest) := by
  cases seed with
  | literal bytes =>
      refine ⟨1, UInt8.ofNat bytes.length :: (bytes ++ rest), rfl, by decide, ?_⟩
      rw [readSeed, toNat_ofNat_of_fits fits, List.take_left, List.drop_left]
      simp only [bind_eq_ok, require_eq_ok, pure_eq_ok, exists_const, List.length_append]
      exact ⟨Nat.le_add_right _ _, trivial⟩
  | instructionData index length =>
      refine ⟨_, _, rfl, by decide, ?_⟩
      simp [readSeed, toNat_ofNat_of_fits fits.1, toNat_ofNat_of_fits fits.2]
  | accountKey index =>
      refine ⟨_, _, rfl, by decide, ?_⟩
      simp [readSeed, toNat_ofNat_of_fits fits]
  | accountData accountIndex dataIndex length =>
      refine ⟨_, _, rfl, by decide, ?_⟩
      simp [readSeed, toNat_ofNat_of_fits fits.1, toNat_ofNat_of_fits fits.2.1, toNat_ofNat_of_fits fits.2.2]

theorem seedsWithin_pack {seeds : List MetaSeed} (fits : ∀ seed ∈ seeds, seed.Fits) (k : Nat) {n : Nat} (enough : seeds.length ≤ n) :
    seedsWithin n (packSeeds seeds ++ List.replicate k 0) = .ok seeds := by
  induction seeds generalizing n with
  | nil => exact seedsWithin_padding n k
  | cons seed seeds ih =>
      obtain ⟨first, others⟩ := List.forall_mem_cons.mp fits
      cases n with
      | zero => cases enough
      | succ n =>
          obtain ⟨kind, tail, bytes, tagged, read⟩ := readSeed_pack first (packSeeds seeds ++ List.replicate k 0)
          rw [packSeeds, List.flatMap_cons, List.append_assoc]
          rw [packSeeds] at bytes
          rw [bytes, seedsWithin, if_neg tagged]
          simp only [bind_eq_ok, pure_eq_ok]
          exact ⟨_, read, _, ih others (Nat.le_of_succ_le_succ enough), rfl⟩

theorem packSeeds_length (seeds : List MetaSeed) : seeds.length ≤ (packSeeds seeds).length := by
  induction seeds with
  | nil => exact Nat.le_refl _
  | cons seed seeds ih =>
      have first : 1 ≤ seed.pack.length := by
        cases seed <;> simp [MetaSeed.pack]
      rw [packSeeds, List.flatMap_cons, List.length_append, List.length_cons, ← packSeeds]
      omega

theorem addressConfig_length {kind : MetaKind} (fits : kind.Fits) : kind.addressConfig.length = 32 := by
  cases kind with
  | fixed address => exact keyBytes_length address
  | pda programIndex seeds =>
      have short := fits.2.2
      rw [MetaKind.addressConfig, List.length_append, List.length_replicate]
      omega

theorem decodeSeeds_addressConfig {programIndex : Option Nat} {seeds : List MetaSeed} (fits : (MetaKind.pda programIndex seeds).Fits) :
    decodeSeeds (MetaKind.pda programIndex seeds).addressConfig = .ok seeds := by
  apply seedsWithin_pack fits.2.1
  rw [addressConfig_length fits]
  exact (packSeeds_length seeds).trans fits.2.2

theorem flagByte_bne (flag : Bool) : (flagByte flag != 0) = flag := by
  cases flag <;> rfl

theorem pack_length {entry : ExtraAccountMetaEntry} (fits : entry.kind.Fits) : entry.pack.length = extraAccountMetaSize := by
  rw [ExtraAccountMetaEntry.pack, List.length_cons, List.length_append, addressConfig_length fits]
  rfl

theorem decodeEntry_pack {entry : ExtraAccountMetaEntry} (fits : entry.kind.Fits) : decodeEntry entry.pack = .ok entry := by
  have config : slice entry.pack 1 32 = entry.kind.addressConfig := by
    rw [ExtraAccountMetaEntry.pack, slice, List.drop_one, List.tail_cons, List.take_left' (addressConfig_length fits)]
  have signer : entry.pack.getD 33 0 = flagByte entry.isSigner := by
    rw [ExtraAccountMetaEntry.pack, List.getD_cons_succ]
    exact getD_skip (addressConfig_length fits) 0 0
  have writable : entry.pack.getD 34 0 = flagByte entry.isWritable := by
    rw [ExtraAccountMetaEntry.pack, List.getD_cons_succ]
    exact getD_skip (addressConfig_length fits) 1 0
  have tag : entry.pack.getD 0 0 = UInt8.ofNat entry.kind.discriminator := rfl
  obtain ⟨isSigner, isWritable, kind⟩ := entry
  rw [decodeEntry, config, signer, writable, tag, flagByte_bne, flagByte_bne]
  cases kind with
  | fixed address =>
      have address' : keyAt (keyBytes address) 0 = address := by
        have read := @keyAt_first address []
        rwa [List.append_nil] at read
      simp only [MetaKind.discriminator, MetaKind.addressConfig, address']
      rfl
  | pda programIndex seeds =>
      cases programIndex with
      | none =>
          simp only [MetaKind.discriminator, decodeSeeds_addressConfig fits]
          rfl
      | some index =>
          have small : index < 128 := fits.1 index rfl
          have tag := toNat_ofNat_of_fits (n := 128 + index) (by omega)
          simp only [MetaKind.discriminator, decodeSeeds_addressConfig fits]
          have fixed : UInt8.ofNat (128 + index) ≠ 0 := by
            intro zero
            rw [zero] at tag
            have zero' : (0 : UInt8).toNat = 0 := rfl
            omega
          have own : UInt8.ofNat (128 + index) ≠ 1 := by
            intro one
            rw [one] at tag
            have one' : (1 : UInt8).toNat = 1 := rfl
            omega
          have external : 128 ≤ UInt8.ofNat (128 + index) := by
            rw [UInt8.le_iff_toNat_le, tag]
            exact Nat.le_add_right _ _
          rw [if_neg fixed, if_neg own, if_pos external, tag, Nat.add_sub_cancel_left]
          rfl

theorem decodeEntries_pack {entries : List ExtraAccountMetaEntry} (fits : ∀ entry ∈ entries, entry.kind.Fits) :
    decodeEntries entries.length (entries.flatMap ExtraAccountMetaEntry.pack) = .ok entries := by
  induction entries with
  | nil => rfl
  | cons entry entries ih =>
      obtain ⟨first, others⟩ := List.forall_mem_cons.mp fits
      simp only [List.length_cons, List.flatMap_cons, decodeEntries, bind_eq_ok, pure_eq_ok]
      rw [List.take_left' (pack_length first), List.drop_left' (pack_length first)]
      exact ⟨entry, decodeEntry_pack first, entries, ih others, rfl⟩

theorem packedEntries_length {entries : List ExtraAccountMetaEntry} (fits : ∀ entry ∈ entries, entry.kind.Fits) :
    (entries.flatMap ExtraAccountMetaEntry.pack).length = entries.length * extraAccountMetaSize := by
  induction entries with
  | nil => rfl
  | cons entry entries ih =>
      obtain ⟨first, others⟩ := List.forall_mem_cons.mp fits
      rw [List.flatMap_cons, List.length_append, pack_length first, ih others, List.length_cons, Nat.succ_mul, Nat.add_comm]

theorem decode_packMetaList {entries : List ExtraAccountMetaEntry} (fits : ListFits entries) :
    decodeExtraAccountMetaList (packMetaList entries) = .ok entries := by
  have total := fits.length
  have few : entries.length < 256 ^ 4 := by
    rw [extraAccountMetaSize] at total
    omega
  have tag : executeDiscriminator.length = 8 := rfl
  have length : ofLittleEndian (slice (packMetaList entries) 8 4) = 4 + entries.length * extraAccountMetaSize := by
    rw [packMetaList, slice_skip (n := 8) tag 0, slice_first (littleEndian_length 4 _), ofLittleEndian_littleEndian,
      Nat.mod_eq_of_lt (Nat.lt_of_lt_of_eq total (by norm_num))]
  have count : ofLittleEndian (slice (packMetaList entries) 12 4) = entries.length := by
    rw [packMetaList, slice_skip (n := 8) tag 4, slice_skip (n := 4) (littleEndian_length 4 _) 0,
      slice_first (littleEndian_length 4 _), ofLittleEndian_littleEndian, Nat.mod_eq_of_lt few]
  have size : (packMetaList entries).length = extraAccountMetaListHeader + entries.length * extraAccountMetaSize := by
    simp only [packMetaList, List.length_append, littleEndian_length, packedEntries_length fits.each, tag,
      extraAccountMetaListHeader]
    omega
  have rest : (packMetaList entries).drop extraAccountMetaListHeader = entries.flatMap ExtraAccountMetaEntry.pack := by
    rw [packMetaList, ← List.append_assoc, ← List.append_assoc]
    exact List.drop_left' (by simp [tag, extraAccountMetaListHeader])
  have start : (packMetaList entries).take 8 = executeDiscriminator := List.take_left' tag
  simp only [decodeExtraAccountMetaList, length, count, size, rest, start, bind_eq_ok, require_eq_ok, exists_const]
  exact ⟨Nat.le_add_right _ _, trivial, trivial, le_refl _, decodeEntries_pack fits.each⟩

/-! ## The list of a mint -/

def ExtraAccountMetaEntry.role (entry : ExtraAccountMetaEntry) : AccountRole :=
  match entry.isSigner, entry.isWritable with
  | false, false => .readonly
  | false, true => .writable
  | true, false => .readonlySigner
  | true, true => .writableSigner

def MetaSeed.accountIndexes : MetaSeed → List Nat
  | .literal _ | .instructionData _ _ => []
  | .accountKey index | .accountData index _ _ => [index]

def MetaKind.accountIndexes : MetaKind → List Nat
  | .fixed _ => []
  | .pda programIndex seeds => programIndex.toList ++ seeds.flatMap MetaSeed.accountIndexes

/-- Every index is one of the five accounts of a transfer or of an earlier meta. -/
def RefersBack (entries : List ExtraAccountMetaEntry) : Prop :=
  ∀ n entry, entries[n]? = some entry → ∀ index ∈ entry.kind.accountIndexes, index < 5 + n

def IsTokenAccount (accountData : Pubkey → Option (List UInt8)) (address owner : Pubkey) : Prop :=
  ∃ data, accountData address = some data ∧ 64 ≤ data.length ∧ slice data 32 32 = keyBytes owner

section transfer
variable {find : FindProgramAddress} {context : MetaResolutionContext} {sourceOwner destOwner : Pubkey}

theorem resolveSeed_owner {accounts : List Pubkey} {index : Nat} {address owner : Pubkey} (named : accounts[index]? = some address)
    (token : IsTokenAccount context.accountData address owner) :
    resolveSeed context accounts (.accountData index 32 32) = .ok (keyBytes owner) := by
  obtain ⟨data, stored, long, held⟩ := token
  simp only [resolveSeed, named, Option.bind_some, stored, bind_eq_ok, okOr_eq_ok, require_eq_ok, pure_eq_ok]
  exact ⟨data, rfl, (), long, held⟩

theorem resolveSeed_key {accounts : List Pubkey} {index : Nat} {address : Pubkey} (named : accounts[index]? = some address) :
    resolveSeed context accounts (.accountKey index) = .ok (keyBytes address) := by
  simp only [resolveSeed, named, bind_eq_ok, okOr_eq_ok, pure_eq_ok]
  exact ⟨address, rfl, rfl⟩

theorem resolveMeta_pda {accounts : List Pubkey} {programIndex : Option Nat} {seeds : List MetaSeed} {bytes : List (List UInt8)}
    {program : Pubkey} (read : List.Forall₂ (fun seed part => resolveSeed context accounts seed = .ok part) seeds bytes)
    (derives : derivingProgram context accounts programIndex = .ok program)
    (short : bytes.length < 16 ∧ ∀ part ∈ bytes, part.length ≤ 32) :
    resolveMeta find context accounts (.pda programIndex seeds) = .ok (find bytes program) := by
  simp only [resolveMeta, getProgramDerivedAddress, bind_eq_ok, require_eq_ok, pure_eq_ok]
  exact ⟨bytes, mapM_eq_ok.mpr read, program, derives, (), short, rfl⟩

structure TransferContext (find : FindProgramAddress) (context : MetaResolutionContext) (sourceOwner destOwner : Pubkey) : Prop where
  hookProgram : context.hookProgram = transferHookProgram
  metaList : context.metaList = extraMetasAddress find context.mint
  source : IsTokenAccount context.accountData context.source sourceOwner
  destination : IsTokenAccount context.accountData context.destination destOwner

def resolvedTail (find : FindProgramAddress) (mint sourceOwner destOwner : Pubkey) (config : HookTailConfig) : List Pubkey :=
  match config.restrictionMode, config.kycRegistry with
  | .kycGated, some registry =>
      [blockEntryAddress find sourceOwner, hookConfigAddress find mint, registry, assetRegistryProgram,
        kycEntryAddress find registry destOwner, escrowMarkerAddress find destOwner, escrowMarkerAddress find sourceOwner]
  | _, _ => [blockEntryAddress find sourceOwner]

variable {accounts : List Pubkey}

theorem blockEntry_resolves (transfer : TransferContext find context sourceOwner destOwner)
    (named : accounts[0]? = some context.source) :
    resolveMeta find context accounts (.pda none [.literal [98, 108, 111, 99, 107, 101, 100], .accountData 0 32 32]) =
      .ok (blockEntryAddress find sourceOwner) := by
  have program : derivingProgram context accounts none = .ok transferHookProgram := congrArg Except.ok transfer.hookProgram
  refine resolveMeta_pda (.cons rfl (.cons (resolveSeed_owner named transfer.source) .nil)) program ?_
  simp [keyBytes_length]

theorem hookConfig_resolves (transfer : TransferContext find context sourceOwner destOwner)
    (named : accounts[1]? = some context.mint) :
    resolveMeta find context accounts (.pda none [.literal [104, 111, 111, 107, 95, 99, 102, 103], .accountKey 1]) =
      .ok (hookConfigAddress find context.mint) := by
  have program : derivingProgram context accounts none = .ok transferHookProgram := congrArg Except.ok transfer.hookProgram
  refine resolveMeta_pda (.cons rfl (.cons (resolveSeed_key named) .nil)) program ?_
  simp [keyBytes_length]

theorem registryProgram_derives (named : accounts[8]? = some assetRegistryProgram) :
    derivingProgram context accounts (some 8) = .ok assetRegistryProgram := by
  rw [derivingProgram, named]
  rfl

theorem kycEntry_resolves (transfer : TransferContext find context sourceOwner destOwner) {registry : Pubkey}
    (named : accounts[2]? = some context.destination) (listed : accounts[7]? = some registry)
    (program : accounts[8]? = some assetRegistryProgram) :
    resolveMeta find context accounts (.pda (some 8) [.literal [107, 121, 99], .accountKey 7, .accountData 2 32 32]) =
      .ok (kycEntryAddress find registry destOwner) := by
  refine resolveMeta_pda
    (.cons rfl (.cons (resolveSeed_key listed) (.cons (resolveSeed_owner named transfer.destination) .nil)))
    (registryProgram_derives program) ?_
  simp [keyBytes_length]

theorem escrowMarker_resolves {index : Nat} {address owner : Pubkey} (named : accounts[index]? = some address)
    (token : IsTokenAccount context.accountData address owner) (program : accounts[8]? = some assetRegistryProgram) :
    resolveMeta find context accounts
        (.pda (some 8) [.literal [101, 115, 99, 114, 111, 119, 95, 109, 97, 114, 107, 101, 114], .accountData index 32 32]) =
      .ok (escrowMarkerAddress find owner) := by
  refine resolveMeta_pda (.cons rfl (.cons (resolveSeed_owner named token) .nil)) (registryProgram_derives program) ?_
  simp [keyBytes_length]

theorem resolveFrom_cons {entry : ExtraAccountMetaEntry} {rest : List ExtraAccountMetaEntry} {address : Pubkey}
    {resolved : List Pubkey} (first : resolveMeta find context accounts entry.kind = .ok address)
    (later : resolveFrom find context (accounts ++ [address]) rest = .ok resolved) :
    resolveFrom find context accounts (entry :: rest) = .ok (address :: resolved) := by
  simp only [resolveFrom, bind_eq_ok, pure_eq_ok]
  exact ⟨address, first, resolved, later, rfl⟩

theorem resolveFrom_length {entries : List ExtraAccountMetaEntry} {resolved : List Pubkey}
    (done : resolveFrom find context accounts entries = .ok resolved) : resolved.length = entries.length := by
  induction entries generalizing accounts resolved with
  | nil =>
      cases done
      rfl
  | cons entry entries ih =>
      simp only [resolveFrom, bind_eq_ok, pure_eq_ok] at done
      obtain ⟨address, -, rest, later, rfl⟩ := done
      rw [List.length_cons, List.length_cons, ih later]

theorem resolves (transfer : TransferContext find context sourceOwner destOwner) {mode : RestrictionMode}
    {kycRegistry : Option Pubkey} {metas : List ExtraAccountMeta} (built : buildMetas mode kycRegistry = .ok metas) :
    resolveExtraAccountMetas find context (metas.map ExtraAccountMeta.entry) =
      .ok (resolvedTail find context.mint sourceOwner destOwner { restrictionMode := mode, kycRegistry }) := by
  cases mode with
  | «open» =>
      cases built
      exact resolveFrom_cons (blockEntry_resolves transfer rfl) rfl
  | kycGated =>
      simp only [buildMetas, bind_eq_ok, okOr_eq_ok, pure_eq_ok] at built
      obtain ⟨registry, rfl, rfl⟩ := built
      refine resolveFrom_cons (blockEntry_resolves transfer rfl) ?_
      refine resolveFrom_cons (hookConfig_resolves transfer rfl) ?_
      refine @resolveFrom_cons _ _ _ _ _ registry _ rfl ?_
      refine @resolveFrom_cons _ _ _ _ _ assetRegistryProgram _ rfl ?_
      refine resolveFrom_cons (kycEntry_resolves transfer rfl rfl rfl) ?_
      refine resolveFrom_cons (escrowMarker_resolves rfl transfer.destination rfl) ?_
      exact resolveFrom_cons (escrowMarker_resolves rfl transfer.source rfl) rfl

theorem refersBack_of_numbered {entries : List ExtraAccountMetaEntry}
    (earlier : ∀ pair ∈ entries.zipIdx, ∀ index ∈ pair.1.kind.accountIndexes, index < 5 + pair.2) : RefersBack entries := by
  intro n entry found
  exact earlier (entry, n) (List.mk_mem_zipIdx_iff_getElem?.mpr found)

theorem refersBack {mode : RestrictionMode} {kycRegistry : Option Pubkey} {metas : List ExtraAccountMeta}
    (built : buildMetas mode kycRegistry = .ok metas) : RefersBack (metas.map ExtraAccountMeta.entry) := by
  apply refersBack_of_numbered
  cases mode with
  | «open» =>
      cases built
      simp [ExtraAccountMeta.entry, Seed.entry, MetaKind.accountIndexes, MetaSeed.accountIndexes, sourceOwner]
  | kycGated =>
      simp only [buildMetas, bind_eq_ok, okOr_eq_ok, pure_eq_ok] at built
      obtain ⟨registry, rfl, rfl⟩ := built
      simp [ExtraAccountMeta.entry, Seed.entry, MetaKind.accountIndexes, MetaSeed.accountIndexes, sourceOwner,
        destinationOwner]

theorem buildMetas_fits {mode : RestrictionMode} {kycRegistry : Option Pubkey} {metas : List ExtraAccountMeta}
    (built : buildMetas mode kycRegistry = .ok metas) : ListFits (metas.map ExtraAccountMeta.entry) := by
  constructor
  case each =>
    cases mode with
    | «open» =>
        cases built
        intro entry member
        rw [List.mem_singleton.mp member]
        exact ⟨by simp, by simp [Seed.entry, MetaSeed.Fits, sourceOwner], by decide⟩
    | kycGated =>
        simp only [buildMetas, bind_eq_ok, okOr_eq_ok, pure_eq_ok] at built
        obtain ⟨registry, rfl, rfl⟩ := built
        simp [ExtraAccountMeta.entry, MetaKind.Fits, Seed.entry, MetaSeed.Fits, packSeeds, MetaSeed.pack, sourceOwner,
          destinationOwner]
  case length =>
    rw [List.length_map, buildMetas_length built]
    split <;> decide

theorem buildMetas_built {mode : RestrictionMode} {kycRegistry : Option Pubkey}
    (coherent : validateModeRegistry mode kycRegistry = .ok ()) : ∃ metas, buildMetas mode kycRegistry = .ok metas := by
  cases mode with
  | «open» => exact ⟨_, rfl⟩
  | kycGated =>
      cases kycRegistry with
      | none => cases coherent
      | some registry => exact ⟨_, rfl⟩

theorem hookTransferMetasFor_built {mode : RestrictionMode} {kycRegistry : Option Pubkey} {metas : List ExtraAccountMeta}
    (built : buildMetas mode kycRegistry = .ok metas) (mint : Pubkey) :
    hookTransferMetasFor find (some { restrictionMode := mode, kycRegistry }) mint sourceOwner destOwner =
      .ok (List.zipWith (fun address entry => { address, role := ExtraAccountMetaEntry.role entry })
          (resolvedTail find mint sourceOwner destOwner { restrictionMode := mode, kycRegistry })
          (metas.map ExtraAccountMeta.entry) ++
        [ro (extraMetasAddress find mint), ro transferHookProgram]) := by
  cases mode with
  | «open» =>
      cases built
      rfl
  | kycGated =>
      simp only [buildMetas, bind_eq_ok, okOr_eq_ok, pure_eq_ok] at built
      obtain ⟨registry, rfl, rfl⟩ := built
      rfl

end transfer

structure Agrees (find : FindProgramAddress) (config : HookTailConfig) (context : MetaResolutionContext)
    (sourceOwner destOwner : Pubkey) (entries : List ExtraAccountMetaEntry) : Prop where
  decoded : decodeExtraAccountMetaList (packMetaList entries) = .ok entries
  refersBack : RefersBack entries
  resolved : ∃ addresses, resolveExtraAccountMetas find context entries = .ok addresses ∧
    addresses.length = entries.length ∧
    hookTransferMetasFor find (some config) context.mint sourceOwner destOwner =
      .ok (List.zipWith (fun address entry => { address, role := ExtraAccountMetaEntry.role entry }) addresses entries ++
        [ro (extraMetasAddress find context.mint), ro transferHookProgram])

theorem front_builds_hook_accounts (find : FindProgramAddress) :
    (∀ config context sourceOwner destOwner, validateModeRegistry config.restrictionMode config.kycRegistry = .ok () →
      TransferContext find context sourceOwner destOwner →
      ∃ metas, buildMetas config.restrictionMode config.kycRegistry = .ok metas ∧
        Agrees find config context sourceOwner destOwner (metas.map ExtraAccountMeta.entry)) ∧
    ∀ entries, ListFits entries → decodeExtraAccountMetaList (packMetaList entries) = .ok entries := by
  constructor
  · intro config context sourceOwner destOwner coherent transfer
    obtain ⟨metas, built⟩ := buildMetas_built coherent
    have addresses := resolves transfer built
    refine ⟨metas, built, decode_packMetaList (buildMetas_fits built), refersBack built, _, addresses, ?_,
      hookTransferMetasFor_built built context.mint⟩
    exact resolveFrom_length addresses
  · intro entries fits
    exact decode_packMetaList fits

def gatedTransfer (find : FindProgramAddress) : MetaResolutionContext where
  hookProgram := transferHookProgram
  source := 1
  mint := 2
  destination := 3
  authority := 6
  metaList := extraMetasAddress find 2
  accountData
    | 1 => some (keyBytes 2 ++ keyBytes 6 ++ List.replicate 106 0)
    | 3 => some (keyBytes 2 ++ keyBytes 7 ++ List.replicate 106 0)
    | _ => none
  instructionData := none

theorem isTokenAccount_stored {accountData : Pubkey → Option (List UInt8)} {address mint owner : Pubkey} {rest : List UInt8}
    (stored : accountData address = some (keyBytes mint ++ keyBytes owner ++ rest)) : IsTokenAccount accountData address owner := by
  refine ⟨_, stored, ?_, ?_⟩
  · rw [List.length_append, List.length_append, keyBytes_length, keyBytes_length]
    exact Nat.le_add_right _ _
  · rw [List.append_assoc, slice, List.drop_left' (keyBytes_length mint), List.take_left' (keyBytes_length owner)]

theorem front_builds_hook_accounts_example :
    (∃ metas, buildMetas .kycGated (some 9) = .ok metas ∧
      Agrees (fun _ _ => 4) { restrictionMode := .kycGated, kycRegistry := some 9 } (gatedTransfer fun _ _ => 4) 6 7
        (metas.map ExtraAccountMeta.entry)) ∧
    decodeExtraAccountMetaList (packMetaList [{ isSigner := true, isWritable := false, kind := .pda none [.accountKey 255] }]) =
      .ok [{ isSigner := true, isWritable := false, kind := .pda none [.accountKey 255] }] := by
  constructor
  · apply (front_builds_hook_accounts fun _ _ => 4).1 { restrictionMode := .kycGated, kycRegistry := some 9 }
      (gatedTransfer fun _ _ => 4) 6 7 rfl
    exact ⟨rfl, rfl, isTokenAccount_stored rfl, isTokenAccount_stored rfl⟩
  · apply (front_builds_hook_accounts fun _ _ => 4).2
    constructor
    · simp [MetaKind.Fits, MetaSeed.Fits, packSeeds, MetaSeed.pack]
    · decide

end Mancipatio.Hook
