import Mancipatio.Hook.BlocklistAuthority
import Mancipatio.Kyc.Layout

/-!
# The configuration of a mint's transfer hook

The mode decides whether a receiver must show a KYC entry; it also fixes the list of extra accounts that
the token program passes to the hook.
-/

namespace Mancipatio.Hook
open Checked Borsh

inductive RestrictionMode where
  | open
  | kycGated
  deriving DecidableEq, Repr

structure TransferHookConfig where
  mint : Pubkey
  shareClass : Pubkey
  blocklist : Pubkey
  restrictionMode : RestrictionMode
  kycRegistry : Option Pubkey
  version : BitVec 8
  bump : BitVec 8
  deriving DecidableEq, Repr

/-! ## Layout -/

def RestrictionMode.toByte : RestrictionMode → UInt8
  | .open => 0
  | .kycGated => 1

def RestrictionMode.ofByte (b : UInt8) : Option RestrictionMode :=
  if b = 0 then some .open
  else if b = 1 then some .kycGated
  else none

def restrictionModeCodec : Codec RestrictionMode :=
  .tag RestrictionMode.toByte RestrictionMode.ofByte (by intro mode; cases mode <;> rfl) (by
    intro b mode decoded
    unfold RestrictionMode.ofByte at decoded
    split_ifs at decoded
    all_goals
      cases decoded
      subst b
      rfl)

def TransferHookConfig.type : AccountType TransferHookConfig where
  discriminator := [168, 122, 191, 221, 204, 201, 149, 88]
  codec := (Codec.pair keyCodec (.pair keyCodec (.pair keyCodec (.pair restrictionModeCodec (.pair (.option keyCodec)
      (.pair u8 u8)))))).iso
    (fun (mint, shareClass, blocklist, restrictionMode, kycRegistry, version, bump) =>
      { mint, shareClass, blocklist, restrictionMode, kycRegistry, version, bump })
    (fun c => (c.mint, c.shareClass, c.blocklist, c.restrictionMode, c.kycRegistry, c.version, c.bump))
    (fun _ => rfl) (fun _ => rfl)
  tagged := rfl

theorem config_bytes {data : List UInt8} {config : TransferHookConfig}
    (read : TransferHookConfig.type.tryDeserialize data = some config) :
    ∃ rest, data = TransferHookConfig.type.discriminator ++ (keyCodec.write config.mint ++
      (keyCodec.write config.shareClass ++ (keyCodec.write config.blocklist ++ ([config.restrictionMode.toByte] ++
      ((Codec.option keyCodec).write config.kycRegistry ++ (u8.write config.version ++
      (u8.write config.bump ++ rest))))))) := by
  obtain ⟨rest, bytes⟩ := AccountType.tryDeserialize_eq_some.mp read
  refine ⟨rest, ?_⟩
  rw [bytes]
  simp only [TransferHookConfig.type, Codec.iso, Codec.pair, restrictionModeCodec, Codec.tag, List.append_assoc]

theorem config_fields {data : List UInt8} {config : TransferHookConfig}
    (read : TransferHookConfig.type.tryDeserialize data = some config) :
    data.getD 104 0 = config.restrictionMode.toByte ∧
      ∀ registry, config.kycRegistry = some registry → 138 ≤ data.length ∧ data.getD 105 0 = 1 ∧ keyAt data 106 = registry := by
  obtain ⟨rest, rfl⟩ := config_bytes read
  have tag : TransferHookConfig.type.discriminator.length = 8 := rfl
  refine ⟨?_, fun registry named => ?_⟩
  · rw [getD_skip (n := 8) tag 96, getD_skip (n := 32) (keyCodec_length _) 64, getD_skip (n := 32) (keyCodec_length _) 32,
      getD_skip (n := 32) (keyCodec_length _) 0]
    rfl
  · rw [named]
    have some' : (Codec.option keyCodec).write (some registry) = [1] ++ keyCodec.write registry := rfl
    rw [some', List.append_assoc]
    refine ⟨?_, ?_, ?_⟩
    · simp only [List.length_append, keyCodec_length, u8_length, List.length_singleton, tag]
      omega
    · rw [getD_skip (n := 8) tag 97, getD_skip (n := 32) (keyCodec_length _) 65, getD_skip (n := 32) (keyCodec_length _) 33,
        getD_skip (n := 32) (keyCodec_length _) 1, getD_skip (n := 1) rfl 0]
      rfl
    · rw [keyAt_skip (n := 8) tag 98, keyAt_skip (n := 32) (keyCodec_length _) 66, keyAt_skip (n := 32) (keyCodec_length _) 34,
        keyAt_skip (n := 32) (keyCodec_length _) 2, keyAt_skip (n := 1) rfl 1, keyAt_skip (n := 1) rfl 0, keyAt_first]

theorem config_keys {data : List UInt8} {config : TransferHookConfig}
    (read : TransferHookConfig.type.tryDeserialize data = some config) :
    keyAt data 8 = config.mint ∧ keyAt data 40 = config.shareClass := by
  obtain ⟨rest, rfl⟩ := config_bytes read
  have tag : TransferHookConfig.type.discriminator.length = 8 := rfl
  constructor
  · rw [keyAt_skip (n := 8) tag 0, keyAt_first]
  · rw [keyAt_skip (n := 8) tag 32, keyAt_skip (n := 32) (keyCodec_length _) 0, keyAt_first]

/-! ## The list of extra accounts -/

inductive Seed where
  | literal (bytes : List UInt8)
  | accountKey (index : Nat)
  | accountData (accountIndex dataIndex length : Nat)
  deriving DecidableEq, Repr

/-- An extra account of the hook: derived by the hook program, fixed, or derived by the program at an
index. None signs or is written. -/
inductive ExtraAccountMeta where
  | seeds (seeds : List Seed)
  | pubkey (key : Pubkey)
  | externalPda (program : Nat) (seeds : List Seed)
  deriving DecidableEq, Repr

def sourceOwner : Seed := .accountData 0 32 32
def destinationOwner : Seed := .accountData 2 32 32

def buildMetas (mode : RestrictionMode) (kycRegistry : Option Pubkey) : Except HookError (List ExtraAccountMeta) :=
  let blockEntry := .seeds [.literal [98, 108, 111, 99, 107, 101, 100], sourceOwner]
  match mode with
  | .open => .ok [blockEntry]
  | .kycGated => do
      let registry ← okOr kycRegistry .kycRegistryRequired
      let marker := [101, 115, 99, 114, 111, 119, 95, 109, 97, 114, 107, 101, 114]
      return [blockEntry, .seeds [.literal [104, 111, 111, 107, 95, 99, 102, 103], .accountKey 1], .pubkey registry,
        .pubkey assetRegistryProgram, .externalPda 8 [.literal [107, 121, 99], .accountKey 7, destinationOwner],
        .externalPda 8 [.literal marker, destinationOwner], .externalPda 8 [.literal marker, sourceOwner]]

def validateModeRegistry (mode : RestrictionMode) (kycRegistry : Option Pubkey) : Except HookError Unit :=
  match mode, kycRegistry with
  | .kycGated, none => .error .kycRegistryRequired
  | .open, some _ => .error .kycRegistryNotAllowed
  | _, _ => .ok ()

def isKycRegistryAccount (account : Account) : Prop :=
  account.owner = assetRegistryProgram ∧ 306 ≤ account.data.length ∧
    account.data.take 8 = KycRegistryAccount.type.discriminator
  deriving Decidable

theorem buildMetas_length {mode : RestrictionMode} {kycRegistry : Option Pubkey} {metas : List ExtraAccountMeta}
    (built : buildMetas mode kycRegistry = .ok metas) : metas.length = if mode = .open then 1 else 7 := by
  cases mode with
  | «open» =>
      cases built
      rfl
  | kycGated =>
      simp only [buildMetas, bind_eq_ok, okOr_eq_ok, pure_eq_ok] at built
      obtain ⟨registry, -, rfl⟩ := built
      rfl

end Mancipatio.Hook
