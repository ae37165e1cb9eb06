import Mancipatio.Snapshot
import Mancipatio.Library.Borsh

/-!
# Accounts on the chain

An instruction names the accounts it wants by address and the runtime loads the one account that lives
there: its owning program and its bytes. Programs derive addresses from seeds; the derivation is a
parameter.
-/

namespace Mancipatio
open Borsh

structure Account where
  owner : Pubkey
  data : List UInt8
  deriving DecidableEq, Repr

abbrev Chain := Pubkey → Account

def systemProgram : Pubkey := 0
def assetRegistryProgram : Pubkey := 0xd49707c791a40161fb31e52b55f00b027addcd59c277c4c1fea7602de3a05acb
def transferHookProgram : Pubkey := 0xe17dc8ed8ff0cf78b816bddcfc53f8054b9c2971b15b00a3795b86a0511530e8
def token2022Program : Pubkey := 0x6ddf6e1ee758fde18425dbce46ccddab61afc4d83b90d27febdf928d8a18bfc

def unset : Account := { owner := systemProgram, data := [] }

def Account.ownedBy (account : Account) (program : Pubkey) : Prop :=
  account.owner = program ∧ account.data ≠ []
  deriving Decidable

/-! ## Derived addresses -/

abbrev FindProgramAddress := List (List UInt8) → Pubkey → Pubkey

section addresses
variable (findProgramAddress : FindProgramAddress)

-- `["hook_cfg", mint]`
def hookConfigAddress (mint : Pubkey) : Pubkey :=
  findProgramAddress [[104, 111, 111, 107, 95, 99, 102, 103], keyBytes mint] transferHookProgram

-- `["extra-account-metas", mint]`
def extraMetasAddress (mint : Pubkey) : Pubkey :=
  findProgramAddress [[101, 120, 116, 114, 97, 45, 97, 99, 99, 111, 117, 110, 116, 45, 109, 101, 116, 97, 115], keyBytes mint]
    transferHookProgram

-- `["blocked", wallet]`
def blockEntryAddress (wallet : Pubkey) : Pubkey :=
  findProgramAddress [[98, 108, 111, 99, 107, 101, 100], keyBytes wallet] transferHookProgram

-- `["kyc", registry, holder]`
def kycEntryAddress (registry holder : Pubkey) : Pubkey :=
  findProgramAddress [[107, 121, 99], keyBytes registry, keyBytes holder] assetRegistryProgram

-- `["escrow_marker", owner]`
def escrowMarkerAddress (owner : Pubkey) : Pubkey :=
  findProgramAddress [[101, 115, 99, 114, 111, 119, 95, 109, 97, 114, 107, 101, 114], keyBytes owner] assetRegistryProgram

-- `["escrow", parent]`
def escrowAddress (parent : Pubkey) : Pubkey :=
  findProgramAddress [[101, 115, 99, 114, 111, 119], keyBytes parent] assetRegistryProgram

end addresses

/-! ## Records in accounts -/

def keyCodec : Codec Pubkey := .bigWord 32 256 (by norm_num)
def u8 : Codec (BitVec 8) := .word 1 8 (by norm_num)
def u16 : Codec (BitVec 16) := .word 2 16 (by norm_num)
def u64 : Codec (BitVec 64) := .word 8 64 (by norm_num)

structure AccountType (α : Type) where
  discriminator : List UInt8
  codec : Codec α
  tagged : discriminator.length = 8

namespace AccountType

variable {α : Type} (type : AccountType α)

def trySerialize (a : α) : List UInt8 :=
  type.discriminator ++ type.codec.write a

def tryDeserialize (data : List UInt8) : Option α :=
  if data.take 8 = type.discriminator then
    (type.codec.read (data.drop 8)).map Prod.fst
  else
    none

variable {type} {data : List UInt8} {a b : α}

theorem tryDeserialize_eq_some :
    type.tryDeserialize data = some a ↔ ∃ rest, data = type.discriminator ++ (type.codec.write a ++ rest) := by
  constructor
  · intro read
    unfold tryDeserialize at read
    split at read
    · next tagged =>
        obtain ⟨⟨a', rest⟩, found, rfl⟩ := Option.map_eq_some_iff.mp read
        refine ⟨rest, ?_⟩
        rw [← type.codec.write_read _ _ _ found, ← tagged, List.take_append_drop]
    · cases read
  · rintro ⟨rest, rfl⟩
    rw [tryDeserialize, if_pos (List.take_left' type.tagged), List.drop_left' type.tagged, type.codec.read_write]
    rfl

theorem tryDeserialize_trySerialize (a : α) (rest : List UInt8) :
    type.tryDeserialize (type.trySerialize a ++ rest) = some a := by
  apply tryDeserialize_eq_some.mpr
  exact ⟨rest, List.append_assoc _ _ _⟩

theorem ne_nil_of_tryDeserialize (read : type.tryDeserialize data = some a) : data ≠ [] := by
  rintro rfl
  obtain ⟨rest, bytes⟩ := tryDeserialize_eq_some.mp read
  have tagged := type.tagged
  rw [(List.append_eq_nil_iff.mp bytes.symm).1] at tagged
  cases tagged

end AccountType

def keyAt (data : List UInt8) (offset : Nat) : Pubkey :=
  BitVec.ofNat 256 (Bytes.ofLittleEndian (slice data offset 32).reverse)

@[simp] theorem keyCodec_length (key : Pubkey) : (keyCodec.write key).length = 32 :=
  Codec.bigWord_length key

@[simp] theorem u8_length (x : BitVec 8) : (u8.write x).length = 1 :=
  Codec.word_length x

@[simp] theorem u16_length (x : BitVec 16) : (u16.write x).length = 2 :=
  Codec.word_length x

@[simp] theorem u64_length (x : BitVec 64) : (u64.write x).length = 8 :=
  Codec.word_length x

theorem keyAt_first {key : Pubkey} {rest : List UInt8} : keyAt (keyCodec.write key ++ rest) 0 = key := by
  rw [keyAt, slice_first (keyCodec_length key)]
  exact ofLittleEndian_bigWord (by norm_num) key

theorem keyAt_skip {before rest : List UInt8} {n : Nat} (exact : before.length = n) (offset : Nat) :
    keyAt (before ++ rest) (n + offset) = keyAt rest offset := by
  rw [keyAt, slice_skip exact, keyAt]

end Mancipatio
