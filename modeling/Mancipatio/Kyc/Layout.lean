import Mancipatio.Kyc
import Mancipatio.Accounts

/-!
# KYC accounts as bytes

The records that the registry program stores, and where their fields lie.
-/

namespace Mancipatio
open Borsh

def jurisdictionBitmapBytes : Nat := 128

structure KycRegistryAccount where
  authority : Pubkey
  approvedJurisdictions : Vector UInt8 jurisdictionBitmapBytes
  blockedJurisdictions : Vector UInt8 jurisdictionBitmapBytes
  entriesCount : BitVec 64
  version : BitVec 8
  bump : BitVec 8

structure KycEntryAccount where
  registry : Pubkey
  holder : Pubkey
  status : KycStatus
  jurisdiction : BitVec 16
  accreditationLevel : BitVec 8
  expiry : BitVec 64
  providerId : BitVec 16
  externalRefHash : Hash
  version : BitVec 8
  bump : BitVec 8

/-! ## Layouts -/

def KycStatus.toByte : KycStatus → UInt8
  | .pending => 0
  | .approved => 1
  | .revoked => 2
  | .expired => 3

def KycStatus.ofByte (b : UInt8) : Option KycStatus :=
  if b = 0 then some .pending
  else if b = 1 then some .approved
  else if b = 2 then some .revoked
  else if b = 3 then some .expired
  else none

def kycStatusCodec : Codec KycStatus :=
  .tag KycStatus.toByte KycStatus.ofByte (by intro status; cases status <;> rfl) (by
    intro b status decoded
    unfold KycStatus.ofByte at decoded
    split_ifs at decoded
    all_goals
      cases decoded
      subst b
      rfl)

def KycRegistryAccount.type : AccountType KycRegistryAccount where
  discriminator := [204, 241, 19, 79, 46, 77, 56, 20]
  codec := (Codec.pair keyCodec (.pair (.array jurisdictionBitmapBytes) (.pair (.array jurisdictionBitmapBytes) (.pair u64 (.pair u8 u8))))).iso
    (fun (authority, approvedJurisdictions, blockedJurisdictions, entriesCount, version, bump) =>
      { authority, approvedJurisdictions, blockedJurisdictions, entriesCount, version, bump })
    (fun r => (r.authority, r.approvedJurisdictions, r.blockedJurisdictions, r.entriesCount, r.version, r.bump))
    (fun _ => rfl) (fun _ => rfl)
  tagged := rfl

def KycEntryAccount.type : AccountType KycEntryAccount where
  discriminator := [43, 113, 165, 70, 7, 3, 232, 8]
  codec := (Codec.pair keyCodec (.pair keyCodec (.pair kycStatusCodec (.pair u16 (.pair u8 (.pair u64 (.pair u16
      (.pair keyCodec (.pair u8 u8))))))))).iso
    (fun (registry, holder, status, jurisdiction, accreditationLevel, expiry, providerId, externalRefHash, version, bump) =>
      { registry, holder, status, jurisdiction, accreditationLevel, expiry, providerId, externalRefHash, version, bump })
    (fun e => (e.registry, e.holder, e.status, e.jurisdiction, e.accreditationLevel, e.expiry, e.providerId,
      e.externalRefHash, e.version, e.bump))
    (fun _ => rfl) (fun _ => rfl)
  tagged := rfl

/-! ## What the checks read -/

def KycEntryAccount.entry (e : KycEntryAccount) : KycEntry :=
  { registry := e.registry, holder := e.holder, status := e.status, jurisdiction := e.jurisdiction.toNat,
    expiry := e.expiry.toInt }

def jurisdictionBit (bitmap : List UInt8) (jurisdiction : Nat) : Bool :=
  bitmap.getD (jurisdiction / 8) 0 &&& (1 <<< UInt8.ofNat (jurisdiction % 8)) ≠ 0

def bitmap (bytes : Vector UInt8 jurisdictionBitmapBytes) : JurisdictionBitmap :=
  BitVec.ofFnLE fun j => jurisdictionBit bytes.toList j

def KycRegistryAccount.registry (r : KycRegistryAccount) : KycRegistry :=
  { authority := r.authority, approvedJurisdictions := bitmap r.approvedJurisdictions,
    blockedJurisdictions := bitmap r.blockedJurisdictions }

theorem bitmap_getLsbD (bytes : Vector UInt8 jurisdictionBitmapBytes) (jurisdiction : Nat) :
    (bitmap bytes).getLsbD jurisdiction = true ↔
      jurisdiction / 8 < jurisdictionBitmapBytes ∧ jurisdictionBit bytes.toList jurisdiction = true := by
  rw [bitmap, BitVec.getLsbD_ofFnLE]
  have width : jurisdiction / 8 < jurisdictionBitmapBytes ↔ jurisdiction < 1024 := by
    unfold jurisdictionBitmapBytes
    omega
  rw [width]
  by_cases within : jurisdiction < 1024 <;> simp [within]

/-! ## Fields at their offsets -/

section fields
variable {data : List UInt8}

theorem entry_fields {e : KycEntryAccount} (read : KycEntryAccount.type.tryDeserialize data = some e) :
    120 ≤ data.length ∧ data.getD 72 0 = e.status.toByte ∧
      slice data 73 2 = Bytes.littleEndian 2 e.jurisdiction.toNat ∧
      slice data 76 8 = Bytes.littleEndian 8 e.expiry.toNat := by
  obtain ⟨rest, bytes⟩ := AccountType.tryDeserialize_eq_some.mp read
  have layout : data = KycEntryAccount.type.discriminator ++ (keyCodec.write e.registry ++ (keyCodec.write e.holder ++
      ([e.status.toByte] ++ (u16.write e.jurisdiction ++ (u8.write e.accreditationLevel ++ (u64.write e.expiry ++
      (u16.write e.providerId ++ (keyCodec.write e.externalRefHash ++ (u8.write e.version ++
      (u8.write e.bump ++ rest)))))))))) := by
    rw [bytes]
    simp only [KycEntryAccount.type, Codec.iso, Codec.pair, kycStatusCodec, Codec.tag, List.append_assoc]
  have tag : KycEntryAccount.type.discriminator.length = 8 := rfl
  subst layout
  refine ⟨?_, ?_, ?_, ?_⟩
  · simp only [List.length_append, keyCodec_length, u8_length, u16_length, u64_length, List.length_singleton, tag]
    omega
  · rw [getD_skip (n := 8) tag 64, getD_skip (n := 32) (keyCodec_length _) 32, getD_skip (n := 32) (keyCodec_length _) 0]
    rfl
  · rw [slice_skip (n := 8) tag 65, slice_skip (n := 32) (keyCodec_length _) 33, slice_skip (n := 32) (keyCodec_length _) 1,
      slice_skip (n := 1) rfl 0, slice_first (u16_length _)]
    rfl
  · rw [slice_skip (n := 8) tag 68, slice_skip (n := 32) (keyCodec_length _) 36, slice_skip (n := 32) (keyCodec_length _) 4,
      slice_skip (n := 1) rfl 3, slice_skip (n := 2) (u16_length _) 1, slice_skip (n := 1) (u8_length _) 0,
      slice_first (u64_length _)]
    rfl

theorem registry_fields {r : KycRegistryAccount} (read : KycRegistryAccount.type.tryDeserialize data = some r) :
    296 ≤ data.length ∧ slice data 40 128 = r.approvedJurisdictions.toList ∧
      slice data 168 128 = r.blockedJurisdictions.toList := by
  obtain ⟨rest, bytes⟩ := AccountType.tryDeserialize_eq_some.mp read
  have layout : data = KycRegistryAccount.type.discriminator ++ (keyCodec.write r.authority ++
      (r.approvedJurisdictions.toList ++ (r.blockedJurisdictions.toList ++ (u64.write r.entriesCount ++
      (u8.write r.version ++ (u8.write r.bump ++ rest)))))) := by
    rw [bytes]
    simp only [KycRegistryAccount.type, Codec.iso, Codec.pair, Codec.array, Codec.fixed, List.append_assoc]
  have tag : KycRegistryAccount.type.discriminator.length = 8 := rfl
  have approved : r.approvedJurisdictions.toList.length = 128 := Vector.length_toList
  have blocked : r.blockedJurisdictions.toList.length = 128 := Vector.length_toList
  subst layout
  refine ⟨?_, ?_, ?_⟩
  · simp only [List.length_append, keyCodec_length, u8_length, u64_length, tag, approved, blocked]
    omega
  · rw [slice_skip (n := 8) tag 32, slice_skip (n := 32) (keyCodec_length _) 0, slice_first approved]
  · rw [slice_skip (n := 8) tag 160, slice_skip (n := 32) (keyCodec_length _) 128, slice_skip (n := 128) approved 0,
      slice_first blocked]

end fields

end Mancipatio
