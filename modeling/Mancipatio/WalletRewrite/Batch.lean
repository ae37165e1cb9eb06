import Mancipatio.WalletRewrite.Soundness

/-!
# The signed copies of a batch
-/

namespace Mancipatio.WalletRewrite
open Checked

structure Transaction where
  messageBytes : List UInt8
  signatures : List (Pubkey × Option (List UInt8))
  deriving DecidableEq, Repr

structure SignedCopyRefused where
  change : String
  about : WalletRewriteRefusal
  deriving DecidableEq, Repr

def transactionSizeLimit : Nat := 1232

def walletStateGuards : String :=
  "the wallet added safety checks that hold only while none of the other transactions has landed"

structure Asked where
  original : Transaction
  signedBytes : List UInt8
  bounds : ComputeBudgetBounds
  deriving DecidableEq, Repr

section verify
variable (base58 : Pubkey → String) (decodeMessage : List UInt8 → Option CompiledMessage)
  (decodeTransaction : List UInt8 → Option Transaction) (encodedSize : Transaction → Nat)

def signatureOf (tx : Transaction) (signer : Pubkey) : Option (List UInt8) :=
  ((Rows.lookup Prod.fst signer tx.signatures).map Prod.snd).getD none

def oversized (label : String) (size guards : Nat) : String :=
  s!"{label} came back at {size} bytes, over the network's {transactionSizeLimit}-byte packet limit" ++
    if 0 < guards then s!" with the {guards} Lighthouse instructions the wallet added" else ""

def judgedGuards (original signed : Transaction) (label : String) (bounds : ComputeBudgetBounds) : Except SignedCopyRefused Nat :=
  match judgeWalletRewrite base58 decodeMessage original.messageBytes signed.messageBytes bounds with
  | .identical => .ok 0
  | .accepted _ _ _ guards => .ok guards
  | .refused change about => .error { change := s!"{change} ({label})", about }

def checkSigned (original signed : Transaction) (label : String) (bounds : ComputeBudgetBounds) :
    Except SignedCopyRefused (Transaction × Nat) := do
  let guards ← judgedGuards base58 decodeMessage original signed label bounds
  require (encodedSize signed ≤ transactionSizeLimit)
    { change := oversized label (encodedSize signed) guards, about := if 0 < guards then .guards else .transaction }
  require (∀ entry ∈ original.signatures, (signatureOf signed entry.1).any (·.length = 64) = true)
    { change := s!"the wallet returned {label} without its signature", about := .transaction }
  return (signed, guards)

def checkCopy (asked : Asked × Nat) : Except String (Transaction × Nat) := do
  let label := s!"transaction {asked.2 + 1}"
  let signed ← okOr (decodeTransaction asked.1.signedBytes) s!"{label} came back unreadable"
  (checkSigned base58 decodeMessage encodedSize asked.1.original signed label asked.1.bounds).mapError SignedCopyRefused.change

def verifySignedBatch (asked : List Asked) : Except String (List Transaction) := do
  let copies ← asked.zipIdx.mapM (checkCopy base58 decodeMessage decodeTransaction encodedSize)
  require (¬(1 < copies.length ∧ copies.any (0 < ·.2) = true)) walletStateGuards
  return copies.map Prod.fst

end verify

/-! ## What a verified batch holds -/

structure Sent (decodeMessage : List UInt8 → Option CompiledMessage) (decodeTransaction : List UInt8 → Option Transaction)
    (encodedSize : Transaction → Nat) (guards : Nat) (asked : Asked) (copy : Transaction) : Prop where
  decoded : decodeTransaction asked.signedBytes = some copy
  size : encodedSize copy ≤ transactionSizeLimit
  signatures : ∀ entry ∈ asked.original.signatures, ∃ signature, signatureOf copy entry.1 = some signature ∧ signature.length = 64
  message : (copy.messageBytes = asked.original.messageBytes ∧ guards = 0) ∨
    Rewritten decodeMessage asked.bounds guards asked.original.messageBytes copy.messageBytes

section verify
variable {base58 : Pubkey → String} {decodeMessage : List UInt8 → Option CompiledMessage}
  {decodeTransaction : List UInt8 → Option Transaction} {encodedSize : Transaction → Nat}

theorem checkCopy_ok {asked : Asked × Nat} {copy : Transaction × Nat}
    (checked : checkCopy base58 decodeMessage decodeTransaction encodedSize asked = .ok copy) :
    Sent decodeMessage decodeTransaction encodedSize copy.2 asked.1 copy.1 := by
  obtain ⟨copy, guards⟩ := copy
  simp only [checkCopy, bind_eq_ok, okOr_eq_ok] at checked
  obtain ⟨signed, decoded, checked⟩ := checked
  cases result : checkSigned base58 decodeMessage encodedSize asked.1.original signed s!"transaction {asked.2 + 1}" asked.1.bounds with
  | error refused =>
      rw [result] at checked
      cases checked
  | ok pair =>
      rw [result] at checked
      obtain rfl := Except.ok.inj checked
      simp only [checkSigned, bind_eq_ok, require_eq_ok, pure_eq_ok, Prod.mk.injEq, exists_const] at result
      obtain ⟨count, judged, size, signatures, rfl, rfl⟩ := result
      constructor
      case decoded => exact decoded
      case size => exact size
      case signatures =>
        intro entry member
        obtain ⟨signature, found, length⟩ := (Option.any_eq_true _ _).mp (signatures entry member)
        exact ⟨signature, found, of_decide_eq_true length⟩
      case message =>
        unfold judgedGuards at judged
        split at judged
        · next identical =>
            obtain rfl := Except.ok.inj judged
            left
            unfold judgeWalletRewrite at identical
            split at identical
            case isTrue same => exact ⟨same.symm, rfl⟩
            case isFalse =>
              split at identical
              · unfold judge at identical
                split at identical
                · cases identical
                · split at identical
                  · cases identical
                  · split at identical
                    · split at identical
                      · cases identical
                      · cases identical
                    · cases identical
              · cases identical
        · next accepted =>
            obtain rfl := Except.ok.inj judged
            exact .inr (rewritten_of_accepted accepted)
        · cases judged

/-- Every copy of a verified batch is signed, fits the packet and is what was built or an accepted rewrite of it, and no
copy of several carries a guard. -/
theorem verified_batch_sent {asked : List Asked} {copies : List Transaction}
    (verified : verifySignedBatch base58 decodeMessage decodeTransaction encodedSize asked = .ok copies) :
    List.Forall₂ (fun request copy => ∃ guards, Sent decodeMessage decodeTransaction encodedSize guards request copy ∧
      (1 < asked.length → guards = 0)) asked copies := by
  simp only [verifySignedBatch, bind_eq_ok, mapM_eq_ok, require_eq_ok, pure_eq_ok, exists_const] at verified
  obtain ⟨checked, each, unguarded, rfl⟩ := verified
  rw [List.forall₂_iff_get] at each ⊢
  obtain ⟨same, each⟩ := each
  rw [List.length_zipIdx] at same
  refine ⟨by rw [List.length_map, same], ?_⟩
  intro i inside inside'
  rw [List.length_map] at inside'
  have sent := checkCopy_ok (each i (by rwa [List.length_zipIdx]) inside')
  simp only [List.get_eq_getElem, List.getElem_zipIdx, List.getElem_map] at sent ⊢
  refine ⟨_, sent, ?_⟩
  intro several
  by_contra guarded
  apply unguarded
  constructor
  · rwa [← same]
  · rw [List.any_eq_true]
    exact ⟨checked[i], List.getElem_mem _, decide_eq_true (Nat.pos_of_ne_zero guarded)⟩

end verify

/-! ## A batch of one with a guard -/

def shortLength (n : Nat) : List UInt8 :=
  [UInt8.ofNat n]

/-- The bytes of a message with fewer than 128 entries in each list. -/
def CompiledMessage.wire (m : CompiledMessage) : List UInt8 :=
  let lists (bytes : List Nat) := shortLength bytes.length ++ bytes.map UInt8.ofNat
  (match m.version with
    | .legacy => []
    | .numbered n => [UInt8.ofNat (128 + n)]) ++
  [m.header.numSignerAccounts, m.header.numReadonlySignerAccounts, m.header.numReadonlyNonSignerAccounts].map UInt8.ofNat ++
  shortLength m.staticAccounts.length ++ m.staticAccounts.flatMap (fun key => Bytes.bigEndian 32 key.toNat) ++
  Bytes.bigEndian 32 m.lifetimeToken.toNat ++
  shortLength m.instructions.length ++ m.instructions.flatMap (fun ix =>
    UInt8.ofNat ix.programAddressIndex :: lists (ix.accountIndices.getD []) ++ shortLength (ix.data.getD []).length ++ ix.data.getD []) ++
  match m.version with
    | .legacy => []
    | .numbered _ => shortLength m.lookups.length ++ m.lookups.flatMap fun table =>
        Bytes.bigEndian 32 table.lookupTableAddress.toNat ++ lists table.writableIndexes ++ lists table.readonlyIndexes

def Transaction.wire (tx : Transaction) : List UInt8 :=
  shortLength tx.signatures.length ++ tx.signatures.flatMap (fun entry => entry.2.getD (List.replicate 64 0)) ++ tx.messageBytes

def transferMessage : CompiledMessage where
  version := .numbered 0
  header := { numSignerAccounts := 1, numReadonlySignerAccounts := 0, numReadonlyNonSignerAccounts := 2 }
  staticAccounts := [7, 8, 9, computeBudgetProgramAddress]
  lifetimeToken := 5
  instructions := [
    { programAddressIndex := 3, accountIndices := none, data := some [2, 64, 13, 3, 0] },
    { programAddressIndex := 2, accountIndices := some [1, 0], data := some [3, 1] }]
  addressTableLookups := some []

def guardedMessage : CompiledMessage where
  version := .numbered 0
  header := { numSignerAccounts := 1, numReadonlySignerAccounts := 0, numReadonlyNonSignerAccounts := 3 }
  staticAccounts := [7, 8, 9, computeBudgetProgramAddress, lighthouseProgramAddress]
  lifetimeToken := 5
  instructions := [
    { programAddressIndex := 4, accountIndices := some [0], data := some [6, 4] },
    { programAddressIndex := 3, accountIndices := none, data := some [2, 64, 13, 3, 0] },
    { programAddressIndex := 2, accountIndices := some [1, 0], data := some [3, 1] }]
  addressTableLookups := some []

/-- The transfer with its second account listed once more, as a signer. -/
def relistedMessage : CompiledMessage :=
  { transferMessage with
    header := { numSignerAccounts := 2, numReadonlySignerAccounts := 1, numReadonlyNonSignerAccounts := 2 }
    staticAccounts := [7, 8, 8, 9, computeBudgetProgramAddress]
    instructions := [
      { programAddressIndex := 4, accountIndices := none, data := some [2, 64, 13, 3, 0] },
      { programAddressIndex := 3, accountIndices := some [2, 0], data := some [3, 1] }] }

def decodeExample (bytes : List UInt8) : Option CompiledMessage :=
  [transferMessage, guardedMessage, relistedMessage].find? fun m => m.wire = bytes

def signedExample : Transaction where
  messageBytes := guardedMessage.wire
  signatures := [(7, some (List.replicate 64 1))]

def askedExample : Asked where
  original := { messageBytes := transferMessage.wire, signatures := [(7, none)] }
  signedBytes := signedExample.wire
  bounds := { maxComputeUnitPrice := 2000000, minComputeUnitLimit := some 150000 }

theorem verified_batch_sent_example :
    List.Forall₂ (fun request copy => ∃ guards,
      Sent decodeExample (fun bytes => if bytes = signedExample.wire then some signedExample else none) (fun tx => tx.wire.length)
        guards request copy ∧ (1 < [askedExample].length → guards = 0)) [askedExample] [signedExample] := by
  apply @verified_batch_sent (fun _ => "")
  decide +kernel

-- a signer that only a hidden listing adds is not seen
example : (match judgeWalletRewrite (fun _ => "") decodeExample transferMessage.wire relistedMessage.wire askedExample.bounds with
    | .accepted _ _ _ _ => true
    | _ => false) = true := by
  decide +kernel

end Mancipatio.WalletRewrite
