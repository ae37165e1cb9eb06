import Mancipatio.Hook.Config

/-!
# The extra accounts as the front sees them

The front derives the accounts that the hook wants from the two owners, and reads and resolves the list of a mint to
show that both agree. A list is one entry of the library that the program writes it with: a header, then 35 bytes for
each account.
-/

namespace Mancipatio.Hook
open Bytes Borsh Checked

-- sha256("spl-transfer-hook-interface:execute")[0..8]
def executeDiscriminator : List UInt8 := [0x69, 0x25, 0x65, 0xc5, 0x4b, 0xfb, 0x66, 0x1a]
def extraAccountMetaSize : Nat := 35
def extraAccountMetaListHeader : Nat := 16

inductive MetaSeed where
  | literal (bytes : List UInt8)
  | instructionData (index length : Nat)
  | accountKey (index : Nat)
  | accountData (accountIndex dataIndex length : Nat)
  deriving DecidableEq, Repr

inductive MetaKind where
  | fixed (address : Pubkey)
  | pda (programIndex : Option Nat) (seeds : List MetaSeed)
  deriving DecidableEq, Repr

structure ExtraAccountMetaEntry where
  isSigner : Bool
  isWritable : Bool
  kind : MetaKind
  deriving DecidableEq, Repr

/-! ## Packing -/

def MetaSeed.pack : MetaSeed → List UInt8
  | .literal bytes => 1 :: UInt8.ofNat bytes.length :: bytes
  | .instructionData index length => [2, UInt8.ofNat index, UInt8.ofNat length]
  | .accountKey index => [3, UInt8.ofNat index]
  | .accountData accountIndex dataIndex length => [4, UInt8.ofNat accountIndex, UInt8.ofNat dataIndex, UInt8.ofNat length]

def packSeeds (seeds : List MetaSeed) : List UInt8 :=
  seeds.flatMap MetaSeed.pack

def MetaKind.addressConfig : MetaKind → List UInt8
  | .fixed address => keyBytes address
  | .pda _ seeds => packSeeds seeds ++ List.replicate (32 - (packSeeds seeds).length) 0

def MetaKind.discriminator : MetaKind → Nat
  | .fixed _ => 0
  | .pda none _ => 1
  | .pda (some programIndex) _ => 128 + programIndex

def flagByte (flag : Bool) : UInt8 :=
  if flag then 1 else 0

def ExtraAccountMetaEntry.pack (entry : ExtraAccountMetaEntry) : List UInt8 :=
  UInt8.ofNat entry.kind.discriminator :: (entry.kind.addressConfig ++ [flagByte entry.isSigner, flagByte entry.isWritable])

def packMetaList (entries : List ExtraAccountMetaEntry) : List UInt8 :=
  executeDiscriminator ++ (littleEndian 4 (4 + entries.length * extraAccountMetaSize) ++
    (littleEndian 4 entries.length ++ entries.flatMap ExtraAccountMetaEntry.pack))

def Seed.entry : Seed → MetaSeed
  | .literal bytes => .literal bytes
  | .accountKey index => .accountKey index
  | .accountData accountIndex dataIndex length => .accountData accountIndex dataIndex length

def ExtraAccountMeta.entry : ExtraAccountMeta → ExtraAccountMetaEntry
  | .seeds parts => { isSigner := false, isWritable := false, kind := .pda none (parts.map Seed.entry) }
  | .pubkey key => { isSigner := false, isWritable := false, kind := .fixed key }
  | .externalPda program parts =>
      { isSigner := false, isWritable := false, kind := .pda (some program) (parts.map Seed.entry) }

/-! ## Reading a list -/

def seedPastEnd : String := "ExtraAccountMeta seed runs past its 32 bytes"

def readSeed : UInt8 → List UInt8 → Except String (MetaSeed × List UInt8)
  | 1, length :: rest => do
      require (length.toNat ≤ rest.length) seedPastEnd
      return (.literal (rest.take length.toNat), rest.drop length.toNat)
  | 2, index :: length :: rest => return (.instructionData index.toNat length.toNat, rest)
  | 3, index :: rest => return (.accountKey index.toNat, rest)
  | 4, account :: index :: length :: rest => return (.accountData account.toNat index.toNat length.toNat, rest)
  | kind, _ => .error (if kind ∈ [1, 2, 3, 4] then seedPastEnd else s!"Unknown ExtraAccountMeta seed type {kind}")

/-- Every seed takes a byte, so as many rounds as there are bytes are enough. -/
def seedsWithin : Nat → List UInt8 → Except String (List MetaSeed)
  | 0, _ | _, [] => .ok []
  | n + 1, kind :: rest =>
      if kind = 0 then .ok []
      else do
        let (seed, rest) ← readSeed kind rest
        return seed :: (← seedsWithin n rest)

def decodeSeeds (config : List UInt8) : Except String (List MetaSeed) :=
  seedsWithin config.length config

def decodeEntry (bytes : List UInt8) : Except String ExtraAccountMetaEntry := do
  let discriminator := bytes.getD 0 0
  let config := slice bytes 1 32
  let isSigner := bytes.getD 33 0 != 0
  let isWritable := bytes.getD 34 0 != 0
  if discriminator = 0 then
    return { isSigner, isWritable, kind := .fixed (keyAt config 0) }
  else if discriminator = 1 then
    return { isSigner, isWritable, kind := .pda none (← decodeSeeds config) }
  else if 128 ≤ discriminator then
    return { isSigner, isWritable, kind := .pda (some (discriminator.toNat - 128)) (← decodeSeeds config) }
  else
    .error s!"Unsupported ExtraAccountMeta discriminator {discriminator}"

def decodeEntries : Nat → List UInt8 → Except String (List ExtraAccountMetaEntry)
  | 0, _ => .ok []
  | n + 1, bytes => do
      let entry ← decodeEntry (bytes.take extraAccountMetaSize)
      return entry :: (← decodeEntries n (bytes.drop extraAccountMetaSize))

def decodeExtraAccountMetaList (data : List UInt8) : Except String (List ExtraAccountMetaEntry) := do
  require (extraAccountMetaListHeader ≤ data.length) "ExtraAccountMetaList is shorter than its header"
  require (data.take 8 = executeDiscriminator) "ExtraAccountMetaList does not start with the Execute discriminator"
  let length := ofLittleEndian (slice data 8 4)
  let count := ofLittleEndian (slice data 12 4)
  require (length = 4 + count * extraAccountMetaSize)
    s!"ExtraAccountMetaList length {length} does not match {count} metas"
  require (extraAccountMetaListHeader + count * extraAccountMetaSize ≤ data.length) "ExtraAccountMetaList is truncated"
  decodeEntries count (data.drop extraAccountMetaListHeader)

/-! ## Resolving a list -/

/-- The client library takes 16 seeds with the bump, of at most 32 bytes each. -/
def getProgramDerivedAddress (find : FindProgramAddress) (program : Pubkey) (seeds : List (List UInt8)) :
    Except String Pubkey := do
  require (seeds.length < 16 ∧ ∀ seed ∈ seeds, seed.length ≤ 32) "A program address takes 16 seeds of at most 32 bytes"
  return find seeds program

structure MetaResolutionContext where
  hookProgram : Pubkey
  source : Pubkey
  mint : Pubkey
  destination : Pubkey
  authority : Pubkey
  metaList : Pubkey
  accountData : Pubkey → Option (List UInt8)
  instructionData : Option (List UInt8)

def MetaResolutionContext.accounts (context : MetaResolutionContext) : List Pubkey :=
  [context.source, context.mint, context.destination, context.authority, context.metaList]

section resolving
variable (find : FindProgramAddress) (context : MetaResolutionContext)

def resolveSeed (accounts : List Pubkey) : MetaSeed → Except String (List UInt8)
  | .literal bytes => return bytes
  | .accountKey index => do
      let key ← okOr accounts[index]? s!"AccountKey seed names account {index}, which is not resolved yet"
      return keyBytes key
  | .accountData accountIndex dataIndex length => do
      let data ← okOr (accounts[accountIndex]?.bind context.accountData)
        s!"AccountData seed reads account {accountIndex}, which does not exist"
      require (dataIndex + length ≤ data.length) s!"AccountData seed reads past account {accountIndex}'s data"
      return slice data dataIndex length
  | .instructionData index length => do
      let data ← okOr context.instructionData "InstructionData seed reads past the instruction data"
      require (index + length ≤ data.length) "InstructionData seed reads past the instruction data"
      return slice data index length

def derivingProgram (accounts : List Pubkey) : Option Nat → Except String Pubkey
  | none => return context.hookProgram
  | some index => okOr accounts[index]? s!"External PDA names program account {index}, which is not resolved yet"

def resolveMeta (accounts : List Pubkey) : MetaKind → Except String Pubkey
  | .fixed address => return address
  | .pda programIndex seeds => do
      let seeds ← seeds.mapM (resolveSeed context accounts)
      let program ← derivingProgram context accounts programIndex
      getProgramDerivedAddress find program seeds

def resolveFrom (accounts : List Pubkey) : List ExtraAccountMetaEntry → Except String (List Pubkey)
  | [] => return []
  | entry :: rest => do
      let address ← resolveMeta find context accounts entry.kind
      return address :: (← resolveFrom (accounts ++ [address]) rest)

def resolveExtraAccountMetas (entries : List ExtraAccountMetaEntry) : Except String (List Pubkey) :=
  resolveFrom find context context.accounts entries

end resolving

/-! ## The tail that the front appends -/

inductive AccountRole where
  | readonly
  | writable
  | readonlySigner
  | writableSigner
  deriving DecidableEq, Repr

structure HookTransferMeta where
  address : Pubkey
  role : AccountRole
  deriving DecidableEq, Repr

structure HookTailConfig where
  restrictionMode : RestrictionMode
  kycRegistry : Option Pubkey
  deriving DecidableEq, Repr

def ro (address : Pubkey) : HookTransferMeta :=
  { address, role := .readonly }

def hookTransferMetasFor (find : FindProgramAddress) (config : Option HookTailConfig) (mint sourceOwner destOwner : Pubkey) :
    Except String (List HookTransferMeta) :=
  let blockEntry := blockEntryAddress find sourceOwner
  let extraMetas := extraMetasAddress find mint
  let openTail := [ro blockEntry, ro extraMetas, ro transferHookProgram]
  match config with
  | none | some { restrictionMode := .open, .. } => .ok openTail
  | some { restrictionMode := .kycGated, kycRegistry } => do
      let kycRegistry ← okOr kycRegistry "Mint is KycGated but its hook config has no KYC registry."
      return [ro blockEntry, ro (hookConfigAddress find mint), ro kycRegistry, ro assetRegistryProgram,
        ro (kycEntryAddress find kycRegistry destOwner), ro (escrowMarkerAddress find destOwner),
        ro (escrowMarkerAddress find sourceOwner), ro extraMetas, ro transferHookProgram]

end Mancipatio.Hook
