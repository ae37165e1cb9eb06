import Mancipatio.Basic
import Mancipatio.Library.Bytes
import Mancipatio.Library.Rows

/-!
# What a wallet may change while it signs

Messages are taken as the decoder gives them, with addresses as keys. `base58` writes a key in a text for the user. The
texts the code compares are joined from parts without the characters that join them, and are lists here.
-/

namespace Mancipatio.WalletRewrite
open Bytes

def computeBudgetProgramAddress : Pubkey := 0x306466fe5211732ffecadba72c39be7bc8ce5bbc5f7126b2c439b3a40000000
def lighthouseProgramAddress : Pubkey := 0x4dfad7962ffb1dd925d0a9fb5e6d00ce6195ba8bb3a91fd07ef9860c5e97bb8

/-! ## Compiled messages -/

inductive Version where
  | legacy
  | numbered (n : Nat)
  deriving DecidableEq, Repr

structure Header where
  numSignerAccounts : Nat
  numReadonlySignerAccounts : Nat
  numReadonlyNonSignerAccounts : Nat
  deriving DecidableEq, Repr

structure CompiledInstruction where
  programAddressIndex : Nat
  accountIndices : Option (List Nat)
  data : Option (List UInt8)
  deriving DecidableEq, Repr

structure AddressTableLookup where
  lookupTableAddress : Pubkey
  writableIndexes : List Nat
  readonlyIndexes : List Nat
  deriving DecidableEq, Repr

structure CompiledMessage where
  version : Version
  header : Header
  staticAccounts : List Pubkey
  lifetimeToken : Pubkey
  instructions : List CompiledInstruction
  addressTableLookups : Option (List AddressTableLookup)
  deriving DecidableEq, Repr

inductive Role where
  | signerWritable
  | signer
  | writable
  | readonly
  deriving DecidableEq, Repr

def Role.text : Role → String
  | .signerWritable => "signer-writable"
  | .signer => "signer"
  | .writable => "writable"
  | .readonly => "readonly"

inductive AccountName where
  | static (address : Pubkey)
  | lookup (table : Pubkey) (index : Nat)
  deriving DecidableEq, Repr

structure Account where
  name : AccountName
  role : Role
  deriving DecidableEq, Repr

structure Instruction where
  program : Pubkey
  data : List UInt8
  accounts : List Account
  deriving DecidableEq, Repr

namespace CompiledMessage
variable (m : CompiledMessage)

def signerCount : Nat :=
  m.header.numSignerAccounts

-- cut off at zero, where the header is malformed anyway
def writableSignerEnd : Nat :=
  m.signerCount - m.header.numReadonlySignerAccounts

def writableEnd : Nat :=
  m.staticAccounts.length - m.header.numReadonlyNonSignerAccounts

def malformedHeader : Bool :=
  m.staticAccounts.length = 0 ∨ m.writableSignerEnd < 1 ∨ m.staticAccounts.length < m.signerCount ∨ m.writableEnd < m.signerCount

def lookups : List AddressTableLookup :=
  m.addressTableLookups.getD []

def writableLookups : List Account :=
  m.lookups.flatMap fun table => table.writableIndexes.map fun i => { name := .lookup table.lookupTableAddress i, role := .writable }

def readonlyLookups : List Account :=
  m.lookups.flatMap fun table => table.readonlyIndexes.map fun i => { name := .lookup table.lookupTableAddress i, role := .readonly }

def staticRole (i : Nat) : Role :=
  if i < m.signerCount then if i < m.writableSignerEnd then .signerWritable else .signer
  else if i < m.writableEnd then .writable
  else .readonly

def listings : List (Pubkey × Role) :=
  m.staticAccounts.zipIdx.map fun account => (account.1, m.staticRole account.2)

def resolve (index : Nat) : Option Account :=
  match m.staticAccounts[index]? with
  | some address => some { name := .static address, role := m.staticRole index }
  | none => (m.writableLookups ++ m.readonlyLookups)[index - m.staticAccounts.length]?

end CompiledMessage

/-! ## Compute budget -/

inductive DecodedComputeBudget where
  | limit (units : Nat)
  | price (microLamports : Nat)
  deriving DecidableEq, Repr

def decodeComputeBudgetInstruction (data : Option (List UInt8)) : Option DecodedComputeBudget :=
  match data with
  | none => none
  | some bytes =>
      if bytes[0]? = some 2 ∧ bytes.length = 5 then some (.limit (ofLittleEndian bytes.tail))
      else if bytes[0]? = some 3 ∧ bytes.length = 9 then some (.price (ofLittleEndian bytes.tail))
      else none

def computeBudgetKinds (kind : UInt8) : Option String :=
  if kind = 0 then some "RequestUnits"
  else if kind = 1 then some "RequestHeapFrame"
  else if kind = 4 then some "SetLoadedAccountsDataSizeLimit"
  else none

def numbered (kind : Option UInt8) : String :=
  "#" ++ (kind.map fun k => toString k.toNat).getD "?"

def budgetLabel (decoded : Option DecodedComputeBudget) (kind : Option UInt8) : String :=
  match decoded with
  | some (.limit units) => s!"SetComputeUnitLimit({units})"
  | some (.price microLamports) => s!"SetComputeUnitPrice({microLamports})"
  | none => "ComputeBudget." ++ (kind.bind computeBudgetKinds).getD (numbered kind)

structure BudgetSettings where
  limit : Option Nat
  price : Option Nat
  problem : Option String
  summary : List String
  deriving DecidableEq, Repr

/-- `setting` is what the instruction sets, unless Manci does not accept it. -/
def BudgetSettings.add (budget : BudgetSettings) (label : String) (setting : Option DecodedComputeBudget) : BudgetSettings :=
  if budget.problem.isSome = true then { budget with summary := budget.summary ++ [label] }
  else
    match setting with
    | none =>
        { budget with
          summary := budget.summary ++ [label]
          problem := some s!"added a compute-budget instruction Manci does not accept ({label})" }
    | some (.limit units) =>
        { budget with
          summary := budget.summary ++ [label]
          problem := if budget.limit.isSome = true then some "set the compute unit limit twice" else none
          limit := some units }
    | some (.price microLamports) =>
        { budget with
          summary := budget.summary ++ [label]
          problem := if budget.price.isSome = true then some "set the compute unit price twice" else none
          price := some microLamports }

/-! ## Guards -/

def lighthouseAssertions (kind : UInt8) : Option String :=
  if kind = 2 then some "AssertAccountData"
  else if kind = 3 then some "AssertAccountDataMulti"
  else if kind = 4 then some "AssertAccountDelta"
  else if kind = 5 then some "AssertAccountInfo"
  else if kind = 6 then some "AssertAccountInfoMulti"
  else if kind = 7 then some "AssertMintAccount"
  else if kind = 8 then some "AssertMintAccountMulti"
  else if kind = 9 then some "AssertTokenAccount"
  else if kind = 10 then some "AssertTokenAccountMulti"
  else if kind = 11 then some "AssertStakeAccount"
  else if kind = 12 then some "AssertStakeAccountMulti"
  else if kind = 13 then some "AssertUpgradeableLoaderAccount"
  else if kind = 14 then some "AssertUpgradeableLoaderAccountMulti"
  else if kind = 15 then some "AssertSysvarClock"
  else none

def lighthouseLogLevels : List UInt8 := [0, 1, 2, 4, 5]
def lighthouseGuardUnits : Nat := 7000

structure Guard where
  label : String
  unaccepted : Option String
  position : Nat
  accounts : List Account
  deriving DecidableEq, Repr

def guardLabel (kind : Option UInt8) : String :=
  "Lighthouse." ++ (kind.bind lighthouseAssertions).getD (numbered kind)

def unacceptedGuard (kind level : Option UInt8) : Option String :=
  if kind.bind lighthouseAssertions = none then some (guardLabel kind)
  else if level.any (lighthouseLogLevels.contains ·) = true then none
  else some (guardLabel kind ++ " with log level " ++ (level.map fun l => toString l.toNat).getD "none")

/-! ## The message taken apart -/

structure Normalized where
  version : Version
  feePayer : Pubkey
  lifetime : Pubkey
  lookups : List AddressTableLookup
  accounts : List (Pubkey × Role)
  names : List Account
  instructions : List Instruction
  budget : BudgetSettings
  guards : List Guard
  guardKeyRole : Option Role
  summary : List String
  deriving DecidableEq, Repr

structure Reading where
  instructions : List Instruction := []
  budget : BudgetSettings := { limit := none, price := none, problem := none, summary := [] }
  guards : List Guard := []
  summary : List String := []
  budgetKeyUsedElsewhere : Bool := false
  guardKeyNamed : Bool := false
  deriving DecidableEq, Repr

structure Keys where
  accounts : List (Pubkey × Role) := []
  names : List Account
  guardKeyRole : Option Role := none
  deriving DecidableEq, Repr

def Keys.add (budgetKeyUsedElsewhere guardKeySetApart : Bool) (s : Keys) (listing : Pubkey × Role) : Keys :=
  let named := { s with names := s.names ++ [{ name := .static listing.1, role := listing.2 }] }
  if listing.1 = computeBudgetProgramAddress ∧ budgetKeyUsedElsewhere = false then named
  else if listing.1 = lighthouseProgramAddress ∧ guardKeySetApart = true then { named with guardKeyRole := some listing.2 }
  else { named with accounts := Rows.upsert Prod.fst listing s.accounts }

section texts
variable (base58 : Pubkey → String)

def short (value : String) : String :=
  if 10 < value.length then (value.take 4).toString ++ "…" ++ (value.drop (value.length - 4)).toString else value

def CompiledMessage.read (m : CompiledMessage) (walletCopy : Bool) (s : Reading) (ix : CompiledInstruction) : Option Reading := do
  let program ← m.staticAccounts[ix.programAddressIndex]?
  let indices := ix.accountIndices.getD []
  let accounts ← indices.mapM m.resolve
  let names := fun address => indices.any fun i => m.staticAccounts[i]? = some address
  let kind := ix.data.bind fun data => data[0]?
  let level := ix.data.bind fun data => data[1]?
  let guardKeyNamed := s.guardKeyNamed || names lighthouseProgramAddress
  if program = computeBudgetProgramAddress then
    let decoded := decodeComputeBudgetInstruction ix.data
    let label := budgetLabel decoded kind
    let setting := if 0 < indices.length then none else decoded
    some { s with guardKeyNamed, summary := s.summary ++ [label], budget := s.budget.add label setting }
  else
    let budgetKeyUsedElsewhere := s.budgetKeyUsedElsewhere || names computeBudgetProgramAddress
    if walletCopy = true ∧ program = lighthouseProgramAddress then
      let found : Guard :=
        { label := guardLabel kind, unaccepted := unacceptedGuard kind level, position := s.instructions.length, accounts }
      some { s with guardKeyNamed, budgetKeyUsedElsewhere, summary := s.summary ++ [found.label], guards := s.guards ++ [found] }
    else
      let instruction : Instruction := { program, data := ix.data.getD [], accounts }
      some { s with
        guardKeyNamed, budgetKeyUsedElsewhere
        summary := s.summary ++ [short (base58 program)]
        instructions := s.instructions ++ [instruction] }

def CompiledMessage.keys (m : CompiledMessage) (read : Reading) : Keys :=
  m.listings.foldl (Keys.add read.budgetKeyUsedElsewhere (!read.guards.isEmpty && !read.guardKeyNamed))
    { names := m.writableLookups ++ m.readonlyLookups }

def normalize (m : CompiledMessage) (walletCopy : Bool) : Option Normalized :=
  if m.malformedHeader = true then none
  else do
    let feePayer ← m.staticAccounts.head?
    let read ← m.instructions.foldlM (m.read base58 walletCopy) {}
    some {
      version := m.version
      feePayer
      lifetime := m.lifetimeToken
      lookups := m.lookups
      accounts := (m.keys read).accounts
      names := (m.keys read).names
      instructions := read.instructions
      budget := read.budget
      guards := read.guards
      guardKeyRole := (m.keys read).guardKeyRole
      summary := read.summary }

/-! ## The verdict -/

structure ComputeBudgetBounds where
  maxComputeUnitPrice : Int
  minComputeUnitLimit : Option Int
  deriving DecidableEq, Repr

inductive WalletRewriteRefusal where
  | computeBudget
  | guards
  | transaction
  deriving DecidableEq, Repr

inductive WalletRewriteVerdict where
  | identical
  | accepted (change : String) (units : Option Nat) (microLamports : Nat) (guards : Nat)
  | refused (change : String) (about : WalletRewriteRefusal)
  deriving DecidableEq, Repr

def sameAccounts (a b : List (Pubkey × Role)) : Prop :=
  a.length = b.length ∧ ∀ entry ∈ a, (Rows.lookup Prod.fst entry.1 b).map Prod.snd = some entry.2

instance (a b : List (Pubkey × Role)) : Decidable (sameAccounts a b) :=
  inferInstanceAs (Decidable (_ ∧ _))

def listed (texts : List String) : String :=
  "[" ++ ", ".intercalate texts ++ "]"

def AccountName.text : AccountName → String
  | .static address => base58 address
  | .lookup table index => base58 table ++ "#" ++ toString index

def guardRefusal (names : List Account) (appCount : Nat) (guard : Guard) : Option String :=
  match guard.unaccepted with
  | some what => some s!"added a Lighthouse instruction Manci does not accept ({what})"
  | none =>
      if guard.position ≠ 0 ∧ guard.position ≠ appCount then
        some ("put a Lighthouse instruction (" ++ guard.label ++ ") between the transaction's own instructions")
      else
        (guard.accounts.find? fun account => !names.contains account).map fun unknown =>
          "added a Lighthouse instruction (" ++ guard.label ++ ") that names " ++ short (unknown.name.text base58) ++ " as " ++
            unknown.role.text ++ ", which the transaction does not"

def guardProblem (built signed : Normalized) : Option String :=
  match signed.guards.findSome? (guardRefusal base58 built.names signed.instructions.length) with
  | some problem => some problem
  | none =>
      match signed.guardKeyRole with
      | none | some .readonly => none
      | some role => some ("gave the Lighthouse program a " ++ role.text ++ " role")

def changedInstruction (budgeted : Nat) (pair : (Instruction × Instruction) × Nat) : List String :=
  let label := s!"instruction {pair.2 + 1 + budgeted} (" ++ short (base58 pair.1.1.program) ++ ")"
  (if pair.1.1.data ≠ pair.1.2.data then ["changed the data of " ++ label] else []) ++
    if pair.1.1.accounts ≠ pair.1.2.accounts then ["changed the accounts of " ++ label] else []

def changedInstructions (a b : Normalized) : List String :=
  if a.instructions.map Instruction.program ≠ b.instructions.map Instruction.program then
    ["changed its instructions " ++ listed a.summary ++ " → " ++ listed b.summary]
  else (a.instructions.zip b.instructions).zipIdx.flatMap (changedInstruction base58 a.budget.summary.length)

def changedParts (a b : Normalized) : List String :=
  (if a.version ≠ b.version then ["changed its version"] else []) ++
    (if a.lifetime ≠ b.lifetime then ["replaced its blockhash"] else []) ++
      (if a.feePayer ≠ b.feePayer then ["changed its fee payer"] else []) ++
        changedInstructions base58 a b ++
          if a.lookups ≠ b.lookups then ["changed its address lookup tables"] else []

def beforeSigning (change : String) : String :=
  "the wallet " ++ change ++ " before signing"

def rewriteText (a b : Normalized) : String :=
  listed a.budget.summary ++ " → " ++ listed b.budget.summary

def guardList (b : Normalized) : String :=
  toString b.guards.length ++ (if b.guards.length = 1 then " Lighthouse instruction " else " Lighthouse instructions ") ++
    listed (b.guards.map Guard.label)

def ComputeBudgetBounds.needed (bounds : ComputeBudgetBounds) (a b : Normalized) : Option Int :=
  match bounds.minComputeUnitLimit with
  | some least => some (least + b.guards.length * lighthouseGuardUnits)
  | none => a.budget.limit.map Int.ofNat

def budgetRefusal (a b : Normalized) (bounds : ComputeBudgetBounds) : Option (String × WalletRewriteRefusal) :=
  match b.budget.problem with
  | some problem => some (beforeSigning problem, .computeBudget)
  | none =>
      if bounds.maxComputeUnitPrice < b.budget.price.getD 0 then
        some (s!"the wallet raised the priority fee to {b.budget.price.getD 0} micro-lamports per compute unit, above Manci's cap of {bounds.maxComputeUnitPrice}, before signing " ++
          rewriteText a b, .computeBudget)
      else
        match b.budget.limit with
        | none =>
            if a.budget.limit.isSome = true then
              some ("the wallet removed the compute unit limit before signing " ++ rewriteText a b, .computeBudget)
            else none
        | some limit =>
            match bounds.needed a b with
            | none => none
            | some needed =>
                if (limit : Int) < needed then
                  if 0 < b.guards.length then
                    some ("the wallet added " ++ guardList b ++ s!", and the compute unit limit of {limit} is below the {needed} the transaction needs with them, before signing " ++
                      rewriteText a b, if a.budget.summary = b.budget.summary then .guards else .computeBudget)
                  else
                    some (s!"the wallet lowered the compute unit limit to {limit}, below the {needed} this transaction needs, before signing " ++
                      rewriteText a b, .computeBudget)
                else none

def acceptedChange (a b : Normalized) : String :=
  let changes := (if 0 < b.guards.length then ["added " ++ guardList b] else []) ++
    if a.budget.summary ≠ b.budget.summary then ["changed its compute budget " ++ rewriteText a b] else []
  beforeSigning (" and ".intercalate (if changes = [] then ["reordered its accounts"] else changes))

def judge (a b : Normalized) (bounds : ComputeBudgetBounds) : WalletRewriteVerdict :=
  match changedParts base58 a b with
  | part :: parts => .refused (beforeSigning (" and ".intercalate (part :: parts))) .transaction
  | [] =>
      match guardProblem base58 a b with
      | some problem => .refused (beforeSigning problem) .guards
      | none =>
          if sameAccounts a.accounts b.accounts then
            match budgetRefusal a b bounds with
            | some refusal => .refused refusal.1 refusal.2
            | none => .accepted (acceptedChange a b) b.budget.limit (b.budget.price.getD 0) b.guards.length
          else .refused (beforeSigning "changed its accounts or their signer/writable roles") .transaction

/-- `decode` reads the bytes of a message, unless they are not one. -/
def judgeWalletRewrite (decode : List UInt8 → Option CompiledMessage) (before after : List UInt8) (bounds : ComputeBudgetBounds) :
    WalletRewriteVerdict :=
  if before = after then .identical
  else
    match (decode before).bind (normalize base58 · false), (decode after).bind (normalize base58 · true) with
    | some a, some b => judge base58 a b bounds
    | _, _ => .refused "the wallet changed the transaction before signing it" .transaction

end texts

end Mancipatio.WalletRewrite
