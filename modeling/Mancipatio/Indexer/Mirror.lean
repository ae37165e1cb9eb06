import Mancipatio.Indexer.Queue

/-!
# The mirror of the chain's accounts

A snapshot tells the live accounts and the closed ones of one slot. Each address has a version, which keeps an
older snapshot from bringing back what was closed or overwriting what is newer.
-/

namespace Mancipatio.Indexer
open Checked Execution

inductive MirrorTable where
  | platforms | issuers | assets | shareClasses | sales | custodyVaults | offers | proposals | voteRecords
  | rightsIssuances | milestones | milestoneClaims | kycRegistries | kycEntries
  | issuerFreezes | pendingAdmins | authorityProposals | platformRecoveries | blocklistAuthorityProposals
  | blocklistRecoveries
  deriving DecidableEq, Repr

def mirrorTables : List MirrorTable :=
  [.platforms, .issuers, .assets, .shareClasses, .sales, .custodyVaults, .offers, .proposals, .voteRecords,
    .rightsIssuances, .milestones, .milestoneClaims, .kycRegistries, .kycEntries,
    .issuerFreezes, .pendingAdmins, .authorityProposals, .platformRecoveries, .blocklistAuthorityProposals,
    .blocklistRecoveries]

inductive MirrorError where
  | invalidIndexerSnapshot
  | invalidAccountAddress
  | invalidTypedIndexerRow
  | legacyShareClassLedger
  | shareClassLedgerRequired
  | unsupportedShareClassVersion
  | missingDecodedColumn
  | snapshotLayoutRequired
  deriving DecidableEq, Repr

abbrev Address := String × String

structure AccountVersion where
  slot : Int
  table : Option MirrorTable
  closed : Bool
  deriving DecidableEq, Repr

structure MirrorRow where
  columns : String → Option Json
  lastSlot : Option Int
  layoutVersion : Option Nat
  -- of the write
  lastSignature : Option String
  updatedAt : Int

@[ext]
structure Mirror where
  versions : Address → Option AccountVersion
  tables : MirrorTable → Address → Option MirrorRow

def emptyMirror : Mirror where
  versions := fun _ => none
  tables := fun _ _ => none

/-! ## Snapshots -/

structure SnapshotItem where
  table : Option MirrorTable
  fields : List (String × Json)
  deriving DecidableEq, Repr

structure SnapshotCall where
  network : String
  slot : Int
  rows : List SnapshotItem
  closed : List String
  signature : Option String
  layoutVersion : Option Nat
  now : Int
  deriving DecidableEq, Repr

structure SnapshotReply where
  written : Nat
  closed : Nat
  stale : Nat
  applied : List String
  deleted : MirrorTable → List String

def emptyReply : SnapshotReply where
  written := 0
  closed := 0
  stale := 0
  applied := []
  deleted := fun _ => []

namespace SnapshotItem

def field (item : SnapshotItem) (name : String) : Option Json :=
  item.fields.lookup name

-- `->>`
def text (item : SnapshotItem) (name : String) : Option String :=
  (item.field name).bind fun value => if value.kind = .null then none else some value.text

def kind (item : SnapshotItem) (name : String) : Option JsonKind :=
  (item.field name).map Json.kind

end SnapshotItem

-- `[1-9A-HJ-NP-Za-km-z]{32,44}`
def validAddress (pda : String) : Prop :=
  32 ≤ pda.length ∧ pda.length ≤ 44 ∧ pda.toList.all isBase58 = true
  deriving Decidable

def stampColumns : List String :=
  ["network", "last_slot", "last_signature", "layout_version", "updated_at"]

/-- A live version of the slot itself is not in the way of a live row, but a tombstone of that slot is. -/
def staleFor (known : Option AccountVersion) (slot : Int) : Prop :=
  ∃ version ∈ known, slot < version.slot ∨ version.closed = true ∧ slot ≤ version.slot

instance (known : Option AccountVersion) (slot : Int) : Decidable (staleFor known slot) :=
  inferInstanceAs (Decidable (∃ version ∈ known, _ ∨ _))

def requireShareClass (table : MirrorTable) (item : SnapshotItem) : Except MirrorError Unit :=
  if table = .shareClasses then
    match item.text "account_version" with
    | some "1" =>
        require (item.kind "lifetime_minted" = some .null ∧ item.kind "cumulative_cap" = some .null ∧
          item.text "readonly_legacy" = some "true") .legacyShareClassLedger
    | some "2" =>
        require (item.kind "lifetime_minted" = some .string ∧ item.kind "cumulative_cap" = some .boolean ∧
          item.text "readonly_legacy" = some "false") .shareClassLedgerRequired
    | _ => .error .unsupportedShareClassVersion
  else .ok ()

def setVersion (m : Mirror) (address : Address) (version : AccountVersion) : Mirror :=
  { m with versions := Function.update m.versions address (some version) }

def setRow (m : Mirror) (table : MirrorTable) (address : Address) (row : Option MirrorRow) : Mirror :=
  { m with tables := Function.update m.tables table (Function.update (m.tables table) address row) }

/-- The trigger on every mirrored table: whether the row is written. -/
def indexerRejectStaleSlot (m : Mirror) (address : Address) (old : Option MirrorRow) (new : MirrorRow) :
    Except MirrorError Bool := do
  require (new.layoutVersion = some 2) .snapshotLayoutRequired
  let slot ← okOr new.lastSlot .snapshotLayoutRequired
  return ¬ staleFor (m.versions address) slot ∧ ∀ row ∈ old, ∀ before ∈ row.lastSlot, before ≤ slot

def storeRow (m : Mirror) (table : MirrorTable) (address : Address) (row : MirrorRow) : Except MirrorError (Mirror × Bool) := do
  let inserted ← indexerRejectStaleSlot m address none row
  match inserted, m.tables table address with
  | false, _ => return (m, false)
  | true, none => return (setRow m table address (some row), true)
  | true, some old => do
      let merged := { row with columns := fun name => (row.columns name).or (old.columns name) }
      let updated ← indexerRejectStaleSlot m address (some old) merged
      return if updated = true then (setRow m table address (some merged), true) else (m, false)

def removable (row : MirrorRow) (slot : Int) : Bool :=
  row.lastSlot.all fun last => last ≤ slot

def retireOld (m : Mirror) (known : Option AccountVersion) (table : MirrorTable) (address : Address) (slot : Int) : Mirror :=
  match known.bind AccountVersion.table with
  | none => m
  | some old =>
      if old ≠ table ∧ ∃ row ∈ m.tables old address, ∃ last ∈ row.lastSlot, last ≤ slot then setRow m old address none else m

def SnapshotCall.row (call : SnapshotCall) (item : SnapshotItem) : MirrorRow where
  columns := fun name => if name ∈ stampColumns then none else item.field name
  lastSlot := some call.slot
  layoutVersion := call.layoutVersion
  lastSignature := call.signature
  updatedAt := call.now

def applyRow (schema : MirrorTable → List String) (call : SnapshotCall) (acc : Mirror × SnapshotReply) (item : SnapshotItem) :
    Except MirrorError (Mirror × SnapshotReply) := do
  let (m, reply) := acc
  let table ← okOr item.table .invalidTypedIndexerRow
  let pda ← okOr (item.text "pda") .invalidTypedIndexerRow
  require (validAddress pda ∧ item.kind "raw" = some .object) .invalidTypedIndexerRow
  let known := m.versions (call.network, pda)
  if staleFor known call.slot then
    return (m, { reply with stale := reply.stale + 1 })
  else do
    requireShareClass table item
    let m := retireOld m known table (call.network, pda) call.slot
    require (∀ name ∈ stampColumns ++ item.fields.map Prod.fst, name ∈ schema table) .missingDecodedColumn
    let m := setVersion m (call.network, pda) { slot := call.slot, table := some table, closed := false }
    let (m, changed) ← storeRow m table (call.network, pda) (call.row item)
    return (m, if changed = true then { reply with written := reply.written + 1, applied := reply.applied ++ [pda] } else reply)

def closedTables (m : Mirror) (address : Address) (slot : Int) : List MirrorTable :=
  mirrorTables.filter fun table => (m.tables table address).any fun row => removable row slot

def applyClosed (call : SnapshotCall) (acc : Mirror × SnapshotReply) (pda : String) :
    Except MirrorError (Mirror × SnapshotReply) := do
  let (m, reply) := acc
  require (validAddress pda) .invalidAccountAddress
  if ∃ version ∈ m.versions (call.network, pda), call.slot < version.slot then
    return (m, { reply with stale := reply.stale + 1 })
  else
    let removed := closedTables m (call.network, pda) call.slot
    let m := setVersion m (call.network, pda) { slot := call.slot, table := none, closed := true }
    let m := removed.foldl (fun m table => setRow m table (call.network, pda) none) m
    return (m, { reply with
      closed := reply.closed + removed.length
      deleted := fun table => if table ∈ removed then reply.deleted table ++ [pda] else reply.deleted table })

def SnapshotItem.before (a b : SnapshotItem) : Prop :=
  (a.text "pda").getD "" ≤ (b.text "pda").getD ""
  deriving Decidable

/-- A snapshot is applied as a whole or not at all. -/
def applyIndexerSnapshot (schema : MirrorTable → List String) (m : Mirror) (call : SnapshotCall) :
    Except MirrorError (Mirror × SnapshotReply) := do
  require (call.network ∈ networks ∧ 0 ≤ call.slot ∧ call.layoutVersion = some 2 ∧ call.rows.length ≤ 100 ∧
    call.closed.length ≤ 100) .invalidIndexerSnapshot
  require (∀ item ∈ call.rows, ∃ pda ∈ item.text "pda", validAddress pda) .invalidAccountAddress
  require (∀ pda ∈ call.closed, validAddress pda) .invalidAccountAddress
  let acc ← (call.rows.insertionSort SnapshotItem.before).foldlM (applyRow schema call) (m, emptyReply)
  (call.closed.dedup.insertionSort fun a b => a ≤ b).foldlM (applyClosed call) acc

def mirrorStep (schema : MirrorTable → List String) (m : Mirror) (call : SnapshotCall) : Except MirrorError Mirror :=
  Prod.fst <$> applyIndexerSnapshot schema m call

end Mancipatio.Indexer
