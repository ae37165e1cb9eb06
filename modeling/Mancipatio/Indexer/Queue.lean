import Mancipatio.Library.Checked
import Mancipatio.Library.Lease
import Mancipatio.Library.Rows

/-!
# The durable queue of indexed events

A webhook delivery stores an event and a retry job. Workers lease due jobs, read the touched accounts and report
back; a completed job marks its event as decoded. Times are in seconds.
-/

namespace Mancipatio.Indexer
open Checked Rows Execution Leasing

inductive IndexerError where
  | invalidIndexerEvent
  | invalidIndexerEventBatch
  | invalidIndexerLease
  | acknowledgementTargetMissing
  | uniqueViolation
  deriving DecidableEq, Repr

inductive JsonKind where
  | null | boolean | number | string | array | object
  deriving DecidableEq, Repr

structure Json where
  kind : JsonKind
  text : String
  deriving DecidableEq, Repr

/-! ## Tables -/

abbrev EventKey := String × String

structure IndexerEvent where
  network : String
  signature : String
  slot : Option Int
  blockTime : Option Int
  program : String
  ixName : Option String
  decoded : Bool
  wallets : List String
  payload : Json
  deriving DecidableEq, Repr

inductive JobStatus where
  | pending
  | complete
  deriving DecidableEq, Repr

structure IndexerJob where
  id : Nat
  network : String
  signature : String
  slot : Option Int
  wallets : List String
  status : JobStatus
  attempts : Nat
  nextAttemptAt : Int
  lease : Option (Lease Nat)
  lastError : Option String
  deriving DecidableEq, Repr

def IndexerEvent.key (e : IndexerEvent) : EventKey :=
  (e.network, e.signature)

def IndexerJob.key (job : IndexerJob) : EventKey :=
  (job.network, job.signature)

inductive SyncStatus where
  | warming
  | ready
  | degraded
  deriving DecidableEq, Repr

structure SyncState where
  status : SyncStatus
  lastSlot : Option Int
  completedAt : Option Int
  checkedAt : Int
  deriving DecidableEq, Repr

structure Queue where
  events : List IndexerEvent
  jobs : List IndexerJob
  sync : String → Option SyncState
  now : Int

/-! ## Deliveries -/

structure Delivery where
  -- of the new job
  jobId : Nat
  signature : String
  slot : Option Int
  blockTime : Option Int
  ixName : Option String
  wallets : List String
  payload : Json
  deriving DecidableEq, Repr

def networks : List String :=
  ["mainnet", "devnet", "testnet", "localnet"]

-- `[1-9A-HJ-NP-Za-km-z]`
def isBase58 (c : Char) : Bool :=
  ('1' ≤ c && c ≤ '9') || ('A' ≤ c && c ≤ 'H') || ('J' ≤ c && c ≤ 'N') || ('P' ≤ c && c ≤ 'Z') ||
    ('a' ≤ c && c ≤ 'k') || ('m' ≤ c && c ≤ 'z')

def validSignature (signature : String) : Prop :=
  64 ≤ signature.length ∧ signature.length ≤ 96 ∧ signature.toList.all isBase58 = true
  deriving Decidable

def indexerProgram : String :=
  "FJs1EM1ND89L9sUXaS8VBKYXjmoXCkkVSJKRE19hmYxS"

def Delivery.event (delivery : Delivery) (network : String) : IndexerEvent where
  network
  signature := delivery.signature
  slot := delivery.slot
  blockTime := delivery.blockTime
  program := indexerProgram
  ixName := delivery.ixName
  decoded := false
  wallets := delivery.wallets
  payload := delivery.payload

def Delivery.job (delivery : Delivery) (network : String) (now : Int) : IndexerJob where
  id := delivery.jobId
  network
  signature := delivery.signature
  slot := delivery.slot
  wallets := delivery.wallets
  status := .pending
  attempts := 0
  nextAttemptAt := now
  lease := none
  lastError := none

def insertEvent (q : Queue) (e : IndexerEvent) : Queue :=
  if e.key ∈ q.events.map IndexerEvent.key then q else { q with events := q.events ++ [e] }

def insertJob (q : Queue) (job : IndexerJob) : Except IndexerError Queue :=
  if job.key ∈ q.jobs.map IndexerJob.key then .ok q
  else do
    require (job.id ∉ q.jobs.map IndexerJob.id) .uniqueViolation
    return { q with jobs := q.jobs ++ [job] }

def enqueueIndexerEvent (q : Queue) (network : String) (delivery : Delivery) : Except IndexerError (Queue × Option Nat) := do
  require (network ∈ networks ∧ validSignature delivery.signature ∧ delivery.wallets.length ≤ 500 ∧
    (∀ slot ∈ delivery.slot, 0 ≤ slot) ∧ delivery.payload.kind = .object) .invalidIndexerEvent
  let q ← insertJob (insertEvent q (delivery.event network)) (delivery.job network q.now)
  return (q, (lookup IndexerJob.key (network, delivery.signature) q.jobs).map IndexerJob.id)

/-- One provider batch is one transaction. -/
def enqueueIndexerEvents (q : Queue) (network : String) (deliveries : List Delivery) : Except IndexerError (Queue × Nat) := do
  require (1 ≤ deliveries.length ∧ deliveries.length ≤ 100) .invalidIndexerEventBatch
  let q ← deliveries.foldlM (fun q delivery => Prod.fst <$> enqueueIndexerEvent q network delivery) q
  return (q, deliveries.length)

/-! ## Leases -/

def IndexerJob.claimable (job : IndexerJob) (network : String) (now : Int) : Prop :=
  job.network = network ∧ job.status = .pending ∧ job.nextAttemptAt ≤ now ∧ ∀ lease ∈ job.lease, lease.expiresAt ≤ now
  deriving Decidable

def IndexerJob.dueBefore (a b : IndexerJob) : Prop :=
  a.nextAttemptAt < b.nextAttemptAt ∨ a.nextAttemptAt = b.nextAttemptAt ∧ a.id ≤ b.id
  deriving Decidable

/-- The jobs that a claim takes, in order. Those that another transaction has locked are skipped. -/
def pickedJobs (q : Queue) (network : String) (limit : Nat) (locked : List Nat) : List IndexerJob :=
  ((q.jobs.filter fun job => job.claimable network q.now ∧ job.id ∉ locked).insertionSort IndexerJob.dueBefore).take limit

def IndexerJob.claimedBy (job : IndexerJob) (owner : Nat) (expiresAt : Int) : IndexerJob :=
  { job with lease := some { owner, expiresAt }, attempts := job.attempts + 1 }

def claimIndexerJobs (q : Queue) (network : String) (owner limit leaseSeconds : Nat) (locked : List Nat) :
    Except IndexerError (Queue × List IndexerJob) := do
  require (1 ≤ limit ∧ limit ≤ 20 ∧ 60 ≤ leaseSeconds ∧ leaseSeconds ≤ 300) .invalidIndexerLease
  let picked := pickedJobs q network limit locked
  let claim := fun job : IndexerJob => job.claimedBy owner (q.now + leaseSeconds)
  return ({ q with jobs := q.jobs.map fun job => if job.id ∈ picked.map IndexerJob.id then claim job else job },
    picked.map claim)

def IndexerJob.heldBy (job : IndexerJob) (owner : Nat) (now : Int) : Prop :=
  ∃ lease ∈ job.lease, lease.owner = owner ∧ now < lease.expiresAt
  deriving Decidable

def retryDelay (attempts : Nat) : Nat :=
  min 3600 (30 * 2 ^ min attempts 7)

def IndexerJob.finished (job : IndexerJob) (complete : Bool) (error : Option String) (now : Int) : IndexerJob :=
  { job with
    status := if complete = true then .complete else .pending
    lease := none
    lastError := if complete = true then none else error.map fun text => String.ofList (text.toList.take 240)
    nextAttemptAt := now + retryDelay job.attempts }

def markReady (q : Queue) (network : String) : Queue :=
  match q.sync network with
  | none => q
  | some state =>
      if state.completedAt ≠ none ∧ ∀ job ∈ q.jobs, ¬ (job.network = network ∧ job.status = .pending) then
        { q with sync := Function.update q.sync network (some { state with status := .ready, checkedAt := q.now }) }
      else q

def markDegraded (q : Queue) (network : String) : Queue :=
  let state := (q.sync network).getD { status := .warming, lastSlot := none, completedAt := none, checkedAt := q.now }
  { q with sync := Function.update q.sync network (some { state with status := .degraded, checkedAt := q.now }) }

/-- An answer without an unexpired lease of its own changes nothing. -/
def finishIndexerJob (q : Queue) (id owner : Nat) (complete : Bool) (error : Option String) :
    Except IndexerError (Queue × Bool) :=
  match (lookup IndexerJob.id id q.jobs).filter fun job => job.heldBy owner q.now with
  | none => .ok (q, false)
  | some job =>
      let answered := { q with jobs := upsert IndexerJob.id (job.finished complete error q.now) q.jobs }
      if complete = true then do
        let e ← okOr (lookup IndexerEvent.key job.key q.events) .acknowledgementTargetMissing
        let decoded := { answered with events := upsert IndexerEvent.key { e with decoded := true } q.events }
        return (markReady decoded job.network, true)
      else
        .ok (markDegraded answered job.network, true)

/-! ## Runs -/

inductive QueueLabel where
  | enqueueIndexerEvent (network : String) (delivery : Delivery)
  | enqueueIndexerEvents (network : String) (deliveries : List Delivery)
  | claimIndexerJobs (network : String) (owner limit leaseSeconds : Nat) (locked : List Nat)
  | finishIndexerJob (id owner : Nat) (complete : Bool) (error : Option String)
  | tick (seconds : Nat)
  deriving DecidableEq, Repr

def step (q : Queue) : QueueLabel → Except IndexerError Queue
  | .enqueueIndexerEvent network delivery => Prod.fst <$> enqueueIndexerEvent q network delivery
  | .enqueueIndexerEvents network deliveries => Prod.fst <$> enqueueIndexerEvents q network deliveries
  | .claimIndexerJobs network owner limit leaseSeconds locked =>
      Prod.fst <$> claimIndexerJobs q network owner limit leaseSeconds locked
  | .finishIndexerJob id owner complete error => Prod.fst <$> finishIndexerJob q id owner complete error
  | .tick seconds => .ok { q with now := q.now + seconds }

def emptyQueue (sync : String → Option SyncState) (now : Int) : Queue where
  events := []
  jobs := []
  sync
  now

end Mancipatio.Indexer
