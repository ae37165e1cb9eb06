import Mancipatio.Library.Bytes
import Mancipatio.Library.Rows
import Mancipatio.Texts

/-!
# The journal of a send to wallets

Every transaction of a run is written down before it is broadcast, and read back against the network before anything
is signed again. A base58 decoder that may refuse its input is a parameter.
-/

namespace Mancipatio.SendRun
open Bytes Rows

inductive JournalTxStatus where
  | signed
  | sent
  | confirmed
  | failed
  | expired
  deriving DecidableEq, Repr

inductive AuditMark where
  | pending
  | final
  deriving DecidableEq, Repr

structure JournalTx where
  signature : String
  lastValidBlockHeight : Nat
  rows : List String
  status : JournalTxStatus
  audited : Option AuditMark := none
  deriving DecidableEq, Repr

inductive TxOutcome where
  | confirmed
  | failed
  | expired
  | pending
  deriving DecidableEq, Repr

inductive MintStatus where
  | sent
  | confirmed
  | failed
  | expired
  deriving DecidableEq, Repr

structure JournalMint where
  signature : String
  lastValidBlockHeight : Nat
  amount : Nat
  reservationId : String
  status : MintStatus
  audited : Option AuditMark := none
  deriving DecidableEq, Repr

structure Row where
  wallet : String
  amount : Nat
  deriving DecidableEq, Repr

/-- Times are milliseconds. -/
structure DistributionJournal where
  runId : String
  mint : String
  rows : List Row
  createdAt : Int
  mintTx : Option JournalMint
  txs : List JournalTx
  finishedAt : Option Int
  dismissedAt : Option Int
  deriving DecidableEq, Repr

def newJournal (runId mint : String) (rows : List Row) (now : Int) : DistributionJournal :=
  { runId, mint, rows, createdAt := now, mintTx := none, txs := [], finishedAt := none, dismissedAt := none }

def withTx (journal : DistributionJournal) (tx : JournalTx) : DistributionJournal :=
  { journal with txs := journal.txs.filter (fun t => t.signature ≠ tx.signature) ++ [tx] }

def statusOf : TxOutcome → Option JournalTxStatus
  | .confirmed => some .confirmed
  | .failed => some .failed
  | .expired => some .expired
  | .pending => none

def decidedTx (outcomes : String → Option TxOutcome) (t : JournalTx) : JournalTx :=
  match (outcomes t.signature).bind statusOf with
  | none => t
  | some status => if t.status = .confirmed then t else { t with status }

def withOutcomes (journal : DistributionJournal) (outcomes : String → Option TxOutcome) : DistributionJournal :=
  { journal with txs := journal.txs.map (decidedTx outcomes) }

theorem decidedTx_same (outcomes : String → Option TxOutcome) (t : JournalTx) : decidedTx outcomes t =
    { t with status := (decidedTx outcomes t).status, audited := (decidedTx outcomes t).audited } := by
  unfold decidedTx
  split
  · rfl
  · split <;> rfl

/-! ## Audit rows -/

inductive AuditDue where
  | tx (signature : String) (rows : List String) (success : Bool)
  | mint (signature : String) (amount : Nat) (reservationId : String) (success : Bool)
  deriving DecidableEq, Repr

def txAuditDue (t : JournalTx) : Option AuditDue :=
  if t.audited = some .final ∨ t.status ≠ .confirmed ∧ t.status ≠ .failed then none
  else some (.tx t.signature t.rows (t.status = .confirmed))

def mintAuditDue (m : JournalMint) : Option AuditDue :=
  if m.audited ≠ some .final ∧ (m.status = .confirmed ∨ m.status = .failed) then
    some (.mint m.signature m.amount m.reservationId (m.status = .confirmed))
  else
    none

def auditsDue (journal : DistributionJournal) : List AuditDue :=
  journal.txs.filterMap txAuditDue ++ (journal.mintTx.bind mintAuditDue).toList

def auditedTx (signatures : List String) (mark : AuditMark) (t : JournalTx) : JournalTx :=
  if t.signature ∈ signatures ∧ t.audited ≠ some .final then { t with audited := some mark } else t

def withAudited (journal : DistributionJournal) (signatures : List String) (mark : AuditMark) : DistributionJournal :=
  { journal with
    txs := journal.txs.map (auditedTx signatures mark)
    mintTx := journal.mintTx.map fun m =>
      if m.signature ∈ signatures ∧ m.audited ≠ some .final then { m with audited := some mark } else m }

theorem auditedTx_same (signatures : List String) (mark : AuditMark) (t : JournalTx) : auditedTx signatures mark t =
    { t with status := (auditedTx signatures mark t).status, audited := (auditedTx signatures mark t).audited } := by
  unfold auditedTx
  split <;> rfl

theorem auditedTx_status (signatures : List String) (mark : AuditMark) (t : JournalTx) :
    (auditedTx signatures mark t).status = t.status := by
  unfold auditedTx
  split <;> rfl

/-! ## What the network answers -/

inductive Commitment where
  | processed
  | confirmed
  | finalized
  deriving DecidableEq, Repr

structure SignatureStatus where
  err : Bool
  confirmationStatus : Option Commitment
  deriving DecidableEq, Repr

def txOutcome (status : Option SignatureStatus) (lastValidBlockHeight finalizedBlockHeight : Nat) : TxOutcome :=
  match status with
  | some status =>
      if status.err then .failed
      else if status.confirmationStatus = some .confirmed ∨ status.confirmationStatus = some .finalized then .confirmed
      else .pending
  | none => if finalizedBlockHeight > lastValidBlockHeight then .expired else .pending

structure Instruction where
  programIdIndex : Nat
  accounts : List Nat
  data : String
  deriving DecidableEq, Repr

structure RawTransaction where
  blockTime : Option Int
  err : Bool
  accountKeys : List String
  instructions : List Instruction
  deriving DecidableEq, Repr

structure TreasuryTransfer where
  signature : String
  destination : String
  amount : Nat
  blockTime : Option Int
  deriving DecidableEq, Repr

def transferChecked : UInt8 := 12

def transferOf (decode58 : String → Option (List UInt8)) (tx : RawTransaction) (signature source mint : String)
    (ix : Instruction) : Option TreasuryTransfer :=
  if tx.accountKeys[ix.programIdIndex]? ≠ some token2022 then none
  else do
    let data ← decode58 ix.data
    if data.length < 10 ∨ data[0]? ≠ some transferChecked then none
    else
      match (ix.accounts.take 3).map fun i => tx.accountKeys[i]? with
      | [some from', some mint', some destination] =>
          if from' ≠ source ∨ mint' ≠ mint ∨ destination = "" then none
          else some ⟨signature, destination, ofLittleEndian ((data.drop 1).take 8), tx.blockTime⟩
      | _ => none

def transfersFromTransaction (decode58 : String → Option (List UInt8)) (tx : RawTransaction)
    (signature source mint : String) : List TreasuryTransfer :=
  if tx.err then [] else tx.instructions.filterMap (transferOf decode58 tx signature source mint)

structure SignatureInfo where
  signature : String
  blockTime : Option Int
  err : Bool
  deriving DecidableEq, Repr

def recentSignatures (sinceSec : Int) (signatures : List SignatureInfo) : List SignatureInfo :=
  (signatures.takeWhile fun s => s.blockTime.all fun time => ¬ time < sinceSec).filter fun s => ! s.err

structure TreasuryHistory where
  transfers : List TreasuryTransfer
  landed : List String

def recentTreasuryTransfers (decode58 : String → Option (List UInt8)) (signatures : List SignatureInfo)
    (getTransaction : String → Option RawTransaction) (source mint : String) (sinceSec : Int) (skip : List String) :
    TreasuryHistory :=
  let recent := (recentSignatures sinceSec signatures).map SignatureInfo.signature
  { transfers := (recent.filter (· ∉ skip)).flatMap fun signature =>
      match getTransaction signature with
      | some tx => transfersFromTransaction decode58 tx signature source mint
      | none => []
    landed := recent.filter (· ∈ skip) }

/-! ## The state of each row -/

inductive Via where
  | journal
  | backstop
  deriving DecidableEq, Repr

inductive RowState where
  | done (signature : String) (via : Via)
  | pending (signature : String)
  | todo
  deriving DecidableEq, Repr

abbrev RowStates := String → Option RowState

def outcomeOf (outcomes : String → Option TxOutcome) (t : JournalTx) : TxOutcome :=
  if t.status = .confirmed then .confirmed
  else (outcomes t.signature).getD
    (match t.status with
      | .failed => .failed
      | .expired => .expired
      | _ => .pending)

def markRow (outcome : TxOutcome) (signature : String) (states : RowStates) (wallet : String) : RowStates :=
  match states wallet, outcome with
  | none, _ => states
  | some (.done _ _), _ => states
  | some _, .confirmed => Function.update states wallet (some (.done signature .journal))
  | some _, .pending => Function.update states wallet (some (.pending signature))
  | some _, _ => states

def listedRows (rows : List Row) : RowStates := fun wallet =>
  if wallet ∈ rows.map Row.wallet then some .todo else none

def journalStates (outcomes : String → Option TxOutcome) (journal : DistributionJournal) : RowStates :=
  journal.txs.foldl (fun states t => t.rows.foldl (markRow (outcomeOf outcomes t) t.signature) states)
    (listedRows journal.rows)

local instance lawfulPairs : LawfulBEq (String × String) := inferInstance

/-- One row of the backstop: the transfers used so far, with their destinations, are not used again. -/
def backstopRow (explained : List String) (destinationOf : String → Option String) (backstop : List TreasuryTransfer)
    (sofar : RowStates × List (String × String)) (row : Row) : RowStates × List (String × String) :=
  if sofar.1 row.wallet ≠ some .todo then sofar
  else
    match backstop.find? fun t => t.signature ∉ explained ∧ some t.destination = destinationOf row.wallet ∧
        t.amount = row.amount ∧ (t.signature, t.destination) ∉ sofar.2 with
    | none => sofar
    | some hit =>
        (Function.update sofar.1 row.wallet (some (.done hit.signature .backstop)),
          sofar.2 ++ [(hit.signature, hit.destination)])

def rowStates (journal : DistributionJournal) (outcomes : String → Option TxOutcome)
    (destinationOf : String → Option String) (backstop : List TreasuryTransfer) : RowStates :=
  (journal.rows.foldl (backstopRow (journal.txs.map JournalTx.signature) destinationOf backstop)
    (journalStates outcomes journal, [])).1

def values (journal : DistributionJournal) (states : RowStates) : List RowState :=
  journal.rows.filterMap fun row => states row.wallet

/-! ## The evaluation of a run -/

structure RunEvaluation where
  journal : DistributionJournal
  states : RowStates
  outcomes : String → Option TxOutcome
  mint : Option TxOutcome

structure Answers where
  status : String → Option SignatureStatus
  height : Nat
  lookup : String → Option RawTransaction
  signatures : List SignatureInfo
  getTransaction : String → Option RawTransaction
  source : String
  destinations : String → Option String
  backstop : Bool
  now : Int

def signaturesOf (journal : DistributionJournal) : List String :=
  journal.txs.map JournalTx.signature ++ (journal.mintTx.map JournalMint.signature).toList

def firstOutcomes (answers : Answers) (journal : DistributionJournal) : String → Option TxOutcome :=
  journal.txs.foldl
    (fun outcomes t => Function.update outcomes t.signature
      (some (txOutcome (answers.status t.signature) t.lastValidBlockHeight answers.height)))
    fun _ => none

def firstMint (answers : Answers) (journal : DistributionJournal) : Option TxOutcome :=
  journal.mintTx.map fun m =>
    if m.status = .confirmed then .confirmed
    else txOutcome (answers.status m.signature) m.lastValidBlockHeight answers.height

def newlyExpired (answers : Answers) (journal : DistributionJournal) : List String :=
  ((journal.txs.filter fun t => firstOutcomes answers journal t.signature = some .expired ∧
      (t.status = .signed ∨ t.status = .sent)).map JournalTx.signature) ++
    (journal.mintTx.filter fun m => firstMint answers journal = some .expired ∧ m.status = .sent).toList.map
      JournalMint.signature

def landedOutcome (lookup : String → Option RawTransaction) (signature : String) : Option TxOutcome :=
  (lookup signature).map fun tx => if tx.err then .failed else .confirmed

abbrev Outcomes := (String → Option TxOutcome) × Option TxOutcome

def applyLookup (answers : Answers) (journal : DistributionJournal) (sofar : Outcomes) (signature : String) : Outcomes :=
  match landedOutcome answers.lookup signature with
  | none => sofar
  | some o =>
      if journal.mintTx.map JournalMint.signature = some signature then (sofar.1, some o)
      else (Function.update sofar.1 signature (some o), sofar.2)

def lookedUp (answers : Answers) (journal : DistributionJournal) : Outcomes :=
  (newlyExpired answers journal).foldl (applyLookup answers journal) (firstOutcomes answers journal, firstMint answers journal)

def applyLanded (journal : DistributionJournal) (sofar : Outcomes) (signature : String) : Outcomes :=
  (if (sofar.1 signature).isSome ∧ sofar.1 signature ≠ some .failed then
      Function.update sofar.1 signature (some .confirmed)
    else sofar.1,
    if journal.mintTx.map JournalMint.signature = some signature ∧ sofar.2 ≠ some .failed then some .confirmed
    else sofar.2)

def historyOf (decode58 : String → Option (List UInt8)) (answers : Answers) (journal : DistributionJournal) :
    TreasuryHistory :=
  recentTreasuryTransfers decode58 answers.signatures answers.getTransaction answers.source journal.mint
    (journal.createdAt / 1000 - 120) (signaturesOf journal)

def wantsBackstop (answers : Answers) (journal : DistributionJournal) : Prop :=
  answers.backstop = true ∧
    RowState.todo ∈ values journal (rowStates journal (lookedUp answers journal).1 answers.destinations []) ∧
    (journal.txs ≠ [] ∨ journal.mintTx.isSome)

instance (answers : Answers) (journal : DistributionJournal) : Decidable (wantsBackstop answers journal) :=
  inferInstanceAs (Decidable (_ ∧ _ ∧ _))

def finalOutcomes (decode58 : String → Option (List UInt8)) (answers : Answers) (journal : DistributionJournal) : Outcomes :=
  if wantsBackstop answers journal then
    (historyOf decode58 answers journal).landed.foldl (applyLanded journal) (lookedUp answers journal)
  else
    lookedUp answers journal

def settledMint (mint : Option TxOutcome) (m : JournalMint) : JournalMint :=
  if m.status = .confirmed then m
  else
    match mint with
    | some .confirmed => { m with status := .confirmed }
    | some .failed => { m with status := .failed }
    | some .expired => { m with status := .expired }
    | _ => m

def RowState.isDone : RowState → Bool
  | .done _ _ => true
  | _ => false

def RowState.isPending : RowState → Bool
  | .pending _ => true
  | _ => false

def evaluateRun (decode58 : String → Option (List UInt8)) (answers : Answers) (journal : DistributionJournal) :
    RunEvaluation :=
  let outcomes := finalOutcomes decode58 answers journal
  let transfers := if wantsBackstop answers journal then (historyOf decode58 answers journal).transfers else []
  let states := rowStates journal outcomes.1 answers.destinations transfers
  let next := withOutcomes journal outcomes.1
  let allDone := (values journal states).all RowState.isDone
  { journal := { next with
      mintTx := next.mintTx.map (settledMint outcomes.2)
      finishedAt := if allDone ∧ next.finishedAt.isNone then some answers.now else next.finishedAt }
    states
    outcomes := outcomes.1
    mint := outcomes.2 }

def RunEvaluation.waits (evaluation : RunEvaluation) : Bool :=
  evaluation.mint = some .pending ∨ (values evaluation.journal evaluation.states).any RowState.isPending

def dismissJournal (evaluation : RunEvaluation) (now : Int) : Except String DistributionJournal :=
  if evaluation.waits then
    .error "Some transactions of this run are still waiting for the network; it can be dismissed once they land or expire (about 2 minutes)."
  else
    .ok { evaluation.journal with dismissedAt := some now }

/-! ## Row states -/

section rowStates
variable {outcomes : String → Option TxOutcome} {journal : DistributionJournal} {states : RowStates}
variable {wallet : String} {rows : List String} {txs : List JournalTx}

inductive Standing (outcomes : String → Option TxOutcome) (txs : List JournalTx) (wallet : String) : RowState → Prop
  | done {t} : t ∈ txs → wallet ∈ t.rows → outcomeOf outcomes t = .confirmed →
      Standing outcomes txs wallet (.done t.signature .journal)
  | pending {t} : t ∈ txs → wallet ∈ t.rows → outcomeOf outcomes t = .pending →
      (∀ t ∈ txs, wallet ∈ t.rows → outcomeOf outcomes t ≠ .confirmed) → Standing outcomes txs wallet (.pending t.signature)
  | todo : (∀ t ∈ txs, wallet ∈ t.rows → outcomeOf outcomes t = .failed ∨ outcomeOf outcomes t = .expired) →
      Standing outcomes txs wallet .todo

theorem markRow_other (outcome : TxOutcome) (signature : String) {other : String} (apart : wallet ≠ other) :
    markRow outcome signature states other wallet = states wallet := by
  unfold markRow
  cases states other with
  | none => rfl
  | some state =>
      cases state <;> cases outcome <;> first | rfl | exact Function.update_of_ne apart _ _

def marked (outcome : TxOutcome) (signature : String) : RowState → RowState
  | .done s via => .done s via
  | state => match outcome with
    | .confirmed => .done signature .journal
    | .pending => .pending signature
    | _ => state

theorem markRow_own (outcome : TxOutcome) (signature : String) :
    markRow outcome signature states wallet wallet = (states wallet).map (marked outcome signature) := by
  unfold markRow
  cases state : states wallet with
  | none => exact state
  | some state' => cases state' <;> cases outcome <;> simp [marked, state]

theorem marked_marked (outcome : TxOutcome) (signature : String) (state : RowState) :
    marked outcome signature (marked outcome signature state) = marked outcome signature state := by
  cases state <;> cases outcome <;> rfl

theorem markRows (outcome : TxOutcome) (signature : String) :
    rows.foldl (markRow outcome signature) states wallet =
      if wallet ∈ rows then (states wallet).map (marked outcome signature) else states wallet := by
  induction rows generalizing states with
  | nil => rfl
  | cons first rest ih =>
      rw [List.foldl_cons, ih]
      by_cases own : wallet = first
      · subst own
        rw [markRow_own, if_pos List.mem_cons_self, Option.map_map]
        split
        · congr 1
          exact funext (marked_marked outcome signature)
        · rfl
      · rw [markRow_other outcome signature own]
        simp only [List.mem_cons, own, false_or]

theorem standing_step {t : JournalTx} {state : RowState} (standing : Standing outcomes txs wallet state)
    (pays : wallet ∈ t.rows) :
    Standing outcomes (txs ++ [t]) wallet (marked (outcomeOf outcomes t) t.signature state) := by
  have last : t ∈ txs ++ [t] := List.mem_append_right _ (List.mem_singleton_self t)
  have others {P : JournalTx → Prop} (earlier : ∀ t' ∈ txs, P t') (new : P t) : ∀ t' ∈ txs ++ [t], P t' :=
    List.forall_mem_append.mpr ⟨earlier, List.forall_mem_singleton.mpr new⟩
  cases standing with
  | done member listed confirmed => exact .done (List.mem_append_left _ member) listed confirmed
  | pending member listed waits unconfirmed =>
      have kept := List.mem_append_left [t] member
      cases outcome : outcomeOf outcomes t with
      | confirmed => exact .done last pays outcome
      | pending => exact .pending last pays outcome (others unconfirmed fun _ => by simp [outcome])
      | failed => exact .pending kept listed waits (others unconfirmed fun _ => by simp [outcome])
      | expired => exact .pending kept listed waits (others unconfirmed fun _ => by simp [outcome])
  | todo closed =>
      cases outcome : outcomeOf outcomes t with
      | confirmed => exact .done last pays outcome
      | pending =>
          refine .pending last pays outcome (others (fun t' member listed => ?_) fun _ => by simp [outcome])
          rcases closed t' member listed with failed | expired
          · simp [failed]
          · simp [expired]
      | failed => exact .todo (others closed fun _ => .inl outcome)
      | expired => exact .todo (others closed fun _ => .inr outcome)

theorem Standing.skip {t : JournalTx} {state : RowState} (standing : Standing outcomes txs wallet state)
    (unpaid : wallet ∉ t.rows) : Standing outcomes (txs ++ [t]) wallet state := by
  have others {P : JournalTx → Prop} (earlier : ∀ t' ∈ txs, wallet ∈ t'.rows → P t') : ∀ t' ∈ txs ++ [t], wallet ∈ t'.rows → P t' :=
    List.forall_mem_append.mpr ⟨earlier, List.forall_mem_singleton.mpr fun listed => absurd listed unpaid⟩
  cases standing with
  | done member listed confirmed => exact .done (List.mem_append_left _ member) listed confirmed
  | pending member listed waits unconfirmed => exact .pending (List.mem_append_left _ member) listed waits (others unconfirmed)
  | todo closed => exact .todo (others closed)

theorem journalStates_standing (outcomes : String → Option TxOutcome) (journal : DistributionJournal)
    (listed : wallet ∈ journal.rows.map Row.wallet) :
    ∃ state, journalStates outcomes journal wallet = some state ∧ Standing outcomes journal.txs wallet state := by
  unfold journalStates
  induction journal.txs using List.reverseRecOn with
  | nil => exact ⟨.todo, if_pos listed, .todo (by simp)⟩
  | append_singleton txs t ih =>
      obtain ⟨state, known, standing⟩ := ih
      rw [List.foldl_append, List.foldl_cons, List.foldl_nil, markRows, known]
      by_cases pays : wallet ∈ t.rows
      · rw [if_pos pays]
        exact ⟨_, rfl, standing_step standing pays⟩
      · rw [if_neg pays]
        exact ⟨state, rfl, standing.skip pays⟩

theorem journalStates_unlisted (outcomes : String → Option TxOutcome) (journal : DistributionJournal)
    (unlisted : wallet ∉ journal.rows.map Row.wallet) : journalStates outcomes journal wallet = none := by
  unfold journalStates
  induction journal.txs using List.reverseRecOn with
  | nil => exact if_neg unlisted
  | append_singleton txs t ih =>
      rw [List.foldl_append, List.foldl_cons, List.foldl_nil, markRows, ih]
      split <;> rfl

theorem backstopRow_cases (explained : List String) (destinationOf : String → Option String)
    (backstop : List TreasuryTransfer) (sofar : RowStates × List (String × String)) (row : Row) (wallet : String) :
    (backstopRow explained destinationOf backstop sofar row).1 wallet = sofar.1 wallet ∨
      sofar.1 wallet = some .todo ∧
        ∃ signature, (backstopRow explained destinationOf backstop sofar row).1 wallet = some (.done signature .backstop) := by
  unfold backstopRow
  split
  case isTrue => exact .inl rfl
  case isFalse todo =>
    rw [not_not] at todo
    split
    · exact .inl rfl
    · next hit _ =>
        by_cases own : wallet = row.wallet
        · subst own
          exact .inr ⟨todo, hit.signature, Function.update_self _ _ _⟩
        · exact .inl (Function.update_of_ne own _ _)

theorem rowStates_cases (journal : DistributionJournal) (outcomes : String → Option TxOutcome)
    (destinationOf : String → Option String) (backstop : List TreasuryTransfer) (wallet : String) :
    rowStates journal outcomes destinationOf backstop wallet = journalStates outcomes journal wallet ∨
      journalStates outcomes journal wallet = some .todo ∧
        ∃ signature, rowStates journal outcomes destinationOf backstop wallet = some (.done signature .backstop) := by
  unfold rowStates
  induction journal.rows using List.reverseRecOn with
  | nil => exact .inl rfl
  | append_singleton rows row ih =>
      rw [List.foldl_append, List.foldl_cons, List.foldl_nil]
      rcases backstopRow_cases (journal.txs.map JournalTx.signature) destinationOf backstop
        (rows.foldl (backstopRow (journal.txs.map JournalTx.signature) destinationOf backstop)
          (journalStates outcomes journal, [])) row wallet with same | ⟨todo, signature, marked⟩
      · rw [same]
        exact ih
      · rcases ih with same | ⟨-, earlier, done⟩
        · exact .inr ⟨same ▸ todo, signature, marked⟩
        · rw [done] at todo
          cases todo

end rowStates

/-! ## Outcomes -/

section outcomes
variable {answers : Answers} {journal : DistributionJournal} {t : JournalTx}

inductive Decision (answers : Answers) (t : JournalTx) : TxOutcome → Prop
  | status : (txOutcome (answers.status t.signature) t.lastValidBlockHeight answers.height = .expired →
        t.status = .signed ∨ t.status = .sent → answers.lookup t.signature = none) →
      Decision answers t (txOutcome (answers.status t.signature) t.lastValidBlockHeight answers.height)
  | found {tx} : answers.lookup t.signature = some tx → Decision answers t (if tx.err then .failed else .confirmed)
  | landed {s} : s ∈ answers.signatures → s.signature = t.signature → s.err = false → Decision answers t .confirmed

theorem firstOutcomes_eq (distinct : (journal.txs.map JournalTx.signature).Nodup) (member : t ∈ journal.txs) :
    firstOutcomes answers journal t.signature =
      some (txOutcome (answers.status t.signature) t.lastValidBlockHeight answers.height) :=
  filled_of_mem JournalTx.signature _ _ distinct member

theorem newlyExpired_of_expired (member : t ∈ journal.txs) (expired : firstOutcomes answers journal t.signature = some .expired)
    (undecided : t.status = .signed ∨ t.status = .sent) : t.signature ∈ newlyExpired answers journal := by
  apply List.mem_append_left
  apply List.mem_map_of_mem
  rw [List.mem_filter, decide_eq_true_eq]
  exact ⟨member, expired, undecided⟩

theorem applyLookups (signatures : List String) (sofar : Outcomes) (signature : String)
    (own : journal.mintTx.map JournalMint.signature ≠ some signature) :
    (signatures.foldl (applyLookup answers journal) sofar).1 signature =
      if signature ∈ signatures then (landedOutcome answers.lookup signature).or (sofar.1 signature)
      else sofar.1 signature := by
  induction signatures generalizing sofar with
  | nil => rfl
  | cons first rest ih =>
      have once : (applyLookup answers journal sofar first).1 signature =
          if signature = first then (landedOutcome answers.lookup signature).or (sofar.1 signature)
          else sofar.1 signature := by
        unfold applyLookup
        by_cases here : signature = first
        · subst here
          rw [if_pos rfl]
          cases landedOutcome answers.lookup signature with
          | none => rfl
          | some o =>
              simp only [if_neg own]
              exact Function.update_self _ _ _
        · rw [if_neg here]
          cases landedOutcome answers.lookup first with
          | none => rfl
          | some o =>
              dsimp only
              split
              · rfl
              · exact Function.update_of_ne here _ _
      rw [List.foldl_cons, ih, once]
      by_cases here : signature = first
      · subst here
        rw [if_pos rfl, if_pos List.mem_cons_self]
        cases landedOutcome answers.lookup signature <;> simp
      · simp [here]

theorem applyLandeds (signatures : List String) (sofar : Outcomes) (signature : String) :
    (signatures.foldl (applyLanded journal) sofar).1 signature = sofar.1 signature ∨
      signature ∈ signatures ∧ (signatures.foldl (applyLanded journal) sofar).1 signature = some .confirmed := by
  induction signatures generalizing sofar with
  | nil => exact .inl rfl
  | cons first rest ih =>
      rw [List.foldl_cons]
      have once : (applyLanded journal sofar first).1 signature = sofar.1 signature ∨
          signature = first ∧ (applyLanded journal sofar first).1 signature = some .confirmed := by
        unfold applyLanded
        by_cases here : signature = first
        · subst here
          dsimp only
          split
          · exact .inr ⟨rfl, Function.update_self _ _ _⟩
          · exact .inl rfl
        · dsimp only
          split
          · exact .inl (Function.update_of_ne here _ _)
          · exact .inl rfl
      rcases ih (applyLanded journal sofar first) with same | ⟨later, confirmed⟩
      · rcases once with unchanged | ⟨here, confirmed⟩
        · exact .inl (same.trans unchanged)
        · exact .inr ⟨here ▸ List.mem_cons_self, same.trans confirmed⟩
      · exact .inr ⟨List.mem_cons_of_mem _ later, confirmed⟩

theorem landed_listed {decode58 : String → Option (List UInt8)} {signature : String}
    (landed : signature ∈ (historyOf decode58 answers journal).landed) :
    ∃ s ∈ answers.signatures, s.signature = signature ∧ s.err = false := by
  obtain ⟨recent, -⟩ := List.mem_filter.mp landed
  obtain ⟨s, among, rfl⟩ := List.mem_map.mp recent
  obtain ⟨early, fine⟩ := List.mem_filter.mp among
  exact ⟨s, (List.takeWhile_sublist _).subset early, rfl, by simpa using fine⟩

theorem lookedUp_decision (distinct : (journal.txs.map JournalTx.signature).Nodup)
    (own : journal.mintTx.map JournalMint.signature ≠ some t.signature) (member : t ∈ journal.txs) :
    ∃ o, (lookedUp answers journal).1 t.signature = some o ∧ Decision answers t o := by
  have first : firstOutcomes answers journal t.signature =
      some (txOutcome (answers.status t.signature) t.lastValidBlockHeight answers.height) := firstOutcomes_eq distinct member
  rw [lookedUp, applyLookups _ _ _ own]
  dsimp only
  rw [first]
  split
  case isTrue =>
    cases found : answers.lookup t.signature with
    | none => exact ⟨_, by rw [landedOutcome, found]; rfl, .status fun _ _ => found⟩
    | some tx => exact ⟨_, by rw [landedOutcome, found]; rfl, .found found⟩
  case isFalse unasked =>
    refine ⟨_, rfl, .status fun expired undecided => ?_⟩
    exact absurd (newlyExpired_of_expired member (first.trans (congrArg some expired)) undecided) unasked

theorem finalOutcomes_decision (decode58 : String → Option (List UInt8))
    (distinct : (journal.txs.map JournalTx.signature).Nodup)
    (own : journal.mintTx.map JournalMint.signature ≠ some t.signature) (member : t ∈ journal.txs) :
    ∃ o, (finalOutcomes decode58 answers journal).1 t.signature = some o ∧ Decision answers t o := by
  unfold finalOutcomes
  split
  case isTrue =>
    rcases @applyLandeds journal (historyOf decode58 answers journal).landed (lookedUp answers journal) t.signature
      with same | ⟨landed, confirmed⟩
    · rw [same]
      exact lookedUp_decision distinct own member
    · obtain ⟨s, among, name, fine⟩ := landed_listed landed
      exact ⟨.confirmed, confirmed, .landed among name fine⟩
  case isFalse => exact lookedUp_decision distinct own member

theorem outcomeOf_eq {outcomes : String → Option TxOutcome} {o : TxOutcome} (known : outcomes t.signature = some o) :
    outcomeOf outcomes t = if t.status = .confirmed then .confirmed else o := by
  rw [outcomeOf, known, Option.getD_some]

theorem decidedTx_eq {outcomes : String → Option TxOutcome} {o : TxOutcome} (known : outcomes t.signature = some o) :
    decidedTx outcomes t = { t with status := if t.status = .confirmed then .confirmed else (statusOf o).getD t.status } := by
  unfold decidedTx
  rw [known, Option.bind_some]
  cases o with
  | pending =>
      by_cases confirmed : t.status = .confirmed
      · simp [statusOf, ← confirmed]
      · simp [statusOf, confirmed]
  | confirmed | failed | expired =>
      by_cases confirmed : t.status = .confirmed
      · simp [statusOf, ← confirmed]
      · simp [statusOf, confirmed]

theorem settledMint_signature (mint : Option TxOutcome) (m : JournalMint) :
    (settledMint mint m).signature = m.signature := by
  unfold settledMint
  split
  · rfl
  · cases mint with
    | none => rfl
    | some o => cases o <;> rfl

theorem evaluateRun_mint (decode58 : String → Option (List UInt8)) :
    (evaluateRun decode58 answers journal).journal.mintTx.map JournalMint.signature =
      journal.mintTx.map JournalMint.signature := by
  show Option.map _ (Option.map _ journal.mintTx) = _
  rw [Option.map_map]
  congr 1
  exact funext (settledMint_signature _)

theorem evaluateRun_standing (decode58 : String → Option (List UInt8)) {wallet : String}
    (listed : wallet ∈ journal.rows.map Row.wallet) :
    ∃ state, Standing (finalOutcomes decode58 answers journal).1 journal.txs wallet state ∧
      ((evaluateRun decode58 answers journal).states wallet = some state ∨
        state = .todo ∧ ∃ s, (evaluateRun decode58 answers journal).states wallet = some (.done s .backstop)) := by
  obtain ⟨state, known, standing⟩ := journalStates_standing (finalOutcomes decode58 answers journal).1 journal listed
  refine ⟨state, standing, ?_⟩
  rcases rowStates_cases journal (finalOutcomes decode58 answers journal).1 answers.destinations
    (if wantsBackstop answers journal then (historyOf decode58 answers journal).transfers else []) wallet with
    same | ⟨todo, found⟩
  · exact .inl (same.trans known)
  · exact .inr ⟨Option.some.inj (known.symm.trans todo), found⟩

theorem evaluateRun_unlisted (decode58 : String → Option (List UInt8)) {wallet : String}
    (unlisted : wallet ∉ journal.rows.map Row.wallet) : (evaluateRun decode58 answers journal).states wallet = none := by
  have none' := journalStates_unlisted (finalOutcomes decode58 answers journal).1 journal unlisted
  rcases rowStates_cases journal (finalOutcomes decode58 answers journal).1 answers.destinations
    (if wantsBackstop answers journal then (historyOf decode58 answers journal).transfers else []) wallet with
    same | ⟨todo, -⟩
  · exact same.trans none'
  · rw [none'] at todo
    cases todo

end outcomes

end Mancipatio.SendRun
