import Mancipatio.Distributions.SendJournal
import Mancipatio.Library.Checked
import Mancipatio.Library.Execution

/-!
# A send to wallets pays each wallet once

The page, its journal and the chain take steps in any order: every answer of the network is a step of its own, given of
the chain as it is at that moment, and the page may be closed or reloaded between any two steps.
-/

namespace Mancipatio.SendRun
open Checked Execution Rows

inductive Fate where
  | paid
  | refused
  deriving DecidableEq, Repr

structure Chain where
  finalized : Nat
  landed : String → Option Fate

inductive Purpose where
  | look
  | send
  | dismiss
  deriving DecidableEq, Repr

structure Reading where
  purpose : Purpose
  status : String → Option SignatureStatus
  height : Option Nat
  lookup : String → Option (Option RawTransaction)
  signatures : List SignatureInfo
  getTransaction : String → Option RawTransaction

structure Session where
  todo : List String
  signed : List String
  sent : List String
  deriving DecidableEq, Repr

inductive Page where
  | idle
  | reading (reading : Reading)
  | sending (session : Session)

structure World where
  chain : Chain
  journal : DistributionJournal
  page : Page

inductive Event where
  | finalize (height : Nat)
  | land (signature : String) (height : Nat) (fate : Fate)
  | evaluate (purpose : Purpose)
  | answerStatus (signature : String) (status : Option SignatureStatus)
  | answerHeight (height : Nat)
  | answerLookup (signature : String) (tx : Option RawTransaction)
  | answerHistory (signatures : List SignatureInfo) (getTransaction : String → Option RawTransaction)
  | finish (source : String) (destinations : String → Option String) (backstop : Bool) (now : Int)
  | sign (signature : String) (lastValidBlockHeight : Nat) (rows : List String)
  | broadcast (signature : String)
  | settle (signature : String) (fate : Fate)
  | recordMint (mint : JournalMint)
  | audit (signatures : List String) (mark : AuditMark)
  | leave

instance : Inhabited Event := ⟨.leave⟩

inductive Refusal where
  | impossible
  | dishonest
  | outOfTurn
  deriving DecidableEq, Repr

/-! ## The network's answers -/

def fateOf (err : Bool) : Fate :=
  if err then .refused else .paid

/-- An error, or a confirmation, is reported of a transaction that ended so; nothing is promised of a transaction that
is not found or not yet confirmed. -/
def honestStatus (chain : Chain) (signature : String) : Option SignatureStatus → Prop
  | none => True
  | some status =>
      (status.err = true → chain.landed signature = some .refused) ∧
      (status.err = false → status.confirmationStatus = some .confirmed ∨ status.confirmationStatus = some .finalized →
        chain.landed signature = some .paid)

instance (chain : Chain) (signature : String) (status : Option SignatureStatus) :
    Decidable (honestStatus chain signature status) :=
  match status with
  | none => .isTrue trivial
  | some _ => inferInstanceAs (Decidable (_ ∧ _))

def honestLookup (chain : Chain) (signature : String) (tx : Option RawTransaction) : Prop :=
  chain.landed signature = tx.map fun tx => fateOf tx.err

instance (chain : Chain) (signature : String) (tx : Option RawTransaction) : Decidable (honestLookup chain signature tx) :=
  inferInstanceAs (Decidable (_ = _))

def honestHistory (chain : Chain) (signatures : List SignatureInfo) : Prop :=
  ∀ s ∈ signatures, s.err = false → chain.landed s.signature = some .paid

instance (chain : Chain) (signatures : List SignatureInfo) : Decidable (honestHistory chain signatures) :=
  inferInstanceAs (Decidable (∀ s ∈ signatures, _))

/-! ## Steps -/

def Page.reading? : Page → Option Reading
  | .reading r => some r
  | _ => none

def Page.sending? : Page → Option Session
  | .sending s => some s
  | _ => none

def Reading.start (purpose : Purpose) : Reading :=
  { purpose, status := fun _ => none, height := none, lookup := fun _ => none, signatures := [], getTransaction := fun _ => none }

def Reading.answers (r : Reading) (height : Nat) (source : String) (destinations : String → Option String)
    (backstop : Bool) (now : Int) : Answers :=
  { status := r.status, height, lookup := fun signature => (r.lookup signature).join, signatures := r.signatures
    getTransaction := r.getTransaction, source, destinations, backstop, now }

def todoRows (evaluation : RunEvaluation) : List String :=
  (evaluation.journal.rows.map Row.wallet).filter fun wallet => evaluation.states wallet = some .todo

/-- What the page does with an evaluation: a send starts only if nothing of the run may still land. -/
def conclude (w : World) (purpose : Purpose) (evaluation : RunEvaluation) (now : Int) : World :=
  match purpose with
  | .look => { w with journal := evaluation.journal, page := .idle }
  | .send =>
      if evaluation.waits then { w with journal := evaluation.journal, page := .idle }
      else
        { w with
          journal := { evaluation.journal with dismissedAt := none }
          page := .sending { todo := todoRows evaluation, signed := [], sent := [] } }
  | .dismiss =>
      match dismissJournal evaluation now with
      | .error _ => { w with page := .idle }
      | .ok journal => { w with journal, page := .idle }

def evaluation (decode58 : String → Option (List UInt8)) (w : World) (source : String)
    (destinations : String → Option String) (backstop : Bool) (now : Int) : Except Refusal (Purpose × RunEvaluation) := do
  let r ← okOr w.page.reading? .outOfTurn
  let height ← okOr r.height .outOfTurn
  let answers := r.answers height source destinations backstop now
  require (∀ signature ∈ newlyExpired answers w.journal, (r.lookup signature).isSome) .outOfTurn
  return (r.purpose, evaluateRun decode58 answers w.journal)

def step (decode58 : String → Option (List UInt8)) (w : World) : Event → Except Refusal World
  | .finalize height => do
      require (w.chain.finalized ≤ height) .impossible
      return { w with chain := { w.chain with finalized := height } }
  | .land signature height fate => do
      require (w.chain.landed signature = none) .impossible
      require (∀ t ∈ w.journal.txs, t.signature = signature →
        w.chain.finalized ≤ height ∧ height ≤ t.lastValidBlockHeight) .impossible
      return { w with chain := { w.chain with landed := Function.update w.chain.landed signature (some fate) } }
  | .evaluate purpose => return { w with page := .reading (.start purpose) }
  | .answerStatus signature status => do
      let r ← okOr w.page.reading? .outOfTurn
      require (r.height = none) .outOfTurn
      require (honestStatus w.chain signature status) .dishonest
      return { w with page := .reading { r with status := Function.update r.status signature status } }
  | .answerHeight height => do
      let r ← okOr w.page.reading? .outOfTurn
      require (r.height = none) .outOfTurn
      require (height ≤ w.chain.finalized) .dishonest
      return { w with page := .reading { r with height := some height } }
  | .answerLookup signature tx => do
      let r ← okOr w.page.reading? .outOfTurn
      require (r.height ≠ none) .outOfTurn
      require (honestLookup w.chain signature tx) .dishonest
      return { w with page := .reading { r with lookup := Function.update r.lookup signature (some tx) } }
  | .answerHistory signatures getTransaction => do
      let r ← okOr w.page.reading? .outOfTurn
      require (honestHistory w.chain signatures) .dishonest
      return { w with page := .reading { r with signatures, getTransaction } }
  | .finish source destinations backstop now => do
      let (purpose, evaluation) ← evaluation decode58 w source destinations backstop now
      return conclude w purpose evaluation now
  | .sign signature lastValidBlockHeight rows => do
      let s ← okOr w.page.sending? .outOfTurn
      require (rows.Nodup ∧ ∀ wallet ∈ rows, wallet ∈ s.todo) .outOfTurn
      require (w.chain.landed signature = none ∧ signature ∉ signaturesOf w.journal) .impossible
      return { w with
        journal := withTx w.journal { signature, lastValidBlockHeight, rows, status := .signed }
        page := .sending { s with todo := s.todo.filter (· ∉ rows), signed := s.signed ++ [signature] } }
  | .broadcast signature => do
      let s ← okOr w.page.sending? .outOfTurn
      require (signature ∈ s.signed) .outOfTurn
      let t ← okOr (lookup JournalTx.signature signature w.journal.txs) .outOfTurn
      return { w with
        journal := withTx w.journal { t with status := .sent }
        page := .sending { s with signed := s.signed.filter (· ≠ signature), sent := s.sent ++ [signature] } }
  | .settle signature fate => do
      let s ← okOr w.page.sending? .outOfTurn
      require (signature ∈ s.sent) .outOfTurn
      let t ← okOr (lookup JournalTx.signature signature w.journal.txs) .outOfTurn
      require (w.chain.landed signature = some fate) .dishonest
      return { w with
        journal := withTx w.journal { t with status := if fate = .paid then .confirmed else .failed }
        page := .sending { s with sent := s.sent.filter (· ≠ signature) } }
  | .recordMint mint => do
      let _ ← okOr w.page.sending? .outOfTurn
      require (mint.signature ∉ w.journal.txs.map JournalTx.signature) .impossible
      return { w with journal := { w.journal with mintTx := some mint } }
  | .audit signatures mark => do
      require (w.page.reading?.isNone) .outOfTurn
      return { w with journal := withAudited w.journal signatures mark }
  | .leave => return { w with page := .idle }

def World.start (finalized : Nat) (landed : String → Option Fate) (journal : DistributionJournal) : World :=
  { chain := { finalized, landed }, journal, page := .idle }

/-! ## What the journal vouches for -/

def Void (chain : Chain) (t : JournalTx) : Prop :=
  chain.landed t.signature = some .refused ∨
    chain.landed t.signature = none ∧ t.lastValidBlockHeight < chain.finalized

structure Vouched (chain : Chain) (journal : DistributionJournal) : Prop where
  signatures : (journal.txs.map JournalTx.signature).Nodup
  mint : ∀ t ∈ journal.txs, journal.mintTx.map JournalMint.signature ≠ some t.signature
  rows : ∀ t ∈ journal.txs, t.rows.Nodup
  confirmed : ∀ t ∈ journal.txs, t.status = .confirmed → chain.landed t.signature = some .paid
  closed : ∀ t ∈ journal.txs, t.status = .failed ∨ t.status = .expired → Void chain t
  apart : ∀ t ∈ journal.txs, ∀ t' ∈ journal.txs, t.signature ≠ t'.signature →
    ∀ wallet ∈ t.rows, wallet ∈ t'.rows → Void chain t ∨ Void chain t'

/-- What the page has been told was true when it was told, and stays true. -/
structure Informed (chain : Chain) (journal : DistributionJournal) (r : Reading) : Prop where
  status : ∀ signature, honestStatus chain signature (r.status signature)
  height : ∀ height, r.height = some height → height ≤ chain.finalized
  found : ∀ signature tx, r.lookup signature = some (some tx) → chain.landed signature = some (fateOf tx.err)
  missing : ∀ t ∈ journal.txs, r.lookup t.signature = some none →
    ∀ height, r.height = some height → t.lastValidBlockHeight < height → Void chain t
  asked : ∀ signature, r.lookup signature ≠ none → r.height ≠ none
  history : honestHistory chain r.signatures

structure Entitled (chain : Chain) (journal : DistributionJournal) (s : Session) : Prop where
  todo : ∀ wallet ∈ s.todo, ∀ t ∈ journal.txs, wallet ∈ t.rows → Void chain t
  signed : ∀ t ∈ journal.txs, t.signature ∈ s.signed → t.status = .signed
  sent : ∀ t ∈ journal.txs, t.signature ∈ s.sent → t.status = .sent
  known : ∀ signature ∈ s.signed ++ s.sent, signature ∈ journal.txs.map JournalTx.signature

def PageSound (chain : Chain) (journal : DistributionJournal) : Page → Prop
  | .idle => True
  | .reading r => Informed chain journal r
  | .sending s => Entitled chain journal s

structure Sound (w : World) : Prop where
  vouched : Vouched w.chain w.journal
  page : PageSound w.chain w.journal w.page

theorem reading_eq_some {page : Page} {r : Reading} : page.reading? = some r ↔ page = .reading r := by
  cases page <;> simp [Page.reading?]

theorem sending_eq_some {page : Page} {s : Session} : page.sending? = some s ↔ page = .sending s := by
  cases page <;> simp [Page.sending?]

theorem Sound.informed {w : World} {r : Reading} (sound : Sound w) (reading : w.page.reading? = some r) :
    Informed w.chain w.journal r := by
  have page := sound.page
  rwa [reading_eq_some.mp reading] at page

theorem Sound.entitled {w : World} {s : Session} (sound : Sound w) (sending : w.page.sending? = some s) :
    Entitled w.chain w.journal s := by
  have page := sound.page
  rwa [sending_eq_some.mp sending] at page

/-! ## The chain moves on -/

structure Later (txs : List JournalTx) (chain chain' : Chain) : Prop where
  finalized : chain.finalized ≤ chain'.finalized
  kept : ∀ signature fate, chain.landed signature = some fate → chain'.landed signature = some fate
  timely : ∀ t ∈ txs, chain.landed t.signature = none → chain'.landed t.signature ≠ none →
    chain.finalized ≤ t.lastValidBlockHeight

section later
variable {chain chain' : Chain} {journal journal' : DistributionJournal} {t tx : JournalTx} {r : Reading} {s : Session}

theorem Void.unpaid (void : Void chain t) : chain.landed t.signature ≠ some .paid := by
  rcases void with refused | ⟨never, -⟩
  · rw [refused]
    nofun
  · rw [never]
    nofun

theorem Void.later (void : Void chain t) (later : Later journal.txs chain chain') (member : t ∈ journal.txs) :
    Void chain' t := by
  rcases void with refused | ⟨never, past⟩
  · exact .inl (later.kept _ _ refused)
  · refine .inr ⟨?_, Nat.lt_of_lt_of_le past later.finalized⟩
    by_contra landed
    exact absurd (later.timely t member never landed) (Nat.not_le.mpr past)

theorem Vouched.later (vouched : Vouched chain journal) (later : Later journal.txs chain chain') : Vouched chain' journal where
  signatures := vouched.signatures
  mint := vouched.mint
  rows := vouched.rows
  confirmed := fun t member confirmed => later.kept _ _ (vouched.confirmed t member confirmed)
  closed := fun t member closed => (vouched.closed t member closed).later later member
  apart := fun t member t' member' apart wallet listed listed' =>
    (vouched.apart t member t' member' apart wallet listed listed').imp (fun void => void.later later member)
      fun void => void.later later member'

theorem honestStatus_later (later : Later journal.txs chain chain') {signature : String} {status : Option SignatureStatus}
    (honest : honestStatus chain signature status) : honestStatus chain' signature status := by
  cases status with
  | none => trivial
  | some status =>
      exact ⟨fun err => later.kept _ _ (honest.1 err), fun fine confirmed => later.kept _ _ (honest.2 fine confirmed)⟩

theorem Informed.later (informed : Informed chain journal r) (later : Later journal.txs chain chain') :
    Informed chain' journal r where
  status := fun signature => honestStatus_later later (informed.status signature)
  height := fun height read => (informed.height height read).trans later.finalized
  found := fun signature tx looked => later.kept _ _ (informed.found signature tx looked)
  missing := fun t member looked height read past => (informed.missing t member looked height read past).later later member
  asked := informed.asked
  history := fun s member fine => later.kept _ _ (informed.history s member fine)

theorem Entitled.later (entitled : Entitled chain journal s) (later : Later journal.txs chain chain') :
    Entitled chain' journal s :=
  { entitled with todo := fun wallet member t among listed => (entitled.todo wallet member t among listed).later later among }

theorem PageSound.later {page : Page} (sound : PageSound chain journal page) (later : Later journal.txs chain chain') :
    PageSound chain' journal page := by
  cases page with
  | idle => trivial
  | reading r => exact Informed.later sound later
  | sending s => exact Entitled.later sound later

/-! ## The journal is rewritten -/

theorem mem_withTx : t ∈ (withTx journal tx).txs ↔ t ∈ journal.txs ∧ t.signature ≠ tx.signature ∨ t = tx := by
  simp [withTx]

theorem known_withTx {name : String} (known : name ∈ journal.txs.map JournalTx.signature ∨ name = tx.signature) :
    name ∈ (withTx journal tx).txs.map JournalTx.signature := by
  by_cases same : name = tx.signature
  · exact List.mem_map.mpr ⟨tx, mem_withTx.mpr (.inr rfl), same.symm⟩
  · obtain ⟨t, member, rfl⟩ := List.mem_map.mp (known.resolve_right same)
    exact List.mem_map_of_mem (mem_withTx.mpr (.inl ⟨member, same⟩))

theorem Vouched.withTx (vouched : Vouched chain journal) (mint : journal.mintTx.map JournalMint.signature ≠ some tx.signature)
    (rows : tx.rows.Nodup) (confirmed : tx.status = .confirmed → chain.landed tx.signature = some .paid)
    (closed : tx.status = .failed ∨ tx.status = .expired → Void chain tx)
    (apart : ∀ t ∈ journal.txs, t.signature ≠ tx.signature → ∀ wallet ∈ t.rows, wallet ∈ tx.rows →
      Void chain t ∨ Void chain tx) : Vouched chain (withTx journal tx) where
  signatures := by
    have others : ((journal.txs.filter fun t => t.signature ≠ tx.signature).map JournalTx.signature).Nodup :=
      vouched.signatures.sublist (List.filter_sublist.map _)
    rw [SendRun.withTx, List.map_append, List.nodup_append]
    refine ⟨others, List.nodup_singleton _, ?_⟩
    intro signature member other single same
    obtain ⟨t, among, rfl⟩ := List.mem_map.mp member
    rw [List.map_singleton, List.mem_singleton] at single
    simpa [same, single] using (List.mem_filter.mp among).2
  mint := by
    intro t member
    rcases mem_withTx.mp member with ⟨stored, -⟩ | rfl
    · exact vouched.mint t stored
    · exact mint
  rows := by
    intro t member
    rcases mem_withTx.mp member with ⟨stored, -⟩ | rfl
    · exact vouched.rows t stored
    · exact rows
  confirmed := by
    intro t member
    rcases mem_withTx.mp member with ⟨stored, -⟩ | rfl
    · exact vouched.confirmed t stored
    · exact confirmed
  closed := by
    intro t member
    rcases mem_withTx.mp member with ⟨stored, -⟩ | rfl
    · exact vouched.closed t stored
    · exact closed
  apart := by
    intro t member t' member' differ wallet listed listed'
    rcases mem_withTx.mp member with ⟨stored, other⟩ | rfl
    · rcases mem_withTx.mp member' with ⟨stored', -⟩ | rfl
      · exact vouched.apart t stored t' stored' differ wallet listed listed'
      · exact apart t stored other wallet listed listed'
    · rcases mem_withTx.mp member' with ⟨stored', other⟩ | rfl
      · exact (apart t' stored' other wallet listed' listed).symm
      · exact absurd rfl differ

theorem Vouched.map {f : JournalTx → JournalTx} (vouched : Vouched chain journal) (txs : journal'.txs = journal.txs.map f)
    (mint : journal'.mintTx.map JournalMint.signature = journal.mintTx.map JournalMint.signature)
    (same : ∀ t, f t = { t with status := (f t).status, audited := (f t).audited })
    (confirmed : ∀ t ∈ journal.txs, (f t).status = .confirmed → chain.landed t.signature = some .paid)
    (closed : ∀ t ∈ journal.txs, (f t).status = .failed ∨ (f t).status = .expired → Void chain t) :
    Vouched chain journal' := by
  have signature : ∀ t, (f t).signature = t.signature := fun t => by rw [same t]
  have rows : ∀ t, (f t).rows = t.rows := fun t => by rw [same t]
  have void : ∀ t, Void chain (f t) ↔ Void chain t := fun t => by rw [same t]; rfl
  have members {P : JournalTx → Prop} (all : ∀ t ∈ journal.txs, P (f t)) : ∀ t ∈ journal'.txs, P t := by
    intro t member
    rw [txs] at member
    obtain ⟨old, stored, rfl⟩ := List.mem_map.mp member
    exact all old stored
  have names : journal'.txs.map JournalTx.signature = journal.txs.map JournalTx.signature := by
    rw [txs, List.map_map]
    exact List.map_congr_left fun t _ => signature t
  exact
    { signatures := by
        rw [names]
        exact vouched.signatures
      mint := members fun t member => by
        rw [mint, signature]
        exact vouched.mint t member
      rows := members fun t member => by
        rw [rows]
        exact vouched.rows t member
      confirmed := members fun t member status => by
        rw [signature]
        exact confirmed t member status
      closed := members fun t member status => (void t).mpr (closed t member status)
      apart := members fun t member => members fun t' member' differ wallet listed listed' => by
        rw [signature, signature] at differ
        rw [rows] at listed listed'
        rw [void, void]
        exact vouched.apart t member t' member' differ wallet listed listed' }

end later

/-! ## An evaluation tells the truth -/

section truth
variable {chain : Chain} {journal : DistributionJournal} {r : Reading} {height : Nat} {source : String}
variable {destinations : String → Option String} {backstop : Bool} {now : Int} {t : JournalTx} {o : TxOutcome}

theorem join_eq_some {α : Type} {o : Option (Option α)} {a : α} : o.join = some a ↔ o = some (some a) := by
  cases o <;> simp

/-- A page that was told the truth decides no transaction wrongly: one it has confirmed has paid, and one it gives up
has moved nothing and never will. -/
theorem decision_true (vouched : Vouched chain journal) (informed : Informed chain journal r) (read : r.height = some height)
    (asked : ∀ signature ∈ newlyExpired (r.answers height source destinations backstop now) journal,
      (r.lookup signature).isSome)
    (member : t ∈ journal.txs) (unconfirmed : t.status ≠ .confirmed)
    (decision : Decision (r.answers height source destinations backstop now) t o) :
    (o = .confirmed → chain.landed t.signature = some .paid) ∧ (o = .failed ∨ o = .expired → Void chain t) := by
  cases decision with
  | found looked =>
      have landed := informed.found _ _ (join_eq_some.mp looked)
      split
      case isTrue err =>
        rw [fateOf, if_pos err] at landed
        exact ⟨nofun, fun _ => .inl landed⟩
      case isFalse fine =>
        rw [fateOf, if_neg fine] at landed
        exact ⟨fun _ => landed, by simp⟩
  | landed among name fine =>
      have landed := informed.history _ among fine
      rw [name] at landed
      exact ⟨fun _ => landed, by simp⟩
  | status missing =>
      have honest := informed.status t.signature
      have outcome : firstOutcomes (r.answers height source destinations backstop now) journal t.signature =
          some (txOutcome ((r.answers height source destinations backstop now).status t.signature) t.lastValidBlockHeight
            (r.answers height source destinations backstop now).height) := firstOutcomes_eq vouched.signatures member
      rw [show (r.answers height source destinations backstop now).status = r.status from rfl] at missing outcome ⊢
      rw [show (r.answers height source destinations backstop now).height = height from rfl] at missing outcome ⊢
      cases answered : r.status t.signature with
      | some status =>
          rw [answered] at honest
          cases err : status.err with
          | true => exact ⟨by simp [txOutcome, err], fun _ => .inl (honest.1 err)⟩
          | false =>
              by_cases confirmed : status.confirmationStatus = some .confirmed ∨ status.confirmationStatus = some .finalized
              · exact ⟨fun _ => honest.2 err confirmed, by simp [txOutcome, err, confirmed]⟩
              · exact ⟨by simp [txOutcome, err, confirmed], by simp [txOutcome, err, confirmed]⟩
      | none =>
          rw [answered] at missing outcome
          by_cases past : height > t.lastValidBlockHeight
          · rw [txOutcome, if_pos past] at missing outcome ⊢
            refine ⟨nofun, fun _ => ?_⟩
            by_cases undecided : t.status = .signed ∨ t.status = .sent
            · have known := asked t.signature (newlyExpired_of_expired member outcome undecided)
              obtain ⟨answer, looked⟩ := Option.isSome_iff_exists.mp known
              have gone := missing rfl undecided
              rw [show (r.answers height source destinations backstop now).lookup t.signature =
                (r.lookup t.signature).join from rfl, looked, Option.join_some] at gone
              rw [gone] at looked
              exact informed.missing t member looked height read past
            · have decided : t.status = .failed ∨ t.status = .expired := by
                cases status : t.status <;> simp_all
              exact vouched.closed t member decided
          · rw [txOutcome, if_neg past]
            exact ⟨nofun, by simp⟩

theorem outcomeOf_true (decode58 : String → Option (List UInt8)) (vouched : Vouched chain journal)
    (informed : Informed chain journal r) (read : r.height = some height)
    (asked : ∀ signature ∈ newlyExpired (r.answers height source destinations backstop now) journal,
      (r.lookup signature).isSome)
    (member : t ∈ journal.txs) {outcomes : String → Option TxOutcome}
    (final : outcomes = (finalOutcomes decode58 (r.answers height source destinations backstop now) journal).1) :
    (outcomeOf outcomes t = .confirmed → chain.landed t.signature = some .paid) ∧
      (outcomeOf outcomes t = .failed ∨ outcomeOf outcomes t = .expired → Void chain t) ∧
      ((decidedTx outcomes t).status = .confirmed ↔ outcomeOf outcomes t = .confirmed) ∧
      ((decidedTx outcomes t).status = .failed ∨ (decidedTx outcomes t).status = .expired → Void chain t) := by
  have decided : ∃ o, (finalOutcomes decode58 (r.answers height source destinations backstop now) journal).1 t.signature = some o ∧
      Decision (r.answers height source destinations backstop now) t o :=
    finalOutcomes_decision decode58 vouched.signatures (vouched.mint t member) member
  obtain ⟨o, known, decision⟩ := decided
  rw [← final] at known
  rw [outcomeOf_eq known, decidedTx_eq known]
  by_cases confirmed : t.status = .confirmed
  · have paid := vouched.confirmed t member confirmed
    simp [confirmed, paid]
  · obtain ⟨truth, closed⟩ := decision_true vouched informed read asked member confirmed decision
    have kept := vouched.closed t member
    simp only [if_neg confirmed]
    refine ⟨truth, closed, ?_, ?_⟩
    · cases o <;> simp [statusOf, confirmed]
    · cases o with
      | confirmed => simp [statusOf]
      | failed => exact fun _ => closed (.inl rfl)
      | expired => exact fun _ => closed (.inr rfl)
      | pending => exact kept

end truth

def Keeps (journal journal' : DistributionJournal) : Prop :=
  ∀ t ∈ journal.txs, t.status = .confirmed →
    ∃ t' ∈ journal'.txs, t'.signature = t.signature ∧ t'.rows = t.rows ∧ t'.status = .confirmed

structure Tells (chain : Chain) (journal : DistributionJournal) (evaluation : RunEvaluation) : Prop where
  vouched : Vouched chain evaluation.journal
  listed : evaluation.journal.rows = journal.rows
  keeps : Keeps journal evaluation.journal
  carried : ∀ t ∈ evaluation.journal.txs, ∃ old ∈ journal.txs, t = { old with status := t.status, audited := t.audited }
  todo : ∀ wallet, evaluation.states wallet = some .todo → ∀ t ∈ journal.txs, wallet ∈ t.rows → Void chain t
  done : ∀ wallet signature, evaluation.states wallet = some (.done signature .journal) →
    wallet ∈ journal.rows.map Row.wallet ∧
      ∃ t ∈ evaluation.journal.txs, t.signature = signature ∧ wallet ∈ t.rows ∧ t.status = .confirmed
  paid : ∀ wallet ∈ journal.rows.map Row.wallet, ∀ t ∈ journal.txs, wallet ∈ t.rows → t.status = .confirmed →
    ∃ signature, evaluation.states wallet = some (.done signature .journal)

section evaluations
variable {decode58 : String → Option (List UInt8)} {chain : Chain} {journal : DistributionJournal} {r : Reading}
variable {height : Nat} {source : String} {destinations : String → Option String} {backstop : Bool} {now : Int}

theorem evaluateRun_tells (vouched : Vouched chain journal) (informed : Informed chain journal r)
    (read : r.height = some height)
    (asked : ∀ signature ∈ newlyExpired (r.answers height source destinations backstop now) journal,
      (r.lookup signature).isSome) :
    Tells chain journal (evaluateRun decode58 (r.answers height source destinations backstop now) journal) := by
  obtain ⟨outcomes, final⟩ : ∃ outcomes,
      outcomes = (finalOutcomes decode58 (r.answers height source destinations backstop now) journal).1 := ⟨_, rfl⟩
  have truth := fun t member => outcomeOf_true decode58 vouched informed read asked (t := t) member final
  have txs : (evaluateRun decode58 (r.answers height source destinations backstop now) journal).journal.txs =
      journal.txs.map (decidedTx outcomes) := by
    rw [final]
    rfl
  have standing : ∀ wallet ∈ journal.rows.map Row.wallet, _ := fun wallet listed =>
    @evaluateRun_standing (r.answers height source destinations backstop now) journal decode58 wallet listed
  have listed : ∀ wallet state, (evaluateRun decode58 (r.answers height source destinations backstop now) journal).states
      wallet = some state → wallet ∈ journal.rows.map Row.wallet := by
    intro wallet state shown
    by_contra unlisted
    rw [evaluateRun_unlisted decode58 unlisted] at shown
    cases shown
  rw [← final] at standing
  have signature : ∀ t, (decidedTx outcomes t).signature = t.signature := fun t => by rw [decidedTx_same]
  have rows : ∀ t, (decidedTx outcomes t).rows = t.rows := fun t => by rw [decidedTx_same]
  refine
    { vouched := vouched.map txs (evaluateRun_mint decode58) (decidedTx_same outcomes) ?confirmed ?closed
      listed := rfl
      keeps := ?keeps, carried := ?carried, todo := ?todo, done := ?done, paid := ?paid }
  case confirmed =>
    intro t member status
    obtain ⟨paid, -, same, -⟩ := truth t member
    exact paid (same.mp status)
  case closed =>
    intro t member status
    obtain ⟨-, -, -, void⟩ := truth t member
    exact void status
  case keeps =>
    intro t member status
    rw [txs]
    obtain ⟨-, -, same, -⟩ := truth t member
    refine ⟨_, List.mem_map_of_mem member, signature t, rows t, same.mpr ?_⟩
    rw [outcomeOf, if_pos status]
  case carried =>
    intro t member
    rw [txs] at member
    obtain ⟨old, stored, rfl⟩ := List.mem_map.mp member
    exact ⟨old, stored, decidedTx_same outcomes old⟩
  case todo =>
    intro wallet shown t member pays
    obtain ⟨-, void, -⟩ := truth t member
    obtain ⟨state, decided, same | ⟨-, s, found⟩⟩ := standing wallet (listed wallet _ shown)
    · rw [shown, Option.some.injEq] at same
      subst same
      cases decided with
      | todo closed => exact void (closed t member pays)
    · rw [shown] at found
      cases found
  case done =>
    intro wallet name shown
    refine ⟨listed wallet _ shown, ?_⟩
    obtain ⟨state, decided, same | ⟨-, s, found⟩⟩ := standing wallet (listed wallet _ shown)
    · rw [shown, Option.some.injEq] at same
      subst same
      cases decided with
      | @done t member pays confirmed =>
          obtain ⟨-, -, same, -⟩ := truth t member
          rw [txs]
          exact ⟨_, List.mem_map_of_mem member, signature t, (rows t).symm ▸ pays, same.mpr confirmed⟩
    · rw [shown] at found
      cases found
  case paid =>
    intro wallet among t member pays status
    have confirmed : outcomeOf outcomes t = .confirmed := by rw [outcomeOf, if_pos status]
    obtain ⟨state, decided, shown⟩ := standing wallet among
    cases decided with
    | done => exact ⟨_, shown.resolve_right (by simp)⟩
    | pending _ _ _ unconfirmed => exact absurd confirmed (unconfirmed t member pays)
    | todo closed =>
        have decided := closed t member pays
        rw [confirmed] at decided
        simp at decided

theorem evaluation_tells {w : World} {purpose : Purpose} {ev : RunEvaluation} (sound : Sound w)
    (evaluated : evaluation decode58 w source destinations backstop now = .ok (purpose, ev)) :
    Tells w.chain w.journal ev := by
  simp only [evaluation, bind_eq_ok, okOr_eq_ok, require_eq_ok, pure_eq_ok, exists_const, Prod.mk.injEq] at evaluated
  obtain ⟨r, reading, height, read, asked, -, rfl⟩ := evaluated
  refine evaluateRun_tells sound.vouched (sound.informed reading) read asked

end evaluations

/-! ## One step -/

structure Advance (w w' : World) : Prop where
  sound : Sound w'
  listed : w'.journal.rows = w.journal.rows
  keeps : Keeps w.journal w'.journal

theorem Keeps.refl (journal : DistributionJournal) : Keeps journal journal :=
  fun t member status => ⟨t, member, rfl, rfl, status⟩

theorem Keeps.trans {first second third : DistributionJournal} (keeps : Keeps first second) (keeps' : Keeps second third) :
    Keeps first third := by
  intro t member status
  obtain ⟨t', member', signature', rows', status'⟩ := keeps t member status
  obtain ⟨t'', member'', signature'', rows'', status''⟩ := keeps' t' member' status'
  exact ⟨t'', member'', signature''.trans signature', rows''.trans rows', status''⟩

section steps
variable {decode58 : String → Option (List UInt8)} {w w' : World}

theorem advance_page (sound : Sound w) {page : Page} (told : PageSound w.chain w.journal page) :
    Advance w { w with page } :=
  { sound := ⟨sound.vouched, told⟩, listed := rfl, keeps := .refl _ }

theorem advance_chain (sound : Sound w) {chain : Chain} (later : Later w.journal.txs w.chain chain) :
    Advance w { w with chain } :=
  { sound := ⟨sound.vouched.later later, sound.page.later later⟩, listed := rfl, keeps := .refl _ }

theorem later_land {signature : String} {height : Nat} {fate : Fate} {chain : Chain} {txs : List JournalTx}
    (fresh : chain.landed signature = none)
    (timely : ∀ t ∈ txs, t.signature = signature → chain.finalized ≤ height ∧ height ≤ t.lastValidBlockHeight) :
    Later txs chain { chain with landed := Function.update chain.landed signature (some fate) } where
  finalized := Nat.le_refl _
  kept := by
    intro other fate' landed
    refine (Function.update_of_ne ?_ _ _).trans landed
    rintro rfl
    rw [fresh] at landed
    cases landed
  timely := by
    intro t member before after
    by_cases own : t.signature = signature
    · exact (timely t member own).1.trans (timely t member own).2
    · exact absurd ((Function.update_of_ne own _ _).trans before) after

theorem advance_conclude {purpose : Purpose} {ev : RunEvaluation} {now : Int} (tells : Tells w.chain w.journal ev) (sound : Sound w) :
    Advance w (conclude w purpose ev now) := by
  unfold conclude
  cases purpose with
  | look => exact ⟨⟨tells.vouched, trivial⟩, tells.listed, tells.keeps⟩
  | send =>
      dsimp only
      split
      · exact ⟨⟨tells.vouched, trivial⟩, tells.listed, tells.keeps⟩
      · refine ⟨⟨{ tells.vouched with }, ?_⟩, tells.listed, tells.keeps⟩
        refine { todo := fun wallet member t among listed => ?_, signed := by simp, sent := by simp, known := by simp }
        have todo := (List.mem_filter.mp member).2
        rw [decide_eq_true_eq] at todo
        obtain ⟨old, stored, same⟩ := tells.carried t among
        rw [same] at listed ⊢
        exact tells.todo wallet todo old stored listed
  | dismiss =>
      dsimp only
      split
      · exact advance_page sound trivial
      · next journal dismissed =>
          unfold dismissJournal at dismissed
          split at dismissed
          · cases dismissed
          · cases dismissed
            exact ⟨⟨{ tells.vouched with }, trivial⟩, tells.listed, tells.keeps⟩

theorem keeps_withTx {journal : DistributionJournal} {tx : JournalTx}
    (unconfirmed : ∀ t ∈ journal.txs, t.signature = tx.signature → t.status ≠ .confirmed) : Keeps journal (withTx journal tx) :=
  fun t member status => ⟨t, mem_withTx.mpr (.inl ⟨member, fun same => unconfirmed t member same status⟩), rfl, rfl, status⟩

theorem advance_sign {s : Session} {signature : String} {lastValidBlockHeight : Nat} {rows : List String} (sound : Sound w)
    (entitled : Entitled w.chain w.journal s) (distinct : rows.Nodup) (allowed : ∀ wallet ∈ rows, wallet ∈ s.todo)
    (fresh : signature ∉ signaturesOf w.journal) :
    Advance w { w with
      journal := withTx w.journal { signature, lastValidBlockHeight, rows, status := .signed }
      page := .sending { s with todo := s.todo.filter (· ∉ rows), signed := s.signed ++ [signature] } } := by
  rw [signaturesOf, List.mem_append, not_or] at fresh
  obtain ⟨unknown, unminted⟩ := fresh
  have apart : ∀ t ∈ w.journal.txs, t.signature ≠ signature := by
    rintro t member rfl
    exact unknown (List.mem_map_of_mem member)
  refine ⟨⟨?vouched, ?page⟩, rfl, keeps_withTx fun t member same => absurd same (apart t member)⟩
  case vouched =>
    apply sound.vouched.withTx
    · intro mint
      exact unminted (Option.mem_toList.mpr mint)
    · exact distinct
    · nofun
    · simp
    · intro t member _ wallet listed listed'
      exact .inl (entitled.todo wallet (allowed wallet listed') t member listed)
  case page =>
    refine { todo := ?_, signed := ?_, sent := ?_, known := ?_ }
    · intro wallet member t among listed
      obtain ⟨todo, left⟩ := List.mem_filter.mp member
      rcases mem_withTx.mp among with ⟨stored, -⟩ | rfl
      · exact entitled.todo wallet todo t stored listed
      · exact absurd listed (by simpa using left)
    · intro t among signed
      rcases mem_withTx.mp among with ⟨stored, -⟩ | rfl
      · rcases List.mem_append.mp signed with earlier | own
        · exact entitled.signed t stored earlier
        · exact absurd (List.mem_singleton.mp own) (apart t stored)
      · rfl
    · intro t among sent
      rcases mem_withTx.mp among with ⟨stored, -⟩ | rfl
      · exact entitled.sent t stored sent
      · exact absurd (entitled.known signature (List.mem_append_right _ sent)) unknown
    · intro name member
      rw [List.append_assoc, List.mem_append, List.mem_append, List.mem_singleton] at member
      apply known_withTx
      rcases member with earlier | rfl | earlier
      · exact .inl (entitled.known name (List.mem_append_left _ earlier))
      · exact .inr rfl
      · exact .inl (entitled.known name (List.mem_append_right _ earlier))

theorem advance_status {s s' : Session} {t : JournalTx} {status : JournalTxStatus} (sound : Sound w)
    (entitled : Entitled w.chain w.journal s) (member : t ∈ w.journal.txs) (unconfirmed : t.status ≠ .confirmed)
    (confirmed : status = .confirmed → w.chain.landed t.signature = some .paid)
    (closed : status = .failed ∨ status = .expired → Void w.chain t) (todo : s'.todo = s.todo)
    (signed : ∀ name ∈ s'.signed, name ∈ s.signed ∧ name ≠ t.signature)
    (sent : ∀ name ∈ s'.sent, name ∈ s.sent ∧ name ≠ t.signature ∨ name = t.signature ∧ status = .sent) :
    Advance w { w with journal := withTx w.journal { t with status }, page := .sending s' } := by
  have unique : ∀ t' ∈ w.journal.txs, t'.signature = t.signature → t' = t :=
    fun t' member' same => List.inj_on_of_nodup_map sound.vouched.signatures member' member same
  refine ⟨⟨?vouched, ?page⟩, rfl, keeps_withTx fun t' member' same => unique t' member' same ▸ unconfirmed⟩
  case vouched =>
    apply sound.vouched.withTx
    · exact sound.vouched.mint t member
    · exact sound.vouched.rows t member
    · exact confirmed
    · exact closed
    · intro t' member' differ wallet listed listed'
      exact sound.vouched.apart t' member' t member differ wallet listed listed'
  case page =>
    refine { todo := ?_, signed := ?_, sent := ?_, known := ?_ }
    · intro wallet left t' among listed
      rw [todo] at left
      rcases mem_withTx.mp among with ⟨stored, -⟩ | rfl
      · exact entitled.todo wallet left t' stored listed
      · exact entitled.todo wallet left t member listed
    · intro t' among own
      obtain ⟨earlier, other⟩ := signed _ own
      rcases mem_withTx.mp among with ⟨stored, -⟩ | rfl
      · exact entitled.signed t' stored earlier
      · exact absurd rfl other
    · intro t' among own
      rcases mem_withTx.mp among with ⟨stored, other⟩ | rfl
      · rcases sent _ own with ⟨earlier, -⟩ | ⟨same, -⟩
        · exact entitled.sent t' stored earlier
        · exact absurd same other
      · rcases sent _ own with ⟨-, other⟩ | ⟨-, now⟩
        · exact absurd rfl other
        · exact now
    · intro name own
      apply known_withTx
      rcases List.mem_append.mp own with own | own
      · exact .inl (entitled.known name (List.mem_append_left _ (signed name own).1))
      · rcases sent name own with ⟨earlier, -⟩ | ⟨same, -⟩
        · exact .inl (entitled.known name (List.mem_append_right _ earlier))
        · exact .inr same

theorem advance_broadcast {s : Session} {t : JournalTx} (sound : Sound w) (entitled : Entitled w.chain w.journal s)
    (member : t ∈ w.journal.txs) (own : t.signature ∈ s.signed) :
    Advance w { w with
      journal := withTx w.journal { t with status := .sent }
      page := .sending { s with signed := s.signed.filter (· ≠ t.signature), sent := s.sent ++ [t.signature] } } := by
  have signed := entitled.signed t member own
  refine advance_status sound entitled member (by simp [signed]) nofun (by simp) rfl ?_ ?_
  · intro name left
    obtain ⟨earlier, other⟩ := List.mem_filter.mp left
    exact ⟨earlier, by simpa using other⟩
  · intro name among
    by_cases same : name = t.signature
    · exact .inr ⟨same, rfl⟩
    · refine .inl ⟨(List.mem_append.mp among).resolve_right fun last => same (List.mem_singleton.mp last), same⟩

theorem advance_settle {s : Session} {t : JournalTx} {fate : Fate} (sound : Sound w) (entitled : Entitled w.chain w.journal s)
    (member : t ∈ w.journal.txs) (own : t.signature ∈ s.sent) (honest : w.chain.landed t.signature = some fate) :
    Advance w { w with
      journal := withTx w.journal { t with status := if fate = .paid then .confirmed else .failed }
      page := .sending { s with sent := s.sent.filter (· ≠ t.signature) } } := by
  have sent := entitled.sent t member own
  refine advance_status sound entitled member (by simp [sent]) ?_ ?_ rfl ?_ ?_
  · cases fate <;> simp [honest]
  · cases fate with
    | paid => simp
    | refused => exact fun _ => .inl honest
  · intro name earlier
    refine ⟨earlier, ?_⟩
    rintro rfl
    have signed := entitled.signed t member earlier
    rw [sent] at signed
    cases signed
  · intro name left
    obtain ⟨earlier, other⟩ := List.mem_filter.mp left
    exact .inl ⟨earlier, by simpa using other⟩

theorem advance_mint {s : Session} {mint : JournalMint} (sound : Sound w) (sending : w.page.sending? = some s)
    (fresh : mint.signature ∉ w.journal.txs.map JournalTx.signature) :
    Advance w { w with journal := { w.journal with mintTx := some mint } } := by
  refine ⟨⟨{ sound.vouched with mint := ?_ }, ?_⟩, rfl, .refl _⟩
  · intro t member same
    rw [Option.map_some, Option.some.injEq] at same
    exact fresh (same ▸ List.mem_map_of_mem member)
  · show PageSound w.chain _ w.page
    rw [sending_eq_some.mp sending]
    exact { sound.entitled sending with }

theorem advance_audit {signatures : List String} {mark : AuditMark} (sound : Sound w) (unread : w.page.reading? = none) :
    Advance w { w with journal := withAudited w.journal signatures mark } := by
  have name : ∀ t, (auditedTx signatures mark t).signature = t.signature := fun t => by rw [auditedTx_same]
  have rows : ∀ t, (auditedTx signatures mark t).rows = t.rows := fun t => by rw [auditedTx_same]
  refine ⟨⟨?vouched, ?page⟩, rfl, ?keeps⟩
  case vouched =>
    apply sound.vouched.map (f := auditedTx signatures mark) rfl ?_ (auditedTx_same signatures mark)
    · intro t member status
      rw [auditedTx_status] at status
      exact sound.vouched.confirmed t member status
    · intro t member status
      rw [auditedTx_status] at status
      exact sound.vouched.closed t member status
    · show Option.map _ (Option.map _ w.journal.mintTx) = _
      rw [Option.map_map]
      congr 1
      funext m
      rw [Function.comp_apply]
      split <;> rfl
  case page =>
    cases shown : w.page with
    | idle => trivial
    | reading r =>
        rw [shown] at unread
        cases unread
    | sending s =>
        have entitled := sound.entitled (sending_eq_some.mpr shown)
        have members {P : JournalTx → Prop} (all : ∀ t ∈ w.journal.txs, P (auditedTx signatures mark t)) :
            ∀ t ∈ (withAudited w.journal signatures mark).txs, P t := List.forall_mem_map.mpr all
        refine { todo := fun wallet member => members fun t stored listed => ?_, signed := members fun t stored own => ?_
                 sent := members fun t stored own => ?_, known := fun n own => ?_ }
        · rw [rows] at listed
          rw [auditedTx_same]
          exact entitled.todo wallet member t stored listed
        · rw [name] at own
          rw [auditedTx_status]
          exact entitled.signed t stored own
        · rw [name] at own
          rw [auditedTx_status]
          exact entitled.sent t stored own
        · obtain ⟨t, stored, rfl⟩ := List.mem_map.mp (entitled.known n own)
          exact List.mem_map.mpr ⟨_, List.mem_map_of_mem stored, name t⟩
  case keeps =>
    intro t member status
    exact ⟨_, List.mem_map_of_mem member, name t, rows t, (auditedTx_status _ _ _).trans status⟩

theorem informed_start (chain : Chain) (journal : DistributionJournal) (purpose : Purpose) :
    Informed chain journal (.start purpose) where
  status := fun _ => trivial
  height := nofun
  found := nofun
  missing := nofun
  asked := fun _ looked => absurd rfl looked
  history := nofun

section answers
variable {chain : Chain} {journal : DistributionJournal} {r : Reading} {signature : String}

theorem Informed.answerStatus (informed : Informed chain journal r) {status : Option SignatureStatus}
    (honest : honestStatus chain signature status) :
    Informed chain journal { r with status := Function.update r.status signature status } :=
  { informed with
    status := fun other => by
      dsimp only
      by_cases same : other = signature
      · subst same
        rwa [Function.update_self]
      · rw [Function.update_of_ne same]
        exact informed.status other }

theorem Informed.answerHeight (informed : Informed chain journal r) {height : Nat} (unread : r.height = none)
    (honest : height ≤ chain.finalized) : Informed chain journal { r with height := some height } :=
  { informed with
    height := fun height' read => by
      cases read
      exact honest
    missing := fun t _ looked => absurd unread (informed.asked t.signature (ne_of_eq_of_ne looked nofun))
    asked := nofun }

theorem Informed.answerLookup (informed : Informed chain journal r) {tx : Option RawTransaction} (read : r.height ≠ none)
    (honest : honestLookup chain signature tx) :
    Informed chain journal { r with lookup := Function.update r.lookup signature (some tx) } :=
  { informed with
    found := fun other tx' looked => by
      rcases updated_cases looked with ⟨rfl, same⟩ | ⟨-, earlier⟩
      · rw [Option.some.inj same] at honest
        exact honest
      · exact informed.found other tx' earlier
    missing := fun t member looked height known past => by
      rcases updated_cases looked with ⟨same, none'⟩ | ⟨-, earlier⟩
      · rw [Option.some.inj none', ← same] at honest
        exact .inr ⟨honest, Nat.lt_of_lt_of_le past (informed.height height known)⟩
      · exact informed.missing t member earlier height known past
    asked := fun _ _ => read }

end answers

theorem step_advance {event : Event} (sound : Sound w) (stepped : step decode58 w event = .ok w') : Advance w w' := by
  cases event with
  | finalize height =>
      simp only [step, bind_eq_ok, require_eq_ok, pure_eq_ok, exists_const] at stepped
      obtain ⟨grows, rfl⟩ := stepped
      exact advance_chain sound ⟨grows, fun _ _ landed => landed, fun _ _ before after => absurd before after⟩
  | land signature height fate =>
      simp only [step, bind_eq_ok, require_eq_ok, pure_eq_ok, exists_const] at stepped
      obtain ⟨fresh, timely, rfl⟩ := stepped
      exact advance_chain sound (later_land fresh timely)
  | evaluate purpose =>
      cases stepped
      exact advance_page sound (informed_start _ _ purpose)
  | answerStatus signature status =>
      simp only [step, bind_eq_ok, okOr_eq_ok, require_eq_ok, pure_eq_ok, exists_const] at stepped
      obtain ⟨r, reading, -, honest, rfl⟩ := stepped
      exact advance_page sound ((sound.informed reading).answerStatus honest)
  | answerHeight height =>
      simp only [step, bind_eq_ok, okOr_eq_ok, require_eq_ok, pure_eq_ok, exists_const] at stepped
      obtain ⟨r, reading, unread, honest, rfl⟩ := stepped
      exact advance_page sound ((sound.informed reading).answerHeight unread honest)
  | answerLookup signature tx =>
      simp only [step, bind_eq_ok, okOr_eq_ok, require_eq_ok, pure_eq_ok, exists_const] at stepped
      obtain ⟨r, reading, read, honest, rfl⟩ := stepped
      exact advance_page sound ((sound.informed reading).answerLookup read honest)
  | answerHistory signatures getTransaction =>
      simp only [step, bind_eq_ok, okOr_eq_ok, require_eq_ok, pure_eq_ok, exists_const] at stepped
      obtain ⟨r, reading, honest, rfl⟩ := stepped
      exact advance_page sound { sound.informed reading with history := honest }
  | finish source destinations backstop now =>
      simp only [step, bind_eq_ok, pure_eq_ok, Prod.exists] at stepped
      obtain ⟨purpose, ev, evaluated, rfl⟩ := stepped
      exact advance_conclude (evaluation_tells sound evaluated) sound
  | sign signature lastValidBlockHeight rows =>
      simp only [step, bind_eq_ok, okOr_eq_ok, require_eq_ok, pure_eq_ok, exists_const] at stepped
      obtain ⟨s, sending, ⟨distinct, allowed⟩, ⟨-, fresh⟩, rfl⟩ := stepped
      exact advance_sign sound (sound.entitled sending) distinct allowed fresh
  | broadcast signature =>
      simp only [step, bind_eq_ok, okOr_eq_ok, require_eq_ok, pure_eq_ok, exists_const] at stepped
      obtain ⟨s, sending, own, t, found, rfl⟩ := stepped
      obtain ⟨member, rfl⟩ := mem_of_lookup JournalTx.signature found
      exact advance_broadcast sound (sound.entitled sending) member own
  | settle signature fate =>
      simp only [step, bind_eq_ok, okOr_eq_ok, require_eq_ok, pure_eq_ok, exists_const] at stepped
      obtain ⟨s, sending, own, t, found, honest, rfl⟩ := stepped
      obtain ⟨member, rfl⟩ := mem_of_lookup JournalTx.signature found
      exact advance_settle sound (sound.entitled sending) member own honest
  | recordMint mint =>
      simp only [step, bind_eq_ok, okOr_eq_ok, require_eq_ok, pure_eq_ok, exists_const] at stepped
      obtain ⟨s, sending, fresh, rfl⟩ := stepped
      exact advance_mint sound sending fresh
  | audit signatures mark =>
      simp only [step, bind_eq_ok, require_eq_ok, pure_eq_ok, exists_const] at stepped
      obtain ⟨unread, rfl⟩ := stepped
      exact advance_audit sound (Option.isNone_iff_eq_none.mp unread)
  | leave =>
      cases stepped
      exact advance_page sound trivial

end steps

/-! ## Runs -/

theorem sound_start {finalized : Nat} {landed : String → Option Fate} {journal : DistributionJournal} (fresh : journal.txs = []) :
    Sound (World.start finalized landed journal) where
  vouched := by constructor <;> simp [World.start, fresh]
  page := trivial

def amountOf (rows : List Row) (wallet : String) : Nat :=
  ((lookup Row.wallet wallet rows).map Row.amount).getD 0

def movedBy (w : World) (wallet : String) (t : JournalTx) : Nat :=
  if w.chain.landed t.signature = some .paid then t.rows.count wallet * amountOf w.journal.rows wallet else 0

def moved (w : World) (wallet : String) : Nat :=
  (w.journal.txs.map (movedBy w wallet)).sum

theorem moved_le {w : World} (vouched : Vouched w.chain w.journal) (wallet : String) :
    moved w wallet ≤ amountOf w.journal.rows wallet := by
  apply sum_le_of_exclusive
  · intro t member
    unfold movedBy
    split
    · have once := List.nodup_iff_count_le_one.mp (vouched.rows t member) wallet
      exact (Nat.mul_le_mul_right _ once).trans (Nat.one_mul _).le
    · exact Nat.zero_le _
  · have distinct : w.journal.txs.Pairwise fun t t' => t.signature ≠ t'.signature := List.pairwise_map.mp vouched.signatures
    refine distinct.imp_of_mem fun {t t'} member member' differ => ?_
    by_cases listed : wallet ∈ t.rows
    · by_cases listed' : wallet ∈ t'.rows
      · rcases vouched.apart t member t' member' differ wallet listed listed' with void | void
        · exact .inl (if_neg void.unpaid)
        · exact .inr (if_neg void.unpaid)
      · exact .inr (by simp [movedBy, List.count_eq_zero_of_not_mem listed'])
    · exact .inl (by simp [movedBy, List.count_eq_zero_of_not_mem listed])

theorem Vouched.audits {chain : Chain} {journal : DistributionJournal} (vouched : Vouched chain journal) {signature : String}
    {rows : List String} {success : Bool} (due : AuditDue.tx signature rows success ∈ auditsDue journal) :
    ∃ t ∈ journal.txs, t.signature = signature ∧ t.rows = rows ∧
      if success then chain.landed signature = some .paid else Void chain t := by
  rcases List.mem_append.mp due with own | minted
  · obtain ⟨t, member, owed⟩ := List.mem_filterMap.mp own
    unfold txAuditDue at owed
    split at owed
    · cases owed
    · next undue =>
        rw [not_or, not_and_or, not_not, not_not] at undue
        cases owed
        refine ⟨t, member, rfl, rfl, ?_⟩
        by_cases confirmed : t.status = .confirmed
        · simpa [confirmed] using vouched.confirmed t member confirmed
        · simpa [confirmed] using vouched.closed t member (.inl (undue.2.resolve_left confirmed))
  · cases minting : journal.mintTx with
    | none => simp [minting] at minted
    | some m =>
        simp only [minting, Option.bind_some, mintAuditDue, Option.mem_toList] at minted
        split at minted <;> cases minted

def Shows {decode58 : String → Option (List UInt8)} {initial : World} (run : Run (step decode58) initial) (i : Nat)
    (purpose : Purpose) (wallet : String) (state : RowState) : Prop :=
  ∃ source destinations backstop now ev, run.label i = .finish source destinations backstop now ∧
    evaluation decode58 (run.state i) source destinations backstop now = .ok (purpose, ev) ∧ ev.states wallet = some state

section runs
variable {decode58 : String → Option (List UInt8)} {initial : World}

theorem run_sound (run : Run (step decode58) initial) (start : Sound initial) : ∀ i ≤ run.length, Sound (run.state i) :=
  run.invariant start fun _ _ _ sound stepped => (step_advance sound stepped).sound

theorem run_advance (run : Run (step decode58) initial) (start : Sound initial) {i : Nat} (within : i < run.length) :
    Advance (run.state i) (run.state (i + 1)) :=
  step_advance (run_sound run start i (Nat.le_of_lt within)) (run.next i within)

theorem run_keeps (run : Run (step decode58) initial) (start : Sound initial) {i j : Nat} (ordered : i ≤ j)
    (within : j ≤ run.length) : Keeps (run.state i).journal (run.state j).journal :=
  run.related (R := fun w w' => Keeps w.journal w'.journal) (fun w => .refl w.journal) Keeps.trans within ordered
    fun _ within _ => (run_advance run start within).keeps

theorem run_listed (run : Run (step decode58) initial) (start : Sound initial) {i : Nat} (within : i ≤ run.length) :
    (run.state i).journal.rows = initial.journal.rows := by
  have same := run.related (R := fun w w' => w'.journal.rows = w.journal.rows) (fun _ => rfl)
    (fun first second => second.trans first) within (Nat.zero_le i)
    fun _ within _ => (run_advance run start within).listed
  rwa [run.starts] at same

theorem conclude_txs {w : World} {purpose : Purpose} {ev : RunEvaluation} {now : Int} (stored : purpose ≠ .dismiss) :
    (conclude w purpose ev now).journal.txs = ev.journal.txs := by
  cases purpose with
  | look => rfl
  | send =>
      unfold conclude
      dsimp only
      split <;> rfl
  | dismiss => exact absurd rfl stored

theorem Vouched.unique {chain : Chain} {journal : DistributionJournal} (vouched : Vouched chain journal) {t t' : JournalTx}
    {wallet : String} (member : t ∈ journal.txs) (member' : t' ∈ journal.txs) (listed : wallet ∈ t.rows)
    (listed' : wallet ∈ t'.rows) (status : t.status = .confirmed) (status' : t'.status = .confirmed) :
    t.signature = t'.signature := by
  by_contra differ
  rcases vouched.apart t member t' member' differ wallet listed listed' with void | void
  · exact void.unpaid (vouched.confirmed t member status)
  · exact void.unpaid (vouched.confirmed t' member' status')

theorem done_stays (run : Run (step decode58) initial) (start : Sound initial) {i j : Nat} {purpose purpose' : Purpose}
    {wallet signature : String} {state : RowState} (ordered : i < j) (within : j < run.length) (stored : purpose ≠ .dismiss)
    (done : Shows run i purpose wallet (.done signature .journal)) (shown : Shows run j purpose' wallet state) :
    state = .done signature .journal := by
  obtain ⟨source, destinations, backstop, now, ev, label, evaluated, wasDone⟩ := done
  obtain ⟨_, _, _, _, ev', _, evaluated', shown⟩ := shown
  have early := Nat.lt_trans ordered within
  have tells := evaluation_tells (run_sound run start i (Nat.le_of_lt early)) evaluated
  have tells' := evaluation_tells (run_sound run start j (Nat.le_of_lt within)) evaluated'
  obtain ⟨listed, t, member, rfl, pays, status⟩ := tells.done wallet _ wasDone
  have next := run.next i early
  rw [label] at next
  simp only [step, evaluated, bind_eq_ok, pure_eq_ok, Prod.exists, Except.ok.injEq, Prod.mk.injEq] at next
  obtain ⟨_, _, ⟨rfl, rfl⟩, next⟩ := next
  have kept : t ∈ (run.state (i + 1)).journal.txs := by
    rw [← next, conclude_txs stored]
    exact member
  obtain ⟨t', member', signature', rows', status'⟩ := run_keeps run start ordered (Nat.le_of_lt within) t kept status
  rw [run_listed run start (Nat.le_of_lt early), ← run_listed run start (Nat.le_of_lt within)] at listed
  obtain ⟨signature'', now⟩ := tells'.paid wallet listed t' member' (rows' ▸ pays) status'
  obtain ⟨-, t₁, member₁, rfl, pays₁, status₁⟩ := tells'.done wallet _ now
  obtain ⟨t₂, member₂, signature₂, rows₂, status₂⟩ := tells'.keeps t' member' status'
  have same := tells'.vouched.unique member₁ member₂ pays₁ (rows₂ ▸ rows' ▸ pays) status₁ status₂
  rw [shown] at now
  rw [Option.some.inj now, same, signature₂, signature']

end runs

/-- Over every run of sends, closed and reloaded pages and evaluations, whatever the chain does between two answers of
the network, no wallet gets more than its row. -/
theorem send_pays_once (decode58 : String → Option (List UInt8)) (finalized : Nat) (landed : String → Option Fate)
    (runId mint : String) (rows : List Row) (now : Int)
    (run : Run (step decode58) (World.start finalized landed (newJournal runId mint rows now))) :
    (∀ i ≤ run.length, ∀ wallet, moved (run.state i) wallet ≤ amountOf rows wallet) ∧
    (∀ i < run.length, ∀ purpose wallet, Shows run i purpose wallet .todo →
      ∀ t ∈ (run.state i).journal.txs, wallet ∈ t.rows → Void (run.state i).chain t) ∧
    (∀ i < run.length, ∀ signature lastValidBlockHeight rows', run.label i = .sign signature lastValidBlockHeight rows' →
      ∀ wallet ∈ rows', ∀ t ∈ (run.state i).journal.txs, wallet ∈ t.rows → Void (run.state i).chain t) ∧
    (∀ i j, i ≤ j → j ≤ run.length → ∀ t ∈ (run.state i).journal.txs, t.status = .confirmed →
      (run.state j).chain.landed t.signature = some .paid ∧
        ∃ t' ∈ (run.state j).journal.txs, t'.signature = t.signature ∧ t'.rows = t.rows ∧ t'.status = .confirmed) ∧
    (∀ i j, i < j → j < run.length → ∀ purpose, purpose ≠ .dismiss → ∀ wallet signature,
      Shows run i purpose wallet (.done signature .journal) →
      ∀ purpose' state, Shows run j purpose' wallet state → state = .done signature .journal) ∧
    (∀ i ≤ run.length, ∀ signature rows' success, .tx signature rows' success ∈ auditsDue (run.state i).journal →
      ∃ t ∈ (run.state i).journal.txs, t.signature = signature ∧ t.rows = rows' ∧
        if success then (run.state i).chain.landed signature = some .paid else Void (run.state i).chain t) := by
  have start : Sound (World.start finalized landed (newJournal runId mint rows now)) := sound_start rfl
  refine ⟨?once, ?unsent, ?unsigned, ?confirmed, ?done, ?audits⟩
  case once =>
    intro i within wallet
    have bound := moved_le (run_sound run start i within).vouched wallet
    rwa [run_listed run start within] at bound
  case unsent =>
    intro i within purpose wallet shown
    obtain ⟨source, destinations, backstop, now, ev, label, evaluated, todo⟩ := shown
    exact (evaluation_tells (run_sound run start i (Nat.le_of_lt within)) evaluated).todo wallet todo
  case unsigned =>
    intro i within signature lastValidBlockHeight rows' label wallet signed t member listed
    have next := run.next i within
    rw [label] at next
    simp only [step, bind_eq_ok, okOr_eq_ok, require_eq_ok, exists_const] at next
    obtain ⟨s, sending, ⟨-, allowed⟩, -⟩ := next
    exact ((run_sound run start i (Nat.le_of_lt within)).entitled sending).todo wallet (allowed wallet signed) t member listed
  case confirmed =>
    intro i j ordered within t member status
    obtain ⟨t', member', signature, rows', status'⟩ := run_keeps run start ordered within t member status
    exact ⟨signature ▸ (run_sound run start j within).vouched.confirmed t' member' status', t', member', signature, rows', status'⟩
  case done =>
    intro i j ordered within purpose stored wallet signature done purpose' state shown
    exact done_stays run start ordered within stored done shown
  case audits =>
    intro i within signature rows' success due
    exact (run_sound run start i within).vouched.audits due

/-- A transaction is lost and its row sent again; the second lands although no status is found for it. -/
example : accepts (step fun _ => none) (World.start 10 (fun _ => none) (newJournal "run" "mint" [⟨"wallet", 5⟩] 0))
    [.evaluate .send, .answerHeight 10, .finish "treasury" (fun _ => none) true 1, .sign "first" 20 ["wallet"], .leave,
      .finalize 25, .evaluate .send, .answerHeight 25, .answerLookup "first" none,
      .finish "treasury" (fun _ => none) true 2, .sign "second" 40 ["wallet"], .broadcast "second", .leave,
      .land "second" 30 .paid, .finalize 60, .evaluate .send, .answerHeight 60, .answerLookup "first" none,
      .answerLookup "second" (some ⟨none, false, [], []⟩), .finish "treasury" (fun _ => none) true 3] = true := by
  decide +kernel

end Mancipatio.SendRun
