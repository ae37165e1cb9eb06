import Mancipatio.Library.Checked
import Mancipatio.Library.Rows

/-!
# The plan of a send to wallets

Rows of instructions are packed whole into transactions of a limited size, each transaction is test-run, the
row that a refusal points at is dropped and the rest are packed again. An instruction is opaque, and so is the
size of the transaction that carries a list of them.
-/

namespace Mancipatio.SendPlan
open Checked Rows

variable {ι : Type}

structure RowInstructions (ι : Type) where
  row : String
  instructions : List ι

structure IndexEntry where
  row : String
  firstIx : Nat
  count : Nat
  deriving DecidableEq, Repr

structure PackedTransaction (ι : Type) where
  instructions : List ι
  index : List IndexEntry
  size : Nat

section packing
variable (sentSize : List ι → Nat) (limit : Nat)

def startTransaction (r : RowInstructions ι) : Except String (PackedTransaction ι) := do
  let size := sentSize r.instructions
  require (size ≤ limit) s!"One transfer alone is {size} bytes, over the {limit}-byte limit."
  return { instructions := r.instructions, index := [⟨r.row, 0, r.instructions.length⟩], size }

def extendTransaction (prev : PackedTransaction ι) (r : RowInstructions ι) : PackedTransaction ι :=
  { instructions := prev.instructions ++ r.instructions
    index := prev.index ++ [⟨r.row, prev.instructions.length, r.instructions.length⟩]
    size := sentSize (prev.instructions ++ r.instructions) }

def packAfter (prev : PackedTransaction ι) : List (RowInstructions ι) → Except String (List (PackedTransaction ι))
  | [] => .ok [prev]
  | r :: rest =>
      if sentSize (prev.instructions ++ r.instructions) ≤ limit then
        packAfter (extendTransaction sentSize prev r) rest
      else do
        let next ← startTransaction sentSize limit r
        let later ← packAfter next rest
        return prev :: later

def packRows : List (RowInstructions ι) → Except String (List (PackedTransaction ι))
  | [] => .ok []
  | r :: rest => do
      let first ← startTransaction sentSize limit r
      packAfter sentSize limit first rest

end packing

def rowForInstruction (tx : PackedTransaction ι) : Option Int → Option String
  | none => none
  | some instructionIndex =>
      if instructionIndex < 0 then
        none
      else
        (tx.index.find? fun e =>
          (e.firstIx : Int) ≤ instructionIndex ∧ instructionIndex < (e.firstIx : Int) + e.count).map IndexEntry.row

/-! ## Test runs -/

structure Refusal where
  instructionIndex : Option Int
  detail : String
  message : String
  reason : Option String
  deriving DecidableEq, Repr

inductive Answer where
  | passes
  | refuses (refusal : Refusal)
  | fails (message : String)
  deriving DecidableEq, Repr

abbrev Log (ι : Type) := List (List ι × Answer)

structure DroppedRow where
  row : String
  reason : String
  deriving DecidableEq, Repr

structure DistributionPlan (ι : Type) where
  transactions : List (PackedTransaction ι)
  dropped : List DroppedRow

section planning
variable (sentSize : List ι → Nat) (limit : Nat) (simulate : Log ι → List ι → Answer)

/-- Simulates every transaction and collects the refused rows, a row that is refused again under its last reason. -/
def testRuns (log : Log ι) (refused : List DroppedRow) :
    List (PackedTransaction ι) → Log ι × Except String (List DroppedRow)
  | [] => (log, .ok refused)
  | tx :: rest =>
      let answer := simulate log tx.instructions
      let log := log ++ [(tx.instructions, answer)]
      match answer with
      | .passes => testRuns log refused rest
      | .fails message => (log, .error message)
      | .refuses refusal =>
          match rowForInstruction tx refusal.instructionIndex with
          | none => (log, .error refusal.message)
          | some row =>
              testRuns log (upsert DroppedRow.row ⟨row, refusal.reason.getD refusal.detail⟩ refused) rest

def planRounds : Nat → Log ι → List DroppedRow → List (RowInstructions ι) →
    Log ι × Except String (DistributionPlan ι)
  | 0, log, _, _ =>
      (log, .error "The network kept refusing transfers of this list; nothing was sent. Check the rows and try again.")
  | rounds + 1, log, dropped, pending =>
      if pending.isEmpty then
        (log, .ok { transactions := [], dropped })
      else
        match packRows sentSize limit pending with
        | .error message => (log, .error message)
        | .ok transactions =>
            match testRuns simulate log [] transactions with
            | (log, .error message) => (log, .error message)
            | (log, .ok refused) =>
                if refused.isEmpty then
                  (log, .ok { transactions, dropped })
                else
                  planRounds rounds log (dropped ++ refused)
                    (pending.filter fun r => r.row ∉ refused.map DroppedRow.row)

def planWithSimulation (maxRounds : Nat) (rows : List (RowInstructions ι)) : Log ι × Except String (DistributionPlan ι) :=
  planRounds sentSize limit simulate maxRounds [] [] rows

end planning

/-! ## What a transaction carries -/

def indexTable : Nat → List (RowInstructions ι) → List IndexEntry
  | _, [] => []
  | firstIx, r :: rest =>
      ⟨r.row, firstIx, r.instructions.length⟩ :: indexTable (firstIx + r.instructions.length) rest

def contributions (group : List (RowInstructions ι)) : List (String × ι) :=
  group.flatMap fun r => r.instructions.map fun instruction => (r.row, instruction)

/-- The group's instructions whole and in order, with the table that says where each row's begin. -/
structure Carries (sentSize : List ι → Nat) (limit : Nat) (tx : PackedTransaction ι) (group : List (RowInstructions ι)) :
    Prop where
  instructions : tx.instructions = group.flatMap RowInstructions.instructions
  index : tx.index = indexTable 0 group
  sized : tx.size = sentSize tx.instructions
  within : tx.size ≤ limit
  nonempty : group ≠ []

section carries
variable {sentSize : List ι → Nat} {limit : Nat} {tx prev : PackedTransaction ι}
variable {group rows : List (RowInstructions ι)} {txs : List (PackedTransaction ι)} {r : RowInstructions ι}

theorem indexTable_append (firstIx : Nat) (r : RowInstructions ι) : indexTable firstIx (group ++ [r]) =
    indexTable firstIx group ++
      [⟨r.row, firstIx + (group.flatMap RowInstructions.instructions).length, r.instructions.length⟩] := by
  induction group generalizing firstIx with
  | nil => rfl
  | cons first rest ih =>
      rw [List.cons_append, indexTable, ih, indexTable, List.flatMap_cons, List.length_append, Nat.add_assoc]
      rfl

theorem startTransaction_ok (started : startTransaction sentSize limit r = .ok tx) :
    Carries sentSize limit tx [r] := by
  simp only [startTransaction, bind_eq_ok, require_eq_ok, pure_eq_ok, exists_const] at started
  obtain ⟨within, rfl⟩ := started
  exact ⟨by simp, rfl, rfl, within, by simp⟩

theorem extendTransaction_carries (carried : Carries sentSize limit prev group)
    (fits : sentSize (prev.instructions ++ r.instructions) ≤ limit) :
    Carries sentSize limit (extendTransaction sentSize prev r) (group ++ [r]) where
  instructions := by
    simp [extendTransaction, carried.instructions]
  index := by
    rw [indexTable_append, ← carried.index, ← carried.instructions, Nat.zero_add]
    rfl
  sized := rfl
  within := fits
  nonempty := by simp

theorem packAfter_ok (carried : Carries sentSize limit prev group)
    (packed : packAfter sentSize limit prev rows = .ok txs) :
    ∃ groups, List.Forall₂ (Carries sentSize limit) txs groups ∧ groups.flatten = group ++ rows := by
  induction rows generalizing prev group txs with
  | nil =>
      cases packed
      exact ⟨[group], .cons carried .nil, by simp⟩
  | cons r rest ih =>
      unfold packAfter at packed
      split at packed
      case isTrue fits =>
        obtain ⟨groups, carry, all⟩ := ih (extendTransaction_carries carried fits) packed
        exact ⟨groups, carry, by rw [all, List.append_assoc, List.singleton_append]⟩
      case isFalse full =>
        simp only [bind_eq_ok, pure_eq_ok] at packed
        obtain ⟨next, started, later, packed, rfl⟩ := packed
        obtain ⟨groups, carry, all⟩ := ih (startTransaction_ok started) packed
        exact ⟨group :: groups, .cons carried carry, by rw [List.flatten_cons, all, List.singleton_append]⟩

theorem packRows_ok (packed : packRows sentSize limit rows = .ok txs) :
    ∃ groups, List.Forall₂ (Carries sentSize limit) txs groups ∧ groups.flatten = rows := by
  cases rows with
  | nil =>
      cases packed
      exact ⟨[], .nil, rfl⟩
  | cons r rest =>
      simp only [packRows, bind_eq_ok] at packed
      obtain ⟨first, started, packed⟩ := packed
      exact packAfter_ok (startTransaction_ok started) packed

theorem length_le_of_carries {groups : List (List (RowInstructions ι))}
    (carry : List.Forall₂ (Carries sentSize limit) txs groups) : txs.length ≤ groups.flatten.length := by
  induction carry with
  | nil => exact Nat.le_refl _
  | @cons tx group txs groups carried rest ih =>
      have some' := List.length_pos_iff.mpr carried.nonempty
      rw [List.flatten_cons, List.length_append, List.length_cons]
      omega

/-! ## Attribution -/

theorem find_indexTable (firstIx i : Nat) :
    ((indexTable firstIx group).find? fun e =>
      (e.firstIx : Int) ≤ (firstIx + i : Nat) ∧ ((firstIx + i : Nat) : Int) < (e.firstIx : Int) + e.count).map
        IndexEntry.row = ((contributions group)[i]?).map Prod.fst := by
  induction group generalizing firstIx i with
  | nil => rfl
  | cons r rest ih =>
      rw [contributions, List.flatMap_cons, ← contributions, indexTable]
      by_cases own : i < r.instructions.length
      · rw [List.find?_cons_of_pos (by simp only [decide_eq_true_eq]; omega), List.getElem?_append_left (by simpa using own)]
        simp [own]
      · have later := ih (firstIx + r.instructions.length) (i - r.instructions.length)
        have same : firstIx + r.instructions.length + (i - r.instructions.length) = firstIx + i := by omega
        rw [same] at later
        rw [List.find?_cons_of_neg (by simp only [decide_eq_true_eq]; omega), later,
          List.getElem?_append_right (by simpa using own), List.length_map]

theorem rowForInstruction_eq (carried : Carries sentSize limit tx group) (i : Nat) :
    rowForInstruction tx (some i) = ((contributions group)[i]?).map Prod.fst := by
  have found := @find_indexTable ι group 0 i
  rw [Nat.zero_add] at found
  rw [rowForInstruction, if_neg (by omega), carried.index]
  exact found

theorem map_contributions : (contributions group).map Prod.snd = group.flatMap RowInstructions.instructions := by
  unfold contributions
  rw [List.map_flatMap]
  simp [List.map_map, Function.comp_def]

theorem mem_of_rowForInstruction (carried : Carries sentSize limit tx group) {instructionIndex : Option Int} {row : String}
    (named : rowForInstruction tx instructionIndex = some row) : row ∈ group.map RowInstructions.row := by
  cases instructionIndex with
  | none => cases named
  | some instructionIndex =>
      cases instructionIndex with
      | ofNat i =>
          rw [show rowForInstruction tx (some (Int.ofNat i)) = _ from rowForInstruction_eq carried i] at named
          obtain ⟨entry, at', rfl⟩ := Option.map_eq_some_iff.mp named
          obtain ⟨r, member, own⟩ := List.mem_flatMap.mp (List.mem_of_getElem? at')
          obtain ⟨instruction, -, rfl⟩ := List.mem_map.mp own
          exact List.mem_map_of_mem member
      | negSucc i => simp [rowForInstruction] at named

end carries

/-! ## The simulations -/

def Recorded (simulate : Log ι → List ι → Answer) (log : Log ι) : Prop :=
  ∀ i instructions answer, log[i]? = some (instructions, answer) → answer = simulate (log.take i) instructions

section simulations
variable {sentSize : List ι → Nat} {limit : Nat} {simulate : Log ι → List ι → Answer} {log log' : Log ι}
variable {refused refused' dropped : List DroppedRow} {txs : List (PackedTransaction ι)}
variable {groups : List (List (RowInstructions ι))} {pending : List (RowInstructions ι)}

theorem recorded_append (recorded : Recorded simulate log) (instructions : List ι) :
    Recorded simulate (log ++ [(instructions, simulate log instructions)]) := by
  intro i asked answer at'
  rcases Nat.lt_or_ge i log.length with early | late
  · rw [List.getElem?_append_left early] at at'
    rw [List.take_append_of_le_length (Nat.le_of_lt early)]
    exact recorded i asked answer at'
  · rw [List.getElem?_append_right late] at at'
    obtain ⟨here, same⟩ : i - log.length = 0 ∧ (instructions, simulate log instructions) = (asked, answer) := by
      cases rest : i - log.length with
      | zero => exact ⟨rfl, by simpa [rest] using at'⟩
      | succ n => simp [rest] at at'
    obtain ⟨rfl, rfl⟩ := Prod.mk.inj same
    have all : i = log.length := by omega
    rw [all, List.take_left]

theorem upsert_ne_nil (row : DroppedRow) : upsert DroppedRow.row row refused ≠ [] := by
  cases refused with
  | nil => simp [upsert]
  | cons first rest =>
      unfold upsert
      split <;> simp

theorem testRuns_length (log : Log ι) (refused : List DroppedRow) (txs : List (PackedTransaction ι)) :
    (testRuns simulate log refused txs).1.length ≤ log.length + txs.length := by
  induction txs generalizing log refused with
  | nil => exact Nat.le_refl _
  | cons tx rest ih =>
      have once (answer : Answer) : (log ++ [(tx.instructions, answer)]).length + rest.length =
          log.length + (tx :: rest).length := by
        rw [List.length_append, List.length_singleton, List.length_cons]
        omega
      unfold testRuns
      dsimp only
      split
      · exact (ih _ _).trans (once _).le
      · exact Nat.le_of_add_right_le (once _).le
      · split
        · exact Nat.le_of_add_right_le (once _).le
        · exact (ih _ _).trans (once _).le

structure Tested (simulate : Log ι → List ι → Answer) (log log' : Log ι) (refused refused' : List DroppedRow)
    (txs : List (PackedTransaction ι)) (rows : List String) : Prop where
  recorded : Recorded simulate log'
  distinct : (refused'.map DroppedRow.row).Nodup
  known : ∀ row ∈ refused'.map DroppedRow.row, row ∈ refused.map DroppedRow.row ∨ row ∈ rows
  passed : refused' = [] → refused = [] ∧ log' = log ++ txs.map fun tx => (tx.instructions, Answer.passes)

theorem testRuns_ok (carry : List.Forall₂ (Carries sentSize limit) txs groups)
    (ran : testRuns simulate log refused txs = (log', .ok refused')) (recorded : Recorded simulate log)
    (distinct : (refused.map DroppedRow.row).Nodup) :
    Tested simulate log log' refused refused' txs (groups.flatten.map RowInstructions.row) := by
  induction carry generalizing log refused with
  | nil =>
      obtain ⟨rfl, same⟩ := Prod.mk.inj ran
      obtain rfl := Except.ok.inj same
      exact ⟨recorded, distinct, fun row member => .inl member, fun none' => ⟨none', by simp⟩⟩
  | @cons tx group txs groups carried carry ih =>
      have noted := recorded_append recorded tx.instructions
      unfold testRuns at ran
      dsimp only at ran
      split at ran
      case h_1 passes =>
        have tested := ih ran noted distinct
        refine ⟨tested.recorded, tested.distinct, fun row member => ?_, fun none' => ?_⟩
        · rw [List.flatten_cons, List.map_append, List.mem_append]
          exact (tested.known row member).imp_right .inr
        · obtain ⟨before, log⟩ := tested.passed none'
          exact ⟨before, by rw [log, passes, List.append_assoc]; rfl⟩
      case h_2 => cases ran
      case h_3 refusal refuses =>
        split at ran
        · cases ran
        · next row named =>
            have tested := ih ran noted (nodup_upsert _ distinct)
            refine ⟨tested.recorded, tested.distinct, fun row' member => ?_, fun none' => ?_⟩
            · rw [List.flatten_cons, List.map_append, List.mem_append]
              rcases tested.known row' member with here | later
              · rcases key_mem_of_upsert _ here with rfl | before
                · exact .inr (.inl (mem_of_rowForInstruction carried named))
                · exact .inl before
              · exact .inr (.inr later)
            · exact absurd (tested.passed none').1 (upsert_ne_nil _)

theorem kept_append_dropped {keys : List String} (distinct : (pending.map RowInstructions.row).Nodup) (once : keys.Nodup)
    (known : ∀ key ∈ keys, key ∈ pending.map RowInstructions.row) :
    ((pending.filter fun r => r.row ∉ keys).map RowInstructions.row ++ keys).Perm (pending.map RowInstructions.row) := by
  have kept : (pending.filter fun r => r.row ∉ keys).map RowInstructions.row =
      (pending.map RowInstructions.row).filter fun row => row ∉ keys := by
    rw [List.filter_map]
    rfl
  have gone : keys.Perm ((pending.map RowInstructions.row).filter fun row => ! decide (row ∉ keys)) := by
    rw [List.perm_ext_iff_of_nodup once (distinct.filter _)]
    intro key
    rw [List.mem_filter]
    simp only [decide_not, Bool.not_not, decide_eq_true_eq]
    exact ⟨fun member => ⟨known key member, member⟩, And.right⟩
  rw [kept]
  exact (gone.append_left _).trans (List.filter_append_perm _ _)

/-! ## The plan -/

structure Attributed (sentSize : List ι → Nat) (limit : Nat) (tx : PackedTransaction ι) (group : List (RowInstructions ι)) :
    Prop extends Carries sentSize limit tx group where
  contributed : tx.instructions = (contributions group).map Prod.snd
  named : ∀ i : Nat, rowForInstruction tx (some i) = ((contributions group)[i]?).map Prod.fst

theorem attributed {tx : PackedTransaction ι} {group : List (RowInstructions ι)} (carried : Carries sentSize limit tx group) :
    Attributed sentSize limit tx group :=
  { carried with
    contributed := by rw [map_contributions, carried.instructions]
    named := rowForInstruction_eq carried }

structure Planned (sentSize : List ι → Nat) (limit : Nat) (simulate : Log ι → List ι → Answer) (log : Log ι)
    (plan : DistributionPlan ι) (pending : List (RowInstructions ι)) (dropped : List DroppedRow) : Prop where
  partition : ∃ groups, List.Forall₂ (Attributed sentSize limit) plan.transactions groups ∧
    groups.flatten.Sublist pending ∧
    (groups.flatten.map RowInstructions.row ++ plan.dropped.map DroppedRow.row).Perm
      (pending.map RowInstructions.row ++ dropped.map DroppedRow.row)
  recorded : Recorded simulate log
  passed : ∃ earlier, log = earlier ++ plan.transactions.map fun tx => (tx.instructions, Answer.passes)

theorem planRounds_ok {rounds : Nat} {plan : DistributionPlan ι} (distinct : (pending.map RowInstructions.row).Nodup)
    (recorded : Recorded simulate log)
    (planned : planRounds sentSize limit simulate rounds log dropped pending = (log', .ok plan)) :
    Planned sentSize limit simulate log' plan pending dropped := by
  induction rounds generalizing log dropped pending with
  | zero => cases planned
  | succ rounds ih =>
      unfold planRounds at planned
      split at planned
      case isTrue empty =>
        obtain ⟨rfl, same⟩ := Prod.mk.inj planned
        obtain rfl := Except.ok.inj same
        obtain rfl := List.isEmpty_iff.mp empty
        exact ⟨⟨[], .nil, .refl _, .refl _⟩, recorded, log, by simp⟩
      case isFalse some' =>
        split at planned
        · cases planned
        · next txs packed =>
            obtain ⟨groups, carry, all⟩ := packRows_ok packed
            split at planned
            · cases planned
            · next log'' refused ran =>
                have tested := testRuns_ok carry ran recorded List.nodup_nil
                rw [all] at tested
                split at planned
                case isTrue none' =>
                  obtain ⟨rfl, same⟩ := Prod.mk.inj planned
                  obtain rfl := Except.ok.inj same
                  refine ⟨⟨groups, carry.imp fun _ _ => attributed, ?_, ?_⟩, tested.recorded, log, ?_⟩
                  · rw [all]
                  · rw [all]
                  · exact (tested.passed (List.isEmpty_iff.mp none')).2
                case isFalse some'' =>
                  have kept : (pending.filter fun r => r.row ∉ refused.map DroppedRow.row).Sublist pending :=
                    List.filter_sublist
                  have rest := ih (distinct.sublist (kept.map _)) tested.recorded planned
                  obtain ⟨groups, carry, sent, perm⟩ := rest.partition
                  refine ⟨⟨groups, carry, sent.trans kept, perm.trans ?_⟩, rest.recorded, rest.passed⟩
                  have whole := kept_append_dropped distinct tested.distinct fun row member =>
                    (tested.known row member).resolve_left List.not_mem_nil
                  rw [List.map_append]
                  refine (List.perm_append_comm.append_left _).trans ?_
                  rw [← List.append_assoc]
                  exact whole.append_right _

theorem planRounds_length (rounds : Nat) (log : Log ι) (dropped : List DroppedRow) (pending : List (RowInstructions ι)) :
    (planRounds sentSize limit simulate rounds log dropped pending).1.length ≤ log.length + rounds * pending.length := by
  induction rounds generalizing log dropped pending with
  | zero =>
      rw [Nat.zero_mul]
      exact Nat.le_refl _
  | succ rounds ih =>
      have room : log.length + (rounds + 1) * pending.length = log.length + pending.length + rounds * pending.length := by
        rw [Nat.succ_mul]
        omega
      rw [room]
      unfold planRounds
      split
      · dsimp only
        omega
      · split
        · dsimp only
          omega
        · next txs packed =>
            obtain ⟨groups, carry, all⟩ := packRows_ok packed
            have few := length_le_of_carries carry
            have tried := @testRuns_length ι simulate log [] txs
            rw [all] at few
            split
            · next ran =>
                rw [ran] at tried
                dsimp only at tried ⊢
                omega
            · next log'' refused ran =>
                rw [ran] at tried
                dsimp only at tried
                split
                · dsimp only
                  omega
                · have later := ih log'' (dropped ++ refused) (pending.filter fun r => r.row ∉ refused.map DroppedRow.row)
                  have fewer : rounds * (pending.filter fun r => r.row ∉ refused.map DroppedRow.row).length ≤
                      rounds * pending.length := Nat.mul_le_mul_left _ (List.length_filter_le _ _)
                  omega

/-- However the simulator answers, planning ends; and a plan sends each row whole or drops it, in transactions
within the limit whose last simulation passed, with a table that names the row of every instruction. -/
theorem send_plan_partition (sentSize : List ι → Nat) (limit maxRounds : Nat) (simulate : Log ι → List ι → Answer)
    (rows : List (RowInstructions ι)) (distinct : (rows.map RowInstructions.row).Nodup) :
    (planWithSimulation sentSize limit simulate maxRounds rows).1.length ≤ maxRounds * rows.length ∧
      ∀ plan, (planWithSimulation sentSize limit simulate maxRounds rows).2 = .ok plan →
        Planned sentSize limit simulate (planWithSimulation sentSize limit simulate maxRounds rows).1 plan rows [] := by
  constructor
  · have bounded := @planRounds_length ι sentSize limit simulate maxRounds [] [] rows
    rwa [List.length_nil, Nat.zero_add] at bounded
  · intro plan planned
    have empty : Recorded simulate [] := by
      intro i instructions answer at'
      simp at at'
    apply planRounds_ok distinct empty
    rw [← planned]
    rfl

end simulations

/-! ## Two rows, one of them refused -/

def exampleRows : List (RowInstructions Nat) := [⟨"a", [1, 2]⟩, ⟨"b", [3]⟩]

def exampleSimulate (log : Log Nat) (_ : List Nat) : Answer :=
  if log.isEmpty then .refuses ⟨some 2, "refused", "refused at 2", none⟩ else .passes

theorem send_plan_partition_example :
    (planWithSimulation List.length 1200 exampleSimulate 6 exampleRows).1.length ≤ 12 ∧
      Planned List.length 1200 exampleSimulate (planWithSimulation List.length 1200 exampleSimulate 6 exampleRows).1
        { transactions := [⟨[1, 2], [⟨"a", 0, 2⟩], 2⟩], dropped := [⟨"b", "refused"⟩] } exampleRows [] :=
  have planned := send_plan_partition List.length 1200 6 exampleSimulate exampleRows (by decide)
  ⟨planned.1, planned.2 _ rfl⟩

end Mancipatio.SendPlan
