import Mancipatio.Library.Checked
import Mancipatio.Library.LargestRemainder

/-!
# The allocation of a distribution

Amounts and weights are integers of any size, and their quotients are truncated. Wallets are compared by
their code units: any linear order of the wallets.
-/

namespace Mancipatio.Allocation
open Checked LargestRemainder

variable {κ : Type}

structure HolderWeight (κ : Type) where
  wallet : κ
  weight : Int
  deriving DecidableEq, Repr

structure ProRataRow (κ : Type) extends HolderWeight κ where
  amount : Int
  deriving DecidableEq, Repr

structure RankedRow (κ : Type) extends ProRataRow κ where
  remainder : Int
  deriving DecidableEq, Repr

structure ProRataResult (κ : Type) where
  eligible : List (ProRataRow κ)
  skipped : List (ProRataRow κ)
  totalWeight : Int
  allocated : Int
  deriving DecidableEq, Repr

def price (totalAmount totalWeight : Int) (row : HolderWeight κ) : ProRataRow κ :=
  { row with amount := if 0 < totalWeight then (totalAmount * row.weight).tdiv totalWeight else 0 }

section
variable [LinearOrder κ]

def computeProRata (rows : List (HolderWeight κ)) (totalAmount : Int) : ProRataResult κ :=
  let sorted := rows.insertionSort fun a b => a.wallet ≤ b.wallet
  let totalWeight := (sorted.map HolderWeight.weight).sum
  let priced := sorted.map (price totalAmount totalWeight)
  let eligible := priced.filter fun row => 0 < row.amount
  { eligible
    skipped := priced.filter fun row => ¬ 0 < row.amount
    totalWeight
    allocated := (eligible.map ProRataRow.amount).sum }

def RankedRow.before (a b : RankedRow κ) : Prop :=
  b.remainder < a.remainder ∨ a.remainder = b.remainder ∧ a.wallet ≤ b.wallet

instance : DecidableRel (RankedRow.before (κ := κ)) :=
  fun _ _ => inferInstanceAs (Decidable (_ ∨ _))

end

def RankedRow.raise (row : RankedRow κ) : RankedRow κ :=
  { row with amount := row.amount + 1 }

def assignRemainder : Int → List (RankedRow κ) → Int × List (RankedRow κ)
  | remaining, [] => (remaining, [])
  | remaining, row :: rest =>
      if remaining = 0 then
        (remaining, row :: rest)
      else
        let assigned := assignRemainder (remaining - 1) rest
        (assigned.1, row.raise :: assigned.2)

def rankRows [LinearOrder κ] (result : ProRataResult κ) (totalAmount : Int) : List (RankedRow κ) :=
  ((result.eligible ++ result.skipped).map fun row =>
    { row with remainder := (totalAmount * row.weight).tmod result.totalWeight : RankedRow κ }).insertionSort
    RankedRow.before

def computeDistributionAllocation [LinearOrder κ] (rows : List (HolderWeight κ)) (totalAmount : Int) :
    Except String (ProRataResult κ) := do
  require (0 < totalAmount ∧ ∀ row ∈ rows, 0 < row.weight) "Positive funding and holder weights are required"
  let result := computeProRata rows totalAmount
  require (0 < result.totalWeight) "A non-empty holder snapshot is required"
  let assigned := assignRemainder (totalAmount - result.allocated) (rankRows result totalAmount)
  require (assigned.1 = 0) "Distribution remainder could not be assigned"
  let ordered := (assigned.2.map RankedRow.toProRataRow).insertionSort fun a b => a.wallet ≤ b.wallet
  return {
    eligible := ordered.filter fun row => 0 < row.amount
    skipped := ordered.filter fun row => row.amount = 0
    allocated := totalAmount
    totalWeight := result.totalWeight }

/-! ## The remainder -/

theorem assignRemainder_eq {count : Nat} {ranked : List (RankedRow κ)} (enough : count ≤ ranked.length) :
    assignRemainder count ranked = (0, (ranked.take count).map RankedRow.raise ++ ranked.drop count) := by
  induction ranked generalizing count with
  | nil =>
      obtain rfl : count = 0 := Nat.le_zero.mp enough
      rfl
  | cons row rest ih =>
      cases count with
      | zero => rfl
      | succ count =>
          have fewer : ((count + 1 : Nat) : Int) - 1 = count := by omega
          have some' : ((count + 1 : Nat) : Int) ≠ 0 := by omega
          rw [assignRemainder, if_neg some', fewer, ih (Nat.le_of_succ_le_succ enough)]
          rfl

/-! ## The ranking -/

section ranking
variable {rows : List (HolderWeight κ)} {totalAmount totalWeight : Int}

def rank (totalAmount totalWeight : Int) (row : HolderWeight κ) : RankedRow κ :=
  { row with
    amount := totalAmount * row.weight / totalWeight
    remainder := totalAmount * row.weight % totalWeight }

theorem sum_weight_pos (nonempty : rows ≠ []) (weighed : ∀ row ∈ rows, 0 < row.weight) :
    0 < (rows.map HolderWeight.weight).sum := by
  apply List.sum_pos
  · simpa using weighed
  · simpa using nonempty

theorem price_eq (positive : 0 < totalWeight) (nonneg : 0 ≤ totalAmount) {row : HolderWeight κ} (weighed : 0 < row.weight) :
    price totalAmount totalWeight row = { row with amount := totalAmount * row.weight / totalWeight } := by
  rw [price, if_pos positive, Int.tdiv_eq_ediv_of_nonneg (mul_nonneg nonneg weighed.le)]

variable [LinearOrder κ]

instance : Std.Total (RankedRow.before (κ := κ)) where
  total a b := by
    unfold RankedRow.before
    rcases lt_trichotomy a.remainder b.remainder with less | same | more
    · exact .inr (.inl less)
    · rcases le_total a.wallet b.wallet with ordered | ordered
      · exact .inl (.inr ⟨same, ordered⟩)
      · exact .inr (.inr ⟨same.symm, ordered⟩)
    · exact .inl (.inl more)

instance : IsTrans (RankedRow κ) RankedRow.before where
  trans a b c first second := by
    unfold RankedRow.before at *
    rcases first with more | ⟨same, ordered⟩
    · rcases second with more' | ⟨same', -⟩
      · exact .inl (more'.trans more)
      · exact .inl (same' ▸ more)
    · rcases second with more' | ⟨same', ordered'⟩
      · exact .inl (same ▸ more')
      · exact .inr ⟨same.trans same', ordered.trans ordered'⟩

theorem remainder_le_of_before {a b : RankedRow κ} (before : a.before b) : b.remainder ≤ a.remainder :=
  before.elim le_of_lt fun tie => tie.1.ge

def ranking (rows : List (HolderWeight κ)) (totalAmount : Int) : List (RankedRow κ) :=
  rankRows (computeProRata rows totalAmount) totalAmount

theorem ranking_sorted : (ranking rows totalAmount).Pairwise fun a b => b.remainder ≤ a.remainder :=
  (List.pairwise_insertionSort RankedRow.before _).imp remainder_le_of_before

theorem totalWeight_eq : (computeProRata rows totalAmount).totalWeight = (rows.map HolderWeight.weight).sum :=
  ((List.perm_insertionSort _ rows).map _).sum_eq

theorem priced_perm : ((computeProRata rows totalAmount).eligible ++ (computeProRata rows totalAmount).skipped).Perm
    (rows.map (price totalAmount (rows.map HolderWeight.weight).sum)) := by
  have sorted := List.perm_insertionSort (fun a b : HolderWeight κ => a.wallet ≤ b.wallet) rows
  rw [← @totalWeight_eq κ rows totalAmount]
  apply List.Perm.trans _ (sorted.map _)
  simp only [computeProRata, decide_not]
  exact List.filter_append_perm _ _

theorem ranking_perm (nonneg : 0 ≤ totalAmount) (weighed : ∀ row ∈ rows, 0 < row.weight)
    (whole : totalWeight = (rows.map HolderWeight.weight).sum) (positive : 0 < totalWeight) :
    (ranking rows totalAmount).Perm (rows.map (rank totalAmount totalWeight)) := by
  subst whole
  apply (List.perm_insertionSort _ _).trans
  refine (priced_perm.map _).trans (.of_eq ?_)
  rw [List.map_map]
  apply List.map_congr_left
  intro row member
  have product := mul_nonneg nonneg (weighed row member).le
  rw [Function.comp_apply, totalWeight_eq, price_eq positive nonneg (weighed row member)]
  show RankedRow.mk _ _ = RankedRow.mk _ _
  rw [Int.tmod_eq_emod_of_nonneg product]

theorem allocated_eq (nonneg : 0 ≤ totalAmount) (weighed : ∀ row ∈ rows, 0 < row.weight)
    (whole : totalWeight = (rows.map HolderWeight.weight).sum) (positive : 0 < totalWeight) :
    (computeProRata rows totalAmount).allocated =
      (rows.map fun row => totalAmount * row.weight / totalWeight).sum := by
  subst whole
  have priced := @priced_perm κ rows totalAmount _
  have total := (priced.map ProRataRow.amount).sum_eq
  have floors : (rows.map (price totalAmount (rows.map HolderWeight.weight).sum)).map ProRataRow.amount =
      rows.map fun row => totalAmount * row.weight / (rows.map HolderWeight.weight).sum := by
    rw [List.map_map]
    apply List.map_congr_left
    intro row member
    rw [Function.comp_apply, price_eq positive nonneg (weighed row member)]
  have skipped : ((computeProRata rows totalAmount).skipped.map ProRataRow.amount).sum = 0 := by
    apply List.sum_eq_zero
    intro amount member
    obtain ⟨row, inside, rfl⟩ := List.mem_map.mp member
    have small : row.amount ≤ 0 := by simpa [computeProRata] using (List.mem_filter.mp inside).2
    obtain ⟨holder, held, rfl⟩ := List.mem_map.mp (priced.subset (List.mem_append_right _ inside))
    rw [price_eq positive nonneg (weighed holder held)] at small ⊢
    exact le_antisymm small (Int.ediv_nonneg (mul_nonneg nonneg (weighed holder held).le) positive.le)
  rw [List.map_append, List.sum_append, skipped, add_zero, floors] at total
  exact total

end ranking

/-! ## The allocation -/

section allocation
variable {rows : List (HolderWeight κ)} {totalAmount totalWeight : Int} [LinearOrder κ]

def raised (rows : List (HolderWeight κ)) (totalAmount : Int) (count : Nat) : List (RankedRow κ) :=
  ((ranking rows totalAmount).take count).map RankedRow.raise ++ (ranking rows totalAmount).drop count

theorem leftover (nonneg : 0 ≤ totalAmount) (weighed : ∀ row ∈ rows, 0 < row.weight)
    (whole : totalWeight = (rows.map HolderWeight.weight).sum) (positive : 0 < totalWeight) :
    ∃ count : Nat, totalAmount - (computeProRata rows totalAmount).allocated = count ∧
      ((ranking rows totalAmount).map fun row => row.remainder).sum = totalWeight * count := by
  have parts := sum_floor_add_sum_remainder rows (fun row => row.weight) totalAmount totalWeight
  rw [← allocated_eq nonneg weighed whole positive, ← whole] at parts
  have remainders := ((ranking_perm nonneg weighed whole positive).map RankedRow.remainder).sum_eq
  rw [List.map_map] at remainders
  have sum : ((ranking rows totalAmount).map fun row => row.remainder).sum =
      totalWeight * (totalAmount - (computeProRata rows totalAmount).allocated) := by
    rw [mul_sub, remainders]
    have same : (rows.map (RankedRow.remainder ∘ rank totalAmount totalWeight)).sum =
      (rows.map fun row => totalAmount * row.weight % totalWeight).sum := rfl
    linarith
  have left : 0 ≤ totalAmount - (computeProRata rows totalAmount).allocated := by
    refine nonneg_of_mul_nonneg_right ?_ positive
    rw [← sum, remainders]
    apply List.sum_nonneg
    intro r member
    obtain ⟨row, -, rfl⟩ := List.mem_map.mp member
    exact Int.emod_nonneg _ positive.ne'
  exact ⟨(totalAmount - (computeProRata rows totalAmount).allocated).toNat, (Int.toNat_of_nonneg left).symm,
    by rw [Int.toNat_of_nonneg left, sum]⟩

theorem mem_ranking (nonneg : 0 ≤ totalAmount) (weighed : ∀ row ∈ rows, 0 < row.weight)
    (whole : totalWeight = (rows.map HolderWeight.weight).sum) (positive : 0 < totalWeight) {row : RankedRow κ}
    (member : row ∈ ranking rows totalAmount) :
    row.toHolderWeight ∈ rows ∧ row.amount = totalAmount * row.weight / totalWeight ∧
      row.remainder = totalAmount * row.weight % totalWeight := by
  obtain ⟨holder, held, rfl⟩ := List.mem_map.mp ((ranking_perm nonneg weighed whole positive).subset member)
  exact ⟨held, rfl, rfl⟩

theorem ranking_range (nonneg : 0 ≤ totalAmount) (weighed : ∀ row ∈ rows, 0 < row.weight)
    (whole : totalWeight = (rows.map HolderWeight.weight).sum) (positive : 0 < totalWeight) :
    ∀ row ∈ ranking rows totalAmount, 0 ≤ row.remainder ∧ row.remainder < totalWeight := by
  intro row member
  rw [(mem_ranking nonneg weighed whole positive member).2.2]
  exact ⟨Int.emod_nonneg _ positive.ne', Int.emod_lt_of_pos _ positive⟩

end allocation

/-! ## The statement -/

structure Allocated (rows : List (HolderWeight κ)) (totalAmount : Int) (result : ProRataResult κ) : Prop where
  holders : ((result.eligible ++ result.skipped).map ProRataRow.toHolderWeight).Perm rows
  exact' : ((result.eligible ++ result.skipped).map ProRataRow.amount).sum = totalAmount
  allocated : result.allocated = totalAmount
  paid : ∀ row ∈ result.eligible, 0 < row.amount
  unpaid : ∀ row ∈ result.skipped, row.amount = 0
  rounded : ∀ row ∈ result.eligible ++ result.skipped,
    row.amount = ⌊((totalAmount * row.weight : Int) : ℚ) / ((rows.map HolderWeight.weight).sum : Int)⌋ ∨
      row.amount = ⌈((totalAmount * row.weight : Int) : ℚ) / ((rows.map HolderWeight.weight).sum : Int)⌉
  monotone : ∀ row ∈ result.eligible ++ result.skipped, ∀ row' ∈ result.eligible ++ result.skipped,
    row.weight < row'.weight → row.amount ≤ row'.amount

section statement
variable {rows : List (HolderWeight κ)} {totalAmount totalWeight : Int} [LinearOrder κ] {count : Nat}

def ordered (rows : List (HolderWeight κ)) (totalAmount : Int) (count : Nat) : List (ProRataRow κ) :=
  ((raised rows totalAmount count).map RankedRow.toProRataRow).insertionSort fun a b => a.wallet ≤ b.wallet

theorem computeDistributionAllocation_eq (positive : 0 < totalAmount) (weighed : ∀ row ∈ rows, 0 < row.weight)
    (nonempty : rows ≠ []) (left : totalAmount - (computeProRata rows totalAmount).allocated = count)
    (enough : count ≤ (ranking rows totalAmount).length) :
    computeDistributionAllocation rows totalAmount = .ok
      { eligible := (ordered rows totalAmount count).filter fun row => 0 < row.amount
        skipped := (ordered rows totalAmount count).filter fun row => row.amount = 0
        allocated := totalAmount
        totalWeight := (computeProRata rows totalAmount).totalWeight } := by
  have assigned := assignRemainder_eq enough
  rw [← left] at assigned
  have snapshot : 0 < (computeProRata rows totalAmount).totalWeight := by
    rw [totalWeight_eq]
    exact sum_weight_pos nonempty weighed
  simp only [computeDistributionAllocation, bind_eq_ok, require_eq_ok, pure_eq_ok, exists_const]
  refine ⟨⟨positive, weighed⟩, snapshot, ?_, ?_⟩
  · exact congrArg Prod.fst assigned
  · rw [ranking] at assigned
    rw [assigned]
    rfl

/-- Every final row is the floor of its part, or one more where something remains. -/
theorem mem_raised (nonneg : 0 ≤ totalAmount) (weighed : ∀ row ∈ rows, 0 < row.weight)
    (whole : totalWeight = (rows.map HolderWeight.weight).sum) (positive : 0 < totalWeight)
    (left : ((ranking rows totalAmount).map fun row => row.remainder).sum = totalWeight * count) {row : RankedRow κ}
    (member : row ∈ raised rows totalAmount count) :
    row.amount = totalAmount * row.weight / totalWeight ∨
      0 < totalAmount * row.weight % totalWeight ∧ row.amount = totalAmount * row.weight / totalWeight + 1 := by
  rcases List.mem_append.mp member with first | later
  · obtain ⟨ranked, early, rfl⟩ := List.mem_map.mp first
    obtain ⟨-, amount, remainder⟩ := mem_ranking nonneg weighed whole positive (List.mem_of_mem_take early)
    have some' := positive_of_first ranking_sorted (ranking_range nonneg weighed whole positive) left ranked early
    right
    refine ⟨remainder ▸ some', ?_⟩
    exact congrArg (· + 1) amount
  · exact .inl (mem_ranking nonneg weighed whole positive (List.mem_of_mem_drop later)).2.1

theorem raised_monotone (nonneg : 0 < totalAmount) (weighed : ∀ row ∈ rows, 0 < row.weight)
    (whole : totalWeight = (rows.map HolderWeight.weight).sum) (positive : 0 < totalWeight)
    {lighter heavier : RankedRow κ} (light : lighter ∈ raised rows totalAmount count)
    (heavy : heavier ∈ raised rows totalAmount count) (less : lighter.weight < heavier.weight) :
    lighter.amount ≤ heavier.amount := by
  have floors : totalAmount * lighter.weight / totalWeight ≤ totalAmount * heavier.weight / totalWeight :=
    Int.ediv_le_ediv positive (mul_le_mul_of_nonneg_left less.le nonneg.le)
  have known {row : RankedRow κ} (member : row ∈ ranking rows totalAmount) :=
    mem_ranking nonneg.le weighed whole positive member
  rcases List.mem_append.mp light with first | later <;> rcases List.mem_append.mp heavy with first' | later'
  · obtain ⟨row, early, rfl⟩ := List.mem_map.mp first
    obtain ⟨row', early', rfl⟩ := List.mem_map.mp first'
    show row.amount + 1 ≤ row'.amount + 1
    rw [(known (List.mem_of_mem_take early)).2.1, (known (List.mem_of_mem_take early')).2.1]
    exact add_le_add_left floors 1
  · obtain ⟨row, early, rfl⟩ := List.mem_map.mp first
    obtain ⟨-, amount, remainder⟩ := known (List.mem_of_mem_take early)
    obtain ⟨-, amount', remainder'⟩ := known (List.mem_of_mem_drop later')
    have sorted := @ranking_sorted κ rows totalAmount _
    rw [← List.take_append_drop count (ranking rows totalAmount)] at sorted
    have ranked := (List.pairwise_append.mp sorted).2.2 row early heavier later'
    rw [remainder, remainder'] at ranked
    show row.amount + 1 ≤ heavier.amount
    rw [amount, amount']
    exact floor_lt_of_rank nonneg less ranked positive
  · obtain ⟨row', early', rfl⟩ := List.mem_map.mp first'
    show lighter.amount ≤ row'.amount + 1
    rw [(known (List.mem_of_mem_drop later)).2.1, (known (List.mem_of_mem_take early')).2.1]
    exact floors.trans (Int.le_add_one le_rfl)
  · rw [(known (List.mem_of_mem_drop later)).2.1, (known (List.mem_of_mem_drop later')).2.1]
    exact floors

theorem raised_holders (nonneg : 0 ≤ totalAmount) (weighed : ∀ row ∈ rows, 0 < row.weight)
    (whole : totalWeight = (rows.map HolderWeight.weight).sum) (positive : 0 < totalWeight) :
    ((raised rows totalAmount count).map fun row => row.toHolderWeight).Perm rows := by
  have ranked := (ranking_perm nonneg weighed whole positive).map fun row => row.toHolderWeight
  rw [List.map_map] at ranked
  have same : rows.map ((fun row => row.toHolderWeight) ∘ rank totalAmount totalWeight) = rows := List.map_id rows
  rw [same] at ranked
  rw [raised, List.map_append, List.map_map]
  have unchanged : (fun row : RankedRow κ => row.toHolderWeight) ∘ RankedRow.raise = fun row => row.toHolderWeight := rfl
  rw [unchanged, ← List.map_append, List.take_append_drop]
  exact ranked

theorem raised_sum (nonneg : 0 ≤ totalAmount) (weighed : ∀ row ∈ rows, 0 < row.weight)
    (whole : totalWeight = (rows.map HolderWeight.weight).sum) (positive : 0 < totalWeight)
    (left : totalAmount - (computeProRata rows totalAmount).allocated = count)
    (enough : count ≤ (ranking rows totalAmount).length) :
    ((raised rows totalAmount count).map fun row => row.amount).sum = totalAmount := by
  have floors := ((ranking_perm nonneg weighed whole positive).map fun row => row.amount).sum_eq
  rw [List.map_map] at floors
  have same : (rows.map ((fun row => row.amount) ∘ rank totalAmount totalWeight)).sum =
    (computeProRata rows totalAmount).allocated := (allocated_eq nonneg weighed whole positive).symm
  have units : (((ranking rows totalAmount).take count).map fun row => row.amount + 1).sum =
      (((ranking rows totalAmount).take count).map fun row => row.amount).sum + count := by
    rw [List.sum_map_add, List.map_const', List.sum_replicate, List.length_take, Nat.min_eq_left enough, nsmul_one]
  have split : (((ranking rows totalAmount).take count).map fun row => row.amount).sum +
      (((ranking rows totalAmount).drop count).map fun row => row.amount).sum =
      ((ranking rows totalAmount).map fun row => row.amount).sum := by
    rw [← List.sum_append, ← List.map_append, List.take_append_drop]
  rw [raised, List.map_append, List.sum_append, List.map_map]
  show (((ranking rows totalAmount).take count).map fun row => row.amount + 1).sum + _ = _
  linarith

theorem returned_perm (nonneg : 0 ≤ totalAmount) (weighed : ∀ row ∈ rows, 0 < row.weight)
    (whole : totalWeight = (rows.map HolderWeight.weight).sum) (positive : 0 < totalWeight)
    (left : ((ranking rows totalAmount).map fun row => row.remainder).sum = totalWeight * count) :
    ((ordered rows totalAmount count).filter (fun row => 0 < row.amount) ++
      (ordered rows totalAmount count).filter (fun row => row.amount = 0)).Perm
      ((raised rows totalAmount count).map RankedRow.toProRataRow) := by
  have sorted := List.perm_insertionSort (fun a b : ProRataRow κ => a.wallet ≤ b.wallet)
    ((raised rows totalAmount count).map RankedRow.toProRataRow)
  have floor : ∀ row ∈ ordered rows totalAmount count, 0 ≤ row.amount := by
    intro row member
    obtain ⟨final, inside, rfl⟩ := List.mem_map.mp (sorted.subset member)
    have weight : 0 ≤ final.weight :=
      (weighed _ ((raised_holders nonneg weighed whole positive).subset (List.mem_map_of_mem inside))).le
    have part := Int.ediv_nonneg (mul_nonneg nonneg weight) positive.le
    rcases mem_raised nonneg weighed whole positive left inside with down | ⟨-, up⟩ <;> omega
  have zero : (ordered rows totalAmount count).filter (fun row => row.amount = 0) =
      (ordered rows totalAmount count).filter fun row => ! decide (0 < row.amount) := by
    apply List.filter_congr
    intro row member
    have := floor row member
    rw [← decide_not, decide_eq_decide]
    omega
  rw [zero]
  exact (List.filter_append_perm _ _).trans sorted

theorem computeProRata_perm {others : List (HolderWeight κ)} (distinct : (rows.map HolderWeight.wallet).Nodup)
    (same : rows.Perm others) : computeProRata rows totalAmount = computeProRata others totalAmount := by
  have sorted : (rows.insertionSort fun a b => a.wallet ≤ b.wallet) =
      others.insertionSort fun a b => a.wallet ≤ b.wallet := by
    have byWallet := List.pairwise_insertionSort fun a b : HolderWeight κ => a.wallet ≤ b.wallet
    refine List.Perm.eq_of_pairwise ?_ (byWallet rows) (byWallet others) ?_
    · intro a b first second below above
      have first := (List.mem_insertionSort _).mp first
      have second := same.symm.subset ((List.mem_insertionSort _).mp second)
      exact List.inj_on_of_nodup_map distinct first second (le_antisymm below above)
    · exact (List.perm_insertionSort _ _).trans (same.trans (List.perm_insertionSort _ _).symm)
  unfold computeProRata
  rw [sorted]

/-- The allocation is made whatever the rows, pays the exact total in parts that are rounded down or up,
and does not depend on the order of the rows. -/
theorem distribution_allocation (nonempty : rows ≠ []) (distinct : (rows.map HolderWeight.wallet).Nodup)
    (weighed : ∀ row ∈ rows, 0 < row.weight) (funded : 0 < totalAmount) :
    ∃ result, computeDistributionAllocation rows totalAmount = .ok result ∧ Allocated rows totalAmount result ∧
      ∀ others, rows.Perm others → computeDistributionAllocation others totalAmount = .ok result := by
  have positive := sum_weight_pos nonempty weighed
  obtain ⟨count, left, fit⟩ := leftover funded.le weighed rfl positive
  have enough : count ≤ (ranking rows totalAmount).length :=
    leftover_le_length (ranking_range funded.le weighed rfl positive) positive fit
  have computed := computeDistributionAllocation_eq funded weighed nonempty left enough
  have returned := returned_perm funded.le weighed rfl positive fit
  refine ⟨_, computed, ?allocated, ?order⟩
  case order =>
    intro others same
    have guards : (0 < totalAmount ∧ ∀ row ∈ others, 0 < row.weight) ↔ 0 < totalAmount ∧ ∀ row ∈ rows, 0 < row.weight := by
      simp only [same.mem_iff]
    rw [← computed, computeDistributionAllocation, computeDistributionAllocation, require_congr guards,
      computeProRata_perm distinct same]
  case allocated =>
    have final {row : ProRataRow κ} (member : row ∈ _ ++ _) :
        ∃ raisedRow ∈ raised rows totalAmount count, raisedRow.toProRataRow = row :=
      List.mem_map.mp (returned.subset member)
    refine
      { holders := ?_, exact' := ?_, allocated := rfl, paid := ?_, unpaid := ?_, rounded := ?_, monotone := ?_ }
    · apply (returned.map _).trans
      rw [List.map_map]
      exact raised_holders funded.le weighed rfl positive
    · rw [(returned.map _).sum_eq, List.map_map]
      exact raised_sum funded.le weighed rfl positive left enough
    · intro row member
      simpa using (List.mem_filter.mp member).2
    · intro row member
      simpa using (List.mem_filter.mp member).2
    · intro row member
      obtain ⟨row, inside, rfl⟩ := final member
      rcases mem_raised funded.le weighed rfl positive fit inside with down | ⟨some', up⟩
      · left
        rw [down]
        exact floor_eq positive
      · right
        rw [up]
        exact succ_floor_eq positive some'
    · intro row member row' member' less
      obtain ⟨lighter, light, rfl⟩ := final member
      obtain ⟨heavier, heavy, rfl⟩ := final member'
      exact raised_monotone funded weighed rfl positive light heavy less

end statement

def exampleRows : List (HolderWeight String) := [⟨"c", 1⟩, ⟨"a", 1⟩, ⟨"b", 1⟩]

theorem distribution_allocation_example :
    ∃ result, computeDistributionAllocation exampleRows 5 = .ok result ∧ Allocated exampleRows 5 result ∧
      ∀ others, exampleRows.Perm others → computeDistributionAllocation others 5 = .ok result :=
  distribution_allocation (by decide) (by decide) (by decide) (by decide)

end Mancipatio.Allocation
