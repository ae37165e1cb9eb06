import Mancipatio.Recipients.Lines

/-!
# What is read from a line of one wallet and one number
-/

namespace Mancipatio.Recipients
open Checked

/-! ## Numbers among the cells -/

theorem numberLike_of {text : Text} {c : Char} {rest : Text} (head : text = c :: rest) (digit : c.isDigit = true)
    (all : ∀ c ∈ text, c.isDigit = true ∨ c = '.' ∨ isThousandsSeparator c = true) : numberLike text = true := by
  have minus : c ≠ '-' := by
    rintro rfl
    revert digit
    decide
  have plus : c ≠ '+' := by
    rintro rfl
    revert digit
    decide
  have unsigned : ¬((c :: rest).head? = some '-' ∨ (c :: rest).head? = some '+') := by
    simp [minus, plus]
  have later : rest.all (fun c => c.isDigit || c = '.' || isThousandsSeparator c) = true := by
    rw [List.all_eq_true]
    intro d member
    rcases all d (by rw [head]; exact List.mem_cons_of_mem _ member) with h | h | h <;> simp [h]
  rw [head, numberLike, if_neg unsigned, List.head?_cons, Option.map_some, digit, List.tail_cons, later]
  rfl

theorem point_like {number : Spelling} (valid : number.Valid) : number.point = '.' ∨ isThousandsSeparator number.point = true := by
  apply valid.point.imp_right
  intro comma
  rw [comma]
  decide

theorem numberLike_digits {text : Text} (digits : isDigits text = true) : numberLike text = true := by
  obtain ⟨nonempty, all⟩ := isDigits_iff.mp digits
  obtain ⟨c, rest, rfl⟩ := List.exists_cons_of_ne_nil nonempty
  exact numberLike_of rfl (all c List.mem_cons_self) fun d member => .inl (all d member)

theorem numberLike_tail {number : Spelling} (valid : number.Valid) {front : Text} (digits : isDigits front = true) :
    numberLike (front ++ number.tail) = true := by
  obtain ⟨nonempty, all⟩ := isDigits_iff.mp digits
  obtain ⟨c, rest, rfl⟩ := List.exists_cons_of_ne_nil nonempty
  apply @numberLike_of ((c :: rest) ++ number.tail) c (rest ++ number.tail) rfl (all c List.mem_cons_self)
  intro d member
  rcases List.mem_append.mp member with member | member
  · exact .inl (all d member)
  cases decimals : number.decimals with
  | none =>
      rw [Spelling.tail_none decimals] at member
      cases member
  | some fraction =>
      rw [Spelling.tail_some decimals] at member
      rcases List.mem_cons.mp member with rfl | member
      · exact .inr (point_like valid)
      · exact .inl ((isDigits_iff.mp (valid.decimals fraction decimals)).2 d member)

theorem numberLike_spelled {number : Spelling} (valid : number.Valid) : numberLike number.text = true := by
  obtain ⟨c, rest, spelled, digit⟩ := @spell_head number.sep number.tail number.first number.groups valid.first
  apply numberLike_of spelled digit
  intro d member
  rcases mem_text valid member with digit | ⟨-, rfl⟩ | ⟨rfl, -⟩
  · exact .inl digit
  · exact .inr (.inr valid.sep)
  · exact .inr (point_like valid)

theorem pieces_append (tail first : Text) (groups : List Text) (last : Text) :
    pieces tail first (groups ++ [last]) = first :: (groups ++ [last ++ tail]) := by
  induction groups generalizing first with
  | nil => rfl
  | cons group groups ih => rw [List.cons_append, pieces, ih, List.cons_append]

theorem Torn.cells {d : Delimiter} {number : Spelling} {quote : Option Char} (torn : Torn d number quote) :
    ∃ init last, number.groups = init ++ [last] ∧
      numberCells d number quote = (number.first :: (init ++ [last ++ number.tail])).map plainCell := by
  have split := (List.dropLast_append_getLast torn.2.1).symm
  refine ⟨_, _, split, ?_⟩
  rw [numberCells, if_pos torn, ← pieces_append, ← split]

theorem TornOff.cells {d : Delimiter} {number : Spelling} (valid : number.Valid) {quote : Option Char} (off : TornOff d number quote)
    {decimals : Text} (found : number.decimals = some decimals) :
    numberCells d number quote = [plainCell number.integer.text, plainCell decimals] := by
  have whole : ¬Torn d number quote := by
    intro torn
    have together := torn.together valid off.2.1
    rw [off.2.2] at together
    cases together
  rw [numberCells, if_neg whole, if_pos off, found, Option.getD_some]

theorem numberCells_like {d : Delimiter} {number : Spelling} (valid : number.Valid) (quote : Option Char) :
    ∀ cell ∈ numberCells d number quote, numberLike cell.text = true := by
  by_cases torn : Torn d number quote
  · obtain ⟨init, last, groups, cells⟩ := torn.cells
    intro cell member
    rw [cells] at member
    obtain ⟨piece, inside, rfl⟩ := List.mem_map.mp member
    rw [List.mem_cons, List.mem_append, List.mem_singleton] at inside
    rcases inside with rfl | inside | rfl
    · exact numberLike_digits valid.first
    · exact numberLike_digits (valid.groups piece (by rw [groups]; exact List.mem_append_left _ inside)).digits
    · exact numberLike_tail valid (valid.groups last (by rw [groups]; simp)).digits
  · by_cases off : TornOff d number quote
    · obtain ⟨decimals, found⟩ := Option.ne_none_iff_exists'.mp off.2.1
      rw [off.cells valid found]
      refine List.forall_mem_cons.mpr ⟨numberLike_spelled valid.integer, List.forall_mem_singleton.mpr ?_⟩
      exact numberLike_digits (valid.decimals decimals found)
    · rw [numberCells, if_neg torn, if_neg off]
      exact List.forall_mem_singleton.mpr (numberLike_spelled valid)

theorem grouped_not_address {number : Spelling} (valid : number.Valid) (groups : number.groups ≠ []) : isAddress number.text = false := by
  obtain ⟨group, others, spelled⟩ := List.exists_cons_of_ne_nil groups
  apply @not_address_of_mem _ number.sep
  · rw [Spelling.text, spelled, spell]
    simp
  · cases alphanum : number.sep.isAlphanum with
    | false => rfl
    | true =>
        have separator := separator_cases valid.sep
        simp only [List.mem_cons, List.not_mem_nil, or_false] at separator
        have codes := alphanum_codes alphanum
        omega

theorem decimal_not_address {number : Spelling} (valid : number.Valid) (some' : number.decimals ≠ none) : isAddress number.text = false := by
  obtain ⟨decimals, found⟩ := Option.ne_none_iff_exists'.mp some'
  exact not_address_of_mem (Spelling.point_mem found) valid.point_other.1

theorem numberCells_not_addresses {d : Delimiter} {number : Spelling} (valid : number.Valid) {quote : Option Char}
    (torn : Torn d number quote) : ∀ cell ∈ numberCells d number quote, isAddress cell.text = false := by
  obtain ⟨init, last, groups, cells⟩ := torn.cells
  rw [cells]
  intro cell member
  obtain ⟨piece, inside, rfl⟩ := List.mem_map.mp member
  rw [List.mem_cons, List.mem_append, List.mem_singleton] at inside
  rcases inside with rfl | inside | rfl
  · exact not_address_short (Nat.lt_of_le_of_lt (valid.short torn.2.1) (by decide))
  · have three := (valid.groups piece (by rw [groups]; exact List.mem_append_left _ inside)).1
    exact not_address_short (by rw [plainCell, three]; decide)
  · have three := (valid.groups last (by rw [groups]; simp)).1
    rw [plainCell]
    cases decimals : number.decimals with
    | none => exact not_address_short (by rw [Spelling.tail_none decimals, List.append_nil, three]; decide)
    | some fraction =>
        rw [Spelling.tail_some decimals]
        exact not_address_of_mem (by simp) valid.point_other.1

theorem address_large {text : Text} (address : isAddress text = true) (digits : isDigits text = true) : u64Max < digitsValue text := by
  obtain ⟨c, rest, rfl⟩ := List.exists_cons_of_ne_nil (address_ne_nil address)
  have base58 := address_base58 address c List.mem_cons_self
  have codes := digit_codes ((isDigits_iff.mp digits).2 c List.mem_cons_self)
  have size : 32 ≤ (c :: rest).length := by
    rw [isAddress, decide_eq_true_eq] at address
    exact address.1
  have zero : c ≠ '0' := by
    rintro rfl
    revert base58
    decide
  have code : c.toNat ≠ 48 := fun same => zero (Char.toNat_inj.mp same)
  have leading : 1 ≤ digitsValue [c] := by
    have zero : '0'.toNat = 48 := rfl
    rw [digitsValue, Nat.ofDigitChars_cons, Nat.ofDigitChars_nil, zero]
    omega
  have split := digitsValue_append [c] rest
  rw [List.singleton_append] at split
  rw [List.length_cons] at size
  calc u64Max < 10 ^ 31 := by decide
    _ ≤ 10 ^ rest.length := Nat.pow_le_pow_right (by decide) (by omega)
    _ ≤ digitsValue [c] * 10 ^ rest.length := Nat.le_mul_of_pos_left _ leading
    _ ≤ digitsValue (c :: rest) := by omega

/-! ## Which cell is the amount -/

theorem amountIndex_after {wallet first : Cell} {rest : List Cell} (number : numberLike first.text = true) :
    amountIndex (wallet :: first :: rest) 0 = some 1 := by
  have range : List.range (wallet :: first :: rest).length = 0 :: 1 :: (List.range rest.length).map (· + 2) := by
    rw [List.length_cons, List.length_cons, List.range_succ_eq_map, List.range_succ_eq_map]
    simp [Function.comp_def]
  rw [amountIndex, range]
  by_cases digits : numberLike wallet.text = true
  · simp [number, digits]
  · simp [number, digits]

theorem amountIndex_before {init : List Cell} {last wallet : Cell} (number : numberLike last.text = true) :
    amountIndex (init ++ [last] ++ [wallet]) (init.length + 1) = some init.length := by
  have range : List.range (init ++ [last] ++ [wallet]).length = List.range init.length ++ [init.length, init.length + 1] := by
    rw [List.length_append, List.length_append, List.length_singleton, List.length_singleton, List.range_succ, List.range_succ,
      List.append_assoc]
    rfl
  have early : ∀ i ∈ List.range init.length, i < init.length + 1 := fun i member => (List.mem_range.mp member).trans (Nat.lt_succ_self _)
  have none' : (((List.range init.length ++ [init.length, init.length + 1]).filter fun i =>
      (((init ++ [last] ++ [wallet])[i]?.map fun cell => numberLike cell.text).getD false)).find? fun i => init.length + 1 < i) = none := by
    rw [List.find?_eq_none]
    intro i member
    have inside := List.mem_of_mem_filter member
    simp only [List.mem_append, List.mem_range, List.mem_cons, List.not_mem_nil, or_false] at inside
    simp only [decide_eq_true_eq]
    omega
  have this : (init ++ [last] ++ [wallet])[init.length]? = some last := by simp
  rw [amountIndex, range, none', List.filter_append, List.filter_cons_of_pos (by simp [number]), List.filter_append, List.filter_cons_of_pos (by simp)]
  simp only [HOrElse.hOrElse, OrElse.orElse, Option.orElse]
  rw [List.getLast?_append]
  by_cases wallets : numberLike wallet.text = true
  · simp [wallets]
  · simp [wallets]

theorem amountIndex_ne {cells : List Cell} {i k : Nat} (found : amountIndex cells i = some k) : k ≠ i ∧ k < cells.length := by
  have inside : ∀ k ∈ (List.range cells.length).filter fun i => (cells[i]?.map fun cell => numberLike cell.text).getD false,
      k < cells.length := fun k member => List.mem_range.mp (List.mem_of_mem_filter member)
  rw [amountIndex] at found
  rcases (Option.orElse_eq_some _ _ _).mp found with behind | ⟨-, before⟩
  · have later := List.find?_some behind
    exact ⟨(of_decide_eq_true later).ne', inside k (List.mem_of_find?_eq_some behind)⟩
  · have member := List.mem_of_getLast? before
    exact ⟨(of_decide_eq_true (List.mem_filter.mp member).2).ne, inside k (List.mem_of_mem_filter member)⟩

/-! ## The payment of a line -/

section positional
variable {chars : Text} {cells : List Cell} {d : Delimiter} {payment : Payment}

def allWallet (cells : List Cell) (wallet : Text) : Prop :=
  ∀ cell ∈ cells, isAddress cell.text = true → cell.text = wallet

theorem readPositional_ok (split : splitBest chars = (cells, d)) (filled : filledCells cells = cells) :
    readPositional chars = .ok payment ↔ ∃ i k, cells.findIdx? (fun cell => isAddress cell.text) = some i ∧
      payment.wallet = (cells[i]?.map Cell.text).getD [] ∧ allWallet cells payment.wallet ∧ amountIndex cells i = some k ∧
      isAmbiguous d (cells[k]?.getD { text := [], quoted := false }) cells[k + 1]? = false ∧
      readAmount (cells[k]?.getD { text := [], quoted := false }).text = .ok payment.amount := by
  have all : ∀ wallet, cells.all (fun cell => !isAddress cell.text || cell.text = wallet) = true ↔ allWallet cells wallet := by
    intro wallet
    rw [List.all_eq_true]
    refine forall₂_congr fun cell member => ?_
    cases isAddress cell.text <;> simp
  simp only [readPositional, split, filled, bind_eq_ok, okOr_eq_ok, require_eq_ok, pure_eq_ok, exists_const, all]
  constructor
  · rintro ⟨i, first, same, k, amount, plain, n, read, rfl⟩
    exact ⟨i, k, first, rfl, same, amount, plain, read⟩
  · rintro ⟨i, k, first, wallet, same, amount, plain, read⟩
    refine ⟨i, first, wallet ▸ same, k, amount, plain, payment.amount, read, ?_⟩
    rw [← wallet]

theorem read_first (split : splitBest chars = (cells, d)) (filled : filledCells cells = cells) {wallet head : Cell} {rest : List Cell}
    (shape : cells = wallet :: head :: rest) (address : isAddress wallet.text = true) (like : numberLike head.text = true) :
    readPositional chars = .ok payment ↔ payment.wallet = wallet.text ∧ allWallet cells wallet.text ∧
      isAmbiguous d head rest.head? = false ∧ readAmount head.text = .ok payment.amount := by
  have first : cells.findIdx? (fun cell => isAddress cell.text) = some 0 := by
    rw [shape, List.findIdx?_cons, if_pos address]
  have amount : amountIndex cells 0 = some 1 := by rw [shape, amountIndex_after like]
  have wallet' : (cells[0]?.map Cell.text).getD [] = wallet.text := by rw [shape]; rfl
  have chosen : cells[1]?.getD { text := [], quoted := false } = head := by rw [shape]; rfl
  have next : cells[1 + 1]? = rest.head? := by rw [shape]; cases rest <;> rfl
  rw [readPositional_ok split filled]
  constructor
  · rintro ⟨i, k, found, paid, same, at', plain, read⟩
    obtain rfl := Option.some.inj (found.symm.trans first)
    obtain rfl := Option.some.inj (at'.symm.trans amount)
    rw [wallet'] at paid
    rw [chosen, next] at plain
    rw [chosen] at read
    exact ⟨paid, paid ▸ same, plain, read⟩
  · rintro ⟨paid, same, plain, read⟩
    refine ⟨0, 1, first, paid.trans wallet'.symm, paid ▸ same, amount, ?_, ?_⟩
    · rw [chosen, next]
      exact plain
    · rw [chosen]
      exact read

theorem read_last (split : splitBest chars = (cells, d)) (filled : filledCells cells = cells) {init : List Cell} {last wallet : Cell}
    (shape : cells = init ++ [last] ++ [wallet]) (others : ∀ cell ∈ init ++ [last], isAddress cell.text = false)
    (address : isAddress wallet.text = true) (like : numberLike last.text = true) :
    readPositional chars = .ok payment ↔ payment.wallet = wallet.text ∧ isAmbiguous d last (some wallet) = false ∧
      readAmount last.text = .ok payment.amount := by
  have first : cells.findIdx? (fun cell => isAddress cell.text) = some (init.length + 1) := by
    have none' : (init ++ [last]).findIdx? (fun cell => isAddress cell.text) = none := by
      rw [List.findIdx?_eq_none_iff]
      exact others
    rw [shape, List.findIdx?_append, none']
    simp [List.findIdx?_cons, address]
  have amount : amountIndex cells (init.length + 1) = some init.length := by rw [shape, amountIndex_before like]
  have wallet' : (cells[init.length + 1]?.map Cell.text).getD [] = wallet.text := by
    rw [shape]
    simp
  have chosen : cells[init.length]?.getD { text := [], quoted := false } = last := by
    rw [shape]
    simp
  have next : cells[init.length + 1]? = some wallet := by
    rw [shape]
    simp
  have only : allWallet cells wallet.text := by
    intro cell member isAddress'
    rw [shape, List.mem_append, List.mem_singleton] at member
    rcases member with member | rfl
    · rw [others cell member] at isAddress'
      cases isAddress'
    · rfl
  rw [readPositional_ok split filled]
  constructor
  · rintro ⟨i, k, found, paid, -, at', plain, read⟩
    obtain rfl := Option.some.inj (found.symm.trans first)
    obtain rfl := Option.some.inj (at'.symm.trans amount)
    rw [wallet'] at paid
    rw [chosen, next] at plain
    rw [chosen] at read
    exact ⟨paid, plain, read⟩
  · rintro ⟨paid, plain, read⟩
    refine ⟨init.length + 1, init.length, first, paid.trans wallet'.symm, paid ▸ only, amount, ?_, ?_⟩
    · rw [chosen, next]
      exact plain
    · rw [chosen]
      exact read

theorem read_two {left right : Cell} (split : splitBest chars = ([left, right], d)) (filled : filledCells [left, right] = [left, right])
    (read : readPositional chars = .ok payment) :
    readAmount (if isAddress left.text = true then right else left).text = .ok payment.amount := by
  obtain ⟨i, k, found, -, -, amount, -, read⟩ := (readPositional_ok split filled).mp read
  obtain ⟨other, inside⟩ := amountIndex_ne amount
  rw [List.length_cons, List.length_singleton] at inside
  cases address : isAddress left.text with
  | true =>
      rw [List.findIdx?_cons, if_pos address] at found
      obtain rfl := Option.some.inj found
      obtain rfl : k = 1 := by omega
      exact read
  | false =>
      rw [List.findIdx?_cons, if_neg (by rw [address]; exact Bool.false_ne_true)] at found
      obtain ⟨j, later, rfl⟩ := Option.map_eq_some_iff.mp found
      have early := (List.findIdx?_eq_some_iff_findIdx_eq.mp later).1
      rw [List.length_singleton] at early
      obtain rfl : k = 0 := by omega
      exact read

end positional

section line
variable {line : RecipientLine} {payment : Payment}

theorem read_after (valid : line.Valid) (kept : ¬line.Astray) (order : line.walletFirst = true) {head : Cell} {rest : List Cell}
    (cells : numberCells line.delimiter line.number line.numberQuote = head :: rest) :
    readPositional line.chars = .ok payment ↔ payment.wallet = line.wallet ∧ allWallet line.cells line.wallet ∧
      isAmbiguous line.delimiter head rest.head? = false ∧ readAmount head.text = .ok payment.amount := by
  have shape : line.cells = line.walletCell :: head :: rest := by rw [RecipientLine.cells, if_pos order, cells]
  have like := numberCells_like valid.number line.numberQuote head (by rw [cells]; exact List.mem_cons_self)
  exact read_first (valid.splitBest kept) valid.filled shape valid.wallet like

theorem cells_before (order : line.walletFirst = false) :
    line.cells = numberCells line.delimiter line.number line.numberQuote ++ [line.walletCell] := by
  rw [RecipientLine.cells, if_neg (by rw [order]; exact Bool.false_ne_true)]

theorem read_before (valid : line.Valid) (kept : ¬line.Astray) (order : line.walletFirst = false) {init : List Cell} {last : Cell}
    (cells : numberCells line.delimiter line.number line.numberQuote = init ++ [last])
    (others : ∀ cell ∈ numberCells line.delimiter line.number line.numberQuote, isAddress cell.text = false) :
    readPositional line.chars = .ok payment ↔ payment.wallet = line.wallet ∧
      isAmbiguous line.delimiter last (some line.walletCell) = false ∧ readAmount last.text = .ok payment.amount := by
  have shape : line.cells = init ++ [last] ++ [line.walletCell] := by rw [cells_before order, cells]
  have like := numberCells_like valid.number line.numberQuote last (by rw [cells]; simp)
  exact read_last (valid.splitBest kept) valid.filled shape (cells ▸ others) valid.wallet like

end line

end Mancipatio.Recipients
