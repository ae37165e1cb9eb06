import Mancipatio.Recipients.Reading

/-!
# The rows of a list
-/

namespace Mancipatio.Recipients
open Checked

/-! ## What a text says -/

def columnsOf (text : Text) : Option Columns :=
  (headerOf (contentLines text)).getD none

def paymentLines (text : Text) : List (Nat × Text) :=
  if (headerOf (contentLines text)).isSome = true then (contentLines text).tail else contentLines text

def readings (text : Text) : List (Nat × Except String Payment) :=
  (paymentLines text).map fun line => (line.1, readLine (columnsOf text) line.2)

def accepted (columns : Option Columns) (lines : List (Nat × Text)) : List Payment :=
  lines.filterMap fun line => (readLine columns line.2).toOption

def due (wallet : Text) (payments : List Payment) : Nat :=
  ((payments.filter fun payment => payment.wallet = wallet).map Payment.amount).sum

def RecipientRow.payment (row : RecipientRow) : Payment where
  wallet := row.wallet
  amount := row.amount

def collect (columns : Option Columns) (lines : List (Nat × Text)) : Collected :=
  lines.foldl (Collected.read columns) { rows := [], errors := [] }

structure Tally (columns : Option Columns) (lines : List (Nat × Text)) (s : Collected) : Prop where
  distinct : (s.rows.map RecipientRow.wallet).Nodup
  amount : ∀ row ∈ s.rows, row.amount = due row.wallet (accepted columns lines)
  wallets : ∀ wallet, wallet ∈ s.rows.map RecipientRow.wallet ↔ wallet ∈ (accepted columns lines).map Payment.wallet
  total : (s.rows.map RecipientRow.amount).sum = ((accepted columns lines).map Payment.amount).sum
  errors : s.errors = [] ↔
    (∀ line ∈ lines, ∃ payment, readLine columns line.2 = .ok payment) ∧ ∀ wallet, due wallet (accepted columns lines) ≤ u64Max
  refused : ∀ line ∈ lines, ∀ text, readLine columns line.2 = .error text → { line := line.1, text } ∈ s.errors

/-! ## Lines that are read -/

theorem readAmount_bound {text : Text} {amount : Nat} (read : readAmount text = .ok amount) : amount ≤ u64Max := by
  simp only [readAmount, bind_eq_ok, require_eq_ok, okOr_eq_ok, pure_eq_ok, exists_const] at read
  obtain ⟨-, _, whole, -, rfl⟩ := read
  rw [wholeTokens, Option.ite_none_right_eq_some] at whole
  obtain ⟨⟨-, small⟩, same⟩ := whole
  rw [← Option.some.inj same]
  exact small

structure Payment.Sound (payment : Payment) : Prop where
  wallet : isAddress payment.wallet = true
  positive : 1 ≤ payment.amount
  small : payment.amount ≤ u64Max

theorem readPositional_sound {line : Text} {payment : Payment} (read : readPositional line = .ok payment) :
    payment.Sound ∧ looksLikeHeader (splitBest line).1 = false := by
  unfold readPositional at read
  generalize splitBest line = best at read ⊢
  obtain ⟨cells, delimiter⟩ := best
  simp only [bind_eq_ok, okOr_eq_ok, require_eq_ok, pure_eq_ok, exists_const] at read
  obtain ⟨at', found, -, k, -, -, amount, taken, rfl⟩ := read
  obtain ⟨inside, address, -⟩ := List.findIdx?_eq_some_iff_getElem.mp found
  constructor
  · refine ⟨?_, readAmount_pos taken, readAmount_bound taken⟩
    rw [List.getElem?_eq_getElem inside]
    exact address
  · have some' : (filledCells cells).all (fun cell => !isAddress cell.text && !numberLike cell.text) = false := by
      rw [List.all_eq_false]
      exact ⟨_, List.getElem_mem inside, by rw [address]; exact Bool.false_ne_true⟩
    rw [looksLikeHeader, some', Bool.and_false, Bool.false_and]

theorem readLine_sound {columns : Option Columns} {line : Text} {payment : Payment} (read : readLine columns line = .ok payment) :
    payment.Sound := by
  cases columns with
  | none => exact (readPositional_sound read).1
  | some columns =>
      rw [readLine, readMapped] at read
      split at read
      · exact (readPositional_sound read).1
      · simp only [bind_eq_ok, require_eq_ok, pure_eq_ok, exists_const] at read
        obtain ⟨-, -, address, amount, taken, rfl⟩ := read
        exact ⟨address, readAmount_pos taken, readAmount_bound taken⟩

theorem accepted_sound {columns : Option Columns} {lines : List (Nat × Text)} : ∀ payment ∈ accepted columns lines, payment.Sound := by
  intro payment member
  obtain ⟨line, -, read⟩ := List.mem_filterMap.mp member
  cases result : readLine columns line.2 with
  | error text =>
      rw [result] at read
      cases read
  | ok other =>
      rw [result] at read
      obtain rfl := Option.some.inj read
      exact readLine_sound result

/-! ## One more line -/

theorem due_append (wallet : Text) (payments : List Payment) (payment : Payment) :
    due wallet (payments ++ [payment]) = due wallet payments + if payment.wallet = wallet then payment.amount else 0 := by
  rw [due, due, List.filter_append, List.map_append, List.sum_append, List.filter_cons]
  split
  case isTrue same => simp [of_decide_eq_true same]
  case isFalse other =>
    have other' : ¬payment.wallet = wallet := by simpa using other
    simp [other']

theorem due_absent {wallet : Text} {payments : List Payment} (absent : wallet ∉ payments.map Payment.wallet) : due wallet payments = 0 := by
  have none' : (payments.filter fun payment => payment.wallet = wallet) = [] := by
    rw [List.filter_eq_nil_iff]
    intro payment member same
    exact absent (List.mem_map.mpr ⟨payment, member, of_decide_eq_true same⟩)
  rw [due, none']
  rfl

theorem accepted_append_ok {columns : Option Columns} {lines : List (Nat × Text)} {line : Nat × Text} {payment : Payment}
    (read : readLine columns line.2 = .ok payment) : accepted columns (lines ++ [line]) = accepted columns lines ++ [payment] := by
  rw [accepted, List.filterMap_append, List.filterMap_cons_some (by rw [read]; rfl)]
  rfl

theorem accepted_append_error {columns : Option Columns} {lines : List (Nat × Text)} {line : Nat × Text} {text : String}
    (read : readLine columns line.2 = .error text) : accepted columns (lines ++ [line]) = accepted columns lines := by
  rw [accepted, List.filterMap_append, List.filterMap_cons_none (by rw [read]; rfl), List.filterMap_nil, List.append_nil, accepted]

def addTo (wallet : Text) (amount lineNo : Nat) (row : RecipientRow) : RecipientRow :=
  if row.wallet = wallet then { row with amount, lines := row.lines ++ [lineNo] } else row

@[simp] theorem addTo_wallet (wallet : Text) (amount lineNo : Nat) (row : RecipientRow) : (addTo wallet amount lineNo row).wallet = row.wallet := by
  unfold addTo
  split <;> rfl

theorem add_cases (s : Collected) (lineNo : Nat) (payment : Payment) :
    (payment.wallet ∉ s.rows.map RecipientRow.wallet ∧ (s.add lineNo payment).errors = s.errors ∧
      (s.add lineNo payment).rows = s.rows ++ [{ wallet := payment.wallet, amount := payment.amount, lines := [lineNo] }]) ∨
    ∃ existing ∈ s.rows, existing.wallet = payment.wallet ∧
      (s.add lineNo payment).rows = s.rows.map (addTo payment.wallet (existing.amount + payment.amount) lineNo) ∧
      ((s.add lineNo payment).errors = if u64Max < existing.amount + payment.amount then
        s.errors ++ [{ line := lineNo, text := "The merged amount is too large." }] else s.errors) := by
  unfold Collected.add
  cases found : s.rows.find? fun row => row.wallet = payment.wallet with
  | none =>
      left
      refine ⟨?_, rfl, rfl⟩
      intro member
      obtain ⟨row, inside, same⟩ := List.mem_map.mp member
      exact List.find?_eq_none.mp found row inside (decide_eq_true same)
  | some existing =>
      right
      refine ⟨existing, List.mem_of_find?_eq_some found, by simpa using List.find?_some found, ?_, ?_⟩
      · dsimp only
        split <;> rfl
      · dsimp only
        split <;> rfl

theorem map_addTo_other {wallet : Text} {rows : List RecipientRow} (absent : wallet ∉ rows.map RecipientRow.wallet) (amount lineNo : Nat) :
    rows.map (addTo wallet amount lineNo) = rows := by
  have same : rows.map (addTo wallet amount lineNo) = rows.map id := by
    apply List.map_congr_left
    intro row member
    exact if_neg fun same => absent (List.mem_map.mpr ⟨row, member, same⟩)
  rw [same, List.map_id]

theorem map_addTo {wallet : Text} {rows : List RecipientRow} (distinct : (rows.map RecipientRow.wallet).Nodup)
    {existing : RecipientRow} (member : existing ∈ rows) (same : existing.wallet = wallet) (amount lineNo : Nat) :
    ∃ before after, rows = before ++ existing :: after ∧ wallet ∉ before.map RecipientRow.wallet ∧
      wallet ∉ after.map RecipientRow.wallet ∧
      rows.map (addTo wallet amount lineNo) = before ++ { existing with amount, lines := existing.lines ++ [lineNo] } :: after := by
  obtain ⟨before, after, rfl⟩ := List.append_of_mem member
  rw [List.map_append, List.map_cons, List.nodup_append, List.nodup_cons, same] at distinct
  obtain ⟨-, ⟨later, -⟩, apart⟩ := distinct
  have earlier : wallet ∉ before.map RecipientRow.wallet := fun inside => apart wallet inside wallet List.mem_cons_self rfl
  refine ⟨before, after, rfl, earlier, later, ?_⟩
  rw [List.map_append, List.map_cons, map_addTo_other earlier, map_addTo_other later, addTo, if_pos same]

section tally
variable {columns : Option Columns} {lines : List (Nat × Text)} {s : Collected}

theorem tally_refused (tally : Tally columns lines s) {line : Nat × Text} {text : String}
    (read : readLine columns line.2 = .error text) : Tally columns (lines ++ [line]) (s.fail line.1 text) := by
  obtain ⟨distinct, amount, wallets, total, -, refused⟩ := tally
  rw [← accepted_append_error read] at amount wallets total
  refine ⟨distinct, amount, wallets, total, iff_of_false (by simp [Collected.fail]) ?_, ?_⟩
  · rintro ⟨all, -⟩
    obtain ⟨payment, other⟩ := all line (by simp)
    rw [read] at other
    cases other
  · refine List.forall_mem_append.mpr ⟨fun line member text found => ?_, fun other member text' found => ?_⟩
    · exact List.mem_append_left _ (refused line member text found)
    · obtain rfl := List.mem_singleton.mp member
      rw [read] at found
      obtain rfl := Except.error.inj found
      simp [Collected.fail]

theorem errors_step {line : Nat × Text} {payment : Payment} (read : readLine columns line.2 = .ok payment)
    (errors : s.errors = [] ↔ (∀ line ∈ lines, ∃ payment, readLine columns line.2 = .ok payment) ∧
      ∀ wallet, due wallet (accepted columns lines) ≤ u64Max) :
    (s.errors = [] ∧ due payment.wallet (accepted columns lines) + payment.amount ≤ u64Max) ↔
      (∀ line' ∈ lines ++ [line], ∃ payment, readLine columns line'.2 = .ok payment) ∧
        ∀ wallet, due wallet (accepted columns (lines ++ [line])) ≤ u64Max := by
  rw [errors, accepted_append_ok read]
  constructor
  · rintro ⟨⟨all, small⟩, fits⟩
    refine ⟨List.forall_mem_append.mpr ⟨all, ?_⟩, fun wallet => ?_⟩
    · intro other member
      obtain rfl := List.mem_singleton.mp member
      exact ⟨payment, read⟩
    · rw [due_append]
      split
      case isTrue same => exact same ▸ fits
      case isFalse => exact small wallet
  · rintro ⟨all, small⟩
    refine ⟨⟨(List.forall_mem_append.mp all).1, fun wallet => ?_⟩, ?_⟩
    · have more := small wallet
      rw [due_append] at more
      omega
    · have more := small payment.wallet
      rwa [due_append, if_pos rfl] at more

theorem refused_step {line : Nat × Text} {payment : Payment} (read : readLine columns line.2 = .ok payment)
    (refused : ∀ line ∈ lines, ∀ text, readLine columns line.2 = .error text → { line := line.1, text } ∈ s.errors) :
    ∀ other ∈ lines ++ [line], ∀ text, readLine columns other.2 = .error text → { line := other.1, text } ∈ s.errors := by
  rw [List.forall_mem_append]
  refine ⟨refused, fun other member text found => ?_⟩
  obtain rfl := List.mem_singleton.mp member
  rw [read] at found
  cases found

theorem tally_new (tally : Tally columns lines s) {line : Nat × Text} {payment : Payment}
    (read : readLine columns line.2 = .ok payment) (absent : payment.wallet ∉ s.rows.map RecipientRow.wallet) {s' : Collected}
    (errors' : s'.errors = s.errors)
    (rows : s'.rows = s.rows ++ [{ wallet := payment.wallet, amount := payment.amount, lines := [line.1] }]) :
    Tally columns (lines ++ [line]) s' := by
  obtain ⟨distinct, amount, wallets, total, errors, refused⟩ := tally
  have nothing : due payment.wallet (accepted columns lines) = 0 := due_absent fun member => absent ((wallets _).mpr member)
  constructor
  case distinct =>
    rw [rows, List.map_append, List.map_singleton, ← List.concat_eq_append]
    exact distinct.concat absent
  case amount =>
    rw [rows, accepted_append_ok read]
    rw [List.forall_mem_append]
    refine ⟨fun row member => ?_, fun row member => ?_⟩
    · have other : payment.wallet ≠ row.wallet := fun same => absent (same ▸ List.mem_map_of_mem member)
      rw [due_append, if_neg other, Nat.add_zero]
      exact amount row member
    · obtain rfl := List.mem_singleton.mp member
      rw [due_append, if_pos rfl, nothing, Nat.zero_add]
  case wallets =>
    intro wallet
    rw [rows, accepted_append_ok read, List.map_append, List.map_append, List.mem_append, List.mem_append, wallets]
    rfl
  case total =>
    rw [rows, accepted_append_ok read, List.map_append, List.map_append, List.sum_append, List.sum_append, total]
    rfl
  case errors =>
    have small := (readLine_sound read).small
    have step := errors_step read errors
    rw [nothing, Nat.zero_add, and_iff_left small] at step
    rw [errors', step]
  case refused =>
    rw [errors']
    exact refused_step read refused

theorem tally_merged (tally : Tally columns lines s) {line : Nat × Text} {payment : Payment}
    (read : readLine columns line.2 = .ok payment) {existing : RecipientRow} (member : existing ∈ s.rows)
    (same : existing.wallet = payment.wallet) {s' : Collected}
    (rows : s'.rows = s.rows.map (addTo payment.wallet (existing.amount + payment.amount) line.1))
    (errors' : s'.errors = if u64Max < existing.amount + payment.amount then
      s.errors ++ [{ line := line.1, text := "The merged amount is too large." }] else s.errors) :
    Tally columns (lines ++ [line]) s' := by
  obtain ⟨distinct, amount, wallets, total, errors, refused⟩ := tally
  have before := amount existing member
  have names : s'.rows.map RecipientRow.wallet = s.rows.map RecipientRow.wallet := by
    rw [rows, List.map_map]
    apply List.map_congr_left
    intro row inside
    exact addTo_wallet _ _ _ row
  constructor
  case distinct =>
    rw [names]
    exact distinct
  case amount =>
    rw [rows, accepted_append_ok read]
    rw [List.forall_mem_map]
    intro row inside
    rw [addTo_wallet, due_append]
    by_cases this : row.wallet = payment.wallet
    · rw [addTo, if_pos this, if_pos this.symm, this, before, same]
    · rw [addTo, if_neg this, if_neg (Ne.symm this), Nat.add_zero]
      exact amount row inside
  case wallets =>
    intro wallet
    rw [names, accepted_append_ok read, List.map_append, List.mem_append, wallets]
    refine ⟨.inl, fun either => either.elim id fun new => ?_⟩
    rw [List.mem_singleton.mp new, ← same, ← wallets]
    exact List.mem_map_of_mem member
  case total =>
    obtain ⟨init, after, split, -, -, mapped⟩ := map_addTo distinct member same (existing.amount + payment.amount) line.1
    have more : ((accepted columns lines ++ [payment]).map Payment.amount).sum =
        ((accepted columns lines).map Payment.amount).sum + payment.amount := by
      simp
    rw [rows, mapped, accepted_append_ok read, more, ← total, split]
    simp only [List.map_append, List.map_cons, List.sum_append, List.sum_cons]
    omega
  case errors =>
    have step := errors_step read errors
    rw [← same, ← before] at step
    rw [errors', ← step]
    split
    case isTrue large => exact iff_of_false (by simp) fun both => absurd both.2 (Nat.not_le.mpr large)
    case isFalse small => exact (and_iff_left (Nat.not_lt.mp small)).symm
  case refused =>
    have kept := refused_step read refused
    rw [errors']
    split
    case isTrue => exact fun other inside text found => List.mem_append_left _ (kept other inside text found)
    case isFalse => exact kept

theorem tally_read (tally : Tally columns lines s) (line : Nat × Text) :
    Tally columns (lines ++ [line]) (Collected.read columns s line) := by
  unfold Collected.read
  cases read : readLine columns line.2 with
  | error text => exact tally_refused tally read
  | ok payment =>
      obtain ⟨absent, errors, rows⟩ | ⟨existing, member, same, rows, errors⟩ := add_cases s line.1 payment
      · exact tally_new tally read absent errors rows
      · exact tally_merged tally read member same rows errors

end tally

theorem tally_collect (columns : Option Columns) (lines : List (Nat × Text)) : Tally columns lines (collect columns lines) := by
  induction lines using List.reverseRecOn with
  | nil =>
      constructor
      case errors => exact iff_of_true rfl ⟨fun _ member => absurd member List.not_mem_nil, fun _ => Nat.zero_le _⟩
      all_goals simp [collect, accepted]
  | append_singleton lines line ih =>
      rw [collect, List.foldl_append]
      exact tally_read ih line

/-! ## Rows and payments -/

structure Pays (rows : List RecipientRow) (payments : List Payment) : Prop where
  distinct : (rows.map RecipientRow.wallet).Nodup
  wallets : ∀ wallet, wallet ∈ rows.map RecipientRow.wallet ↔ wallet ∈ payments.map Payment.wallet
  amount : ∀ row ∈ rows, row.amount = due row.wallet payments

theorem Tally.pays {columns : Option Columns} {lines : List (Nat × Text)} {s : Collected} (tally : Tally columns lines s) :
    Pays s.rows (accepted columns lines) :=
  ⟨tally.distinct, tally.wallets, tally.amount⟩

theorem due_perm {payments others : List Payment} (perm : payments.Perm others) (wallet : Text) :
    due wallet payments = due wallet others := by
  apply List.Perm.sum_eq
  exact (perm.filter _).map _

theorem due_mem {payments : List Payment} (distinct : (payments.map Payment.wallet).Nodup) {payment : Payment}
    (member : payment ∈ payments) : due payment.wallet payments = payment.amount := by
  induction payments with
  | nil => cases member
  | cons first rest ih =>
      rw [List.map_cons, List.nodup_cons] at distinct
      obtain ⟨absent, distinct⟩ := distinct
      rcases List.mem_cons.mp member with rfl | member
      · have later : due payment.wallet rest = 0 := due_absent absent
        rw [due] at later
        rw [due, List.filter_cons_of_pos (by simp), List.map_cons, List.sum_cons, later, Nat.add_zero]
      · have other : first.wallet ≠ payment.wallet := fun same => absent (same ▸ List.mem_map_of_mem member)
        rw [← ih distinct member, due, due, List.filter_cons_of_neg (by simpa using other)]

theorem RecipientRow.wallet_payment (rows : List RecipientRow) :
    (rows.map RecipientRow.payment).map Payment.wallet = rows.map RecipientRow.wallet := by
  rw [List.map_map]
  rfl

theorem Pays.mem_iff {rows : List RecipientRow} {payments : List Payment} (pays : Pays rows payments) {payment : Payment} :
    payment ∈ rows.map RecipientRow.payment ↔
      payment.wallet ∈ payments.map Payment.wallet ∧ payment.amount = due payment.wallet payments := by
  constructor
  · intro member
    obtain ⟨row, inside, rfl⟩ := List.mem_map.mp member
    exact ⟨(pays.wallets _).mp (List.mem_map_of_mem inside), pays.amount row inside⟩
  · rintro ⟨paid, amount⟩
    obtain ⟨row, inside, same⟩ := List.mem_map.mp ((pays.wallets _).mpr paid)
    refine List.mem_map.mpr ⟨row, inside, ?_⟩
    obtain ⟨wallet, owed⟩ := payment
    have amount' := pays.amount row inside
    rw [same] at amount'
    rw [RecipientRow.payment, same, amount', ← amount]

theorem Pays.nodup {rows : List RecipientRow} {payments : List Payment} (pays : Pays rows payments) :
    (rows.map RecipientRow.payment).Nodup := by
  apply List.Nodup.of_map Payment.wallet
  rw [RecipientRow.wallet_payment]
  exact pays.distinct

theorem Pays.perm {rows others : List RecipientRow} {payments payments' : List Payment} (pays : Pays rows payments)
    (pays' : Pays others payments') (wallets : ∀ wallet, wallet ∈ payments.map Payment.wallet ↔ wallet ∈ payments'.map Payment.wallet)
    (amounts : ∀ wallet, due wallet payments = due wallet payments') :
    (rows.map RecipientRow.payment).Perm (others.map RecipientRow.payment) := by
  rw [List.perm_ext_iff_of_nodup pays.nodup pays'.nodup]
  intro payment
  rw [pays.mem_iff, pays'.mem_iff, wallets, amounts]

theorem accepted_perm {lines others : List (Nat × Text)} (perm : (lines.map Prod.snd).Perm (others.map Prod.snd))
    (columns : Option Columns) : (accepted columns lines).Perm (accepted columns others) := by
  have texts : ∀ lines : List (Nat × Text),
      accepted columns lines = (lines.map Prod.snd).filterMap fun line => (readLine columns line).toOption := by
    intro lines
    rw [List.filterMap_map]
    rfl
  rw [texts, texts]
  exact perm.filterMap _

/-! ## Texts without an error -/

def payments (text : Text) : List Payment :=
  accepted (columnsOf text) (paymentLines text)

theorem parseRecipients_pays (text : Text) : Pays (parseRecipients text).rows (payments text) :=
  (tally_collect _ _).pays

theorem errors_nil_iff {text : Text} :
    (parseRecipients text).errors = [] ↔
      (∀ line ∈ paymentLines text, ∃ payment, readLine (columnsOf text) line.2 = .ok payment) ∧
        (∀ wallet, due wallet (payments text) ≤ u64Max) ∧ (parseRecipients text).rows.length ≤ maxDistributionRows := by
  have tally := (tally_collect (columnsOf text) (paymentLines text)).errors
  have errors : (parseRecipients text).errors = (collect (columnsOf text) (paymentLines text)).errors ++
      if maxDistributionRows < (parseRecipients text).rows.length then
        [{ line := 0, text := tooManyRows (parseRecipients text).rows.length }]
      else [] := rfl
  have few : (if maxDistributionRows < (parseRecipients text).rows.length then
      [ParseIssue.mk 0 (tooManyRows (parseRecipients text).rows.length)] else []) = [] ↔
        (parseRecipients text).rows.length ≤ maxDistributionRows := by
    rw [← Nat.not_lt]
    split
    case isTrue many => simp [many]
    case isFalse few => simp [few]
  rw [errors, List.append_eq_nil_iff, few, tally, and_assoc]
  rfl

theorem readings_of_errors_nil {text : Text} (none' : (parseRecipients text).errors = []) :
    (readings text).map Prod.snd = (payments text).map .ok := by
  obtain ⟨all, -, -⟩ := errors_nil_iff.mp none'
  rw [readings, payments]
  generalize paymentLines text = lines at all ⊢
  induction lines with
  | nil => rfl
  | cons line lines ih =>
      obtain ⟨⟨payment, read⟩, later⟩ := List.forall_mem_cons.mp all
      rw [accepted, List.filterMap_cons_some (by rw [read]; rfl), List.map_cons, List.map_cons, List.map_cons, ih later, read]
      rfl

theorem error_listed {text : Text} {line : Nat × Text} (member : line ∈ paymentLines text) {e : String}
    (read : readLine (columnsOf text) line.2 = .error e) : { line := line.1, text := e } ∈ (parseRecipients text).errors :=
  List.mem_append_left _ ((tally_collect _ _).refused line member e read)

end Mancipatio.Recipients
