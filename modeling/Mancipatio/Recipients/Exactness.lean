import Mancipatio.Recipients.Canonical
import Mancipatio.Recipients.Misreading

/-!
# What a list is read as
-/

namespace Mancipatio.Recipients
open Checked

/-! ## A line alone -/

theorem written_head {text : Text} (head : text.head? ≠ some '#') {quote : Option Char} (quotes : Quotes text quote) :
    (written text quote).head? ≠ some '#' := by
  cases quote with
  | none => exact head
  | some opening =>
      obtain ⟨closing, opens, -⟩ := quotes opening rfl
      intro same
      obtain rfl : opening = '#' := Option.some.inj same
      have none' : closingQuote '#' = none := by decide
      rw [none'] at opens
      cases opens

theorem alphanum_head {text : Text} {c : Char} (member : c ∈ text.head?) (alphanum : c.isAlphanum = true) : text.head? ≠ some '#' := by
  intro comment
  rw [comment] at member
  obtain rfl := Option.some.inj member
  revert alphanum
  decide

section alone
variable {line : RecipientLine}

theorem number_head (valid : line.Valid) : line.number.text.head? ≠ some '#' := by
  obtain ⟨c, rest, spelled, digit⟩ := @spell_head line.number.sep line.number.tail line.number.first line.number.groups valid.number.first
  apply @alphanum_head _ c
  · rw [Spelling.text, spelled]
    rfl
  · rw [Char.isAlphanum, digit, Bool.or_true]

theorem wallet_head (valid : line.Valid) : line.wallet.head? ≠ some '#' := by
  obtain ⟨c, rest, shape⟩ := List.exists_cons_of_ne_nil (address_ne_nil valid.wallet)
  apply @alphanum_head _ c
  · rw [shape]
    rfl
  · exact base58_alphanum (address_base58 valid.wallet c (by rw [shape]; exact List.mem_cons_self))

theorem head_append {left : Text} (head : left.head? ≠ some '#') (some' : Solid left) (rest : Text) : (left ++ rest).head? ≠ some '#' := by
  obtain ⟨⟨c, chars, rfl, -⟩, -⟩ := some'
  exact head

theorem chars_solid (valid : line.Valid) : Solid line.chars ∧ line.chars.head? ≠ some '#' := by
  have wallet := written_solid (address_solid valid.wallet) valid.walletQuote
  have number := written_solid valid.number.solid valid.numberQuote
  rw [RecipientLine.chars]
  split
  · exact ⟨Solid.around wallet number _, head_append (written_head (wallet_head valid) valid.walletQuote) wallet _⟩
  · exact ⟨Solid.around number wallet _, head_append (written_head (number_head valid) valid.numberQuote) number _⟩

theorem written_noBreak {text : Text} (plain : ∀ c ∈ text, c ≠ newline) {quote : Option Char} (quotes : Quotes text quote) :
    ∀ c ∈ written text quote, c ≠ newline := by
  have blank : isSpace newline = true := by decide
  apply written_chars plain
  intro opening found
  obtain ⟨closing, opens, -⟩ := quotes opening found
  obtain ⟨starts, ends⟩ := quote_solid opens
  rw [opens, Option.getD_some]
  constructor
  · rintro rfl
    rw [blank] at starts
    cases starts
  · rintro rfl
    rw [blank] at ends
    cases ends

theorem chars_noBreak (valid : line.Valid) : newline ∉ line.chars := by
  have wallet : ∀ c ∈ line.wallet, c ≠ newline := by
    rintro c member rfl
    have solid := (address_plain valid.wallet _ member).solid
    revert solid
    decide
  have number : ∀ c ∈ line.number.text, c ≠ newline := by
    rintro c member rfl
    rcases mem_text valid.number member with digit | ⟨-, sep⟩ | ⟨point, -⟩
    · revert digit
      decide
    · have separator := valid.number.sep
      rw [← sep] at separator
      revert separator
      decide
    · rcases valid.number.point with mark | mark <;> rw [← point] at mark <;> revert mark <;> decide
  have each : ∀ c ∈ line.chars, c ≠ newline := by
    have walletLine := written_noBreak wallet valid.walletQuote
    have numberLine := written_noBreak number valid.numberQuote
    rw [RecipientLine.chars]
    split
    · exact List.forall_mem_append.mpr ⟨walletLine, List.forall_mem_append.mpr ⟨valid.oneLine, numberLine⟩⟩
    · exact List.forall_mem_append.mpr ⟨numberLine, List.forall_mem_append.mpr ⟨valid.oneLine, walletLine⟩⟩
  exact fun member => each newline member rfl

theorem contentLines_alone (valid : line.Valid) : contentLines line.chars = [(1, line.chars)] := by
  obtain ⟨solid, noComment⟩ := chars_solid valid
  obtain ⟨⟨c, rest, shape, -⟩, -⟩ := solid
  have content : contentLine line.chars = some line.chars := by
    rw [contentLine, trim_solid (chars_solid valid).1, if_neg]
    rintro (empty | comment)
    · rw [shape] at empty
      cases empty
    · exact noComment comment
  rw [contentLines_eq, splitLines_plain (chars_noBreak valid), List.zipIdx_singleton, List.filterMap_cons, content]
  rfl

theorem not_header (valid : line.Valid) : looksLikeHeader (splitBest line.chars).1 = false := by
  have some' : ∃ cell ∈ filledCells (splitBest line.chars).1, isAddress cell.text = true := by
    by_cases astray : line.Astray
    · obtain ⟨left, right, best, filled, address, -⟩ := astray_cells valid astray
      rw [best, filled]
      rcases address with address | address
      · exact ⟨left, by simp, address⟩
      · exact ⟨right, by simp, address⟩
    · rw [valid.splitBest astray, valid.filled]
      exact ⟨line.walletCell, line.walletCell_mem, valid.wallet⟩
  obtain ⟨cell, member, address⟩ := some'
  have other : (filledCells (splitBest line.chars).1).all (fun cell => !isAddress cell.text && !numberLike cell.text) = false := by
    rw [List.all_eq_false]
    exact ⟨cell, member, by rw [address]; exact Bool.false_ne_true⟩
  rw [looksLikeHeader, other, Bool.and_false, Bool.false_and]

theorem headerOf_line (valid : line.Valid) (n : Nat) (rest : List (Nat × Text)) : headerOf ((n, line.chars) :: rest) = none := by
  have noHeader := not_header valid
  rw [headerOf]
  generalize splitBest line.chars = best at noHeader ⊢
  exact if_neg (by rw [noHeader]; exact Bool.false_ne_true)

theorem mem_paymentLines (valid : line.Valid) {text : Text} {n : Nat} (member : (n, line.chars) ∈ contentLines text) :
    (n, line.chars) ∈ paymentLines text := by
  rw [paymentLines]
  split
  case isFalse => exact member
  case isTrue header =>
    cases content : contentLines text with
    | nil =>
        rw [content] at member
        cases member
    | cons first rest =>
        rw [content] at member header
        rcases List.mem_cons.mp member with rfl | member
        · rw [headerOf_line valid] at header
          cases header
        · exact member

end alone

/-! ## The whole list -/

/-- Wherever the line stands without a column header, it is refused with an error of its own or read as its wallet and
its number. -/
def RecipientLine.Exact (line : RecipientLine) : Prop :=
  ∀ text n, columnsOf text = none → (n, line.chars) ∈ contentLines text →
    (∃ e, (n, .error e) ∈ readings text ∧ { line := n, text := e } ∈ (parseRecipients text).errors) ∨
      ∃ amount : Nat, (n, .ok { wallet := line.wallet, amount }) ∈ readings text ∧ (amount : ℚ) = line.number.value

theorem exact_iff_right {line : RecipientLine} (valid : line.Valid) : line.Exact ↔ line.Right := by
  constructor
  · intro exact' payment read
    have content := contentLines_alone valid
    have header : headerOf (contentLines line.chars) = none := by rw [content, headerOf_line valid]
    have alone : readings line.chars = [(1, .ok payment)] := by
      rw [readings, paymentLines_headerless header, columnsOf_headerless header, content, List.map_singleton, readLine, read]
    obtain ⟨e, refused, -⟩ | ⟨amount, paid, value⟩ :=
      exact' line.chars 1 (columnsOf_headerless header) (by rw [content]; exact List.mem_singleton_self _)
    · rw [alone, List.mem_singleton] at refused
      cases refused
    · rw [alone, List.mem_singleton] at paid
      obtain rfl := Except.ok.inj (Prod.mk.inj paid).2
      exact ⟨rfl, value⟩
  · intro right text n noColumns member
    have inside := mem_paymentLines valid member
    have reading : (n, readPositional line.chars) ∈ readings text := by
      refine List.mem_map.mpr ⟨_, inside, ?_⟩
      rw [noColumns]
      rfl
    cases read : readPositional line.chars with
    | error e =>
        rw [read] at reading
        exact .inl ⟨e, reading, error_listed inside (by rw [noColumns]; exact read)⟩
    | ok payment =>
        obtain ⟨wallet, amount⟩ := payment
        obtain ⟨same, value⟩ := right _ read
        dsimp only at same value
        rw [read, same] at reading
        exact .inr ⟨amount, reading, value⟩

structure Listed (text : Text) : Prop where
  read : (readings text).map Prod.snd = (payments text).map .ok
  distinct : ((parseRecipients text).rows.map RecipientRow.wallet).Nodup
  wallets : ∀ wallet, wallet ∈ (parseRecipients text).rows.map RecipientRow.wallet ↔ wallet ∈ (payments text).map Payment.wallet
  amount : ∀ row ∈ (parseRecipients text).rows, row.amount = due row.wallet (payments text)
  total : (parseRecipients text).total = ((parseRecipients text).rows.map RecipientRow.amount).sum
  reordered : (parseRecipients text).header = false → ∀ other,
    ((contentLines text).map Prod.snd).Perm ((contentLines other).map Prod.snd) →
      (parseRecipients other).errors = [] ∧ (parseRecipients other).total = (parseRecipients text).total ∧
        normalizedRows (parseRecipients other).payments = normalizedRows (parseRecipients text).payments
  canonical : (parseRecipients (normalizedRows (parseRecipients text).payments)).errors = [] ∧
    (parseRecipients (normalizedRows (parseRecipients text).payments)).payments.Perm (parseRecipients text).payments
  same : ∀ other, (parseRecipients other).errors = [] →
    normalizedRows (parseRecipients other).payments = normalizedRows (parseRecipients text).payments →
      (parseRecipients other).payments.Perm (parseRecipients text).payments

theorem canonical_text {text : Text} (none' : (parseRecipients text).errors = []) :
    (parseRecipients (normalizedRows (parseRecipients text).payments)).errors = [] ∧
      (parseRecipients (normalizedRows (parseRecipients text).payments)).payments.Perm (parseRecipients text).payments := by
  obtain ⟨sound, distinct, few⟩ := parsed_sound none'
  exact canonical_parsed sound distinct few

theorem listed {text : Text} (none' : (parseRecipients text).errors = []) : Listed text := by
  have pays := parseRecipients_pays text
  constructor
  case read => exact readings_of_errors_nil none'
  case distinct => exact pays.distinct
  case wallets => exact pays.wallets
  case amount => exact pays.amount
  case total => rfl
  case reordered =>
    intro headerless other perm
    obtain ⟨none'', -, rows⟩ := reordered none' headerless perm
    refine ⟨none'', ?_, normalizedRows_perm rows.symm⟩
    rw [total_eq, total_eq]
    exact (rows.symm.map Payment.amount).sum_eq
  case canonical => exact canonical_text none'
  case same =>
    intro other none'' same
    have left := (canonical_text none'').2
    rw [same] at left
    exact left.symm.trans (canonical_text none').2

/-- A line is read right exactly where it is not misread; a text without an error is one list. -/
theorem exact_iff_not_misread (line : RecipientLine) (text : Text) :
    (line.Valid → (line.Exact ↔ ¬line.Misread)) ∧ ((parseRecipients text).errors = [] → Listed text) := by
  constructor
  · intro valid
    rw [exact_iff_right valid, right_iff valid]
  · intro none'
    exact listed none'

theorem registryAddress_isAddress : isAddress registryAddress = true := by
  decide +kernel

theorem exact_iff_not_misread_example :
    (canonicalLine { wallet := registryAddress, amount := 1234 }).Exact ∧
      Listed (normalizedRows [{ wallet := registryAddress, amount := 1234 }]) := by
  have valid := @canonicalLine_valid { wallet := registryAddress, amount := 1234 } registryAddress_isAddress
  constructor
  · apply ((exact_iff_not_misread _ []).1 valid).mpr
    intro misread
    cases misread with
    | firstGroup _ torn | lastDecimals _ torn => exact torn.2.1 rfl
    | lastGroup order | decimals order => cases order
    | integer _ off => exact off.2.1 rfl
    | oneMore _ _ groups => exact groups rfl
  · apply (exact_iff_not_misread (canonicalLine { wallet := registryAddress, amount := 1234 }) _).2
    decide +kernel

def tornLine (walletFirst : Bool) (number : Spelling) : RecipientLine where
  wallet := registryAddress
  walletQuote := none
  number
  numberQuote := none
  delimiter := .comma
  before := []
  mark := ','
  after := []
  walletFirst

theorem tornLine_valid {walletFirst : Bool} {number : Spelling} (valid : number.Valid) : (tornLine walletFirst number).Valid := by
  constructor
  case wallet => exact registryAddress_isAddress
  case walletQuote => exact quotes_none _
  case numberQuote => exact quotes_none _
  case number => exact valid
  case mark => exact show Delimiter.comma.separates ',' = true by decide
  case tabbed => exact fun tab => absurd tab (show ',' ≠ tabChar by decide)
  case blanks => exact List.forall_mem_nil _
  case oneLine => simp [tornLine, RecipientLine.gap]

def tornNumber (decimals : Option Text) : Spelling :=
  { first := ['1'], sep := ',', groups := [['2', '3', '4']], point := '.', decimals }

def commaNumber : Spelling :=
  { first := ['1'], sep := ',', groups := [], point := ',', decimals := some ['5'] }

theorem tornNumber_valid {decimals : Option Text} (digits : ∀ text ∈ decimals, isDigits text = true) : (tornNumber decimals).Valid := by
  have group : IsGroup ['2', '3', '4'] := by decide
  constructor
  case first => exact show isDigits ['1'] = true by decide
  case sep => exact show isThousandsSeparator ',' = true by decide
  case groups => exact fun text member => List.mem_singleton.mp member ▸ group
  case short => exact fun _ => show 1 ≤ 3 by decide
  case point => exact .inl rfl
  case decimals => exact digits
  case apart => exact fun _ _ => show ',' ≠ '.' by decide
  case whole => exact fun none' => nomatch none'

theorem commaNumber_valid : commaNumber.Valid := by
  constructor
  case first => exact show isDigits ['1'] = true by decide
  case sep => exact show isThousandsSeparator ',' = true by decide
  case point => exact .inr rfl
  case decimals => simp [commaNumber, isDigits]
  case whole => simp [commaNumber]
  all_goals simp [commaNumber]

/-- `1,234,address` pays 234, `address,1,234.56` pays 1 and `1,5,address` pays 5. -/
theorem torn_lines_misread :
    ((tornLine false (tornNumber none)).Valid ∧ (tornNumber none).value = 1234 ∧
      (parseRecipients (tornLine false (tornNumber none)).chars).errors = [] ∧
      readings (tornLine false (tornNumber none)).chars = [(1, .ok { wallet := registryAddress, amount := 234 })] ∧
      ¬(tornLine false (tornNumber none)).Exact) ∧
    ((tornLine true (tornNumber (some ['5', '6']))).Valid ∧ (tornNumber (some ['5', '6'])).value = 1234 + 56 / 100 ∧
      (parseRecipients (tornLine true (tornNumber (some ['5', '6']))).chars).errors = [] ∧
      readings (tornLine true (tornNumber (some ['5', '6']))).chars = [(1, .ok { wallet := registryAddress, amount := 1 })] ∧
      ¬(tornLine true (tornNumber (some ['5', '6']))).Exact) ∧
    ((tornLine false commaNumber).Valid ∧ commaNumber.value = 1 + 5 / 10 ∧
      (parseRecipients (tornLine false commaNumber).chars).errors = [] ∧
      readings (tornLine false commaNumber).chars = [(1, .ok { wallet := registryAddress, amount := 5 })] ∧
      ¬(tornLine false commaNumber).Exact) := by
  have before : (tornLine false (tornNumber none)).Valid := tornLine_valid (tornNumber_valid (by simp))
  have after : (tornLine true (tornNumber (some ['5', '6']))).Valid := tornLine_valid (tornNumber_valid (by simp [isDigits]))
  have comma : (tornLine false commaNumber).Valid := tornLine_valid commaNumber_valid
  have whole : digitsValue ['1', '2', '3', '4'] = 1234 := by decide
  have cents : digitsValue ['5', '6'] = 56 := by decide
  have one : digitsValue ['1'] = 1 := by decide
  have five : digitsValue ['5'] = 5 := by decide
  have digits : ∀ decimals, (tornNumber decimals).digits = ['1', '2', '3', '4'] := fun _ => rfl
  have digits' : commaNumber.digits = ['1'] := rfl
  refine ⟨⟨before, ?_, by decide +kernel, by decide +kernel, ?_⟩, ⟨after, ?_, by decide +kernel, by decide +kernel, ?_⟩,
    comma, ?_, by decide +kernel, by decide +kernel, ?_⟩
  · rw [Spelling.value, digits, whole]
    norm_num [tornNumber]
  · rw [exact_iff_right before, right_iff before, not_not]
    exact .lastGroup rfl (by decide) rfl rfl (by decide) (by decide) (by decide +kernel)
  · rw [Spelling.value, digits, whole]
    norm_num [tornNumber, cents]
  · rw [exact_iff_right after, right_iff after, not_not]
    exact .firstGroup rfl (by decide) rfl rfl (fun comma => absurd comma (by decide)) (by decide)
  · rw [Spelling.value, digits', one]
    norm_num [commaNumber, five]
  · rw [exact_iff_right comma, right_iff comma, not_not]
    exact .decimals rfl (by decide) rfl (by decide) (fun address => absurd address (by decide)) (by decide +kernel)

end Mancipatio.Recipients
