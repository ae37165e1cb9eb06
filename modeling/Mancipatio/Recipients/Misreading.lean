import Mancipatio.Recipients.Reading

/-!
# Lines whose number is misread
-/

namespace Mancipatio.Recipients
open Checked

def RecipientLine.Right (line : RecipientLine) : Prop :=
  ∀ payment, readPositional line.chars = .ok payment →
    payment.wallet = line.wallet ∧ (payment.amount : ℚ) = line.number.value

/-! ## An address beside a decimal comma -/

section long
variable {w : Text}

theorem separator_not_alphanum {c : Char} (alphanum : c.isAlphanum = true) : isThousandsSeparator c = false := by
  cases separator : isThousandsSeparator c with
  | false => rfl
  | true =>
      have code := separator_cases separator
      simp only [List.mem_cons, List.not_mem_nil, or_false] at code
      have codes := alphanum_codes alphanum
      omega

theorem isGroups_long (alphanum : ∀ c ∈ w, c.isAlphanum = true) (long : 4 ≤ w.length) (rest front : Text) :
    isGroups (front ++ (w ++ rest)) = false := by
  have starts : ∀ c ∈ w, ∀ rest, isGroups (c :: rest) = false := by
    intro c member rest
    cases groups : isGroups (c :: rest) with
    | false => rfl
    | true =>
        have separator := isGroups_head groups
        rw [separator_not_alphanum (alphanum c member)] at separator
        cases separator
  obtain ⟨w₁, w₂, w₃, w₄, w, rfl⟩ : ∃ w₁ w₂ w₃ w₄ tail, w = w₁ :: w₂ :: w₃ :: w₄ :: tail := by
    rcases w with _ | ⟨w₁, _ | ⟨w₂, _ | ⟨w₃, _ | ⟨w₄, tail⟩⟩⟩⟩
    case cons.cons.cons.cons => exact ⟨w₁, w₂, w₃, w₄, tail, rfl⟩
    all_goals simp at long
  induction front using isGroups.induct with
  | case1 => exact starts w₁ (by simp) _
  | case2 c a b d front ih =>
      rw [List.cons_append, List.cons_append, List.cons_append, List.cons_append, isGroups, ih, Bool.and_false]
  | case3 front nonempty short =>
      rcases front with _ | ⟨c, _ | ⟨a, _ | ⟨b, _ | ⟨d, front⟩⟩⟩⟩
      case nil => exact absurd rfl nonempty
      case cons.nil => simp [isGroups, starts w₄]
      case cons.cons.nil => simp [isGroups, starts w₃]
      case cons.cons.cons.nil => simp [isGroups, starts w₂]
      case cons.cons.cons.cons => exact absurd rfl (short c a b d front)

theorem isThousands_long (alphanum : ∀ c ∈ w, c.isAlphanum = true) (long : 4 ≤ w.length) (rest : Text) :
    isThousands (w ++ rest) = false := by
  cases thousands : isThousands (w ++ rest) with
  | false => rfl
  | true =>
      simp only [isThousands, Bool.and_eq_true, decide_eq_true_eq] at thousands
      obtain ⟨⟨⟨-, short⟩, -⟩, groups⟩ := thousands
      by_cases digits : ∀ c ∈ w, c.isDigit = true
      · rw [List.takeWhile_append_of_pos digits, List.length_append] at short
        omega
      · have left : w.dropWhile Char.isDigit ≠ [] := fun none' => digits (by simpa using none')
        obtain ⟨c, more, shape⟩ := List.exists_cons_of_ne_nil left
        have inside : c ∈ w := (List.dropWhile_suffix _).subset (by rw [shape]; exact List.mem_cons_self)
        rw [List.dropWhile_append, shape] at groups
        have separator := isGroups_head groups
        rw [separator_not_alphanum (alphanum c inside)] at separator
        cases separator

theorem readAmount_blank {text : Text} (solid : Solid text) (single : isThousands text = false) {c : Char} (member : c ∈ text)
    (blank : isSpace c = true) : ∃ e, readAmount text = .error e := by
  have without : withoutThousands (trim text) = text := by
    rw [trim_solid solid, withoutThousands, single]
    exact if_neg Bool.false_ne_true
  apply readAmount_refused without
  cases digits : isDigits text with
  | false => rfl
  | true =>
      have digit := (isDigits_iff.mp digits).2 c member
      rw [(plain_digit digit).solid] at blank
      cases blank

end long

section astray
variable {line : RecipientLine}

theorem Scans.single {d : Delimiter} {chars : Text} {cell : Cell} (scans : Scans d chars [cell]) {rest : Text}
    (ends : rest.head? ≠ some doubleQuote) :
    Solid cell.text ∧ ∃ front, (∀ c ∈ front, isSpace c = true) ∧
      splitFrom d false none [] false (chars ++ rest) = splitFrom d false none (front ++ cell.text) cell.quoted rest := by
  obtain ⟨init, last, quoted, front, cells, solid, fronts, read⟩ := scans [] (List.forall_mem_nil _) rest ends
  obtain rfl : init = [] := by
    have length := congrArg List.length cells
    rw [List.length_append, List.length_singleton, List.length_singleton] at length
    exact List.length_eq_zero_iff.mp (by omega)
  obtain rfl := List.singleton_inj.mp cells
  exact ⟨solid, front, fronts, read⟩

theorem filledCells_pair {left right : Cell} (some' : left.text ≠ []) (some'' : right.text ≠ []) :
    filledCells [left, right] = [left, right] := by
  simp [filledCells, some', some'']

theorem splitBest_comma (valid : line.Valid) (spaced : line.delimiter = .space) {left right : Cell}
    (split : splitLine line.chars .comma = [left, right]) (filled : filledCells [left, right] = [left, right])
    (address : isAddress left.text = true ∨ isAddress right.text = true) : splitBest line.chars = ([left, right], .comma) := by
  have found : [left, right].any (fun cell => isAddress cell.text) = true := by simpa using address
  rw [Recipients.splitBest, delimiters, pass_whole (chars_separates valid (.inl rfl) (by rw [spaced]; decide)),
    pass_whole (chars_separates valid (.inr rfl) (by rw [spaced]; decide)), splitBestOf, split, filled, if_neg (by simp), if_pos found]

theorem address_long {text : Text} (address : isAddress text = true) : 4 ≤ text.length := by
  rw [isAddress, decide_eq_true_eq] at address
  omega

theorem number_comma {number : Spelling} (valid : number.Valid) {quote : Option Char} (off : TornOff .comma number quote)
    {decimals : Text} (found : number.decimals = some decimals) :
    number.text = number.integer.text ++ ',' :: decimals ∧ (∀ c ∈ number.integer.text, Delimiter.comma.separates c = false) ∧
      (∀ c ∈ decimals, Delimiter.comma.separates c = false ∧ closingQuote c = none) ∧ Solid decimals := by
  obtain ⟨-, some', comma⟩ := off
  have point : number.point = ',' := of_decide_eq_true comma
  obtain ⟨nonempty, all⟩ := isDigits_iff.mp (valid.decimals decimals found)
  refine ⟨?text, ?integer, ?plain, ?solid⟩
  case text => rw [Spelling.text_some found, point]
  case integer => exact integer_comma valid fun grouped => valid.apart grouped.1 some' (grouped.2.trans point.symm)
  case plain => exact fun c member => ⟨(plain_digit (all c member)).separates .comma, (plain_digit (all c member)).quote⟩
  case solid => exact solid_of_forall nonempty fun c member => (plain_digit (all c member)).solid

section spaced
variable {decimals : Text} (valid : line.Valid) (spaced : line.delimiter = .space)
  (off : TornOff .comma line.number line.numberQuote) (found : line.number.decimals = some decimals)
include valid spaced off found

/-- The comma behind a wallet and the first part of its number leaves the two in one cell. -/
theorem split_spaced_after (order : line.walletFirst = true) :
    Solid (line.wallet ++ (line.gap ++ line.number.integer.text)) ∧ splitLine line.chars .comma =
      [{ text := line.wallet ++ (line.gap ++ line.number.integer.text), quoted := line.walletQuote.isSome }, plainCell decimals] := by
  obtain ⟨text, integer, plain, solid⟩ := number_comma valid.number off found
  have separates : Delimiter.comma.separates ',' = true := by decide
  have tabless : ∀ c ∈ line.gap, Delimiter.comma.separates c = false := fun c member => ((gap_blank valid spaced).2 c member).2
  have wallet := @scans_wallet .comma line.wallet valid.wallet line.walletQuote valid.walletQuote
  obtain ⟨solidWallet, front, fronts, scanned⟩ : Solid line.wallet ∧ ∃ front, (∀ c ∈ front, isSpace c = true) ∧
      splitFrom .comma false none [] false (written line.wallet line.walletQuote ++ (line.gap ++ line.number.text)) =
        splitFrom .comma false none (front ++ line.wallet) line.walletQuote.isSome (line.gap ++ line.number.text) :=
    wallet.single (gap_head valid.mark valid.blanks _)
  obtain ⟨rest, s, tail, noBlank⟩ := solidWallet.last
  have begun : s ∈ front ++ line.wallet := by rw [tail]; simp
  have solidLeft := Solid.around solidWallet valid.number.integer.solid line.gap
  have trimmed : trim (front ++ line.wallet ++ line.gap ++ line.number.integer.text) =
      line.wallet ++ (line.gap ++ line.number.integer.text) := by
    have around := @trim_around front _ [] solidLeft fronts (List.forall_mem_nil _)
    simpa using around
  have last := @split_plain .comma decimals plain [] false []
  rw [List.append_nil, List.nil_append] at last
  refine ⟨solidLeft, ?_⟩
  rw [RecipientLine.chars, if_pos order, off.1, splitLine]
  refine scanned.trans ?_
  rw [text, split_begun tabless begun noBlank, split_begun integer (List.mem_append_left _ begun) noBlank,
    split_separator separates (separates_quote separates), pushCell_comma, trimmed, last, split_end, pushCell_comma, trim_solid solid]
  rfl

/-- The comma of a number before the wallet leaves its decimals and the wallet in one cell. -/
theorem split_spaced_before (order : line.walletFirst = false) (address : isAddress line.number.integer.text = true) :
    Solid (decimals ++ (line.gap ++ written line.wallet line.walletQuote)) ∧ splitLine line.chars .comma =
      [plainCell line.number.integer.text, plainCell (decimals ++ (line.gap ++ written line.wallet line.walletQuote))] := by
  obtain ⟨text, integer, plain, solid⟩ := number_comma valid.number off found
  have separates : Delimiter.comma.separates ',' = true := by decide
  have solidRight : Solid (decimals ++ (line.gap ++ written line.wallet line.walletQuote)) :=
    Solid.around solid (written_solid (address_solid valid.wallet) valid.walletQuote) line.gap
  obtain ⟨s, later, head, noBlank⟩ := solid.head
  have begun : s ∈ decimals := by rw [head]; exact List.mem_cons_self
  have together : ∀ c ∈ line.gap ++ written line.wallet line.walletQuote, Delimiter.comma.separates c = false := by
    refine List.forall_mem_append.mpr ⟨fun c member => ((gap_blank valid spaced).2 c member).2,
      written_separates valid.walletQuote (by decide) fun c member => ?_⟩
    exact (address_plain valid.wallet c member).separates .comma
  have last := @split_begun .comma _ together decimals false s begun noBlank []
  rw [List.append_nil] at last
  refine ⟨solidRight, ?_⟩
  rw [RecipientLine.chars, if_neg (by rw [order]; exact Bool.false_ne_true), off.1, splitLine, written, text, List.append_assoc,
    List.cons_append, split_plain fun c member => ⟨integer c member, (address_plain address c member).quote⟩, List.nil_append,
    split_separator separates (separates_quote separates), pushCell_comma, trim_solid valid.number.integer.solid, split_plain plain,
    List.nil_append, last, split_end, pushCell_comma, trim_solid solidRight]
  rfl

end spaced

/-- Where one part of a number that the comma splits is an address, the other cell is no amount. -/
theorem astray_cells (valid : line.Valid) (astray : line.Astray) : ∃ left right, splitBest line.chars = ([left, right], .comma) ∧
    filledCells [left, right] = [left, right] ∧ (isAddress left.text = true ∨ isAddress right.text = true) ∧
    ∃ e, readAmount (if isAddress left.text = true then right else left).text = .error e := by
  obtain ⟨spaced, off, sides⟩ := astray
  obtain ⟨someGap, gap⟩ := gap_blank valid spaced
  obtain ⟨b, more, shape⟩ := List.exists_cons_of_ne_nil someGap
  have inGap : b ∈ line.gap := by rw [shape]; exact List.mem_cons_self
  have blank := (gap b inGap).1
  have alphanum : ∀ c ∈ line.wallet, c.isAlphanum = true := fun c member => base58_alphanum (address_base58 valid.wallet c member)
  have long := address_long valid.wallet
  rcases sides with ⟨order, decimals, found, address⟩ | ⟨order, address⟩
  · obtain ⟨solid, split⟩ := split_spaced_after valid spaced off found order
    have nonempty := (isDigits_iff.mp (valid.number.decimals decimals found)).1
    have filled := @filledCells_pair { text := line.wallet ++ (line.gap ++ line.number.integer.text), quoted := line.walletQuote.isSome }
      (plainCell decimals) solid.ne_nil nonempty
    have other : isAddress (line.wallet ++ (line.gap ++ line.number.integer.text)) = false :=
      not_address_of_mem (by simp [inGap]) (blank_not_alphanum blank)
    refine ⟨_, _, splitBest_comma valid spaced split filled (.inr address), filled, .inr address, ?_⟩
    rw [if_neg (by rw [other]; exact Bool.false_ne_true)]
    have single := isThousands_long alphanum long (line.gap ++ line.number.integer.text)
    exact readAmount_blank solid single (List.mem_append_right _ (List.mem_append_left _ inGap)) blank
  · obtain ⟨decimals, found⟩ := Option.ne_none_iff_exists'.mp off.2.1
    obtain ⟨solid, split⟩ := split_spaced_before valid spaced off found order address
    have all := (isDigits_iff.mp (valid.number.decimals decimals found)).2
    have filled := @filledCells_pair (plainCell line.number.integer.text)
      (plainCell (decimals ++ (line.gap ++ written line.wallet line.walletQuote))) valid.number.integer.solid.ne_nil solid.ne_nil
    refine ⟨_, _, splitBest_comma valid spaced split filled (.inl address), filled, .inl address, ?_⟩
    rw [if_pos (show isAddress (plainCell line.number.integer.text).text = true from address)]
    have single : isThousands (decimals ++ (line.gap ++ written line.wallet line.walletQuote)) = false := by
      obtain ⟨start, close, around, -⟩ := written_close valid.walletQuote
      have ends : ∀ c ∈ (line.gap ++ written line.wallet line.walletQuote).head?, c.isDigit = false := by
        rw [shape]
        simpa using not_digit_of_alphanum (blank_not_alphanum blank)
      have groups := isGroups_long alphanum long close (line.gap ++ start)
      rw [List.append_assoc] at groups
      rw [isThousands, (takeWhile_digits all ends).2, around, groups, Bool.and_false]
    exact readAmount_blank solid single (List.mem_append_right _ (List.mem_append_left _ inGap)) blank

theorem astray_refused (valid : line.Valid) (astray : line.Astray) (payment : Payment) : readPositional line.chars ≠ .ok payment := by
  intro read
  obtain ⟨left, right, best, filled, -, e, refused⟩ := astray_cells valid astray
  have paid := read_two best filled read
  rw [refused] at paid
  cases paid

end astray

/-! ## When a line is read right -/

/-- A part of the number stands for the whole, or its parts for one larger number. -/
inductive RecipientLine.Misread (line : RecipientLine) : Prop where
  -- `address,1,234.56`
  | firstGroup {decimals : Text} : line.walletFirst = true → Torn line.delimiter line.number line.numberQuote →
      line.number.groups.length = 1 → line.number.decimals = some decimals →
      (line.number.point = ',' → isAddress decimals = false) → digitsValue line.number.first ≠ 0 → line.Misread
  -- `1,234,address`
  | lastGroup {last : Text} : line.walletFirst = false → Torn line.delimiter line.number line.numberQuote →
      line.number.decimals = none → line.number.groups.getLast? = some last → digitsValue last ≠ 0 →
      digitsValue (line.number.first ++ line.number.groups.dropLast.flatten) ≠ 0 →
      ¬(line.walletQuote = none ∧ isDigits line.wallet = true) → line.Misread
  -- `1 234,567 address`
  | lastDecimals {last decimals : Text} : line.walletFirst = false → Torn line.delimiter line.number line.numberQuote →
      line.number.decimals = some decimals → line.number.groups.getLast? = some last → line.number.point = ',' →
      decimals.length = 3 → digitsValue (last ++ decimals) ≠ 0 → line.Misread
  -- `address,1'234,56`
  | integer {decimals : Text} : line.walletFirst = true → TornOff line.delimiter line.number line.numberQuote →
      line.number.decimals = some decimals → line.number.groups ≠ [] → Payable (digitsValue line.number.digits) →
      digitsValue decimals ≠ 0 → (isAddress decimals = true → decimals = line.wallet) → line.Misread
  -- `1,5,address`
  | decimals {decimals : Text} : line.walletFirst = false → TornOff line.delimiter line.number line.numberQuote →
      line.number.decimals = some decimals → Payable (digitsValue decimals) →
      (isAddress line.number.integer.text = true → line.number.integer.text = line.wallet) →
      ¬(line.walletQuote = none ∧ isDigits line.wallet = true) → line.Misread
  -- `address;1'234,567`
  | oneMore {decimals : Text} : ¬Torn line.delimiter line.number line.numberQuote →
      ¬TornOff line.delimiter line.number line.numberQuote → line.number.groups ≠ [] → line.number.decimals = some decimals →
      line.number.point = ',' → decimals.length = 3 → Payable (digitsValue (line.number.digits ++ decimals)) → line.Misread

section payment
variable {line : RecipientLine}

theorem isAmbiguous_plain {d : Delimiter} (either : d = .comma ∨ d = .space) {amount : Text} (digits : isDigits amount = true)
    (next : Cell) : isAmbiguous d (plainCell amount) (some next) = (!next.quoted && isDigits next.text) := by
  have chosen : (decide (d = .comma) || decide (d = .space)) = true := by
    rcases either with rfl | rfl <;> decide
  rw [isAmbiguous, chosen, plainCell, digits]
  rfl

theorem isAmbiguous_other {d : Delimiter} {amount : Cell} (other : isDigits amount.text = false) (next : Option Cell) :
    isAmbiguous d amount next = false := by
  rw [isAmbiguous, other, Bool.and_false, Bool.false_and]

theorem isAmbiguous_wallet {d : Delimiter} (either : d = .comma ∨ d = .space) {amount : Text} (digits : isDigits amount = true) :
    isAmbiguous d (plainCell amount) (some line.walletCell) = false ↔ ¬(line.walletQuote = none ∧ isDigits line.wallet = true) := by
  rw [isAmbiguous_plain either digits, RecipientLine.walletCell]
  cases line.walletQuote <;> simp

theorem not_digits_of_mem {text : Text} {c : Char} (member : c ∈ text) (other : c.isDigit = false) : isDigits text = false := by
  cases digits : isDigits text with
  | false => rfl
  | true =>
      rw [(isDigits_iff.mp digits).2 c member] at other
      cases other

theorem Torn.either {d : Delimiter} {number : Spelling} (valid : number.Valid) {quote : Option Char} (torn : Torn d number quote) :
    d = .comma ∨ d = .space := by
  obtain ⟨noTab, noSemicolon⟩ := separator_separates valid.sep
  have separates := torn.2.2
  cases d with
  | tab => rw [noTab] at separates; cases separates
  | semicolon => rw [noSemicolon] at separates; cases separates
  | comma => exact .inl rfl
  | space => exact .inr rfl

theorem allWallet_torn (valid : line.Valid) (torn : Torn line.delimiter line.number line.numberQuote) :
    allWallet line.cells line.wallet := by
  have numbers := numberCells_not_addresses valid.number torn
  intro cell member address
  have cases' : cell = line.walletCell ∨ cell ∈ numberCells line.delimiter line.number line.numberQuote := by
    unfold RecipientLine.cells at member
    split at member
    · exact List.mem_cons.mp member
    · exact (List.mem_append.mp member).symm.imp List.mem_singleton.mp id
  rcases cases' with rfl | member
  · rfl
  · rw [numbers cell member] at address
    cases address

theorem right_of_refused (refused : ∀ payment, readPositional line.chars ≠ .ok payment) : line.Right :=
  fun payment read => absurd read (refused payment)

/-- A line that is read for one amount is read right unless that is another one than its number. -/
theorem right_of_reads {reads : Prop} {n : Nat}
    (read : ∀ payment, readPositional line.chars = .ok payment ↔
      payment.wallet = line.wallet ∧ reads ∧ payment.amount = n ∧ Payable n) :
    line.Right ↔ ¬(reads ∧ Payable n ∧ (n : ℚ) ≠ line.number.value) := by
  constructor
  · rintro right ⟨taken, payable, wrong⟩
    have paid := (read { wallet := line.wallet, amount := n }).mpr ⟨rfl, taken, rfl, payable⟩
    exact wrong (right _ paid).2
  · intro fine payment paid
    obtain ⟨wallet, taken, same, payable⟩ := (read payment).mp paid
    refine ⟨wallet, ?_⟩
    rw [same]
    by_contra wrong
    exact fine ⟨taken, payable, wrong⟩

theorem payable_of_lt {n : Nat} (some' : n ≠ 0) (small : n < 10 ^ 6) : Payable n := by
  refine ⟨Nat.pos_of_ne_zero some', ?_⟩
  rw [u64Max]
  omega

theorem digits_lt {digits : Text} (all : isDigits digits = true) {k : Nat} (short : digits.length ≤ k) :
    digitsValue digits < 10 ^ k :=
  (digitsValue_lt (isDigits_iff.mp all).2).trans_le (Nat.pow_le_pow_right (by decide) short)

theorem digits_concat {number : Spelling} {init : List Text} {last : Text} (groups : number.groups = init ++ [last]) :
    number.digits = (number.first ++ init.flatten) ++ last := by
  rw [Spelling.digits, groups]
  simp

/-! ### Groups that the delimiter tears -/

theorem right_torn_after (valid : line.Valid) (kept : ¬line.Astray) (torn : Torn line.delimiter line.number line.numberQuote)
    (order : line.walletFirst = true) :
    line.Right ↔ ¬(line.number.groups.length = 1 ∧ line.number.decimals ≠ none ∧ digitsValue line.number.first ≠ 0) := by
  obtain ⟨init, last, groups, cells⟩ := torn.cells
  have either := torn.either valid.number
  have read := fun payment => @read_after line payment valid kept order (plainCell line.number.first)
    ((init ++ [last ++ line.number.tail]).map plainCell) cells
  have isGroup := valid.number.groups last (by rw [groups]; simp)
  have refused : ∀ {next : Text}, isDigits next = true →
      ((init ++ [last ++ line.number.tail]).map plainCell).head? = some (plainCell next) → line.Right := by
    intro next digits head
    apply right_of_refused
    intro payment paid
    obtain ⟨-, -, plain, -⟩ := (read payment).mp paid
    rw [head, isAmbiguous_plain either valid.number.first, plainCell, digits] at plain
    cases plain
  cases init with
  | cons next init =>
      have isGroup' := valid.number.groups next (by rw [groups]; simp)
      refine iff_of_true (refused isGroup'.digits rfl) fun both => ?_
      rw [groups] at both
      simp at both
  | nil =>
      cases decimals : line.number.decimals with
      | none =>
          have tail := Spelling.tail_none decimals
          refine iff_of_true (refused isGroup.digits ?_) (by simp)
          rw [tail, List.append_nil]
          rfl
      | some fraction =>
          have tail := Spelling.tail_some decimals
          have other : isDigits (last ++ line.number.tail) = false :=
            @not_digits_of_mem _ line.number.point (by rw [tail]; simp) (not_digit_of_alphanum valid.number.point_other.1)
          have taken := @readAmount_digits _ _ (plain_digits valid.number.first) valid.number.first
          have plain : isAmbiguous line.delimiter (plainCell line.number.first)
              (([] ++ [last ++ line.number.tail]).map plainCell).head? = false := by
            rw [List.nil_append, List.map_singleton, List.head?_cons, isAmbiguous_plain either valid.number.first, plainCell, other,
              Bool.and_false]
          have reads : ∀ payment, readPositional line.chars = .ok payment ↔ payment.wallet = line.wallet ∧
              allWallet line.cells line.wallet ∧ payment.amount = digitsValue line.number.first ∧
              Payable (digitsValue line.number.first) := by
            intro payment
            rw [read payment, show (plainCell line.number.first).text = line.number.first from rfl, taken, plain]
            constructor
            · rintro ⟨wallet, all, -, same, payable⟩
              exact ⟨wallet, all, same, same ▸ payable⟩
            · rintro ⟨wallet, all, same, payable⟩
              exact ⟨wallet, all, rfl, same, same ▸ payable⟩
          refine (right_of_reads reads).trans (not_congr ⟨?_, ?_⟩)
          · rintro ⟨-, payable, -⟩
            exact ⟨by simp [groups], by simp, Nat.ne_of_gt payable.1⟩
          · rintro ⟨-, -, some'⟩
            have small := digits_lt valid.number.first (valid.number.short torn.2.1)
            refine ⟨allWallet_torn valid torn, payable_of_lt some' (by omega), ne_of_lt ?_⟩
            have more : (0 : ℚ) ≤ digitsValue fraction / 10 ^ fraction.length := by positivity
            have positive : (0 : ℚ) < digitsValue line.number.first := by exact_mod_cast Nat.pos_of_ne_zero some'
            have rest : (0 : ℚ) ≤ digitsValue last := Nat.cast_nonneg _
            rw [Spelling.value_some decimals, digits_concat groups, digitsValue_append, isGroup.1, List.flatten_nil, List.append_nil]
            push_cast
            linarith

theorem right_torn_before (valid : line.Valid) (kept : ¬line.Astray) (torn : Torn line.delimiter line.number line.numberQuote)
    (order : line.walletFirst = false) (whole : line.number.decimals = none) {last : Text}
    (ends : line.number.groups.getLast? = some last) :
    line.Right ↔ ¬(digitsValue last ≠ 0 ∧ digitsValue (line.number.first ++ line.number.groups.dropLast.flatten) ≠ 0 ∧
      ¬(line.walletQuote = none ∧ isDigits line.wallet = true)) := by
  obtain ⟨init, last', groups, cells⟩ := torn.cells
  obtain rfl : last' = last := by simpa [groups] using ends
  have tail := Spelling.tail_none whole
  rw [tail, List.append_nil, ← List.cons_append, List.map_append, List.map_singleton] at cells
  have isGroup := valid.number.groups last' (by rw [groups]; simp)
  have read := fun payment => @read_before line payment valid kept order ((line.number.first :: init).map plainCell) _ cells
    (numberCells_not_addresses valid.number torn)
  have taken := @readAmount_digits _ _ (plain_digits isGroup.digits) isGroup.digits
  have ambiguous := @isAmbiguous_wallet line line.delimiter (torn.either valid.number) last' isGroup.digits
  have reads : ∀ payment, readPositional line.chars = .ok payment ↔ payment.wallet = line.wallet ∧
      ¬(line.walletQuote = none ∧ isDigits line.wallet = true) ∧ payment.amount = digitsValue last' ∧ Payable (digitsValue last') := by
    intro payment
    rw [read payment, ambiguous, show (plainCell last').text = last' from rfl, taken]
    constructor
    · rintro ⟨wallet, other, same, payable⟩
      exact ⟨wallet, other, same, same ▸ payable⟩
    · rintro ⟨wallet, other, same, payable⟩
      exact ⟨wallet, other, same, same ▸ payable⟩
  have value : line.number.value = digitsValue (line.number.first ++ init.flatten) * 1000 + digitsValue last' := by
    rw [Spelling.value_whole whole, digits_concat groups, digitsValue_append, isGroup.1]
    push_cast
    ring
  rw [groups, List.dropLast_concat]
  refine (right_of_reads reads).trans (not_congr ⟨?_, ?_⟩)
  · rintro ⟨other, payable, wrong⟩
    refine ⟨Nat.ne_of_gt payable.1, fun none' => wrong ?_, other⟩
    rw [value, none']
    simp
  · rintro ⟨some', higher, other⟩
    have small := digits_lt isGroup.digits isGroup.1.le
    refine ⟨other, payable_of_lt some' (by omega), ne_of_lt ?_⟩
    have positive : (0 : ℚ) < digitsValue (line.number.first ++ init.flatten) := by exact_mod_cast Nat.pos_of_ne_zero higher
    rw [value]
    linarith

/-- The last group and three decimals behind a comma are read as one number. -/
theorem readAmount_mixed {group decimals : Text} (isGroup : IsGroup group) (digits : isDigits decimals = true)
    (three : decimals.length = 3) {n : Nat} :
    readAmount (group ++ ',' :: decimals) = .ok n ↔ n = digitsValue (group ++ decimals) ∧ Payable n := by
  have spelled : Spelling.Valid { first := group, sep := ',', groups := [decimals], point := '.', decimals := none } := by
    constructor
    case first => exact isGroup.digits
    case sep => exact show isThousandsSeparator ',' = true by decide
    case groups => exact List.forall_mem_singleton.mpr ⟨three, List.all_eq_true.mpr (isDigits_iff.mp digits).2⟩
    case short => exact fun _ => isGroup.1.le
    case point => exact .inl rfl
    all_goals simp
  have joined : Spelling.digits { first := group, sep := ',', groups := [decimals], point := '.', decimals := none } = group ++ decimals := by
    simp [Spelling.digits]
  have text : Spelling.text { first := group, sep := ',', groups := [decimals], point := '.', decimals := none } =
      group ++ ',' :: decimals := by
    simp [Spelling.text, spell, Spelling.tail]
  have without := spelled.without_whole rfl
  have all := spelled.digits
  rw [joined] at without all
  rw [text] at without
  exact readAmount_digits without all

/-- A group with any other decimals is refused. -/
theorem readAmount_point {number : Spelling} (valid : number.Valid) {group decimals : Text} (isGroup : IsGroup group)
    (digits : isDigits decimals = true) (other : ¬(number.point = ',' ∧ decimals.length = 3)) :
    ∃ e, readAmount (group ++ number.point :: decimals) = .error e := by
  have single : Spelling.Valid { first := group, sep := number.sep, groups := [], point := number.point, decimals := some decimals } := by
    constructor
    case first => exact isGroup.digits
    case sep => exact valid.sep
    case point => exact valid.point
    case decimals => simpa using digits
    case whole => exact fun _ _ comma _ same => Option.some.inj same ▸ fun three => other ⟨comma, three⟩
    all_goals simp
  exact single.refused rfl (by simp)

theorem right_torn_decimals (valid : line.Valid) (kept : ¬line.Astray) (torn : Torn line.delimiter line.number line.numberQuote)
    (order : line.walletFirst = false) {decimals : Text} (found : line.number.decimals = some decimals) {last : Text}
    (ends : line.number.groups.getLast? = some last) :
    line.Right ↔ ¬(line.number.point = ',' ∧ decimals.length = 3 ∧ digitsValue (last ++ decimals) ≠ 0) := by
  obtain ⟨init, last', groups, cells⟩ := torn.cells
  obtain rfl : last' = last := by simpa [groups] using ends
  rw [← List.cons_append, List.map_append, List.map_singleton] at cells
  have isGroup := valid.number.groups last' (by rw [groups]; simp)
  have digits := valid.number.decimals decimals found
  have read := fun payment => @read_before line payment valid kept order ((line.number.first :: init).map plainCell) _ cells
    (numberCells_not_addresses valid.number torn)
  have text : (plainCell (last' ++ line.number.tail)).text = last' ++ line.number.point :: decimals := by
    rw [Spelling.tail_some found]
    rfl
  by_cases mixed : line.number.point = ',' ∧ decimals.length = 3
  · obtain ⟨comma, three⟩ := mixed
    rw [comma] at text
    have other : isDigits (last' ++ ',' :: decimals) = false := not_digits_of_mem (List.mem_append_right _ List.mem_cons_self) (by decide)
    have reads : ∀ payment, readPositional line.chars = .ok payment ↔ payment.wallet = line.wallet ∧ True ∧
        payment.amount = digitsValue (last' ++ decimals) ∧ Payable (digitsValue (last' ++ decimals)) := by
      intro payment
      rw [read payment, isAmbiguous_other (text ▸ other), text, readAmount_mixed isGroup digits three]
      constructor
      · rintro ⟨wallet, -, same, payable⟩
        exact ⟨wallet, trivial, same, same ▸ payable⟩
      · rintro ⟨wallet, -, same, payable⟩
        exact ⟨wallet, rfl, same, same ▸ payable⟩
    have small := digits_lt isGroup.digits isGroup.1.le
    have small' := digits_lt digits three.le
    have amount : digitsValue (last' ++ decimals) = digitsValue last' * 1000 + digitsValue decimals := by
      rw [digitsValue_append, three]
      norm_num
    refine (right_of_reads reads).trans (not_congr ⟨?_, ?_⟩)
    · rintro ⟨-, payable, -⟩
      exact ⟨comma, three, Nat.ne_of_gt payable.1⟩
    · rintro ⟨-, -, some'⟩
      refine ⟨trivial, payable_of_lt some' (by omega), fun equal => ?_⟩
      rw [Spelling.value_some found, digits_concat groups, digitsValue_append (line.number.first ++ init.flatten), isGroup.1, three] at equal
      have scaled : (digitsValue (last' ++ decimals) : ℚ) * 1000 =
          ((digitsValue (line.number.first ++ init.flatten) : ℚ) * 1000 + digitsValue last') * 1000 + digitsValue decimals := by
        rw [equal]
        push_cast
        ring
      have whole : digitsValue (last' ++ decimals) * 1000 =
          (digitsValue (line.number.first ++ init.flatten) * 1000 + digitsValue last') * 1000 + digitsValue decimals := by
        exact_mod_cast scaled
      omega
  · refine iff_of_true (right_of_refused fun payment paid => ?_) (fun both => mixed ⟨both.1, both.2.1⟩)
    obtain ⟨-, -, amount⟩ := (read payment).mp paid
    obtain ⟨e, refused⟩ := readAmount_point valid.number isGroup digits mixed
    rw [text] at amount
    cases refused.symm.trans amount

/-! ### Decimals that the delimiter tears off -/

theorem right_off_after (valid : line.Valid) (kept : ¬line.Astray) (off : TornOff line.delimiter line.number line.numberQuote)
    (order : line.walletFirst = true) {decimals : Text} (found : line.number.decimals = some decimals) :
    line.Right ↔ ¬(line.number.groups ≠ [] ∧ Payable (digitsValue line.number.digits) ∧ digitsValue decimals ≠ 0 ∧
      (isAddress decimals = true → decimals = line.wallet)) := by
  have cells := off.cells valid.number found
  have either : line.delimiter = .comma ∨ line.delimiter = .space := .inl ((point_separates valid.number).mp off.2.2).1
  have digits := valid.number.decimals decimals found
  have read := fun payment => @read_after line payment valid kept order (plainCell line.number.integer.text) [plainCell decimals] cells
  have taken := @readAmount_digits _ _ (valid.number.integer.without_whole rfl) valid.number.integer.digits
  have value := Spelling.value_some found
  by_cases groups : line.number.groups = []
  · -- two cells of digits are ambiguous
    refine iff_of_true (right_of_refused fun payment paid => ?_) (by simp [groups])
    obtain ⟨-, -, plain, -⟩ := (read payment).mp paid
    have first : line.number.integer.text = line.number.first := by
      rw [Spelling.text, show line.number.integer.groups = [] from groups, spell, Spelling.tail_none rfl, List.append_nil]
      rfl
    rw [List.head?_cons, first, isAmbiguous_plain either valid.number.first, plainCell, digits] at plain
    cases plain
  · have sep : line.number.sep ∈ line.number.integer.text := by
      obtain ⟨group, others, spelled⟩ := List.exists_cons_of_ne_nil groups
      rw [Spelling.text, show line.number.integer.groups = group :: others from spelled, spell]
      exact List.mem_append_right _ List.mem_cons_self
    have plain := @isAmbiguous_other line.delimiter (plainCell line.number.integer.text)
      (not_digits_of_mem sep (separator_not_digit valid.number.sep)) (some (plainCell decimals))
    have all : allWallet line.cells line.wallet ↔ (isAddress decimals = true → decimals = line.wallet) := by
      have integer := grouped_not_address valid.number.integer groups
      rw [RecipientLine.cells, if_pos order, cells]
      simp [allWallet, plainCell, RecipientLine.walletCell, integer]
    have reads : ∀ payment, readPositional line.chars = .ok payment ↔ payment.wallet = line.wallet ∧
        (isAddress decimals = true → decimals = line.wallet) ∧ payment.amount = digitsValue line.number.digits ∧
        Payable (digitsValue line.number.digits) := by
      intro payment
      rw [read payment, all, List.head?_cons, plain, show (plainCell line.number.integer.text).text = line.number.integer.text from rfl, taken]
      constructor
      · rintro ⟨wallet, apart, -, same, payable⟩
        exact ⟨wallet, apart, same, same ▸ payable⟩
      · rintro ⟨wallet, apart, same, payable⟩
        exact ⟨wallet, apart, rfl, same, same ▸ payable⟩
    refine (right_of_reads reads).trans (not_congr ⟨?_, ?_⟩)
    · rintro ⟨apart, payable, wrong⟩
      refine ⟨groups, payable, fun none' => wrong ?_, apart⟩
      rw [value, none']
      simp
    · rintro ⟨-, payable, some', apart⟩
      refine ⟨apart, payable, ne_of_lt ?_⟩
      have positive : (0 : ℚ) < digitsValue decimals := by exact_mod_cast Nat.pos_of_ne_zero some'
      have part : (0 : ℚ) < digitsValue decimals / 10 ^ decimals.length := by positivity
      rw [value]
      linarith

theorem decimals_ne_value (valid : line.Valid) {decimals : Text} (found : line.number.decimals = some decimals)
    (some' : 1 ≤ digitsValue decimals) : (digitsValue decimals : ℚ) ≠ line.number.value := by
  intro equal
  have small := digitsValue_lt (isDigits_iff.mp (valid.number.decimals decimals found)).2
  have positive : (0 : ℚ) < 10 ^ decimals.length := by positivity
  have low : (0 : ℚ) < digitsValue decimals / 10 ^ decimals.length := by
    have some'' : (0 : ℚ) < digitsValue decimals := by exact_mod_cast some'
    positivity
  have high : (digitsValue decimals : ℚ) / 10 ^ decimals.length < 1 := by
    rw [div_lt_one positive]
    exact_mod_cast small
  rw [Spelling.value_some found] at equal
  have above : (digitsValue line.number.digits : ℚ) < digitsValue decimals := by linarith
  have below : (digitsValue decimals : ℚ) < digitsValue line.number.digits + 1 := by linarith
  have above' : digitsValue line.number.digits < digitsValue decimals := by exact_mod_cast above
  have below' : digitsValue decimals < digitsValue line.number.digits + 1 := by exact_mod_cast below
  omega

theorem refused_off_address (valid : line.Valid) (kept : ¬line.Astray) {decimals : Text}
    (cells : line.cells = [plainCell line.number.integer.text, plainCell decimals, line.walletCell])
    (digits : isDigits decimals = true) (address : isAddress decimals = true) (payment : Payment) :
    readPositional line.chars ≠ .ok payment := by
  intro paid
  have large := address_large address digits
  cases integer : isAddress line.number.integer.text with
  | true =>
      obtain ⟨-, -, -, amount⟩ := (read_first (valid.splitBest kept) valid.filled cells integer (numberLike_digits digits)).mp paid
      obtain ⟨same, payable⟩ := (readAmount_digits (plain_digits digits) digits).mp amount
      have small := payable.2
      omega
  | false =>
      obtain ⟨i, k, found, wallet, all, chosen, -, amount⟩ := (readPositional_ok (valid.splitBest kept) valid.filled).mp paid
      obtain rfl : i = 1 := by
        rw [cells] at found
        simpa [List.findIdx?_cons, plainCell, integer, address] using found.symm
      have same : line.wallet = decimals := by
        have paidTo : payment.wallet = decimals := by
          rw [wallet, cells]
          rfl
        rw [← paidTo]
        exact all line.walletCell line.walletCell_mem valid.wallet
      have like : numberLike line.wallet = true := same ▸ numberLike_digits digits
      obtain rfl : k = 2 := by
        rw [cells] at chosen
        simpa [amountIndex, List.range_succ, plainCell, RecipientLine.walletCell, like, numberLike_digits digits] using chosen.symm
      rw [cells, show (_ : Cell).text = line.wallet from rfl, same] at amount
      obtain ⟨same', payable⟩ := (readAmount_digits (plain_digits digits) digits).mp amount
      have small := payable.2
      omega

theorem right_off_before (valid : line.Valid) (kept : ¬line.Astray) (off : TornOff line.delimiter line.number line.numberQuote)
    (order : line.walletFirst = false) {decimals : Text} (found : line.number.decimals = some decimals) :
    line.Right ↔ ¬(Payable (digitsValue decimals) ∧
      (isAddress line.number.integer.text = true → line.number.integer.text = line.wallet) ∧
      ¬(line.walletQuote = none ∧ isDigits line.wallet = true)) := by
  have numbers := off.cells valid.number found
  have cells : line.cells = [plainCell line.number.integer.text, plainCell decimals, line.walletCell] := by
    rw [cells_before order, numbers]
    rfl
  have either : line.delimiter = .comma ∨ line.delimiter = .space := .inl ((point_separates valid.number).mp off.2.2).1
  have digits := valid.number.decimals decimals found
  have taken := @readAmount_digits _ _ (plain_digits digits) digits
  have like := numberLike_digits digits
  have ambiguous := @isAmbiguous_wallet line line.delimiter either decimals digits
  cases address : isAddress decimals with
  | true =>
      refine iff_of_true (right_of_refused (refused_off_address valid kept cells digits address)) fun both => ?_
      have large := address_large address digits
      have small := both.1.2
      omega
  | false =>
      have read : ∀ payment, readPositional line.chars = .ok payment ↔ payment.wallet = line.wallet ∧
          (isAddress line.number.integer.text = true → line.number.integer.text = line.wallet) ∧
          isAmbiguous line.delimiter (plainCell decimals) (some line.walletCell) = false ∧ readAmount decimals = .ok payment.amount := by
        intro payment
        cases integer : isAddress line.number.integer.text with
        | true =>
            rw [read_first (valid.splitBest kept) valid.filled cells integer like]
            have all : allWallet line.cells line.number.integer.text ↔ line.wallet = line.number.integer.text := by
              rw [cells]
              simp [allWallet, plainCell, RecipientLine.walletCell, address, valid.wallet]
            rw [show (plainCell line.number.integer.text).text = line.number.integer.text from rfl, all]
            constructor
            · rintro ⟨wallet, same, plain, amount⟩
              exact ⟨wallet.trans same.symm, fun _ => same.symm, plain, amount⟩
            · rintro ⟨wallet, same, plain, amount⟩
              exact ⟨wallet.trans (same rfl).symm, (same rfl).symm, plain, amount⟩
        | false =>
            have others : ∀ cell ∈ numberCells line.delimiter line.number line.numberQuote, isAddress cell.text = false := by
              rw [numbers]
              simp [plainCell, integer, address]
            rw [@read_before line payment valid kept order [plainCell line.number.integer.text] (plainCell decimals) numbers others]
            simp [plainCell]
      have reads : ∀ payment, readPositional line.chars = .ok payment ↔ payment.wallet = line.wallet ∧
          ((isAddress line.number.integer.text = true → line.number.integer.text = line.wallet) ∧
            ¬(line.walletQuote = none ∧ isDigits line.wallet = true)) ∧
          payment.amount = digitsValue decimals ∧ Payable (digitsValue decimals) := by
        intro payment
        rw [read payment, ambiguous, taken]
        constructor
        · rintro ⟨wallet, apart, other, same, payable⟩
          exact ⟨wallet, ⟨apart, other⟩, same, same ▸ payable⟩
        · rintro ⟨wallet, ⟨apart, other⟩, same, payable⟩
          exact ⟨wallet, apart, other, same, same ▸ payable⟩
      refine (right_of_reads reads).trans (not_congr ⟨?_, ?_⟩)
      · rintro ⟨⟨apart, other⟩, payable, -⟩
        exact ⟨payable, apart, other⟩
      · rintro ⟨payable, apart, other⟩
        exact ⟨⟨apart, other⟩, payable, decimals_ne_value valid found payable.1⟩

/-! ### A number in one cell -/

section whole
variable (valid : line.Valid) (kept : ¬line.Astray) (together : ¬Torn line.delimiter line.number line.numberQuote)
  (together' : ¬TornOff line.delimiter line.number line.numberQuote)
include valid kept together together'

theorem read_whole {payment : Payment} (paid : readPositional line.chars = .ok payment) :
    payment.wallet = line.wallet ∧ readAmount line.number.text = .ok payment.amount := by
  have cells : numberCells line.delimiter line.number line.numberQuote =
      [{ text := line.number.text, quoted := line.numberQuote.isSome }] := by
    rw [numberCells, if_neg together, if_neg together']
  cases order : line.walletFirst with
  | true =>
      obtain ⟨wallet, -, -, amount⟩ := (read_after valid kept order cells).mp paid
      exact ⟨wallet, amount⟩
  | false =>
      cases address : isAddress line.number.text with
      | true =>
          have shape : line.cells = [{ text := line.number.text, quoted := line.numberQuote.isSome }, line.walletCell] := by
            rw [cells_before order, cells]
            rfl
          obtain ⟨i, k, found, wallet, all, chosen, -, amount⟩ := (readPositional_ok (valid.splitBest kept) valid.filled).mp paid
          obtain rfl : i = 0 := by
            rw [shape, List.findIdx?_cons, if_pos address] at found
            exact (Option.some.inj found).symm
          obtain ⟨other, inside⟩ := amountIndex_ne chosen
          obtain rfl : k = 1 := by
            rw [shape, List.length_cons, List.length_singleton] at inside
            omega
          rw [shape] at wallet amount
          have same : line.wallet = payment.wallet := all line.walletCell line.walletCell_mem valid.wallet
          have text : line.wallet = line.number.text := same.trans wallet
          refine ⟨same.symm, ?_⟩
          rw [← text]
          exact amount
      | false =>
          obtain ⟨wallet, -, amount⟩ := (@read_before line payment valid kept order [] _ cells (by rw [cells]; simpa using address)).mp paid
          exact ⟨wallet, amount⟩

theorem pays_whole {decimals : Text} (found : line.number.decimals = some decimals) {amount : Nat}
    (read : readAmount line.number.text = .ok amount) : readPositional line.chars = .ok { wallet := line.wallet, amount } := by
  have cells : numberCells line.delimiter line.number line.numberQuote =
      [{ text := line.number.text, quoted := line.numberQuote.isSome }] := by
    rw [numberCells, if_neg together, if_neg together']
  have other := decimal_not_address valid.number (show line.number.decimals ≠ none by rw [found]; simp)
  have plain : isDigits line.number.text = false :=
    not_digits_of_mem (Spelling.point_mem found) (not_digit_of_alphanum valid.number.point_other.1)
  cases order : line.walletFirst with
  | true =>
      refine (read_after valid kept order cells).mpr ⟨rfl, ?_, isAmbiguous_other plain _, read⟩
      rw [RecipientLine.cells, if_pos order, cells]
      simp [allWallet, RecipientLine.walletCell, other]
  | false =>
      exact (@read_before line _ valid kept order [] _ cells (by rw [cells]; simpa using other)).mpr
        ⟨rfl, isAmbiguous_other plain _, read⟩

theorem right_whole : line.Right ↔ ¬(line.number.groups ≠ [] ∧ line.number.point = ',' ∧ ∃ decimals, line.number.decimals = some decimals ∧
    decimals.length = 3 ∧ Payable (digitsValue (line.number.digits ++ decimals))) := by
  cases found : line.number.decimals with
  | none =>
      refine iff_of_true ?_ (by simp)
      intro payment paid
      obtain ⟨wallet, amount⟩ := read_whole valid kept together together' paid
      obtain ⟨same, -⟩ := (readAmount_digits (valid.number.without_whole found) valid.number.digits).mp amount
      exact ⟨wallet, by rw [same, Spelling.value_whole found]⟩
  | some decimals =>
      by_cases mixed : line.number.groups ≠ [] ∧ line.number.point = ',' ∧ decimals.length = 3
      · obtain ⟨groups, comma, three⟩ := mixed
        have digits : isDigits (line.number.digits ++ decimals) = true := by
          obtain ⟨nonempty, all⟩ := isDigits_iff.mp valid.number.digits
          refine isDigits_iff.mpr ⟨by simp [nonempty], List.forall_mem_append.mpr ⟨all, ?_⟩⟩
          exact (isDigits_iff.mp (valid.number.decimals decimals found)).2
        have taken := @readAmount_digits _ _ (valid.number.without_mixed found groups comma three) digits
        have reads : ∀ payment, readPositional line.chars = .ok payment ↔ payment.wallet = line.wallet ∧ True ∧
            payment.amount = digitsValue (line.number.digits ++ decimals) ∧ Payable (digitsValue (line.number.digits ++ decimals)) := by
          intro payment
          constructor
          · intro paid
            obtain ⟨wallet, amount⟩ := read_whole valid kept together together' paid
            obtain ⟨same, payable⟩ := taken.mp amount
            exact ⟨wallet, trivial, same, same ▸ payable⟩
          · rintro ⟨wallet, -, same, payable⟩
            have paid := pays_whole valid kept together together' found (taken.mpr ⟨same, same ▸ payable⟩)
            rwa [← wallet] at paid
        refine (right_of_reads reads).trans (not_congr ⟨?_, ?_⟩)
        · rintro ⟨-, payable, -⟩
          exact ⟨groups, comma, decimals, rfl, three, payable⟩
        · rintro ⟨-, -, _, ⟨⟩, -, payable⟩
          refine ⟨trivial, payable, fun equal => ?_⟩
          have positive : (1 : ℚ) ≤ digitsValue (line.number.digits ++ decimals) := by exact_mod_cast payable.1
          rw [Spelling.value_some found, three] at equal
          rw [digitsValue_append, three] at equal positive
          push_cast at equal positive
          linarith
      · refine iff_of_true (right_of_refused fun payment paid => ?_) ?_
        · obtain ⟨-, amount⟩ := read_whole valid kept together together' paid
          obtain ⟨e, refused⟩ := valid.number.refused found mixed
          rw [refused] at amount
          cases amount
        · rintro ⟨groups, comma, _, ⟨⟩, three, -⟩
          exact mixed ⟨groups, comma, three⟩

end whole

/-! ### All lines -/

theorem astray_not_misread (valid : line.Valid) (astray : line.Astray) : ¬line.Misread := by
  obtain ⟨spaced, ⟨unquoted, some', comma⟩, sides⟩ := astray
  have point : line.number.point = ',' := of_decide_eq_true comma
  have grouped := fun groups : line.number.groups ≠ [] => grouped_not_address valid.number.integer groups
  have apart : ¬TornOff line.delimiter line.number line.numberQuote := by
    rintro ⟨-, -, separates⟩
    rw [spaced, point_separates valid.number] at separates
    cases separates.1
  intro misread
  cases misread with
  | firstGroup order _ _ found other _ =>
      rcases sides with ⟨-, decimals, found', address⟩ | ⟨order', -⟩
      · obtain rfl := Option.some.inj (found.symm.trans found')
        rw [other point] at address
        cases address
      · rw [order] at order'
        cases order'
  | lastGroup _ _ whole => exact some' whole
  | lastDecimals order torn =>
      rcases sides with ⟨order', -⟩ | ⟨-, address⟩
      · rw [order] at order'
        cases order'
      · rw [grouped torn.2.1] at address
        cases address
  | integer _ off => exact apart off
  | decimals _ off => exact apart off
  | oneMore _ _ groups found _ three =>
      rcases sides with ⟨-, decimals, found', address⟩ | ⟨-, address⟩
      · obtain rfl := Option.some.inj (found.symm.trans found')
        rw [not_address_short (by rw [three]; decide)] at address
        cases address
      · rw [grouped groups] at address
        cases address

theorem misread_of_wrong (valid : line.Valid) (kept : ¬line.Astray) (wrong : ¬line.Right) : line.Misread := by
  by_cases torn : Torn line.delimiter line.number line.numberQuote
  · cases order : line.walletFirst with
    | true =>
        rw [right_torn_after valid kept torn order, not_not] at wrong
        obtain ⟨one, some', positive⟩ := wrong
        obtain ⟨decimals, found⟩ := Option.ne_none_iff_exists'.mp some'
        refine .firstGroup order torn one found (fun comma => ?_) positive
        cases address : isAddress decimals with
        | false => rfl
        | true =>
            have spaced : line.delimiter = .space := by
              apply (torn.either valid.number).resolve_left
              intro tornAt
              have apart := torn.together valid.number some'
              rw [tornAt, comma] at apart
              cases apart
            have off : TornOff .comma line.number line.numberQuote := ⟨torn.1, some', by rw [comma]; rfl⟩
            exact absurd ⟨spaced, off, .inl ⟨order, decimals, found, address⟩⟩ kept
    | false =>
        have ends := List.getLast?_eq_some_getLast torn.2.1
        cases decimals : line.number.decimals with
        | none =>
            rw [right_torn_before valid kept torn order decimals ends, not_not] at wrong
            obtain ⟨some', higher, other⟩ := wrong
            exact .lastGroup order torn decimals ends some' higher other
        | some fraction =>
            rw [right_torn_decimals valid kept torn order decimals ends, not_not] at wrong
            obtain ⟨comma, three, some'⟩ := wrong
            exact .lastDecimals order torn decimals ends comma three some'
  · by_cases off : TornOff line.delimiter line.number line.numberQuote
    · obtain ⟨decimals, found⟩ := Option.ne_none_iff_exists'.mp off.2.1
      cases order : line.walletFirst with
      | true =>
          rw [right_off_after valid kept off order found, not_not] at wrong
          obtain ⟨groups, payable, some', apart⟩ := wrong
          exact .integer order off found groups payable some' apart
      | false =>
          rw [right_off_before valid kept off order found, not_not] at wrong
          obtain ⟨payable, apart, other⟩ := wrong
          exact .decimals order off found payable apart other
    · rw [right_whole valid kept torn off, not_not] at wrong
      obtain ⟨groups, comma, decimals, found, three, payable⟩ := wrong
      exact .oneMore torn off groups found comma three payable

theorem wrong_of_misread (valid : line.Valid) (kept : ¬line.Astray) (misread : line.Misread) : ¬line.Right := by
  intro right
  cases misread with
  | firstGroup order torn one found _ positive =>
      exact (right_torn_after valid kept torn order).mp right ⟨one, by simp [found], positive⟩
  | lastGroup order torn whole ends some' higher other =>
      exact (right_torn_before valid kept torn order whole ends).mp right ⟨some', higher, other⟩
  | lastDecimals order torn found ends comma three some' =>
      exact (right_torn_decimals valid kept torn order found ends).mp right ⟨comma, three, some'⟩
  | integer order off found groups payable some' apart =>
      exact (right_off_after valid kept off order found).mp right ⟨groups, payable, some', apart⟩
  | decimals order off found payable apart other =>
      exact (right_off_before valid kept off order found).mp right ⟨payable, apart, other⟩
  | oneMore torn off groups found comma three payable =>
      exact (right_whole valid kept torn off).mp right ⟨groups, comma, _, found, three, payable⟩

theorem right_iff (valid : line.Valid) : line.Right ↔ ¬line.Misread := by
  by_cases astray : line.Astray
  · exact iff_of_true (right_of_refused (astray_refused valid astray)) (astray_not_misread valid astray)
  · constructor
    · exact fun right misread => wrong_of_misread valid astray misread right
    · exact fun fine => by_contra fun wrong => fine (misread_of_wrong valid astray wrong)

end payment

end Mancipatio.Recipients
