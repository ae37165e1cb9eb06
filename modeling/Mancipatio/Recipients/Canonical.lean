import Mancipatio.Recipients.Lists

/-!
# The canonical text of a list

The order of the lines does not matter, and the canonical text pays what the list pays.
-/

namespace Mancipatio.Recipients
open Checked

/-! ## Lines of a text -/

def newline : Char := Char.ofNat 10

theorem splitLines_plain {line : Text} (plain : newline ∉ line) : splitLines line = [line] := by
  induction line with
  | nil => rfl
  | cons c rest ih =>
      have first : c ≠ newline := fun same => plain (same ▸ List.mem_cons_self)
      have later : newline ∉ rest := fun member => plain (List.mem_cons_of_mem _ member)
      have noBreak : ∀ after, c = '\r' → rest = '\n' :: after → False := by
        rintro after - rfl
        exact later List.mem_cons_self
      rw [splitLines.eq_4 c rest first noBreak, ih later]

theorem splitLines_append {line : Text} (plain : newline ∉ line) (open' : '\r' ∉ line) (rest : Text) :
    splitLines (line ++ newline :: rest) = line :: splitLines rest := by
  induction line with
  | nil => rfl
  | cons c line ih =>
      have first : c ≠ newline := fun same => plain (same ▸ List.mem_cons_self)
      have noBreak : ∀ after, c = '\r' → line ++ newline :: rest = '\n' :: after → False :=
        fun _ same _ => open' (same ▸ List.mem_cons_self)
      rw [List.cons_append, splitLines.eq_4 c _ first noBreak,
        ih (fun member => plain (List.mem_cons_of_mem _ member)) fun member => open' (List.mem_cons_of_mem _ member)]

theorem splitLines_intercalate {lines : List Text} (some' : lines ≠ []) (plain : ∀ line ∈ lines, newline ∉ line ∧ '\r' ∉ line) :
    splitLines ([newline].intercalate lines) = lines := by
  induction lines with
  | nil => exact absurd rfl some'
  | cons line lines ih =>
      obtain ⟨⟨first, open'⟩, others⟩ := List.forall_mem_cons.mp plain
      cases lines with
      | nil => rw [List.intercalate_singleton, splitLines_plain first]
      | cons next lines =>
          rw [List.intercalate_cons_cons, List.append_assoc, List.singleton_append, splitLines_append first open',
            ih (List.cons_ne_nil _ _) others]

def contentLine (line : Text) : Option Text :=
  if trim line = [] ∨ (trim line).head? = some '#' then none else some (trim line)

theorem contentLines_eq (text : Text) :
    contentLines text = ((splitLines text).zipIdx 1).filterMap fun line => (contentLine line.1).map (Prod.mk line.2) := by
  rw [contentLines]
  apply List.filterMap_congr
  rintro ⟨line, lineNo⟩ -
  dsimp only [contentLine]
  split <;> rfl

theorem contentLines_texts (text : Text) : (contentLines text).map Prod.snd = (splitLines text).filterMap contentLine := by
  rw [contentLines_eq]
  generalize splitLines text = lines
  generalize 1 = first
  induction lines generalizing first with
  | nil => rfl
  | cons line lines ih =>
      rw [List.zipIdx_cons, List.filterMap_cons, List.filterMap_cons]
      cases contentLine line with
      | none => exact ih _
      | some content => exact congrArg (content :: ·) (ih _)

/-! ## Texts without a header -/

theorem headerOf_read {content : List (Nat × Text)} (all : ∀ line ∈ content, ∃ payment, readPositional line.2 = .ok payment) :
    headerOf content = none := by
  cases content with
  | nil => rfl
  | cons line rest =>
      obtain ⟨lineNo, chars⟩ := line
      obtain ⟨payment, read⟩ := all (lineNo, chars) List.mem_cons_self
      have noHeader := (readPositional_sound read).2
      dsimp only at noHeader
      rw [headerOf]
      generalize splitBest chars = best at noHeader ⊢
      exact if_neg (by rw [noHeader]; exact Bool.false_ne_true)

section headerless
variable {text : Text}

theorem columnsOf_headerless (none' : headerOf (contentLines text) = none) : columnsOf text = none := by
  rw [columnsOf, none']
  rfl

theorem paymentLines_headerless (none' : headerOf (contentLines text) = none) : paymentLines text = contentLines text := by
  rw [paymentLines, none']
  rfl

theorem payments_headerless (none' : headerOf (contentLines text) = none) : payments text = accepted none (contentLines text) := by
  rw [payments, columnsOf_headerless none', paymentLines_headerless none']

theorem errors_nil_headerless (none' : headerOf (contentLines text) = none) :
    (parseRecipients text).errors = [] ↔
      (∀ chars ∈ (contentLines text).map Prod.snd, ∃ payment, readPositional chars = .ok payment) ∧
        (∀ wallet, due wallet (payments text) ≤ u64Max) ∧ (parseRecipients text).rows.length ≤ maxDistributionRows := by
  rw [errors_nil_iff, columnsOf_headerless none', paymentLines_headerless none', List.forall_mem_map]
  rfl

end headerless

theorem total_eq (text : Text) :
    (parseRecipients text).total = (((parseRecipients text).rows.map RecipientRow.payment).map Payment.amount).sum := by
  rw [List.map_map]
  rfl

def ParsedRecipients.payments (parsed : ParsedRecipients) : List Payment :=
  parsed.rows.map RecipientRow.payment

theorem normalizedRows_perm {rows others : List Payment} (perm : rows.Perm others) : normalizedRows rows = normalizedRows others := by
  let line := fun row : Payment => row.wallet ++ ',' :: Nat.toDigits 10 row.amount
  have sorted : (rows.map line).insertionSort (· ≤ ·) = (others.map line).insertionSort (· ≤ ·) := by
    apply List.Perm.eq_of_pairwise _ (List.pairwise_insertionSort _ _) (List.pairwise_insertionSort _ _)
    · exact ((List.perm_insertionSort _ _).trans (perm.map line)).trans (List.perm_insertionSort _ _).symm
    · intro a b _ _ ab ba
      exact le_antisymm ab ba
  exact congrArg ['\n'].intercalate sorted

theorem reordered {text other : Text} (none' : (parseRecipients text).errors = []) (headerless : (parseRecipients text).header = false)
    (perm : ((contentLines text).map Prod.snd).Perm ((contentLines other).map Prod.snd)) :
    (parseRecipients other).errors = [] ∧ (parseRecipients other).header = false ∧
      (parseRecipients text).payments.Perm (parseRecipients other).payments := by
  have header : headerOf (contentLines text) = none := Option.isSome_eq_false_iff.mp headerless |> Option.isNone_iff_eq_none.mp
  obtain ⟨all, small, few⟩ := (errors_nil_headerless header).mp none'
  have all' : ∀ chars ∈ (contentLines other).map Prod.snd, ∃ payment, readPositional chars = .ok payment :=
    fun chars member => all chars (perm.mem_iff.mpr member)
  have header' : headerOf (contentLines other) = none :=
    headerOf_read fun line member => all' line.2 (List.mem_map_of_mem member)
  have read : (payments text).Perm (payments other) := by
    rw [payments_headerless header, payments_headerless header']
    exact accepted_perm perm none
  have rows : (parseRecipients text).payments.Perm (parseRecipients other).payments := by
    apply (parseRecipients_pays text).perm (parseRecipients_pays other)
    · intro wallet
      exact (read.map Payment.wallet).mem_iff
    · intro wallet
      exact due_perm read wallet
  refine ⟨(errors_nil_headerless header').mpr ⟨all', fun wallet => ?_, ?_⟩, ?_, rows⟩
  · rw [← due_perm read wallet]
    exact small wallet
  · have length := rows.length_eq
    rw [ParsedRecipients.payments, ParsedRecipients.payments, List.length_map, List.length_map] at length
    rw [← length]
    exact few
  · show (headerOf (contentLines other)).isSome = false
    rw [header']
    rfl

/-! ## The canonical text -/

def canonicalLine (payment : Payment) : RecipientLine where
  wallet := payment.wallet
  walletQuote := none
  number := { first := Nat.toDigits 10 payment.amount, sep := ',', groups := [], point := '.', decimals := none }
  numberQuote := none
  delimiter := .comma
  before := []
  mark := ','
  after := []
  walletFirst := true

theorem toDigits_isDigits (n : Nat) : isDigits (Nat.toDigits 10 n) = true :=
  isDigits_iff.mpr ⟨Nat.toDigits_ne_nil, fun _ member => Nat.isDigit_of_mem_toDigits (by decide) (by decide) member⟩

theorem quotes_none (text : Text) : Quotes text none := by
  intro opening member
  cases member

theorem canonicalLine_valid {payment : Payment} (address : isAddress payment.wallet = true) : (canonicalLine payment).Valid := by
  constructor
  case wallet => exact address
  case walletQuote => exact quotes_none _
  case numberQuote => exact quotes_none _
  case number =>
    constructor
    case first => exact toDigits_isDigits _
    case sep => exact show isThousandsSeparator ',' = true by decide
    case point => exact .inl rfl
    all_goals simp [canonicalLine]
  case mark => exact show Delimiter.comma.separates ',' = true by decide
  case tabbed => exact fun tab => absurd tab (show ',' ≠ tabChar by decide)
  case blanks => exact List.forall_mem_nil _
  case oneLine => simp [canonicalLine, RecipientLine.gap]

theorem canonicalLine_chars (payment : Payment) :
    (canonicalLine payment).chars = payment.wallet ++ ',' :: Nat.toDigits 10 payment.amount := by
  simp [RecipientLine.chars, canonicalLine, written, RecipientLine.gap, Spelling.text, spell, Spelling.tail]

theorem canonicalLine_read {payment : Payment} (sound : payment.Sound) : readPositional (canonicalLine payment).chars = .ok payment := by
  have valid := canonicalLine_valid sound.wallet
  have digits := toDigits_isDigits payment.amount
  have value : digitsValue (Nat.toDigits 10 payment.amount) = payment.amount := Nat.ofDigitChars_ten_toDigits
  have short : (Nat.toDigits 10 payment.amount).length < 32 := by
    have twenty : (Nat.toDigits 10 payment.amount).length ≤ 20 := by
      rw [Nat.length_toDigits_le_iff (by decide) (by decide)]
      exact sound.small.trans_lt (by decide)
    omega
  have cells : numberCells .comma (canonicalLine payment).number none = [plainCell (Nat.toDigits 10 payment.amount)] := by
    simp [numberCells, Torn, TornOff, canonicalLine, Spelling.text, spell, Spelling.tail, plainCell]
  have kept : ¬(canonicalLine payment).Astray := by
    rintro ⟨spaced, -⟩
    cases spaced
  apply (read_after valid kept rfl cells).mpr
  refine ⟨rfl, ?_, ?_, (readAmount_digits (plain_digits digits) digits).mpr ⟨value.symm, sound.positive, sound.small⟩⟩
  · have shape : (canonicalLine payment).cells = [plainCell payment.wallet, plainCell (Nat.toDigits 10 payment.amount)] := by
      have order : (canonicalLine payment).walletFirst = true := rfl
      rw [RecipientLine.cells, if_pos order]
      exact congrArg _ cells
    have other : isAddress (Nat.toDigits 10 payment.amount) = false := not_address_short short
    rw [shape]
    simp [allWallet, plainCell, canonicalLine, other]
  · simp [isAmbiguous]

theorem canonicalLine_solid {payment : Payment} (address : isAddress payment.wallet = true) :
    ∀ c ∈ (canonicalLine payment).chars, isSpace c = false ∧ c ≠ '#' := by
  have alphanum : ∀ c : Char, c.isAlphanum = true → isSpace c = false ∧ c ≠ '#' := by
    intro c alphanum
    refine ⟨alphanum_solid alphanum, ?_⟩
    rintro rfl
    revert alphanum
    decide
  intro c member
  rw [canonicalLine_chars, List.mem_append, List.mem_cons] at member
  rcases member with member | rfl | member
  · exact alphanum c (base58_alphanum (address_base58 address c member))
  · decide
  · have digit : c.isDigit = true := Nat.isDigit_of_mem_toDigits (by decide) (by decide) member
    exact alphanum c (by rw [Char.isAlphanum, digit, Bool.or_true])

theorem canonicalLine_content {payment : Payment} (address : isAddress payment.wallet = true) :
    contentLine (canonicalLine payment).chars = some (canonicalLine payment).chars := by
  have plain := canonicalLine_solid address
  have some' : (canonicalLine payment).chars ≠ [] := by simp [canonicalLine_chars]
  have solid := solid_of_forall some' fun c member => (plain c member).1
  have notComment : (canonicalLine payment).chars.head? ≠ some '#' := fun comment => (plain '#' (List.mem_of_head? comment)).2 rfl
  rw [contentLine, trim_solid solid, if_neg]
  rintro (empty | comment)
  · exact some' empty
  · exact notComment comment

theorem canonical_content {rows : List Payment} (sound : ∀ payment ∈ rows, payment.Sound) :
    ((contentLines (normalizedRows rows)).map Prod.snd).Perm (rows.map fun payment => (canonicalLine payment).chars) := by
  let lines := rows.map fun payment => (canonicalLine payment).chars
  have text : normalizedRows rows = [newline].intercalate (lines.insertionSort (· ≤ ·)) := by
    have same : lines = rows.map fun row => row.wallet ++ ',' :: Nat.toDigits 10 row.amount := by
      apply List.map_congr_left
      intro payment _
      exact canonicalLine_chars payment
    rw [same]
    rfl
  have sorted : (lines.insertionSort (· ≤ ·)).Perm lines := List.perm_insertionSort _ _
  have each : ∀ line ∈ lines.insertionSort (· ≤ ·), ∃ payment ∈ rows, (canonicalLine payment).chars = line :=
    fun line member => List.mem_map.mp (sorted.mem_iff.mp member)
  rw [contentLines_texts, text]
  by_cases none' : lines.insertionSort (· ≤ ·) = []
  · have nothing : lines = [] := by
      rw [none'] at sorted
      exact List.nil_perm.mp sorted
    rw [none', show (rows.map fun payment => (canonicalLine payment).chars) = [] from nothing]
    exact List.Perm.refl _
  · have plain : ∀ line ∈ lines.insertionSort (· ≤ ·), newline ∉ line ∧ '\r' ∉ line := by
      intro line member
      obtain ⟨payment, inside, rfl⟩ := each line member
      have solid := canonicalLine_solid (sound payment inside).wallet
      exact ⟨fun bad => absurd (solid _ bad).1 (by decide), fun bad => absurd (solid _ bad).1 (by decide)⟩
    have kept : (lines.insertionSort (· ≤ ·)).filterMap contentLine = lines.insertionSort (· ≤ ·) := by
      refine (List.filterMap_congr fun line member => ?_).trans List.filterMap_some
      obtain ⟨payment, inside, rfl⟩ := each line member
      exact canonicalLine_content (sound payment inside).wallet
    rw [splitLines_intercalate none' plain, kept]
    exact sorted

/-- A list with one row for each wallet comes back from its canonical text. -/
theorem canonical_parsed {rows : List Payment} (sound : ∀ payment ∈ rows, payment.Sound)
    (distinct : (rows.map Payment.wallet).Nodup) (few : rows.length ≤ maxDistributionRows) :
    (parseRecipients (normalizedRows rows)).errors = [] ∧ (parseRecipients (normalizedRows rows)).payments.Perm rows := by
  have content := canonical_content sound
  have all : ∀ chars ∈ (contentLines (normalizedRows rows)).map Prod.snd, ∃ payment, readPositional chars = .ok payment := by
    intro chars member
    obtain ⟨payment, inside, rfl⟩ := List.mem_map.mp (content.mem_iff.mp member)
    exact ⟨payment, canonicalLine_read (sound payment inside)⟩
  have header : headerOf (contentLines (normalizedRows rows)) = none :=
    headerOf_read fun line member => all line.2 (List.mem_map_of_mem member)
  have read : (payments (normalizedRows rows)).Perm rows := by
    have lines : rows = accepted none (rows.map fun payment => (0, (canonicalLine payment).chars)) := by
      rw [accepted, List.filterMap_map]
      refine ((List.filterMap_congr fun payment inside => ?_).trans List.filterMap_some).symm
      show (readPositional (canonicalLine payment).chars).toOption = some payment
      rw [canonicalLine_read (sound payment inside)]
      rfl
    rw [payments_headerless header]
    nth_rewrite 2 [lines]
    apply accepted_perm
    rw [List.map_map]
    exact content
  have pays : Pays (parseRecipients (normalizedRows rows)).rows (payments (normalizedRows rows)) := parseRecipients_pays _
  have rows' : (parseRecipients (normalizedRows rows)).payments.Perm rows := by
    refine (List.perm_ext_iff_of_nodup pays.nodup (List.Nodup.of_map _ distinct)).mpr fun payment => ?_
    rw [pays.mem_iff, (read.map Payment.wallet).mem_iff, due_perm read]
    constructor
    · rintro ⟨paid, amount⟩
      obtain ⟨row, inside, same⟩ := List.mem_map.mp paid
      have owed := due_mem distinct inside
      rw [same, ← amount] at owed
      obtain ⟨wallet, amount'⟩ := row
      obtain ⟨wallet', amount''⟩ := payment
      obtain rfl : wallet = wallet' := same
      obtain rfl : amount'' = amount' := owed
      exact inside
    · intro inside
      exact ⟨List.mem_map_of_mem inside, (due_mem distinct inside).symm⟩
  refine ⟨(errors_nil_headerless header).mpr ⟨all, fun wallet => ?_, ?_⟩, rows'⟩
  · rw [due_perm read]
    by_cases paid : wallet ∈ rows.map Payment.wallet
    · obtain ⟨payment, inside, rfl⟩ := List.mem_map.mp paid
      rw [due_mem distinct inside]
      exact (sound payment inside).small
    · rw [due_absent paid]
      exact Nat.zero_le _
  · have length := rows'.length_eq
    rw [ParsedRecipients.payments, List.length_map] at length
    rw [length]
    exact few

theorem parsed_sound {text : Text} (none' : (parseRecipients text).errors = []) :
    (∀ payment ∈ (parseRecipients text).payments, payment.Sound) ∧ ((parseRecipients text).payments.map Payment.wallet).Nodup ∧
      (parseRecipients text).payments.length ≤ maxDistributionRows := by
  obtain ⟨-, small, few⟩ := errors_nil_iff.mp none'
  have pays := parseRecipients_pays text
  refine ⟨fun payment member => ?_, ?_, ?_⟩
  · obtain ⟨paid, amount⟩ := pays.mem_iff.mp member
    obtain ⟨other, inside, same⟩ := List.mem_map.mp paid
    have sound := accepted_sound other inside
    have least : other.amount ≤ due payment.wallet (payments text) := by
      apply List.single_le_sum (fun _ _ => Nat.zero_le _)
      exact List.mem_map_of_mem (List.mem_filter.mpr ⟨inside, decide_eq_true same⟩)
    exact ⟨same ▸ sound.wallet, amount ▸ sound.positive.trans least, amount ▸ small payment.wallet⟩
  · rw [ParsedRecipients.payments, RecipientRow.wallet_payment]
    exact pays.distinct
  · rw [ParsedRecipients.payments, List.length_map]
    exact few

end Mancipatio.Recipients
