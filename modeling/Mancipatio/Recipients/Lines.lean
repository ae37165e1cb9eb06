import Mancipatio.Recipients.Spelling

/-!
# A line of one wallet and one number
-/

namespace Mancipatio.Recipients
open Checked

def written (text : Text) (quote : Option Char) : Text :=
  match quote with
  | none => text
  | some opening => opening :: (text ++ [(closingQuote opening).getD opening])

structure RecipientLine where
  wallet : Text
  walletQuote : Option Char
  number : Spelling
  numberQuote : Option Char
  delimiter : Delimiter
  before : Text
  mark : Char
  after : Text
  walletFirst : Bool
  deriving DecidableEq, Repr

def RecipientLine.gap (line : RecipientLine) : Text :=
  line.before ++ line.mark :: line.after

def RecipientLine.chars (line : RecipientLine) : Text :=
  if line.walletFirst = true then
    written line.wallet line.walletQuote ++ (line.gap ++ written line.number.text line.numberQuote)
  else
    written line.number.text line.numberQuote ++ (line.gap ++ written line.wallet line.walletQuote)

def Quotes (text : Text) (quote : Option Char) : Prop :=
  ∀ opening ∈ quote, ∃ closing, closingQuote opening = some closing ∧ closing ∉ text

def tabChar : Char := Char.ofNat 9

/-- One wallet and one number, with a delimiter between them that blanks may surround. -/
structure RecipientLine.Valid (line : RecipientLine) : Prop where
  wallet : isAddress line.wallet = true
  walletQuote : Quotes line.wallet line.walletQuote
  number : line.number.Valid
  numberQuote : Quotes line.number.text line.numberQuote
  mark : line.delimiter.separates line.mark = true
  tabbed : line.mark = tabChar → line.delimiter = .tab
  blanks : ∀ c ∈ line.before ++ line.after, isSpace c = true ∧ c ≠ tabChar
  oneLine : ∀ c ∈ line.gap, c ≠ Char.ofNat 10

def pieces (tail : Text) : Text → List Text → List Text
  | first, [] => [first ++ tail]
  | first, group :: groups => first :: pieces tail group groups

def Torn (d : Delimiter) (number : Spelling) (quote : Option Char) : Prop :=
  quote = none ∧ number.groups ≠ [] ∧ d.separates number.sep = true
  deriving Decidable

def TornOff (d : Delimiter) (number : Spelling) (quote : Option Char) : Prop :=
  quote = none ∧ number.decimals ≠ none ∧ d.separates number.point = true
  deriving Decidable

def plainCell (text : Text) : Cell where
  text
  quoted := false

def numberCells (d : Delimiter) (number : Spelling) (quote : Option Char) : List Cell :=
  if Torn d number quote then (pieces number.tail number.first number.groups).map plainCell
  else if TornOff d number quote then [plainCell number.integer.text, plainCell (number.decimals.getD [])]
  else [{ text := number.text, quoted := quote.isSome }]

def RecipientLine.walletCell (line : RecipientLine) : Cell where
  text := line.wallet
  quoted := line.walletQuote.isSome

def RecipientLine.cells (line : RecipientLine) : List Cell :=
  let number := numberCells line.delimiter line.number line.numberQuote
  if line.walletFirst = true then line.walletCell :: number else number ++ [line.walletCell]

/-! ## Characters that stand between cells -/

theorem space_quote {c : Char} (blank : isSpace c = true) : closingQuote c = none := by
  cases opens : closingQuote c with
  | none => rfl
  | some closing =>
      rw [(quote_solid opens).1] at blank
      cases blank

theorem space_separates {c : Char} (blank : isSpace c = true) (noTab : c ≠ tabChar) {d : Delimiter} (other : d ≠ .space) :
    d.separates c = false := by
  cases d with
  | tab => exact decide_eq_false noTab
  | semicolon =>
      apply decide_eq_false
      rintro rfl
      revert blank
      decide
  | comma =>
      apply decide_eq_false
      rintro rfl
      revert blank
      decide
  | space => exact absurd rfl other

theorem separates_quote {d : Delimiter} {c : Char} (separates : d.separates c = true) : closingQuote c = none := by
  cases d with
  | tab =>
      obtain rfl := of_decide_eq_true separates
      decide
  | semicolon =>
      obtain rfl := of_decide_eq_true separates
      decide
  | comma =>
      obtain rfl := of_decide_eq_true separates
      decide
  | space => exact space_quote separates

theorem point_quote {number : Spelling} (valid : number.Valid) : closingQuote number.point = none := by
  rcases valid.point with point | point <;> rw [point] <;> decide

theorem point_separates {number : Spelling} (valid : number.Valid) {d : Delimiter} :
    d.separates number.point = true ↔ d = .comma ∧ number.point = ',' := by
  rcases valid.point with point | point <;> rw [point] <;> cases d <;> decide

theorem blank_not_alphanum {c : Char} (blank : isSpace c = true) : c.isAlphanum = false := by
  cases alphanum : c.isAlphanum with
  | false => rfl
  | true =>
      rw [alphanum_solid alphanum] at blank
      cases blank

/-! ## One cell after another -/

/-- Going over the characters of cells, all but the last are pushed, and the last is the text so far. -/
def Scans (d : Delimiter) (chars : Text) (cells : List Cell) : Prop :=
  ∀ blank : Text, (∀ c ∈ blank, isSpace c = true) → ∀ rest : Text, rest.head? ≠ some doubleQuote →
    ∃ init last quoted front, cells = init ++ [{ text := last, quoted }] ∧ Solid last ∧ (∀ c ∈ front, isSpace c = true) ∧
      splitFrom d false none blank false (chars ++ rest) = init ++ splitFrom d false none (front ++ last) quoted rest

section scans
variable {d : Delimiter}

theorem scans_token {text : Text} (solid : Solid text) {quote : Option Char} (quotes : Quotes text quote)
    (head : ∀ c ∈ text.head?, closingQuote c = none) (plain : quote = none → ∀ c ∈ text, d.separates c = false) :
    Scans d (written text quote) [{ text, quoted := quote.isSome }] := by
  intro blank blanks rest ends
  cases quote with
  | none =>
      obtain ⟨c, later, rfl, noBlank⟩ := solid.head
      obtain ⟨first, others⟩ := List.forall_mem_cons.mp (plain rfl)
      refine ⟨[], c :: later, false, blank, rfl, solid, blanks, ?_⟩
      have one := @split_plain d [c] (by simpa using ⟨first, head c rfl⟩) blank false (later ++ rest)
      rw [List.singleton_append] at one
      rw [written, List.cons_append, one, split_begun others (List.mem_append_right blank List.mem_cons_self) noBlank,
        List.append_assoc, List.singleton_append, List.nil_append]
  | some opening =>
      obtain ⟨closing, opens, outside⟩ := quotes opening rfl
      refine ⟨[], text, true, [], rfl, solid, List.forall_mem_nil _, ?_⟩
      rw [written, opens, Option.getD_some, List.cons_append, List.append_assoc, List.singleton_append,
        split_quoted opens outside (trim_blank blanks) ends, List.nil_append, List.nil_append]

theorem scans_pieces {sep : Char} {tail : Text} (separates : d.separates sep = true)
    (ends : tail = [] ∨ ∃ rest c, tail = rest ++ [c] ∧ c.isDigit = true)
    (tailPlain : ∀ c ∈ tail, d.separates c = false ∧ closingQuote c = none) {first : Text} {groups : List Text}
    (digits : isDigits first = true) (isGroups : ∀ group ∈ groups, IsGroup group) :
    Scans d (spell sep tail first groups) ((pieces tail first groups).map plainCell) := by
  intro blank blanks rest _
  obtain ⟨nonempty, all⟩ := isDigits_iff.mp digits
  have plain : ∀ c ∈ first, d.separates c = false ∧ closingQuote c = none :=
    fun c member => ⟨(plain_digit (all c member)).separates d, (plain_digit (all c member)).quote⟩
  induction groups generalizing first blank with
  | nil =>
      obtain ⟨last, c, spelled, digit⟩ := @spell_last sep tail first [] digits isGroups ends
      have solid : Solid (first ++ tail) := by
        constructor
        · obtain ⟨c, rest, rfl⟩ := List.exists_cons_of_ne_nil nonempty
          exact ⟨c, rest ++ tail, rfl, (plain_digit (all c List.mem_cons_self)).solid⟩
        · exact ⟨last, c, spelled, (plain_digit digit).solid⟩
      refine ⟨[], first ++ tail, false, blank, rfl, solid, blanks, ?_⟩
      rw [spell, split_plain (List.forall_mem_append.mpr ⟨plain, tailPlain⟩), List.nil_append]
  | cons group groups ih =>
      obtain ⟨isGroup, others⟩ := List.forall_mem_cons.mp isGroups
      obtain ⟨nonempty', all'⟩ := isDigits_iff.mp isGroup.digits
      obtain ⟨init, last, quoted, front, cells, solid, blanks', later⟩ := ih isGroup.digits others [] (List.forall_mem_nil _)
        nonempty' all' (fun c member => ⟨(plain_digit (all' c member)).separates d, (plain_digit (all' c member)).quote⟩)
      have trimmed : trim (blank ++ first) = first := by
        have around := @trim_around blank first [] (solid_of_forall nonempty fun c member => (plain_digit (all c member)).solid)
          blanks (List.forall_mem_nil _)
        rwa [List.append_nil] at around
      refine ⟨plainCell first :: init, last, quoted, front, ?_, solid, blanks', ?_⟩
      · rw [pieces, List.map_cons, cells, List.cons_append]
      · rw [spell, List.append_assoc, List.cons_append, split_plain plain,
          split_separator separates (separates_quote separates), pushCell_filled trimmed nonempty, later]
        rfl

theorem scans_wallet {wallet : Text} (address : isAddress wallet = true) {quote : Option Char} (quotes : Quotes wallet quote) :
    Scans d (written wallet quote) [{ text := wallet, quoted := quote.isSome }] := by
  apply scans_token (address_solid address) quotes
  · intro c head
    exact (address_plain address c (List.mem_of_mem_head? head)).quote
  · intro _ c member
    exact (address_plain address c member).separates d

theorem mem_text {number : Spelling} (valid : number.Valid) {c : Char} (member : c ∈ number.text) :
    c.isDigit = true ∨ number.groups ≠ [] ∧ c = number.sep ∨ c = number.point ∧ number.decimals ≠ none := by
  rcases mem_spell member with member | sep | ⟨group, inside, member⟩ | member
  · exact .inl ((isDigits_iff.mp valid.first).2 c member)
  · exact .inr (.inl sep)
  · exact .inl (List.all_eq_true.mp (valid.groups group inside).2 c member)
  · cases decimals : number.decimals with
    | none =>
        rw [Spelling.tail_none decimals] at member
        cases member
    | some digits =>
        rw [Spelling.tail_some decimals] at member
        rcases List.mem_cons.mp member with rfl | member
        · exact .inr (.inr ⟨rfl, by simp⟩)
        · exact .inl ((isDigits_iff.mp (valid.decimals digits decimals)).2 c member)

theorem tail_plain {number : Spelling} (valid : number.Valid)
    (together : number.decimals ≠ none → d.separates number.point = false) :
    ∀ c ∈ number.tail, d.separates c = false ∧ closingQuote c = none := by
  cases decimals : number.decimals with
  | none => simp [Spelling.tail_none decimals]
  | some digits =>
      rw [Spelling.tail_some decimals]
      refine List.forall_mem_cons.mpr ⟨⟨together (by simp [decimals]), point_quote valid⟩, fun c member => ?_⟩
      have plain := plain_digit ((isDigits_iff.mp (valid.decimals digits decimals)).2 c member)
      exact ⟨plain.separates d, plain.quote⟩

theorem Torn.together {number : Spelling} (valid : number.Valid) {quote : Option Char} (torn : Torn d number quote)
    (some' : number.decimals ≠ none) : d.separates number.point = false := by
  cases separates : d.separates number.point with
  | false => rfl
  | true =>
      obtain ⟨rfl, comma⟩ := (point_separates valid).mp separates
      have sep : number.sep = ',' := of_decide_eq_true torn.2.2
      exact absurd (sep.trans comma.symm) (valid.apart torn.2.1 some')

theorem scans_whole {number : Spelling} (valid : number.Valid) {quote : Option Char} (quotes : Quotes number.text quote)
    (whole : ¬Torn d number quote) (whole' : ¬TornOff d number quote) :
    Scans d (written number.text quote) [{ text := number.text, quoted := quote.isSome }] := by
  apply scans_token valid.solid quotes
  · intro c head
    obtain ⟨first, rest, spelled, digit⟩ := @spell_head number.sep number.tail number.first number.groups valid.first
    rw [Spelling.text, spelled, List.head?_cons, Option.mem_def, Option.some.injEq] at head
    exact head ▸ (plain_digit digit).quote
  · intro unquoted c member
    rcases mem_text valid member with digit | ⟨groups, rfl⟩ | ⟨rfl, decimals⟩
    · exact (plain_digit digit).separates d
    · cases separates : d.separates number.sep with
      | false => rfl
      | true => exact absurd ⟨unquoted, groups, separates⟩ whole
    · cases separates : d.separates number.point with
      | false => rfl
      | true => exact absurd ⟨unquoted, decimals, separates⟩ whole'

/-! ## Two cells with a delimiter between them -/

theorem split_blanks {chars : Text} (blanks : ∀ c ∈ chars, isSpace c = true) (rest : Text) :
    splitFrom .space false none [] false (chars ++ rest) = splitFrom .space false none [] false rest := by
  induction chars with
  | nil => rfl
  | cons c chars ih =>
      obtain ⟨blank, later⟩ := List.forall_mem_cons.mp blanks
      rw [List.cons_append, @split_separator .space c blank (space_quote blank), ih later]
      rfl

theorem split_gap {before after : Text} {mark : Char} (separates : d.separates mark = true)
    (blanks : ∀ c ∈ before ++ after, isSpace c = true ∧ c ≠ tabChar) {front last : Text} (solid : Solid last)
    (fronts : ∀ c ∈ front, isSpace c = true) (quoted : Bool) (rest : Text) :
    ∃ blank : Text, (∀ c ∈ blank, isSpace c = true) ∧
      splitFrom d false none (front ++ last) quoted ((before ++ mark :: after) ++ rest) =
        { text := last, quoted } :: splitFrom d false none blank false rest := by
  obtain ⟨befores, afters⟩ := List.forall_mem_append.mp blanks
  obtain ⟨c, more, begins, noBlank⟩ := solid.head
  have nonempty : last ≠ [] := by rw [begins]; simp
  have inside : c ∈ front ++ last := by rw [begins]; simp
  by_cases spaced : d = .space
  · subst spaced
    have trimmed : trim (front ++ last) = last := by
      have around := @trim_around front last [] solid fronts (List.forall_mem_nil _)
      rwa [List.append_nil] at around
    have all : ∀ c ∈ before ++ mark :: after, isSpace c = true := by
      refine List.forall_mem_append.mpr ⟨fun c member => (befores c member).1, List.forall_mem_cons.mpr ⟨separates, ?_⟩⟩
      exact fun c member => (afters c member).1
    refine ⟨[], List.forall_mem_nil _, ?_⟩
    obtain ⟨b, gap, split⟩ := List.exists_cons_of_ne_nil (show before ++ mark :: after ≠ [] by simp)
    rw [split] at all ⊢
    obtain ⟨blank, later⟩ := List.forall_mem_cons.mp all
    rw [List.cons_append, @split_separator .space b blank (space_quote blank), pushCell_filled trimmed nonempty, split_blanks later]
    rfl
  · have joined : ∀ c ∈ before, d.separates c = false :=
      fun c member => space_separates (befores c member).1 (befores c member).2 spaced
    have joined' : ∀ c ∈ after, d.separates c = false ∧ closingQuote c = none := fun c member =>
      ⟨space_separates (afters c member).1 (afters c member).2 spaced, space_quote (afters c member).1⟩
    have trimmed : trim (front ++ last ++ before) = last := by
      rw [List.append_assoc]
      exact trim_around solid fronts fun c member => (befores c member).1
    refine ⟨after, fun c member => (afters c member).1, ?_⟩
    rw [List.append_assoc, List.cons_append, split_begun joined inside noBlank,
      split_separator separates (separates_quote separates), pushCell_filled trimmed nonempty, split_plain joined']
    rfl

theorem gap_head {before after : Text} {mark : Char} (separates : d.separates mark = true)
    (blanks : ∀ c ∈ before ++ after, isSpace c = true ∧ c ≠ tabChar) (rest : Text) :
    ((before ++ mark :: after) ++ rest).head? ≠ some doubleQuote := by
  have opens : closingQuote doubleQuote ≠ none := by decide
  cases before with
  | nil =>
      intro same
      obtain rfl := Option.some.inj same
      exact opens (separates_quote separates)
  | cons c before =>
      intro same
      obtain rfl := Option.some.inj same
      exact opens (space_quote (blanks doubleQuote (by simp)).1)

theorem split_two {left right before after : Text} {mark : Char} {lefts rights : List Cell} (scansLeft : Scans d left lefts)
    (scansRight : Scans d right rights) (separates : d.separates mark = true)
    (blanks : ∀ c ∈ before ++ after, isSpace c = true ∧ c ≠ tabChar) :
    splitLine (left ++ ((before ++ mark :: after) ++ right)) d = lefts ++ rights := by
  obtain ⟨init, last, quoted, front, rfl, solid, fronts, read⟩ :=
    scansLeft [] (List.forall_mem_nil _) ((before ++ mark :: after) ++ right) (gap_head separates blanks right)
  obtain ⟨blank, blank', gone⟩ := split_gap separates blanks solid fronts quoted right
  obtain ⟨init', last', quoted', front', rfl, solid', fronts', read'⟩ := scansRight blank blank' [] (by simp)
  have trimmed : trim (front' ++ last') = last' := by
    have around := @trim_around front' last' [] solid' fronts' (List.forall_mem_nil _)
    rwa [List.append_nil] at around
  obtain ⟨c, more, begins, -⟩ := solid'.head
  rw [List.append_nil] at read'
  rw [splitLine, read, gone, read', split_end, pushCell_filled trimmed (by rw [begins]; simp)]
  simp

theorem scans_append {left right : Text} {mark : Char} {lefts rights : List Cell} (scansLeft : Scans d left lefts)
    (scansRight : Scans d right rights) (separates : d.separates mark = true) :
    Scans d (left ++ mark :: right) (lefts ++ rights) := by
  intro blank blanks rest ends
  obtain ⟨init, last, quoted, front, rfl, solid, fronts, read⟩ :=
    scansLeft blank blanks (([] ++ mark :: []) ++ (right ++ rest)) (gap_head separates (List.forall_mem_nil _) _)
  obtain ⟨blank', blanks', gone⟩ := @split_gap d [] [] mark separates (List.forall_mem_nil _) _ _ solid fronts quoted (right ++ rest)
  obtain ⟨init', last', quoted', front', rfl, solid', fronts', read'⟩ := scansRight blank' blanks' rest ends
  refine ⟨init ++ [{ text := last, quoted }] ++ init', last', quoted', front', by simp, solid', fronts', ?_⟩
  rw [gone, read'] at read
  simpa using read

theorem scans_digits {text : Text} (digits : isDigits text = true) : Scans d text [plainCell text] := by
  obtain ⟨nonempty, all⟩ := isDigits_iff.mp digits
  have token := @scans_token d text (solid_of_forall nonempty fun c member => (plain_digit (all c member)).solid) none
  exact token (by simp [Quotes]) (fun c head => (plain_digit (all c (List.mem_of_mem_head? head))).quote)
    fun _ c member => (plain_digit (all c member)).separates d

theorem scans_number {number : Spelling} (valid : number.Valid) {quote : Option Char} (quotes : Quotes number.text quote) :
    Scans d (written number.text quote) (numberCells d number quote) := by
  unfold numberCells
  split
  case isTrue torn =>
    have together := torn.together valid
    obtain ⟨rfl, groups, separates⟩ := torn
    exact scans_pieces separates valid.tail_ends (tail_plain valid together) valid.first valid.groups
  case isFalse whole =>
    split
    case isTrue off =>
      obtain ⟨rfl, some', separates⟩ := off
      obtain ⟨decimals, found⟩ := Option.ne_none_iff_exists'.mp some'
      have front := @scans_whole d _ valid.integer none (by simp [Quotes]) (fun torn => whole ⟨rfl, torn.2⟩) fun off => off.2.1 rfl
      have back := @scans_digits d _ (valid.decimals decimals found)
      rw [written, Spelling.text_some found, found]
      exact scans_append front back separates
    case isFalse whole' => exact scans_whole valid quotes whole whole'

end scans

theorem RecipientLine.Valid.splitLine {line : RecipientLine} (valid : line.Valid) :
    splitLine line.chars line.delimiter = line.cells := by
  have wallet := @scans_wallet line.delimiter line.wallet valid.wallet line.walletQuote valid.walletQuote
  have number := @scans_number line.delimiter line.number valid.number line.numberQuote valid.numberQuote
  unfold RecipientLine.chars RecipientLine.cells RecipientLine.gap
  split
  · exact split_two wallet number valid.mark valid.blanks
  · exact split_two number wallet valid.mark valid.blanks

/-! ## The delimiters before the right one -/

section earlier
variable {line : RecipientLine}

theorem written_chars {text : Text} {quote : Option Char} {P : Char → Prop} (inside : ∀ c ∈ text, P c)
    (quotes : ∀ opening ∈ quote, P opening ∧ P ((closingQuote opening).getD opening)) : ∀ c ∈ written text quote, P c := by
  cases quote with
  | none => exact inside
  | some opening =>
      obtain ⟨starts, ends⟩ := quotes opening rfl
      refine List.forall_mem_cons.mpr ⟨starts, List.forall_mem_append.mpr ⟨inside, ?_⟩⟩
      simpa using ends

theorem quote_separates {opening closing : Char} (opens : closingQuote opening = some closing) {d : Delimiter} (notSpace : d ≠ .space) :
    d.separates opening = false ∧ d.separates closing = false := by
  obtain ⟨code, code'⟩ := quote_codes opens
  have apart : ∀ c : Char, c.toNat ∈ [34, 39, 0x201c, 0x201d, 0x2018, 0x2019] → d.separates c = false := by
    intro c listed
    simp only [List.mem_cons, List.not_mem_nil, or_false] at listed
    cases d with
    | tab =>
        apply decide_eq_false
        rintro rfl
        revert listed
        decide
    | semicolon =>
        apply decide_eq_false
        rintro rfl
        revert listed
        decide
    | comma =>
        apply decide_eq_false
        rintro rfl
        revert listed
        decide
    | space => exact absurd rfl notSpace
  simp only [List.mem_cons, List.not_mem_nil, or_false] at code code'
  constructor
  · apply apart
    simp only [List.mem_cons, List.not_mem_nil, or_false]
    omega
  · apply apart
    simp only [List.mem_cons, List.not_mem_nil, or_false]
    omega

theorem written_separates {text : Text} {quote : Option Char} (quotes : Quotes text quote) {d : Delimiter} (notSpace : d ≠ .space)
    (inside : ∀ c ∈ text, d.separates c = false) : ∀ c ∈ written text quote, d.separates c = false := by
  apply written_chars inside
  intro opening found
  obtain ⟨closing, opens, -⟩ := quotes opening found
  rw [opens, Option.getD_some]
  exact quote_separates opens notSpace

theorem separator_separates {c : Char} (separator : isThousandsSeparator c = true) :
    Delimiter.tab.separates c = false ∧ Delimiter.semicolon.separates c = false := by
  simp only [isThousandsSeparator, thousandsSeparators, apostrophe, List.mem_cons, List.not_mem_nil, or_false,
    decide_eq_true_eq] at separator
  rcases separator with rfl | rfl | rfl | rfl | rfl | rfl <;> decide

theorem number_separates (valid : line.Valid) {e : Delimiter} (early : e = .tab ∨ e = .semicolon) :
    ∀ c ∈ line.number.text, e.separates c = false := by
  intro c member
  rcases mem_text valid.number member with digit | ⟨-, rfl⟩ | ⟨rfl, -⟩
  · exact (plain_digit digit).separates e
  · rcases early with rfl | rfl
    · exact (separator_separates valid.number.sep).1
    · exact (separator_separates valid.number.sep).2
  · rw [Bool.eq_false_iff, Ne, point_separates valid.number]
    rcases early with rfl | rfl <;> simp

theorem gap_separates (valid : line.Valid) {e : Delimiter} (early : e = .tab ∨ e = .semicolon) (other : e ≠ line.delimiter) :
    ∀ c ∈ line.gap, e.separates c = false := by
  have notSpace : e ≠ .space := by rcases early with rfl | rfl <;> decide
  have blanks : ∀ c ∈ line.before ++ line.after, e.separates c = false :=
    fun c member => space_separates (valid.blanks c member).1 (valid.blanks c member).2 notSpace
  have mark : e.separates line.mark = false := by
    have separates := valid.mark
    rcases early with rfl | rfl
    · apply decide_eq_false
      intro same
      exact other (valid.tabbed same).symm
    · apply decide_eq_false
      intro same
      rw [same] at separates
      cases delimiter : line.delimiter with
      | semicolon => exact other delimiter.symm
      | tab | comma | space =>
          rw [delimiter] at separates
          revert separates
          decide
  obtain ⟨befores, afters⟩ := List.forall_mem_append.mp blanks
  exact List.forall_mem_append.mpr ⟨befores, List.forall_mem_cons.mpr ⟨mark, afters⟩⟩

theorem chars_separates (valid : line.Valid) {e : Delimiter} (early : e = .tab ∨ e = .semicolon) (other : e ≠ line.delimiter) :
    ∀ c ∈ line.chars, e.separates c = false := by
  have notSpace : e ≠ .space := by rcases early with rfl | rfl <;> decide
  have wallet := written_separates valid.walletQuote notSpace fun c member => (address_plain valid.wallet c member).separates e
  have number := written_separates valid.numberQuote notSpace (number_separates valid early)
  have gap := gap_separates valid early other
  unfold RecipientLine.chars
  split
  · exact List.forall_mem_append.mpr ⟨wallet, List.forall_mem_append.mpr ⟨gap, number⟩⟩
  · exact List.forall_mem_append.mpr ⟨number, List.forall_mem_append.mpr ⟨gap, wallet⟩⟩

theorem filled_length (cells : List Cell) : (filledCells cells).length ≤ cells.length :=
  List.length_filter_le _ _

theorem pass_whole {chars : Text} {e : Delimiter} (whole : ∀ c ∈ chars, e.separates c = false)
    (fallback : Option (List Cell × Delimiter)) (rest : List Delimiter) :
    splitBestOf chars fallback (e :: rest) = splitBestOf chars fallback rest := by
  have few := (filled_length _).trans (split_whole chars whole false none [] false)
  rw [splitBestOf]
  exact if_pos (Nat.lt_succ_of_le few)

/-! ## The comma in a line that blanks delimit -/

theorem begun_single {front last blanks chars : Text} (solid : Solid last) (some' : blanks ≠ [])
    (spaces : ∀ c ∈ blanks, isSpace c = true) {c : Char} (member : c ∈ chars) (noBlank : isSpace c = false) :
    isAddress (trim (front ++ last ++ blanks ++ chars)) = false := by
  obtain ⟨init, e, ends, kept⟩ := solid.last
  obtain ⟨b, more, rfl⟩ := List.exists_cons_of_ne_nil some'
  obtain ⟨before, after, rfl⟩ := List.append_of_mem member
  obtain ⟨left, right, trimmed⟩ := trim_split kept noBlank (front ++ init) (b :: (more ++ before)) after
  have shape : front ++ last ++ b :: more ++ (before ++ c :: after) =
      front ++ init ++ e :: (b :: (more ++ before) ++ c :: after) := by
    rw [ends]
    simp
  rw [shape, trimmed]
  exact not_address_of_mem (by simp) (blank_not_alphanum (spaces b List.mem_cons_self))

theorem pushCell_comma (text : Text) (quoted : Bool) : pushCell .comma text quoted = [{ text := trim text, quoted }] := by
  rw [pushCell, if_pos (.inl (by decide))]

theorem groups_not_addresses {tail close : Text} (tailShape : tail = [] ∨ '.' ∈ tail)
    (tailPlain : ∀ c ∈ tail, Delimiter.comma.separates c = false ∧ closingQuote c = none)
    (closeShape : close = [] ∨ ∃ c, close = [c] ∧ isSpace c = false ∧ c.isAlphanum = false ∧ Delimiter.comma.separates c = false)
    {group : Text} {groups : List Text} (isGroup : IsGroup group) (others : ∀ group ∈ groups, IsGroup group) :
    ∀ cell ∈ splitFrom .comma false none [] false (spell ',' tail group groups ++ close), isAddress cell.text = false := by
  obtain ⟨nonempty, all⟩ := isDigits_iff.mp isGroup.digits
  have plain : ∀ c ∈ group, Delimiter.comma.separates c = false ∧ closingQuote c = none :=
    fun c member => ⟨(plain_digit (all c member)).separates .comma, (plain_digit (all c member)).quote⟩
  have solid := solid_of_forall nonempty fun c member => (plain_digit (all c member)).solid
  induction groups generalizing group with
  | nil =>
      have last : ∃ s, s ∈ group ∧ isSpace s = false := by
        obtain ⟨s, rest, rfl⟩ := List.exists_cons_of_ne_nil nonempty
        exact ⟨s, List.mem_cons_self, (plain_digit (all s List.mem_cons_self)).solid⟩
      obtain ⟨s, inside, noBlank⟩ := last
      have closes : ∀ c ∈ close, Delimiter.comma.separates c = false := by
        rcases closeShape with rfl | ⟨c, rfl, -, -, other⟩
        · simp
        · simpa using other
      have one := @split_begun .comma close closes (group ++ tail) false s (List.mem_append_left _ inside) noBlank []
      rw [List.append_nil] at one
      rw [spell, split_plain (List.forall_mem_append.mpr ⟨plain, tailPlain⟩), List.nil_append, one, split_end, pushCell_comma]
      intro cell member
      rw [List.mem_singleton.mp member]
      rcases tailShape with rfl | point
      · rcases closeShape with rfl | ⟨c, rfl, noBlank', other, -⟩
        · rw [List.append_nil, List.append_nil, trim_solid solid]
          apply not_address_short
          rw [isGroup.1]
          decide
        · exact not_address_of_mem (mem_trim (by simp) noBlank') other
      · exact not_address_of_mem (mem_trim (by simp [point]) (by decide)) (show Char.isAlphanum '.' = false by decide)
  | cons next groups ih =>
      obtain ⟨isGroup', others'⟩ := List.forall_mem_cons.mp others
      obtain ⟨nonempty', all'⟩ := isDigits_iff.mp isGroup'.digits
      have comma : Delimiter.comma.separates ',' = true := by decide
      rw [spell, List.append_assoc, List.cons_append, split_plain plain, List.nil_append,
        split_separator comma (separates_quote comma), pushCell_comma, trim_solid solid]
      refine List.forall_mem_append.mpr ⟨?_, ?_⟩
      · intro cell member
        rw [List.mem_singleton.mp member]
        apply not_address_short
        rw [isGroup.1]
        decide
      · exact ih isGroup' others' nonempty'
          all' (fun c member => ⟨(plain_digit (all' c member)).separates .comma, (plain_digit (all' c member)).quote⟩)
          (solid_of_forall nonempty' fun c member => (plain_digit (all' c member)).solid)

theorem pieces_short {tail first : Text} {groups : List Text} (short : groups ≠ [] → first.length ≤ 3)
    (isGroups : ∀ group ∈ groups, IsGroup group) : ∀ piece ∈ (pieces tail first groups).dropLast, piece.length ≤ 3 := by
  induction groups generalizing first with
  | nil => simp [pieces]
  | cons group groups ih =>
      obtain ⟨isGroup, others⟩ := List.forall_mem_cons.mp isGroups
      have later := @ih group (fun _ => isGroup.1.le) others
      have some' : pieces tail group groups ≠ [] := by cases groups <;> simp [pieces]
      rw [pieces, List.dropLast_cons_of_ne_nil some']
      exact List.forall_mem_cons.mpr ⟨short (by simp), later⟩

theorem written_close {text : Text} {quote : Option Char} (quotes : Quotes text quote) :
    ∃ start close, (∀ inner, written inner quote = start ++ (inner ++ close)) ∧
      (∀ c ∈ start, Delimiter.comma.separates c = false) ∧
      (quote = none ∧ close = [] ∨ ∃ c, close = [c] ∧ isSpace c = false ∧ c.isAlphanum = false ∧ Delimiter.comma.separates c = false) := by
  cases quote with
  | none => exact ⟨[], [], fun inner => (List.append_nil inner).symm, List.forall_mem_nil _, .inl ⟨rfl, rfl⟩⟩
  | some opening =>
      obtain ⟨closing, opens, -⟩ := quotes opening rfl
      have apart := @quote_separates opening closing opens .comma (by decide)
      refine ⟨[opening], [closing], fun inner => ?_, by simpa using apart.1,
        .inr ⟨closing, rfl, (quote_solid opens).2, closing_alphanum opens, apart.2⟩⟩
      rw [written, opens]
      rfl

theorem written_solid {text : Text} (solid : Solid text) {quote : Option Char} (quotes : Quotes text quote) : Solid (written text quote) := by
  cases quote with
  | none => exact solid
  | some opening =>
      obtain ⟨closing, opens, -⟩ := quotes opening rfl
      obtain ⟨starts, ends⟩ := quote_solid opens
      rw [written, opens]
      exact ⟨⟨opening, _, rfl, starts⟩, opening :: text, closing, rfl, ends⟩

theorem mem_written {text : Text} {c : Char} (member : c ∈ text) (quote : Option Char) : c ∈ written text quote := by
  cases quote with
  | none => exact member
  | some opening => exact List.mem_cons_of_mem _ (List.mem_append_left _ member)

theorem begun_whole (valid : line.Valid) {front last blanks : Text} (solid : Solid last) (some' : blanks ≠ [])
    (spaces : ∀ c ∈ blanks, isSpace c = true) (quoted : Bool) (plain : ∀ c ∈ line.number.text, Delimiter.comma.separates c = false)
    {c : Char} (inside : c ∈ line.number.text) (noBlank : isSpace c = false) :
    ∀ cell ∈ splitFrom .comma false none (front ++ last ++ blanks) quoted (written line.number.text line.numberQuote),
      isAddress cell.text = false := by
  obtain ⟨init, s, ends, kept⟩ := solid.last
  have begun : s ∈ front ++ last ++ blanks := by rw [ends]; simp
  have whole := @split_begun .comma _ (written_separates valid.numberQuote (by decide) plain) _ quoted s begun kept []
  rw [List.append_nil] at whole
  rw [whole, split_end, pushCell_comma]
  intro cell member
  rw [List.mem_singleton.mp member]
  exact begun_single solid some' spaces (mem_written inside _) noBlank

theorem integer_comma {number : Spelling} (valid : number.Valid) (other : ¬(number.groups ≠ [] ∧ number.sep = ',')) :
    ∀ c ∈ number.integer.text, Delimiter.comma.separates c = false := by
  intro c member
  rcases mem_text valid.integer member with digit | ⟨groups, rfl⟩ | ⟨-, some'⟩
  · exact (plain_digit digit).separates .comma
  · exact decide_eq_false fun same => other ⟨groups, same⟩
  · exact absurd rfl some'

theorem decimals_not_address {decimals close : Text} (digits : isDigits decimals = true)
    (closeShape : close = [] ∧ isAddress decimals = false ∨
      ∃ c, close = [c] ∧ isSpace c = false ∧ c.isAlphanum = false ∧ Delimiter.comma.separates c = false) :
    ∀ cell ∈ splitFrom .comma false none [] false (decimals ++ close), isAddress cell.text = false := by
  obtain ⟨nonempty, all⟩ := isDigits_iff.mp digits
  obtain ⟨s, more, shape⟩ := List.exists_cons_of_ne_nil nonempty
  have inside : s ∈ decimals := by rw [shape]; simp
  have plain : ∀ c ∈ decimals, Delimiter.comma.separates c = false ∧ closingQuote c = none :=
    fun c member => ⟨(plain_digit (all c member)).separates .comma, (plain_digit (all c member)).quote⟩
  have closes : ∀ c ∈ close, Delimiter.comma.separates c = false := by
    rcases closeShape with ⟨rfl, -⟩ | ⟨c, rfl, -, -, other⟩
    · simp
    · simpa using other
  have one := @split_begun .comma close closes decimals false s inside (plain_digit (all s inside)).solid []
  rw [List.append_nil] at one
  rw [split_plain plain, List.nil_append, one, split_end, pushCell_comma]
  intro cell member
  rw [List.mem_singleton.mp member]
  rcases closeShape with ⟨rfl, other⟩ | ⟨c, rfl, noBlank, other, -⟩
  · rw [List.append_nil, trim_solid (solid_of_forall nonempty fun c member => (plain_digit (all c member)).solid)]
    exact other
  · exact not_address_of_mem (mem_trim (by simp) noBlank) other

theorem begun_number (valid : line.Valid) {front last blanks : Text} (solid : Solid last) (some' : blanks ≠ [])
    (spaces : ∀ c ∈ blanks, isSpace c = true) (quoted : Bool)
    (apart : TornOff .comma line.number line.numberQuote → ∀ decimals ∈ line.number.decimals, isAddress decimals = false) :
    ∀ cell ∈ splitFrom .comma false none (front ++ last ++ blanks) quoted (written line.number.text line.numberQuote),
      isAddress cell.text = false := by
  obtain ⟨init, s, ends, kept⟩ := solid.last
  have begun : s ∈ front ++ last ++ blanks := by rw [ends]; simp
  obtain ⟨nonempty, all⟩ := isDigits_iff.mp valid.number.first
  obtain ⟨c, rest, first⟩ := List.exists_cons_of_ne_nil nonempty
  have inFirst : c ∈ line.number.first := by rw [first]; simp
  have noBlank := (plain_digit (all c inFirst)).solid
  have separates : Delimiter.comma.separates ',' = true := by decide
  obtain ⟨start, close, shape, starts, closes⟩ := written_close valid.numberQuote
  by_cases grouped : line.number.groups ≠ [] ∧ line.number.sep = ','
  · -- commas between the groups
    obtain ⟨some'', comma⟩ := grouped
    obtain ⟨group, groups, spelled⟩ := List.exists_cons_of_ne_nil some''
    obtain ⟨isGroup, others⟩ := List.forall_mem_cons.mp (spelled ▸ valid.number.groups)
    have together : line.number.decimals ≠ none → Delimiter.comma.separates line.number.point = false := by
      intro decimals
      apply decide_eq_false
      intro same
      exact valid.number.apart some'' decimals (comma.trans same.symm)
    have tailShape : line.number.tail = [] ∨ '.' ∈ line.number.tail := by
      cases decimals : line.number.decimals with
      | none => exact .inl (Spelling.tail_none decimals)
      | some digits =>
          have point : line.number.point = '.' := by
            apply valid.number.point.resolve_right
            intro same
            exact valid.number.apart some'' (by simp [decimals]) (comma.trans same.symm)
          rw [Spelling.tail_some decimals, point]
          exact .inr List.mem_cons_self
    have chars : written line.number.text line.numberQuote = (start ++ line.number.first) ++
        ',' :: (spell ',' line.number.tail group groups ++ close) := by
      rw [shape, Spelling.text, spelled, comma, spell]
      simp
    have plain : ∀ c ∈ start ++ line.number.first, Delimiter.comma.separates c = false :=
      List.forall_mem_append.mpr ⟨starts, fun c member => (plain_digit (all c member)).separates .comma⟩
    rw [chars, split_begun plain begun kept, split_separator separates (separates_quote separates), pushCell_comma]
    refine List.forall_mem_append.mpr ⟨?_, groups_not_addresses tailShape (tail_plain valid.number together)
      (closes.imp_left And.right) isGroup others⟩
    intro cell member
    rw [List.mem_singleton.mp member]
    exact begun_single solid some' spaces (List.mem_append_right _ inFirst) noBlank
  · have integer := integer_comma valid.number grouped
    have inInteger : c ∈ line.number.integer.text := by
      rw [Spelling.text, show line.number.integer.first = c :: rest from first]
      cases line.number.integer.groups <;> simp [spell]
    by_cases off : line.number.decimals ≠ none ∧ line.number.point = ','
    · -- a comma before the decimals
      obtain ⟨decimals, found⟩ := Option.ne_none_iff_exists'.mp off.1
      have chars : written line.number.text line.numberQuote = (start ++ line.number.integer.text) ++ ',' :: (decimals ++ close) := by
        rw [shape, Spelling.text_some found, off.2]
        simp
      have plain : ∀ c ∈ start ++ line.number.integer.text, Delimiter.comma.separates c = false :=
        List.forall_mem_append.mpr ⟨starts, integer⟩
      rw [chars, split_begun plain begun kept, split_separator separates (separates_quote separates), pushCell_comma]
      refine List.forall_mem_append.mpr ⟨?_, decimals_not_address (valid.number.decimals decimals found) ?_⟩
      · intro cell member
        rw [List.mem_singleton.mp member]
        exact begun_single solid some' spaces (List.mem_append_right _ inInteger) noBlank
      · refine closes.imp_left fun unquoted => ⟨unquoted.2, apart ⟨unquoted.1, off.1, ?_⟩ decimals found⟩
        rw [off.2]
        exact separates
    · have plain : ∀ c ∈ line.number.text, Delimiter.comma.separates c = false := by
        intro c member
        rcases mem_text valid.number member with digit | ⟨groups, rfl⟩ | ⟨rfl, decimals⟩
        · exact (plain_digit digit).separates .comma
        · exact decide_eq_false fun same => grouped ⟨groups, same⟩
        · exact decide_eq_false fun same => off ⟨decimals, same⟩
      have inside : c ∈ line.number.text := by
        rw [Spelling.text, first]
        cases line.number.groups <;> simp [spell]
      exact begun_whole valid solid some' spaces quoted plain inside noBlank

/-- The comma that would be tried before the blanks splits an address off the number. -/
def RecipientLine.Astray (line : RecipientLine) : Prop :=
  line.delimiter = .space ∧ TornOff .comma line.number line.numberQuote ∧
    (line.walletFirst = true ∧ (∃ decimals ∈ line.number.decimals, isAddress decimals = true) ∨
      line.walletFirst = false ∧ isAddress line.number.integer.text = true)

theorem gap_blank (valid : line.Valid) (spaced : line.delimiter = .space) :
    line.gap ≠ [] ∧ ∀ c ∈ line.gap, isSpace c = true ∧ Delimiter.comma.separates c = false := by
  have separates := valid.mark
  rw [spaced] at separates
  have spaces : ∀ c ∈ line.gap, isSpace c = true := by
    obtain ⟨befores, afters⟩ := List.forall_mem_append.mp valid.blanks
    refine List.forall_mem_append.mpr ⟨fun c member => (befores c member).1, List.forall_mem_cons.mpr ⟨separates, ?_⟩⟩
    exact fun c member => (afters c member).1
  refine ⟨by simp [RecipientLine.gap], fun c member => ⟨spaces c member, ?_⟩⟩
  apply decide_eq_false
  rintro rfl
  have blank := spaces ',' member
  revert blank
  decide

/-- In a line that blanks delimit, the comma splits off no address. -/
theorem comma_not_addresses (valid : line.Valid) (spaced : line.delimiter = .space) (kept : ¬line.Astray) :
    ∀ cell ∈ splitLine line.chars .comma, isAddress cell.text = false := by
  obtain ⟨some', gap⟩ := gap_blank valid spaced
  have spaces : ∀ c ∈ line.gap, isSpace c = true := fun c member => (gap c member).1
  have tabless : ∀ c ∈ line.gap, Delimiter.comma.separates c = false := fun c member => (gap c member).2
  have ends : ∀ right : Text, (line.gap ++ right).head? ≠ some doubleQuote := gap_head valid.mark valid.blanks
  unfold RecipientLine.chars
  split
  case isTrue order =>
    have apart : TornOff .comma line.number line.numberQuote → ∀ decimals ∈ line.number.decimals, isAddress decimals = false := by
      intro off decimals found
      cases address : isAddress decimals with
      | false => rfl
      | true => exact absurd ⟨spaced, off, .inl ⟨order, decimals, found, address⟩⟩ kept
    obtain ⟨init, last, quoted, front, cells, solid, -, read⟩ :=
      @scans_wallet .comma line.wallet valid.wallet line.walletQuote valid.walletQuote [] (List.forall_mem_nil _) _
        (ends (written line.number.text line.numberQuote))
    obtain ⟨rest, s, tail, solid'⟩ := solid.last
    have begun : s ∈ front ++ last := by rw [tail]; simp
    obtain rfl : init = [] := by
      have length := congrArg List.length cells
      rw [List.length_append, List.length_singleton, List.length_singleton] at length
      exact List.length_eq_zero_iff.mp (by omega)
    rw [splitLine, read, split_begun tabless begun solid']
    exact begun_number valid solid some' spaces quoted apart
  case isFalse order =>
    obtain ⟨init, last, quoted, front, cells, solid, -, read⟩ :=
      @scans_number .comma line.number valid.number line.numberQuote valid.numberQuote [] (List.forall_mem_nil _) _
        (ends (written line.wallet line.walletQuote))
    obtain ⟨rest, s, tail, solid'⟩ := solid.last
    have begun : s ∈ front ++ last := by rw [tail]; simp
    have begun' : s ∈ front ++ last ++ line.gap := List.mem_append_left _ begun
    have plain := @written_separates line.wallet line.walletQuote valid.walletQuote .comma (by decide)
      fun c member => (address_plain valid.wallet c member).separates .comma
    have inits : init = (numberCells .comma line.number line.numberQuote).dropLast := by rw [cells, List.dropLast_concat]
    have short : ∀ cell ∈ init, isAddress cell.text = false := by
      rw [inits]
      unfold numberCells
      split
      case isTrue torn =>
        intro cell member
        rw [← List.map_dropLast] at member
        obtain ⟨piece, inside, rfl⟩ := List.mem_map.mp member
        have three := pieces_short valid.number.short valid.number.groups piece inside
        exact not_address_short (Nat.lt_of_le_of_lt three (by decide))
      case isFalse =>
        split
        case isTrue off =>
          intro cell member
          rw [show cell = plainCell line.number.integer.text by simpa using member]
          cases address : isAddress (plainCell line.number.integer.text).text with
          | false => rfl
          | true => exact absurd ⟨spaced, off, .inr ⟨Bool.eq_false_iff.mpr order, address⟩⟩ kept
        case isFalse => simp
    obtain ⟨c, more, shape⟩ := List.exists_cons_of_ne_nil (address_ne_nil valid.wallet)
    have inWallet : c ∈ line.wallet := by rw [shape]; simp
    have whole := @split_begun .comma _ plain _ quoted s begun' solid' []
    rw [List.append_nil] at whole
    rw [splitLine, read, split_begun tabless begun solid', whole, split_end, pushCell_comma]
    refine List.forall_mem_append.mpr ⟨short, ?_⟩
    intro cell member
    rw [List.mem_singleton.mp member]
    exact begun_single solid some' spaces (mem_written inWallet _) (address_plain valid.wallet c inWallet).solid

end earlier

/-! ## The cells of the line -/

theorem pieces_ne_nil (tail first : Text) (groups : List Text) : pieces tail first groups ≠ [] := by
  cases groups <;> simp [pieces]

theorem numberCells_filled {d : Delimiter} {number : Spelling} (valid : number.Valid) (quote : Option Char) :
    ∀ cell ∈ numberCells d number quote, cell.text ≠ [] := by
  unfold numberCells
  split
  case isTrue =>
    intro cell member
    obtain ⟨piece, inside, rfl⟩ := List.mem_map.mp member
    have pieces' : ∀ (groups : List Text) (first : Text), first ≠ [] → (∀ group ∈ groups, IsGroup group) →
        ∀ piece ∈ pieces number.tail first groups, piece ≠ [] := by
      intro groups
      induction groups with
      | nil =>
          intro first nonempty _ piece member
          rw [pieces, List.mem_singleton] at member
          rw [member]
          simp [nonempty]
      | cons group groups ih =>
          intro first nonempty isGroups
          obtain ⟨isGroup, others⟩ := List.forall_mem_cons.mp isGroups
          exact List.forall_mem_cons.mpr ⟨nonempty, ih group (isDigits_iff.mp isGroup.digits).1 others⟩
    exact pieces' _ _ (isDigits_iff.mp valid.first).1 valid.groups piece inside
  case isFalse =>
    split
    case isTrue off =>
      obtain ⟨decimals, found⟩ := Option.ne_none_iff_exists'.mp off.2.1
      rw [found, Option.getD_some]
      refine List.forall_mem_cons.mpr ⟨valid.integer.solid.ne_nil, List.forall_mem_singleton.mpr ?_⟩
      exact (isDigits_iff.mp (valid.decimals decimals found)).1
    case isFalse => exact List.forall_mem_singleton.mpr valid.solid.ne_nil

theorem numberCells_pos (d : Delimiter) (number : Spelling) (quote : Option Char) : 0 < (numberCells d number quote).length := by
  unfold numberCells
  split
  · rw [List.length_map]
    exact List.length_pos_iff.mpr (pieces_ne_nil _ _ _)
  · split <;> simp

section best
variable {line : RecipientLine}

theorem RecipientLine.Valid.filled (valid : line.Valid) : filledCells line.cells = line.cells := by
  have number := @numberCells_filled line.delimiter line.number valid.number line.numberQuote
  have wallet : line.walletCell.text ≠ [] := address_ne_nil valid.wallet
  rw [filledCells, List.filter_eq_self]
  unfold RecipientLine.cells
  split
  · exact List.forall_mem_cons.mpr ⟨by simpa using wallet, fun cell member => by simpa using number cell member⟩
  · refine List.forall_mem_append.mpr ⟨fun cell member => by simpa using number cell member, ?_⟩
    simpa using wallet

theorem RecipientLine.cells_length (line : RecipientLine) :
    line.cells.length = (numberCells line.delimiter line.number line.numberQuote).length + 1 := by
  unfold RecipientLine.cells
  split <;> simp

theorem RecipientLine.walletCell_mem (line : RecipientLine) : line.walletCell ∈ line.cells := by
  unfold RecipientLine.cells
  split <;> simp

theorem take_delimiter (valid : line.Valid) (fallback : Option (List Cell × Delimiter)) (rest : List Delimiter) :
    splitBestOf line.chars fallback (line.delimiter :: rest) = (line.cells, line.delimiter) := by
  have two : ¬(filledCells line.cells).length < 2 := by
    have one := numberCells_pos line.delimiter line.number line.numberQuote
    rw [valid.filled, line.cells_length]
    omega
  have found : (filledCells line.cells).any (fun cell => isAddress cell.text) = true := by
    rw [valid.filled, List.any_eq_true]
    exact ⟨line.walletCell, line.walletCell_mem, valid.wallet⟩
  rw [splitBestOf, valid.splitLine, if_neg two, if_pos found]

theorem RecipientLine.Valid.splitBest (valid : line.Valid) (kept : ¬line.Astray) : splitBest line.chars = (line.cells, line.delimiter) := by
  have take := take_delimiter valid
  rw [Recipients.splitBest, delimiters]
  cases delimiter : line.delimiter with
  | tab =>
      rw [delimiter] at take
      exact take none _
  | semicolon =>
      rw [delimiter] at take
      rw [pass_whole (chars_separates valid (.inl rfl) (by rw [delimiter]; decide)), take]
  | comma =>
      rw [delimiter] at take
      rw [pass_whole (chars_separates valid (.inl rfl) (by rw [delimiter]; decide)),
        pass_whole (chars_separates valid (.inr rfl) (by rw [delimiter]; decide)), take]
  | space =>
      rw [delimiter] at take
      have none' : (filledCells (Recipients.splitLine line.chars .comma)).any (fun cell => isAddress cell.text) = false := by
        rw [List.any_eq_false]
        intro cell member
        rw [comma_not_addresses valid delimiter kept cell (List.mem_of_mem_filter member)]
        exact Bool.false_ne_true
      rw [pass_whole (chars_separates valid (.inl rfl) (by rw [delimiter]; decide)),
        pass_whole (chars_separates valid (.inr rfl) (by rw [delimiter]; decide)), splitBestOf]
      split
      · exact take _ _
      · rw [none', if_neg Bool.false_ne_true]
        exact take _ _

end best

end Mancipatio.Recipients
