import Mancipatio.Recipients.Parse

/-!
# How a line falls into cells
-/

namespace Mancipatio.Recipients
open Checked

/-! ## Characters -/

theorem digit_codes {c : Char} (digit : c.isDigit = true) : 48 ≤ c.toNat ∧ c.toNat ≤ 57 := by
  simpa [Char.isDigit, UInt32.le_iff_toNat_le] using digit

theorem digit_alphanum {c : Char} (digit : c.isDigit = true) : c.isAlphanum = true := by
  rw [Char.isAlphanum, digit, Bool.or_true]

theorem quote_codes {c closing : Char} (opens : closingQuote c = some closing) :
    c.toNat ∈ [34, 39, 0x201c, 0x201d, 0x2018] ∧ closing.toNat ∈ [34, 39, 0x201d, 0x2019] := by
  unfold closingQuote at opens
  split at opens
  case isTrue same =>
    cases opens
    subst same
    decide
  case isFalse =>
    split at opens
    case isTrue same =>
      cases opens
      subst same
      decide
    case isFalse =>
      split at opens
      case isTrue same =>
        cases opens
        subst same
        decide
      case isFalse =>
        split at opens
        case isTrue same =>
          cases opens
          subst same
          decide
        case isFalse =>
          split at opens
          case isTrue same =>
            cases opens
            subst same
            decide
          case isFalse => cases opens

theorem closingQuote_none {c : Char} (other : c.toNat ∉ [34, 39, 0x201c, 0x201d, 0x2018]) : closingQuote c = none := by
  cases opens : closingQuote c with
  | none => rfl
  | some closing => exact absurd (quote_codes opens).1 other

structure Plain (c : Char) : Prop where
  solid : isSpace c = false
  separates : ∀ delimiter : Delimiter, delimiter.separates c = false
  quote : closingQuote c = none

theorem plain_of_alphanum {c : Char} (alphanum : c.isAlphanum = true) : Plain c := by
  have codes := alphanum_codes alphanum
  have solid := alphanum_solid alphanum
  refine ⟨solid, fun delimiter => ?_, closingQuote_none ?_⟩
  · cases delimiter with
    | tab | semicolon | comma =>
        rw [Delimiter.separates, decide_eq_false_iff_not]
        rintro rfl
        revert codes
        decide
    | space => exact solid
  · simp only [List.mem_cons, List.not_mem_nil, or_false]
    omega

theorem plain_digit {c : Char} (digit : c.isDigit = true) : Plain c :=
  plain_of_alphanum (digit_alphanum digit)

theorem quote_solid {c closing : Char} (opens : closingQuote c = some closing) : isSpace c = false ∧ isSpace closing = false := by
  obtain ⟨code, code'⟩ := quote_codes opens
  simp only [List.mem_cons, List.not_mem_nil, or_false] at code code'
  constructor
  · rw [isSpace, decide_eq_false_iff_not]
    simp only [List.mem_cons, List.not_mem_nil, or_false]
    omega
  · rw [isSpace, decide_eq_false_iff_not]
    simp only [List.mem_cons, List.not_mem_nil, or_false]
    omega

theorem closing_alphanum {c closing : Char} (opens : closingQuote c = some closing) : closing.isAlphanum = false := by
  have code := (quote_codes opens).2
  simp only [List.mem_cons, List.not_mem_nil, or_false] at code
  cases alphanum : closing.isAlphanum with
  | false => rfl
  | true =>
      have codes := alphanum_codes alphanum
      omega

/-! ## Addresses -/

theorem address_base58 {text : Text} (address : isAddress text = true) : ∀ c ∈ text, isBase58Char c = true := by
  simp only [isAddress, decide_eq_true_eq] at address
  exact List.all_eq_true.mp address.2.2.1

theorem address_plain {text : Text} (address : isAddress text = true) : ∀ c ∈ text, Plain c :=
  fun c member => plain_of_alphanum (base58_alphanum (address_base58 address c member))

theorem address_ne_nil {text : Text} (address : isAddress text = true) : text ≠ [] := by
  rintro rfl
  cases address

theorem not_address_short {text : Text} (short : text.length < 32) : isAddress text = false := by
  rw [isAddress, decide_eq_false_iff_not]
  omega

theorem not_address_of_mem {text : Text} {c : Char} (member : c ∈ text) (other : c.isAlphanum = false) : isAddress text = false := by
  cases address : isAddress text with
  | false => rfl
  | true =>
      rw [base58_alphanum (address_base58 address c member)] at other
      cases other

theorem solid_of_forall {text : Text} (nonempty : text ≠ []) (solid : ∀ c ∈ text, isSpace c = false) : Solid text := by
  constructor
  · obtain ⟨c, rest, rfl⟩ := List.exists_cons_of_ne_nil nonempty
    exact ⟨c, rest, rfl, solid c List.mem_cons_self⟩
  · exact ⟨text.dropLast, text.getLast nonempty, (List.dropLast_append_getLast nonempty).symm, solid _ (List.getLast_mem nonempty)⟩

theorem address_solid {text : Text} (address : isAddress text = true) : Solid text :=
  solid_of_forall (address_ne_nil address) fun c member => (address_plain address c member).solid

/-! ## Going over a line -/

section scanning
variable {d : Delimiter}

theorem split_plain {chars : Text} (plain : ∀ c ∈ chars, d.separates c = false ∧ closingQuote c = none) (text : Text)
    (quoted : Bool) (rest : Text) :
    splitFrom d false none text quoted (chars ++ rest) = splitFrom d false none (text ++ chars) quoted rest := by
  induction chars generalizing text with
  | nil => rw [List.nil_append, List.append_nil]
  | cons c chars ih =>
      obtain ⟨⟨other, noQuote⟩, later⟩ := List.forall_mem_cons.mp plain
      rw [List.cons_append, splitFrom, noQuote, if_neg (by simp), if_neg (by rw [other]; exact Bool.false_ne_true),
        ih later, List.append_assoc, List.singleton_append]

theorem split_begun {chars : Text} (plain : ∀ c ∈ chars, d.separates c = false) {text : Text} {quoted : Bool} {s : Char}
    (member : s ∈ text) (solid : isSpace s = false) (rest : Text) :
    splitFrom d false none text quoted (chars ++ rest) = splitFrom d false none (text ++ chars) quoted rest := by
  induction chars generalizing text with
  | nil => rw [List.nil_append, List.append_nil]
  | cons c chars ih =>
      obtain ⟨other, later⟩ := List.forall_mem_cons.mp plain
      have begun : trim text ≠ [] := List.ne_nil_of_mem (mem_trim member solid)
      rw [List.cons_append, splitFrom, if_neg (fun quote => begun quote.2.2), if_neg (by rw [other]; exact Bool.false_ne_true),
        ih later (List.mem_append_left _ member), List.append_assoc, List.singleton_append]

theorem split_quoted {opening closing : Char} (opens : closingQuote opening = some closing) {text : Text} (outside : closing ∉ text)
    {blank : Text} (begins : trim blank = []) {rest : Text} (ends : rest.head? ≠ some doubleQuote) :
    splitFrom d false none blank false (opening :: (text ++ closing :: rest)) = splitFrom d false none text true rest := by
  have inside : ∀ chars : Text, closing ∉ chars → ∀ before, splitFrom d false (some closing) before true (chars ++ closing :: rest) =
      splitFrom d false none (before ++ chars) true rest := by
    intro chars absent
    induction chars with
    | nil =>
        intro before
        rw [List.nil_append, splitFrom, if_pos rfl, if_neg (fun both => ends both.2), List.append_nil]
    | cons c chars ih =>
        intro before
        rw [List.mem_cons, not_or] at absent
        rw [List.cons_append, splitFrom, if_neg (fun same => absent.1 same.symm), ih absent.2, List.append_assoc,
          List.singleton_append]
  rw [splitFrom, opens, if_pos ⟨rfl, rfl, begins⟩, inside text outside, List.nil_append]

theorem split_separator {c : Char} (separates : d.separates c = true) (noQuote : closingQuote c = none) (text : Text)
    (quoted : Bool) (rest : Text) :
    splitFrom d false none text quoted (c :: rest) = pushCell d text quoted ++ splitFrom d false none [] false rest := by
  rw [splitFrom, noQuote, if_neg (by simp), if_pos separates]

theorem pushCell_filled {text shown : Text} (trimmed : trim text = shown) (nonempty : shown ≠ []) (quoted : Bool) :
    pushCell d text quoted = [{ text := shown, quoted }] := by
  rw [pushCell, trimmed, if_pos (.inr (.inl nonempty))]

theorem split_end (text : Text) (quoted : Bool) : splitFrom d false none text quoted [] = pushCell d text quoted := by
  rw [splitFrom]

theorem split_whole (line : Text) (whole : ∀ c ∈ line, d.separates c = false) (skip : Bool) (closing : Option Char)
    (text : Text) (quoted : Bool) : (splitFrom d skip closing text quoted line).length ≤ 1 := by
  have pushed : ∀ (text : Text) (quoted : Bool), (pushCell d text quoted).length ≤ 1 := by
    intro text quoted
    unfold pushCell
    split <;> simp
  induction line generalizing skip closing text quoted with
  | nil => cases skip <;> cases closing <;> exact pushed text quoted
  | cons c line ih =>
      obtain ⟨other, later⟩ := List.forall_mem_cons.mp whole
      have next := ih later
      cases skip with
      | true => exact next false closing text quoted
      | false =>
          cases closing with
          | some closing =>
              rw [splitFrom]
              split
              · split
                · exact next _ _ _ _
                · exact next _ _ _ _
              · exact next _ _ _ _
          | none =>
              rw [splitFrom]
              split
              · exact next _ _ _ _
              · rw [if_neg (by rw [other]; exact Bool.false_ne_true)]
                exact next _ _ _ _

end scanning

end Mancipatio.Recipients
