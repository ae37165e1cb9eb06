import Mancipatio.Recipients.Cells

/-!
# Spelled numbers

A number is plain digits or groups of them with one separator, and may have a decimal part behind a point or a comma.
-/

namespace Mancipatio.Recipients
open Checked

def spell (sep : Char) (tail : Text) : Text → List Text → Text
  | first, [] => first ++ tail
  | first, group :: groups => first ++ sep :: spell sep tail group groups

structure Spelling where
  first : Text
  sep : Char
  groups : List Text
  point : Char
  decimals : Option Text
  deriving DecidableEq, Repr

def Spelling.tail (number : Spelling) : Text :=
  match number.decimals with
  | none => []
  | some decimals => number.point :: decimals

def Spelling.text (number : Spelling) : Text :=
  spell number.sep number.tail number.first number.groups

def Spelling.digits (number : Spelling) : Text :=
  number.first ++ number.groups.flatten

def Spelling.value (number : Spelling) : ℚ :=
  digitsValue number.digits + (number.decimals.map fun decimals => (digitsValue decimals : ℚ) / 10 ^ decimals.length).getD 0

def IsGroup (group : Text) : Prop :=
  group.length = 3 ∧ group.all Char.isDigit = true
  deriving Decidable

structure Spelling.Valid (number : Spelling) : Prop where
  first : isDigits number.first = true
  sep : isThousandsSeparator number.sep = true
  groups : ∀ group ∈ number.groups, IsGroup group
  short : number.groups ≠ [] → number.first.length ≤ 3
  point : number.point = '.' ∨ number.point = ','
  decimals : ∀ decimals ∈ number.decimals, isDigits decimals = true
  apart : number.groups ≠ [] → number.decimals ≠ none → number.sep ≠ number.point
  -- a comma and three digits make a group
  whole : number.groups = [] → number.first.length ≤ 3 → number.point = ',' → ∀ decimals ∈ number.decimals, decimals.length ≠ 3

/-! ## Digits -/

theorem isDigits_iff {text : Text} : isDigits text = true ↔ text ≠ [] ∧ ∀ c ∈ text, c.isDigit = true := by
  rw [isDigits, Bool.and_eq_true, Bool.not_eq_true', List.isEmpty_eq_false_iff, List.all_eq_true]

theorem IsGroup.digits {group : Text} (isGroup : IsGroup group) : isDigits group = true := by
  rw [isDigits_iff]
  refine ⟨?_, List.all_eq_true.mp isGroup.2⟩
  rintro rfl
  cases isGroup.1

theorem separator_cases {c : Char} (separator : isThousandsSeparator c = true) : c.toNat ∈ [44, 39, 0x2019, 0xa0, 0x202f, 32] := by
  simp only [isThousandsSeparator, thousandsSeparators, apostrophe, List.mem_cons, List.not_mem_nil, or_false,
    decide_eq_true_eq] at separator
  rcases separator with rfl | rfl | rfl | rfl | rfl | rfl <;> decide

theorem separator_not_digit {c : Char} (separator : isThousandsSeparator c = true) : c.isDigit = false := by
  have code := separator_cases separator
  simp only [List.mem_cons, List.not_mem_nil, or_false] at code
  cases digit : c.isDigit with
  | false => rfl
  | true =>
      have codes := digit_codes digit
      omega

theorem digit_not_separator {c : Char} (digit : c.isDigit = true) : isThousandsSeparator c = false := by
  cases separator : isThousandsSeparator c with
  | false => rfl
  | true =>
      rw [separator_not_digit separator] at digit
      cases digit

theorem takeWhile_digits {digits rest : Text} (all : ∀ c ∈ digits, c.isDigit = true) (ends : ∀ c ∈ rest.head?, c.isDigit = false) :
    (digits ++ rest).takeWhile Char.isDigit = digits ∧ (digits ++ rest).dropWhile Char.isDigit = rest := by
  rw [List.takeWhile_append_of_pos all, List.dropWhile_append_of_pos all]
  cases rest with
  | nil => exact ⟨List.append_nil _, rfl⟩
  | cons c rest =>
      have other : ¬c.isDigit = true := by
        rw [ends c rfl]
        exact Bool.false_ne_true
      rw [List.takeWhile_cons_of_neg other, List.dropWhile_cons_of_neg other, List.append_nil]
      exact ⟨rfl, rfl⟩

theorem digitsValue_append (front back : Text) : digitsValue (front ++ back) = digitsValue front * 10 ^ back.length + digitsValue back := by
  induction back using List.reverseRecOn with
  | nil => simp [digitsValue]
  | append_singleton back c ih =>
      have step : ∀ text : Text, digitsValue (text ++ [c]) = 10 * digitsValue text + (c.toNat - '0'.toNat) := by
        intro text
        rw [digitsValue, Nat.ofDigitChars_append, Nat.ofDigitChars_cons, Nat.ofDigitChars_nil, digitsValue]
      rw [← List.append_assoc, step, step, ih, List.length_append, List.length_singleton, pow_succ]
      ring

theorem digitsValue_lt {text : Text} (digits : ∀ c ∈ text, c.isDigit = true) : digitsValue text < 10 ^ text.length := by
  induction text using List.reverseRecOn with
  | nil => decide
  | append_singleton text c ih =>
      obtain ⟨early, late⟩ := List.forall_mem_append.mp digits
      have codes := digit_codes (late c List.mem_cons_self)
      have small : digitsValue [c] < 10 := by
        have zero : '0'.toNat = 48 := rfl
        rw [digitsValue, Nat.ofDigitChars_cons, Nat.ofDigitChars_nil, zero]
        omega
      have before := ih early
      rw [digitsValue_append, List.length_append, List.length_singleton, pow_one, pow_succ]
      omega

/-! ## Amounts -/

def Payable (amount : Nat) : Prop :=
  1 ≤ amount ∧ amount ≤ u64Max
  deriving Decidable

theorem readAmount_digits {text t : Text} (without : withoutThousands (trim text) = t) (digits : isDigits t = true) {n : Nat} :
    readAmount text = .ok n ↔ n = digitsValue t ∧ Payable n := by
  have whole : isDecimal t = false := by
    have rest := (@takeWhile_digits t [] (isDigits_iff.mp digits).2 (by simp)).2
    rw [List.append_nil] at rest
    rw [isDecimal, rest]
  simp only [readAmount, without, wholeTokens, digits, true_and, whole, bind_eq_ok, require_eq_ok, okOr_eq_ok, pure_eq_ok,
    Option.ite_none_right_eq_some, Option.some.injEq, exists_const]
  constructor
  · rintro ⟨_, ⟨small, rfl⟩, positive, rfl⟩
    exact ⟨rfl, positive, small⟩
  · rintro ⟨rfl, positive, small⟩
    exact ⟨_, ⟨small, rfl⟩, positive, rfl⟩

theorem readAmount_pos {text : Text} {amount : Nat} (read : readAmount text = .ok amount) : 1 ≤ amount := by
  simp only [readAmount, bind_eq_ok, require_eq_ok, pure_eq_ok, exists_const] at read
  obtain ⟨-, _, -, positive, rfl⟩ := read
  exact positive

theorem readAmount_refused {text t : Text} (without : withoutThousands (trim text) = t) (other : isDigits t = false) :
    ∃ e, readAmount text = .error e := by
  cases read : readAmount text with
  | error e => exact ⟨e, rfl⟩
  | ok n =>
      simp only [readAmount, without, wholeTokens, other, bind_eq_ok, require_eq_ok, okOr_eq_ok] at read
      obtain ⟨_, -, _, none, -⟩ := read
      simp at none

theorem plain_digits {text : Text} (digits : isDigits text = true) : withoutThousands (trim text) = text := by
  obtain ⟨nonempty, all⟩ := isDigits_iff.mp digits
  have solid := solid_of_forall nonempty fun c member => (plain_digit (all c member)).solid
  have rest := (@takeWhile_digits text [] all (by simp)).2
  rw [List.append_nil] at rest
  have single : isThousands text = false := by
    rw [isThousands, rest]
    simp
  rw [trim_solid solid, withoutThousands, single]
  rfl

section spelled
variable {sep : Char} {tail : Text}

theorem mem_spell {first : Text} {groups : List Text} {c : Char} (member : c ∈ spell sep tail first groups) :
    c ∈ first ∨ groups ≠ [] ∧ c = sep ∨ (∃ group ∈ groups, c ∈ group) ∨ c ∈ tail := by
  induction groups generalizing first with
  | nil =>
      rw [spell, List.mem_append] at member
      rcases member with member | member
      · exact .inl member
      · exact .inr (.inr (.inr member))
  | cons group groups ih =>
      rw [spell, List.mem_append, List.mem_cons] at member
      rcases member with member | rfl | member
      · exact .inl member
      · exact .inr (.inl ⟨by simp, rfl⟩)
      · rcases ih member with member | ⟨-, rfl⟩ | ⟨other, inside, member⟩ | member
        · exact .inr (.inr (.inl ⟨group, List.mem_cons_self, member⟩))
        · exact .inr (.inl ⟨by simp, rfl⟩)
        · exact .inr (.inr (.inl ⟨other, List.mem_cons_of_mem _ inside, member⟩))
        · exact .inr (.inr (.inr member))

theorem spell_head {first : Text} {groups : List Text} (digits : isDigits first = true) :
    ∃ c rest, spell sep tail first groups = c :: rest ∧ c.isDigit = true := by
  obtain ⟨nonempty, all⟩ := isDigits_iff.mp digits
  obtain ⟨c, rest, rfl⟩ := List.exists_cons_of_ne_nil nonempty
  cases groups <;> exact ⟨c, _, rfl, all c List.mem_cons_self⟩

theorem spell_last {first : Text} {groups : List Text} (digits : isDigits first = true) (isGroups : ∀ group ∈ groups, IsGroup group)
    (ends : tail = [] ∨ ∃ rest c, tail = rest ++ [c] ∧ c.isDigit = true) :
    ∃ rest c, spell sep tail first groups = rest ++ [c] ∧ c.isDigit = true := by
  induction groups generalizing first with
  | nil =>
      obtain rfl | ⟨rest, c, rfl, digit⟩ := ends
      · obtain ⟨nonempty, all⟩ := isDigits_iff.mp digits
        refine ⟨first.dropLast, first.getLast nonempty, ?_, all _ (List.getLast_mem nonempty)⟩
        rw [spell, List.append_nil, List.dropLast_append_getLast]
      · exact ⟨first ++ rest, c, by rw [spell, List.append_assoc], digit⟩
  | cons group groups ih =>
      obtain ⟨isGroup, others⟩ := List.forall_mem_cons.mp isGroups
      obtain ⟨rest, c, spelled, digit⟩ := ih isGroup.digits others
      exact ⟨first ++ sep :: rest, c, by rw [spell, spelled, List.append_assoc, List.cons_append], digit⟩

theorem isGroups_spell (separator : isThousandsSeparator sep = true) {group : Text} {groups : List Text}
    (isGroup : IsGroup group) (others : ∀ group ∈ groups, IsGroup group) :
    isGroups (sep :: spell sep tail group groups) = isGroups tail := by
  induction groups generalizing group with
  | nil =>
      obtain ⟨length, digits⟩ := isGroup
      match group, length with
      | [a, b, c], _ =>
          simp only [List.all_cons, List.all_nil, Bool.and_true, Bool.and_eq_true] at digits
          simp [spell, isGroups, separator, digits]
  | cons next groups ih =>
      obtain ⟨length, digits⟩ := isGroup
      obtain ⟨isGroup', others'⟩ := List.forall_mem_cons.mp others
      match group, length with
      | [a, b, c], _ =>
          simp only [List.all_cons, List.all_nil, Bool.and_true, Bool.and_eq_true] at digits
          simp [spell, isGroups, separator, digits, ih isGroup' others']

theorem isGroups_head {c : Char} {rest : Text} (groups : isGroups (c :: rest) = true) : isThousandsSeparator c = true := by
  match rest with
  | [] | [_] | [_, _] => simp [isGroups] at groups
  | a :: b :: d :: rest =>
      simp only [isGroups, Bool.and_eq_true] at groups
      exact groups.1.1.1.1

theorem isGroups_digits {c : Char} {digits : Text} (all : ∀ c ∈ digits, c.isDigit = true) :
    isGroups (c :: digits) = true ↔ isThousandsSeparator c = true ∧ digits.length = 3 := by
  match digits with
  | [] | [_] | [_, _] => simp [isGroups]
  | [a, b, d] =>
      simp only [List.forall_mem_cons] at all
      simp [isGroups, all]
  | a :: b :: d :: e :: rest =>
      have digit := digit_not_separator (all e (by simp))
      have last : isGroups (e :: rest) = false := by
        cases groups : isGroups (e :: rest) with
        | false => rfl
        | true =>
            rw [isGroups_head groups] at digit
            cases digit
      simp [isGroups, last]

theorem filter_spell (separator : isThousandsSeparator sep = true) {first : Text} {groups : List Text}
    (digits : ∀ c ∈ first, c.isDigit = true) (isGroups : ∀ group ∈ groups, IsGroup group) :
    (spell sep tail first groups).filter (fun c => !isThousandsSeparator c) =
      first ++ groups.flatten ++ tail.filter (fun c => !isThousandsSeparator c) := by
  have kept : ∀ text : Text, (∀ c ∈ text, c.isDigit = true) → text.filter (fun c => !isThousandsSeparator c) = text := by
    intro text all
    rw [List.filter_eq_self]
    intro c member
    rw [digit_not_separator (all c member), Bool.not_false]
  induction groups generalizing first with
  | nil => rw [spell, List.filter_append, kept first digits, List.flatten_nil, List.append_nil]
  | cons group groups ih =>
      obtain ⟨isGroup, others⟩ := List.forall_mem_cons.mp isGroups
      rw [spell, List.filter_append, kept first digits, List.filter_cons_of_neg (by rw [separator]; exact Bool.false_ne_true),
        ih (List.all_eq_true.mp isGroup.2) others, List.flatten_cons]
      simp only [List.append_assoc]

end spelled

/-! ## A number in one cell -/

section valid
variable {number : Spelling}

theorem Spelling.tail_none (none' : number.decimals = none) : number.tail = [] := by
  rw [Spelling.tail, none']

theorem Spelling.tail_some {decimals : Text} (found : number.decimals = some decimals) : number.tail = number.point :: decimals := by
  rw [Spelling.tail, found]

theorem Spelling.Valid.tail_ends (valid : number.Valid) : number.tail = [] ∨ ∃ rest c, number.tail = rest ++ [c] ∧ c.isDigit = true := by
  cases decimals : number.decimals with
  | none => exact .inl (Spelling.tail_none decimals)
  | some digits =>
      obtain ⟨nonempty, all⟩ := isDigits_iff.mp (valid.decimals digits decimals)
      refine .inr ⟨number.point :: digits.dropLast, digits.getLast nonempty, ?_, all _ (List.getLast_mem nonempty)⟩
      rw [Spelling.tail_some decimals, List.cons_append, List.dropLast_append_getLast]

theorem Spelling.Valid.point_other (valid : number.Valid) : number.point.isAlphanum = false ∧ isSpace number.point = false := by
  rcases valid.point with point | point <;> rw [point] <;> decide

theorem not_digit_of_alphanum {c : Char} (other : c.isAlphanum = false) : c.isDigit = false := by
  cases digit : c.isDigit with
  | false => rfl
  | true =>
      rw [digit_alphanum digit] at other
      cases other

theorem Spelling.Valid.solid (valid : number.Valid) : Solid number.text := by
  constructor
  · obtain ⟨c, rest, spelled, digit⟩ := @spell_head number.sep number.tail number.first number.groups valid.first
    exact ⟨c, rest, spelled, (plain_digit digit).solid⟩
  · obtain ⟨rest, c, spelled, digit⟩ := @spell_last number.sep number.tail number.first number.groups valid.first valid.groups
      valid.tail_ends
    exact ⟨rest, c, spelled, (plain_digit digit).solid⟩

theorem Spelling.Valid.digits (valid : number.Valid) : isDigits number.digits = true := by
  obtain ⟨nonempty, all⟩ := isDigits_iff.mp valid.first
  rw [isDigits_iff]
  refine ⟨?_, ?_⟩
  · rw [Spelling.digits]
    simp [nonempty]
  · intro c member
    rcases List.mem_append.mp member with member | member
    · exact all c member
    · obtain ⟨group, inside, member⟩ := List.mem_flatten.mp member
      exact List.all_eq_true.mp (valid.groups group inside).2 c member

theorem Spelling.Valid.tail_head (valid : number.Valid) : ∀ c ∈ number.tail.head?, c.isDigit = false := by
  cases decimals : number.decimals with
  | none => simp [Spelling.tail_none decimals]
  | some digits =>
      rw [Spelling.tail_some decimals]
      simpa using not_digit_of_alphanum valid.point_other.1

theorem Spelling.Valid.isGroups_tail (valid : number.Valid) :
    isGroups number.tail = true ↔ ∀ decimals ∈ number.decimals, number.point = ',' ∧ decimals.length = 3 := by
  cases decimals : number.decimals with
  | none => simp [Spelling.tail_none decimals, isGroups]
  | some digits =>
      have separator : isThousandsSeparator number.point = true ↔ number.point = ',' := by
        rcases valid.point with point | point <;> rw [point] <;> decide
      rw [Spelling.tail_some decimals, isGroups_digits (isDigits_iff.mp (valid.decimals digits decimals)).2, separator]
      simp

theorem Spelling.Valid.isThousands_iff (valid : number.Valid) :
    isThousands number.text = true ↔ number.groups ≠ [] ∧ isGroups number.tail = true := by
  obtain ⟨nonempty, all⟩ := isDigits_iff.mp valid.first
  have length : 1 ≤ number.first.length := List.length_pos_iff.mpr nonempty
  rw [Spelling.text]
  cases spelled : number.groups with
  | nil =>
      obtain ⟨taken, left⟩ := takeWhile_digits all valid.tail_head
      rw [spell, isThousands, taken, left]
      cases decimals : number.decimals with
      | none => simp [Spelling.tail_none decimals]
      | some digits =>
          refine iff_of_false ?_ fun both => both.1 rfl
          intro thousands
          simp only [Bool.and_eq_true, decide_eq_true_eq] at thousands
          obtain ⟨point, three⟩ := valid.isGroups_tail.mp thousands.2 digits decimals
          exact valid.whole spelled thousands.1.1.2 point digits decimals three
  | cons group groups =>
      have starts : ∀ c ∈ (number.sep :: spell number.sep number.tail group groups).head?, c.isDigit = false := by
        simp only [List.head?_cons, Option.mem_def, Option.some.injEq, forall_eq']
        exact separator_not_digit valid.sep
      obtain ⟨taken, left⟩ := takeWhile_digits all starts
      have short := valid.short (by rw [spelled]; simp)
      obtain ⟨isGroup, others⟩ := List.forall_mem_cons.mp (spelled ▸ valid.groups)
      rw [spell, isThousands, taken, left, isGroups_spell valid.sep isGroup others]
      simp [length, short]

theorem Spelling.Valid.without_whole (valid : number.Valid) (whole : number.decimals = none) :
    withoutThousands (trim number.text) = number.digits := by
  rw [trim_solid valid.solid]
  have tail := Spelling.tail_none whole
  by_cases groups : number.groups = []
  · have text : number.text = number.first := by
      rw [Spelling.text, groups, spell, tail, List.append_nil]
    rw [text, Spelling.digits, groups, List.flatten_nil, List.append_nil]
    have plain := plain_digits valid.first
    rwa [trim_solid (text ▸ valid.solid)] at plain
  · have thousands := valid.isThousands_iff.mpr ⟨groups, by rw [tail]; rfl⟩
    rw [withoutThousands, if_pos thousands, Spelling.text, filter_spell valid.sep (isDigits_iff.mp valid.first).2 valid.groups, tail,
      List.filter_nil, List.append_nil]
    rfl

theorem Spelling.Valid.without_mixed (valid : number.Valid) {decimals : Text} (found : number.decimals = some decimals)
    (groups : number.groups ≠ []) (comma : number.point = ',') (three : decimals.length = 3) :
    withoutThousands (trim number.text) = number.digits ++ decimals := by
  have digits := (isDigits_iff.mp (valid.decimals decimals found)).2
  have thousands := valid.isThousands_iff.mpr ⟨groups, valid.isGroups_tail.mpr fun other same => by
    obtain rfl := Option.some.inj (found.symm.trans same)
    exact ⟨comma, three⟩⟩
  have kept : decimals.filter (fun c => !isThousandsSeparator c) = decimals := by
    rw [List.filter_eq_self]
    intro c member
    rw [digit_not_separator (digits c member), Bool.not_false]
  rw [trim_solid valid.solid, withoutThousands, if_pos thousands, Spelling.text,
    filter_spell valid.sep (isDigits_iff.mp valid.first).2 valid.groups, Spelling.tail_some found, comma,
    List.filter_cons_of_neg (by decide), kept]
  rfl

theorem Spelling.point_mem {decimals : Text} (found : number.decimals = some decimals) : number.point ∈ number.text := by
  rw [Spelling.text, Spelling.tail_some found]
  generalize number.first = first
  induction number.groups generalizing first with
  | nil => simp [spell]
  | cons group groups ih => simp [spell, ih]

theorem Spelling.Valid.refused (valid : number.Valid) {decimals : Text} (found : number.decimals = some decimals)
    (other : ¬(number.groups ≠ [] ∧ number.point = ',' ∧ decimals.length = 3)) : ∃ e, readAmount number.text = .error e := by
  have without : withoutThousands (trim number.text) = number.text := by
    rw [trim_solid valid.solid, withoutThousands, if_neg]
    rw [valid.isThousands_iff, valid.isGroups_tail]
    rintro ⟨groups, group⟩
    exact other ⟨groups, group decimals found⟩
  apply readAmount_refused without
  cases digits : isDigits number.text with
  | false => rfl
  | true =>
      have point := (isDigits_iff.mp digits).2 _ (Spelling.point_mem found)
      rw [not_digit_of_alphanum valid.point_other.1] at point
      cases point

/-! ## The part before the decimals -/

def Spelling.integer (number : Spelling) : Spelling :=
  { number with decimals := none }

theorem Spelling.Valid.integer (valid : number.Valid) : number.integer.Valid where
  first := valid.first
  sep := valid.sep
  groups := valid.groups
  short := valid.short
  point := valid.point
  decimals := by simp [Spelling.integer]
  apart := by simp [Spelling.integer]
  whole := by simp [Spelling.integer]

theorem spell_append (sep : Char) (tail first : Text) (groups : List Text) :
    spell sep tail first groups = spell sep [] first groups ++ tail := by
  induction groups generalizing first with
  | nil => rw [spell, spell, List.append_nil]
  | cons group groups ih => rw [spell, spell, ih, List.append_assoc, List.cons_append]

theorem Spelling.text_some {decimals : Text} (found : number.decimals = some decimals) :
    number.text = number.integer.text ++ number.point :: decimals := by
  rw [Spelling.text, Spelling.tail_some found, spell_append]
  rfl

theorem Spelling.value_whole (whole : number.decimals = none) : number.value = digitsValue number.digits := by
  rw [Spelling.value, whole]
  simp

theorem Spelling.value_some {decimals : Text} (found : number.decimals = some decimals) :
    number.value = digitsValue number.digits + (digitsValue decimals : ℚ) / 10 ^ decimals.length := by
  rw [Spelling.value, found, Option.map_some, Option.getD_some]

end valid

end Mancipatio.Recipients
