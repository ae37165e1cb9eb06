import Mancipatio.Library.Doubles
import Mancipatio.Library.Intervals
import Mancipatio.Texts

/-!
# Reading the text of an interval
-/

namespace Mancipatio.FxRates
open Doubles Intervals

def splitSpace (text : List Char) : List (List Char) :=
  match (text.splitOnP isSpace).filter (· ≠ []) with
  | [] => [[]]
  | parts => parts

def isNumber (text : List Char) : Bool :=
  !text.isEmpty && text.all Char.isDigit

def numberOf (digits : List Char) : Nat :=
  Nat.ofDigitChars 10 digits 0

/-! ## The two forms -/

def number (whole : List Char) (part : ℚ) : Double :=
  .ofRat (numberOf whole + part)

def isoGroup (unit : Char) (text : List Char) : Double × List Char :=
  match text.takeWhile Char.isDigit, text.dropWhile Char.isDigit with
  | _ :: _, c :: rest => if c = unit then (number (text.takeWhile Char.isDigit) 0, rest) else (0, text)
  | _, _ => (0, text)

def fraction : List Char → Option ℚ
  | [] => some 0
  | '.' :: digits => if isNumber digits = true then some (numberOf digits / 10 ^ digits.length) else none
  | _ => none

def isoSeconds (text : List Char) : Option Double :=
  match text.getLast? with
  | none => some 0
  | some last =>
      let body := text.dropLast
      let whole := body.takeWhile Char.isDigit
      if last = 'S' ∧ whole ≠ [] then (fraction (body.dropWhile Char.isDigit)).map (number whole)
      else none

def isoTime : List Char → Option (Double × Double × Double)
  | [] => some (0, 0, 0)
  | 'T' :: text =>
      let (h, text) := isoGroup 'H' text
      let (mi, text) := isoGroup 'M' text
      (isoSeconds text).map fun s => (h, mi, s)
  | _ => none

def isoInterval : List Char → Option Double
  | 'P' :: text =>
      let (y, text) := isoGroup 'Y' text
      let (mo, text) := isoGroup 'M' text
      let (w, text) := isoGroup 'W' text
      let (d, text) := isoGroup 'D' text
      (isoTime text).map fun (h, mi, s) =>
        y * 365 * 86400 + mo * 30 * 86400 + w * 7 * 86400 + d * 86400 + h * 3600 + mi * 60 + s
  | _ => none

def intervalUnits : List (String × Nat) :=
  [("year", 365 * 86400), ("years", 365 * 86400), ("mon", 30 * 86400), ("mons", 30 * 86400), ("day", 86400),
    ("days", 86400)]

/-- Adds up the leading pairs of a number and a unit: the seconds, how many words the pairs are, and the words left. -/
def unitPairs (seconds : Double) : List (List Char) → Double × Nat × List (List Char)
  | digits :: unit :: rest =>
      match if isNumber digits = true then intervalUnits.lookup (String.ofList unit) else none with
      | some length =>
          let (total, i, left) := unitPairs (seconds + number digits 0 * (length : Double)) rest
          (total, i + 2, left)
      | none => (seconds, 0, digits :: unit :: rest)
  | parts => (seconds, 0, parts)

def clockSeconds (text : List Char) : Option Double :=
  let hours := text.takeWhile Char.isDigit
  match text.dropWhile Char.isDigit with
  | ':' :: m₁ :: m₂ :: ':' :: s₁ :: s₂ :: rest =>
      if isNumber hours = true ∧ isNumber [m₁, m₂] = true ∧ isNumber [s₁, s₂] = true then
        (fraction rest).map fun part => number hours 0 * 3600 + number [m₁, m₂] 0 * 60 + number [s₁, s₂] part
      else none
  | _ => none

def wordsSeconds (parts : List (List Char)) : Option Double :=
  let (seconds, i, rest) := unitPairs 0 parts
  match rest with
  | [clock] => (clockSeconds clock).map fun time => seconds + time
  | [] => if i = 0 then none else some seconds
  | _ => none

/-- `none` where the text is no positive interval in either form. -/
def intervalSeconds (value : String) : Option Double :=
  let text := trim value.toList
  let iso := if text ≠ ['P'] ∧ text.getLast? ≠ some 'T' then isoInterval text else none
  (iso <|> wordsSeconds (splitSpace text)).filter fun total => total.isFinite && decide (0 < total)

example : intervalSeconds "00:00:02.007" = some (.ofRat (2007 / 1000)) ∧ intervalSeconds "P1DT0.5S" = some (.ofRat (172801 / 2)) := by
  decide +kernel

/-! ## The words of a text -/

section words
variable {parts : List (List Char)}

theorem join_ne_nil {part : List Char} (rest : List (List Char)) (nonempty : part ≠ []) :
    [' '].intercalate (part :: rest) ≠ [] := by
  cases rest with
  | nil => simpa [List.intercalate] using nonempty
  | cons next rest => simp [List.intercalate, List.intersperse]

theorem join_cons (first next : List Char) (rest : List (List Char)) :
    [' '].intercalate (first :: next :: rest) = first ++ ' ' :: [' '].intercalate (next :: rest) := by
  simp [List.intercalate, List.intersperse]

theorem trim_join (nonempty : ∀ w ∈ parts, w ≠ []) (solid : ∀ w ∈ parts, ∀ c ∈ w, isSpace c = false) :
    trim ([' '].intercalate parts) = [' '].intercalate parts := by
  have front : ([' '].intercalate parts).dropWhile isSpace = [' '].intercalate parts := by
    cases parts with
    | nil => rfl
    | cons first rest =>
        obtain ⟨c, cs, rfl⟩ := List.exists_cons_of_ne_nil (nonempty first (by simp))
        have plain := solid (c :: cs) (by simp) c (by simp)
        cases rest with
        | nil => simp [List.intercalate, plain]
        | cons next rest => rw [join_cons, List.cons_append, List.dropWhile_cons_of_neg (by simp [plain])]
  rw [trim, front, List.rdropWhile_eq_self_iff]
  clear front
  intro some
  induction parts with
  | nil => exact absurd rfl some
  | cons first rest ih =>
      cases rest with
      | nil =>
          have plain := solid first (by simp)
          have single : [' '].intercalate [first] = first := by simp [List.intercalate]
          simp only [single]
          simp [plain _ (List.getLast_mem _)]
      | cons next rest =>
          have inner := join_ne_nil rest (nonempty next (by simp))
          have later := ih (fun w member => nonempty w (List.mem_cons_of_mem _ member))
            (fun w member => solid w (List.mem_cons_of_mem _ member)) inner
          simp only [join_cons]
          rwa [List.getLast_append_right (List.cons_ne_nil _ _), List.getLast_cons inner]

theorem splitSpace_join (some : parts ≠ []) (nonempty : ∀ w ∈ parts, w ≠ [])
    (solid : ∀ w ∈ parts, ∀ c ∈ w, isSpace c = false) : splitSpace ([' '].intercalate parts) = parts := by
  have split : ([' '].intercalate parts).splitOnP isSpace = parts := by
    induction parts with
    | nil => exact absurd rfl some
    | cons first rest ih =>
        cases rest with
        | nil =>
            have single : [' '].intercalate [first] = first := by simp [List.intercalate]
            rw [single, List.splitOnP_eq_singleton (solid first (by simp))]
        | cons next rest =>
            rw [join_cons, List.splitOnP_append_cons_of_forall_mem (solid first (by simp)) ' ' (by decide),
              ih (by simp) (fun w member => nonempty w (List.mem_cons_of_mem _ member))
                (fun w member => solid w (List.mem_cons_of_mem _ member))]
  have kept : parts.filter (· ≠ []) = parts := by
    rw [List.filter_eq_self]
    simpa using nonempty
  rw [splitSpace, split, kept]
  cases parts with
  | nil => exact absurd rfl some
  | cons => rfl

end words

/-! ## What the database writes -/

section written

def Solid (text : List Char) : Prop :=
  ∀ c ∈ text, isSpace c = false ∧ c ≠ 'P'

theorem solid_digits {text : List Char} (digits : ∀ c ∈ text, c.isDigit = true) : Solid text := by
  intro c member
  have bounds : 48 ≤ c.toNat ∧ c.toNat ≤ 57 := by
    simpa [Char.isDigit, UInt32.le_iff_toNat_le] using digits c member
  have table : ∀ n, 48 ≤ n → n ≤ 57 → isSpace (Char.ofNat n) = false ∧ Char.ofNat n ≠ 'P' := by
    intro n low high
    interval_cases n <;> decide
  simpa [Char.ofNat_toNat] using table c.toNat bounds.1 bounds.2

theorem solid_append {first rest : List Char} (front : Solid first) (back : Solid rest) : Solid (first ++ rest) := by
  intro c member
  exact (List.mem_append.mp member).elim (front c) (back c)

theorem digits_toDigits (n : Nat) : ∀ c ∈ Nat.toDigits 10 n, c.isDigit = true :=
  fun _ member => Nat.isDigit_of_mem_toDigits (by decide) (by decide) member

theorem isDigit_digitChar {d : Nat} (small : d < 10) : (Nat.digitChar d).isDigit = true := by
  have table : ∀ d < 10, (Nat.digitChar d).isDigit = true := by decide
  exact table d small

theorem digits_twoDigits (n : Nat) : ∀ c ∈ twoDigits n, c.isDigit = true := by
  simp only [twoDigits, List.forall_mem_cons, List.not_mem_nil, false_implies, implies_true, and_true]
  exact ⟨isDigit_digitChar (Nat.mod_lt _ (by decide)), isDigit_digitChar (Nat.mod_lt _ (by decide))⟩

theorem digits_sixDigits (n : Nat) : ∀ c ∈ sixDigits n, c.isDigit = true := by
  intro c member
  simp only [sixDigits, List.mem_append] at member
  rcases member with (member | member) | member <;> exact digits_twoDigits _ c member

theorem digits_hoursText (hours : Nat) : ∀ c ∈ hoursText hours, c.isDigit = true := by
  unfold hoursText
  split
  · rw [List.forall_mem_cons]
    exact ⟨rfl, digits_toDigits hours⟩
  · exact digits_toDigits hours

theorem solid_fractionText (micros : Nat) : Solid (fractionText micros) := by
  unfold fractionText
  split
  · simp [Solid]
  · apply @solid_append ['.']
    · simp only [Solid, List.forall_mem_singleton]
      decide
    · apply solid_digits
      intro c member
      exact digits_sixDigits micros c ((List.rdropWhile_prefix _ _).subset member)

theorem solid_clockText (micros : Nat) : Solid (clockText micros) := by
  have colon : Solid [':'] := by
    simp only [Solid, List.forall_mem_singleton]
    decide
  exact solid_append (solid_append (solid_append (solid_digits (digits_hoursText _)) (solid_append colon (solid_digits (digits_twoDigits _))))
    (solid_append colon (solid_digits (digits_twoDigits _)))) (solid_fractionText _)

theorem solid_sign (chosen : Prop) [Decidable chosen] {sign : Char} (symbol : sign = '-' ∨ sign = '+') :
    Solid (if chosen then [sign] else []) := by
  split
  · simp only [Solid, List.forall_mem_singleton]
    rcases symbol with rfl | rfl <;> decide
  · simp [Solid]

theorem words_solid (interval : Interval) : ∀ w ∈ words interval, w ≠ [] ∧ Solid w := by
  have fields : ∀ value before, ∀ unit ∈ ["year", "mon", "day"], ∀ w ∈ fieldWords value unit before,
      w ≠ [] ∧ Solid w := by
    intro value before unit known w member
    unfold fieldWords at member
    split at member
    · simp at member
    · have named : unit.toList ≠ [] ∧ Solid unit.toList := by
        simp only [List.mem_cons, List.not_mem_nil, or_false] at known
        rcases known with rfl | rfl | rfl <;> simp [Solid] <;> decide
      simp only [List.mem_cons, List.not_mem_nil, or_false] at member
      rcases member with rfl | rfl
      · refine ⟨by simp [signed, Nat.toDigits_ne_nil], solid_append ?_ (solid_digits (digits_toDigits _))⟩
        split
        · exact solid_sign True (.inl rfl)
        · exact solid_sign _ (.inr rfl)
      · refine ⟨by simp [named.1], solid_append named.2 ?_⟩
        split
        · simp [Solid]
        · simp only [Solid, List.forall_mem_singleton]
          decide
  cases interval with
  | infinity =>
      have spelled : "infinity".toList = ['i', 'n', 'f', 'i', 'n', 'i', 't', 'y'] := by simp
      simp only [words, List.forall_mem_singleton, spelled, Solid, List.forall_mem_cons]
      decide
  | finite months days micros =>
      intro w member
      simp only [words, List.mem_append] at member
      rcases member with ((member | member) | member) | member
      · exact fields _ _ _ (by simp) w member
      · exact fields _ _ _ (by simp) w member
      · exact fields _ _ _ (by simp) w member
      · split at member
        · rw [List.mem_singleton] at member
          subst member
          refine ⟨by simp [clockWord, clockText], solid_append ?_ (solid_clockText _)⟩
          split
          · exact solid_sign True (.inl rfl)
          · exact solid_sign _ (.inr rfl)
        · simp at member

theorem words_ne_nil (interval : Interval) : words interval ≠ [] := by
  cases interval with
  | infinity => simp [words]
  | finite months days micros =>
      intro none
      simp only [words, List.append_eq_nil_iff] at none
      obtain ⟨⟨⟨years, months⟩, days⟩, clock⟩ := none
      unfold fieldWords at years months days
      split at clock
      · simp at clock
      · next written =>
          grind

/-- The reader sees the words that the database wrote, and no text of the other form. -/
theorem intervalSeconds_words (interval : Interval) :
    intervalSeconds (text interval) =
      (wordsSeconds (words interval)).filter fun total => total.isFinite && decide (0 < total) := by
  have solid := words_solid interval
  have some := words_ne_nil interval
  have trimmed := trim_join (fun w member => (solid w member).1) (fun w member c inside => ((solid w member).2 c inside).1)
  have split := splitSpace_join some (fun w member => (solid w member).1)
    (fun w member c inside => ((solid w member).2 c inside).1)
  have other : isoInterval ([' '].intercalate (words interval)) = none := by
    generalize words interval = parts at solid some
    cases parts with
    | nil => exact absurd rfl some
    | cons first rest =>
        obtain ⟨c, cs, rfl⟩ := List.exists_cons_of_ne_nil (solid first (by simp)).1
        have plain := ((solid (c :: cs) (by simp)).2 c (by simp)).2
        cases rest with
        | nil => simp [List.intercalate, isoInterval, plain]
        | cons next rest =>
            rw [join_cons, List.cons_append]
            simp [isoInterval, plain]
  simp only [intervalSeconds, text, String.toList_ofList, trimmed, split, other, ite_self]
  rfl

end written

/-! ## What the server reads -/

section read

theorem isNumber_of_digits {text : List Char} (nonempty : text ≠ []) (digits : ∀ c ∈ text, c.isDigit = true) :
    isNumber text = true := by
  simpa [isNumber, nonempty] using digits

theorem numberOf_toDigits (n : Nat) : numberOf (Nat.toDigits 10 n) = n :=
  Nat.ofDigitChars_toDigits (by decide) (by decide)

theorem digitChar_value {d : Nat} (small : d < 10) : (Nat.digitChar d).toNat - '0'.toNat = d := by
  have table : ∀ d < 10, (Nat.digitChar d).toNat - '0'.toNat = d := by decide
  exact table d small

theorem ofDigitChars_twoDigits (n before : Nat) : Nat.ofDigitChars 10 (twoDigits n) before = 100 * before + n % 100 := by
  simp only [twoDigits, Nat.ofDigitChars_cons, Nat.ofDigitChars_nil, digitChar_value (Nat.mod_lt _ (show 10 > 0 by decide))]
  omega

theorem numberOf_sixDigits {n : Nat} (small : n < 1000000) : numberOf (sixDigits n) = n := by
  simp only [numberOf, sixDigits, Nat.ofDigitChars_append, ofDigitChars_twoDigits]
  omega

theorem numberOf_hoursText (hours : Nat) : numberOf (hoursText hours) = hours := by
  unfold hoursText
  split
  · exact numberOf_toDigits hours
  · exact numberOf_toDigits hours

theorem fraction_fractionText {micros : Nat} (small : micros < 1000000) :
    fraction (fractionText micros) = some (micros / 1000000 : ℚ) := by
  unfold fractionText
  split
  · next none => simp [fraction, none]
  · next some =>
      have whole := @List.rdropWhile_append_rtakeWhile _ (· = '0') (sixDigits micros)
      have zeros : (sixDigits micros).rtakeWhile (· = '0') =
          List.replicate ((sixDigits micros).rtakeWhile (· = '0')).length '0' := by
        apply List.eq_replicate_of_mem
        intro c member
        have zero := @List.mem_rtakeWhile_imp _ (· = '0') _ _ member
        exact of_decide_eq_true zero
      generalize (sixDigits micros).rtakeWhile (· = '0') = dropped at whole zeros
      have digits : ∀ c ∈ (sixDigits micros).rdropWhile (· = '0'), c.isDigit = true := by
        intro c member
        exact digits_sixDigits micros c ((List.rdropWhile_prefix _ _).subset member)
      generalize (sixDigits micros).rdropWhile (· = '0') = kept at whole digits ⊢
      have value : 10 ^ dropped.length * numberOf kept = micros := by
        have read : numberOf (kept ++ dropped) = micros := whole ▸ numberOf_sixDigits small
        rw [zeros] at read
        rw [← read, numberOf, numberOf, Nat.ofDigitChars_append, Nat.ofDigitChars_replicate_zero]
      have size : dropped.length + kept.length = 6 := by
        have length := congrArg List.length whole
        rw [List.length_append] at length
        rw [Nat.add_comm, length]
        rfl
      have nonempty : kept ≠ [] := by
        rintro rfl
        exact some (by rw [← value]; rfl)
      rw [fraction, if_pos (isNumber_of_digits nonempty digits)]
      congr 1
      have scale : (10 : ℚ) ^ dropped.length * 10 ^ kept.length = 1000000 := by
        rw [← pow_add, size]
        norm_num
      have exact : (10 : ℚ) ^ dropped.length * numberOf kept = micros := by
        exact_mod_cast value
      rw [← exact, ← scale]
      field_simp

theorem number_zero (digits : List Char) : number digits 0 = (numberOf digits : Double) := by
  rw [number, Rat.add_zero]
  rfl

def countedClock (micros : Int) : Double :=
  ((micros / 3600000000 : Int) : Double) * 3600 + ((micros / 60000000 % 60 : Int) : Double) * 60 +
    .ofRat ((micros % 60000000 : Int) / 1000000)

theorem clockSeconds_clockText (micros : Nat) : clockSeconds (clockText micros) = some (countedClock micros) := by
  have hours := digits_hoursText (micros / 3600000000)
  have nonempty : hoursText (micros / 3600000000) ≠ [] := by
    unfold hoursText
    split <;> simp [Nat.toDigits_ne_nil]
  have minutes := isNumber_of_digits (List.cons_ne_nil _ _) (digits_twoDigits (micros / 60000000 % 60))
  have seconds := isNumber_of_digits (List.cons_ne_nil _ _) (digits_twoDigits (micros / 1000000 % 60))
  have part := fraction_fractionText (Nat.mod_lt micros (show 1000000 > 0 by decide))
  have front : (clockText micros).takeWhile Char.isDigit = hoursText (micros / 3600000000) := by
    simp only [clockText, List.append_assoc, List.takeWhile_append_of_pos hours, List.cons_append]
    rw [List.takeWhile_cons_of_neg (by decide), List.append_nil]
  have back : (clockText micros).dropWhile Char.isDigit =
      ':' :: (twoDigits (micros / 60000000 % 60) ++ ':' :: (twoDigits (micros / 1000000 % 60) ++
        fractionText (micros % 1000000))) := by
    simp only [clockText, List.append_assoc, List.dropWhile_append_of_pos hours, List.cons_append]
    rw [List.dropWhile_cons_of_neg (by decide)]
  have shown (n : Nat) (small : n < 100) : numberOf (twoDigits n) = n := by
    rw [numberOf, ofDigitChars_twoDigits, Nat.mod_eq_of_lt small, Nat.mul_zero, Nat.zero_add]
  have minute := shown (micros / 60000000 % 60) (by omega)
  have second := shown (micros / 1000000 % 60) (by omega)
  have exact : ((micros / 1000000 % 60 : Nat) : ℚ) + (micros % 1000000 : Nat) / 1000000 = ((micros % 60000000 : Int) : ℚ) / 1000000 := by
    have total : micros / 1000000 % 60 * 1000000 + micros % 1000000 = micros % 60000000 := by omega
    have cast : (micros / 1000000 % 60 : Nat) * (1000000 : ℚ) + (micros % 1000000 : Nat) = ((micros % 60000000 : Int) : ℚ) := by
      rw [show (micros : Int) % 60000000 = (micros % 60000000 : Nat) from rfl, Int.cast_natCast]
      exact_mod_cast total
    rw [← cast]
    field_simp
  have last : number (twoDigits (micros / 1000000 % 60)) ((micros % 1000000 : Nat) / 1000000) =
      .ofRat ((micros % 60000000 : Int) / 1000000) := by
    rw [number, second, exact]
  have hour : (micros : Int) / 3600000000 = (micros / 3600000000 : Nat) := rfl
  have sixty : (micros : Int) / 60000000 % 60 = (micros / 60000000 % 60 : Nat) := rfl
  rw [countedClock, hour, sixty, Double.intCast_natCast, Double.intCast_natCast]
  unfold twoDigits at back minutes seconds minute last
  simp only [List.cons_append, List.nil_append] at back
  simp only [clockSeconds, front, back, isNumber_of_digits nonempty hours, minutes, seconds, part, and_self, if_true,
    Option.map_some, number_zero, numberOf_hoursText, minute, last]

def unitNames : List (String × Nat) :=
  [("year", 365 * 86400), ("mon", 30 * 86400), ("day", 86400)]

theorem isBefore_nonneg {value : Int} (nonneg : 0 ≤ value) : isBefore value false = false := by
  unfold isBefore
  split
  · rfl
  · exact decide_eq_false (Int.not_lt.mpr nonneg)

theorem lookup_unit {unit : String} {seconds : Nat} (known : (unit, seconds) ∈ unitNames) (value : Int) :
    intervalUnits.lookup (String.ofList (unit.toList ++ if value = 1 then [] else ['s'])) = some seconds := by
  simp only [unitNames, List.mem_cons, List.not_mem_nil, or_false, Prod.mk.injEq] at known
  rcases known with ⟨rfl, rfl⟩ | ⟨rfl, rfl⟩ | ⟨rfl, rfl⟩ <;> split <;> decide +kernel

theorem unitPairs_field {value : Int} {unit : String} {length : Nat} (nonneg : 0 ≤ value)
    (known : (unit, length) ∈ unitNames) (seconds : Double) (rest : List (List Char)) :
    unitPairs seconds (fieldWords value unit false ++ rest) =
      ((unitPairs (seconds + value * length) rest).1,
        (unitPairs (seconds + value * length) rest).2.1 + (if value = 0 then 0 else 2),
        (unitPairs (seconds + value * length) rest).2.2) := by
  unfold fieldWords
  split
  · next zero => simp [zero]
  · have shown : signed value false = Nat.toDigits 10 value.toNat := by
      rw [signed, if_neg (Int.not_lt.mpr nonneg), if_neg (by simp), List.nil_append]
      congr 1
      omega
    have digits := isNumber_of_digits Nat.toDigits_ne_nil (digits_toDigits value.toNat)
    simp only [List.cons_append, List.nil_append, unitPairs, shown, digits, if_true, lookup_unit known,
      number_zero, numberOf_toDigits, Double.natCast_toNat nonneg]

theorem unitPairs_negative {value : Int} (negative : value < 0) (unit : String) (before : Bool) (seconds : Double)
    (rest : List (List Char)) :
    unitPairs seconds (fieldWords value unit before ++ rest) = (seconds, 0, fieldWords value unit before ++ rest) := by
  have signless : isNumber (signed value before) = false := by
    rw [signed, if_pos negative]
    rfl
  simp only [fieldWords, if_neg negative.ne, List.cons_append, List.nil_append, unitPairs, signless, Bool.false_eq_true,
    if_false]

def Refused (parts : List (List Char)) : Prop :=
  ∀ seconds, 2 ≤ (unitPairs seconds parts).2.2.length ∨ ∃ w, (unitPairs seconds parts).2.2 = [w] ∧ clockSeconds w = none

theorem wordsSeconds_refused {parts : List (List Char)} (refused : Refused parts) : wordsSeconds parts = none := by
  unfold wordsSeconds
  specialize refused 0
  generalize unitPairs 0 parts = parsed at refused ⊢
  obtain ⟨seconds, i, left⟩ := parsed
  rcases refused with several | ⟨w, only, unread⟩
  · match left with
    | [] | [_] => simp at several
    | _ :: _ :: _ => rfl
  · obtain rfl : left = [w] := only
    simp only [unread, Option.map_none]

theorem refused_field {value : Int} {unit : String} {length : Nat} (nonneg : 0 ≤ value)
    (known : (unit, length) ∈ unitNames) {rest : List (List Char)} (refused : Refused rest) :
    Refused (fieldWords value unit false ++ rest) := by
  intro seconds
  rw [unitPairs_field nonneg known]
  exact refused _

theorem refused_negative {value : Int} (negative : value < 0) (unit : String) (before : Bool)
    (rest : List (List Char)) : Refused (fieldWords value unit before ++ rest) := by
  intro seconds
  rw [unitPairs_negative negative]
  left
  simp [fieldWords, negative.ne]

theorem refused_clock {micros : Int} (negative : micros < 0) (before : Bool) : Refused [clockWord micros before] := by
  refine fun _ => .inr ⟨_, rfl, ?_⟩
  rw [clockWord, if_pos negative]
  rfl

/-- The seconds that the server counts: 365 days a year, 30 days a month. -/
def countedSeconds (months days micros : Int) : Double :=
  ((months / 12 : Int) : Double) * ((365 * 86400 : Nat) : Double) + ((months % 12 : Int) : Double) * ((30 * 86400 : Nat) : Double) +
    (days : Double) * ((86400 : Nat) : Double) + countedClock micros

def parsedSeconds : Interval → Option Double
  | .infinity => none
  | .finite months days micros =>
      if 0 ≤ months ∧ 0 ≤ days ∧ 0 ≤ micros then
        (some (countedSeconds months days micros)).filter fun total => total.isFinite && decide (0 < total)
      else none

theorem months_ahead {months : Int} (ahead : 0 ≤ months) : months.tdiv 12 = months / 12 ∧ months.tmod 12 = months % 12 :=
  ⟨Int.tdiv_eq_ediv_of_nonneg ahead, Int.tmod_eq_emod_of_nonneg ahead⟩

theorem months_past {months : Int} (past : months < 0) :
    months.tdiv 12 < 0 ∨ months.tdiv 12 = 0 ∧ months.tmod 12 < 0 := by
  have opposite := months_ahead (show 0 ≤ -months by omega)
  rw [Int.neg_tdiv, Int.neg_tmod] at opposite
  omega

theorem wordsSeconds_negative {months days micros : Int} (negative : ¬ (0 ≤ months ∧ 0 ≤ days ∧ 0 ≤ micros)) :
    wordsSeconds (words (.finite months days micros)) = none := by
  apply wordsSeconds_refused
  simp only [words, List.append_assoc]
  by_cases past : months < 0
  · rcases months_past past with year | ⟨none, month⟩
    · exact refused_negative year _ _ _
    · rw [none]
      exact refused_negative month _ _ _
  · obtain ⟨whole, left⟩ := months_ahead (Int.not_lt.mp past)
    have years : 0 ≤ months.tdiv 12 := by omega
    have mons : 0 ≤ months.tmod 12 := by omega
    simp only [isBefore_nonneg years, isBefore_nonneg mons]
    apply refused_field years (show ("year", 365 * 86400) ∈ unitNames by decide)
    apply refused_field mons (show ("mon", 30 * 86400) ∈ unitNames by decide)
    by_cases day : days < 0
    · exact refused_negative day _ _ _
    · apply refused_field (Int.not_lt.mp day) (show ("day", 86400) ∈ unitNames by decide)
      have clock : micros < 0 := by omega
      rw [if_pos (.inr clock.ne)]
      exact refused_clock clock _

theorem wordsSeconds_positive {months days micros : Int} (some' : 0 ≤ months ∧ 0 ≤ days ∧ 0 ≤ micros) :
    wordsSeconds (words (.finite months days micros)) = some (countedSeconds months days micros) := by
  obtain ⟨ahead, day, clock⟩ := some'
  obtain ⟨whole, left⟩ := months_ahead ahead
  have years : 0 ≤ months.tdiv 12 := by omega
  have mons : 0 ≤ months.tmod 12 := by omega
  have shown : clockWord micros false = clockText micros.toNat := by
    rw [clockWord, if_neg (Int.not_lt.mpr clock), if_neg (by decide), List.nil_append]
    congr 1
    omega
  have counted : clockSeconds (clockText micros.toNat) = some (countedClock micros) := by
    rw [clockSeconds_clockText, Int.toNat_of_nonneg clock]
  simp only [wordsSeconds, words, List.append_assoc, isBefore_nonneg years, isBefore_nonneg mons, isBefore_nonneg day,
    unitPairs_field years (show ("year", 365 * 86400) ∈ unitNames by decide),
    unitPairs_field mons (show ("mon", 30 * 86400) ∈ unitNames by decide),
    unitPairs_field day (show ("day", 86400) ∈ unitNames by decide), shown, zero_add]
  by_cases written : (months.tdiv 12 = 0 ∧ months.tmod 12 = 0 ∧ days = 0) ∨ micros ≠ 0
  · simp only [if_pos written, unitPairs, counted, Option.map_some]
    rw [countedSeconds, whole, left]
  · have some : ¬ (months.tdiv 12 = 0 ∧ months.tmod 12 = 0 ∧ days = 0) := fun zero => written (.inl zero)
    have none : micros = 0 := by
      by_contra clock
      exact written (.inr clock)
    have midnight : countedClock 0 = 0 := by simp [countedClock]
    simp only [if_neg written, unitPairs]
    rw [if_neg (by grind), countedSeconds, none, midnight, add_zero, whole, left]

/-- An interval with a negative field, and the infinite one, are not read. -/
theorem intervalSeconds_text (interval : Interval) : intervalSeconds (text interval) = parsedSeconds interval := by
  rw [intervalSeconds_words]
  cases interval with
  | infinity => rw [show wordsSeconds (words .infinity) = none from wordsSeconds_refused fun _ => .inr ⟨_, rfl, rfl⟩]; rfl
  | finite months days micros =>
      by_cases fields : 0 ≤ months ∧ 0 ≤ days ∧ 0 ≤ micros
      · rw [wordsSeconds_positive fields, parsedSeconds, if_pos fields]
      · rw [wordsSeconds_negative fields, parsedSeconds, if_neg fields]
        rfl

end read

end Mancipatio.FxRates
