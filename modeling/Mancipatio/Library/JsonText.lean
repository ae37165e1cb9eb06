import Mathlib

/-!
# JSON text

Values are written without white space and objects list their fields in their own order, so that the text tells
the value and this order.
-/

namespace JsonText

inductive Value where
  | number (n : Nat)
  | string (s : String)
  | array (items : List Value)
  | object (fields : List (String × Value))

def quote : Char := Char.ofNat 34
def backslash : Char := Char.ofNat 92
def openBrace : Char := Char.ofNat 123
def closeBrace : Char := Char.ofNat 125

def shortEscapes : List (Nat × Char) :=
  [(8, 'b'), (9, 't'), (10, 'n'), (12, 'f'), (13, 'r')]

def escapeChar (c : Char) : List Char :=
  if c = quote ∨ c = backslash then [backslash, c]
  else if c.toNat < 32 then
    match shortEscapes.lookup c.toNat with
    | some letter => [backslash, letter]
    | none => [backslash, 'u', '0', '0', Nat.digitChar (c.toNat / 16), Nat.digitChar (c.toNat % 16)]
  else [c]

def renderString (s : String) : List Char :=
  quote :: s.toList.flatMap escapeChar ++ [quote]

mutual

def render : Value → List Char
  | .number n => Nat.toDigits 10 n
  | .string s => renderString s
  | .array [] => ['[', ']']
  | .array (first :: rest) => '[' :: render first ++ renderItems rest ++ [']']
  | .object [] => [openBrace, closeBrace]
  | .object (first :: rest) => openBrace :: renderField first ++ renderFields rest ++ [closeBrace]

def renderItems : List Value → List Char
  | [] => []
  | item :: rest => ',' :: render item ++ renderItems rest

def renderField : String × Value → List Char
  | (name, value) => renderString name ++ ':' :: render value

def renderFields : List (String × Value) → List Char
  | [] => []
  | field :: rest => ',' :: renderField field ++ renderFields rest

end

def stringify (value : Value) : String :=
  String.ofList (render value)

/-! ## Strings -/

def unescapeChar : List Char → Option (Char × List Char)
  | [] => none
  | first :: rest =>
      if first = backslash then
        match rest with
        | 'u' :: '0' :: '0' :: high :: low :: rest =>
            ((List.range 32).find? fun code => Nat.digitChar (code / 16) = high ∧ Nat.digitChar (code % 16) = low).map
              fun code => (Char.ofNat code, rest)
        | letter :: rest => some (((shortEscapes.find? fun entry => entry.2 = letter).map fun entry => Char.ofNat entry.1).getD letter, rest)
        | [] => none
      else some (first, rest)

theorem unescapeChar_control : ∀ code < 32, ∀ rest : List Char,
    unescapeChar (escapeChar (Char.ofNat code) ++ rest) = some (Char.ofNat code, rest) := by
  intro code control rest
  interval_cases code <;> rfl

theorem unescapeChar_escapeChar (c : Char) (rest : List Char) : unescapeChar (escapeChar c ++ rest) = some (c, rest) := by
  by_cases control : c.toNat < 32
  · have read := unescapeChar_control c.toNat control rest
    rwa [Char.ofNat_toNat] at read
  · by_cases special : c = quote ∨ c = backslash
    · rcases special with rfl | rfl <;> rfl
    · have plain : c ≠ backslash := fun same => special (.inr same)
      rw [escapeChar, if_neg special, if_neg control]
      exact if_neg plain

theorem escapeChar_ne_quote (c : Char) (rest tail : List Char) : escapeChar c ++ rest ≠ quote :: tail := by
  intro same
  have read := unescapeChar_escapeChar c rest
  rw [same] at read
  have first : unescapeChar (quote :: tail) = some (quote, tail) := rfl
  rw [first, Option.some.injEq, Prod.mk.injEq] at read
  obtain ⟨rfl, rfl⟩ := read
  have lengths := congrArg List.length same
  simp [escapeChar] at lengths

theorem renderString_inj {s t : String} {x y : List Char} (same : renderString s ++ x = renderString t ++ y) : s = t ∧ x = y := by
  have bodies : ∀ cs ds : List Char, cs.flatMap escapeChar ++ quote :: x = ds.flatMap escapeChar ++ quote :: y →
      cs = ds ∧ x = y := by
    intro cs
    induction cs with
    | nil =>
        intro ds same
        cases ds with
        | nil => exact ⟨rfl, List.tail_eq_of_cons_eq same⟩
        | cons d rest =>
            rw [List.flatMap_cons, List.append_assoc] at same
            exact absurd same.symm (escapeChar_ne_quote d _ _)
    | cons c cs ih =>
        intro ds same
        cases ds with
        | nil =>
            rw [List.flatMap_cons, List.append_assoc] at same
            exact absurd same (escapeChar_ne_quote c _ _)
        | cons d ds =>
            rw [List.flatMap_cons, List.flatMap_cons, List.append_assoc, List.append_assoc] at same
            have read := congrArg unescapeChar same
            rw [unescapeChar_escapeChar, unescapeChar_escapeChar, Option.some.injEq, Prod.mk.injEq] at read
            obtain ⟨rfl, later⟩ := read
            obtain ⟨rfl, tails⟩ := ih ds later
            exact ⟨rfl, tails⟩
  simp only [renderString, List.cons_append, List.append_assoc, List.nil_append, List.cons.injEq, true_and] at same
  obtain ⟨lists, tails⟩ := bodies _ _ same
  exact ⟨String.toList_inj.mp lists, tails⟩

/-! ## Numbers -/

def Closed (rest : List Char) : Prop :=
  ∀ c ∈ rest.head?, c.isDigit = false

theorem closed_nil : Closed [] := by
  intro c first
  cases first

theorem digits_inj {m n : Nat} {x y : List Char} (closed : Closed x) (closed' : Closed y)
    (same : Nat.toDigits 10 m ++ x = Nat.toDigits 10 n ++ y) : m = n ∧ x = y := by
  have spans : ∀ (k : Nat) (rest : List Char), Closed rest →
      (Nat.toDigits 10 k ++ rest).takeWhile Char.isDigit = Nat.toDigits 10 k := by
    intro k rest closed
    rw [List.takeWhile_append_of_pos fun c digit => Nat.isDigit_of_mem_toDigits (by decide) (by decide) digit]
    have stops : rest.takeWhile Char.isDigit = [] := by
      cases rest with
      | nil => rfl
      | cons c rest => exact List.takeWhile_cons_of_neg (by simp [closed c rfl])
    rw [stops, List.append_nil]
  have digits := congrArg (List.takeWhile Char.isDigit) same
  rw [spans m x closed, spans n y closed'] at digits
  have values := congrArg (fun digits => Nat.ofDigitChars 10 digits 0) digits
  simp only [Nat.ofDigitChars_ten_toDigits] at values
  subst values
  exact ⟨rfl, List.append_cancel_left same⟩

/-! ## Values -/

def Value.kind : Value → Nat
  | .number _ => 0
  | .string _ => 1
  | .array _ => 2
  | .object _ => 3

def kindOf (c : Char) : Nat :=
  if c = quote then 1 else if c = '[' then 2 else if c = openBrace then 3 else 0

theorem render_kind (value : Value) : ∃ c rest, render value = c :: rest ∧ c ≠ ']' ∧ kindOf c = value.kind := by
  cases value with
  | number n =>
      cases digits : Nat.toDigits 10 n with
      | nil => exact absurd digits Nat.toDigits_ne_nil
      | cons c rest =>
          have listed : c ∈ Nat.toDigits 10 n := by
            rw [digits]
            exact List.mem_cons_self
          have digit : c.isDigit = true := Nat.isDigit_of_mem_toDigits (by decide) (by decide) listed
          have apart : ∀ d : Char, d.isDigit = false → c ≠ d := by
            rintro d none rfl
            rw [digit] at none
            cases none
          refine ⟨c, rest, by rw [render, digits], apart ']' rfl, ?_⟩
          simp [kindOf, Value.kind, apart quote rfl, apart '[' rfl, apart openBrace rfl]
  | string s => exact ⟨quote, _, rfl, by decide, rfl⟩
  | array items =>
      cases items with
      | nil => exact ⟨'[', [']'], rfl, by decide, rfl⟩
      | cons first rest => exact ⟨'[', render first ++ renderItems rest ++ [']'], rfl, by decide, rfl⟩
  | object fields =>
      cases fields with
      | nil => exact ⟨openBrace, [closeBrace], rfl, by decide, rfl⟩
      | cons first rest => exact ⟨openBrace, renderField first ++ renderFields rest ++ [closeBrace], rfl, by decide, rfl⟩

theorem kind_of_render {v w : Value} {x y : List Char} (same : render v ++ x = render w ++ y) : v.kind = w.kind := by
  obtain ⟨c, rest, text, -, kind⟩ := render_kind v
  obtain ⟨d, rest', text', -, kind'⟩ := render_kind w
  rw [text, text'] at same
  rw [← kind, ← kind', List.head_eq_of_cons_eq same]

theorem closed_cons {c : Char} {rest : List Char} (apart : c.isDigit = false) : Closed (c :: rest) := by
  intro d first
  rwa [← Option.some.inj first]

theorem closed_items (items : List Value) (rest : List Char) : Closed (renderItems items ++ ']' :: rest) := by
  cases items <;> exact closed_cons rfl

theorem closed_fields (fields : List (String × Value)) (rest : List Char) :
    Closed (renderFields fields ++ closeBrace :: rest) := by
  cases fields <;> exact closed_cons rfl

def Readable (v : Value) : Prop :=
  ∀ (w : Value) (x y : List Char), Closed x → Closed y → render v ++ x = render w ++ y → v = w ∧ x = y

theorem readable_number (n : Nat) : Readable (.number n) := by
  intro w x y closed closed' same
  cases w with
  | number m =>
      obtain ⟨rfl, tails⟩ := digits_inj closed closed' same
      exact ⟨rfl, tails⟩
  | string | array | object => cases kind_of_render same

theorem readable_string (s : String) : Readable (.string s) := by
  intro w x y closed closed' same
  cases w with
  | string t =>
      obtain ⟨rfl, tails⟩ := renderString_inj same
      exact ⟨rfl, tails⟩
  | number | array | object => cases kind_of_render same

theorem items_inj {items : List Value} (each : ∀ item ∈ items, Readable item) : ∀ (others : List Value) (x y : List Char),
    renderItems items ++ ']' :: x = renderItems others ++ ']' :: y → items = others ∧ x = y := by
  induction items with
  | nil =>
      intro others x y same
      cases others with
      | nil => exact ⟨rfl, List.tail_eq_of_cons_eq same⟩
      | cons => cases List.head_eq_of_cons_eq same
  | cons item rest ih =>
      intro others x y same
      cases others with
      | nil => cases List.head_eq_of_cons_eq same
      | cons other rest' =>
          simp only [renderItems, List.cons_append, List.append_assoc, List.cons.injEq, true_and] at same
          obtain ⟨rfl, later⟩ := each item List.mem_cons_self _ _ _ (closed_items _ _) (closed_items _ _) same
          obtain ⟨rfl, tails⟩ := ih (fun item member => each item (List.mem_cons_of_mem _ member)) _ _ _ later
          exact ⟨rfl, tails⟩

theorem fields_inj {fields : List (String × Value)} (each : ∀ field ∈ fields, Readable field.2) :
    ∀ (others : List (String × Value)) (x y : List Char),
      renderFields fields ++ closeBrace :: x = renderFields others ++ closeBrace :: y → fields = others ∧ x = y := by
  induction fields with
  | nil =>
      intro others x y same
      cases others with
      | nil => exact ⟨rfl, List.tail_eq_of_cons_eq same⟩
      | cons => cases List.head_eq_of_cons_eq same
  | cons field rest ih =>
      intro others x y same
      cases others with
      | nil => cases List.head_eq_of_cons_eq same
      | cons other rest' =>
          obtain ⟨name, value⟩ := field
          obtain ⟨name', value'⟩ := other
          simp only [renderFields, renderField, List.cons_append, List.append_assoc, List.cons.injEq, true_and] at same
          obtain ⟨rfl, values⟩ := renderString_inj same
          rw [List.cons.injEq] at values
          obtain ⟨rfl, later⟩ := each _ List.mem_cons_self _ _ _ (closed_fields _ _) (closed_fields _ _) values.2
          obtain ⟨rfl, tails⟩ := ih (fun field member => each field (List.mem_cons_of_mem _ member)) _ _ _ later
          exact ⟨rfl, tails⟩

theorem readable_array {items : List Value} (each : ∀ item ∈ items, Readable item) : Readable (.array items) := by
  intro w x y closed closed' same
  cases w with
  | array others =>
      cases items with
      | nil =>
          cases others with
          | nil => exact ⟨rfl, by simpa [render] using same⟩
          | cons other rest =>
              obtain ⟨c, text, first, apart, -⟩ := render_kind other
              simp only [render, first, List.cons_append, List.cons.injEq, true_and] at same
              exact absurd same.1.symm apart
      | cons item rest =>
          cases others with
          | nil =>
              obtain ⟨c, text, first, apart, -⟩ := render_kind item
              simp only [render, first, List.cons_append, List.cons.injEq, true_and] at same
              exact absurd same.1 apart
          | cons other rest' =>
              obtain ⟨lists, tails⟩ := items_inj each (other :: rest') x y (by
                simpa [render, renderItems] using same)
              exact ⟨congrArg Value.array lists, tails⟩
  | number | string | object => cases kind_of_render same

theorem readable_object {fields : List (String × Value)} (each : ∀ field ∈ fields, Readable field.2) : Readable (.object fields) := by
  intro w x y closed closed' same
  have apart : closeBrace ≠ quote := by decide
  cases w with
  | object others =>
      cases fields with
      | nil =>
          cases others with
          | nil => exact ⟨rfl, by simpa [render] using same⟩
          | cons other rest =>
              obtain ⟨name, value⟩ := other
              simp only [render, renderField, renderString, List.cons_append, List.cons.injEq, true_and] at same
              exact absurd same.1 apart
      | cons field rest =>
          cases others with
          | nil =>
              obtain ⟨name, value⟩ := field
              simp only [render, renderField, renderString, List.cons_append, List.cons.injEq, true_and] at same
              exact absurd same.1.symm apart
          | cons other rest' =>
              obtain ⟨lists, tails⟩ := fields_inj each (other :: rest') x y (by
                simpa [render, renderFields] using same)
              exact ⟨congrArg Value.object lists, tails⟩
  | number | string | array => cases kind_of_render same

theorem readable (v : Value) : Readable v := by
  cases v with
  | number n => exact readable_number n
  | string s => exact readable_string s
  | array items => exact readable_array fun item _ => readable item
  | object fields => exact readable_object fun field _ => readable field.2
termination_by sizeOf v
decreasing_by
  · next member =>
      have smaller := List.sizeOf_lt_of_mem member
      simp only [Value.array.sizeOf_spec]
      omega
  · next member =>
      have smaller := List.sizeOf_lt_of_mem member
      have inside : sizeOf field = 1 + sizeOf field.1 + sizeOf field.2 := rfl
      simp only [Value.object.sizeOf_spec]
      omega

theorem stringify_injective : Function.Injective stringify := by
  intro v w same
  have texts : render v = render w := String.ofList_inj.mp same
  exact (readable v w [] [] closed_nil closed_nil (congrArg (· ++ []) texts)).1

end JsonText
