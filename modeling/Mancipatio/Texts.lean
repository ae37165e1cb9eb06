import Mathlib

/-!
# Texts as the front reads them
-/

namespace Mancipatio

abbrev Text := List Char

-- what `\s` stands for, and what `trim` drops
def isSpace (c : Char) : Bool :=
  9 ≤ c.toNat ∧ c.toNat ≤ 13 ∨ 0x2000 ≤ c.toNat ∧ c.toNat ≤ 0x200a ∨
    c.toNat ∈ [0x20, 0xa0, 0x1680, 0x2028, 0x2029, 0x202f, 0x205f, 0x3000, 0xfeff]

def trim (text : Text) : Text :=
  (text.dropWhile isSpace).rdropWhile isSpace

def isBase58Char (c : Char) : Bool :=
  c.isAlphanum && !(List.contains ['0', 'O', 'I', 'l'] c)

def registryAddress : Text :=
  ['F', 'J', 's', '1', 'E', 'M', '1', 'N', 'D', '8', '9', 'L', '9', 's', 'U', 'X', 'a', 'S', '8', 'V', 'B',
    'K', 'Y', 'X', 'j', 'm', 'o', 'X', 'C', 'k', 'k', 'V', 'S', 'J', 'K', 'R', 'E', '1', '9', 'h', 'm', 'Y',
    'x', 'S']

def token2022 : String := "TokenzQdBNbLqP5VEhdkAS6EPFLC1PHnBqCXEpPxuEb"

theorem alphanum_codes {c : Char} (alphanum : c.isAlphanum = true) :
    65 ≤ c.toNat ∧ c.toNat ≤ 90 ∨ 97 ≤ c.toNat ∧ c.toNat ≤ 122 ∨ 48 ≤ c.toNat ∧ c.toNat ≤ 57 := by
  simpa [Char.isAlphanum, Char.isAlpha, Char.isUpper, Char.isLower, Char.isDigit, UInt32.le_iff_toNat_le, or_assoc] using alphanum

theorem alphanum_solid {c : Char} (alphanum : c.isAlphanum = true) : isSpace c = false := by
  have codes := alphanum_codes alphanum
  rw [isSpace, decide_eq_false_iff_not]
  simp only [List.mem_cons, List.not_mem_nil, or_false]
  omega

theorem base58_alphanum {c : Char} (base58 : isBase58Char c = true) : c.isAlphanum = true := by
  rw [isBase58Char, Bool.and_eq_true] at base58
  exact base58.1

/-! ## Trimming -/

structure Solid (text : Text) : Prop where
  head : ∃ c rest, text = c :: rest ∧ isSpace c = false
  last : ∃ rest c, text = rest ++ [c] ∧ isSpace c = false

theorem Solid.ne_nil {text : Text} (solid : Solid text) : text ≠ [] := by
  obtain ⟨c, rest, rfl, -⟩ := solid.head
  exact List.cons_ne_nil c rest

theorem Solid.around {left right : Text} (solid : Solid left) (solid' : Solid right) (middle : Text) : Solid (left ++ (middle ++ right)) := by
  obtain ⟨⟨c, rest, rfl, first⟩, -⟩ := solid
  obtain ⟨-, init, d, rfl, last⟩ := solid'
  exact ⟨⟨c, _, rfl, first⟩, (c :: rest) ++ (middle ++ init), d, by simp, last⟩

theorem trim_blank {text : Text} (blank : ∀ c ∈ text, isSpace c = true) : trim text = [] := by
  rw [trim, List.dropWhile_eq_nil_iff.mpr blank]
  rfl

theorem trim_around {front text back : Text} (solid : Solid text) (before : ∀ c ∈ front, isSpace c = true)
    (after : ∀ c ∈ back, isSpace c = true) : trim (front ++ (text ++ back)) = text := by
  obtain ⟨⟨first, rest, head, firstSolid⟩, init, last, tail, lastSolid⟩ := solid
  have started : (front ++ (text ++ back)).dropWhile isSpace = text ++ back := by
    rw [List.dropWhile_append_of_pos before, head, List.cons_append,
      List.dropWhile_cons_of_neg (by rw [firstSolid]; exact Bool.false_ne_true)]
  have reversed : ∀ c ∈ back.reverse, isSpace c = true := fun c member => after c (List.mem_reverse.mp member)
  rw [trim, started, List.rdropWhile, List.reverse_append, List.dropWhile_append_of_pos reversed, tail, List.reverse_append,
    List.reverse_singleton, List.singleton_append, List.dropWhile_cons_of_neg (by rw [lastSolid]; exact Bool.false_ne_true),
    List.reverse_cons, List.reverse_reverse]

theorem trim_solid {text : Text} (solid : Solid text) : trim text = text := by
  have trimmed := @trim_around [] text [] solid (List.forall_mem_nil _) (List.forall_mem_nil _)
  rwa [List.nil_append, List.append_nil] at trimmed

theorem dropWhile_split {p : Char → Bool} {c : Char} (kept : p c = false) (front back : Text) :
    ∃ more, (front ++ c :: back).dropWhile p = more ++ c :: back := by
  induction front with
  | nil => exact ⟨[], List.dropWhile_cons_of_neg (by rw [kept]; exact Bool.false_ne_true)⟩
  | cons b front ih =>
      obtain ⟨more, dropped⟩ := ih
      by_cases blank : p b = true
      · exact ⟨more, (List.dropWhile_cons_of_pos blank).trans dropped⟩
      · exact ⟨b :: front, List.dropWhile_cons_of_neg blank⟩

theorem rdropWhile_split {p : Char → Bool} {c : Char} (kept : p c = false) (front back : Text) :
    ∃ rest, (front ++ c :: back).rdropWhile p = front ++ c :: rest := by
  obtain ⟨more, dropped⟩ := dropWhile_split kept back.reverse front.reverse
  refine ⟨more.reverse, ?_⟩
  rw [List.rdropWhile, List.reverse_append, List.reverse_cons, List.append_assoc, List.singleton_append, dropped,
    List.reverse_append, List.reverse_cons, List.reverse_reverse, List.append_assoc, List.singleton_append]

theorem trim_split {c d : Char} (first : isSpace c = false) (last : isSpace d = false) (front middle back : Text) :
    ∃ more rest, trim (front ++ c :: (middle ++ d :: back)) = more ++ c :: (middle ++ d :: rest) := by
  obtain ⟨more, started⟩ := dropWhile_split first front (middle ++ d :: back)
  obtain ⟨rest, ended⟩ := rdropWhile_split last (more ++ c :: middle) back
  refine ⟨more, rest, ?_⟩
  rw [List.append_assoc, List.cons_append, List.append_assoc, List.cons_append] at ended
  rw [trim, started, ended]

theorem mem_trim {text : Text} {c : Char} (member : c ∈ text) (solid : isSpace c = false) : c ∈ trim text := by
  obtain ⟨front, back, rfl⟩ := List.append_of_mem member
  obtain ⟨more, started⟩ := dropWhile_split solid front back
  obtain ⟨rest, ended⟩ := rdropWhile_split solid more back
  rw [trim, started, ended]
  exact List.mem_append_right _ List.mem_cons_self

end Mancipatio
