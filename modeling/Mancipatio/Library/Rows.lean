import Mathlib

/-!
# Tables of rows

A table is a list whose rows are appended and rewritten in place. Totals over the table move by what
the rewritten row moves by.
-/

namespace Rows

variable {α : Type*} {rows : List α} {i : Nat} {row row' : α}

theorem sum_set_add (f : α → Nat) (stored : rows[i]? = some row) (row' : α) :
    ((rows.set i row').map f).sum + f row = (rows.map f).sum + f row' := by
  induction rows generalizing i with
  | nil => simp at stored
  | cons first rest ih =>
      cases i with
      | zero =>
          obtain rfl : first = row := by simpa using stored
          simp only [List.set_cons_zero, List.map_cons, List.sum_cons]
          omega
      | succ i =>
          have moved := ih (i := i) (by simpa using stored)
          simp only [List.set_cons_succ, List.map_cons, List.sum_cons]
          omega

theorem sum_set_of_eq (f : α → Nat) (stored : rows[i]? = some row) (same : f row' = f row) :
    ((rows.set i row').map f).sum = (rows.map f).sum := by
  have moved := sum_set_add f stored row'
  omega

theorem le_sum (f : α → Nat) (member : row ∈ rows) : f row ≤ (rows.map f).sum :=
  List.single_le_sum (fun _ _ => Nat.zero_le _) _ (List.mem_map_of_mem member)

theorem sum_append_row (f : α → Nat) : ((rows ++ [row]).map f).sum = (rows.map f).sum + f row := by
  simp

theorem forall_set {P : α → Prop} (all : ∀ r ∈ rows, P r) (new : P row') : ∀ r ∈ rows.set i row', P r :=
  fun r member => (List.mem_or_eq_of_mem_set member).elim (all r) fun same => same ▸ new

theorem mem_of_stored (stored : rows[i]? = some row) : row ∈ rows :=
  List.mem_of_getElem? stored

theorem sum_le_of_exclusive {f : α → Nat} {bound : Nat} (each : ∀ r ∈ rows, f r ≤ bound)
    (apart : rows.Pairwise fun a b => f a = 0 ∨ f b = 0) : (rows.map f).sum ≤ bound := by
  induction apart with
  | nil => exact Nat.zero_le _
  | @cons first rest exclusive _ ih =>
      rw [List.map_cons, List.sum_cons]
      rcases Nat.eq_zero_or_pos (f first) with nothing | counts
      · rw [nothing, Nat.zero_add]
        exact ih fun r member => each r (List.mem_cons_of_mem _ member)
      · have others : (rest.map f).sum = 0 := by
          rw [List.sum_eq_zero_iff]
          intro n member
          obtain ⟨r, stored, rfl⟩ := List.mem_map.mp member
          exact (exclusive r stored).resolve_left (Nat.ne_of_gt counts)
        rw [others, Nat.add_zero]
        exact each first List.mem_cons_self

/-! ## Rows with a key -/

section keyed
variable {κ β : Type*} [DecidableEq κ] (key : α → κ)

def lookup (k : κ) (rows : List α) : Option α :=
  rows.find? fun r => key r = k

def upsert (row : α) : List α → List α
  | [] => [row]
  | r :: rest => if key r = key row then row :: rest else r :: upsert row rest

theorem mem_of_lookup {k : κ} (found : lookup key k rows = some row) : row ∈ rows ∧ key row = k :=
  ⟨List.mem_of_find?_eq_some found, by simpa using List.find?_some found⟩

theorem lookup_of_mem (distinct : (rows.map key).Nodup) (member : row ∈ rows) : lookup key (key row) rows = some row := by
  cases found : lookup key (key row) rows with
  | none =>
      have differs := List.find?_eq_none.mp found row member
      simp at differs
  | some other =>
      obtain ⟨stored, same⟩ := mem_of_lookup key found
      rw [List.inj_on_of_nodup_map distinct stored member same]

theorem lookup_upsert (row : α) (k : κ) :
    lookup key k (upsert key row rows) = if k = key row then some row else lookup key k rows := by
  induction rows with
  | nil =>
      by_cases same : k = key row
      · simp [lookup, upsert, same]
      · simp [lookup, upsert, same, Ne.symm same]
  | cons r rest ih =>
      unfold lookup at ih ⊢
      unfold upsert
      split
      case isTrue replaced =>
        by_cases same : k = key row
        · simp [same]
        · have apart : key row ≠ k := Ne.symm same
          simp [same, apart, replaced]
      case isFalse kept =>
        by_cases here : key r = k
        · have apart : k ≠ key row := fun same => kept (here.trans same)
          simp [here, apart]
        · simp only [List.find?_cons, here, decide_false]
          exact ih

theorem upsert_stored (stored : lookup key (key row) rows = some row) : upsert key row rows = rows := by
  induction rows with
  | nil => cases stored
  | cons r rest ih =>
      unfold lookup at stored ih
      unfold upsert
      split
      case isTrue same =>
        obtain rfl : r = row := by simpa [same] using stored
        rfl
      case isFalse apart => rw [ih (by simpa [apart] using stored)]

theorem lookup_map {f : α → α} (kept : ∀ r, key (f r) = key r) (k : κ) :
    lookup key k (rows.map f) = (lookup key k rows).map f := by
  unfold lookup
  rw [List.find?_map]
  congr 2
  funext r
  rw [Function.comp, kept]

theorem mem_of_key {k : κ} (member : k ∈ rows.map key) : ∃ row, lookup key k rows = some row := by
  obtain ⟨row, stored, rfl⟩ := List.mem_map.mp member
  cases found : lookup key (key row) rows with
  | some other => exact ⟨other, rfl⟩
  | none =>
      have differs := List.find?_eq_none.mp found row stored
      simp at differs

theorem map_upsert {β : Type*} (g : α → β) {old : α} (row : α) (stored : lookup key (key row) rows = some old)
    (same : g row = g old) : (upsert key row rows).map g = rows.map g := by
  induction rows with
  | nil => cases stored
  | cons r rest ih =>
      unfold lookup at stored ih
      unfold upsert
      split
      case isTrue here =>
        obtain rfl : r = old := by simpa [here] using stored
        rw [List.map_cons, List.map_cons, same]
      case isFalse apart => rw [List.map_cons, List.map_cons, ih (by simpa [apart] using stored)]

theorem lookup_append_of_found {k : κ} (found : lookup key k rows = some row) (new : List α) :
    lookup key k (rows ++ new) = some row := by
  rw [lookup, List.find?_append]
  rw [lookup] at found
  rw [found]
  rfl

theorem lookup_append_new {k : κ} (new : key row = k) (fresh : lookup key k rows = none) :
    lookup key k (rows ++ [row]) = some row := by
  rw [lookup, List.find?_append]
  rw [lookup] at fresh
  rw [fresh]
  simp [new]

theorem nodup_append_of_fresh (distinct : (rows.map key).Nodup) (fresh : lookup key (key row) rows = none) :
    ((rows ++ [row]).map key).Nodup := by
  rw [List.map_append]
  apply List.nodup_append.mpr
  refine ⟨distinct, List.nodup_singleton _, ?_⟩
  intro k member k' last same
  obtain ⟨r, stored, rfl⟩ := List.mem_map.mp member
  rw [List.map_singleton, List.mem_singleton] at last
  have differs := List.find?_eq_none.mp fresh r stored
  simp only [decide_eq_true_eq] at differs
  exact differs (same.trans last)

theorem sum_upsert_add (f : α → Nat) (row : α) :
    ((upsert key row rows).map f).sum + (lookup key (key row) rows).elim 0 f =
      (rows.map f).sum + f row := by
  induction rows with
  | nil => simp [upsert, lookup]
  | cons r rest ih =>
      by_cases same : key r = key row
      · simp only [upsert, lookup, same, if_true, List.find?_cons, decide_true, List.map_cons,
          List.sum_cons, Option.elim_some]
        omega
      · simp only [lookup] at ih
        simp only [upsert, lookup, same, if_false, List.find?_cons, decide_false, List.map_cons, List.sum_cons]
        omega

theorem forall_upsert {P : α → Prop} (all : ∀ r ∈ rows, P r) (new : P row) :
    ∀ r ∈ upsert key row rows, P r := by
  induction rows with
  | nil => simpa [upsert] using new
  | cons r rest ih =>
      intro r' member
      unfold upsert at member
      split at member
      · rcases List.mem_cons.mp member with rfl | older
        · exact new
        · exact all r' (List.mem_cons_of_mem _ older)
      · rcases List.mem_cons.mp member with rfl | older
        · exact all r' List.mem_cons_self
        · exact ih (fun r'' member => all r'' (List.mem_cons_of_mem _ member)) r' older

theorem key_mem_of_upsert {k : κ} (member : k ∈ (upsert key row rows).map key) :
    k = key row ∨ k ∈ rows.map key := by
  induction rows with
  | nil => simpa [upsert] using member
  | cons r rest ih =>
      unfold upsert at member
      split at member
      · next same => simp_all
      · rcases List.mem_cons.mp (List.map_cons ▸ member) with rfl | older
        · simp
        · exact (ih older).imp_right fun older => by simp_all

theorem nodup_upsert (distinct : (rows.map key).Nodup) : ((upsert key row rows).map key).Nodup := by
  induction rows with
  | nil => simp [upsert]
  | cons r rest ih =>
      simp only [List.map_cons, List.nodup_cons] at distinct
      unfold upsert
      split
      · next same =>
          rw [List.map_cons, List.nodup_cons, ← same]
          exact distinct
      · next different =>
          rw [List.map_cons, List.nodup_cons]
          refine ⟨fun member => ?_, ih distinct.2⟩
          exact (key_mem_of_upsert key member).elim different distinct.1

theorem mem_upsert (distinct : (rows.map key).Nodup) {row r : α} (member : r ∈ upsert key row rows) :
    r = row ∨ r ∈ rows ∧ key r ≠ key row := by
  have distinct' : ((upsert key row rows).map key).Nodup := nodup_upsert key distinct
  have found := lookup_of_mem key distinct' member
  rw [lookup_upsert] at found
  split at found
  case isTrue => exact .inl (Option.some.inj found).symm
  case isFalse apart => exact .inr ⟨(mem_of_lookup key found).1, apart⟩

omit [DecidableEq κ] in
theorem sum_le_of_keys [DecidableEq β] {targets : List β} (key' : β → κ) (f : α → Nat) (g : β → Nat)
    (distinct : (rows.map key).Nodup)
    (matched : ∀ r ∈ rows, ∃ t ∈ targets, key' t = key r ∧ f r ≤ g t) :
    (rows.map f).sum ≤ (targets.map g).sum := by
  induction rows generalizing targets with
  | nil => simp
  | cons r rest ih =>
      simp only [List.map_cons, List.nodup_cons] at distinct
      obtain ⟨t, member, sameKey, below⟩ := matched r List.mem_cons_self
      have others : (rest.map f).sum ≤ ((targets.erase t).map g).sum := by
        refine ih distinct.2 fun r' member' => ?_
        obtain ⟨t', old, sameKey', below'⟩ := matched r' (List.mem_cons_of_mem _ member')
        refine ⟨t', (List.mem_erase_of_ne ?_).mpr old, sameKey', below'⟩
        rintro rfl
        exact distinct.1 (List.mem_map.mpr ⟨r', member', sameKey' ▸ sameKey⟩)
      have split := List.sum_map_erase g member
      simp only [List.map_cons, List.sum_cons]
      omega

/-! ## Maps filled from a table -/

theorem filled_absent {β : Type*} (value : α → β) (start : κ → β) {k : κ} (absent : k ∉ rows.map key) :
    rows.foldl (fun map r => Function.update map (key r) (value r)) start k = start k := by
  induction rows generalizing start with
  | nil => rfl
  | cons first rest ih =>
      rw [List.map_cons, List.mem_cons, not_or] at absent
      rw [List.foldl_cons, ih _ absent.2, Function.update_of_ne absent.1]

theorem filled_of_mem {β : Type*} (value : α → β) (start : κ → β) (distinct : (rows.map key).Nodup) (member : row ∈ rows) :
    rows.foldl (fun map r => Function.update map (key r) (value r)) start (key row) = value row := by
  induction rows generalizing start with
  | nil => cases member
  | cons first rest ih =>
      rw [List.map_cons, List.nodup_cons] at distinct
      rw [List.foldl_cons]
      rcases List.mem_cons.mp member with rfl | later
      · rw [filled_absent key value _ distinct.1, Function.update_self]
      · exact ih _ distinct.2 later

end keyed

theorem eq_of_indexed {κ : Type*} {index : α → Option κ} (distinct : (rows.filterMap index).Nodup) {a b : α} {k : κ}
    (first : a ∈ rows) (second : b ∈ rows) (indexed : index a = some k) (again : index b = some k) : a = b := by
  by_contra different
  have apart := List.pairwise_filterMap.mp distinct
  have symmetric : Std.Symm fun a b => ∀ k ∈ index a, ∀ k' ∈ index b, k ≠ k' :=
    ⟨fun _ _ ne k member k' member' => (ne k' member' k member).symm⟩
  exact apart.forall first second different k indexed k again rfl

/-- A row that fewer than `n` others precede is among the first `n`. -/
theorem mem_take_sorted (r : α → α → Prop) [DecidableRel r] [Std.Total r] [IsTrans α r] {n : Nat} {precedes : α → Bool}
    (distinct : rows.Nodup) (member : row ∈ rows)
    (marked : ∀ other ∈ rows, r other row → other ≠ row → precedes other = true) (few : rows.countP precedes < n) :
    row ∈ (rows.insertionSort r).take n := by
  have sorted := List.pairwise_insertionSort r rows
  have same := List.perm_insertionSort r rows
  have distinct' := same.nodup_iff.mpr distinct
  rw [← same.countP_eq] at few
  have marked' : ∀ other ∈ rows.insertionSort r, r other row → other ≠ row → precedes other = true :=
    fun other listed => marked other (same.mem_iff.mp listed)
  obtain ⟨before, after, split⟩ := List.append_of_mem (same.mem_iff.mpr member)
  rw [split] at sorted distinct' few marked' ⊢
  have ahead : before.length ≤ (before ++ row :: after).countP precedes := by
    rw [List.countP_append, List.countP_eq_length.mpr]
    · exact Nat.le_add_right _ _
    · intro other earlier
      have ordered := (List.pairwise_append.mp sorted).2.2 other earlier row List.mem_cons_self
      have apart := (List.nodup_append.mp distinct').2.2 other earlier row List.mem_cons_self
      exact marked' other (List.mem_append_left _ earlier) ordered apart
  rw [List.take_append]
  apply List.mem_append_right
  obtain ⟨k, room⟩ := Nat.exists_eq_succ_of_ne_zero (Nat.sub_ne_zero_of_lt (Nat.lt_of_le_of_lt ahead few))
  rw [room]
  exact List.mem_cons_self

end Rows
