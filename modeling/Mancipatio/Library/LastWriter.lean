import Mathlib

/-!
# Registers that keep the latest write

Each key has a register that shows the latest of the writes it has seen. Writes of one key and time agree, so
that what a store shows depends on the set of writes alone.
-/

namespace LastWriter

variable {κ ν : Type*}

@[ext]
structure Write (κ ν : Type*) where
  key : κ
  time : Int
  value : ν

def Consistent (writes : Set (Write κ ν)) : Prop :=
  ∀ a ∈ writes, ∀ b ∈ writes, a.key = b.key → a.time = b.time → a.value = b.value

def Latest (writes : Set (Write κ ν)) (w : Write κ ν) : Prop :=
  w ∈ writes ∧ ∀ other ∈ writes, other.key = w.key → other.time ≤ w.time

/-- The store shows the latest write of each key. -/
structure Shows (writes : Set (Write κ ν)) (store : κ → Option (Int × ν)) : Prop where
  latest : ∀ key time value, store key = some (time, value) → Latest writes ⟨key, time, value⟩
  unseen : ∀ key, store key = none → ∀ w ∈ writes, w.key ≠ key

/-- What a write may do to a store: it replaces an entry that is not newer, or leaves one that is not older. -/
structure Absorbs (store : κ → Option (Int × ν)) (w : Write κ ν) (store' : κ → Option (Int × ν)) : Prop where
  others : ∀ key, key ≠ w.key → store' key = store key
  own : store' w.key = some (w.time, w.value) ∧ (∀ entry ∈ store w.key, entry.1 ≤ w.time) ∨
    store' w.key = store w.key ∧ ∃ entry ∈ store w.key, w.time ≤ entry.1

theorem shows_empty : Shows (∅ : Set (Write κ ν)) (fun _ => none) := by
  refine ⟨?_, ?_⟩
  · intro key time value shown
    cases shown
  · intro key _ w seen
    cases seen

theorem Consistent.mono {writes writes' : Set (Write κ ν)} (consistent : Consistent writes') (fewer : writes ⊆ writes') :
    Consistent writes :=
  fun a first b second => consistent a (fewer first) b (fewer second)

theorem Latest.unique {writes : Set (Write κ ν)} (consistent : Consistent writes) {a b : Write κ ν}
    (first : Latest writes a) (second : Latest writes b) (same : a.key = b.key) : a = b := by
  have time := Int.le_antisymm (second.2 a first.1 same) (first.2 b second.1 same.symm)
  exact Write.ext same time (consistent a first.1 b second.1 same time)

section stores
variable {writes : Set (Write κ ν)} {store store' : κ → Option (Int × ν)}

theorem Shows.absorbed {w : Write κ ν} (shows : Shows writes store) (absorbs : Absorbs store w store') :
    Shows (insert w writes) store' := by
  refine ⟨?latest, ?unseen⟩
  case latest =>
    intro key time value found
    by_cases own : key = w.key
    · subst own
      rcases absorbs.own with ⟨written, newer⟩ | ⟨kept, entry, stored, older⟩
      · obtain ⟨rfl, rfl⟩ : w.time = time ∧ w.value = value := by simpa [written] using found
        refine ⟨Set.mem_insert _ _, ?_⟩
        rintro other (rfl | seen) same
        · exact Int.le_refl _
        · cases before : store w.key with
          | none => exact absurd same (shows.unseen w.key before other seen)
          | some entry =>
              have most := (shows.latest w.key entry.1 entry.2 before).2 other seen same
              exact Int.le_trans most (newer entry before)
      · rw [kept] at found
        obtain rfl : entry = (time, value) := Option.some.inj ((Option.mem_def.mp stored).symm.trans found)
        obtain ⟨seen, most⟩ := shows.latest _ _ _ found
        refine ⟨Set.mem_insert_of_mem _ seen, ?_⟩
        rintro other (rfl | seen') same
        · exact older
        · exact most other seen' same
    · rw [absorbs.others key own] at found
      obtain ⟨seen, most⟩ := shows.latest _ _ _ found
      refine ⟨Set.mem_insert_of_mem _ seen, ?_⟩
      rintro other (rfl | seen') same
      · exact absurd same.symm own
      · exact most other seen' same
  case unseen =>
    intro key missing
    have own : key ≠ w.key := by
      rintro rfl
      rcases absorbs.own with ⟨written, -⟩ | ⟨kept, entry, stored, -⟩
      · rw [written] at missing
        cases missing
      · rw [kept, Option.mem_def.mp stored] at missing
        cases missing
    rw [absorbs.others key own] at missing
    rintro other (rfl | seen) same
    · exact own same.symm
    · exact shows.unseen key missing other seen same

/-- Stores that have seen the same writes, in whatever order and however often, show the same. -/
theorem Shows.confluent (consistent : Consistent writes) (shows : Shows writes store) (shows' : Shows writes store') :
    store = store' := by
  funext key
  cases found : store key with
  | none =>
      cases found' : store' key with
      | none => rfl
      | some entry =>
          have seen := (shows'.latest key entry.1 entry.2 found').1
          exact absurd rfl (shows.unseen key found _ seen)
  | some entry =>
      cases found' : store' key with
      | none =>
          have seen := (shows.latest key entry.1 entry.2 found).1
          exact absurd rfl (shows'.unseen key found' _ seen)
      | some entry' =>
          have first := shows.latest key entry.1 entry.2 found
          have second := shows'.latest key entry'.1 entry'.2 found'
          have same := first.unique consistent second rfl
          rw [Write.mk.injEq] at same
          exact congrArg some (Prod.ext same.2.1 same.2.2)

theorem Shows.shown (consistent : Consistent writes) (shows : Shows writes store) {w : Write κ ν} (latest : Latest writes w) :
    store w.key = some (w.time, w.value) := by
  cases found : store w.key with
  | none => exact absurd rfl (shows.unseen w.key found w latest.1)
  | some entry =>
      have same := (shows.latest w.key entry.1 entry.2 found).unique consistent latest rfl
      rw [← same]

end stores

end LastWriter
