import Mathlib

/-!
# Counting the occupied slots of a store

A store maps addresses to what is stored there. Filling an empty slot adds one to the number of occupied
slots, emptying a full one takes one away, and overwriting changes nothing.
-/

namespace Slots

variable {κ β : Type*} [DecidableEq κ] {slots : κ → Option β} {k : κ} {old : β}

def occupied (slots : κ → Option β) : Set κ := {k | (slots k).isSome}

omit [DecidableEq κ] in
theorem mem_occupied (held : slots k = some old) : k ∈ occupied slots := by
  show (slots k).isSome
  rw [held]
  rfl

omit [DecidableEq κ] in
theorem notMem_occupied (empty : slots k = none) : k ∉ occupied slots := by
  show ¬ (slots k).isSome
  rw [empty]
  exact Bool.false_ne_true

theorem occupied_fill (new : β) : occupied (Function.update slots k (some new)) = insert k (occupied slots) := by
  ext k'
  by_cases same : k' = k
  · subst same
    simp [occupied]
  · simp [occupied, same]

theorem occupied_vacate : occupied (Function.update slots k none) = occupied slots \ {k} := by
  ext k'
  by_cases same : k' = k
  · subst same
    simp [occupied]
  · simp [occupied, same]

theorem encard_fill (empty : slots k = none) (new : β) :
    (occupied (Function.update slots k (some new))).encard = (occupied slots).encard + 1 := by
  rw [occupied_fill, Set.encard_insert_of_notMem (notMem_occupied empty)]

theorem occupied_overwrite (held : slots k = some old) (new : β) :
    occupied (Function.update slots k (some new)) = occupied slots := by
  rw [occupied_fill, Set.insert_eq_of_mem (mem_occupied held)]

theorem encard_vacate (held : slots k = some old) :
    (occupied (Function.update slots k none)).encard + 1 = (occupied slots).encard := by
  rw [occupied_vacate, Set.encard_sdiff_singleton_add_one (mem_occupied held)]

theorem count_vacate (held : slots k = some old) {n : Nat} (counted : (n : ℕ∞) = (occupied slots).encard) :
    0 < n ∧ ((n - 1 : Nat) : ℕ∞) = (occupied (Function.update slots k none)).encard := by
  have left := encard_vacate held
  rw [← counted] at left
  cases rest : (occupied (Function.update slots k none)).encard using ENat.recTopCoe with
  | top =>
      rw [rest, top_add] at left
      exact absurd left (ENat.top_ne_natCast n)
  | coe m =>
      rw [rest] at left
      have next : m + 1 = n := by exact_mod_cast left
      subst next
      exact ⟨Nat.succ_pos m, rfl⟩

end Slots
