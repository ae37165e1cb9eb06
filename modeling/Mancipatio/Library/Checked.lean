import Mathlib

/-!
# Fallible code and checked machine arithmetic

Guards and checked operations in `Except`, with the equations that turn "this block returned `r`"
into the facts its guards established. Unsigned integers are natural numbers and signed ones are
integers; the width is an argument of each operation that can overflow.
-/

namespace Checked

universe u
variable {α β : Type u} {ε : Type*}

/-! ## Inversion of fallible blocks -/

@[simp] theorem bind_eq_ok {x : Except ε α} {f : α → Except ε β} {b : β} :
    (x >>= f) = .ok b ↔ ∃ a, x = .ok a ∧ f a = .ok b := by
  cases x <;> simp [Bind.bind, Except.bind]

@[simp] theorem pure_eq_ok {a b : α} : (pure a : Except ε α) = .ok b ↔ a = b := by
  simp [pure, Except.pure]

@[simp] theorem map_eq_ok {x : Except ε α} {f : α → β} {b : β} :
    f <$> x = .ok b ↔ ∃ a, x = .ok a ∧ f a = b := by
  cases x <;> simp [Functor.map, Except.map]

@[simp] theorem bind_eq_error {x : Except ε α} {f : α → Except ε β} {e : ε} :
    (x >>= f) = .error e ↔ x = .error e ∨ ∃ a, x = .ok a ∧ f a = .error e := by
  cases x <;> simp [Bind.bind, Except.bind]

@[simp] theorem pure_eq_error {a : α} {e : ε} : (pure a : Except ε α) = .error e ↔ False := by
  simp [pure, Except.pure]

@[simp] theorem throw_eq_ok {e : ε} {b : α} : (throw e : Except ε α) = .ok b ↔ False := by
  simp [throw, throwThe, MonadExceptOf.throw]

def require (c : Prop) [Decidable c] (e : ε) : Except ε Unit :=
  if c then .ok () else .error e

@[simp] theorem require_eq_ok {c : Prop} [Decidable c] {e : ε} {u : Unit} :
    require c e = .ok u ↔ c := by
  by_cases holds : c <;> simp [require, holds]

@[simp] theorem require_eq_error {c : Prop} [Decidable c] {e e' : ε} :
    require c e = .error e' ↔ ¬ c ∧ e = e' := by
  by_cases holds : c <;> simp [require, holds]

theorem require_congr {c d : Prop} [Decidable c] [Decidable d] (same : c ↔ d) (e : ε) : require c e = require d e := by
  by_cases holds : c
  · rw [require, require, if_pos holds, if_pos (same.mp holds)]
  · rw [require, require, if_neg holds, if_neg fun other => holds (same.mpr other)]

def okOr (o : Option α) (e : ε) : Except ε α :=
  match o with
  | some a => .ok a
  | none => .error e

@[simp] theorem okOr_eq_ok {o : Option α} {e : ε} {a : α} : okOr o e = .ok a ↔ o = some a := by
  cases o <;> simp [okOr]

@[simp] theorem okOr_eq_error {o : Option α} {e e' : ε} : okOr o e = .error e' ↔ o = none ∧ e = e' := by
  cases o <;> simp [okOr]

theorem mapM_eq_ok {f : α → Except ε β} {as : List α} {bs : List β} :
    as.mapM f = .ok bs ↔ List.Forall₂ (fun a b => f a = .ok b) as bs := by
  induction as generalizing bs with
  | nil => rw [List.mapM_nil, pure_eq_ok, List.forall₂_nil_left_iff, eq_comm]
  | cons a rest ih =>
      rw [List.mapM_cons, List.forall₂_cons_left_iff]
      simp only [bind_eq_ok, pure_eq_ok, ih]
      constructor
      · rintro ⟨b, first, others, later, rfl⟩
        exact ⟨b, others, first, later, rfl⟩
      · rintro ⟨b, others, first, later, rfl⟩
        exact ⟨b, first, others, later, rfl⟩

theorem mapM_eq_map {f : α → Except ε β} {g : α → β} {as : List α} {bs : List β}
    (each : ∀ a ∈ as, ∀ b, f a = .ok b ↔ b = g a) : as.mapM f = .ok bs ↔ bs = as.map g := by
  have succeeds : as.mapM f = .ok (as.map g) := by
    rw [mapM_eq_ok, List.forall₂_map_right_iff, List.forall₂_same]
    exact fun a member => (each a member _).mpr rfl
  rw [succeeds, Except.ok.injEq, eq_comm]

theorem foldlM_eq_map {σ : Type u} {f : α → Option β} {g : σ → β → σ} (s : σ) (as : List α) :
    as.foldlM (fun s a => (f a).map (g s)) s = (as.mapM f).map fun bs => bs.foldl g s := by
  induction as generalizing s with
  | nil => rfl
  | cons a rest ih =>
      rw [List.foldlM_cons, List.mapM_cons]
      cases f a with
      | none => rfl
      | some b =>
          change rest.foldlM (fun s a => (f a).map (g s)) (g s b) = _
          rw [ih (g s b)]
          cases rest.mapM f with
          | none => rfl
          | some bs => rfl

theorem mapM_eq_some {f : α → Option β} {as : List α} {bs : List β} :
    as.mapM f = some bs ↔ List.Forall₂ (fun a b => f a = some b) as bs := by
  induction as generalizing bs with
  | nil => rw [List.mapM_nil, Option.pure_def, Option.some.injEq, List.forall₂_nil_left_iff, eq_comm]
  | cons a rest ih =>
      rw [List.mapM_cons, List.forall₂_cons_left_iff]
      simp only [Option.bind_eq_bind, Option.bind_eq_some_iff, Option.pure_def, Option.some.injEq, ih]
      constructor
      · rintro ⟨b, first, others, later, rfl⟩
        exact ⟨b, others, first, later, rfl⟩
      · rintro ⟨b, others, first, later, rfl⟩
        exact ⟨b, first, others, later, rfl⟩

/-! ## Renamed errors -/

section mapError
variable {ε' : Type*} (f : ε → ε')

theorem mapError_bind (x : Except ε α) (k : α → Except ε β) :
    (x >>= k).mapError f = x.mapError f >>= fun a => (k a).mapError f := by
  cases x <;> rfl

theorem map_eq_bind (g : α → β) (x : Except ε α) : x.map g = x >>= fun a => pure (g a) := by
  cases x <;> rfl

theorem mapError_require {c : Prop} [Decidable c] (e : ε) : (require c e).mapError f = require c (f e) := by
  by_cases holds : c
  · rw [require, require, if_pos holds, if_pos holds]
    rfl
  · rw [require, require, if_neg holds, if_neg holds]
    rfl

end mapError

/-! ## Which errors a block can raise -/

def Raises (P : ε → Prop) (x : Except ε α) : Prop :=
  ∀ e, x = .error e → P e

namespace Raises

variable {P : ε → Prop}

theorem pure (a : α) : Raises P (Pure.pure a : Except ε α) := by
  intro e raised
  cases pure_eq_error.mp raised

theorem bind {x : Except ε α} {f : α → Except ε β} (first : Raises P x) (rest : ∀ a, x = .ok a → Raises P (f a)) :
    Raises P (x >>= f) := by
  intro e raised
  rcases bind_eq_error.mp raised with early | ⟨a, done, late⟩
  · exact first e early
  · exact rest a done e late

theorem require {c : Prop} [Decidable c] {e : ε} (allowed : P e) : Raises P (require c e) := by
  intro e' raised
  obtain ⟨-, rfl⟩ := require_eq_error.mp raised
  exact allowed

theorem guard {γ : Type} {c : Prop} [Decidable c] {e : ε} {f : Unit → Except ε γ} (allowed : P e)
    (rest : c → Raises P (f ())) : Raises P (Checked.require c e >>= f) := by
  apply bind (require allowed)
  intro u passed
  exact rest (require_eq_ok.mp passed)

theorem okOr {o : Option α} {e : ε} (allowed : P e) : Raises P (okOr o e) := by
  intro e' raised
  obtain ⟨-, rfl⟩ := okOr_eq_error.mp raised
  exact allowed

theorem fits {o : Option α} {a : α} {e : ε} {f : α → Except ε β} (exact : o = some a) (rest : Raises P (f a)) :
    Raises P (Checked.okOr o e >>= f) := by
  subst exact
  exact rest

end Raises

/-! ## Unsigned arithmetic of a width -/

def checkedAdd (w a b : Nat) : Option Nat :=
  if a + b < 2 ^ w then some (a + b) else none

@[simp] theorem checkedAdd_eq_some {w a b c : Nat} :
    checkedAdd w a b = some c ↔ a + b = c ∧ a + b < 2 ^ w := by
  unfold checkedAdd
  split <;> rename_i fits <;> simp [fits]

def checkedSub (a b : Nat) : Option Nat :=
  if b ≤ a then some (a - b) else none

@[simp] theorem checkedSub_eq_some {a b c : Nat} : checkedSub a b = some c ↔ a - b = c ∧ b ≤ a := by
  unfold checkedSub
  split <;> rename_i fits <;> simp [fits]

def checkedDiv (a b : Nat) : Option Nat :=
  if b = 0 then none else some (a / b)

@[simp] theorem checkedDiv_eq_some {a b c : Nat} : checkedDiv a b = some c ↔ a / b = c ∧ b ≠ 0 := by
  unfold checkedDiv
  split <;> rename_i zero <;> simp [zero]

def checkedMul (w a b : Nat) : Option Nat :=
  if a * b < 2 ^ w then some (a * b) else none

@[simp] theorem checkedMul_eq_some {w a b c : Nat} :
    checkedMul w a b = some c ↔ a * b = c ∧ a * b < 2 ^ w := by
  unfold checkedMul
  split <;> rename_i fits <;> simp [fits]

def saturatingAdd (w a b : Nat) : Nat :=
  min (a + b) (2 ^ w - 1)

theorem saturatingAdd_of_lt {w a b : Nat} (fits : a + b < 2 ^ w) : saturatingAdd w a b = a + b :=
  Nat.min_eq_left (Nat.le_sub_one_of_lt fits)

def truncate (w a : Nat) : Nat :=
  a % 2 ^ w

theorem truncate_of_lt {w a : Nat} (fits : a < 2 ^ w) : truncate w a = a :=
  Nat.mod_eq_of_lt fits

theorem truncate_le (w a : Nat) : truncate w a ≤ a :=
  Nat.mod_le _ _

/-! ## Signed arithmetic of a width -/

def checkedAddInt (w : Nat) (a b : Int) : Option Int :=
  if -2 ^ (w - 1) ≤ a + b ∧ a + b < 2 ^ (w - 1) then some (a + b) else none

@[simp] theorem checkedAddInt_eq_some {w : Nat} {a b c : Int} :
    checkedAddInt w a b = some c ↔ a + b = c ∧ -2 ^ (w - 1) ≤ a + b ∧ a + b < 2 ^ (w - 1) := by
  unfold checkedAddInt
  split <;> rename_i fits <;> simp [fits]

def checkedMulInt (w : Nat) (a b : Int) : Option Int :=
  if -2 ^ (w - 1) ≤ a * b ∧ a * b < 2 ^ (w - 1) then some (a * b) else none

@[simp] theorem checkedMulInt_eq_some {w : Nat} {a b c : Int} :
    checkedMulInt w a b = some c ↔ a * b = c ∧ -2 ^ (w - 1) ≤ a * b ∧ a * b < 2 ^ (w - 1) := by
  unfold checkedMulInt
  split <;> rename_i fits <;> simp [fits]

def saturatingAddInt (w : Nat) (a b : Int) : Int :=
  max (-2 ^ (w - 1)) (min (2 ^ (w - 1) - 1) (a + b))

end Checked
