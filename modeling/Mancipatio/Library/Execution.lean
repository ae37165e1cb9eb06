import Mathlib

/-!
# Finite executions of a partial step function

A step function maps a state and a label to the next state or an error. A failed step leaves no
state behind, so an execution lists the successful steps only. Histories are read by index:
`run.state i` is the state before step `i` and `run.label i` is what that step did.
-/

namespace Execution

variable {σ α ε β : Type*}

structure Run (step : σ → α → Except ε σ) (initial : σ) where
  length : Nat
  state : Nat → σ
  label : Nat → α
  starts : state 0 = initial
  next : ∀ i < length, step (state i) (label i) = .ok (state (i + 1))

namespace Run

variable {step : σ → α → Except ε σ} {initial : σ}

/-! ## Invariants -/

theorem invariant_from (run : Run step initial) {P : σ → Prop} {first : Nat}
    (start : P (run.state first))
    (preserved : ∀ i < run.length, first ≤ i → P (run.state i) → P (run.state (i + 1))) :
    ∀ i ≤ run.length, first ≤ i → P (run.state i) := by
  intro i within after
  induction i, after using Nat.le_induction with
  | base => exact start
  | succ i after ih => exact preserved i within after (ih (Nat.le_of_succ_le within))

theorem invariant (run : Run step initial) {P : σ → Prop} (start : P initial)
    (preserved : ∀ s a t, P s → step s a = .ok t → P t) :
    ∀ i ≤ run.length, P (run.state i) := by
  intro i within
  refine run.invariant_from (by rwa [run.starts]) ?_ i within (Nat.zero_le i)
  exact fun i within _ holds => preserved _ _ _ holds (run.next i within)

theorem related (run : Run step initial) {R : σ → σ → Prop} (refl : ∀ s, R s s)
    (trans : ∀ {s t u}, R s t → R t u → R s u) {first last : Nat} (within : last ≤ run.length)
    (ordered : first ≤ last)
    (steps : ∀ i < run.length, first ≤ i → R (run.state i) (run.state (i + 1))) :
    R (run.state first) (run.state last) := by
  refine run.invariant_from (P := R (run.state first)) (refl _) ?_ last within ordered
  exact fun i within after sofar => trans sofar (steps i within after)

def simulate {τ β δ : Type*} {step' : τ → β → Except δ τ} (run : Run step initial) (view : σ → τ) (label : α → β)
    (simulates : ∀ s a t, step s a = .ok t → step' (view s) (label a) = .ok (view t)) :
    Run step' (view initial) where
  length := run.length
  state := fun i => view (run.state i)
  label := fun i => label (run.label i)
  starts := by rw [run.starts]
  next := fun i within => simulates _ _ _ (run.next i within)

/-! ## The origin of a stored value -/

/-- What a slot holds now and did not hold at first was written by a step since which the slot has
not changed. -/
theorem lastWrite (run : Run step initial) (slot : σ → β) {v : β} {i : Nat}
    (holds : slot (run.state i) = v) (initially : slot initial ≠ v) :
    ∃ j < i, slot (run.state j) ≠ v ∧ ∀ k, j < k → k ≤ i → slot (run.state k) = v := by
  induction i with
  | zero => exact absurd (run.starts ▸ holds) initially
  | succ i ih =>
      by_cases before : slot (run.state i) = v
      · obtain ⟨j, lt, differs, since⟩ := ih before
        refine ⟨j, Nat.lt_succ_of_lt lt, differs, fun k after upto => ?_⟩
        rcases Nat.lt_or_eq_of_le upto with earlier | rfl
        · exact since k after (Nat.le_of_lt_succ earlier)
        · exact holds
      · refine ⟨i, Nat.lt_succ_self i, before, fun k after upto => ?_⟩
        rw [Nat.le_antisymm upto after]
        exact holds

/-- Where every step either writes a slot or leaves it, what the slot holds was put there by the last step
that wrote it. -/
theorem lastWriter (run : Run step initial) (slot : σ → Option β) (writes : α → Prop) (Q : σ → α → β → Prop)
    (initially : slot initial = none)
    (steps : ∀ s a t, step s a = .ok t → writes a ∧ (∀ v, slot t = some v → Q s a v) ∨ ¬ writes a ∧ slot t = slot s) :
    ∀ i ≤ run.length, ∀ v, slot (run.state i) = some v →
      ∃ j < i, writes (run.label j) ∧ Q (run.state j) (run.label j) v ∧ ∀ k, j < k → k < i → ¬ writes (run.label k) := by
  intro i
  induction i with
  | zero =>
      intro _ v holds
      rw [run.starts, initially] at holds
      cases holds
  | succ i ih =>
      intro within v holds
      rcases steps _ _ _ (run.next i within) with ⟨wrote, written⟩ | ⟨kept, same⟩
      · exact ⟨i, Nat.lt_succ_self i, wrote, written v holds, fun k after before => absurd after (Nat.not_lt.mpr (Nat.le_of_lt_succ before))⟩
      · obtain ⟨j, before, wrote, written, since⟩ := ih (Nat.le_of_succ_le within) v (same ▸ holds)
        refine ⟨j, Nat.lt_succ_of_lt before, wrote, written, fun k after upto => ?_⟩
        rcases Nat.lt_or_eq_of_le (Nat.le_of_lt_succ upto) with earlier | rfl
        · exact since k after earlier
        · exact kept

/-- What holds at one time and not at a later one is given up by a step in between. -/
theorem givenUp (run : Run step initial) {P : σ → Prop} {i j : Nat} (after : i ≤ j) (had : P (run.state i))
    (lost : ¬ P (run.state j)) : ∃ k, i ≤ k ∧ k < j ∧ P (run.state k) ∧ ¬ P (run.state (k + 1)) := by
  induction j, after using Nat.le_induction with
  | base => exact absurd had lost
  | succ j after ih =>
      by_cases still : P (run.state j)
      · exact ⟨j, after, Nat.lt_succ_self j, still, lost⟩
      · obtain ⟨k, later, before, held, gone⟩ := ih still
        exact ⟨k, later, Nat.lt_succ_of_lt before, held, gone⟩

/-! ## Totals -/

def total {step : σ → α → Except ε σ} {initial : σ} (run : Run step initial) (f : σ → α → Nat) : Nat → Nat
  | 0 => 0
  | n + 1 => total run f n + f (run.state n) (run.label n)

theorem stock_add_outflow (run : Run step initial) {stock : σ → Nat} {inflow outflow : σ → α → Nat}
    (balanced : ∀ s a t, step s a = .ok t → stock t + outflow s a = stock s + inflow s a) :
    ∀ n ≤ run.length, stock (run.state n) + run.total outflow n = stock initial + run.total inflow n := by
  intro n within
  induction n with
  | zero => simp [total, run.starts]
  | succ n ih =>
      have sofar := ih (Nat.le_of_succ_le within)
      have moved := balanced _ _ _ (run.next n within)
      simp only [total]
      omega

end Run

/-! ## Replaying a list of labels -/

def replay (step : σ → α → Except ε σ) : σ → List α → Nat → σ
  | s, _, 0 => s
  | s, [], _ + 1 => s
  | s, a :: rest, i + 1 => match step s a with
      | .ok t => replay step t rest i
      | .error _ => s

def accepts (step : σ → α → Except ε σ) : σ → List α → Bool
  | _, [] => true
  | s, a :: rest => match step s a with
      | .ok t => accepts step t rest
      | .error _ => false

theorem replay_next [Inhabited α] {step : σ → α → Except ε σ} (labels : List α) (s : σ)
    (accepted : accepts step s labels = true) (i : Nat) (within : i < labels.length) :
    step (replay step s labels i) (labels.getD i default) = .ok (replay step s labels (i + 1)) := by
  induction labels generalizing s i with
  | nil => cases within
  | cons a rest ih =>
      cases action : step s a with
      | error failure => simp [accepts, action] at accepted
      | ok t =>
          simp only [accepts, action] at accepted
          cases i with
          | zero => simp [replay, action]
          | succ i => simpa [replay, action] using ih t accepted i (Nat.lt_of_succ_lt_succ within)

def Run.ofLabels [Inhabited α] (step : σ → α → Except ε σ) (initial : σ) (labels : List α)
    (accepted : accepts step initial labels = true) : Run step initial where
  length := labels.length
  state := replay step initial labels
  label := fun i => labels.getD i default
  starts := by cases labels <;> rfl
  next := replay_next labels initial accepted

theorem Run.label_mem_ofLabels [Inhabited α] {step : σ → α → Except ε σ} {initial : σ} {labels : List α}
    {accepted : accepts step initial labels = true} {i : Nat} (within : i < labels.length) :
    (Run.ofLabels step initial labels accepted).label i ∈ labels := by
  show labels.getD i default ∈ labels
  rw [List.getD_eq_getElem _ _ within]
  exact List.getElem_mem within

/-! ## Tables of a state -/

theorem updated_cases {κ γ : Type*} [DecidableEq κ] {table : κ → γ} {key other : κ} {new entry : γ}
    (found : Function.update table key new other = entry) :
    other = key ∧ new = entry ∨ other ≠ key ∧ table other = entry := by
  by_cases same : other = key
  · subst same
    rw [Function.update_self] at found
    exact .inl ⟨rfl, found⟩
  · rw [Function.update_of_ne same] at found
    exact .inr ⟨same, found⟩

theorem updated_row {κ γ : Type*} [DecidableEq κ] {table : κ → Option γ} {key other : κ} {new row : γ}
    (found : Function.update table key (some new) other = some row) :
    other = key ∧ row = new ∨ other ≠ key ∧ table other = some row := by
  apply (updated_cases found).imp_left
  rintro ⟨same, stored⟩
  exact ⟨same, (Option.some.inj stored).symm⟩

end Execution
