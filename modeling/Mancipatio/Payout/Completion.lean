import Mancipatio.Payout.Front

/-!
# Every vault can pay out its schedule
-/

namespace Mancipatio.Payout
open Checked Execution

def Leads (hashv : Hashv) : PayoutEscrow → PayoutEscrow → Prop :=
  Relation.ReflTransGen fun v v' => ∃ instruction, step hashv v instruction = .ok v'

structure Progress (vault : PayoutVault) (k : Nat) (v : PayoutEscrow) : Prop where
  on : OnSchedule v
  bounded : Bounded v
  current : v.vault.version = 2
  terms : v.vault.startTs = vault.startTs ∧ v.vault.numTranches = vault.numTranches ∧
    v.vault.totalAmount = vault.totalAmount
  posted : v.vault.updatesPosted = k
  paid : v.vault.tranchesReleased = k
  active : k < vault.numTranches → v.vault.state = .active
  clock : v.now = vault.startTs + k * month
  escrow : v.escrow + v.vault.released = v.vault.totalAmount

theorem release_within {v : PayoutEscrow} {amount : Nat} (on : OnSchedule v) (active : v.vault.state = .active)
    (pending : v.vault.tranchesReleased < v.vault.numTranches)
    (exact : amount = if v.vault.tranchesReleased + 1 = v.vault.numTranches
      then v.vault.totalAmount - v.vault.released else v.vault.trancheAmount) :
    v.vault.released + amount ≤ v.vault.totalAmount := by
  have advanced := onSchedule_released on active exact
  split at advanced
  · exact advanced.le
  · calc v.vault.released + amount = v.vault.trancheAmount * (v.vault.tranchesReleased + 1) := advanced
      _ ≤ v.vault.trancheAmount * v.vault.numTranches := Nat.mul_le_mul_left _ pending
      _ ≤ v.vault.totalAmount := Nat.mul_comm v.vault.trancheAmount _ ▸ on.whole

theorem releasePayout_vault {v v' : PayoutVault} {pauseFlags : PauseFlags} {issuerFrozen founderBlocked : Bool}
    {now : Int} {amount : Nat} (released : releasePayout v pauseFlags issuerFrozen founderBlocked now = .ok (v', amount)) :
    v' = { v with
      released := v.released + amount
      tranchesReleased := v.tranchesReleased + 1
      state := if v.tranchesReleased + 1 = v.numTranches then .completed else v.state } := by
  simp only [releasePayout, bind_eq_ok, require_eq_ok, okOr_eq_ok, checkedAdd_eq_some, pure_eq_ok, Prod.mk.injEq,
    exists_const] at released
  obtain ⟨-, -, -, -, _, -, -, _, ⟨rfl, -⟩, _, ⟨rfl, -⟩, rfl, rfl⟩ := released
  rfl

section progress
variable {hashv : Hashv} {vault : PayoutVault} {v : PayoutEscrow} {k : Nat}

theorem Progress.posts (sofar : Progress vault k v) (more : k < vault.numTranches) (late : v.now < 2 ^ 63) :
    step hashv v (.postUpdate v.vault.founder) =
      .ok { v with vault := { v.vault with updatesPosted := k + 1, lastUpdateTs := v.now } } := by
  have due : nextUpdateDue v.vault v.now = true := by
    rw [nextUpdateDue, if_neg (by simp [sofar.current, sofar.active more]), sofar.terms.2.1, sofar.posted,
      if_neg (Nat.not_le.mpr more)]
    apply decide_eq_true
    rw [periodTs, sofar.clock, sofar.terms.1]
    exact Int.le_refl _
  obtain ⟨vault', posted⟩ := (update_agrees sofar.bounded.begun sofar.bounded.few sofar.current late).mp due
  have reported := postUpdate_ok posted
  rw [sofar.posted] at reported
  simp only [step, posted, reported]
  rfl

theorem Progress.releases (sofar : Progress vault k v) (more : k < vault.numTranches) (late : v.now + month < 2 ^ 63) :
    ∃ v', Leads hashv v v' ∧ Progress vault (k + 1) v' := by
  have clock : v.now < 2 ^ 63 := by
    unfold month at late
    omega
  have posted := @Progress.posts hashv _ _ _ sofar more clock
  generalize reported : { v with vault := { v.vault with updatesPosted := k + 1, lastUpdateTs := v.now } } = w at posted
  have on := onSchedule_step sofar.on posted
  have bounded := bounded_step sofar.bounded posted
  subst reported
  have ready : nextReleaseReady { v.vault with updatesPosted := k + 1, lastUpdateTs := v.now } v.now = true := by
    rw [nextReleaseReady, if_neg (by simp [sofar.current, sofar.active more])]
    simp only [sofar.terms.2.1, sofar.paid]
    rw [if_neg (Nat.not_le.mpr more), if_neg (by simp [periodTs, sofar.clock, sofar.terms.1, monthSeconds, month])]
    exact decide_eq_true (Nat.lt_succ_self k)
  obtain ⟨⟨vault', amount⟩, released⟩ := (release_agrees on bounded sofar.current clock).mp ready
  obtain ⟨active, pending, exact, -⟩ := releasePayout_ok released
  have within := release_within on active pending exact
  have funded := sofar.escrow
  have stepped : step hashv { v with vault := { v.vault with updatesPosted := k + 1, lastUpdateTs := v.now } }
      (.releasePayout 0 false false) = .ok { v with vault := vault', escrow := v.escrow - amount } := by
    simp only [step, bind_eq_ok, pure_eq_ok, Prod.exists]
    refine ⟨vault', amount, released, v.escrow - amount, ?_, rfl⟩
    rw [pay, okOr_eq_ok, checkedSub_eq_some]
    exact ⟨rfl, by dsimp only at within; omega⟩
  have on' := onSchedule_step on stepped
  have bounded' := bounded_step bounded stepped
  have ticked : step hashv { v with vault := vault', escrow := v.escrow - amount } (.tick 2592000) =
      .ok { v with vault := vault', escrow := v.escrow - amount, now := v.now + month } := rfl
  refine ⟨_, ((Relation.ReflTransGen.single ⟨_, posted⟩).tail ⟨_, stepped⟩).tail ⟨_, ticked⟩, ?_⟩
  have shape := releasePayout_vault released
  exact
    { on := onSchedule_step on' ticked
      bounded := bounded_step bounded' ticked
      current := by
        rw [shape]
        exact sofar.current
      terms := by
        rw [shape]
        exact sofar.terms
      posted := by rw [shape]
      paid := by
        rw [shape]
        exact congrArg Nat.succ sofar.paid
      active := by
        intro further
        rw [shape]
        dsimp only
        rw [sofar.paid, sofar.terms.2.1, if_neg (by omega)]
        exact sofar.active more
      clock := by
        dsimp only
        rw [sofar.clock]
        push_cast
        ring
      escrow := by
        rw [shape]
        dsimp only at within ⊢
        omega }

theorem Progress.completes (sofar : Progress vault 0 v) (late : vault.startTs + 256 * month < 2 ^ 63) :
    ∀ k ≤ vault.numTranches, ∃ v', Leads hashv v v' ∧ Progress vault k v' := by
  intro k within
  induction k with
  | zero => exact ⟨v, .refl, sofar⟩
  | succ k ih =>
      obtain ⟨v₁, leads, progress⟩ := ih (Nat.le_of_succ_le within)
      have few := progress.bounded.few
      rw [progress.terms.2.1] at few
      obtain ⟨v₂, further, next⟩ := @Progress.releases hashv _ _ _ progress within (by
        rw [progress.clock]
        unfold month at *
        omega)
      exact ⟨v₂, leads.trans further, next⟩

end progress

/-- A vault that was opened before the end of the calendar can pay out all that it holds. -/
theorem opened_completes {hashv : Hashv} {saleAuthority authority : Pubkey} {saleOpen issuerFrozen : Bool}
    {raiseType : RaiseType} {cliffMonths vestingMonths proceeds : Nat} {now : Int} {vault : PayoutVault}
    (clock : 0 ≤ now) (months : vestingMonths < 2 ^ 8) (funds : proceeds < 2 ^ 64) (late : now + 511 * month < 2 ^ 63)
    (created : openPayoutVault saleAuthority authority saleOpen raiseType cliffMonths vestingMonths
      proceeds issuerFrozen now = .ok vault) :
    ∃ v, Leads hashv (opened vault now) v ∧ v.vault.tranchesReleased = vault.numTranches ∧
      v.vault.released = proceeds ∧ v.vault.state = .completed ∧ v.escrow = 0 := by
  have on := onSchedule_opened created
  have bounded := bounded_opened clock months funds created
  obtain ⟨some, -, shape⟩ := openPayoutVault_ok created
  have start : vault.startTs = now + cliffMonths * month := by rw [shape]
  have holds : vault.totalAmount = proceeds := by rw [shape]
  have ticked : step hashv (opened vault now) (.tick (cliffMonths * 2592000)) =
      .ok { opened vault now with now := now + (cliffMonths * 2592000 : Nat) } := rfl
  have ready : Progress vault 0 { opened vault now with now := now + (cliffMonths * 2592000 : Nat) } :=
    { on := onSchedule_step on ticked
      bounded := bounded_step bounded ticked
      current := by
        rw [shape]
        rfl
      terms := ⟨rfl, rfl, rfl⟩
      posted := by
        rw [shape]
        rfl
      paid := by
        rw [shape]
        rfl
      active := by
        intro _
        rw [shape]
        rfl
      clock := by
        rw [start]
        unfold month
        push_cast
        ring
      escrow := by
        rw [shape]
        rfl }
  obtain ⟨v, leads, progress⟩ := @Progress.completes hashv _ _ ready (by
    rw [start]
    unfold month at *
    omega) _ (Nat.le_refl _)
  have all : v.vault.tranchesReleased = v.vault.numTranches := by
    rw [progress.paid, progress.terms.2.1]
  rcases progress.on.paid with ⟨pending, -⟩ | ⟨-, completed, released⟩
  · exact absurd all pending.ne
  · have total := progress.terms.2.2
    have escrow := progress.escrow
    refine ⟨v, .head ⟨_, ticked⟩ leads, progress.paid, released.trans (total.trans holds), completed, ?_⟩
    omega

end Mancipatio.Payout
