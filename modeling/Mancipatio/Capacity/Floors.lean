import Mancipatio.Capacity.Linking

/-!
# The floor of a revaluation

A revaluation never lowers what a row counts. It leaves it at the value of what it stands for or above, as long as no
cent is lost where a quotient is rounded.
-/

namespace Mancipatio.Capacity
open Checked Rows Execution

def Reservation.countedEur (r : Reservation) : Nat :=
  match r.status with
  | .reserved | .consumed => r.amountEur
  | .booked amountEur _ _ => amountEur
  | .released _ => 0

/-! ## Cents -/

def eurCents (units : Nat) (rate : Rate) (decimals : Nat) : Nat :=
  ⌈(units : Rat) * rate.1 / 10 ^ decimals * 100⌉₊

/-- Rounding the quotient of a conversion does not lower it to a whole cent. -/
def ConversionKeeps (units : Nat) (rate : Rate) (decimals : Nat) : Prop :=
  Decimals.KeepsCeil 2 (Decimals.divScale (units * rate.1) (10 ^ decimals) 10 (16 - decimals)) (units * rate.1 / 10 ^ decimals)
  deriving Decidable

def RescalingKeeps (bookedEur : Nat) (rate locked : Rate) : Prop :=
  Decimals.KeepsCeil 2 (Decimals.divScale ((bookedEur : Rat) / 100 * rate.1) locked.1 12 10) ((bookedEur : Rat) / 100 * rate.1 / locked.1)
  deriving Decidable

theorem eurCents_le_iff {units decimals : Nat} {rate : Rate} :
    eurCents units rate decimals ≤ saleCapacityEur units rate decimals ↔ ConversionKeeps units rate decimals := by
  have positive := rate.2.le
  have scale : 2 ≤ Decimals.divScale (units * rate.1) (10 ^ decimals) 10 (16 - decimals) := by
    unfold Decimals.divScale
    omega
  have cents := @Decimals.keepsCeil_iff 2 _ (units * rate.1 / 10 ^ decimals) (by positivity) scale
  rwa [show (10 : ℚ) ^ 2 = 100 by norm_num] at cents

theorem le_saleCapacityEur {units decimals : Nat} {rate : Rate} (keeps : ConversionKeeps units rate decimals) :
    (units : ℚ) * rate.1 / 10 ^ decimals * 100 ≤ saleCapacityEur units rate decimals :=
  Nat.ceil_le.mp (eurCents_le_iff.mpr keeps)

/-- What is above a value at the locked rate is above it at another one once it is rescaled. -/
theorem le_rescaledEur {units decimals bookedEur : Nat} {rate locked : Rate} (keeps : RescalingKeeps bookedEur rate locked)
    (covered : (units : ℚ) * locked.1 / 10 ^ decimals * 100 ≤ bookedEur) :
    (units : ℚ) * rate.1 / 10 ^ decimals * 100 ≤ rescaledEur bookedEur rate locked := by
  have positive : (0 : ℚ) < locked.1 := locked.2
  have nonneg := rate.2.le
  have factor : (0 : ℚ) ≤ rate.1 / locked.1 := div_nonneg rate.2.le locked.2.le
  have scale : 2 ≤ Decimals.divScale ((bookedEur : Rat) / 100 * rate.1) locked.1 12 10 := by
    unfold Decimals.divScale
    omega
  have cents := (@Decimals.keepsCeil_iff 2 _ (bookedEur / 100 * rate.1 / locked.1) (by positivity) scale).mpr keeps
  rw [show (10 : ℚ) ^ 2 = 100 by norm_num, Nat.ceil_le] at cents
  calc (units : ℚ) * rate.1 / 10 ^ decimals * 100
      = (units : ℚ) * locked.1 / 10 ^ decimals * 100 * (rate.1 / locked.1) := by field_simp
    _ ≤ bookedEur * (rate.1 / locked.1) := mul_le_mul_of_nonneg_right covered factor
    _ = bookedEur / 100 * rate.1 / locked.1 * 100 := by ring
    _ ≤ rescaledEur bookedEur rate locked := cents

/-! ## One row -/

inductive Revalued (l : Ledger) (unreserved : List Nat) (r : Reservation) : Ledger → Reservation → Prop where
  | live {terms fx} : r.terms = some terms → fxEffectiveRate l terms.paymentMint = some fx → r.live = true →
      indexesHold (l.rewrite (r.revaluedLive terms fx.eurPerToken)).reservations →
      Revalued l unreserved r (l.rewrite (r.revaluedLive terms fx.eurPerToken)) (r.revaluedLive terms fx.eurPerToken)
  | booked {terms fx bookedEur issuedAt issuance} : r.terms = some terms → fxEffectiveRate l terms.paymentMint = some fx →
      r.status = .booked bookedEur issuedAt issuance → terms.fxRate < fx.eurPerToken →
      indexesHold (l.rewrite (r.revaluedBooked terms fx.eurPerToken bookedEur issuedAt issuance)).reservations →
      Revalued l unreserved r
        (writeIssuance (l.rewrite (r.revaluedBooked terms fx.eurPerToken bookedEur issuedAt issuance)) issuance
          (max (max bookedEur (rescaledEur bookedEur fx.eurPerToken terms.fxRate))))
        (r.revaluedBooked terms fx.eurPerToken bookedEur issuedAt issuance)
  | mint {units signature bookedEur issuedAt issuance} : r.kind = .treasuryMint units signature →
      r.status = .booked bookedEur issuedAt issuance → r.id ∈ unreserved →
      indexesHold (l.rewrite (r.valuedAt (max r.amountEur (mintFloor l r.shareClass units).floorEur) issuedAt issuance)).reservations →
      Revalued l unreserved r
        (writeIssuance (l.rewrite (r.valuedAt (max r.amountEur (mintFloor l r.shareClass units).floorEur) issuedAt issuance)) issuance
          (max (max r.amountEur (mintFloor l r.shareClass units).floorEur)))
        (r.valuedAt (max r.amountEur (mintFloor l r.shareClass units).floorEur) issuedAt issuance)
  | unchanged : (∀ terms, r.terms = some terms → r.live = false ∧
      (r.booked = true → ∃ fx, fxEffectiveRate l terms.paymentMint = some fx ∧ fx.eurPerToken ≤ terms.fxRate)) →
      Revalued l unreserved r l r

section row
variable {l l' : Ledger} {r row : Reservation} {unreserved : List Nat}

theorem kind_of_terms {terms : SaleTerms} : r.kind = .sale terms ↔ r.terms = some terms := by
  rw [Reservation.terms]
  cases r.kind with
  | sale terms' => simp
  | treasuryMint units signature => simp

theorem revalued_ok (stepped : revalued l unreserved r = .ok (l', row)) : Revalued l unreserved r l' row := by
  unfold revalued at stepped
  cases kind : r.kind with
  | sale terms =>
      have sale := kind_of_terms.mp kind
      have only : ∀ {terms'}, r.terms = some terms' → terms' = terms := fun stored => Option.some.inj (stored.symm.trans sale)
      simp only [kind, bind_eq_ok, okOr_eq_ok, require_eq_ok, exists_const] at stepped
      obtain ⟨fx, effective, -, -, stepped⟩ := stepped
      cases status : r.status with
      | reserved | consumed =>
          simp only [status, bind_eq_ok, pure_eq_ok, Prod.mk.injEq] at stepped
          obtain ⟨_, updated, rfl, rfl⟩ := stepped
          obtain ⟨rfl, kept⟩ := updateReservation_ok updated
          exact .live sale effective (by rw [Reservation.live, status]) kept
      | booked bookedEur issuedAt issuance =>
          simp only [status] at stepped
          split at stepped
          case isTrue larger =>
            simp only [bind_eq_ok, pure_eq_ok, Prod.mk.injEq] at stepped
            obtain ⟨_, updated, rfl, rfl⟩ := stepped
            obtain ⟨rfl, kept⟩ := updateReservation_ok updated
            exact .booked sale effective status larger kept
          case isFalse smaller =>
            simp only [pure_eq_ok, Prod.mk.injEq] at stepped
            obtain ⟨rfl, rfl⟩ := stepped
            refine .unchanged fun terms' stored => ⟨by rw [Reservation.live, status], fun _ => ⟨fx, ?_⟩⟩
            rw [only stored]
            exact ⟨effective, not_lt.mp smaller⟩
      | released reason =>
          simp only [status, pure_eq_ok, Prod.mk.injEq] at stepped
          obtain ⟨rfl, rfl⟩ := stepped
          refine .unchanged fun _ _ => ⟨by rw [Reservation.live, status], fun booked => ?_⟩
          rw [Reservation.booked, status] at booked
          cases booked
  | treasuryMint units signature =>
      have treasury : ∀ terms, r.terms ≠ some terms := by
        intro terms stored
        rw [kind_of_terms.mpr stored] at kind
        cases kind
      simp only [kind] at stepped
      cases status : r.status with
      | reserved | consumed | released =>
          simp only [status, pure_eq_ok, Prod.mk.injEq] at stepped
          obtain ⟨rfl, rfl⟩ := stepped
          exact .unchanged fun terms stored => absurd stored (treasury terms)
      | booked bookedEur issuedAt issuance =>
          simp only [status] at stepped
          split at stepped
          case isTrue allowed =>
            simp only [bind_eq_ok, require_eq_ok, exists_const, pure_eq_ok, Prod.mk.injEq] at stepped
            obtain ⟨-, -, _, updated, rfl, rfl⟩ := stepped
            obtain ⟨rfl, kept⟩ := updateReservation_ok updated
            exact .mint kind status allowed.2 kept
          case isFalse =>
            simp only [pure_eq_ok, Prod.mk.injEq] at stepped
            obtain ⟨rfl, rfl⟩ := stepped
            exact .unchanged fun terms stored => absurd stored (treasury terms)

theorem revaluedLive_continues (terms : SaleTerms) (rate : Rate) : r.Continues (r.revaluedLive terms rate) :=
  ⟨rfl, rfl, rfl⟩

theorem revaluedBooked_continues (terms : SaleTerms) (rate : Rate) (bookedEur : Nat) (issuedAt : Date) (issuance : Option Nat) :
    r.Continues (r.revaluedBooked terms rate bookedEur issuedAt issuance) :=
  ⟨rfl, rfl, rfl⟩

theorem valuedAt_continues (amountEur : Nat) (issuedAt : Date) (issuance : Option Nat) :
    r.Continues (r.valuedAt amountEur issuedAt issuance) :=
  ⟨rfl, rfl, rfl⟩

theorem writeIssuance_raised {issuance : Option Nat} {value : Nat → Nat} (raises : ∀ n, n ≤ value n) {k : Nat} {i : SpvIssuance}
    (found : l.issuances[k]? = some i) : ∃ i', (writeIssuance l issuance value).issuances[k]? = some i' ∧ i'.id = i.id ∧
      i.amountEur ≤ i'.amountEur := by
  refine ⟨if some i.id = issuance then { i with amountEur := value i.amountEur } else i, ?_, ?_⟩
  · rw [writeIssuance, List.getElem?_map, found, Option.map_some]
  · split
    · exact ⟨rfl, raises _⟩
    · exact ⟨rfl, Nat.le_refl _⟩

theorem WellFormed.written (formed : WellFormed l) (issuance : Option Nat) (value : Nat → Nat) :
    WellFormed (writeIssuance l issuance value) := by
  refine ⟨formed.indexes, formed.covered, formed.rowSpvs, fun i member => ?_⟩
  obtain ⟨j, inside, -, -, -, spv, -⟩ := writeIssuance_mem member
  rw [spv]
  exact formed.issuanceSpvs j inside

namespace Revalued
variable (change : Revalued l unreserved r l' row)
include change

theorem stored (stored : Stored l r) : Stored l' row ∧ row.id = r.id := by
  cases change with
  | live | booked | mint => exact ⟨lookup_rewrite l _, rfl⟩
  | unchanged => exact ⟨stored, rfl⟩

theorem other {r' : Reservation} (stored : Stored l' r') (apart : r'.id ≠ row.id) : Stored l r' := by
  cases change with
  | live | booked | mint => exact (stored_rewrite stored).elim (fun same => absurd (congrArg Reservation.id same) apart) And.left
  | unchanged => exact stored

theorem before {terms : SaleTerms} (sale : row.terms = some terms) (booked : row.booked = true) :
    (∃ terms', r.terms = some terms') ∧ r.booked = true := by
  cases change with
  | live _ _ live =>
      have unbooked : r.booked = false := booked_of_live live
      exact absurd (unbooked.symm.trans booked) Bool.false_ne_true
  | booked sale' _ status => exact ⟨⟨_, sale'⟩, by rw [Reservation.booked, status]⟩
  | mint kind =>
      have treasury : r.terms = none := by rw [Reservation.terms, kind]
      exact absurd (treasury.symm.trans sale) (Option.some_ne_none _).symm
  | unchanged => exact ⟨⟨terms, sale⟩, booked⟩

theorem counted (mint : r.id ∈ unreserved → r.amountEur = r.bookedEur) : r.countedEur ≤ row.countedEur := by
  cases change with
  | live _ _ live =>
      unfold Reservation.live at live
      cases status : r.status with
      | reserved | consumed =>
          simp only [Reservation.countedEur, Reservation.revaluedLive, status]
          exact Nat.le_max_left _ _
      | booked | released =>
          rw [status] at live
          cases live
  | booked _ _ status =>
      simp only [Reservation.countedEur, Reservation.revaluedBooked, status]
      exact Nat.le_max_left _ _
  | mint _ status member =>
      have amount := mint member
      simp only [Reservation.bookedEur, status] at amount
      simp only [Reservation.countedEur, Reservation.valuedAt, status]
      rw [← amount]
      exact Nat.le_max_left _ _
  | unchanged => exact Nat.le_refl _

theorem issuances {k : Nat} {i : SpvIssuance} (found : l.issuances[k]? = some i) :
    ∃ i', l'.issuances[k]? = some i' ∧ i'.id = i.id ∧ i.amountEur ≤ i'.amountEur := by
  cases change with
  | live | unchanged => exact ⟨i, found, rfl, Nat.le_refl _⟩
  | @booked terms fx bookedEur issuedAt issuance =>
      exact @writeIssuance_raised (l.rewrite (r.revaluedBooked terms fx.eurPerToken bookedEur issuedAt issuance)) _ _
        (fun _ => Nat.le_max_right _ _) _ _ found
  | @mint units _ _ issuedAt issuance =>
      exact @writeIssuance_raised (l.rewrite (r.valuedAt _ issuedAt issuance)) _ _ (fun _ => Nat.le_max_right _ _) _ _ found

theorem live_floor {terms : SaleTerms} (sale : r.terms = some terms) (live : r.live = true) :
    ∃ fx, fxEffectiveRate l terms.paymentMint = some fx ∧ row.live = true ∧ r.amountEur ≤ row.countedEur ∧
      saleCapacityEur terms.maxGrossRaise (max terms.fxRate fx.eurPerToken) terms.paymentDecimals ≤ row.countedEur := by
  cases change with
  | @live terms' fx sale' effective =>
      obtain rfl := Option.some.inj (sale.symm.trans sale')
      refine ⟨fx, effective, live, ?_⟩
      unfold Reservation.live at live
      cases status : r.status with
      | reserved | consumed =>
          simp only [Reservation.countedEur, Reservation.revaluedLive, status]
          exact ⟨Nat.le_max_left _ _, Nat.le_max_right _ _⟩
      | booked | released =>
          rw [status] at live
          cases live
  | booked _ _ status =>
      rw [Reservation.live, status] at live
      cases live
  | mint kind =>
      rw [kind_of_terms.mpr sale] at kind
      cases kind
  | unchanged other =>
      rw [(other terms sale).1] at live
      cases live

theorem booked_floor {terms : SaleTerms} (sale : r.terms = some terms) (booked : r.booked = true) {gross : Nat}
    (keeps : ∀ fx bookedEur issuedAt issuance, fxEffectiveRate l terms.paymentMint = some fx →
      r.status = .booked bookedEur issuedAt issuance → terms.fxRate < fx.eurPerToken →
      RescalingKeeps bookedEur fx.eurPerToken terms.fxRate)
    (covered : (gross : ℚ) * terms.fxRate.1 / 10 ^ terms.paymentDecimals * 100 ≤ r.bookedEur) :
    ∃ fx terms', fxEffectiveRate l terms.paymentMint = some fx ∧ row.terms = some terms' ∧ row.booked = true ∧
      terms'.fxRate = max terms.fxRate fx.eurPerToken ∧ terms'.paymentDecimals = terms.paymentDecimals ∧
      (gross : ℚ) * terms'.fxRate.1 / 10 ^ terms'.paymentDecimals * 100 ≤ row.bookedEur := by
  cases change with
  | live _ _ live =>
      rw [booked_of_live live] at booked
      cases booked
  | @booked terms' fx bookedEur issuedAt issuance sale' effective status larger =>
      obtain rfl := Option.some.inj (sale.symm.trans sale')
      refine ⟨fx, _, effective, rfl, rfl, rfl, rfl, ?_⟩
      have amount : r.bookedEur = bookedEur := by rw [Reservation.bookedEur, status]
      rw [amount] at covered
      have least : rescaledEur bookedEur fx.eurPerToken terms.fxRate ≤
          (r.revaluedBooked terms fx.eurPerToken bookedEur issuedAt issuance).bookedEur := Nat.le_max_right _ _
      dsimp only
      rw [max_eq_right larger.le]
      have rescaled := le_rescaledEur (keeps fx bookedEur issuedAt issuance effective status larger) covered
      exact rescaled.trans (by exact_mod_cast least)
  | mint kind =>
      rw [kind_of_terms.mpr sale] at kind
      cases kind
  | unchanged other =>
      obtain ⟨fx, effective, smaller⟩ := (other terms sale).2 booked
      exact ⟨fx, terms, effective, sale, booked, (max_eq_left smaller).symm, rfl, covered⟩

theorem wellFormed (formed : WellFormed l) (stored : Stored l r) : WellFormed l' := by
  have member := (mem_of_lookup _ stored).1
  cases change with
  | live _ _ _ kept =>
      apply formed.rewritten member (revaluedLive_continues _ _) kept
      intro _ terms sale
      obtain rfl := Option.some.inj sale
      exact Nat.le_max_right _ _
  | booked _ _ _ _ kept =>
      refine WellFormed.written (formed.rewritten member (revaluedBooked_continues _ _ _ _ _) kept fun reserved => ?_) _ _
      cases reserved
  | mint _ _ _ kept =>
      refine WellFormed.written (formed.rewritten member (valuedAt_continues _ _ _) kept fun reserved => ?_) _ _
      cases reserved
  | unchanged => exact formed

theorem linked {legacy : Nat} (linked : Linked legacy l) (formed : WellFormed l) (stored : Stored l r)
    (mint : r.id ∈ unreserved → r.amountEur = r.bookedEur) : Linked legacy l' := by
  cases change with
  | live _ _ live =>
      have unbooked := booked_of_live live
      refine linked.quiet rfl (noneBooked_rewrite unbooked) fun other stored' booked => ?_
      exact formed.booked_kept stored' booked (mem_of_lookup _ stored).1 ⟨rfl, rfl, rfl⟩ unbooked
  | @booked terms fx bookedEur issuedAt issuance sale _ status =>
      have link : r.link = issuance := by rw [Reservation.link, status]
      have amount : r.bookedEur = bookedEur := by rw [Reservation.bookedEur, status]
      rw [← link]
      refine @Linked.valued legacy l r (r.revaluedBooked terms fx.eurPerToken bookedEur issuedAt r.link) linked stored rfl rfl
        (fun terms' sale' => ?_) _ fun x link' inserted i member id => ?_
      · obtain rfl := Option.some.inj (sale.symm.trans sale')
        exact ⟨_, rfl, rfl⟩
      · rw [linked.equal r stored x link' inserted i member id, amount]
        exact Nat.max_eq_left (Nat.le_max_left _ _)
  | @mint units signature bookedEur issuedAt issuance kind status member =>
      have link : r.link = issuance := by rw [Reservation.link, status]
      rw [← link]
      refine @Linked.valued legacy l r (r.valuedAt _ issuedAt r.link) linked stored rfl rfl (fun terms' sale' => ?_) _
        fun x link' inserted i inside id => ?_
      · rw [kind_of_terms.mpr sale'] at kind
        cases kind
      · rw [linked.equal r stored x link' inserted i inside id, ← mint member]
        exact Nat.max_eq_left (Nat.le_max_left _ _)
  | unchanged => exact linked

end Revalued

end row

end Mancipatio.Capacity
