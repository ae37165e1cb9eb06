import Mancipatio.Capacity.Revaluation

/-!
# Booked rows and their issuances

What a step does to the booked rows and to the issuances that they link.
-/

namespace Mancipatio.Capacity
open Checked Rows Execution

def Reservation.link (r : Reservation) : Option Nat :=
  match r.status with
  | .booked _ _ issuance => issuance
  | .reserved | .consumed | .released _ => none

def Reservation.bookedEur (r : Reservation) : Nat :=
  match r.status with
  | .booked amountEur _ _ => amountEur
  | .reserved | .consumed | .released _ => 0

def NoneBooked (l l' : Ledger) : Prop :=
  ∀ id r, lookup Reservation.id id l'.reservations = some r → r.booked = true → lookup Reservation.id id l.reservations = some r

/-- The issuances after a booking: the row links none, one of its sale that was there before, or a new one. -/
inductive Posting (issuances : List SpvIssuance) (row : Reservation) : List SpvIssuance → Prop where
  | unlinked : row.link = none → Posting issuances row issuances
  | existing {issuance terms} : row.link = some issuance.id → issuance ∈ issuances → issuance.source = .sale →
      row.terms = some terms → issuance.salePubkey = some terms.salePda → Posting issuances row issuances
  | appended {issuance} : row.link = some issuance.id → issuance.id = issuances.length → issuance.amountEur = row.bookedEur →
      (issuance.source = .sale → ∃ terms, row.terms = some terms ∧ issuance.salePubkey = some terms.salePda) →
      Posting issuances row (issuances ++ [issuance])

def Origin (l : Ledger) (label : CapacityLabel) (row : Reservation) : Prop :=
  ∀ terms, row.terms = some terms → ∃ gross issuedAt insertFails r, label = .bookSaleReservation row.id gross issuedAt insertFails ∧
    lookup Reservation.id row.id l.reservations = some r ∧ r.terms = some terms ∧ r.status = .consumed ∧
      row.bookedEur = saleCapacityEur gross terms.fxRate terms.paymentDecimals

inductive Posted (l : Ledger) (label : CapacityLabel) (l' : Ledger) : Prop where
  | quiet : l'.issuances = l.issuances → NoneBooked l l' → Posted l label l'
  | adjusted {issuance} : l'.issuances = l.issuances ++ [issuance] → issuance.id = l.issuances.length → issuance.source = .manual →
      NoneBooked l l' → Posted l label l'
  | booked {row} : lookup Reservation.id row.id l'.reservations = some row → row.booked = true →
      (∀ r, lookup Reservation.id row.id l.reservations = some r → r.booked = false) →
      (∀ id r, id ≠ row.id → lookup Reservation.id id l'.reservations = some r → r.booked = true →
        lookup Reservation.id id l.reservations = some r) →
      Posting l.issuances row l'.issuances → Origin l label row → Posted l label l'

section posting
variable {l l' : Ledger} {r row : Reservation}

theorem booked_of_link {x : Nat} (linked : row.link = some x) : row.booked = true ∧ row.counted = true := by
  rw [Reservation.booked, Reservation.counted]
  rw [Reservation.link] at linked
  cases status : row.status with
  | booked => exact ⟨rfl, rfl⟩
  | reserved | consumed | released =>
      rw [status] at linked
      cases linked

theorem noneBooked_same (same : l'.reservations = l.reservations) : NoneBooked l l' := by
  intro id r stored _
  rwa [same] at stored

theorem noneBooked_rewrite (unbooked : row.booked = false) : NoneBooked l (l.rewrite row) := by
  intro id r stored booked
  have found : lookup Reservation.id id (upsert Reservation.id row l.reservations) = some r := stored
  rw [lookup_upsert] at found
  split at found
  case isTrue =>
    obtain rfl := Option.some.inj found
    rw [unbooked] at booked
    cases booked
  case isFalse => exact found

theorem lookup_append_other {id : Nat} {rows : List Reservation} (other : id ≠ row.id) :
    lookup Reservation.id id (rows ++ [row]) = lookup Reservation.id id rows := by
  rw [lookup, List.find?_append, lookup, List.find?_singleton, if_neg, Option.or_none]
  simpa using Ne.symm other

theorem noneBooked_append (unbooked : row.booked = false) : NoneBooked l (l.append row) := by
  intro id r stored booked
  have found : lookup Reservation.id id (l.reservations ++ [row]) = some r := stored
  by_cases same : id = row.id
  · subst same
    cases before : lookup Reservation.id row.id l.reservations with
    | some other => rwa [lookup_append_of_found _ before] at found
    | none =>
        rw [lookup_append_new _ rfl before] at found
        obtain rfl := Option.some.inj found
        rw [unbooked] at booked
        cases booked
  · rwa [lookup_append_other same] at found

theorem Issued.posting {amountEur : Nat} {issuedAt : Date} {salePubkey : Option Pubkey} {source : IssuanceSource}
    {issuance : Option Nat} (issued : Issued l r amountEur issuedAt salePubkey source l' issuance) (link : row.link = issuance)
    (amount : row.bookedEur = amountEur) (sale : source = .sale → ∃ terms, row.terms = some terms ∧ salePubkey = some terms.salePda) :
    Posting l.issuances row l'.issuances := by
  cases issued with
  | issuer => exact .unlinked link
  | linked existing _ member _ isSale fromSale pubkey =>
      obtain ⟨terms, stored, same⟩ := sale fromSale
      exact .existing link member isSale stored (pubkey.trans same)
  | appended => exact .appended link rfl amount.symm sale

theorem Posted.rewritten {counted : Ledger} {label : CapacityLabel} (formed : WellFormed l) (member : r ∈ l.reservations) (same : row.id = r.id)
    (unbooked : r.booked = false) (booked : row.booked = true) (rows : counted.reservations = l.reservations)
    (posting : Posting l.issuances row counted.issuances) (origin : Origin l label row) : Posted l label (counted.rewrite row) := by
  have stored := formed.found member
  refine @Posted.booked _ _ _ row ?_ booked ?_ ?_ posting origin
  · exact lookup_rewrite counted row
  · intro other found
    rw [same, stored] at found
    rwa [← Option.some.inj found]
  · intro id other apart found _
    have found' : lookup Reservation.id id (upsert Reservation.id row counted.reservations) = some other := found
    rwa [lookup_upsert, if_neg apart, rows] at found'

theorem step_posted {label : CapacityLabel} (formed : WellFormed l) (stepped : step l label = .ok l') : Posted l label l' := by
  cases step_effect stepped with
  | retried => exact .quiet rfl (noneBooked_same rfl)
  | registered | spvIssuer => exact .quiet rfl (noneBooked_same rfl)
  | elsewhere same => exact .quiet same.issuances (noneBooked_same same.reservations)
  | reservedSale new | reservedTreasury new =>
      subst new
      exact .quiet rfl (noneBooked_append rfl)
  | confirmed _ _ live => exact .quiet rfl (noneBooked_rewrite (booked_of_live live))
  | consumed => exact .quiet rfl (noneBooked_rewrite (by rw [Reservation.booked, consumedAt_status]))
  | unsold | released => exact .quiet rfl (noneBooked_rewrite rfl)
  | booked found sale status _ _ issued =>
      have member := (mem_of_lookup _ found).1
      obtain rfl := (mem_of_lookup _ found).2
      refine Posted.rewritten formed member rfl (by rw [Reservation.booked, status]) rfl issued.reservations ?_ ?_
      · exact issued.posting rfl rfl fun _ => ⟨_, sale, rfl⟩
      · intro terms stored
        obtain rfl := Option.some.inj (sale.symm.trans stored)
        exact ⟨_, _, _, _, rfl, found, sale, status, rfl⟩
  | adopted _ adopted =>
      cases adopted with
      | inserted new =>
          subst new
          exact .quiet rfl (noneBooked_append rfl)
      | unchanged => exact .quiet rfl (noneBooked_same rfl)
      | changed _ new =>
          subst new
          exact .quiet rfl (noneBooked_rewrite rfl)
  | landed _ _ status => exact .quiet rfl (noneBooked_rewrite (by rw [Reservation.booked, status]))
  | minted found treasury status issued =>
      have member := (mem_of_lookup _ found).1
      refine Posted.rewritten formed member (landed_continues.trans (minted_continues _ _ _ _ _)).id (booked_of_landed status) rfl
        issued.reservations ?_ ?_
      · exact issued.posting rfl rfl fun no => by cases no
      · intro terms stored
        cases stored
  | @adoptedMint chain spvId issuedAt amount date counted issuance booked new _ indexes issued =>
      subst new
      have rows : counted.reservations = l.reservations ++ [chain.row spvId amount date none l.now] := issued.reservations
      have fresh : lookup Reservation.id chain.id l.reservations = none := by
        cases before : lookup Reservation.id chain.id l.reservations with
        | none => rfl
        | some other =>
            obtain ⟨member, same⟩ := mem_of_lookup _ before
            have apart := (List.nodup_append.mp (List.map_append ▸ indexes.1)).2.2
            exact absurd same (apart _ (List.mem_map_of_mem member) _ (List.mem_map_of_mem (List.mem_singleton_self _)))
      refine @Posted.booked _ _ _ (chain.row spvId amount date issuance l.now) (lookup_rewrite counted _) rfl ?_ ?_ ?_ ?_
      · intro r found
        have found' : lookup Reservation.id chain.id l.reservations = some r := found
        rw [fresh] at found'
        cases found'
      · intro id r other found _
        have found' : lookup Reservation.id id (upsert Reservation.id _ counted.reservations) = some r := found
        rwa [lookup_upsert, if_neg other, rows, lookup_append_other (show id ≠ (chain.row spvId amount date none l.now).id from other)]
          at found'
      · exact issued.posting rfl rfl fun no => by cases no
      · intro terms stored
        cases stored
  | @adjusted adjustment spv issuance capacity _ _ manual =>
      simp only [step, recordSpvAdjustment, bind_eq_ok, okOr_eq_ok, require_eq_ok, pure_eq_ok, exists_const] at stepped
      obtain ⟨_, -, -, -, -, _, -, _, -, -, _, -, same⟩ := stepped
      have issuances := congrArg Ledger.issuances same
      have new := List.append_cancel_left issuances
      obtain rfl := (List.cons.inj new).1
      exact .adjusted rfl rfl manual (noneBooked_same rfl)

end posting

end Mancipatio.Capacity
