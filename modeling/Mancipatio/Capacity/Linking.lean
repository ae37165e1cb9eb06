import Mancipatio.Capacity.Posting

/-!
# What a revaluation keeps

The row and the issuance that the ledger has inserted for it carry the same amount, however often the row is valued.
-/

namespace Mancipatio.Capacity
open Checked Rows Execution

def Stored (l : Ledger) (r : Reservation) : Prop :=
  lookup Reservation.id r.id l.reservations = some r

/-- Issuances from `legacy` on were inserted by the ledger; each is linked by one row, at that row's amount. -/
structure Linked (legacy : Nat) (l : Ledger) : Prop where
  ids : ∀ (k : Nat) (i : SpvIssuance), l.issuances[k]? = some i → i.id = k
  found : ∀ r, Stored l r → ∀ x, r.link = some x → x < l.issuances.length
  equal : ∀ r, Stored l r → ∀ x, r.link = some x → legacy ≤ x → ∀ i ∈ l.issuances, i.id = x → i.amountEur = r.bookedEur
  once : ∀ r, Stored l r → ∀ r', Stored l r' → ∀ x, r.link = some x → r'.link = some x → legacy ≤ x → r = r'
  sales : ∀ i ∈ l.issuances, legacy ≤ i.id → i.source = .sale → ∃ r terms, Stored l r ∧ r.link = some i.id ∧
    r.terms = some terms ∧ i.salePubkey = some terms.salePda

section linked
variable {legacy : Nat} {l l' : Ledger} {label : CapacityLabel} {r row : Reservation}

theorem Stored.unique {r' : Reservation} (stored : Stored l r) (stored' : Stored l r') (same : r.id = r'.id) : r = r' := by
  rw [Stored, same, stored'] at stored
  exact (Option.some.inj stored).symm

theorem stored_of_found {id : Nat} (found : lookup Reservation.id id l.reservations = some r) : Stored l r ∧ r.id = id := by
  obtain ⟨-, rfl⟩ := mem_of_lookup _ found
  exact ⟨found, rfl⟩

theorem NoneBooked.stored (quiet : NoneBooked l l') (stored : Stored l' r) (booked : r.booked = true) : Stored l r :=
  quiet r.id r stored booked

theorem countedSale_of_link {x : Nat} {terms : SaleTerms} (link : r.link = some x) (sale : r.terms = some terms) :
    r.countedSalePda = some terms.salePda := by
  rw [Reservation.countedSalePda, sale, Option.bind_some, if_pos (booked_of_link link).2]

theorem Linked.id_lt (linked : Linked legacy l) {i : SpvIssuance} (member : i ∈ l.issuances) : i.id < l.issuances.length := by
  obtain ⟨k, inside, same⟩ := List.getElem_of_mem member
  rw [linked.ids k i (by rw [List.getElem?_eq_getElem inside, same])]
  exact inside

theorem Linked.ids_append (linked : Linked legacy l) {i : SpvIssuance} (new : i.id = l.issuances.length) :
    ∀ (k : Nat) (j : SpvIssuance), (l.issuances ++ [i])[k]? = some j → j.id = k := by
  intro k j found
  rcases Nat.lt_trichotomy k l.issuances.length with before | last | after
  · rw [List.getElem?_append_left before] at found
    exact linked.ids k j found
  · subst last
    rw [List.getElem?_concat_length] at found
    obtain rfl := Option.some.inj found
    exact new
  · rw [List.getElem?_eq_none (by simp; omega)] at found
    cases found

theorem Linked.quiet (linked : Linked legacy l) (issuances : l'.issuances = l.issuances) (quiet : NoneBooked l l')
    (stays : ∀ r, Stored l r → r.booked = true → Stored l' r) : Linked legacy l' := by
  have before : ∀ r x, Stored l' r → r.link = some x → Stored l r := fun r x stored link =>
    quiet.stored stored (booked_of_link link).1
  constructor
  case ids =>
    rw [issuances]
    exact linked.ids
  case found =>
    rw [issuances]
    exact fun r stored x link => linked.found r (before r x stored link) x link
  case equal =>
    rw [issuances]
    exact fun r stored x link => linked.equal r (before r x stored link) x link
  case once =>
    intro r stored r' stored' x link link'
    exact linked.once r (before r x stored link) r' (before r' x stored' link') x link link'
  case sales =>
    rw [issuances]
    intro i member inserted sale
    obtain ⟨r, terms, stored, link, isSale, pubkey⟩ := linked.sales i member inserted sale
    exact ⟨r, terms, stays r stored (booked_of_link link).1, link, isSale, pubkey⟩

theorem Linked.adjusted (linked : Linked legacy l) {i : SpvIssuance} (issuances : l'.issuances = l.issuances ++ [i])
    (new : i.id = l.issuances.length) (manual : i.source = .manual) (quiet : NoneBooked l l')
    (stays : ∀ r, Stored l r → r.booked = true → Stored l' r) : Linked legacy l' := by
  have before : ∀ r x, Stored l' r → r.link = some x → Stored l r := fun r x stored link =>
    quiet.stored stored (booked_of_link link).1
  constructor
  case ids =>
    rw [issuances]
    exact linked.ids_append new
  case found =>
    intro r stored x link
    rw [issuances, List.length_append]
    exact Nat.lt_add_right _ (linked.found r (before r x stored link) x link)
  case equal =>
    intro r stored x link inserted j member same
    rw [issuances] at member
    rcases List.mem_append.mp member with older | last
    · exact linked.equal r (before r x stored link) x link inserted j older same
    · obtain rfl := List.mem_singleton.mp last
      have inside := linked.found r (before r x stored link) x link
      omega
  case once =>
    intro r stored r' stored' x link link'
    exact linked.once r (before r x stored link) r' (before r' x stored' link') x link link'
  case sales =>
    intro j member inserted sale
    rw [issuances] at member
    rcases List.mem_append.mp member with older | last
    · obtain ⟨r, terms, stored, link, isSale, pubkey⟩ := linked.sales j older inserted sale
      exact ⟨r, terms, stays r stored (booked_of_link link).1, link, isSale, pubkey⟩
    · obtain rfl := List.mem_singleton.mp last
      rw [manual] at sale
      cases sale

theorem Linked.booked (linked : Linked legacy l) (formed' : WellFormed l') (stored : Stored l' row)
    (unbooked : ∀ r, lookup Reservation.id row.id l.reservations = some r → r.booked = false)
    (others : ∀ id r, id ≠ row.id → lookup Reservation.id id l'.reservations = some r → r.booked = true →
      lookup Reservation.id id l.reservations = some r)
    (stays : ∀ r, Stored l r → r.booked = true → Stored l' r) (posting : Posting l.issuances row l'.issuances) :
    Linked legacy l' := by
  have before : ∀ r x, Stored l' r → r.link = some x → r = row ∨ Stored l r := by
    intro r x stored' link
    by_cases same : r.id = row.id
    · exact .inl (stored'.unique stored same)
    · exact .inr (others r.id r same stored' (booked_of_link link).1)
  have sales : ∀ i ∈ l.issuances, legacy ≤ i.id → i.source = .sale → ∃ r terms, Stored l' r ∧ r.link = some i.id ∧
      r.terms = some terms ∧ i.salePubkey = some terms.salePda := by
    intro i member inserted sale
    obtain ⟨r, terms, stored, link, isSale, pubkey⟩ := linked.sales i member inserted sale
    exact ⟨r, terms, stays r stored (booked_of_link link).1, link, isSale, pubkey⟩
  generalize after : l'.issuances = issuances at posting
  cases posting with
  | unlinked link' =>
      have before' : ∀ r x, Stored l' r → r.link = some x → Stored l r := by
        intro r x stored link
        rcases before r x stored link with rfl | stored
        · rw [link'] at link
          cases link
        · exact stored
      constructor
      case ids => exact after ▸ linked.ids
      case found => exact after ▸ fun r stored x link => linked.found r (before' r x stored link) x link
      case equal => exact after ▸ fun r stored x link => linked.equal r (before' r x stored link) x link
      case once =>
        intro r stored r' stored' x link link'
        exact linked.once r (before' r x stored link) r' (before' r' x stored' link') x link link'
      case sales => exact after ▸ sales
  | @existing issuance terms link' member sale isSale pubkey =>
      -- a row of its own sale would be counted beside it
      have old : issuance.id < legacy := by
        by_contra inserted
        obtain ⟨r, terms', stored', link, isSale', pubkey'⟩ := linked.sales issuance member (Nat.not_lt.mp inserted) sale
        have booked := (booked_of_link link).1
        have same : terms'.salePda = terms.salePda := Option.some.inj (pubkey'.symm.trans pubkey)
        have indexed := countedSale_of_link link isSale'
        rw [same] at indexed
        have inside := (mem_of_lookup _ (stays r stored' booked)).1
        have one := eq_of_indexed formed'.indexes.2.2.1 inside (mem_of_lookup _ stored).1 indexed (countedSale_of_link link' isSale)
        subst one
        rw [unbooked r stored'] at booked
        cases booked
      have apart : ∀ x, legacy ≤ x → row.link ≠ some x := by
        intro x inserted link
        have same : issuance.id = x := Option.some.inj (link'.symm.trans link)
        omega
      have before' : ∀ r x, Stored l' r → r.link = some x → legacy ≤ x → Stored l r := by
        intro r x stored link inserted
        rcases before r x stored link with rfl | stored
        · exact absurd link (apart x inserted)
        · exact stored
      constructor
      case ids => exact after ▸ linked.ids
      case found =>
        intro r stored x link
        rw [after]
        rcases before r x stored link with rfl | stored
        · rw [link'] at link
          rw [← Option.some.inj link]
          exact linked.id_lt member
        · exact linked.found r stored x link
      case equal =>
        intro r stored x link inserted
        rw [after]
        exact linked.equal r (before' r x stored link inserted) x link inserted
      case once =>
        intro r stored r' stored' x link link' inserted
        exact linked.once r (before' r x stored link inserted) r' (before' r' x stored' link' inserted) x link link' inserted
      case sales => exact after ▸ sales
  | @appended issuance link' new amount source =>
      have fresh : ∀ r, Stored l r → r.link ≠ row.link := by
        intro r stored same
        rw [link', new] at same
        exact Nat.lt_irrefl _ (linked.found r stored _ same)
      constructor
      case ids => exact after ▸ linked.ids_append new
      case found =>
        intro r stored x link
        rw [after, List.length_append]
        rcases before r x stored link with rfl | stored
        · rw [link', new] at link
          rw [← Option.some.inj link]
          exact Nat.lt_succ_self _
        · exact Nat.lt_add_right _ (linked.found r stored x link)
      case equal =>
        intro r stored x link inserted i member same
        rw [after] at member
        rcases List.mem_append.mp member with older | last
        · rcases before r x stored link with rfl | stored
          · rw [link', new] at link
            have inside := linked.id_lt older
            rw [same, ← Option.some.inj link] at inside
            exact absurd inside (Nat.lt_irrefl _)
          · exact linked.equal r stored x link inserted i older same
        · obtain rfl := List.mem_singleton.mp last
          rcases before r x stored link with rfl | stored
          · exact amount
          · exact absurd (link.trans (same ▸ link'.symm)) (fresh r stored)
      case once =>
        intro r stored r' stored' x link again inserted
        rcases before r x stored link with rfl | older <;> rcases before r' x stored' again with rfl | older'
        · rfl
        · exact absurd (again.trans link.symm) (fresh r' older')
        · exact absurd (link.trans again.symm) (fresh r older)
        · exact linked.once r older r' older' x link again inserted
      case sales =>
        intro i member inserted sale
        rw [after] at member
        rcases List.mem_append.mp member with older | last
        · exact sales i older inserted sale
        · obtain rfl := List.mem_singleton.mp last
          obtain ⟨terms, isSale, pubkey⟩ := source sale
          exact ⟨row, terms, stored, link', isSale, pubkey⟩

theorem linked_step (linked : Linked legacy l) (formed : WellFormed l) (stepped : step l label = .ok l') : Linked legacy l' := by
  have stays : ∀ r, Stored l r → r.booked = true → Stored l' r := fun r stored booked => booked_stays formed stored booked stepped
  cases step_posted formed stepped with
  | quiet issuances quiet => exact linked.quiet issuances quiet stays
  | adjusted issuances new manual quiet => exact linked.adjusted issuances new manual quiet stays
  | booked stored _ unbooked others posting => exact linked.booked (wellFormed_step formed stepped) stored unbooked others stays posting

/-! ## Another value -/

theorem stored_rewrite {r' : Reservation} (stored : Stored (l.rewrite row) r') : r' = row ∨ Stored l r' ∧ r'.id ≠ row.id := by
  have found : lookup Reservation.id r'.id (upsert Reservation.id row l.reservations) = some r' := stored
  rw [lookup_upsert] at found
  split at found
  case isTrue => exact .inl (Option.some.inj found).symm
  case isFalse apart => exact .inr ⟨found, apart⟩

theorem rewrite_stored {r' : Reservation} (stored : Stored l r') (apart : r'.id ≠ row.id) : Stored (l.rewrite row) r' := by
  show lookup Reservation.id r'.id (upsert Reservation.id row l.reservations) = some r'
  rw [lookup_upsert, if_neg apart]
  exact stored

theorem writeIssuance_getElem? {issuance : Option Nat} {value : Nat → Nat} {k : Nat} {i : SpvIssuance}
    (found : (writeIssuance l issuance value).issuances[k]? = some i) : ∃ j, l.issuances[k]? = some j ∧ i.id = j.id ∧
      i.source = j.source ∧ i.salePubkey = j.salePubkey ∧ i.spvId = j.spvId ∧
        i.amountEur = if some j.id = issuance then value j.amountEur else j.amountEur := by
  have mapped : (l.issuances.map fun i => if some i.id = issuance then { i with amountEur := value i.amountEur } else i)[k]? = some i :=
    found
  rw [List.getElem?_map, Option.map_eq_some_iff] at mapped
  obtain ⟨j, stored, rfl⟩ := mapped
  refine ⟨j, stored, ?_⟩
  split <;> exact ⟨rfl, rfl, rfl, rfl, rfl⟩

theorem writeIssuance_mem {issuance : Option Nat} {value : Nat → Nat} {i : SpvIssuance}
    (member : i ∈ (writeIssuance l issuance value).issuances) : ∃ j ∈ l.issuances, i.id = j.id ∧ i.source = j.source ∧
      i.salePubkey = j.salePubkey ∧ i.spvId = j.spvId ∧
        i.amountEur = if some j.id = issuance then value j.amountEur else j.amountEur := by
  obtain ⟨k, found⟩ := List.mem_iff_getElem?.mp member
  obtain ⟨j, stored, same⟩ := writeIssuance_getElem? found
  exact ⟨j, List.mem_of_getElem? stored, same⟩

theorem Linked.valued (linked : Linked legacy l) (stored : Stored l r) (same : row.id = r.id) (link : row.link = r.link)
    (terms : ∀ terms, r.terms = some terms → ∃ terms', row.terms = some terms' ∧ terms'.salePda = terms.salePda) {value : Nat → Nat}
    (amount : ∀ x, r.link = some x → legacy ≤ x → ∀ i ∈ l.issuances, i.id = x → value i.amountEur = row.bookedEur) :
    Linked legacy (writeIssuance (l.rewrite row) r.link value) := by
  have other : ∀ r', Stored l r' → r'.id ≠ row.id → ∀ x, legacy ≤ x → r'.link = some x → r.link ≠ some x := by
    intro r' stored' apart x inserted link' link
    have one := linked.once r stored r' stored' x link link' inserted
    exact apart (one ▸ same.symm)
  constructor
  case ids =>
    intro k i found
    obtain ⟨j, stored, id, -⟩ := writeIssuance_getElem? found
    rw [id]
    exact linked.ids k j stored
  case found =>
    intro r' stored' x link'
    have length : (writeIssuance (l.rewrite row) r.link value).issuances.length = l.issuances.length := List.length_map _
    rw [length]
    rcases stored_rewrite stored' with rfl | ⟨stored', -⟩
    · exact linked.found r stored x (link ▸ link')
    · exact linked.found r' stored' x link'
  case equal =>
    intro r' stored' x link' inserted i member id
    obtain ⟨j, inside, sameId, -, -, -, written⟩ := writeIssuance_mem member
    rw [written]
    rcases stored_rewrite stored' with rfl | ⟨stored', apart⟩
    · rw [link] at link'
      rw [if_pos (by rw [link', ← id, sameId])]
      exact amount x link' inserted j inside (sameId ▸ id)
    · rw [if_neg]
      · exact linked.equal r' stored' x link' inserted j inside (sameId ▸ id)
      · intro linkedBy
        rw [← sameId, id] at linkedBy
        exact other r' stored' apart x inserted link' linkedBy.symm
  case once =>
    intro r₁ stored₁ r₂ stored₂ x link₁ link₂ inserted
    rcases stored_rewrite stored₁ with rfl | ⟨older₁, apart₁⟩ <;> rcases stored_rewrite stored₂ with rfl | ⟨older₂, apart₂⟩
    · rfl
    · exact absurd (link ▸ link₁) (other r₂ older₂ apart₂ x inserted link₂)
    · exact absurd (link ▸ link₂) (other r₁ older₁ apart₁ x inserted link₁)
    · exact linked.once r₁ older₁ r₂ older₂ x link₁ link₂ inserted
  case sales =>
    intro i member inserted sale
    obtain ⟨j, inside, sameId, source, pubkey, -, -⟩ := writeIssuance_mem member
    obtain ⟨r', terms', stored', link', isSale, from'⟩ := linked.sales j inside (sameId ▸ inserted) (source ▸ sale)
    rw [sameId, pubkey]
    by_cases here : r'.id = row.id
    · obtain rfl := stored'.unique stored (here.trans same)
      obtain ⟨terms'', isSale', salePda⟩ := terms terms' isSale
      exact ⟨row, terms'', lookup_rewrite l row, link.trans link', isSale', by rw [salePda]; exact from'⟩
    · exact ⟨r', terms', rewrite_stored stored' here, link', isSale, from'⟩

theorem Linked.cleared (linked : Linked legacy l) (hold : Subject × String) : Linked legacy (clearHold l hold) :=
  linked.quiet rfl (noneBooked_same rfl) fun _ stored _ => stored

end linked

end Mancipatio.Capacity
