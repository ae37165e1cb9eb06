import Mancipatio.Capacity.Counting

/-!
# The cap of a subject

Without adoptions and overrides, no subject is ever counted past its cap, and a booking moves a row from the
reserved to the issued amounts once.
-/

namespace Mancipatio.Capacity
open Checked Rows Execution

/-- No adoption and no override, and no sale is consumed above what was reserved for it. -/
def Ordinary (l : Ledger) : CapacityLabel → Prop
  | .consumeSaleReservation id _ gross =>
      ∀ sale ∈ (findSale l id).toOption, sale.1.status = .reserved → gross ≤ sale.2.maxGrossRaise
  | .bookTreasuryMint id _ _ _ => ∀ r ∈ (findReservation l id).toOption, r.counted = true
  | .recordSpvAdjustment adjustment => adjustment.capOverride = false
  | .adoptSaleApproval _ _ | .adoptTreasuryMint _ _ _ => False
  | _ => True

/-- A sale is booked at no more than its row holds. -/
def SoldWithin (l : Ledger) : CapacityLabel → Prop
  | .bookSaleReservation id gross _ _ =>
      ∀ sale ∈ (findSale l id).toOption, sale.1.status = .consumed →
        saleCapacityEur gross sale.2.fxRate sale.2.paymentDecimals ≤ sale.1.amountEur
  | _ => True

instance (l : Ledger) (label : CapacityLabel) : Decidable (Ordinary l label) := by
  cases label <;> dsimp only [Ordinary] <;> infer_instance

instance (l : Ledger) (label : CapacityLabel) : Decidable (SoldWithin l label) := by
  cases label <;> dsimp only [SoldWithin] <;> infer_instance

def CapacityLabel.settles : CapacityLabel → Bool
  | .confirmSaleReservation _ | .consumeSaleReservation _ _ _ | .bookSaleReservation _ _ _ _
  | .releaseSaleReservation _ _ | .bookTreasuryMint _ _ _ _ => true
  | _ => false

def CapacityLabel.books : CapacityLabel → Option Nat
  | .bookSaleReservation id _ _ _ | .bookTreasuryMint id _ _ _ => some id
  | _ => none

/-- A live row leaves the reserved amounts, and what was booked of it enters the issued ones. -/
def Moved (l l' : Ledger) (id : Nat) : Prop :=
  ∃ r r', lookup Reservation.id id l.reservations = some r ∧ r.live = true ∧
    lookup Reservation.id id l'.reservations = some r' ∧
    (∀ subject, reserved l' subject + liveUse subject r = reserved l subject) ∧
    ((∃ amountEur issuedAt issuance, r'.status = .booked amountEur issuedAt issuance ∧
        ∀ subject, issued l' subject =
          issued l subject + if r.subject = subject ∧ inWindow l issuedAt then amountEur else 0) ∨
      r'.status = .released .closedUnsold ∧ ∀ subject, issued l' subject = issued l subject)

/-! ## One step -/

def SaleBooked (l : Ledger) (salePubkey : Option Pubkey) : Prop :=
  ∃ id r terms, lookup Reservation.id id l.reservations = some r ∧ r.terms = some terms ∧ r.booked = true ∧
    salePubkey = some terms.salePda

structure WithinCaps (l : Ledger) : Prop where
  caps : ∀ subject cap, capOf l subject = .ok cap → used l subject ≤ cap
  sales : ∀ i ∈ l.issuances, i.source = .sale → SaleBooked l i.salePubkey

section steps
variable {l l' counted : Ledger} {r r' : Reservation} {label : CapacityLabel} {subject : Subject}

theorem liveUse_of_not_live (dead : r.live = false) (subject : Subject) : liveUse subject r = 0 := by
  simp [liveUse, dead]

theorem liveUse_of_live (live : r.live = true) (subject : Subject) :
    liveUse subject r = if r.subject = subject then r.amountEur else 0 := by
  simp [liveUse, live]

theorem liveUse_mono (same : r.Continues r') (live : r'.live = true → r.live = true) (less : r'.amountEur ≤ r.amountEur) :
    liveUse subject r' ≤ liveUse subject r := by
  unfold liveUse
  rw [same.subject]
  split
  case isTrue counts =>
    rw [if_pos ⟨counts.1, live counts.2⟩]
    exact less
  case isFalse => exact Nat.zero_le _

theorem WellFormed.unbooked_totals (formed : WellFormed l) (member : r ∈ l.reservations) (same : r.Continues r')
    (before : r.booked = false) (after : r'.booked = false) (subject : Subject) :
    issued (l.rewrite r') subject = issued l subject ∧
      reserved (l.rewrite r') subject + liveUse subject r = reserved l subject + liveUse subject r' := by
  have stored := formed.found member
  rw [← same.id] at stored
  have moved := issued_rewrite stored subject
  rw [bookedUse_of_not_booked l subject before, bookedUse_of_not_booked l subject after] at moved
  exact ⟨moved, reserved_rewrite stored subject⟩

theorem WellFormed.used_le (formed : WellFormed l) (member : r ∈ l.reservations) (same : r.Continues r')
    (before : r.booked = false) (after : r'.booked = false) (live : r'.live = true → r.live = true)
    (less : r'.amountEur ≤ r.amountEur) (subject : Subject) : used (l.rewrite r') subject ≤ used l subject := by
  obtain ⟨issued, reserved⟩ := formed.unbooked_totals member same before after subject
  have shrinks : liveUse subject r' ≤ liveUse subject r := liveUse_mono same live less
  unfold used
  omega

section booking
variable {amountEur : Nat} {issuedAt : Date} {salePubkey : Option Pubkey} {source : IssuanceSource} {issuance : Option Nat}

theorem issued_booked (formed : WellFormed l) (written : Issued l r amountEur issuedAt salePubkey source counted issuance)
    (fresh : ∀ i ∈ l.issuances, i.source = .sale → source = .sale → i.salePubkey ≠ salePubkey)
    (member : r ∈ l.reservations) (same : r.Continues r') (before : r.booked = false)
    (status : r'.status = .booked amountEur issuedAt issuance) (subject : Subject) :
    issued (counted.rewrite r') subject =
      issued l subject + if r.subject = subject ∧ inWindow l issuedAt then amountEur else 0 := by
  have stored := formed.found member
  rw [← same.id, ← written.reservations] at stored
  have moved := issued_rewrite stored subject
  rw [bookedUse_of_not_booked counted subject before, Nat.add_zero] at moved
  rw [moved]
  cases written with
  | linked existing _ listed _ sale own pubkey => exact absurd pubkey (fresh existing listed sale own)
  | issuer noSpv =>
      have owner : r.subject = .issuer r.issuerPda := by rw [Reservation.subject, noSpv]; rfl
      cases subject with
      | spv id => simp [bookedUse, owner]
      | issuer pda =>
          simp only [bookedUse, bookedWithin, same.subject, status]
          by_cases here : r.subject = .issuer pda <;> simp [here]
  | @appended spvId spv =>
      have owner : r.subject = .spv spvId := by rw [Reservation.subject, spv]; rfl
      rw [issued_issuance]
      cases subject with
      | spv id =>
          simp only [bookedUse, issuanceUse, bookedIssuance, owner, Subject.spv.injEq, Nat.add_zero]
          rfl
      | issuer pda => simp [bookedUse, issuanceUse, same.subject, owner]

theorem reserved_booked (formed : WellFormed l) (written : Issued l r amountEur issuedAt salePubkey source counted issuance)
    (member : r ∈ l.reservations) (same : r.Continues r') (status : r'.status = .booked amountEur issuedAt issuance)
    (subject : Subject) : reserved (counted.rewrite r') subject + liveUse subject r = reserved l subject := by
  have stored := formed.found member
  rw [← same.id, ← written.reservations] at stored
  have moved := reserved_rewrite stored subject
  rw [liveUse_of_not_live (r := r') (by rw [Reservation.live, status]), Nat.add_zero] at moved
  rw [moved]
  unfold reserved
  rw [written.reservations]

theorem used_booked (formed : WellFormed l) (written : Issued l r amountEur issuedAt salePubkey source counted issuance)
    (fresh : ∀ i ∈ l.issuances, i.source = .sale → source = .sale → i.salePubkey ≠ salePubkey)
    (member : r ∈ l.reservations) (same : r.Continues r') (live : r.live = true)
    (status : r'.status = .booked amountEur issuedAt issuance) (less : amountEur ≤ r.amountEur) (subject : Subject) :
    used (counted.rewrite r') subject ≤ used l subject := by
  have issued := issued_booked formed written fresh member same (booked_of_live live) status subject
  have reserved := reserved_booked formed written member same status subject
  rw [liveUse_of_live live] at reserved
  unfold used
  by_cases here : r.subject = subject
  · simp only [here, true_and, if_true] at issued reserved
    split at issued <;> omega
  · simp only [here, false_and, if_false] at issued reserved
    omega

end booking

theorem capOf_rewrite (l : Ledger) (r : Reservation) (subject : Subject) : capOf (l.rewrite r) subject = capOf l subject := by
  cases subject <;> rfl

theorem capOf_append (l : Ledger) (r : Reservation) (subject : Subject) : capOf (l.append r) subject = capOf l subject := by
  cases subject <;> rfl

theorem Issued.capOf {amountEur : Nat} {issuedAt : Date} {salePubkey : Option Pubkey} {source : IssuanceSource}
    {issuance : Option Nat} (written : Issued l r amountEur issuedAt salePubkey source counted issuance) (subject : Subject) :
    Capacity.capOf counted subject = Capacity.capOf l subject := by
  cases written <;> cases subject <;> rfl

theorem used_unregistered (formed : WellFormed l) {id : Nat} (unknown : lookup Spv.id id l.spvs = none) :
    used l (.spv id) = 0 := by
  have noIssuance : issued l (.spv id) = 0 := by
    apply List.sum_eq_zero
    intro n counted
    obtain ⟨i, member, rfl⟩ := List.mem_map.mp counted
    apply if_neg
    rintro ⟨rfl, -⟩
    exact formed.issuanceSpvs i member unknown
  have noRow : reserved l (.spv id) = 0 := by
    apply List.sum_eq_zero
    intro n counted
    obtain ⟨r, member, rfl⟩ := List.mem_map.mp counted
    apply if_neg
    rintro ⟨owner, -⟩
    cases spv : r.spvId with
    | none => simp [Reservation.subject, subjectOf, spv] at owner
    | some own =>
        obtain rfl : own = id := by simpa [Reservation.subject, subjectOf, spv] using owner
        exact formed.rowSpvs r member own spv unknown
  rw [used, noIssuance, noRow]

/-! ## What keeps the invariant -/

theorem WithinCaps.shrunk (within : WithinCaps l) (caps : ∀ subject, capOf l' subject = capOf l subject)
    (shrinks : ∀ subject, used l' subject ≤ used l subject)
    (sales : ∀ i ∈ l'.issuances, i.source = .sale → SaleBooked l' i.salePubkey) : WithinCaps l' := by
  refine ⟨?_, sales⟩
  intro subject cap limited
  rw [caps] at limited
  exact Nat.le_trans (shrinks subject) (within.caps subject cap limited)

theorem WithinCaps.sales_kept (within : WithinCaps l) (kept : ∀ id r, lookup Reservation.id id l.reservations = some r →
      r.booked = true → lookup Reservation.id id l'.reservations = some r) :
    ∀ i ∈ l.issuances, i.source = .sale → SaleBooked l' i.salePubkey := by
  intro i member source
  obtain ⟨id, r, terms, stored, sale, booked, pubkey⟩ := within.sales i member source
  exact ⟨id, r, terms, kept id r stored booked, sale, booked, pubkey⟩

theorem WithinCaps.sales_issued (within : WithinCaps l) {amountEur : Nat} {issuedAt : Date} {salePubkey : Option Pubkey}
    {source : IssuanceSource} {issuance : Option Nat}
    (written : Issued l r amountEur issuedAt salePubkey source counted issuance)
    (kept : ∀ id r, lookup Reservation.id id l.reservations = some r → r.booked = true →
      lookup Reservation.id id l'.reservations = some r) (own : source = .sale → SaleBooked l' salePubkey) :
    ∀ i ∈ counted.issuances, i.source = .sale → SaleBooked l' i.salePubkey := by
  have older := within.sales_kept kept
  cases written with
  | issuer | linked => exact older
  | appended =>
      intro i member sale
      rcases List.mem_append.mp member with earlier | new
      · exact older i earlier sale
      · obtain rfl := List.mem_singleton.mp new
        exact own sale

theorem WithinCaps.appended (within : WithinCaps l) {report : CapacityReport}
    (reported : saleCapacity l r.subject = .ok report) (room : report.used + r.amountEur ≤ report.cap)
    (open' : r.booked = false) : WithinCaps (l.append r) := by
  obtain ⟨limited, -, counted⟩ := saleCapacity_ok reported
  refine ⟨?_, within.sales_kept fun id r' stored _ => lookup_append_of_found _ stored _⟩
  intro subject cap capped
  rw [capOf_append] at capped
  have sofar := within.caps subject cap capped
  unfold used at sofar ⊢
  rw [issued_append, reserved_append, bookedUse_of_not_booked l subject open']
  by_cases here : r.subject = subject
  · subst here
    obtain rfl : report.cap = cap := Except.ok.inj (limited.symm.trans capped)
    have most : liveUse r.subject r ≤ r.amountEur := by
      unfold liveUse
      split <;> omega
    omega
  · simp only [liveUse, here, false_and, if_false]
    omega

theorem WithinCaps.adjusted (within : WithinCaps l) {issuance : SpvIssuance} {spvId : Nat} {report : CapacityReport}
    (spv : issuance.spvId = spvId) (manual : issuance.source = .manual) (reported : saleCapacity l (.spv spvId) = .ok report)
    (room : ¬ inWindow l issuance.issuedAt ∨ report.used + issuance.amountEur ≤ report.cap) :
    WithinCaps { l with issuances := l.issuances ++ [issuance] } := by
  obtain ⟨limited, -, counted⟩ := saleCapacity_ok reported
  refine ⟨?_, ?_⟩
  · intro subject cap capped
    have sofar := within.caps subject cap (by cases subject <;> exact capped)
    show issued { l with issuances := l.issuances ++ [issuance] } subject + reserved l subject ≤ cap
    rw [issued_issuance]
    unfold used at sofar
    cases subject with
    | issuer pda => exact sofar
    | spv id =>
        by_cases inside : issuance.spvId = id ∧ inWindow l issuance.issuedAt
        · obtain rfl : spvId = id := spv.symm.trans inside.1
          obtain rfl : report.cap = cap := Except.ok.inj (limited.symm.trans capped)
          have enough := room.resolve_left fun outside => outside inside.2
          simp only [issuanceUse, inside.1, inside.2, and_self, if_true]
          omega
        · simp only [issuanceUse, inside, if_false]
          exact sofar
  · intro i member sale
    rcases List.mem_append.mp member with earlier | new
    · exact within.sales i earlier sale
    · rw [List.mem_singleton.mp new, manual] at sale
      cases sale

theorem WithinCaps.elsewhere (within : WithinCaps l) (same : Elsewhere l l')
    (caps : ∀ subject cap, capOf l' subject = .ok cap → capOf l subject = .ok cap ∨ used l subject = 0) : WithinCaps l' := by
  have shrinks : ∀ subject, used l' subject ≤ used l subject := by
    intro subject
    unfold used
    rw [reserved_aged same]
    exact Nat.add_le_add_right (issued_aged same subject) _
  refine ⟨?_, ?_⟩
  · intro subject cap capped
    rcases caps subject cap capped with earlier | none
    · exact Nat.le_trans (shrinks subject) (within.caps subject cap earlier)
    · have most := shrinks subject
      omega
  · rw [same.issuances]
    apply within.sales_kept
    rw [same.reservations]
    exact fun _ _ stored _ => stored

theorem WithinCaps.fresh_sale (within : WithinCaps l) (formed : WellFormed l) {terms : SaleTerms} (member : r ∈ l.reservations)
    (sale : r.terms = some terms) (status : r.status = .consumed) :
    ∀ i ∈ l.issuances, i.source = .sale → i.salePubkey ≠ some terms.salePda := by
  intro i listed source pubkey
  obtain ⟨id, r', terms', stored, sale', booked, pubkey'⟩ := within.sales i listed source
  have same : terms'.salePda = terms.salePda := Option.some.inj (pubkey'.symm.trans pubkey)
  have indexed : r.countedSalePda = some terms.salePda := by
    simp [Reservation.countedSalePda, sale, Reservation.counted, status]
  have indexed' : r'.countedSalePda = some terms.salePda := by
    unfold Reservation.booked at booked
    cases status' : r'.status <;> simp [status'] at booked
    simp [Reservation.countedSalePda, sale', Reservation.counted, status', same]
  have one := eq_of_indexed formed.indexes.2.2.1 member (mem_of_lookup _ stored).1 indexed indexed'
  rw [← one, Reservation.booked, status] at booked
  cases booked

theorem findSale_of_stored {id : Nat} {terms : SaleTerms} (stored : lookup Reservation.id id l.reservations = some r)
    (sale : r.terms = some terms) : (findSale l id).toOption = some (r, terms) := by
  simp [findSale, findReservation, stored, sale, okOr, Except.toOption, bind, Except.bind, pure, Except.pure]

theorem findReservation_of_stored {id : Nat} (stored : lookup Reservation.id id l.reservations = some r) :
    (findReservation l id).toOption = some r := by
  simp [findReservation, stored, okOr, Except.toOption]

theorem consumedAt_amountEur {terms : SaleTerms} {gross : Nat} (now : Int) (within : gross ≤ terms.maxGrossRaise) :
    (r.consumedAt terms gross now).amountEur = min r.amountEur (saleCapacityEur gross terms.fxRate terms.paymentDecimals) := by
  rw [Reservation.consumedAt, if_neg (Nat.not_lt.mpr within)]

theorem landed_of_counted (counted : r.counted = true) : r.landed = r := by
  unfold Reservation.landed
  unfold Reservation.counted at counted
  cases status : r.status with
  | released => simp [status] at counted
  | reserved | consumed | booked => rfl

/-! ## Every step -/

/-- Settling a row never raises what a subject is counted at. -/
theorem settled_step (formed : WellFormed l) (within : WithinCaps l) (ordinary : Ordinary l label)
    (sold : SoldWithin l label) (settles : label.settles = true) (stepped : step l label = .ok l') (subject : Subject) :
    used l' subject ≤ used l subject := by
  cases step_effect stepped with
  | retried => exact Nat.le_refl _
  | confirmed stored _ live =>
      have unbooked := booked_of_live live
      exact formed.used_le (mem_of_lookup _ stored).1 (confirmedAt_continues _) unbooked unbooked (fun live => live)
        (Nat.le_refl _) subject
  | consumed stored sale status =>
      have below := ordinary _ (findSale_of_stored stored sale) status
      apply formed.used_le (mem_of_lookup _ stored).1 (consumedAt_continues _ _ _)
      · rw [Reservation.booked, status]
      · rw [Reservation.booked, consumedAt_status]
      · rw [Reservation.live, Reservation.live, status]
        exact fun _ => rfl
      · rw [consumedAt_amountEur l.now below]
        exact Nat.min_le_left _ _
  | unsold stored sale status =>
      apply formed.used_le (mem_of_lookup _ stored).1 (withStatus_continues _)
      · rw [Reservation.booked, status]
      · rfl
      · intro live
        cases live
      · exact Nat.le_refl _
  | released stored status =>
      apply formed.used_le (mem_of_lookup _ stored).1 (withStatus_continues _)
      · rw [Reservation.booked, status]
      · rfl
      · intro live
        cases live
      · exact Nat.le_refl _
  | @booked _ gross _ _ r terms _ _ _ stored sale status _ _ written =>
      have member := (mem_of_lookup _ stored).1
      have fresh := within.fresh_sale formed member sale status
      have less : saleCapacityEur gross terms.fxRate terms.paymentDecimals ≤ r.amountEur :=
        sold (r, terms) (findSale_of_stored stored sale) status
      have live : r.live = true := by rw [Reservation.live, status]
      exact used_booked formed written (fun i listed source _ => fresh i listed source) member (withStatus_continues _) live rfl less
        subject
  | landed stored treasury status =>
      have counted := ordinary _ (findReservation_of_stored stored)
      rw [landed_of_counted counted] at status ⊢
      exact formed.used_le (mem_of_lookup _ stored).1 ⟨rfl, rfl, rfl⟩ (by rw [Reservation.booked, status])
        (by rw [Reservation.booked, status]) (fun live => live) (Nat.le_refl _) subject
  | minted stored treasury status written =>
      have counted := ordinary _ (findReservation_of_stored stored)
      rw [landed_of_counted counted] at status written ⊢
      refine used_booked formed written (fun _ _ _ source => by cases source) (mem_of_lookup _ stored).1
        (minted_continues _ _ _ _ _) ?_ rfl (Nat.le_refl _) subject
      rw [Reservation.live, status]
  | adopted => exact ordinary.elim
  | adoptedMint => exact ordinary.elim
  | reservedSale | reservedTreasury | adjusted | registered | spvIssuer => cases settles
  | elsewhere same =>
      unfold used
      rw [reserved_aged same]
      exact Nat.add_le_add_right (issued_aged same subject) _

theorem withinCaps_step (formed : WellFormed l) (within : WithinCaps l) (ordinary : Ordinary l label)
    (sold : SoldWithin l label) (stepped : step l label = .ok l') : WithinCaps l' := by
  have shrinks := fun settles => settled_step formed within ordinary sold settles stepped
  have kept : ∀ id r, lookup Reservation.id id l.reservations = some r → r.booked = true →
      lookup Reservation.id id l'.reservations = some r :=
    fun id r stored booked => booked_stays formed stored booked stepped
  cases step_effect stepped with
  | retried => exact within
  | confirmed | consumed | unsold | released | landed =>
      exact within.shrunk (capOf_rewrite l _) (shrinks rfl) (within.sales_kept kept)
  | @booked id gross issuedAt insertFails r terms issued counted issuance stored sale status _ _ written =>
      refine within.shrunk (fun subject => (capOf_rewrite _ _ _).trans (written.capOf subject)) (shrinks rfl) ?_
      apply within.sales_issued written kept
      intro _
      exact ⟨_, _, terms, lookup_rewrite counted _, sale, rfl, rfl⟩
  | minted stored treasury status written =>
      refine within.shrunk (fun subject => (capOf_rewrite _ _ _).trans (written.capOf subject)) (shrinks rfl) ?_
      have sales := within.sales_issued written kept fun source => by cases source
      exact sales
  | adopted => exact ordinary.elim
  | adoptedMint => exact ordinary.elim
  | reservedSale new _ _ reported room => exact within.appended reported room (by rw [new]; rfl)
  | reservedTreasury new _ reported room => exact within.appended reported room (by rw [new]; rfl)
  | adjusted found spv source reported room =>
      refine within.adjusted spv source reported (room.resolve_left ?_)
      rw [show _ = false from ordinary]
      exact Bool.false_ne_true
  | @registered spv fresh =>
      refine within.elsewhere ⟨rfl, rfl, rfl, rfl, Date.le_refl _⟩ ?_
      intro subject cap capped
      cases subject with
      | issuer pda => exact .inl capped
      | spv id =>
          by_cases known : lookup Spv.id id l.spvs = none
          · exact .inr (used_unregistered formed known)
          · left
            simp only [capOf, lookup_registered known] at capped ⊢
            exact capped
  | @spvIssuer id issuerPda =>
      refine within.elsewhere ⟨rfl, rfl, rfl, rfl, Date.le_refl _⟩ ?_
      intro subject cap capped
      left
      cases subject with
      | issuer pda => exact capped
      | spv id' =>
          simp only [capOf, bind_eq_ok, okOr_eq_ok, pure_eq_ok, lookup_renamed, Option.map_eq_some_iff] at capped ⊢
          obtain ⟨_, ⟨spv, found, rfl⟩, limit⟩ := capped
          refine ⟨spv, found, ?_⟩
          rw [← limit]
          split <;> rfl
  | elsewhere same spvs =>
      apply within.elsewhere same
      intro subject cap capped
      left
      unfold capOf at capped ⊢
      rwa [spvs, same.clientRaiseLimits, same.platformRaiseLimit] at capped

/-- A booking of a row moves it, or changes nothing. -/
theorem books_step (formed : WellFormed l) (within : WithinCaps l) (ordinary : Ordinary l label) {id : Nat}
    (books : label.books = some id) (stepped : step l label = .ok l') :
    l'.reservations = l.reservations ∧ l'.issuances = l.issuances ∨ Moved l l' id := by
  cases step_effect stepped with
  | retried => exact .inl ⟨rfl, rfl⟩
  | elsewhere same => exact .inl ⟨same.reservations, same.issuances⟩
  | @unsold _ _ _ r terms stored sale status =>
      cases books
      obtain ⟨member, rfl⟩ := mem_of_lookup _ stored
      have before : r.booked = false := by rw [Reservation.booked, status]
      have live : r.live = true := by rw [Reservation.live, status]
      have totals := formed.unbooked_totals member (withStatus_continues (.released .closedUnsold)) before rfl
      refine .inr ⟨r, r.withStatus (.released .closedUnsold), stored, live,
        (withStatus_continues _).written l, ?_, .inr ⟨rfl, fun subject => (totals subject).1⟩⟩
      intro subject
      rw [(totals subject).2, liveUse_of_not_live rfl, Nat.add_zero]
  | @booked _ gross _ _ r terms issued counted issuance stored sale status _ _ written =>
      cases books
      obtain ⟨member, rfl⟩ := mem_of_lookup _ stored
      have live : r.live = true := by rw [Reservation.live, status]
      have fresh := within.fresh_sale formed member sale status
      have same := withStatus_continues (r := r)
      refine .inr ⟨r, r.withStatus (.booked (saleCapacityEur gross terms.fxRate terms.paymentDecimals) issued issuance), stored,
        live, (same _).written counted, ?_, .inl ⟨_, _, _, rfl, ?_⟩⟩
      · exact reserved_booked formed written member (same _) rfl
      · exact issued_booked formed written (fun i listed source _ => fresh i listed source) member (same _)
          (booked_of_live live) rfl
  | @landed _ _ _ _ r stored treasury status =>
      left
      have counted := ordinary _ (findReservation_of_stored stored)
      obtain ⟨member, rfl⟩ := mem_of_lookup _ stored
      rw [landed_of_counted counted]
      exact ⟨upsert_stored _ stored, rfl⟩
  | @minted _ signature _ _ r units issued counted issuance stored treasury status written =>
      cases books
      have reserved := ordinary _ (findReservation_of_stored stored)
      obtain ⟨member, rfl⟩ := mem_of_lookup _ stored
      rw [landed_of_counted reserved] at status written stepped ⊢
      have live : r.live = true := by rw [Reservation.live, status]
      have same := minted_continues (r := r)
      refine .inr ⟨r, r.minted units signature issued issuance l.now, stored, live,
        (same _ _ _ _ _).written counted, ?_, .inl ⟨_, _, _, rfl, ?_⟩⟩
      · exact reserved_booked formed written member (same _ _ _ _ _) rfl
      · exact issued_booked formed written (fun _ _ _ source => by cases source) member (same _ _ _ _ _)
          (booked_of_live live) rfl
  | reservedSale | confirmed | consumed | released | adopted | reservedTreasury | adoptedMint | adjusted | registered
  | spvIssuer => cases books

theorem consume_step (formed : WellFormed l) {id : Nat} {salePda : Pubkey} {gross : Nat} {terms : SaleTerms}
    (stored : lookup Reservation.id id l.reservations = some r) (sale : r.terms = some terms) (status : r.status = .reserved)
    (within : gross ≤ terms.maxGrossRaise) (stepped : step l (.consumeSaleReservation id salePda gross) = .ok l') :
    ∃ r', lookup Reservation.id id l'.reservations = some r' ∧
      r'.amountEur = saleCapacityEur gross terms.fxRate terms.paymentDecimals := by
  obtain ⟨member, rfl⟩ := mem_of_lookup _ stored
  have found : findSale l r.id = .ok (r, terms) := by
    simp [findSale, findReservation, stored, sale, okOr, bind, Except.bind, pure, Except.pure]
  simp only [step, consumeSaleReservation, found, map_eq_ok, bind_eq_ok, require_eq_ok, exists_const, Prod.exists,
    Except.ok.injEq, Prod.mk.injEq] at stepped
  obtain ⟨_, _, ⟨_, _, ⟨rfl, rfl⟩, -, stepped⟩, rfl⟩ := stepped
  simp only [status, bind_eq_ok, require_eq_ok, pure_eq_ok, exists_const, Prod.mk.injEq] at stepped
  obtain ⟨-, _, updated, _, -, rfl, -⟩ := stepped
  obtain ⟨rfl, -⟩ := updateReservation_ok updated
  refine ⟨r.consumedAt terms gross l.now, (consumedAt_continues terms gross l.now).written l, ?_⟩
  rw [consumedAt_amountEur l.now within]
  apply Nat.min_eq_right
  exact Nat.le_trans (saleCapacityEur_mono within _ _) (formed.covered r member status terms sale)

theorem book_step {id gross : Nat} {issuedAt : Option Date} {terms : SaleTerms}
    (stored : lookup Reservation.id id l.reservations = some r) (sale : r.terms = some terms) (status : r.status = .consumed)
    (sold : gross ≠ 0) (stepped : step l (.bookSaleReservation id gross issuedAt false) = .ok l') :
    ∃ r', lookup Reservation.id id l'.reservations = some r' ∧ r'.booked = true := by
  obtain ⟨member, rfl⟩ := mem_of_lookup _ stored
  have found : findSale l r.id = .ok (r, terms) := by
    simp [findSale, findReservation, stored, sale, okOr, bind, Except.bind, pure, Except.pure]
  simp only [step, bookSaleReservation, found, map_eq_ok, bind_eq_ok, Prod.exists, Except.ok.injEq, Prod.mk.injEq] at stepped
  obtain ⟨_, _, ⟨_, _, ⟨rfl, rfl⟩, _, -, stepped⟩, rfl⟩ := stepped
  simp only [status, sold, if_false, bind_eq_ok, require_eq_ok, exists_const, Bool.false_eq_true, and_false, pure_eq_ok,
    Prod.mk.injEq] at stepped
  obtain ⟨-, _, updated, _, -, rfl, -⟩ := stepped
  obtain ⟨rfl, -⟩ := updateReservation_ok updated
  exact ⟨_, lookup_rewrite _ (r.withStatus (.booked _ _ _)), rfl⟩

theorem mint_step {id : Nat} {signature : String} {issuedAt : Option Date}
    (stored : lookup Reservation.id id l.reservations = some r) (status : r.status = .reserved)
    (stepped : step l (.bookTreasuryMint id signature issuedAt false) = .ok l') :
    ∃ r', lookup Reservation.id id l'.reservations = some r' ∧ r'.mintSignature = some signature ∧
      ∃ issued issuance, r'.status = .booked r.amountEur issued issuance := by
  obtain ⟨member, rfl⟩ := mem_of_lookup _ stored
  have found : findReservation l r.id = .ok r := by simp [findReservation, stored, okOr]
  simp only [step, bookTreasuryMint, found, map_eq_ok, bind_eq_ok, Prod.exists, Except.ok.injEq] at stepped
  obtain ⟨_, _, ⟨_, rfl, stepped⟩, rfl⟩ := stepped
  cases kind : r.kind with
  | sale terms =>
      simp only [kind] at stepped
      cases stepped
  | treasuryMint units earlier =>
      have landed : r.landed = r := by rw [Reservation.landed, status]
      simp only [kind, status, landed, bind_eq_ok, require_eq_ok, exists_const, Bool.false_eq_true, and_false, if_false,
        pure_eq_ok, Prod.mk.injEq] at stepped
      obtain ⟨-, _, -, -, -, _, updated, _, -, rfl, -⟩ := stepped
      obtain ⟨rfl, -⟩ := updateReservation_ok updated
      exact ⟨_, lookup_rewrite _ (r.minted units signature _ _ l.now), rfl, _, _, rfl⟩

end steps

/-! ## Whole runs -/

section runs
variable {spvs : List Spv} {platformRaiseLimit : Option Nat} {clientRaiseLimits : Pubkey → List Nat} {now : Int} {today : Date}

theorem withinCaps_empty : WithinCaps (emptyLedger spvs platformRaiseLimit clientRaiseLimits now today) := by
  refine ⟨?_, fun _ listed => nomatch listed⟩
  intro subject cap _
  cases subject <;> exact Nat.zero_le _

structure CapSafe (run : Run step (emptyLedger spvs platformRaiseLimit clientRaiseLimits now today)) : Prop where
  within : ∀ i ≤ run.length, ∀ subject report, saleCapacity (run.state i) subject = .ok report →
    report.used = used (run.state i) subject ∧ report.used ≤ report.cap
  settles : ∀ i < run.length, (run.label i).settles = true → ∀ subject,
    used (run.state (i + 1)) subject ≤ used (run.state i) subject
  consumes : ∀ i < run.length, ∀ id salePda gross, run.label i = .consumeSaleReservation id salePda gross →
    ∀ r terms, lookup Reservation.id id (run.state i).reservations = some r → r.terms = some terms →
    r.status = .reserved → ∃ r', lookup Reservation.id id (run.state (i + 1)).reservations = some r' ∧
      r'.amountEur = saleCapacityEur gross terms.fxRate terms.paymentDecimals
  moves : ∀ i < run.length, ∀ id, (run.label i).books = some id →
    (run.state (i + 1)).reservations = (run.state i).reservations ∧
      (run.state (i + 1)).issuances = (run.state i).issuances ∨ Moved (run.state i) (run.state (i + 1)) id
  books : ∀ i < run.length, ∀ id gross issuedAt, run.label i = .bookSaleReservation id gross issuedAt false → gross ≠ 0 →
    ∀ r terms, lookup Reservation.id id (run.state i).reservations = some r → r.terms = some terms →
    r.status = .consumed → ∃ r', lookup Reservation.id id (run.state (i + 1)).reservations = some r' ∧ r'.booked = true
  mints : ∀ i < run.length, ∀ id signature issuedAt, run.label i = .bookTreasuryMint id signature issuedAt false →
    ∀ r, lookup Reservation.id id (run.state i).reservations = some r → r.status = .reserved →
    ∃ r', lookup Reservation.id id (run.state (i + 1)).reservations = some r' ∧ r'.mintSignature = some signature ∧
      ∃ issued issuance, r'.status = .booked r.amountEur issued issuance
  once : ∀ i j, i ≤ j → j ≤ run.length → ∀ id r, lookup Reservation.id id (run.state i).reservations = some r →
    r.booked = true → lookup Reservation.id id (run.state j).reservations = some r

variable (run : Run step (emptyLedger spvs platformRaiseLimit clientRaiseLimits now today))

theorem withinCaps_run (ordinary : ∀ i < run.length, Ordinary (run.state i) (run.label i))
    (sold : ∀ i < run.length, SoldWithin (run.state i) (run.label i)) : ∀ i ≤ run.length, WithinCaps (run.state i) := by
  intro i inside
  refine run.invariant_from (P := WithinCaps) (by rw [run.starts]; exact withinCaps_empty) ?_ i inside (Nat.zero_le i)
  intro j before _ within
  have formed := wellFormed_run run j (Nat.le_of_lt before)
  exact withinCaps_step formed within (ordinary j before) (sold j before) (run.next j before)

end runs

/-- As long as every sale is booked at no more than its row holds, whatever happens to however many subjects:
no subject is counted past its cap, settling a row never raises a subject, and a booking moves a row from the
reserved to the issued amounts once. -/
theorem cap_never_exceeded (spvs : List Spv) (platformRaiseLimit : Option Nat) (clientRaiseLimits : Pubkey → List Nat)
    (now : Int) (today : Date) (run : Run step (emptyLedger spvs platformRaiseLimit clientRaiseLimits now today))
    (ordinary : ∀ i < run.length, Ordinary (run.state i) (run.label i))
    (sold : ∀ i < run.length, SoldWithin (run.state i) (run.label i)) : CapSafe run := by
  have formed := wellFormed_run run
  have within := withinCaps_run run ordinary sold
  refine ⟨?within, ?settles, ?consumes, ?moves, ?books, ?mints, ?once⟩
  case within =>
    intro i inside subject report reported
    obtain ⟨limited, -, counted⟩ := saleCapacity_ok reported
    refine ⟨counted, ?_⟩
    rw [counted]
    exact (within i inside).caps subject report.cap limited
  case settles =>
    intro i inside settles
    have before := Nat.le_of_lt inside
    exact settled_step (formed i before) (within i before) (ordinary i inside) (sold i inside) settles (run.next i inside)
  case consumes =>
    intro i inside id salePda gross labelled r terms stored sale status
    have stepped := run.next i inside
    have below := ordinary i inside
    rw [labelled] at stepped below
    exact consume_step (formed i (Nat.le_of_lt inside)) stored sale status (below _ (findSale_of_stored stored sale) status) stepped
  case moves =>
    intro i inside id books
    have before := Nat.le_of_lt inside
    exact books_step (formed i before) (within i before) (ordinary i inside) books (run.next i inside)
  case books =>
    intro i inside id gross issuedAt labelled some r terms stored sale status
    have stepped := run.next i inside
    rw [labelled] at stepped
    exact book_step stored sale status some stepped
  case mints =>
    intro i inside id signature issuedAt labelled r stored status
    have stepped := run.next i inside
    rw [labelled] at stepped
    exact mint_step stored status stepped
  case once =>
    intro i j after inside id r stored booked
    refine run.invariant_from (P := fun l => lookup Reservation.id id l.reservations = some r) stored ?_ j inside after
    intro k before _ stored
    exact booked_stays (formed k (Nat.le_of_lt before)) stored booked (run.next k before)

section example'

def examplePeg : FxRate :=
  { kind := .eurPeg, eurPerToken := ⟨1, by norm_num⟩, decimals := 0, asOf := 0, maxAge := 0, overrideAuto := false }

def exampleRequest (id : Nat) (maxGrossRaise : Nat) : SaleRequest where
  id
  shareClass := 1
  assetPda := none
  issuerPda := 7
  spvId := none
  applicationId := none
  applicationHash := 0
  approval :=
    { saleId := id, approvalPda := 20 + id, salePda := 40 + id, paymentMint := 2, maxGrossRaise, minPricePerUnit := 1,
      maxPricePerUnit := 1, raiseType := .mature, cliffMonths := 0, vestingMonths := 0, expiresAt := 1 }
  paymentDecimals := 0
  reservedBy := "admin"

instance : Inhabited CapacityLabel := ⟨.setHolds []⟩

def exampleLedger : Ledger :=
  emptyLedger [] (some 10000) (fun _ => []) 0 { year := 2026, month := 1, day := 1 }

def exampleLabels (gross : Nat) : List CapacityLabel :=
  [.setFxRate 2 (some examplePeg), .reserveSaleCapacity (exampleRequest 0 100), .consumeSaleReservation 0 40 1,
    .reserveSaleCapacity (exampleRequest 1 99), .bookSaleReservation 0 gross none false]

theorem booked_past_consumed_maximum : ∃ run : Run step exampleLedger,
    (∀ i < run.length, Ordinary (run.state i) (run.label i)) ∧
      ∃ report, saleCapacity (run.state run.length) (.issuer 7) = .ok report ∧ report.cap < report.used := by
  refine ⟨Run.ofLabels step exampleLedger (exampleLabels 100) (by decide +kernel), by decide +kernel, ?_⟩
  exact ⟨{ subject := .issuer 7, cap := 10000, issued := 10000, reserved := 9900, used := 19900, remaining := 0, holds := 0 },
    by decide +kernel, by decide⟩

theorem cap_never_exceeded_example :
    CapSafe (Run.ofLabels step exampleLedger (exampleLabels 1) (by decide +kernel)) :=
  cap_never_exceeded _ _ _ _ _ _ (by decide +kernel) (by decide +kernel)

end example'

end Mancipatio.Capacity
