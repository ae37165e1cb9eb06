import Mancipatio.Capacity.Functions

/-!
# What a function of the raise-cap ledger does

A function leaves the tables as they are, appends one reservation, or rewrites one; a booking and an
adjustment append one issuance besides.
-/

namespace Mancipatio.Capacity
open Checked Rows Execution

def Ledger.append (l : Ledger) (r : Reservation) : Ledger :=
  { l with reservations := l.reservations ++ [r] }

def Ledger.rewrite (l : Ledger) (r : Reservation) : Ledger :=
  { l with reservations := upsert Reservation.id r l.reservations }

def Reservation.withStatus (r : Reservation) (status : Status) : Reservation :=
  { r with status }

def Reservation.confirmedAt (r : Reservation) (now : Int) : Reservation :=
  { r with chainConfirmedAt := some (r.chainConfirmedAt.getD now) }

section writes
variable {l l' : Ledger} {r : Reservation}

theorem insertReservation_ok (stepped : insertReservation l r = .ok l') :
    l' = l.append r ∧ indexesHold l'.reservations := by
  simp only [insertReservation, writeReservations, bind_eq_ok, require_eq_ok, pure_eq_ok, exists_const] at stepped
  obtain ⟨-, -, kept, rfl⟩ := stepped
  exact ⟨rfl, kept⟩

theorem updateReservation_ok (stepped : updateReservation l r = .ok l') :
    l' = l.rewrite r ∧ indexesHold l'.reservations := by
  simp only [updateReservation, writeReservations, bind_eq_ok, require_eq_ok, pure_eq_ok, exists_const] at stepped
  obtain ⟨-, kept, rfl⟩ := stepped
  exact ⟨rfl, kept⟩

theorem findSale_ok {id : Nat} {terms : SaleTerms} (found : findSale l id = .ok (r, terms)) :
    lookup Reservation.id id l.reservations = some r ∧ r.terms = some terms := by
  simp only [findSale, findReservation, bind_eq_ok, okOr_eq_ok, pure_eq_ok, Prod.mk.injEq] at found
  obtain ⟨_, stored, _, sale, rfl, rfl⟩ := found
  exact ⟨stored, sale⟩

theorem saleCapacityLock_ok {spvId : Option Nat} {issuerPda : Pubkey} {subject : Subject}
    (locked : saleCapacityLock l spvId issuerPda = .ok subject) :
    (∀ id ∈ spvId, lookup Spv.id id l.spvs ≠ none) ∧ subject = subjectOf spvId issuerPda := by
  simp only [saleCapacityLock, bind_eq_ok, require_eq_ok, pure_eq_ok, exists_const] at locked
  exact ⟨locked.1, locked.2.symm⟩

theorem saleCapacity_ok {subject : Subject} {report : CapacityReport} (reported : saleCapacity l subject = .ok report) :
    capOf l subject = .ok report.cap ∧ report.subject = subject ∧
      report.used = issued l subject + reserved l subject := by
  simp only [saleCapacity, bind_eq_ok, pure_eq_ok] at reported
  obtain ⟨cap, limited, rfl⟩ := reported
  exact ⟨limited, rfl, rfl⟩

end writes

def bookedIssuance (l : Ledger) (r : Reservation) (spvId amountEur : Nat) (issuedAt : Date) (salePubkey : Option Pubkey)
    (source : IssuanceSource) : SpvIssuance where
  id := l.issuances.length
  spvId
  assetPda := r.assetPda
  salePubkey
  amountEur
  issuedAt
  source

inductive Issued (l : Ledger) (r : Reservation) (amountEur : Nat) (issuedAt : Date) (salePubkey : Option Pubkey)
    (source : IssuanceSource) : Ledger → Option Nat → Prop where
  | issuer : r.spvId = none → Issued l r amountEur issuedAt salePubkey source l none
  | linked {spvId} (existing : SpvIssuance) : r.spvId = some spvId → existing ∈ l.issuances → existing.spvId = spvId →
      existing.source = .sale → source = .sale → existing.salePubkey = salePubkey →
      Issued l r amountEur issuedAt salePubkey source l (some existing.id)
  | appended {spvId} : r.spvId = some spvId →
      Issued l r amountEur issuedAt salePubkey source
        { l with issuances := l.issuances ++ [bookedIssuance l r spvId amountEur issuedAt salePubkey source] }
        (some l.issuances.length)

theorem bookIssuance_issued (l : Ledger) (r : Reservation) (amountEur : Nat) (issuedAt : Date) (salePubkey : Option Pubkey)
    (source : IssuanceSource) :
    Issued l r amountEur issuedAt salePubkey source (bookIssuance l r amountEur issuedAt salePubkey source).1
      (bookIssuance l r amountEur issuedAt salePubkey source).2.1 := by
  unfold bookIssuance
  cases subject : r.spvId with
  | none => exact .issuer subject
  | some spvId =>
      dsimp only
      split
      case h_1 existing found =>
        have matched := List.find?_some found
        simp only [decide_eq_true_eq] at matched
        obtain ⟨spv, sale, source, pubkey⟩ := matched
        exact .linked existing subject (List.mem_of_find?_eq_some found) spv sale source pubkey
      case h_2 => exact .appended subject

/-! ## Adoption -/

inductive Adopted (l : Ledger) (chain : OnChainApproval) (spvId : Option Nat) : Ledger × Reply → Prop where
  | inserted {rate decimals capacity row} :
      row = chain.row spvId rate decimals (saleCapacityEur chain.approval.maxGrossRaise rate decimals) l.now →
      findApproval l chain.approval.approvalPda = none → indexesHold (l.append row).reservations →
      saleCapacity (l.append row) (subjectOf spvId chain.issuerPda) = .ok capacity →
      Adopted l chain spvId
        (l.append row, { row, action := some .inserted, overCap := capacity.overCap, capacity := some capacity })
  | unchanged {r} : findApproval l chain.approval.approvalPda = some r →
      (r.status = .consumed ∨ (∃ amountEur issuedAt issuance, r.status = .booked amountEur issuedAt issuance) ∨
        r.status = .reserved ∧ r.matchesChain chain) →
      Adopted l chain spvId (l, { row := r, action := some .unchanged })
  | changed {r terms rate decimals capacity row} {action : Action} : action ≠ .unchanged →
      row = r.adoptedAt terms chain rate decimals (saleCapacityEur chain.approval.maxGrossRaise rate decimals) l.now →
      findApproval l chain.approval.approvalPda = some r → r.terms = some terms →
      (r.status = .reserved ∧ ¬ r.matchesChain chain ∨ ∃ reason, r.status = .released reason) →
      indexesHold (l.rewrite row).reservations →
      saleCapacity (l.rewrite row) (subjectOf spvId chain.issuerPda) = .ok capacity →
      Adopted l chain spvId
        (l.rewrite row, { row, action := some action, overCap := capacity.overCap, capacity := some capacity })

theorem adoptSaleApproval_adopted {l : Ledger} {chain : OnChainApproval} {spvId : Option Nat} {result : Ledger × Reply}
    (stepped : adoptSaleApproval l chain spvId = .ok result) :
    (∀ id ∈ spvId, lookup Spv.id id l.spvs ≠ none) ∧ Adopted l chain spvId result := by
  simp only [adoptSaleApproval, bind_eq_ok] at stepped
  obtain ⟨subject, locked, stepped⟩ := stepped
  obtain ⟨registered, rfl⟩ := saleCapacityLock_ok locked
  refine ⟨registered, ?_⟩
  cases found : findApproval l chain.approval.approvalPda with
  | none =>
      simp only [found, bind_eq_ok, pure_eq_ok, Prod.exists] at stepped
      obtain ⟨rate, decimals, -, l', inserted, capacity, reported, rfl⟩ := stepped
      obtain ⟨rfl, kept⟩ := insertReservation_ok inserted
      exact .inserted rfl found kept reported
  | some r =>
      cases status : r.status with
      | consumed =>
          simp only [found, status, Except.ok.injEq] at stepped
          subst stepped
          exact .unchanged found (.inl status)
      | booked amountEur issuedAt issuance =>
          simp only [found, status, Except.ok.injEq] at stepped
          subst stepped
          exact .unchanged found (.inr (.inl ⟨_, _, _, status⟩))
      | reserved =>
          by_cases matched : r.matchesChain chain
          · simp only [found, status, if_pos matched, Except.ok.injEq] at stepped
            subst stepped
            exact .unchanged found (.inr (.inr ⟨status, matched⟩))
          · simp only [found, status, if_neg matched, bind_eq_ok, okOr_eq_ok, pure_eq_ok, Prod.exists] at stepped
            obtain ⟨terms, sale, rate, decimals, -, l', updated, capacity, reported, rfl⟩ := stepped
            obtain ⟨rfl, kept⟩ := updateReservation_ok updated
            exact .changed (by decide) rfl found sale (.inl ⟨status, matched⟩) kept reported
      | released reason =>
          simp only [found, status, bind_eq_ok, okOr_eq_ok, pure_eq_ok, Prod.exists] at stepped
          obtain ⟨terms, sale, rate, decimals, -, l', updated, capacity, reported, rfl⟩ := stepped
          obtain ⟨rfl, kept⟩ := updateReservation_ok updated
          exact .changed (by decide) rfl found sale (.inr ⟨_, status⟩) kept reported

/-! ## Every step -/

/-- What only reads of the ledger change: the caps and what is counted stay, and the date does not go back. -/
structure Elsewhere (l l' : Ledger) : Prop where
  reservations : l'.reservations = l.reservations
  issuances : l'.issuances = l.issuances
  platformRaiseLimit : l'.platformRaiseLimit = l.platformRaiseLimit
  clientRaiseLimits : l'.clientRaiseLimits = l.clientRaiseLimits
  today : l.today ≤ l'.today

inductive Effect (l : Ledger) : CapacityLabel → Ledger → Prop where
  | retried {label} : Effect l label l
  | reservedSale {request rate capacity row} :
      row = request.row rate (saleCapacityEur request.approval.maxGrossRaise rate request.paymentDecimals) →
      (∀ id ∈ request.spvId, lookup Spv.id id l.spvs ≠ none) →
      (∀ application ∈ request.applicationId, ∀ r ∈ l.reservations, ¬ r.backs application) →
      saleCapacity l row.subject = .ok capacity → capacity.used + row.amountEur ≤ capacity.cap →
      indexesHold (l.append row).reservations → Effect l (.reserveSaleCapacity request) (l.append row)
  | confirmed {id r terms} : lookup Reservation.id id l.reservations = some r → r.terms = some terms →
      r.live = true →
      indexesHold (l.rewrite (r.confirmedAt l.now)).reservations →
      Effect l (.confirmSaleReservation id) (l.rewrite (r.confirmedAt l.now))
  | consumed {id salePda gross r terms} : lookup Reservation.id id l.reservations = some r → r.terms = some terms →
      r.status = .reserved → indexesHold (l.rewrite (r.consumedAt terms gross l.now)).reservations →
      Effect l (.consumeSaleReservation id salePda gross) (l.rewrite (r.consumedAt terms gross l.now))
  | unsold {id issuedAt insertFails r terms} : lookup Reservation.id id l.reservations = some r →
      r.terms = some terms → r.status = .consumed →
      indexesHold (l.rewrite (r.withStatus (.released .closedUnsold))).reservations →
      Effect l (.bookSaleReservation id 0 issuedAt insertFails) (l.rewrite (r.withStatus (.released .closedUnsold)))
  | booked {id gross issuedAt insertFails r terms issued counted issuance} :
      lookup Reservation.id id l.reservations = some r → r.terms = some terms → r.status = .consumed →
      gross ≤ terms.maxGrossRaise → gross ≠ 0 →
      Issued l r (saleCapacityEur gross terms.fxRate terms.paymentDecimals) issued (some terms.salePda) .sale counted issuance →
      indexesHold (counted.rewrite
        (r.withStatus (.booked (saleCapacityEur gross terms.fxRate terms.paymentDecimals) issued issuance))).reservations →
      Effect l (.bookSaleReservation id gross issuedAt insertFails)
        (counted.rewrite
          (r.withStatus (.booked (saleCapacityEur gross terms.fxRate terms.paymentDecimals) issued issuance)))
  | released {id reason r} : lookup Reservation.id id l.reservations = some r → r.status = .reserved →
      indexesHold (l.rewrite (r.withStatus (.released reason))).reservations →
      Effect l (.releaseSaleReservation id reason) (l.rewrite (r.withStatus (.released reason)))
  | adopted {chain spvId result} : (∀ id ∈ spvId, lookup Spv.id id l.spvs ≠ none) → Adopted l chain spvId result →
      Effect l (.adoptSaleApproval chain spvId) result.1
  | reservedTreasury {request capacity row amount} : row = TreasuryRequest.row request amount →
      (∀ id ∈ request.spvId, lookup Spv.id id l.spvs ≠ none) →
      saleCapacity l row.subject = .ok capacity → capacity.used + row.amountEur ≤ capacity.cap →
      indexesHold (l.append row).reservations → Effect l (.reserveTreasuryMintCapacity request) (l.append row)
  | landed {id signature issuedAt insertFails r} : lookup Reservation.id id l.reservations = some r →
      r.terms = none → r.landed.status = .reserved → indexesHold (l.rewrite r.landed).reservations →
      Effect l (.bookTreasuryMint id signature issuedAt insertFails) (l.rewrite r.landed)
  | minted {id signature issuedAt insertFails r units issued counted issuance} :
      lookup Reservation.id id l.reservations = some r → r.terms = none → r.landed.status = .reserved →
      Issued l r.landed r.landed.amountEur issued none .treasuryMint counted issuance →
      indexesHold (counted.rewrite (r.landed.minted units signature issued issuance l.now)).reservations →
      Effect l (.bookTreasuryMint id signature issuedAt insertFails)
        (counted.rewrite (r.landed.minted units signature issued issuance l.now))
  | adoptedMint {chain spvId issuedAt amount issued counted issuance booked} :
      booked = OnChainMint.row chain spvId amount issued none l.now →
      (∀ id ∈ spvId, lookup Spv.id id l.spvs ≠ none) → indexesHold (l.append booked).reservations →
      Issued (l.append booked) booked amount issued none .treasuryMint counted issuance →
      indexesHold (counted.rewrite (chain.row spvId amount issued issuance l.now)).reservations →
      Effect l (.adoptTreasuryMint chain spvId issuedAt)
        (counted.rewrite (chain.row spvId amount issued issuance l.now))
  | adjusted {adjustment spv issuance capacity} : lookup Spv.id adjustment.spvId l.spvs = some spv →
      issuance.spvId = adjustment.spvId → issuance.source = .manual →
      saleCapacity l (.spv adjustment.spvId) = .ok capacity →
      (adjustment.capOverride = true ∨ ¬ inWindow l issuance.issuedAt ∨
        capacity.used + issuance.amountEur ≤ capacity.cap) →
      Effect l (.recordSpvAdjustment adjustment) { l with issuances := l.issuances ++ [issuance] }
  | registered {spv} : lookup Spv.id spv.id l.spvs = none →
      Effect l (.registerSpv spv) { l with spvs := l.spvs ++ [spv] }
  | spvIssuer {id issuerPda} :
      Effect l (.setSpvIssuer id issuerPda)
        { l with spvs := l.spvs.map fun spv => if spv.id = id then { spv with issuerPda } else spv }
  | elsewhere {label l'} : Elsewhere l l' → l'.spvs = l.spvs → Effect l label l'

theorem step_effect {l l' : Ledger} {label : CapacityLabel} (stepped : step l label = .ok l') : Effect l label l' := by
  cases label with
  | reserveSaleCapacity request =>
      simp only [step, reserveSaleCapacity, map_eq_ok, bind_eq_ok, require_eq_ok, exists_const] at stepped
      obtain ⟨result, ⟨-, _, -, subject, locked, stepped⟩, rfl⟩ := stepped
      obtain ⟨registered, rfl⟩ := saleCapacityLock_ok locked
      split at stepped
      case h_1 existing found =>
        simp only [bind_eq_ok, require_eq_ok, pure_eq_ok, exists_const] at stepped
        obtain ⟨-, capacity, -, rfl⟩ := stepped
        exact .retried
      case h_2 =>
        simp only [requireRoom, bind_eq_ok, okOr_eq_ok, require_eq_ok, pure_eq_ok, exists_const] at stepped
        obtain ⟨fx, -, decimals, -, _, application, capacity, reported, room, l', inserted, _, -, rfl⟩ := stepped
        obtain ⟨rfl, kept⟩ := insertReservation_ok inserted
        refine .reservedSale (by rw [decimals]) registered ?_ reported room kept
        intro id requested
        simp only [requireApplication, Option.mem_def.mp requested, bind_eq_ok, require_eq_ok, exists_const] at application
        obtain ⟨app, -, -, -, ⟨-, fresh⟩, -⟩ := application
        exact fresh
  | confirmSaleReservation id =>
      simp only [step, confirmSaleReservation, map_eq_ok, bind_eq_ok, require_eq_ok, pure_eq_ok, exists_const,
        Prod.exists] at stepped
      obtain ⟨l'', reply, ⟨r, terms, found, live, _, updated, same⟩, rfl⟩ := stepped
      cases same
      obtain ⟨stored, sale⟩ := findSale_ok found
      obtain ⟨rfl, kept⟩ := updateReservation_ok updated
      exact .confirmed stored sale live kept
  | consumeSaleReservation id salePda gross =>
      simp only [step, consumeSaleReservation, map_eq_ok, bind_eq_ok, require_eq_ok, exists_const, Prod.exists] at stepped
      obtain ⟨l'', reply, ⟨r, terms, found, -, stepped⟩, rfl⟩ := stepped
      obtain ⟨stored, sale⟩ := findSale_ok found
      cases status : r.status with
      | consumed | booked =>
          simp only [status, pure_eq_ok, Prod.mk.injEq] at stepped
          obtain ⟨rfl, -⟩ := stepped
          exact .retried
      | released reason =>
          simp only [status] at stepped
          cases stepped
      | reserved =>
          simp only [status, bind_eq_ok, require_eq_ok, pure_eq_ok, exists_const, Prod.mk.injEq] at stepped
          obtain ⟨-, _, updated, _, -, rfl, -⟩ := stepped
          obtain ⟨rfl, kept⟩ := updateReservation_ok updated
          exact .consumed stored sale status kept
  | bookSaleReservation id gross issuedAt insertFails =>
      simp only [step, bookSaleReservation, map_eq_ok, bind_eq_ok, Prod.exists] at stepped
      obtain ⟨l'', reply, ⟨r, terms, found, subject, -, stepped⟩, rfl⟩ := stepped
      obtain ⟨stored, sale⟩ := findSale_ok found
      split at stepped
      case h_1 | h_2 =>
        simp only [pure_eq_ok, Prod.mk.injEq] at stepped
        obtain ⟨rfl, -⟩ := stepped
        exact .retried
      case h_3 | h_4 => cases stepped
      case h_5 status =>
        simp only [bind_eq_ok, require_eq_ok, exists_const] at stepped
        obtain ⟨within, stepped⟩ := stepped
        split at stepped
        case isTrue nothing =>
          subst nothing
          simp only [bind_eq_ok, pure_eq_ok, Prod.mk.injEq] at stepped
          obtain ⟨_, updated, rfl, -⟩ := stepped
          obtain ⟨rfl, kept⟩ := updateReservation_ok updated
          exact .unsold stored sale status kept
        case isFalse sold =>
          split at stepped
          case isTrue =>
            simp only [pure_eq_ok, Prod.mk.injEq] at stepped
            obtain ⟨rfl, -⟩ := stepped
            exact .retried
          case isFalse =>
            simp only [bind_eq_ok, pure_eq_ok, Prod.mk.injEq] at stepped
            obtain ⟨_, updated, _, -, rfl, -⟩ := stepped
            obtain ⟨rfl, kept⟩ := updateReservation_ok updated
            exact .booked stored sale status within sold (bookIssuance_issued _ _ _ _ _ _) kept
  | releaseSaleReservation id reason =>
      simp only [step, releaseSaleReservation, findReservation, map_eq_ok, bind_eq_ok, require_eq_ok, okOr_eq_ok,
        exists_const, Prod.exists] at stepped
      obtain ⟨l'', reply, ⟨-, r, stored, stepped⟩, rfl⟩ := stepped
      cases status : r.status with
      | consumed | booked =>
          simp only [status] at stepped
          cases stepped
      | released reason =>
          simp only [status, pure_eq_ok, Prod.mk.injEq] at stepped
          obtain ⟨rfl, -⟩ := stepped
          exact .retried
      | reserved =>
          simp only [status, bind_eq_ok, pure_eq_ok, Prod.mk.injEq] at stepped
          obtain ⟨_, updated, rfl, -⟩ := stepped
          obtain ⟨rfl, kept⟩ := updateReservation_ok updated
          exact .released stored status kept
  | adoptSaleApproval chain spvId =>
      simp only [step, map_eq_ok] at stepped
      obtain ⟨result, stepped, rfl⟩ := stepped
      obtain ⟨registered, adopted⟩ := adoptSaleApproval_adopted stepped
      exact .adopted registered adopted
  | reserveTreasuryMintCapacity request =>
      simp only [step, reserveTreasuryMintCapacity, requireRoom, map_eq_ok, bind_eq_ok, require_eq_ok, pure_eq_ok,
        exists_const, Prod.exists, Prod.mk.injEq] at stepped
      obtain ⟨l'', reply, ⟨-, -, -, _, -, subject, locked, capacity, reported, room, _, inserted, _, -, rfl, -⟩, rfl⟩ := stepped
      obtain ⟨registered, rfl⟩ := saleCapacityLock_ok locked
      obtain ⟨rfl, kept⟩ := insertReservation_ok inserted
      exact .reservedTreasury rfl registered reported room kept
  | bookTreasuryMint id signature issuedAt insertFails =>
      simp only [step, bookTreasuryMint, findReservation, map_eq_ok, bind_eq_ok, okOr_eq_ok, Prod.exists] at stepped
      obtain ⟨l'', reply, ⟨r, stored, stepped⟩, rfl⟩ := stepped
      cases kind : r.kind with
      | sale terms =>
          simp only [kind] at stepped
          cases stepped
      | treasuryMint units earlier =>
          have treasury : r.terms = none := by rw [Reservation.terms, kind]
          simp only [kind, bind_eq_ok, require_eq_ok, exists_const] at stepped
          obtain ⟨-, subject, -, stepped⟩ := stepped
          split at stepped
          case h_1 =>
            simp only [bind_eq_ok, require_eq_ok, pure_eq_ok, exists_const, Prod.mk.injEq] at stepped
            obtain ⟨-, rfl, -⟩ := stepped
            exact .retried
          all_goals
            simp only [bind_eq_ok, require_eq_ok, exists_const] at stepped
            obtain ⟨-, reserved, stepped⟩ := stepped
            split at stepped
            case isTrue =>
              simp only [bind_eq_ok, pure_eq_ok, Prod.mk.injEq] at stepped
              obtain ⟨_, updated, rfl, -⟩ := stepped
              obtain ⟨rfl, kept⟩ := updateReservation_ok updated
              exact .landed stored treasury reserved kept
            case isFalse =>
              simp only [bind_eq_ok, pure_eq_ok, Prod.mk.injEq] at stepped
              obtain ⟨_, updated, _, -, rfl, -⟩ := stepped
              obtain ⟨rfl, kept⟩ := updateReservation_ok updated
              exact .minted stored treasury reserved (bookIssuance_issued _ _ _ _ _ _) kept
  | adoptTreasuryMint chain spvId issuedAt =>
      simp only [step, adoptTreasuryMint, map_eq_ok, bind_eq_ok, require_eq_ok, exists_const, Prod.exists] at stepped
      obtain ⟨l'', reply, ⟨-, subject, locked, stepped⟩, rfl⟩ := stepped
      obtain ⟨registered, -⟩ := saleCapacityLock_ok locked
      split at stepped
      case h_1 =>
        simp only [bind_eq_ok, pure_eq_ok, Prod.mk.injEq] at stepped
        obtain ⟨_, -, rfl, -⟩ := stepped
        exact .retried
      case h_2 =>
        simp only [bind_eq_ok, pure_eq_ok, Prod.mk.injEq] at stepped
        obtain ⟨amount, -, inserted, fresh, _, updated, _, -, rfl, -⟩ := stepped
        obtain ⟨rfl, kept⟩ := insertReservation_ok fresh
        obtain ⟨rfl, kept'⟩ := updateReservation_ok updated
        exact .adoptedMint rfl registered kept (bookIssuance_issued _ _ _ _ _ _) kept'
  | recordSpvAdjustment adjustment =>
      simp only [step, recordSpvAdjustment, bind_eq_ok, okOr_eq_ok, require_eq_ok, pure_eq_ok, exists_const] at stepped
      obtain ⟨spv, found, -, -, -, _, -, capacity, reported, room, _, -, rfl⟩ := stepped
      exact .adjusted found rfl rfl reported room
  | registerSpv spv =>
      simp only [step, bind_eq_ok, require_eq_ok, pure_eq_ok, exists_const] at stepped
      obtain ⟨fresh, rfl⟩ := stepped
      exact .registered fresh
  | setSpvIssuer id issuerPda =>
      cases stepped
      exact .spvIssuer
  | tick seconds today =>
      simp only [step, bind_eq_ok, require_eq_ok, pure_eq_ok, exists_const] at stepped
      obtain ⟨later, rfl⟩ := stepped
      exact .elsewhere ⟨rfl, rfl, rfl, rfl, later⟩ rfl
  | setAssetProfile | setFxRate | setFxAutoRate | setApplication | setSalePrice | indexSale | setHolds =>
      cases stepped
      exact .elsewhere ⟨rfl, rfl, rfl, rfl, Date.le_refl _⟩ rfl

end Mancipatio.Capacity
