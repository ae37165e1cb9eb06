import Mancipatio.Capacity.Effect

/-!
# What the raise-cap ledger counts

How a written row moves the totals of a subject, and what every run keeps of the rows.
-/

namespace Mancipatio.Capacity
open Checked Rows Execution

theorem saleCapacityEur_mono {units units' : Nat} (below : units ≤ units') (rate : Rate) (decimals : Nat) :
    saleCapacityEur units rate decimals ≤ saleCapacityEur units' rate decimals := by
  have positive := rate.2.le
  have quotients : Decimals.div (units * rate.1) (10 ^ decimals) 10 (16 - decimals) ≤
      Decimals.div (units' * rate.1) (10 ^ decimals) 10 (16 - decimals) := by
    apply Decimals.div_pow_mono (by positivity)
    gcongr
  apply Nat.ceil_mono
  gcongr

def Reservation.booked (r : Reservation) : Bool :=
  match r.status with
  | .booked _ _ _ => true
  | .reserved | .consumed | .released _ => false

structure Reservation.Continues (r r' : Reservation) : Prop where
  id : r'.id = r.id
  spvId : r'.spvId = r.spvId
  issuerPda : r'.issuerPda = r.issuerPda

section rows
variable {r : Reservation}

theorem Reservation.Continues.subject {r' : Reservation} (same : r.Continues r') : r'.subject = r.subject := by
  rw [Reservation.subject, Reservation.subject, same.spvId, same.issuerPda]

theorem withStatus_continues (status : Status) : r.Continues (r.withStatus status) :=
  ⟨rfl, rfl, rfl⟩

theorem confirmedAt_continues (now : Int) : r.Continues (r.confirmedAt now) :=
  ⟨rfl, rfl, rfl⟩

theorem adoptedAt_continues (terms : SaleTerms) (chain : OnChainApproval) (rate : Rate) (decimals amount : Nat) (now : Int) :
    r.Continues (r.adoptedAt terms chain rate decimals amount now) :=
  ⟨rfl, rfl, rfl⟩

theorem consumedAt_continues (terms : SaleTerms) (gross : Nat) (now : Int) : r.Continues (r.consumedAt terms gross now) := by
  unfold Reservation.consumedAt
  split <;> exact ⟨rfl, rfl, rfl⟩

theorem consumedAt_status (terms : SaleTerms) (gross : Nat) (now : Int) : (r.consumedAt terms gross now).status = .consumed := by
  unfold Reservation.consumedAt
  split <;> rfl

theorem landed_continues : r.Continues r.landed := by
  unfold Reservation.landed
  split <;> exact ⟨rfl, rfl, rfl⟩

theorem minted_continues (units : Nat) (signature : String) (issuedAt : Date) (issuance : Option Nat) (now : Int) :
    r.Continues (r.minted units signature issuedAt issuance now) :=
  ⟨rfl, rfl, rfl⟩

theorem Reservation.Continues.trans {r' r'' : Reservation} (first : r.Continues r') (second : r'.Continues r'') :
    r.Continues r'' :=
  ⟨second.id.trans first.id, second.spvId.trans first.spvId, second.issuerPda.trans first.issuerPda⟩

theorem booked_of_live (live : r.live = true) : r.booked = false := by
  unfold Reservation.live at live
  unfold Reservation.booked
  cases status : r.status with
  | booked => simp [status] at live
  | reserved | consumed | released => rfl

theorem landed_terms : r.landed.terms = r.terms := by
  unfold Reservation.landed
  split <;> rfl

theorem booked_of_landed (reserved : r.landed.status = .reserved) : r.booked = false := by
  unfold Reservation.landed at reserved
  unfold Reservation.booked
  cases status : r.status with
  | booked => simp [status] at reserved
  | reserved | consumed | released => rfl

theorem findApproval_mem {l : Ledger} {approvalPda : Pubkey} (found : findApproval l approvalPda = some r) :
    r ∈ l.reservations ∧ ∃ terms ∈ r.terms, terms.approvalPda = approvalPda := by
  have filtered : r ∈ l.reservations.filter fun r => r.terms.any fun terms => terms.approvalPda = approvalPda := by
    rcases Option.or_eq_some_iff.mp found with live | ⟨-, last⟩
    · exact List.mem_of_mem_filter (List.mem_of_getLast? live)
    · exact List.mem_of_getLast? last
  obtain ⟨member, sale⟩ := List.mem_filter.mp filtered
  refine ⟨member, ?_⟩
  simpa [Option.any_eq_true] using sale

end rows

def used (l : Ledger) (subject : Subject) : Nat :=
  issued l subject + reserved l subject

def liveUse (subject : Subject) (r : Reservation) : Nat :=
  if r.subject = subject ∧ r.live = true then r.amountEur else 0

def bookedUse (l : Ledger) : Subject → Reservation → Nat
  | .spv _, _ => 0
  | .issuer pda, r => if r.subject = .issuer pda then bookedWithin l r else 0

def issuanceUse (l : Ledger) : Subject → SpvIssuance → Nat
  | .spv id, i => if i.spvId = id ∧ inWindow l i.issuedAt then i.amountEur else 0
  | .issuer _, _ => 0

section totals
variable {l : Ledger} {r r' : Reservation}

theorem reserved_append (l : Ledger) (r : Reservation) (subject : Subject) :
    reserved (l.append r) subject = reserved l subject + liveUse subject r :=
  sum_append_row _

theorem issued_append (l : Ledger) (r : Reservation) (subject : Subject) :
    issued (l.append r) subject = issued l subject + bookedUse l subject r := by
  cases subject with
  | spv id => rfl
  | issuer pda => exact sum_append_row _

theorem reserved_rewrite (stored : lookup Reservation.id r'.id l.reservations = some r) (subject : Subject) :
    reserved (l.rewrite r') subject + liveUse subject r = reserved l subject + liveUse subject r' := by
  have moved := @sum_upsert_add _ l.reservations _ _ Reservation.id (liveUse subject) r'
  rw [stored] at moved
  exact moved

theorem issued_rewrite (stored : lookup Reservation.id r'.id l.reservations = some r) (subject : Subject) :
    issued (l.rewrite r') subject + bookedUse l subject r = issued l subject + bookedUse l subject r' := by
  cases subject with
  | spv id => rfl
  | issuer pda =>
      have moved := @sum_upsert_add _ l.reservations _ _ Reservation.id (bookedUse l (.issuer pda)) r'
      rw [stored] at moved
      exact moved

theorem issued_issuance (l : Ledger) (issuance : SpvIssuance) (subject : Subject) :
    issued { l with issuances := l.issuances ++ [issuance] } subject = issued l subject + issuanceUse l subject issuance := by
  cases subject with
  | spv id => exact sum_append_row _
  | issuer pda => rfl

theorem bookedUse_of_not_booked (l : Ledger) (subject : Subject) (open' : r.booked = false) :
    bookedUse l subject r = 0 := by
  cases subject with
  | spv id => rfl
  | issuer pda =>
      unfold bookedUse bookedWithin
      cases status : r.status with
      | booked => simp [Reservation.booked, status] at open'
      | reserved | consumed | released => simp [status]

theorem lookup_rewrite (l : Ledger) (r : Reservation) : lookup Reservation.id r.id (l.rewrite r).reservations = some r := by
  show lookup _ _ (upsert _ _ _) = _
  rw [lookup_upsert, if_pos rfl]

theorem Reservation.Continues.written (same : r.Continues r') (l : Ledger) :
    lookup Reservation.id r.id (l.rewrite r').reservations = some r' :=
  same.id ▸ lookup_rewrite l r'

theorem issued_aged {l' : Ledger} (same : Elsewhere l l') (subject : Subject) : issued l' subject ≤ issued l subject := by
  have window : ∀ date, inWindow l' date → inWindow l date :=
    fun date inside early => inside (Date.le_trans early (Date.yearBefore_mono same.today))
  cases subject with
  | spv id =>
      unfold issued
      rw [same.issuances]
      apply List.sum_le_sum
      intro i _
      split
      case isTrue inside => rw [if_pos ⟨inside.1, window _ inside.2⟩]
      case isFalse => exact Nat.zero_le _
  | issuer pda =>
      unfold issued
      rw [same.reservations]
      apply List.sum_le_sum
      intro r _
      split
      case isFalse => exact Nat.zero_le _
      case isTrue =>
        unfold bookedWithin
        cases r.status with
        | reserved | consumed | released => exact Nat.le_refl _
        | booked amountEur issuedAt _ =>
            dsimp only
            split
            case isTrue inside => rw [if_pos (window _ inside)]
            case isFalse => exact Nat.zero_le _

theorem reserved_aged {l' : Ledger} (same : Elsewhere l l') (subject : Subject) : reserved l' subject = reserved l subject := by
  unfold reserved
  rw [same.reservations]

end totals

/-! ## What every run keeps -/

/-- The indexes hold, a reserved sale is counted at its maximum at least, and all SPVs are registered. -/
structure WellFormed (l : Ledger) : Prop where
  indexes : indexesHold l.reservations
  covered : ∀ r ∈ l.reservations, r.status = .reserved → ∀ terms ∈ r.terms,
    saleCapacityEur terms.maxGrossRaise terms.fxRate terms.paymentDecimals ≤ r.amountEur
  rowSpvs : ∀ r ∈ l.reservations, ∀ id ∈ r.spvId, lookup Spv.id id l.spvs ≠ none
  issuanceSpvs : ∀ i ∈ l.issuances, lookup Spv.id i.spvId l.spvs ≠ none

theorem wellFormed_empty (spvs : List Spv) (platformRaiseLimit : Option Nat) (clientRaiseLimits : Pubkey → List Nat)
    (now : Int) (today : Date) : WellFormed (emptyLedger spvs platformRaiseLimit clientRaiseLimits now today) := by
  refine ⟨⟨.nil, .nil, .nil, .nil⟩, ?_, ?_, ?_⟩ <;>
  · intro _ none
    cases none

section wellFormed
variable {l l' : Ledger} {r r' : Reservation} {label : CapacityLabel}

theorem WellFormed.found (formed : WellFormed l) (member : r ∈ l.reservations) :
    lookup Reservation.id r.id l.reservations = some r :=
  lookup_of_mem _ formed.indexes.1 member

theorem WellFormed.landedSpv (formed : WellFormed l) (member : r ∈ l.reservations) :
    ∀ id ∈ r.landed.spvId, lookup Spv.id id l.spvs ≠ none := by
  rw [landed_continues.spvId]
  exact formed.rowSpvs r member

theorem WellFormed.appended (formed : WellFormed l) (kept : indexesHold (l.append r).reservations)
    (covered : r.status = .reserved → ∀ terms ∈ r.terms,
      saleCapacityEur terms.maxGrossRaise terms.fxRate terms.paymentDecimals ≤ r.amountEur)
    (registered : ∀ id ∈ r.spvId, lookup Spv.id id l.spvs ≠ none) : WellFormed (l.append r) := by
  refine ⟨kept, ?_, ?_, formed.issuanceSpvs⟩
  · intro other member
    rcases List.mem_append.mp member with older | new
    · exact formed.covered other older
    · rw [List.mem_singleton.mp new]
      exact covered
  · intro other member
    rcases List.mem_append.mp member with older | new
    · exact formed.rowSpvs other older
    · rw [List.mem_singleton.mp new]
      exact registered

theorem WellFormed.rewritten (formed : WellFormed l) (member : r ∈ l.reservations) (same : r.Continues r')
    (kept : indexesHold (l.rewrite r').reservations)
    (covered : r'.status = .reserved → ∀ terms ∈ r'.terms,
      saleCapacityEur terms.maxGrossRaise terms.fxRate terms.paymentDecimals ≤ r'.amountEur) :
    WellFormed (l.rewrite r') := by
  refine ⟨kept, forall_upsert _ formed.covered covered, forall_upsert _ formed.rowSpvs ?_, formed.issuanceSpvs⟩
  rw [same.spvId]
  exact formed.rowSpvs r member

theorem WellFormed.issuance (formed : WellFormed l) {issuance : SpvIssuance}
    (registered : lookup Spv.id issuance.spvId l.spvs ≠ none) :
    WellFormed { l with issuances := l.issuances ++ [issuance] } := by
  refine ⟨formed.indexes, formed.covered, formed.rowSpvs, ?_⟩
  intro i member
  rcases List.mem_append.mp member with older | new
  · exact formed.issuanceSpvs i older
  · rw [List.mem_singleton.mp new]
    exact registered

theorem Issued.reservations {amountEur : Nat} {issuedAt : Date} {salePubkey : Option Pubkey} {source : IssuanceSource}
    {issuance : Option Nat} (issued : Issued l r amountEur issuedAt salePubkey source l' issuance) :
    l'.reservations = l.reservations := by
  cases issued <;> rfl

theorem WellFormed.counted (formed : WellFormed l) {amountEur : Nat} {issuedAt : Date} {salePubkey : Option Pubkey}
    {source : IssuanceSource} {issuance : Option Nat}
    (issued : Issued l r amountEur issuedAt salePubkey source l' issuance)
    (registered : ∀ id ∈ r.spvId, lookup Spv.id id l.spvs ≠ none) : WellFormed l' := by
  cases issued with
  | issuer | linked => exact formed
  | appended subject => exact formed.issuance (registered _ subject)

theorem lookup_renamed {id id' : Nat} {issuerPda : Option Pubkey} (spvs : List Spv) :
    lookup Spv.id id (spvs.map fun spv => if spv.id = id' then { spv with issuerPda } else spv) =
      (lookup Spv.id id spvs).map fun spv => if spv.id = id' then { spv with issuerPda } else spv := by
  unfold lookup
  rw [List.find?_map]
  congr 2
  funext spv
  simp only [Function.comp]
  split <;> rfl

theorem lookup_registered {id : Nat} {spv : Spv} (registered : lookup Spv.id id l.spvs ≠ none) :
    lookup Spv.id id (l.spvs ++ [spv]) = lookup Spv.id id l.spvs := by
  obtain ⟨found, stored⟩ := Option.ne_none_iff_exists'.mp registered
  rw [stored]
  exact lookup_append_of_found _ stored _

theorem WellFormed.spvs_changed (formed : WellFormed l) (rows : l'.reservations = l.reservations)
    (issuances : l'.issuances = l.issuances)
    (registered : ∀ id, lookup Spv.id id l.spvs ≠ none → lookup Spv.id id l'.spvs ≠ none) : WellFormed l' := by
  refine ⟨rows ▸ formed.indexes, rows ▸ formed.covered, ?_, ?_⟩
  · rw [rows]
    exact fun r member id known => registered id (formed.rowSpvs r member id known)
  · rw [issuances]
    exact fun i member => registered _ (formed.issuanceSpvs i member)

theorem wellFormed_step (formed : WellFormed l) (stepped : step l label = .ok l') : WellFormed l' := by
  cases step_effect stepped with
  | retried => exact formed
  | reservedSale new registered _ _ _ kept =>
      subst new
      apply formed.appended kept _ registered
      intro _ terms sale
      cases sale
      exact Nat.le_refl _
  | @confirmed id r terms stored sale live kept =>
      have member := (mem_of_lookup _ stored).1
      exact formed.rewritten member (confirmedAt_continues _) kept (formed.covered r member)
  | consumed stored sale status kept =>
      refine formed.rewritten (mem_of_lookup _ stored).1 (consumedAt_continues _ _ _) kept ?_
      rw [consumedAt_status]
      intro reserved
      cases reserved
  | unsold stored sale status kept =>
      refine formed.rewritten (mem_of_lookup _ stored).1 (withStatus_continues _) kept ?_
      intro reserved
      cases reserved
  | booked stored sale status within sold issued kept =>
      have member := (mem_of_lookup _ stored).1
      have after := formed.counted issued (formed.rowSpvs _ member)
      refine after.rewritten (issued.reservations ▸ member) (withStatus_continues _) kept ?_
      intro reserved
      cases reserved
  | released stored status kept =>
      refine formed.rewritten (mem_of_lookup _ stored).1 (withStatus_continues _) kept ?_
      intro reserved
      cases reserved
  | adopted registered adopted =>
      cases adopted with
      | inserted new found kept =>
          subst new
          apply formed.appended kept _ registered
          intro _ terms sale
          cases sale
          exact Nat.le_refl _
      | unchanged => exact formed
      | changed _ new found sale status kept =>
          subst new
          refine formed.rewritten (findApproval_mem found).1 (adoptedAt_continues _ _ _ _ _ _) kept ?_
          intro _ terms sale
          cases sale
          exact Nat.le_max_left _ _
  | reservedTreasury new registered _ _ kept =>
      subst new
      apply formed.appended kept _ registered
      intro _ terms sale
      cases sale
  | landed stored treasury status kept =>
      refine formed.rewritten (mem_of_lookup _ stored).1 landed_continues kept ?_
      rw [landed_terms, treasury]
      intro _ terms sale
      cases sale
  | minted stored treasury status issued kept =>
      have member := (mem_of_lookup _ stored).1
      have after := formed.counted issued (formed.landedSpv member)
      refine after.rewritten (issued.reservations ▸ member) (landed_continues.trans (minted_continues _ _ _ _ _)) kept ?_
      intro reserved
      cases reserved
  | @adoptedMint chain spvId issuedAt amount date counted issuance booked new registered kept issued kept' =>
      subst new
      have appended := formed.appended kept (fun reserved => nomatch reserved) registered
      have after := appended.counted issued registered
      have member : chain.row spvId amount date none l.now ∈ counted.reservations := by
        rw [issued.reservations]
        exact List.mem_append_right _ (List.mem_singleton_self _)
      refine after.rewritten member ⟨rfl, rfl, rfl⟩ kept' ?_
      intro reserved
      cases reserved
  | adjusted found spv =>
      apply formed.issuance
      rw [spv, found]
      exact Option.some_ne_none _
  | registered fresh =>
      refine formed.spvs_changed rfl rfl ?_
      intro id known
      dsimp only
      rwa [lookup_registered known]
  | spvIssuer =>
      refine formed.spvs_changed rfl rfl ?_
      intro id known
      dsimp only
      rw [lookup_renamed]
      exact fun none => known (Option.map_eq_none_iff.mp none)
  | elsewhere same spvs =>
      apply formed.spvs_changed same.reservations same.issuances
      rw [spvs]
      exact fun _ known => known

theorem wellFormed_run {spvs : List Spv} {platformRaiseLimit : Option Nat} {clientRaiseLimits : Pubkey → List Nat}
    {now : Int} {today : Date} (run : Run step (emptyLedger spvs platformRaiseLimit clientRaiseLimits now today)) :
    ∀ i ≤ run.length, WellFormed (run.state i) :=
  run.invariant (wellFormed_empty _ _ _ _ _) fun _ _ _ formed stepped => wellFormed_step formed stepped

theorem WellFormed.booked_kept (formed : WellFormed l) {other other' : Reservation} {id : Nat}
    (stored : lookup Reservation.id id l.reservations = some r) (booked : r.booked = true)
    (member : other ∈ l.reservations) (same : other.Continues other') (unbooked : other.booked = false) :
    lookup Reservation.id id (l.rewrite other').reservations = some r := by
  have found := formed.found member
  show lookup _ _ (upsert _ _ _) = _
  rw [lookup_upsert, if_neg, stored]
  rintro rfl
  rw [same.id, found] at stored
  cases stored
  rw [unbooked] at booked
  cases booked

theorem booked_stays (formed : WellFormed l) {id : Nat} (stored : lookup Reservation.id id l.reservations = some r)
    (booked : r.booked = true) (stepped : step l label = .ok l') :
    lookup Reservation.id id l'.reservations = some r := by
  cases step_effect stepped with
  | retried | adjusted | registered | spvIssuer => exact stored
  | elsewhere same => rwa [same.reservations]
  | reservedSale | reservedTreasury => exact lookup_append_of_found _ stored _
  | confirmed found _ live =>
      exact formed.booked_kept stored booked (mem_of_lookup _ found).1 (confirmedAt_continues _) (booked_of_live live)
  | consumed found _ status =>
      apply formed.booked_kept stored booked (mem_of_lookup _ found).1 (consumedAt_continues _ _ _)
      rw [Reservation.booked, status]
  | unsold found _ status =>
      apply formed.booked_kept stored booked (mem_of_lookup _ found).1 (withStatus_continues _)
      rw [Reservation.booked, status]
  | released found status =>
      apply formed.booked_kept stored booked (mem_of_lookup _ found).1 (withStatus_continues _)
      rw [Reservation.booked, status]
  | booked found _ status _ _ issued =>
      have member := (mem_of_lookup _ found).1
      have after := formed.counted issued (formed.rowSpvs _ member)
      rw [← issued.reservations] at stored member
      apply after.booked_kept stored booked member (withStatus_continues _)
      rw [Reservation.booked, status]
  | adopted _ adopted =>
      cases adopted with
      | inserted => exact lookup_append_of_found _ stored _
      | unchanged => exact stored
      | changed _ new found _ status =>
          subst new
          apply formed.booked_kept stored booked (findApproval_mem found).1 (adoptedAt_continues _ _ _ _ _ _)
          rcases status with ⟨reserved, -⟩ | ⟨reason, released⟩
          · rw [Reservation.booked, reserved]
          · rw [Reservation.booked, released]
  | landed found _ status =>
      exact formed.booked_kept stored booked (mem_of_lookup _ found).1 landed_continues (booked_of_landed status)
  | minted found _ status issued =>
      have member := (mem_of_lookup _ found).1
      have after := formed.counted issued (formed.landedSpv member)
      rw [← issued.reservations] at stored member
      exact after.booked_kept stored booked member (landed_continues.trans (minted_continues _ _ _ _ _)) (booked_of_landed status)
  | @adoptedMint chain spvId issuedAt amount date counted issuance booked' new _ indexes issued =>
      subst new
      show lookup _ _ (upsert _ _ _) = _
      rw [issued.reservations, lookup_upsert, if_neg]
      · exact lookup_append_of_found _ stored _
      · rintro rfl
        obtain ⟨member, same⟩ := mem_of_lookup _ stored
        have fresh := List.nodup_append.mp (List.map_append ▸ indexes.1)
        exact fresh.2.2 _ (List.mem_map_of_mem member) _ (List.mem_map_of_mem (List.mem_singleton_self _)) same

end wellFormed

end Mancipatio.Capacity
