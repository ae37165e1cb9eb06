import Mancipatio.Capacity.Cap
import Mancipatio.Capacity.Floors

/-!
# Revaluations in every order

Runs of the ledger with revaluations of both kinds. Issuances older than the ledger may be there from the start.
-/

namespace Mancipatio.Capacity
open Checked Rows Execution

def MintsExact (l : Ledger) (unreserved : List Nat) : Prop :=
  ∀ id ∈ unreserved, ∃ r, Stored l r ∧ r.id = id ∧ r.terms = none ∧ r.booked = true ∧ r.amountEur = r.bookedEur

structure BooksKept (legacy : Nat) (b : Books) : Prop where
  formed : WellFormed b.ledger
  linked : Linked legacy b.ledger
  mints : MintsExact b.ledger b.unreserved

section steps
variable {legacy : Nat} {l l' : Ledger} {b b' : Books} {r row : Reservation} {unreserved : List Nat}

theorem MintsExact.amount (mints : MintsExact l unreserved) (stored : Stored l r) (member : r.id ∈ unreserved) :
    r.amountEur = r.bookedEur := by
  obtain ⟨other, stored', same, -, -, amount⟩ := mints r.id member
  obtain rfl := stored'.unique stored same
  exact amount

theorem MintsExact.valued (mints : MintsExact l unreserved) (treasury : r.terms = none) (amountEur : Nat) (issuedAt : Date)
    (issuance : Option Nat) : MintsExact (l.rewrite (r.valuedAt amountEur issuedAt issuance)) unreserved := by
  intro id member
  obtain ⟨other, stored', same, sale, booked, amount⟩ := mints id member
  by_cases here : other.id = r.id
  · exact ⟨r.valuedAt amountEur issuedAt issuance, lookup_rewrite l _, here.symm.trans same, treasury, rfl, rfl⟩
  · exact ⟨other, rewrite_stored stored' here, same, sale, booked, amount⟩

theorem MintsExact.rewritten (mints : MintsExact l unreserved) (stored : Stored l r) (same : row.id = r.id)
    (other : r.terms ≠ none ∨ r.booked = false) : MintsExact (l.rewrite row) unreserved := by
  intro id member
  obtain ⟨mint, stored', sameId, sale, booked, amount⟩ := mints id member
  refine ⟨mint, rewrite_stored stored' fun here => ?_, sameId, sale, booked, amount⟩
  obtain rfl := stored'.unique stored (here.trans same)
  rcases other with isSale | unbooked
  · exact isSale sale
  · rw [unbooked] at booked
    cases booked

theorem Revalued.mints (change : Revalued l unreserved r l' row) (mints : MintsExact l unreserved) (stored : Stored l r) :
    MintsExact l' unreserved := by
  cases change with
  | live sale => exact mints.rewritten stored rfl (.inl (by rw [sale]; exact Option.some_ne_none _))
  | booked sale => exact mints.rewritten stored rfl (.inl (by rw [sale]; exact Option.some_ne_none _))
  | mint kind => exact mints.valued (by rw [Reservation.terms, kind]) _ _ _
  | unchanged => exact mints

theorem revalueCapacityFx_ok {id : Nat} (stepped : stepBooks b (.revalueCapacityFx id) = .ok b') :
    ∃ r row l, Stored b.ledger r ∧ r.id = id ∧ Revalued b.ledger b.unreserved r l row ∧
      b' = { b with ledger := clearHold l r.fxRevalueHold } := by
  simp only [stepBooks, revalueCapacityFx, findReservation, map_eq_ok, bind_eq_ok, okOr_eq_ok, require_eq_ok, exists_const, pure_eq_ok,
    Prod.exists] at stepped
  obtain ⟨b'', reply, ⟨r, found, -, -, -, l, row, change, capacity, -, same⟩, rfl⟩ := stepped
  cases same
  obtain ⟨stored, sameId⟩ := stored_of_found found
  exact ⟨r, row, l, stored, sameId, revalued_ok change, rfl⟩

theorem revalueTreasuryMint_ok {id reasonLength : Nat} {amountEur : Option Rat} {by' : Option String}
    (stepped : stepBooks b (.revalueTreasuryMint id amountEur reasonLength by') = .ok b') :
    ∃ r amount issuedAt issuance, Stored b.ledger r ∧ r.terms = none ∧ r.link = issuance ∧
      indexesHold (b.ledger.rewrite (r.valuedAt amount issuedAt issuance)).reservations ∧
      b' = { b with ledger := writeIssuance (b.ledger.rewrite (r.valuedAt amount issuedAt issuance)) issuance fun _ => amount } := by
  simp only [stepBooks, revalueTreasuryMint, findReservation, map_eq_ok, bind_eq_ok, okOr_eq_ok, Prod.exists] at stepped
  obtain ⟨b'', reply, ⟨r, found, -, -, stepped⟩, rfl⟩ := stepped
  obtain ⟨stored, -⟩ := stored_of_found found
  split at stepped
  case h_1 kind status =>
    simp only [bind_eq_ok, require_eq_ok, exists_const, pure_eq_ok] at stepped
    obtain ⟨-, -, -, _, updated, _, -, same⟩ := stepped
    cases same
    obtain ⟨rfl, kept⟩ := updateReservation_ok updated
    exact ⟨r, _, _, _, stored, by rw [Reservation.terms, kind], by rw [Reservation.link, status], kept, rfl⟩
  case h_2 => cases stepped

theorem adoptTreasuryMint_new {chain : OnChainMint} {spvId : Option Nat} {issuedAt : Option Date}
    (stepped : step l (.adoptTreasuryMint chain spvId issuedAt) = .ok l')
    (fresh : ¬∃ r ∈ l.reservations, r.mintSignature = some chain.mintKey) :
    ∃ r, Stored l' r ∧ r.id = chain.id ∧ r.terms = none ∧ r.booked = true ∧ r.amountEur = r.bookedEur := by
  simp only [step, adoptTreasuryMint, map_eq_ok, bind_eq_ok, require_eq_ok, exists_const, Prod.exists] at stepped
  obtain ⟨l'', reply, ⟨-, subject, -, stepped⟩, rfl⟩ := stepped
  split at stepped
  case h_1 r found =>
    exact absurd ⟨r, List.mem_of_find?_eq_some found, by simpa using List.find?_some found⟩ fresh
  case h_2 =>
    simp only [bind_eq_ok, pure_eq_ok, Prod.mk.injEq] at stepped
    obtain ⟨amount, -, inserted, -, _, updated, _, -, rfl, -⟩ := stepped
    obtain ⟨rfl, -⟩ := updateReservation_ok updated
    exact ⟨_, lookup_rewrite _ _, rfl, rfl, rfl, rfl⟩

theorem BooksKept.ledger {label : CapacityLabel} (kept : BooksKept legacy b) (stepped : step b.ledger label = .ok l') :
    BooksKept legacy { ledger := l', unreserved := adoptedUnreserved b label } := by
  refine ⟨wellFormed_step kept.formed stepped, linked_step kept.linked kept.formed stepped, ?_⟩
  have older : MintsExact l' b.unreserved := by
    intro id member
    obtain ⟨r, stored, same, sale, booked, amount⟩ := kept.mints id member
    exact ⟨r, booked_stays kept.formed stored booked stepped, same, sale, booked, amount⟩
  intro id member
  dsimp only at member
  unfold adoptedUnreserved at member
  split at member
  case h_1 =>
    split at member
    case isTrue => exact older id member
    case isFalse fresh =>
      rcases List.mem_cons.mp member with rfl | member
      · exact adoptTreasuryMint_new stepped fresh
      · exact older id member
  case h_2 => exact older id member

theorem BooksKept.step {label : BooksLabel} (kept : BooksKept legacy b) (stepped : stepBooks b label = .ok b') : BooksKept legacy b' := by
  cases label with
  | ledger label =>
      simp only [stepBooks, bind_eq_ok, pure_eq_ok] at stepped
      obtain ⟨l', stepped, rfl⟩ := stepped
      exact kept.ledger stepped
  | revalueCapacityFx id =>
      obtain ⟨r, row, l, stored, -, change, rfl⟩ := revalueCapacityFx_ok stepped
      have mint := kept.mints.amount stored
      have formed := change.wellFormed kept.formed stored
      refine ⟨⟨formed.indexes, formed.covered, formed.rowSpvs, formed.issuanceSpvs⟩, ?_, change.mints kept.mints stored⟩
      exact (change.linked kept.linked kept.formed stored mint).cleared _
  | revalueTreasuryMint id amountEur reasonLength by' =>
      obtain ⟨r, amount, issuedAt, issuance, stored, treasury, link, indexes, rfl⟩ := revalueTreasuryMint_ok stepped
      have member := (mem_of_lookup _ stored).1
      refine ⟨?_, ?_, kept.mints.valued treasury amount issuedAt issuance⟩
      · have formed := kept.formed.rewritten member (valuedAt_continues amount issuedAt issuance) indexes fun reserved => by cases reserved
        exact formed.written issuance fun _ => amount
      · subst link
        refine @Linked.valued legacy b.ledger r (r.valuedAt amount issuedAt r.link) kept.linked stored rfl rfl (fun terms sale => ?_)
          (fun _ => amount) fun _ _ _ _ _ _ => rfl
        rw [treasury] at sale
        cases sale

end steps

/-! ## Runs -/

structure LegacyRows (legacy : List SpvIssuance) (spvs : List Spv) : Prop where
  ids : ∀ (k : Nat) (i : SpvIssuance), legacy[k]? = some i → i.id = k
  spvs : ∀ i ∈ legacy, lookup Spv.id i.spvId spvs ≠ none

def openedBooks (legacy : List SpvIssuance) (spvs : List Spv) (platformRaiseLimit : Option Nat) (clientRaiseLimits : Pubkey → List Nat)
    (now : Int) (today : Date) : Books where
  ledger := { emptyLedger spvs platformRaiseLimit clientRaiseLimits now today with issuances := legacy }
  unreserved := []

section runs
variable {legacy : List SpvIssuance} {spvs : List Spv} {platformRaiseLimit : Option Nat} {clientRaiseLimits : Pubkey → List Nat}
  {now : Int} {today : Date}

theorem booksKept_opened (rows : LegacyRows legacy spvs) :
    BooksKept legacy.length (openedBooks legacy spvs platformRaiseLimit clientRaiseLimits now today) := by
  have none' : ∀ r, ¬Stored (openedBooks legacy spvs platformRaiseLimit clientRaiseLimits now today).ledger r := by
    intro r stored
    cases stored
  refine ⟨⟨⟨.nil, .nil, .nil, .nil⟩, List.forall_mem_nil _, List.forall_mem_nil _, rows.spvs⟩, ?_, List.forall_mem_nil _⟩
  constructor
  case ids => exact rows.ids
  case found => exact fun r stored => absurd stored (none' r)
  case equal => exact fun r stored => absurd stored (none' r)
  case once => exact fun r stored => absurd stored (none' r)
  case sales =>
    intro i member inserted
    obtain ⟨k, found⟩ := List.mem_iff_getElem?.mp member
    have id := rows.ids k i found
    have inside : k < legacy.length := (List.getElem?_eq_some_iff.mp found).1
    omega

variable (run : Run stepBooks (openedBooks legacy spvs platformRaiseLimit clientRaiseLimits now today))

def BookedAt (i id gross : Nat) : Prop :=
  ∃ issuedAt insertFails r r', run.label i = .ledger (.bookSaleReservation id gross issuedAt insertFails) ∧
    Stored (run.state i).ledger r ∧ r.id = id ∧ r.status = .consumed ∧
      Stored (run.state (i + 1)).ledger r' ∧ r'.id = id ∧ r'.booked = true

def CoversGross (k : Nat) : Prop :=
  ∀ r terms, Stored (run.state k).ledger r → r.terms = some terms → r.booked = true → ∃ i < k, ∃ gross, BookedAt run i r.id gross ∧
    (gross : ℚ) * terms.fxRate.1 / 10 ^ terms.paymentDecimals * 100 ≤ r.bookedEur

local instance maxRational : Std.MaxEqOr ℚ := inferInstance

/-- A step that converts or rescales loses no cent where it rounds a quotient, or counts enough without it. -/
def KeepsCents (b : Books) : BooksLabel → Prop
  | .ledger (.bookSaleReservation id gross _ _) =>
      ∀ sale ∈ (findSale b.ledger id).toOption, ConversionKeeps gross sale.2.fxRate sale.2.paymentDecimals
  | .revalueCapacityFx id =>
      ∀ sale ∈ (findSale b.ledger id).toOption, ∀ fx ∈ fxEffectiveRate b.ledger sale.2.paymentMint,
        (sale.1.live = true →
          ConversionKeeps sale.2.maxGrossRaise (max sale.2.fxRate fx.eurPerToken) sale.2.paymentDecimals ∨
            eurCents sale.2.maxGrossRaise (max sale.2.fxRate fx.eurPerToken) sale.2.paymentDecimals ≤ sale.1.amountEur) ∧
        (sale.1.booked = true → sale.2.fxRate < fx.eurPerToken → RescalingKeeps sale.1.bookedEur fx.eurPerToken sale.2.fxRate)
  | _ => True

instance (b : Books) : (label : BooksLabel) → Decidable (KeepsCents b label)
  | .ledger (.bookSaleReservation id gross _ _) =>
      inferInstanceAs (Decidable (∀ sale ∈ (findSale b.ledger id).toOption, ConversionKeeps gross sale.2.fxRate sale.2.paymentDecimals))
  | .revalueCapacityFx _ => by dsimp only [KeepsCents]; infer_instance
  | .ledger (.reserveSaleCapacity _) | .ledger (.confirmSaleReservation _) | .ledger (.consumeSaleReservation _ _ _)
  | .ledger (.releaseSaleReservation _ _) | .ledger (.adoptSaleApproval _ _) | .ledger (.reserveTreasuryMintCapacity _)
  | .ledger (.bookTreasuryMint _ _ _ _) | .ledger (.adoptTreasuryMint _ _ _) | .ledger (.recordSpvAdjustment _)
  | .ledger (.registerSpv _) | .ledger (.setSpvIssuer _ _) | .ledger (.setAssetProfile _ _) | .ledger (.setFxRate _ _)
  | .ledger (.setFxAutoRate _ _) | .ledger (.setApplication _ _) | .ledger (.setSalePrice _ _) | .ledger (.indexSale _ _)
  | .ledger (.setHolds _) | .ledger (.tick _ _) | .revalueTreasuryMint _ _ _ _ => .isTrue trivial

structure NeverLowers : Prop where
  kept : ∀ i < run.length, ∀ id, run.label i = .revalueCapacityFx id → ∃ r r', Stored (run.state i).ledger r ∧ r.id = id ∧
    Stored (run.state (i + 1)).ledger r' ∧ r'.id = id ∧ r.countedEur ≤ r'.countedEur
  issuances : ∀ i < run.length, ∀ id, run.label i = .revalueCapacityFx id → ∀ (k : Nat) (issuance : SpvIssuance),
    (run.state i).ledger.issuances[k]? = some issuance → ∃ issuance', (run.state (i + 1)).ledger.issuances[k]? = some issuance' ∧
      issuance'.id = issuance.id ∧ issuance.amountEur ≤ issuance'.amountEur
  equal : ∀ i ≤ run.length, ∀ r, Stored (run.state i).ledger r → ∀ x, r.link = some x → legacy.length ≤ x →
    ∃ issuance, (run.state i).ledger.issuances[x]? = some issuance ∧ issuance.id = x ∧ issuance.amountEur = r.countedEur

structure NeverUndercounts : Prop where
  live : ∀ i < run.length, ∀ r terms, run.label i = .revalueCapacityFx r.id → Stored (run.state i).ledger r → r.terms = some terms →
    r.live = true → ∃ fx r', fxEffectiveRate (run.state i).ledger terms.paymentMint = some fx ∧
      Stored (run.state (i + 1)).ledger r' ∧ r'.id = r.id ∧ r'.live = true ∧
      eurCents terms.maxGrossRaise (max terms.fxRate fx.eurPerToken) terms.paymentDecimals ≤ r'.countedEur
  booked : ∀ i < run.length, ∀ r terms, run.label i = .revalueCapacityFx r.id → Stored (run.state i).ledger r → r.terms = some terms →
    r.booked = true → ∃ fx r', fxEffectiveRate (run.state i).ledger terms.paymentMint = some fx ∧
      Stored (run.state (i + 1)).ledger r' ∧ r'.id = r.id ∧ r'.booked = true ∧ ∃ j < i, ∃ gross, BookedAt run j r.id gross ∧
        eurCents gross (max terms.fxRate fx.eurPerToken) terms.paymentDecimals ≤ r'.countedEur

variable {run}

theorem booksKept_run (rows : LegacyRows legacy spvs) : ∀ i ≤ run.length, BooksKept legacy.length (run.state i) :=
  run.invariant (booksKept_opened rows) fun _ _ _ kept stepped => kept.step stepped

theorem countedEur_booked {r : Reservation} (booked : r.booked = true) : r.countedEur = r.bookedEur := by
  rw [Reservation.countedEur, Reservation.bookedEur]
  cases status : r.status with
  | booked => rfl
  | reserved | consumed | released =>
      simp [Reservation.booked, status] at booked

theorem rescalingKeeps {b : Books} {r : Reservation} {terms : SaleTerms} (stored : Stored b.ledger r) (sale : r.terms = some terms)
    (keeps : KeepsCents b (.revalueCapacityFx r.id)) (fx : FxRate) (bookedEur : Nat) (issuedAt : Date) (issuance : Option Nat)
    (effective : fxEffectiveRate b.ledger terms.paymentMint = some fx) (status : r.status = .booked bookedEur issuedAt issuance)
    (larger : terms.fxRate < fx.eurPerToken) : RescalingKeeps bookedEur fx.eurPerToken terms.fxRate := by
  have condition := (keeps (r, terms) (findSale_of_stored stored sale) fx effective).2 (by rw [Reservation.booked, status]) larger
  rwa [Reservation.bookedEur, status] at condition

theorem coversGross_step (rows : LegacyRows legacy spvs) {k : Nat} (inside : k < run.length)
    (keeps : KeepsCents (run.state k) (run.label k)) (covers : CoversGross run k) : CoversGross run (k + 1) := by
  intro r terms stored sale booked
  have kept := booksKept_run rows k (Nat.le_of_lt inside)
  have stepped := run.next k inside
  have earlier : Stored (run.state k).ledger r → ∃ i < k + 1, ∃ gross, BookedAt run i r.id gross ∧
      (gross : ℚ) * terms.fxRate.1 / 10 ^ terms.paymentDecimals * 100 ≤ r.bookedEur := by
    intro before
    obtain ⟨i, lt, found⟩ := covers r terms before sale booked
    exact ⟨i, Nat.lt_succ_of_lt lt, found⟩
  cases label : run.label k with
  | ledger label' =>
      rw [label] at stepped
      simp only [stepBooks, bind_eq_ok, pure_eq_ok] at stepped
      obtain ⟨l', stepped, same⟩ := stepped
      have after : (run.state (k + 1)).ledger = l' := by rw [← same]
      rw [after] at stored
      cases step_posted kept.formed stepped with
      | quiet _ quiet | adjusted _ _ _ quiet => exact earlier (quiet.stored stored booked)
      | @booked row stored' _ _ others _ origin =>
          by_cases here : r.id = row.id
          · obtain rfl := stored.unique stored' here
            obtain ⟨gross, issuedAt, insertFails, old, labelled, found, sale', status, amount⟩ := origin terms sale
            rw [label, labelled] at keeps
            obtain ⟨before, sameId⟩ := stored_of_found found
            refine ⟨k, Nat.lt_succ_self k, gross, ⟨issuedAt, insertFails, old, r, by rw [label, labelled], before, sameId, status,
              by rw [after]; exact stored, rfl, booked⟩, ?_⟩
            rw [amount]
            exact le_saleCapacityEur (keeps (old, terms) (findSale_of_stored found sale'))
          · exact earlier (others r.id r here stored booked)
  | revalueCapacityFx id =>
      rw [label] at stepped
      obtain ⟨old, row, l, before, rfl, change, after⟩ := revalueCapacityFx_ok stepped
      rw [after] at stored
      obtain ⟨stored', sameId⟩ := change.stored before
      by_cases here : r.id = row.id
      · obtain rfl := stored'.unique stored here.symm
        obtain ⟨⟨terms', sale'⟩, booked'⟩ := change.before sale booked
        obtain ⟨i, lt, gross, from', covered⟩ := covers old terms' before sale' booked'
        rw [label] at keeps
        obtain ⟨fx, terms'', -, sale'', -, -, -, covered'⟩ := change.booked_floor sale' booked' (rescalingKeeps before sale' keeps) covered
        obtain rfl := Option.some.inj (sale.symm.trans sale'')
        exact ⟨i, Nat.lt_succ_of_lt lt, gross, sameId ▸ from', covered'⟩
      · exact earlier (change.other stored here)
  | revalueTreasuryMint id amountEur reasonLength by' =>
      rw [label] at stepped
      obtain ⟨old, amount, issuedAt, issuance, before, treasury, -, -, after⟩ := revalueTreasuryMint_ok stepped
      rw [after] at stored
      rcases @stored_rewrite (run.state k).ledger (old.valuedAt amount issuedAt issuance) r stored with rfl | ⟨older, -⟩
      · rw [show (old.valuedAt amount issuedAt issuance).terms = old.terms from rfl, treasury] at sale
        cases sale
      · exact earlier older

theorem coversGross_run (rows : LegacyRows legacy spvs) (keeps : ∀ i < run.length, KeepsCents (run.state i) (run.label i)) :
    ∀ k ≤ run.length, CoversGross run k := by
  intro k within
  induction k with
  | zero =>
      intro r terms stored
      rw [run.starts] at stored
      cases stored
  | succ k ih => exact coversGross_step rows within (keeps k within) (ih (Nat.le_of_succ_le within))

theorem revaluation {i id : Nat} (inside : i < run.length) (label : run.label i = .revalueCapacityFx id) :
    ∃ r row l, Stored (run.state i).ledger r ∧ r.id = id ∧ Revalued (run.state i).ledger (run.state i).unreserved r l row ∧
      (run.state (i + 1)).ledger = clearHold l r.fxRevalueHold := by
  have stepped := run.next i inside
  rw [label] at stepped
  obtain ⟨r, row, l, stored, same, change, after⟩ := revalueCapacityFx_ok stepped
  exact ⟨r, row, l, stored, same, change, by rw [after]⟩

theorem neverLowers_run (rows : LegacyRows legacy spvs) : NeverLowers run := by
  have kept : ∀ i ≤ run.length, BooksKept legacy.length (run.state i) := booksKept_run rows
  constructor
  case kept =>
    intro i inside id label
    obtain ⟨r, row, l, stored, same, change, after⟩ := revaluation inside label
    obtain ⟨stored', same'⟩ := change.stored stored
    refine ⟨r, row, stored, same, by rw [after]; exact stored', same'.trans same, ?_⟩
    exact change.counted ((kept i (Nat.le_of_lt inside)).mints.amount stored)
  case issuances =>
    intro i inside id label k issuance found
    obtain ⟨r, row, l, stored, same, change, after⟩ := revaluation inside label
    obtain ⟨issuance', found', sameId, raised⟩ := change.issuances found
    exact ⟨issuance', by rw [after]; exact found', sameId, raised⟩
  case equal =>
    intro i within r stored x link inserted
    have linked := (kept i within).linked
    have inside := linked.found r stored x link
    have found := List.getElem?_eq_getElem inside
    have id := linked.ids x _ found
    refine ⟨_, found, id, ?_⟩
    rw [countedEur_booked (booked_of_link link).1]
    exact linked.equal r stored x link inserted _ (List.getElem_mem inside) id

theorem neverUndercounts_run (rows : LegacyRows legacy spvs) (keeps : ∀ i < run.length, KeepsCents (run.state i) (run.label i)) :
    NeverUndercounts run := by
  constructor
  case live =>
    intro i inside r terms label stored sale live
    obtain ⟨r', row, l, stored', same, change, after⟩ := revaluation inside label
    obtain rfl := stored'.unique stored same
    obtain ⟨fx, effective, live', kept, floor⟩ := change.live_floor sale live
    obtain ⟨written, sameId⟩ := change.stored stored
    refine ⟨fx, row, effective, by rw [after]; exact written, sameId, live', ?_⟩
    have condition := keeps i inside
    rw [label] at condition
    rcases (condition (r', terms) (findSale_of_stored stored sale) fx effective).1 live with keeps | enough
    · exact (eurCents_le_iff.mpr keeps).trans floor
    · exact enough.trans kept
  case booked =>
    intro i inside r terms label stored sale booked
    obtain ⟨r', row, l, stored', same, change, after⟩ := revaluation inside label
    obtain rfl := stored'.unique stored same
    have condition := keeps i inside
    rw [label] at condition
    obtain ⟨j, earlier, gross, from', covered⟩ := coversGross_run rows keeps i (Nat.le_of_lt inside) r' terms stored sale booked
    obtain ⟨fx, terms', effective, sale', booked', rate, decimals, floor⟩ :=
      change.booked_floor sale booked (rescalingKeeps stored sale condition) covered
    obtain ⟨written, sameId⟩ := change.stored stored
    refine ⟨fx, row, effective, by rw [after]; exact written, sameId, booked', j, earlier, gross, from', ?_⟩
    rw [countedEur_booked booked', ← rate, ← decimals]
    exact Nat.ceil_le.mpr floor

end runs

/-- Whatever is booked and revalued in whatever order, no revaluation lowers what is counted, and none counts too little as
long as no quotient is rounded down to a whole cent. -/
theorem never_undercounts {legacy : List SpvIssuance} {spvs : List Spv} (rows : LegacyRows legacy spvs)
    (platformRaiseLimit : Option Nat) (clientRaiseLimits : Pubkey → List Nat) (now : Int) (today : Date)
    (run : Run stepBooks (openedBooks legacy spvs platformRaiseLimit clientRaiseLimits now today)) :
    NeverLowers run ∧ ((∀ i < run.length, KeepsCents (run.state i) (run.label i)) → NeverUndercounts run) :=
  ⟨neverLowers_run rows, neverUndercounts_run rows⟩

section example'

def exampleSpv : Spv :=
  { id := 3, issuerPda := some 7, annualCapEur := 1000000 }

def exampleLegacy : SpvIssuance :=
  { id := 0, spvId := 3, assetPda := none, salePubkey := some 9, amountEur := 500, issuedAt := { year := 2025, month := 5, day := 1 },
    source := .sale }

def exampleFx (rate : Rate) : FxRate :=
  { kind := .rate, eurPerToken := rate, decimals := 0, asOf := 0, maxAge := 100, overrideAuto := false }

instance : Inhabited BooksLabel := ⟨.revalueCapacityFx 0⟩

def exampleRevaluation : List BooksLabel :=
  [.ledger (.setFxRate 2 (some (exampleFx ⟨3333333333 / 10000000000, by norm_num⟩))),
    .ledger (.reserveSaleCapacity { exampleRequest 0 100 with spvId := some 3 }), .ledger (.consumeSaleReservation 0 40 100),
    .ledger (.bookSaleReservation 0 50 none false), .ledger (.setFxRate 2 (some (exampleFx ⟨1 / 2, by norm_num⟩))),
    .ledger (.setHolds [(.spv 3, "FX_REVALUE 0")]), .revalueCapacityFx 0]

theorem exampleLegacy_rows : LegacyRows [exampleLegacy] [exampleSpv] := by
  constructor
  · intro k i found
    match k with
    | 0 =>
        obtain rfl := Option.some.inj found
        rfl
    | k + 1 => cases found
  · decide

theorem never_undercounts_example :
    NeverUndercounts
      (Run.ofLabels stepBooks (openedBooks [exampleLegacy] [exampleSpv] none (fun _ => []) 0 { year := 2026, month := 1, day := 1 })
        exampleRevaluation (by decide +kernel)) :=
  (never_undercounts exampleLegacy_rows _ _ _ _ _).2 (by decide +kernel)

/-- A reserved sale of 60811.837673 tokens, valued anew at a rate that makes it worth a little more than 51952.89 euros. -/
def roundedRevaluation : List BooksLabel :=
  [.ledger (.setFxRate 2 (some { exampleFx ⟨1 / 2, by norm_num⟩ with decimals := 6 })),
    .ledger (.reserveSaleCapacity { exampleRequest 0 60811837673 with paymentDecimals := 6 }),
    .ledger (.setFxRate 2 (some { exampleFx ⟨8543219871 / 10000000000, by norm_num⟩ with decimals := 6 })),
    .ledger (.setHolds [(.issuer 7, "FX_REVALUE 0")]), .revalueCapacityFx 0]

def roundedRun : Run stepBooks (openedBooks [] [] none (fun _ => []) 0 { year := 2026, month := 1, day := 1 }) :=
  Run.ofLabels stepBooks _ roundedRevaluation (by decide +kernel)

def roundedSale : Reservation × SaleTerms :=
  (findSale (roundedRun.state 4).ledger 0).toOption.get (by decide +kernel)

def roundedFx : FxRate :=
  { exampleFx ⟨8543219871 / 10000000000, by norm_num⟩ with decimals := 6 }

theorem revaluation_loses_cent : ¬ NeverUndercounts roundedRun := by
  intro never
  have id : roundedSale.1.id = 0 := by decide +kernel
  have stored : lookup Reservation.id roundedSale.1.id (roundedRun.state 4).ledger.reservations = some roundedSale.1 := by
    decide +kernel
  obtain ⟨fx, row, effective, written, same, -, floor⟩ :=
    never.live 4 (by decide) roundedSale.1 roundedSale.2 (by rw [id]; rfl) stored (by decide +kernel) (by decide +kernel)
  have rate : fx = roundedFx := Option.some.inj (effective.symm.trans (by decide +kernel))
  have counted : (lookup Reservation.id 0 (roundedRun.state 5).ledger.reservations).map Reservation.countedEur = some 5195289 := by
    decide +kernel
  rw [Stored, same, id] at written
  rw [written] at counted
  rw [rate, Option.some.inj counted] at floor
  exact absurd floor (by decide +kernel)

end example'

end Mancipatio.Capacity
