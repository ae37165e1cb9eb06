import Mancipatio.Capacity.Cap

/-!
# One application backs one sale

Only a new reservation checks that its application is free. An approval that lands after its reservation was
released takes the application back, whoever has it by then.
-/

namespace Mancipatio.Capacity
open Checked Rows Execution

def OneApplication (rows : List Reservation) : Prop :=
  ∀ application, ∀ a ∈ rows, ∀ b ∈ rows, a.backs application → b.backs application → a = b

/-- A released row comes back only while its application backs no other sale. -/
def ReactivatesFree (l : Ledger) : CapacityLabel → Prop
  | .adoptSaleApproval chain _ => ∀ r ∈ findApproval l chain.approval.approvalPda, r.counted = false →
      r.applicationHash = chain.applicationHash → ∀ application ∈ r.applicationId, ∀ other ∈ l.reservations,
      ¬ other.backs application
  | _ => True

/-! ## One step -/

section steps
variable {l l' : Ledger} {rows : List Reservation} {r r' : Reservation} {label : CapacityLabel}

theorem OneApplication.appended (one : OneApplication rows)
    (free : ∀ application, r.backs application → ∀ other ∈ rows, ¬ other.backs application) :
    OneApplication (rows ++ [r]) := by
  intro application a first b second backs backs'
  rcases List.mem_append.mp first with older | new <;> rcases List.mem_append.mp second with older' | new'
  · exact one application a older b older' backs backs'
  · rw [List.mem_singleton.mp new'] at backs'
    exact absurd backs (free application backs' a older)
  · rw [List.mem_singleton.mp new] at backs
    exact absurd backs' (free application backs b older')
  · rw [List.mem_singleton.mp new, List.mem_singleton.mp new']

theorem OneApplication.rewritten (one : OneApplication rows) (distinct : (rows.map Reservation.id).Nodup)
    (member : r ∈ rows) (same : r.Continues r')
    (kept : ∀ application, r'.backs application →
      r.backs application ∨ ∀ other ∈ rows, ¬ other.backs application) :
    OneApplication (upsert Reservation.id r' rows) := by
  have apart : ∀ application other, r'.backs application → other ∈ rows → other.id ≠ r'.id →
      ¬ other.backs application := by
    intro application other backs stored different backs'
    rcases kept application backs with before | free
    · apply different
      rw [one application other stored r member backs' before, same.id]
    · exact free other stored backs'
  intro application a first b second backs backs'
  rcases mem_upsert _ distinct first with rfl | ⟨older, different⟩ <;>
    rcases mem_upsert _ distinct second with rfl | ⟨older', different'⟩
  · rfl
  · exact absurd backs' (apart application b backs older' different')
  · exact absurd backs (apart application a backs' older different)
  · exact one application a older b older' backs backs'

theorem backs_of_treasury (treasury : r.terms = none) (application : Nat) : ¬ r.backs application :=
  fun backs => backs.2.1 treasury

theorem oneApplication_step (formed : WellFormed l) (one : OneApplication l.reservations)
    (free : ReactivatesFree l label) (stepped : step l label = .ok l') : OneApplication l'.reservations := by
  have distinct := formed.indexes.1
  cases step_effect stepped with
  | retried | adjusted | registered | spvIssuer => exact one
  | elsewhere same => rwa [same.reservations]
  | reservedSale new _ unbacked =>
      subst new
      exact one.appended fun application backs => unbacked application backs.1
  | reservedTreasury new =>
      subst new
      exact one.appended fun application backs => absurd backs (backs_of_treasury rfl application)
  | confirmed stored sale live =>
      exact one.rewritten distinct (mem_of_lookup _ stored).1 (confirmedAt_continues _) fun _ backs => .inl backs
  | @consumed id salePda gross r terms stored sale status =>
      refine one.rewritten distinct (mem_of_lookup _ stored).1 (consumedAt_continues _ _ _) fun application backs => .inl ?_
      refine ⟨?_, by simp [sale], by rw [Reservation.counted, status]⟩
      rw [← backs.1]
      unfold Reservation.consumedAt
      split <;> rfl
  | unsold stored | released stored =>
      refine one.rewritten distinct (mem_of_lookup _ stored).1 (withStatus_continues _) fun application backs => ?_
      cases backs.2.2
  | booked stored sale status _ _ written =>
      show OneApplication (upsert _ _ _)
      rw [written.reservations]
      refine one.rewritten distinct (mem_of_lookup _ stored).1 (withStatus_continues _) fun application backs => .inl ?_
      exact ⟨backs.1, backs.2.1, by rw [Reservation.counted, status]⟩
  | @adopted chain spvId result _ adopted =>
      cases adopted with
      | inserted new =>
          subst new
          refine one.appended fun application backs => ?_
          cases backs.1
      | unchanged => exact one
      | @changed r terms rate decimals _ _ _ _ new found sale status =>
          subst new
          refine one.rewritten distinct (findApproval_mem found).1 (adoptedAt_continues _ _ _ _ _ _) fun application backs => ?_
          have carried : r.applicationHash = chain.applicationHash ∧ r.applicationId = some application := by
            have own := backs.1
            simp only [Reservation.adoptedAt] at own
            split at own
            case isTrue same => exact ⟨same, own⟩
            case isFalse => cases own
          rcases status with ⟨reserved, -⟩ | ⟨reason, released⟩
          · exact .inl ⟨carried.2, by simp [sale], by rw [Reservation.counted, reserved]⟩
          · exact .inr (free r found (by rw [Reservation.counted, released]) carried.1 application carried.2)
  | landed stored treasury =>
      refine one.rewritten distinct (mem_of_lookup _ stored).1 landed_continues fun application backs => ?_
      exact absurd backs (backs_of_treasury (landed_terms.trans treasury) application)
  | minted stored treasury _ written =>
      show OneApplication (upsert _ _ _)
      rw [written.reservations]
      refine one.rewritten distinct (mem_of_lookup _ stored).1 (landed_continues.trans (minted_continues _ _ _ _ _))
        fun application backs => ?_
      exact absurd backs (backs_of_treasury rfl application)
  | @adoptedMint chain spvId issuedAt amount date counted issuance booked new registered indexes written =>
      subst new
      show OneApplication (upsert _ _ _)
      rw [written.reservations]
      have appended := one.appended (r := chain.row spvId amount date none l.now)
        fun application backs => absurd backs (backs_of_treasury rfl application)
      refine appended.rewritten indexes.1 (List.mem_append_right _ (List.mem_singleton_self _)) ⟨rfl, rfl, rfl⟩
        fun application backs => ?_
      exact absurd backs (backs_of_treasury rfl application)

theorem free_of_oneApplication (formed : WellFormed l) (after : OneApplication l'.reservations)
    (stepped : step l label = .ok l') : ReactivatesFree l label := by
  cases label with
  | adoptSaleApproval chain spvId =>
      intro r found dead hash application carried other stored backs
      obtain ⟨member, terms, sale, -⟩ := findApproval_mem found
      have apart : other ≠ r := by
        rintro rfl
        rw [backs.2.2] at dead
        cases dead
      simp only [step, map_eq_ok] at stepped
      obtain ⟨result, stepped, rfl⟩ := stepped
      obtain ⟨-, adopted⟩ := adoptSaleApproval_adopted stepped
      cases adopted with
      | inserted _ unknown =>
          rw [found] at unknown
          cases unknown
      | @unchanged r' found' status =>
          obtain rfl : r = r' := Option.some.inj (found.symm.trans found')
          rcases status with consumed | ⟨_, _, _, booked⟩ | ⟨reserved, -⟩
          · simp [Reservation.counted, consumed] at dead
          · simp [Reservation.counted, booked] at dead
          · simp [Reservation.counted, reserved] at dead
      | @changed r' terms' rate decimals _ row _ _ new found' =>
          obtain rfl : r = r' := Option.some.inj (found.symm.trans found')
          have ids : other.id ≠ row.id := by
            rw [new]
            exact fun same => apart (List.inj_on_of_nodup_map formed.indexes.1 stored member same)
          have kept : lookup Reservation.id other.id (l.rewrite row).reservations = some other := by
            show lookup _ _ (upsert _ _ _) = _
            rw [lookup_upsert, if_neg ids]
            exact formed.found stored
          have again : row.backs application := by
            rw [new]
            refine ⟨?_, Option.some_ne_none _, rfl⟩
            rw [Reservation.adoptedAt, if_pos hash]
            exact carried
          have written := (mem_of_lookup _ (lookup_rewrite l row)).1
          have one := after application other (mem_of_lookup _ kept).1 row written backs again
          exact ids (congrArg Reservation.id one)
  | _ => trivial

end steps

/-! ## Whole runs -/

/-- In every run of the ledger: an application backs one sale in every state exactly as long as no released row
comes back while another sale has its application. -/
theorem one_application_backs_one_sale (spvs : List Spv) (platformRaiseLimit : Option Nat)
    (clientRaiseLimits : Pubkey → List Nat) (now : Int) (today : Date)
    (run : Run step (emptyLedger spvs platformRaiseLimit clientRaiseLimits now today)) :
    (∀ i ≤ run.length, OneApplication (run.state i).reservations) ↔
      ∀ i < run.length, ReactivatesFree (run.state i) (run.label i) := by
  have formed := wellFormed_run run
  constructor
  · intro one i inside
    exact free_of_oneApplication (formed i (Nat.le_of_lt inside)) (one (i + 1) inside) (run.next i inside)
  · intro free i inside
    induction i with
    | zero =>
        rw [run.starts]
        intro application a stored
        cases stored
    | succ i ih =>
        have before := Nat.le_of_lt inside
        exact oneApplication_step (formed i before) (ih before) (free i inside) (run.next i inside)

def exampleApplication : LaunchApplication where
  approved := true
  raiseType := .mature
  cliffMonths := none
  vestingMonths := none
  linkedSale := none
  raiseAmount := 10000

def takenBack : List CapacityLabel :=
  [.setFxRate 2 (some examplePeg), .setApplication 5 (some exampleApplication),
    .reserveSaleCapacity { exampleRequest 0 10 with applicationId := some 5 }, .releaseSaleReservation 0 .txFailed,
    .reserveSaleCapacity { exampleRequest 1 10 with applicationId := some 5 },
    .adoptSaleApproval
      { id := 9, shareClass := 1, assetPda := none, issuerPda := 7, approval := (exampleRequest 0 10).approval,
        applicationHash := 0, approvedBy := "admin" } none]

def takenBackRun : Run step exampleLedger :=
  Run.ofLabels step exampleLedger takenBack (by decide +kernel)

theorem application_backs_two_sales : ∃ run : Run step exampleLedger, ∃ i ≤ run.length,
    ¬ OneApplication (run.state i).reservations := by
  refine ⟨takenBackRun, 6, by decide, ?_⟩
  have both : ∃ a ∈ (takenBackRun.state 6).reservations, ∃ b ∈ (takenBackRun.state 6).reservations,
      a.backs 5 ∧ b.backs 5 ∧ a ≠ b := by decide +kernel
  obtain ⟨a, first, b, second, backs, backs', different⟩ := both
  exact fun one => different (one 5 a first b second backs backs')

end Mancipatio.Capacity
