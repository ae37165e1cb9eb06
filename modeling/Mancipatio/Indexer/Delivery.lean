import Mancipatio.Indexer.Queue

/-!
# Every delivery has one event and one job

What a step does to the tables, and what holds of them in every state.
-/

namespace Mancipatio.Indexer
open Checked Rows Execution Leasing

/-! ## What a step does -/

structure Grows (q q' : Queue) : Prop where
  events : ∃ added, q'.events = q.events ++ added ∧ ∀ e ∈ added, e.decoded = false
  jobs : ∃ added, q'.jobs = q.jobs ++ added ∧
    ∀ job ∈ added, job.status = .pending ∧ job.lease = none ∧ job.nextAttemptAt = q.now
  now : q'.now = q.now

theorem Grows.refl (q : Queue) : Grows q q :=
  ⟨⟨[], by simp, by simp⟩, ⟨[], by simp, by simp⟩, rfl⟩

theorem Grows.trans {q q' q'' : Queue} (first : Grows q q') (second : Grows q' q'') : Grows q q'' := by
  obtain ⟨⟨events, same, undecoded⟩, ⟨jobs, same', fresh⟩, now⟩ := first
  obtain ⟨⟨events', again, undecoded'⟩, ⟨jobs', again', fresh'⟩, now'⟩ := second
  refine ⟨⟨events ++ events', by rw [again, same, List.append_assoc], ?_⟩, ⟨jobs ++ jobs', by rw [again', same', List.append_assoc], ?_⟩,
    now'.trans now⟩
  · intro e member
    rcases List.mem_append.mp member with older | newer
    · exact undecoded e older
    · exact undecoded' e newer
  · intro job member
    rcases List.mem_append.mp member with older | newer
    · exact fresh job older
    · rw [← now]
      exact fresh' job newer

/-- A delivery is stored once: both of its rows are new, or both were there. -/
inductive Delivered (q : Queue) (network : String) (delivery : Delivery) : Queue → Prop where
  | again : (network, delivery.signature) ∈ q.events.map IndexerEvent.key →
      (network, delivery.signature) ∈ q.jobs.map IndexerJob.key → Delivered q network delivery q
  | stored : (network, delivery.signature) ∉ q.events.map IndexerEvent.key →
      (network, delivery.signature) ∉ q.jobs.map IndexerJob.key → delivery.jobId ∉ q.jobs.map IndexerJob.id →
      Delivered q network delivery
        { q with
          events := q.events ++ [delivery.event network]
          jobs := q.jobs ++ [delivery.job network q.now] }

/-! ## The tables -/

structure Sound (q : Queue) : Prop where
  eventKeys : (q.events.map IndexerEvent.key).Nodup
  jobKeys : (q.jobs.map IndexerJob.key).Nodup
  jobIds : (q.jobs.map IndexerJob.id).Nodup
  paired : ∀ key, key ∈ q.events.map IndexerEvent.key ↔ key ∈ q.jobs.map IndexerJob.key
  decoded : ∀ e ∈ q.events, ∀ job ∈ q.jobs, e.key = job.key → (e.decoded = true ↔ job.status = .complete)
  closed : ∀ job ∈ q.jobs, job.status = .complete → job.lease = none
  due : ∀ job ∈ q.jobs, job.nextAttemptAt ≤ q.now + 3600 ∧ ∀ lease ∈ job.lease, lease.expiresAt ≤ q.now + 300

theorem sound_empty (sync : String → Option SyncState) (now : Int) : Sound (emptyQueue sync now) := by
  refine ⟨.nil, .nil, .nil, fun _ => Iff.rfl, ?_, ?_, ?_⟩ <;>
  · intro row none
    cases none

section steps
variable {q q' : Queue}

theorem enqueueIndexerEvent_ok (sound : Sound q) {network : String} {delivery : Delivery} {reply : Option Nat}
    (stepped : enqueueIndexerEvent q network delivery = .ok (q', reply)) : Delivered q network delivery q' := by
  simp only [enqueueIndexerEvent, bind_eq_ok, require_eq_ok, pure_eq_ok, exists_const, Prod.mk.injEq] at stepped
  obtain ⟨-, _, inserted, rfl, -⟩ := stepped
  by_cases known : (network, delivery.signature) ∈ q.events.map IndexerEvent.key
  · have known' := (sound.paired _).mp known
    rw [insertEvent, if_pos (by exact known), insertJob, if_pos (by exact known')] at inserted
    cases inserted
    exact .again known known'
  · have new : (network, delivery.signature) ∉ q.jobs.map IndexerJob.key := fun listed => known ((sound.paired _).mpr listed)
    rw [insertEvent, if_neg (by exact known), insertJob, if_neg (by exact new)] at inserted
    simp only [bind_eq_ok, require_eq_ok, pure_eq_ok, exists_const] at inserted
    obtain ⟨fresh, rfl⟩ := inserted
    exact .stored known new fresh

theorem Delivered.grows {network : String} {delivery : Delivery} (delivered : Delivered q network delivery q') : Grows q q' := by
  cases delivered with
  | again => exact Grows.refl q
  | stored => exact ⟨⟨_, rfl, by simp [Delivery.event]⟩, ⟨_, rfl, by simp [Delivery.job]⟩, rfl⟩

theorem Delivered.listed {network : String} {delivery : Delivery} (delivered : Delivered q network delivery q') :
    (network, delivery.signature) ∈ q'.events.map IndexerEvent.key := by
  cases delivered with
  | again known => exact known
  | stored => exact List.mem_map.mpr ⟨delivery.event network, List.mem_append_right _ (List.mem_singleton_self _), rfl⟩

theorem sound_delivered (sound : Sound q) {network : String} {delivery : Delivery}
    (delivered : Delivered q network delivery q') : Sound q' := by
  cases delivered with
  | again => exact sound
  | stored unknown new fresh =>
      refine ⟨?eventKeys, ?jobKeys, ?jobIds, ?paired, ?decoded, ?closed, ?due⟩
      case eventKeys =>
        rw [List.map_append]
        exact sound.eventKeys.append (List.nodup_singleton _) (by simpa [Delivery.event, IndexerEvent.key] using unknown)
      case jobKeys =>
        rw [List.map_append]
        exact sound.jobKeys.append (List.nodup_singleton _) (by simpa [Delivery.job, IndexerJob.key] using new)
      case jobIds =>
        rw [List.map_append]
        exact sound.jobIds.append (List.nodup_singleton _) (by simpa [Delivery.job] using fresh)
      case paired =>
        intro key
        rw [List.map_append, List.map_append, List.mem_append, List.mem_append, sound.paired key]
        rfl
      case decoded =>
        intro e listed job listed' same
        rcases List.mem_append.mp listed with older | newer <;> rcases List.mem_append.mp listed' with older' | newer'
        · exact sound.decoded e older job older' same
        · rw [List.mem_singleton.mp newer'] at same
          exact absurd (List.mem_map.mpr ⟨e, older, same⟩) unknown
        · rw [List.mem_singleton.mp newer] at same
          exact absurd (List.mem_map.mpr ⟨job, older', same.symm⟩) new
        · rw [List.mem_singleton.mp newer, List.mem_singleton.mp newer']
          simp [Delivery.event, Delivery.job]
      case closed =>
        intro job listed
        rcases List.mem_append.mp listed with older | newer
        · exact sound.closed job older
        · rw [List.mem_singleton.mp newer]
          intro complete
          cases complete
      case due =>
        intro job listed
        rcases List.mem_append.mp listed with older | newer
        · exact sound.due job older
        · rw [List.mem_singleton.mp newer]
          refine ⟨?_, fun lease none => nomatch none⟩
          show q.now ≤ q.now + 3600
          omega

theorem enqueueAll_ok {network : String} {deliveries : List Delivery} (sound : Sound q)
    (stepped : deliveries.foldlM (fun q delivery => Prod.fst <$> enqueueIndexerEvent q network delivery) q = .ok q') :
    Sound q' ∧ Grows q q' ∧
      ∀ delivery ∈ deliveries, (network, delivery.signature) ∈ q'.events.map IndexerEvent.key := by
  induction deliveries generalizing q with
  | nil =>
      obtain rfl : q = q' := by simpa using stepped
      exact ⟨sound, Grows.refl q, fun _ none => nomatch none⟩
  | cons first rest ih =>
      simp only [List.foldlM_cons, bind_eq_ok, map_eq_ok, Prod.exists] at stepped
      obtain ⟨_, ⟨q₁, reply, stored, rfl⟩, remaining⟩ := stepped
      have delivered := enqueueIndexerEvent_ok sound stored
      obtain ⟨sound', grows, listed⟩ := ih (sound_delivered sound delivered) remaining
      refine ⟨sound', delivered.grows.trans grows, ?_⟩
      intro delivery member
      rcases List.mem_cons.mp member with rfl | later
      · obtain ⟨added, same, -⟩ := grows.events
        rw [same, List.map_append]
        exact List.mem_append_left _ delivered.listed
      · exact listed delivery later

/-! ## Every step -/

def claimAll (q : Queue) (owner : Nat) (expiresAt : Int) (picked : List IndexerJob) : Queue :=
  { q with jobs := q.jobs.map fun job =>
      if job.id ∈ picked.map IndexerJob.id then job.claimedBy owner expiresAt else job }

inductive Effect (q : Queue) : QueueLabel → Queue → Prop where
  | delivered {network delivery q'} : Delivered q network delivery q' →
      Effect q (.enqueueIndexerEvent network delivery) q'
  | batch {network deliveries q'} : Sound q' → Grows q q' →
      (∀ delivery ∈ deliveries, (network, delivery.signature) ∈ q'.events.map IndexerEvent.key) →
      Effect q (.enqueueIndexerEvents network deliveries) q'
  | claimed {network owner limit leaseSeconds locked} : 60 ≤ leaseSeconds → leaseSeconds ≤ 300 →
      Effect q (.claimIndexerJobs network owner limit leaseSeconds locked)
        (claimAll q owner (q.now + leaseSeconds) (pickedJobs q network limit locked))
  | refused {id owner complete error} : (∀ job, lookup IndexerJob.id id q.jobs = some job → ¬ job.heldBy owner q.now) →
      Effect q (.finishIndexerJob id owner complete error) q
  | retried {id owner error job sync} : lookup IndexerJob.id id q.jobs = some job → job.heldBy owner q.now →
      Effect q (.finishIndexerJob id owner false error)
        { q with jobs := upsert IndexerJob.id (job.finished false error q.now) q.jobs, sync }
  | completed {id owner error job e sync} : lookup IndexerJob.id id q.jobs = some job → job.heldBy owner q.now →
      lookup IndexerEvent.key job.key q.events = some e →
      Effect q (.finishIndexerJob id owner true error)
        { q with
          jobs := upsert IndexerJob.id (job.finished true error q.now) q.jobs
          events := upsert IndexerEvent.key { e with decoded := true } q.events
          sync }
  | ticked {seconds} : Effect q (.tick seconds) { q with now := q.now + (seconds : Nat) }

theorem markReady_sync (q : Queue) (network : String) : ∃ sync, markReady q network = { q with sync } := by
  unfold markReady
  split
  · exact ⟨q.sync, rfl⟩
  · split
    · exact ⟨_, rfl⟩
    · exact ⟨q.sync, rfl⟩

theorem finishIndexerJob_effect {id owner : Nat} {complete : Bool} {error : Option String} {answer : Bool}
    (stepped : finishIndexerJob q id owner complete error = .ok (q', answer)) :
    Effect q (.finishIndexerJob id owner complete error) q' ∧
      (answer = true ↔ ∃ job, lookup IndexerJob.id id q.jobs = some job ∧ job.heldBy owner q.now) := by
  unfold finishIndexerJob at stepped
  split at stepped
  case h_1 missing =>
    cases stepped
    have refused : ∀ job, lookup IndexerJob.id id q.jobs = some job → ¬ job.heldBy owner q.now := by
      intro job found held
      simp [found, held] at missing
    refine ⟨.refused refused, fun no => ?_, ?_⟩
    · cases no
    · rintro ⟨job, found, held⟩
      exact absurd held (refused job found)
  case h_2 job found =>
    obtain ⟨stored, held⟩ := Option.filter_eq_some_iff.mp found
    have held := of_decide_eq_true held
    cases complete with
    | false =>
        simp only [Bool.false_eq_true, if_false, Except.ok.injEq, Prod.mk.injEq] at stepped
        obtain ⟨rfl, rfl⟩ := stepped
        exact ⟨.retried stored held, fun _ => ⟨job, stored, held⟩, fun _ => rfl⟩
    | true =>
        simp only [if_true, bind_eq_ok, okOr_eq_ok, pure_eq_ok, Prod.mk.injEq] at stepped
        obtain ⟨e, recorded, rfl, rfl⟩ := stepped
        obtain ⟨sync, same⟩ := markReady_sync { q with
          jobs := upsert IndexerJob.id (job.finished true error q.now) q.jobs
          events := upsert IndexerEvent.key { e with decoded := true } q.events } job.network
        rw [same]
        exact ⟨.completed stored held recorded, fun _ => ⟨job, stored, held⟩, fun _ => rfl⟩

theorem step_effect {label : QueueLabel} (sound : Sound q) (stepped : step q label = .ok q') : Effect q label q' := by
  cases label with
  | enqueueIndexerEvent network delivery =>
      simp only [step, map_eq_ok, Prod.exists] at stepped
      obtain ⟨_, reply, stored, rfl⟩ := stepped
      exact .delivered (enqueueIndexerEvent_ok sound stored)
  | enqueueIndexerEvents network deliveries =>
      simp only [step, enqueueIndexerEvents, map_eq_ok, bind_eq_ok, require_eq_ok, pure_eq_ok, exists_const,
        Prod.exists, Prod.mk.injEq] at stepped
      obtain ⟨_, _, ⟨-, _, stored, rfl, -⟩, rfl⟩ := stepped
      obtain ⟨sound', grows, listed⟩ := enqueueAll_ok sound stored
      exact .batch sound' grows listed
  | claimIndexerJobs network owner limit leaseSeconds locked =>
      simp only [step, claimIndexerJobs, map_eq_ok, bind_eq_ok, require_eq_ok, pure_eq_ok, exists_const,
        Prod.exists, Prod.mk.injEq] at stepped
      obtain ⟨_, _, ⟨⟨-, -, least, most⟩, rfl, -⟩, rfl⟩ := stepped
      exact .claimed least most
  | finishIndexerJob id owner complete error =>
      simp only [step, map_eq_ok, Prod.exists] at stepped
      obtain ⟨_, answer, finished, rfl⟩ := stepped
      exact (finishIndexerJob_effect finished).1
  | tick seconds =>
      cases stepped
      exact .ticked

theorem pickedJobs_claimable {network : String} {limit : Nat} {locked : List Nat} {job : IndexerJob}
    (picked : job ∈ pickedJobs q network limit locked) : job ∈ q.jobs ∧ job.claimable network q.now := by
  have sorted := List.mem_of_mem_take picked
  rw [List.mem_insertionSort] at sorted
  obtain ⟨listed, due⟩ := List.mem_filter.mp sorted
  exact ⟨listed, (of_decide_eq_true due).1⟩

theorem Sound.picked (sound : Sound q) {network : String} {limit : Nat} {locked : List Nat} {job : IndexerJob}
    (listed : job ∈ q.jobs) (picked : job.id ∈ (pickedJobs q network limit locked).map IndexerJob.id) :
    job ∈ pickedJobs q network limit locked := by
  obtain ⟨other, taken, same⟩ := List.mem_map.mp picked
  rwa [List.inj_on_of_nodup_map sound.jobIds listed (pickedJobs_claimable taken).1 same.symm]

theorem claimed_key (owner : Nat) (expiresAt : Int) (picked : List IndexerJob) (job : IndexerJob) :
    (if job.id ∈ picked.map IndexerJob.id then job.claimedBy owner expiresAt else job).id = job.id ∧
      (if job.id ∈ picked.map IndexerJob.id then job.claimedBy owner expiresAt else job).key = job.key ∧
      (if job.id ∈ picked.map IndexerJob.id then job.claimedBy owner expiresAt else job).status = job.status := by
  split <;> exact ⟨rfl, rfl, rfl⟩

theorem Sound.pending_of_held (sound : Sound q) {job : IndexerJob} {owner : Nat} (listed : job ∈ q.jobs)
    (held : job.heldBy owner q.now) : job.status = .pending := by
  obtain ⟨lease, stored, -⟩ := held
  cases status : job.status with
  | pending => rfl
  | complete =>
      rw [sound.closed job listed status] at stored
      cases stored

theorem sound_claimed (sound : Sound q) {network : String} {owner limit leaseSeconds : Nat} {locked : List Nat}
    (most : leaseSeconds ≤ 300) : Sound (claimAll q owner (q.now + leaseSeconds) (pickedJobs q network limit locked)) := by
  have same := claimed_key owner (q.now + leaseSeconds) (pickedJobs q network limit locked)
  have keys : (claimAll q owner (q.now + leaseSeconds) (pickedJobs q network limit locked)).jobs.map IndexerJob.key =
      q.jobs.map IndexerJob.key := by
    rw [claimAll, List.map_map]
    exact List.map_congr_left fun job _ => (same job).2.1
  have ids : (claimAll q owner (q.now + leaseSeconds) (pickedJobs q network limit locked)).jobs.map IndexerJob.id =
      q.jobs.map IndexerJob.id := by
    rw [claimAll, List.map_map]
    exact List.map_congr_left fun job _ => (same job).1
  refine ⟨sound.eventKeys, keys ▸ sound.jobKeys, ids ▸ sound.jobIds, keys ▸ sound.paired, ?decoded, ?closed, ?due⟩
  case decoded =>
    intro e recorded job listed paired
    obtain ⟨old, stored, rfl⟩ := List.mem_map.mp listed
    rw [(same old).2.1] at paired
    rw [(same old).2.2]
    exact sound.decoded e recorded old stored paired
  case closed =>
    intro job listed complete
    obtain ⟨old, stored, rfl⟩ := List.mem_map.mp listed
    rw [(same old).2.2] at complete
    rw [if_neg, sound.closed old stored complete]
    intro picked
    have pending := (pickedJobs_claimable (sound.picked stored picked)).2.2.1
    rw [complete] at pending
    cases pending
  case due =>
    intro job listed
    obtain ⟨old, stored, rfl⟩ := List.mem_map.mp listed
    split
    · refine ⟨(sound.due old stored).1, ?_⟩
      intro lease given
      cases given
      show q.now + leaseSeconds ≤ q.now + 300
      omega
    · exact sound.due old stored

theorem retryDelay_le (attempts : Nat) : retryDelay attempts ≤ 3600 :=
  Nat.min_le_left _ _

theorem finished_due (job : IndexerJob) (complete : Bool) (error : Option String) (now : Int) :
    (job.finished complete error now).nextAttemptAt ≤ now + 3600 := by
  have short := retryDelay_le job.attempts
  show now + (retryDelay job.attempts : Int) ≤ now + 3600
  omega

section answered
variable {job : IndexerJob} (sound : Sound q) (job' : IndexerJob) (stored : lookup IndexerJob.id job'.id q.jobs = some job)
include sound stored

theorem Sound.answered {events : List IndexerEvent} {sync : String → Option SyncState} (key : job'.key = job.key)
    (eventKeys : events.map IndexerEvent.key = q.events.map IndexerEvent.key)
    (decoded : ∀ e ∈ events, ∀ other ∈ upsert IndexerJob.id job' q.jobs, e.key = other.key →
      (e.decoded = true ↔ other.status = .complete))
    (free : job'.lease = none) (due : job'.nextAttemptAt ≤ q.now + 3600) :
    Sound { q with events, jobs := upsert IndexerJob.id job' q.jobs, sync } := by
  have keys := map_upsert IndexerJob.id IndexerJob.key job' stored key
  have ids := map_upsert IndexerJob.id IndexerJob.id job' stored (mem_of_lookup _ stored).2.symm
  refine ⟨eventKeys ▸ sound.eventKeys, keys ▸ sound.jobKeys, ids ▸ sound.jobIds, ?paired, decoded, ?closed, ?due⟩
  case paired =>
    intro k
    rw [eventKeys, keys]
    exact sound.paired k
  case closed => exact forall_upsert _ sound.closed fun _ => free
  case due => exact forall_upsert _ sound.due ⟨due, fun lease given => nomatch free.symm.trans given⟩

end answered

theorem sound_step {label : QueueLabel} (sound : Sound q) (stepped : step q label = .ok q') : Sound q' := by
  cases step_effect sound stepped with
  | delivered delivered => exact sound_delivered sound delivered
  | batch sound' => exact sound'
  | claimed _ most => exact sound_claimed sound most
  | refused => exact sound
  | @retried id owner error job sync stored held =>
      obtain ⟨listed, rfl⟩ := mem_of_lookup _ stored
      have pending := sound.pending_of_held listed held
      refine sound.answered (job.finished false error q.now) stored rfl rfl ?_ rfl ?_
      · intro e recorded
        apply forall_upsert _ (sound.decoded e recorded)
        intro same
        rw [sound.decoded e recorded job listed same, pending]
        simp [IndexerJob.finished]
      · exact finished_due job false error q.now
  | @completed id owner error job e sync stored held recorded =>
      obtain ⟨listed, rfl⟩ := mem_of_lookup _ stored
      obtain ⟨present, same⟩ := mem_of_lookup _ recorded
      refine sound.answered (job.finished true error q.now) stored rfl ?_ ?_ rfl
        (finished_due job true error q.now)
      · rw [← same] at recorded
        exact map_upsert IndexerEvent.key IndexerEvent.key { e with decoded := true } recorded rfl
      · intro e' written other written' paired
        rcases mem_upsert _ sound.eventKeys written with rfl | ⟨older, apart⟩ <;>
          rcases mem_upsert _ sound.jobIds written' with rfl | ⟨older', apart'⟩
        · exact ⟨fun _ => rfl, fun _ => rfl⟩
        · have one := List.inj_on_of_nodup_map sound.jobKeys older' listed (paired.symm.trans same)
          exact absurd (congrArg IndexerJob.id one) apart'
        · exact absurd (paired.trans same.symm) apart
        · exact sound.decoded e' older other older' paired
  | @ticked seconds =>
      refine ⟨sound.eventKeys, sound.jobKeys, sound.jobIds, sound.paired, sound.decoded, sound.closed, ?_⟩
      intro job listed
      obtain ⟨due, leased⟩ := sound.due job listed
      refine ⟨?_, fun lease given => ?_⟩
      · show job.nextAttemptAt ≤ q.now + seconds + 3600
        omega
      · have until' := leased lease given
        show lease.expiresAt ≤ q.now + seconds + 300
        omega

end steps

end Mancipatio.Indexer
