import Mancipatio.Indexer.Delivery

/-!
# No indexed event is lost

However many workers claim and answer, and whenever: a job is held by one owner at a time, its event is decoded
in the step that completes it, and until then it comes up for a claim again.
-/

namespace Mancipatio.Indexer
open Checked Rows Execution Leasing

def leaseOf (id : Nat) (q : Queue) : Option (Lease Nat) :=
  (lookup IndexerJob.id id q.jobs).bind IndexerJob.lease

section steps
variable {q q' : Queue} {label : QueueLabel} {id : Nat}

/-! ## The lease of a job -/

theorem leaseOf_grown (grows : Grows q q') (id : Nat) : leaseOf id q' = leaseOf id q := by
  obtain ⟨added, same, fresh⟩ := grows.jobs
  unfold leaseOf
  rw [same]
  cases found : lookup IndexerJob.id id q.jobs with
  | some job => rw [lookup_append_of_found _ found added]
  | none =>
      unfold lookup at found ⊢
      rw [List.find?_append, found]
      cases new : added.find? fun job => job.id = id with
      | none => rfl
      | some job => exact (fresh job (List.mem_of_find?_eq_some new)).2.1

theorem lookup_claimed (owner : Nat) (expiresAt : Int) (picked : List IndexerJob) :
    lookup IndexerJob.id id (claimAll q owner expiresAt picked).jobs =
      (lookup IndexerJob.id id q.jobs).map fun job =>
        if job.id ∈ picked.map IndexerJob.id then job.claimedBy owner expiresAt else job :=
  lookup_map _ (fun job => (claimed_key owner expiresAt picked job).1) id

theorem leaseOf_claimed {owner : Nat} {expiresAt : Int} {picked : List IndexerJob} {job : IndexerJob}
    (listed : lookup IndexerJob.id id q.jobs = some job) (taken : id ∈ picked.map IndexerJob.id) :
    leaseOf id (claimAll q owner expiresAt picked) = some { owner, expiresAt } := by
  have own := (mem_of_lookup _ listed).2
  rw [leaseOf, lookup_claimed, listed, Option.map_some, own, if_pos taken]
  rfl

theorem leaseOf_unclaimed {owner : Nat} {expiresAt : Int} {picked : List IndexerJob} (left : id ∉ picked.map IndexerJob.id) :
    leaseOf id (claimAll q owner expiresAt picked) = leaseOf id q := by
  unfold leaseOf
  rw [lookup_claimed]
  cases found : lookup IndexerJob.id id q.jobs with
  | none => rfl
  | some job =>
      have own := (mem_of_lookup _ found).2
      rw [Option.map_some, own, if_neg left]

theorem lookup_picked (sound : Sound q) {network : String} {limit : Nat} {locked : List Nat}
    (taken : id ∈ (pickedJobs q network limit locked).map IndexerJob.id) :
    ∃ job, lookup IndexerJob.id id q.jobs = some job ∧ job.claimable network q.now := by
  obtain ⟨job, picked, rfl⟩ := List.mem_map.mp taken
  obtain ⟨listed, claimable⟩ := pickedJobs_claimable picked
  exact ⟨job, lookup_of_mem _ sound.jobIds listed, claimable⟩

def Grants (q : Queue) (label : QueueLabel) (id : Nat) (lease : Lease Nat) : Prop :=
  ∃ network owner limit leaseSeconds locked, label = .claimIndexerJobs network owner limit leaseSeconds locked ∧
    id ∈ (pickedJobs q network limit locked).map IndexerJob.id ∧ lease = { owner, expiresAt := q.now + (leaseSeconds : Nat) }

def Answers (q : Queue) (label : QueueLabel) (id owner : Nat) (complete : Bool) : Prop :=
  ∃ error q', label = .finishIndexerJob id owner complete error ∧ finishIndexerJob q id owner complete error = .ok (q', true)

theorem leaseOf_granted (sound : Sound q) (stepped : step q label = .ok q') {lease : Lease Nat}
    (grants : Grants q label id lease) : leaseOf id q' = some lease ∧ ∀ old ∈ leaseOf id q, old.expiresAt ≤ q.now := by
  obtain ⟨network, owner, limit, leaseSeconds, locked, rfl, taken, rfl⟩ := grants
  obtain ⟨job, found, -, -, -, expired⟩ := lookup_picked sound taken
  cases step_effect sound stepped with
  | claimed =>
      refine ⟨leaseOf_claimed found taken, ?_⟩
      rw [leaseOf, found]
      exact expired

theorem leaseOf_answered (sound : Sound q) (stepped : step q label = .ok q') {owner : Nat} {complete : Bool}
    (answers : Answers q label id owner complete) : leaseOf id q' = none := by
  obtain ⟨error, q'', rfl, finished⟩ := answers
  have held := (finishIndexerJob_effect finished).2.mp rfl
  obtain ⟨job, found, held⟩ := held
  have written : ∀ complete, leaseOf id
      { q with jobs := upsert IndexerJob.id (job.finished complete error q.now) q.jobs } = none := by
    intro complete
    have own := (mem_of_lookup _ found).2
    unfold leaseOf
    rw [lookup_upsert, if_pos (by exact own.symm)]
    rfl
  cases step_effect sound stepped with
  | refused unheld => exact absurd held (unheld job found)
  | retried found' =>
      cases found.symm.trans found'
      exact written false
  | completed found' =>
      cases found.symm.trans found'
      exact written true

theorem leaseOf_kept (sound : Sound q) (stepped : step q label = .ok q') (ungranted : ∀ lease, ¬ Grants q label id lease)
    (unanswered : ∀ owner complete, ¬ Answers q label id owner complete) : leaseOf id q' = leaseOf id q := by
  have apart : ∀ {id' owner : Nat} {complete : Bool} {error : Option String} {job : IndexerJob},
      label = .finishIndexerJob id' owner complete error → lookup IndexerJob.id id' q.jobs = some job →
      job.heldBy owner q.now → id ≠ id' := by
    rintro id' owner complete error job rfl found held rfl
    simp only [step, map_eq_ok, Prod.exists] at stepped
    obtain ⟨_, answer, finished, -⟩ := stepped
    have accepted := (finishIndexerJob_effect finished).2.mpr ⟨job, found, held⟩
    exact unanswered owner complete ⟨error, _, rfl, accepted ▸ finished⟩
  cases step_effect sound stepped with
  | delivered delivered => exact leaseOf_grown delivered.grows id
  | batch _ grows => exact leaseOf_grown grows id
  | claimed => exact leaseOf_unclaimed fun taken => ungranted _ ⟨_, _, _, _, _, rfl, taken, rfl⟩
  | refused | ticked => rfl
  | retried found held | completed found held =>
      have other := apart rfl found held
      have own := (mem_of_lookup _ found).2
      unfold leaseOf
      rw [lookup_upsert, if_neg]
      exact fun same => other (same.trans own)

/-! ## Rows and events -/

/-- A row stays. It changes its status in an accepted answer only, and not at all once it is complete. -/
theorem row_step (sound : Sound q) (stepped : step q label = .ok q') {job : IndexerJob}
    (found : lookup IndexerJob.id id q.jobs = some job) :
    ∃ job', lookup IndexerJob.id id q'.jobs = some job' ∧ job'.key = job.key ∧
      (job.status = .complete → job' = job) := by
  have answered : ∀ {id' owner : Nat} {row : IndexerJob} (complete : Bool) (error : Option String),
      lookup IndexerJob.id id' q.jobs = some row → row.heldBy owner q.now →
      ∃ job', lookup IndexerJob.id id (upsert IndexerJob.id (row.finished complete error q.now) q.jobs) = some job' ∧
        job'.key = job.key ∧ (job.status = .complete → job' = job) := by
    intro id' owner row complete error found' held
    obtain ⟨listed, rfl⟩ := mem_of_lookup _ found'
    rw [lookup_upsert]
    split
    case isFalse => exact ⟨job, found, rfl, fun _ => rfl⟩
    case isTrue same =>
      obtain rfl : id = row.id := same
      obtain rfl : job = row := Option.some.inj (found.symm.trans found')
      refine ⟨_, rfl, rfl, fun done => ?_⟩
      have pending := sound.pending_of_held listed held
      rw [done] at pending
      cases pending
  have grown : ∀ q', Grows q q' → ∃ job', lookup IndexerJob.id id q'.jobs = some job' ∧ job'.key = job.key ∧
      (job.status = .complete → job' = job) := by
    intro q' grows
    obtain ⟨added, same, -⟩ := grows.jobs
    rw [same]
    exact ⟨job, lookup_append_of_found _ found added, rfl, fun _ => rfl⟩
  cases step_effect sound stepped with
  | delivered delivered => exact grown _ delivered.grows
  | batch _ grows => exact grown _ grows
  | refused | ticked => exact ⟨job, found, rfl, fun _ => rfl⟩
  | retried found' held => exact answered false _ found' held
  | completed found' held => exact answered true _ found' held
  | claimed =>
      rw [lookup_claimed, found]
      refine ⟨_, rfl, (claimed_key _ _ _ job).2.1, fun done => if_neg fun taken => ?_⟩
      obtain ⟨listed, -⟩ := mem_of_lookup _ found
      have pending := (pickedJobs_claimable (sound.picked listed taken)).2.2.1
      rw [done] at pending
      cases pending

theorem complete_step (sound : Sound q) (stepped : step q label = .ok q') {owner : Nat}
    (answers : Answers q label id owner true) :
    ∃ job job', lookup IndexerJob.id id q.jobs = some job ∧ job.status = .pending ∧ job.heldBy owner q.now ∧
      lookup IndexerJob.id id q'.jobs = some job' ∧ job'.status = .complete ∧ job'.key = job.key := by
  obtain ⟨error, q'', rfl, finished⟩ := answers
  obtain ⟨job, found, held⟩ := (finishIndexerJob_effect finished).2.mp rfl
  cases step_effect sound stepped with
  | refused unheld => exact absurd held (unheld job found)
  | completed found' =>
      cases found.symm.trans found'
      obtain ⟨listed, rfl⟩ := mem_of_lookup _ found
      refine ⟨job, job.finished true error q.now, found, sound.pending_of_held listed held, held, ?_, rfl, rfl⟩
      rw [lookup_upsert, if_pos (by rfl)]

/-- An event stays. It is decoded by the answer that completes its job. -/
theorem event_step (sound : Sound q) (stepped : step q label = .ok q') {key : EventKey} {e : IndexerEvent}
    (found : lookup IndexerEvent.key key q.events = some e) :
    ∃ e', lookup IndexerEvent.key key q'.events = some e' ∧ { e' with decoded := e.decoded } = e ∧
      (e' = e ∨ e'.decoded = true ∧ ∃ id owner job, Answers q label id owner true ∧
        lookup IndexerJob.id id q.jobs = some job ∧ job.key = key) := by
  have grown : ∀ q', Grows q q' → ∃ e', lookup IndexerEvent.key key q'.events = some e' ∧
      { e' with decoded := e.decoded } = e ∧ (e' = e ∨ e'.decoded = true ∧ ∃ id owner job, Answers q label id owner true ∧
        lookup IndexerJob.id id q.jobs = some job ∧ job.key = key) := by
    intro q' grows
    obtain ⟨added, same, -⟩ := grows.events
    rw [same]
    exact ⟨e, lookup_append_of_found _ found added, rfl, .inl rfl⟩
  have finished := stepped
  cases step_effect sound stepped with
  | delivered delivered => exact grown _ delivered.grows
  | batch _ grows => exact grown _ grows
  | claimed | refused | retried | ticked => exact ⟨e, found, rfl, .inl rfl⟩
  | @completed id owner error job e' sync stored held recorded =>
      obtain ⟨-, own⟩ := mem_of_lookup _ recorded
      rw [lookup_upsert]
      split
      case isFalse => exact ⟨e, found, rfl, .inl rfl⟩
      case isTrue same =>
        obtain rfl : key = e'.key := same
        obtain rfl : e = e' := Option.some.inj (found.symm.trans (own ▸ recorded))
        refine ⟨_, rfl, rfl, .inr ⟨rfl, id, owner, job, ?_, stored, own.symm⟩⟩
        simp only [step, map_eq_ok, Prod.exists] at finished
        obtain ⟨q'', answer, finished, -⟩ := finished
        have accepted := (finishIndexerJob_effect finished).2.mpr ⟨job, stored, held⟩
        exact ⟨error, q'', rfl, accepted ▸ finished⟩

/-! ## Claims -/

instance : Std.Total IndexerJob.dueBefore where
  total a b := by
    unfold IndexerJob.dueBefore
    omega

instance : IsTrans IndexerJob IndexerJob.dueBefore where
  trans a b c first second := by
    unfold IndexerJob.dueBefore at *
    omega

def jobsAhead (q : Queue) (locked : List Nat) (job : IndexerJob) : Nat :=
  q.jobs.countP fun other => other.claimable job.network q.now ∧ other.id ∉ locked ∧ other.dueBefore job ∧ other ≠ job

theorem picked_of_claimable (sound : Sound q) {job : IndexerJob} {limit : Nat} {locked : List Nat} (listed : job ∈ q.jobs)
    (claimable : job.claimable job.network q.now) (unlocked : job.id ∉ locked) (room : jobsAhead q locked job < limit) :
    job ∈ pickedJobs q job.network limit locked := by
  refine mem_take_sorted IndexerJob.dueBefore ?_ ?_ ?_ (Nat.lt_of_le_of_lt List.filter_sublist.countP_le room)
  · exact (List.Nodup.of_map _ sound.jobIds).filter _
  · exact List.mem_filter.mpr ⟨listed, decide_eq_true ⟨claimable, unlocked⟩⟩
  · intro other due ahead apart
    obtain ⟨-, due⟩ := List.mem_filter.mp due
    obtain ⟨due, free⟩ := of_decide_eq_true due
    exact decide_eq_true ⟨due, free, ahead, apart⟩

theorem complete_ok {job : IndexerJob} {owner : Nat} {e : IndexerEvent} (found : lookup IndexerJob.id id q.jobs = some job)
    (held : job.heldBy owner q.now) (recorded : lookup IndexerEvent.key job.key q.events = some e) (error : Option String) :
    finishIndexerJob q id owner true error = .ok (markReady { q with
      jobs := upsert IndexerJob.id (job.finished true error q.now) q.jobs
      events := upsert IndexerEvent.key { e with decoded := true } q.events } job.network, true) := by
  unfold finishIndexerJob
  rw [found, Option.filter_some, if_pos (decide_eq_true held)]
  simp only [recorded, okOr, if_true]
  rfl

theorem retry_ok {job : IndexerJob} {owner : Nat} (found : lookup IndexerJob.id id q.jobs = some job)
    (held : job.heldBy owner q.now) (error : Option String) :
    finishIndexerJob q id owner false error = .ok (markDegraded { q with
      jobs := upsert IndexerJob.id (job.finished false error q.now) q.jobs } job.network, true) := by
  unfold finishIndexerJob
  rw [found, Option.filter_some, if_pos (decide_eq_true held)]
  simp only [Bool.false_eq_true, if_false]

theorem lookup_finished {job : IndexerJob} (found : lookup IndexerJob.id id q.jobs = some job) (complete : Bool)
    (error : Option String) (id' : Nat) :
    lookup IndexerJob.id id' (upsert IndexerJob.id (job.finished complete error q.now) q.jobs) =
      if id' = id then some (job.finished complete error q.now) else lookup IndexerJob.id id' q.jobs := by
  obtain ⟨-, rfl⟩ := mem_of_lookup _ found
  exact lookup_upsert _ _ _

theorem complete_succeeds (sound : Sound q) {job : IndexerJob} {owner : Nat} (found : lookup IndexerJob.id id q.jobs = some job)
    (held : job.heldBy owner q.now) (error : Option String) :
    ∃ q' e, finishIndexerJob q id owner true error = .ok (q', true) ∧
      lookup IndexerEvent.key job.key q.events = some e ∧
      (∀ id', lookup IndexerJob.id id' q'.jobs =
        if id' = id then some (job.finished true error q.now) else lookup IndexerJob.id id' q.jobs) ∧
      ∀ key, lookup IndexerEvent.key key q'.events =
        if key = job.key then some { e with decoded := true } else lookup IndexerEvent.key key q.events := by
  obtain ⟨listed, -⟩ := mem_of_lookup _ found
  have paired := (sound.paired job.key).mpr (List.mem_map_of_mem listed)
  obtain ⟨e, recorded⟩ := mem_of_key _ paired
  refine ⟨_, e, complete_ok found held recorded error, recorded, ?jobs, ?events⟩
  case jobs =>
    intro id'
    obtain ⟨sync, ready⟩ := markReady_sync { q with
      jobs := upsert IndexerJob.id (job.finished true error q.now) q.jobs
      events := upsert IndexerEvent.key { e with decoded := true } q.events } job.network
    rw [ready]
    exact lookup_finished found true error id'
  case events =>
    intro key
    obtain ⟨sync, ready⟩ := markReady_sync { q with
      jobs := upsert IndexerJob.id (job.finished true error q.now) q.jobs
      events := upsert IndexerEvent.key { e with decoded := true } q.events } job.network
    have own : IndexerEvent.key { e with decoded := true } = job.key := (mem_of_lookup _ recorded).2
    rw [ready, ← own]
    exact lookup_upsert _ _ _

theorem retry_succeeds {job : IndexerJob} {owner : Nat} (found : lookup IndexerJob.id id q.jobs = some job)
    (held : job.heldBy owner q.now) (error : Option String) :
    ∃ q', finishIndexerJob q id owner false error = .ok (q', true) ∧ q'.events = q.events ∧
      ∀ id', lookup IndexerJob.id id' q'.jobs =
        if id' = id then some (job.finished false error q.now) else lookup IndexerJob.id id' q.jobs :=
  ⟨_, retry_ok found held error, rfl, lookup_finished found false error⟩

theorem clock_step (sound : Sound q) (stepped : step q label = .ok q') : q.now ≤ q'.now := by
  cases step_effect sound stepped with
  | delivered delivered => exact Int.le_of_eq delivered.grows.now.symm
  | batch _ grows => exact Int.le_of_eq grows.now.symm
  | claimed | refused | retried | completed => exact Int.le_refl _
  | ticked =>
      show q.now ≤ q.now + _
      omega

theorem event_new (sound : Sound q) (stepped : step q label = .ok q') {key : EventKey} {e : IndexerEvent}
    (missing : lookup IndexerEvent.key key q.events = none) (found : lookup IndexerEvent.key key q'.events = some e) :
    e.decoded = false := by
  have grown : Grows q q' → e.decoded = false := by
    intro grows
    obtain ⟨added, same, undecoded⟩ := grows.events
    rw [same] at found
    rcases List.mem_append.mp (mem_of_lookup _ found).1 with older | newer
    · have listed := List.mem_map_of_mem (f := IndexerEvent.key) older
      rw [(mem_of_lookup _ found).2] at listed
      obtain ⟨_, known⟩ := mem_of_key _ listed
      cases missing.symm.trans known
    · exact undecoded e newer
  cases step_effect sound stepped with
  | delivered delivered => exact grown delivered.grows
  | batch _ grows => exact grown grows
  | claimed | refused | retried | ticked => cases missing.symm.trans found
  | completed _ _ recorded =>
      obtain ⟨-, own⟩ := mem_of_lookup _ recorded
      rw [lookup_upsert] at found
      split at found
      case isFalse => cases missing.symm.trans found
      case isTrue same =>
        have own' : key = _ := Eq.trans same own
        rw [← own'] at recorded
        cases missing.symm.trans recorded

end steps

/-! ## Whole runs -/

def QueueLabel.delivers : QueueLabel → List EventKey
  | .enqueueIndexerEvent network delivery => [(network, delivery.signature)]
  | .enqueueIndexerEvents network deliveries => deliveries.map fun delivery => (network, delivery.signature)
  | _ => []

section runs
variable {sync : String → Option SyncState} {now : Int}

/-- Step `k` gave the job to the owner of the lease, who has it still. -/
def HoldsJob (run : Run step (emptyQueue sync now)) (id : Nat) : Nat → Nat → Lease Nat → Prop :=
  Holds run Queue.now (fun i => Grants (run.state i) (run.label i) id)
    (fun i => ∃ owner complete, Answers (run.state i) (run.label i) id owner complete)

structure NoEventLost (run : Run step (emptyQueue sync now)) : Prop where
  paired : ∀ i ≤ run.length, ((run.state i).events.map IndexerEvent.key).Nodup ∧
    ((run.state i).jobs.map IndexerJob.key).Nodup ∧
    ∀ key, key ∈ (run.state i).events.map IndexerEvent.key ↔ key ∈ (run.state i).jobs.map IndexerJob.key
  stored : ∀ i < run.length, ∀ key ∈ (run.label i).delivers, key ∈ (run.state (i + 1)).events.map IndexerEvent.key
  eventStays : ∀ i j, i ≤ j → j ≤ run.length → ∀ key e, lookup IndexerEvent.key key (run.state i).events = some e →
    ∃ e', lookup IndexerEvent.key key (run.state j).events = some e' ∧ { e' with decoded := e.decoded } = e
  jobStays : ∀ i j, i ≤ j → j ≤ run.length → ∀ id job, lookup IndexerJob.id id (run.state i).jobs = some job →
    ∃ job', lookup IndexerJob.id id (run.state j).jobs = some job' ∧ job'.key = job.key ∧
      (job.status = .complete → job' = job)
  exclusive : ∀ i ≤ run.length, ∀ id k k' lease lease', HoldsJob run id i k lease → HoldsJob run id i k' lease' →
    k = k' ∧ lease = lease'
  answered : ∀ i < run.length, ∀ id owner complete, Answers (run.state i) (run.label i) id owner complete →
    ∃ k lease, HoldsJob run id i k lease ∧ lease.owner = owner
  decoded : ∀ i < run.length, ∀ key e, lookup IndexerEvent.key key (run.state (i + 1)).events = some e → e.decoded = true →
    (∀ before, lookup IndexerEvent.key key (run.state i).events = some before → before.decoded = false) →
    ∃ id owner job job', Answers (run.state i) (run.label i) id owner true ∧
      lookup IndexerJob.id id (run.state i).jobs = some job ∧ job.status = .pending ∧ job.key = key ∧
      lookup IndexerJob.id id (run.state (i + 1)).jobs = some job' ∧ job'.status = .complete ∧ job'.key = key
  agrees : ∀ i ≤ run.length, ∀ e ∈ (run.state i).events, ∀ job ∈ (run.state i).jobs, e.key = job.key →
    (e.decoded = true ↔ job.status = .complete)
  claimed : ∀ i < run.length, ∀ id lease, Grants (run.state i) (run.label i) id lease →
    ∃ job, lookup IndexerJob.id id (run.state i).jobs = some job ∧ job.status = .pending
  due : ∀ i ≤ run.length, ∀ job ∈ (run.state i).jobs, job.nextAttemptAt ≤ (run.state i).now + 3600 ∧
    ∀ lease ∈ job.lease, lease.expiresAt ≤ (run.state i).now + 300
  claimable : ∀ i ≤ run.length, ∀ job ∈ (run.state i).jobs, job.status = .pending →
    job.nextAttemptAt ≤ (run.state i).now → (∀ lease ∈ job.lease, lease.expiresAt ≤ (run.state i).now) →
    ∀ owner limit leaseSeconds locked, 1 ≤ limit → limit ≤ 20 → 60 ≤ leaseSeconds → leaseSeconds ≤ 300 → job.id ∉ locked →
    jobsAhead (run.state i) locked job < limit →
    ∃ q' claimed, claimIndexerJobs (run.state i) job.network owner limit leaseSeconds locked = .ok (q', claimed) ∧
      job.claimedBy owner ((run.state i).now + (leaseSeconds : Nat)) ∈ claimed
  completes : ∀ i ≤ run.length, ∀ id job owner error, lookup IndexerJob.id id (run.state i).jobs = some job →
    job.heldBy owner (run.state i).now →
    ∃ q' e, finishIndexerJob (run.state i) id owner true error = .ok (q', true) ∧
      lookup IndexerEvent.key job.key (run.state i).events = some e ∧
      (∀ id', lookup IndexerJob.id id' q'.jobs =
        if id' = id then some { job with
          status := .complete
          lease := none
          lastError := none
          nextAttemptAt := (run.state i).now + retryDelay job.attempts }
        else lookup IndexerJob.id id' (run.state i).jobs) ∧
      ∀ key, lookup IndexerEvent.key key q'.events =
        if key = job.key then some { e with decoded := true } else lookup IndexerEvent.key key (run.state i).events
  retries : ∀ i ≤ run.length, ∀ id job owner error, lookup IndexerJob.id id (run.state i).jobs = some job →
    job.heldBy owner (run.state i).now →
    ∃ q', finishIndexerJob (run.state i) id owner false error = .ok (q', true) ∧ q'.events = (run.state i).events ∧
      ∀ id', lookup IndexerJob.id id' q'.jobs =
        if id' = id then some { job with
          status := .pending
          lease := none
          lastError := error.map fun text => String.ofList (text.toList.take 240)
          nextAttemptAt := (run.state i).now + retryDelay job.attempts }
        else lookup IndexerJob.id id' (run.state i).jobs

variable (run : Run step (emptyQueue sync now))

theorem sound_run : ∀ i ≤ run.length, Sound (run.state i) :=
  run.invariant (sound_empty sync now) fun _ _ _ sound stepped => sound_step sound stepped

theorem delivers_step {q q' : Queue} {label : QueueLabel} (sound : Sound q) (stepped : step q label = .ok q')
    {key : EventKey} (delivers : key ∈ label.delivers) : key ∈ q'.events.map IndexerEvent.key := by
  cases step_effect sound stepped with
  | delivered delivered =>
      rw [List.mem_singleton.mp delivers]
      exact delivered.listed
  | batch _ _ listed =>
      obtain ⟨delivery, member, rfl⟩ := List.mem_map.mp delivers
      exact listed delivery member
  | claimed | refused | retried | completed | ticked => cases delivers

theorem leases_disciplined (id : Nat) : Discipline run Queue.now (leaseOf id)
    (fun i => Grants (run.state i) (run.label i) id)
    (fun i => ∃ owner complete, Answers (run.state i) (run.label i) id owner complete) := by
  have sound := fun i (inside : i < run.length) => sound_run run i (Nat.le_of_lt inside)
  refine ⟨rfl, ?ticks, ?granted, ?released, ?kept⟩
  case ticks =>
    intro i inside
    exact clock_step (sound i inside) (run.next i inside)
  case granted =>
    intro i inside lease grants
    exact leaseOf_granted (sound i inside) (run.next i inside) grants
  case released =>
    rintro i inside ⟨owner, complete, answers⟩
    exact leaseOf_answered (sound i inside) (run.next i inside) answers
  case kept =>
    intro i inside ungranted unanswered
    exact leaseOf_kept (sound i inside) (run.next i inside) ungranted
      fun owner complete answers => unanswered ⟨owner, complete, answers⟩

end runs

/-- Whatever is delivered, claimed and answered, in any order, by any number of workers that may stop or answer late:
every delivery keeps one event and one job, a job is held by one owner at a time and only that owner answers for it,
its event is decoded in the step that completes it, and until then it comes up for a claim again. -/
theorem no_indexed_event_is_lost (sync : String → Option SyncState) (now : Int) (run : Run step (emptyQueue sync now)) :
    NoEventLost run := by
  have sound := sound_run run
  have disciplined := leases_disciplined run
  refine ⟨?paired, ?stored, ?eventStays, ?jobStays, ?exclusive, ?answered, ?decoded, ?agrees, ?claimed, ?due, ?claimable,
    ?completes, ?retries⟩
  case paired => exact fun i inside => ⟨(sound i inside).eventKeys, (sound i inside).jobKeys, (sound i inside).paired⟩
  case stored =>
    intro i inside key delivers
    exact delivers_step (sound i (Nat.le_of_lt inside)) (run.next i inside) delivers
  case eventStays =>
    intro i j after within key e found
    refine run.invariant_from (P := fun q => ∃ e', lookup IndexerEvent.key key q.events = some e' ∧
      { e' with decoded := e.decoded } = e) ⟨e, found, rfl⟩ ?_ j within after
    rintro k inside _ ⟨e', found', same⟩
    obtain ⟨e'', found'', same', -⟩ := event_step (sound k (Nat.le_of_lt inside)) (run.next k inside) found'
    refine ⟨e'', found'', ?_⟩
    rw [← same, ← same']
  case jobStays =>
    intro i j after within id job found
    refine run.invariant_from (P := fun q => ∃ job', lookup IndexerJob.id id q.jobs = some job' ∧ job'.key = job.key ∧
      (job.status = .complete → job' = job)) ⟨job, found, rfl, fun _ => rfl⟩ ?_ j within after
    rintro k inside _ ⟨job', found', key, done⟩
    obtain ⟨job'', found'', key', done'⟩ := row_step (sound k (Nat.le_of_lt inside)) (run.next k inside) found'
    refine ⟨job'', found'', key'.trans key, fun complete => ?_⟩
    have same := done complete
    exact (done' (same ▸ complete)).trans same
  case exclusive =>
    intro i within id k k' lease lease' holds holds'
    exact (disciplined id).holder_unique within holds holds'
  case answered =>
    intro i inside id owner complete answers
    have within := Nat.le_of_lt inside
    obtain ⟨error, q', labelled, finished⟩ := answers
    obtain ⟨job, found, lease, stored, own, unexpired⟩ := (finishIndexerJob_effect finished).2.mp rfl
    have slot : leaseOf id (run.state i) = some lease := by
      rw [leaseOf, found]
      exact stored
    obtain ⟨k, holds⟩ := (disciplined id).holds_of_slot within slot unexpired
    exact ⟨k, lease, holds, own⟩
  case decoded =>
    intro i inside key e found done before
    have within := Nat.le_of_lt inside
    cases known : lookup IndexerEvent.key key (run.state i).events with
    | none =>
        have fresh := event_new (sound i within) (run.next i inside) known found
        cases fresh.symm.trans done
    | some old =>
        obtain ⟨e', found', -, same | ⟨-, id, owner, job, answers, listed, own⟩⟩ :=
          event_step (sound i within) (run.next i inside) known
        · obtain rfl : e = e' := Option.some.inj (found.symm.trans found')
          rw [same, before old known] at done
          cases done
        · obtain ⟨job₁, job', listed', pending, -, written, complete, key'⟩ :=
            complete_step (sound i within) (run.next i inside) answers
          obtain rfl : job = job₁ := Option.some.inj (listed.symm.trans listed')
          exact ⟨id, owner, job, job', answers, listed, pending, own, written, complete, key'.trans own⟩
  case agrees => exact fun i inside => (sound i inside).decoded
  case claimed =>
    rintro i inside id lease ⟨network, owner, limit, leaseSeconds, locked, -, taken, -⟩
    obtain ⟨job, found, claimable⟩ := lookup_picked (sound i (Nat.le_of_lt inside)) taken
    exact ⟨job, found, claimable.2.1⟩
  case due => exact fun i inside => (sound i inside).due
  case claimable =>
    intro i inside job listed pending due expired owner limit leaseSeconds locked least most short long unlocked room
    have picked := picked_of_claimable (sound i inside) listed ⟨rfl, pending, due, expired⟩ unlocked room
    simp only [claimIndexerJobs, bind_eq_ok, require_eq_ok, pure_eq_ok, exists_const, Prod.mk.injEq]
    exact ⟨_, _, ⟨⟨least, most, short, long⟩, rfl, rfl⟩, List.mem_map_of_mem picked⟩
  case completes =>
    intro i inside id job owner error found held
    exact complete_succeeds (sound i inside) found held error
  case retries =>
    intro i inside id job owner error found held
    exact retry_succeeds found held error

end Mancipatio.Indexer
