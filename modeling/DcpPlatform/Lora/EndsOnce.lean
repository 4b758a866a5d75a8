import DcpPlatform.Lora.Worker

/-!
# A training job ends once

Neither the start nor the end of a job's training looks at the status that the
job has by then, and one `catch` covers the training and the registration, so
a job that has succeeded becomes failed when its adapter is refused.
`Undisturbed` excludes this.
-/

namespace DcpPlatform.Lora

open Foundation Table List Option
open Batches (Failure requireSha256)

def TrainingJob.HasProof (job : TrainingJob) : Prop :=
  job.artifactStorageKey.isSome = true ∧ job.artifactChecksum.isSome = true
deriving Decidable

def KeepsEnd (earlier later : LogEntry) : Prop :=
  ∀ status, earlier.event = .status status → status.isTerminal = true →
    later.trainingJobId = earlier.trainingJobId → later.event = .status status

structure Since (earlier later : System) : Prop where
  absorbing : ∀ trainingJobId job, earlier.store.jobs.lookup trainingJobId = some job →
    job.status.isTerminal = true →
    ∃ still, later.store.jobs.lookup trainingJobId = some still ∧ still.status = job.status
  neverExecuted : ∀ trainingJobId job, earlier.store.jobs.lookup trainingJobId = some job →
    job.status = .cancelled → trainingJobId ∉ earlier.executed → trainingJobId ∉ later.executed

structure EndsOnce (earlier later : System) : Prop extends Since earlier later where
  executedOnce : later.executed.Nodup
  logged : later.store.logs.Pairwise KeepsEnd
  proven : ∀ trainingJobId job,
    later.store.jobs.lookup trainingJobId = some job → job.status = .succeeded → job.HasProof

/-- A job may get a status: it has not ended, or it has ended so; it has not
been handed out, or does not become `created`; and it has the proof when it
becomes `succeeded`. -/
structure MayWrite (system : System) (job : TrainingJob)
    (status : JobStatus) (fields : StatusFields) : Prop where
  live : job.status.isTerminal = true → status = job.status
  begun : status = .created → job.trainingJobId ∉ system.executed
  proven : status = .succeeded →
    (fields.artifactStorageKey.or job.artifactStorageKey).isSome = true ∧
      (fields.artifactChecksum.or job.artifactChecksum).isSome = true

instance (system : System) (job : TrainingJob) (status : JobStatus)
    (fields : StatusFields) : Decidable (MayWrite system job status fields) :=
  decidable_of_iff ((job.status.isTerminal = true → status = job.status) ∧
    (status = .created → job.trainingJobId ∉ system.executed) ∧ (status = .succeeded →
      (fields.artifactStorageKey.or job.artifactStorageKey).isSome = true ∧
        (fields.artifactChecksum.or job.artifactChecksum).isSome = true))
    ⟨fun ⟨live, begun, proven⟩ => ⟨live, begun, proven⟩,
      fun may => ⟨may.live, may.begun, may.proven⟩⟩

def MayRegister (store : Store) (job : TrainingJob)
    (fields : StatusFields) (refusal : Option Failure) : Prop :=
  match store.adapters.lookup job.outputAdapterId with
  | none => refusal = none
  | some adapter =>
    adapter.renterId = job.renterId ∧ ∃ storageKey ∈ fields.artifactStorageKey,
      ∃ checksum ∈ fields.artifactChecksum, adapter.matchesJob job.baseModel storageKey checksum

instance (store : Store) (job : TrainingJob) (fields : StatusFields) (refusal : Option Failure) :
    Decidable (MayRegister store job fields refusal) := by
  unfold MayRegister
  split <;> infer_instance

def Registers (store : Store) (worker : Worker) (job : TrainingJob)
    (refusal : Option Failure) : Answer → Prop
  | .thrown _ => True
  | .returned execution =>
    worker.autoRegisterAdapter = true ∨ execution.registerAdapter = true →
      ∀ fields ∈ (proofOf worker.awaited execution).toOption, MayRegister store job fields refusal

instance (store : Store) (worker : Worker) (job : TrainingJob) (refusal : Option Failure) :
    DecidablePred (Registers store worker job refusal) := by
  intro answer
  unfold Registers
  split <;> infer_instance

def Undisturbed (system : System) : Action → Prop
  | .answer index answer refusal _ =>
    ∀ worker ∈ system.workers[index]?,
      (∀ job ∈ system.store.getLoraTrainingJob worker.awaited.renterId worker.awaited.trainingJobId,
        job.status.isTerminal = false ∧ Registers system.store worker job refusal answer) ∧
        ∀ listed ∈ worker.remaining.head?,
          ∃ job ∈ system.store.getLoraTrainingJob listed.renterId listed.trainingJobId,
            job.status = .created
  | .update renterId trainingJobId status options _ =>
    ∀ job ∈ system.store.getLoraTrainingJob renterId trainingJobId,
      ∀ fields ∈ options.normalize.toOption, MayWrite system job status fields
  | _ => True

instance (system : System) : DecidablePred (Undisturbed system) := by
  intro action
  unfold Undisturbed
  split <;> infer_instance

section Store

variable {store : Store} {renterId now : Nat} {trainingJobId : String}
variable {job : TrainingJob} {status : JobStatus} {fields : StatusFields}

theorem getLoraTrainingJob_eq_some
    (found : store.getLoraTrainingJob renterId trainingJobId = some job) :
    store.jobs.lookup trainingJobId = some job ∧ job.renterId = renterId := by
  obtain ⟨stored, owned⟩ := filter_eq_some_iff.mp found
  exact ⟨stored, of_decide_eq_true owned⟩

theorem getLoraTrainingJob_of_lookup (stored : store.jobs.lookup trainingJobId = some job) :
    store.getLoraTrainingJob job.renterId trainingJobId = some job :=
  filter_eq_some_iff.mpr ⟨stored, decide_eq_true rfl⟩

theorem setStatus_absent (missing : store.getLoraTrainingJob renterId trainingJobId = none) :
    store.setStatus renterId trainingJobId status fields now = store := by
  rw [Store.setStatus, missing]
  rfl

variable (found : store.getLoraTrainingJob renterId trainingJobId = some job)

include found

theorem setStatus_present :
    store.setStatus renterId trainingJobId status fields now = { store with
      jobs := store.jobs.update trainingJobId (TrainingJob.setStatus status fields now)
        (TrainingJob.setStatus_trainingJobId status fields now)
      logs := store.logs ++ [⟨trainingJobId, .status status⟩] } := by
  rw [Store.setStatus, found]
  rfl

theorem lookup_setStatus (other : String) :
    (store.setStatus renterId trainingJobId status fields now).jobs.lookup other =
      if other = trainingJobId then
        some (job.setStatus status fields now)
      else
        store.jobs.lookup other := by
  obtain ⟨stored, _⟩ := getLoraTrainingJob_eq_some found
  rw [setStatus_present found]
  by_cases here : other = trainingJobId
  · rw [if_pos here, here]
    exact lookup_update_of_some store.jobs _
      (TrainingJob.setStatus_trainingJobId status fields now) stored
  · rw [if_neg here]
    exact lookup_update_of_ne store.jobs
      (TrainingJob.setStatus_trainingJobId status fields now) here

theorem getLoraTrainingJob_written :
    (store.setStatus renterId trainingJobId status fields
      now).getLoraTrainingJob renterId trainingJobId =
      some (job.setStatus status fields now) := by
  refine filter_eq_some_iff.mpr ⟨?_, ?_⟩
  · rw [lookup_setStatus found, if_pos rfl]
  · exact decide_eq_true (getLoraTrainingJob_eq_some found).2

omit found

theorem getLoraTrainingJob_setStatus {otherRenter : Nat} {other : String} {row : TrainingJob}
    (stays : store.getLoraTrainingJob otherRenter other = some row) :
    ∃ later, (store.setStatus renterId trainingJobId status fields
      now).getLoraTrainingJob otherRenter other = some later := by
  cases found : store.getLoraTrainingJob renterId trainingJobId with
  | none =>
    rw [setStatus_absent found]
    exact ⟨row, stays⟩
  | some job =>
    obtain ⟨stored, owned⟩ := getLoraTrainingJob_eq_some stays
    by_cases here : other = trainingJobId
    · have same : row = job := by
        have both := (getLoraTrainingJob_eq_some found).1
        rw [← here, stored] at both
        exact some.inj both
      refine ⟨job.setStatus status fields now, filter_eq_some_iff.mpr ⟨?_, ?_⟩⟩
      · rw [lookup_setStatus found, if_pos here]
      · rw [← same]
        exact decide_eq_true owned
    · refine ⟨row, filter_eq_some_iff.mpr ⟨?_, decide_eq_true owned⟩⟩
      rw [lookup_setStatus found, if_neg here]
      exact stored

end Store

structure Orderly (system : System) : Prop where
  once : system.executed.Nodup
  executed : ∀ trainingJobId ∈ system.executed, ∃ job,
    system.store.jobs.lookup trainingJobId = some job ∧ job.status ≠ .created
  awaited : ∀ worker ∈ system.workers, worker.awaited.trainingJobId ∈ system.executed ∧ ∃ job,
    system.store.getLoraTrainingJob worker.awaited.renterId worker.awaited.trainingJobId = some job
  logged : system.store.logs.Pairwise KeepsEnd
  recorded : ∀ entry ∈ system.store.logs, ∃ job,
    system.store.jobs.lookup entry.trainingJobId = some job ∧
      ∀ status, entry.event = .status status → status.isTerminal = true → job.status = status
  proven : ∀ trainingJobId job,
    system.store.jobs.lookup trainingJobId = some job → job.status = .succeeded → job.HasProof

theorem Since.refl (system : System) : Since system system where
  absorbing := fun _ job stored _ => ⟨job, stored, rfl⟩
  neverExecuted := fun _ _ _ _ unexecuted => unexecuted

theorem Since.trans {first second third : System}
    (earlier : Since first second) (later : Since second third) :
    Since first third where
  absorbing := by
    intro trainingJobId job stored ended
    obtain ⟨middle, middleStored, status⟩ := earlier.absorbing trainingJobId job stored ended
    rw [← status] at ended ⊢
    exact later.absorbing trainingJobId middle middleStored ended
  neverExecuted := by
    intro trainingJobId job stored cancelled unexecuted
    obtain ⟨middle, middleStored, status⟩ :=
      earlier.absorbing trainingJobId job stored (by rw [cancelled]; rfl)
    exact later.neverExecuted trainingJobId middle middleStored (status.trans cancelled)
      (earlier.neverExecuted trainingJobId job stored cancelled unexecuted)

section Written

variable {system : System} {renterId now : Nat} {trainingJobId : String}
variable {job : TrainingJob} {status : JobStatus} {fields : StatusFields}

theorem Orderly.written (orderly : Orderly system)
    (found : system.store.getLoraTrainingJob renterId trainingJobId = some job)
    (may : MayWrite system job status fields) :
    Orderly { system with
      store := system.store.setStatus renterId trainingJobId status fields now } ∧
      Since system { system with
        store := system.store.setStatus renterId trainingJobId status fields now } := by
  obtain ⟨stored, _⟩ := getLoraTrainingJob_eq_some found
  have own : job.trainingJobId = trainingJobId := lookup_key stored
  have lookup := @lookup_setStatus system.store renterId now trainingJobId job status fields found
  have sameJob {other : TrainingJob}
      (otherStored : system.store.jobs.lookup trainingJobId = some other) :
      other = job := by
    rw [stored] at otherStored
    exact (some.inj otherStored).symm
  constructor
  · refine
      { once := orderly.once
        executed := ?_
        awaited := ?_
        logged := ?_
        recorded := ?_
        proven := ?_ }
    · intro other member
      obtain ⟨row, rowStored, begun⟩ := orderly.executed other member
      by_cases here : other = trainingJobId
      · refine ⟨job.setStatus status fields now, ?_, ?_⟩
        · rw [lookup, if_pos here]
        · intro created
          apply may.begun created
          rw [own, ← here]
          exact member
      · refine ⟨row, ?_, begun⟩
        rw [lookup, if_neg here]
        exact rowStored
    · intro worker member
      obtain ⟨handed, row, stays⟩ := orderly.awaited worker member
      exact ⟨handed, getLoraTrainingJob_setStatus stays⟩
    · rw [setStatus_present found]
      refine pairwise_append.mpr ⟨orderly.logged, pairwise_singleton _ _, ?_⟩
      intro entry member last isLast ended event terminal same
      rw [mem_singleton.mp isLast] at same ⊢
      obtain ⟨row, rowStored, rowStatus⟩ := orderly.recorded entry member
      rw [← show trainingJobId = entry.trainingJobId from same] at rowStored
      have current := rowStatus ended event terminal
      rw [sameJob rowStored] at current
      rw [← current] at terminal ⊢
      rw [may.live terminal]
    · intro entry member
      rw [setStatus_present found] at member
      rcases mem_append.mp member with old | isLast
      · obtain ⟨row, rowStored, rowStatus⟩ := orderly.recorded entry old
        by_cases here : entry.trainingJobId = trainingJobId
        · refine ⟨job.setStatus status fields now, ?_, ?_⟩
          · rw [lookup, if_pos here]
          · intro ended event terminal
            have current := rowStatus ended event terminal
            rw [here] at rowStored
            rw [sameJob rowStored] at current
            rw [← current] at terminal ⊢
            exact may.live terminal
        · refine ⟨row, ?_, rowStatus⟩
          rw [lookup, if_neg here]
          exact rowStored
      · rw [mem_singleton.mp isLast]
        refine ⟨job.setStatus status fields now, ?_, ?_⟩
        · rw [lookup, if_pos rfl]
        · intro ended event _
          injection event with same
    · intro other row rowStored succeeded
      rw [lookup] at rowStored
      by_cases here : other = trainingJobId
      · rw [if_pos here] at rowStored
        cases rowStored
        exact may.proven succeeded
      · rw [if_neg here] at rowStored
        exact orderly.proven other row rowStored succeeded
  · refine
      { absorbing := ?_
        neverExecuted := fun _ _ _ _ unexecuted => unexecuted }
    intro other row rowStored ended
    by_cases here : other = trainingJobId
    · refine ⟨job.setStatus status fields now, ?_, ?_⟩
      · rw [lookup, if_pos here]
      · rw [here] at rowStored
        rw [sameJob rowStored] at ended ⊢
        exact may.live ended
    · refine ⟨row, ?_, rfl⟩
      rw [lookup, if_neg here]
      exact rowStored

end Written

theorem Orderly.of_same {system : System} {store : Store}
    (orderly : Orderly system) (jobs : store.jobs = system.store.jobs)
    (logs : store.logs = system.store.logs) :
    Orderly { system with store := store } ∧ Since system { system with store := store } := by
  obtain ⟨once, executed, awaited, logged, recorded, proven⟩ := orderly
  obtain ⟨before, workers, handed⟩ := system
  obtain ⟨jobsBefore, logsBefore, adaptersBefore⟩ := before
  obtain ⟨jobsAfter, logsAfter, adaptersAfter⟩ := store
  have sameJobs : jobsAfter = jobsBefore := jobs
  have sameLogs : logsAfter = logsBefore := logs
  subst sameJobs sameLogs
  exact ⟨⟨once, executed, awaited, logged, recorded, proven⟩,
    { absorbing := fun _ job stored _ => ⟨job, stored, rfl⟩
      neverExecuted := fun _ _ _ _ unexecuted => unexecuted }⟩

section Register

variable {store : Store} {renterId : Nat} {trainingJobId : String} {refusal : Option Failure}

theorem registerAdapter_keeps (job : TrainingJob) (storageKey : StorageKey) (checksum : Checksum) :
    Tx.Keeps (fun store : Store => (store.jobs, store.logs))
      (registerAdapter job storageKey checksum refusal) := by
  intro store
  unfold registerAdapter
  split
  · split
    · rfl
    · split
      · rfl
      · rfl
  · split
    · rfl
    · rfl

theorem registerLoraTrainingJobAdapter_keeps :
    Tx.Keeps (fun store : Store => (store.jobs, store.logs))
      (registerLoraTrainingJobAdapter renterId trainingJobId refusal) := by
  refine (Tx.Keeps.read _).bind (fun found => ?_)
  cases found with
  | none => exact Tx.Keeps.fail _
  | some job =>
    simp only
    split
    · exact Tx.Keeps.fail _
    · split
      · exact registerAdapter_keeps job _ _
      · exact Tx.Keeps.fail _

theorem registerLoraTrainingJobAdapter_ok {job : TrainingJob}
    {fields : StatusFields} {storageKey : StorageKey} {checksum : Checksum}
    (found : store.getLoraTrainingJob renterId trainingJobId = some job)
    (succeeded : job.status = .succeeded)
    (key : job.artifactStorageKey = some storageKey)
    (sum : job.artifactChecksum = some checksum)
    (givenKey : fields.artifactStorageKey = some storageKey)
    (givenSum : fields.artifactChecksum = some checksum)
    (may : MayRegister store job fields refusal) :
    ∃ adapters, registerLoraTrainingJobAdapter renterId trainingJobId refusal store =
      (.ok PUnit.unit, { store with adapters := adapters }) := by
  rw [registerLoraTrainingJobAdapter, Tx.read_bind, found]
  simp only [succeeded, ne_eq, not_true_eq_false, if_false, key, sum]
  unfold MayRegister at may
  unfold registerAdapter
  cases known : store.adapters.lookup job.outputAdapterId with
  | none =>
    rw [known] at may
    rw [may]
    exact ⟨_, rfl⟩
  | some adapter =>
    rw [known] at may
    obtain ⟨owned, _, sameKey, _, sameSum, equal⟩ := may
    rw [mem_def, givenKey] at sameKey
    rw [mem_def, givenSum] at sameSum
    injection sameKey with sameKey
    injection sameSum with sameSum
    rw [← sameKey, ← sameSum] at equal
    refine ⟨store.adapters, ?_⟩
    simp only [owned, ne_eq, not_true_eq_false, if_false, if_pos equal]

end Register

section Finish

variable {store : Store} {renterId now : Nat} {trainingJobId : String}
variable {status : JobStatus} {options : UpdateOptions}

variable {fields : StatusFields}

theorem updateLoraTrainingJobStatus_ok (normal : options.normalize = .ok fields) :
    updateLoraTrainingJobStatus renterId trainingJobId status options now store =
      (.ok ((store.setStatus renterId trainingJobId status fields
        now).getLoraTrainingJob renterId trainingJobId),
        store.setStatus renterId trainingJobId status fields now) := by
  rw [updateLoraTrainingJobStatus, normal]
  rfl

theorem updateLoraTrainingJobStatus_error {failure : Failure}
    (refused : options.normalize = .error failure) :
    updateLoraTrainingJobStatus renterId trainingJobId status options now store =
      (.error failure, store) := by
  rw [updateLoraTrainingJobStatus, refused]
  rfl

theorem failTraining_cases (job : TrainingJob) (message : String) (now : Nat) (store : Store) :
    (failTraining job message now store).2 = store ∨ ∃ fields,
      (failTraining job message now store).2 =
        store.setStatus job.renterId job.trainingJobId .failed fields
          now := by
  unfold failTraining
  cases normal : (failedOptions message).normalize with
  | error failure =>
    rw [Tx.bind_of_error (updateLoraTrainingJobStatus_error normal)]
    exact Or.inl rfl
  | ok fields =>
    rw [Tx.bind_of_ok (updateLoraTrainingJobStatus_ok normal)]
    refine Or.inr ⟨fields, ?_⟩
    cases (store.setStatus job.renterId job.trainingJobId .failed fields
        now).getLoraTrainingJob job.renterId job.trainingJobId with
    | none => rfl
    | some later => rfl

variable {Value : Type}

theorem isSome_of_optionalText {value : Batches.Text}
    {check : Batches.Text → Except Failure Value} {stored : Option Value}
    (given : value ≠ .missing)
    (accepted : Batches.optionalText value check = .ok stored) :
    stored.isSome = true := by
  unfold Batches.optionalText at accepted
  split at accepted
  · exact absurd rfl given
  · cases outcome : check value with
    | error failure =>
      rw [outcome] at accepted
      cases accepted
    | ok checked =>
      rw [outcome] at accepted
      cases accepted
      rfl

theorem keyOr_ne_missing (given : Batches.Text) (built : String) :
    keyOr given built ≠ .missing := by
  unfold keyOr
  cases given with
  | missing => exact Batches.Text.noConfusion
  | text value | other truthy printed =>
    split
    · exact Batches.Text.noConfusion
    · exact Batches.Text.noConfusion

variable {job : TrainingJob}

theorem proofOf_proven {execution : Execution} (proof : proofOf job execution = .ok fields) :
    fields.artifactStorageKey.isSome = true ∧ fields.artifactChecksum.isSome = true := by
  obtain ⟨checksum, _, normal⟩ := bind_eq_ok_iff.mp proof
  obtain ⟨key, keyStored, normal⟩ := bind_eq_ok_iff.mp normal
  obtain ⟨sum, sumStored, normal⟩ := bind_eq_ok_iff.mp normal
  obtain ⟨card, _, normal⟩ := bind_eq_ok_iff.mp normal
  obtain ⟨reason, _, ⟨⟩⟩ := bind_eq_ok_iff.mp normal
  exact ⟨isSome_of_optionalText (keyOr_ne_missing _ _) keyStored,
    isSome_of_optionalText Batches.Text.noConfusion sumStored⟩

theorem checked_ok (value : Value) (store : Store) :
    (checked (.ok value) : Writing Value) store = (.ok value, store) :=
  rfl

variable {refusal : Option Failure}

theorem registers_written (found : store.getLoraTrainingJob renterId trainingJobId = some job)
    (key : fields.artifactStorageKey.isSome = true)
    (complete : fields.artifactChecksum.isSome = true)
    (may : MayRegister store job fields refusal) :
    ∃ adapters, registerLoraTrainingJobAdapter renterId trainingJobId refusal
      (store.setStatus renterId trainingJobId .succeeded fields now) =
        (.ok PUnit.unit, { store.setStatus renterId trainingJobId .succeeded fields now with
          adapters := adapters }) := by
  obtain ⟨storageKey, givenKey⟩ := isSome_iff_exists.mp key
  obtain ⟨checksum, givenSum⟩ := isSome_iff_exists.mp complete
  apply registerLoraTrainingJobAdapter_ok (getLoraTrainingJob_written found) rfl
    (by rw [TrainingJob.setStatus, givenKey]; rfl)
    (by rw [TrainingJob.setStatus, givenSum]; rfl) givenKey givenSum
  rw [setStatus_present found]
  exact may

theorem finishTraining_cases {worker : Worker} {job : TrainingJob}
    {answer : Answer} {refusal : Option Failure}
    (found :
      store.getLoraTrainingJob worker.awaited.renterId worker.awaited.trainingJobId = some job)
    (registers : Registers store worker job refusal answer) :
    (finishTraining worker.autoRegisterAdapter worker.awaited answer refusal now store).2 = store ∨
      (∃ fields, (finishTraining worker.autoRegisterAdapter worker.awaited answer
        refusal now store).2 =
          store.setStatus worker.awaited.renterId worker.awaited.trainingJobId .failed fields now) ∨
        ∃ fields adapters, fields.artifactStorageKey.isSome = true ∧
          fields.artifactChecksum.isSome = true ∧
          (finishTraining worker.autoRegisterAdapter worker.awaited answer refusal now store).2 =
            { store.setStatus worker.awaited.renterId
                worker.awaited.trainingJobId .succeeded fields now with
              adapters := adapters } := by
  cases answer with
  | thrown message =>
    rcases failTraining_cases worker.awaited message now store with same | failed
    · exact Or.inl same
    · exact Or.inr (Or.inl failed)
  | returned execution =>
    cases proof : proofOf worker.awaited execution with
    | error failure =>
      have thrown : ∃ failure, completeTraining worker.autoRegisterAdapter worker.awaited
          execution refusal now store = (.error failure, store) := by
        unfold completeTraining
        unfold proofOf at proof
        cases sum : requireSha256 execution.artifactChecksum "artifact_checksum_sha256" with
        | error refused => exact ⟨refused, rfl⟩
        | ok checksum =>
          rw [sum] at proof
          have refused : (succeededOptions worker.awaited execution
              checksum).normalize = .error failure :=
            proof
          refine ⟨failure, ?_⟩
          rw [Tx.bind_of_ok (checked_ok checksum store)]
          exact Tx.bind_of_error (updateLoraTrainingJobStatus_error refused)
      obtain ⟨failure, thrown⟩ := thrown
      unfold finishTraining
      simp only [thrown]
      rcases failTraining_cases worker.awaited failure.message now store with same | failed
      · exact Or.inl same
      · exact Or.inr (Or.inl failed)
    | ok fields =>
      have proved := proof
      obtain ⟨key, complete⟩ := proofOf_proven proof
      have done : ∃ adapters, completeTraining worker.autoRegisterAdapter worker.awaited
          execution refusal now store = (.ok PUnit.unit, { store.setStatus worker.awaited.renterId
                  worker.awaited.trainingJobId .succeeded fields
                  now with
                adapters := adapters }) := by
        unfold completeTraining
        unfold proofOf at proof
        cases sum : requireSha256 execution.artifactChecksum "artifact_checksum_sha256" with
        | error refused =>
          rw [sum] at proof
          cases proof
        | ok checksum =>
          rw [sum] at proof
          have normal :
              (succeededOptions worker.awaited execution checksum).normalize = .ok fields :=
            proof
          have present := @getLoraTrainingJob_written store worker.awaited.renterId now
              worker.awaited.trainingJobId job .succeeded fields
              found
          rw [Tx.bind_of_ok (checked_ok checksum store),
            Tx.bind_of_ok (updateLoraTrainingJobStatus_ok normal),
            present]
          by_cases asked : worker.autoRegisterAdapter = true ∨ execution.registerAdapter = true
          · rw [if_pos asked]
            have may := registers asked fields (by rw [proved]; rfl)
            obtain ⟨adapters, registered⟩ := registers_written found key complete may
            rw [Tx.bind_of_ok registered]
            exact ⟨adapters, rfl⟩
          · rw [if_neg asked]
            exact ⟨_, rfl⟩
      obtain ⟨adapters, done⟩ := done
      refine Or.inr (Or.inr ⟨fields, adapters, key, complete, ?_⟩)
      unfold finishTraining
      simp [done]

theorem finishTraining_others {worker : Worker} {answer : Answer} {other : String} (found :
    store.getLoraTrainingJob worker.awaited.renterId worker.awaited.trainingJobId = some job)
    (registers : Registers store worker job refusal answer)
    (different : other ≠ worker.awaited.trainingJobId) :
    (finishTraining worker.autoRegisterAdapter worker.awaited answer
      refusal now store).2.jobs.lookup other =
      store.jobs.lookup other := by
  rcases @finishTraining_cases store now worker job answer refusal found
    registers with same | ⟨fields, same⟩ | ⟨fields, _, _, _, same⟩
  · rw [same]
  · rw [same, lookup_setStatus found, if_neg different]
  · rw [same]
    exact (lookup_setStatus found other).trans (if_neg different)

end Finish

section Steps

variable {system : System} {listed job : TrainingJob}

theorem Orderly.taken (orderly : Orderly system)
    (autoRegisterAdapter : Bool) (rest : List TrainingJob) (now : Nat)
    (found : system.store.getLoraTrainingJob listed.renterId listed.trainingJobId = some job)
    (created : job.status = .created) :
    Orderly (system.takeNext autoRegisterAdapter (listed :: rest) now) ∧
      Since system (system.takeNext autoRegisterAdapter (listed :: rest) now) := by
  obtain ⟨stored, _⟩ := getLoraTrainingJob_eq_some found
  have may : MayWrite system job .running StatusFields.empty :=
    { live := by
        intro ended
        rw [created] at ended
        cases ended
      begun := JobStatus.noConfusion
      proven := JobStatus.noConfusion }
  obtain ⟨marked, since⟩ := @Orderly.written system listed.renterId now listed.trainingJobId job
      .running StatusFields.empty orderly found may
  have fresh : listed.trainingJobId ∉ system.executed := by
    intro handed
    obtain ⟨other, otherStored, begun⟩ := orderly.executed _ handed
    rw [stored] at otherStored
    cases otherStored
    exact begun created
  have running : (system.store.setStatus listed.renterId listed.trainingJobId .running
      StatusFields.empty now).jobs.lookup listed.trainingJobId =
        some (job.setStatus .running StatusFields.empty now) := by
    rw [lookup_setStatus found, if_pos rfl]
  constructor
  · refine
      { once := ?_
        executed := ?_
        awaited := ?_
        logged := marked.logged
        recorded := marked.recorded
        proven := marked.proven }
    · refine nodup_append.mpr ⟨orderly.once, nodup_singleton _, ?_⟩
      intro first member second last same
      rw [mem_singleton.mp last] at same
      rw [same] at member
      exact fresh member
    · intro other member
      rcases mem_append.mp member with old | last
      · exact marked.executed other old
      · rw [mem_singleton.mp last]
        exact ⟨_, running, JobStatus.noConfusion⟩
    · intro worker member
      rcases mem_append.mp member with old | last
      · obtain ⟨handed, stays⟩ := marked.awaited worker old
        exact ⟨mem_append_left _ handed, stays⟩
      · rw [mem_singleton.mp last]
        exact ⟨mem_append_right _ (mem_singleton.mpr rfl), _, getLoraTrainingJob_written found⟩
  · refine
      { absorbing := since.absorbing
        neverExecuted := ?_ }
    intro other row rowStored cancelled unexecuted member
    rcases mem_append.mp member with old | last
    · exact unexecuted old
    · rw [mem_singleton.mp last, stored] at rowStored
      injection rowStored with same
      rw [← same, created] at cancelled
      cases cancelled

theorem listed_created {store : Store} {limit : Nat}
    (member : listed ∈ store.listCreatedLoraTrainingJobs limit) :
    store.getLoraTrainingJob listed.renterId listed.trainingJobId = some listed ∧
      listed.status = .created := by
  have sorted := mem_of_mem_take member
  rw [mem_insertionSort] at sorted
  obtain ⟨created, stored⟩ := mem_select sorted
  exact ⟨getLoraTrainingJob_of_lookup stored, created⟩

theorem Orderly.started (orderly : Orderly system) (autoRegisterAdapter : Bool) (limit now : Nat) :
    Orderly
      (system.takeNext autoRegisterAdapter (system.store.listCreatedLoraTrainingJobs limit) now) ∧
      Since system (system.takeNext autoRegisterAdapter
        (system.store.listCreatedLoraTrainingJobs limit) now) := by
  cases pending : system.store.listCreatedLoraTrainingJobs limit with
  | nil => exact ⟨orderly, Since.refl system⟩
  | cons listed rest =>
    have member : listed ∈ system.store.listCreatedLoraTrainingJobs limit := by
      rw [pending]
      exact mem_cons_self
    obtain ⟨found, created⟩ := listed_created member
    exact orderly.taken autoRegisterAdapter rest now found created

theorem Orderly.finished (orderly : Orderly system) {worker : Worker}
    {answer : Answer} {refusal : Option Failure} (now : Nat)
    (found : system.store.getLoraTrainingJob worker.awaited.renterId
      worker.awaited.trainingJobId = some job)
    (live : job.status.isTerminal = false)
    (registers : Registers system.store worker job refusal answer) :
    Orderly { system with
      store := (finishTraining worker.autoRegisterAdapter worker.awaited answer
        refusal now system.store).2 } ∧
      Since system { system with
        store := (finishTraining worker.autoRegisterAdapter worker.awaited answer
          refusal now system.store).2 } := by
  have notEnded {status : JobStatus} :
      job.status.isTerminal = true → status = job.status := by
    intro ended
    rw [live] at ended
    cases ended
  rcases @finishTraining_cases system.store now worker job answer refusal found registers with
    same | ⟨fields, same⟩ | ⟨fields, adapters, key, complete, same⟩
  · rw [same]
    exact ⟨orderly, Since.refl system⟩
  · rw [same]
    exact orderly.written found
      { live := notEnded
        begun := JobStatus.noConfusion
        proven := JobStatus.noConfusion }
  · rw [same]
    obtain ⟨marked, since⟩ := @Orderly.written system worker.awaited.renterId now
        worker.awaited.trainingJobId job .succeeded fields orderly found
        { live := notEnded
          begun := JobStatus.noConfusion
          proven := by
            intro _
            rw [isSome_or, isSome_or, key, complete]
            exact ⟨rfl, rfl⟩ }
    obtain ⟨after, sinceMarked⟩ := @Orderly.of_same _
        { system.store.setStatus worker.awaited.renterId
            worker.awaited.trainingJobId .succeeded fields now with
          adapters := adapters } marked rfl rfl
    exact ⟨after, since.trans sinceMarked⟩

variable {trainingJobId : String}

theorem getLoraTrainingJob_of_lookup_eq {before after : Store} {renterId : Nat}
    (same : after.jobs.lookup trainingJobId = before.jobs.lookup trainingJobId) :
    after.getLoraTrainingJob renterId trainingJobId =
      before.getLoraTrainingJob renterId trainingJobId := by
  unfold Store.getLoraTrainingJob
  rw [same]

theorem Orderly.answered (orderly : Orderly system) {worker : Worker}
    {index now : Nat} {answer : Answer} {refusal : Option Failure}
    (waiting : system.workers[index]? = some worker)
    (allowed : Undisturbed system (.answer index answer refusal now)) :
    Orderly (system.answered worker index answer refusal now) ∧
      Since system (system.answered worker index answer refusal now) := by
  have present : worker ∈ system.workers := mem_of_getElem? waiting
  obtain ⟨handed, job, found⟩ := orderly.awaited worker present
  obtain ⟨finishes, goesOn⟩ := allowed worker waiting
  obtain ⟨live, registers⟩ := finishes job found
  obtain ⟨finished, since⟩ := orderly.finished now found live registers
  have left : Orderly
      { store := (finishTraining worker.autoRegisterAdapter worker.awaited
            answer refusal now system.store).2
        workers := system.workers.eraseIdx index
        executed := system.executed } :=
    { finished with
      awaited := fun other member =>
        finished.awaited other (mem_of_mem_eraseIdx member) }
  have sinceLeft : Since system
      { store := (finishTraining worker.autoRegisterAdapter worker.awaited
            answer refusal now system.store).2
        workers := system.workers.eraseIdx index
        executed := system.executed } :=
    { absorbing := since.absorbing
      neverExecuted := since.neverExecuted }
  unfold System.answered
  cases outcome : (finishTraining worker.autoRegisterAdapter worker.awaited answer
      refusal now system.store).1 with
  | error _ =>
    simp only [outcome]
    exact ⟨left, sinceLeft⟩
  | ok _ =>
    simp only [outcome]
    cases pending : worker.remaining with
    | nil => exact ⟨left, sinceLeft⟩
    | cons listed rest =>
      rw [pending] at goesOn
      obtain ⟨next, nextFound, created⟩ := goesOn listed rfl
      obtain ⟨nextStored, _⟩ := getLoraTrainingJob_eq_some nextFound
      -- The next job is created, so it is not the one just finished.
      have still : (finishTraining worker.autoRegisterAdapter worker.awaited answer refusal now
          system.store).2.getLoraTrainingJob listed.renterId listed.trainingJobId = some next := by
        refine (getLoraTrainingJob_of_lookup_eq
          (finishTraining_others found registers ?_)).trans nextFound
        intro same
        obtain ⟨other, otherStored, begun⟩ := orderly.executed _ handed
        rw [← same, nextStored] at otherStored
        cases otherStored
        exact begun created
      obtain ⟨after, sinceTaken⟩ := left.taken worker.autoRegisterAdapter rest now still created
      exact ⟨after, sinceLeft.trans sinceTaken⟩

theorem Orderly.updated (orderly : Orderly system) {renterId now : Nat}
    {status : JobStatus} {options : UpdateOptions}
    (allowed : Undisturbed system (.update renterId trainingJobId status options now)) :
    Orderly { system with
      store :=
        (updateLoraTrainingJobStatus renterId trainingJobId status options now system.store).2 } ∧
      Since system { system with
        store := (updateLoraTrainingJobStatus renterId trainingJobId status
          options now system.store).2 } := by
  cases normal : options.normalize with
  | error failure =>
    rw [updateLoraTrainingJobStatus_error normal]
    exact ⟨orderly, Since.refl system⟩
  | ok fields =>
    rw [updateLoraTrainingJobStatus_ok normal]
    cases found : system.store.getLoraTrainingJob renterId trainingJobId with
    | none =>
      rw [setStatus_absent found]
      exact ⟨orderly, Since.refl system⟩
    | some job =>
      have may := allowed job found fields (by rw [normal]; rfl)
      exact orderly.written found may

theorem Orderly.created (orderly : Orderly system) (job : TrainingJob) :
    Orderly { system with
      store := system.store.createLoraTrainingJob job } ∧
      Since system { system with
        store := system.store.createLoraTrainingJob job } := by
  unfold Store.createLoraTrainingJob
  by_cases fresh : system.store.jobs.lookup job.trainingJobId = none
  · rw [if_pos fresh]
    have absent : system.store.jobs.lookup job.asCreated.trainingJobId = none := fresh
    have insertion := insertIfNew_of_fresh absent
    have stays {trainingJobId : String} {row : TrainingJob}
        (stored : system.store.jobs.lookup trainingJobId = some row) :
        (system.store.jobs.insertIfNew job.asCreated).lookup trainingJobId = some row := by
      rw [insertion]
      exact lookup_insert_of_some system.store.jobs absent stored
    have others {other : String} (different : other ≠ job.trainingJobId) :
        (system.store.jobs.insertIfNew job.asCreated).lookup other =
          system.store.jobs.lookup other := by
      rw [insertion]
      exact lookup_insert_of_ne system.store.jobs absent (different ·.symm)
    have inserted : (system.store.jobs.insertIfNew job.asCreated).lookup
        job.trainingJobId = some job.asCreated := by
      rw [insertion]
      exact lookup_insert_self system.store.jobs job.asCreated absent
    constructor
    · refine
        { once := orderly.once
          executed := ?_
          awaited := ?_
          logged := ?_
          recorded := ?_
          proven := ?_ }
      · intro other member
        obtain ⟨row, stored, begun⟩ := orderly.executed other member
        exact ⟨row, stays stored, begun⟩
      · intro worker member
        obtain ⟨handed, row, found⟩ := orderly.awaited worker member
        obtain ⟨stored, owned⟩ := getLoraTrainingJob_eq_some found
        exact ⟨handed, row, filter_eq_some_iff.mpr ⟨stays stored, decide_eq_true owned⟩⟩
      · refine pairwise_append.mpr ⟨orderly.logged, pairwise_singleton _ _, ?_⟩
        intro entry member last isLast ended _ _ same
        obtain ⟨row, stored, _⟩ := orderly.recorded entry member
        rw [mem_singleton.mp isLast] at same
        rw [← show job.trainingJobId = entry.trainingJobId from same, fresh] at stored
        cases stored
      · intro entry member
        rcases mem_append.mp member with old | last
        · obtain ⟨row, stored, status⟩ := orderly.recorded entry old
          exact ⟨row, stays stored, status⟩
        · rw [mem_singleton.mp last]
          exact ⟨job.asCreated, inserted, fun _ event _ => nomatch event⟩
      · intro other row stored succeeded
        by_cases here : other = job.trainingJobId
        · rw [here] at stored
          have same := inserted.symm.trans stored
          cases same
          cases succeeded
        · exact orderly.proven other row ((others here).symm.trans stored) succeeded
    · exact
        { absorbing := fun _ row stored _ => ⟨row, stays stored, rfl⟩
          neverExecuted := fun _ _ _ _ unexecuted => unexecuted }
  · rw [if_neg fresh]
    exact ⟨orderly, Since.refl system⟩

theorem next_orderly {target : System} {action : Action} (orderly : Orderly system)
    (step : guarded (Fires next) Undisturbed system action target) :
    Orderly target ∧ Since system target := by
  obtain ⟨allowed, fires⟩ := step
  cases action with
  | start autoRegisterAdapter limit now =>
    cases fires
    exact orderly.started autoRegisterAdapter _ now
  | answer index answer refusal now =>
    obtain ⟨worker, waiting, rfl⟩ := map_eq_some_iff.mp fires
    exact orderly.answered waiting allowed
  | update renterId trainingJobId status options now =>
    cases fires
    exact orderly.updated allowed
  | create job =>
    cases fires
    exact orderly.created job
  | register renterId trainingJobId refusal =>
    injection fires with same
    have kept := @registerLoraTrainingJobAdapter_keeps renterId trainingJobId refusal system.store
    rw [← same]
    exact orderly.of_same (congrArg Prod.fst kept) (congrArg Prod.snd kept)
  | adapters adapters =>
    cases fires
    exact orderly.of_same rfl rfl

end Steps

structure Opening (system : System) : Prop where
  jobs : system.store.jobs = Table.empty
  logs : system.store.logs = []
  workers : system.workers = []
  executed : system.executed = []

theorem Opening.orderly {system : System} (opening : Opening system) :
    Orderly system where
  once := by
    rw [opening.executed]
    exact nodup_nil
  executed := by
    intro trainingJobId member
    rw [opening.executed] at member
    cases member
  awaited := by
    intro worker member
    rw [opening.workers] at member
    cases member
  logged := by
    rw [opening.logs]
    exact List.Pairwise.nil
  recorded := by
    intro entry member
    rw [opening.logs] at member
    cases member
  proven := by
    intro trainingJobId job stored
    rw [opening.jobs] at stored
    cases stored

/-- While the jobs that runs finish and take are as they left them, their
adapters can be registered and other callers leave ended jobs alone, every
job ends once. -/
theorem training_jobs_end_once {start middle finish : System}
    {before after : List Action} (opening : Opening start)
    (earlier : Run (guarded (Fires next) Undisturbed) start before middle)
    (later : Run (guarded (Fires next) Undisturbed) middle after finish) :
    EndsOnce middle finish := by
  have orderly : Orderly middle :=
    earlier.invariant Orderly (fun kept step => (next_orderly kept step).1) opening.orderly
  have ended : Orderly finish :=
    later.invariant Orderly (fun kept step => (next_orderly kept step).1) orderly
  have since : Since middle finish := later.relates Orderly Since Since.refl
      (fun first second => first.trans second)
      (fun kept step => (next_orderly kept step).1)
      (fun kept step => (next_orderly kept step).2) orderly
  exact
    { toSince := since
      executedOnce := ended.once
      logged := ended.logged
      proven := ended.proven }

def sampleJob (id : Nat) (trainingJobId : String) : TrainingJob :=
  { id := id
    trainingJobId := trainingJobId
    renterId := 1
    baseModel := "llama"
    outputAdapterId := "adpt_sample" ++ toString id
    status := .created
    artifactStorageKey := none
    artifactChecksum := none
    modelCardStorageKey := none
    failureReason := none
    createdAt := id
    updatedAt := id
    startedAt := none
    completedAt := none }

def firstJob : TrainingJob := sampleJob 1 "lora_job_first1"

def secondJob : TrainingJob := sampleJob 2 "lora_job_second"

def sampleSystem : System :=
  { store :=
    { jobs := Table.empty
      logs := []
      adapters := Table.empty }
    workers := []
    executed := [] }

theorem sampleSystem_opening : Opening sampleSystem :=
  ⟨rfl, rfl, rfl, rfl⟩

def sampleExecution : Execution :=
  { artifactStorageKey := .missing
    artifactChecksum := .text (String.ofList (List.replicate 64 '7'))
    modelCardStorageKey := .missing
    registerAdapter := true }

def System.statusOf (system : System) (job : TrainingJob) :
    Option (JobStatus × Bool) :=
  (system.store.jobs.lookup job.trainingJobId).map (fun row => (row.status, decide row.HasProof))

def sampleCreated : List Action :=
  [.create firstJob, .create secondJob]

theorem training_jobs_end_once_sample :
    ∃ middle finish, execute next sampleSystem (sampleCreated ++
      [.update 1 secondJob.trainingJobId .cancelled UpdateOptions.empty 10]) = some middle ∧
        execute next middle [.start false none 20, .answer 0 (.returned sampleExecution) none 30] =
          some finish ∧
          finish.statusOf firstJob = some (.succeeded, true) ∧
          finish.executed = [firstJob.trainingJobId] ∧ EndsOnce middle finish := by
  obtain ⟨middle, executed, ended⟩ : ∃ middle,
      execute (restricted next Undisturbed) sampleSystem (sampleCreated ++
        [.update 1 secondJob.trainingJobId .cancelled UpdateOptions.empty 10]) = some middle ∧
        (execute (restricted next Undisturbed) middle
          [.start false none 20, .answer 0 (.returned sampleExecution) none 30]).any
          (fun finish =>
            finish.statusOf firstJob = some (.succeeded, true) ∧
              finish.executed = [firstJob.trainingJobId]) = true :=
    exists_of_execute_any (by decide +kernel)
  obtain ⟨finish, executedLater, status, handed⟩ := exists_of_execute_any ended
  have before := run_guarded_of_execute executed
  have after := run_guarded_of_execute executedLater
  exact ⟨middle, finish, execute_of_run before.of_guarded,
    execute_of_run after.of_guarded, status, handed,
    training_jobs_end_once sampleSystem_opening before after⟩

/-- Two runs that overlap hand a job out twice, a run executes a job that has
been cancelled, and a job whose artifact has been stored as succeeded becomes
failed because its adapter is refused. -/
theorem training_job_ends_twice :
    (∃ finish, execute next sampleSystem (sampleCreated ++
      [.start false none 10, .start false none 20,
        .answer 0 (.thrown "stopped") none 30]) = some finish ∧
        ¬ finish.executed.Nodup) ∧
      (∃ finish, execute next sampleSystem (sampleCreated ++ [.start false none 10,
                .update 1 secondJob.trainingJobId .cancelled UpdateOptions.empty 20,
                .answer 0 (.thrown "stopped") none 30]) = some finish ∧
          finish.executed = [firstJob.trainingJobId, secondJob.trainingJobId] ∧
            finish.statusOf secondJob = some (.running, false)) ∧
        ∃ finish, execute next sampleSystem [.create firstJob, .start true none 10,
                .answer 0 (.returned sampleExecution) (some ⟨"Error", "database is locked"⟩) 20] =
              some finish ∧
            ¬ finish.store.logs.Pairwise KeepsEnd ∧
              finish.statusOf firstJob = some (.failed, true) := by
  refine ⟨exists_of_execute_any (by decide +kernel), exists_of_execute_any (by decide +kernel), ?_⟩
  refine exists_executed (fun finish =>
    finish.store.logs = [⟨firstJob.trainingJobId, .created⟩,
          ⟨firstJob.trainingJobId, .status .running⟩,
          ⟨firstJob.trainingJobId, .status .succeeded⟩,
          ⟨firstJob.trainingJobId, .status .failed⟩] ∧
      finish.statusOf firstJob = some (.failed, true))
    (by decide +kernel) ?_
  rintro finish _ ⟨logs, status⟩
  refine ⟨?_, status⟩
  rw [logs]
  intro kept
  have last := pairwise_cons.mp (pairwise_cons.mp (pairwise_cons.mp kept).2).2
  have same := last.1 _ (mem_singleton.mpr rfl) .succeeded rfl rfl rfl
  cases same

end DcpPlatform.Lora
