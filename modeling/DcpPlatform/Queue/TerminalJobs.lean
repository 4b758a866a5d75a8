import DcpPlatform.Foundation.Query
import DcpPlatform.Queue.JobQueue

/-!
# The queue and jobs that have ended

The queue writes statuses without reading them first, so the next tick, a late
call or a late event of a provider reopens a job that has ended. `Allowed`
excludes these steps, and they are the only ones.
-/

namespace DcpPlatform.Queue

open Foundation Table

def KeepsTerminal (before after : State) : Prop :=
  ∀ jobId job, before.jobs.lookup jobId = some job →
    job.status.terminal = true → ∃ later, after.jobs.lookup jobId = some later ∧
      later.status = job.status ∧ later.providerId = job.providerId

def LiveEntries (state : State) : Prop :=
  ∀ jobId entry, state.retryQueue.lookup jobId = some entry →
    ∀ job, state.jobs.lookup jobId = some job → job.status.terminal = false

/-- A step after which entries are live; if it is a step of the queue, it
also keeps the jobs that have ended. -/
def RespectsTerminal (before : State) (action : QueueAction) (after : State) : Prop :=
  Fires nextQueue before action after ∧ (action.isQueueStep = true → KeepsTerminal before after) ∧
    LiveEntries after

def Enqueueable (state : State) (scheduler : Scheduler) (jobId : Nat)
    (requirements : Requirements) : Prop :=
  ∀ job ∈ state.jobs.lookup jobId, job.status.terminal = true →
    job.providerId.isSome = true ∧ (scheduler jobId (matchRequest requirements)).isSome = true

def Assignable (state : State) (scheduler : Scheduler) (jobId : Nat)
    (requirements : Requirements) : Prop :=
  ∀ job ∈ state.jobs.lookup jobId, job.status.terminal = true →
    job.providerId.isSome = true ∨ scheduler jobId (matchRequest requirements) = none

def Reportable (state : State) (data : ProviderEvent) : Prop :=
  ∀ event ∈ data.event, ∀ newStatus ∈ event.status,
    ∀ jobId ∈ data.jobId, ∀ job ∈ state.jobs.lookup jobId, job.status.terminal = true →
      job.status.finished = true ∧ (newStatus.finished = false ∨ newStatus = job.status)

def Endable (state : State) (jobId : Nat) (status : JobStatus) : Prop :=
  status.terminal = true → state.retryQueue.lookup jobId = none ∨ state.jobs.lookup jobId = none

def Allowed (state : State) : QueueAction → Prop
  | .create _ => True
  | .route jobId status _ _ => Endable state jobId status
  | .enqueueJob scheduler jobId requirements _ =>
    Enqueueable state scheduler jobId requirements
  | .tryAssign scheduler jobId requirements _ =>
    Assignable state scheduler jobId requirements
  | .processRetryQueue _ _ => True
  | .handleProviderEvent data _ => Reportable state data

instance (state : State) : DecidablePred (Allowed state) := by
  intro action
  cases action
  all_goals
    unfold Allowed
  case create => infer_instance
  case processRetryQueue => infer_instance
  case route jobId status providerId now =>
    exact inferInstanceAs (Decidable (status.terminal = true →
      state.retryQueue.lookup jobId = none ∨ state.jobs.lookup jobId = none))
  case enqueueJob scheduler jobId requirements now =>
    exact inferInstanceAs (Decidable (∀ job ∈ state.jobs.lookup jobId, job.status.terminal = true →
      job.providerId.isSome = true ∧ (scheduler jobId (matchRequest requirements)).isSome = true))
  case tryAssign scheduler jobId requirements now =>
    exact inferInstanceAs (Decidable (∀ job ∈ state.jobs.lookup jobId, job.status.terminal = true →
      job.providerId.isSome = true ∨ scheduler jobId (matchRequest requirements) = none))
  case handleProviderEvent data now =>
    exact inferInstanceAs (Decidable (∀ event ∈ data.event, ∀ newStatus ∈ event.status,
      ∀ jobId ∈ data.jobId, ∀ job ∈ state.jobs.lookup jobId, job.status.terminal = true →
        job.status.finished = true ∧ (newStatus.finished = false ∨ newStatus = job.status)))

theorem KeepsTerminal.refl (state : State) : KeepsTerminal state state :=
  fun _ job found _ => ⟨job, found, rfl, rfl⟩

theorem KeepsTerminal.trans {first second third : State} (earlier : KeepsTerminal first second)
    (later : KeepsTerminal second third) : KeepsTerminal first third := by
  intro jobId job found terminal
  obtain ⟨middle, middleFound, status, provider⟩ := earlier jobId job found terminal
  rw [← status] at terminal
  obtain ⟨last, lastFound, lastStatus, lastProvider⟩ := later jobId middle middleFound terminal
  exact ⟨last, lastFound, lastStatus.trans status, lastProvider.trans provider⟩

structure Touches (before after : State) (jobId : Nat) : Prop where
  jobs : ∀ other, other ≠ jobId → after.jobs.lookup other = before.jobs.lookup other
  entries : ∀ other, other ≠ jobId → after.retryQueue.lookup other = before.retryQueue.lookup other

namespace Touches

variable {before middle after : State} {jobId : Nat}

theorem trans (earlier : Touches before middle jobId)
    (later : Touches middle after jobId) : Touches before after jobId :=
  ⟨fun other different =>
    (later.jobs other different).trans (earlier.jobs other different),
    fun other different =>
      (later.entries other different).trans (earlier.entries other different)⟩

theorem of_updateJob (state : State) (jobId : Nat) (change : Job → Job)
    (keeps : ∀ row, (change row).jobId = row.jobId) :
    Touches state (state.updateJob jobId change keeps) jobId :=
  ⟨fun _ different => lookup_update_of_ne _ keeps different, fun _ _ => rfl⟩

theorem of_dequeue (state : State) (jobId : Nat) :
    Touches state (state.dequeue jobId) jobId := by
  refine ⟨fun _ _ => rfl, ?_⟩
  intro other different
  exact (lookup_remove state.retryQueue jobId other).trans (if_neg different)

theorem keepsTerminal (touches : Touches before after jobId)
    (live : ∀ job, before.jobs.lookup jobId = some job → job.status.terminal = false) :
    KeepsTerminal before after := by
  intro other job found terminal
  by_cases here : other = jobId
  · subst here
    rw [live job found] at terminal
    cases terminal
  · refine ⟨job, ?_, rfl, rfl⟩
    rw [touches.jobs other here]
    exact found

theorem liveEntries (touches : Touches before after jobId) (entries : LiveEntries before)
    (live : after.retryQueue.lookup jobId ≠ none →
      ∀ job, after.jobs.lookup jobId = some job → job.status.terminal = false) :
    LiveEntries after := by
  intro other entry found job jobFound
  by_cases here : other = jobId
  · subst here
    apply live
    · rw [found]
      nofun
    · exact jobFound
  · rw [touches.entries other here] at found
    rw [touches.jobs other here] at jobFound
    exact entries other entry found job jobFound

end Touches

inductive Tried (state : State) (scheduler : Scheduler) (jobId : Nat)
    (requirements : Requirements) (now : Int) :
    State × AssignResult → Prop
  | unmatched : scheduler jobId (matchRequest requirements) = none →
    Tried state scheduler jobId requirements now (state, ⟨false, none, .noMatchingProvider⟩)
  | kept {provider : Provider} {providerId : Nat} :
      scheduler jobId (matchRequest requirements) = some provider →
      (state.jobs.lookup jobId).bind Job.providerId = some providerId →
      Tried state scheduler jobId requirements now (state, ⟨true, some provider, .alreadyAssigned⟩)
  | assigned {provider : Provider} :
      scheduler jobId (matchRequest requirements) = some provider →
      (state.jobs.lookup jobId).bind Job.providerId = none →
      Tried state scheduler jobId requirements now
        (state.updateJob jobId (Job.setAssigned provider.id now)
          (Job.setAssigned_jobId provider.id now),
          ⟨true, some provider, .assigned⟩)

theorem tryAssign_tried (state : State) (scheduler : Scheduler)
    (jobId : Nat) (requirements : Requirements) (now : Int) :
    Tried state scheduler jobId requirements now
      (tryAssign state scheduler jobId requirements now) := by
  unfold tryAssign
  cases matched : scheduler jobId (matchRequest requirements) with
  | none => exact Tried.unmatched matched
  | some provider =>
    cases holder : (state.jobs.lookup jobId).bind Job.providerId with
    | none => exact Tried.assigned matched holder
    | some providerId => exact Tried.kept matched holder

variable {before after : State} {jobId : Nat} {change : Job → Job} {job : Job}

theorem KeepsTerminal.live (kept : KeepsTerminal before after)
    (changed : after.jobs.lookup jobId = (before.jobs.lookup jobId).map change)
    (moves : ∀ job, job.status.terminal = true → (change job).status ≠ job.status)
    (found : before.jobs.lookup jobId = some job) :
    job.status.terminal = false := by
  cases terminal : job.status.terminal with
  | false => rfl
  | true =>
    obtain ⟨later, laterFound, status, _⟩ := kept jobId job found terminal
    rw [changed, found] at laterFound
    cases laterFound
    exact absurd status (moves job terminal)

theorem ne_of_terminal {status other : JobStatus}
    (terminal : status.terminal = true) (live : other.terminal = false) :
    other ≠ status := by
  intro same
  rw [same, terminal] at live
  cases live

variable {state : State}

theorem live_of_updated (keeps : ∀ row, (change row).jobId = row.jobId)
    (live : ∀ job, (change job).status.terminal = false)
    (found : (state.updateJob jobId change keeps).jobs.lookup jobId = some job) :
    job.status.terminal = false := by
  rcases lookup_of_lookup_update keeps found with ⟨_, earlier, _, same⟩ | ⟨different, _⟩
  · rw [same]
    exact live earlier
  · exact absurd rfl different

theorem tryAssign_respects_iff (entries : LiveEntries state) (scheduler : Scheduler) (jobId : Nat)
    (requirements : Requirements) (now : Int) :
    (KeepsTerminal state (tryAssign state scheduler jobId requirements now).1 ∧
      LiveEntries (tryAssign state scheduler jobId requirements now).1) ↔
      Assignable state scheduler jobId requirements := by
  have tried := tryAssign_tried state scheduler jobId requirements now
  generalize tryAssign state scheduler jobId requirements now = result at tried ⊢
  cases tried with
  | unmatched unmatched =>
    exact iff_of_true ⟨KeepsTerminal.refl state, entries⟩ (fun _ _ _ => Or.inr unmatched)
  | kept matched holder =>
    refine iff_of_true ⟨KeepsTerminal.refl state, entries⟩ ?_
    intro job found _
    have present : state.jobs.lookup jobId = some job := found
    rw [present, Option.bind_some] at holder
    rw [holder]
    exact Or.inl rfl
  | @assigned provider matched holder =>
    have touches := Touches.of_updateJob state jobId (Job.setAssigned provider.id now)
        (Job.setAssigned_jobId provider.id now)
    constructor
    · intro respects job found terminal
      have live := respects.1.live
          (lookup_update_self state.jobs jobId _ (Job.setAssigned_jobId provider.id now))
          (fun _ ended => ne_of_terminal ended rfl) found
      rw [terminal] at live
      cases live
    · intro assignable
      have live (job : Job) (found : state.jobs.lookup jobId = some job) :
          job.status.terminal = false := by
        cases terminal : job.status.terminal with
        | false => rfl
        | true =>
          rw [found, Option.bind_some] at holder
          rcases assignable job found terminal with some_ | none_
          · rw [holder] at some_
            cases some_
          · rw [matched] at none_
            cases none_
      refine ⟨touches.keepsTerminal live, touches.liveEntries entries ?_⟩
      intro _ job found
      exact live_of_updated _ (fun _ => rfl) found

theorem enqueueJob_respects_iff (entries : LiveEntries state) (scheduler : Scheduler) (jobId : Nat)
    (requirements : Requirements) (now : Int) :
    (KeepsTerminal state (enqueueJob state scheduler jobId requirements now).1 ∧
      LiveEntries (enqueueJob state scheduler jobId requirements now).1) ↔
      Enqueueable state scheduler jobId requirements := by
  have immediate := tryAssign_respects_iff entries scheduler jobId requirements now
  have tried := tryAssign_tried state scheduler jobId requirements now
  unfold enqueueJob
  generalize tryAssign state scheduler jobId requirements now = result at tried immediate ⊢
  have found_provider {provider : Provider}
      (matched : scheduler jobId (matchRequest requirements) = some provider) :
      Assignable state scheduler jobId requirements ↔
        Enqueueable state scheduler jobId requirements := by
    rw [Assignable, Enqueueable, matched]
    simp
  cases tried with
  | kept matched holder | assigned matched holder =>
    exact immediate.trans (found_provider matched)
  | unmatched unmatched =>
    have queued := Touches.of_updateJob state jobId (Job.setQueued now) (Job.setQueued_jobId now)
    have touches : Touches state
        { state.updateJob jobId (Job.setQueued now) (Job.setQueued_jobId now) with
          retryQueue := state.retryQueue.put
            { jobId := jobId, enqueuedAt := now, attempts := 1
              requirements := requirements } } jobId := by
      refine ⟨queued.jobs, ?_⟩
      intro other different
      exact (lookup_put state.retryQueue _ other).trans (if_neg different)
    constructor
    · intro respects job found terminal
      have live := respects.1.live (lookup_update_self state.jobs jobId _ (Job.setQueued_jobId now))
          (fun _ ended => ne_of_terminal ended rfl) found
      rw [terminal] at live
      cases live
    · intro enqueueable
      have live (job : Job) (found : state.jobs.lookup jobId = some job) :
          job.status.terminal = false := by
        cases terminal : job.status.terminal with
        | false => rfl
        | true =>
          have some_ := (enqueueable job found terminal).2
          rw [unmatched] at some_
          cases some_
      refine ⟨touches.keepsTerminal live, touches.liveEntries entries ?_⟩
      intro _ job found
      exact live_of_updated (Job.setQueued_jobId now) (fun _ => rfl) found

variable {event : EventName} {status : JobStatus}

theorem EventName.status_cases (known : event.status = some status) :
    status = .running ∨ status = .completed ∨ status = .failed := by
  cases event with
  | unrecognized name => cases known
  | jobStarted | jobRunning =>
    injection known with same
    exact Or.inl same.symm
  | jobDone | jobCompleted | containerExit =>
    injection known with same
    exact Or.inr (Or.inl same.symm)
  | jobFailed | errorReport =>
    injection known with same
    exact Or.inr (Or.inr same.symm)

theorem KeepsTerminal.of_repeated (found : state.jobs.lookup jobId = some job)
    (repeated : status = job.status) (error : Option String) (now : Int) :
    KeepsTerminal state ((state.updateJob jobId (Job.setReported status error now)
      (Job.setReported_jobId status error now)).dequeue jobId) := by
  intro other row rowFound _
  by_cases here : other = jobId
  · subst here
    rw [found] at rowFound
    cases rowFound
    refine ⟨job.setReported status error now, ?_, repeated, rfl⟩
    exact lookup_update_of_some _ _ (Job.setReported_jobId status error now) found
  · refine ⟨row, ?_, rfl, rfl⟩
    exact (lookup_update_of_ne _ (Job.setReported_jobId status error now) here).trans rowFound

inductive Handled (state : State) (data : ProviderEvent) (now : Int) :
    State × EventOutcome → Prop
  | ignored {outcome : EventOutcome} :
      Reportable state data → Handled state data now (state, outcome)
  | addressed {event : EventName} {newStatus : JobStatus} {jobId : Nat}
      {job : Job} {result : State × EventOutcome} :
      data.event = some event → event.status = some newStatus →
      data.jobId = some jobId → state.jobs.lookup jobId = some job →
      result = (if job.status.finished ∧ newStatus.finished = false then
          (state, .skippedTerminalDowngrade job.status)
        else
          ((state.updateJob jobId (Job.setReported newStatus data.error now)
            (Job.setReported_jobId newStatus data.error now)).dequeue
            jobId, .statusUpdated newStatus)) →
      Handled state data now result

theorem handleProviderEvent_handled (state : State) (data : ProviderEvent) (now : Int) :
    Handled state data now (handleProviderEvent state data now) := by
  unfold handleProviderEvent
  cases event : data.event with
  | none =>
    apply Handled.ignored
    intro name present
    rw [event] at present
    cases present
  | some name =>
    dsimp only
    cases status : name.status with
    | none =>
      apply Handled.ignored
      intro other present newStatus known
      rw [event] at present
      cases present
      rw [status] at known
      cases known
    | some newStatus =>
      cases target : data.jobId with
      | none =>
        apply Handled.ignored
        intro _ _ _ _ jobId present
        rw [target] at present
        cases present
      | some jobId =>
        dsimp only
        cases found : state.jobs.lookup jobId with
        | none =>
          apply Handled.ignored
          intro _ _ _ _ other present job stored
          rw [target] at present
          cases present
          rw [found] at stored
          cases stored
        | some job =>
          exact Handled.addressed event status target found rfl

theorem reportable_iff {data : ProviderEvent} {newStatus : JobStatus}
    (named : data.event = some event) (known : event.status = some newStatus)
    (target : data.jobId = some jobId)
    (found : state.jobs.lookup jobId = some job) :
    Reportable state data ↔ (job.status.terminal = true →
      job.status.finished = true ∧ (newStatus.finished = false ∨ newStatus = job.status)) := by
  constructor
  · intro reportable
    exact reportable event named newStatus known jobId target job found
  · intro condition other otherNamed otherStatus otherKnown otherId otherTarget otherJob otherFound
    rw [named] at otherNamed
    cases otherNamed
    rw [known] at otherKnown
    cases otherKnown
    rw [target] at otherTarget
    cases otherTarget
    rw [found] at otherFound
    cases otherFound
    exact condition

theorem handleProviderEvent_respects_iff
    (entries : LiveEntries state) (data : ProviderEvent) (now : Int) :
    (KeepsTerminal state (handleProviderEvent state data now).1 ∧
      LiveEntries (handleProviderEvent state data now).1) ↔
      Reportable state data := by
  have handled := handleProviderEvent_handled state data now
  generalize handleProviderEvent state data now = result at handled ⊢
  cases handled with
  | ignored reportable =>
    exact iff_of_true ⟨KeepsTerminal.refl state, entries⟩ reportable
  | @addressed event newStatus jobId job _ named known target found same =>
    rw [reportable_iff named known target found, same]
    by_cases skipped : job.status.finished = true ∧ newStatus.finished = false
    · rw [if_pos skipped]
      exact iff_of_true ⟨KeepsTerminal.refl state, entries⟩ (fun _ => ⟨skipped.1, Or.inl skipped.2⟩)
    · rw [if_neg skipped]
      have updated := lookup_update_self state.jobs jobId (Job.setReported newStatus data.error now)
          (Job.setReported_jobId newStatus data.error now)
      constructor
      · intro respects terminal
        by_cases repeated : newStatus = job.status
        · refine ⟨?_, Or.inr repeated⟩
          rcases EventName.status_cases known with status | status | status
          · rw [← repeated, status] at terminal
            cases terminal
          · rw [← repeated, status]
            rfl
          · rw [← repeated, status]
            rfl
        · obtain ⟨later, laterFound, status, _⟩ := respects.1 jobId job found terminal
          rw [found] at updated
          have stored := laterFound.symm.trans updated
          cases stored
          exact absurd status repeated
      · intro condition
        have touches := (Touches.of_updateJob state jobId (Job.setReported newStatus data.error now)
            (Job.setReported_jobId newStatus data.error now)).trans (Touches.of_dequeue _ jobId)
        refine ⟨?_, touches.liveEntries entries ?_⟩
        · cases terminal : job.status.terminal with
          | false =>
            apply touches.keepsTerminal
            intro other otherFound
            rw [found] at otherFound
            cases otherFound
            exact terminal
          | true =>
            obtain ⟨finished, unchanged⟩ := condition terminal
            rcases unchanged with running | repeated
            · exact absurd ⟨finished, running⟩ skipped
            · exact KeepsTerminal.of_repeated found repeated _ now
        · intro present
          exact absurd ((lookup_remove state.retryQueue jobId jobId).trans (if_pos rfl)) present

theorem retryEntry_touches (scheduler : Scheduler) (now : Int) (state : State) (entry : Entry) :
    Touches state (retryEntry scheduler now state entry) entry.jobId ∧
      ((∀ job, state.jobs.lookup entry.jobId = some job → job.status.terminal = false) →
        (retryEntry scheduler now state entry).retryQueue.lookup entry.jobId ≠ none →
        ∀ job, (retryEntry scheduler now state entry).jobs.lookup entry.jobId = some job →
          job.status.terminal = false) := by
  unfold retryEntry
  by_cases expired : maxWaitMs ≤ now - entry.enqueuedAt
  · rw [if_pos expired]
    refine ⟨(Touches.of_dequeue state entry.jobId).trans
      (Touches.of_updateJob (state.dequeue entry.jobId) entry.jobId
        (Job.setExpired now) (Job.setExpired_jobId now)), ?_⟩
    intro _ present
    exact absurd
      ((lookup_remove state.retryQueue entry.jobId entry.jobId).trans (if_pos rfl)) present
  · rw [if_neg expired]
    dsimp only
    have retried : Touches state { state with
        retryQueue := state.retryQueue.update entry.jobId
          Entry.setRetried Entry.setRetried_jobId } entry.jobId :=
      ⟨fun _ _ => rfl, fun _ different =>
        lookup_update_of_ne _ Entry.setRetried_jobId different⟩
    have tried := tryAssign_tried { state with
        retryQueue := state.retryQueue.update entry.jobId
          Entry.setRetried Entry.setRetried_jobId } scheduler
        entry.jobId entry.requirements now
    generalize tryAssign _ scheduler entry.jobId entry.requirements now = result at tried ⊢
    cases tried with
    | unmatched _ => exact ⟨retried, fun live _ => live⟩
    | kept _ _ =>
      exact ⟨retried.trans (Touches.of_dequeue _ entry.jobId), fun live _ => live⟩
    | @assigned provider _ _ =>
      refine ⟨(retried.trans (Touches.of_updateJob _ entry.jobId (Job.setAssigned provider.id now)
        (Job.setAssigned_jobId provider.id now))).trans
        (Touches.of_dequeue _ entry.jobId), ?_⟩
      intro _ _ job jobFound
      exact live_of_updated (Job.setAssigned_jobId provider.id now) (fun _ => rfl) jobFound

theorem processRetryQueue_respects
    (entries : LiveEntries state) (scheduler : Scheduler) (now : Int) :
    KeepsTerminal state (processRetryQueue state scheduler now) ∧
      LiveEntries (processRetryQueue state scheduler now) := by
  have swept : LiveEntries state → KeepsTerminal state (processRetryQueue state scheduler now) ∧
      LiveEntries (processRetryQueue state scheduler now) := by
    let sweep : Sweep State Entry.jobId :=
      { table := State.retryQueue
        act := retryEntry scheduler now
        selected := fun _ => True
        untouched := fun {current entry other} _ _ _ present different =>
          ((retryEntry_touches scheduler now current entry).1.entries other.jobId different).trans
            present }
    refine sweep.relates (fun before after =>
        LiveEntries before → KeepsTerminal before after ∧ LiveEntries after)
      (fun current live => ⟨KeepsTerminal.refl current, live⟩) ?_ ?_
      ⟨state.retryQueue.keysNodup, fun _ member => ⟨trivial, lookup_of_mem member⟩⟩
    · intro first second third earlier later live
      have middle := earlier live
      have last := later middle.2
      exact ⟨middle.1.trans last.1, last.2⟩
    · intro current entry _ found live
      obtain ⟨touches, stays⟩ := retryEntry_touches scheduler now current entry
      have liveJob := live entry.jobId entry found
      exact ⟨touches.keepsTerminal liveJob, touches.liveEntries live (stays liveJob)⟩
  exact swept entries

theorem route_entries_iff (entries : LiveEntries state)
    (jobId : Nat) (status : JobStatus) (providerId : Option Nat) (now : Int) :
    LiveEntries (state.updateJob jobId (Job.setByRoute status providerId now)
      (Job.setByRoute_jobId status providerId now)) ↔
      Endable state jobId status := by
  have touches := Touches.of_updateJob state jobId (Job.setByRoute status providerId now)
      (Job.setByRoute_jobId status providerId now)
  constructor
  · intro live terminal
    cases queued : state.retryQueue.lookup jobId with
    | none => exact Or.inl rfl
    | some entry =>
      cases found : state.jobs.lookup jobId with
      | none => exact Or.inr rfl
      | some job =>
        have stored := lookup_update_of_some state.jobs (Job.setByRoute status providerId now)
            (Job.setByRoute_jobId status providerId now) found
        have open_ : status.terminal = false := live jobId entry queued _ stored
        rw [terminal] at open_
        cases open_
  · intro endable
    apply touches.liveEntries entries
    intro present job found
    rcases lookup_of_lookup_update (Job.setByRoute_jobId status providerId now) found with
      ⟨_, earlier, stored, same⟩ | ⟨different, _⟩
    · cases terminal : status.terminal with
      | false =>
        rw [same]
        exact terminal
      | true =>
        rcases endable terminal with absent | missing
        · exact absurd absent present
        · rw [missing] at stored
          cases stored
    · exact absurd rfl different

theorem respectsTerminal_iff {action : QueueAction} (entries : LiveEntries before) :
    RespectsTerminal before action after ↔
      guarded (Fires nextQueue) Allowed before action after := by
  rw [RespectsTerminal, guarded, @and_comm (Allowed before action)]
  apply and_congr_right
  intro fires
  cases action with
  | create job =>
    obtain ⟨created, rfl⟩ := of_ite_eq_some fires
    refine iff_of_true ⟨nofun, ?_⟩ trivial
    intro jobId entry queued row found
    rw [insertIfNew_of_fresh created.2, lookup_insert] at found
    split at found
    · cases found
      exact created.1
    · exact entries jobId entry queued row found
  | route jobId status providerId now =>
    cases fires
    rw [and_iff_right nofun]
    exact route_entries_iff entries jobId status providerId now
  | enqueueJob scheduler jobId requirements now =>
    cases fires
    apply (and_congr_left (fun _ => forall_prop_of_true rfl)).trans
    exact enqueueJob_respects_iff entries scheduler jobId requirements now
  | tryAssign scheduler jobId requirements now =>
    cases fires
    apply (and_congr_left (fun _ => forall_prop_of_true rfl)).trans
    exact tryAssign_respects_iff entries scheduler jobId requirements now
  | processRetryQueue scheduler now =>
    cases fires
    apply (and_congr_left (fun _ => forall_prop_of_true rfl)).trans
    exact iff_of_true (processRetryQueue_respects entries scheduler now) trivial
  | handleProviderEvent data now =>
    cases fires
    apply (and_congr_left (fun _ => forall_prop_of_true rfl)).trans
    exact handleProviderEvent_respects_iff entries data now

/-- From an empty retry queue, the runs that respect the jobs that have
ended are exactly the runs whose steps are all allowed. -/
theorem queue_respects_terminal_iff_allowed {start finish : State}
    (fresh : start.retryQueue = Table.empty) {actions : List QueueAction} :
    Run RespectsTerminal start actions finish ↔
      Run (guarded (Fires nextQueue) Allowed) start actions finish := by
  have initially : LiveEntries start := by
    intro jobId entry found
    rw [fresh] at found
    cases found
  apply Run.congr_of_invariant LiveEntries
  · intro source target action _ respects
    exact respects.2.2
  · intro source target action entries
    exact respectsTerminal_iff entries
  · exact initially

def sampleJob : Job where
  jobId := 1
  status := .pending
  providerId := none
  startedAt := none
  completedAt := none
  notes := none
  updatedAt := 0

def sampleStart : State :=
  ⟨Table.empty.insertIfNew sampleJob, Table.empty⟩

def nobody : Scheduler := fun _ _ => none

def somebody : Scheduler := fun _ _ => some ⟨5, "alpha"⟩

def servedJob : List QueueAction :=
  [.enqueueJob nobody 1 defaultRequirements 0, .processRetryQueue somebody 30000,
    .handleProviderEvent ⟨some .jobStarted, some 1, none⟩ 40000,
    .handleProviderEvent ⟨some .jobDone, some 1, none⟩ 50000,
    .handleProviderEvent ⟨some .containerExit, some 1, none⟩ 60000,
    .tryAssign somebody 1 defaultRequirements 70000]

theorem queue_respects_terminal_iff_allowed_sample :
    ∃ finish, Run RespectsTerminal sampleStart servedJob finish ∧
      (finish.jobs.lookup 1).map Job.status = some .completed := by
  obtain ⟨finish, executed, completed⟩ : ∃ finish,
      execute (restricted nextQueue Allowed) sampleStart servedJob = some finish ∧
        (finish.jobs.lookup 1).map Job.status = some .completed :=
    exists_of_execute_any (by decide +kernel)
  exact ⟨finish,
    (queue_respects_terminal_iff_allowed rfl).mpr (run_guarded_of_execute executed), completed⟩

/-- A job is cancelled while it waits, and the next tick assigns it; another
one is stopped and completed by a late event. -/
theorem ended_job_reopened :
    (∃ middle finish, execute nextQueue sampleStart [.enqueueJob nobody 1 defaultRequirements 0,
            .route 1 .cancelled none 1000] = some middle ∧
        (middle.jobs.lookup 1).map Job.status = some .cancelled ∧
        (middle.retryQueue.lookup 1).isSome = true ∧
        execute nextQueue middle [.processRetryQueue somebody 30000] = some finish ∧
        (finish.jobs.lookup 1).map Job.status = some .pending ∧
        (finish.jobs.lookup 1).bind Job.providerId = some 5) ∧
    ∃ middle finish, execute nextQueue sampleStart [.route 1 .stopped (some 5) 1000] = some middle ∧
      (middle.jobs.lookup 1).map Job.status = some .stopped ∧
      execute nextQueue middle
        [.handleProviderEvent ⟨some .containerExit, some 1, none⟩ 2000] = some finish ∧
      (finish.jobs.lookup 1).map Job.status = some .completed :=
  ⟨⟨_, _, rfl, by decide, by decide, rfl, by decide, by decide⟩,
    ⟨_, _, rfl, by decide, rfl, by decide⟩⟩

end DcpPlatform.Queue
