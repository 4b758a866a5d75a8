import DcpPlatform.Foundation.Table
import DcpPlatform.Foundation.Transition

/-!
# The job queue

The queue keeps its own retry entries beside the `jobs` table. It assigns a
job to the best provider the scheduler finds, lets it wait and fails it after
ten minutes, and applies the events providers report. Each step is given the
`Scheduler` to ask.
-/

namespace DcpPlatform.Queue

open Foundation

def maxWaitMs : Int := 10 * 60 * 1000

inductive JobStatus where
  | pending | queued | assigned | pulling | running | paused
  | completed | failed | cancelled | stopped
  | other (name : String)
  deriving DecidableEq

def JobStatus.terminal : JobStatus → Bool
  | .completed | .failed | .cancelled | .stopped => true
  | _ => false

structure Job where
  jobId : Nat
  status : JobStatus
  providerId : Option Nat
  startedAt : Option Int
  completedAt : Option Int
  notes : Option String
  updatedAt : Int

structure Requirements where
  minVramGb : Nat
  gpuType : Option String
  jobType : String
  pricingClass : String

def defaultRequirements : Requirements where
  minVramGb := 0
  gpuType := none
  jobType := "inference"
  pricingClass := "standard"

structure MatchRequest where
  minVramGb : Nat
  gpuType : Option String
  pricingClass : String
  priority : Nat

structure Provider where
  id : Nat
  name : String

/-- `findBestProvider` for the job whose turn it is. -/
abbrev Scheduler := Nat → MatchRequest → Option Provider

structure Entry where
  jobId : Nat
  enqueuedAt : Int
  attempts : Nat
  requirements : Requirements

structure State where
  jobs : Table Job Job.jobId
  retryQueue : Table Entry Entry.jobId

namespace Job

def setAssigned (providerId : Nat) (now : Int) (job : Job) : Job :=
  { job with
    providerId := some providerId
    status := .pending
    updatedAt := now }

@[simp]
theorem setAssigned_jobId (providerId : Nat) (now : Int) (job : Job) :
    (job.setAssigned providerId now).jobId = job.jobId :=
  rfl

def setQueued (now : Int) (job : Job) : Job :=
  { job with status := .queued, updatedAt := now }

@[simp]
theorem setQueued_jobId (now : Int) (job : Job) :
    (job.setQueued now).jobId = job.jobId :=
  rfl

def setExpired (now : Int) (job : Job) : Job :=
  { job with
    status := .failed
    notes := some "no provider available after 10 minutes; job timed out"
    updatedAt := now }

@[simp]
theorem setExpired_jobId (now : Int) (job : Job) :
    (job.setExpired now).jobId = job.jobId :=
  rfl

def setReported (status : JobStatus) (error : Option String) (now : Int) (job : Job) : Job :=
  { job with
    status := status
    updatedAt := now
    completedAt := if status = .completed then some now else job.completedAt
    startedAt := if status = .running then some now else job.startedAt
    notes := error.or job.notes }

@[simp]
theorem setReported_jobId (status : JobStatus) (error : Option String) (now : Int) (job : Job) :
    (job.setReported status error now).jobId = job.jobId :=
  rfl

def setByRoute (status : JobStatus) (providerId : Option Nat) (now : Int) (job : Job) : Job :=
  { job with
    status := status, providerId := providerId, updatedAt := now }

@[simp]
theorem setByRoute_jobId (status : JobStatus) (providerId : Option Nat) (now : Int) (job : Job) :
    (job.setByRoute status providerId now).jobId = job.jobId :=
  rfl

end Job

def Entry.setRetried (entry : Entry) : Entry :=
  { entry with attempts := entry.attempts + 1 }

@[simp]
theorem Entry.setRetried_jobId (entry : Entry) :
    entry.setRetried.jobId = entry.jobId :=
  rfl

namespace State

def updateJob (state : State) (jobId : Nat) (change : Job → Job)
    (keeps : ∀ row, (change row).jobId = row.jobId) : State :=
  { state with jobs := state.jobs.update jobId change keeps }

def dequeue (state : State) (jobId : Nat) : State :=
  { state with retryQueue := state.retryQueue.remove jobId }

end State

inductive AssignReason where
  | noMatchingProvider | alreadyAssigned | assigned

structure AssignResult where
  assigned : Bool
  provider : Option Provider
  reason : AssignReason

def matchRequest (requirements : Requirements) : MatchRequest where
  minVramGb := requirements.minVramGb
  gpuType := requirements.gpuType
  pricingClass := requirements.pricingClass
  priority := 2

def tryAssign (state : State) (scheduler : Scheduler) (jobId : Nat)
    (requirements : Requirements) (now : Int) : State × AssignResult :=
  match scheduler jobId (matchRequest requirements) with
  | none => (state, ⟨false, none, .noMatchingProvider⟩)
  | some provider =>
    if ((state.jobs.lookup jobId).bind Job.providerId).isSome then
      (state, ⟨true, some provider, .alreadyAssigned⟩)
    else
      (state.updateJob jobId (Job.setAssigned provider.id now)
        (Job.setAssigned_jobId provider.id now),
        ⟨true, some provider, .assigned⟩)

def enqueueJob (state : State) (scheduler : Scheduler) (jobId : Nat)
    (requirements : Requirements) (now : Int) : State × AssignResult :=
  match tryAssign state scheduler jobId requirements now with
  | (after, ⟨true, provider, reason⟩) => (after, ⟨true, provider, reason⟩)
  | (after, ⟨false, provider, reason⟩) =>
    ({ after.updateJob jobId (Job.setQueued now) (Job.setQueued_jobId now) with
      retryQueue := after.retryQueue.put
        { jobId := jobId, enqueuedAt := now, attempts := 1
          requirements := requirements } },
      ⟨false, provider, reason⟩)

def retryEntry (scheduler : Scheduler) (now : Int) (state : State) (entry : Entry) : State :=
  if maxWaitMs ≤ now - entry.enqueuedAt then
    (state.dequeue entry.jobId).updateJob entry.jobId (Job.setExpired now)
      (Job.setExpired_jobId now)
  else
    let retried := { state with
        retryQueue := state.retryQueue.update entry.jobId Entry.setRetried Entry.setRetried_jobId }
    match tryAssign retried scheduler entry.jobId entry.requirements now with
    | (after, ⟨true, _, _⟩) => after.dequeue entry.jobId
    | (after, ⟨false, _, _⟩) => after

def processRetryQueue (state : State) (scheduler : Scheduler) (now : Int) : State :=
  state.retryQueue.rows.foldl (retryEntry scheduler now) state

inductive EventName where
  | jobStarted | jobRunning | jobDone | jobCompleted | containerExit
  | jobFailed | errorReport
  | unrecognized (name : String)

def EventName.status : EventName → Option JobStatus
  | .jobStarted | .jobRunning => some .running
  | .jobDone | .jobCompleted | .containerExit => some .completed
  | .jobFailed | .errorReport => some .failed
  | .unrecognized _ => none

structure ProviderEvent where
  event : Option EventName
  jobId : Option Nat
  error : Option String

inductive EventOutcome where
  | missingEventField
  | unrecognizedEvent
  | missingJobId
  | jobNotFound
  | skippedTerminalDowngrade (status : JobStatus)
  | statusUpdated (status : JobStatus)

/-- `terminalStatuses`: the statuses an event does not lower. -/
def JobStatus.finished : JobStatus → Bool
  | .failed | .completed => true
  | _ => false

def handleProviderEvent (state : State) (data : ProviderEvent) (now : Int) : State × EventOutcome :=
  match data.event with
  | none => (state, .missingEventField)
  | some event =>
    match event.status with
    | none => (state, .unrecognizedEvent)
    | some newStatus =>
      match data.jobId with
      | none => (state, .missingJobId)
      | some jobId =>
        match state.jobs.lookup jobId with
        | none => (state, .jobNotFound)
        | some job =>
          if job.status.finished ∧ newStatus.finished = false then
            (state, .skippedTerminalDowngrade job.status)
          else
            ((state.updateJob jobId (Job.setReported newStatus data.error now)
              (Job.setReported_jobId newStatus data.error now)).dequeue jobId,
              .statusUpdated newStatus)

inductive QueueAction where
  | create (job : Job)
  | route (jobId : Nat) (status : JobStatus) (providerId : Option Nat) (now : Int)
  | enqueueJob (scheduler : Scheduler) (jobId : Nat) (requirements : Requirements) (now : Int)
  | tryAssign (scheduler : Scheduler) (jobId : Nat) (requirements : Requirements) (now : Int)
  | processRetryQueue (scheduler : Scheduler) (now : Int)
  | handleProviderEvent (data : ProviderEvent) (now : Int)

def nextQueue (state : State) : QueueAction → Option State
  | .create job =>
    if job.status.terminal = false ∧ state.jobs.lookup job.jobId = none then
      some { state with jobs := state.jobs.insertIfNew job }
    else
      none
  | .route jobId status providerId now =>
    some (state.updateJob jobId (Job.setByRoute status providerId now)
      (Job.setByRoute_jobId status providerId now))
  | .enqueueJob scheduler jobId requirements now =>
    some (enqueueJob state scheduler jobId requirements now).1
  | .tryAssign scheduler jobId requirements now =>
    some (tryAssign state scheduler jobId requirements now).1
  | .processRetryQueue scheduler now =>
    some (processRetryQueue state scheduler now)
  | .handleProviderEvent data now =>
    some (handleProviderEvent state data now).1

def QueueAction.isQueueStep : QueueAction → Bool
  | .create _ | .route _ _ _ _ => false
  | _ => true

end DcpPlatform.Queue
