import DcpPlatform.Foundation.Calls
import DcpPlatform.Foundation.Money
import DcpPlatform.Foundation.Query
import DcpPlatform.Foundation.Serial

/-!
# The job pipeline

Submitting, watching and completing a job are chains of requests to Mission
Control and to the container manager. A request that fails throws, and nothing
is rolled back. A container can be stopped once. The audit log is best effort
and left out.
-/

namespace DcpPlatform.Pipeline

open Foundation

inductive GpuStatus where
  | available | inUse | maintenance
  deriving DecidableEq

structure ProviderGpu where
  id : Nat
  providerId : Nat
  vramGb : ℚ
  ratePerHour : ℚ
  reliability : ℚ
  status : GpuStatus

inductive JobStatus where
  | pending | matching | launching | running
  | completed | failed | overBudget | cancelled
  deriving DecidableEq

structure JobRequest where
  renterId : Nat
  dockerImage : String
  requiredVramGb : ℚ
  estimatedHours : ℚ
  maxBudgetUsd : ℚ

structure Job where
  id : Nat
  renterId : Nat
  containerId : Nat
  matchedGpu : ProviderGpu
  dockerImage : String
  estimatedCostUsd : ℚ
  maxBudgetUsd : ℚ
  ratePerHour : ℚ
  startTime : Int
  status : JobStatus
  totalCostUsd : Option ℚ
  totalMinutes : Option Int
  completedAt : Option Int

structure RenterBalance where
  renterId : Nat
  balanceUsd : ℚ

structure Payout where
  jobId : Nat
  providerId : Nat
  amountUsd : ℚ

structure Container where
  id : Nat
  jobId : Nat
  gpuId : Nat
  dockerImage : String
  isRunning : Bool

structure World where
  gpus : Table ProviderGpu ProviderGpu.id
  renters : Table RenterBalance RenterBalance.renterId
  jobs : Table Job Job.id
  payouts : List Payout
  containers : Serial Container Container.id

/-! ## Updates -/

def ProviderGpu.setStatus (status : GpuStatus) (gpu : ProviderGpu) :
    ProviderGpu :=
  { gpu with status := status }

@[simp]
theorem ProviderGpu.setStatus_id (status : GpuStatus)
    (gpu : ProviderGpu) : (gpu.setStatus status).id = gpu.id :=
  rfl

def Job.setStatus (status : JobStatus) (job : Job) : Job :=
  { job with status := status }

@[simp]
theorem Job.setStatus_id (status : JobStatus) (job : Job) :
    (job.setStatus status).id = job.id :=
  rfl

def Job.setCompleted (totalCostUsd : ℚ) (totalMinutes now : Int) (job : Job) : Job :=
  { job with
    status := .completed
    totalCostUsd := some totalCostUsd
    totalMinutes := some totalMinutes
    completedAt := some now }

@[simp]
theorem Job.setCompleted_id (totalCostUsd : ℚ) (totalMinutes now : Int) (job : Job) :
    (job.setCompleted totalCostUsd totalMinutes now).id = job.id :=
  rfl

def Container.remove (container : Container) : Container :=
  { container with isRunning := false }

@[simp]
theorem Container.remove_id (container : Container) :
    container.remove.id = container.id :=
  rfl

namespace World

variable (world : World)

def setGpu (gpuId : Nat) (status : GpuStatus) : World :=
  { world with
    gpus := world.gpus.update gpuId (ProviderGpu.setStatus status)
      (ProviderGpu.setStatus_id status) }

def patchJob (jobId : Nat) (change : Job → Job) (keeps : ∀ job, (change job).id = job.id) : World :=
  { world with jobs := world.jobs.update jobId change keeps }

def setJobStatus (jobId : Nat) (status : JobStatus) : World :=
  world.patchJob jobId (Job.setStatus status) (Job.setStatus_id status)

def IsRunning (containerId : Nat) : Prop :=
  (world.containers.lookup containerId).any Container.isRunning = true
deriving Decidable

def removeContainer (containerId : Nat) : World :=
  { world with
    containers := world.containers.update containerId Container.remove Container.remove_id }

def containerRow (jobId gpuId : Nat) (dockerImage : String) : Container :=
  { id := world.containers.last + 1
    jobId := jobId
    gpuId := gpuId
    dockerImage := dockerImage
    isRunning := true }

theorem containerRow_id (jobId gpuId : Nat) (dockerImage : String) :
    (world.containerRow jobId gpuId dockerImage).id = world.containers.last + 1 :=
  rfl

def launchJobContainer (jobId gpuId : Nat) (dockerImage : String) :
    World :=
  { world with
    containers := world.containers.append (world.containerRow jobId gpuId dockerImage)
      (world.containerRow_id jobId gpuId dockerImage) }

end World

def sortsBefore (first second : ProviderGpu) : Bool :=
  if first.reliability ≠ second.reliability then
    second.reliability < first.reliability
  else
    first.ratePerHour < second.ratePerHour

def matchGpu (gpus : List ProviderGpu) (requiredVramGb : ℚ) :
    Option ProviderGpu :=
  firstBy sortsBefore (gpus.filter (fun gpu =>
    gpu.status = .available ∧ requiredVramGb ≤ gpu.vramGb))

def costSoFar (job : Job) (now : Int) : ℚ :=
  ((now - job.startTime : ℚ) / 60000) / 60 * job.ratePerHour

def budgetRemaining (job : Job) (now : Int) : ℚ :=
  job.maxBudgetUsd - costSoFar job now

def totalMinutes (job : Job) (now : Int) : Int :=
  ⌈(now - job.startTime : ℚ) / 60000⌉

def totalCostUsd (job : Job) (minutes : Int) : ℚ :=
  mathRound ((minutes : ℚ) / 60 * job.ratePerHour * 100) / 100

inductive Pending where
  | readProviders (jobId : Nat) (request : JobRequest)
  | readBalance (jobId : Nat) (request : JobRequest) (gpu : ProviderGpu)
  | reserveGpu (jobId : Nat) (request : JobRequest) (gpu : ProviderGpu)
  | launch (jobId : Nat) (request : JobRequest) (gpu : ProviderGpu)
  | record (job : Job)
  | readStatus (jobId : Nat)
  | monitorStatus (job : Job)
  | stopOverBudget (job : Job)
  | markOverBudget (job : Job)
  | readCompletion (jobId : Nat)
  | monitorCompletion (job : Job)
  | stopCompleted (job : Job)
  | wipe (job : Job)
  | releaseGpu (job : Job) (minutes : Int)
  | markCompleted (job : Job) (minutes : Int)
  | postPayout (job : Job) (minutes : Int)
  | markFailed (job : Job)

def newJob (jobId : Nat) (request : JobRequest) (gpu : ProviderGpu)
    (containerId : Nat) (startTime : Int) : Job :=
  { id := jobId
    renterId := request.renterId
    containerId := containerId
    matchedGpu := gpu
    dockerImage := request.dockerImage
    estimatedCostUsd := request.estimatedHours * gpu.ratePerHour
    maxBudgetUsd := request.maxBudgetUsd
    ratePerHour := gpu.ratePerHour
    startTime := startTime
    status := .running
    totalCostUsd := none
    totalMinutes := none
    completedAt := none }

section Turns

variable (world : World) (now : Int) (reply : Reply)

/-- What a read returns; its error throws. -/
def answer {Row : Type} (row : Option Row) : Option Row :=
  if reply = .done then row else none

def executed (after : World) : World :=
  if reply = .failed then world else after

def submitTurn : Pending → World × Option Pending
  | .readProviders jobId request =>
    (world, (answer reply
      (matchGpu world.gpus.rows request.requiredVramGb)).map (.readBalance jobId request))
  | .readBalance jobId request gpu =>
    match answer reply (world.renters.lookup request.renterId) with
    | none => (world, none)
    | some renter =>
      if renter.balanceUsd < request.estimatedHours * gpu.ratePerHour then
        (world, none)
      else
        (world, some (.reserveGpu jobId request gpu))
  | .reserveGpu jobId request gpu =>
    (executed world reply (world.setGpu gpu.id .inUse),
      if reply = .done then some (.launch jobId request gpu) else none)
  | .launch jobId request gpu =>
    (executed world reply (world.launchJobContainer jobId gpu.id request.dockerImage),
      if reply = .done then
        some (.record (newJob jobId request gpu (world.containers.last + 1) now))
      else none)
  | .record job =>
    (executed world reply { world with jobs := world.jobs.insertIfNew job }, none)
  | _ => (world, none)

def statusTurn : Pending → World × Option Pending
  | .readStatus jobId =>
    match answer reply (world.jobs.lookup jobId) with
    | none => (world, none)
    | some job =>
      if job.status = .running then
        (world, some (.monitorStatus job))
      else
        (world, none)
  | .monitorStatus job =>
    if budgetRemaining job now ≤ 0 then
      (world, some (.stopOverBudget job))
    else
      (world, none)
  | .stopOverBudget job =>
    if world.IsRunning job.containerId then
      (executed world reply (world.removeContainer job.containerId),
        if reply = .done then some (.markOverBudget job) else none)
    else
      (world, none)
  | .markOverBudget job =>
    (executed world reply (world.setJobStatus job.id .overBudget), none)
  | _ => (world, none)

def completeTurn : Pending → World × Option Pending
  | .readCompletion jobId =>
    (world, (answer reply (world.jobs.lookup jobId)).map .monitorCompletion)
  | .monitorCompletion job => (world, some (.stopCompleted job))
  | .stopCompleted job =>
    if world.IsRunning job.containerId then
      (executed world reply (world.removeContainer job.containerId),
        some (if reply = .done then .wipe job else .markFailed job))
    else
      (world, some (.markFailed job))
  | .wipe job => (world, some (.releaseGpu job (totalMinutes job now)))
  | .releaseGpu job minutes =>
    (executed world reply (world.setGpu job.matchedGpu.id .available), some
      (if reply = .done then .markCompleted job minutes
      else .markFailed job))
  | .markCompleted job minutes =>
    (executed world reply (world.patchJob job.id
      (Job.setCompleted (totalCostUsd job minutes) minutes now)
      (Job.setCompleted_id (totalCostUsd job minutes) minutes now)),
      some (if reply = .done then .postPayout job minutes
        else .markFailed job))
  | .postPayout job minutes =>
    (executed world reply { world with
      payouts := world.payouts ++
        [⟨job.id, job.matchedGpu.providerId, totalCostUsd job minutes⟩] }, none)
  | .markFailed job =>
    (executed world reply (world.setJobStatus job.id .failed), none)
  | _ => (world, none)

end Turns

inductive Operation where
  | submit | status | complete

def Pending.operation : Pending → Operation
  | .readProviders _ _ | .readBalance _ _ _ | .reserveGpu _ _ _
  | .launch _ _ _ | .record _ => .submit
  | .readStatus _ | .monitorStatus _ | .stopOverBudget _
  | .markOverBudget _ => .status
  | .readCompletion _ | .monitorCompletion _ | .stopCompleted _
  | .wipe _ | .releaseGpu _ _ | .markCompleted _ _ | .postPayout _ _
  | .markFailed _ => .complete

def takeTurn (world : World) (now : Int) (reply : Reply)
    (pending : Pending) : World × Option Pending :=
  match pending.operation with
  | .submit => submitTurn world now reply pending
  | .status => statusTurn world now reply pending
  | .complete => completeTurn world now reply pending

structure System where
  world : World
  calls : Calls Pending

inductive Request where
  | submitJob (request : JobRequest)
  | getJobStatus (jobId : Nat)
  | completeJob (jobId : Nat)

/-- The number of the call serves as the identifier of its job. -/
def Request.first (callId : Nat) : Request → Pending
  | .submitJob request => .readProviders callId request
  | .getJobStatus jobId => .readStatus jobId
  | .completeJob jobId => .readCompletion jobId

inductive Action where
  | call (callId : Nat) (request : Request)
  | turn (callId : Nat) (reply : Reply) (now : Int)

def System.afterTurn (system : System) (callId : Nat) (turn : World × Option Pending) : System :=
  { world := turn.1
    calls := system.calls.resume callId turn.2 }

def next (system : System) : Action → Option System
  | .call callId request =>
    if system.calls.IsFresh callId then
      some { system with
        calls := system.calls.start callId (request.first callId) }
    else
      none
  | .turn callId reply now =>
    (system.calls.waitsFor callId).map (fun pending =>
      system.afterTurn callId (takeTurn system.world now reply pending))

end DcpPlatform.Pipeline
