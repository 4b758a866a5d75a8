import DcpPlatform.Foundation.Outcome
import DcpPlatform.Foundation.Reservation
import DcpPlatform.Pods.Settlement

/-!
# Launching, starting and extending a pod

A launch picks a provider, reserves GPU indices on it, debits the quote and
inserts the job row; one that fails after the debit returns it. What it reads
outside these tables is an argument. The fields of a request are taken to be
well formed.
-/

namespace DcpPlatform.Pods

open Foundation

def minDurationMinutes : Int := 5

def maxDurationMinutes : Int := 48 * 60

def defaultDurationMinutes : Int := 60

def reservedCapacityThresholdMinutes : Int := maxDurationMinutes

def podMinVramMib : Nat := 8 * 1024

def tenMinutesMs : Int := 10 * 60 * 1000

def maxActivePodsPerRenter : Int := 2

/-- An integer outside its bounds counts as missing. -/
def toFiniteInt (least greatest : Int) (value : Option Int) :
    Option Int :=
  value.filter (fun number => least ≤ number ∧ number ≤ greatest)

inductive ProviderChoice where
  | pinned (providerId : Nat)
  | autoPick
  | gpuType (matching : List Nat)

def ProviderChoice.byGpuType : ProviderChoice → Bool
  | .gpuType _ => true
  | _ => false

structure LaunchRequest where
  jobId : Nat
  renterId : Nat
  choice : ProviderChoice
  gpuCount : Option Int
  durationMinutes : Option Int
  serve : Bool

structure LaunchOutlook where
  creditAllowed : Bool
  portsFree : Bool
  inserted : Bool
  spawned : Bool

inductive LaunchError where
  | renterNotFound
  | podQuotaExceeded (cap : Int)
  | exceedsMaxDuration (maxDurationHours : Int)
  | serveTpUnsupported
  | gpuTypeNotFound
  | gpuTypeOutOfStock
  | insufficientGpuCapacity (neededGpus : Nat)
  | providerNotAvailable
  | noProviderAvailable
  | serveRequiresNative
  | insufficientFreeGpus (freeGpus requestedGpus : Nat)
  | onDemandRequiresPrepaidCredit (requiredHalala : Int)
  | paymentRequired (requiredHalala balanceHalala : Int)
  | burstPortsExhausted
  | insertFailed
  | burstLaunchFailed

structure LaunchPlan where
  provider : Provider
  gpuCount : Nat
  gpuIndices : List Nat
  durationMinutes : Nat
  quoteHalala : Int

structure LaunchedPod where
  jobId : Nat
  gpuCount : Nat
  durationMinutes : Nat
  quotedCostHalala : Int

/-! ## Choosing a provider -/

def ActiveForQuota (job : Job) : Prop :=
  job.jobType.isPod ∧ job.status ∈ [JobStatus.pending, .queued, .assigned, .pulling, .running]
deriving Decidable

def OccupiesProvider (job : Job) : Prop :=
  job.jobType.isPod ∧ job.status ∈ [JobStatus.queued, .assigned, .pulling, .running]
deriving Decidable

def HoldsGpus (job : Job) : Prop :=
  job.jobType.isPod ∧
    job.status ∈ [JobStatus.queued, .pending, .assigned, .provisioning, .pulling, .running]
deriving Decidable

def effectivePodCap (renter : Renter) : Int :=
  match renter.maxActivePods with
  | some cap => if 1 ≤ cap then cap else maxActivePodsPerRenter
  | none => maxActivePodsPerRenter

def activePods (db : Database) (renterId : Nat) : Nat :=
  (db.jobs.select (fun job =>
    job.renterId = some renterId ∧ ActiveForQuota job)).length

/-- A synthetic row of external capacity that a renter may pin. -/
def BurstAvailable (provider : Provider) : Prop :=
  provider.isBurst ∧ provider.status = .online ∧ provider.isPaused = false ∧ provider.approved ∧
    provider.burstGpuTypeId.isSome
deriving Decidable

def NativeAvailable (db : Database) (now : Int) (provider : Provider) :
    Prop :=
  provider.isBurst = false ∧ provider.status = .online ∧ provider.isPaused = false ∧
    (∃ heartbeat ∈ provider.lastHeartbeat, now - tenMinutesMs ≤ heartbeat) ∧
    podMinVramMib ≤ provider.vramMib ∧ provider.docker ∧
    provider.cudaAvailable ∧ provider.gpuHealthy ∧
    ∀ job ∈ db.jobs.rows, job.providerId = some provider.id → ¬ OccupiesProvider job
deriving Decidable

def activeJobs (db : Database) (provider : Provider) : Nat :=
  (db.jobs.select (fun job =>
    job.providerId = some provider.id ∧
      job.status ∈ [JobStatus.assigned, .pulling, .running, .pending, .queued])).length

def pickedBefore (db : Database) (provider other : Provider) : Bool :=
  if activeJobs db provider = activeJobs db other then
    earlier other.lastHeartbeat provider.lastHeartbeat
  else
    decide (activeJobs db provider < activeJobs db other)

def resolvePodProvider (db : Database) (requested : Option Nat)
    (now : Int) : Except LaunchError Provider :=
  match requested with
  | some providerId =>
    orFail .providerNotAvailable ((db.providers.lookup providerId).filter (fun provider =>
      BurstAvailable provider ∨ NativeAvailable db now provider))
  | none =>
    orFail .noProviderAvailable
      (firstBy (pickedBefore db) (db.providers.select (NativeAvailable db now)))

def countedGpus (job : Job) : Nat :=
  if job.gpuCount = 0 then 1 else job.gpuCount

def freeGpus (db : Database) (provider : Provider) : Nat :=
  max 1 provider.gpuCount - ((db.jobs.select (fun job =>
    job.providerId = some provider.id ∧ HoldsGpus job)).map countedGpus).sum

def FitsGpus (db : Database) (neededGpus : Nat) (provider : Provider) :
    Prop :=
  provider.isBurst ∨ max 1 neededGpus ≤ freeGpus db provider
deriving Decidable

def rankedBefore (db : Database) (provider other : Provider) : Bool :=
  if provider.isBurst then
    !other.isBurst
  else
    !other.isBurst && decide (freeGpus db other < freeGpus db provider)

def resolveGpuType (db : Database) (matching : List Nat)
    (neededGpus : Nat) : Except LaunchError Provider := do
  let candidates := db.providers.select (fun provider =>
      provider.isPaused = false ∧ provider.approved ∧ provider.id ∈ matching ∧
        (provider.isBurst → provider.burstGpuTypeId.isSome))
  require (candidates ≠ []) .gpuTypeNotFound
  let inStock := candidates.filter (fun provider =>
      provider.stockAvailable ∧ provider.status = .online)
  require (inStock ≠ []) .gpuTypeOutOfStock
  orFail (.insufficientGpuCapacity neededGpus)
    (firstBy (rankedBefore db) (inStock.filter (fun provider => FitsGpus db neededGpus provider)))

def resolveProvider (db : Database) (choice : ProviderChoice)
    (neededGpus : Nat) (now : Int) : Except LaunchError Provider :=
  match choice with
  | .gpuType matching => resolveGpuType db matching neededGpus
  | .pinned providerId => resolvePodProvider db (some providerId) now
  | .autoPick => resolvePodProvider db none now

variable {db : Database} {now : Int} {provider : Provider}

/-- A resolved provider is a stored row. A request by GPU type looks at the
GPUs that are free on it, any other request at the pods it runs. -/
theorem resolveProvider_eq_ok {choice : ProviderChoice} {neededGpus : Nat}
    (resolved : resolveProvider db choice neededGpus now = .ok provider) :
    db.providers.lookup provider.id = some provider ∧
      (if choice.byGpuType then FitsGpus db neededGpus provider
        else BurstAvailable provider ∨ NativeAvailable db now provider) := by
  cases choice with
  | pinned providerId =>
    have filtered := orFail_eq_ok_iff.mp resolved
    obtain ⟨found, available⟩ := Option.filter_eq_some_iff.mp filtered
    rw [Table.lookup_key found]
    exact ⟨found, of_decide_eq_true available⟩
  | autoPick =>
    have first := firstBy_mem (orFail_eq_ok_iff.mp resolved)
    obtain ⟨available, found⟩ := Table.mem_select first
    exact ⟨found, Or.inr available⟩
  | gpuType candidates =>
    obtain ⟨_, resolved⟩ := require_bind_eq_ok_iff.mp resolved
    obtain ⟨_, resolved⟩ := require_bind_eq_ok_iff.mp resolved
    have first := firstBy_mem (orFail_eq_ok_iff.mp resolved)
    obtain ⟨inStock, fits⟩ := List.mem_filter.mp first
    obtain ⟨_, found⟩ := Table.mem_select (List.mem_of_mem_filter inStock)
    exact ⟨found, of_decide_eq_true fits⟩

def usedIndices (db : Database) (providerId : Nat) : List Nat :=
  (db.jobs.select (fun job =>
    job.providerId = some providerId ∧ HoldsGpus job)).flatMap Job.gpuIndices

def freeIndices (db : Database) (provider : Provider) : List Nat :=
  freeBelow (resolvePodGpuCount (some provider)) (usedIndices db provider.id)

/-- The number of GPUs of the pod and their indices on the machine. An
external pod and the pod of a single-GPU machine get no indices. -/
def allocateGpus (db : Database) (provider : Provider)
    (requestedGpuCount : Nat) : Except LaunchError (Nat × List Nat) :=
  let providerGpuTotal := max 1 (resolvePodGpuCount (some provider))
  let gpuCount :=
    if provider.isBurst then 1 else min requestedGpuCount providerGpuTotal
  if provider.isBurst = false ∧ 1 < providerGpuTotal then
    let free := freeIndices db provider
    if free.length < gpuCount then
      .error (.insufficientFreeGpus free.length gpuCount)
    else
      .ok (gpuCount, free.take gpuCount)
  else
    .ok (gpuCount, [])

theorem resolvePodGpuCount_pos (provider : Option Provider) :
    1 ≤ resolvePodGpuCount provider := by
  cases provider with
  | none => exact le_refl 1
  | some provider =>
    simp only [resolvePodGpuCount]
    split <;> omega

/-- On a machine with several GPUs a pod gets as many free indices as it has
GPUs; on any other machine it gets one GPU and no index. -/
theorem allocateGpus_eq_ok {requested gpuCount : Nat} {gpuIndices : List Nat}
    (native : provider.isBurst = false) (positive : 1 ≤ requested)
    (allocated : allocateGpus db provider requested = .ok (gpuCount, gpuIndices)) :
    (1 < resolvePodGpuCount (some provider) →
      1 ≤ gpuCount ∧ gpuIndices.length = gpuCount ∧ gpuIndices.Sublist (freeIndices db provider)) ∧
      (resolvePodGpuCount (some provider) = 1 → gpuCount = 1 ∧ gpuIndices = []) := by
  have total := resolvePodGpuCount_pos (some provider)
  unfold allocateGpus at allocated
  simp only [native, Bool.false_eq_true, if_false, true_and, max_eq_right total] at allocated
  split at allocated
  · rename_i several
    split at allocated
    · cases allocated
    · rename_i enough
      cases allocated
      refine ⟨?_, fun single => absurd several (by omega)⟩
      intro _
      refine ⟨by omega, ?_, List.take_sublist _ _⟩
      rw [List.length_take]
      omega
  · rename_i single
    cases allocated
    exact ⟨fun several => absurd several single, fun one => ⟨by omega, rfl⟩⟩

/-! ## Launching -/

def requestedGpuCount (request : LaunchRequest) : Nat :=
  ((toFiniteInt 1 8 request.gpuCount).getD 1).toNat

theorem requestedGpuCount_pos (request : LaunchRequest) :
    1 ≤ requestedGpuCount request := by
  unfold requestedGpuCount
  cases bounded : toFiniteInt 1 8 request.gpuCount with
  | none => decide
  | some count =>
    obtain ⟨_, within⟩ := Option.filter_eq_some_iff.mp bounded
    have positive := (of_decide_eq_true within).1
    simp only [Option.getD_some]
    omega

def requestedMinutes (request : LaunchRequest) : Nat :=
  ((toFiniteInt minDurationMinutes maxDurationMinutes
    request.durationMinutes).getD defaultDurationMinutes).toNat

/-- The checks of a launch in the order of the source, up to the debit. -/
def planLaunch (db : Database) (request : LaunchRequest) (now : Int)
    (creditAllowed : Bool) : Except LaunchError LaunchPlan := do
  let renter ← orFail .renterNotFound (db.renters.lookup request.renterId)
  require ((activePods db request.renterId : Int) < effectivePodCap renter)
    (.podQuotaExceeded (effectivePodCap renter))
  require (∀ minutes ∈ request.durationMinutes, minutes ≤ reservedCapacityThresholdMinutes)
    (.exceedsMaxDuration (reservedCapacityThresholdMinutes / 60))
  require (request.serve → requestedGpuCount request ∈ [1, 2, 4]) .serveTpUnsupported
  let provider ← resolveProvider db request.choice (requestedGpuCount request) now
  require (¬ (request.serve ∧ provider.isBurst)) .serveRequiresNative
  let (gpuCount, gpuIndices) ← allocateGpus db provider (requestedGpuCount request)
  let quoteHalala :=
    computePodQuoteHalala (requestedMinutes request * 60) (resolvePodRate (some provider)) gpuCount
  require (creditAllowed = true) (.onDemandRequiresPrepaidCredit quoteHalala)
  pure ⟨provider, gpuCount, gpuIndices, requestedMinutes request, quoteHalala⟩

variable {request : LaunchRequest} {creditAllowed : Bool} {plan : LaunchPlan}

theorem planLaunch_eq_ok (planned : planLaunch db request now creditAllowed = .ok plan) :
    resolveProvider db request.choice (requestedGpuCount request) now = .ok plan.provider ∧
      allocateGpus db plan.provider (requestedGpuCount request) =
        .ok (plan.gpuCount, plan.gpuIndices) ∧
      plan.quoteHalala = computePodQuoteHalala (requestedMinutes request * 60)
        (resolvePodRate (some plan.provider)) plan.gpuCount := by
  obtain ⟨renter, _, planned⟩ := bind_eq_ok_iff.mp planned
  obtain ⟨_, planned⟩ := require_bind_eq_ok_iff.mp planned
  obtain ⟨_, planned⟩ := require_bind_eq_ok_iff.mp planned
  obtain ⟨_, planned⟩ := require_bind_eq_ok_iff.mp planned
  obtain ⟨provider, resolved, planned⟩ := bind_eq_ok_iff.mp planned
  obtain ⟨_, planned⟩ := require_bind_eq_ok_iff.mp planned
  obtain ⟨allocation, allocated, planned⟩ := bind_eq_ok_iff.mp planned
  obtain ⟨_, ⟨⟩⟩ := require_bind_eq_ok_iff.mp planned
  exact ⟨resolved, allocated, rfl⟩

theorem computePodQuoteHalala_nonneg (durationSeconds : Nat)
    (ratePerGpuSecond : ℚ) (gpuCount : Nat) :
    0 ≤ computePodQuoteHalala durationSeconds ratePerGpuSecond gpuCount :=
  le_max_left _ _

/-- The row of a launched pod. An external pod is `pulling` from the start
and has a timeout, a native one waits in the queue of its provider. -/
def podRow (request : LaunchRequest) (plan : LaunchPlan) (now : Int) :
    Job :=
  { id := request.jobId
    jobType := if request.serve then .vllmServe else .interactivePod
    status := if plan.provider.isBurst then .pulling else .queued
    providerId := some plan.provider.id
    renterId := some request.renterId
    costHalala := plan.quoteHalala
    gpuCount := plan.gpuCount
    gpuIndices := plan.gpuIndices
    durationMinutes := plan.durationMinutes
    maxDurationSeconds := some (plan.durationMinutes * 60)
    submittedAt := some now
    createdAt := some now
    assignedAt := none
    pickedUpAt := none
    startedAt := none
    completedAt := none
    timeoutAt :=
      if plan.provider.isBurst then
        some (now + plan.durationMinutes * 60 * 1000)
      else
        none
    refundedAt := none
    jupyterHostPort := none
    accessUrl := none
    durationSeconds := none
    actualCostHalala := none
    providerEarnedHalala := none
    dc1FeeHalala := none
    pricingClassRank := 1
    priority := 5
    checkpointEnabled := false
    retryCount := 0
    maxRetries := 2
    requiredVramMib := 0 }

@[simp]
theorem podRow_id (request : LaunchRequest) (plan : LaunchPlan) (now : Int) :
    (podRow request plan now).id = request.jobId :=
  rfl

def debitQuote (db : Database) (request : LaunchRequest) (quoteHalala : Int) : Option Database :=
  if 0 < quoteHalala then
    db.debitRenter request.jobId request.renterId quoteHalala
  else
    some db

/-- The compensation of a launch whose row never landed. -/
def refundQuote (db : Database) (request : LaunchRequest) (quoteHalala : Int) : Database :=
  if 0 < quoteHalala then
    db.refundRenter request.jobId (some request.renterId) quoteHalala
  else
    db

def insertPod (db : Database) (row : Job) (inserted : Bool) :
    Option Database :=
  if fresh : db.jobs.lookup row.id = none then
    if inserted then
      some { db with jobs := db.jobs.insert row fresh }
    else
      none
  else
    none

def commitLaunch (db : Database) (request : LaunchRequest) (now : Int)
    (outlook : LaunchOutlook) (plan : LaunchPlan) :
    Database × Except LaunchError LaunchedPod :=
  match debitQuote db request plan.quoteHalala with
  | none =>
    (db, .error (.paymentRequired plan.quoteHalala
      (max 0 ((db.renters.lookup request.renterId).map Renter.balanceHalala |>.getD 0))))
  | some debited =>
    if plan.provider.isBurst ∧ outlook.portsFree = false then
      (refundQuote debited request plan.quoteHalala, .error .burstPortsExhausted)
    else
      match insertPod debited (podRow request plan now) outlook.inserted with
      | none =>
        (refundQuote debited request plan.quoteHalala, .error .insertFailed)
      | some inserted =>
        if plan.provider.isBurst ∧ outlook.spawned = false then
          ((failBurstJobAndRefund inserted request.jobId plan.quoteHalala request.renterId now).1,
            .error .burstLaunchFailed)
        else
          (inserted, .ok ⟨request.jobId, plan.gpuCount, plan.durationMinutes, plan.quoteHalala⟩)

def launchPodCore (db : Database) (request : LaunchRequest) (now : Int) (outlook : LaunchOutlook) :
    Database × Except LaunchError LaunchedPod :=
  match planLaunch db request now outlook.creditAllowed with
  | .error refusal => (db, .error refusal)
  | .ok plan => commitLaunch db request now outlook plan

theorem insertPod_eq_some {db after : Database} {row : Job}
    {inserted : Bool} (landed : insertPod db row inserted = some after) :
    ∃ fresh, after = { db with jobs := db.jobs.insert row fresh } := by
  unfold insertPod at landed
  split at landed
  · rename_i fresh
    split at landed
    · injection landed with same
      exact ⟨fresh, same.symm⟩
    · cases landed
  · cases landed

/-- The ways a launch can end: refused before or at its debit, debited and
compensated, landed, or landed and failed because the external launch did not
start. -/
inductive LaunchEffect (db : Database) (request : LaunchRequest)
    (now : Int) (creditAllowed : Bool) : Database → Prop
  | refused : LaunchEffect db request now creditAllowed db
  | compensated {plan : LaunchPlan} {debited : Database} :
      planLaunch db request now creditAllowed = .ok plan →
      debitQuote db request plan.quoteHalala = some debited →
      LaunchEffect db request now creditAllowed (refundQuote debited request plan.quoteHalala)
  | landed {plan : LaunchPlan} {debited : Database}
      {fresh : debited.jobs.lookup (podRow request plan now).id = none} :
      planLaunch db request now creditAllowed = .ok plan →
      debitQuote db request plan.quoteHalala = some debited →
      LaunchEffect db request now creditAllowed { debited with
        jobs := debited.jobs.insert (podRow request plan now) fresh }
  | unspawned {plan : LaunchPlan} {debited : Database}
      {fresh : debited.jobs.lookup (podRow request plan now).id = none} :
      planLaunch db request now creditAllowed = .ok plan →
      debitQuote db request plan.quoteHalala = some debited →
      LaunchEffect db request now creditAllowed (failBurstJobAndRefund { debited with
        jobs := debited.jobs.insert (podRow request plan now) fresh }
          request.jobId plan.quoteHalala request.renterId now).1

theorem launchPodCore_effect (db : Database) (request : LaunchRequest)
    (now : Int) (outlook : LaunchOutlook) :
    LaunchEffect db request now outlook.creditAllowed (launchPodCore db request now outlook).1 := by
  unfold launchPodCore
  cases planned : planLaunch db request now outlook.creditAllowed with
  | error refusal =>
    exact LaunchEffect.refused
  | ok plan =>
    dsimp only [commitLaunch]
    cases taken : debitQuote db request plan.quoteHalala with
    | none =>
      exact LaunchEffect.refused
    | some debited =>
      dsimp only
      split
      · exact LaunchEffect.compensated planned taken
      · cases landed : insertPod debited (podRow request plan now) outlook.inserted with
        | none =>
          exact LaunchEffect.compensated planned taken
        | some inserted =>
          obtain ⟨fresh, rfl⟩ := insertPod_eq_some landed
          dsimp only
          split
          · exact LaunchEffect.unspawned planned taken
          · exact LaunchEffect.landed planned taken

theorem planLaunch_quote_nonneg (planned : planLaunch db request now creditAllowed = .ok plan) :
    0 ≤ plan.quoteHalala := by
  rw [(planLaunch_eq_ok planned).2.2]
  exact computePodQuoteHalala_nonneg _ _ _

/-! ## Becoming live -/

namespace Job

def setPickedUp (providerId : Nat) (now : Int) (job : Job) : Job :=
  { job with
    providerId := some providerId
    assignedAt := some (job.assignedAt.getD now)
    pickedUpAt := some now
    status := .running
    startedAt := some (job.startedAt.getD now)
    timeoutAt := some ((datetime now + job.maxDurationSeconds.getD 600) * 1000) }

@[simp]
theorem setPickedUp_id (providerId : Nat) (now : Int) (job : Job) :
    (setPickedUp providerId now job).id = job.id :=
  rfl

/-- The first live report starts the clock of the pod. -/
def setEndpointReady (jupyterHostPort : Nat) (accessUrl : String) (now : Int) (job : Job) : Job :=
  { job with
    jupyterHostPort := some jupyterHostPort
    accessUrl := some accessUrl
    status := .running
    startedAt :=
      if job.accessUrl = none then some now else job.startedAt
    timeoutAt :=
      if job.accessUrl = none then
        some ((datetime now + job.maxDurationSeconds.getD 600) * 1000)
      else
        job.timeoutAt }

@[simp]
theorem setEndpointReady_id (jupyterHostPort : Nat) (accessUrl : String) (now : Int) (job : Job) :
    (setEndpointReady jupyterHostPort accessUrl now job).id = job.id :=
  rfl

def setProgress (status : JobStatus) (now : Int) (job : Job) : Job :=
  { job with
    status := status
    startedAt := some (job.startedAt.getD now) }

@[simp]
theorem setProgress_id (status : JobStatus) (now : Int) (job : Job) :
    (setProgress status now job).id = job.id :=
  rfl

/-- `burst.py` reports the external pod live. -/
def setBurstReady (accessUrl : String) (durationSeconds : Nat) (now : Int) (job : Job) : Job :=
  { job with
    status := .running
    accessUrl := some accessUrl
    startedAt := some (job.startedAt.getD now)
    timeoutAt := some ((datetime now + durationSeconds) * 1000) }

@[simp]
theorem setBurstReady_id (accessUrl : String) (durationSeconds : Nat) (now : Int) (job : Job) :
    (setBurstReady accessUrl durationSeconds now job).id = job.id :=
  rfl

end Job

def PickableBy (providerId : Nat) (job : Job) : Prop :=
  IsWaiting job ∧ job.pickedUpAt = none ∧ (job.providerId = some providerId ∨ job.providerId = none)
deriving Decidable

def pickUpJob (db : Database) (providerId jobId : Nat) (now : Int) :
    Database :=
  { db with
    jobs := db.jobs.updateWhere jobId (PickableBy providerId) (Job.setPickedUp providerId now)
      (Job.setPickedUp_id providerId now) }

def IsPodOf (providerId : Nat) (job : Job) : Prop :=
  job.providerId = some providerId ∧ job.jobType = .interactivePod
deriving Decidable

/-- `POST /:job_id/endpoint-ready` for an interactive pod. -/
def endpointReady (db : Database) (providerId jobId jupyterHostPort : Nat)
    (accessUrl : String) (now : Int) : Database :=
  { db with
    jobs := db.jobs.updateWhere jobId (IsPodOf providerId)
      (Job.setEndpointReady jupyterHostPort accessUrl now)
      (Job.setEndpointReady_id jupyterHostPort accessUrl now) }

/-- The status a progress report leads to: an image pull is `pulling`, any
other phase runs a job that was assigned or pulling. -/
def progressStatus (pulling : Bool) (status : JobStatus) : JobStatus :=
  if pulling then
    .pulling
  else if status = .assigned ∨ status = .pulling then
    .running
  else
    status

def reportProgress (db : Database) (providerId jobId : Nat)
    (pulling : Bool) (now : Int) : Database :=
  match db.jobs.lookup jobId with
  | none => db
  | some job =>
    if job.providerId = some providerId ∧
      (pulling ∨ job.status = .assigned ∨ job.status = .pulling) then
      { db with
        jobs := db.jobs.update jobId (Job.setProgress (progressStatus pulling job.status) now)
          (Job.setProgress_id _ now) }
    else
      db

def IsStarting (job : Job) : Prop :=
  job.status = .pulling ∨ job.status = .queued ∨ job.status = .assigned
deriving Decidable

/-- `job_success` of `burst.py`. -/
def burstJobSuccess (db : Database) (jobId : Nat) (accessUrl : String)
    (durationSeconds : Nat) (now : Int) : Database :=
  { db with
    jobs := db.jobs.updateWhere jobId IsStarting (Job.setBurstReady accessUrl durationSeconds now)
      (Job.setBurstReady_id accessUrl durationSeconds now) }

/-- `job_fail` of `burst.py`: fail a live row and return its cost. -/
def burstJobFail (db : Database) (jobId : Nat) (now : Int) : Database :=
  match db.jobs.lookup jobId with
  | none => db
  | some job =>
    if job.status.isTerminal then
      db
    else if job.renterId.isSome ∧ job.costHalala ≠ 0 ∧ job.refundedAt = none then
      failAndRefund now db job
    else
      markTimedOut now db job.id

inductive ExtendError where
  | notRunning (status : JobStatus)
  | exceedsMax (remainingMinutes : Nat)
  | insufficientBalance (requiredHalala balanceHalala : Int)

structure ExtendedPod where
  addedMinutes : Nat
  chargedHalala : Int
  totalMinutes : Nat

def currentSeconds (job : Job) : Nat :=
  if job.maxDurationSeconds.getD 0 = 0 then
    job.durationMinutes * 60
  else
    job.maxDurationSeconds.getD 0

def Job.setExtended (newSeconds : Nat) (addQuoteHalala now : Int) (job : Job) : Job :=
  { job with
    maxDurationSeconds := some newSeconds
    durationMinutes := (newSeconds + 30) / 60
    costHalala := job.costHalala + addQuoteHalala
    timeoutAt := some ((datetime (job.startedAt.getD now) + newSeconds) * 1000) }

@[simp]
theorem Job.setExtended_id (newSeconds : Nat) (addQuoteHalala now : Int) (job : Job) :
    (Job.setExtended newSeconds addQuoteHalala now job).id = job.id :=
  rfl

def extendQuote (db : Database) (job : Job) (addMinutes : Nat) : Int :=
  computePodQuoteHalala (addMinutes * 60)
    (resolvePodRate (providerOf db job)) (settledGpuCount db job)

def debitExtension (db : Database) (job : Job) (addQuoteHalala : Int) :
    Option Database :=
  if 0 < addQuoteHalala then
    job.renterId.bind (fun renterId =>
      db.debitRenter job.id renterId addQuoteHalala)
  else
    some db

def extendPodCore (db : Database) (job : Job) (addMinutes : Nat)
    (now : Int) : Database × Except ExtendError ExtendedPod :=
  if job.status ≠ .running then
    (db, .error (.notRunning job.status))
  else if maxDurationMinutes * 60 < (currentSeconds job + addMinutes * 60 : Nat) then
    (db, .error (.exceedsMax (((maxDurationMinutes * 60).toNat - currentSeconds job) / 60)))
  else
    let addQuoteHalala := extendQuote db job addMinutes
    let newSeconds := currentSeconds job + addMinutes * 60
    match debitExtension db job addQuoteHalala with
    | none =>
      (db, .error (.insufficientBalance addQuoteHalala
        (max 0 ((job.renterId.bind db.renters.lookup).map Renter.balanceHalala |>.getD 0))))
    | some debited =>
      ({ debited with
        jobs := debited.jobs.update job.id (Job.setExtended newSeconds addQuoteHalala now)
          (Job.setExtended_id newSeconds addQuoteHalala now) },
        .ok ⟨addMinutes, addQuoteHalala, (newSeconds + 30) / 60⟩)

end DcpPlatform.Pods
