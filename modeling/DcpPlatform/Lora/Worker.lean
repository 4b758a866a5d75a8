import DcpPlatform.Foundation.Transition
import DcpPlatform.Lora.Jobs

/-!
# The training worker

A run of the worker marks each job that is `created` as `running`, hands it to
the executor, waits, and writes the outcome. What has been written before a
throw stays. Several runs may wait at the same time; `executed` lists the jobs
handed out.
-/

namespace DcpPlatform.Lora

open Foundation
open Batches (Text Failure requireSha256)

structure Execution where
  artifactStorageKey : Text
  artifactChecksum : Text
  modelCardStorageKey : Text
  registerAdapter : Bool

inductive Answer where
  | thrown (message : String)
  | returned (execution : Execution)

namespace TrainingJob

variable (job : TrainingJob)

def buildLoraArtifactStorageKey : String :=
  "adapters/renter-" ++ toString job.renterId ++ "/" ++
    job.outputAdapterId ++ "/adapter.safetensors"

def buildLoraModelCardStorageKey : String :=
  "adapters/renter-" ++ toString job.renterId ++ "/" ++ job.outputAdapterId ++ "/model-card.json"

end TrainingJob

def keyOr (given : Text) (built : String) : Text :=
  if given.isTruthy then given else .text built

def succeededOptions (job : TrainingJob) (execution : Execution)
    (checksum : String) : UpdateOptions :=
  { artifactStorageKey := keyOr execution.artifactStorageKey job.buildLoraArtifactStorageKey
    artifactChecksum := .text checksum
    modelCardStorageKey := keyOr execution.modelCardStorageKey job.buildLoraModelCardStorageKey
    failureReason := .missing }

def readOfNull : Failure :=
  ⟨"TypeError", "Cannot read properties of null (reading 'status')"⟩

def proofOf (job : TrainingJob) (execution : Execution) :
    Except Failure StatusFields := do
  let checksum ← requireSha256 execution.artifactChecksum "artifact_checksum_sha256"
  (succeededOptions job execution checksum).normalize

def completeTraining (autoRegisterAdapter : Bool) (job : TrainingJob)
    (execution : Execution) (refusal : Option Failure) (now : Nat) :
    Writing PUnit := do
  let checksum ← checked (requireSha256 execution.artifactChecksum "artifact_checksum_sha256")
  let completed ← updateLoraTrainingJobStatus job.renterId
    job.trainingJobId .succeeded (succeededOptions job execution checksum)
    now
  if autoRegisterAdapter ∨ execution.registerAdapter then
    registerLoraTrainingJobAdapter job.renterId job.trainingJobId refusal
  match completed with
  | some _ => pure PUnit.unit
  | none => Tx.fail readOfNull

/-- The first code units of a text; a pair that would be cut is dropped. -/
def sliceUnits : Nat → List Char → List Char
  | _, [] => []
  | limit, character :: rest =>
    let units := if character.toNat < 0x10000 then 1 else 2
    if units ≤ limit then
      character :: sliceUnits (limit - units) rest
    else
      []

def failedOptions (message : String) : UpdateOptions :=
  { UpdateOptions.empty with
    failureReason := .text (String.ofList (sliceUnits 240 message.toList)) }

/-- The `catch`; what it throws itself ends the run. -/
def failTraining (job : TrainingJob) (message : String) (now : Nat) :
    Writing PUnit := do
  let failed ← updateLoraTrainingJobStatus job.renterId job.trainingJobId
    .failed (failedOptions message) now
  match failed with
  | some _ => pure PUnit.unit
  | none => Tx.fail readOfNull

def finishTraining (autoRegisterAdapter : Bool) (job : TrainingJob)
    (answer : Answer) (refusal : Option Failure) (now : Nat) :
    Writing PUnit :=
  match answer with
  | .thrown message => failTraining job message now
  | .returned execution => fun store =>
    match completeTraining autoRegisterAdapter job execution refusal now store with
    | (.ok _, after) => (.ok PUnit.unit, after)
    | (.error failure, after) =>
      failTraining job failure.message now after

structure Worker where
  autoRegisterAdapter : Bool
  awaited : TrainingJob
  remaining : List TrainingJob

structure System where
  store : Store
  workers : List Worker
  executed : List String

def workerLimit (limit : Option Nat) : Nat :=
  match limit with
  | none => 2
  | some limit => if limit < 1 then 2 else min limit 10

def StatusFields.empty : StatusFields :=
  ⟨none, none, none, none⟩

def System.takeNext (system : System) (autoRegisterAdapter : Bool)
    (pending : List TrainingJob) (now : Nat) : System :=
  match pending with
  | [] => system
  | job :: rest =>
    { store := system.store.setStatus job.renterId job.trainingJobId .running StatusFields.empty now
      workers := system.workers ++ [⟨autoRegisterAdapter, job, rest⟩]
      executed := system.executed ++ [job.trainingJobId] }

/-- What happens next: a run starts, the executor answers the run at `index`,
somebody updates or creates a job or registers its adapter, or the registry
changes. -/
inductive Action where
  | start (autoRegisterAdapter : Bool) (limit : Option Nat) (now : Nat)
  | answer (index : Nat) (answer : Answer) (refusal : Option Failure) (now : Nat)
  | update (renterId : Nat) (trainingJobId : String) (status : JobStatus)
      (options : UpdateOptions) (now : Nat)
  | create (job : TrainingJob)
  | register (renterId : Nat) (trainingJobId : String) (refusal : Option Failure)
  | adapters (adapters : Table Adapter Adapter.adapterId)

/-- A run goes on with its next job unless its `catch` has thrown. -/
def System.answered (system : System) (worker : Worker) (index : Nat)
    (answer : Answer) (refusal : Option Failure) (now : Nat) : System :=
  let finished :=
    finishTraining worker.autoRegisterAdapter worker.awaited answer refusal now system.store
  let left : System := { system with
      store := finished.2
      workers := system.workers.eraseIdx index }
  match finished.1 with
  | .ok _ =>
    left.takeNext worker.autoRegisterAdapter worker.remaining now
  | .error _ => left

def next (system : System) : Action → Option System
  | .start autoRegisterAdapter limit now =>
    some (system.takeNext autoRegisterAdapter
      (system.store.listCreatedLoraTrainingJobs (workerLimit limit)) now)
  | .answer index answer refusal now =>
    (system.workers[index]?).map (fun worker =>
      system.answered worker index answer refusal now)
  | .update renterId trainingJobId status options now =>
    some { system with
      store :=
        (updateLoraTrainingJobStatus renterId trainingJobId status options now system.store).2 }
  | .create job =>
    some { system with store := system.store.createLoraTrainingJob job }
  | .register renterId trainingJobId refusal =>
    some { system with
      store := (registerLoraTrainingJobAdapter renterId trainingJobId refusal system.store).2 }
  | .adapters adapters =>
    some { system with
      store := { system.store with adapters := adapters } }

end DcpPlatform.Lora
