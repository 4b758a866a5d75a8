import DcpPlatform.Batches.Execution

/-!
# LoRA training jobs

A training job is created by a renter, its status is written by whoever calls
the service, and the adapter of a succeeded job is registered from the proof
of its artifact. The log has one entry for every write of a status.
-/

namespace DcpPlatform.Lora

open Foundation
open Batches (Text Failure isSha256 keySegments isKeySegment normalizeBoundedString optionalText)

abbrev StorageKey := { key : String // key ≠ "" }

abbrev Checksum := { text : String // isSha256 text = true }

def normalizeStorageKey (value : Text) (fieldName : String) :
    Except Failure StorageKey :=
  match value with
  | .text value =>
    let key := String.ofList ((trim value).toList.dropWhile (· = '/'))
    if empty : key = "" then
      .error ⟨"invalid_storage_key", fieldName ++ " is invalid"⟩
    else if 512 < utf16Length key ∨ '\x00' ∈ key.toList then
      .error ⟨"invalid_storage_key", fieldName ++ " is invalid"⟩
    else if (keySegments key.toList).all isKeySegment then
      .ok ⟨key, empty⟩
    else
      .error ⟨"invalid_storage_key",
        fieldName ++ " must be a relative object key without dot segments"⟩
  | _ => .error ⟨"missing_required_field", fieldName ++ " is required"⟩

def normalizeChecksum (value : Text) (fieldName : String) :
    Except Failure Checksum := do
  let bounded ← normalizeBoundedString value fieldName 64
  if valid : isSha256 (toLowerCase bounded) = true then
    .ok ⟨toLowerCase bounded, valid⟩
  else
    .error ⟨"invalid_checksum", fieldName ++ " must be a 64-character hex SHA-256 digest"⟩

inductive JobStatus where
  | created | queued | running | succeeded | failed | cancelled
  deriving DecidableEq

def JobStatus.isTerminal : JobStatus → Bool
  | .succeeded | .failed | .cancelled => true
  | .created | .queued | .running => false

structure TrainingJob where
  id : Nat
  trainingJobId : String
  renterId : Nat
  baseModel : String
  outputAdapterId : String
  status : JobStatus
  artifactStorageKey : Option StorageKey
  artifactChecksum : Option Checksum
  modelCardStorageKey : Option StorageKey
  failureReason : Option String
  createdAt : Nat
  updatedAt : Nat
  startedAt : Option Nat
  completedAt : Option Nat

inductive LogEvent where
  | created
  | status (status : JobStatus)
  deriving DecidableEq

structure LogEntry where
  trainingJobId : String
  event : LogEvent
  deriving DecidableEq

/-- What a registration writes to and compares with `adapter_registry`. -/
structure Adapter where
  adapterId : String
  renterId : Nat
  baseModel : String
  storageKey : StorageKey
  checksum : Checksum

structure Store where
  jobs : Table TrainingJob TrainingJob.trainingJobId
  logs : List LogEntry
  adapters : Table Adapter Adapter.adapterId

/-! ## Status updates -/

structure UpdateOptions where
  artifactStorageKey : Text
  artifactChecksum : Text
  modelCardStorageKey : Text
  failureReason : Text

def UpdateOptions.empty : UpdateOptions :=
  ⟨.missing, .missing, .missing, .missing⟩

structure StatusFields where
  artifactStorageKey : Option StorageKey
  artifactChecksum : Option Checksum
  modelCardStorageKey : Option StorageKey
  failureReason : Option String

def UpdateOptions.normalize (options : UpdateOptions) :
    Except Failure StatusFields := do
  let artifactStorageKey ← optionalText options.artifactStorageKey
    (fun value => normalizeStorageKey value "artifact_storage_key")
  let artifactChecksum ← optionalText options.artifactChecksum
    (fun value => normalizeChecksum value "artifact_checksum_sha256")
  let modelCardStorageKey ← optionalText options.modelCardStorageKey
    (fun value => normalizeStorageKey value "model_card_storage_key")
  let failureReason ← optionalText options.failureReason
    (fun value => normalizeBoundedString value "failure_reason" 240)
  return ⟨artifactStorageKey, artifactChecksum, modelCardStorageKey, failureReason⟩

def TrainingJob.setStatus (status : JobStatus) (fields : StatusFields)
    (now : Nat) (job : TrainingJob) : TrainingJob :=
  { job with
    status := status
    artifactStorageKey := fields.artifactStorageKey.or job.artifactStorageKey
    artifactChecksum := fields.artifactChecksum.or job.artifactChecksum
    modelCardStorageKey := fields.modelCardStorageKey.or job.modelCardStorageKey
    failureReason := fields.failureReason.or job.failureReason
    updatedAt := now
    startedAt := job.startedAt.or (if status = .running then some now else none)
    completedAt := (if status.isTerminal then some now else none).or job.completedAt }

@[simp]
theorem TrainingJob.setStatus_trainingJobId (status : JobStatus)
    (fields : StatusFields) (now : Nat) (job : TrainingJob) :
    (job.setStatus status fields now).trainingJobId = job.trainingJobId :=
  rfl

def TrainingJob.asCreated (job : TrainingJob) : TrainingJob :=
  { job with
    status := .created
    artifactStorageKey := none
    artifactChecksum := none
    modelCardStorageKey := none
    failureReason := none
    startedAt := none
    completedAt := none }

namespace Store

variable (store : Store)

def getLoraTrainingJob (renterId : Nat) (trainingJobId : String) :
    Option TrainingJob :=
  (store.jobs.lookup trainingJobId).filter (fun job => job.renterId = renterId)

def setStatus (renterId : Nat) (trainingJobId : String)
    (status : JobStatus) (fields : StatusFields) (now : Nat) : Store :=
  if (store.getLoraTrainingJob renterId trainingJobId).isSome then
    { store with
      jobs := store.jobs.update trainingJobId (TrainingJob.setStatus status fields now)
        (TrainingJob.setStatus_trainingJobId status fields now)
      logs := store.logs ++ [⟨trainingJobId, .status status⟩] }
  else
    store

/-- `normalizeLimit` of the service. -/
def listLimit (limit : Nat) : Nat :=
  if limit < 1 then 50 else min limit 100

def listCreatedLoraTrainingJobs (limit : Nat) : List TrainingJob :=
  ((store.jobs.select (fun job => job.status = .created)).insertionSort (fun first second =>
    first.createdAt < second.createdAt ∨ (first.createdAt = second.createdAt ∧
      first.id ≤ second.id))).take (listLimit limit)

def createLoraTrainingJob (job : TrainingJob) : Store :=
  if store.jobs.lookup job.trainingJobId = none then
    { store with
      jobs := store.jobs.insertIfNew job.asCreated
      logs := store.logs ++ [⟨job.trainingJobId, .created⟩] }
  else
    store

end Store

abbrev Writing := Tx Store Failure

def checked {Value : Type} (outcome : Except Failure Value) :
    Writing Value :=
  match outcome with
  | .ok value => pure value
  | .error failure => Tx.fail failure

def updateLoraTrainingJobStatus (renterId : Nat) (trainingJobId : String)
    (status : JobStatus) (options : UpdateOptions) (now : Nat) :
    Writing (Option TrainingJob) := do
  let fields ← checked options.normalize
  Tx.write (fun store =>
    store.setStatus renterId trainingJobId status fields now)
  Tx.read (fun store => store.getLoraTrainingJob renterId trainingJobId)

def Adapter.matchesJob (adapter : Adapter) (baseModel : String)
    (storageKey : StorageKey) (checksum : Checksum) : Prop :=
  adapter.baseModel = baseModel ∧ adapter.storageKey = storageKey ∧ adapter.checksum = checksum

instance (adapter : Adapter) (baseModel : String) (storageKey : StorageKey) (checksum : Checksum) :
    Decidable (adapter.matchesJob baseModel storageKey checksum) :=
  inferInstanceAs (Decidable (_ ∧ _))

def registerAdapter (job : TrainingJob) (storageKey : StorageKey)
    (checksum : Checksum) (refusal : Option Failure) : Writing PUnit :=
  fun store =>
    match store.adapters.lookup job.outputAdapterId with
    | some adapter =>
      if adapter.renterId ≠ job.renterId then
        (.error ((refusal).getD ⟨"adapter_exists", "adapter_id already exists"⟩), store)
      else if adapter.matchesJob job.baseModel storageKey checksum then
        (.ok PUnit.unit, store)
      else
        (.error ⟨"adapter_registration_conflict",
          "Existing adapter does not match LoRA training artifact proof"⟩,
          store)
    | none =>
      match refusal with
      | some failure => (.error failure, store)
      | none =>
        (.ok PUnit.unit, { store with
          adapters := store.adapters.insertIfNew
            ⟨job.outputAdapterId, job.renterId, job.baseModel, storageKey, checksum⟩ })

def registerLoraTrainingJobAdapter (renterId : Nat)
    (trainingJobId : String) (refusal : Option Failure) :
    Writing PUnit := do
  let found ← Tx.read (fun store =>
    store.getLoraTrainingJob renterId trainingJobId)
  match found with
  | none =>
    Tx.fail ⟨"lora_training_job_not_found", "LoRA training job not found"⟩
  | some job =>
    if job.status ≠ .succeeded then
      Tx.fail ⟨"training_job_not_succeeded",
        "LoRA training job must be succeeded before adapter registration"⟩
    else
      match job.artifactStorageKey, job.artifactChecksum with
      | some storageKey, some checksum =>
        registerAdapter job storageKey checksum refusal
      | _, _ =>
        Tx.fail ⟨"adapter_artifact_proof_missing",
          "LoRA training job is missing adapter artifact proof"⟩

end DcpPlatform.Lora
