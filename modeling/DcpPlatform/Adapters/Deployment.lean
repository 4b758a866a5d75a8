import DcpPlatform.Adapters.Registry
import DcpPlatform.Foundation.Transition

/-!
# Adapter deployments

A row of `adapter_deployments` asks to serve a registered adapter. It routes
traffic by a load proof that matches the row and the registered artifact, in
the request that creates it or attached later. The row holds the proof itself.
-/

namespace DcpPlatform.Adapters

open Foundation
open Batches (Json)

inductive DeployMode where
  | singleAdapterLiveMerge | multiLora
  deriving DecidableEq

def DeployMode.text : DeployMode → String
  | .singleAdapterLiveMerge => "single_adapter_live_merge"
  | .multiLora => "multi_lora"

def DeployMode.ofText : String → Option DeployMode
  | "single_adapter_live_merge" => some .singleAdapterLiveMerge
  | "multi_lora" => some .multiLora
  | _ => none

def dashesReplaced (text : String) : String :=
  String.ofList (text.toList.map (fun character =>
    if character = '-' then '_' else character))

/-- `normalizeEnum`, among the modes. -/
def normalizeMode (fieldName : String) (value : Json) :
    Except AdapterError DeployMode :=
  match DeployMode.ofText (dashesReplaced (toLowerCase value.trimmed)) with
  | some mode => .ok mode
  | none =>
    .error (invalid (fieldName ++ " is not supported") "unsupported_value" fieldName)

structure LoadProof where
  loaded : Bool
  deploymentId : Option (BoundedText 80)
  adapterId : AdapterId
  baseModel : BoundedText 160
  mode : Option DeployMode
  endpointId : Option (BoundedText 120)
  artifactChecksum : Option Checksum
  loadedAt : Option (BoundedText 80)
  providerId : Option String

def isBoolTrue : Json → Bool
  | .bool value => value
  | _ => false

def normalizeLoadProof (value : Json) :
    Except AdapterError (Option LoadProof) :=
  match value with
  | .null => .ok none
  | .object fields => do
      let property := fun name => (Json.object fields).field name
      let deploymentId ← whenTruthy (normalizeBoundedString "serving_load_proof.deployment_id" 80)
        (property "deployment_id")
      let adapterId ← normalizeAdapterId (property "adapter_id")
      let baseModel ←
        normalizeBoundedString "serving_load_proof.base_model" 160 (property "base_model")
      let mode ← whenTruthy (normalizeMode "serving_load_proof.mode") (property "mode")
      let endpointId ← whenTruthy (normalizeBoundedString "serving_load_proof.endpoint_id" 120)
        (property "endpoint_id")
      let artifactChecksum ← whenTruthy
        (normalizeChecksum "serving_load_proof.artifact_checksum_sha256")
        (property "artifact_checksum_sha256")
      let loadedAt ← whenTruthy (normalizeBoundedString "serving_load_proof.loaded_at" 80)
        (property "loaded_at")
      let providerId :=
        match property "provider_id" with
        | .null => none
        | value => some value.print
      pure (some
        { loaded := isBoolTrue (property "loaded")
          deploymentId := deploymentId
          adapterId := adapterId
          baseModel := baseModel
          mode := mode
          endpointId := endpointId
          artifactChecksum := artifactChecksum
          loadedAt := loadedAt
          providerId := providerId })
  | _ =>
    .error
      { message := "serving_load_proof must be an object"
        code := "invalid_load_proof"
        httpStatus := 400
        field := none }

structure DeployInput where
  mode : Json
  adapterId : Json
  baseModel : Json
  deploymentId : Json
  endpointId : Json
  artifactChecksum : Json
  servingLoadProof : Json

structure DeploySpec where
  status : String
  mode : DeployMode
  adapterId : AdapterId
  baseModel : BoundedText 160
  deploymentId : Option (BoundedText 80)
  endpointId : Option (BoundedText 120)
  artifactChecksum : Option Checksum
  routeTraffic : Bool
  servingLoadProof : Option LoadProof

/-- What a proof names agrees with what is asked for, where that is given. -/
def LoadProof.allows (mode : DeployMode) (adapterId : AdapterId)
    (baseModel : BoundedText 160) (deploymentId : Option (BoundedText 80))
    (endpointId : Option (BoundedText 120))
    (artifactChecksum : Option Checksum) (proof : LoadProof) : Bool :=
  proof.loaded && proof.adapterId = adapterId &&
    proof.baseModel = baseModel && proof.mode = some mode &&
    (deploymentId = none || proof.deploymentId = deploymentId) &&
    (endpointId = none || proof.endpointId = endpointId) &&
    (artifactChecksum = none || proof.artifactChecksum = artifactChecksum)

def orElse (value other : Json) : Json :=
  if value.isTruthy then value else other

def normalizeAdapterDeploySpec (input : DeployInput) :
    Except AdapterError DeploySpec := do
  let mode ← normalizeMode "mode" (orElse input.mode (.text "single_adapter_live_merge"))
  let adapterId ← normalizeAdapterId input.adapterId
  let baseModel ← normalizeBoundedString "base_model" 160 input.baseModel
  let deploymentId ← whenTruthy (normalizeBoundedString "deployment_id" 80) input.deploymentId
  let endpointId ← whenTruthy (normalizeBoundedString "endpoint_id" 120) input.endpointId
  let artifactChecksum ←
    whenTruthy (normalizeChecksum "artifact_checksum_sha256") input.artifactChecksum
  let loadProof ← normalizeLoadProof input.servingLoadProof
  let routeTraffic := loadProof.any (LoadProof.allows mode adapterId baseModel deploymentId
      endpointId artifactChecksum)
  pure
    { status :=
      if routeTraffic then "loaded_verified" else "pending_load_proof"
      mode := mode
      adapterId := adapterId
      baseModel := baseModel
      deploymentId := deploymentId
      endpointId := endpointId
      artifactChecksum := artifactChecksum
      routeTraffic := routeTraffic
      servingLoadProof := loadProof }

/-! ## Deployments -/

inductive DeploymentStatus where
  | pending | provisioning | running | degraded | stopped | failed
  deriving DecidableEq

def DeploymentStatus.ofText : String → Option DeploymentStatus
  | "pending" => some .pending
  | "provisioning" => some .provisioning
  | "running" => some .running
  | "degraded" => some .degraded
  | "stopped" => some .stopped
  | "failed" => some .failed
  | _ => none

structure DeploymentRow where
  deploymentId : DeploymentId
  renterId : Nat
  adapterId : AdapterId
  baseModel : BoundedText 160
  mode : DeployMode
  endpointId : Option (BoundedText 120)
  status : DeploymentStatus
  routeTraffic : Bool
  servingLoadProof : Option LoadProof
  failureReason : Option String
  createdAt : Nat
  updatedAt : Nat
  startedAt : Option Nat
  stoppedAt : Option Nat

structure Database where
  adapters : Registry
  deployments : Table DeploymentRow DeploymentRow.deploymentId

def notFound (message code : String) : AdapterError :=
  { message := message, code := code, httpStatus := 404, field := none }

def conflict (message code : String) : AdapterError :=
  { message := message, code := code, httpStatus := 409, field := none }

def normalizeDeploymentId (generated : DeploymentId) (value : Json) :
    Except AdapterError DeploymentId :=
  match value with
  | .null => .ok generated
  | value =>
    if valid : isIdOf "adpl_" (trim value.print) = true then
      .ok ⟨trim value.print, valid⟩
    else
      .error (invalid
        ("deployment_id must start with adpl_ and contain URL-safe " ++ "lowercase characters")
        "invalid_deployment_id" "deployment_id")

def normalizeStatus (value : Json) :
    Except AdapterError DeploymentStatus :=
  match DeploymentStatus.ofText (toLowerCase value.trimmed) with
  | some status => .ok status
  | none =>
    .error (invalid "status is not a supported deployment lifecycle state"
      "invalid_status" "status")

def getAdapterDeployment (db : Database) (renterId : Nat)
    (deploymentId : DeploymentId) : Option DeploymentRow :=
  (db.deployments.lookup deploymentId).filter (fun deployment => deployment.renterId = renterId)

def readyAdapterStatuses : List AdapterStatus :=
  [.ready, .deployed]

def normalizeDeploySpecForAdapter (adapter : AdapterRow)
    (deploymentId : DeploymentId) (input : Json) (acceptLoadProof : Bool) :
    Except AdapterError DeploySpec := do
  let spec ← normalizeAdapterDeploySpec
    { mode := orElse (input.field "mode") (.text "single_adapter_live_merge")
      adapterId := .text adapter.adapterId.val
      baseModel := orElse (input.field "base_model") (.text adapter.baseModel.val)
      deploymentId := .text deploymentId.val
      endpointId := input.field "endpoint_id"
      artifactChecksum := .text adapter.checksum.val
      servingLoadProof :=
        if acceptLoadProof then input.field "serving_load_proof"
        else .null }
  if spec.baseModel ≠ adapter.baseModel then
    .error
      { message := "base_model must match the registered adapter base model"
        code := "base_model_mismatch"
        httpStatus := 400
        field := none }
  else
    pure spec

def newDeployment (ownerId : Nat) (adapter : AdapterRow)
    (deploymentId : DeploymentId) (spec : DeploySpec) (now : Nat) :
    DeploymentRow :=
  { deploymentId := deploymentId
    renterId := ownerId
    adapterId := adapter.adapterId
    baseModel := adapter.baseModel
    mode := spec.mode
    endpointId := spec.endpointId
    status := if spec.routeTraffic then .running else .pending
    routeTraffic := spec.routeTraffic
    servingLoadProof := spec.servingLoadProof
    failureReason := none
    createdAt := now
    updatedAt := now
    startedAt := if spec.routeTraffic then some now else none
    stoppedAt := none }

def insertDeployment (db : Database) (deployment : DeploymentRow) :
    Except AdapterError Database :=
  if absent : db.deployments.lookup deployment.deploymentId = none then
    .ok { db with deployments := db.deployments.insert deployment absent }
  else
    .error (conflict "deployment_id already exists" "deployment_exists")

def createAdapterDeployment (db : Database) (renterId : Option ℚ)
    (input : Json) (acceptLoadProof : Bool) (generated : DeploymentId)
    (now : Nat) : Except AdapterError Database := do
  let ownerId ← normalizePositiveInteger "renter_id" renterId
  let adapterId ← normalizeAdapterId (input.field "adapter_id")
  match getAdapter db.adapters ownerId adapterId with
  | none =>
    .error (notFound "Adapter not found for this renter" "adapter_not_found")
  | some adapter =>
    if adapter.status ∉ readyAdapterStatuses then
      .error (conflict "Adapter must be ready before a deployment record can be requested"
        "adapter_not_ready")
    else do
      let deploymentId ← normalizeDeploymentId generated (input.field "deployment_id")
      let spec ← normalizeDeploySpecForAdapter adapter deploymentId input acceptLoadProof
      insertDeployment db (newDeployment ownerId adapter deploymentId spec now)

def DeploymentRow.attachProof (spec : DeploySpec) (now : Nat)
    (deployment : DeploymentRow) : DeploymentRow :=
  { deployment with
    status := if spec.routeTraffic then .running else .degraded
    routeTraffic := spec.routeTraffic
    servingLoadProof := spec.servingLoadProof
    failureReason :=
      if spec.routeTraffic then none
      else some "serving_load_proof_mismatch"
    updatedAt := now
    startedAt :=
      if spec.routeTraffic then some (deployment.startedAt.getD now)
      else deployment.startedAt }

@[simp]
theorem DeploymentRow.attachProof_deploymentId (spec : DeploySpec)
    (now : Nat) (deployment : DeploymentRow) :
    (deployment.attachProof spec now).deploymentId =
      deployment.deploymentId :=
  rfl

def storedInput (deployment : DeploymentRow) (adapter : AdapterRow)
    (servingLoadProof : Json) : DeployInput :=
  { mode := .text deployment.mode.text
    adapterId := .text deployment.adapterId.val
    baseModel := .text deployment.baseModel.val
    deploymentId := .text deployment.deploymentId.val
    endpointId := (deployment.endpointId.map (fun id => Json.text id.val)).getD .null
    artifactChecksum := .text adapter.checksum.val
    servingLoadProof := servingLoadProof }

def attachDeploymentLoadProof (db : Database) (renterId : Option ℚ)
    (deploymentId : Json) (servingLoadProof : Json)
    (generated : DeploymentId) (now : Nat) :
    Except AdapterError Database := do
  let ownerId ← normalizePositiveInteger "renter_id" renterId
  let id ← normalizeDeploymentId generated deploymentId
  match getAdapterDeployment db ownerId id with
  | none =>
    .error (notFound "Deployment not found for this renter" "deployment_not_found")
  | some deployment =>
    if deployment.status = .stopped then
      .error (conflict "Stopped deployments cannot accept load proof" "deployment_stopped")
    else
      match getAdapter db.adapters ownerId deployment.adapterId with
      | none =>
        .error (notFound "Adapter not found for this renter" "adapter_not_found")
      | some adapter => do
          let spec ← normalizeAdapterDeploySpec (storedInput deployment adapter servingLoadProof)
          pure { db with
            deployments := db.deployments.updateWhere id (fun row => row.renterId = ownerId)
              (DeploymentRow.attachProof spec now)
              (DeploymentRow.attachProof_deploymentId spec now) }

def attachAdapterDeploymentLoadProof (db : Database) (renterId : Option ℚ)
    (adapterId deploymentId : Json) (servingLoadProof : Json)
    (generated : DeploymentId) (now : Nat) :
    Except AdapterError Database := do
  let ownerId ← normalizePositiveInteger "renter_id" renterId
  let expectedAdapterId ← normalizeAdapterId adapterId
  let id ← normalizeDeploymentId generated deploymentId
  if (getAdapterDeployment db ownerId id).any
    (fun deployment => deployment.adapterId = expectedAdapterId) then
    attachDeploymentLoadProof db (some (ownerId : ℚ)) (.text id.val) servingLoadProof generated now
  else
    .error (notFound "Deployment not found for this renter and adapter" "deployment_not_found")

def DeploymentRow.setStatus (status : DeploymentStatus)
    (routeTraffic : Bool) (failureReason : Option String) (now : Nat)
    (deployment : DeploymentRow) : DeploymentRow :=
  { deployment with
    status := status
    routeTraffic := routeTraffic
    failureReason := failureReason.or deployment.failureReason
    updatedAt := now
    stoppedAt :=
      if status = .stopped then some now else deployment.stoppedAt }

@[simp]
theorem DeploymentRow.setStatus_deploymentId (status : DeploymentStatus)
    (routeTraffic : Bool) (failureReason : Option String) (now : Nat)
    (deployment : DeploymentRow) :
    (deployment.setStatus status routeTraffic failureReason
      now).deploymentId = deployment.deploymentId :=
  rfl

/-- `routeTraffic` and `failureReason` are the options of those names. -/
def updateDeploymentStatus (db : Database) (renterId : Option ℚ)
    (deploymentId status routeTraffic failureReason : Json)
    (generated : DeploymentId) (now : Nat) :
    Except AdapterError Database := do
  let ownerId ← normalizePositiveInteger "renter_id" renterId
  let id ← normalizeDeploymentId generated deploymentId
  let nextStatus ← normalizeStatus status
  let routes := nextStatus = .running && isBoolTrue routeTraffic
  let reason ← whenTruthy (normalizeBoundedString "failure_reason" 240) failureReason
  let text := reason.map Subtype.val
  pure { db with
    deployments := db.deployments.updateWhere id (fun row => row.renterId = ownerId)
      (DeploymentRow.setStatus nextStatus routes text now)
      (DeploymentRow.setStatus_deploymentId nextStatus routes text now) }

inductive Action where
  | createAdapter (adapter : AdapterRow)
  | updateAdapterStatus (renterId : Option ℚ) (adapterId : AdapterId)
      (status : Option Json) (deployedAt : Option Nat) (now : Nat)
  | createAdapterDeployment (renterId : Option ℚ) (input : Json)
      (acceptLoadProof : Bool) (generated : DeploymentId) (now : Nat)
  | attachDeploymentLoadProof (renterId : Option ℚ)
      (deploymentId servingLoadProof : Json) (generated : DeploymentId)
      (now : Nat)
  | attachAdapterDeploymentLoadProof (renterId : Option ℚ)
      (adapterId deploymentId servingLoadProof : Json)
      (generated : DeploymentId) (now : Nat)
  | updateDeploymentStatus (renterId : Option ℚ)
      (deploymentId status routeTraffic failureReason : Json)
      (generated : DeploymentId) (now : Nat)

def perform (db : Database) : Action → Except AdapterError Database
  | .createAdapter adapter =>
    (createAdapter db.adapters adapter).map (fun adapters => { db with adapters := adapters })
  | .updateAdapterStatus renterId adapterId status deployedAt now =>
    (updateAdapterStatus db.adapters renterId adapterId status deployedAt
      now).map (fun adapters => { db with adapters := adapters })
  | .createAdapterDeployment renterId input acceptLoadProof generated now =>
    createAdapterDeployment db renterId input acceptLoadProof generated now
  | .attachDeploymentLoadProof renterId deploymentId servingLoadProof generated now =>
    attachDeploymentLoadProof db renterId deploymentId servingLoadProof generated now
  | .attachAdapterDeploymentLoadProof renterId adapterId deploymentId
      servingLoadProof generated now =>
      attachAdapterDeploymentLoadProof db renterId adapterId deploymentId
        servingLoadProof generated now
  | .updateDeploymentStatus renterId deploymentId status routeTraffic failureReason generated now =>
    updateDeploymentStatus db renterId deploymentId status routeTraffic failureReason generated now

/-- A refused call leaves the database as it was. -/
def next (db : Database) (action : Action) : Option Database :=
  match perform db action with
  | .ok after => some after
  | .error _ => some db

end DcpPlatform.Adapters
