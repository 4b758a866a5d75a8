import DcpPlatform.Adapters.Deployment
import Mathlib.Algebra.Order.Ring.Rat
import Mathlib.Data.Nat.Cast.Order.Ring

/-!
# Deployments route traffic only with a matching proof

A deployment is proven when the load proof in its row says loaded and names
the row and the registered checksum. The operation that sets a status turns
routing on without a proof and takes a stopped deployment out of its final
status.
-/

namespace DcpPlatform.Adapters

open Foundation Table Option
open Batches (Json)

structure Proves (adapters : Registry) (row : DeploymentRow) (proof : LoadProof) : Prop where
  loaded : proof.loaded = true
  deployment : proof.deploymentId.map Subtype.val = some row.deploymentId.val
  adapter : proof.adapterId = row.adapterId
  baseModel : proof.baseModel = row.baseModel
  mode : proof.mode = some row.mode
  endpoint : ∀ endpointId, row.endpointId = some endpointId → proof.endpointId = some endpointId
  checksum : ∃ adapter, adapters.lookup row.adapterId = some adapter ∧
    proof.artifactChecksum = some adapter.checksum

def Proven (adapters : Registry) (row : DeploymentRow) : Prop :=
  ∃ proof, row.servingLoadProof = some proof ∧ Proves adapters row proof

def RoutesProven (db : Database) : Prop :=
  ∀ id row, db.deployments.lookup id = some row →
    row.routeTraffic = true → row.status = .running ∧ Proven db.adapters row

/-- What is stopped in one state does not route traffic in another. -/
def StaysStopped (middle target : Database) : Prop :=
  ∀ id stopped row, middle.deployments.lookup id = some stopped →
    stopped.status = .stopped → target.deployments.lookup id = some row → row.routeTraffic = false

/-- Every state of a run routes traffic with proof only, and nothing that was
stopped before. -/
def RoutesSafely (start : Database) (actions : List Action) : Prop :=
  ∀ earlier later rest middle target, actions = earlier ++ later ++ rest →
    Run (Fires next) start earlier middle →
    Run (Fires next) middle later target → RoutesProven target ∧ StaysStopped middle target

def addressed (db : Database) (renterId : Option ℚ) (deploymentId : Json)
    (generated : DeploymentId) : Option DeploymentRow :=
  match normalizePositiveInteger "renter_id" renterId,
      normalizeDeploymentId generated deploymentId with
  | .ok ownerId, .ok id => getAdapterDeployment db ownerId id
  | _, _ => none

/-- A matching proof is attached only to what was never stopped. -/
def AttachesToUnstopped (db : Database) (renterId : Option ℚ)
    (deploymentId servingLoadProof : Json) (generated : DeploymentId) :
    Prop :=
  ∀ row proof, addressed db renterId deploymentId generated = some row →
    row.status ≠ .stopped → normalizeLoadProof servingLoadProof = .ok (some proof) →
    Proves db.adapters row proof → row.stoppedAt = none

/-- Routing is turned on only where the stored proof matches and nothing was
stopped. -/
def TurnsOnProven (db : Database) (renterId : Option ℚ)
    (deploymentId status routeTraffic failureReason : Json)
    (generated : DeploymentId) : Prop :=
  ∀ row reason, addressed db renterId deploymentId generated = some row →
    normalizeStatus status = .ok .running → isBoolTrue routeTraffic = true →
    whenTruthy (normalizeBoundedString "failure_reason" 240) failureReason = .ok reason →
    Proven db.adapters row ∧ row.stoppedAt = none

def Allowed (db : Database) : Action → Prop
  | .createAdapter _ => True
  | .updateAdapterStatus _ _ _ _ _ => True
  | .createAdapterDeployment _ _ _ _ _ => True
  | .attachDeploymentLoadProof renterId deploymentId servingLoadProof generated _ =>
    AttachesToUnstopped db renterId deploymentId servingLoadProof generated
  | .attachAdapterDeploymentLoadProof renterId adapterId deploymentId
      servingLoadProof generated _ =>
      ∀ row, addressed db renterId deploymentId generated = some row →
        normalizeAdapterId adapterId = .ok row.adapterId →
        AttachesToUnstopped db renterId deploymentId servingLoadProof generated
  | .updateDeploymentStatus renterId deploymentId status routeTraffic failureReason generated _ =>
    TurnsOnProven db renterId deploymentId status routeTraffic failureReason generated

structure Describes (adapter : AdapterRow) (row : DeploymentRow) (spec : DeploySpec) : Prop where
  mode : spec.mode = row.mode
  adapterId : spec.adapterId = row.adapterId
  baseModel : spec.baseModel = row.baseModel
  deploymentId : spec.deploymentId.map Subtype.val = some row.deploymentId.val
  endpointId : spec.endpointId = row.endpointId
  checksum : spec.artifactChecksum = some adapter.checksum
  routes : spec.routeTraffic = spec.servingLoadProof.any
    (LoadProof.allows spec.mode spec.adapterId spec.baseModel
      spec.deploymentId spec.endpointId spec.artifactChecksum)

section Describes

variable {adapters : Registry} {adapter : AdapterRow} {row : DeploymentRow} {spec : DeploySpec}

theorem Describes.allows_iff (describes : Describes adapter row spec)
    (found : adapters.lookup row.adapterId = some adapter) (proof : LoadProof) :
    proof.allows spec.mode spec.adapterId spec.baseModel
      spec.deploymentId spec.endpointId spec.artifactChecksum = true ↔
      Proves adapters row proof := by
  obtain ⟨deploymentId, named, id⟩ := map_eq_some_iff.mp describes.deploymentId
  rw [describes.mode, describes.adapterId, describes.baseModel, named,
    describes.endpointId, describes.checksum]
  simp only [LoadProof.allows, Bool.and_eq_true, Bool.or_eq_true,
    decide_eq_true_eq, reduceCtorEq, false_or]
  constructor
  · rintro ⟨⟨⟨⟨⟨⟨loaded, adapterId⟩, baseModel⟩, mode⟩, deployment⟩, endpoint⟩, checksum⟩
    refine ⟨loaded, ?_, adapterId, baseModel, mode, ?_, ⟨adapter, found, checksum⟩⟩
    · rw [deployment, map_some, id]
    · intro endpointId given
      rcases endpoint with missing | same
      · rw [missing] at given
        cases given
      · rw [same, given]
  · intro proves
    obtain ⟨registered, lookup, checksum⟩ := proves.checksum
    rw [found] at lookup
    injection lookup with same
    obtain ⟨namedByProof, inProof, proofId⟩ := map_eq_some_iff.mp proves.deployment
    refine ⟨⟨⟨⟨⟨⟨proves.loaded, proves.adapter⟩, proves.baseModel⟩, proves.mode⟩, ?_⟩, ?_⟩, ?_⟩
    · rw [inProof]
      exact congrArg some (Subtype.ext (proofId.trans id.symm))
    · cases given : row.endpointId with
      | none => exact Or.inl rfl
      | some endpointId =>
        exact Or.inr (proves.endpoint endpointId given)
    · rw [checksum, same]

theorem Describes.routes_iff (describes : Describes adapter row spec)
    (found : adapters.lookup row.adapterId = some adapter) :
    spec.routeTraffic = true ↔
      ∃ proof, spec.servingLoadProof = some proof ∧ Proves adapters row proof := by
  rw [describes.routes]
  cases stored : spec.servingLoadProof with
  | none => simp
  | some proof =>
    simpa using describes.allows_iff found proof

end Describes

theorem whenTruthy_text {Value : Type}
    (normalize : Json → Except AdapterError Value) {text : String}
    (visible : text ≠ "") :
    whenTruthy normalize (.text text) = (normalize (.text text)).map some := by
  have truthy : (Json.text text).isTruthy = true := decide_eq_true visible
  rw [whenTruthy, if_pos truthy]

theorem BoundedText.visible {maxLength : Nat}
    (stored : BoundedText maxLength) : stored.val ≠ "" := by
  have valid := stored.property
  simp only [isBounded, Bool.and_eq_true, decide_eq_true_eq] at valid
  exact valid.1.1

theorem normalizeMode_stored (mode : DeployMode) :
    normalizeMode "mode" (orElse (.text mode.text) (.text "single_adapter_live_merge")) =
      .ok mode := by
  cases mode with
  | singleAdapterLiveMerge | multiLora => rfl

def DeploymentId.bounded (id : DeploymentId) : BoundedText 80 :=
  ⟨id.val, isBounded_of_isIdOf (List.all_eq_true.mp (by decide)) id.property⟩

def storedSpec (row : DeploymentRow) (adapter : AdapterRow)
    (proof : Option LoadProof) : DeploySpec :=
  let routeTraffic := proof.any (LoadProof.allows row.mode row.adapterId row.baseModel
      (some (DeploymentId.bounded row.deploymentId)) row.endpointId
      (some adapter.checksum))
  { status :=
    if routeTraffic then "loaded_verified" else "pending_load_proof"
    mode := row.mode
    adapterId := row.adapterId
    baseModel := row.baseModel
    deploymentId := some (DeploymentId.bounded row.deploymentId)
    endpointId := row.endpointId
    artifactChecksum := some adapter.checksum
    routeTraffic := routeTraffic
    servingLoadProof := proof }

theorem describes_storedSpec (row : DeploymentRow) (adapter : AdapterRow)
    (proof : Option LoadProof) :
    Describes adapter row (storedSpec row adapter proof) where
  mode := rfl
  adapterId := rfl
  baseModel := rfl
  deploymentId := rfl
  endpointId := rfl
  checksum := rfl
  routes := rfl

theorem whenTruthy_deploymentId (id : DeploymentId) :
    whenTruthy (normalizeBoundedString "deployment_id" 80)
      (.text id.val) = .ok (some (DeploymentId.bounded id)) := by
  have visible : id.val ≠ "" := BoundedText.visible (DeploymentId.bounded id)
  have stored := normalizeBoundedString_stored "deployment_id" (DeploymentId.bounded id)
  rw [whenTruthy_text _ visible]
  exact congrArg (Except.map some) stored

theorem whenTruthy_checksum (checksum : Checksum) :
    whenTruthy (normalizeChecksum "artifact_checksum_sha256")
      (.text checksum.val) = .ok (some checksum) := by
  rw [whenTruthy_text _ checksum.visible, normalizeChecksum_stored]
  rfl

theorem whenTruthy_endpointId (endpointId : Option (BoundedText 120)) :
    whenTruthy (normalizeBoundedString "endpoint_id" 120)
      ((endpointId.map (fun id => Json.text id.val)).getD .null) =
      .ok endpointId := by
  cases endpointId with
  | none => rfl
  | some id =>
    have stored := normalizeBoundedString_stored "endpoint_id" id
    rw [map_some, getD_some, whenTruthy_text _ id.visible, stored]
    rfl

theorem normalizeAdapterDeploySpec_stored (row : DeploymentRow)
    (adapter : AdapterRow) (servingLoadProof : Json) :
    normalizeAdapterDeploySpec (storedInput row adapter servingLoadProof) =
      (normalizeLoadProof servingLoadProof).map (storedSpec row adapter) := by
  simp only [normalizeAdapterDeploySpec, storedInput, normalizeMode_stored,
    normalizeAdapterId_stored, normalizeBoundedString_stored,
    whenTruthy_deploymentId, whenTruthy_endpointId, whenTruthy_checksum]
  cases normalizeLoadProof servingLoadProof with
  | error failure | ok proof => rfl

theorem describes_of_normalizeDeploySpecForAdapter {adapter : AdapterRow}
    {deploymentId : DeploymentId} {input : Json} {acceptLoadProof : Bool}
    {spec : DeploySpec}
    (accepted : normalizeDeploySpecForAdapter adapter deploymentId input
      acceptLoadProof = .ok spec) (ownerId now : Nat) :
    Describes adapter (newDeployment ownerId adapter deploymentId spec now) spec := by
  rw [normalizeDeploySpecForAdapter, bind_eq_ok_iff] at accepted
  obtain ⟨normal, normalized, checked⟩ := accepted
  split at checked
  · cases checked
  · rename_i same
    cases checked
    simp only [normalizeAdapterDeploySpec, normalizeAdapterId_stored,
      whenTruthy_deploymentId, whenTruthy_checksum, bind_eq_ok_iff]
      at normalized
    obtain ⟨mode, _, adapterId, named, baseModel, _, id, identified,
      endpointId, _, checksum, stamped, proof, _, built⟩ := normalized
    injection named with named
    injection identified with identified
    injection stamped with stamped
    injection built with built
    subst built named identified stamped
    exact
      { mode := rfl
        adapterId := rfl
        baseModel := not_not.mp same
        deploymentId := rfl
        endpointId := rfl
        checksum := rfl
        routes := rfl }

structure Replaced (before after : Database) (row other : DeploymentRow) :
    Prop where
  adapters : after.adapters = before.adapters
  found : before.deployments.lookup row.deploymentId = some row
  lookup : ∀ id, after.deployments.lookup id =
    if id = row.deploymentId then some other
    else before.deployments.lookup id

section Calls

variable {db : Database} {renterId : Option ℚ} {deploymentId : Json}
  {generated : DeploymentId} {row : DeploymentRow} {now : Nat}

theorem addressed_eq_some (reached : addressed db renterId deploymentId generated = some row) :
    normalizePositiveInteger "renter_id" renterId = .ok row.renterId ∧
      normalizeDeploymentId generated deploymentId = .ok row.deploymentId ∧
      db.deployments.lookup row.deploymentId = some row := by
  unfold addressed at reached
  split at reached
  · rename_i ownerId id owner named
    obtain ⟨found, owned⟩ := filter_eq_some_iff.mp reached
    have same := lookup_key found
    have renter := of_decide_eq_true owned
    rw [same, renter]
    exact ⟨owner, named, found⟩
  · cases reached

theorem getAdapterDeployment_of_found (found : db.deployments.lookup row.deploymentId = some row) :
    getAdapterDeployment db row.renterId row.deploymentId = some row := by
  rw [getAdapterDeployment, found]
  exact filter_some_pos (decide_eq_true rfl)

theorem replaced_of_updateWhere (found : db.deployments.lookup row.deploymentId = some row)
    (change : DeploymentRow → DeploymentRow)
    (keeps : ∀ row, (change row).deploymentId = row.deploymentId) :
    Replaced db { db with
      deployments := db.deployments.updateWhere row.deploymentId
        (·.renterId = row.renterId) change keeps }
      row (change row) where
  adapters := rfl
  found := found
  lookup := by
    intro id
    have met : (fun other : DeploymentRow =>
        other.renterId = row.renterId) row := rfl
    exact lookup_updateWhere_of_met keeps found met id

theorem attachDeploymentLoadProof_of_addressed {adapter : AdapterRow}
    (reached : addressed db renterId deploymentId generated = some row)
    (live : row.status ≠ .stopped)
    (registered : getAdapter db.adapters row.renterId row.adapterId = some adapter)
    (servingLoadProof : Json) (now : Nat) :
    attachDeploymentLoadProof db renterId deploymentId servingLoadProof generated now =
      (normalizeLoadProof servingLoadProof).map (fun proof =>
        { db with
          deployments := db.deployments.updateWhere row.deploymentId
            (·.renterId = row.renterId)
            (DeploymentRow.attachProof (storedSpec row adapter proof) now)
            (DeploymentRow.attachProof_deploymentId _ now) }) := by
  obtain ⟨owner, named, found⟩ := addressed_eq_some reached
  have stored := getAdapterDeployment_of_found found
  rw [attachDeploymentLoadProof, owner, named]
  simp only [bind, Except.bind, stored, if_neg live, registered, normalizeAdapterDeploySpec_stored]
  cases normalizeLoadProof servingLoadProof with
  | error failure | ok proof => rfl

theorem attachDeploymentLoadProof_refused
    (refused : ∀ row, addressed db renterId deploymentId generated = some row →
      row.status = .stopped) (servingLoadProof : Json) (now : Nat) :
    ∃ failure, attachDeploymentLoadProof db renterId deploymentId servingLoadProof
      generated now = .error failure := by
  rw [attachDeploymentLoadProof]
  unfold addressed at refused
  cases owner : normalizePositiveInteger "renter_id" renterId with
  | error failure => exact ⟨failure, rfl⟩
  | ok ownerId =>
    cases named : normalizeDeploymentId generated deploymentId with
    | error failure => exact ⟨failure, rfl⟩
    | ok id =>
      rw [owner, named] at refused
      simp only [bind, Except.bind]
      cases found : getAdapterDeployment db ownerId id with
      | none => exact ⟨_, rfl⟩
      | some row =>
        have stopped := refused row found
        exact ⟨_, if_pos stopped⟩

theorem attachAdapterDeploymentLoadProof_cases (db : Database) (renterId : Option ℚ)
    (adapterId deploymentId servingLoadProof : Json)
    (generated : DeploymentId) (now : Nat) :
    (∃ row, addressed db renterId deploymentId generated = some row ∧
      normalizeAdapterId adapterId = .ok row.adapterId ∧
      attachAdapterDeploymentLoadProof db renterId adapterId deploymentId
        servingLoadProof generated now =
        attachDeploymentLoadProof db (some (row.renterId : ℚ))
          (.text row.deploymentId.val) servingLoadProof generated now) ∨
    ((∀ row, addressed db renterId deploymentId generated = some row →
      normalizeAdapterId adapterId ≠ .ok row.adapterId) ∧
      ∃ failure, attachAdapterDeploymentLoadProof db renterId adapterId deploymentId
        servingLoadProof generated now = .error failure) := by
  rw [attachAdapterDeploymentLoadProof]
  unfold addressed
  cases owner : normalizePositiveInteger "renter_id" renterId with
  | error failure =>
    refine Or.inr ⟨?_, failure, rfl⟩
    intro row reached
    cases reached
  | ok ownerId =>
    cases expected : normalizeAdapterId adapterId with
    | error failure =>
      refine Or.inr ⟨?_, failure, rfl⟩
      intro row _ named
      cases named
    | ok expectedId =>
      cases named : normalizeDeploymentId generated deploymentId with
      | error failure =>
        refine Or.inr ⟨?_, failure, rfl⟩
        intro row reached
        cases reached
      | ok id =>
        simp only [bind, Except.bind]
        cases stored : getAdapterDeployment db ownerId id with
        | none =>
          refine Or.inr ⟨?_, _, rfl⟩
          intro row reached
          cases reached
        | some row =>
          obtain ⟨found, owned⟩ := filter_eq_some_iff.mp stored
          have key := lookup_key found
          have renter := of_decide_eq_true owned
          by_cases same : row.adapterId = expectedId
          · refine Or.inl ⟨row, rfl, ?_, ?_⟩
            · rw [same]
            · rw [key, renter]
              exact if_pos (decide_eq_true same)
          · refine Or.inr ⟨?_, _, if_neg ?_⟩
            · intro other reached equal
              injection reached with reached
              injection equal with equal
              exact same (by rw [reached, equal])
            · exact fun holds => same (of_decide_eq_true holds)

theorem addressed_again (reached : addressed db renterId deploymentId generated = some row) :
    addressed db (some (row.renterId : ℚ)) (.text row.deploymentId.val) generated = some row := by
  obtain ⟨owner, _, found⟩ := addressed_eq_some reached
  have positive : 0 < row.renterId := by
    unfold normalizePositiveInteger at owner
    split at owner
    · cases owner
    · rename_i number
      split at owner
      · rename_i whole
        injection owner with owner
        rw [← owner]
        have above := Rat.num_pos.mpr whole.2
        omega
      · cases owner
  have again :
      normalizePositiveInteger "renter_id" (some (row.renterId : ℚ)) = .ok row.renterId := by
    have whole : ((row.renterId : ℚ)).den = 1 ∧ (0 : ℚ) < (row.renterId : ℚ) :=
      ⟨Rat.den_natCast _, Nat.cast_pos.mpr positive⟩
    rw [normalizePositiveInteger, if_pos whole, Rat.num_natCast]
    rfl
  have named :
      normalizeDeploymentId generated (.text row.deploymentId.val) = .ok row.deploymentId := by
    have characters :=
      idCharacters_of_isIdOf (List.all_eq_true.mp (by decide)) row.deploymentId.property
    have same : trim (Json.text row.deploymentId.val).print =
        row.deploymentId.val := trim_of_idCharacters characters
    have valid : isIdOf "adpl_" (trim (Json.text row.deploymentId.val).print) =
        true := by
      rw [same]
      exact row.deploymentId.property
    rw [normalizeDeploymentId, dif_pos valid]
    · exact congrArg Except.ok (Subtype.ext same)
    · intro missing
      cases missing
  rw [addressed, again, named]
  exact getAdapterDeployment_of_found found

variable {status routeTraffic failureReason : Json}

theorem updateDeploymentStatus_of_addressed
    {nextStatus : DeploymentStatus} {reason : Option (BoundedText 240)}
    (reached : addressed db renterId deploymentId generated = some row)
    (named : normalizeStatus status = .ok nextStatus)
    (given : whenTruthy (normalizeBoundedString "failure_reason" 240)
      failureReason = .ok reason) (now : Nat) :
    updateDeploymentStatus db renterId deploymentId status routeTraffic
      failureReason generated now =
      .ok { db with
        deployments := db.deployments.updateWhere row.deploymentId
          (·.renterId = row.renterId)
          (DeploymentRow.setStatus nextStatus (nextStatus = .running && isBoolTrue routeTraffic)
            (reason.map Subtype.val) now)
          (DeploymentRow.setStatus_deploymentId _ _ _ now) } := by
  obtain ⟨owner, id, _⟩ := addressed_eq_some reached
  rw [updateDeploymentStatus, owner, id, named, given]
  rfl

theorem updateDeploymentStatus_refused
    (refused : addressed db renterId deploymentId generated = none ∨
      (∀ nextStatus, normalizeStatus status ≠ .ok nextStatus) ∨
      ∀ reason, whenTruthy (normalizeBoundedString "failure_reason" 240)
        failureReason ≠ .ok reason) (now : Nat) :
    (∃ failure, updateDeploymentStatus db renterId deploymentId status routeTraffic
      failureReason generated now = .error failure) ∨
    updateDeploymentStatus db renterId deploymentId status routeTraffic
      failureReason generated now = .ok db := by
  rw [updateDeploymentStatus]
  unfold addressed at refused
  cases owner : normalizePositiveInteger "renter_id" renterId with
  | error failure => exact Or.inl ⟨failure, rfl⟩
  | ok ownerId =>
    cases identified : normalizeDeploymentId generated deploymentId with
    | error failure => exact Or.inl ⟨failure, rfl⟩
    | ok id =>
      cases named : normalizeStatus status with
      | error failure => exact Or.inl ⟨failure, rfl⟩
      | ok nextStatus =>
        cases given : whenTruthy (normalizeBoundedString "failure_reason" 240) failureReason with
        | error failure => exact Or.inl ⟨failure, rfl⟩
        | ok reason =>
          rw [owner, identified, named, given] at refused
          rcases refused with missing | unnamed | unreasoned
          · right
            have unmet : ¬ db.deployments.changes id (·.renterId = ownerId) := by
              rintro ⟨row, found, owned⟩
              have stored : getAdapterDeployment db ownerId id = some row := by
                rw [getAdapterDeployment, found]
                exact filter_some_pos (decide_eq_true owned)
              change getAdapterDeployment db ownerId id = none at missing
              rw [stored] at missing
              cases missing
            have same := updateWhere_of_unmet (DeploymentRow.setStatus_deploymentId nextStatus
                (nextStatus = .running && isBoolTrue routeTraffic)
                (reason.map Subtype.val) now) unmet
            exact congrArg (fun deployments =>
              Except.ok { db with deployments := deployments }) same
          · exact absurd rfl (unnamed nextStatus)
          · exact absurd rfl (unreasoned reason)

end Calls

/-! ## Steps -/

/-- A row that routes traffic runs, is proven and was never stopped. -/
def Routed (adapters : Registry) (row : DeploymentRow) : Prop :=
  row.routeTraffic = true → row.status = .running ∧ Proven adapters row ∧ row.stoppedAt = none

def RoutesUnstopped (db : Database) : Prop :=
  ∀ id row, db.deployments.lookup id = some row → Routed db.adapters row

structure Sound (db : Database) : Prop where
  owned : ∀ id row, db.deployments.lookup id = some row →
    ∃ adapter, getAdapter db.adapters row.renterId row.adapterId = some adapter
  stamped :
    ∀ id row, db.deployments.lookup id = some row → row.status = .stopped → row.stoppedAt ≠ none

def Extends (before after : Registry) : Prop :=
  ∀ id adapter, before.lookup id = some adapter → ∃ other, after.lookup id = some other ∧
    other.renterId = adapter.renterId ∧ other.checksum = adapter.checksum

theorem Extends.refl (adapters : Registry) : Extends adapters adapters :=
  fun _ adapter found => ⟨adapter, found, rfl, rfl⟩

inductive Effect (before after : Database) : Prop
  | registry (same : after.deployments = before.deployments)
      (kept : Extends before.adapters after.adapters)
  | inserted (row : DeploymentRow) (fresh : before.deployments.lookup row.deploymentId = none)
      (same : after = { before with deployments := before.deployments.insert row fresh })
      (owned : ∃ adapter, getAdapter before.adapters row.renterId row.adapterId = some adapter)
      (routed : Routed before.adapters row)
      (unstopped : row.status ≠ .stopped ∧ row.stoppedAt = none)
  | replaced (row other : DeploymentRow) (replaced : Replaced before after row other)
      (renter : other.renterId = row.renterId)
      (adapter : other.adapterId = row.adapterId)
      (stamped : other.status = .stopped ∧ other.stoppedAt ≠ none ∨
        other.status ≠ .stopped ∧ other.stoppedAt = row.stoppedAt)

section Steps

variable {before after : Database} {adapters : Registry} {adapterId : AdapterId}
    {adapter : AdapterRow} {renterId : Nat}

theorem getAdapter_eq_some (registered : getAdapter adapters renterId adapterId = some adapter) :
    adapters.lookup adapterId = some adapter ∧ adapter.renterId = renterId := by
  obtain ⟨found, owned⟩ := filter_eq_some_iff.mp registered
  exact ⟨found, of_decide_eq_true owned⟩

variable {others : Registry}

theorem Extends.getAdapter (kept : Extends adapters others)
    (registered : Adapters.getAdapter adapters renterId adapterId = some adapter) :
    ∃ other, Adapters.getAdapter others renterId adapterId = some other := by
  obtain ⟨found, owned⟩ := getAdapter_eq_some registered
  obtain ⟨other, stored, renter, _⟩ := kept adapterId adapter found
  refine ⟨other, ?_⟩
  rw [Adapters.getAdapter, stored]
  exact filter_some_pos (decide_eq_true (renter.trans owned))

variable {row : DeploymentRow}

theorem Proven.extends (kept : Extends adapters others)
    (proven : Proven adapters row) : Proven others row := by
  obtain ⟨proof, stored, proves⟩ := proven
  obtain ⟨adapter, found, checksum⟩ := proves.checksum
  obtain ⟨other, registered, _, same⟩ := kept row.adapterId adapter found
  refine ⟨proof, stored, { proves with checksum := ?_ }⟩
  exact ⟨other, registered, by rw [checksum, same]⟩

theorem Effect.sound (effect : Effect before after) (sound : Sound before) :
    Sound after := by
  cases effect with
  | registry same kept =>
    constructor
    · intro id row found
      rw [same] at found
      obtain ⟨adapter, registered⟩ := sound.owned id row found
      exact kept.getAdapter registered
    · intro id row found stopped
      rw [same] at found
      exact sound.stamped id row found stopped
  | inserted row fresh same owned _ unstopped =>
    rw [same]
    constructor
    · intro id other found
      rw [lookup_insert] at found
      split at found
      · cases found
        exact owned
      · exact sound.owned id other found
    · intro id other found stopped
      rw [lookup_insert] at found
      split at found
      · cases found
        exact absurd stopped unstopped.1
      · exact sound.stamped id other found stopped
  | replaced row other replaced renter adapter stamped =>
    constructor
    · intro id stored found
      rw [replaced.lookup] at found
      rw [replaced.adapters]
      split at found
      · injection found with found
        rw [← found, renter, adapter]
        exact sound.owned _ row replaced.found
      · exact sound.owned id stored found
    · intro id stored found stopped
      rw [replaced.lookup] at found
      split at found
      · cases found
        rcases stamped with stop | live
        · exact stop.2
        · exact absurd stopped live.1
      · exact sound.stamped id stored found stopped

variable {id : DeploymentId}

theorem Effect.stamp_kept (effect : Effect before after)
    (found : before.deployments.lookup id = some row)
    (stamped : row.stoppedAt ≠ none) :
    ∃ other, after.deployments.lookup id = some other ∧ other.stoppedAt ≠ none := by
  cases effect with
  | registry same _ =>
    rw [same]
    exact ⟨row, found, stamped⟩
  | inserted fresh absent same _ _ _ =>
    rw [same]
    exact ⟨row, lookup_insert_of_some _ absent found, stamped⟩
  | replaced target other replaced _ _ stop =>
    by_cases here : id = target.deploymentId
    · refine ⟨other, ?_, ?_⟩
      · rw [replaced.lookup, if_pos here]
      · rw [here, replaced.found] at found
        injection found with same
        rcases stop with stop | live
        · exact stop.2
        · rw [live.2, same]
          exact stamped
    · refine ⟨row, ?_, stamped⟩
      rw [replaced.lookup, if_neg here]
      exact found

theorem Effect.stamp_origin (effect : Effect before after)
    (found : after.deployments.lookup id = some row)
    (stamped : row.stoppedAt ≠ none) :
    row.status = .stopped ∨
      ∃ other, before.deployments.lookup id = some other ∧ other.stoppedAt ≠ none := by
  cases effect with
  | registry same _ =>
    rw [same] at found
    exact Or.inr ⟨row, found, stamped⟩
  | inserted fresh absent same _ _ unstopped =>
    rw [same, lookup_insert] at found
    split at found
    · cases found
      exact absurd unstopped.2 stamped
    · exact Or.inr ⟨row, found, stamped⟩
  | replaced target other replaced _ _ stop =>
    rw [replaced.lookup] at found
    split at found
    · rename_i here
      injection found with found
      rcases stop with stop | live
      · rw [← found]
        exact Or.inl stop.1
      · right
        rw [here]
        refine ⟨target, replaced.found, ?_⟩
        rw [← live.2, found]
        exact stamped
    · exact Or.inr ⟨row, found, stamped⟩

theorem Replaced.routes_iff {row other : DeploymentRow} (replaced : Replaced before after row other)
    (unstopped : RoutesUnstopped before) :
    RoutesUnstopped after ↔ Routed before.adapters other := by
  constructor
  · intro kept
    rw [← replaced.adapters]
    exact kept row.deploymentId other (by rw [replaced.lookup, if_pos rfl])
  · intro routed id stored found
    rw [replaced.adapters]
    rw [replaced.lookup] at found
    split at found
    · cases found
      exact routed
    · exact unstopped id stored found

/-- A call that is refused is allowed; one that is accepted has an effect,
and keeps the routing in order when it is allowed and not otherwise. -/
def Accounted (before : Database) (allowed : Prop) :
    Except AdapterError Database → Prop
  | .ok after =>
    Effect before after ∧ (RoutesUnstopped before → (RoutesUnstopped after ↔ allowed))
  | .error _ => allowed

theorem Proves.congr {proof : LoadProof} (proves : Proves adapters row proof)
    (other : DeploymentRow) (deployment : other.deploymentId = row.deploymentId)
    (adapter : other.adapterId = row.adapterId)
    (baseModel : other.baseModel = row.baseModel) (mode : other.mode = row.mode)
    (endpoint : other.endpointId = row.endpointId) :
    Proves adapters other proof where
  loaded := proves.loaded
  deployment := by
    rw [deployment]
    exact proves.deployment
  adapter := by
    rw [adapter]
    exact proves.adapter
  baseModel := by
    rw [baseModel]
    exact proves.baseModel
  mode := by
    rw [mode]
    exact proves.mode
  endpoint := by
    rw [endpoint]
    exact proves.endpoint
  checksum := by
    rw [adapter]
    exact proves.checksum

variable {spec : DeploySpec}

theorem routed_attachProof_iff (describes : Describes adapter row spec)
    (found : adapters.lookup row.adapterId = some adapter) (now : Nat) :
    Routed adapters (row.attachProof spec now) ↔ ∀ proof, spec.servingLoadProof = some proof →
      Proves adapters row proof → row.stoppedAt = none := by
  have matched := describes.routes_iff found
  constructor
  · intro routed proof stored proves
    exact (routed (matched.mpr ⟨proof, stored, proves⟩)).2.2
  · intro unstopped routes
    have routes : spec.routeTraffic = true := routes
    obtain ⟨proof, stored, proves⟩ := matched.mp routes
    refine ⟨if_pos routes, ⟨proof, stored, ?_⟩, unstopped proof stored proves⟩
    exact proves.congr _ rfl rfl rfl rfl rfl

theorem accounted_attachDeploymentLoadProof (sound : Sound before)
    (renterId : Option ℚ) (deploymentId servingLoadProof : Json)
    (generated : DeploymentId) (now : Nat) :
    Accounted before (AttachesToUnstopped before renterId deploymentId servingLoadProof generated)
      (attachDeploymentLoadProof before renterId deploymentId servingLoadProof generated now) := by
  by_cases reachable : ∃ row,
    addressed before renterId deploymentId generated = some row ∧ row.status ≠ .stopped
  · obtain ⟨row, reached, live⟩ := reachable
    obtain ⟨_, _, found⟩ := addressed_eq_some reached
    obtain ⟨adapter, registered⟩ := sound.owned _ row found
    have outcome := attachDeploymentLoadProof_of_addressed reached live
      registered servingLoadProof now
    rw [outcome]
    cases normal : normalizeLoadProof servingLoadProof with
    | error failure =>
      intro other proof _ _ accepted
      rw [normal] at accepted
      cases accepted
    | ok stored =>
      have replaced := replaced_of_updateWhere found
        (DeploymentRow.attachProof (storedSpec row adapter stored) now)
        (DeploymentRow.attachProof_deploymentId _ now)
      have describes := describes_storedSpec row adapter stored
      have lookup := (getAdapter_eq_some registered).1
      refine ⟨.replaced row _ replaced rfl rfl ?_, ?_⟩
      · refine Or.inr ⟨?_, rfl⟩
        rw [DeploymentRow.attachProof]
        split <;> exact fun same => by cases same
      · intro unstopped
        refine (replaced.routes_iff unstopped).trans
          ((routed_attachProof_iff describes lookup now).trans ?_)
        constructor
        · intro kept other proof otherReached _ accepted
          rw [reached] at otherReached
          injection otherReached with same
          rw [normal] at accepted
          injection accepted with accepted
          rw [← same]
          exact kept proof accepted
        · intro kept proof accepted proves
          have accepted : stored = some proof := accepted
          exact kept row proof reached live (by rw [normal, accepted]) proves
  · obtain ⟨failure, outcome⟩ := @attachDeploymentLoadProof_refused before
      renterId deploymentId generated (by
        intro row reached
        by_contra live
        exact reachable ⟨row, reached, live⟩) servingLoadProof now
    rw [outcome]
    intro row proof reached live
    exact absurd ⟨row, reached, live⟩ reachable

theorem accounted_attachAdapterDeploymentLoadProof (sound : Sound before)
    (renterId : Option ℚ) (adapterId deploymentId servingLoadProof : Json)
    (generated : DeploymentId) (now : Nat) :
    Accounted before (∀ row, addressed before renterId deploymentId generated = some row →
      normalizeAdapterId adapterId = .ok row.adapterId →
      AttachesToUnstopped before renterId deploymentId servingLoadProof generated)
      (attachAdapterDeploymentLoadProof before renterId adapterId
        deploymentId servingLoadProof generated now) := by
  rcases attachAdapterDeploymentLoadProof_cases before renterId adapterId
      deploymentId servingLoadProof generated now with
    ⟨row, reached, named, outcome⟩ | ⟨unnamed, failure, outcome⟩
  · have accounted := accounted_attachDeploymentLoadProof sound
      (some (row.renterId : ℚ)) (.text row.deploymentId.val)
      servingLoadProof generated now
    have again := addressed_again reached
    have same : AttachesToUnstopped before (some (row.renterId : ℚ))
        (.text row.deploymentId.val) servingLoadProof generated ↔
          ∀ row, addressed before renterId deploymentId generated = some row →
            normalizeAdapterId adapterId = .ok row.adapterId →
            AttachesToUnstopped before renterId deploymentId servingLoadProof generated := by
      unfold AttachesToUnstopped
      rw [again, reached]
      constructor
      · intro unstopped _ _ _
        exact unstopped
      · intro unstopped
        exact unstopped row rfl named
    rw [outcome]
    rw [propext same] at accounted
    exact accounted
  · rw [outcome]
    intro row reached named
    exact absurd named (unnamed row reached)

theorem accounted_updateDeploymentStatus (renterId : Option ℚ)
    (deploymentId status routeTraffic failureReason : Json)
    (generated : DeploymentId) (now : Nat) :
    Accounted before
      (TurnsOnProven before renterId deploymentId status routeTraffic failureReason generated)
      (updateDeploymentStatus before renterId deploymentId status
        routeTraffic failureReason generated now) := by
  by_cases accepted : ∃ row nextStatus reason,
    addressed before renterId deploymentId generated = some row ∧
      normalizeStatus status = .ok nextStatus ∧
      whenTruthy (normalizeBoundedString "failure_reason" 240) failureReason = .ok reason
  · obtain ⟨row, nextStatus, reason, reached, named, given⟩ := accepted
    obtain ⟨_, _, found⟩ := addressed_eq_some reached
    rw [updateDeploymentStatus_of_addressed reached named given now]
    have replaced := replaced_of_updateWhere found (DeploymentRow.setStatus nextStatus
        (nextStatus = .running && isBoolTrue routeTraffic)
        (reason.map Subtype.val) now)
      (DeploymentRow.setStatus_deploymentId _ _ _ now)
    refine ⟨.replaced row _ replaced rfl rfl ?_, ?_⟩
    · by_cases stop : nextStatus = .stopped
      · refine Or.inl ⟨stop, ?_⟩
        rw [DeploymentRow.setStatus, if_pos stop]
        exact some_ne_none now
      · exact Or.inr ⟨stop, if_neg stop⟩
    · intro unstopped
      refine (replaced.routes_iff unstopped).trans ?_
      constructor
      · intro routed other otherReason otherReached running routes _
        rw [reached] at otherReached
        injection otherReached with same
        rw [named] at running
        injection running with running
        have on : (decide (nextStatus = .running) && isBoolTrue routeTraffic) =
            true := by
          rw [decide_eq_true running, routes]
          rfl
        obtain ⟨_, ⟨proof, stored, proves⟩, none⟩ := routed on
        have live : ¬ nextStatus = .stopped := by
          rw [running]
          exact fun same => by cases same
        rw [← same]
        refine ⟨⟨proof, stored, proves.congr _ rfl rfl rfl rfl rfl⟩, ?_⟩
        exact (if_neg live).symm.trans none
      · intro proven routes
        have on : (decide (nextStatus = .running) && isBoolTrue routeTraffic) =
            true := routes
        rw [Bool.and_eq_true, decide_eq_true_eq] at on
        obtain ⟨⟨proof, stored, proves⟩, none⟩ :=
          proven row reason reached (by rw [named, on.1]) on.2 given
        have live : ¬ nextStatus = .stopped := by
          rw [on.1]
          exact fun same => by cases same
        exact ⟨on.1, ⟨proof, stored, proves.congr _ rfl rfl rfl rfl rfl⟩, (if_neg live).trans none⟩
  · have allowed : TurnsOnProven before renterId deploymentId status
        routeTraffic failureReason generated := by
      intro row reason reached named _ given
      exact absurd ⟨row, _, reason, reached, named, given⟩ accepted
    have refused : addressed before renterId deploymentId generated = none ∨
        (∀ nextStatus, normalizeStatus status ≠ .ok nextStatus) ∨
        ∀ reason, whenTruthy (normalizeBoundedString "failure_reason" 240)
          failureReason ≠ .ok reason := by
      cases reached : addressed before renterId deploymentId generated with
      | none => exact Or.inl rfl
      | some row =>
        right
        by_contra both
        push Not at both
        obtain ⟨⟨nextStatus, named⟩, reason, given⟩ := both
        exact accepted ⟨row, nextStatus, reason, reached, named, given⟩
    rcases updateDeploymentStatus_refused refused now with ⟨failure, outcome⟩ | outcome
    · rw [outcome]
      exact allowed
    · rw [outcome]
      exact ⟨.registry rfl (Extends.refl _), fun unstopped => iff_of_true unstopped allowed⟩

variable {now : Nat}

theorem createAdapterDeployment_eq_ok {renterId : Option ℚ}
    {input : Json} {acceptLoadProof : Bool} {generated : DeploymentId}
    (created :
      createAdapterDeployment before renterId input acceptLoadProof generated now = .ok after) :
    ∃ ownerId adapter deploymentId spec,
      getAdapter before.adapters ownerId adapter.adapterId = some adapter ∧
        normalizeDeploySpecForAdapter adapter deploymentId input acceptLoadProof = .ok spec ∧
        insertDeployment before
          (newDeployment ownerId adapter deploymentId spec now) = .ok after := by
  rw [createAdapterDeployment, bind_eq_ok_iff] at created
  obtain ⟨ownerId, _, created⟩ := created
  rw [bind_eq_ok_iff] at created
  obtain ⟨adapterId, _, created⟩ := created
  cases registered : getAdapter before.adapters ownerId adapterId with
  | none =>
    rw [registered] at created
    cases created
  | some adapter =>
    rw [registered] at created
    dsimp only at created
    split at created
    · cases created
    · rw [bind_eq_ok_iff] at created
      obtain ⟨deploymentId, _, created⟩ := created
      rw [bind_eq_ok_iff] at created
      obtain ⟨spec, described, inserted⟩ := created
      have key := lookup_key (getAdapter_eq_some registered).1
      refine ⟨ownerId, adapter, deploymentId, spec, ?_, described, inserted⟩
      rw [key]
      exact registered

theorem routed_newDeployment {deploymentId : DeploymentId} {ownerId now : Nat}
    (describes : Describes adapter (newDeployment ownerId adapter deploymentId spec now) spec)
    (found : adapters.lookup adapter.adapterId = some adapter) :
    Routed adapters (newDeployment ownerId adapter deploymentId spec now) := by
  intro routes
  have routes : spec.routeTraffic = true := routes
  exact ⟨if_pos routes, (describes.routes_iff found).mp routes, rfl⟩

theorem accounted_createAdapterDeployment
    (renterId : Option ℚ) (input : Json) (acceptLoadProof : Bool)
    (generated : DeploymentId) (now : Nat) :
    Accounted before True
      (createAdapterDeployment before renterId input acceptLoadProof generated now) := by
  cases outcome : createAdapterDeployment before renterId input acceptLoadProof generated now with
  | error failure => exact trivial
  | ok after =>
    obtain ⟨ownerId, adapter, deploymentId, spec, registered, described,
      inserted⟩ := createAdapterDeployment_eq_ok outcome
    have describes := describes_of_normalizeDeploySpecForAdapter described ownerId now
    have routed := routed_newDeployment describes (getAdapter_eq_some registered).1
    unfold insertDeployment at inserted
    split at inserted
    · rename_i fresh
      injection inserted with same
      refine ⟨.inserted _ fresh same.symm ⟨adapter, registered⟩ routed ⟨?_, rfl⟩, ?_⟩
      · rw [newDeployment]
        split <;> exact fun same => by cases same
      · intro unstopped
        refine iff_of_true ?_ trivial
        intro id row found
        rw [← same] at found ⊢
        rw [lookup_insert] at found
        split at found
        · cases found
          exact routed
        · exact unstopped id row found
    · cases inserted

theorem accounted_of_extends (kept : Extends before.adapters adapters) :
    Accounted before True (.ok { before with adapters := adapters }) := by
  refine ⟨.registry rfl kept, ?_⟩
  intro unstopped
  refine iff_of_true ?_ trivial
  intro id row found routes
  obtain ⟨running, proven, none⟩ := unstopped id row found routes
  exact ⟨running, proven.extends kept, none⟩

theorem extends_createAdapter (created : createAdapter adapters adapter = .ok others) :
    Extends adapters others := by
  unfold createAdapter at created
  split at created
  · rename_i absent
    injection created with same
    intro id stored found
    rw [← same]
    exact ⟨stored, lookup_insert_of_some _ absent found, rfl, rfl⟩
  · cases created

theorem extends_updateAdapterStatus {renterId : Option ℚ} {status : Option Json}
    {deployedAt : Option Nat}
    (updated : updateAdapterStatus adapters renterId adapterId status deployedAt now = .ok others) :
    Extends adapters others := by
  rw [updateAdapterStatus, bind_eq_ok_iff] at updated
  obtain ⟨ownerId, _, updated⟩ := updated
  rw [bind_eq_ok_iff] at updated
  obtain ⟨nextStatus, _, updated⟩ := updated
  injection updated with same
  intro id stored found
  rw [← same]
  by_cases here : id = adapterId
  · by_cases owned : stored.renterId = ownerId
    · subst here
      let stamp := deployedAt.or (if nextStatus = .deployed then some now else none)
      refine ⟨stored.setStatus nextStatus now stamp, ?_, rfl, rfl⟩
      have keeps := AdapterRow.setStatus_adapterId nextStatus now stamp
      have met : (fun adapter : AdapterRow => adapter.renterId = ownerId) stored := owned
      have updated : (adapters.updateWhere id (·.renterId = ownerId)
          (AdapterRow.setStatus nextStatus now stamp) keeps).lookup id =
          if id = id then some (stored.setStatus nextStatus now stamp)
          else adapters.lookup id :=
        lookup_updateWhere_of_met keeps found met id
      rw [if_pos rfl] at updated
      exact updated
    · refine ⟨stored, ?_, rfl, rfl⟩
      rw [updateWhere_of_unmet]
      · exact found
      · rintro ⟨other, otherFound, met⟩
        rw [← here, found] at otherFound
        cases otherFound
        exact owned met
  · refine ⟨stored, ?_, rfl, rfl⟩
    rw [lookup_updateWhere_of_ne _ _ here]
    exact found

theorem accounted_perform (sound : Sound before) (action : Action) :
    Accounted before (Allowed before action) (perform before action) := by
  cases action with
  | createAdapter adapter =>
    rw [perform]
    cases created : createAdapter before.adapters adapter with
    | error failure => exact trivial
    | ok adapters =>
      exact accounted_of_extends (extends_createAdapter created)
  | updateAdapterStatus renterId adapterId status deployedAt now =>
    rw [perform]
    cases updated : updateAdapterStatus before.adapters renterId adapterId
        status deployedAt now with
    | error failure => exact trivial
    | ok adapters =>
      exact accounted_of_extends (extends_updateAdapterStatus updated)
  | createAdapterDeployment renterId input acceptLoadProof generated now =>
    exact accounted_createAdapterDeployment renterId input acceptLoadProof generated now
  | attachDeploymentLoadProof renterId deploymentId servingLoadProof generated now =>
    exact accounted_attachDeploymentLoadProof sound renterId
      deploymentId servingLoadProof generated now
  | attachAdapterDeploymentLoadProof renterId adapterId deploymentId
      servingLoadProof generated now =>
      exact accounted_attachAdapterDeploymentLoadProof sound renterId
        adapterId deploymentId servingLoadProof generated now
  | updateDeploymentStatus renterId deploymentId status routeTraffic failureReason generated now =>
    exact accounted_updateDeploymentStatus renterId deploymentId status
      routeTraffic failureReason generated now

theorem next_step (sound : Sound before) {action : Action}
    (fires : Fires next before action after) :
    Effect before after ∧
      (RoutesUnstopped before → (RoutesUnstopped after ↔ Allowed before action)) := by
  have accounted := accounted_perform sound action
  rw [Fires, next] at fires
  cases outcome : perform before action with
  | error failure =>
    rw [outcome] at fires accounted
    cases fires
    exact ⟨.registry rfl (Extends.refl _), fun unstopped => iff_of_true unstopped accounted⟩
  | ok target =>
    rw [outcome] at fires accounted
    cases fires
    exact accounted

end Steps

section Runs

variable {start finish : Database} {actions : List Action}

theorem sound_of_run (sound : Sound start)
    (run : Run (Fires next) start actions finish) : Sound finish :=
  run.invariant Sound (fun sound fires => (next_step sound fires).1.sound sound) sound

variable {id : DeploymentId} {row : DeploymentRow}

theorem stamp_kept_of_run (sound : Sound start) (run : Run (Fires next) start actions finish)
    (found : start.deployments.lookup id = some row)
    (stamped : row.stoppedAt ≠ none) :
    ∃ other, finish.deployments.lookup id = some other ∧ other.stoppedAt ≠ none := by
  induction run generalizing row with
  | nil state =>
    exact ⟨row, found, stamped⟩
  | cons fires _ ih =>
    have effect := (next_step sound fires).1
    obtain ⟨other, stored, kept⟩ := effect.stamp_kept found stamped
    exact ih (effect.sound sound) stored kept

theorem stopped_of_stamp (sound : Sound start) (run : Run (Fires next) start actions finish)
    (found : finish.deployments.lookup id = some row)
    (stamped : row.stoppedAt ≠ none) :
    (∃ other, start.deployments.lookup id = some other ∧ other.stoppedAt ≠ none) ∨
    ∃ earlier later middle stopped, actions = earlier ++ later ∧
      Run (Fires next) start earlier middle ∧
      Run (Fires next) middle later finish ∧
      middle.deployments.lookup id = some stopped ∧
      stopped.status = .stopped := by
  induction run with
  | nil state =>
    exact Or.inl ⟨row, found, stamped⟩
  | cons fires remaining ih =>
    have effect := (next_step sound fires).1
    rcases ih (effect.sound sound) found with
      ⟨other, stored, kept⟩ | ⟨earlier, later, middle, stopped, split, front, back, stored, status⟩
    · rcases effect.stamp_origin stored kept with status | origin
      · exact Or.inr ⟨[_], _, _, other, rfl, Run.single fires, remaining, stored, status⟩
      · exact Or.inl origin
    · exact Or.inr ⟨_ :: earlier, later, middle, stopped,
        congrArg _ split, Run.cons fires front, back, stored, status⟩

theorem next_total (db : Database) (action : Action) :
    ∃ after, next db action = some after := by
  rw [next]
  cases perform db action with
  | error failure => exact ⟨db, rfl⟩
  | ok after => exact ⟨after, rfl⟩

theorem staying_iff_allowed (sound : Sound start) (unstopped : RoutesUnstopped start) :
    Run (staying (Fires next) RoutesUnstopped) start actions finish ↔
      Run (guarded (Fires next) Allowed) start actions finish :=
  Run.staying_iff_guarded Sound RoutesUnstopped Allowed
    (fun sound _ fires _ => (next_step sound fires).1.sound sound)
    (fun sound unstopped fires => (next_step sound fires).2 unstopped)
    sound unstopped

def Database.fresh (adapters : Registry) : Database :=
  { adapters := adapters, deployments := Table.empty }

theorem sound_fresh (adapters : Registry) :
    Sound (Database.fresh adapters) where
  owned := fun _ _ found => by cases found
  stamped := fun _ _ found => by cases found

theorem routesUnstopped_fresh (adapters : Registry) :
    RoutesUnstopped (Database.fresh adapters) :=
  fun _ _ found => by cases found

/-- From registered adapters without a deployment, a sequence of calls routes
traffic with a matching proof only, and never from what was stopped, exactly
when every call that turns routing on addresses a deployment that was never
stopped and whose proof, stored or attached, matches. -/
theorem routes_safely_iff (adapters : Registry) (actions : List Action) :
    RoutesSafely (Database.fresh adapters) actions ↔
      ∃ finish, Run (guarded (Fires next) Allowed) (Database.fresh adapters) actions finish := by
  have sound := sound_fresh adapters
  have unstopped := routesUnstopped_fresh adapters
  constructor
  · intro safely
    obtain ⟨finish, run⟩ := exists_run_of_total next_total actions (Database.fresh adapters)
    refine ⟨finish, (staying_iff_allowed sound unstopped).mp (run.staying_of_forall ?_)⟩
    intro first rest middle split earlier id row found routes
    have here := safely [] first rest _ middle split (Run.nil _) earlier
    obtain ⟨running, proven⟩ := here.1 id row found routes
    refine ⟨running, proven, ?_⟩
    by_contra stamped
    rcases stopped_of_stamp sound earlier found stamped
        with ⟨other, ⟨⟩, _⟩ | ⟨front, later, state, stopped, same, toState, onward, stored, status⟩
    have off := (safely front later rest state middle
      (by rw [split, same]) toState onward).2 id stopped row stored status found
    rw [off] at routes
    cases routes
  · rintro ⟨finish, run⟩ earlier later rest middle target split toMiddle toTarget
    have staying := (staying_iff_allowed sound unstopped).mpr run
    rw [split] at staying
    have routed := Run.holds_of_append unstopped staying (toMiddle.append toTarget)
    constructor
    · intro id row found routes
      obtain ⟨running, proven, _⟩ := routed id row found routes
      exact ⟨running, proven⟩
    · intro id stopped row stored status found
      have middleSound := sound_of_run sound toMiddle
      have stamped := middleSound.stamped id stopped stored status
      obtain ⟨other, same, kept⟩ := stamp_kept_of_run middleSound toTarget stored stamped
      rw [found] at same
      cases same
      by_contra routes
      exact kept (routed id row found ((Bool.not_eq_false _).mp routes)).2.2

def sampleAdapter : AdapterRow :=
  { adapterId := ⟨"adpt_sample1", by decide⟩
    renterId := 1
    baseModel := ⟨"model", by decide⟩
    checksum := ⟨"cccccccccccccccccccccccccccccccccccccccccccccccccccccccccccccccc", by decide⟩
    status := .ready
    updatedAt := 0
    deployedAt := none }

def sampleId : DeploymentId :=
  ⟨"adpl_sample1", by decide⟩

def sampleRegistry : Registry :=
  Table.empty.insert sampleAdapter rfl

def routingWithoutProof : List Action :=
  [.createAdapterDeployment (some 1)
    (.object [("adapter_id", .text "adpt_sample1")]) false sampleId 1000,
    .updateDeploymentStatus (some 1) (.text "adpl_sample1")
      (.text "running") (.bool true) .null sampleId 2000]

theorem routed_without_proof :
    ∃ adapters actions, ¬ RoutesSafely (Database.fresh adapters) actions := by
  obtain ⟨target, executed, routed⟩ := @exists_of_execute_any _ _ next
    (fun target => (target.deployments.lookup sampleId).any
      (fun row => row.routeTraffic && row.servingLoadProof = none) = true)
    _ routingWithoutProof (Database.fresh sampleRegistry)
    (by decide +kernel)
  refine ⟨sampleRegistry, routingWithoutProof, ?_⟩
  intro safely
  obtain ⟨row, found, unproven⟩ := (any_eq_true _ _).mp routed
  rw [Bool.and_eq_true, decide_eq_true_eq] at unproven
  obtain ⟨proof, stored, _⟩ := ((safely [] routingWithoutProof [] _ target rfl (Run.nil _)
      (run_of_execute executed)).1 sampleId row found unproven.1).2
  rw [unproven.2] at stored
  cases stored

end Runs

theorem deployments_keep_adapters_and_stops {adapters : Registry} {earlier later : List Action}
    {middle finish : Database} (front : Run (Fires next) (Database.fresh adapters) earlier middle)
    (back : Run (Fires next) middle later finish) :
    (∀ id row, finish.deployments.lookup id = some row →
      ∃ adapter, getAdapter finish.adapters row.renterId row.adapterId = some adapter) ∧
    ∀ id row, middle.deployments.lookup id = some row → row.status = .stopped →
      ∃ other, finish.deployments.lookup id = some other ∧ other.stoppedAt ≠ none := by
  have sound := sound_of_run (sound_fresh adapters) front
  refine ⟨(sound_of_run sound back).owned, ?_⟩
  intro id row found stopped
  exact stamp_kept_of_run sound back found (sound.stamped id row found stopped)

def stoppedDeployment : List Action :=
  [.createAdapterDeployment (some 1)
    (.object [("adapter_id", .text "adpt_sample1")]) false sampleId 1000,
    .updateDeploymentStatus (some 1) (.text "adpl_sample1")
      (.text "stopped") .null .null sampleId 2000]

theorem deployments_keep_adapters_and_stops_sample :
    ∃ middle finish, Run (Fires next) (Database.fresh sampleRegistry) stoppedDeployment middle ∧
      Run (Fires next) middle routingWithoutProof finish ∧
      ∃ other, finish.deployments.lookup sampleId = some other ∧ other.stoppedAt ≠ none := by
  obtain ⟨middle, executed, stopped⟩ := @exists_of_execute_any _ _ next
    (fun middle => (middle.deployments.lookup sampleId).any
      (fun row => row.status = .stopped) = true)
    _ stoppedDeployment (Database.fresh sampleRegistry) (by decide +kernel)
  obtain ⟨finish, onward⟩ := exists_run_of_total next_total routingWithoutProof middle
  obtain ⟨row, found, status⟩ := (any_eq_true _ _).mp stopped
  have front := run_of_execute executed
  exact ⟨middle, finish, front, onward, (deployments_keep_adapters_and_stops front onward).2
    sampleId row found (of_decide_eq_true status)⟩

end DcpPlatform.Adapters
