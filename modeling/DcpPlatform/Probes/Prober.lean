import DcpPlatform.Foundation.Table
import DcpPlatform.Foundation.Transition

/-!
# The reachability prober

For each online provider a sweep probes the registered endpoint, lists the
engines, probes every engine and writes a verdict. A heartbeat may write in
between. The failures of an engine are counted in a map that a restart
empties.
-/

namespace DcpPlatform.Probes

open Foundation

inductive EngineType where
  | ollama | vllm | llamacpp
  deriving DecidableEq

structure EngineReport where
  engineType : EngineType
  baseUrl : String
  port : Nat

structure Engine where
  providerId : Nat
  engineType : EngineType
  baseUrl : String
  port : Nat
  reachable : Bool
  lastProbedAt : Option Nat
  lastProbeError : Option String

def Engine.key (engine : Engine) : Nat × EngineType :=
  (engine.providerId, engine.engineType)

structure Provider where
  id : Nat
  online : Bool
  isPaused : Bool
  deletedAt : Option Nat
  lastHeartbeat : Option Nat
  endpointReachable : Bool
  endpointProbedAt : Option Nat
  endpointProbeError : Option String
  endpointProbeFailures : Nat

inductive Probed where
  | ok
  | failed (error : String)

def Probed.isOk : Probed → Bool
  | .ok => true
  | .failed _ => false

/-- The mesh address first, then the registered endpoint, where there are such. -/
def probeOne (mesh endpoint : Option Probed) : Probed :=
  match mesh with
  | some .ok => .ok
  | _ => endpoint.getD (.failed "no_endpoint_url")

inductive Phase where
  | endpoint
  | engines (legacy : Probed) (listed pending : List EngineType) (succeeded : Bool)

structure Probe where
  provider : Provider
  phase : Phase

structure History where
  everSucceeded : Bool
  failedSince : Nat

structure Prober where
  providers : Table Provider Provider.id
  engines : Table Engine Engine.key
  engineFailures : Nat × EngineType → Nat
  probes : Nat → Option Probe
  history : Nat → History

def probeHeartbeatStaleMs : Nat := 5 * 60 * 1000

def unreachableThreshold : Nat := 3

def engineUnreachableThreshold : Nat := 2

def Provider.IsProbed (now : Nat) (provider : Provider) : Prop :=
  provider.online = true ∧ provider.isPaused = false ∧ provider.deletedAt = none ∧
    ∃ heard ∈ provider.lastHeartbeat, now ≤ heard + probeHeartbeatStaleMs
deriving Decidable

def Provider.heard (now : Nat) (provider : Provider) : Provider :=
  { provider with lastHeartbeat := some now }

def Provider.configured (online isPaused : Bool) (deletedAt : Option Nat)
    (provider : Provider) : Provider :=
  { provider with online, isPaused, deletedAt }

/-- The columns that a heartbeat writes over an engine it reports. -/
def Engine.reported (report : EngineReport) (engine : Engine) : Engine :=
  { engine with baseUrl := report.baseUrl, port := report.port, reachable := true }

def Engine.ofReport (providerId : Nat) (report : EngineReport) : Engine where
  providerId := providerId
  engineType := report.engineType
  baseUrl := report.baseUrl
  port := report.port
  reachable := true
  lastProbedAt := none
  lastProbeError := none

theorem Engine.reported_key (report : EngineReport) (engine : Engine) :
    (engine.reported report).key = engine.key :=
  rfl

def upsertEngine (providerId : Nat) (engines : Table Engine Engine.key)
    (report : EngineReport) : Table Engine Engine.key :=
  match engines.lookup (providerId, report.engineType) with
  | none => engines.insertIfNew (Engine.ofReport providerId report)
  | some _ => engines.update (providerId, report.engineType) (Engine.reported report)
      (Engine.reported_key report)

def Engine.probed (now failures : Nat) (probed : Probed) (engine : Engine) : Engine :=
  match probed with
  | .ok => { engine with
    reachable := true, lastProbedAt := some now, lastProbeError := none }
  | .failed error =>
    if engineUnreachableThreshold ≤ failures then
      { engine with
        reachable := false, lastProbedAt := some now, lastProbeError := some error }
    else
      { engine with
        lastProbedAt := some now, lastProbeError := some s!"probe_fail_{failures}" }

theorem Engine.probed_key (now failures : Nat) (probed : Probed) (engine : Engine) :
    (engine.probed now failures probed).key = engine.key := by
  cases probed with
  | ok => rfl
  | failed error =>
    simp only [Engine.probed]
    split <;> rfl

def verdict (selected : Provider) (legacy : Probed) (engineOk : Bool) (now : Nat)
    (provider : Provider) : Provider :=
  if legacy.isOk || engineOk then
    { provider with
      endpointReachable := true
      endpointProbedAt := some now
      endpointProbeError := none
      endpointProbeFailures := 0 }
  else
    let fails := selected.endpointProbeFailures + 1
    if unreachableThreshold ≤ fails then
      { provider with
        endpointReachable := false
        endpointProbedAt := some now
        endpointProbeError :=
          match legacy with
          | .ok => none
          | .failed error => some error
        endpointProbeFailures := fails }
    else
      { provider with
        -- a provider that was never probed is not promoted
        endpointReachable := selected.endpointReachable && selected.endpointProbedAt.isSome
        endpointProbedAt := some now
        endpointProbeError := some s!"probe_fail_{fails}/{unreachableThreshold}"
        endpointProbeFailures := fails }

theorem verdict_id (selected : Provider) (legacy : Probed) (engineOk : Bool) (now : Nat)
    (provider : Provider) :
    (verdict selected legacy engineOk now provider).id = provider.id := by
  simp only [verdict]
  split
  · rfl
  · split <;> rfl

def History.after (succeeded : Bool) (history : History) : History :=
  if succeeded then ⟨true, 0⟩ else { history with failedSince := history.failedSince + 1 }

namespace Prober

variable (prober : Prober)

def IsIdle : Prop :=
  ∀ provider ∈ prober.providers.rows, prober.probes provider.id = none
deriving Decidable

def enginesOf (providerId : Nat) : List Engine :=
  prober.engines.rows.filter (fun engine => engine.providerId = providerId)

def setProbe (providerId : Nat) (probe : Option Probe) : Prober :=
  { prober with probes := Function.update prober.probes providerId probe }

def heartbeat (providerId now : Nat) (reports : List EngineReport) : Prober :=
  { prober with
    providers := prober.providers.update providerId (Provider.heard now) (fun _ => rfl)
    engines := reports.foldl (upsertEngine providerId) prober.engines }

def configure (providerId : Nat) (online isPaused : Bool) (deletedAt : Option Nat) : Prober :=
  { prober with
    providers := prober.providers.update providerId
      (Provider.configured online isPaused deletedAt) (fun _ => rfl) }

def beginSweep (now : Nat) : Prober :=
  { prober with
    probes := fun providerId =>
      match prober.providers.lookup providerId with
      | none => none
      | some provider =>
        if provider.IsProbed now then some ⟨provider, .endpoint⟩ else none }

def endpointAnswered (provider : Provider) (legacy : Probed) : Prober :=
  let listed := (prober.enginesOf provider.id).map Engine.engineType
  prober.setProbe provider.id (some ⟨provider, .engines legacy listed listed false⟩)

def engineAnswered (provider : Provider) (legacy : Probed) (listed pending : List EngineType)
    (succeeded : Bool) (engineType : EngineType) (now : Nat) (probed : Probed) : Prober :=
  let failures := if probed.isOk then 0 else
    prober.engineFailures (provider.id, engineType) + 1
  { prober.setProbe provider.id (some ⟨provider,
      .engines legacy listed (pending.erase engineType) (succeeded || probed.isOk)⟩) with
    engineFailures := Function.update prober.engineFailures (provider.id, engineType) failures
    engines := prober.engines.update (provider.id, engineType)
      (Engine.probed now failures probed) (Engine.probed_key now failures probed) }

/-- Every engine has answered: the flags are read again and the verdict is
written. -/
def decideReachable (provider : Provider) (legacy : Probed) (listed : List EngineType)
    (succeeded : Bool) (now : Nat) : Prober :=
  let engineOk := !listed.isEmpty && (prober.enginesOf provider.id).any Engine.reachable
  { prober.setProbe provider.id none with
    providers := prober.providers.update provider.id
      (verdict provider legacy engineOk now) (verdict_id provider legacy engineOk now)
    history := Function.update prober.history provider.id
      ((prober.history provider.id).after (legacy.isOk || succeeded)) }

/-- The process stops: the sweep and the engine counters are lost. -/
def restart : Prober :=
  { prober with engineFailures := fun _ => 0, probes := fun _ => none }

end Prober

inductive Action where
  | heartbeat (providerId now : Nat) (reports : List EngineReport)
  | configure (providerId : Nat) (online isPaused : Bool) (deletedAt : Option Nat)
  | beginSweep (now : Nat)
  | endpointAnswered (providerId : Nat) (mesh endpoint : Option Probed)
  | engineAnswered (providerId : Nat) (engineType : EngineType) (now : Nat) (probed : Probed)
  | decideReachable (providerId now : Nat)
  | restart

def next (prober : Prober) : Action → Option Prober
  | .heartbeat providerId now reports => some (prober.heartbeat providerId now reports)
  | .configure providerId online isPaused deletedAt =>
    some (prober.configure providerId online isPaused deletedAt)
  | .beginSweep now => if prober.IsIdle then some (prober.beginSweep now) else none
  | .endpointAnswered providerId mesh endpoint =>
    match prober.probes providerId with
    | some ⟨provider, .endpoint⟩ =>
      some (prober.endpointAnswered provider (probeOne mesh endpoint))
    | _ => none
  | .engineAnswered providerId engineType now probed =>
    match prober.probes providerId with
    | some ⟨provider, .engines legacy listed pending succeeded⟩ =>
      if engineType ∈ pending then
        some (prober.engineAnswered provider legacy listed pending succeeded engineType now probed)
      else none
    | _ => none
  | .decideReachable providerId now =>
    match prober.probes providerId with
    | some ⟨provider, .engines legacy listed [] succeeded⟩ =>
      some (prober.decideReachable provider legacy listed succeeded now)
    | _ => none
  | .restart => some prober.restart

end DcpPlatform.Probes
