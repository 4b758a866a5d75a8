import DcpPlatform.Foundation.Table
import DcpPlatform.Foundation.Transition

/-!
# The presence of providers

Heartbeats, a health worker, three sweeps, the recovery engine, security
findings and administrators write `providers.status`. The rounding of an age
in days, and what the writers do to jobs, are left out.
-/

namespace DcpPlatform.Providers

open Foundation

inductive ProviderStatus where
  | pending | registered | connected | online | degraded | disconnected
  | offline | paused | active | flagged | suspended | deleted | cancelled
  deriving DecidableEq

def ProviderStatus.isQuarantine : ProviderStatus → Bool
  | .flagged => true
  | .suspended => true
  | _ => false

inductive ApprovalStatus where
  | pending | approved | rejected
  deriving DecidableEq

/-- What the writers read of a row of `providers`. -/
structure Provider where
  id : Nat
  status : ProviderStatus
  approvalStatus : ApprovalStatus
  isBurst : Bool
  deletedAt : Option Int
  lastHeartbeat : Option Int
  consecutiveHealthFailures : Nat

abbrev ProviderTable := Table Provider Provider.id

structure Settings where
  allowPendingHeartbeat : Bool
  autoApprove : Bool
  aliveThresholdSecs : Int
  failureThreshold : Nat

def Settings.standard : Settings :=
  { allowPendingHeartbeat := false
    autoApprove := true
    aliveThresholdSecs := 300
    failureThreshold := 3 }

def ProviderStatus.unlessQuarantined (status reported : ProviderStatus) :
    ProviderStatus :=
  if status.isQuarantine then status else reported

def Provider.mayBeat (settings : Settings) (provider : Provider) : Prop :=
  provider.approvalStatus = .approved ∨
    (provider.approvalStatus = .pending ∧ settings.allowPendingHeartbeat = true)

instance (settings : Settings) (provider : Provider) :
    Decidable (provider.mayBeat settings) :=
  inferInstanceAs (Decidable (_ ∨ _))

def Provider.acceptsHeartbeat (settings : Settings) (provider : Provider) :
    Prop :=
  provider.deletedAt = none ∧ provider.mayBeat settings

instance (settings : Settings) (provider : Provider) :
    Decidable (provider.acceptsHeartbeat settings) :=
  inferInstanceAs (Decidable (_ ∧ _))

def runtimeStatus (containerRestarts : Nat) : ProviderStatus :=
  if 10 < containerRestarts then .degraded else .online

def Provider.heartbeat (settings : Settings) (containerRestarts : Nat)
    (now : Int) (provider : Provider) : Provider :=
  { provider with
    approvalStatus :=
      if provider.approvalStatus = .pending ∧ settings.autoApprove = true
      then .approved
      else provider.approvalStatus
    lastHeartbeat := some now
    status := provider.status.unlessQuarantined (runtimeStatus containerRestarts) }

def Provider.restHeartbeat (now : Int) (provider : Provider) : Provider :=
  { provider with
    lastHeartbeat := some now
    status := provider.status.unlessQuarantined .online }

/-- The worker's memory of consecutive failures. -/
abbrev FailureCounts := Nat → Option Nat

def Provider.isChecked (provider : Provider) : Prop :=
  provider.status ∉ [ProviderStatus.pending, ProviderStatus.deleted, ProviderStatus.cancelled] ∧
    provider.deletedAt = none ∧ provider.isBurst = false

instance (provider : Provider) : Decidable provider.isChecked :=
  inferInstanceAs (Decidable (_ ∧ _))

def Provider.heartbeatAgeSecs (now : Int) (provider : Provider) :
    Option Int :=
  provider.lastHeartbeat.map (fun beat => (now - beat) / 1000)

def Provider.isAlive (settings : Settings) (now : Int) (provider : Provider) : Prop :=
  (provider.heartbeatAgeSecs now).any (fun age => age ≤ settings.aliveThresholdSecs) = true

instance (settings : Settings) (now : Int) (provider : Provider) :
    Decidable (provider.isAlive settings now) :=
  inferInstanceAs (Decidable (_ = true))

def Provider.failures (counts : FailureCounts) (provider : Provider) : Nat :=
  (counts provider.id).getD provider.consecutiveHealthFailures

def Provider.check (settings : Settings) (failures : Nat) (now : Int)
    (provider : Provider) : Provider :=
  if provider.isAlive settings now then
    let wasOffline := settings.failureThreshold ≤ failures ∨ provider.status = .offline
    { provider with
      status :=
        if wasOffline ∧ provider.status = .offline then .online
        else provider.status
      consecutiveHealthFailures := 0 }
  else
    { provider with
      status :=
        if settings.failureThreshold ≤ failures + 1 ∧ provider.status ≠ .offline
        then .offline
        else provider.status
      consecutiveHealthFailures := failures + 1 }

def Provider.failuresAfter (settings : Settings) (failures : Nat)
    (now : Int) (provider : Provider) : Nat :=
  if provider.isAlive settings now then 0 else failures + 1

def Provider.afterCheck (settings : Settings) (counts : FailureCounts)
    (now : Int) (provider : Provider) : Provider :=
  if provider.isChecked then
    provider.check settings (provider.failures counts) now
  else
    provider

@[simp]
theorem Provider.afterCheck_id (settings : Settings)
    (counts : FailureCounts) (now : Int) (provider : Provider) :
    (provider.afterCheck settings counts now).id = provider.id := by
  simp only [Provider.afterCheck, Provider.check]
  split <;> try split
  all_goals rfl

def providerOfflineThresholdSecs : Int := 5 * 60

/-- `CAST(... AS INTEGER)` drops the fraction. -/
def Provider.isStale (now : Int) (provider : Provider) : Prop :=
  provider.lastHeartbeat.all (fun beat =>
    providerOfflineThresholdSecs < (now - beat).tdiv 1000) = true

instance (now : Int) (provider : Provider) :
    Decidable (provider.isStale now) :=
  inferInstanceAs (Decidable (_ = true))

def Provider.isSweptOffline (now : Int) (provider : Provider) : Prop :=
  provider.status ≠ .offline ∧ provider.isBurst = false ∧ provider.isStale now

instance (now : Int) (provider : Provider) :
    Decidable (provider.isSweptOffline now) :=
  inferInstanceAs (Decidable (_ ∧ _))

def staleThresholdMs : Int := 90 * 1000

/-- The selection of the recovery engine and of the fallback loop, which see
no provider without a heartbeat. -/
def Provider.isDisconnected (now : Int) (provider : Provider) : Prop :=
  provider.status = .online ∧ provider.isBurst = false ∧
    provider.lastHeartbeat.any (fun beat => beat < now - staleThresholdMs) = true

instance (now : Int) (provider : Provider) :
    Decidable (provider.isDisconnected now) :=
  inferInstanceAs (Decidable (_ ∧ _))

def Provider.isSilent (now : Int) (provider : Provider) : Prop :=
  (provider.status = .online ∨ provider.status = .degraded) ∧ provider.isBurst = false ∧
    provider.lastHeartbeat.all (fun beat => beat < now - staleThresholdMs) = true

instance (now : Int) (provider : Provider) :
    Decidable (provider.isSilent now) :=
  inferInstanceAs (Decidable (_ ∧ _))

def Provider.swept (selects : Provider → Prop) [DecidablePred selects]
    (status : ProviderStatus) (provider : Provider) : Provider :=
  if selects provider then { provider with status := status } else provider

@[simp]
theorem Provider.swept_id (selects : Provider → Prop)
    [DecidablePred selects] (status : ProviderStatus) (provider : Provider) :
    (provider.swept selects status).id = provider.id := by
  unfold Provider.swept
  split <;> rfl

structure Fleet where
  providers : ProviderTable
  failureCounts : FailureCounts

def Fleet.opening (providers : ProviderTable) : Fleet :=
  { providers := providers, failureCounts := fun _ => none }

def runHealthCheck (settings : Settings) (fleet : Fleet) (now : Int) :
    Fleet where
  providers := fleet.providers.updateAll (Provider.afterCheck settings fleet.failureCounts now)
    (Provider.afterCheck_id settings fleet.failureCounts now)
  failureCounts := fun id =>
    match fleet.providers.lookup id with
    | none => fleet.failureCounts id
    | some provider =>
      if provider.isChecked then
        some (provider.failuresAfter settings (provider.failures fleet.failureCounts) now)
      else
        fleet.failureCounts id

def Fleet.sweep (selects : Provider → Prop) [DecidablePred selects]
    (status : ProviderStatus) (fleet : Fleet) : Fleet :=
  { fleet with
    providers :=
      fleet.providers.updateAll (Provider.swept selects status) (Provider.swept_id selects status) }

def sweepOfflineProviders (fleet : Fleet) (now : Int) : Fleet :=
  fleet.sweep (Provider.isSweptOffline now) .offline

def detectDisconnectedProviders (fleet : Fleet) (now : Int) : Fleet :=
  fleet.sweep (Provider.isDisconnected now) .disconnected

def handleDisconnects (fleet : Fleet) (now : Int) : Fleet :=
  fleet.sweep (Provider.isDisconnected now) .disconnected

def runLivenessSweep (fleet : Fleet) (now : Int) : Fleet :=
  fleet.sweep (Provider.isSilent now) .offline

/-- `handleMiningDetected` keeps a suspension. -/
def ProviderStatus.onMiningDetected (status : ProviderStatus) :
    ProviderStatus :=
  if status = .suspended then .suspended else .flagged

def Fleet.write (providerId : Nat) (guard : Provider → Prop)
    [DecidablePred guard] (change : Provider → Provider)
    (keeps : ∀ provider, (change provider).id = provider.id)
    (fleet : Fleet) : Fleet :=
  { fleet with
    providers := fleet.providers.updateWhere providerId guard change keeps }

def Provider.withStatus (change : ProviderStatus → ProviderStatus)
    (provider : Provider) : Provider :=
  { provider with status := change provider.status }

inductive Action where
  | heartbeat (providerId containerRestarts : Nat) (now : Int)
  | restHeartbeat (providerId : Nat) (now : Int)
  | healthCheck (now : Int)
  | offlineSweep (now : Int)
  | recoveryCycle (now : Int)
  | fallbackLoop (now : Int)
  | livenessSweep (now : Int)
  | restartWorker
  | miningDetected (providerId : Nat)
  | verificationFailed (providerId : Nat)
  | suspend (providerId : Nat)
  | unsuspend (providerId : Nat)

/-- Every request and every worker may run at any time. -/
def next (settings : Settings) (fleet : Fleet) : Action → Option Fleet
  | .heartbeat providerId containerRestarts now =>
    some (fleet.write providerId (Provider.acceptsHeartbeat settings)
      (Provider.heartbeat settings containerRestarts now)
      (fun _ => rfl))
  | .restHeartbeat providerId now =>
    some (fleet.write providerId (Provider.mayBeat settings)
      (Provider.restHeartbeat now) (fun _ => rfl))
  | .healthCheck now => some (runHealthCheck settings fleet now)
  | .offlineSweep now => some (sweepOfflineProviders fleet now)
  | .recoveryCycle now => some (detectDisconnectedProviders fleet now)
  | .fallbackLoop now => some (handleDisconnects fleet now)
  | .livenessSweep now => some (runLivenessSweep fleet now)
  | .restartWorker =>
    some { fleet with failureCounts := fun _ => none }
  | .miningDetected providerId =>
    some (fleet.write providerId (fun _ => True)
      (Provider.withStatus ProviderStatus.onMiningDetected)
      (fun _ => rfl))
  | .verificationFailed providerId =>
    some (fleet.write providerId (fun _ => True)
      (Provider.withStatus (fun _ => .suspended)) (fun _ => rfl))
  | .suspend providerId =>
    some (fleet.write providerId (fun _ => True)
      (Provider.withStatus (fun _ => .suspended)) (fun _ => rfl))
  | .unsuspend providerId =>
    some (fleet.write providerId (fun _ => True)
      (Provider.withStatus (fun _ => .offline)) (fun _ => rfl))

def Action.administered : Action → Option Nat
  | .suspend providerId => some providerId
  | .unsuspend providerId => some providerId
  | _ => none

end DcpPlatform.Providers
