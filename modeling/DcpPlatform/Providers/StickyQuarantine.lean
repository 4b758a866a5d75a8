import DcpPlatform.Providers.Presence

/-!
# Security quarantine is sticky

The heartbeats, the recovery engine, the fallback loop and the liveness
monitor leave a flagged or suspended provider alone. The health worker and the
sweep of offline providers do not, and the next heartbeat brings it online.
-/

namespace DcpPlatform.Providers

open Foundation Table Option

def Fleet.Quarantines (providerId : Nat) (fleet : Fleet) : Prop :=
  (fleet.providers.lookup providerId).any (fun provider => provider.status.isQuarantine) = true

instance (providerId : Nat) (fleet : Fleet) :
    Decidable (fleet.Quarantines providerId) :=
  inferInstanceAs (Decidable (_ = true))

def Unadministered (providerId : Nat) (_ : Fleet) (action : Action) : Prop :=
  action.administered ≠ some providerId
deriving Decidable

/-- The steps between two actions of an administrator on the provider. -/
def unadministered (settings : Settings) (providerId : Nat) :
    Fleet → Action → Fleet → Prop :=
  guarded (Fires (next settings)) (Unadministered providerId)

/-- The worker selects the provider, misses its heartbeat, and has missed it
often enough. -/
def Provider.isGivenUp (settings : Settings) (counts : FailureCounts)
    (now : Int) (provider : Provider) : Prop :=
  provider.isChecked ∧ ¬ provider.isAlive settings now ∧
    settings.failureThreshold ≤ provider.failures counts + 1

instance (settings : Settings) (counts : FailureCounts) (now : Int) (provider : Provider) :
    Decidable (provider.isGivenUp settings counts now) :=
  inferInstanceAs (Decidable (_ ∧ _))

/-- The health worker does not give the provider up, and no sweep finds its
heartbeat stale. -/
def Spares (settings : Settings) (providerId : Nat) (fleet : Fleet) :
    Action → Prop
  | .healthCheck now =>
    (fleet.providers.lookup providerId).all (fun provider =>
      ¬ provider.isGivenUp settings fleet.failureCounts now) = true
  | .offlineSweep now =>
    (fleet.providers.lookup providerId).all (fun provider =>
      ¬ provider.isSweptOffline now) = true
  | _ => True

instance (settings : Settings) (providerId : Nat) (fleet : Fleet) (action : Action) :
    Decidable (Spares settings providerId fleet action) := by
  cases action
  case healthCheck => exact inferInstanceAs (Decidable (_ = true))
  case offlineSweep => exact inferInstanceAs (Decidable (_ = true))
  all_goals exact inferInstanceAs (Decidable True)

/-- A write to the row of one provider, as any row sees it. -/
def Provider.written (providerId : Nat) (guard : Provider → Prop)
    [DecidablePred guard] (change : Provider → Provider)
    (provider : Provider) : Provider :=
  if provider.id = providerId ∧ guard provider then change provider
  else provider

def Action.effect (settings : Settings) (counts : FailureCounts) :
    Action → Provider → Provider
  | .heartbeat providerId containerRestarts now =>
    Provider.written providerId (Provider.acceptsHeartbeat settings)
      (Provider.heartbeat settings containerRestarts now)
  | .restHeartbeat providerId now =>
    Provider.written providerId (Provider.mayBeat settings) (Provider.restHeartbeat now)
  | .healthCheck now => Provider.afterCheck settings counts now
  | .offlineSweep now =>
    Provider.swept (Provider.isSweptOffline now) .offline
  | .recoveryCycle now =>
    Provider.swept (Provider.isDisconnected now) .disconnected
  | .fallbackLoop now =>
    Provider.swept (Provider.isDisconnected now) .disconnected
  | .livenessSweep now =>
    Provider.swept (Provider.isSilent now) .offline
  | .restartWorker => id
  | .miningDetected providerId =>
    Provider.written providerId (fun _ => True)
      (Provider.withStatus ProviderStatus.onMiningDetected)
  | .verificationFailed providerId =>
    Provider.written providerId (fun _ => True) (Provider.withStatus (fun _ => .suspended))
  | .suspend providerId =>
    Provider.written providerId (fun _ => True) (Provider.withStatus (fun _ => .suspended))
  | .unsuspend providerId =>
    Provider.written providerId (fun _ => True) (Provider.withStatus (fun _ => .offline))

theorem lookup_write (fleet : Fleet) (written : Nat)
    (guard : Provider → Prop) [DecidablePred guard] (change : Provider → Provider)
    (keeps : ∀ provider, (change provider).id = provider.id) (providerId : Nat) :
    (fleet.write written guard change keeps).providers.lookup providerId =
      (fleet.providers.lookup providerId).map (Provider.written written guard change) := by
  simp only [Fleet.write, updateWhere, lookup_update]
  cases found : fleet.providers.lookup providerId with
  | none => simp
  | some provider =>
    have rowKey := lookup_key found
    by_cases here : providerId = written <;> simp [here, Provider.written, rowKey]

theorem lookup_sweep (fleet : Fleet) (selects : Provider → Prop)
    [DecidablePred selects] (status : ProviderStatus) (providerId : Nat) :
    (fleet.sweep selects status).providers.lookup providerId =
      (fleet.providers.lookup providerId).map (Provider.swept selects status) :=
  lookup_updateAll _ _ (Provider.swept_id selects status) _

variable {settings : Settings} {fleet after : Fleet} {action : Action}

theorem lookup_of_next (taken : next settings fleet action = some after) (providerId : Nat) :
    after.providers.lookup providerId =
      (fleet.providers.lookup providerId).map (action.effect settings fleet.failureCounts) := by
  cases action with
  | healthCheck now =>
    obtain rfl := some.inj taken
    exact lookup_updateAll _ _ (Provider.afterCheck_id settings fleet.failureCounts now) _
  | restartWorker =>
    obtain rfl := some.inj taken
    exact (map_id_apply).symm
  | offlineSweep now | recoveryCycle now | fallbackLoop now | livenessSweep now =>
    obtain rfl := some.inj taken
    apply lookup_sweep
  | heartbeat | restHeartbeat | miningDetected | verificationFailed
  | suspend | unsuspend =>
    obtain rfl := some.inj taken
    apply lookup_write

section Quarantine

variable {provider : Provider} {status : ProviderStatus}

theorem isQuarantine_unlessQuarantined
    (reported : ProviderStatus) (quarantined : status.isQuarantine = true) :
    (status.unlessQuarantined reported).isQuarantine = true := by
  rw [ProviderStatus.unlessQuarantined, if_pos quarantined]
  exact quarantined

theorem not_offline_of_quarantine (quarantined : status.isQuarantine = true) :
    status ≠ .offline := by
  intro same
  rw [same] at quarantined
  cases quarantined

theorem quarantine_written {providerId : Nat} {guard : Provider → Prop}
    [DecidablePred guard] {change : Provider → Provider}
    (quarantined : provider.status.isQuarantine = true)
    (kept : provider.id = providerId → (change provider).status.isQuarantine = true) :
    (provider.written providerId guard change).status.isQuarantine =
      true := by
  unfold Provider.written
  split
  · rename_i applies
    exact kept applies.1
  · exact quarantined

theorem quarantine_swept_iff {selects : Provider → Prop}
    [DecidablePred selects] {status : ProviderStatus}
    (released : status.isQuarantine = false)
    (quarantined : provider.status.isQuarantine = true) :
    (provider.swept selects status).status.isQuarantine = true ↔ ¬ selects provider := by
  unfold Provider.swept
  split
  · rename_i selected
    simp [released, selected]
  · rename_i spared
    simp [quarantined, spared]

theorem quarantine_swept {selects : Provider → Prop} [DecidablePred selects]
    (quarantined : provider.status.isQuarantine = true)
    (spared : ¬ selects provider) :
    (provider.swept selects status).status.isQuarantine = true := by
  rw [Provider.swept, if_neg spared]
  exact quarantined

variable {now : Int}

theorem not_isDisconnected_of_quarantine (quarantined : provider.status.isQuarantine = true) :
    ¬ provider.isDisconnected now := by
  intro disconnected
  rw [disconnected.1] at quarantined
  cases quarantined

theorem not_isSilent_of_quarantine (quarantined : provider.status.isQuarantine = true) :
    ¬ provider.isSilent now := by
  intro silent
  rcases silent.1 with online | degraded
  · rw [online] at quarantined
    cases quarantined
  · rw [degraded] at quarantined
    cases quarantined

theorem quarantine_check_iff (settings : Settings) (counts : FailureCounts)
    (now : Int) (quarantined : provider.status.isQuarantine = true) :
    (provider.afterCheck settings counts now).status.isQuarantine = true ↔
      ¬ provider.isGivenUp settings counts now := by
  have running := not_offline_of_quarantine quarantined
  unfold Provider.afterCheck Provider.isGivenUp
  by_cases checked : provider.isChecked
  · rw [if_pos checked, Provider.check]
    by_cases alive : provider.isAlive settings now
    · simp [alive, running, quarantined]
    · by_cases enough : settings.failureThreshold ≤ provider.failures counts + 1
      · simp [checked, alive, enough, running, ProviderStatus.isQuarantine]
      · simp [alive, enough, quarantined]
  · simp [checked, quarantined]

end Quarantine

variable {providerId : Nat}

theorem quarantines_iff :
    fleet.Quarantines providerId ↔ ∃ provider, fleet.providers.lookup providerId = some provider ∧
      provider.status.isQuarantine = true := by
  rw [Fleet.Quarantines, any_eq_true]

theorem quarantines_of_next_iff (quarantined : fleet.Quarantines providerId)
    (taken : unadministered settings providerId fleet action after) :
    after.Quarantines providerId ↔ Spares settings providerId fleet action := by
  obtain ⟨other, fires⟩ := taken
  obtain ⟨provider, found, held⟩ := quarantines_iff.mp quarantined
  have rowKey := lookup_key found
  rw [Fleet.Quarantines, lookup_of_next fires, found, map_some, any_some]
  cases action with
  | heartbeat beating containerRestarts now | restHeartbeat beating now =>
    refine iff_of_true (quarantine_written held (fun _ => ?_)) trivial
    exact isQuarantine_unlessQuarantined _ held
  | healthCheck now =>
    have kept := quarantine_check_iff settings fleet.failureCounts now held
    simpa [Spares, Action.effect, found] using kept
  | offlineSweep now =>
    have kept := @quarantine_swept_iff provider (Provider.isSweptOffline now) _ .offline rfl held
    simpa [Spares, Action.effect, found] using kept
  | recoveryCycle now | fallbackLoop now =>
    exact iff_of_true (quarantine_swept held (not_isDisconnected_of_quarantine held)) trivial
  | livenessSweep now =>
    exact iff_of_true (quarantine_swept held (not_isSilent_of_quarantine held)) trivial
  | restartWorker =>
    exact iff_of_true held trivial
  | miningDetected mining =>
    refine iff_of_true (quarantine_written held (fun _ => ?_)) trivial
    simp only [Provider.withStatus, ProviderStatus.onMiningDetected]
    split <;> rfl
  | verificationFailed failing | suspend suspended =>
    exact iff_of_true (quarantine_written held (fun _ => rfl)) trivial
  | unsuspend released =>
    refine iff_of_true (quarantine_written held (fun here => ?_)) trivial
    exact absurd (congrArg some (here.symm.trans rowKey)) other

/-- Between two actions of an administrator, a quarantine lasts through
exactly the runs whose health checks do not give the provider up and whose
sweeps do not find its heartbeat stale. -/
theorem quarantine_sticky_iff (settings : Settings) (providerId : Nat)
    (start : Fleet) (quarantined : start.Quarantines providerId)
    (actions : List Action) (target : Fleet) :
    Run (staying (unadministered settings providerId)
      (Fleet.Quarantines providerId)) start actions target ↔
      Run (guarded (unadministered settings providerId)
        (Spares settings providerId)) start actions target := by
  refine Run.staying_iff_guarded (fun _ => True)
    (Fleet.Quarantines providerId) (Spares settings providerId) ?_ ?_
    trivial quarantined
  · intros
    trivial
  · intro source middle action _ held taken
    exact quarantines_of_next_iff held taken

def quarantinedFleet : Fleet :=
  Fleet.opening (Table.empty.insert
    { id := 1
      status := .flagged
      approvalStatus := .approved
      isBurst := false
      deletedAt := none
      lastHeartbeat := some 0
      consecutiveHealthFailures := 0 }
    rfl)

theorem quarantine_sticky_sample :
    ∃ target, Run (staying (unadministered Settings.standard 1)
      (Fleet.Quarantines 1)) quarantinedFleet
        [.healthCheck 300000, .heartbeat 1 0 301000, .offlineSweep 400000,
          .livenessSweep 500000, .healthCheck 700000] target := by
  obtain ⟨target, executed, _⟩ := @exists_of_execute_any _ _ (restricted
      (restricted (next Settings.standard) (Unadministered 1))
      (Spares Settings.standard 1)) (fun _ => True) _
      [.healthCheck 300000, .heartbeat 1 0 301000, .offlineSweep 400000,
        .livenessSweep 500000, .healthCheck 700000]
      quarantinedFleet (by decide +kernel)
  refine ⟨target, (quarantine_sticky_iff Settings.standard 1
    quarantinedFleet (by decide +kernel) _ target).mpr ?_⟩
  refine (run_guarded_of_execute executed).mono ?_
  intro source after action taken
  exact ⟨taken.1, guarded_of_fires taken.2⟩

/-- After a gap of six minutes the sweep turns a flagged provider offline,
and its next heartbeat turns it online. -/
theorem flagged_comes_online :
    quarantinedFleet.Quarantines 1 ∧ ∃ target,
      Run (unadministered Settings.standard 1) quarantinedFleet
        [.offlineSweep 360000, .heartbeat 1 0 361000] target ∧
        (target.providers.lookup 1).map Provider.status = some .online := by
  refine ⟨by decide +kernel, ?_⟩
  obtain ⟨target, executed, online⟩ := @exists_of_execute_any _ _
      (restricted (next Settings.standard) (Unadministered 1))
      (fun target =>
        (target.providers.lookup 1).map Provider.status = some .online) _
      [.offlineSweep 360000, .heartbeat 1 0 361000]
      quarantinedFleet (by decide +kernel)
  exact ⟨target, run_guarded_of_execute executed, online⟩

end DcpPlatform.Providers
