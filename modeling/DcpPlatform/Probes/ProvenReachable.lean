import DcpPlatform.Probes.Prober

/-!
# Reachability is proven by a probe

A verdict reads the flags of the engines again, and the heartbeat writes the
same flags, so a provider may be marked reachable on the strength of a flag
alone. Otherwise it has answered some probe and failed fewer sweeps since than
the threshold.
-/

namespace DcpPlatform.Probes

open Foundation Table Option

variable {prober after : Prober} {provider selected : Provider} {history : History}
  {legacy : Probed}

/-- No provider is reachable without an answer, or after the threshold. -/
def ProvenReachable (prober : Prober) : Prop :=
  ∀ provider ∈ prober.providers.rows, (provider.endpointReachable = true →
    (prober.history provider.id).everSucceeded = true ∧
      (prober.history provider.id).failedSince < unreachableThreshold) ∧
    (unreachableThreshold ≤ (prober.history provider.id).failedSince →
      provider.endpointReachable = false)
deriving Decidable

/-- When the endpoint and every engine have failed, no engine is still
marked reachable. -/
def NoFlagLeft (prober : Prober) : Action → Prop
  | .decideReachable providerId _ =>
    match prober.probes providerId with
    | some ⟨provider, .engines legacy _ _ succeeded⟩ =>
      (legacy.isOk || succeeded) = false →
        ∀ engine ∈ prober.enginesOf provider.id, engine.reachable = false
    | _ => True
  | _ => True

instance (prober : Prober) : DecidablePred (NoFlagLeft prober) := by
  intro action
  unfold NoFlagLeft
  split
  · split
    · exact inferInstanceAs (Decidable (_ → ∀ _ ∈ _, _))
    · exact instDecidableTrue
  · exact instDecidableTrue

structure Counted (history : History) (provider : Provider) : Prop where
  failures : history.failedSince ≤ provider.endpointProbeFailures
  proven : provider.endpointReachable = true →
    history.everSucceeded = true ∧ provider.endpointProbeFailures < unreachableThreshold

structure Kept (prober : Prober) : Prop where
  rows : ∀ provider ∈ prober.providers.rows, Counted (prober.history provider.id) provider
  probes : ∀ providerId, ∀ probe ∈ prober.probes providerId,
    probe.provider.id = providerId ∧ Counted (prober.history providerId) probe.provider

theorem provenReachable_of_kept (kept : Kept prober) : ProvenReachable prober := by
  intro provider member
  have counted := kept.rows provider member
  have short (reachable : provider.endpointReachable = true) :
      (prober.history provider.id).failedSince < unreachableThreshold :=
    Nat.lt_of_le_of_lt counted.failures (counted.proven reachable).2
  refine ⟨fun reachable => ⟨(counted.proven reachable).1, short reachable⟩, ?_⟩
  intro long
  by_contra reachable
  have below := short (by simpa using reachable)
  omega

theorem counted_verdict {engineOk succeeded : Bool} (now : Nat) (counted : Counted history selected)
    (noFlag : (legacy.isOk || succeeded) = false → engineOk = false) :
    Counted (history.after (legacy.isOk || succeeded))
      (verdict selected legacy engineOk now provider) := by
  have failures := counted.failures
  have proven := counted.proven
  cases shown : legacy.isOk || succeeded with
  | false =>
    have failed : (legacy.isOk || engineOk) = false := by
      have legacyFailed := (Bool.or_eq_false_iff.mp shown).1
      simp [legacyFailed, noFlag shown]
    simp only [verdict, failed, Bool.false_eq_true, if_false]
    split
    · exact ⟨by simp [History.after, failures], by simp⟩
    · rename_i few
      refine ⟨by simp [History.after, failures], ?_⟩
      intro reachable
      have before := (Bool.and_eq_true_iff.mp reachable).1
      exact ⟨by simpa [History.after] using (proven before).1, Nat.lt_of_not_le few⟩
  | true =>
    simp only [verdict]
    split
    · exact ⟨Nat.le_refl 0, fun _ => ⟨rfl, by simp [unreachableThreshold]⟩⟩
    · split
      · exact ⟨Nat.zero_le _, by simp⟩
      · rename_i few
        exact ⟨Nat.zero_le _, fun _ => ⟨rfl, Nat.lt_of_not_le few⟩⟩

theorem Kept.of_update (kept : Kept prober) (providerId : Nat)
    (change : Provider → Provider) (keeps : ∀ row, (change row).id = row.id)
    (columns : ∀ row, (change row).endpointReachable = row.endpointReachable ∧
      (change row).endpointProbeFailures = row.endpointProbeFailures)
    (providers : after.providers = prober.providers.update providerId change keeps)
    (probes : after.probes = prober.probes) (history : after.history = prober.history) :
    Kept after := by
  refine ⟨?_, by rw [probes, history]; exact kept.probes⟩
  intro provider member
  rw [providers] at member
  have found := lookup_of_mem member
  rcases lookup_of_lookup_update keeps found with ⟨_, earlier, stored, rfl⟩ | ⟨_, stored⟩
  · have counted := kept.rows earlier (lookup_mem stored)
    rw [history, keeps]
    exact ⟨by rw [(columns earlier).2]; exact counted.failures,
      by rw [(columns earlier).1, (columns earlier).2]; exact counted.proven⟩
  · rw [history]
    exact kept.rows provider (lookup_mem stored)

theorem Kept.of_probe (kept : Kept prober) {phase : Phase} {providerId : Nat} {earlier : Phase}
    (waiting : prober.probes providerId = some ⟨provider, earlier⟩)
    (providers : after.providers = prober.providers) (history : after.history = prober.history)
    (probes : after.probes = Function.update prober.probes provider.id (some ⟨provider, phase⟩)) :
    Kept after := by
  obtain ⟨rfl, counted⟩ := kept.probes providerId _ waiting
  refine ⟨by rw [providers, history]; exact kept.rows, ?_⟩
  intro other probe found
  rw [probes, Function.update_apply] at found
  rw [history]
  split at found
  · rename_i same
    obtain rfl := some.inj found
    rw [same]
    exact ⟨rfl, counted⟩
  · exact kept.probes other probe found

theorem Kept.of_sweep (kept : Kept prober) (now : Nat) : Kept (prober.beginSweep now) := by
  refine ⟨kept.rows, ?_⟩
  intro providerId probe found
  simp only [Prober.beginSweep, mem_def] at found
  split at found
  · cases found
  · rename_i provider stored
    obtain ⟨_, rfl⟩ := of_ite_eq_some found
    have same := lookup_key stored
    exact ⟨same, same ▸ kept.rows provider (lookup_mem stored)⟩

theorem Kept.of_verdict (kept : Kept prober) {providerId : Nat} {listed : List EngineType}
    {succeeded : Bool} {phase : Phase} (now : Nat)
    (waiting : prober.probes providerId = some ⟨provider, phase⟩)
    (noFlag : (legacy.isOk || succeeded) = false →
      ∀ engine ∈ prober.enginesOf provider.id, engine.reachable = false) :
    Kept (prober.decideReachable provider legacy listed succeeded now) := by
  obtain ⟨rfl, counted⟩ := kept.probes providerId _ waiting
  refine ⟨?_, ?_⟩
  · intro other member
    have found := lookup_of_mem member
    have otherHistory := Function.update_apply prober.history provider.id
      ((prober.history provider.id).after (legacy.isOk || succeeded)) other.id
    simp only [Prober.decideReachable] at found ⊢
    rw [otherHistory]
    rcases lookup_of_lookup_update (verdict_id _ _ _ _) found with
      ⟨same, earlier, stored, rfl⟩ | ⟨different, stored⟩
    · rw [if_pos same]
      refine counted_verdict now counted ?_
      intro failed
      have unmarked := noFlag failed
      simp only [Bool.and_eq_false_iff, List.any_eq_false, Bool.not_eq_true]
      exact Or.inr unmarked
    · rw [if_neg different]
      exact kept.rows other (lookup_mem stored)
  · intro other probe found
    simp only [Prober.decideReachable, Prober.setProbe, mem_def] at found ⊢
    by_cases same : other = provider.id
    · simp [same] at found
    · rw [Function.update_of_ne same] at found ⊢
      exact kept.probes other probe found

theorem kept_next {action : Action} (kept : Kept prober) (noFlag : NoFlagLeft prober action)
    (fires : Fires next prober action after) : Kept after := by
  cases action with
  | heartbeat providerId now reports =>
    obtain rfl := some.inj fires
    exact kept.of_update providerId (Provider.heard now) (fun _ => rfl)
      (fun _ => ⟨rfl, rfl⟩) rfl rfl rfl
  | configure providerId online isPaused deletedAt =>
    obtain rfl := some.inj fires
    exact kept.of_update providerId (Provider.configured online isPaused deletedAt)
      (fun _ => rfl) (fun _ => ⟨rfl, rfl⟩) rfl rfl rfl
  | beginSweep now =>
    obtain ⟨_, rfl⟩ := of_ite_eq_some fires
    exact kept.of_sweep now
  | endpointAnswered providerId mesh endpoint =>
    simp only [Fires, next] at fires
    split at fires
    · rename_i provider waiting
      obtain rfl := some.inj fires
      exact kept.of_probe waiting rfl rfl rfl
    · cases fires
  | engineAnswered providerId engineType now probed =>
    simp only [Fires, next] at fires
    split at fires
    · rename_i provider legacy listed pending succeeded waiting
      obtain ⟨_, rfl⟩ := of_ite_eq_some fires
      exact kept.of_probe waiting rfl rfl rfl
    · cases fires
  | decideReachable providerId now =>
    simp only [Fires, next] at fires
    split at fires
    · rename_i provider legacy listed succeeded waiting
      obtain rfl := some.inj fires
      simp only [NoFlagLeft, waiting] at noFlag
      exact kept.of_verdict now waiting noFlag
    · cases fires
  | restart =>
    obtain rfl := some.inj fires
    exact ⟨kept.rows, by simp [Prober.restart]⟩

def Prober.opening (providers : Table Provider Provider.id)
    (engines : Table Engine Engine.key) : Prober where
  providers := providers
  engines := engines
  engineFailures := fun _ => 0
  probes := fun _ => none
  history := fun _ => ⟨false, 0⟩

/-- Where no verdict rests on a flag alone, a provider that was unreachable
at first is reachable only with an answer and before the threshold. -/
theorem reachable_only_proven (providers : Table Provider Provider.id)
    (engines : Table Engine Engine.key)
    (unproven : ∀ provider ∈ providers.rows, provider.endpointReachable = false)
    {actions : List Action}
    (run : Run (guarded (Fires next) NoFlagLeft) (Prober.opening providers engines) actions
      prober) :
    ProvenReachable prober := by
  have opening : Kept (Prober.opening providers engines) := by
    refine ⟨?_, by simp [Prober.opening]⟩
    intro provider member
    exact ⟨Nat.zero_le _, by simp [unproven provider member]⟩
  apply provenReachable_of_kept
  exact run.invariant Kept (fun kept taken => kept_next kept taken.1 taken.2) opening

def newProvider : Provider where
  id := 1
  online := true
  isPaused := false
  deletedAt := none
  lastHeartbeat := none
  endpointReachable := false
  endpointProbedAt := none
  endpointProbeError := none
  endpointProbeFailures := 0

def newPlatform : Prober :=
  .opening (Table.empty.insert newProvider rfl) Table.empty

def fadingEngine : List Action :=
  [.heartbeat 1 0 [⟨.vllm, "http://10.8.0.6:8000", 8000⟩], .beginSweep 1,
    .endpointAnswered 1 none none, .engineAnswered 1 .vllm 2 .ok, .decideReachable 1 2,
    .beginSweep 3, .endpointAnswered 1 none (some .ok),
    .engineAnswered 1 .vllm 3 (.failed "fetch failed"), .decideReachable 1 3,
    .beginSweep 4, .endpointAnswered 1 none none,
    .engineAnswered 1 .vllm 4 (.failed "fetch failed"), .decideReachable 1 4]

theorem reachable_only_proven_sample :
    ∃ finish, execute next newPlatform fadingEngine = some finish ∧ ProvenReachable finish ∧
      (finish.providers.lookup 1).map Provider.endpointReachable = some true := by
  refine exists_executed_guarded NoFlagLeft
    (fun finish => (finish.providers.lookup 1).map Provider.endpointReachable = some true)
    (by decide +kernel) ?_
  intro finish run marked
  exact ⟨reachable_only_proven _ _ (by decide) run, marked⟩

/-- A provider that never answered a probe becomes reachable by reporting an
engine. -/
theorem heartbeat_makes_reachable :
    ∃ finish, Run (Fires next) newPlatform
      [.heartbeat 1 0 [⟨.vllm, "http://10.8.0.6:8000", 8000⟩], .beginSweep 1,
        .endpointAnswered 1 none (some (.failed "fetch failed")),
        .engineAnswered 1 .vllm 2 (.failed "fetch failed"), .decideReachable 1 2] finish ∧
      ¬ ProvenReachable finish :=
  exists_run (¬ ProvenReachable ·) (by decide +kernel)
    (fun _ _ unproven => unproven)

end DcpPlatform.Probes
