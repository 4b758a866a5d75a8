import Mathlib.Data.List.Sort
import DcpPlatform.Chat.Capability
import DcpPlatform.Foundation.Doubles

/-!
# The latency budget gate

The gate ranks providers by what benchmark runs and stream events tell of
them, and accepts those within the budget: the ones with enough samples, else
the ones with few, else, where nothing was measured at all, every one.
-/

namespace DcpPlatform.Chat.Routing

open Foundation

structure GateConfig where
  enabled : Bool
  lookbackHours : ℚ
  maxP50Ms : ℚ
  baselineP95Ms : ℚ
  maxP95RegressionPct : ℚ
  baselineStreamFailureRate : ℚ
  maxStreamFailureRegressionPct : ℚ
  minLatencySamples : Nat
  minStreamSamples : Nat

/-- `loadLatencyGateConfig` with nothing in the environment. -/
def GateConfig.standard : GateConfig where
  enabled := true
  lookbackHours := 168
  maxP50Ms := 300
  baselineP95Ms := 900
  maxP95RegressionPct := toDouble (2 / 10)
  baselineStreamFailureRate := toDouble (2 / 100)
  maxStreamFailureRegressionPct := toDouble (5 / 10)
  minLatencySamples := 3
  minStreamSamples := 5

structure BenchmarkRun where
  provider_id : Nat
  completed : Bool
  latency_ms : Option ℚ
  completed_at : Option Nat

structure StreamEvent where
  provider_id : Nat
  stream_success : Bool
  created_at : Nat

structure Telemetry where
  runs : List BenchmarkRun
  events : List StreamEvent

/-- The database compares instants to the second. -/
def withinLookback (config : GateConfig) (now instant : Nat) : Bool :=
  ⌊((now : ℚ) - max 1 config.lookbackHours * 3600000) / 1000⌋ ≤ ((instant / 1000 : Nat) : ℤ)

def providerLatencies (telemetry : Telemetry) (config : GateConfig)
    (now providerId : Nat) : List ℚ :=
  (telemetry.runs.filter (fun run =>
    run.provider_id = providerId && run.completed &&
      match run.completed_at with
      | none => true
      | some instant => withinLookback config now instant)).filterMap
    BenchmarkRun.latency_ms

structure StreamStats where
  success_count : Nat
  failure_count : Nat

def providerStream (telemetry : Telemetry) (config : GateConfig)
    (now providerId : Nat) : StreamStats :=
  let events := telemetry.events.filter (fun event =>
    event.provider_id = providerId && withinLookback config now event.created_at)
  { success_count := events.countP (fun event => event.stream_success)
    failure_count := events.countP (fun event => !event.stream_success) }

def percentileFromSorted (sortedValues : List ℚ) (percentile : ℚ) :
    Option ℚ :=
  if sortedValues = [] then
    none
  else if percentile ≤ 0 then
    sortedValues.head?
  else if 100 ≤ percentile then
    sortedValues.getLast?
  else
    let index := toDouble (toDouble (percentile / 100) * ((sortedValues.length : ℚ) - 1))
    let lower := ⌊index⌋.toNat
    let upper := ⌈index⌉.toNat
    let low := sortedValues.getD lower 0
    if lower = upper then
      some low
    else
      let weight := toDouble (index - lower)
      let high := sortedValues.getD upper 0
      some (toDouble (low + toDouble (toDouble (high - low) * weight)))

def round (value : ℚ) : ℤ :=
  ⌊value + 1 / 2⌋

structure LatencySummary where
  sampleCount : Nat
  p50Ms : Option ℤ
  p95Ms : Option ℤ

def summarizeLatencyMs (samples : List ℚ) : LatencySummary :=
  let cleaned := samples.insertionSort (· ≤ ·)
  { sampleCount := cleaned.length
    p50Ms := (percentileFromSorted cleaned 50).map round
    p95Ms := (percentileFromSorted cleaned 95).map round }

inductive Reason where
  | p50 (value : ℤ) (limit : ℚ)
  | p95 (value : ℤ) (limit : ℤ)
  | missingLatencySamples
  | streamFailure (rate limit : ℚ)

structure Evaluation where
  providerId : Nat
  sampleCount : Nat
  sparse : Bool
  reasons : List Reason
  gpuUtilPct : ℚ

def Evaluation.strictPass (evaluation : Evaluation) : Bool :=
  evaluation.reasons.isEmpty && !evaluation.sparse

def Evaluation.sparsePass (evaluation : Evaluation) : Bool :=
  evaluation.reasons.isEmpty && evaluation.sparse && 0 < evaluation.sampleCount

def latencyReasons (latency : LatencySummary) (config : GateConfig) :
    List Reason :=
  let p95Limit := toDouble (config.baselineP95Ms * toDouble (1 + config.maxP95RegressionPct))
  if 0 < latency.sampleCount then
    (match latency.p50Ms with
      | some value =>
        if config.maxP50Ms < value then
          [Reason.p50 value config.maxP50Ms]
        else
          []
      | none => []) ++
    (match latency.p95Ms with
      | some value =>
        if p95Limit < value then
          [Reason.p95 value (round p95Limit)]
        else
          []
      | none => [])
  else
    [Reason.missingLatencySamples]

def streamReasons (stats : StreamStats) (config : GateConfig) :
    List Reason :=
  let streamFailureLimit := toDouble (config.baselineStreamFailureRate *
      toDouble (1 + config.maxStreamFailureRegressionPct))
  let streamSampleCount := stats.success_count + stats.failure_count
  let streamFailureRate :=
    if 0 < streamSampleCount then
      toDouble ((stats.failure_count : ℚ) / streamSampleCount)
    else
      0
  if 0 < streamSampleCount ∧ streamFailureLimit < streamFailureRate then
    [Reason.streamFailure streamFailureRate streamFailureLimit]
  else
    []

def evaluateProvider (telemetry : Telemetry) (config : GateConfig)
    (now : Nat) (routable : Routable) : Evaluation :=
  let latency := summarizeLatencyMs (providerLatencies telemetry config now routable.id)
  let stats := providerStream telemetry config now routable.id
  { providerId := routable.id
    sampleCount := latency.sampleCount
    sparse := latency.sampleCount < config.minLatencySamples ||
      stats.success_count + stats.failure_count < config.minStreamSamples
    reasons := latencyReasons latency config ++ streamReasons stats config
    gpuUtilPct := routable.provider.gpu_util_pct.getD 0 }

def ranksBefore (first second : Evaluation) : Prop :=
  first.gpuUtilPct < second.gpuUtilPct ∨
    first.gpuUtilPct = second.gpuUtilPct ∧
      first.providerId ≤ second.providerId
deriving Decidable

def sortProviderCandidates (candidates : List Evaluation) : List Nat :=
  (candidates.insertionSort ranksBefore).map Evaluation.providerId

inductive GateMode where
  | disabled
  | telemetryUnavailableFallback
  | strict
  | sparseProviderFallback
  | blocked

structure GateSelection where
  pass : Bool
  mode : GateMode
  selectedProviderId : Option Nat
  fallbackProviderIds : List Nat
  reasons : List (Nat × List Reason)

def GateSelection.ofRanked (mode : GateMode) (ranked : List Nat) :
    GateSelection where
  pass := !ranked.isEmpty
  mode := mode
  selectedProviderId := ranked.head?
  fallbackProviderIds := ranked.tail
  reasons := []

def selectProvidersWithLatencyGate (telemetry : Telemetry)
    (config : GateConfig) (now : Nat) (providers : List Routable) :
    GateSelection :=
  let evaluations := providers.map (evaluateProvider telemetry config now)
  if !config.enabled then
    .ofRanked .disabled (sortProviderCandidates evaluations)
  else if !evaluations.any (fun entry => 0 < entry.sampleCount) then
    .ofRanked .telemetryUnavailableFallback (sortProviderCandidates evaluations)
  else
    let strictPass := sortProviderCandidates (evaluations.filter Evaluation.strictPass)
    let sparsePass := sortProviderCandidates (evaluations.filter Evaluation.sparsePass)
    if strictPass ≠ [] then
      .ofRanked .strict strictPass
    else if sparsePass ≠ [] then
      .ofRanked .sparseProviderFallback sparsePass
    else
      { pass := false
        mode := .blocked
        selectedProviderId := none
        fallbackProviderIds := []
        reasons := (evaluations.filter (fun entry => !entry.reasons.isEmpty)).map
          (fun entry => (entry.providerId, entry.reasons)) }

def GateSelection.accepted (selection : GateSelection) : List Nat :=
  selection.selectedProviderId.toList ++ selection.fallbackProviderIds

variable {providerId : Nat}

theorem mem_sortProviderCandidates {candidates : List Evaluation} :
    providerId ∈ sortProviderCandidates candidates ↔
      ∃ entry ∈ candidates, entry.providerId = providerId := by
  rw [sortProviderCandidates, List.mem_map]
  simp

theorem GateSelection.accepted_ofRanked (mode : GateMode) (ranked : List Nat) :
    (GateSelection.ofRanked mode ranked).accepted = ranked := by
  cases ranked with
  | nil | cons first rest => rfl

theorem mem_of_accepted {telemetry : Telemetry} {config : GateConfig}
    {now : Nat} {providers : List Routable}
    (accepted :
      providerId ∈ (selectProvidersWithLatencyGate telemetry config now providers).accepted) :
    ∃ routable ∈ providers, routable.id = providerId := by
  have evaluated {keep : Evaluation → Bool} (member : providerId ∈ sortProviderCandidates
      ((providers.map (evaluateProvider telemetry config now)).filter keep)) :
      ∃ routable ∈ providers, routable.id = providerId := by
    obtain ⟨entry, kept, rfl⟩ := mem_sortProviderCandidates.mp member
    obtain ⟨routable, present, rfl⟩ := List.mem_map.mp (List.mem_of_mem_filter kept)
    exact ⟨routable, present, rfl⟩
  have every (member : providerId ∈ sortProviderCandidates
      (providers.map (evaluateProvider telemetry config now))) :
      ∃ routable ∈ providers, routable.id = providerId := by
    refine @evaluated (fun _ => true) ?_
    rw [List.filter_true]
    exact member
  unfold selectProvidersWithLatencyGate at accepted
  by_cases off : (!config.enabled) = true
  · rw [if_pos off, GateSelection.accepted_ofRanked] at accepted
    exact every accepted
  · rw [if_neg off] at accepted
    by_cases unmeasured : (!(providers.map (evaluateProvider telemetry config now)).any
      (0 < ·.sampleCount)) = true
    · rw [if_pos unmeasured, GateSelection.accepted_ofRanked] at accepted
      exact every accepted
    · rw [if_neg unmeasured] at accepted
      dsimp only at accepted
      split at accepted
      · rw [GateSelection.accepted_ofRanked] at accepted
        exact evaluated accepted
      · split at accepted
        · rw [GateSelection.accepted_ofRanked] at accepted
          exact evaluated accepted
        · cases accepted

end DcpPlatform.Chat.Routing
