import DcpPlatform.Chat.GatedDispatch

/-!
# The gate and the measured limits

The gate accepts no provider of which it has measured that a limit is passed,
unless no provider has a latency sample: then a failing stream is overlooked.
-/

namespace DcpPlatform.Chat.Routing

open Foundation List

def Reason.IsMeasured : Reason → Prop
  | .missingLatencySamples => False
  | _ => True

def Evaluation.Violates (entry : Evaluation) : Prop :=
  ∃ reason ∈ entry.reasons, reason.IsMeasured

/-- The providers that the gate accepts are some of the list, in order and
within the measured limits; it blocks only when there is none. -/
structure KeepsBudget (selection : GateSelection) (evaluations : List Evaluation) : Prop where
  accepts : ∃ chosen : List Evaluation, chosen.Subperm evaluations ∧
    chosen.Pairwise ranksBefore ∧ (∀ entry ∈ chosen, ¬ entry.Violates) ∧
    selection.accepted = chosen.map Evaluation.providerId
  blocks : selection.pass = false → ∀ entry ∈ evaluations,
    entry.Violates ∨ entry.sampleCount = 0 ∧ ∃ other ∈ evaluations, 0 < other.sampleCount

theorem pairwise_ranksBefore (candidates : List Evaluation) :
    (candidates.insertionSort ranksBefore).Pairwise ranksBefore := by
  have total : Std.Total ranksBefore := ⟨by
    intro first second
    rcases lt_trichotomy first.gpuUtilPct second.gpuUtilPct with less | same | more
    · exact Or.inl (Or.inl less)
    · exact (Nat.le_total first.providerId second.providerId).imp
        (fun before => Or.inr ⟨same, before⟩) (fun after => Or.inr ⟨same.symm, after⟩)
    · exact Or.inr (Or.inl more)⟩
  have transitive : IsTrans Evaluation ranksBefore := ⟨by
    rintro first second third (less | ⟨same, before⟩) (later | ⟨alike, after⟩)
    · exact Or.inl (less.trans later)
    · exact Or.inl (alike ▸ less)
    · exact Or.inl (same ▸ later)
    · exact Or.inr ⟨same.trans alike, before.trans after⟩⟩
  exact pairwise_insertionSort ranksBefore candidates

theorem keepsBudget_ranked {evaluations : List Evaluation} {keep : Evaluation → Bool}
    (mode : GateMode) (within : ∀ entry ∈ evaluations, keep entry = true → ¬ entry.Violates)
    (empty : sortProviderCandidates (evaluations.filter keep) = [] → evaluations = []) :
    KeepsBudget (.ofRanked mode (sortProviderCandidates (evaluations.filter keep)))
      evaluations where
  accepts := by
    refine ⟨_, (perm_insertionSort ranksBefore _).subperm.trans
      filter_sublist.subperm, pairwise_ranksBefore _, ?_, GateSelection.accepted_ofRanked _ _⟩
    intro entry member
    obtain ⟨evaluated, kept⟩ := mem_filter.mp ((mem_insertionSort _).mp member)
    exact within entry evaluated kept
  blocks := by
    intro blocked
    simp [empty (by simpa [GateSelection.ofRanked] using blocked)]

section Evaluated

variable {telemetry : Telemetry} {config : GateConfig} {now : Nat} {providers : List Routable}
variable {routable : Routable}

theorem sampleCount_evaluateProvider :
    (evaluateProvider telemetry config now routable).sampleCount =
      (providerLatencies telemetry config now routable.id).length :=
  length_insertionSort _ _

theorem violates_iff_streamReasons
    (unsampled : providerLatencies telemetry config now routable.id = []) :
    (evaluateProvider telemetry config now routable).Violates ↔
      streamReasons (providerStream telemetry config now routable.id) config ≠ [] := by
  have reasons : (evaluateProvider telemetry config now routable).reasons =
      .missingLatencySamples ::
        streamReasons (providerStream telemetry config now routable.id) config := by
    rw [evaluateProvider, unsampled]
    rfl
  rw [Evaluation.Violates, reasons, streamReasons]
  split <;> simp [Reason.IsMeasured]

theorem violates_of_sampled
    (sampled : 0 < (evaluateProvider telemetry config now routable).sampleCount)
    (reasons : (evaluateProvider telemetry config now routable).reasons ≠ []) :
    (evaluateProvider telemetry config now routable).Violates := by
  obtain ⟨reason, member⟩ := exists_mem_of_ne_nil _ reasons
  refine ⟨reason, member, ?_⟩
  cases reason with
  | p50 | p95 | streamFailure => trivial
  | missingLatencySamples =>
    have counted : 0 < (summarizeLatencyMs
        (providerLatencies telemetry config now routable.id)).sampleCount :=
      sampled
    simp only [evaluateProvider, latencyReasons, if_pos counted, streamReasons] at member
    split at member <;> split at member <;> split at member <;> simp_all

theorem select_of_unsampled (enabled : config.enabled = true)
    (unsampled : ∀ routable ∈ providers, providerLatencies telemetry config now routable.id = []) :
    selectProvidersWithLatencyGate telemetry config now providers =
      .ofRanked .telemetryUnavailableFallback
        (sortProviderCandidates (providers.map (evaluateProvider telemetry config now))) := by
  have none_sampled : (providers.map (evaluateProvider telemetry config now)).any
      (0 < ·.sampleCount) = false := by
    simp only [any_map, any_eq_false, Function.comp_apply, decide_eq_true_eq,
      sampleCount_evaluateProvider]
    intro routable listed
    simp [unsampled routable listed]
  simp [selectProvidersWithLatencyGate, enabled, none_sampled]

theorem streams_of_keepsBudget (enabled : config.enabled = true)
    (unsampled : ∀ routable ∈ providers, providerLatencies telemetry config now routable.id = [])
    (keeps : KeepsBudget (selectProvidersWithLatencyGate telemetry config now providers)
      (providers.map (evaluateProvider telemetry config now))) : ∀ routable ∈ providers,
    streamReasons (providerStream telemetry config now routable.id) config = [] := by
  intro routable listed
  obtain ⟨chosen, some_of, _, within, accepted⟩ := keeps.accepts
  rw [select_of_unsampled enabled unsampled, GateSelection.accepted_ofRanked,
    sortProviderCandidates] at accepted
  have sizes := congrArg length accepted
  simp only [length_map, length_insertionSort] at sizes
  have all := some_of.perm_of_length_le (by simp [sizes])
  have unviolated := within _ (all.mem_iff.mpr (mem_map_of_mem listed))
  rw [violates_iff_streamReasons (unsampled routable listed)] at unviolated
  exact not_not.mp unviolated

theorem keepsBudget_of_sampled (enabled : config.enabled = true) (listed : routable ∈ providers)
    (sampled : providerLatencies telemetry config now routable.id ≠ []) :
    KeepsBudget (selectProvidersWithLatencyGate telemetry config now providers)
      (providers.map (evaluateProvider telemetry config now)) := by
  have counted := length_pos_iff.mpr sampled
  rw [← sampleCount_evaluateProvider] at counted
  have present : evaluateProvider telemetry config now routable ∈
      providers.map (evaluateProvider telemetry config now) := mem_map_of_mem listed
  have clean {entry : Evaluation} (passes : entry.reasons.isEmpty = true) : ¬ entry.Violates := by
    rintro ⟨reason, given, _⟩
    rw [isEmpty_iff.mp passes] at given
    cases given
  have select := selectProvidersWithLatencyGate.eq_def telemetry config now providers
  rw [enabled, Bool.not_true, if_neg Bool.false_ne_true,
    any_eq_true.mpr ⟨_, present, decide_eq_true counted⟩, Bool.not_true,
    if_neg Bool.false_ne_true] at select
  rw [select]
  dsimp only
  split
  · rename_i some_strict
    refine keepsBudget_ranked _ (fun entry _ passes => ?_) (absurd · some_strict)
    rw [Evaluation.strictPass, Bool.and_eq_true] at passes
    exact clean passes.1
  · split
    · rename_i some_sparse
      refine keepsBudget_ranked _ (fun entry _ passes => ?_) (absurd · some_sparse)
      rw [Evaluation.sparsePass, Bool.and_eq_true, Bool.and_eq_true] at passes
      exact clean passes.1.1
    · rename_i none_strict none_sparse
      refine ⟨⟨[], nil_subperm, List.Pairwise.nil, nofun, rfl⟩, ?_⟩
      intro _ entry evaluated
      have fails {keep : Evaluation → Bool} (none_kept : ¬ sortProviderCandidates
          ((providers.map (evaluateProvider telemetry config now)).filter keep) ≠ []) :
          keep entry ≠ true := fun kept =>
        none_kept (ne_nil_of_mem (mem_sortProviderCandidates.mpr
          ⟨entry, mem_filter.mpr ⟨evaluated, kept⟩, rfl⟩))
      have strict := fails none_strict
      have sparse := fails none_sparse
      by_cases unsampled : entry.sampleCount = 0
      · exact Or.inr ⟨unsampled, _, present, counted⟩
      · left
        obtain ⟨other, _, rfl⟩ := mem_map.mp evaluated
        refine violates_of_sampled (Nat.pos_of_ne_zero unsampled) (fun reasons => ?_)
        simp_all [Evaluation.strictPass, Evaluation.sparsePass, Nat.pos_iff_ne_zero]

/-- The gate keeps the budget exactly when a provider has a latency sample or
no stream is known to fail too often. -/
theorem keepsBudget_iff (enabled : config.enabled = true) :
    KeepsBudget (selectProvidersWithLatencyGate telemetry config now providers)
      (providers.map (evaluateProvider telemetry config now)) ↔
      (∃ routable ∈ providers, providerLatencies telemetry config now routable.id ≠ []) ∨
      ∀ routable ∈ providers,
        streamReasons (providerStream telemetry config now routable.id) config = [] := by
  by_cases sampled : ∃ routable ∈ providers, providerLatencies telemetry config now routable.id ≠ []
  · obtain ⟨routable, listed, found⟩ := sampled
    have keeps := keepsBudget_of_sampled enabled listed found
    exact ⟨fun _ => Or.inl ⟨routable, listed, found⟩, fun _ => keeps⟩
  · push Not at sampled
    refine ⟨fun keeps => Or.inr (streams_of_keepsBudget enabled sampled keeps), ?_⟩
    rintro (⟨routable, listed, found⟩ | clean)
    · exact absurd (sampled routable listed) found
    · rw [select_of_unsampled enabled sampled, ← filter_true (providers.map _)]
      nth_rewrite 2 [filter_true]
      refine keepsBudget_ranked _ ?_ ?_
      · intro entry evaluated _
        obtain ⟨routable, listed, rfl⟩ := mem_map.mp evaluated
        rw [violates_iff_streamReasons (sampled routable listed)]
        exact not_not.mpr (clean routable listed)
      · intro ranked
        simpa [sortProviderCandidates] using congrArg length ranked

theorem keepsBudget_iff_sample : KeepsBudget
    (selectProvidersWithLatencyGate ⟨[], []⟩ .standard 0 [⟨sampleProvider 1, none⟩])
    ([⟨sampleProvider 1, none⟩].map (evaluateProvider ⟨[], []⟩ .standard 0)) :=
  (keepsBudget_iff rfl).mpr (Or.inr (by simp [providerStream, streamReasons]))

/-- A provider without a latency sample is selected though its only stream
failed. -/
theorem failing_stream_selected : ¬ KeepsBudget
    (selectProvidersWithLatencyGate ⟨[], [⟨1, false, 0⟩]⟩ .standard 0 [⟨sampleProvider 1, none⟩])
    ([⟨sampleProvider 1, none⟩].map (evaluateProvider ⟨[], [⟨1, false, 0⟩]⟩ .standard 0)) := by
  intro keeps
  have clean := streams_of_keepsBudget rfl (by simp [providerLatencies]) keeps _
    (mem_singleton_self _)
  exact absurd clean (by decide +kernel)

end Evaluated

end DcpPlatform.Chat.Routing
