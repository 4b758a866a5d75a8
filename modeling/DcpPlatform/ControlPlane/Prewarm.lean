import DcpPlatform.Foundation.Money
import DcpPlatform.Foundation.Text
import Mathlib.Algebra.Order.Floor.Semiring
import Mathlib.Data.List.Sort

/-!
# Prewarming for demand

A run goes through the models in the order of their demand, and lets providers
load the ones that have too few of them. No provider is asked twice.
-/

namespace DcpPlatform.ControlPlane

open Foundation List

structure Provider where
  id : Nat
  isPaused : Option Int
  approvalStatus : Option String
  lastHeartbeat : Option Int
  modelPreloadStatus : Option String
  modelPreloadModel : Option String
  vramGb : Option ℚ
  vramMb : Option ℚ
  gpuVramMb : Option ℚ
  gpuVramMib : Option ℚ
deriving DecidableEq

/-- In mebibytes; zero where the provider reports none. -/
def resolveProviderVramMb (provider : Provider) : ℚ :=
  (([provider.vramMb, provider.gpuVramMb, provider.gpuVramMib,
    provider.vramGb.map (mathRound <| · * 1024)].filterMap
      (·.filter (0 < ·))).head?).getD 0

/-- `getProviderLiveStatus`; a heartbeat that is no date counts as none. -/
def isOnline (provider : Provider) (now : Int) : Bool :=
  provider.lastHeartbeat.any (fun heartbeat => now - heartbeat < 120000)

def Provider.preloadStatus (provider : Provider) : String :=
  toLowerCase (provider.modelPreloadStatus.getD "")

def Provider.preloadModel (provider : Provider) : String :=
  trim (provider.modelPreloadModel.getD "")

def Provider.isBusyWithOtherModel (provider : Provider) (model : String) : Bool :=
  provider.preloadStatus = "downloading" && provider.preloadModel ≠ "" &&
    provider.preloadModel ≠ model

def Provider.isWarm (provider : Provider) (model : String) : Bool :=
  provider.preloadModel = model &&
    ["ready", "warming", "downloading"].contains provider.preloadStatus

def Provider.isCandidate (provider : Provider) (model : String) : Bool :=
  provider.preloadModel = "" ||
    !(provider.preloadModel = model && provider.preloadStatus = "downloading") &&
      (provider.preloadModel ≠ model || ["none", "ready"].contains provider.preloadStatus)

def Provider.download (model : String) (provider : Provider) : Provider :=
  { provider with
    modelPreloadStatus := some "downloading"
    modelPreloadModel := some model }

structure Cycle where
  providers : List Provider
  actions : List (Nat × String)

section Prewarm

variable (minGpuVramGb : String → ℚ) (now : Int) (target : ℚ)

def minVramMb (model : String) : ℚ :=
  max 0 (mathRound (minGpuVramGb model * 1024))

def Provider.isFit (provider : Provider) (model : String) : Bool :=
  isOnline provider now && provider.approvalStatus.getD "pending" = "approved" &&
    !(0 < minVramMb minGpuVramGb model && 0 < resolveProviderVramMb provider &&
      resolveProviderVramMb provider < minVramMb minGpuVramGb model) &&
    !provider.isBusyWithOtherModel model

section Turn

variable (cycle : Cycle) (model : String)

def eligible : List Provider :=
  cycle.providers.filter (fun provider =>
    provider.isFit minGpuVramGb now model && !(cycle.actions.map Prod.fst).contains provider.id)

def selected : List Provider :=
  let eligible := eligible minGpuVramGb now cycle model
  let needed := max 0 (target - (eligible.filter (·.isWarm model)).length)
  ((eligible.filter (·.isCandidate model)).insertionSort (fun first second =>
    resolveProviderVramMb second ≤ resolveProviderVramMb first)).take ⌊needed⌋₊

def prewarm : Cycle :=
  if trim model = "" then
    cycle
  else
    let model := trim model
    let selected := selected minGpuVramGb now target cycle model
    { providers := cycle.providers.map (fun provider =>
        if provider ∈ selected then provider.download model else provider)
      actions := cycle.actions ++ selected.map (fun provider => (provider.id, model)) }

end Turn

def normalizedTargetWarm (targetWarmProvidersPerModel : Option ℚ) : ℚ :=
  max 1 (min 20 ((targetWarmProvidersPerModel.filter (· ≠ 0)).getD 2))

def unpaused (providers : List Provider) : List Provider :=
  providers.filter (·.isPaused.getD 0 = 0)

def runDemandDrivenPrewarm (providers : List Provider) (target : Option ℚ)
    (demandModels : List String) : Cycle :=
  demandModels.foldl (prewarm minGpuVramGb now (normalizedTargetWarm target))
    ⟨unpaused providers, []⟩

/-- How many providers have a model or are about to. -/
def warmCount (providers : List Provider) (model : String) : Nat :=
  providers.countP (·.isWarm model)

/-- The actions are for different providers, each of which was fit for its
model, and no other provider is changed. -/
structure Prewarmed (start : List Provider) (finish : Cycle) : Prop where
  once : (finish.actions.map Prod.fst).Nodup
  fit : ∀ action ∈ finish.actions, ∃ provider ∈ start, provider.id = action.1 ∧
    provider.isFit minGpuVramGb now action.2
  ids : finish.providers.map Provider.id = start.map Provider.id
  changed : ∀ provider ∈ finish.providers,
    (provider ∈ start ∧ provider.id ∉ finish.actions.map Prod.fst) ∨ ∃ source ∈ start,
      ∃ action ∈ finish.actions, source.id = action.1 ∧ provider = source.download action.2

variable {minGpuVramGb now target} {cycle : Cycle} {model : String}

theorem isWarm_download (model : String) (provider : Provider) :
    (provider.download (trim model)).isWarm (trim model) = true := by
  simp [Provider.isWarm, Provider.preloadModel, Provider.preloadStatus, Provider.download,
    trim_trim, toLowerCase]

theorem warmCount_prewarm (cycle : Cycle) (model : String) :
    warmCount cycle.providers (trim model) ≤
      warmCount (prewarm minGpuVramGb now target cycle model).providers (trim model) := by
  unfold prewarm
  split
  · exact le_rfl
  · simp only [warmCount, countP_map]
    apply countP_mono_left
    intro provider _ warm
    simp only [Function.comp_apply]
    split
    · exact isWarm_download model provider
    · exact warm

theorem mem_selected {provider : Provider}
    (member : provider ∈ selected minGpuVramGb now target cycle model) :
    provider ∈ cycle.providers ∧ provider.isFit minGpuVramGb now model ∧
      provider.id ∉ cycle.actions.map Prod.fst := by
  have candidate := (mem_insertionSort _).mp (mem_of_mem_take member)
  have eligible := mem_of_mem_filter candidate
  simpa [eligible, ControlPlane.eligible] using eligible

theorem nodup_selected (distinct : (cycle.providers.map Provider.id).Nodup) :
    ((selected minGpuVramGb now target cycle model).map Provider.id).Nodup := by
  refine ((take_sublist _ _).map _).nodup (((perm_insertionSort _ _).map _).nodup_iff.mpr ?_)
  exact ((filter_sublist.trans filter_sublist).map _).nodup distinct

theorem Prewarmed.prewarm {start : List Provider} (distinct : (start.map Provider.id).Nodup)
    (done : Prewarmed minGpuVramGb now start cycle) (demand : String) :
    Prewarmed minGpuVramGb now start (prewarm minGpuVramGb now target cycle demand) := by
  have cycleDistinct := done.ids ▸ distinct
  have picked {provider : Provider}
      (member : provider ∈ selected minGpuVramGb now target cycle (trim demand)) :
      provider ∈ start := by
    obtain ⟨listed, _, free⟩ := mem_selected member
    rcases done.changed provider listed with ⟨before, _⟩ | ⟨source, _, action, taken, same, rfl⟩
    · exact before
    · exact absurd (same ▸ mem_map_of_mem taken) free
  unfold ControlPlane.prewarm
  split
  · exact done
  · have names : ((selected minGpuVramGb now target cycle (trim demand)).map
        (fun provider => (provider.id, trim demand))).map Prod.fst =
          (selected minGpuVramGb now target cycle (trim demand)).map Provider.id := by
      simp
    refine ⟨?_, ?_, ?_, ?_⟩
    · rw [map_append, names]
      refine done.once.append (nodup_selected cycleDistinct) ?_
      intro id old new
      obtain ⟨provider, member, rfl⟩ := mem_map.mp new
      exact (mem_selected member).2.2 old
    · intro action member
      rcases mem_append.mp member with old | new
      · exact done.fit action old
      · obtain ⟨provider, chosen, rfl⟩ := mem_map.mp new
        exact ⟨provider, picked chosen, rfl, (mem_selected chosen).2.1⟩
    · rw [← done.ids, map_map]
      refine map_congr_left (fun provider _ => ?_)
      simp only [Function.comp_apply]
      split <;> rfl
    · intro provider member
      obtain ⟨previous, listed, rfl⟩ := mem_map.mp member
      split
      · rename_i chosen
        exact Or.inr ⟨previous, picked chosen, _,
          mem_append_right _ (mem_map_of_mem chosen), rfl, rfl⟩
      · rename_i unpicked
        rcases done.changed previous listed with
          ⟨before, free⟩ | ⟨source, before, action, taken, facts⟩
        · refine Or.inl ⟨before, ?_⟩
          rw [map_append, names, mem_append]
          rintro (old | new)
          · exact free old
          · obtain ⟨other, chosen, same⟩ := mem_map.mp new
            exact unpicked (inj_on_of_nodup_map cycleDistinct (mem_selected chosen).1 listed
              same ▸ chosen)
        · exact Or.inr ⟨source, before, action, mem_append_left _ taken, facts⟩

/-- A run assigns providers once, to models they are fit for, and the turn of a
model takes none of its providers away. -/
theorem runDemandDrivenPrewarm_prewarmed (minGpuVramGb : String → ℚ) (now : Int)
    {providers : List Provider} (distinct : (providers.map Provider.id).Nodup)
    (target : Option ℚ) (demandModels : List String) :
    Prewarmed minGpuVramGb now (unpaused providers)
        (runDemandDrivenPrewarm minGpuVramGb now providers target demandModels) ∧
      ∀ front demand,
        warmCount (runDemandDrivenPrewarm minGpuVramGb now providers target front).providers
            (trim demand) ≤
          warmCount (runDemandDrivenPrewarm minGpuVramGb now providers target
            (front ++ [demand])).providers (trim demand) := by
  constructor
  · have run (cycle : Cycle) (done : Prewarmed minGpuVramGb now (unpaused providers) cycle) :
        Prewarmed minGpuVramGb now (unpaused providers)
          (demandModels.foldl (prewarm minGpuVramGb now (normalizedTargetWarm target)) cycle) := by
      induction demandModels generalizing cycle with
      | nil => exact done
      | cons demand demandModels ih =>
        exact ih _ (done.prewarm ((filter_sublist.map _).nodup distinct) demand)
    exact run ⟨_, []⟩ ⟨nodup_nil, nofun, rfl, fun _ listed => Or.inl ⟨listed, not_mem_nil⟩⟩
  · intro front demand
    rw [runDemandDrivenPrewarm, runDemandDrivenPrewarm, foldl_append]
    exact warmCount_prewarm _ demand

def sampleProvider : Provider :=
  ⟨1, some 0, some "approved", some 0, some "ready", some "qwen3:8b", none, none, none, none⟩

theorem runDemandDrivenPrewarm_prewarmed_sample :
    Prewarmed (fun _ => 80) 0 (unpaused [sampleProvider])
    (runDemandDrivenPrewarm (fun _ => 80) 0 [sampleProvider] none ["qwen3:8b"]) :=
  (runDemandDrivenPrewarm_prewarmed (fun _ => 80) 0 (by decide) none ["qwen3:8b"]).1

/-- A provider that has the first model and reports no memory is asked for the
second one. -/
theorem ready_provider_redirected :
    let finish :=
      runDemandDrivenPrewarm (fun _ => 80) 0 [sampleProvider] (some 1) ["qwen3:8b", "glm"]
    finish.actions = [(1, "glm")] ∧
      resolveProviderVramMb sampleProvider < minVramMb (fun _ => 80) "glm" ∧
      warmCount [sampleProvider] "qwen3:8b" = 1 ∧ warmCount finish.providers "qwen3:8b" = 0 := by
  decide +kernel

end Prewarm

end DcpPlatform.ControlPlane
