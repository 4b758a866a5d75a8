import DcpPlatform.Foundation.Doubles
import DcpPlatform.Foundation.Text
import Mathlib.Data.List.Sort

/-!
# Scheduling several jobs

Every job of a list gets the provider that scores best among those without an
earlier job. The providers are read without their preload status, on which the
score of a priority job depends.
-/

namespace DcpPlatform.Scheduler

open Foundation List

structure Provider where
  id : Nat
  gpuModel : Option String
  gpuVramMib : Option ℚ
  vramGb : Option ℚ
  lastHeartbeat : Option Int
  uptimePercent : Option ℚ
  pricePerMinHalala : Option ℚ
  modelPreloadStatus : Option String
  status : Option String
  isPaused : Option Int

structure Job where
  minVramGb : Option ℚ
  gpuType : Option String
  pricingClass : Option String

inductive LiveStatus where
  | online
  | degraded
  | offline
deriving DecidableEq

def computeProviderStatus (lastHeartbeat : Option Int) (now : Int) : LiveStatus :=
  match lastHeartbeat with
  | none => .offline
  | some heartbeat =>
    if now - heartbeat < 120000 then .online
    else if now - heartbeat < 600000 then .degraded
    else .offline

def gpuCompatibility : List (String × List String) :=
  [("A100", ["A100", "H100", "L40S", "RTX4090"]), ("H100", ["H100", "A100", "L40S", "RTX4090"]),
    ("L40S", ["L40S", "A100", "H100", "RTX4090"]),
    ("RTX4090", ["RTX4090", "A100", "H100", "L40S"]),
    ("RTX4080", ["RTX4080", "A100", "H100", "L40S", "RTX4090"]),
    ("RTX3090", ["RTX3090", "A100", "H100", "L40S", "RTX4090", "RTX4080"])]

/-- The upper case is that of the letters a to z. -/
def normalizeGpuModel (gpuModel : String) : String :=
  trim gpuModel.toUpper

inductive GpuMatch where
  | exact
  | compatible
  | none
deriving DecidableEq

def matchGpuType (jobRequiredGpu providerGpu : Option String) : GpuMatch :=
  match jobRequiredGpu.filter (· ≠ "") with
  | none => .exact
  | some required =>
    let jobGpu := normalizeGpuModel required
    let provGpu := normalizeGpuModel (providerGpu.getD "")
    if provGpu = "" then .none
    else if jobGpu = provGpu then .exact
    else if provGpu ∈ (gpuCompatibility.lookup jobGpu).getD [] then .compatible
    else .none

def Provider.providerVramGb (provider : Provider) : ℚ :=
  match provider.gpuVramMib.filter (· ≠ 0) with
  | some mebibytes => mebibytes / 1024
  | none => provider.vramGb.getD 0

def matchMemoryRequirement (jobMinVramGb providerVramGb : ℚ) : Bool :=
  max 0 jobMinVramGb ≤ max 0 providerVramGb

def Provider.hasBonus (provider : Provider) (job : Job) : Bool :=
  toLowerCase (job.pricingClass.getD "standard") = "priority" &&
    toLowerCase (provider.modelPreloadStatus.getD "") = "ready"

def Provider.uptimeScore (provider : Provider) : ℚ :=
  toDouble (toDouble (max 0 (provider.uptimePercent.getD 0) / 100) * 1500)

def priceScore (effectivePrice : ℚ) : ℚ :=
  toDouble (toDouble (toDouble (100 - max 1 (min 100 effectivePrice)) / 99) * 1000)

def scoreProvider (now : Int) (globalRateHalala : ℚ) (provider : Provider) (job : Job) : Int :=
  let jobMinVram := job.minVramGb.getD 0
  let liveStatus := computeProviderStatus provider.lastHeartbeat now
  let gpuMatch := matchGpuType job.gpuType provider.gpuModel
  if liveStatus = .offline ∨ gpuMatch = .none ∨
      matchMemoryRequirement jobMinVram provider.providerVramGb = false then
    0
  else
    let statusScore : ℚ := if liveStatus = .online then 3000 else 1500
    let gpuScore : ℚ := if gpuMatch = .exact then 2000 else 1500
    let headroom := toDouble (provider.providerVramGb - jobMinVram)
    let vramScore : ℚ := if 4 < headroom then 1500 else if 0 < headroom then 1200 else 1000
    let pricingClassScore : ℚ := if provider.hasBonus job then 500 else 0
    let effectivePrice := provider.pricePerMinHalala.getD globalRateHalala
    ⌊toDouble (toDouble (toDouble (statusScore + gpuScore + vramScore + provider.uptimeScore) +
      pricingClassScore) + priceScore effectivePrice) + 1 / 2⌋

structure Match where
  provider : Provider
  score : Int

def Provider.isCandidate (provider : Provider) : Bool :=
  provider.isPaused = some 0 && provider.status.any (fun status =>
      !(["offline", "banned", "suspended", "paused"].contains status))

def Provider.selected (provider : Provider) : Provider :=
  { provider with modelPreloadStatus := none }

def findMatchingProviders (now : Int) (globalRateHalala : ℚ) (providers : List Provider)
    (job : Job) : List Match :=
  (((providers.filter Provider.isCandidate).map Provider.selected).filterMap (fun provider =>
    let score := scoreProvider now globalRateHalala provider job
    if score ≤ 0 then none else some ⟨provider, score⟩)).insertionSort
      (fun first second => second.score ≤ first.score)

inductive Reason where
  | assigned
  | noMatchingProviders
  | noAvailableCapacity

structure Result where
  job : Job
  assignment : Option Match
  reason : Reason

def scheduleFrom (ranked : Job → List Match) (taken : List Nat) : List Job → List Result
  | [] => []
  | job :: jobs =>
    match (ranked job).find? (fun entry => entry.provider.id ∉ taken) with
    | some entry =>
      ⟨job, some entry, .assigned⟩ :: scheduleFrom ranked (entry.provider.id :: taken) jobs
    | none =>
      let reason := if (ranked job).isEmpty then .noMatchingProviders else .noAvailableCapacity
      ⟨job, none, reason⟩ :: scheduleFrom ranked taken jobs

def scheduleMultipleJobs (now : Int) (globalRateHalala : ℚ) (providers : List Provider)
    (jobs : List Job) : List Result :=
  scheduleFrom (findMatchingProviders now globalRateHalala providers) [] jobs

section BestFirst

variable (now : Int) (globalRateHalala : ℚ) (providers : List Provider)

structure IsEligible (provider : Provider) (job : Job) : Prop where
  candidate : provider.isCandidate = true
  live : computeProviderStatus provider.lastHeartbeat now ≠ .offline
  gpu : matchGpuType job.gpuType provider.gpuModel ≠ .none
  memory : matchMemoryRequirement (job.minVramGb.getD 0) provider.providerVramGb = true

def IsBest (taken : List Nat) (job : Job) (entry : Match) : Prop :=
  ∃ chosen ∈ providers, chosen.id = entry.provider.id ∧ chosen.id ∉ taken ∧
    IsEligible now chosen job ∧ entry.score = scoreProvider now globalRateHalala chosen job ∧
    ∀ provider ∈ providers, IsEligible now provider job → provider.id ∉ taken →
      scoreProvider now globalRateHalala provider job ≤ entry.score

/-- One result for each job, in order; `taken` are the providers that earlier
jobs were given. -/
def BestFirst (taken : List Nat) : List Job → List Result → Prop
  | [], [] => True
  | job :: jobs, result :: results =>
    result.job = job ∧ match result.assignment with
      | none => (∀ provider ∈ providers, IsEligible now provider job → provider.id ∈ taken) ∧
        BestFirst taken jobs results
      | some entry => IsBest now globalRateHalala providers taken job entry ∧
        BestFirst (entry.provider.id :: taken) jobs results
  | _, _ => False

variable {now globalRateHalala providers} {provider : Provider} {job : Job}

theorem priceScore_nonneg (effectivePrice : ℚ) : 0 ≤ priceScore effectivePrice := by
  have cheap : max 1 (min 100 effectivePrice) ≤ 100 :=
    max_le (by norm_num) (min_le_left 100 effectivePrice)
  refine toDouble_nonneg (mul_nonneg (toDouble_nonneg (div_nonneg ?_ (by norm_num))) (by norm_num))
  exact toDouble_nonneg (sub_nonneg.mpr cheap)

theorem scoreProvider_pos (eligible : IsEligible now provider job) :
    0 < scoreProvider now globalRateHalala provider job := by
  have whole : toDouble 4000 = 4000 := by decide +kernel
  have least {value : ℚ} (bound : 4000 ≤ value) : 4000 ≤ toDouble value := by
    rw [← whole]
    exact toDouble_mono (by norm_num) bound
  have uptime : 0 ≤ provider.uptimeScore :=
    toDouble_nonneg (mul_nonneg (toDouble_nonneg (by positivity)) (by norm_num))
  have price := priceScore_nonneg (provider.pricePerMinHalala.getD globalRateHalala)
  simp only [scoreProvider, eligible.live, eligible.gpu, eligible.memory, Bool.true_eq_false,
    or_self, if_false, Int.floor_pos]
  refine le_add_of_le_of_nonneg (le_trans (by norm_num) (least (le_add_of_le_of_nonneg
    (least (le_add_of_le_of_nonneg (least ?_) ?_)) price))) (by norm_num)
  · split_ifs <;> linarith
  · split_ifs <;> norm_num

theorem isEligible_of_scoreProvider_pos (candidate : provider.isCandidate = true)
    (positive : 0 < scoreProvider now globalRateHalala provider job) :
    IsEligible now provider job := by
  rw [scoreProvider] at positive
  split at positive
  · exact absurd positive (lt_irrefl 0)
  · rename_i qualified
    simp only [not_or, Bool.not_eq_false] at qualified
    exact ⟨candidate, qualified.1, qualified.2.1, qualified.2.2⟩

theorem scoreProvider_selected (plain : provider.hasBonus job = false) :
    scoreProvider now globalRateHalala provider.selected job =
      scoreProvider now globalRateHalala provider job := by
  have unread : provider.selected.hasBonus job = false := by
    simp [Provider.hasBonus, Provider.selected, toLowerCase]
  rw [scoreProvider, scoreProvider, unread, plain]
  rfl

/-- No eligible provider would score the preload bonus. -/
def NoBonus (now : Int) (providers : List Provider) (job : Job) : Prop :=
  ∀ provider ∈ providers, IsEligible now provider job → provider.hasBonus job = false

theorem mem_findMatchingProviders (plain : NoBonus now providers job) {entry : Match} :
    entry ∈ findMatchingProviders now globalRateHalala providers job ↔
      ∃ provider ∈ providers, IsEligible now provider job ∧
        entry = ⟨provider.selected, scoreProvider now globalRateHalala provider job⟩ := by
  simp only [findMatchingProviders, mem_insertionSort, mem_filterMap, mem_map, mem_filter]
  constructor
  · rintro ⟨_, ⟨provider, ⟨listed, candidate⟩, rfl⟩, scored⟩
    split at scored
    · cases scored
    · rename_i positive
      have able : IsEligible now provider.selected job :=
        isEligible_of_scoreProvider_pos candidate (not_le.mp positive)
      have eligible : IsEligible now provider job := ⟨candidate, able.live, able.gpu, able.memory⟩
      cases scored
      exact ⟨provider, listed, eligible, congrArg (Match.mk provider.selected)
        (scoreProvider_selected (plain provider listed eligible))⟩
  · rintro ⟨provider, listed, eligible, rfl⟩
    refine ⟨_, ⟨provider, ⟨listed, eligible.candidate⟩, rfl⟩, ?_⟩
    rw [scoreProvider_selected (plain provider listed eligible)]
    exact if_neg (not_le.mpr (scoreProvider_pos eligible))

theorem pairwise_findMatchingProviders (job : Job) :
    (findMatchingProviders now globalRateHalala providers job).Pairwise
      (fun first second => second.score ≤ first.score) := by
  have total : Std.Total (fun first second : Match => second.score ≤ first.score) :=
    ⟨fun first second => le_total second.score first.score⟩
  have transitive : IsTrans Match (fun first second => second.score ≤ first.score) :=
    ⟨fun _ _ _ later before => before.trans later⟩
  exact pairwise_insertionSort _ _

theorem scheduleFrom_bestFirst {jobs : List Job} (plain : ∀ job ∈ jobs, NoBonus now providers job)
    (taken : List Nat) : BestFirst now globalRateHalala providers taken jobs
      (scheduleFrom (findMatchingProviders now globalRateHalala providers) taken jobs) := by
  induction jobs generalizing taken with
  | nil => trivial
  | cons job jobs ih =>
    have later := ih (fun other member => plain other (mem_cons_of_mem _ member))
    have matched {entry : Match} :
        entry ∈ findMatchingProviders now globalRateHalala providers job ↔ _ :=
      mem_findMatchingProviders (plain job mem_cons_self)
    rw [scheduleFrom]
    split
    · rename_i entry found
      refine ⟨rfl, ?_, later _⟩
      obtain ⟨free, before, after, ranked, busy⟩ := find?_eq_some_iff_append.mp found
      obtain ⟨chosen, listed, eligible, rfl⟩ := matched.mp (mem_of_find?_eq_some found)
      refine ⟨chosen, listed, rfl, of_decide_eq_true free, eligible, rfl, ?_⟩
      intro provider present able unassigned
      have member := matched.mpr ⟨provider, present, able, rfl⟩
      have ordered : (findMatchingProviders now globalRateHalala providers job).Pairwise _ :=
        pairwise_findMatchingProviders job
      rw [ranked] at member ordered
      rcases mem_append.mp member with early | late
      · have passed : (!decide (provider.id ∉ taken)) = true := busy _ early
        simp [unassigned] at passed
      · rcases mem_cons.mp late with same | late
        · exact le_of_eq (congrArg Match.score same)
        · exact (pairwise_cons.mp (pairwise_append.mp ordered).2.1).1 _ late
    · rename_i none_free
      refine ⟨rfl, ?_, later _⟩
      intro provider listed eligible
      have passed : ¬ decide (provider.id ∉ taken) = true :=
        find?_eq_none.mp none_free _ (matched.mpr ⟨provider, listed, eligible, rfl⟩)
      simpa using passed

/-- Where no preload bonus is at stake, the jobs get the best free providers. -/
theorem scheduleMultipleJobs_bestFirst {jobs : List Job}
    (plain : ∀ job ∈ jobs, NoBonus now providers job) :
    BestFirst now globalRateHalala providers [] jobs
      (scheduleMultipleJobs now globalRateHalala providers jobs) :=
  scheduleFrom_bestFirst plain []

def sampleProvider (id : Nat) (uptime : ℚ) (preload : String) : Provider :=
  ⟨id, some "A100", none, some 80, some 0, some uptime, some 10, some preload, some "online",
    some 0⟩

def sampleJob : Job :=
  ⟨some 40, some "A100", some "priority"⟩

theorem scheduleMultipleJobs_bestFirst_sample :
    BestFirst 0 10 [sampleProvider 1 90 "none"] [] [sampleJob]
      (scheduleMultipleJobs 0 10 [sampleProvider 1 90 "none"] [sampleJob]) :=
  scheduleMultipleJobs_bestFirst (by
    rintro job (_ | ⟨_, ⟨⟩⟩) provider (_ | ⟨_, ⟨⟩⟩) _
    decide +kernel)

/-- The provider that has the model of a priority job loaded loses to one with
a better uptime. -/
theorem preload_bonus_lost : ¬ BestFirst 0 10
    [sampleProvider 1 90 "none", sampleProvider 2 80 "ready"] [] [sampleJob]
    (scheduleMultipleJobs 0 10 [sampleProvider 1 90 "none", sampleProvider 2 80 "ready"]
      [sampleJob]) := by
  have loaded : IsEligible 0 (sampleProvider 2 80 "ready") sampleJob :=
    ⟨by decide +kernel, by decide +kernel, by decide +kernel, by decide +kernel⟩
  have first : ((findMatchingProviders 0 10 [sampleProvider 1 90 "none",
      sampleProvider 2 80 "ready"] sampleJob).find? (·.provider.id ∉ [])).map
        (·.provider.id) = some 1 := by decide +kernel
  intro best
  rw [scheduleMultipleJobs, scheduleFrom] at best
  split at best
  · rename_i entry found
    obtain ⟨_, ⟨chosen, listed, same, _, _, scored, most⟩, _⟩ := best
    rw [found] at first
    injection first with named
    change entry.provider.id = 1 at named
    rw [named] at same
    have beaten := most (sampleProvider 2 80 "ready") (by simp) loaded (by simp)
    simp only [mem_cons, not_mem_nil, or_false] at listed
    rcases listed with rfl | rfl
    · rw [scored] at beaten
      exact absurd beaten (by decide +kernel)
    · cases same
  · exact not_mem_nil (best.2.1 _ (mem_cons_of_mem _ mem_cons_self) loaded)

end BestFirst

end DcpPlatform.Scheduler
