import DcpPlatform.Foundation.Money
import DcpPlatform.Foundation.Text

/-!
# What a job costs

A job is priced by the GPU seconds, the storage and the bandwidth it used. The
rate comes from the GPU model when the job names one and from the job type
otherwise. Rates are rational numbers, at the exchange rate that holds when
the environment sets none.
-/

namespace DcpPlatform.Jobs

open Foundation

/-! ## Rates -/

def sarUsdRate : ℚ := 375 / 100

/-- The entries of `GPU_RATE_TABLE`, as far as a price depends on them. -/
structure GpuRate where
  models : List String
  ratePerSecondUsd : ℚ

def gpuRateTable : List GpuRate :=
  [{ models := ["h200"], ratePerSecondUsd := 681 / 1000000 },
    { models := ["h100"], ratePerSecondUsd := 525 / 1000000 },
    { models := ["a100"], ratePerSecondUsd := 333 / 1000000 },
    { models := ["rtx 4090", "rtx4090", "geforce rtx 4090"]
      ratePerSecondUsd := 742 / 10000000 },
    { models := ["rtx 4080", "rtx4080", "geforce rtx 4080"]
      ratePerSecondUsd := 494 / 10000000 },
    { models := ["rtx 3090", "rtx3090", "geforce rtx 3090"]
      ratePerSecondUsd := 372 / 10000000 },
    { models := ["rtx 3080", "rtx3080", "geforce rtx 3080"]
      ratePerSecondUsd := 247 / 10000000 }]

def defaultGpuRate : GpuRate :=
  { models := ["default"], ratePerSecondUsd := 247 / 10000000 }

def toLowerCase (text : String) : String :=
  String.ofList (text.toList.map Char.toLower)

def resolveGpuRate (gpuModel : String) : GpuRate :=
  let lower := (trim (toLowerCase gpuModel)).toList
  (gpuRateTable.find? (fun entry =>
    entry.models.any (fun pattern =>
      lower.tails.any pattern.toList.isPrefixOf))).getD defaultGpuRate

inductive PricingClass where
  | priority | standard | economy

def normalizePricingClass (value : Option String) : PricingClass :=
  match toLowerCase (trim (value.getD "")) with
  | "priority" => .priority
  | "economy" => .economy
  | _ => .standard

def PricingClass.multiplier : PricingClass → ℚ
  | .priority => 120 / 100
  | .standard => 1
  | .economy => 90 / 100

inductive JobType where
  | llmInference | training | rendering | imageGeneration | vllmServe
  | ragPipeline | customContainer | interactivePod | other
  deriving DecidableEq

/-- `COST_RATES`: halala for a minute. -/
def JobType.ratePerMinute : JobType → ℚ
  | .llmInference => 9
  | .training => 7
  | .rendering => 10
  | .imageGeneration => 10
  | .vllmServe => 9
  | .ragPipeline => 15
  | .customContainer => 7
  | .interactivePod => 2
  | .other => 6

def storageRateHalalaPerGbMonth : ℚ := 50

def bandwidthRateHalalaPerGb : ℚ := 10

structure ThreeComponentCost where
  computeHalala : Int
  storageHalala : Int
  bandwidthHalala : Int
  totalHalala : Int

def computeHalala (gpuModel : Option String) (durationSeconds : ℚ)
    (pricingClass : PricingClass) (jobType : JobType) : Int :=
  match gpuModel.filter (fun model => model ≠ "") with
  | some model =>
    ⌈(resolveGpuRate model).ratePerSecondUsd * durationSeconds *
      sarUsdRate * 100 * pricingClass.multiplier⌉
  | none =>
    ⌈jobType.ratePerMinute * (durationSeconds / 60) * pricingClass.multiplier⌉

def estimateThreeComponentCost (gpuModel : Option String)
    (durationSeconds storageGbSeconds bandwidthBytesOut : ℚ)
    (pricingClass : Option String) (jobType : JobType) :
    ThreeComponentCost :=
  let compute := computeHalala gpuModel durationSeconds (normalizePricingClass pricingClass) jobType
  let storage := ⌈storageGbSeconds / (30 * 24 * 3600) * storageRateHalalaPerGbMonth⌉
  let bandwidth := ⌈bandwidthBytesOut / (1024 * 1024 * 1024) * bandwidthRateHalalaPerGb⌉
  { computeHalala := compute
    storageHalala := storage
    bandwidthHalala := bandwidth
    totalHalala := compute + storage + bandwidth }

structure Split where
  provider : Int
  fee : Int

namespace Split

def gross (split : Split) : Int :=
  split.provider + split.fee

structure Fair (split : Split) : Prop where
  provider : 0 ≤ split.provider
  fee : 0 ≤ split.fee

end Split

/-- A quarter, rounded down, to the platform. -/
def splitBilling (totalHalala : Int) : Split :=
  let dc1 := totalHalala * 25 / 100
  { provider := totalHalala - dc1, fee := dc1 }

/-- Three quarters, rounded down, to the provider. -/
def splitEarnings (actualCostHalala : Int) : Split :=
  let providerEarned := actualCostHalala * 3 / 4
  { provider := providerEarned
    fee := actualCostHalala - providerEarned }

def splitPlatformFee (grossCostHalala : Int) : Split :=
  let platformFee := mathRound (grossCostHalala * (15 / 100 : ℚ))
  { provider := grossCostHalala - platformFee, fee := platformFee }

@[simp]
theorem splitBilling_gross (total : Int) :
    (splitBilling total).gross = total :=
  sub_add_cancel _ _

@[simp]
theorem splitEarnings_gross (total : Int) :
    (splitEarnings total).gross = total :=
  add_sub_cancel _ _

@[simp]
theorem splitPlatformFee_gross (total : Int) :
    (splitPlatformFee total).gross = total :=
  sub_add_cancel _ _

variable {total : Int}

theorem splitBilling_fair (nonneg : 0 ≤ total) :
    (splitBilling total).Fair := by
  constructor
  · simp only [splitBilling]
    omega
  · simp only [splitBilling]
    omega

theorem splitEarnings_fair (nonneg : 0 ≤ total) :
    (splitEarnings total).Fair := by
  constructor
  · simp only [splitEarnings]
    omega
  · simp only [splitEarnings]
    omega

theorem splitPlatformFee_fair (nonneg : 0 ≤ total) :
    (splitPlatformFee total).Fair := by
  have cast : (0 : ℚ) ≤ total := by exact_mod_cast nonneg
  have bounded : mathRound ((total : ℚ) * (15 / 100)) ≤ mathRound total :=
    mathRound_mono (by linarith)
  rw [mathRound_intCast] at bounded
  constructor
  · exact sub_nonneg.mpr bounded
  · exact mathRound_nonneg (by linarith)

end DcpPlatform.Jobs
