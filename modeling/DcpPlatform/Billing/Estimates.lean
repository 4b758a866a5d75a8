import DcpPlatform.Billing.Gate
import DcpPlatform.Billing.SpendCaps

/-!
# The estimate and the settled cost

The gate and the settlement choose a price separately. The estimate covers the
cost unless the tokens have no price at the settlement, and are then paid by
the minute.
-/

namespace DcpPlatform.Billing

open Foundation

/-- The rates of `model_registry`, if set, and of `cost_rates`. -/
structure Rates where
  inRateHalalaPer1m : Option Nat
  outRateHalalaPer1m : Option Nat
  tokenRateHalala : Nat
  fallbackRateHalalaPerMin : Nat

def computeDiscountedRateHalala (baseRateHalala discountBps : Nat) : Nat :=
  ⌈toDouble ((baseRateHalala * (10000 - min 10000 discountBps) : Nat) / 10000)⌉.toNat

def Rates.discounted (rates : Rates) (discountBps : Nat) : Rates where
  inRateHalalaPer1m := rates.inRateHalalaPer1m.map (computeDiscountedRateHalala · discountBps)
  outRateHalalaPer1m := rates.outRateHalalaPer1m.map (computeDiscountedRateHalala · discountBps)
  tokenRateHalala := computeDiscountedRateHalala rates.tokenRateHalala discountBps
  fallbackRateHalalaPerMin := rates.fallbackRateHalalaPerMin

/-- The request as the gate prices it: a rate that is not set counts as zero. -/
def Rates.priced (rates : Rates) (request : ChatRequest) : ChatRequest :=
  { request with
    tokenRateHalala := rates.tokenRateHalala
    inRateHalalaPer1m := rates.inRateHalalaPer1m.getD 0
    outRateHalalaPer1m := rates.outRateHalalaPer1m.getD 0
    fallbackRateHalalaPerMin := rates.fallbackRateHalalaPerMin }

inductive Field where
  | absent
  | null
  | number (value : ℚ)

def toFiniteInt (maximum : Nat) : Field → Option Nat
  | .absent => none
  | .null => some 0
  | .number value =>
    if value.den = 1 ∧ 0 ≤ value ∧ value ≤ maximum then some value.num.toNat else none

def safeTokens (field : Field) : Option Nat :=
  toFiniteInt 1000000000 field

def safeRate (field : Field) : Option Nat :=
  toFiniteInt 100000000 field

def Field.ofRate : Option Nat → Field
  | none => .null
  | some rate => .number rate

def computeUsageCostBreakdown (rates : Rates)
    (promptTokens completionTokens totalTokens : Nat) : Int × Int :=
  let prompt := (safeTokens (.number promptTokens)).getD 0
  let completion := (safeTokens (.number completionTokens)).getD 0
  let total := (safeTokens (.number totalTokens)).getD (prompt + completion)
  let legacyAsPer1m := (safeRate (.number rates.tokenRateHalala)).getD 0
  let inRate := (safeRate (.ofRate rates.inRateHalalaPer1m)).getD legacyAsPer1m
  let outRate := (safeRate (.ofRate rates.outRateHalalaPer1m)).getD legacyAsPer1m
  if total = 0 ∨ inRate = 0 ∧ outRate = 0 then
    (0, 0)
  else
    (ceilPerMillion (prompt * inRate : Nat), ceilPerMillion (completion * outRate : Nat))

structure Usage where
  prompt_tokens : Field
  completion_tokens : Field
  total_tokens : Field

def approximateTokenCount (text : String) : Nat :=
  (utf16Length text + 3) / 4

/-- The usage as it is billed; `promptTokens` is the estimate of the gate. -/
def toUsageSnapshot (rates : Rates) (promptTokens : Nat) (rawUsage : Usage)
    (completionText : String) : UsageSnapshot :=
  let prompt := (safeTokens rawUsage.prompt_tokens).getD promptTokens
  let completion :=
    (safeTokens rawUsage.completion_tokens).getD (approximateTokenCount completionText)
  let total := (safeTokens rawUsage.total_tokens).getD (prompt + completion)
  let costs := computeUsageCostBreakdown rates prompt completion total
  { promptTokens := prompt
    completionTokens := completion
    promptCostHalala := costs.1
    completionCostHalala := costs.2
    costHalala := costs.1 + costs.2 }

/-- The price by the minute, at thirty tokens a minute. -/
def fallbackHalala (rates : Rates) (usage : UsageSnapshot) : Int :=
  let rate := if rates.fallbackRateHalalaPerMin = 0 then 2 else rates.fallbackRateHalalaPerMin
  let minutes := toDouble (((usage.promptTokens + usage.completionTokens : Nat) : ℚ) / 30)
  max 1 ⌊toDouble (rate * minutes) + 1 / 2⌋

def settledCostHalala (rates : Rates) (usage : UsageSnapshot) : Int :=
  if 0 < usage.costHalala then usage.costHalala else fallbackHalala rates usage

section Estimate

theorem safe_le (maximum count : Nat) : (toFiniteInt maximum (.number count)).getD 0 ≤ count := by
  simp only [toFiniteInt]
  split <;> simp

theorem safeRate_le (rate : Option Nat) (legacy : Nat) :
    (safeRate (.ofRate rate)).getD ((safeRate (.number legacy)).getD 0) ≤ rate.getD 0 := by
  cases rate with
  | none => exact le_rfl
  | some rate =>
    simp only [Field.ofRate, safeRate, toFiniteInt, Option.getD_some]
    split
    · simp
    · rename_i above
      simp at above
      split
      · rename_i within
        simp at within ⊢
        exact within.trans above.le
      · simp

theorem ceilPerMillion_mono {first second : ℕ} (ordered : first ≤ second) :
    ceilPerMillion first ≤ ceilPerMillion second := by
  refine Int.ceil_mono (toDouble_mono (by positivity) ?_)
  gcongr

theorem estimateInferenceCost_nonneg (request : ChatRequest) :
    0 ≤ estimateInferenceCost request := by
  unfold estimateInferenceCost
  dsimp only
  split_ifs <;> omega

theorem le_estimateHalala (request : ChatRequest) :
    estimateInferenceCost request ≤ request.estimateHalala := by
  have margin : (119 : ℚ) / 100 ≤ toDouble (12 / 10) := by decide +kernel
  have amount : (0 : ℚ) ≤ estimateInferenceCost request := by
    exact_mod_cast estimateInferenceCost_nonneg request
  have raised := mul_le_mul_of_nonneg_left margin amount
  have kept := le_toDouble (amount.trans (le_trans (by linarith) raised))
  have large : (estimateInferenceCost request : ℚ) ≤
      toDouble (estimateInferenceCost request * toDouble (12 / 10)) := by
    refine le_trans ?_ kept
    norm_num at raised ⊢
    linarith
  exact_mod_cast large.trans (Int.le_ceil _)

variable (rates : Rates) (request : ChatRequest)

theorem cost_le_estimate {prompt completion : Nat} (total : Nat)
    (prompts : prompt ≤ request.promptTokens) (completions : completion ≤ request.maxTokens)
    (priced : 0 < (computeUsageCostBreakdown rates prompt completion total).1 +
      (computeUsageCostBreakdown rates prompt completion total).2) :
    (computeUsageCostBreakdown rates prompt completion total).1 +
        (computeUsageCostBreakdown rates prompt completion total).2 ≤
      (rates.priced request).estimateHalala := by
  have inRate := safeRate_le rates.inRateHalalaPer1m rates.tokenRateHalala
  have outRate := safeRate_le rates.outRateHalalaPer1m rates.tokenRateHalala
  refine le_trans ?_ (le_estimateHalala _)
  simp only [computeUsageCostBreakdown] at priced ⊢
  split at priced
  · simp at priced
  · rename_i billed
    have inCost := ceilPerMillion_mono (Nat.mul_le_mul ((safe_le 1000000000 _).trans prompts) inRate)
    have outCost :=
      ceilPerMillion_mono (Nat.mul_le_mul ((safe_le 1000000000 _).trans completions) outRate)
    have rated : 0 < (rates.priced request).inRateHalalaPer1m ∨
        0 < (rates.priced request).outRateHalalaPer1m := by
      simp only [Rates.priced]
      omega
    rw [if_neg billed, estimateInferenceCost, if_pos rated]
    refine le_trans (add_le_add inCost outCost) (le_trans (le_of_eq ?_) (le_max_right _ _))
    simp [Rates.priced]

end Estimate

/-- The settlement of a usage takes no more than the estimate of the gate, and
a renter that the gate lets through can pay it. -/
structure Covered (rates : Rates) (request : ChatRequest) (usage : UsageSnapshot) : Prop where
  within : settledCostHalala rates usage ≤ (rates.priced request).estimateHalala
  paid : ∀ (args : SettleArgs) (db : Database), args.requestId ≠ "" →
    db.billingAttempts.lookup args.requestId = none → 0 ≤ db.balance args.renterId →
    args.costHalala = (settledCostHalala rates usage : Int) →
    checkBalanceGate db args.renterId (rates.priced request).estimateHalala args.nowIso = none →
    ∀ renterId deficit balance,
      (settleInferenceOnce args db).1 ≠ .error (.insufficientBalance renterId deficit balance)

/-- The estimate covers the settlement of a usage exactly when its tokens have
a price, or the price of its minutes is within the estimate. -/
theorem covered_iff (rates : Rates) (discountBps : Nat) (request : ChatRequest) (usage : Usage)
    (completionText : String) {billed : UsageSnapshot}
    (reported : toUsageSnapshot (rates.discounted discountBps) request.promptTokens usage
      completionText = billed)
    (prompts : billed.promptTokens ≤ request.promptTokens)
    (completions : billed.completionTokens ≤ request.maxTokens) :
    Covered (rates.discounted discountBps) request billed ↔ 0 < billed.costHalala ∨
      fallbackHalala (rates.discounted discountBps) billed ≤
        ((rates.discounted discountBps).priced request).estimateHalala := by
  have cost : 0 < billed.costHalala →
      billed.costHalala ≤ ((rates.discounted discountBps).priced request).estimateHalala := by
    subst reported
    exact cost_le_estimate (rates.discounted discountBps) request _ prompts completions
  constructor
  · intro covered
    have within := covered.within
    rw [settledCostHalala] at within
    split at within
    · exact Or.inl ‹_›
    · exact Or.inr within
  · intro fits
    have within : settledCostHalala (rates.discounted discountBps) billed ≤
        ((rates.discounted discountBps).priced request).estimateHalala := by
      rw [settledCostHalala]
      split
      · exact cost ‹_›
      · exact fits.resolve_left ‹_›
    refine ⟨within, fun args db named fresh nonneg exact passed => ?_⟩
    have least : args.costHalala ≤
        ((rates.discounted discountBps).priced request).estimateHalala := by
      rw [exact]
      exact_mod_cast within
    exact funded_of_gate named fresh nonneg (by rwa [Int.ceil_intCast]) least

section Samples

def sampleChat : ChatRequest where
  headers := ⟨none, none, none⟩
  uuid := ""
  renterApiKeyId := none
  modelId := "qwen3:8b"
  promptTokens := 100
  maxTokens := 200
  tokenRateHalala := 0
  inRateHalalaPer1m := 0
  outRateHalalaPer1m := 0
  fallbackRateHalalaPerMin := 0

theorem covered_iff_sample : Covered (Rates.discounted ⟨some 19, some 19, 19, 2⟩ 0) sampleChat
    (toUsageSnapshot (Rates.discounted ⟨some 19, some 19, 19, 2⟩ 0) 100
      ⟨.number 100, .number 200, .absent⟩ "") :=
  (covered_iff ⟨some 19, some 19, 19, 2⟩ 0 sampleChat ⟨.number 100, .number 200, .absent⟩ "" rfl
    (by decide +kernel) (by decide +kernel)).mpr (Or.inl (by decide +kernel))

/-- A model without rates of its own is gated by the rate of `cost_rates`, and
settled by the minute. -/
theorem estimate_exceeded : ¬ Covered ⟨none, none, 19, 2⟩ sampleChat
    (toUsageSnapshot ⟨none, none, 19, 2⟩ 100 ⟨.number 100, .number 200, .absent⟩ "") := by
  intro covered
  exact absurd covered.within (by decide +kernel)

end Samples

end DcpPlatform.Billing
