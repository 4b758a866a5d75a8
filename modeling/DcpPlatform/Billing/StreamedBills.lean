import DcpPlatform.Billing.Estimates

/-!
# One body or a stream

An answer is billed alike as one body and as a stream when its usage block
counts its tokens. Without one the stream counts the visible text, and the
body is billed for no tokens.
-/

namespace DcpPlatform.Billing

open Foundation

/-- What a provider answers: the text that the renter sees, and the usage block
if it is an object. -/
structure ChatAnswer where
  content : String
  usage : Option Usage
  finishReason : Option String

def ChatAnswer.IsUnbillable (answer : ChatAnswer) : Prop :=
  trim answer.content = "" ∧ answer.finishReason = some "length"
deriving Decidable

/-- The counts of `withUsdUsagePricing`. -/
def withUsdUsagePricing (rawUsage : Usage) : Usage :=
  let prompt := (safeTokens rawUsage.prompt_tokens).getD 0
  let completion := (safeTokens rawUsage.completion_tokens).getD 0
  { prompt_tokens := .number prompt
    completion_tokens := .number completion
    total_tokens := .number ((safeTokens rawUsage.total_tokens).getD (prompt + completion) : Nat) }

variable (rates : Rates) (promptTokens : Nat) (answer : ChatAnswer)

def billOf (usage : Usage) (completionText : String) : Option (UsageSnapshot × Int) :=
  if answer.IsUnbillable then
    none
  else
    let snapshot := toUsageSnapshot rates promptTokens usage completionText
    some (snapshot, settledCostHalala rates snapshot)

def bodyBill : Option (UsageSnapshot × Int) :=
  billOf rates promptTokens answer
    (withUsdUsagePricing (answer.usage.getD ⟨.absent, .absent, .absent⟩)) ""

/-- `writeStreamingResponse`, which makes up a usage block if there is none. -/
def streamBill : Option (UsageSnapshot × Int) :=
  let completion := approximateTokenCount answer.content
  let synthUsage : Usage :=
    { prompt_tokens := .number promptTokens
      completion_tokens := .number completion
      total_tokens := .number (promptTokens + completion : Nat) }
  billOf rates promptTokens answer (withUsdUsagePricing (answer.usage.getD synthUsage))
    answer.content

/-- Both deliveries cost the same, and neither bills an answer at no tokens. -/
structure BilledAlike : Prop where
  cost : (bodyBill rates promptTokens answer).map Prod.snd =
    (streamBill rates promptTokens answer).map Prod.snd
  counted : answer.content ≠ "" → ∀ bill, bodyBill rates promptTokens answer = some bill ∨
    streamBill rates promptTokens answer = some bill →
    bill.1.promptTokens + bill.1.completionTokens ≠ 0

theorem safeTokens_number {count : Nat} (small : count ≤ 1000000000) :
    safeTokens (.number count) = some count := by
  have within : (count : ℚ) ≤ 1000000000 := by exact_mod_cast small
  simp [safeTokens, toFiniteInt, within]

theorem safeTokens_getD_le (field : Field) : (safeTokens field).getD 0 ≤ 1000000000 := by
  cases field with
  | absent | null => simp [safeTokens, toFiniteInt]
  | number value =>
    simp only [safeTokens, toFiniteInt]
    split
    · rename_i fits
      have whole := Rat.den_eq_one_iff value |>.mp fits.1
      have within := fits.2.2
      rw [← whole] at within
      have bounded : value.num ≤ 1000000000 := by exact_mod_cast within
      simp only [Option.getD_some]
      omega
    · simp

theorem snapshot_withUsdUsagePricing (usage : Usage) (completionText : String) :
    toUsageSnapshot rates promptTokens (withUsdUsagePricing usage) completionText =
      toUsageSnapshot rates 0 (withUsdUsagePricing usage) "" := by
  have prompt := safeTokens_number (safeTokens_getD_le usage.prompt_tokens)
  have completion := safeTokens_number (safeTokens_getD_le usage.completion_tokens)
  simp only [toUsageSnapshot, withUsdUsagePricing, prompt, completion, Option.getD_some]

theorem counts_withUsdUsagePricing (usage : Usage) :
    (toUsageSnapshot rates 0 (withUsdUsagePricing usage) "").promptTokens +
        (toUsageSnapshot rates 0 (withUsdUsagePricing usage) "").completionTokens =
      (safeTokens usage.prompt_tokens).getD 0 + (safeTokens usage.completion_tokens).getD 0 := by
  have prompt := safeTokens_number (safeTokens_getD_le usage.prompt_tokens)
  have completion := safeTokens_number (safeTokens_getD_le usage.completion_tokens)
  simp only [toUsageSnapshot, withUsdUsagePricing, prompt, completion, Option.getD_some]

theorem settledCostHalala_of_no_tokens : settledCostHalala rates (toUsageSnapshot rates 0
    (withUsdUsagePricing ⟨.absent, .absent, .absent⟩) "") = 1 := by
  have zero : toUsageSnapshot rates 0 (withUsdUsagePricing ⟨.absent, .absent, .absent⟩) "" =
      ⟨0, 0, 0, 0, 0⟩ := by
    simp [toUsageSnapshot, withUsdUsagePricing, safeTokens, toFiniteInt, computeUsageCostBreakdown]
  rw [zero]
  simp [settledCostHalala, fallbackHalala, toDouble]
  norm_num

end DcpPlatform.Billing
