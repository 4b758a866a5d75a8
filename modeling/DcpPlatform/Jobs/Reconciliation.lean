import DcpPlatform.Billing.Settlement
import DcpPlatform.Jobs.Lifecycle
import DcpPlatform.Jobs.ReportRuns
import DcpPlatform.PayoutBatches.Batch
import DcpPlatform.Pods.Settlement

/-!
# The audit of settled jobs

`verifyJobBilling` splits what a renter has paid once more and compares the
shares with those in the row. Four functions of the program split a cost;
they round different sides, and one of them at another rate.
-/

namespace DcpPlatform.Jobs

open Foundation

/-- The columns of a job that the audit reads. -/
structure BillingColumns where
  costHalala : Int
  actualCostHalala : Option Int
  providerEarnedHalala : Option Int
  dc1FeeHalala : Option Int

inductive Discrepancy where
  | sumMismatch (expected actual : Int)
  | providerSplit (expected actual : Int)
  | dc1Split (expected actual : Int)
  deriving DecidableEq

namespace BillingColumns

variable (columns : BillingColumns)

def renterPaid : Int :=
  columns.actualCostHalala.getD columns.costHalala

def providerEarned : Int :=
  columns.providerEarnedHalala.getD (Billing.splitCost columns.renterPaid).1

def dc1Fee : Int :=
  columns.dc1FeeHalala.getD (Billing.splitCost columns.renterPaid).2

def verifyJobBilling : List Discrepancy :=
  let expected := Billing.splitCost columns.renterPaid
  (if columns.renterPaid ≠ columns.providerEarned + columns.dc1Fee then
      [.sumMismatch columns.renterPaid (columns.providerEarned + columns.dc1Fee)] else []) ++
    (if columns.providerEarned ≠ expected.1 then
      [.providerSplit expected.1 columns.providerEarned] else []) ++
    (if columns.dc1Fee ≠ expected.2 then [.dc1Split expected.2 columns.dc1Fee] else [])

theorem verifyJobBilling_eq_nil_iff :
    columns.verifyJobBilling = [] ↔
      (columns.providerEarned, columns.dc1Fee) = Billing.splitCost columns.renterPaid := by
  have whole : columns.renterPaid = (Billing.splitCost columns.renterPaid).1 +
      (Billing.splitCost columns.renterPaid).2 := by
    simp [Billing.splitCost]
  simp only [verifyJobBilling, List.append_eq_nil_iff, Prod.ext_iff]
  constructor
  · rintro ⟨⟨_, provider⟩, fee⟩
    exact ⟨by simpa using provider, by simpa using fee⟩
  · rintro ⟨provider, fee⟩
    simp [provider, fee, ← whole]

end BillingColumns

def Job.billing (job : Job) : BillingColumns :=
  ⟨job.costHalala, job.actualCostHalala, job.providerEarnedHalala, job.dc1FeeHalala⟩

def podBilling (job : Pods.Job) : BillingColumns :=
  ⟨job.costHalala, job.actualCostHalala, job.providerEarnedHalala, job.dc1FeeHalala⟩

/-- The fee of an inference job is left out of its row. -/
def inferenceBilling (job : Billing.Job) : BillingColumns :=
  ⟨job.costHalala, some job.actualCostHalala, some job.providerEarnedHalala, none⟩

/-- Who settles a job: the endpoints that price what was used, the result of a
job and the deadlines of pods, a stop or a sweep of a pod, inference. -/
inductive SettlementPath where
  | priced
  | quoted
  | pod
  | inference (providerId : Option Nat)

/-- The rows that the program's settlements leave. -/
inductive SettledAs : SettlementPath → BillingColumns → Prop
  | priced (status : JobStatus) (now : Int) (usage : Job.Usage) (cost : ThreeComponentCost)
      (job : Job) :
      SettledAs .priced
        (job.setPriced status now usage cost (splitBilling (max 0 cost.totalHalala))).billing
  | reported (status : JobStatus) (now minutes elapsed price : Int) (job : Job) :
      SettledAs .quoted
        (job.setReported status now minutes elapsed price (splitEarnings price)).billing
  | timedOut (now : Int) (duration : Option Int) (price : Int) (job : Job) :
      SettledAs .quoted (job.setPodCompleted now duration price (splitEarnings price)).billing
  | stopped (status : Pods.JobStatus) (now : Int) (db : Pods.Database) (gpuCount : Nat)
      (job : Pods.Job) :
      SettledAs .pod (podBilling (job.setSettled status now (Pods.settlementFor db job gpuCount now)))
  | expired (now prepaid : Int) (job : Pods.Job) :
      SettledAs .pod (podBilling (job.setExpired now prepaid))
  | inference (args : Billing.SettleArgs) (row : Billing.JobRow) :
      SettledAs (.inference args.providerId) (inferenceBilling (args.job row))

structure SplitsAgree (total : Int) : Prop where
  jobs : ((splitBilling total).provider, (splitBilling total).fee) = Billing.splitCost total
  pods : (Pods.podProviderEarned total, total - Pods.podProviderEarned total) =
    Billing.splitCost total
  settlements : (PayoutBatches.splitFee total).swap = Billing.splitCost total
  nonneg : 0 ≤ (Billing.splitCost total).1 ∧ 0 ≤ (Billing.splitCost total).2
  whole : (Billing.splitCost total).1 + (Billing.splitCost total).2 = total

theorem splitsAgree_iff {total : Int} (nonneg : 0 ≤ total) : SplitsAgree total ↔ total = 0 := by
  constructor
  · intro agree
    have settlements := congrArg Prod.fst agree.settlements
    simp only [PayoutBatches.splitFee, PayoutBatches.platformFeePercent, Prod.fst_swap,
      Billing.splitCost, Billing.providerShare] at settlements
    omega
  · rintro rfl
    constructor
    all_goals decide

/-- What a settlement must be for its row to pass the audit. -/
def PassesAudit (columns : BillingColumns) : SettlementPath → Prop
  | .priced => columns.renterPaid % 4 = 0
  | .quoted | .pod => True
  | .inference providerId => providerId.isSome ∨ columns.renterPaid ≤ 1

theorem priced_passes_iff (total : Int) :
    ((splitBilling total).provider, (splitBilling total).fee) = Billing.splitCost total ↔
      total % 4 = 0 := by
  simp only [splitBilling, Billing.splitCost, Billing.providerShare, Prod.mk.injEq]
  omega

theorem quoted_passes (total : Int) :
    (Pods.podProviderEarned total, total - Pods.podProviderEarned total) =
      Billing.splitCost total := by
  simp only [Pods.podProviderEarned, Billing.splitCost, Billing.providerShare, Prod.mk.injEq]
  omega

theorem inference_passes_iff (args : Billing.SettleArgs) :
    (args.providerEarned, (Billing.splitCost args.cost).2) = Billing.splitCost args.cost ↔
      args.providerId.isSome ∨ args.cost ≤ 1 := by
  have nonneg : 0 ≤ args.cost := le_max_left _ _
  simp only [Billing.SettleArgs.providerEarned, Billing.splitCost, Billing.providerShare,
    Prod.mk.injEq, and_true]
  cases args.providerId with
  | some providerId => simp
  | none =>
    simp only [Option.isSome_none, Bool.false_eq_true, false_or]
    omega

theorem verifyJobBilling_of_settles {path : SettlementPath} {columns : BillingColumns}
    (settles : SettledAs path columns) :
    columns.verifyJobBilling = [] ↔ PassesAudit columns path := by
  rw [columns.verifyJobBilling_eq_nil_iff]
  cases settles with
  | priced => exact priced_passes_iff _
  | reported | timedOut | stopped | expired => exact iff_of_true (quoted_passes _) trivial
  | inference => exact inference_passes_iff _

/-- The splits agree on no positive cost, and a settled job passes the audit
exactly where its cost, priced by the job endpoints, is a multiple of four, or
where it is inference with a provider or for at most one halala, or where it
was settled otherwise. -/
theorem splits_agree_and_audited_iff {total : Int} (nonneg : 0 ≤ total) {path : SettlementPath}
    {columns : BillingColumns} (settles : SettledAs path columns) :
    (SplitsAgree total ↔ total = 0) ∧ (columns.verifyJobBilling = [] ↔ PassesAudit columns path) :=
  ⟨splitsAgree_iff nonneg, verifyJobBilling_of_settles settles⟩

def samplePriced (total : Int) : BillingColumns :=
  (sampleJob.setPriced .completed 0 ⟨1, 0, 0, 0⟩ ⟨total, 0, 0, total⟩
    (splitBilling (max 0 total))).billing

theorem splits_agree_and_audited_sample :
    SplitsAgree 0 ∧ (samplePriced 4).verifyJobBilling = [] := by
  obtain ⟨agree, audited⟩ := splits_agree_and_audited_iff (le_refl (0 : Int))
    (SettledAs.priced .completed 0 ⟨1, 0, 0, 0⟩ ⟨4, 0, 0, 4⟩ sampleJob)
  exact ⟨agree.mpr rfl, audited.mpr rfl⟩

/-- A job of one halala pays it to its provider; the audit expects it as the
fee. -/
theorem splits_disagree :
    ¬ SplitsAgree 1 ∧ SettledAs .priced (samplePriced 1) ∧
      (samplePriced 1).verifyJobBilling = [.providerSplit 0 1, .dc1Split 1 0] :=
  ⟨fun agree => absurd agree.jobs (by decide), SettledAs.priced _ _ _ _ _, by decide⟩

end DcpPlatform.Jobs
