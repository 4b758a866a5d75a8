import DcpPlatform.Pods.Effects

/-!
# Stops, the sweep and timeouts settle alike

A stop is priced for the GPUs of the pod, a timeout for those of its provider
and the sweep takes the whole quote. The three agree exactly where the time
that has passed uses up the quote under both counts.
-/

namespace DcpPlatform.Pods

open Foundation

def settledAs (before after : Database) (jobId : Nat) :
    Option (Option Int × Option Int × Option Int) × List Payment :=
  ((after.jobs.lookup jobId).map Job.charge, after.journal.drop before.journal.length)

/-- The renter is charged and refunded and the provider credited the same,
whoever settles the pod. -/
def SettlesAlike (db : Database) (job : Job) (now : Int) : Prop :=
  settledAs db (stopPodCore db job now).1 job.id =
    settledAs db (settleExpiredPod now db job) job.id ∧
    settledAs db (settleTimedOutJob now db job) job.id =
      settledAs db (settleExpiredPod now db job) job.id
deriving Decidable

/-- The time since the start of a pod, priced for `gpuCount` GPUs, comes to
the quote when it is rounded up. -/
def UsesUp (db : Database) (job : Job) (now : Int) (gpuCount : Nat) : Prop :=
  prepaidHalala job = 0 ∨ (prepaidHalala job - 1 : ℚ) <
    max 0 ((now - startedAtMs job now : ℚ) / 1000) * resolvePodRate (providerOf db job) * gpuCount
deriving Decidable

variable {db after : Database} {job row : Job} {payments : List Payment} {now : Int}

theorem settledAs_of_closing {closed : Job}
    (closing : Closing db after job.id row closed payments) :
    settledAs db after job.id = (some closed.charge, payments) := by
  rw [settledAs, closing.stored, closing.journal, List.drop_left]
  rfl

theorem settlementFor_actual_eq_iff (gpuCount : Nat) :
    (settlementFor db job gpuCount now).actualCostHalala = prepaidHalala job ↔
      UsesUp db job now gpuCount := by
  have covers := Int.le_ceil_iff (z := prepaidHalala job)
    (a := max 0 ((now - startedAtMs job now : ℚ) / 1000) *
      resolvePodRate (providerOf db job) * gpuCount)
  rw [UsesUp, ← covers]
  simp only [settlementFor, computePodStopSettlement, prepaidHalala]
  omega

theorem settlement_eq_expired_iff (gpuCount : Nat) :
    ((some (settlementFor db job gpuCount now).charge,
          (settlementFor db job gpuCount now).payments job) =
        (some (expiredSettlement job).charge, (expiredSettlement job).payments job)) ↔
      UsesUp db job now gpuCount := by
  rw [← settlementFor_actual_eq_iff]
  constructor
  · intro same
    have charges := congrArg Prod.fst same
    simp only [PodSettlement.charge, expiredSettlement, Option.some.injEq, Prod.mk.injEq] at charges
    exact charges.1
  · intro whole
    have earned : (settlementFor db job gpuCount now).providerEarnedHalala =
        podProviderEarned (prepaidHalala job) :=
      congrArg podProviderEarned whole
    have fee : (settlementFor db job gpuCount now).dc1FeeHalala =
        prepaidHalala job - podProviderEarned (prepaidHalala job) :=
      congrArg (fun actual => actual - podProviderEarned actual) whole
    have refund : (settlementFor db job gpuCount now).refundHalala = 0 :=
      (congrArg (prepaidHalala job - ·) whole).trans (sub_self _)
    simp [PodSettlement.charge, PodSettlement.payments, whole, earned, fee, refund,
      expiredSettlement]

def sharedProvider : Database :=
  { jobs := ⟨[samplePod], by decide⟩
    providers := ⟨[{ sampleProvider with gpuCount := 2 }], by decide⟩
    renters := ⟨[sampleRenter], by decide⟩
    journal := [] }

end DcpPlatform.Pods
