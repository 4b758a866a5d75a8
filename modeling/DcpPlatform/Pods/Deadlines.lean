import DcpPlatform.Foundation.Transition
import DcpPlatform.Pods.Scheduling
import DcpPlatform.Pods.Effects

/-!
# Pods at their deadline

A pod at its deadline should be settled as a stop request would settle it. The
settlement sweep charges the whole prepaid amount, the timeout sweep prices
all GPUs of the provider.
-/

namespace DcpPlatform.Pods

open Foundation Table List Option

/-! ## Prices -/

def Provider.pricing (provider : Provider) : Option ℚ × Nat :=
  (provider.costPerGpuSecondHalala, provider.gpuCount)

def SamePricing (before after : Database) : Prop :=
  ∀ providerId, (after.providers.lookup providerId).map Provider.pricing =
    (before.providers.lookup providerId).map Provider.pricing

namespace SamePricing

theorem refl (db : Database) : SamePricing db db :=
  fun _ => rfl

theorem trans {first second third : Database} (earlier : SamePricing first second)
    (later : SamePricing second third) : SamePricing first third :=
  fun providerId => (later providerId).trans (earlier providerId)

theorem of_providers {before after : Database} (same : after.providers = before.providers) :
    SamePricing before after := by
  intro providerId
  rw [same]

theorem creditProvider (db : Database) (jobId : Nat) (account : Option Nat) (amount : Int) :
    SamePricing db (db.creditProvider jobId account amount) := by
  cases account with
  | none => exact refl db
  | some credited =>
    intro providerId
    rw [Database.creditProvider, Database.record_providers, lookup_update]
    by_cases here : providerId = credited
    · rw [if_pos here, Option.map_map]
      rfl
    · rw [if_neg here]

theorem payOut (db : Database) (job : Job) (settlement : PodSettlement) :
    SamePricing db (payOut db job settlement) := by
  unfold Pods.payOut
  have booked (credited : Database) :
      SamePricing credited ((credited.refundRenter job.id job.renterId
        settlement.refundHalala).bookRental job.renterId settlement.actualCostHalala) := by
    apply of_providers
    rw [Database.bookRental_providers, Database.refundRenter_providers]
  split
  · exact (creditProvider db job.id job.providerId _).trans (booked _)
  · exact booked db

theorem settleExpiredPod (now : Int) (db : Database) (job : Job) :
    SamePricing db (settleExpiredPod now db job) := by
  unfold Pods.settleExpiredPod
  split
  · apply trans _ (of_providers (Database.bookRental_providers _ _ _))
    split
    · exact (of_providers rfl).trans (creditProvider _ _ _ _)
    · exact of_providers rfl
  · exact refl db

theorem cancelStalePod (now : Int) (db : Database) (job : Job) :
    SamePricing db (cancelStalePod now db job) := by
  unfold Pods.cancelStalePod
  split
  · split
    · exact of_providers (Database.refundRenter_providers _ _ _ _)
    · exact of_providers rfl
  · exact refl db

theorem settleTimedOutJob (now : Int) (db : Database) (job : Job) :
    SamePricing db (settleTimedOutJob now db job) := by
  unfold Pods.settleTimedOutJob
  split
  · unfold completeTimedOutPod
    split
    · exact (of_providers rfl).trans (payOut _ job _)
    · exact refl db
  · unfold failTimedOutJob
    split
    · exact of_providers (Database.refundRenter_providers _ _ _ _)
    · exact of_providers rfl

end SamePricing

def elapsedPrice (db : Database) (job : Job) (gpuCount : Nat) (now : Int) : Int :=
  ⌈max 0 ((now - startedAtMs job now : ℚ) / 1000) * resolvePodRate (providerOf db job) * gpuCount⌉

theorem settlementFor_actualCost (db : Database) (job : Job) (gpuCount : Nat) (now : Int) :
    (settlementFor db job gpuCount now).actualCostHalala =
      min (prepaidHalala job) (max 0 (elapsedPrice db job gpuCount now)) :=
  rfl

theorem elapsedPrice_nonneg (db : Database) (job : Job) (gpuCount : Nat)
    (now : Int) : 0 ≤ elapsedPrice db job gpuCount now := by
  have rate : 0 ≤ resolvePodRate (providerOf db job) := by
    unfold resolvePodRate
    split
    · norm_num [defaultPodRate]
    · dsimp only
      split
      · assumption
      · norm_num [defaultPodRate]
  have elapsed : (0 : ℚ) ≤ max 0 ((now - startedAtMs job now : ℚ) / 1000) := le_max_left _ _
  apply Int.ceil_nonneg
  exact mul_nonneg (mul_nonneg elapsed rate) (Nat.cast_nonneg gpuCount)

section Pricing

variable {before after : Database}

variable (same : SamePricing before after)

include same

theorem pricing_of_providerOf (job : Job) :
    (providerOf after job).map Provider.pricing = (providerOf before job).map Provider.pricing := by
  unfold providerOf
  cases job.providerId with
  | none => rfl
  | some providerId => exact same providerId

theorem resolvePodRate_eq (job : Job) :
    resolvePodRate (providerOf after job) = resolvePodRate (providerOf before job) := by
  have pricing := pricing_of_providerOf same job
  cases later : providerOf after job with
  | none =>
    rw [later] at pricing
    rw [map_eq_none_iff.mp pricing.symm]
  | some provider =>
    rw [later] at pricing
    obtain ⟨earlier, found, equal⟩ := map_eq_some_iff.mp pricing.symm
    rw [found]
    have rates : earlier.costPerGpuSecondHalala =
        provider.costPerGpuSecondHalala := congrArg Prod.fst equal
    simp [resolvePodRate, rates]

theorem resolvePodGpuCount_eq (job : Job) :
    resolvePodGpuCount (providerOf after job) = resolvePodGpuCount (providerOf before job) := by
  have pricing := pricing_of_providerOf same job
  cases later : providerOf after job with
  | none =>
    rw [later] at pricing
    rw [map_eq_none_iff.mp pricing.symm]
  | some provider =>
    rw [later] at pricing
    obtain ⟨earlier, found, equal⟩ := map_eq_some_iff.mp pricing.symm
    rw [found]
    have counts : earlier.gpuCount = provider.gpuCount := congrArg Prod.snd equal
    simp [resolvePodGpuCount, counts]

theorem settlementFor_eq (job : Job) (gpuCount : Nat) (now : Int) :
    settlementFor after job gpuCount now = settlementFor before job gpuCount now := by
  unfold settlementFor
  rw [resolvePodRate_eq same]

theorem settledGpuCount_eq (job : Job) :
    settledGpuCount after job = settledGpuCount before job := by
  unfold settledGpuCount
  rw [resolvePodGpuCount_eq same]

theorem elapsedPrice_eq (job : Job) (gpuCount : Nat) (now : Int) :
    elapsedPrice after job gpuCount now = elapsedPrice before job gpuCount now := by
  unfold elapsedPrice
  rw [resolvePodRate_eq same]

end Pricing

structure Leaves (jobId : Nat) (before after : Database) : Prop where
  row : ∀ row, before.jobs.lookup jobId = some row →
    row.status ≠ .queued → after.jobs.lookup jobId = some row
  payments : after.paymentsFor jobId = before.paymentsFor jobId
  pricing : SamePricing before after
  accounted : Accounted before after

namespace Leaves

theorem refl (jobId : Nat) (db : Database) : Leaves jobId db db where
  row := fun _ found _ => found
  payments := rfl
  pricing := SamePricing.refl db
  accounted := Accounted.refl db

theorem trans {jobId : Nat} {first second third : Database} (earlier : Leaves jobId first second)
    (later : Leaves jobId second third) : Leaves jobId first third where
  row := fun row found active =>
    later.row row (earlier.row row found active) active
  payments := later.payments.trans earlier.payments
  pricing := earlier.pricing.trans later.pricing
  accounted := earlier.accounted.trans later.accounted

variable {jobId : Nat} {job : Job}

theorem of_settling {before after : Database} (settling : Settling before job after)
    (accounted : Accounted before after)
    (pricing : SamePricing before after) (different : job.id ≠ jobId) :
    Leaves jobId before after := by
  have elsewhere : jobId ≠ job.id := fun same => different same.symm
  refine ⟨?_, settling.paymentsFor_others elsewhere, pricing, accounted⟩
  intro row found _
  rw [settling.others elsewhere]
  exact found

theorem promoteNextQueuedJob (jobId : Nat) (db : Database) (providerId : Option Nat) (now : Int) :
    Leaves jobId db (promoteNextQueuedJob db providerId now) := by
  rcases promoteNextQueuedJob_cases db providerId now with same | ⟨job, found, queued, promoted⟩
  · rw [same]
    exact refl jobId db
  · rw [promoted]
    refine ⟨?_, rfl, SamePricing.of_providers rfl, Accounted.of_jobs _ _⟩
    intro row rowFound active
    have different : jobId ≠ job.id := by
      intro same
      rw [same, found] at rowFound
      injection rowFound with equal
      rw [← equal, queued] at active
      exact active rfl
    exact (lookup_update_of_ne _ (Job.setPromoted_id now) different).trans rowFound

theorem enforceJobTimeout {db : Database} {now : Int} (timedOut : HasTimedOut now job)
    (current : db.jobs.lookup job.id = some job) (different : job.id ≠ jobId) :
    Leaves jobId db (enforceJobTimeout now db job) :=
  (of_settling (settleTimedOutJob_settling timedOut current)
    (settleTimedOutJob_accounted db job now)
    (SamePricing.settleTimedOutJob now db job) different).trans
      (promoteNextQueuedJob jobId _ job.providerId now)

end Leaves

structure Completes (before after : Database) (row : Job)
    (settlement : PodSettlement) (now : Int) : Prop where
  stored : ∃ closed, after.jobs.lookup row.id = some closed ∧
    closed.status = .completed ∧ closed.completedAt = some now ∧
    closed.charge = settlement.charge
  payments : after.paymentsFor row.id = before.paymentsFor row.id ++ settlement.payments row

theorem completes_of_closing {before after : Database} {row closed : Job}
    {settlement : PodSettlement} {now : Int}
    (closing : Closing before after row.id row closed (settlement.payments row))
    (status : closed.status = .completed)
    (completedAt : closed.completedAt = some now)
    (charge : closed.charge = settlement.charge) :
    Completes before after row settlement now where
  stored := ⟨closed, closing.stored, status, completedAt, charge⟩
  payments := by
    rw [paymentsFor_of_journal closing.journal (owned_payments settlement row), if_pos rfl]

variable {db : Database} {row : Job}

theorem completeTimedOutPod_completes (now : Int) (current : db.jobs.lookup row.id = some row)
    (running : row.status = .running) :
    Completes db (completeTimedOutPod now db row) row
      (settlementFor db row (resolvePodGpuCount (providerOf db row)) now)
      now :=
  completes_of_closing (completeTimedOutPod_closing now current running) rfl rfl rfl

theorem settleExpiredPod_completes (now : Int) (current : db.jobs.lookup row.id = some row)
    (running : row.status = .running) :
    Completes db (settleExpiredPod now db row) row (expiredSettlement row)
      now :=
  completes_of_closing (settleExpiredPod_closing now current running) rfl rfl rfl

structure SettledAt (start : Database) (pod : Job) (now : Int) (db : Database) : Prop where
  stored : ∃ row, db.jobs.lookup pod.id = some row ∧ row.status = .completed ∧
    row.completedAt = some now ∧
    row.charge = (podStopSettlement start pod now).charge
  payments : db.paymentsFor pod.id =
    start.paymentsFor pod.id ++ (podStopSettlement start pod now).payments pod

def Settled (start : Database) (pod : Job) (db : Database) : Prop :=
  ∃ now, SettledAt start pod now db

structure StillRunning (start : Database) (pod : Job) (db : Database) :
    Prop where
  stored : db.jobs.lookup pod.id = some pod
  payments : db.paymentsFor pod.id = start.paymentsFor pod.id

/-- The pod still runs or was settled: it was neither taken back to the
queue nor failed. -/
def InOrder (start : Database) (pod : Job) (db : Database) : Prop :=
  StillRunning start pod db ∨ Settled start pod db

variable {first second : PodSettlement}

theorem settlement_congr {prepaid : Int} (firstSplits : first.Splits prepaid)
    (secondSplits : second.Splits prepaid)
    (firstShare :
      first.providerEarnedHalala = podProviderEarned first.actualCostHalala)
    (secondShare : second.providerEarnedHalala = podProviderEarned second.actualCostHalala)
    (same : first.actualCostHalala = second.actualCostHalala) (job : Job) :
    first.charge = second.charge ∧
      first.payments job = second.payments job := by
  have earned :
      first.providerEarnedHalala = second.providerEarnedHalala := by
    rw [firstShare, secondShare, same]
  have fee : first.dc1FeeHalala = second.dc1FeeHalala := by
    have firstFee := firstSplits.share
    have secondFee := secondSplits.share
    omega
  have refund : first.refundHalala = second.refundHalala := by
    have firstRefund := firstSplits.charge
    have secondRefund := secondSplits.charge
    omega
  constructor
  · simp [PodSettlement.charge, same, earned, fee]
  · simp [PodSettlement.payments, earned, refund]

theorem charge_actualCost (same : first.charge = second.charge) :
    first.actualCostHalala = second.actualCostHalala := by
  have parts := congrArg Prod.fst same
  injection parts

inductive SweepAction where
  | settleExpiredPods (now : Int)
  | enforceJobTimeouts (now : Int)
  | retrySweep (now : Int)
  deriving DecidableEq

def sweepNext (db : Database) : SweepAction → Option Database
  | .settleExpiredPods now => some (settleExpiredPods db now)
  | .enforceJobTimeouts now => some (enforceJobTimeouts db now)
  | .retrySweep now => some (retrySweep db now)

def PricedAlike (db : Database) (job : Job) (now : Int) : Prop :=
  elapsedPrice db job (settledGpuCount db job) now =
    elapsedPrice db job (resolvePodGpuCount (providerOf db job)) now ∨
    (prepaidHalala job ≤ elapsedPrice db job (settledGpuCount db job) now ∧
      prepaidHalala job ≤ elapsedPrice db job (resolvePodGpuCount (providerOf db job)) now)
deriving Decidable

def UsedUp (db : Database) (job : Job) (now : Int) : Prop :=
  prepaidHalala job ≤ elapsedPrice db job (settledGpuCount db job) now
deriving Decidable

/-- The timeout sweep comes to the pod only when it is an interactive pod
priced alike, the settlement sweep only when its prepaid amount is used up,
and the retry sweep not at all. -/
def SettlesRight (jobId : Nat) (db : Database) : SweepAction → Prop
  | .settleExpiredPods now =>
    ∀ row ∈ db.jobs.lookup jobId, row ∈ (db.jobs.select (IsExpired now)).take 20 → UsedUp db row now
  | .enforceJobTimeouts now =>
    ∀ row ∈ db.jobs.lookup jobId, row.status = .running → HasTimedOut now row →
      row.jobType = .interactivePod ∧ PricedAlike db row now
  | .retrySweep now =>
    ∀ row ∈ db.jobs.lookup jobId, row.status = .running → ¬ RetryCandidate now row

instance (jobId : Nat) (db : Database) (action : SweepAction) :
    Decidable (SettlesRight jobId db action) :=
  match action with
  | .settleExpiredPods now =>
    inferInstanceAs (Decidable (∀ row ∈ db.jobs.lookup jobId,
      row ∈ (db.jobs.select (IsExpired now)).take 20 → UsedUp db row now))
  | .enforceJobTimeouts now =>
    inferInstanceAs (Decidable (∀ row ∈ db.jobs.lookup jobId,
      row.status = .running → HasTimedOut now row →
        row.jobType = .interactivePod ∧ PricedAlike db row now))
  | .retrySweep now =>
    inferInstanceAs (Decidable (∀ row ∈ db.jobs.lookup jobId,
      row.status = .running → ¬ RetryCandidate now row))

section Sweeps

variable {db : Database} {row : Job} {now : Int}

theorem taken_current {db : Database} {condition : Job → Prop} [DecidablePred condition] :
    ∀ job ∈ (db.jobs.select condition).take 20, condition job ∧ db.jobs.lookup job.id = some job :=
  fun _ member => mem_select (mem_of_mem_take member)

theorem settleExpiredPod_leaves {jobId : Nat} {other : Job} (different : other.id ≠ jobId) :
    Leaves jobId db (settleExpiredPod now db other) :=
  Leaves.of_settling (settleExpiredPod_settling db other now)
    (settleExpiredPod_accounted db other now)
    (SamePricing.settleExpiredPod now db other) different

theorem staleSweep_leaves (found : db.jobs.lookup row.id = some row) (active : ¬ IsWaiting row) :
    Leaves row.id db (((db.jobs.select (IsStale now)).take 20).foldl (cancelStalePod now) db) := by
  have reads := (staleSweep now).reads_take db 20
  refine (staleSweep now).others (Leaves row.id) (Leaves.refl row.id) Leaves.trans ?_ reads
    (reads.absent found ?_)
  · intro state other _ otherFound different
    exact Leaves.of_settling (cancelStalePod_settling now otherFound)
      (cancelStalePod_accounted state other now)
      (SamePricing.cancelStalePod now state other) different
  · intro member
    exact active (reads.current row member).1.2.1

theorem settleExpiredPods_leaves (found : db.jobs.lookup row.id = some row)
    (active : ¬ IsWaiting row)
    (absent : row ∉ (db.jobs.select (IsExpired now)).take 20) :
    Leaves row.id db (settleExpiredPods db now) := by
  have reads := (expiredSweep now).reads_take db 20
  have expired := (expiredSweep now).others (Leaves row.id) (Leaves.refl row.id) Leaves.trans
      (fun _ _ different => settleExpiredPod_leaves different) reads (reads.absent found absent)
  have stillFound := expired.row row found (fun queued => active (Or.inr queued))
  exact expired.trans (staleSweep_leaves stillFound active)

theorem settleExpiredPods_turn (running : row.status = .running)
    (member : row ∈ (db.jobs.select (IsExpired now)).take 20) :
    ∃ middle, Leaves row.id db middle ∧ middle.jobs.lookup row.id = some row ∧
      Leaves row.id (settleExpiredPod now middle row) (settleExpiredPods db now) := by
  obtain ⟨middle, before, found, after⟩ := (expiredSweep now).turn (Leaves row.id)
      (Leaves.refl row.id) Leaves.trans (fun _ _ different => settleExpiredPod_leaves different)
      rfl ((expiredSweep now).reads_take db 20) member
  refine ⟨middle, before, found, after.trans ?_⟩
  obtain ⟨closed, stored, completed, _⟩ := (settleExpiredPod_completes now found running).stored
  have closedId := lookup_key stored
  have active : ¬ IsWaiting closed := by
    rintro (pending | queued)
    · rw [completed] at pending
      cases pending
    · rw [completed] at queued
      cases queued
  have kept := after.row closed stored (by rw [completed]; decide)
  rw [← closedId] at kept ⊢
  exact staleSweep_leaves kept active

theorem enforceJobTimeouts_leaves (found : db.jobs.lookup row.id = some row)
    (absent : ¬ HasTimedOut now row) :
    Leaves row.id db (enforceJobTimeouts db now) := by
  have reads := (timeoutSweep now).reads_select db
  exact (timeoutSweep now).others (Leaves row.id) (Leaves.refl row.id) Leaves.trans
    Leaves.enforceJobTimeout reads
    (reads.absent found (fun member => absent (reads.current row member).1))

theorem enforceJobTimeouts_turn (found : db.jobs.lookup row.id = some row)
    (timedOut : HasTimedOut now row) :
    ∃ middle, Leaves row.id db middle ∧ middle.jobs.lookup row.id = some row ∧
      Leaves row.id (settleTimedOutJob now middle row) (enforceJobTimeouts db now) := by
  obtain ⟨middle, before, current, after⟩ := (timeoutSweep now).turn (Leaves row.id)
      (Leaves.refl row.id) Leaves.trans Leaves.enforceJobTimeout rfl
      ((timeoutSweep now).reads_select db) (mem_select_iff.mpr ⟨timedOut, found⟩)
  exact ⟨middle, before, current,
    (Leaves.promoteNextQueuedJob row.id _ row.providerId now).trans after⟩

theorem retrySweep_lookup (db : Database) (now : Int) (jobId : Nat) :
    (retrySweep db now).jobs.lookup jobId = (db.jobs.lookup jobId).map (fun job =>
      if RetryCandidate now job then updateJobForRetry now job
      else job) := by
  have keeps (job : Job) :
      (if RetryCandidate now job then updateJobForRetry now job
        else job).id = job.id := by
    unfold updateJobForRetry
    split
    · split <;> rfl
    · rfl
  exact lookup_updateAll db.jobs _ keeps jobId

theorem retrySweep_leaves (found : db.jobs.lookup row.id = some row)
    (absent : ¬ RetryCandidate now row) :
    Leaves row.id db (retrySweep db now) where
  row := by
    intro stored storedFound _
    rw [retrySweep_lookup, storedFound, map_some]
    rw [found] at storedFound
    injection storedFound with equal
    rw [← equal, if_neg absent]
  payments := rfl
  pricing := SamePricing.of_providers rfl
  accounted := Accounted.of_jobs db _

end Sweeps

section Steps

variable {start source target : Database} {pod : Job} {now : Int}

theorem inOrder_iff_of_completes {middle after : Database}
    {settlement : PodSettlement} (running : pod.status = .running)
    (payments : middle.paymentsFor pod.id = start.paymentsFor pod.id)
    (completes : Completes middle after pod settlement now)
    (splits : settlement.Splits (prepaidHalala pod))
    (share : settlement.providerEarnedHalala = podProviderEarned settlement.actualCostHalala)
    (leaves : Leaves pod.id after target) :
    InOrder start pod target ↔
      settlement.actualCostHalala = (podStopSettlement start pod now).actualCostHalala := by
  obtain ⟨closed, stored, completed, completedAt, charge⟩ := completes.stored
  have kept := leaves.row closed stored (by rw [completed]; decide)
  constructor
  · rintro (still | ⟨other, settled⟩)
    · have found := still.stored
      rw [kept] at found
      injection found with same
      rw [same, running] at completed
      cases completed
    · obtain ⟨row, found, _, at_, rowCharge⟩ := settled.stored
      rw [kept] at found
      cases found
      rw [completedAt] at at_
      cases at_
      exact charge_actualCost (charge.symm.trans rowCharge)
  · intro same
    have stopSplits := settlementFor_splits start pod (settledGpuCount start pod) now
    obtain ⟨sameCharge, samePayments⟩ := settlement_congr splits stopSplits share rfl same pod
    refine Or.inr ⟨now, ⟨closed, kept, completed, completedAt, ?_⟩, ?_⟩
    · exact charge.trans sameCharge
    · rw [leaves.payments, completes.payments, payments, samePayments]
      rfl

variable {row : Job}

theorem not_inOrder_of_row (running : pod.status = .running)
    (stored : target.jobs.lookup pod.id = some row)
    (moved : row.status ≠ .running) (uncompleted : row.status ≠ .completed) :
    ¬ InOrder start pod target := by
  rintro (still | ⟨other, settled⟩)
  · have found := still.stored
    rw [stored] at found
    injection found with same
    rw [same] at moved
    exact moved running
  · obtain ⟨other, found, completed, _⟩ := settled.stored
    rw [stored] at found
    injection found with same
    rw [same] at uncompleted
    exact uncompleted completed

theorem Settled.of_leaves (settled : Settled start pod source)
    (leaves : Leaves pod.id source target) : Settled start pod target := by
  obtain ⟨settledNow, ⟨row, found, completed, rest⟩, payments⟩ := settled
  exact ⟨settledNow, ⟨row, leaves.row row found (by rw [completed]; decide), completed, rest⟩,
    leaves.payments.trans payments⟩

theorem InOrder.leaves (running : pod.status = .running) (inOrder : InOrder start pod source)
    (leaves : Leaves pod.id source target) : InOrder start pod target := by
  rcases inOrder with still | settled
  · refine Or.inl ⟨?_, leaves.payments.trans still.payments⟩
    exact leaves.row pod still.stored (by rw [running]; decide)
  · exact Or.inr (settled.of_leaves leaves)

theorem enforce_decides (running : pod.status = .running)
    (pricing : SamePricing start source) (still : StillRunning start pod source)
    (timedOut : HasTimedOut now pod) :
    InOrder start pod (enforceJobTimeouts source now) ↔
      pod.jobType = .interactivePod ∧ PricedAlike source pod now := by
  obtain ⟨middle, before, current, after⟩ := enforceJobTimeouts_turn still.stored timedOut
  by_cases interactive : pod.jobType = .interactivePod
  · unfold settleTimedOutJob at after
    rw [if_pos ⟨interactive, running⟩] at after
    have prices := pricing.trans before.pricing
    have completes := completeTimedOutPod_completes now current running
    rw [settlementFor_eq prices, resolvePodGpuCount_eq prices] at completes
    rw [inOrder_iff_of_completes running (before.payments.trans still.payments) completes
      (settlementFor_splits _ _ _ _) rfl after]
    have ownNonneg := elapsedPrice_nonneg start pod (settledGpuCount start pod) now
    have allNonneg := elapsedPrice_nonneg start pod (resolvePodGpuCount (providerOf start pod)) now
    simp only [interactive, true_and, PricedAlike, podStopSettlement,
      settlementFor_actualCost, elapsedPrice_eq pricing,
      settledGpuCount_eq pricing, resolvePodGpuCount_eq pricing]
    omega
  · unfold settleTimedOutJob at after
    rw [if_neg (interactive ·.1)] at after
    obtain ⟨closed, closing, failed, _⟩ := failTimedOutJob_closing now current timedOut.live
    have kept := after.row closed closing.stored (by rw [failed]; decide)
    have outOfOrder : ¬ InOrder start pod (enforceJobTimeouts source now) :=
      not_inOrder_of_row running kept (by rw [failed]; decide) (by rw [failed]; decide)
    exact ⟨fun inOrder => absurd inOrder outOfOrder, fun both => absurd both.1 interactive⟩

theorem expired_decides (running : pod.status = .running)
    (pricing : SamePricing start source) (still : StillRunning start pod source)
    (member : pod ∈ (source.jobs.select (IsExpired now)).take 20) :
    InOrder start pod (settleExpiredPods source now) ↔ UsedUp source pod now := by
  obtain ⟨middle, before, current, after⟩ := settleExpiredPods_turn running member
  rw [inOrder_iff_of_completes running (before.payments.trans still.payments)
    (settleExpiredPod_completes now current running)
    (expiredSettlement_splits pod) rfl after]
  have price := elapsedPrice_nonneg start pod (settledGpuCount start pod) now
  simp only [expiredSettlement, UsedUp, podStopSettlement,
    settlementFor_actualCost, elapsedPrice_eq pricing,
    settledGpuCount_eq pricing]
  omega

theorem retry_breaks (running : pod.status = .running)
    (still : StillRunning start pod source) (candidate : RetryCandidate now pod) :
    ¬ InOrder start pod (retrySweep source now) := by
  have stored := retrySweep_lookup source now pod.id
  rw [still.stored, map_some, if_pos candidate] at stored
  unfold updateJobForRetry at stored
  by_cases retries : pod.retryCount < allowedRetries pod
  · rw [if_pos retries] at stored
    exact not_inOrder_of_row running stored (by decide : JobStatus.queued ≠ .running)
      (by decide : JobStatus.queued ≠ .completed)
  · rw [if_neg retries] at stored
    exact not_inOrder_of_row running stored (by decide : JobStatus.failed ≠ .running)
      (by decide : JobStatus.failed ≠ .completed)

variable {action : SweepAction}

theorem leaves_of_ended (found : source.jobs.lookup row.id = some row)
    (ended : row.status.isTerminal = true)
    (fires : Fires sweepNext source action target) :
    Leaves row.id source target := by
  have moved (status : JobStatus) (live : status.isTerminal = false) :
      row.status ≠ status := by
    intro same
    rw [same, live] at ended
    cases ended
  cases action with
  | settleExpiredPods now =>
    cases fires
    apply settleExpiredPods_leaves found
    · rintro (pending | queued)
      · exact moved _ rfl pending
      · exact moved _ rfl queued
    · intro member
      have expired := (mem_select (mem_of_mem_take member)).1
      exact moved _ rfl expired.2.1
  | enforceJobTimeouts now =>
    cases fires
    apply enforceJobTimeouts_leaves found
    rintro ⟨status | status | status, _⟩
    all_goals exact moved _ rfl status
  | retrySweep now =>
    cases fires
    apply retrySweep_leaves found
    rintro ⟨_, running | queued⟩
    · exact moved _ rfl running.1
    · exact moved _ rfl queued.1

theorem Settled.sweep (settled : Settled start pod source)
    (fires : Fires sweepNext source action target) :
    Leaves pod.id source target := by
  obtain ⟨settledNow, ⟨row, found, completed, _⟩, _⟩ := settled
  have rowId := lookup_key found
  rw [← rowId] at found ⊢
  exact leaves_of_ended found (by rw [completed]; rfl) fires

end Steps

section Runs

variable {start : Database} {pod : Job}

structure SweepInvariant (start db : Database) : Prop where
  pricing : SamePricing start db
  accounted : Accounted start db

variable {source target : Database} {action : SweepAction}

theorem inOrder_iff_settlesRight (running : pod.status = .running)
    (pricing : SamePricing start source) (inOrder : InOrder start pod source)
    (fires : Fires sweepNext source action target) :
    InOrder start pod target ↔ SettlesRight pod.id source action := by
  rcases inOrder with still | settled
  · have kept (leaves : Leaves pod.id source target) :
        InOrder start pod target :=
      InOrder.leaves running (Or.inl still) leaves
    have waits : ¬ IsWaiting pod := by
      rintro (pending | queued)
      · rw [running] at pending
        cases pending
      · rw [running] at queued
        cases queued
    cases action with
    | settleExpiredPods now =>
      cases fires
      simp only [SettlesRight, still.stored, mem_def, some.injEq, forall_eq']
      by_cases member : pod ∈ (source.jobs.select (IsExpired now)).take 20
      · simp only [member, forall_true_left]
        exact expired_decides running pricing still member
      · simp only [member, false_implies, iff_true]
        exact kept (settleExpiredPods_leaves still.stored waits member)
    | enforceJobTimeouts now =>
      cases fires
      simp only [SettlesRight, still.stored, mem_def,
        some.injEq, forall_eq', running, forall_true_left]
      by_cases timedOut : HasTimedOut now pod
      · simp only [timedOut, forall_true_left]
        exact enforce_decides running pricing still timedOut
      · simp only [timedOut, false_implies, iff_true]
        exact kept (enforceJobTimeouts_leaves still.stored timedOut)
    | retrySweep now =>
      cases fires
      simp only [SettlesRight, still.stored, mem_def,
        some.injEq, forall_eq', running, forall_true_left]
      by_cases candidate : RetryCandidate now pod
      · simp only [candidate, not_true, iff_false]
        exact retry_breaks running still candidate
      · simp only [candidate, not_false_iff, iff_true]
        exact kept (retrySweep_leaves still.stored candidate)
  · have kept := InOrder.leaves running (Or.inr settled) (settled.sweep fires)
    obtain ⟨settledNow, ⟨row, found, completed, _⟩, _⟩ := settled
    constructor
    · intro _
      cases action with
      | settleExpiredPods now =>
        intro other otherFound member
        rw [found] at otherFound
        injection otherFound with same
        have expired := (mem_select (mem_of_mem_take member)).1
        have stillRunning := expired.2.1
        rw [← same, completed] at stillRunning
        cases stillRunning
      | enforceJobTimeouts now | retrySweep now =>
        intro other otherFound stillRunning
        rw [found] at otherFound
        injection otherFound with same
        rw [← same, completed] at stillRunning
        cases stillRunning
    · intro _
      exact kept

theorem SamePricing.foldl {act : Database → Job → Database}
    (turn : ∀ db job, SamePricing db (act db job)) (rows : List Job) :
    ∀ db, SamePricing db (rows.foldl act db) := by
  induction rows with
  | nil =>
    intro db
    exact SamePricing.refl db
  | cons row rest ih =>
    intro db
    exact (turn db row).trans (ih (act db row))

theorem SamePricing.enforceJobTimeout (now : Int) (db : Database)
    (job : Job) : SamePricing db (enforceJobTimeout now db job) := by
  have settled := SamePricing.settleTimedOutJob now db job
  unfold Pods.enforceJobTimeout
  rcases promoteNextQueuedJob_cases (Pods.settleTimedOutJob now db job)
      job.providerId now with same | ⟨queued, _, _, promoted⟩
  · rw [same]
    exact settled
  · rw [promoted]
    exact settled.trans (SamePricing.of_providers rfl)

theorem SweepInvariant.step (invariant : SweepInvariant start source)
    (fires : Fires sweepNext source action target) :
    SweepInvariant start target := by
  have step : SamePricing source target ∧ Accounted source target := by
    cases action with
    | settleExpiredPods now =>
      cases fires
      refine ⟨?_, accounted_sweepClosed.settleExpiredPods source now⟩
      exact (SamePricing.foldl (SamePricing.settleExpiredPod now) _
        source).trans (SamePricing.foldl (SamePricing.cancelStalePod now) _ _)
    | enforceJobTimeouts now =>
      cases fires
      exact ⟨SamePricing.foldl (SamePricing.enforceJobTimeout now) _
        source, accounted_sweepClosed.enforceJobTimeouts source now⟩
    | retrySweep now =>
      cases fires
      exact ⟨SamePricing.of_providers rfl, Accounted.of_jobs source _⟩
  exact ⟨invariant.pricing.trans step.1, invariant.accounted.trans step.2⟩

theorem SweepInvariant.refl (db : Database) : SweepInvariant db db :=
  ⟨SamePricing.refl db, Accounted.refl db⟩

variable {sweeps : List SweepAction}

theorem sweepInvariant_of_run {finish : Database}
    (run : Run (Fires sweepNext) start sweeps finish) :
    SweepInvariant start finish :=
  run.invariant (SweepInvariant start) (fun invariant fires => invariant.step fires)
    (SweepInvariant.refl start)

theorem settled_of_enforced {now : Int} (running : pod.status = .running)
    (inOrder : InOrder start pod source) (timedOut : HasTimedOut now pod)
    (fires : Fires sweepNext source (.enforceJobTimeouts now) target)
    (stays : InOrder start pod target) : Settled start pod target := by
  rcases stays with still | settled
  · rcases inOrder with stillBefore | settledBefore
    · cases fires
      obtain ⟨middle, _, current, after⟩ := enforceJobTimeouts_turn stillBefore.stored timedOut
      have moved : ∃ closed, (settleTimedOutJob now middle pod).jobs.lookup pod.id = some closed ∧
          closed.status.isTerminal = true := by
        unfold settleTimedOutJob
        split
        · obtain ⟨closed, stored, completed, _⟩ :=
            (completeTimedOutPod_completes now current running).stored
          exact ⟨closed, stored, by rw [completed]; rfl⟩
        · obtain ⟨closed, closing, _⟩ := failTimedOutJob_closing now current timedOut.live
          exact ⟨closed, closing.stored, closing.ended⟩
      obtain ⟨closed, stored, ended⟩ := moved
      have kept := after.row closed stored (by
        intro queued
        rw [queued] at ended
        cases ended)
      have found := still.stored
      rw [kept] at found
      injection found with same
      rw [same, running] at ended
      cases ended
    · exact settledBefore.of_leaves (settledBefore.sweep fires)
  · exact settled

theorem settled_of_run (settled : Settled start pod source)
    (run : Run (Fires sweepNext) source sweeps target) :
    Settled start pod target :=
  run.invariant (Settled start pod)
    (fun settled fires => settled.of_leaves (settled.sweep fires)) settled

/-- A running pod whose timeout has passed before a timeout sweep: over all
orders of the sweeps, it stays in order and ends settled exactly when every
sweep meets the condition. -/
theorem pod_settles_iff_settlesRight (found : start.jobs.lookup pod.id = some pod)
    (running : pod.status = .running) {sweeps : List SweepAction}
    {finish : Database} (run : Run (Fires sweepNext) start sweeps finish)
    (due : ∃ now, .enforceJobTimeouts now ∈ sweeps ∧ HasTimedOut now pod) :
    Accounted start finish ∧
      (Run (staying (Fires sweepNext) (InOrder start pod)) start sweeps finish ∧
        Settled start pod finish ↔
        Run (guarded (Fires sweepNext) (SettlesRight pod.id)) start sweeps finish) := by
  refine ⟨(sweepInvariant_of_run run).accounted, ?_⟩
  have initially : InOrder start pod start := Or.inl ⟨found, rfl⟩
  have equivalent : Run (staying (Fires sweepNext) (InOrder start pod)) start sweeps finish ↔
      Run (guarded (Fires sweepNext) (SettlesRight pod.id)) start sweeps
        finish :=
    Run.staying_iff_guarded (SamePricing start) (InOrder start pod) (SettlesRight pod.id)
      (fun pricing _ fires _ =>
        pricing.trans ((SweepInvariant.refl _).step fires).pricing)
      (fun pricing inOrder fires =>
        inOrder_iff_settlesRight running pricing inOrder fires)
      (SamePricing.refl start) initially
  rw [← equivalent]
  constructor
  · exact And.left
  · intro stays
    refine ⟨stays, ?_⟩
    obtain ⟨now, member, timedOut⟩ := due
    obtain ⟨before, after, rfl⟩ := append_of_mem member
    obtain ⟨middle, earlier, later⟩ := stays.split
    have inOrder := earlier.holds_of_staying initially
    cases later with
    | cons taken remaining =>
      have settled := settled_of_enforced running inOrder timedOut taken.1 taken.2
      exact settled_of_run settled (remaining.mono And.left)

end Runs

def deadlineStart (jobType : JobType) : Database :=
  { jobs := Table.empty.insertIfNew { samplePod with jobType := jobType }
    providers := Table.empty.insertIfNew sampleProvider
    renters := Table.empty.insertIfNew sampleRenter
    journal := [] }

theorem pod_settles_iff_settlesRight_sample :
    ∃ finish, execute sweepNext (deadlineStart .interactivePod)
      [.retrySweep 3700000, .settleExpiredPods 3700000, .enforceJobTimeouts 3700000] = some finish ∧
        Settled (deadlineStart .interactivePod) samplePod finish ∧
        finish.paymentsFor 5 = [⟨5, .credit, 1, 750⟩] := by
  refine exists_executed_guarded (SettlesRight 5)
    (fun finish => finish.paymentsFor 5 = [⟨5, .credit, 1, 750⟩])
    (by decide +kernel) ?_
  intro finish allowed paid
  have found : (deadlineStart .interactivePod).jobs.lookup samplePod.id =
      some samplePod := by decide
  obtain ⟨_, settles⟩ :=
    pod_settles_iff_settlesRight found rfl allowed.of_guarded ⟨3700000, by decide, by decide⟩
  exact ⟨(settles.mpr allowed).2, paid⟩

/-- A served model at its deadline: the retry sweep takes it back to the
queue, the timeout sweep fails it and returns all that was paid. -/
theorem served_model_not_settled :
    (∃ finish, execute sweepNext (deadlineStart .vllmServe)
      [.settleExpiredPods 4000000, .retrySweep 4000000] = some finish ∧
        (finish.jobs.lookup 5).map Job.status = some .queued ∧
        (finish.jobs.lookup 5).bind Job.providerId = none ∧
        finish.paymentsFor 5 = []) ∧
    ∃ finish, execute sweepNext (deadlineStart .vllmServe)
      [.settleExpiredPods 4000000, .enforceJobTimeouts 4000000] = some finish ∧
        (finish.jobs.lookup 5).map Job.status = some .failed ∧
        finish.paymentsFor 5 = [⟨5, .refund, 2, 1000⟩] :=
  ⟨exists_of_execute_any (by decide +kernel), exists_of_execute_any (by decide +kernel)⟩

end DcpPlatform.Pods
