import DcpPlatform.Foundation.FiniteSums
import DcpPlatform.Pods.Deadlines
import DcpPlatform.Pods.PaidCredit

/-!
# On-demand pods are paid for

What is committed to the on-demand pods of a renter should never exceed what
the renter has paid in. A launch onto a machine of the on-demand tier and an
extension are not compared with the paid credit.
-/

namespace DcpPlatform.Pods

open Foundation Table Option

/-! ## Rows -/

structure Regular (job : Job) : Prop where
  costNonneg : 0 ≤ job.costHalala
  actualNonneg : 0 ≤ job.actualCostHalala.getD 0
  provided : job.jobType.isPod → job.providerId.isSome
  unpaused : job.status ≠ .paused ∧ job.status ≠ .provisioning
  charged : job.actualCostHalala.isSome → job.status = .completed ∨ job.status = .stopped

def Job.terms (job : Job) : JobType × Option Nat × Int :=
  (job.jobType, job.renterId, job.costHalala)

structure Lighter (row later : Job) : Prop where
  regular : Regular later
  jobType : later.jobType = row.jobType
  renterId : later.renterId = row.renterId
  providerId : row.jobType.isPod → later.providerId = row.providerId
  commitment : commitment later ≤ commitment row

variable {job : Job}

theorem Regular.lighter_self (regular : Regular job) :
    Lighter job job :=
  ⟨regular, rfl, rfl, fun _ => rfl, le_refl _⟩

theorem Lighter.trans {first second third : Job}
    (earlier : Lighter first second) (later : Lighter second third) :
    Lighter first third where
  regular := later.regular
  jobType := later.jobType.trans earlier.jobType
  renterId := later.renterId.trans earlier.renterId
  providerId := by
    intro pod
    rw [later.providerId (by rw [earlier.jobType]; exact pod)]
    exact earlier.providerId pod
  commitment := later.commitment.trans earlier.commitment

theorem commitment_of_live (live : job.status.isTerminal = false) :
    commitment job = job.costHalala := by
  rw [commitment, live]
  rfl

theorem commitment_of_ended (ended : job.status.isTerminal = true) :
    commitment job = job.actualCostHalala.getD 0 :=
  if_pos ended

namespace Regular

variable {job later : Job}

theorem commitment_nonneg (regular : Regular job) : 0 ≤ commitment job := by
  unfold commitment
  split
  · exact regular.actualNonneg
  · exact regular.costNonneg

theorem uncharged (regular : Regular job) (live : job.status.isTerminal = false) :
    job.actualCostHalala = none := by
  cases charge : job.actualCostHalala with
  | none => rfl
  | some actual =>
    rcases regular.charged (by rw [charge]; rfl) with status | status
    all_goals
      rw [status] at live
      cases live

theorem commitment_le_counted (regular : Regular job) :
    commitment job ≤ countedHalala job := by
  have costNonneg := regular.costNonneg
  have charged := regular.charged
  unfold commitment countedHalala
  cases status : job.status with
  | pending | queued | assigned | pulling | running =>
    simp [JobStatus.isTerminal]
  | paused => exact absurd status regular.unpaused.1
  | provisioning => exact absurd status regular.unpaused.2
  | completed | stopped =>
    cases job.actualCostHalala with
    | none => simpa [JobStatus.isTerminal] using costNonneg
    | some actual => simp [JobStatus.isTerminal]
  | failed | cancelled =>
    have nothing : job.actualCostHalala = none := by
      rw [status] at charged
      simpa using charged
    simp [nothing, JobStatus.isTerminal]

theorem lighter (regular : Regular job) (same : later.terms = job.terms)
    (providerId : job.jobType.isPod → later.providerId = job.providerId)
    (unpaused : later.status ≠ .paused ∧ later.status ≠ .provisioning)
    (actualNonneg : 0 ≤ later.actualCostHalala.getD 0)
    (charged : later.actualCostHalala.isSome → later.status = .completed ∨ later.status = .stopped)
    (less : commitment later ≤ commitment job) : Lighter job later := by
  simp only [Job.terms, Prod.mk.injEq] at same
  obtain ⟨jobType, renterId, cost⟩ := same
  refine ⟨⟨?_, actualNonneg, ?_, unpaused, charged⟩, jobType, renterId, providerId, less⟩
  · rw [cost]
    exact regular.costNonneg
  · intro pod
    rw [jobType] at pod
    rw [providerId pod]
    exact regular.provided pod

theorem cost_eq_of_terms (same : later.terms = job.terms) :
    later.costHalala = job.costHalala :=
  congrArg (·.2.2) same

theorem reported (regular : Regular job) (live : job.status.isTerminal = false)
    (same : later.terms = job.terms)
    (providerId : job.jobType.isPod → later.providerId = job.providerId)
    (liveLater : later.status.isTerminal = false)
    (unpaused : later.status ≠ .paused ∧ later.status ≠ .provisioning)
    (actual : later.actualCostHalala = job.actualCostHalala) :
    Lighter job later := by
  rw [regular.uncharged live] at actual
  apply regular.lighter same providerId unpaused
  · rw [actual]
    exact le_refl 0
  · intro charge
    rw [actual] at charge
    cases charge
  · rw [commitment_of_live live, commitment_of_live liveLater, cost_eq_of_terms same]

theorem settled (regular : Regular job) (live : job.status.isTerminal = false)
    (same : later.terms = job.terms)
    (providerId : later.providerId = job.providerId)
    (status : later.status = .completed ∨ later.status = .stopped)
    {actual : Int} (charge : later.actualCostHalala = some actual)
    (nonneg : 0 ≤ actual) (bounded : actual ≤ prepaidHalala job) :
    Lighter job later := by
  have ended : later.status.isTerminal = true := by
    rcases status with status | status
    all_goals
      rw [status]
      rfl
  apply regular.lighter same (fun _ => providerId)
  · rcases status with status | status
    all_goals
      rw [status]
      decide
  · rw [charge]
    exact nonneg
  · exact fun _ => status
  · have costNonneg := regular.costNonneg
    rw [commitment_of_live live, commitment_of_ended ended, charge]
    unfold prepaidHalala at bounded
    simp only [getD_some]
    omega

theorem returned (regular : Regular job) (live : job.status.isTerminal = false)
    (same : later.terms = job.terms)
    (providerId : later.providerId = job.providerId)
    (status : later.status = .failed ∨ later.status = .cancelled)
    (actual : later.actualCostHalala = job.actualCostHalala) :
    Lighter job later := by
  have ended : later.status.isTerminal = true := by
    rcases status with status | status
    all_goals
      rw [status]
      rfl
  rw [regular.uncharged live] at actual
  apply regular.lighter same (fun _ => providerId)
  · rcases status with status | status
    all_goals
      rw [status]
      decide
  · rw [actual]
    exact le_refl 0
  · intro charge
    rw [actual] at charge
    cases charge
  · rw [commitment_of_live live, commitment_of_ended ended, actual]
    exact regular.costNonneg

end Regular

def AllRegular (db : Database) : Prop :=
  ∀ jobId job, db.jobs.lookup jobId = some job → Regular job

def SameSupply (before after : Database) : Prop :=
  ∀ providerId, (after.providers.lookup providerId).map Provider.isBurst =
    (before.providers.lookup providerId).map Provider.isBurst

structure BindsNoMore (before after : Database) : Prop where
  supply : SameSupply before after
  rows : ∀ jobId later, after.jobs.lookup jobId = some later →
    ∃ row, before.jobs.lookup jobId = some row ∧ (Regular row → Lighter row later)

theorem SameSupply.of_providers {before after : Database}
    (same : after.providers = before.providers) :
    SameSupply before after := by
  intro providerId
  rw [same]

variable (db : Database)

theorem SameSupply.creditProvider (jobId : Nat) (account : Option Nat) (amount : Int) :
    SameSupply db (db.creditProvider jobId account amount) := by
  cases account with
  | none => exact SameSupply.of_providers rfl
  | some credited =>
    intro providerId
    rw [Database.creditProvider, Database.record_providers, lookup_update]
    by_cases here : providerId = credited
    · rw [if_pos here, map_map]
      rfl
    · rw [if_neg here]

theorem SameSupply.payOut (job : Job) (settlement : PodSettlement) :
    SameSupply db (payOut db job settlement) := by
  have booked (credited : Database) (same : SameSupply db credited) :
      SameSupply db ((credited.refundRenter job.id job.renterId
        settlement.refundHalala).bookRental job.renterId settlement.actualCostHalala) := by
    intro providerId
    rw [Database.bookRental_providers, Database.refundRenter_providers]
    exact same providerId
  unfold Pods.payOut
  split
  · exact booked _ (SameSupply.creditProvider db job.id job.providerId _)
  · exact booked db (SameSupply.of_providers rfl)

namespace BindsNoMore

variable {before after : Database}

theorem of_rows (supply : SameSupply before after)
    (jobs : after.jobs = before.jobs) : BindsNoMore before after where
  supply := supply
  rows := by
    intro jobId later found
    rw [jobs] at found
    exact ⟨later, found, Regular.lighter_self⟩

theorem refl (db : Database) : BindsNoMore db db :=
  of_rows (SameSupply.of_providers rfl) rfl

theorem trans {first second third : Database} (earlier : BindsNoMore first second)
    (later : BindsNoMore second third) : BindsNoMore first third where
  supply := fun providerId =>
    (later.supply providerId).trans (earlier.supply providerId)
  rows := by
    intro jobId last found
    obtain ⟨middle, middleFound, second⟩ := later.rows jobId last found
    obtain ⟨row, rowFound, first⟩ := earlier.rows jobId middle middleFound
    refine ⟨row, rowFound, ?_⟩
    intro regular
    have light := first regular
    exact light.trans (second light.regular)

theorem of_update {db : Database} {target : Nat} {change : Job → Job}
    (keeps : ∀ job, (change job).id = job.id)
    (light : ∀ job, db.jobs.lookup target = some job → Regular job → Lighter job (change job)) :
    BindsNoMore db { db with jobs := db.jobs.update target change keeps } where
  supply := SameSupply.of_providers rfl
  rows := by
    intro jobId later found
    rcases lookup_of_lookup_update keeps found with ⟨here, row, stored, changed⟩ | ⟨_, stored⟩
    · subst here changed
      exact ⟨row, stored, light row stored⟩
    · exact ⟨later, stored, Regular.lighter_self⟩

theorem of_updateWhere {db : Database} {target : Nat}
    {guard : Job → Prop} [DecidablePred guard] {change : Job → Job}
    (keeps : ∀ job, (change job).id = job.id)
    (light : ∀ job, db.jobs.lookup target = some job → guard job → Regular job →
      Lighter job (change job)) :
    BindsNoMore db { db with
      jobs := db.jobs.updateWhere target guard change keeps } := by
  apply of_update
  intro job found regular
  by_cases met : guard job
  · rw [if_pos met]
    exact light job found met regular
  · rw [if_neg met]
    exact regular.lighter_self

theorem of_closing {jobId : Nat}
    {row closed : Job} {payments : List Payment} (supply : SameSupply before after)
    (closing : Closing before after jobId row closed payments)
    (light : Regular row → Lighter row closed) :
    BindsNoMore before after where
  supply := supply
  rows := by
    intro other later found
    by_cases here : other = jobId
    · subst here
      rw [closing.stored] at found
      cases found
      exact ⟨row, closing.found, light⟩
    · rw [closing.others other here] at found
      exact ⟨later, found, Regular.lighter_self⟩

theorem regular (binds : BindsNoMore before after) (regular : AllRegular before) :
    AllRegular after := by
  intro jobId later found
  obtain ⟨row, rowFound, light⟩ := binds.rows jobId later found
  exact (light (regular jobId row rowFound)).regular

end BindsNoMore

section Settlements

variable {db : Database} {job : Job} {now : Int}

theorem setSettled_lighter {status : JobStatus} {settlement : PodSettlement} (regular : Regular job)
    (live : job.status.isTerminal = false)
    (ended : status = .completed ∨ status = .stopped)
    (splits : settlement.Splits (prepaidHalala job)) :
    Lighter job (job.setSettled status now settlement) := by
  have share := splits.share
  have earned := splits.earnedNonneg
  have fee := splits.feeNonneg
  have charge := splits.charge
  have refund := splits.refundNonneg
  exact regular.settled live rfl rfl ended rfl (by omega) (by omega)

variable (current : db.jobs.lookup job.id = some job)

include current

theorem stopRunning_bindsNoMore (running : IsRunning job) :
    BindsNoMore db (stopRunning db job now) := by
  have live : job.status.isTerminal = false := by
    rw [running]
    rfl
  apply BindsNoMore.of_closing _ (stopRunning_closing now current running)
  · intro regular
    exact setSettled_lighter regular live (Or.inr rfl) (settlementFor_splits db job _ now)
  · exact SameSupply.payOut _ job _

theorem completeTimedOutPod_bindsNoMore (running : IsRunning job) :
    BindsNoMore db (completeTimedOutPod now db job) := by
  have live : job.status.isTerminal = false := by
    rw [running]
    rfl
  apply BindsNoMore.of_closing _ (completeTimedOutPod_closing now current running)
  · intro regular
    exact setSettled_lighter regular live (Or.inl rfl) (settlementFor_splits db job _ now)
  · unfold completeTimedOutPod
    split
    · exact SameSupply.payOut _ job _
    · exact SameSupply.of_providers rfl

theorem settleExpiredPod_bindsNoMore (running : IsRunning job) :
    BindsNoMore db (settleExpiredPod now db job) := by
  have live : job.status.isTerminal = false := by
    rw [running]
    rfl
  apply BindsNoMore.of_closing _ (settleExpiredPod_closing now current running)
  · intro regular
    exact regular.settled live rfl rfl (Or.inl rfl) rfl (prepaidHalala_nonneg job) (le_refl _)
  · intro providerId
    unfold settleExpiredPod
    split
    · rw [Database.bookRental_providers]
      split
      · exact SameSupply.creditProvider _ _ _ _ providerId
      · rfl
    · rfl

theorem cancelUnstarted_bindsNoMore :
    BindsNoMore db (cancelUnstarted db job now) := by
  by_cases cancellable : Cancellable job
  · apply BindsNoMore.of_closing _ (cancelUnstarted_closing now current cancellable)
    · intro regular
      exact regular.returned cancellable.1 rfl rfl (Or.inr rfl) rfl
    · unfold cancelUnstarted
      split
      · split
        · exact SameSupply.of_providers (Database.refundRenter_providers _ _ _ _)
        · exact SameSupply.of_providers rfl
      · exact SameSupply.of_providers rfl
  · have unflipped : ¬ db.jobs.changes job.id Cancellable := by
      rintro ⟨row, found, met⟩
      rw [current] at found
      cases found
      exact cancellable met
    rw [cancelUnstarted, if_neg unflipped]
    exact BindsNoMore.refl db

theorem cancelStalePod_bindsNoMore (waiting : IsWaiting job) :
    BindsNoMore db (cancelStalePod now db job) := by
  apply BindsNoMore.of_closing _ (cancelStalePod_closing now current waiting)
  · intro regular
    exact regular.returned waiting.live rfl rfl (Or.inr rfl) rfl
  · unfold cancelStalePod
    split
    · split
      · exact SameSupply.of_providers (Database.refundRenter_providers _ _ _ _)
      · exact SameSupply.of_providers rfl
    · exact SameSupply.of_providers rfl

theorem failAndRefund_bindsNoMore (live : job.status.isTerminal = false) :
    BindsNoMore db (failAndRefund now db job) := by
  apply BindsNoMore.of_closing _ (failAndRefund_closing now current live)
  · intro regular
    exact regular.returned live rfl rfl (Or.inl rfl) rfl
  · exact SameSupply.of_providers (Database.refundRenter_providers _ _ _ _)

theorem markTimedOut_bindsNoMore (live : job.status.isTerminal = false) :
    BindsNoMore db (markTimedOut now db job.id) := by
  apply BindsNoMore.of_closing _ (markTimedOut_closing now current live)
  · intro regular
    exact regular.returned live rfl rfl (Or.inl rfl) rfl
  · exact SameSupply.of_providers rfl

theorem settleTimedOutJob_bindsNoMore (timedOut : HasTimedOut now job) :
    BindsNoMore db (settleTimedOutJob now db job) := by
  unfold settleTimedOutJob
  split
  · rename_i running
    exact completeTimedOutPod_bindsNoMore current running.2
  · unfold failTimedOutJob
    split
    · exact failAndRefund_bindsNoMore current timedOut.live
    · exact markTimedOut_bindsNoMore current timedOut.live

omit current

theorem promoteNextQueuedJob_bindsNoMore (db : Database) (providerId : Option Nat) (now : Int) :
    BindsNoMore db (promoteNextQueuedJob db providerId now) := by
  rcases promoteNextQueuedJob_cases db providerId now with same | ⟨queued, found, status, promoted⟩
  · rw [same]
    exact BindsNoMore.refl db
  · rw [promoted]
    apply BindsNoMore.of_update
    intro row rowFound regular
    rw [found] at rowFound
    cases rowFound
    exact regular.reported (by rw [status]; rfl) rfl (fun _ => rfl) rfl
      ⟨JobStatus.noConfusion, JobStatus.noConfusion⟩ rfl

theorem burstJobFail_bindsNoMore (db : Database) (jobId : Nat) (now : Int) :
    BindsNoMore db (burstJobFail db jobId now) := by
  unfold burstJobFail
  split
  · exact BindsNoMore.refl db
  · rename_i row found
    have rowId := lookup_key found
    subst rowId
    split
    · exact BindsNoMore.refl db
    · rename_i unended
      have live : row.status.isTerminal = false := by
        simpa using unended
      split
      · exact failAndRefund_bindsNoMore found live
      · exact markTimedOut_bindsNoMore found live

theorem stopPodCore_bindsNoMore (current : db.jobs.lookup job.id = some job) :
    BindsNoMore db (stopPodCore db job now).1 := by
  unfold stopPodCore
  split
  · exact BindsNoMore.refl db
  · split
    · rename_i running
      exact stopRunning_bindsNoMore current running
    · exact cancelUnstarted_bindsNoMore current

end Settlements

theorem settleExpiredPods_bindsNoMore (now : Int) :
    BindsNoMore db (settleExpiredPods db now) := by
  have expired := (expiredSweep now).relates BindsNoMore BindsNoMore.refl BindsNoMore.trans
      (fun met found => settleExpiredPod_bindsNoMore found met.2.1)
      ((expiredSweep now).reads_take db 20)
  apply expired.trans
  exact (staleSweep now).relates BindsNoMore BindsNoMore.refl BindsNoMore.trans
    (fun met found => cancelStalePod_bindsNoMore found met.2.1) ((staleSweep now).reads_take _ 20)

theorem enforceJobTimeouts_bindsNoMore (now : Int) :
    BindsNoMore db (enforceJobTimeouts db now) := by
  refine (timeoutSweep now).relates BindsNoMore BindsNoMore.refl BindsNoMore.trans ?_
    ((timeoutSweep now).reads_select db)
  intro state first met found
  exact (settleTimedOutJob_bindsNoMore found met).trans
    (promoteNextQueuedJob_bindsNoMore _ first.providerId now)

section Committed

variable {supplyTier : Nat → Option String} {before after : Database} {renterId : Nat}

theorem isOnDemand_congr (same : SameSupply before after) (providerId : Nat) :
    IsOnDemand supplyTier after providerId ↔ IsOnDemand supplyTier before providerId := by
  have view (db : Database) :
      IsOnDemand supplyTier db providerId ↔ ∃ isBurst,
        (db.providers.lookup providerId).map Provider.isBurst = some isBurst ∧
          (isBurst = true ∨ OnDemandText (supplyTier providerId)) := by
    unfold IsOnDemand
    cases db.providers.lookup providerId with
    | none | some provider => simp
  rw [view, view, same providerId]

theorem onDemandPodOf_congr (same : SameSupply before after) (job : Job) :
    OnDemandPodOf supplyTier after renterId job ↔ OnDemandPodOf supplyTier before renterId job := by
  apply and_congr_right
  intro _
  apply and_congr_right
  intro _
  constructor
  · rintro ⟨providerId, member, onDemand⟩
    exact ⟨providerId, member, (isOnDemand_congr same _).mp onDemand⟩
  · rintro ⟨providerId, member, onDemand⟩
    exact ⟨providerId, member, (isOnDemand_congr same _).mpr onDemand⟩

def committedShare (supplyTier : Nat → Option String) (db : Database)
    (renterId : Nat) (job : Job) : Int :=
  if OnDemandPodOf supplyTier db renterId job then commitment job else 0

theorem committedHalala_eq (supplyTier : Nat → Option String) (db : Database) (renterId : Nat) :
    committedHalala supplyTier db renterId =
      db.jobs.total (committedShare supplyTier db renterId) :=
  rfl

theorem committedShare_congr (same : SameSupply before after) :
    committedShare supplyTier after renterId = committedShare supplyTier before renterId := by
  funext job
  exact if_congr (onDemandPodOf_congr same job) rfl rfl

theorem committedHalala_congr (same : SameSupply before after) (jobs : after.jobs = before.jobs) :
    committedHalala supplyTier after renterId = committedHalala supplyTier before renterId := by
  rw [committedHalala_eq, committedHalala_eq, committedShare_congr same, jobs]

theorem committedShare_nonneg {job : Job} (regular : Regular job) (db : Database) :
    0 ≤ committedShare supplyTier db renterId job := by
  unfold committedShare
  split
  · exact regular.commitment_nonneg
  · exact le_refl 0

theorem Lighter.committedShare_le {row later : Job}
    (light : Lighter row later) (regular : Regular row) (db : Database) :
    committedShare supplyTier db renterId later ≤ committedShare supplyTier db renterId row := by
  by_cases onDemand : OnDemandPodOf supplyTier db renterId later
  · obtain ⟨renter, pod, providerId, provider, tier⟩ := onDemand
    rw [light.jobType] at pod
    have earlier : OnDemandPodOf supplyTier db renterId row := by
      refine ⟨light.renterId.symm.trans renter, pod, providerId, ?_, tier⟩
      rw [light.providerId pod] at provider
      exact provider
    have laterOnDemand : OnDemandPodOf supplyTier db renterId later :=
      ⟨renter, by rw [light.jobType]; exact pod, providerId, provider, tier⟩
    unfold committedShare
    rw [if_pos laterOnDemand, if_pos earlier]
    exact light.commitment
  · have nonneg := @committedShare_nonneg supplyTier renterId row regular db
    have nothing : committedShare supplyTier db renterId later = 0 := if_neg onDemand
    rw [nothing]
    exact nonneg

theorem BindsNoMore.committed_le (binds : BindsNoMore before after) (regular : AllRegular before) :
    committedHalala supplyTier after renterId ≤ committedHalala supplyTier before renterId := by
  rw [committedHalala_eq, committedHalala_eq, committedShare_congr binds.supply]
  apply sum_le_of_distinct Job.id Job.id _ _ after.jobs.keysNodup
  · intro later member
    obtain ⟨row, found, light⟩ := binds.rows later.id later (lookup_of_mem member)
    have rowRegular := regular later.id row found
    exact ⟨row, lookup_mem found, lookup_key found,
      (light rowRegular).committedShare_le rowRegular before⟩
  · intro row member
    exact committedShare_nonneg (regular row.id row (lookup_of_mem member)) before

theorem committed_le_counted {db : Database} (regular : AllRegular db) :
    committedHalala supplyTier db renterId ≤
      getOnDemandCommittedHalala supplyTier db renterId + servedHalala supplyTier db renterId := by
  have counted : committedHalala supplyTier db renterId ≤ db.jobs.total (fun job =>
      if OnDemandPodOf supplyTier db renterId job ∧ job.jobType = .interactivePod then
        countedHalala job
      else
        0) + servedHalala supplyTier db renterId := by
    unfold committedHalala servedHalala total
    rw [← List.sum_map_add]
    apply List.sum_le_sum
    intro job member
    have rowRegular := regular job.id job (lookup_of_mem member)
    have counted := rowRegular.commitment_le_counted
    by_cases onDemand : OnDemandPodOf supplyTier db renterId job
    · have pod := onDemand.2.1
      cases jobType : job.jobType with
      | interactivePod => simpa [onDemand] using counted
      | vllmServe => simp [onDemand]
      | other =>
        rw [jobType] at pod
        cases pod
    · simp [onDemand]
  unfold getOnDemandCommittedHalala
  omega

end Committed

section Launches

variable {supplyTier : Nat → Option String} {db debited : Database}
  {request : LaunchRequest} {plan : LaunchPlan} {now : Int}

theorem debitQuote_providers {quoteHalala : Int}
    (taken : debitQuote db request quoteHalala = some debited) :
    debited.providers = db.providers := by
  unfold debitQuote at taken
  split at taken
  · rw [Database.debitRenter_eq_some taken]
  · injection taken with same
    rw [same]

theorem refundQuote_providers (db : Database) (request : LaunchRequest) (quoteHalala : Int) :
    (refundQuote db request quoteHalala).providers = db.providers := by
  unfold refundQuote
  split
  · exact Database.refundRenter_providers _ _ _ _
  · rfl

theorem regular_podRow (nonneg : 0 ≤ plan.quoteHalala) :
    Regular (podRow request plan now) where
  costNonneg := nonneg
  actualNonneg := le_refl 0
  provided := fun _ => rfl
  unpaused := by
    unfold podRow
    dsimp only
    split <;> decide
  charged := by
    intro charge
    cases charge

theorem podRow_live :
    (podRow request plan now).status.isTerminal = false := by
  unfold podRow
  dsimp only
  split <;> rfl

def landed (debited : Database) (request : LaunchRequest) (plan : LaunchPlan) (now : Int)
    (fresh : debited.jobs.lookup (podRow request plan now).id = none) :
    Database :=
  { debited with
    jobs := debited.jobs.insert (podRow request plan now) fresh }

theorem landed_supply (taken : debitQuote db request plan.quoteHalala = some debited)
    (fresh : debited.jobs.lookup (podRow request plan now).id = none) :
    SameSupply db (landed debited request plan now fresh) := by
  have providers : (landed debited request plan now fresh).providers =
      debited.providers := rfl
  exact SameSupply.of_providers (providers.trans (debitQuote_providers taken))

section Landed

variable (planned : ∃ allowed, planLaunch db request now allowed = .ok plan)
  (taken : debitQuote db request plan.quoteHalala = some debited)
  (fresh : debited.jobs.lookup (podRow request plan now).id = none)

include planned taken

theorem landed_regular (regular : AllRegular db) :
    AllRegular (landed debited request plan now fresh) := by
  obtain ⟨allowed, planned⟩ := planned
  have nonneg := planLaunch_quote_nonneg planned
  intro jobId job found
  dsimp only [landed] at found
  rw [lookup_insert] at found
  by_cases here : (podRow request plan now).id = jobId
  · rw [if_pos here] at found
    cases found
    exact regular_podRow nonneg
  · rw [if_neg here, (debitQuote_eq_some nonneg taken).1] at found
    exact regular jobId job found

theorem landed_committed (renterId : Nat) :
    committedHalala supplyTier (landed debited request plan now fresh) renterId =
      committedHalala supplyTier db renterId +
        committedShare supplyTier db renterId (podRow request plan now) := by
  obtain ⟨allowed, planned⟩ := planned
  have jobs := (debitQuote_eq_some (planLaunch_quote_nonneg planned) taken).1
  rw [committedHalala_eq, committedHalala_eq, committedShare_congr (landed_supply taken fresh)]
  dsimp only [landed]
  rw [total_insert, jobs]

end Landed

theorem unspawned_committed (fresh : debited.jobs.lookup (podRow request plan now).id = none) :
    BindsNoMore (landed debited request plan now fresh)
      (failBurstJobAndRefund (landed debited request plan now fresh)
        request.jobId plan.quoteHalala request.renterId now).1 ∧
      ∀ renterId, committedHalala supplyTier
        (failBurstJobAndRefund (landed debited request plan now fresh)
          request.jobId plan.quoteHalala request.renterId now).1
        renterId = committedHalala supplyTier (landed debited request plan now fresh) renterId -
            committedShare supplyTier (landed debited request plan now fresh) renterId
              (podRow request plan now) := by
  have found : (landed debited request plan now fresh).jobs.lookup request.jobId =
      some (podRow request plan now) :=
    lookup_insert_self debited.jobs _ fresh
  have launching : IsLaunching (podRow request plan now) := by
    refine ⟨rfl, ?_⟩
    unfold podRow
    dsimp only
    split
    · exact Or.inl rfl
    · exact Or.inr (Or.inl rfl)
  have closing := @failBurstJobAndRefund_closing _ (podRow request plan now)
      plan.quoteHalala request.renterId now found launching
  have flips : (landed debited request plan now fresh).jobs.changes request.jobId
      IsLaunching := ⟨_, found, launching⟩
  have same : (failBurstJobAndRefund (landed debited request plan now fresh)
      request.jobId plan.quoteHalala request.renterId
      now).1.providers = debited.providers ∧
        (failBurstJobAndRefund (landed debited request plan now fresh)
          request.jobId plan.quoteHalala request.renterId now).1.jobs =
          (landed debited request plan now fresh).jobs.update
            request.jobId (Job.setReturned .failed now)
            (Job.setReturned_id .failed now) := by
    rw [← updateWhere_of_met (Job.setReturned_id .failed now) found launching]
    rw [failBurstJobAndRefund, if_pos flips]
    split
    · exact ⟨Database.refundRenter_providers _ _ _ _, Database.refundRenter_jobs _ _ _ _⟩
    · exact ⟨rfl, rfl⟩
  have supply : SameSupply (landed debited request plan now fresh)
      (failBurstJobAndRefund (landed debited request plan now fresh)
        request.jobId plan.quoteHalala request.renterId now).1 :=
    SameSupply.of_providers same.1
  have light (rowRegular : Regular (podRow request plan now)) :
      Lighter (podRow request plan now) ((podRow request plan now).setReturned .failed now) :=
    rowRegular.returned podRow_live rfl rfl (Or.inl rfl) rfl
  refine ⟨BindsNoMore.of_closing supply closing light, ?_⟩
  intro renterId
  have nothing : committedShare supplyTier (landed debited request plan now fresh)
      renterId ((podRow request plan now).setReturned .failed now) =
        0 := by
    unfold committedShare
    split <;> rfl
  rw [committedHalala_eq, committedHalala_eq, committedShare_congr supply, same.2,
    total_update (Job.setReturned .failed now)
      (Job.setReturned_id .failed now) _ found, nothing, add_zero]

theorem launchPodCore_commits (db : Database) (request : LaunchRequest)
    (now : Int) (outlook : LaunchOutlook) (regular : AllRegular db) :
    SameSupply db (launchPodCore db request now outlook).1 ∧
      AllRegular (launchPodCore db request now outlook).1 ∧
      ((∀ renterId, committedHalala supplyTier (launchPodCore db request now outlook).1 renterId =
        committedHalala supplyTier db renterId) ∨
        ∃ plan, planLaunch db request now outlook.creditAllowed = .ok plan ∧
          (debitQuote db request plan.quoteHalala).isSome ∧
          ∀ renterId, committedHalala supplyTier (launchPodCore db request now outlook).1 renterId =
            committedHalala supplyTier db renterId +
              committedShare supplyTier db renterId (podRow request plan now)) := by
  have effect := launchPodCore_effect db request now outlook
  generalize (launchPodCore db request now outlook).1 = after at effect ⊢
  cases effect with
  | refused =>
    exact ⟨SameSupply.of_providers rfl, regular, Or.inl (fun _ => rfl)⟩
  | @compensated plan debited planned taken =>
    have nonneg := planLaunch_quote_nonneg planned
    have supply : SameSupply db (refundQuote debited request plan.quoteHalala) := by
      apply SameSupply.of_providers
      rw [refundQuote_providers, debitQuote_providers taken]
    have jobs : (refundQuote debited request plan.quoteHalala).jobs =
        db.jobs := by
      rw [(refundQuote_effect _ request nonneg).1, (debitQuote_eq_some nonneg taken).1]
    exact ⟨supply, (BindsNoMore.of_rows supply jobs).regular regular,
      Or.inl (fun _ => committedHalala_congr supply jobs)⟩
  | @landed plan debited fresh planned taken =>
    refine ⟨landed_supply taken fresh, landed_regular ⟨_, planned⟩ taken fresh regular,
      Or.inr ⟨plan, planned, by rw [taken]; rfl, ?_⟩⟩
    exact landed_committed ⟨_, planned⟩ taken fresh
  | @unspawned plan debited fresh planned taken =>
    have supply := landed_supply taken fresh
    have opened := landed_regular ⟨_, planned⟩ taken fresh regular
    obtain ⟨binds, committed⟩ := @unspawned_committed supplyTier debited request plan now fresh
    refine ⟨fun providerId =>
      (binds.supply providerId).trans (supply providerId),
      binds.regular opened, Or.inl ?_⟩
    intro renterId
    have before :=
      @landed_committed supplyTier db debited request plan now ⟨_, planned⟩ taken fresh renterId
    have after := committed renterId
    rw [committedShare_congr supply] at after
    unfold landed at after before
    omega

end Launches

def Extendable (db : Database) (job : Job) (addMinutes : Nat) : Prop :=
  job.status = .running ∧ (currentSeconds job + addMinutes * 60 : Nat) ≤ maxDurationMinutes * 60 ∧
    (debitExtension db job (extendQuote db job addMinutes)).isSome
deriving Decidable

section Extensions

variable {supplyTier : Nat → Option String} {db debited : Database}
  {job : Job} {addMinutes : Nat} {now : Int}

theorem extendPodCore_of_not_extendable (refused : ¬ Extendable db job addMinutes) :
    (extendPodCore db job addMinutes now).1 = db := by
  unfold extendPodCore
  split
  · rfl
  · rename_i running
    split
    · rfl
    · rename_i fits
      dsimp only
      cases taken : debitExtension db job (extendQuote db job addMinutes) with
      | none => rfl
      | some debited =>
        refine absurd ⟨not_not.mp running, not_lt.mp fits, ?_⟩ refused
        rw [taken]
        rfl

variable {addQuoteHalala : Int}

theorem debitExtension_providers (taken : debitExtension db job addQuoteHalala = some debited) :
    debited.providers = db.providers := by
  unfold debitExtension at taken
  split at taken
  · cases account : job.renterId with
    | none =>
      rw [account] at taken
      cases taken
    | some renterId =>
      rw [account, bind_some] at taken
      rw [Database.debitRenter_eq_some taken]
  · injection taken with same
    rw [same]

theorem extendQuote_nonneg (db : Database) (job : Job)
    (addMinutes : Nat) : 0 ≤ extendQuote db job addMinutes :=
  computePodQuoteHalala_nonneg _ _ _

theorem Regular.extended (regular : Regular job) (running : job.status = .running)
    (nonneg : 0 ≤ addQuoteHalala) (newSeconds : Nat) (now : Int) :
    Regular (job.setExtended newSeconds addQuoteHalala now) where
  costNonneg := add_nonneg regular.costNonneg nonneg
  actualNonneg := regular.actualNonneg
  provided := regular.provided
  unpaused := by
    have status : (job.setExtended newSeconds addQuoteHalala now).status =
        .running := running
    rw [status]
    decide
  charged := regular.charged

theorem committedShare_extended (running : job.status = .running)
    (db : Database) (renterId newSeconds : Nat) (addQuoteHalala now : Int) :
    committedShare supplyTier db renterId (job.setExtended newSeconds addQuoteHalala now) =
      committedShare supplyTier db renterId job +
        if OnDemandPodOf supplyTier db renterId job then addQuoteHalala
        else 0 := by
  have live : job.status.isTerminal = false := by
    rw [running]
    rfl
  have bound : commitment (job.setExtended newSeconds addQuoteHalala now) =
      commitment job + addQuoteHalala := by
    have liveLater : (job.setExtended newSeconds addQuoteHalala now).status.isTerminal =
        false := live
    rw [commitment_of_live live, commitment_of_live liveLater]
    rfl
  have sameRow : OnDemandPodOf supplyTier db renterId
      (job.setExtended newSeconds addQuoteHalala now) ↔
        OnDemandPodOf supplyTier db renterId job := Iff.rfl
  unfold committedShare
  by_cases onDemand : OnDemandPodOf supplyTier db renterId job
  · rw [if_pos onDemand, if_pos onDemand, if_pos (sameRow.mpr onDemand), bound]
  · rw [if_neg onDemand, if_neg onDemand, if_neg (fun later => onDemand (sameRow.mp later))]
    rfl

theorem extendPodCore_commits
    (current : db.jobs.lookup job.id = some job) (regular : AllRegular db) :
    SameSupply db (extendPodCore db job addMinutes now).1 ∧
      AllRegular (extendPodCore db job addMinutes now).1 ∧
      ((∀ renterId, committedHalala supplyTier (extendPodCore db job addMinutes now).1 renterId =
        committedHalala supplyTier db renterId) ∨
        Extendable db job addMinutes ∧ ∀ renterId, committedHalala supplyTier
          (extendPodCore db job addMinutes now).1 renterId =
            committedHalala supplyTier db renterId +
              if OnDemandPodOf supplyTier db renterId job then
                extendQuote db job addMinutes
              else
                0) := by
  by_cases extendable : Extendable db job addMinutes
  · rcases extendPodCore_cases db job addMinutes now with same | ⟨debited, running, taken, after⟩
    · rw [same]
      exact ⟨SameSupply.of_providers rfl, regular, Or.inl (fun _ => rfl)⟩
    · have nonneg := extendQuote_nonneg db job addMinutes
      have jobs := (debitExtension_eq_some nonneg taken).1
      have supply : SameSupply db (extendPodCore db job addMinutes now).1 := by
        have providers := debitExtension_providers taken
        rw [after]
        exact SameSupply.of_providers providers
      have afterJobs : (extendPodCore db job addMinutes now).1.jobs =
          db.jobs.update job.id (Job.setExtended (currentSeconds job + addMinutes * 60)
            (extendQuote db job addMinutes) now)
            (Job.setExtended_id _ _ now) := by
        rw [after]
        rw [jobs]
      refine ⟨supply, ?_, Or.inr ⟨extendable, ?_⟩⟩
      · intro jobId later found
        rw [afterJobs] at found
        rcases lookup_of_lookup_update (Job.setExtended_id _ _ now)
            found with ⟨here, row, stored, changed⟩ | ⟨_, stored⟩
        · subst here changed
          rw [current] at stored
          cases stored
          exact (regular job.id job current).extended running nonneg _ now
        · exact regular jobId later stored
      · intro renterId
        rw [committedHalala_eq, committedHalala_eq, committedShare_congr supply, afterJobs,
          total_update _ (Job.setExtended_id _ _ now) _ current,
          committedShare_extended running]
        omega
  · rw [extendPodCore_of_not_extendable extendable]
    exact ⟨SameSupply.of_providers rfl, regular, Or.inl (fun _ => rfl)⟩

end Extensions

section Requests

variable {db after : Database} {action : PodAction}

def PodAction.Commits : PodAction → Prop
  | .launch _ _ _ | .extend _ _ _ => True
  | _ => False

theorem progressStatus_of_report {pulling : Bool} {status : JobStatus}
    (reported : pulling = true ∨ status = .assigned ∨ status = .pulling) :
    progressStatus pulling status = .pulling ∨ progressStatus pulling status = .running := by
  unfold progressStatus
  split
  · exact Or.inl rfl
  · rename_i notPulling
    have starting : status = .assigned ∨ status = .pulling := reported.resolve_left notPulling
    rw [if_pos starting]
    exact Or.inr rfl

theorem pickUpJob_bindsNoMore (db : Database) (providerId jobId : Nat)
    (now : Int) : BindsNoMore db (pickUpJob db providerId jobId now) := by
  apply BindsNoMore.of_updateWhere
  intro job found pickable regular
  refine regular.reported pickable.1.live rfl ?_ rfl
    ⟨JobStatus.noConfusion, JobStatus.noConfusion⟩ rfl
  intro pod
  rcases pickable.2.2 with own | unassigned
  · exact own.symm
  · have provided := regular.provided pod
    rw [unassigned] at provided
    cases provided

theorem nextPods_bindsNoMore (step : Fires nextPods db action after)
    (other : ¬ action.Commits) : BindsNoMore db after := by
  cases action with
  | launch request now outlook | extend target addMinutes now => exact absurd trivial other
  | pickUp providerId target now =>
    obtain rfl := some.inj step
    exact pickUpJob_bindsNoMore db providerId target now
  | endpointReady providerId target port accessUrl now =>
    simp only [Fires, nextPods] at step
    split at step
    · cases step
    · rename_i unended
      obtain rfl := some.inj step
      apply BindsNoMore.of_updateWhere
      intro job found _ regular
      exact regular.reported (live_of_unended unended found) rfl (fun _ => rfl) rfl
        ⟨JobStatus.noConfusion, JobStatus.noConfusion⟩ rfl
  | reportProgress providerId target pulling now =>
    simp only [Fires, nextPods] at step
    split at step
    · cases step
    · rename_i unended
      obtain rfl := some.inj step
      unfold reportProgress
      split
      · exact BindsNoMore.refl db
      · rename_i job found
        split
        · rename_i reported
          have status := progressStatus_of_report reported.2
          apply BindsNoMore.of_update
          intro row rowFound regular
          rw [found] at rowFound
          cases rowFound
          have live := live_of_unended unended found
          have unpaused : progressStatus pulling job.status ≠ .paused ∧
              progressStatus pulling job.status ≠ .provisioning := by
            rcases status with status | status
            all_goals
              rw [status]
              decide
          exact @Regular.reported job (job.setProgress (progressStatus pulling job.status) now)
            regular live rfl (fun _ => rfl) (progressStatus_live live)
            unpaused rfl
        · exact BindsNoMore.refl db
  | burstSuccess target accessUrl durationSeconds now =>
    obtain rfl := some.inj step
    apply BindsNoMore.of_updateWhere
    intro job found starting regular
    exact regular.reported starting.live rfl (fun _ => rfl) rfl
      ⟨JobStatus.noConfusion, JobStatus.noConfusion⟩ rfl
  | stop target now =>
    simp only [Fires, nextPods] at step
    split at step
    · rename_i job found
      obtain rfl := some.inj step
      have rowId := lookup_key found
      subst rowId
      exact stopPodCore_bindsNoMore found
    · cases step
  | settleExpiredPods now =>
    obtain rfl := some.inj step
    exact settleExpiredPods_bindsNoMore db now
  | enforceJobTimeouts now =>
    obtain rfl := some.inj step
    exact enforceJobTimeouts_bindsNoMore db now
  | burstFail target now =>
    obtain rfl := some.inj step
    exact burstJobFail_bindsNoMore db target now
  | setRate providerId rate =>
    obtain rfl := some.inj step
    refine @BindsNoMore.of_rows db { db with providers := _ } ?_ rfl
    intro other
    rw [lookup_update]
    by_cases here : other = providerId
    · rw [if_pos here, map_map]
      rfl
    · rw [if_neg here]

end Requests

end DcpPlatform.Pods
