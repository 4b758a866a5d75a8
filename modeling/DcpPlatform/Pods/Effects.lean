import DcpPlatform.Pods.Settlement

/-!
# What a settlement does

Each settlement function either leaves the database alone or closes one live
row and pays for it: `Settling` states this with the amounts involved.
`Accounted` ties the journal to the balances.
-/

namespace DcpPlatform.Pods

open Foundation Table List

/-! ## Balances and the journal -/

def Payment.toRenter (renterId : Nat) (payment : Payment) : Int :=
  match payment.kind with
  | .refund => if payment.account = renterId then payment.amount else 0
  | .debit => if payment.account = renterId then -payment.amount else 0
  | .credit => 0

def Payment.toProvider (providerId : Nat) (payment : Payment) : Int :=
  match payment.kind with
  | .credit => if payment.account = providerId then payment.amount else 0
  | _ => 0

namespace Database

def renterNet (db : Database) (renterId : Nat) : Int :=
  (db.journal.map (Payment.toRenter renterId)).sum

def providerNet (db : Database) (providerId : Nat) : Int :=
  (db.journal.map (Payment.toProvider providerId)).sum

end Database

/-- The balances move by what the journal records, and machines stay. -/
structure Accounted (before after : Database) : Prop where
  renters : ∀ renterId renter, before.renters.lookup renterId = some renter →
    ∃ later, after.renters.lookup renterId = some later ∧
      later.balanceHalala - after.renterNet renterId =
        renter.balanceHalala - before.renterNet renterId
  providers : ∀ providerId provider, before.providers.lookup providerId = some provider → ∃ later,
    after.providers.lookup providerId = some later ∧ later.machine = provider.machine ∧
      later.claimableEarningsHalala - after.providerNet providerId =
        provider.claimableEarningsHalala - before.providerNet providerId

namespace Accounted

theorem refl (db : Database) : Accounted db db where
  renters := fun _ renter found => ⟨renter, found, rfl⟩
  providers := fun _ provider found => ⟨provider, found, rfl, rfl⟩

theorem trans {first second third : Database} (earlier : Accounted first second)
    (later : Accounted second third) :
    Accounted first third where
  renters := by
    intro renterId renter found
    obtain ⟨middle, middleFound, middleNet⟩ := earlier.renters renterId renter found
    obtain ⟨last, lastFound, lastNet⟩ := later.renters renterId middle middleFound
    exact ⟨last, lastFound, lastNet.trans middleNet⟩
  providers := by
    intro providerId provider found
    obtain ⟨middle, middleFound, middleMachine, middleNet⟩ :=
      earlier.providers providerId provider found
    obtain ⟨last, lastFound, lastMachine, lastNet⟩ := later.providers providerId middle middleFound
    exact ⟨last, lastFound, lastMachine.trans middleMachine, lastNet.trans middleNet⟩

theorem of_jobs (db : Database) (jobs : Table Job Job.id) :
    Accounted db { db with jobs := jobs } where
  renters := fun _ renter found => ⟨renter, found, rfl⟩
  providers := fun _ provider found => ⟨provider, found, rfl, rfl⟩

end Accounted

namespace Database

variable (db : Database) (payment : Payment)

theorem renterNet_record (renterId : Nat) :
    (db.record payment).renterNet renterId = db.renterNet renterId + payment.toRenter renterId := by
  unfold record
  split
  · rename_i nothing
    cases kind : payment.kind with
    | debit | refund | credit =>
      simp [Payment.toRenter, kind, nothing]
  · simp [renterNet]

theorem providerNet_record (providerId : Nat) :
    (db.record payment).providerNet providerId =
      db.providerNet providerId + payment.toProvider providerId := by
  unfold record
  split
  · rename_i nothing
    cases kind : payment.kind with
    | debit | refund | credit =>
      simp [Payment.toProvider, kind, nothing]
  · simp [providerNet]

theorem accounted_balance (amount : Int) (forRenters : ∀ renterId, payment.toRenter renterId =
      if payment.account = renterId then amount else 0)
    (forProviders : ∀ providerId, payment.toProvider providerId = 0) :
    Accounted db ({ db with
      renters := db.renters.update payment.account (Renter.addBalance amount)
        (Renter.addBalance_id amount) }.record payment) where
  renters := by
    intro renterId renter found
    rw [renterNet_record, forRenters, record_renters]
    by_cases same : payment.account = renterId
    · subst same
      refine ⟨renter.addBalance amount, ?_, ?_⟩
      · exact lookup_update_of_some _ _ (Renter.addBalance_id amount) found
      · simp only [Renter.addBalance, renterNet, if_true]
        ring
    · refine ⟨renter, ?_, ?_⟩
      · rw [lookup_update_of_ne _ _ (Ne.symm same)]
        exact found
      · simp [same, renterNet]
  providers := by
    intro providerId provider found
    rw [providerNet_record, forProviders, record_providers]
    exact ⟨provider, found, rfl, by simp [providerNet]⟩

theorem refundRenter_accounted (jobId : Nat) (account : Option Nat) (amount : Int) :
    Accounted db (db.refundRenter jobId account amount) := by
  cases account with
  | none => exact Accounted.refl db
  | some renterId =>
    exact db.accounted_balance ⟨jobId, .refund, renterId, amount⟩ amount
      (fun _ => rfl) (fun _ => rfl)

theorem debitRenter_accounted {db after : Database} {jobId renterId : Nat} {amount : Int}
    (debited : db.debitRenter jobId renterId amount = some after) :
    Accounted db after := by
  unfold debitRenter at debited
  split at debited
  · cases debited
    exact db.accounted_balance ⟨jobId, .debit, renterId, amount⟩
      (-amount) (fun _ => rfl) (fun _ => rfl)
  · cases debited

theorem bookRental_accounted (account : Option Nat) (amount : Int) :
    Accounted db (db.bookRental account amount) := by
  cases account with
  | none => exact Accounted.refl db
  | some renterId =>
    refine ⟨?_, fun _ provider found => ⟨provider, found, rfl, rfl⟩⟩
    intro other renter found
    by_cases same : other = renterId
    · subst same
      exact ⟨renter.addRental amount,
        lookup_update_of_some _ _ (Renter.addRental_id amount) found, rfl⟩
    · refine ⟨renter, ?_, rfl⟩
      have kept := lookup_update_of_ne db.renters (Renter.addRental_id amount) same
      exact kept.trans found

theorem creditProvider_accounted (jobId : Nat) (account : Option Nat) (amount : Int) :
    Accounted db (db.creditProvider jobId account amount) := by
  cases account with
  | none => exact Accounted.refl db
  | some credited =>
    refine ⟨?_, ?_⟩
    · intro renterId renter found
      rw [creditProvider, renterNet_record, record_renters]
      exact ⟨renter, found, by simp [Payment.toRenter, renterNet]⟩
    · intro providerId provider found
      rw [creditProvider, providerNet_record, record_providers]
      by_cases same : credited = providerId
      · subst same
        refine ⟨provider.addEarnings amount, ?_, rfl, ?_⟩
        · exact lookup_update_of_some _ _ (Provider.addEarnings_id amount) found
        · simp only [Provider.addEarnings, Payment.toProvider, providerNet, if_true]
          ring
      · refine ⟨provider, ?_, rfl, ?_⟩
        · rw [lookup_update_of_ne _ _ (Ne.symm same)]
          exact found
        · simp [Payment.toProvider, same, providerNet]

end Database

variable (db : Database) (job : Job) (settlement : PodSettlement)

@[simp]
theorem payOut_jobs :
    (payOut db job settlement).jobs = db.jobs := by
  unfold payOut
  split <;> simp

theorem payOut_journal {settlement : PodSettlement} (nonneg : 0 ≤ settlement.providerEarnedHalala) :
    (payOut db job settlement).journal = db.journal ++
      (Database.entry job.id .credit job.providerId settlement.providerEarnedHalala ++
        Database.entry job.id .refund job.renterId settlement.refundHalala) := by
  rw [payOut, Database.bookRental_journal, Database.refundRenter_journal]
  split
  · rw [Database.creditProvider_journal, append_assoc]
  · have nothing : settlement.providerEarnedHalala = 0 := by omega
    rw [nothing, Database.entry_zero, nil_append]

theorem payOut_accounted :
    Accounted db (payOut db job settlement) := by
  refine Accounted.trans ?_ (Database.bookRental_accounted _ _ _)
  refine Accounted.trans ?_ (Database.refundRenter_accounted _ _ _ _)
  split
  · exact db.creditProvider_accounted _ _ _
  · exact Accounted.refl db

theorem podProviderEarned_nonneg {actual : Int} (nonneg : 0 ≤ actual) :
    0 ≤ podProviderEarned actual := by
  unfold podProviderEarned
  omega

theorem podProviderEarned_le {actual : Int} (nonneg : 0 ≤ actual) :
    podProviderEarned actual ≤ actual := by
  unfold podProviderEarned
  omega

theorem prepaidHalala_nonneg : 0 ≤ prepaidHalala job :=
  le_max_left 0 job.costHalala

structure PodSettlement.Splits (settlement : PodSettlement) (prepaid : Int) : Prop where
  charge : settlement.actualCostHalala + settlement.refundHalala = prepaid
  share : settlement.providerEarnedHalala + settlement.dc1FeeHalala = settlement.actualCostHalala
  earnedNonneg : 0 ≤ settlement.providerEarnedHalala
  feeNonneg : 0 ≤ settlement.dc1FeeHalala
  refundNonneg : 0 ≤ settlement.refundHalala

theorem computePodStopSettlement_splits (costHalala startedAtMs nowMs : Int)
    (ratePerGpuSecond : ℚ) (gpuCount : Nat) :
    (computePodStopSettlement costHalala startedAtMs nowMs
      ratePerGpuSecond gpuCount).Splits (max 0 costHalala) := by
  have prepaidNonneg : 0 ≤ max 0 costHalala := le_max_left _ _
  have actualNonneg (rawCost : Int) :
      0 ≤ min (max 0 costHalala) (max 0 rawCost) :=
    le_min prepaidNonneg (le_max_left _ _)
  constructor
  · simp only [computePodStopSettlement]
    ring
  · simp only [computePodStopSettlement]
    ring
  · exact podProviderEarned_nonneg (actualNonneg _)
  · exact sub_nonneg.mpr (podProviderEarned_le (actualNonneg _))
  · exact sub_nonneg.mpr (min_le_left _ _)

theorem settlementFor_splits (gpuCount : Nat) (now : Int) :
    (settlementFor db job gpuCount now).Splits (prepaidHalala job) :=
  computePodStopSettlement_splits _ _ _ _ _

structure Closing (before after : Database) (jobId : Nat)
    (row closed : Job) (payments : List Payment) : Prop where
  found : before.jobs.lookup jobId = some row
  live : row.status.isTerminal = false
  stored : after.jobs.lookup jobId = some closed
  ended : closed.status.isTerminal = true
  accounts : closed.renterId = row.renterId ∧ closed.providerId = row.providerId
  others : ∀ other, other ≠ jobId → after.jobs.lookup other = before.jobs.lookup other
  journal : after.journal = before.journal ++ payments

def Job.charge (job : Job) : Option Int × Option Int × Option Int :=
  (job.actualCostHalala, job.providerEarnedHalala, job.dc1FeeHalala)

def PodSettlement.charge (settlement : PodSettlement) :
    Option Int × Option Int × Option Int :=
  (some settlement.actualCostHalala,
    some settlement.providerEarnedHalala, some settlement.dc1FeeHalala)

/-- What the journal gains from a settlement of `job`. -/
def PodSettlement.payments (settlement : PodSettlement) (job : Job) :
    List Payment :=
  Database.entry job.id .credit job.providerId settlement.providerEarnedHalala ++
    Database.entry job.id .refund job.renterId settlement.refundHalala

theorem owned_payments (job : Job) :
    ∀ payment ∈ settlement.payments job, payment.jobId = job.id := by
  intro payment member
  rcases mem_append.mp member with credit | refund
  · exact entry_jobId credit
  · exact entry_jobId refund

/-- The effect of a settlement for `job`: nothing, or one live row is closed,
either charged or with the prepaid amount returned. -/
inductive Settling (before : Database) (job : Job) : Database → Prop
  | untouched : Settling before job before
  | charged {after : Database} {row closed : Job} {settlement : PodSettlement} :
      Closing before after job.id row closed (settlement.payments job) →
      settlement.Splits (prepaidHalala job) →
      closed.charge = settlement.charge →
      Settling before job after
  | returned {after : Database} {row closed : Job} {amount : Int} :
      Closing before after job.id row closed (Database.entry job.id .refund job.renterId amount) →
      closed.charge = row.charge →
      (row.refundedAt = none → job.renterId.isSome →
        0 ≤ job.costHalala → amount = prepaidHalala job) →
      Settling before job after

theorem closing_of_update {before after : Database} {jobId : Nat}
    {row : Job} {change : Job → Job} {payments : List Payment}
    (keeps : ∀ row, (change row).id = row.id)
    (found : before.jobs.lookup jobId = some row)
    (live : row.status.isTerminal = false)
    (ended : (change row).status.isTerminal = true)
    (accounts : (change row).renterId = row.renterId ∧ (change row).providerId = row.providerId)
    (jobs : after.jobs = before.jobs.update jobId change keeps)
    (journal : after.journal = before.journal ++ payments) :
    Closing before after jobId row (change row) payments where
  found := found
  live := live
  stored := by
    rw [jobs]
    exact lookup_update_of_some _ change keeps found
  ended := ended
  accounts := accounts
  others := by
    intro other different
    rw [jobs]
    exact lookup_update_of_ne _ keeps different
  journal := journal

variable (now : Int)

theorem stopRunning_closing {db : Database} {job row : Job}
    (found : db.jobs.lookup job.id = some row) (running : IsRunning row) :
    Closing db (stopRunning db job now) job.id row
      (row.setSettled .stopped now (podStopSettlement db job now))
      ((podStopSettlement db job now).payments job) := by
  have splits := settlementFor_splits db job (settledGpuCount db job) now
  have live : row.status.isTerminal = false := by
    rw [running]
    rfl
  apply closing_of_update (Job.setSettled_id .stopped now _) found live rfl ⟨rfl, rfl⟩
  · rw [stopRunning, payOut_jobs]
    exact updateWhere_of_met _ found running
  · exact payOut_journal _ _ splits.earnedNonneg

theorem completeTimedOutPod_closing {db : Database} {job row : Job}
    (found : db.jobs.lookup job.id = some row)
    (running : IsRunning row) :
    Closing db (completeTimedOutPod now db job) job.id row (row.setSettled .completed now
      (settlementFor db job (resolvePodGpuCount (providerOf db job)) now))
      ((settlementFor db job (resolvePodGpuCount (providerOf db job)) now).payments job) := by
  have flips : db.jobs.changes job.id IsRunning := ⟨row, found, running⟩
  have splits := settlementFor_splits db job (resolvePodGpuCount (providerOf db job)) now
  have live : row.status.isTerminal = false := by
    rw [running]
    rfl
  rw [completeTimedOutPod, if_pos flips]
  apply closing_of_update (Job.setSettled_id .completed now _) found live rfl ⟨rfl, rfl⟩
  · rw [payOut_jobs]
    exact updateWhere_of_met _ found running
  · exact payOut_journal _ _ splits.earnedNonneg

def expiredSettlement (job : Job) : PodSettlement :=
  { elapsedSeconds := job.maxDurationSeconds.getD 0
    actualCostHalala := prepaidHalala job
    providerEarnedHalala := podProviderEarned (prepaidHalala job)
    dc1FeeHalala := prepaidHalala job - podProviderEarned (prepaidHalala job)
    refundHalala := 0 }

theorem expiredSettlement_splits :
    (expiredSettlement job).Splits (prepaidHalala job) where
  charge := add_zero _
  share := by
    simp only [expiredSettlement]
    ring
  earnedNonneg := podProviderEarned_nonneg (prepaidHalala_nonneg job)
  feeNonneg := sub_nonneg.mpr (podProviderEarned_le (prepaidHalala_nonneg job))
  refundNonneg := le_refl 0

theorem settleExpiredPod_closing {db : Database} {job row : Job}
    (found : db.jobs.lookup job.id = some row)
    (running : IsRunning row) :
    Closing db (settleExpiredPod now db job) job.id row (row.setExpired now (prepaidHalala job))
      ((expiredSettlement job).payments job) := by
  have flips : db.jobs.changes job.id IsRunning := ⟨row, found, running⟩
  have splits := expiredSettlement_splits job
  have live : row.status.isTerminal = false := by
    rw [running]
    rfl
  have noRefund :
      Database.entry job.id .refund job.renterId (expiredSettlement job).refundHalala = [] :=
    Database.entry_zero _ _ _
  rw [settleExpiredPod, if_pos flips]
  apply closing_of_update (Job.setExpired_id now _) found live rfl ⟨rfl, rfl⟩
  · rw [Database.bookRental_jobs]
    split
    · rw [Database.creditProvider_jobs]
      exact updateWhere_of_met _ found running
    · exact updateWhere_of_met _ found running
  · rw [Database.bookRental_journal, PodSettlement.payments, noRefund, append_nil]
    split
    · exact Database.creditProvider_journal _ _ _ _
    · rename_i unearned
      have nothing : podProviderEarned (prepaidHalala job) = 0 := by
        have nonneg := splits.earnedNonneg
        simp only [expiredSettlement] at nonneg
        omega
      simp [expiredSettlement, nothing]

theorem cancelUnstarted_closing {db : Database} {job row : Job}
    (found : db.jobs.lookup job.id = some row)
    (cancellable : Cancellable row) :
    Closing db (cancelUnstarted db job now) job.id row (row.setReturned .cancelled now)
      (Database.entry job.id .refund job.renterId (prepaidHalala job)) := by
  have flips : db.jobs.changes job.id Cancellable := ⟨row, found, cancellable⟩
  have jobs := updateWhere_of_met (Job.setReturned_id .cancelled now) found cancellable
  rw [cancelUnstarted, if_pos flips]
  split
  · apply closing_of_update (Job.setReturned_id .cancelled now) found cancellable.1 rfl ⟨rfl, rfl⟩
    · rw [Database.refundRenter_jobs]
      exact jobs
    · exact Database.refundRenter_journal _ _ _ _
  · rename_i unpaid
    have nothing : prepaidHalala job = 0 := by
      have nonneg := prepaidHalala_nonneg job
      omega
    apply closing_of_update (Job.setReturned_id .cancelled now) found
      cancellable.1 rfl ⟨rfl, rfl⟩ jobs
    rw [nothing, Database.entry_zero, append_nil]

theorem IsWaiting.live {job : Job} (waiting : IsWaiting job) :
    job.status.isTerminal = false := by
  rcases waiting with pending | queued
  · rw [pending]
    rfl
  · rw [queued]
    rfl

theorem cancelStalePod_closing {db : Database} {job row : Job}
    (found : db.jobs.lookup job.id = some row)
    (waiting : IsWaiting row) :
    Closing db (cancelStalePod now db job) job.id row (row.setReturned .cancelled now)
      (Database.entry job.id .refund job.renterId
        (if job.refundedAt = none then prepaidHalala job else 0)) := by
  have flips : db.jobs.changes job.id IsWaiting := ⟨row, found, waiting⟩
  have jobs := updateWhere_of_met (Job.setReturned_id .cancelled now) found waiting
  rw [cancelStalePod, if_pos flips]
  split
  · rename_i owed
    rw [if_pos owed.2]
    apply closing_of_update (Job.setReturned_id .cancelled now) found waiting.live rfl ⟨rfl, rfl⟩
    · rw [Database.refundRenter_jobs]
      exact jobs
    · exact Database.refundRenter_journal _ _ _ _
  · rename_i unowed
    have nothing : (if job.refundedAt = none then prepaidHalala job else 0) = 0 := by
      have nonneg := prepaidHalala_nonneg job
      split
      · rename_i unrefunded
        by_contra owed
        apply unowed
        exact ⟨by omega, unrefunded⟩
      · rfl
    apply closing_of_update (Job.setReturned_id .cancelled now) found
      waiting.live rfl ⟨rfl, rfl⟩ jobs
    rw [nothing, Database.entry_zero, append_nil]

theorem failAndRefund_closing {db : Database} {job row : Job}
    (found : db.jobs.lookup job.id = some row)
    (live : row.status.isTerminal = false) :
    Closing db (failAndRefund now db job) job.id row ((row.setTimedOut now).setRefundedAt now)
      (Database.entry job.id .refund job.renterId job.costHalala) := by
  have failed := lookup_update_of_some db.jobs (Job.setTimedOut now) (Job.setTimedOut_id now) found
  refine ⟨found, live, ?_, rfl, ⟨rfl, rfl⟩, ?_, Database.refundRenter_journal _ _ _ _⟩
  · simp only [failAndRefund, Database.refundRenter_jobs]
    exact lookup_update_of_some _ (Job.setRefundedAt now) (Job.setRefundedAt_id now) failed
  · intro other different
    simp only [failAndRefund, Database.refundRenter_jobs]
    have kept := lookup_update_of_ne db.jobs (Job.setTimedOut_id now) different
    have refunded := lookup_update_of_ne (markTimedOut now db job.id).jobs
        (Job.setRefundedAt_id now) different
    exact refunded.trans kept

theorem markTimedOut_closing {db : Database} {jobId : Nat} {row : Job}
    (found : db.jobs.lookup jobId = some row)
    (live : row.status.isTerminal = false) :
    Closing db (markTimedOut now db jobId) jobId row (row.setTimedOut now) [] := by
  apply closing_of_update (Job.setTimedOut_id now) found live rfl ⟨rfl, rfl⟩ rfl
  rw [append_nil]
  rfl

theorem failTimedOutJob_closing {db : Database} {job row : Job}
    (found : db.jobs.lookup job.id = some row)
    (live : row.status.isTerminal = false) :
    ∃ closed, Closing db (failTimedOutJob now db job) job.id row closed
      (Database.entry job.id .refund job.renterId (prepaidHalala job)) ∧
        closed.status = .failed ∧ closed.costHalala = row.costHalala ∧
        closed.charge = row.charge := by
  unfold failTimedOutJob
  split
  · rename_i owed
    have amount : prepaidHalala job = job.costHalala := max_eq_right owed.2.le
    rw [amount]
    exact ⟨_, failAndRefund_closing now found live, rfl, rfl, rfl⟩
  · rename_i unowed
    refine ⟨row.setTimedOut now, ?_, rfl, rfl, rfl⟩
    have nothing : Database.entry job.id .refund job.renterId (prepaidHalala job) = [] := by
      cases renter : job.renterId with
      | none => rfl
      | some renterId =>
        have unpaid : ¬ 0 < job.costHalala := by
          intro positive
          apply unowed
          rw [renter]
          exact ⟨rfl, positive⟩
        have zero : prepaidHalala job = 0 := max_eq_left (not_lt.mp unpaid)
        rw [zero, Database.entry_zero]
    rw [nothing]
    exact markTimedOut_closing now found live

theorem stopRunning_settling {db : Database} {job row : Job}
    (found : db.jobs.lookup job.id = some row) (running : IsRunning row) :
    Settling db job (stopRunning db job now) :=
  Settling.charged (stopRunning_closing now found running) (settlementFor_splits db job _ now) rfl

theorem completeTimedOutPod_settling :
    Settling db job (completeTimedOutPod now db job) := by
  by_cases flips : db.jobs.changes job.id IsRunning
  · obtain ⟨row, found, running⟩ := flips
    exact Settling.charged (completeTimedOutPod_closing now found running)
      (settlementFor_splits db job _ now) rfl
  · unfold completeTimedOutPod
    rw [if_neg flips]
    exact Settling.untouched

theorem settleExpiredPod_settling :
    Settling db job (settleExpiredPod now db job) := by
  by_cases flips : db.jobs.changes job.id IsRunning
  · obtain ⟨row, found, running⟩ := flips
    exact Settling.charged (settleExpiredPod_closing now found running)
      (expiredSettlement_splits job) rfl
  · unfold settleExpiredPod
    rw [if_neg flips]
    exact Settling.untouched

theorem cancelUnstarted_settling :
    Settling db job (cancelUnstarted db job now) := by
  by_cases flips : db.jobs.changes job.id Cancellable
  · obtain ⟨row, found, cancellable⟩ := flips
    exact Settling.returned (cancelUnstarted_closing now found cancellable) rfl (fun _ _ _ => rfl)
  · unfold cancelUnstarted
    rw [if_neg flips]
    exact Settling.untouched

theorem cancelStalePod_settling {db : Database} {job : Job}
    (current : db.jobs.lookup job.id = some job) :
    Settling db job (cancelStalePod now db job) := by
  by_cases waiting : IsWaiting job
  · exact Settling.returned (cancelStalePod_closing now current waiting)
      rfl (fun unrefunded _ _ => if_pos unrefunded)
  · have unflipped : ¬ db.jobs.changes job.id IsWaiting := by
      rintro ⟨row, found, rowWaiting⟩
      rw [current] at found
      injection found with same
      rw [same] at waiting
      exact waiting rowWaiting
    rw [cancelStalePod, if_neg unflipped]
    exact Settling.untouched

theorem failTimedOutJob_settling {db : Database} {job : Job}
    (current : db.jobs.lookup job.id = some job)
    (live : job.status.isTerminal = false) :
    Settling db job (failTimedOutJob now db job) := by
  obtain ⟨closed, closing, _, _, charge⟩ := failTimedOutJob_closing now current live
  exact Settling.returned closing charge (fun _ _ _ => rfl)

theorem markTimedOut_settling {db : Database} {job : Job}
    (current : db.jobs.lookup job.id = some job)
    (live : job.status.isTerminal = false)
    (unowed :
      job.refundedAt = none → job.renterId.isSome → 0 ≤ job.costHalala → job.costHalala = 0) :
    Settling db job (markTimedOut now db job.id) := by
  have closing := markTimedOut_closing now current live
  rw [← Database.entry_zero job.id .refund job.renterId] at closing
  refine Settling.returned closing rfl ?_
  intro unrefunded renter costNonneg
  rw [prepaidHalala, unowed unrefunded renter costNonneg]
  rfl

theorem HasTimedOut.live {now : Int} {job : Job} (timedOut : HasTimedOut now job) :
    job.status.isTerminal = false := by
  rcases timedOut.1 with status | status | status
  all_goals
    rw [status]
    rfl

theorem settleTimedOutJob_settling {db : Database} {job : Job}
    {now : Int} (timedOut : HasTimedOut now job)
    (current : db.jobs.lookup job.id = some job) :
    Settling db job (settleTimedOutJob now db job) := by
  unfold settleTimedOutJob
  split
  · exact completeTimedOutPod_settling db job now
  · exact failTimedOutJob_settling now current timedOut.live

theorem failBurstJobAndRefund_closing {db : Database} {row : Job}
    (quoteHalala : Int) (renterId : Nat) (now : Int)
    (found : db.jobs.lookup row.id = some row) (launching : IsLaunching row) :
    Closing db (failBurstJobAndRefund db row.id quoteHalala renterId now).1
      row.id row (row.setReturned .failed now)
      (Database.entry row.id .refund (some renterId) (max 0 quoteHalala)) := by
  have flips : db.jobs.changes row.id IsLaunching := ⟨row, found, launching⟩
  have live : row.status.isTerminal = false := by
    rcases launching.2 with status | status | status
    all_goals
      rw [status]
      rfl
  have jobs := updateWhere_of_met (Job.setReturned_id .failed now) found launching
  rw [failBurstJobAndRefund, if_pos flips]
  split
  · rename_i positive
    rw [max_eq_right positive.le]
    apply closing_of_update (Job.setReturned_id .failed now) found live rfl ⟨rfl, rfl⟩
    · rw [Database.refundRenter_jobs]
      exact jobs
    · exact Database.refundRenter_journal _ _ _ _
  · rename_i nothing
    rw [max_eq_left (not_lt.mp nothing), Database.entry_zero]
    apply closing_of_update (Job.setReturned_id .failed now) found live rfl ⟨rfl, rfl⟩ jobs
    rw [append_nil]

theorem failBurstJobAndRefund_settling (jobId : Nat)
    (quoteHalala : Int) (renterId : Nat) (now : Int) :
    (failBurstJobAndRefund db jobId quoteHalala renterId now).1 = db ∨
      ∃ row : Job, db.jobs.lookup jobId = some row ∧ Settling db { row with
        costHalala := quoteHalala
        renterId := some renterId }
          (failBurstJobAndRefund db jobId quoteHalala renterId now).1 := by
  by_cases flips : db.jobs.changes jobId IsLaunching
  · obtain ⟨row, found, launching⟩ := flips
    have rowId := lookup_key found
    subst rowId
    exact Or.inr ⟨row, found, Settling.returned
      (failBurstJobAndRefund_closing quoteHalala renterId now found launching)
      rfl (fun _ _ _ => rfl)⟩
  · unfold failBurstJobAndRefund
    rw [if_neg flips]
    exact Or.inl rfl

theorem stopRunning_accounted :
    Accounted db (stopRunning db job now) :=
  (Accounted.of_jobs db _).trans (payOut_accounted _ _ _)

theorem completeTimedOutPod_accounted :
    Accounted db (completeTimedOutPod now db job) := by
  unfold completeTimedOutPod
  split
  · exact (Accounted.of_jobs db _).trans (payOut_accounted _ _ _)
  · exact Accounted.refl db

theorem settleExpiredPod_accounted :
    Accounted db (settleExpiredPod now db job) := by
  unfold settleExpiredPod
  split
  · refine Accounted.trans ?_ (Database.bookRental_accounted _ _ _)
    split
    · exact (Accounted.of_jobs db _).trans (Database.creditProvider_accounted _ _ _ _)
    · exact Accounted.of_jobs db _
  · exact Accounted.refl db

theorem cancelUnstarted_accounted :
    Accounted db (cancelUnstarted db job now) := by
  unfold cancelUnstarted
  split
  · split
    · exact (Accounted.of_jobs db _).trans (Database.refundRenter_accounted _ _ _ _)
    · exact Accounted.of_jobs db _
  · exact Accounted.refl db

theorem cancelStalePod_accounted :
    Accounted db (cancelStalePod now db job) := by
  unfold cancelStalePod
  split
  · split
    · exact (Accounted.of_jobs db _).trans (Database.refundRenter_accounted _ _ _ _)
    · exact Accounted.of_jobs db _
  · exact Accounted.refl db

theorem failAndRefund_accounted :
    Accounted db (failAndRefund now db job) := by
  have failed : Accounted db (markTimedOut now db job.id) := Accounted.of_jobs db _
  have refunded :=
    failed.trans (Database.refundRenter_accounted _ job.id job.renterId job.costHalala)
  exact refunded.trans (Accounted.of_jobs _ _)

theorem failTimedOutJob_accounted :
    Accounted db (failTimedOutJob now db job) := by
  unfold failTimedOutJob
  split
  · exact failAndRefund_accounted db job now
  · exact Accounted.of_jobs db _

theorem settleTimedOutJob_accounted :
    Accounted db (settleTimedOutJob now db job) := by
  unfold settleTimedOutJob
  split
  · exact completeTimedOutPod_accounted db job now
  · exact failTimedOutJob_accounted db job now

theorem failBurstJobAndRefund_accounted (jobId : Nat)
    (quoteHalala : Int) (renterId : Nat) (now : Int) :
    Accounted db (failBurstJobAndRefund db jobId quoteHalala renterId now).1 := by
  unfold failBurstJobAndRefund
  split
  · split
    · dsimp only
      exact (Accounted.of_jobs db _).trans (Database.refundRenter_accounted _ _ _ _)
    · exact Accounted.of_jobs db _
  · exact Accounted.refl db

namespace Settling

theorem others {before after : Database} {job : Job}
    (settling : Settling before job after) {other : Nat}
    (different : other ≠ job.id) :
    after.jobs.lookup other = before.jobs.lookup other := by
  cases settling with
  | untouched => rfl
  | charged closing _ _ | returned closing _ _ => exact closing.others other different

theorem paymentsFor_others {before after : Database} {job : Job}
    (settling : Settling before job after) {other : Nat}
    (different : other ≠ job.id) :
    after.paymentsFor other = before.paymentsFor other := by
  cases settling with
  | untouched => rfl
  | charged closing _ _ =>
    rw [paymentsFor_of_journal closing.journal (owned_payments _ job), if_neg different, append_nil]
  | returned closing _ _ =>
    rw [paymentsFor_of_journal closing.journal (fun _ member => entry_jobId member),
      if_neg different, append_nil]

end Settling

theorem promoteNextQueuedJob_cases (providerId : Option Nat) (now : Int) :
    promoteNextQueuedJob db providerId now = db ∨ ∃ job,
      db.jobs.lookup job.id = some job ∧ job.status = .queued ∧
        promoteNextQueuedJob db providerId now = { db with
          jobs := db.jobs.update job.id (Job.setPromoted now) (Job.setPromoted_id now) } := by
  unfold promoteNextQueuedJob
  dsimp only
  split
  · exact Or.inl rfl
  · rename_i job first
    obtain ⟨selected, current⟩ := mem_select (firstBy_mem first)
    exact Or.inr ⟨job, current, selected.2.2, rfl⟩

theorem enforceJobTimeout_others {db : Database} {job other : Job}
    {now : Int} (timedOut : HasTimedOut now job)
    (current : db.jobs.lookup job.id = some job)
    (otherTimedOut : HasTimedOut now other)
    (otherCurrent : db.jobs.lookup other.id = some other)
    (different : other.id ≠ job.id) :
    (enforceJobTimeout now db job).jobs.lookup other.id = some other := by
  have settling := settleTimedOutJob_settling timedOut current
  have kept := (settling.others different).trans otherCurrent
  unfold Pods.enforceJobTimeout
  rcases promoteNextQueuedJob_cases (settleTimedOutJob now db job)
      job.providerId now with same | ⟨next, found, queued, promoted⟩
  · rw [same]
    exact kept
  · have distinct : other.id ≠ next.id := by
      intro same
      rw [← same, kept] at found
      cases found
      rcases otherTimedOut.1 with status | status | status
      all_goals
        rw [queued] at status
        cases status
    rw [promoted]
    exact (lookup_update_of_ne _ (Job.setPromoted_id now) distinct).trans kept

abbrev expiredSweep (now : Int) : Sweep Database Job.id where
  table := Database.jobs
  act := settleExpiredPod now
  selected := IsExpired now
  untouched := fun _ _ _ found different =>
    ((settleExpiredPod_settling _ _ now).others different).trans found

abbrev staleSweep (now : Int) : Sweep Database Job.id where
  table := Database.jobs
  act := cancelStalePod now
  selected := IsStale now
  untouched := fun _ current _ found different =>
    ((cancelStalePod_settling now current).others different).trans found

abbrev timeoutSweep (now : Int) : Sweep Database Job.id where
  table := Database.jobs
  act := enforceJobTimeout now
  selected := HasTimedOut now
  untouched := enforceJobTimeout_others

structure SweepClosed (related : Database → Database → Prop) :
    Prop where
  reflexive : ∀ db, related db db
  transitive : ∀ {first second third : Database},
    related first second → related second third → related first third
  settling : ∀ {db after : Database} {job : Job},
    db.jobs.lookup job.id = some job → Settling db job after → Accounted db after → related db after
  promoted : ∀ {db : Database} {job : Job} (now : Int),
    db.jobs.lookup job.id = some job → job.status = .queued → related db { db with
      jobs := db.jobs.update job.id (Job.setPromoted now) (Job.setPromoted_id now) }

namespace SweepClosed

variable {related : Database → Database → Prop}

theorem settleExpiredPods (closed : SweepClosed related) (db : Database) (now : Int) :
    related db (settleExpiredPods db now) := by
  have expired := (expiredSweep now).relates related closed.reflexive closed.transitive
      (fun _ found => closed.settling found (settleExpiredPod_settling _ _ now)
        (settleExpiredPod_accounted _ _ now)) ((expiredSweep now).reads_take db 20)
  refine closed.transitive expired ?_
  exact (staleSweep now).relates related closed.reflexive closed.transitive
    (fun _ found => closed.settling found (cancelStalePod_settling now found)
      (cancelStalePod_accounted _ _ now)) ((staleSweep now).reads_take _ 20)

theorem enforceJobTimeout (closed : SweepClosed related)
    {db : Database} {job : Job} {now : Int} (timedOut : HasTimedOut now job)
    (current : db.jobs.lookup job.id = some job) :
    related db (enforceJobTimeout now db job) := by
  have settled := closed.settling current (settleTimedOutJob_settling timedOut current)
      (settleTimedOutJob_accounted db job now)
  unfold Pods.enforceJobTimeout
  rcases promoteNextQueuedJob_cases (settleTimedOutJob now db job)
      job.providerId now with same | ⟨next, found, queued, promoted⟩
  · rw [same]
    exact settled
  · rw [promoted]
    exact closed.transitive settled (closed.promoted now found queued)

theorem enforceJobTimeouts (closed : SweepClosed related) (db : Database) (now : Int) :
    related db (enforceJobTimeouts db now) := by
  exact (timeoutSweep now).relates related closed.reflexive closed.transitive
    (fun met found => enforceJobTimeout closed met found) ((timeoutSweep now).reads_select db)

end SweepClosed

theorem accounted_sweepClosed : SweepClosed Accounted where
  reflexive := Accounted.refl
  transitive := Accounted.trans
  settling := fun _ _ accounted => accounted
  promoted := fun _ _ _ => Accounted.of_jobs _ _

end DcpPlatform.Pods
