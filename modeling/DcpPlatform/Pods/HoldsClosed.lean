import DcpPlatform.Pods.Conservation
import DcpPlatform.Pods.Deadlines
import DcpPlatform.Pods.EscrowHolds

/-!
# Holds closed with their job

When a job ends, its hold should be returned to the renter exactly when
everything was refunded and released to the credited provider otherwise.
Several operations leave it open or close it the wrong way; `ClosesHold`
excludes this.
-/

namespace DcpPlatform.Pods

open Foundation Table List Option

structure ClosedWith (payments : List Payment) (row : Job) (hold : EscrowHold) : Prop where
  closed : ¬ hold.IsOpen
  renter : hold.status = .releasedRenter ↔ paid .refund payments = prepaidHalala row
  provider : hold.status = .releasedProvider ↔ ofKind .credit payments ≠ []
  account : ∀ payment ∈ ofKind .credit payments, payment.account = hold.providerId

instance (payments : List Payment) (row : Job) (hold : EscrowHold) :
    Decidable (ClosedWith payments row hold) :=
  decidable_of_iff (¬ hold.IsOpen ∧
    (hold.status = .releasedRenter ↔ paid .refund payments = prepaidHalala row) ∧
    (hold.status = .releasedProvider ↔ ofKind .credit payments ≠ []) ∧
    ∀ payment ∈ ofKind .credit payments, payment.account = hold.providerId)
    ⟨fun ⟨closed, renter, provider, account⟩ =>
      ⟨closed, renter, provider, account⟩,
      fun ⟨closed, renter, provider, account⟩ =>
        ⟨closed, renter, provider, account⟩⟩

def HoldClosed (jobId : Nat) (state : HeldDatabase) : Prop :=
  ∀ row ∈ state.db.jobs.lookup jobId, row.status.isTerminal = true →
    ∀ hold ∈ state.holds.lookup jobId, ClosedWith (state.db.paymentsFor jobId) row hold

instance (jobId : Nat) : DecidablePred (HoldClosed jobId) :=
  fun _ => inferInstanceAs (Decidable (∀ _ ∈ _, _))

/-- Nothing but the debit has been paid for the job, and its hold, if there
is one, is open. -/
structure Unsettled (jobId : Nat) (state : HeldDatabase) : Prop where
  opened : ∀ hold ∈ state.holds.lookup jobId, hold.IsOpen
  unpaid : ∀ payment ∈ state.db.paymentsFor jobId, payment.kind = .debit

def Refundable (row : Job) : Prop :=
  row.renterId.isSome ∨ prepaidHalala row = 0

/-- The elapsed time costs enough for the provider to earn something. -/
def PaysProvider (db : Database) (row : Job) (gpuCount : Nat) (now : Int) : Prop :=
  2 ≤ prepaidHalala row ∧ 2 ≤ elapsedPrice db row gpuCount now
deriving Decidable

/-- The elapsed time costs nothing, or nothing was paid. -/
def ReturnsAll (db : Database) (row : Job) (gpuCount : Nat) (now : Int) : Prop :=
  (prepaidHalala row = 0 ∨ elapsedPrice db row gpuCount now = 0) ∧ Refundable row

def StopsRight (db : Database) (row : Job) (hold : EscrowHold) (now : Int) : Prop :=
  if row.status = .running then
    PaysProvider db row (settledGpuCount db row) now ∧ row.providerId = some hold.providerId ∨
      ReturnsAll db row (settledGpuCount db row) now
  else
    row.refundedAt ≠ none ∨ Refundable row

def TimesOutRight (db : Database) (row : Job) (hold : EscrowHold) (now : Int) : Prop :=
  if row.jobType = .interactivePod ∧ row.status = .running then
    PaysProvider db row (resolvePodGpuCount (providerOf db row)) now ∧
      row.providerId = some hold.providerId
  else
    Refundable row

instance (row : Job) : Decidable (Refundable row) :=
  inferInstanceAs (Decidable (_ ∨ _))

instance (db : Database) (row : Job) (gpuCount : Nat) (now : Int) :
    Decidable (ReturnsAll db row gpuCount now) :=
  inferInstanceAs (Decidable (_ ∧ _))

instance (db : Database) (row : Job) (hold : EscrowHold) (now : Int) :
    Decidable (StopsRight db row hold now) :=
  inferInstanceAs (Decidable (if row.status = .running then
      PaysProvider db row (settledGpuCount db row) now ∧ row.providerId = some hold.providerId ∨
        ReturnsAll db row (settledGpuCount db row) now
    else
      row.refundedAt ≠ none ∨ Refundable row))

instance (db : Database) (row : Job) (hold : EscrowHold) (now : Int) :
    Decidable (TimesOutRight db row hold now) :=
  inferInstanceAs (Decidable (if row.jobType = .interactivePod ∧ row.status = .running then
      PaysProvider db row (resolvePodGpuCount (providerOf db row)) now ∧
        row.providerId = some hold.providerId
    else
      Refundable row))

/-- The settlement sweep does not come to a job with a hold and the retry
sweep does not give it up. When a stop request or the timeout sweep ends a
job with a hold, the provider earns something and is the one that the hold
names, or everything is returned to somebody. -/
def ClosesHold (jobId : Nat) (state : HeldDatabase) : HoldAction → Prop
  | .pickUpJob _ _ _ => True
  | .stopPod stopped now =>
    stopped = jobId → ∀ row ∈ state.db.jobs.lookup jobId,
      row.jobType.isPod = true → row.status.isTerminal = false →
        ∀ hold ∈ state.holds.lookup jobId, StopsRight state.db row hold now
  | .settleExpiredPods now =>
    (state.holds.lookup jobId).isSome → ∀ row ∈ state.db.jobs.lookup jobId,
      row ∉ (state.db.jobs.select (IsExpired now)).take 20 ∧
        row ∉ (state.db.jobs.select (IsStale now)).take 20
  | .enforceJobTimeouts now =>
    ∀ row ∈ state.db.jobs.lookup jobId, HasTimedOut now row →
      ∀ hold ∈ state.holds.lookup jobId, TimesOutRight state.db row hold now
  | .retrySweep now =>
    (state.holds.lookup jobId).isSome → ∀ row ∈ state.db.jobs.lookup jobId, RetryCandidate now row →
      row.retryCount < allowedRetries row
  | .sweepOfflineProviders _ => True

instance (jobId : Nat) (state : HeldDatabase) (action : HoldAction) :
    Decidable (ClosesHold jobId state action) :=
  match action with
  | .pickUpJob _ _ _ => inferInstanceAs (Decidable True)
  | .stopPod stopped now =>
    inferInstanceAs (Decidable (stopped = jobId → ∀ row ∈ state.db.jobs.lookup jobId,
      row.jobType.isPod = true → row.status.isTerminal = false →
        ∀ hold ∈ state.holds.lookup jobId, StopsRight state.db row hold now))
  | .settleExpiredPods now =>
    inferInstanceAs (Decidable ((state.holds.lookup jobId).isSome →
      ∀ row ∈ state.db.jobs.lookup jobId, row ∉ (state.db.jobs.select (IsExpired now)).take 20 ∧
        row ∉ (state.db.jobs.select (IsStale now)).take 20))
  | .enforceJobTimeouts now =>
    inferInstanceAs (Decidable (∀ row ∈ state.db.jobs.lookup jobId,
      HasTimedOut now row → ∀ hold ∈ state.holds.lookup jobId, TimesOutRight state.db row hold now))
  | .retrySweep now =>
    inferInstanceAs (Decidable ((state.holds.lookup jobId).isSome →
      ∀ row ∈ state.db.jobs.lookup jobId, RetryCandidate now row →
        row.retryCount < allowedRetries row))
  | .sweepOfflineProviders _ => inferInstanceAs (Decidable True)

def chargePayments (row : Job) (actual : Int) : List Payment :=
  Database.entry row.id .credit row.providerId (podProviderEarned actual) ++
    Database.entry row.id .refund row.renterId (prepaidHalala row - actual)

theorem credits_chargePayments (row : Job) (actual : Int) :
    ofKind .credit (chargePayments row actual) =
      Database.entry row.id .credit row.providerId (podProviderEarned actual) := by
  have refunds := ofKind_entry_of_ne (by decide : PaymentKind.refund ≠ .credit) row.id
      row.renterId (prepaidHalala row - actual)
  rw [chargePayments, ofKind_append, refunds, append_nil]
  unfold ofKind Database.entry
  split
  · rfl
  · split <;> rfl

theorem refunds_chargePayments (row : Job) (actual : Int) :
    paid .refund (chargePayments row actual) =
      if row.renterId.isSome then prepaidHalala row - actual else 0 := by
  have credits : paid .refund
      (Database.entry row.id .credit row.providerId (podProviderEarned actual)) = 0 := by
    rw [paid, ofKind_entry_of_ne (by decide)]
    rfl
  rw [chargePayments, paid_append, credits, zero_add]
  cases row.renterId with
  | none => rfl
  | some renterId => exact paid_entry _ _ _ _ _

section ClosedWith

variable {row : Job} {hold : EscrowHold} {actual : Int}

theorem closedWith_releasedProvider (nonneg : 0 ≤ actual) (bounded : actual ≤ prepaidHalala row)
    (status : hold.status = .releasedProvider) :
    ClosedWith (chargePayments row actual) row hold ↔
      2 ≤ actual ∧ row.providerId = some hold.providerId := by
  have credits := credits_chargePayments row actual
  have refunds := refunds_chargePayments row actual
  constructor
  · intro closedWith
    have credited := closedWith.provider.mp status
    have account := closedWith.account
    rw [credits] at credited account
    cases provider : row.providerId with
    | none =>
      rw [provider] at credited
      exact absurd rfl credited
    | some providerId =>
      rw [provider] at credited account
      have earned : podProviderEarned actual ≠ 0 := by
        intro nothing
        rw [nothing, Database.entry_zero] at credited
        exact credited rfl
      have named := account ⟨row.id, .credit, providerId, _⟩ (by
        rw [Database.entry, if_neg earned]
        exact mem_singleton.mpr rfl)
      refine ⟨?_, congrArg some named⟩
      unfold podProviderEarned at earned
      omega
  · intro charged
    have earned : podProviderEarned actual ≠ 0 := by
      unfold podProviderEarned
      omega
    rw [charged.2, Database.entry, if_neg earned] at credits
    refine ⟨?_, ?_, ?_, ?_⟩
    · intro isOpen
      rw [EscrowHold.IsOpen, status] at isOpen
      cases isOpen
    · rw [status, refunds]
      have short : (if row.renterId.isSome then prepaidHalala row - actual
          else 0) ≠ prepaidHalala row := by
        split <;> omega
      constructor
      · intro same
        cases same
      · intro same
        exact absurd same short
    · rw [status, credits]
      exact iff_of_true rfl (cons_ne_nil _ _)
    · intro payment member
      rw [credits] at member
      rw [mem_singleton.mp member]

theorem closedWith_releasedRenter (nonneg : 0 ≤ actual)
    (bounded : actual ≤ prepaidHalala row) (few : actual < 2)
    (status : hold.status = .releasedRenter) :
    ClosedWith (chargePayments row actual) row hold ↔ actual = 0 ∧ Refundable row := by
  have unearned : podProviderEarned actual = 0 := by
    unfold podProviderEarned
    omega
  have credits := credits_chargePayments row actual
  have refunds := refunds_chargePayments row actual
  rw [unearned, Database.entry_zero] at credits
  have full : paid .refund (chargePayments row actual) = prepaidHalala row ↔
      actual = 0 ∧ Refundable row := by
    rw [refunds, Refundable]
    by_cases renter : row.renterId.isSome = true
    · simp only [renter, if_true, true_or, and_true]
      omega
    · simp only [renter, Bool.false_eq_true, if_false, false_or]
      omega
  constructor
  · intro closedWith
    exact full.mp (closedWith.renter.mp status)
  · intro returned
    refine ⟨?_, ?_, ?_, ?_⟩
    · intro isOpen
      rw [EscrowHold.IsOpen, status] at isOpen
      cases isOpen
    · exact iff_of_true status (full.mpr returned)
    · rw [status, credits]
      exact iff_of_false (by decide) (· rfl)
    · intro payment member
      rw [credits] at member
      cases member

end ClosedWith

theorem settlementFor_payments (db : Database) (row : Job) (gpuCount : Nat) (now : Int) :
    (settlementFor db row gpuCount now).payments row =
      chargePayments row (settlementFor db row gpuCount now).actualCostHalala :=
  rfl

theorem refund_payments (row : Job) :
    Database.entry row.id .refund row.renterId (prepaidHalala row) = chargePayments row 0 := by
  have unearned : Database.entry row.id .credit row.providerId (podProviderEarned 0) = [] :=
    Database.entry_zero _ _ _
  rw [chargePayments, unearned, sub_zero, nil_append]

def Tracked (jobId : Nat) (state : HeldDatabase) : Prop :=
  ∃ row, state.db.jobs.lookup jobId = some row ∧
    (row.status.isTerminal = false → Unsettled jobId state)

def Decides (jobId : Nat) (source target : HeldDatabase) (condition : Prop) : Prop :=
  Tracked jobId target ∧ (HoldClosed jobId source → (HoldClosed jobId target ↔ condition))

structure HoldSettled (row : Job) (source target : HeldDatabase)
    (status : HoldStatus) (now actual : Int) : Prop where
  stored : ∃ closed, target.db.jobs.lookup row.id = some closed ∧ closed.status.isTerminal = true ∧
    closed.costHalala = row.costHalala
  payments :
    target.db.paymentsFor row.id = source.db.paymentsFor row.id ++ chargePayments row actual
  hold : target.holds.lookup row.id =
    (source.holds.lookup row.id).map (EscrowHold.setResolved status now)

section Steps

variable {source target : HeldDatabase} {row : Job} {condition : Prop}

theorem Decides.of_same (current : source.db.jobs.lookup row.id = some row)
    (tracked : row.status.isTerminal = false → Unsettled row.id source)
    (found : target.db.jobs.lookup row.id = some row)
    (payments : target.db.paymentsFor row.id = source.db.paymentsFor row.id)
    (hold : target.holds.lookup row.id = source.holds.lookup row.id)
    (met : condition) :
    Decides row.id source target condition := by
  refine ⟨⟨row, found, ?_⟩, fun closed => iff_of_true ?_ met⟩
  · intro live
    have unsettled := tracked live
    refine ⟨?_, ?_⟩
    · rw [hold]
      exact unsettled.opened
    · rw [payments]
      exact unsettled.unpaid
  · unfold HoldClosed
    rw [found, payments, hold, ← current]
    exact closed

theorem Decides.of_live {later : Job} (found : target.db.jobs.lookup row.id = some later)
    (live : later.status.isTerminal = false)
    (unsettled : Unsettled row.id target) (met : condition) :
    Decides row.id source target condition := by
  refine ⟨⟨later, found, fun _ => unsettled⟩, fun _ => iff_of_true ?_ met⟩
  intro other otherFound ended
  rw [found] at otherFound
  injection otherFound with same
  rw [← same, live] at ended
  cases ended

theorem Decides.of_forgotten {closed : Job} (unsettled : Unsettled row.id source)
    (found : target.db.jobs.lookup row.id = some closed)
    (ended : closed.status.isTerminal = true)
    (hold : target.holds.lookup row.id = source.holds.lookup row.id)
    (unmet : condition ↔ source.holds.lookup row.id = none) :
    Decides row.id source target condition := by
  refine ⟨⟨closed, found, ?_⟩, fun _ => ?_⟩
  · intro live
    rw [ended] at live
    cases live
  · rw [unmet]
    constructor
    · intro holdClosed
      cases held : source.holds.lookup row.id with
      | none => rfl
      | some opened =>
        have standing := holdClosed closed found ended opened (by rw [hold]; exact held)
        exact absurd (unsettled.opened opened held) standing.closed
    · intro absent other _ _ held heldFound
      rw [hold, absent] at heldFound
      cases heldFound

theorem Decides.of_settled {status : HoldStatus}
    {now actual : Int} (unsettled : Unsettled row.id source)
    (settled : HoldSettled row source target status now actual)
    (decides : (∀ hold ∈ source.holds.lookup row.id,
      ClosedWith (chargePayments row actual) row (hold.setResolved status now)) ↔ condition) :
    Decides row.id source target condition := by
  obtain ⟨closed, found, ended, cost⟩ := settled.stored
  have prepaid : prepaidHalala closed = prepaidHalala row := by
    rw [prepaidHalala, cost]
    rfl
  have earlier (kind : PaymentKind) (different : kind ≠ .debit) :
      ofKind kind (source.db.paymentsFor row.id) = [] := by
    apply filter_eq_nil_iff.mpr
    intro payment member
    rw [unsettled.unpaid payment member]
    simpa using different.symm
  have refunds :
      paid .refund (target.db.paymentsFor row.id) = paid .refund (chargePayments row actual) := by
    rw [settled.payments, paid_append, paid, earlier .refund (by decide)]
    exact zero_add _
  have credits : ofKind .credit (target.db.paymentsFor row.id) =
      ofKind .credit (chargePayments row actual) := by
    rw [settled.payments, ofKind_append, earlier .credit (by decide)]
    rfl
  have standing (hold : EscrowHold) :
      ClosedWith (target.db.paymentsFor row.id) closed hold ↔
        ClosedWith (chargePayments row actual) row hold := by
    constructor
    · rintro ⟨resolved, renter, provider, account⟩
      rw [refunds, prepaid] at renter
      rw [credits] at provider account
      exact ⟨resolved, renter, provider, account⟩
    · rintro ⟨resolved, renter, provider, account⟩
      rw [← refunds, ← prepaid] at renter
      rw [← credits] at provider account
      exact ⟨resolved, renter, provider, account⟩
  refine ⟨⟨closed, found, ?_⟩, fun _ => ?_⟩
  · intro live
    rw [ended] at live
    cases live
  · rw [← decides]
    constructor
    · intro holdClosed hold held
      have stored : target.holds.lookup row.id = some (hold.setResolved status now) := by
        rw [settled.hold, held, map_some]
      exact (standing _).mp (holdClosed closed found ended _ stored)
    · intro right other otherFound _ resolved resolvedFound
      rw [found] at otherFound
      cases otherFound
      rw [settled.hold] at resolvedFound
      obtain ⟨hold, held, rfl⟩ := map_eq_some_iff.mp resolvedFound
      exact (standing _).mpr (right hold held)

theorem HoldSettled.of_closing {after : Database} {closed : Job}
    {status : HoldStatus} {actual : Int} (now : Int)
    (closing : Closing source.db after row.id row closed (chargePayments row actual))
    (cost : closed.costHalala = row.costHalala)
    (opened : ∀ hold ∈ source.holds.lookup row.id, hold.IsOpen) :
    HoldSettled row source ⟨after, releaseHold source.holds row.id status now⟩ status now
      actual where
  stored := ⟨closed, closing.stored, closing.ended, cost⟩
  payments := by
    have owned : ∀ payment ∈ chargePayments row actual, payment.jobId = row.id := by
      intro payment member
      rcases mem_append.mp member with credit | refund
      · exact entry_jobId credit
      · exact entry_jobId refund
    rw [paymentsFor_of_journal closing.journal owned, if_pos rfl]
  hold := releaseHold_lookup_self source.holds row.id status now opened

end Steps

section Requests

variable {source : HeldDatabase} {row : Job} {now : Int}

theorem pickUpJob_decides (current : source.db.jobs.lookup row.id = some row)
    (tracked : row.status.isTerminal = false → Unsettled row.id source)
    (providerId jobId : Nat) :
    Decides row.id source (source.pickUpJob providerId jobId now)
      (ClosesHold row.id source (.pickUpJob providerId jobId now)) := by
  have allowed : ClosesHold row.id source (.pickUpJob providerId jobId now) := trivial
  by_cases here : row.id = jobId
  · subst here
    by_cases pickable : PickableBy providerId row
    · have stored : (source.pickUpJob providerId row.id now).db.jobs.lookup row.id =
          some (row.setPickedUp providerId now) := by
        have updated := lookup_updateWhere_of_met
            (Job.setPickedUp_id providerId now) current pickable row.id
        rw [if_pos rfl] at updated
        exact updated
      have unsettled := tracked pickable.1.live
      have holds : (source.pickUpJob providerId row.id now).holds =
          source.holdForPickup row providerId now := by
        simp [HeldDatabase.pickUpJob, current, if_pos pickable]
      refine Decides.of_live stored rfl ⟨?_, unsettled.unpaid⟩ allowed
      rw [holds]
      exact source.holdForPickup_open row providerId now unsettled.opened
    · have unmet : ¬ source.db.jobs.changes row.id (PickableBy providerId) := by
        rintro ⟨other, found, met⟩
        rw [current] at found
        cases found
        exact pickable met
      have stored : (source.pickUpJob providerId row.id now).db.jobs =
          source.db.jobs :=
        updateWhere_of_unmet (Job.setPickedUp_id providerId now) unmet
      refine Decides.of_same current tracked (by rw [stored]; exact current) rfl ?_ allowed
      simp [HeldDatabase.pickUpJob, current, if_neg pickable]
  · refine Decides.of_same current tracked ?_ rfl ?_ allowed
    · exact (lookup_updateWhere_of_ne _ (Job.setPickedUp_id providerId now) here).trans current
    · unfold HeldDatabase.pickUpJob
      split
      · rfl
      · rename_i job found
        split
        · apply source.holdForPickup_lookup_of_ne
          rw [lookup_key found]
          exact here
        · rfl

theorem stopPod_others (state : HeldDatabase) (stopped : Nat)
    {other : Nat} (different : other ≠ stopped) :
    (state.stopPod stopped now).db.jobs.lookup other = state.db.jobs.lookup other ∧
      (state.stopPod stopped now).db.paymentsFor other = state.db.paymentsFor other ∧
      (state.stopPod stopped now).holds.lookup other = state.holds.lookup other := by
  unfold HeldDatabase.stopPod
  split
  · exact ⟨rfl, rfl, rfl⟩
  · rename_i job found
    split
    · have jobId := lookup_key found
      subst jobId
      have settling := stopPodCore_settling now found
      exact ⟨settling.others different, settling.paymentsFor_others different,
        state.holdsAfterStop_lookup_of_ne job now different⟩
    · exact ⟨rfl, rfl, rfl⟩

theorem stop_charge (db : Database) (row : Job) (gpuCount : Nat) (now : Int) :
    0 ≤ (settlementFor db row gpuCount now).actualCostHalala ∧
      (settlementFor db row gpuCount now).actualCostHalala ≤ prepaidHalala row ∧
      (2 ≤ (settlementFor db row gpuCount now).actualCostHalala ↔
        PaysProvider db row gpuCount now) ∧
      ((settlementFor db row gpuCount now).actualCostHalala = 0 ∧ Refundable row ↔
        ReturnsAll db row gpuCount now) := by
  have prepaid := prepaidHalala_nonneg row
  have price := elapsedPrice_nonneg db row gpuCount now
  rw [settlementFor_actualCost, PaysProvider, ReturnsAll]
  refine ⟨by omega, by omega, by omega, and_congr_left ?_⟩
  intro _
  omega

variable (current : source.db.jobs.lookup row.id = some row)

include current

theorem stopRunning_decides
    (unsettled : Unsettled row.id source) (running : row.status = .running) :
    Decides row.id source (source.stopPodCore row now)
      (∀ hold ∈ source.holds.lookup row.id, StopsRight source.db row hold now) := by
  have unended : ¬ row.status.isTerminal = true := by
    rw [running]
    decide
  have settled (status : HoldStatus) (released :
      (if 0 < (podStopSettlement source.db row now).providerEarnedHalala
        then HoldStatus.releasedProvider else .releasedRenter) = status) :
      HoldSettled row source (source.stopPodCore row now) status now
        (podStopSettlement source.db row now).actualCostHalala := by
    have stopped : source.stopPodCore row now =
        ⟨stopRunning source.db row now, releaseHold source.holds row.id status now⟩ := by
      simp [HeldDatabase.stopPodCore, Pods.stopPodCore, HeldDatabase.holdsAfterStop, if_neg unended,
        if_pos running, released]
    rw [stopped]
    exact HoldSettled.of_closing now (stopRunning_closing now current running) rfl unsettled.opened
  obtain ⟨nonneg, bounded, pays, returns⟩ :=
    stop_charge source.db row (settledGpuCount source.db row) now
  have priced : settlementFor source.db row (settledGpuCount source.db row) now =
      podStopSettlement source.db row now :=
    rfl
  rw [priced] at nonneg bounded pays returns
  have share : (podStopSettlement source.db row now).providerEarnedHalala =
      podProviderEarned (podStopSettlement source.db row now).actualCostHalala :=
    rfl
  by_cases enough : 2 ≤ (podStopSettlement source.db row now).actualCostHalala
  · have earned : 0 < (podStopSettlement source.db row now).providerEarnedHalala := by
      rw [share, podProviderEarned]
      omega
    apply Decides.of_settled unsettled (settled _ (if_pos earned))
    apply forall₂_congr
    intro hold _
    rw [closedWith_releasedProvider nonneg bounded rfl, StopsRight,
      if_pos running, ← pays, ← returns]
    have charged : (podStopSettlement source.db row now).actualCostHalala ≠ 0 := by
      omega
    simp only [charged, false_and, or_false]
    exact Iff.rfl
  · have unearned : ¬ 0 < (podStopSettlement source.db row now).providerEarnedHalala := by
      rw [share, podProviderEarned]
      omega
    apply Decides.of_settled unsettled (settled _ (if_neg unearned))
    apply forall₂_congr
    intro hold _
    have few : ¬ PaysProvider source.db row (settledGpuCount source.db row) now := by
      rw [← pays]
      exact enough
    rw [closedWith_releasedRenter nonneg bounded (not_le.mp enough) rfl,
      StopsRight, if_pos running, ← returns]
    simp [few]

theorem cancelUnstarted_decides
    (unsettled : Unsettled row.id source) (live : row.status.isTerminal = false)
    (unstarted : row.status ≠ .running) :
    Decides row.id source (source.stopPodCore row now)
      (∀ hold ∈ source.holds.lookup row.id, StopsRight source.db row hold now) := by
  have unended : ¬ row.status.isTerminal = true := by
    rw [live]
    decide
  by_cases refunded : row.refundedAt = none
  · have flips : source.db.jobs.changes row.id Cancellable := ⟨row, current, live, refunded⟩
    have stopped : source.stopPodCore row now = ⟨cancelUnstarted source.db row now,
            releaseHold source.holds row.id .releasedRenter now⟩ := by
      simp [HeldDatabase.stopPodCore, Pods.stopPodCore, HeldDatabase.holdsAfterStop, if_neg unended,
        if_neg unstarted, if_pos flips]
    have closing := cancelUnstarted_closing now current ⟨live, refunded⟩
    rw [refund_payments] at closing
    have settled :=
      @HoldSettled.of_closing source row _ _ .releasedRenter 0 now closing rfl unsettled.opened
    rw [← stopped] at settled
    apply Decides.of_settled unsettled settled
    apply forall₂_congr
    intro hold _
    rw [closedWith_releasedRenter (le_refl 0) (prepaidHalala_nonneg row)
      (by decide) rfl, StopsRight, if_neg unstarted]
    simp only [refunded, ne_eq, not_true, false_or, true_and]
  · have unflipped : ¬ source.db.jobs.changes row.id Cancellable := by
      rintro ⟨other, found, cancellable⟩
      rw [current] at found
      cases found
      exact refunded cancellable.2
    have stopped : source.stopPodCore row now = source := by
      simp [HeldDatabase.stopPodCore, Pods.stopPodCore, HeldDatabase.holdsAfterStop,
        cancelUnstarted, if_neg unended, if_neg unstarted, if_neg unflipped]
    rw [stopped]
    apply Decides.of_same current (fun _ => unsettled) current rfl rfl
    intro hold _
    rw [StopsRight, if_neg unstarted]
    exact Or.inl refunded

theorem stopPod_decides (tracked : row.status.isTerminal = false → Unsettled row.id source)
    (stopped : Nat) :
    Decides row.id source (source.stopPod stopped now)
      (ClosesHold row.id source (.stopPod stopped now)) := by
  by_cases here : row.id = stopped
  · subst here
    simp only [ClosesHold, current, mem_def, some.injEq, forall_eq', forall_true_left]
    by_cases pod : row.jobType.isPod = true
    · have core : source.stopPod row.id now = source.stopPodCore row now := by
        simp [HeldDatabase.stopPod, current, if_pos pod]
      rw [core]
      simp only [pod, forall_true_left]
      cases ended : row.status.isTerminal with
      | true =>
        have same : source.stopPodCore row now = source := by
          simp [HeldDatabase.stopPodCore, Pods.stopPodCore, HeldDatabase.holdsAfterStop,
            if_pos ended]
        rw [same]
        exact Decides.of_same current tracked current rfl rfl (fun live => by cases live)
      | false =>
        simp only [forall_true_left]
        by_cases running : row.status = .running
        · exact stopRunning_decides current (tracked ended) running
        · exact cancelUnstarted_decides current (tracked ended) ended running
    · have same : source.stopPod row.id now = source := by
        simp [HeldDatabase.stopPod, current, if_neg pod]
      rw [same]
      exact Decides.of_same current tracked current rfl rfl (absurd · pod)
  · obtain ⟨stored, payments, hold⟩ := stopPod_others source stopped here
    exact Decides.of_same current tracked (stored.trans current) payments hold (absurd ·.symm here)

end Requests

section RowSweeps

variable {source : HeldDatabase} {row : Job} {now : Int}

theorem retrySweep_decides (current : source.db.jobs.lookup row.id = some row)
    (tracked : row.status.isTerminal = false → Unsettled row.id source)
    :
    Decides row.id source (source.retrySweep now) (ClosesHold row.id source (.retrySweep now)) := by
  have stored := retrySweep_lookup source.db now row.id
  rw [current, map_some] at stored
  simp only [ClosesHold, current, mem_def, some.injEq, forall_eq']
  by_cases candidate : RetryCandidate now row
  · rw [if_pos candidate] at stored
    have live : row.status.isTerminal = false := by
      rcases candidate.2 with running | queued
      · rw [running.1]
        rfl
      · rw [queued.1]
        rfl
    have unsettled := tracked live
    simp only [candidate, forall_true_left]
    unfold updateJobForRetry at stored
    by_cases retries : row.retryCount < allowedRetries row
    · rw [if_pos retries] at stored
      exact Decides.of_live stored rfl ⟨unsettled.opened, unsettled.unpaid⟩ (fun _ => retries)
    · rw [if_neg retries] at stored
      refine Decides.of_forgotten unsettled stored rfl rfl ?_
      simp only [retries, imp_false, not_isSome_iff_eq_none]
  · rw [if_neg candidate] at stored
    exact Decides.of_same current tracked stored rfl rfl (fun _ met => absurd met candidate)

theorem releaseJobs_cases (db : Database) (stale : Provider → Prop)
    [DecidablePred stale] (statuses : List JobStatus)
    (released : JobStatus) (retries : Nat) {row : Job}
    (current : db.jobs.lookup row.id = some row) :
    (releaseJobs db stale statuses released retries).jobs.lookup row.id = some row ∨
      row.status ∈ statuses ∧ (releaseJobs db stale statuses released retries).jobs.lookup row.id =
        some (row.setReleased released retries) := by
  have stored : (releaseJobs db stale statuses released retries).jobs.lookup row.id =
      (db.jobs.lookup row.id).map (fun job =>
        if job.status ∈ statuses ∧ (∃ provider ∈ db.providers.rows,
          stale provider ∧ job.providerId = some provider.id) then
          job.setReleased released retries
        else
          job) := by
    apply lookup_updateAll db.jobs
    intro job
    split <;> rfl
  rw [current, map_some] at stored
  split at stored
  · rename_i met
    exact Or.inr ⟨met.1, stored⟩
  · exact Or.inl stored

theorem sweepOfflineProviders_decides (current : source.db.jobs.lookup row.id = some row)
    (tracked : row.status.isTerminal = false → Unsettled row.id source)
    :
    Decides row.id source (source.sweepOfflineProviders now)
      (ClosesHold row.id source (.sweepOfflineProviders now)) := by
  have allowed : ClosesHold row.id source (.sweepOfflineProviders now) := trivial
  have outcome : (Pods.sweepOfflineProviders source.db now).jobs.lookup row.id = some row ∨
      row.status ∈ [.running, .pending, .assigned, .pulling] ∧
        (Pods.sweepOfflineProviders source.db now).jobs.lookup row.id =
          some (row.setReleased .queued 1) :=
    releaseJobs_cases source.db _ _ _ _ current
  rcases outcome with same | ⟨live, released⟩
  · exact Decides.of_same current tracked same rfl rfl allowed
  · have notEnded : row.status.isTerminal = false := by
      simp only [mem_cons, not_mem_nil, or_false] at live
      rcases live with status | status | status | status
      all_goals
        rw [status]
        rfl
    have unsettled := tracked notEnded
    exact Decides.of_live released rfl ⟨unsettled.opened, unsettled.unpaid⟩ allowed

end RowSweeps

structure SameJob (jobId : Nat) (before after : Database) : Prop where
  row : after.jobs.lookup jobId = before.jobs.lookup jobId
  payments : after.paymentsFor jobId = before.paymentsFor jobId

namespace SameJob

theorem refl (jobId : Nat) (db : Database) : SameJob jobId db db :=
  ⟨rfl, rfl⟩

theorem trans {jobId : Nat} {first second third : Database} (earlier : SameJob jobId first second)
    (later : SameJob jobId second third) : SameJob jobId first third :=
  ⟨later.row.trans earlier.row, later.payments.trans earlier.payments⟩

theorem of_settling {jobId : Nat} {before after : Database} {job : Job}
    (settling : Settling before job after) (different : job.id ≠ jobId) :
    SameJob jobId before after :=
  ⟨settling.others different.symm, settling.paymentsFor_others different.symm⟩

end SameJob

section SettlementSweeps

variable {sweep : Sweep Database Job.id} {rows : List Job} {db : Database} {row : Job}
  (settling : ∀ {db : Database} {job : Job}, sweep.selected job →
    (sweep.table db).lookup job.id = some job → Settling db job (sweep.act db job))

include settling

theorem settlements_others (reads : sweep.Reads db rows)
    (found : (sweep.table db).lookup row.id = some row) (absent : row ∉ rows) :
    SameJob row.id db (rows.foldl sweep.act db) :=
  sweep.others (SameJob row.id) (SameJob.refl row.id) SameJob.trans
    (fun met found => SameJob.of_settling (settling met found)) reads (reads.absent found absent)

theorem settlements_turn (reads : sweep.Reads db rows) (member : row ∈ rows) :
    ∃ middle, SameJob row.id db middle ∧ (sweep.table middle).lookup row.id = some row ∧
      SameJob row.id (sweep.act middle row) (rows.foldl sweep.act db) :=
  sweep.turn (SameJob row.id) (SameJob.refl row.id) SameJob.trans
    (fun met found => SameJob.of_settling (settling met found)) rfl reads member

end SettlementSweeps

section SettlementSweep

variable {source : HeldDatabase} {db : Database} {row : Job} {now : Int}

theorem settleExpiredPod_select_stale (db : Database) (job : Job) (now : Int) :
    (settleExpiredPod now db job).jobs.select (IsStale now) = db.jobs.select (IsStale now) := by
  have jobs : (db.jobs.updateWhere job.id IsRunning (Job.setExpired now (prepaidHalala job))
      (Job.setExpired_id now _)).select (IsStale now) = db.jobs.select (IsStale now) := by
    apply select_updateWhere_of_unmet
    intro row running
    constructor
    · rintro ⟨_, pending | queued, _⟩
      · rw [running] at pending
        cases pending
      · rw [running] at queued
        cases queued
    · rintro ⟨_, pending | queued, _⟩
      · cases pending
      · cases queued
  unfold settleExpiredPod
  split
  · rw [Database.bookRental_jobs]
    split
    · rw [Database.creditProvider_jobs]
      exact jobs
    · exact jobs
  · rfl

theorem settleExpired_select_stale (rows : List Job) (now : Int) :
    ∀ db : Database, (rows.foldl (settleExpiredPod now) db).jobs.select (IsStale now) =
      db.jobs.select (IsStale now) := by
  induction rows with
  | nil =>
    intro db
    rfl
  | cons job rest ih =>
    intro db
    rw [foldl_cons, ih]
    exact settleExpiredPod_select_stale db job now

theorem settleExpiredPods_cancels (current : db.jobs.lookup row.id = some row)
    (unexpired : row ∉ (db.jobs.select (IsExpired now)).take 20)
    (stale : row ∈ (db.jobs.select (IsStale now)).take 20) :
    ∃ middle, SameJob row.id db middle ∧ middle.jobs.lookup row.id = some row ∧
      SameJob row.id (cancelStalePod now middle row) (Pods.settleExpiredPods db now) := by
  have before := settlements_others (fun _ _ => settleExpiredPod_settling _ _ now)
      ((expiredSweep now).reads_take db 20) current unexpired
  rw [← settleExpired_select_stale ((db.jobs.select (IsExpired now)).take 20) now] at stale
  obtain ⟨middle, between, found, after⟩ := settlements_turn
      (fun _ current => cancelStalePod_settling now current)
      ((staleSweep now).reads_take _ 20) stale
  exact ⟨middle, before.trans between, found, after⟩

theorem settleExpiredPods_ends (current : db.jobs.lookup row.id = some row)
    (member : row ∈ (db.jobs.select (IsExpired now)).take 20 ∨
      row ∉ (db.jobs.select (IsExpired now)).take 20 ∧
        row ∈ (db.jobs.select (IsStale now)).take 20) :
    ∃ closed, (Pods.settleExpiredPods db now).jobs.lookup row.id = some closed ∧
      closed.status.isTerminal = true := by
  rcases member with expired | ⟨unexpired, stale⟩
  · obtain ⟨middle, _, found, after⟩ :=
      settlements_turn (fun _ _ => settleExpiredPod_settling _ _ now)
        ((expiredSweep now).reads_take db 20) expired
    have running := (taken_current row expired).1.2.1
    have closing := settleExpiredPod_closing now found running
    have stored := after.row.trans closing.stored
    have kept := @settlements_others (staleSweep now) _ _ (row.setExpired now (prepaidHalala row))
        (fun _ current => cancelStalePod_settling now current)
        ((staleSweep now).reads_take _ 20) stored (by
          intro waits
          rcases (taken_current _ waits).1.2.1 with pending | queued
          · cases pending
          · cases queued)
    exact ⟨_, kept.row.trans stored, closing.ended⟩
  · obtain ⟨middle, _, found, after⟩ := settleExpiredPods_cancels current unexpired stale
    have waiting := (taken_current row stale).1.2.1
    have closing := cancelStalePod_closing now found waiting
    exact ⟨_, after.row.trans closing.stored, closing.ended⟩

theorem settleExpiredPods_others (current : db.jobs.lookup row.id = some row)
    (unexpired : row ∉ (db.jobs.select (IsExpired now)).take 20)
    (fresh : row ∉ (db.jobs.select (IsStale now)).take 20) :
    SameJob row.id db (Pods.settleExpiredPods db now) := by
  have before := settlements_others (fun _ _ => settleExpiredPod_settling _ _ now)
      ((expiredSweep now).reads_take db 20) current unexpired
  rw [← settleExpired_select_stale ((db.jobs.select (IsExpired now)).take 20) now] at fresh
  exact before.trans (settlements_others (fun _ current => cancelStalePod_settling now current)
    ((staleSweep now).reads_take _ 20) (before.row.trans current) fresh)

theorem settleExpiredPods_decides (current : source.db.jobs.lookup row.id = some row)
    (tracked : row.status.isTerminal = false → Unsettled row.id source)
    :
    Decides row.id source (source.settleExpiredPods now)
      (ClosesHold row.id source (.settleExpiredPods now)) := by
  simp only [ClosesHold, current, mem_def, some.injEq, forall_eq']
  have ends (member : row ∈ (source.db.jobs.select (IsExpired now)).take 20 ∨
      row ∉ (source.db.jobs.select (IsExpired now)).take 20 ∧
        row ∈ (source.db.jobs.select (IsStale now)).take 20)
      (live : row.status.isTerminal = false)
      {condition : Prop} (unmet : ¬ condition) :
      Decides row.id source (source.settleExpiredPods now)
        ((source.holds.lookup row.id).isSome → condition) := by
    obtain ⟨closed, stored, ended⟩ := settleExpiredPods_ends current member
    refine Decides.of_forgotten (tracked live) stored ended rfl ?_
    simp only [unmet, imp_false, not_isSome_iff_eq_none]
  by_cases expired : row ∈ (source.db.jobs.select (IsExpired now)).take 20
  · have running := (taken_current row expired).1.2.1
    exact ends (Or.inl expired) (by rw [running]; rfl) (·.1 expired)
  · by_cases stale : row ∈ (source.db.jobs.select (IsStale now)).take 20
    · exact ends (Or.inr ⟨expired, stale⟩) (taken_current row stale).1.2.1.live (·.2 stale)
    · have same := settleExpiredPods_others current expired stale
      exact Decides.of_same current tracked (same.row.trans current) same.payments rfl
        (fun _ => ⟨expired, stale⟩)

end SettlementSweep

structure Keeps (jobId : Nat) (before after : HeldDatabase) : Prop where
  leaves : Leaves jobId before.db after.db
  live : ∀ row, before.db.jobs.lookup jobId = some row → row.status.isTerminal = false →
    ∃ later, after.db.jobs.lookup jobId = some later ∧ later.status.isTerminal = false
  hold : after.holds.lookup jobId = before.holds.lookup jobId

namespace Keeps

theorem refl (jobId : Nat) (state : HeldDatabase) :
    Keeps jobId state state where
  leaves := Leaves.refl jobId state.db
  live := fun row found live => ⟨row, found, live⟩
  hold := rfl

theorem trans {jobId : Nat} {first second third : HeldDatabase} (earlier : Keeps jobId first second)
    (later : Keeps jobId second third) : Keeps jobId first third where
  leaves := earlier.leaves.trans later.leaves
  live := by
    intro row found live
    obtain ⟨middle, middleFound, middleLive⟩ := earlier.live row found live
    exact later.live middle middleFound middleLive
  hold := later.hold.trans earlier.hold

end Keeps

theorem promoteNextQueuedJob_live {db : Database} {jobId : Nat} {row : Job}
    (providerId : Option Nat) (now : Int) (found : db.jobs.lookup jobId = some row)
    (live : row.status.isTerminal = false) :
    ∃ later, (promoteNextQueuedJob db providerId now).jobs.lookup jobId = some later ∧
      later.status.isTerminal = false := by
  rcases promoteNextQueuedJob_cases db providerId now with same | ⟨job, jobFound, _, promoted⟩
  · rw [same]
    exact ⟨row, found, live⟩
  · rw [promoted]
    by_cases here : jobId = job.id
    · subst here
      exact ⟨job.setPromoted now, lookup_update_of_some _ _ (Job.setPromoted_id now) jobFound, rfl⟩
    · exact ⟨row, (lookup_update_of_ne _ (Job.setPromoted_id now) here).trans found, live⟩

section TimeoutSweep

variable {source : HeldDatabase} {row : Job} {now : Int}

theorem enforceJobTimeout_keeps {state : HeldDatabase} {job : Job}
    {jobId : Nat} (timedOut : HasTimedOut now job)
    (current : state.db.jobs.lookup job.id = some job)
    (different : job.id ≠ jobId) :
    Keeps jobId state (HeldDatabase.enforceJobTimeout now state job) where
  leaves := Leaves.enforceJobTimeout timedOut current different
  live := by
    intro row found live
    have settling := settleTimedOutJob_settling timedOut current
    have kept := (settling.others different.symm).trans found
    exact promoteNextQueuedJob_live job.providerId now kept live
  hold := state.holdsAfterTimeout_lookup_of_ne job now different.symm

abbrev heldTimeoutSweep (now : Int) : Sweep HeldDatabase Job.id where
  table := fun state => state.db.jobs
  act := HeldDatabase.enforceJobTimeout now
  selected := HasTimedOut now
  untouched := enforceJobTimeout_others

theorem enforceJobTimeouts_keeps (current : source.db.jobs.lookup row.id = some row)
    (absent : ¬ HasTimedOut now row) :
    Keeps row.id source (source.enforceJobTimeouts now) := by
  have reads := (heldTimeoutSweep now).reads_select source
  exact (heldTimeoutSweep now).others (Keeps row.id) (Keeps.refl row.id) Keeps.trans
    enforceJobTimeout_keeps reads
    (reads.absent current (fun member => absent (reads.current row member).1))

theorem HoldSettled.of_keeps {first second third fourth : HeldDatabase}
    {status : HoldStatus} {actual : Int} (before : Keeps row.id first second)
    (settled : HoldSettled row second third status now actual)
    (after : Keeps row.id third fourth) :
    HoldSettled row first fourth status now actual where
  stored := by
    obtain ⟨closed, found, ended, cost⟩ := settled.stored
    have unqueued : closed.status ≠ .queued := by
      intro queued
      rw [queued] at ended
      cases ended
    exact ⟨closed, after.leaves.row closed found unqueued, ended, cost⟩
  payments := by
    rw [after.leaves.payments, settled.payments, before.leaves.payments]
  hold := by
    rw [after.hold, settled.hold, before.hold]

theorem enforceJobTimeouts_settled (current : source.db.jobs.lookup row.id = some row)
    (timedOut : HasTimedOut now row)
    (opened : ∀ hold ∈ source.holds.lookup row.id, hold.IsOpen) :
    if row.jobType = .interactivePod ∧ row.status = .running then
      HoldSettled row source (source.enforceJobTimeouts now) .releasedProvider now
        (settlementFor source.db row (resolvePodGpuCount (providerOf source.db row))
          now).actualCostHalala
    else
      HoldSettled row source (source.enforceJobTimeouts now) .releasedRenter now 0 := by
  obtain ⟨middle, before, found, after⟩ :=
    (heldTimeoutSweep now).turn (Keeps row.id) (Keeps.refl row.id) Keeps.trans
      enforceJobTimeout_keeps rfl ((heldTimeoutSweep now).reads_select source)
      (mem_select_iff.mpr ⟨timedOut, current⟩)
  have middleOpened : ∀ hold ∈ middle.holds.lookup row.id, hold.IsOpen := by
    rw [before.hold]
    exact opened
  -- the promotion after the settlement comes to another job
  have promoted : Keeps row.id
      ⟨settleTimedOutJob now middle.db row, middle.holdsAfterTimeout row now⟩
      (HeldDatabase.enforceJobTimeout now middle row) :=
    { leaves := Leaves.promoteNextQueuedJob row.id _ row.providerId now
      live := fun _ found live =>
        promoteNextQueuedJob_live row.providerId now found live
      hold := rfl }
  split
  · rename_i interactive
    have flips : middle.db.jobs.changes row.id IsRunning := ⟨row, found, interactive.2⟩
    have closing := completeTimedOutPod_closing now found interactive.2
    rw [settlementFor_payments, settlementFor_eq before.leaves.pricing,
      resolvePodGpuCount_eq before.leaves.pricing] at closing
    have settled :=
      @HoldSettled.of_closing middle row _ _ .releasedProvider _ now closing rfl middleOpened
    have turn : (⟨completeTimedOutPod now middle.db row,
          releaseHold middle.holds row.id .releasedProvider now⟩ : HeldDatabase) =
          ⟨settleTimedOutJob now middle.db row, middle.holdsAfterTimeout row now⟩ := by
      simp [settleTimedOutJob, HeldDatabase.holdsAfterTimeout, if_pos interactive, if_pos flips]
    rw [turn] at settled
    exact HoldSettled.of_keeps before settled (promoted.trans after)
  · rename_i other
    obtain ⟨closed, closing, _, cost, _⟩ := failTimedOutJob_closing now found timedOut.live
    rw [refund_payments] at closing
    have settled :=
      @HoldSettled.of_closing middle row _ _ .releasedRenter 0 now closing cost middleOpened
    have turn : (⟨failTimedOutJob now middle.db row,
          releaseHold middle.holds row.id .releasedRenter now⟩ : HeldDatabase) =
          ⟨settleTimedOutJob now middle.db row, middle.holdsAfterTimeout row now⟩ := by
      simp [settleTimedOutJob, HeldDatabase.holdsAfterTimeout, if_neg other]
    rw [turn] at settled
    exact HoldSettled.of_keeps before settled (promoted.trans after)

theorem enforceJobTimeouts_decides (current : source.db.jobs.lookup row.id = some row)
    (tracked : row.status.isTerminal = false → Unsettled row.id source)
    :
    Decides row.id source (source.enforceJobTimeouts now)
      (ClosesHold row.id source (.enforceJobTimeouts now)) := by
  simp only [ClosesHold, current, mem_def, some.injEq, forall_eq']
  by_cases timedOut : HasTimedOut now row
  · have unsettled := tracked timedOut.live
    have settled := enforceJobTimeouts_settled current timedOut unsettled.opened
    simp only [timedOut, forall_true_left]
    by_cases interactive : row.jobType = .interactivePod ∧ row.status = .running
    · rw [if_pos interactive] at settled
      obtain ⟨nonneg, bounded, pays, _⟩ :=
        stop_charge source.db row (resolvePodGpuCount (providerOf source.db row)) now
      apply Decides.of_settled unsettled settled
      apply forall₂_congr
      intro hold _
      rw [closedWith_releasedProvider nonneg bounded rfl, TimesOutRight, if_pos interactive, pays]
      exact Iff.rfl
    · rw [if_neg interactive] at settled
      apply Decides.of_settled unsettled settled
      apply forall₂_congr
      intro hold _
      rw [closedWith_releasedRenter (le_refl 0)
        (prepaidHalala_nonneg row) (by decide) rfl, TimesOutRight,
        if_neg interactive]
      simp
  · have keeps := enforceJobTimeouts_keeps current timedOut
    have met : HasTimedOut now row →
        ∀ hold, source.holds.lookup row.id = some hold → TimesOutRight source.db row hold now :=
      fun due => absurd due timedOut
    by_cases queued : row.status = .queued
    · have live : row.status.isTerminal = false := by
        rw [queued]
        rfl
      have unsettled := tracked live
      obtain ⟨later, found, laterLive⟩ := keeps.live row current live
      refine Decides.of_live found laterLive ⟨?_, ?_⟩ met
      · rw [keeps.hold]
        exact unsettled.opened
      · rw [keeps.leaves.payments]
        exact unsettled.unpaid
    · exact Decides.of_same current tracked
        (keeps.leaves.row row current queued) keeps.leaves.payments
        keeps.hold met

end TimeoutSweep

theorem hold_decides {source target : HeldDatabase} {action : HoldAction}
    {jobId : Nat} (tracked : Tracked jobId source)
    (fires : Fires holdNext source action target) :
    Decides jobId source target (ClosesHold jobId source action) := by
  obtain ⟨row, current, unsettled⟩ := tracked
  have rowId := lookup_key current
  subst rowId
  cases action with
  | pickUpJob providerId picked now =>
    cases fires
    exact pickUpJob_decides current unsettled providerId picked
  | stopPod stopped now =>
    cases fires
    exact stopPod_decides current unsettled stopped
  | settleExpiredPods now =>
    cases fires
    exact settleExpiredPods_decides current unsettled
  | enforceJobTimeouts now =>
    cases fires
    exact enforceJobTimeouts_decides current unsettled
  | retrySweep now =>
    cases fires
    exact retrySweep_decides current unsettled
  | sweepOfflineProviders now =>
    cases fires
    exact sweepOfflineProviders_decides current unsettled

/-- A live job for which nothing but the debit has been paid: over all orders
of the operations, its hold is closed with it in every state exactly when
every step meets the condition. -/
theorem holds_closed_iff_closesHold {start finish : HeldDatabase}
    {row : Job} {actions : List HoldAction}
    (found : start.db.jobs.lookup row.id = some row)
    (live : row.status.isTerminal = false) (unsettled : Unsettled row.id start) :
    Run (staying (Fires holdNext) (HoldClosed row.id)) start actions finish ↔
      Run (guarded (Fires holdNext) (ClosesHold row.id)) start actions
        finish := by
  have tracked : Tracked row.id start := ⟨row, found, fun _ => unsettled⟩
  have initially : HoldClosed row.id start := by
    intro other otherFound ended
    rw [found] at otherFound
    injection otherFound with same
    rw [← same, live] at ended
    cases ended
  exact Run.staying_iff_guarded (Tracked row.id) (HoldClosed row.id) (ClosesHold row.id)
    (fun tracked _ fires _ => (hold_decides tracked fires).1)
    (fun tracked closed fires => (hold_decides tracked fires).2 closed)
    tracked initially

def queuedPod : Job :=
  { samplePod with
    status := .queued
    providerId := none
    assignedAt := none
    pickedUpAt := none
    startedAt := none
    timeoutAt := none
    jupyterHostPort := none
    accessUrl := none }

def holdStart : HeldDatabase :=
  { db :=
    { jobs := Table.empty.insertIfNew queuedPod
      providers := (Table.empty.insertIfNew sampleProvider).insertIfNew
        { sampleProvider with id := 3, lastHeartbeat := some 400000 }
      renters := Table.empty.insertIfNew sampleRenter
      journal := [] }
    holds := Table.empty }

theorem holds_closed_iff_closesHold_sample :
    ∃ finish, execute holdNext holdStart [.pickUpJob 1 5 0, .stopPod 5 600000] = some finish ∧
      HoldClosed 5 finish ∧
      (finish.holds.lookup 5).map EscrowHold.status = some .releasedProvider ∧
      finish.db.paymentsFor 5 = [⟨5, .credit, 1, 450⟩, ⟨5, .refund, 2, 400⟩] := by
  refine exists_executed_guarded (ClosesHold 5) (fun finish =>
    (finish.holds.lookup 5).map EscrowHold.status = some .releasedProvider ∧
    finish.db.paymentsFor 5 = [⟨5, .credit, 1, 450⟩, ⟨5, .refund, 2, 400⟩])
    (by decide +kernel) ?_
  intro finish allowed outcome
  have found : holdStart.db.jobs.lookup queuedPod.id = some queuedPod := by
    decide
  have unsettled : Unsettled queuedPod.id holdStart := ⟨by decide, by decide⟩
  have stays := (holds_closed_iff_closesHold found rfl unsettled).mpr allowed
  have initially : HoldClosed 5 holdStart := by decide
  exact ⟨stays.holds_of_staying initially, outcome⟩

/-- The settlement sweep leaves the hold of a pod past its deadline locked,
and after a pickup by a second provider the hold names the first one. -/
theorem hold_not_closed :
    (∃ finish, execute holdNext holdStart [.pickUpJob 1 5 0, .settleExpiredPods 4000000] =
      some finish ∧
      ¬ HoldClosed 5 finish ∧
      (finish.db.jobs.lookup 5).map Job.status = some .completed ∧
      (finish.holds.lookup 5).map EscrowHold.status = some .locked ∧
      finish.db.paymentsFor 5 = [⟨5, .credit, 1, 750⟩]) ∧
    ∃ finish, execute holdNext holdStart [.pickUpJob 1 5 0, .sweepOfflineProviders 400000,
            .pickUpJob 3 5 400000, .stopPod 5 1000000] =
        some finish ∧
        ¬ HoldClosed 5 finish ∧
        (finish.holds.lookup 5).map EscrowHold.providerId = some 1 ∧
        finish.db.paymentsFor 5 = [⟨5, .credit, 3, 450⟩, ⟨5, .refund, 2, 400⟩] :=
  ⟨exists_of_execute_any (by decide +kernel), exists_of_execute_any (by decide +kernel)⟩

end DcpPlatform.Pods
