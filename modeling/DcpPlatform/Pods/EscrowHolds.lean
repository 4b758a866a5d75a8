import DcpPlatform.Pods.Scheduling

/-!
# Escrow holds

A hold is opened and locked at the pickup of a job; a stop request and the
timeout sweep close it, each in the statement after the one that settles the
job. Other operations do not mention the table.
-/

namespace DcpPlatform.Pods

open Foundation Table

inductive HoldStatus where
  | held | locked | releasedProvider | releasedRenter | expired
  deriving DecidableEq

def HoldStatus.isOpen : HoldStatus → Bool
  | .held | .locked => true
  | _ => false

/-- A row of `escrow_holds`. The API key of the renter is its id here. -/
structure EscrowHold where
  jobId : Nat
  renterId : Nat
  providerId : Nat
  amountHalala : Int
  status : HoldStatus
  createdAt : Int
  expiresAt : Int
  resolvedAt : Option Int

namespace EscrowHold

def IsOpen (hold : EscrowHold) : Prop :=
  hold.status.isOpen = true
deriving Decidable

def IsHeld (hold : EscrowHold) : Prop :=
  hold.status = .held
deriving Decidable

def setLocked (hold : EscrowHold) : EscrowHold :=
  { hold with status := .locked }

@[simp]
theorem setLocked_jobId (hold : EscrowHold) :
    (setLocked hold).jobId = hold.jobId :=
  rfl

def setResolved (status : HoldStatus) (now : Int) (hold : EscrowHold) :
    EscrowHold :=
  { hold with status := status, resolvedAt := some now }

@[simp]
theorem setResolved_jobId (status : HoldStatus) (now : Int) (hold : EscrowHold) :
    (setResolved status now hold).jobId = hold.jobId :=
  rfl

end EscrowHold

abbrev HoldTable := Table EscrowHold EscrowHold.jobId

def releaseHold (holds : HoldTable) (jobId : Nat) (status : HoldStatus) (now : Int) : HoldTable :=
  holds.updateWhere jobId EscrowHold.IsOpen (EscrowHold.setResolved status now)
    (EscrowHold.setResolved_jobId status now)

def pickupHold (job : Job) (renterId providerId : Nat) (now : Int) :
    EscrowHold :=
  { jobId := job.id
    renterId := renterId
    providerId := providerId
    amountHalala := job.costHalala
    status := .held
    createdAt := now
    expiresAt := now + ((if job.maxDurationSeconds.getD 0 = 0 then 600
      else job.maxDurationSeconds.getD 0) + 1800) * 1000
    resolvedAt := none }

structure HeldDatabase where
  db : Database
  holds : HoldTable

namespace HeldDatabase

def holdForPickup (state : HeldDatabase) (job : Job) (providerId : Nat) (now : Int) : HoldTable :=
  match job.renterId.bind state.db.renters.lookup with
  | none => state.holds
  | some renter =>
    if 0 < job.costHalala then
      (state.holds.insertIfNew (pickupHold job renter.id providerId now)).updateWhere job.id
        EscrowHold.IsHeld EscrowHold.setLocked
        EscrowHold.setLocked_jobId
    else
      state.holds

def pickUpJob (state : HeldDatabase) (providerId jobId : Nat) (now : Int) : HeldDatabase :=
  { db := Pods.pickUpJob state.db providerId jobId now
    holds :=
      match state.db.jobs.lookup jobId with
      | none => state.holds
      | some job =>
        if PickableBy providerId job then
          state.holdForPickup job providerId now
        else
          state.holds }

def holdsAfterStop (state : HeldDatabase) (job : Job) (now : Int) :
    HoldTable :=
  if job.status.isTerminal then
    state.holds
  else if job.status = .running then
    releaseHold state.holds job.id
      (if 0 < (podStopSettlement state.db job now).providerEarnedHalala then
        .releasedProvider
      else
        .releasedRenter)
      now
  else if state.db.jobs.changes job.id Cancellable then
    releaseHold state.holds job.id .releasedRenter now
  else
    state.holds

def stopPodCore (state : HeldDatabase) (job : Job) (now : Int) :
    HeldDatabase :=
  { db := (Pods.stopPodCore state.db job now).1
    holds := state.holdsAfterStop job now }

/-- A stop request of the renter or of an admin: fetch the pod and stop
it. -/
def stopPod (state : HeldDatabase) (jobId : Nat) (now : Int) :
    HeldDatabase :=
  match state.db.jobs.lookup jobId with
  | none => state
  | some job =>
    if job.jobType.isPod then state.stopPodCore job now else state

/-- The settlement sweep leaves the holds alone. -/
def settleExpiredPods (state : HeldDatabase) (now : Int) : HeldDatabase :=
  { state with db := Pods.settleExpiredPods state.db now }

/-- A pod that completes is released to the provider when this sweep has
changed its row; a job that fails is released to the renter. -/
def holdsAfterTimeout (state : HeldDatabase) (job : Job) (now : Int) :
    HoldTable :=
  if job.jobType = .interactivePod ∧ job.status = .running then
    if state.db.jobs.changes job.id IsRunning then
      releaseHold state.holds job.id .releasedProvider now
    else
      state.holds
  else
    releaseHold state.holds job.id .releasedRenter now

def enforceJobTimeout (now : Int) (state : HeldDatabase) (job : Job) :
    HeldDatabase :=
  { db := Pods.enforceJobTimeout now state.db job
    holds := state.holdsAfterTimeout job now }

def enforceJobTimeouts (state : HeldDatabase) (now : Int) :
    HeldDatabase :=
  (state.db.jobs.select (HasTimedOut now)).foldl (enforceJobTimeout now) state

def retrySweep (state : HeldDatabase) (now : Int) : HeldDatabase :=
  { state with db := Pods.retrySweep state.db now }

def sweepOfflineProviders (state : HeldDatabase) (now : Int) :
    HeldDatabase :=
  { state with db := Pods.sweepOfflineProviders state.db now }

end HeldDatabase

inductive HoldAction where
  | pickUpJob (providerId jobId : Nat) (now : Int)
  | stopPod (jobId : Nat) (now : Int)
  | settleExpiredPods (now : Int)
  | enforceJobTimeouts (now : Int)
  | retrySweep (now : Int)
  | sweepOfflineProviders (now : Int)

def holdNext (state : HeldDatabase) : HoldAction → Option HeldDatabase
  | .pickUpJob providerId jobId now =>
    some (state.pickUpJob providerId jobId now)
  | .stopPod jobId now => some (state.stopPod jobId now)
  | .settleExpiredPods now => some (state.settleExpiredPods now)
  | .enforceJobTimeouts now => some (state.enforceJobTimeouts now)
  | .retrySweep now => some (state.retrySweep now)
  | .sweepOfflineProviders now => some (state.sweepOfflineProviders now)

section Holds

variable (holds : HoldTable) (jobId : Nat) (status : HoldStatus) (now : Int)

theorem releaseHold_lookup_of_ne {other : Nat} (different : other ≠ jobId) :
    (releaseHold holds jobId status now).lookup other = holds.lookup other :=
  lookup_updateWhere_of_ne holds (EscrowHold.setResolved_jobId status now) different

theorem releaseHold_lookup_self (opened : ∀ hold ∈ holds.lookup jobId, hold.IsOpen) :
    (releaseHold holds jobId status now).lookup jobId =
      (holds.lookup jobId).map (EscrowHold.setResolved status now) := by
  cases found : holds.lookup jobId with
  | none =>
    rw [releaseHold, updateWhere, lookup_update_self, found]
    rfl
  | some hold =>
    have isOpen := opened hold found
    rw [releaseHold, lookup_updateWhere_of_met _ found isOpen, if_pos rfl, Option.map_some]

end Holds

variable {other : Nat} (state : HeldDatabase) (job : Job)

theorem HeldDatabase.holdsAfterStop_lookup_of_ne (now : Int) (different : other ≠ job.id) :
    (state.holdsAfterStop job now).lookup other = state.holds.lookup other := by
  unfold holdsAfterStop
  split
  · rfl
  · split
    · exact releaseHold_lookup_of_ne _ _ _ _ different
    · split
      · exact releaseHold_lookup_of_ne _ _ _ _ different
      · rfl

theorem HeldDatabase.holdsAfterTimeout_lookup_of_ne (now : Int) (different : other ≠ job.id) :
    (state.holdsAfterTimeout job now).lookup other = state.holds.lookup other := by
  unfold holdsAfterTimeout
  split
  · split
    · exact releaseHold_lookup_of_ne _ _ _ _ different
    · rfl
  · exact releaseHold_lookup_of_ne _ _ _ _ different

theorem HeldDatabase.holdForPickup_lookup_of_ne
    (providerId : Nat) (now : Int) (different : other ≠ job.id) :
    (state.holdForPickup job providerId now).lookup other = state.holds.lookup other := by
  unfold holdForPickup
  split
  · rfl
  · rename_i renter _
    split
    · rw [lookup_updateWhere_of_ne _ _ different]
      unfold insertIfNew
      split
      · rename_i fresh
        rw [lookup_insert_of_ne]
        exact fun same => different same.symm
      · rfl
    · rfl

theorem HeldDatabase.holdForPickup_open (providerId : Nat) (now : Int)
    (opened : ∀ hold ∈ state.holds.lookup job.id, hold.IsOpen) :
    ∀ hold ∈ (state.holdForPickup job providerId now).lookup job.id,
      hold.IsOpen := by
  unfold holdForPickup
  split
  · exact opened
  · rename_i renter _
    split
    · have inserted : ∀ hold ∈ (state.holds.insertIfNew
          (pickupHold job renter.id providerId now)).lookup job.id,
            hold.IsOpen := by
        unfold insertIfNew
        split
        · rename_i fresh
          intro hold found
          have stored :=
            lookup_insert_self state.holds (pickupHold job renter.id providerId now) fresh
          have same := Option.some.inj (stored.symm.trans found)
          rw [← same]
          rfl
        · exact opened
      intro hold found
      rw [updateWhere, lookup_update_self] at found
      obtain ⟨earlier, stored, changed⟩ := Option.map_eq_some_iff.mp found
      rw [← changed]
      split
      · rfl
      · exact inserted earlier stored
    · exact opened

end DcpPlatform.Pods
