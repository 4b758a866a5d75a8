import DcpPlatform.Foundation.Transition
import DcpPlatform.Pods.Effects
import Mathlib.Tactic.Positivity

/-!
# Stops of stale rows

A stop request settles the job row that was fetched for it, and another
settlement may commit in between: `stopPodCore` does not look at whether its
guarded update has changed a row. `SettlesOnce` is a preorder that contains
every other step.
-/

namespace DcpPlatform.Pods

open Foundation List

def Terminal (db : Database) (jobId : Nat) : Prop :=
  ∃ row, db.jobs.lookup jobId = some row ∧ row.status.isTerminal = true

structure AtMostOnce (payments : List Payment) : Prop where
  refunds : (ofKind .refund payments).length ≤ 1
  credits : (ofKind .credit payments).length ≤ 1

structure SettlesOnce (before after : Database) : Prop where
  stays : ∀ jobId, Terminal before jobId → Terminal after jobId
  frozen : ∀ jobId, Terminal before jobId → after.paymentsFor jobId = before.paymentsFor jobId
  once : ∀ jobId, after.paymentsFor jobId = before.paymentsFor jobId ∨
    (Terminal after jobId ∧ ∃ payments,
      after.paymentsFor jobId = before.paymentsFor jobId ++ payments ∧ AtMostOnce payments)
  accounted : Accounted before after

namespace SettlesOnce

theorem refl (db : Database) : SettlesOnce db db where
  stays := fun _ ended => ended
  frozen := fun _ _ => rfl
  once := fun _ => Or.inl rfl
  accounted := Accounted.refl db

theorem trans {first second third : Database} (earlier : SettlesOnce first second)
    (later : SettlesOnce second third) :
    SettlesOnce first third where
  stays := fun jobId ended => later.stays jobId (earlier.stays jobId ended)
  frozen := by
    intro jobId ended
    exact (later.frozen jobId (earlier.stays jobId ended)).trans (earlier.frozen jobId ended)
  once := by
    intro jobId
    rcases earlier.once jobId with same | ⟨ended, payments, grown, once⟩
    · rw [← same]
      exact later.once jobId
    · refine Or.inr ⟨later.stays jobId ended, payments, ?_, once⟩
      exact (later.frozen jobId ended).trans grown
  accounted := earlier.accounted.trans later.accounted

theorem of_unpaid {before after : Database}
    (stays : ∀ jobId, Terminal before jobId → Terminal after jobId)
    (journal : after.journal = before.journal)
    (accounted : Accounted before after) :
    SettlesOnce before after := by
  have same (jobId : Nat) :
      after.paymentsFor jobId = before.paymentsFor jobId := by
    simp [Database.paymentsFor, journal]
  exact ⟨stays, fun jobId _ => same jobId, fun jobId => Or.inl (same jobId), accounted⟩

end SettlesOnce

theorem length_ofKind_entry_le (kind other : PaymentKind) (jobId : Nat)
    (account : Option Nat) (amount : Int) :
    (ofKind kind (Database.entry jobId other account amount)).length ≤
      1 := by
  refine (length_filter_le _ _).trans ?_
  cases account with
  | none => exact Nat.zero_le 1
  | some account =>
    simp only [Database.entry]
    split <;> simp

theorem atMostOnce_refund (jobId : Nat) (account : Option Nat) (amount : Int) :
    AtMostOnce (Database.entry jobId .refund account amount) where
  refunds := length_ofKind_entry_le _ _ _ _ _
  credits := length_ofKind_entry_le _ _ _ _ _

theorem atMostOnce_payments (settlement : PodSettlement) (job : Job) :
    AtMostOnce (settlement.payments job) where
  refunds := by
    rw [PodSettlement.payments, ofKind_append, ofKind_entry_of_ne (by decide), nil_append]
    exact length_ofKind_entry_le _ _ _ _ _
  credits := by
    have noRefund :
        ofKind .credit (Database.entry job.id .refund job.renterId settlement.refundHalala) = [] :=
      ofKind_entry_of_ne (by decide) _ _ _
    rw [PodSettlement.payments, ofKind_append, noRefund, append_nil]
    exact length_ofKind_entry_le _ _ _ _ _

variable {before after : Database}

theorem settlesOnce_of_closing {jobId : Nat} {row closed : Job} {payments : List Payment}
    (closing : Closing before after jobId row closed payments)
    (owned : ∀ payment ∈ payments, payment.jobId = jobId)
    (once : AtMostOnce payments) (accounted : Accounted before after) :
    SettlesOnce before after where
  stays := by
    rintro other ⟨otherRow, found, ended⟩
    by_cases same : other = jobId
    · subst same
      exact ⟨closed, closing.stored, closing.ended⟩
    · exact ⟨otherRow, (closing.others other same).trans found, ended⟩
  frozen := by
    rintro other ⟨otherRow, found, ended⟩
    rw [paymentsFor_of_journal closing.journal owned]
    have different : other ≠ jobId := by
      intro same
      rw [same, closing.found] at found
      injection found with same
      have live := closing.live
      rw [same, ended] at live
      cases live
    rw [if_neg different, append_nil]
  once := by
    intro other
    rw [paymentsFor_of_journal closing.journal owned]
    by_cases same : other = jobId
    · subst same
      rw [if_pos rfl]
      exact Or.inr ⟨⟨closed, closing.stored, closing.ended⟩, payments, rfl, once⟩
    · rw [if_neg same, append_nil]
      exact Or.inl rfl
  accounted := accounted

variable {job : Job}

theorem Settling.settlesOnce (settling : Settling before job after)
    (accounted : Accounted before after) :
    SettlesOnce before after := by
  cases settling with
  | untouched =>
    exact SettlesOnce.refl before
  | charged closing _ _ =>
    refine settlesOnce_of_closing closing ?_ (atMostOnce_payments _ _) accounted
    intro payment member
    rcases mem_append.mp member with credit | refund
    · exact entry_jobId credit
    · exact entry_jobId refund
  | returned closing _ _ =>
    exact settlesOnce_of_closing closing
      (fun _ member => entry_jobId member) (atMostOnce_refund _ _ _)
      accounted

theorem settlesOnce_sweepClosed : SweepClosed SettlesOnce where
  reflexive := SettlesOnce.refl
  transitive := SettlesOnce.trans
  settling := fun _ settling accounted => settling.settlesOnce accounted
  promoted := by
    intro db job now found queued
    refine SettlesOnce.of_unpaid ?_ rfl (Accounted.of_jobs db _)
    rintro jobId ⟨row, rowFound, ended⟩
    by_cases same : jobId = job.id
    · rw [same, found] at rowFound
      injection rowFound with equal
      rw [← equal, queued] at ended
      cases ended
    · exact ⟨row, (Table.lookup_update_of_ne _ (Job.setPromoted_id now) same).trans rowFound, ended⟩

/-- The database and the rows fetched for stop requests, oldest first. -/
structure StopSystem where
  db : Database
  fetched : List Job

inductive StopAction where
  | fetchPod (jobId : Nat)
  | stopPod (request : Nat) (now : Int)
  | settleExpiredPods (now : Int)
  | enforceJobTimeouts (now : Int)
  | failBurstJobAndRefund (jobId : Nat) (quoteHalala : Int) (renterId : Nat) (now : Int)

namespace StopSystem

def next (system : StopSystem) : StopAction → Option StopSystem
  | .fetchPod jobId =>
    match system.db.jobs.lookup jobId with
    | some job =>
      if job.jobType.isPod then
        some { system with fetched := system.fetched ++ [job] }
      else
        none
    | none => none
  | .stopPod request now =>
    match system.fetched[request]? with
    | some job =>
      some { system with db := (stopPodCore system.db job now).1 }
    | none => none
  | .settleExpiredPods now =>
    some { system with db := settleExpiredPods system.db now }
  | .enforceJobTimeouts now =>
    some { system with db := enforceJobTimeouts system.db now }
  | .failBurstJobAndRefund jobId quoteHalala renterId now =>
    some { system with
      db := (failBurstJobAndRefund system.db jobId quoteHalala renterId now).1 }

structure Initial (system : StopSystem) : Prop where
  unfetched : system.fetched = []
  unpaid : system.db.journal = []

end StopSystem

/-- A settlement of the row at `now` moves no money: nothing was prepaid, or
a single halala that the elapsed time has used up. -/
def Moneyless (db : Database) (job : Job) (now : Int) : Prop :=
  job.costHalala ≤ 0 ∨
    (job.costHalala = 1 ∧ startedAtMs job now < now ∧ 0 < resolvePodRate (providerOf db job))
deriving Decidable

/-- A row fetched as running is stopped while the stored row still runs, or
there is no money in it. -/
def StopsCurrent (system : StopSystem) : StopAction → Prop
  | .stopPod request now =>
    ∀ job ∈ system.fetched[request]?, job.status = .running →
      system.db.jobs.changes job.id IsRunning ∨ Moneyless system.db job now
  | _ => True

instance (system : StopSystem) (action : StopAction) :
    Decidable (StopsCurrent system action) :=
  match action with
  | .stopPod request now =>
    inferInstanceAs (Decidable (∀ job ∈ system.fetched[request]?, job.status = .running →
      system.db.jobs.changes job.id IsRunning ∨ Moneyless system.db job now))
  | .fetchPod _ | .settleExpiredPods _ | .enforceJobTimeouts _
  | .failBurstJobAndRefund _ _ _ _ => isTrue trivial

theorem settledGpuCount_pos (db : Database) (job : Job) :
    0 < settledGpuCount db job := by
  unfold settledGpuCount
  split
  · unfold resolvePodGpuCount
    split
    · exact Nat.one_pos
    · split
      · omega
      · exact Nat.one_pos
  · omega

variable {db : Database} {now : Int}

theorem refund_zero_of_moneyless (moneyless : Moneyless db job now) :
    (podStopSettlement db job now).refundHalala = 0 ∧
      (podStopSettlement db job now).providerEarnedHalala = 0 := by
  have splits := settlementFor_splits db job (settledGpuCount db job) now
  rcases moneyless with unpaid | ⟨single, started, rate⟩
  · have nothing : prepaidHalala job = 0 := max_eq_left unpaid
    have charge := splits.charge
    have share := splits.share
    have earnedNonneg := splits.earnedNonneg
    have feeNonneg := splits.feeNonneg
    have refundNonneg := splits.refundNonneg
    unfold podStopSettlement
    omega
  · have elapsed : (0 : ℚ) < (now - startedAtMs job now) / 1000 := by
      have later : ((startedAtMs job now : Int) : ℚ) < now := by
        exact_mod_cast started
      linarith
    have gpus : (0 : ℚ) < settledGpuCount db job := by
      exact_mod_cast settledGpuCount_pos db job
    have accrued : 1 ≤ ⌈max 0 (((now : ℚ) - startedAtMs job now) / 1000) *
        resolvePodRate (providerOf db job) * settledGpuCount db job⌉ := by
      rw [max_eq_right elapsed.le]
      exact Int.one_le_ceil_iff.mpr (by positivity)
    have actual : (podStopSettlement db job now).actualCostHalala = 1 := by
      simp only [podStopSettlement, settlementFor, computePodStopSettlement, single]
      omega
    have prepaid : prepaidHalala job = 1 := by
      rw [prepaidHalala, single]
      rfl
    have charge := splits.charge
    have earned : (podStopSettlement db job now).providerEarnedHalala =
        podProviderEarned (podStopSettlement db job now).actualCostHalala :=
      rfl
    rw [actual] at earned
    refine ⟨?_, earned⟩
    unfold podStopSettlement at actual ⊢
    omega

theorem stopRunning_settlesOnce
    (current : db.jobs.changes job.id IsRunning ∨ Moneyless db job now) :
    SettlesOnce db (stopRunning db job now) := by
  by_cases flips : db.jobs.changes job.id IsRunning
  · obtain ⟨row, found, running⟩ := flips
    exact (stopRunning_settling now found running).settlesOnce (stopRunning_accounted db job now)
  · have moneyless := current.resolve_left flips
    obtain ⟨noRefund, noCredit⟩ := refund_zero_of_moneyless moneyless
    have jobs : (stopRunning db job now).jobs = db.jobs := by
      rw [stopRunning, payOut_jobs]
      exact Table.updateWhere_of_unmet (Job.setSettled_id _ _ _) flips
    have journal : (stopRunning db job now).journal = db.journal := by
      have paidOut := payOut_journal { db with
          jobs := db.jobs.updateWhere job.id IsRunning
            (Job.setSettled .stopped now (podStopSettlement db job now))
            (Job.setSettled_id .stopped now _) }
          job noCredit.ge
      rw [noRefund, noCredit, Database.entry_zero, Database.entry_zero,
        append_nil, append_nil] at paidOut
      exact paidOut
    refine SettlesOnce.of_unpaid ?_ journal (stopRunning_accounted db job now)
    rintro jobId ⟨row, found, ended⟩
    exact ⟨row, by rw [jobs]; exact found, ended⟩

theorem stopPodCore_settlesOnce
    (current : job.status = .running → db.jobs.changes job.id IsRunning ∨ Moneyless db job now) :
    SettlesOnce db (stopPodCore db job now).1 := by
  unfold stopPodCore
  split
  · exact SettlesOnce.refl db
  · split
    · rename_i running
      exact stopRunning_settlesOnce (current running)
    · exact (cancelUnstarted_settling db job now).settlesOnce (cancelUnstarted_accounted db job now)

theorem step_settlesOnce {system after : StopSystem}
    {action : StopAction} (current : StopsCurrent system action)
    (step : Fires StopSystem.next system action after) :
    SettlesOnce system.db after.db := by
  cases action with
  | fetchPod jobId =>
    simp only [Fires, StopSystem.next] at step
    split at step
    · obtain ⟨_, rfl⟩ := of_ite_eq_some step
      exact SettlesOnce.refl _
    · cases step
  | stopPod request now =>
    simp only [Fires, StopSystem.next] at step
    split at step
    · rename_i job fetched
      cases step
      exact stopPodCore_settlesOnce (current job fetched)
    · cases step
  | settleExpiredPods now =>
    cases step
    exact settlesOnce_sweepClosed.settleExpiredPods system.db now
  | enforceJobTimeouts now =>
    cases step
    exact settlesOnce_sweepClosed.enforceJobTimeouts system.db now
  | failBurstJobAndRefund jobId quoteHalala renterId now =>
    cases step
    have accounted := failBurstJobAndRefund_accounted system.db jobId quoteHalala renterId now
    rcases failBurstJobAndRefund_settling system.db jobId quoteHalala
        renterId now with same | ⟨row, _, settling⟩
    · rw [same]
      exact SettlesOnce.refl _
    · exact settling.settlesOnce accounted

theorem run_settlesOnce {start finish : StopSystem} {actions : List StopAction}
    (run : Run (guarded (Fires StopSystem.next) StopsCurrent) start actions finish) :
    SettlesOnce start.db finish.db := by
  refine run.relates (fun _ => True) (fun first second => SettlesOnce first.db second.db)
    (SettlesOnce.refl ·.db)
    SettlesOnce.trans (fun _ _ => trivial) ?_ trivial
  intro source target action _ taken
  exact step_settlesOnce taken.1 taken.2

/-- In a run that stops no stale running row every pod is refunded at most
once and credited at most once, and nothing is paid for a pod after it has
ended. Balances move by nothing but these payments. -/
theorem pod_settled_at_most_once {start middle finish : StopSystem}
    {earlier later : List StopAction} (initial : start.Initial)
    (first : Run (guarded (Fires StopSystem.next) StopsCurrent) start earlier middle)
    (second : Run (guarded (Fires StopSystem.next) StopsCurrent) middle later finish) :
    (∀ jobId, AtMostOnce (finish.db.paymentsFor jobId)) ∧ (∀ jobId, Terminal middle.db jobId →
      finish.db.paymentsFor jobId = middle.db.paymentsFor jobId) ∧
      Accounted start.db middle.db ∧ Accounted middle.db finish.db := by
  have before := run_settlesOnce first
  have after := run_settlesOnce second
  refine ⟨?_, after.frozen, before.accounted, after.accounted⟩
  intro jobId
  have unpaid : start.db.paymentsFor jobId = [] := by
    simp [Database.paymentsFor, initial.unpaid]
  rcases (before.trans after).once jobId with same | ⟨_, payments, grown, once⟩
  · rw [same, unpaid]
    exact ⟨Nat.zero_le 1, Nat.zero_le 1⟩
  · rw [grown, unpaid, nil_append]
    exact once

def sampleStopSystem : StopSystem :=
  { db :=
    { jobs := ⟨[samplePod], List.nodup_singleton _⟩
      providers := ⟨[sampleProvider], List.nodup_singleton _⟩
      renters := ⟨[sampleRenter], List.nodup_singleton _⟩
      journal := [] }
    fetched := [] }

theorem sampleStopSystem_initial : sampleStopSystem.Initial :=
  ⟨rfl, rfl⟩

theorem pod_settled_at_most_once_sample :
    ∃ middle finish : StopSystem,
      Run (guarded (Fires StopSystem.next) StopsCurrent) sampleStopSystem
        [.fetchPod 5, .stopPod 0 400000] middle ∧
        Terminal middle.db 5 ∧
        finish.db.paymentsFor 5 = middle.db.paymentsFor 5 ∧
        AtMostOnce (finish.db.paymentsFor 5) := by
  obtain ⟨middle, executed, jobs⟩ : ∃ middle,
      execute (restricted StopSystem.next StopsCurrent) sampleStopSystem
        [.fetchPod 5, .stopPod 0 400000] = some middle ∧
        (∃ row ∈ middle.db.jobs.lookup 5, row.status.isTerminal = true) :=
    exists_of_execute_any (by decide +kernel)
  have first := run_guarded_of_execute executed
  have ended : Terminal middle.db 5 := by
    obtain ⟨row, found, ended⟩ := jobs
    exact ⟨row, found, ended⟩
  have second : Run (guarded (Fires StopSystem.next) StopsCurrent) middle
      [.enforceJobTimeouts 5000000]
      { middle with db := enforceJobTimeouts middle.db 5000000 } :=
    Run.single ⟨trivial, rfl⟩
  have settled := pod_settled_at_most_once sampleStopSystem_initial first second
  exact ⟨middle, _, first, ended, settled.2.1 5 ended, settled.1 5⟩

def stoppedTwice : List StopAction :=
  [.fetchPod 5, .fetchPod 5, .stopPod 0 400000, .stopPod 1 400000]

/-- The renter gets the unused 600 halala twice and the provider its share
of 300 twice, after the pod had ended. -/
theorem pod_settled_twice :
    ∃ start middle finish : StopSystem, start.Initial ∧
      Run (Fires StopSystem.next) start (stoppedTwice.take 3) middle ∧
      Run (Fires StopSystem.next) middle (stoppedTwice.drop 3) finish ∧
      Terminal middle.db 5 ∧
      paid .refund (middle.db.paymentsFor 5) = 600 ∧
      paid .refund (finish.db.paymentsFor 5) = 1200 ∧
      paid .credit (middle.db.paymentsFor 5) = 300 ∧
      paid .credit (finish.db.paymentsFor 5) = 600 ∧
      ¬ AtMostOnce (finish.db.paymentsFor 5) := by
  obtain ⟨middle, executed, ended, refunded, credited, finish, continued,
      refundedTwice, creditedTwice, refunds⟩ :
      ∃ middle, execute StopSystem.next sampleStopSystem (stoppedTwice.take 3) = some middle ∧
        (∃ row ∈ middle.db.jobs.lookup 5, row.status.isTerminal = true) ∧
        paid .refund (middle.db.paymentsFor 5) = 600 ∧
        paid .credit (middle.db.paymentsFor 5) = 300 ∧
        ∃ finish ∈ execute StopSystem.next middle (stoppedTwice.drop 3),
          paid .refund (finish.db.paymentsFor 5) = 1200 ∧
            paid .credit (finish.db.paymentsFor 5) = 600 ∧
            1 < (ofKind .refund (finish.db.paymentsFor 5)).length :=
    exists_of_execute_any (by decide +kernel)
  obtain ⟨row, found, terminal⟩ := ended
  refine ⟨sampleStopSystem, middle, finish, sampleStopSystem_initial,
    run_of_execute executed, run_of_execute continued,
    ⟨row, found, terminal⟩, refunded, refundedTwice, credited,
    creditedTwice, ?_⟩
  intro once
  exact absurd once.refunds (not_le.mpr refunds)

end DcpPlatform.Pods
