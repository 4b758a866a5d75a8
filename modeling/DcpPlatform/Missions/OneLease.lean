import DcpPlatform.Missions.Answers

/-!
# One live lease for each agent

The listing of the assignees relies on an agent holding one live lease at
most, but a claim, a late renewal and a patch that takes a task up again do
not look at the agent's other tasks.
-/

namespace DcpPlatform.Missions

open Foundation
open Batches (Json)

def Task.IsLive (agentId : String) (now : Nat) (task : Task) : Prop :=
  task.claimedBy = some agentId ∧ task.status.isHeld = true ∧
    ∃ lease, task.leaseExpiresAt = some lease ∧ now ≤ lease

def AtMostOneLive (system : System) : Prop :=
  ∀ agentId first second firstTask secondTask, system.tasks.lookup first = some firstTask →
    system.tasks.lookup second = some secondTask → firstTask.IsLive agentId system.clock →
    secondTask.IsLive agentId system.clock → first = second

def HasNoOther (tasks : Tasks) (taskId agentId : String) (now : Nat) :
    Prop :=
  ∀ other task, tasks.lookup other = some task → other ≠ taskId → ¬ task.IsLive agentId now

def Revives (body : Json) (task : Task) : Prop :=
  task.status.isHeld = false ∧ (patchedStatus body task).isHeld = true

def Request.FindsNoOther (tasks : Tasks) (now : Nat) (task : Task) :
    Request → Prop
  | .claim taskId agent _ =>
    HasNoOther tasks taskId agent.assigneeId now
  | .renew taskId agent _ =>
    HasNoOther tasks taskId agent.assigneeId now
  | .patch taskId _ body =>
    ∀ holder lease, Revives body task → task.claimedBy = some holder →
      task.leaseExpiresAt = some lease → now ≤ lease → HasNoOther tasks taskId holder now
  | .release _ _ _ => True
  | .resetLease _ _ => True
  | .reassign _ _ _ _ _ => True

def Allowed (system : System) (action : Action) : Prop :=
  ∀ task, system.tasks.lookup action.request.taskId = some task →
    action.request.Accepts action.now task →
    action.request.FindsNoOther system.tasks action.now task

section Steps

variable {before after : System} {action : Action} {task : Task} {agentId : String} {now : Nat}

theorem Task.IsLive.earlier (live : task.IsLive agentId now)
    {clock : Nat} (ordered : clock ≤ now) : task.IsLive agentId clock := by
  obtain ⟨holder, held, lease, stored, unexpired⟩ := live
  exact ⟨holder, held, lease, stored, by omega⟩

theorem live_claim (lease : Nat) (unexpired : now ≤ lease) :
    (task.claim agentId lease now).IsLive agentId now :=
  ⟨rfl, rfl, lease, rfl, unexpired⟩

theorem live_renew (held : task.isHeldBy agentId) (lease : Nat) (unexpired : now ≤ lease) :
    (task.renew lease now).IsLive agentId now :=
  ⟨held.1, held.2, lease, rfl, unexpired⟩

theorem not_live_vacate (agentId : String) :
    ¬ (task.vacate now).IsLive agentId now := by
  rintro ⟨holder, _⟩
  cases holder

theorem live_of_live_reassign {assigneeId : String}
    (live : (task.reassign assigneeId now).IsLive agentId now) :
    task.IsLive agentId now := by
  rw [Task.reassign] at live
  split at live
  · obtain ⟨_, ⟨⟩, _⟩ := live
  · exact live

theorem live_patch_iff (body : Json) :
    (task.patch body now).IsLive agentId now ↔
      (patchedStatus body task).isHeld = true ∧ task.claimedBy = some agentId ∧
        ∃ lease, task.leaseExpiresAt = some lease ∧ now ≤ lease := by
  by_cases review : (property "status" body).any (isText "review" ·) = true
  · constructor
    · rintro ⟨holder, _⟩
      rw [Task.patch, review] at holder
      cases holder
    · rintro ⟨held, _⟩
      cases given : property "status" body with
      | none =>
        rw [given] at review
        cases review
      | some value =>
        rw [given] at review
        have named : isText "review" value = true := review
        cases value with
        | text status =>
          have same : status = "review" := of_decide_eq_true named
          rw [patchedStatus, given, same] at held
          cases held
        | _ => cases named
  · unfold Task.IsLive Task.patch
    rw [(Bool.not_eq_true _).mp review]
    constructor
    · rintro ⟨holder, held, lease⟩
      exact ⟨held, holder, lease⟩
    · rintro ⟨held, holder, lease⟩
      exact ⟨holder, held, lease⟩

theorem atMostOneLive_iff {other : Task} (ordered : before.clock ≤ after.clock)
    (replaces : Table.Replaces before.tasks after.tasks task other)
    (once : AtMostOneLive before) :
    AtMostOneLive after ↔ ∀ agentId, other.IsLive agentId after.clock →
      HasNoOther before.tasks task.id agentId after.clock := by
  constructor
  · intro alone agentId live second stored found different liveSecond
    have here : after.tasks.lookup task.id = some other := by
      rw [replaces.lookup, if_pos rfl]
    have there : after.tasks.lookup second = some stored := by
      rw [replaces.lookup, if_neg different]
      exact found
    exact different (alone agentId _ _ _ _ here there live liveSecond).symm
  · intro alone agentId first second firstTask secondTask firstFound
      secondFound firstLive secondLive
    rw [replaces.lookup] at firstFound secondFound
    by_cases firstHere : first = task.id
    · rw [if_pos firstHere] at firstFound
      injection firstFound with firstSame
      by_cases secondHere : second = task.id
      · rw [firstHere, secondHere]
      · rw [if_neg secondHere] at secondFound
        rw [← firstSame] at firstLive
        exact absurd secondLive (alone agentId firstLive second secondTask secondFound secondHere)
    · rw [if_neg firstHere] at firstFound
      by_cases secondHere : second = task.id
      · rw [if_pos secondHere] at secondFound
        cases secondFound
        exact absurd firstLive (alone agentId secondLive first firstTask firstFound firstHere)
      · rw [if_neg secondHere] at secondFound
        exact once agentId first second firstTask secondTask firstFound
          secondFound (firstLive.earlier ordered)
          (secondLive.earlier ordered)

theorem hasNoOther_of_live (once : AtMostOneLive before)
    (ordered : before.clock ≤ now) (found : before.tasks.lookup task.id = some task)
    (live : task.IsLive agentId now) :
    HasNoOther before.tasks task.id agentId now := by
  intro other stored there different otherLive
  exact different (once agentId other task.id stored task there found
    (otherLive.earlier ordered) (live.earlier ordered))

theorem atMostOneLive_step (once : AtMostOneLive before) (fires : Fires next before action after) :
    AtMostOneLive after ↔ Allowed before action := by
  obtain ⟨ordered, clock, outcome⟩ := next_cases fires
  rcases outcome with ⟨same, refused⟩ | ⟨task, accepted⟩
  · have kept : AtMostOneLive after := by
      rw [same]
      intro agentId first second firstTask secondTask firstFound secondFound firstLive secondLive
      exact once agentId first second firstTask secondTask firstFound
        secondFound (firstLive.earlier ordered)
        (secondLive.earlier ordered)
    refine iff_of_true kept ?_
    intro task found accepts
    exact absurd accepts (refused task found)
  · have one := atMostOneLive_iff (by omega) accepted.replaces once
    rw [clock] at one
    refine one.trans ?_
    have key := Table.lookup_key accepted.found
    have found := accepted.replaces.found
    have only : ∀ stored,
        before.tasks.lookup action.request.taskId = some stored → stored = task := by
      intro stored there
      rw [accepted.found] at there
      injection there with equal
      exact equal.symm
    have accepts := accepted.accepts
    have stored := accepted.found
    obtain ⟨request, now⟩ := action
    cases request with
    | claim taskId agent ttlMinutes =>
      have later := leaseEnd_later now ttlMinutes
      have live : (task.claim agent.assigneeId (leaseEnd now ttlMinutes)
          now).IsLive agent.assigneeId now := live_claim _ (by omega)
      constructor
      · intro alone other there _
        have alone := alone agent.assigneeId live
        rw [key] at alone
        exact alone
      · intro allowed agentId holds
        have same : some agent.assigneeId = some agentId := holds.1
        injection same with same
        rw [key, ← same]
        exact allowed task stored accepts
    | renew taskId agent ttlMinutes =>
      have later := leaseEnd_later now ttlMinutes
      have live : (task.renew (leaseEnd now ttlMinutes) now).IsLive
          agent.assigneeId now := live_renew accepts _ (by omega)
      constructor
      · intro alone other there _
        have alone := alone agent.assigneeId live
        rw [key] at alone
        exact alone
      · intro allowed agentId holds
        have same : some agent.assigneeId = some agentId := accepts.1.symm.trans holds.1
        injection same with same
        rw [key, ← same]
        exact allowed task stored accepts
    | release taskId agent reason | resetLease taskId agent =>
      refine iff_of_true ?_ (fun _ _ _ => trivial)
      intro agentId live
      exact absurd live (not_live_vacate agentId)
    | patch taskId caller body =>
      constructor
      · intro alone other there _ holder lease revives claimed leased unexpired
        rw [only other there] at revives claimed leased
        have live : (task.patch body now).IsLive holder now :=
          (live_patch_iff body).mpr ⟨revives.2, claimed, lease, leased, unexpired⟩
        have alone := alone holder live
        rw [key] at alone
        exact alone
      · intro allowed agentId live
        obtain ⟨held, claimed, lease, leased, unexpired⟩ := (live_patch_iff body).mp live
        cases worked : task.status.isHeld with
        | true =>
          exact hasNoOther_of_live once ordered found ⟨claimed, worked, lease, leased, unexpired⟩
        | false =>
          rw [key]
          exact allowed task stored accepts agentId lease ⟨worked, held⟩ claimed leased unexpired
    | reassign taskId caller newAssigneeId comment isActive =>
      refine iff_of_true ?_ (fun _ _ _ => trivial)
      intro agentId live
      exact hasNoOther_of_live once ordered found (live_of_live_reassign live)

end Steps

/-- A run keeps to one live lease for each agent exactly when every claim,
every renewal and every patch that takes a task up again finds the agent
without another live lease. -/
theorem one_live_lease_iff {start finish : System} {actions : List Action}
    (once : AtMostOneLive start) :
    Run (staying (Fires next) AtMostOneLive) start actions finish ↔
      Run (guarded (Fires next) Allowed) start actions finish :=
  Run.staying_iff_guarded (fun _ => True) AtMostOneLive Allowed (fun _ _ _ _ => trivial)
    (fun _ once fires => atMostOneLive_step once fires) trivial once

theorem unclaimed_sample {taskId : String} {task : Task}
    (found : sampleTasks.lookup taskId = some task) :
    task.claimedBy = none := by
  have all : ∀ task ∈ sampleTasks.rows, task.claimedBy = none := by
    decide
  exact all task (Table.lookup_mem found)

theorem atMostOneLive_sample :
    AtMostOneLive (System.opening sampleTasks) := by
  intro agentId first second firstTask secondTask found _ live _
  have claimed := live.1
  rw [unclaimed_sample found] at claimed
  cases claimed

theorem one_live_lease_sample :
    ∃ finish, Run (staying (Fires next) AtMostOneLive) (System.opening sampleTasks)
      [⟨.claim "first" sampleAgent none, 1000⟩] finish := by
  obtain ⟨finish, fires⟩ : ∃ finish,
      next (System.opening sampleTasks) ⟨.claim "first" sampleAgent none, 1000⟩ = some finish :=
    ⟨_, rfl⟩
  refine ⟨finish, (one_live_lease_iff atMostOneLive_sample).mpr (Run.single ⟨?_, fires⟩)⟩
  intro task _ _ other stored found _ live
  have claimed := live.1
  rw [unclaimed_sample found] at claimed
  cases claimed

/-- An agent claims two tasks one after the other. -/
theorem two_live_leases :
    ∃ finish, Run (Fires next) (System.opening sampleTasks)
      [⟨.claim "first" sampleAgent none, 1000⟩, ⟨.claim "second" sampleAgent none, 2000⟩] finish ∧
        ¬ AtMostOneLive finish := by
  obtain ⟨finish, executed, both⟩ := @exists_of_execute_any _ _ next
    (fun finish => ∀ id ∈ ["first", "second"], (finish.tasks.lookup id).any (fun task =>
      task.claimedBy = some "agent" && task.status.isHeld &&
        task.leaseExpiresAt.any (finish.clock ≤ ·)) =
      true) _
    [⟨.claim "first" sampleAgent none, 1000⟩, ⟨.claim "second" sampleAgent none, 2000⟩]
    (System.opening sampleTasks) (by decide +kernel)
  refine ⟨finish, run_of_execute executed, ?_⟩
  have live : ∀ id ∈ ["first", "second"], ∃ task,
      finish.tasks.lookup id = some task ∧ task.IsLive "agent" finish.clock := by
    intro id member
    obtain ⟨task, found, holds⟩ := (Option.any_eq_true _ _).mp (both id member)
    simp only [Bool.and_eq_true, decide_eq_true_eq] at holds
    obtain ⟨lease, leased, unexpired⟩ := (Option.any_eq_true _ _).mp holds.2
    exact ⟨task, found, holds.1.1, holds.1.2, lease, leased, of_decide_eq_true unexpired⟩
  intro alone
  obtain ⟨first, firstFound, firstLive⟩ := live "first" (by decide)
  obtain ⟨second, secondFound, secondLive⟩ := live "second" (by decide)
  exact absurd (alone "agent" _ _ _ _ firstFound secondFound firstLive secondLive) (by decide)

end DcpPlatform.Missions
