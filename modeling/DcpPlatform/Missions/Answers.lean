import DcpPlatform.Missions.Store
import Mathlib.Tactic.Linarith

/-!
# What an accepted request does

A request is accepted when its task meets a condition, and then it rewrites
that task and nothing else.

A system is the tasks with the time of the last request and a log of the
grants and the ends of claims. Time does not go back.
-/

namespace DcpPlatform.Missions

open Foundation Table
open Batches (Json)

def Request.taskId : Request → String
  | .claim taskId _ _ => taskId
  | .renew taskId _ _ => taskId
  | .release taskId _ _ => taskId
  | .resetLease taskId _ => taskId
  | .patch taskId _ _ => taskId
  | .reassign taskId _ _ _ _ => taskId

def Request.Accepts (now : Nat) (task : Task) : Request → Prop
  | .claim _ agent _ => task.isClaimable agent.assigneeId now
  | .renew _ agent _ => task.isHeldBy agent.assigneeId
  | .release _ agent reason =>
    task.isHeldBy agent.assigneeId ∧ clean reason 1000 ≠ none
  | .resetLease _ agent =>
    task.isOverdue now ∧ agent.isDispatcher = true
  | .patch _ caller body =>
    caller.refusal task body = none ∧ setsFields body = true ∧ keepsRequired body = true
  | .reassign _ caller newAssigneeId comment isActive =>
    caller = .other ∧ clean newAssigneeId 100 ≠ none ∧
      8 ≤ utf16Length ((clean comment 8000).getD "") ∧ isActive = true

def Request.change (now : Nat) (task : Task) : Request → Task
  | .claim _ agent ttlMinutes =>
    task.claim agent.assigneeId (leaseEnd now ttlMinutes) now
  | .renew _ _ ttlMinutes => task.renew (leaseEnd now ttlMinutes) now
  | .release _ _ _ => task.vacate now
  | .resetLease _ _ => task.vacate now
  | .patch _ _ body => task.patch body now
  | .reassign _ _ newAssigneeId _ _ =>
    task.reassign ((clean newAssigneeId 100).getD "") now

section Answers

variable {tasks after : Tasks} {request : Request} {now : Nat} {task : Task}

theorem changes_of_met {guard : Task → Prop} [DecidablePred guard]
    {taskId : String} (found : tasks.lookup taskId = some task)
    (met : guard task) : tasks.changes taskId guard :=
  ⟨task, found, met⟩

theorem answer_of_accepts (found : tasks.lookup request.taskId = some task)
    (accepts : request.Accepts now task) :
    ∃ after, answer tasks request now = .ok after ∧
      Table.Replaces tasks after task (request.change now task) := by
  have key := lookup_key found
  cases request with
  | claim taskId agent ttlMinutes | renew taskId agent ttlMinutes =>
    cases key
    refine ⟨_, if_pos (changes_of_met found accepts), ?_⟩
    exact replaces_updateWhere found accepts _ _
  | release taskId agent reason =>
    cases key
    refine ⟨_, (if_neg accepts.2).trans (if_pos (changes_of_met found accepts.1)), ?_⟩
    exact replaces_updateWhere found accepts.1 _ _
  | resetLease taskId agent =>
    cases key
    have found : tasks.lookup task.id = some task := found
    have present : ¬ (tasks.lookup task.id).isNone = true := by
      rw [found]
      exact fun missing => by cases missing
    have dispatcher : ¬ agent.isDispatcher = false := by
      rw [accepts.2]
      exact fun same => by cases same
    refine ⟨_, (if_neg dispatcher).trans ((if_neg present).trans
      (if_pos (changes_of_met found accepts.1))), ?_⟩
    exact replaces_updateWhere found accepts.1 _ _
  | patch taskId caller body =>
    cases key
    obtain ⟨passes, sets, keeps⟩ := accepts
    have found : tasks.lookup task.id = some task := found
    refine ⟨_, ?_, replaces_update found _ (Task.patch_id body now)⟩
    rw [answer, patchTask, found]
    dsimp only
    rw [passes]
    rw [sets, keeps]
    rfl
  | reassign taskId caller newAssigneeId comment isActive =>
    cases key
    obtain ⟨other, named, long, active⟩ := accepts
    have found : tasks.lookup task.id = some task := found
    obtain ⟨assigneeId, cleaned⟩ := Option.ne_none_iff_exists'.mp named
    have notShort : ¬ utf16Length ((clean comment 8000).getD "") < 8 := by omega
    refine ⟨_, ?_, replaces_update found _ (Task.reassign_id _ now)⟩
    rw [answer, other, reassignTask, found, cleaned, active]
    dsimp only
    rw [if_neg notShort]
    rfl

theorem accepts_of_answer (answered : answer tasks request now = .ok after) :
    ∃ task, tasks.lookup request.taskId = some task ∧ request.Accepts now task := by
  cases request with
  | claim taskId agent ttlMinutes =>
    simp only [answer, claimTask] at answered
    split at answered
    · rename_i met
      exact met
    · split at answered <;> cases answered
  | renew taskId agent ttlMinutes =>
    simp only [answer, renewLease] at answered
    split at answered
    · rename_i met
      exact met
    · cases answered
  | release taskId agent reason =>
    simp only [answer, releaseTask] at answered
    split at answered
    · cases answered
    · rename_i given
      split at answered
      · rename_i met
        obtain ⟨task, found, held⟩ := met
        exact ⟨task, found, held, given⟩
      · cases answered
  | resetLease taskId agent =>
    simp only [answer, resetLease] at answered
    split at answered
    · cases answered
    · rename_i dispatcher
      split at answered
      · cases answered
      · split at answered
        · rename_i met
          obtain ⟨task, found, overdue⟩ := met
          exact ⟨task, found, overdue, (Bool.not_eq_false _).mp dispatcher⟩
        · cases answered
  | patch taskId caller body =>
    rw [answer, patchTask] at answered
    cases found : tasks.lookup taskId with
    | none =>
      rw [found] at answered
      cases answered
    | some task =>
      rw [found] at answered
      dsimp only at answered
      refine ⟨task, found, ?_⟩
      split at answered
      · cases answered
      · rename_i passes
        split at answered
        · cases answered
        · rename_i sets
          split at answered
          · cases answered
          · rename_i keeps
            exact ⟨passes, (Bool.not_eq_false _).mp sets, (Bool.not_eq_false _).mp keeps⟩
  | reassign taskId caller newAssigneeId comment isActive =>
    cases caller with
    | agent holder => cases answered
    | other =>
      simp only [answer, reassignTask] at answered
      split at answered
      · cases answered
      · rename_i present
        obtain ⟨task, found⟩ := Option.ne_none_iff_exists'.mp
          (fun missing => present (Option.isNone_iff_eq_none.mpr missing))
        refine ⟨task, found, rfl, ?_⟩
        split at answered
        · cases answered
        · rename_i assigneeId named
          split at answered
          · cases answered
          · rename_i long
            split at answered
            · cases answered
            · rename_i active
              exact ⟨by rw [named]; exact Option.some_ne_none _,
                not_lt.mp long, (Bool.not_eq_false _).mp active⟩

theorem replaces_of_answer (answered : answer tasks request now = .ok after) :
    ∃ task, tasks.lookup request.taskId = some task ∧
      request.Accepts now task ∧ Table.Replaces tasks after task (request.change now task) := by
  obtain ⟨task, found, accepts⟩ := accepts_of_answer answered
  obtain ⟨other, same, replaces⟩ := answer_of_accepts found accepts
  rw [answered] at same
  cases same
  exact ⟨task, found, accepts, replaces⟩

theorem leaseEnd_later (now : Nat) (ttlMinutes : Option ℚ) :
    now + 60000 ≤ leaseEnd now ttlMinutes := by
  unfold leaseEnd
  extract_lets given wanted ttl
  have least : 1 ≤ ttl := le_min (le_max_left 1 wanted) (by decide)
  have wide : ((60000 : Int) : ℚ) ≤ ttl * 60000 := by
    push_cast
    linarith
  have whole := Rat.le_floor_iff.mpr wide
  omega

end Answers

inductive Event where
  | claimed (taskId agentId : String) (lease instant : Nat)
  | renewed (taskId agentId : String) (lease : Nat)
  | released (taskId agentId : String)
  | reviewed (taskId agentId : String)
  deriving DecidableEq

/-- What an accepted request adds to the log. -/
def Request.events (now : Nat) (task : Task) : Request → List Event
  | .claim taskId agent ttlMinutes =>
    [.claimed taskId agent.assigneeId (leaseEnd now ttlMinutes) now]
  | .renew taskId agent ttlMinutes =>
    [.renewed taskId agent.assigneeId (leaseEnd now ttlMinutes)]
  | .release taskId agent _ => [.released taskId agent.assigneeId]
  | .resetLease _ _ => []
  | .patch taskId _ body =>
    if (property "status" body).any (fun value => isText "review" value)
    then (task.claimedBy.map (fun holder =>
      Event.reviewed taskId holder)).toList
    else []
  | .reassign _ _ _ _ _ => []

structure System where
  tasks : Tasks
  clock : Nat
  log : List Event

def System.opening (tasks : Tasks) : System :=
  { tasks := tasks, clock := 0, log := [] }

structure Action where
  request : Request
  now : Nat

/-- A refused request changes nothing but the time. -/
def next (system : System) (action : Action) : Option System :=
  if action.now < system.clock then
    none
  else
    match system.tasks.lookup action.request.taskId,
        answer system.tasks action.request action.now with
    | some task, .ok tasks =>
      some
        { tasks := tasks
          clock := action.now
          log := system.log ++ action.request.events action.now task }
    | _, _ => some { system with clock := action.now }

structure Accepted (before after : System) (action : Action) (task : Task) :
    Prop where
  found : before.tasks.lookup action.request.taskId = some task
  accepts : action.request.Accepts action.now task
  replaces : Table.Replaces before.tasks after.tasks task (action.request.change action.now task)
  log : after.log = before.log ++ action.request.events action.now task

theorem next_cases {before after : System} {action : Action}
    (fires : Fires next before action after) :
    before.clock ≤ action.now ∧ after.clock = action.now ∧
      ((after = { before with clock := action.now } ∧
        ∀ task, before.tasks.lookup action.request.taskId = some task →
          ¬ action.request.Accepts action.now task) ∨
        ∃ task, Accepted before after action task) := by
  unfold Fires next at fires
  split at fires
  · cases fires
  · rename_i ordered
    cases answered : answer before.tasks action.request action.now with
    | error failure =>
      have same : after = { before with clock := action.now } := by
        rw [answered] at fires
        cases found : before.tasks.lookup action.request.taskId with
        | none | some task =>
          rw [found] at fires
          injection fires with same
          exact same.symm
      refine ⟨not_lt.mp ordered, by rw [same], Or.inl ⟨same, ?_⟩⟩
      intro task found accepts
      obtain ⟨tasks, accepted, _⟩ := answer_of_accepts found accepts
      rw [answered] at accepted
      cases accepted
    | ok tasks =>
      obtain ⟨task, found, accepts, replaces⟩ := replaces_of_answer answered
      rw [answered, found] at fires
      injection fires with same
      refine ⟨not_lt.mp ordered, by rw [← same], Or.inr ⟨task, ?_⟩⟩
      rw [← same]
      exact
        { found := found
          accepts := accepts
          replaces := replaces
          log := rfl }

def sampleTask (id : String) : Task :=
  { id := id
    status := .todo
    assigneeId := none
    claimedBy := none
    claimedAt := none
    leaseExpiresAt := none
    blockedReason := none
    sourceUrl := none
    updatedAt := 0
    completedAt := none }

def sampleTasks : Tasks :=
  (Table.empty.insert (sampleTask "first") rfl).insert (sampleTask "second") (by decide)

def sampleAgent : MissionAgent :=
  { assigneeId := "agent", isDispatcher := false }

end DcpPlatform.Missions
