import Mathlib.Algebra.Order.Ring.Unbundled.Rat
import DcpPlatform.Batches.Contract
import DcpPlatform.Foundation.Table
import DcpPlatform.Foundation.Transition

/-!
# Mission tasks and their leases

An agent claims a task for a limited time, renews and releases the claim, and
patches the task while it holds it. Callers who are no agents may patch and
reassign any task. Every write is one guarded statement.
-/

namespace DcpPlatform.Missions

open Foundation
open Batches (Json)

inductive TaskStatus where
  | todo | inProgress | blocked | review | done | cancelled
  deriving DecidableEq

def TaskStatus.ofText : String → Option TaskStatus
  | "todo" => some .todo
  | "in_progress" => some .inProgress
  | "blocked" => some .blocked
  | "review" => some .review
  | "done" => some .done
  | "cancelled" => some .cancelled
  | _ => none

def TaskStatus.isHeld : TaskStatus → Bool
  | .inProgress => true
  | .blocked => true
  | _ => false

structure Task where
  id : String
  status : TaskStatus
  assigneeId : Option String
  claimedBy : Option String
  claimedAt : Option Nat
  leaseExpiresAt : Option Nat
  blockedReason : Option String
  sourceUrl : Option String
  updatedAt : Nat
  completedAt : Option Nat

abbrev Tasks := Table Task Task.id

structure MissionError where
  httpStatus : Nat
  error : String
  detail : Option String

def failWith (httpStatus : Nat) (error : String) : MissionError :=
  { httpStatus := httpStatus, error := error, detail := none }

/-! ## Leases -/

def defaultTtlMinutes : ℚ := 240

def maxTtlMinutes : ℚ := 1440

/-- Nothing and zero stand for the default. -/
def leaseEnd (now : Nat) (ttlMinutes : Option ℚ) : Nat :=
  let given := ttlMinutes.getD 0
  let wanted := if given = 0 then defaultTtlMinutes else given
  let ttl := min (max 1 wanted) maxTtlMinutes
  now + (ttl * 60000).floor.toNat

def Task.isExpired (now : Nat) (task : Task) : Bool :=
  task.leaseExpiresAt.any (fun lease => lease < now)

def Task.isClaimable (agentId : String) (now : Nat) (task : Task) : Prop :=
  (task.status = .todo ∧ (task.assigneeId = none ∨ task.assigneeId = some agentId)) ∨
    (task.status.isHeld = true ∧ task.isExpired now = true)

instance (agentId : String) (now : Nat) (task : Task) :
    Decidable (task.isClaimable agentId now) :=
  inferInstanceAs (Decidable (_ ∨ _))

def Task.claim (agentId : String) (lease now : Nat) (task : Task) : Task :=
  { task with
    status := .inProgress
    claimedBy := some agentId
    claimedAt := some now
    assigneeId := some agentId
    leaseExpiresAt := some lease
    updatedAt := now / 1000 }

@[simp]
theorem Task.claim_id (agentId : String) (lease now : Nat) (task : Task) :
    (task.claim agentId lease now).id = task.id :=
  rfl

def claimTask (tasks : Tasks) (taskId agentId : String)
    (ttlMinutes : Option ℚ) (now : Nat) : Except MissionError Tasks :=
  if tasks.changes taskId (Task.isClaimable agentId now) then
    .ok (tasks.updateWhere taskId (Task.isClaimable agentId now)
      (Task.claim agentId (leaseEnd now ttlMinutes) now)
      (Task.claim_id agentId (leaseEnd now ttlMinutes) now))
  else if (tasks.lookup taskId).isSome then
    .error (failWith 409 "claimed")
  else
    .error (failWith 404 "not_found")

def Task.isHeldBy (agentId : String) (task : Task) : Prop :=
  task.claimedBy = some agentId ∧ task.status.isHeld = true

instance (agentId : String) (task : Task) :
    Decidable (task.isHeldBy agentId) :=
  inferInstanceAs (Decidable (_ ∧ _))

def Task.renew (lease now : Nat) (task : Task) : Task :=
  { task with leaseExpiresAt := some lease, updatedAt := now / 1000 }

@[simp]
theorem Task.renew_id (lease now : Nat) (task : Task) :
    (task.renew lease now).id = task.id :=
  rfl

def renewLease (tasks : Tasks) (taskId agentId : String)
    (ttlMinutes : Option ℚ) (now : Nat) : Except MissionError Tasks :=
  if tasks.changes taskId (Task.isHeldBy agentId) then
    .ok (tasks.updateWhere taskId (Task.isHeldBy agentId) (Task.renew (leaseEnd now ttlMinutes) now)
      (Task.renew_id (leaseEnd now ttlMinutes) now))
  else
    .error (failWith 409 "not_holder")

def Task.vacate (now : Nat) (task : Task) : Task :=
  { task with
    status := .todo
    claimedBy := none
    claimedAt := none
    leaseExpiresAt := none
    assigneeId := none
    updatedAt := now / 1000 }

@[simp]
theorem Task.vacate_id (now : Nat) (task : Task) :
    (task.vacate now).id = task.id :=
  rfl

def clean (value : Json) (limit : Nat) : Option String :=
  match value with
  | .null => none
  | value =>
    if trim value.print = "" then none
    else some (clip limit (trim value.print))

def releaseTask (tasks : Tasks) (taskId agentId : String) (reason : Json)
    (now : Nat) : Except MissionError Tasks :=
  if clean reason 1000 = none then
    .error (failWith 400 "reason required")
  else if tasks.changes taskId (Task.isHeldBy agentId) then
    .ok (tasks.updateWhere taskId (Task.isHeldBy agentId) (Task.vacate now) (Task.vacate_id now))
  else
    .error (failWith 409 "not_holder")

structure MissionAgent where
  assigneeId : String
  isDispatcher : Bool

/-- The `WHERE` clause of a reset. -/
def Task.isOverdue (now : Nat) (task : Task) : Prop :=
  task.status.isHeld = true ∧ task.isExpired now = true

instance (now : Nat) (task : Task) : Decidable (task.isOverdue now) :=
  inferInstanceAs (Decidable (_ ∧ _))

def resetLease (tasks : Tasks) (taskId : String) (agent : MissionAgent)
    (now : Nat) : Except MissionError Tasks :=
  if agent.isDispatcher = false then
    .error (failWith 403 "dispatcher_only")
  else if (tasks.lookup taskId).isNone then
    .error (failWith 404 "not_found")
  else if tasks.changes taskId (Task.isOverdue now) then
    .ok (tasks.updateWhere taskId (Task.isOverdue now) (Task.vacate now) (Task.vacate_id now))
  else
    .error (failWith 409 "lease_not_expired")

/-! ## Patches -/

/-- A key that is missing is told apart from one that is `null`. -/
def property (name : String) : Json → Option Json
  | .object fields =>
    (fields.find? (fun entry => entry.1 = name)).map Prod.snd
  | _ => none

def keys : Json → List String
  | .object fields => fields.map Prod.fst
  | _ => []

def isText (text : String) : Json → Bool
  | .text value => value = text
  | _ => false

def statusOf : Json → Option TaskStatus
  | .text value => TaskStatus.ofText value
  | _ => none

def agentPatchFields : List String :=
  ["status", "blocked_reason", "source_url"]

def agentStatusTargets : List String :=
  ["in_progress", "blocked", "review"]

def patchRefusal (agent : MissionAgent) (task : Task) (body : Json) :
    Option String :=
  if task.claimedBy ≠ some agent.assigneeId then
    some "not the claim holder"
  else
    match (keys body).find? (fun field => field ∉ agentPatchFields) with
    | some field => some ("field not allowed: " ++ field)
    | none =>
      match property "status" body with
      | none => none
      | some status =>
        if agentStatusTargets.any (fun target => isText target status)
        then none
        else some ("status not allowed: " ++ status.print)

/-- Who calls: an agent, or an administrator, a shared key and others whom
the policy lets pass. -/
inductive Caller where
  | agent (agent : MissionAgent)
  | other

def Caller.refusal (caller : Caller) (task : Task) (body : Json) :
    Option String :=
  match caller with
  | .agent holder => patchRefusal holder task body
  | .other => none

def patchFields : List String :=
  ["title", "description", "status", "priority", "assignee_id",
    "milestone_id", "goal_id", "due_date", "blocked_reason", "source_url"]

def taskTiers : List String :=
  ["low", "standard", "critical"]

def taskPriorities : List String :=
  ["p0", "p1", "p2", "p3"]

def setsFields (body : Json) : Bool :=
  patchFields.any (fun name => (property name body).isSome) ||
    (property "tier" body).any (fun tier =>
      taskTiers.any (fun known => isText known tier))

/-- No field that must not be `NULL` is set to it. -/
def keepsRequired (body : Json) : Bool :=
  (property "title" body).all (fun title => (clean title 300).isSome) &&
    (property "status" body).all (fun status => (statusOf status).isSome) &&
    (property "priority" body).all (fun priority =>
      taskPriorities.any (fun known => isText known priority))

def patchedStatus (body : Json) (task : Task) : TaskStatus :=
  ((property "status" body).bind statusOf).getD task.status

def patchedText (name : String) (limit : Nat) (body : Json)
    (stored : Option String) : Option String :=
  match property name body with
  | some value => clean value limit
  | none => stored

/-- A move to review ends the claim; the stamp of completion follows
`done`. -/
def Task.patch (body : Json) (now : Nat) (task : Task) : Task :=
  let status := patchedStatus body task
  let handsOff := (property "status" body).any (fun value => isText "review" value)
  { task with
    status := status
    assigneeId := patchedText "assignee_id" 100 body task.assigneeId
    claimedBy := if handsOff then none else task.claimedBy
    claimedAt := if handsOff then none else task.claimedAt
    leaseExpiresAt := if handsOff then none else task.leaseExpiresAt
    blockedReason := patchedText "blocked_reason" 1000 body task.blockedReason
    sourceUrl := patchedText "source_url" 500 body task.sourceUrl
    updatedAt := now / 1000
    completedAt :=
      if status = .done ∧ task.status ≠ .done then some (now / 1000)
      else if task.status = .done ∧ status ≠ .done then none
      else task.completedAt }

@[simp]
theorem Task.patch_id (body : Json) (now : Nat) (task : Task) :
    (task.patch body now).id = task.id :=
  rfl

def patchTask (tasks : Tasks) (taskId : String) (caller : Caller)
    (body : Json) (now : Nat) : Except MissionError Tasks :=
  match tasks.lookup taskId with
  | none => .error (failWith 404 "not found")
  | some existing =>
    match caller.refusal existing body with
    | some reason =>
      .error
        { httpStatus := 403
          error := "agent_scope_forbidden"
          detail := some reason }
    | none =>
      if setsFields body = false then
        .error (failWith 400 "no updatable fields provided")
      else if keepsRequired body = false then
        .error (failWith 500 "update_failed")
      else
        .ok (tasks.update taskId (Task.patch body now) (Task.patch_id body now))

def Task.reassign (assigneeId : String) (now : Nat) (task : Task) : Task :=
  if task.status = .done ∨ task.status = .cancelled then
    { task with
      assigneeId := some assigneeId
      status := .todo
      completedAt := none
      updatedAt := now / 1000 }
  else
    { task with assigneeId := some assigneeId, updatedAt := now / 1000 }

@[simp]
theorem Task.reassign_id (assigneeId : String) (now : Nat) (task : Task) :
    (task.reassign assigneeId now).id = task.id := by
  rw [Task.reassign]
  split <;> rfl

/-- `POST /tasks/:id/reassign`; `isActive` tells whether the assignee is
registered and active. -/
def reassignTask (tasks : Tasks) (taskId : String) (caller : Caller)
    (newAssigneeId comment : Json) (isActive : Bool) (now : Nat) :
    Except MissionError Tasks :=
  match caller with
  | .agent _ =>
    .error
      { httpStatus := 403
        error := "agent_scope_forbidden"
        detail := some "action not allowed for agents: reassign_task" }
  | .other =>
    if (tasks.lookup taskId).isNone then
      .error (failWith 404 "task not found")
    else
      match clean newAssigneeId 100 with
      | none => .error (failWith 400 "new_assignee_id required")
      | some assigneeId =>
        if utf16Length ((clean comment 8000).getD "") < 8 then
          .error (failWith 400 "comment required (min 8 chars)")
        else if isActive = false then
          .error (failWith 400 "assignee not found or inactive")
        else
          .ok (tasks.update taskId (Task.reassign assigneeId now) (Task.reassign_id assigneeId now))

inductive Request where
  | claim (taskId : String) (agent : MissionAgent) (ttlMinutes : Option ℚ)
  | renew (taskId : String) (agent : MissionAgent) (ttlMinutes : Option ℚ)
  | release (taskId : String) (agent : MissionAgent) (reason : Json)
  | resetLease (taskId : String) (agent : MissionAgent)
  | patch (taskId : String) (caller : Caller) (body : Json)
  | reassign (taskId : String) (caller : Caller) (newAssigneeId comment : Json) (isActive : Bool)

def answer (tasks : Tasks) (request : Request) (now : Nat) :
    Except MissionError Tasks :=
  match request with
  | .claim taskId agent ttlMinutes =>
    claimTask tasks taskId agent.assigneeId ttlMinutes now
  | .renew taskId agent ttlMinutes =>
    renewLease tasks taskId agent.assigneeId ttlMinutes now
  | .release taskId agent reason =>
    releaseTask tasks taskId agent.assigneeId reason now
  | .resetLease taskId agent => resetLease tasks taskId agent now
  | .patch taskId caller body => patchTask tasks taskId caller body now
  | .reassign taskId caller newAssigneeId comment isActive =>
    reassignTask tasks taskId caller newAssigneeId comment isActive now

end DcpPlatform.Missions
