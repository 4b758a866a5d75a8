import DcpPlatform.Foundation.Calls
import DcpPlatform.Foundation.Money
import DcpPlatform.Dispatcher.Tick

/-!
# Repair tasks for provider outages

A tick plans a repair task for every incident whose identifier no fetched task
has, and asks once more before it creates the task. A task blocks its
identifier in every status. The ticks of a dispatcher do not overlap.
-/

namespace DcpPlatform.Dispatcher

open Foundation
open Missions (TaskStatus)

/-! ## Incidents -/

structure FleetProvider where
  id : Nat
  name : Option String
  lastHeartbeat : Option String
  lastHeartbeatAgeSeconds : Option Nat

structure Fleet where
  offlineRecent : List FleetProvider
  unreachable : List FleetProvider

def offlineIncidentThresholdSeconds : Nat := 15 * 60

def orElse (text : Option String) (other : String) : String :=
  (text.filter (fun given => given ≠ "")).getD other

namespace FleetProvider

variable (provider : FleetProvider)

def displayName : String :=
  orElse provider.name (toString provider.id)

def ageMinutes (missing : String) : String :=
  match provider.lastHeartbeatAgeSeconds with
  | none => missing
  | some age => toString (mathRound ((age : ℚ) / 60)) ++ "m"

def offlineId : String :=
  "provider:" ++ toString provider.id ++ ":offline"

def unreachableId : String :=
  "provider:" ++ toString provider.id ++ ":unreachable"

def isDown : Bool :=
  provider.lastHeartbeatAgeSeconds.all (fun age =>
    offlineIncidentThresholdSeconds ≤ age)

def offlineIncident : Incident :=
  { externalId := provider.offlineId
    title := "Provider offline: " ++ provider.displayName
    detail := "Provider " ++ provider.displayName ++ " (id=" ++
      toString provider.id ++ ") has been offline for " ++
        provider.ageMinutes "Infinitym" ++ ". Last heartbeat: " ++
          orElse provider.lastHeartbeat "never" ++ "." }

def unreachableIncident : Incident :=
  { externalId := provider.unreachableId
    title := "Provider unreachable: " ++ provider.displayName
    detail := "Provider " ++ provider.displayName ++ " (id=" ++
      toString provider.id ++ ") is unreachable from the VPS. " ++
        "WG tunnel or endpoint may be down. Last heartbeat age: " ++
          provider.ageMinutes "unknown" ++ "." }

end FleetProvider

def deriveIncidents (fleet : Fleet) : List Incident :=
  (fleet.offlineRecent.filter FleetProvider.isDown).map FleetProvider.offlineIncident ++
    fleet.unreachable.map FleetProvider.unreachableIncident

/-- Only whether there is such a task matters, not the order of the
answer. -/
def getTaskByExternalId (tasks : Tasks) (externalId : String) :
    Option Row :=
  tasks.rows.find? (fun row => row.externalId = some externalId)

def repairTask (taskId : String) (incident : Incident) (now : Nat) : Row :=
  { id := taskId
    status := .todo
    priority := .p1
    assigneeId := none
    externalId := some incident.externalId
    leaseExpiresAt := none
    updatedAt := now / 1000 }

structure Requests where
  check : String → Reply
  create : String → Reply
  taskId : String → String

def repair (met : Circumstances) (requests : Requests) (now : Nat)
    (tasks : Tasks) : DispatchAction → Tasks
  | .createRepairTask incident =>
    if met.dryRun then
      tasks
    else if requests.check incident.externalId ≠ .done then
      tasks
    else
      match getTaskByExternalId tasks incident.externalId with
      | some _ => tasks
      | none =>
        if requests.create incident.externalId = .failed then
          tasks
        else
          tasks.insertIfNew (repairTask (requests.taskId incident.externalId) incident now)
  | _ => tasks

def Circumstances.seeing (met : Circumstances) (fleet : Option Fleet) :
    Circumstances :=
  { met with incidents := (fleet.map deriveIncidents).getD [] }

def System.tickRepairs (system : System) (met : Circumstances)
    (fleet : Option Fleet) (requests : Requests) (now : Nat) : System :=
  { system.tick (met.seeing fleet) now with
    tasks := (system.plan (met.seeing fleet) now).foldl
      (repair (met.seeing fleet) requests now) system.tasks }

def Row.setStatus (status : TaskStatus) (now : Nat) (row : Row) : Row :=
  { row with status := status, updatedAt := now / 1000 }

@[simp]
theorem Row.setStatus_id (status : TaskStatus) (now : Nat) (row : Row) :
    (row.setStatus status now).id = row.id :=
  rfl

/-- Operators finish, cancel and reopen tasks between the ticks. -/
inductive Activity where
  | setStatus (taskId : String) (status : TaskStatus) (now : Nat)
  | tick (met : Circumstances) (fleet : Option Fleet) (requests : Requests) (now : Nat)

def Activity.isTick : Activity → Bool
  | .setStatus _ _ _ => false
  | .tick _ _ _ _ => true

def System.proceed (system : System) : Activity → System
  | .setStatus taskId status now =>
    { system with
      tasks := system.tasks.update taskId (Row.setStatus status now) (Row.setStatus_id status now) }
  | .tick met fleet requests now =>
    system.tickRepairs met fleet requests now

def proceed (system : System) (activity : Activity) : Option System :=
  some (system.proceed activity)

def Row.IsOpen (row : Row) : Prop :=
  row.status ≠ .done ∧ row.status ≠ .cancelled
deriving Decidable

def Bears (tasks : Tasks) (externalId : String) (row : Row) : Prop :=
  row ∈ tasks.rows ∧ row.externalId = some externalId

def OneTask (tasks : Tasks) (externalId : String) : Prop :=
  ∀ first second, Bears tasks externalId first → Bears tasks externalId second →
    first = second

structure Reports (system : System) (met : Circumstances)
    (fleet : Option Fleet) (requests : Requests) (externalId : String) :
    Prop where
  real : met.dryRun = false
  seen : ∃ incident ∈ (fleet.map deriveIncidents).getD [], incident.externalId = externalId
  checked : requests.check externalId = .done
  created : requests.create externalId ≠ .failed
  distinct : Function.Injective requests.taskId
  unused : ∀ other, system.tasks.lookup (requests.taskId other) = none

/-- The first outage of an incident gets a task; while it exists, open or
closed, no tick touches it or adds another. -/
structure RepairedOnce (system : System) (externalId : String) : Prop where
  oneTask : OneTask system.tasks externalId
  firstOutage : ∀ met fleet requests now, Reports system met fleet requests externalId →
    (∀ row, ¬ Bears system.tasks externalId row) →
      ∃ row, Bears (system.tickRepairs met fleet requests now).tasks externalId row ∧ row.IsOpen
  laterOutages : ∀ activities later row, Run (Fires proceed) system activities later →
    Bears system.tasks externalId row → ∃ still,
      Bears later.tasks externalId still ∧ still.id = row.id ∧
        ((∀ activity ∈ activities, activity.isTick = true) → still = row)

end DcpPlatform.Dispatcher
