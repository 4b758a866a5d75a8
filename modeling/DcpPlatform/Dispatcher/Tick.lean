import DcpPlatform.Missions.Store

/-!
# The dispatcher of mission tasks

A tick of the dispatcher fetches the tasks, plans actions, carries them out
and moves its cursor. A ledger remembers when an action was last carried out.
A task id holds no colon, so the two kinds of ledger keys do not meet.
-/

namespace DcpPlatform.Dispatcher

open Foundation
open Missions (TaskStatus)

/-! ## Rules -/

inductive Priority where
  | p0 | p1 | p2 | p3
  deriving DecidableEq

structure Row where
  id : String
  status : TaskStatus
  priority : Priority
  assigneeId : Option String
  externalId : Option String
  leaseExpiresAt : Option Nat
  updatedAt : Nat

abbrev Tasks := Table Row Row.id

def Row.updatedMs (row : Row) : Nat :=
  row.updatedAt * 1000

structure Incident where
  externalId : String
  title : String
  detail : String

inductive LedgerKey where
  | task (taskId : String)
  | assign (taskId assigneeId : String)
  deriving DecidableEq

abbrev Ledger := LedgerKey → Option Nat

def hours (count : Nat) : Nat :=
  count * 60 * 60 * 1000

def blockedEscalateHours : Nat := 24
def p0TodoEscalateHours : Nat := 4
def escalateDedupHours : Nat := 24
def digestHourDubai : Nat := 8
def dubaiUtcOffsetHours : Nat := 4
def ledgerMaxAgeHours : Nat := 48

def dubaiDate (now : Nat) : Nat :=
  (now + hours dubaiUtcOffsetHours) / hours 24

def dubaiHour (now : Nat) : Nat :=
  (now + hours dubaiUtcOffsetHours) / hours 1 % 24

def shouldDigest (now : Nat) (lastDigestDate : Option Nat) : Bool :=
  digestHourDubai ≤ dubaiHour now && lastDigestDate ≠ some (dubaiDate now)

def ledgerAllows (ledger : Ledger) (key : LedgerKey) (now maxHours : Nat) :
    Bool :=
  match ledger key with
  | none => true
  | some entry => entry + hours maxHours < now

inductive DispatchAction where
  | resetLease (taskId : String)
  | escalate (taskId reason : String)
  | notifyAssignment (taskId assigneeId : String)
  | digest
  | createRepairTask (incident : Incident)

def escalateReason (row : Row) (now : Nat) : Option String :=
  if row.status = .blocked then
    if row.updatedMs + hours blockedEscalateHours < now then
      some "blocked for more than 24h"
    else
      none
  else if row.status = .todo ∧ row.priority = .p0 then
    if row.updatedMs + hours p0TodoEscalateHours < now then
      some "p0 task in todo for more than 4h"
    else
      none
  else
    none

def planReset (row : Row) (now : Nat) : List DispatchAction :=
  if (row.status = .inProgress ∨ row.status = .blocked) ∧
    row.leaseExpiresAt.any (fun lease => lease < now) = true then
    [.resetLease row.id]
  else
    []

def planEscalation (ledger : Ledger) (row : Row) (now : Nat) :
    List DispatchAction :=
  match escalateReason row now with
  | none => []
  | some reason =>
    if ledgerAllows ledger (.task row.id) now escalateDedupHours then
      [.escalate row.id reason]
    else
      []

/-- Only when there is a cursor: the first tick notifies nobody. -/
def planNotification (ledger : Ledger) (lastCursor : Option Nat) (row : Row)
    (now : Nat) : List DispatchAction :=
  match row.assigneeId, lastCursor with
  | some assigneeId, some cursor =>
    if cursor < row.updatedMs then
      if ledgerAllows ledger (.assign row.id assigneeId) now escalateDedupHours then
        [.notifyAssignment row.id assigneeId]
      else
        []
    else
      []
  | _, _ => []

def planActions (tasks : List Row) (incidents : List Incident) (now : Nat)
    (ledger : Ledger) (lastCursor lastDigestDate : Option Nat) :
    List DispatchAction :=
  tasks.flatMap (fun row =>
    planReset row now ++ planEscalation ledger row now ++
      planNotification ledger lastCursor row now) ++
  (if shouldDigest now lastDigestDate then [.digest] else []) ++
  (incidents.filter (fun incident =>
    tasks.all (fun row => row.externalId ≠ some incident.externalId))).map
    .createRepairTask

structure DispatcherState where
  ledger : Ledger
  lastCursor : Option Nat
  lastDigestDate : Option Nat

def DispatcherState.initial : DispatcherState :=
  { ledger := fun _ => none, lastCursor := none, lastDigestDate := none }

/-- The bridge to Telegram swallows a failure; another notifier may throw. -/
inductive Delivery where
  | delivered | swallowed | thrown
  deriving DecidableEq

/-- What a tick meets: whether the tasks are fetched, the incidents of the
fleet, and what becomes of its messages. -/
structure Circumstances where
  dryRun : Bool
  fetched : Bool
  incidents : List Incident
  team : String → Delivery
  alert : String → Delivery
  digest : Delivery

def executeAction (met : Circumstances) (now : Nat)
    (state : DispatcherState) : DispatchAction → DispatcherState
  | .resetLease _ => state
  | .escalate taskId _ =>
    if met.dryRun = false ∧ met.alert taskId = .thrown then
      state
    else
      { state with
        ledger := Function.update state.ledger (.task taskId) (some now) }
  | .notifyAssignment taskId assigneeId =>
    if met.dryRun = false ∧ met.team taskId = .thrown then
      state
    else
      { state with
        ledger := Function.update state.ledger (.assign taskId assigneeId) (some now) }
  | .digest =>
    if met.dryRun = false ∧ met.digest = .thrown then
      state
    else
      { state with lastDigestDate := some (dubaiDate now) }
  | .createRepairTask _ => state

def pruneLedger (ledger : Ledger) (now : Nat) : Ledger :=
  fun key =>
    (ledger key).filter (fun entry => now ≤ entry + hours ledgerMaxAgeHours)

inductive Event where
  | assigned (taskId assigneeId : String) (instant : Nat)
  | notified (taskId assigneeId : String) (instant : Nat)
  | ticked (instant : Nat) (successful : Bool)
  deriving DecidableEq

def DispatchAction.events (met : Circumstances) (now : Nat) :
    DispatchAction → List Event
  | .notifyAssignment taskId assigneeId =>
    if met.dryRun = false ∧ met.team taskId = .delivered then
      [.notified taskId assigneeId now]
    else
      []
  | _ => []

def DispatchAction.succeeds (met : Circumstances) : DispatchAction → Bool
  | .notifyAssignment taskId _ => met.team taskId = .delivered
  | _ => true

structure System where
  tasks : Tasks
  dispatcher : DispatcherState
  log : List Event

def System.opening (tasks : Tasks) : System :=
  { tasks := tasks, dispatcher := DispatcherState.initial, log := [] }

def System.plan (system : System) (met : Circumstances) (now : Nat) :
    List DispatchAction :=
  planActions (if met.fetched then system.tasks.rows else [])
    met.incidents now system.dispatcher.ledger
    system.dispatcher.lastCursor system.dispatcher.lastDigestDate

def System.tick (system : System) (met : Circumstances) (now : Nat) :
    System :=
  let actions := system.plan met now
  let done := actions.foldl (executeAction met now) system.dispatcher
  let successful := met.fetched && !met.dryRun && actions.all (DispatchAction.succeeds met)
  { system with
    dispatcher :=
      { done with
        lastCursor := some now
        ledger := pruneLedger done.ledger now }
    log :=
      system.log ++ (actions.flatMap (DispatchAction.events met now) ++ [.ticked now successful]) }

/-- A row is written with the time of the write, in whole seconds. -/
def Row.stamped (row : Row) (now : Nat) : Row :=
  { row with updatedAt := now / 1000 }

/-- An assignee that a write puts in the place of another or of none. -/
def newAssignee (before : Option Row) (row : Row) : Option String :=
  row.assigneeId.filter (fun assigneeId =>
    before.bind Row.assigneeId ≠ some assigneeId)

inductive Action where
  | write (row : Row) (now : Nat)
  | remove (taskId : String)
  | tick (met : Circumstances) (now : Nat)

/-- The ticks follow one another in time. -/
def next (system : System) : Action → Option System
  | .write row now =>
    some { system with
      tasks := system.tasks.put (row.stamped now)
      log := system.log ++ ((newAssignee (system.tasks.lookup row.id) row).map (fun assigneeId =>
        Event.assigned row.id assigneeId now)).toList }
  | .remove taskId =>
    some { system with tasks := system.tasks.remove taskId }
  | .tick met now =>
    if system.dispatcher.lastCursor.all (fun cursor => cursor ≤ now) then
      some (system.tick met now)
    else
      none

end DcpPlatform.Dispatcher
