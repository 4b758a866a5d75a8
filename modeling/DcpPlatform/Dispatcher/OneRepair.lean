import DcpPlatform.Dispatcher.Repairs

/-!
# One repair task for an incident

No tick creates a second task for an identifier. A task that has been closed
is neither opened again nor followed by another, so the second outage of a
provider gets no task of its own.
-/

namespace DcpPlatform.Dispatcher

open Foundation Table List
open Missions (TaskStatus)

section Repair

variable {met : Circumstances} {requests : Requests} {now : Nat}
variable {tasks : Tasks} {externalId : String} {row : Row}

theorem getTaskByExternalId_eq_none (unknown : getTaskByExternalId tasks externalId = none) :
    ¬ Bears tasks externalId row := by
  rintro ⟨member, same⟩
  have other := find?_eq_none.mp unknown row member
  simp [same] at other

theorem repair_cases (met : Circumstances) (requests : Requests)
    (now : Nat) (tasks : Tasks) (action : DispatchAction) :
    repair met requests now tasks action = tasks ∨ ∃ incident, action = .createRepairTask incident ∧
      getTaskByExternalId tasks incident.externalId = none ∧
      repair met requests now tasks action = tasks.insertIfNew
        (repairTask (requests.taskId incident.externalId) incident now) := by
  cases action with
  | createRepairTask incident =>
    by_cases dry : met.dryRun = true
    · exact Or.inl (by simp [repair, dry])
    · by_cases checked : requests.check incident.externalId = .done
      · cases known : getTaskByExternalId tasks incident.externalId with
        | some task => exact Or.inl (by simp [repair, known])
        | none =>
          by_cases failed : requests.create incident.externalId = .failed
          · exact Or.inl (by simp [repair, failed, known])
          · exact Or.inr ⟨incident, rfl, known, by
              simp [repair, dry, checked, known, failed]⟩
      · exact Or.inl (by simp [repair, checked])
  | _ => exact Or.inl rfl

theorem mem_insertIfNew {other : Row} :
    row ∈ (tasks.insertIfNew other).rows → row ∈ tasks.rows ∨ row = other := by
  unfold insertIfNew
  split
  · intro member
    rcases mem_append.mp member with old | new
    · exact Or.inl old
    · exact Or.inr (mem_singleton.mp new)
  · exact Or.inl

theorem mem_insertIfNew_of_mem (other : Row) (member : row ∈ tasks.rows) :
    row ∈ (tasks.insertIfNew other).rows := by
  unfold insertIfNew
  split
  · exact mem_append_left [other] member
  · exact member

theorem Bears.repair (bears : Bears tasks externalId row) (action : DispatchAction) :
    Bears (repair met requests now tasks action) externalId row := by
  rcases repair_cases met requests now tasks action with same | ⟨_, _, _, same⟩
  · rw [same]
    exact bears
  · rw [same]
    exact ⟨mem_insertIfNew_of_mem _ bears.1, bears.2⟩

variable {action : DispatchAction}

theorem bears_repair_cases (bears : Bears (repair met requests now tasks action) externalId row) :
    Bears tasks externalId row ∨ (∀ other, ¬ Bears tasks externalId other) ∧
      ∃ incident, action = .createRepairTask incident ∧ incident.externalId = externalId ∧
        row = repairTask (requests.taskId externalId) incident
          now := by
  rcases repair_cases met requests now tasks action with same | ⟨incident, created, unknown, same⟩
  · rw [same] at bears
    exact Or.inl bears
  · rw [same] at bears
    rcases mem_insertIfNew bears.1 with old | rfl
    · exact Or.inl ⟨old, bears.2⟩
    · have own : incident.externalId = externalId := Option.some.inj bears.2
      subst own
      exact Or.inr ⟨fun other => getTaskByExternalId_eq_none unknown, incident, created, rfl, rfl⟩

theorem OneTask.repair (one : OneTask tasks externalId) (action : DispatchAction) :
    OneTask (repair met requests now tasks action) externalId := by
  intro first second firstBears secondBears
  rcases bears_repair_cases firstBears with firstOld | ⟨absent, incident, created, _, firstNew⟩
  · rcases bears_repair_cases secondBears with secondOld | ⟨absent, _⟩
    · exact one first second firstOld secondOld
    · exact absurd firstOld (absent first)
  · rcases bears_repair_cases secondBears with secondOld | ⟨_, other, alsoCreated, _, secondNew⟩
    · exact absurd secondOld (absent second)
    · rw [created] at alsoCreated
      injection alsoCreated with same
      rw [firstNew, secondNew, same]

theorem Bears.repairs (bears : Bears tasks externalId row) (actions : List DispatchAction) :
    Bears (actions.foldl (Dispatcher.repair met requests now) tasks) externalId row := by
  induction actions generalizing tasks with
  | nil => exact bears
  | cons action rest ih =>
    exact ih (bears.repair action)

theorem OneTask.repairs (one : OneTask tasks externalId) (actions : List DispatchAction) :
    OneTask (actions.foldl (Dispatcher.repair met requests now) tasks)
      externalId := by
  induction actions generalizing tasks with
  | nil => exact one
  | cons action rest ih =>
    exact ih (one.repair action)

variable {actions : List DispatchAction}

theorem bears_repairs_of_bears {known : Row} (has : Bears tasks externalId known)
    (bears : Bears (actions.foldl (Dispatcher.repair met requests now) tasks)
      externalId row) : Bears tasks externalId row := by
  induction actions generalizing tasks with
  | nil => exact bears
  | cons action rest ih =>
    rcases bears_repair_cases (ih (has.repair action) bears) with old | ⟨absent, _⟩
    · exact old
    · exact absurd has (absent known)

theorem isOpen_of_bears_repairs (unknown : ∀ other, ¬ Bears tasks externalId other)
    (bears : Bears (actions.foldl (Dispatcher.repair met requests now) tasks)
      externalId row) : row.IsOpen := by
  induction actions generalizing tasks with
  | nil => exact absurd bears (unknown row)
  | cons action rest ih =>
    by_cases known :
      ∃ other, Bears (Dispatcher.repair met requests now tasks action) externalId other
    · obtain ⟨other, has⟩ := known
      rcases bears_repair_cases (bears_repairs_of_bears has bears) with
        old | ⟨_, incident, _, _, rfl⟩
      · exact absurd old (unknown row)
      · exact ⟨TaskStatus.noConfusion, TaskStatus.noConfusion⟩
    · exact ih (fun other has => known ⟨other, has⟩) bears

variable {incident : Incident}

theorem exists_bears_repair (real : met.dryRun = false)
    (checked : requests.check incident.externalId = .done)
    (created : requests.create incident.externalId ≠ .failed)
    (unused : tasks.lookup (requests.taskId incident.externalId) = none) :
    ∃ task, Bears (Dispatcher.repair met requests now tasks
      (.createRepairTask incident)) incident.externalId task := by
  cases known : getTaskByExternalId tasks incident.externalId with
  | some task =>
    have has : Bears tasks incident.externalId task := ⟨mem_of_find?_eq_some known, by
        simpa using find?_some known⟩
    exact ⟨task, has.repair _⟩
  | none =>
    have fresh :
        tasks.lookup (repairTask (requests.taskId incident.externalId) incident now).id = none :=
      unused
    refine ⟨repairTask (requests.taskId incident.externalId) incident now, ?_, rfl⟩
    simp only [Dispatcher.repair, real, checked, known, created]
    simp [insertIfNew_of_fresh fresh]

theorem lookup_repair_eq_none (distinct : Function.Injective requests.taskId)
    (unused : tasks.lookup (requests.taskId externalId) = none)
    (unknown :
      ∀ other, ¬ Bears (Dispatcher.repair met requests now tasks action) externalId other) :
    (Dispatcher.repair met requests now tasks action).lookup
      (requests.taskId externalId) = none := by
  rcases repair_cases met requests now tasks action with same | ⟨incident, _, _, same⟩
  · rw [same]
    exact unused
  · rw [same] at unknown ⊢
    by_cases own : incident.externalId = externalId
    · subst own
      have fresh :
          tasks.lookup (repairTask (requests.taskId incident.externalId) incident now).id = none :=
        unused
      refine absurd ⟨?_, rfl⟩
        (unknown (repairTask (requests.taskId incident.externalId) incident now))
      simp [insertIfNew_of_fresh fresh]
    · unfold insertIfNew
      split
      · rename_i fresh
        rw [lookup_insert_of_ne]
        · exact unused
        · intro same
          exact own (distinct same)
      · exact unused

theorem exists_bears_repairs (real : met.dryRun = false)
    (checked : requests.check incident.externalId = .done)
    (created : requests.create incident.externalId ≠ .failed)
    (distinct : Function.Injective requests.taskId)
    (unused : tasks.lookup (requests.taskId incident.externalId) = none)
    (planned : .createRepairTask incident ∈ actions) :
    ∃ task, Bears (actions.foldl (Dispatcher.repair met requests now) tasks)
      incident.externalId task := by
  induction actions generalizing tasks with
  | nil => cases planned
  | cons action rest ih =>
    by_cases known :
      ∃ task, Bears (Dispatcher.repair met requests now tasks action) incident.externalId task
    · obtain ⟨task, has⟩ := known
      exact ⟨task, has.repairs rest⟩
    · have unknown : ∀ task,
          ¬ Bears (Dispatcher.repair met requests now tasks action) incident.externalId task :=
        fun task has => known ⟨task, has⟩
      apply ih
      · exact lookup_repair_eq_none distinct unused unknown
      · rcases mem_cons.mp planned with rfl | later
        · exact absurd (exists_bears_repair real checked created unused) known
        · exact later

end Repair

section Proceed

variable {system : System} {externalId : String} {met : Circumstances} {now : Nat}

theorem mem_plan {incident : Incident} (seen : incident ∈ met.incidents)
    (unknown : ∀ row, ¬ Bears system.tasks incident.externalId row) :
    .createRepairTask incident ∈ system.plan met now := by
  have missing : ∀ row ∈ (if met.fetched then system.tasks.rows else []),
      row.externalId ≠ some incident.externalId := by
    intro row member same
    split at member
    · exact unknown row ⟨member, same⟩
    · cases member
  apply mem_append_right
  apply mem_map_of_mem
  apply mem_filter.mpr
  refine ⟨seen, all_eq_true.mpr ?_⟩
  intro row member
  exact decide_eq_true (missing row member)

theorem tick_reports {fleet : Option Fleet} {requests : Requests}
    (reports : Reports system met fleet requests externalId)
    (unknown : ∀ row, ¬ Bears system.tasks externalId row) :
    ∃ row, Bears (system.tickRepairs met fleet requests now).tasks externalId row ∧
      row.IsOpen := by
  obtain ⟨incident, seen, rfl⟩ := reports.seen
  have listed : incident ∈ (met.seeing fleet).incidents := seen
  have real : (met.seeing fleet).dryRun = false := reports.real
  have planned : .createRepairTask incident ∈ system.plan (met.seeing fleet) now :=
    mem_plan listed unknown
  obtain ⟨row, bears⟩ := exists_bears_repairs real reports.checked reports.created
      reports.distinct (reports.unused incident.externalId) planned
  exact ⟨row, bears, isOpen_of_bears_repairs unknown bears⟩

theorem bears_update_iff {tasks : Tasks} {taskId : String} {status : TaskStatus} {later : Row} :
    Bears (tasks.update taskId (Row.setStatus status now)
      (Row.setStatus_id status now)) externalId later ↔
      ∃ row, Bears tasks externalId row ∧ later =
        if row.id = taskId then row.setStatus status now else row := by
  constructor
  · rintro ⟨member, same⟩
    obtain ⟨row, old, rfl⟩ := mem_map.mp member
    refine ⟨row, ⟨old, ?_⟩, rfl⟩
    split at same <;> exact same
  · rintro ⟨row, ⟨member, same⟩, rfl⟩
    refine ⟨mem_map.mpr ⟨row, member, rfl⟩, ?_⟩
    split <;> exact same

theorem OneTask.kept (one : OneTask system.tasks externalId) (activity : Activity) :
    OneTask (system.proceed activity).tasks externalId := by
  cases activity with
  | setStatus taskId status now =>
    intro first second firstBears secondBears
    obtain ⟨firstRow, firstOld, rfl⟩ := bears_update_iff.mp firstBears
    obtain ⟨secondRow, secondOld, rfl⟩ := bears_update_iff.mp secondBears
    rw [one firstRow secondRow firstOld secondOld]
  | tick met fleet requests now => exact one.repairs _

theorem Bears.kept {row : Row} (bears : Bears system.tasks externalId row) (activity : Activity) :
    ∃ later, Bears (system.proceed activity).tasks externalId later ∧
      later.id = row.id ∧ (activity.isTick = true → later = row) := by
  cases activity with
  | setStatus taskId status now =>
    refine ⟨_, bears_update_iff.mpr ⟨row, bears, rfl⟩, ?_, ?_⟩
    · split <;> rfl
    · intro ticks
      cases ticks
  | tick met fleet requests now =>
    exact ⟨row, bears.repairs _, rfl, fun _ => rfl⟩

end Proceed

variable {start finish : System} {activities : List Activity} {externalId : String}

theorem Bears.lasts (run : Run (Fires proceed) start activities finish) {row : Row}
    (bears : Bears start.tasks externalId row) :
    ∃ later, Bears finish.tasks externalId later ∧ later.id = row.id ∧
      ((∀ activity ∈ activities, activity.isTick = true) → later = row) := by
  induction run generalizing row with
  | nil state => exact ⟨row, bears, rfl, fun _ => rfl⟩
  | @cons source middle target activity rest fires _ ih =>
    have same : source.proceed activity = middle := Option.some.inj fires
    obtain ⟨next, nextBears, nextId, nextSame⟩ := bears.kept activity
    rw [same] at nextBears
    obtain ⟨later, laterBears, laterId, laterSame⟩ := ih nextBears
    refine ⟨later, laterBears, laterId.trans nextId, ?_⟩
    intro ticks
    rw [laterSame (fun other member =>
      ticks other (mem_cons_of_mem activity member))]
    exact nextSame (ticks activity mem_cons_self)

theorem OneTask.lasts (single : OneTask start.tasks externalId)
    (run : Run (Fires proceed) start activities finish) :
    OneTask finish.tasks externalId := by
  refine run.invariant (OneTask ·.tasks externalId) ?_ single
  intro source target activity one fires
  have same : source.proceed activity = target := Option.some.inj fires
  rw [← same]
  exact one.kept activity

theorem oneTask_empty (externalId : String) :
    OneTask Table.empty externalId := by
  intro first second bears
  cases bears.1

/-- An incident has at most one task at any time, the first outage that is
reported gets it, and it stays the only one for all later outages. -/
theorem one_repair_task {start finish : System} {activities : List Activity} {externalId : String}
    (single : OneTask start.tasks externalId)
    (run : Run (Fires proceed) start activities finish) :
    RepairedOnce finish externalId where
  oneTask := single.lasts run
  firstOutage := fun _ _ _ _ reports unknown => tick_reports reports unknown
  laterOutages := fun _ _ _ later bears => bears.lasts later

def sampleFleet : Fleet :=
  { offlineRecent := [⟨7, some "alpha", none, some 1800⟩]
    unreachable := [] }

def sampleMet : Circumstances :=
  { dryRun := false
    fetched := true
    incidents := []
    team := fun _ => .delivered
    alert := fun _ => .delivered
    digest := .delivered }

def sampleRequests (number : String) : Requests :=
  { check := fun _ => .done
    create := fun _ => .done
    taskId := fun externalId => "task_" ++ number ++ externalId }

def firstOutage : List Activity :=
  [.tick sampleMet (some sampleFleet) (sampleRequests "1") 0,
    .setStatus "task_1provider:7:offline" .done 300000,
    .tick sampleMet (some ⟨[], []⟩) (sampleRequests "2") 600000]

theorem one_repair_task_sample :
    ∃ finish, Run (Fires proceed) (System.opening Table.empty) (firstOutage.take 1) finish ∧
      (∃ row ∈ finish.tasks.rows, row.externalId = some "provider:7:offline" ∧ row.IsOpen) ∧
        RepairedOnce finish "provider:7:offline" := by
  refine exists_run (fun finish =>
    ∃ row ∈ finish.tasks.rows, row.externalId = some "provider:7:offline" ∧ row.IsOpen)
    (by decide +kernel) ?_
  intro finish run row
  exact ⟨row, one_repair_task (oneTask_empty _) run⟩

/-- Whatever its ticks meet, a second outage of a provider gets no task of
its own and the closed task of the first is not opened again. -/
theorem second_outage_unrepaired :
    ∃ closed, Run (Fires proceed) (System.opening Table.empty) firstOutage closed ∧
      (∃ row ∈ closed.tasks.rows, row.externalId = some "provider:7:offline" ∧ row.status = .done) ∧
        ∀ ticks later row, (∀ activity ∈ ticks, activity.isTick = true) →
          Run (Fires proceed) closed ticks later → row ∈ later.tasks.rows →
          row.externalId = some "provider:7:offline" → ¬ row.IsOpen := by
  refine exists_run (fun closed =>
    ∃ row ∈ closed.tasks.rows, row.externalId = some "provider:7:offline" ∧ row.status = .done)
    (by decide +kernel) ?_
  rintro closed run ⟨task, member, own, done⟩
  refine ⟨⟨task, member, own, done⟩, ?_⟩
  intro ticks later row isTick further stored same isOpen
  have single : OneTask later.tasks "provider:7:offline" :=
    (oneTask_empty _).lasts (run.append further)
  obtain ⟨still, stillBears, _, unchanged⟩ := Bears.lasts further ⟨member, own⟩
  rw [single row still ⟨stored, same⟩ stillBears, unchanged isTick] at isOpen
  exact isOpen.1 done

end DcpPlatform.Dispatcher
