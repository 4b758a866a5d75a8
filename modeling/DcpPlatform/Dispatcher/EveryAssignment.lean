import DcpPlatform.Dispatcher.Tick

/-!
# Every assignment is notified

An assignment waits while no message for it and no successful tick follows it.
The cursor moves also with a tick that fails, and the stored time loses its
fraction of a second, so an assignment may wait in vain.
-/

namespace DcpPlatform.Dispatcher

open Foundation List

def Event.isTick : Event → Bool
  | .ticked _ _ => true
  | _ => false

def Event.isSuccess : Event → Bool
  | .ticked _ successful => successful
  | _ => false

def Event.notifies (taskId assigneeId : String) : Event → Bool
  | .notified id assignee _ => id = taskId && assignee = assigneeId
  | _ => false

def AssignmentsNotified (log : List Event) : Prop :=
  ∀ before taskId assigneeId instant after,
    log = before ++ .assigned taskId assigneeId instant :: after →
      (∃ event ∈ before, event.isTick = true) → (∃ event ∈ after, event.isSuccess = true) →
        ∃ event ∈ after, event.notifies taskId assigneeId = true

def SpacedApart (first second : Event) : Prop :=
  ∀ taskId assigneeId earlier later,
    first = .notified taskId assigneeId earlier →
      second = .notified taskId assigneeId later → earlier + hours escalateDedupHours < later

def NotTwice (log : List Event) : Prop :=
  log.Pairwise SpacedApart

def Waits (log : List Event) (taskId assigneeId : String) : Prop :=
  ∃ before instant after, log = before ++ .assigned taskId assigneeId instant :: after ∧
    (∃ event ∈ before, event.isTick = true) ∧
    ∀ event ∈ after, event.isSuccess = false ∧ event.notifies taskId assigneeId = false

def Due (system : System) (now : Nat) (taskId assigneeId : String) : Prop :=
  ∃ row cursor, system.tasks.lookup taskId = some row ∧ row.assigneeId = some assigneeId ∧
    system.dispatcher.lastCursor = some cursor ∧
    cursor < row.updatedMs ∧
    ledgerAllows system.dispatcher.ledger (.assign taskId assigneeId) now escalateDedupHours = true

def System.Succeeds (system : System) (met : Circumstances) (now : Nat) :
    Prop :=
  met.fetched = true ∧ met.dryRun = false ∧
    ∀ action ∈ system.plan met now, action.succeeds met = true

def Allowed (system : System) : Action → Prop
  | .write _ _ => True
  | .remove _ => True
  | .tick met now =>
    system.Succeeds met now →
      ∀ taskId assigneeId, Waits system.log taskId assigneeId → Due system now taskId assigneeId

section Tick

variable {system : System} {met : Circumstances} {now : Nat}
    {taskId assigneeId : String} {ledger : Ledger} {row : Row}

theorem mem_planNotification_iff {lastCursor : Option Nat} :
    DispatchAction.notifyAssignment taskId assigneeId ∈ planNotification ledger lastCursor row now ↔
      row.id = taskId ∧ row.assigneeId = some assigneeId ∧
        ∃ cursor, lastCursor = some cursor ∧ cursor < row.updatedMs ∧
          ledgerAllows ledger (.assign taskId assigneeId) now escalateDedupHours = true := by
  unfold planNotification
  cases assigned : row.assigneeId with
  | none => simp
  | some assignee =>
    cases lastCursor with
    | none => simp
    | some cursor =>
      by_cases recent : cursor < row.updatedMs
      · by_cases allowed : ledgerAllows ledger
          (.assign row.id assignee) now escalateDedupHours = true
        · simp only [if_pos recent, if_pos allowed, mem_singleton,
            DispatchAction.notifyAssignment.injEq, Option.some.injEq]
          constructor
          · rintro ⟨rfl, rfl⟩
            exact ⟨rfl, rfl, cursor, rfl, recent, allowed⟩
          · rintro ⟨rfl, rfl, _⟩
            exact ⟨rfl, rfl⟩
        · simp only [if_pos recent, if_neg allowed, not_mem_nil, false_iff]
          rintro ⟨rfl, same, _, _, _, again⟩
          cases same
          exact allowed again
      · simp only [if_neg recent, not_mem_nil, false_iff]
        rintro ⟨_, _, other, same, later, _⟩
        cases same
        exact recent later

theorem not_mem_planReset :
    DispatchAction.notifyAssignment taskId assigneeId ∉ planReset row now := by
  rw [planReset]
  split <;> simp

theorem not_mem_planEscalation :
    DispatchAction.notifyAssignment taskId assigneeId ∉ planEscalation ledger row now := by
  rw [planEscalation]
  split
  · simp
  · split <;> simp

theorem mem_plan_iff :
    DispatchAction.notifyAssignment taskId assigneeId ∈ system.plan met now ↔
      met.fetched = true ∧ Due system now taskId assigneeId := by
  have noDigest : DispatchAction.notifyAssignment taskId assigneeId ∉
      (if shouldDigest now system.dispatcher.lastDigestDate
        then [DispatchAction.digest] else []) := by
    split <;> simp
  cases fetched : met.fetched with
  | false =>
    simp only [System.plan, fetched, planActions, mem_append,
      mem_map, reduceCtorEq, and_false, exists_false, or_false,
      Bool.false_eq_true, if_false, flatMap_nil, not_mem_nil,
      false_or, false_and, iff_false]
    exact noDigest
  | true =>
    simp only [System.plan, fetched, planActions, mem_append,
      mem_flatMap, mem_map, reduceCtorEq, and_false,
      exists_false, or_false, noDigest, not_mem_planReset,
      not_mem_planEscalation, mem_planNotification_iff, false_or,
      if_true, true_and]
    constructor
    · rintro ⟨row, member, same, assigned, cursor, at_, later, allowed⟩
      have found := Table.lookup_of_mem member
      rw [same] at found
      exact ⟨row, cursor, found, assigned, at_, later, allowed⟩
    · rintro ⟨row, cursor, found, assigned, at_, later, allowed⟩
      exact ⟨row, Table.lookup_mem found, Table.lookup_key found,
        assigned, cursor, at_, later, allowed⟩

variable {event : Event}

theorem mem_events_iff {action : DispatchAction} :
    event ∈ action.events met now ↔ ∃ taskId assigneeId,
      action = .notifyAssignment taskId assigneeId ∧ event = .notified taskId assigneeId now ∧
        met.dryRun = false ∧ met.team taskId = .delivered := by
  cases action with
  | notifyAssignment id assignee =>
    rw [DispatchAction.events]
    split
    · rename_i sent
      simp only [mem_singleton, DispatchAction.notifyAssignment.injEq]
      constructor
      · intro same
        exact ⟨id, assignee, ⟨rfl, rfl⟩, same, sent⟩
      · rintro ⟨_, _, ⟨rfl, rfl⟩, same, _⟩
        exact same
    · rename_i unsent
      simp only [not_mem_nil, DispatchAction.notifyAssignment.injEq, false_iff]
      rintro ⟨_, _, ⟨rfl, rfl⟩, _, sent⟩
      exact unsent sent
  | _ => simp [DispatchAction.events]

def System.messages (system : System) (met : Circumstances) (now : Nat) :
    List Event :=
  (system.plan met now).flatMap (DispatchAction.events met now)

theorem mem_messages_iff :
    event ∈ system.messages met now ↔ ∃ taskId assigneeId, event = .notified taskId assigneeId now ∧
      met.fetched = true ∧ met.dryRun = false ∧
      met.team taskId = .delivered ∧
      Due system now taskId assigneeId := by
  simp only [System.messages, mem_flatMap, mem_events_iff]
  constructor
  · rintro ⟨_, planned, taskId, assigneeId, rfl, same, live, sent⟩
    obtain ⟨fetched, due⟩ := mem_plan_iff.mp planned
    exact ⟨taskId, assigneeId, same, fetched, live, sent, due⟩
  · rintro ⟨taskId, assigneeId, same, fetched, live, sent, due⟩
    exact ⟨_, mem_plan_iff.mpr ⟨fetched, due⟩, taskId, assigneeId, rfl, same, live, sent⟩

theorem tick_log (system : System) (met : Circumstances) (now : Nat) :
    ∃ successful, (successful = true ↔ system.Succeeds met now) ∧ (system.tick met now).log =
      system.log ++ (system.messages met now ++ [.ticked now successful]) := by
  refine ⟨_, ?_, rfl⟩
  simp only [System.Succeeds, Bool.and_eq_true, Bool.not_eq_true', all_eq_true, and_assoc]

end Tick

section Assignments

variable {log tail : List Event} {taskId assigneeId : String}

theorem split_of_append {before after : List Event} {event : Event}
    (split : log ++ tail = before ++ event :: after) (absent : event ∉ tail) :
    ∃ rest, log = before ++ event :: rest ∧ after = rest ++ tail := by
  rcases append_eq_append_iff.mp split with ⟨middle, _, whole⟩ | ⟨middle, whole, remaining⟩
  · exact absurd (by simp [whole]) absent
  · cases middle with
    | nil =>
      have member : event ∈ tail := by
        rw [← nil_append tail, ← remaining]
        exact mem_cons_self
      exact absurd member absent
    | cons first rest =>
      rw [cons_append] at remaining
      injection remaining with same remaining
      rw [← same] at whole
      exact ⟨rest, whole, remaining⟩

theorem AssignmentsNotified.append_assigned (notified : AssignmentsNotified log) (instant : Nat) :
    AssignmentsNotified (log ++ [.assigned taskId assigneeId instant]) := by
  intro before id assignee at_ after split ticked successful
  rcases eq_nil_or_concat after with empty | ⟨rest, last, same⟩
  · rw [empty] at successful
    obtain ⟨event, ⟨⟩, _⟩ := successful
  · rw [same, concat_eq_append, ← cons_append, ← append_assoc] at split
    obtain ⟨whole, equal⟩ := append_inj' split rfl
    injection equal with equal
    rw [same, concat_eq_append] at successful ⊢
    have earlier : ∃ event ∈ rest, event.isSuccess = true := by
      obtain ⟨event, member, succeeds⟩ := successful
      rcases mem_append.mp member with inRest | inLast
      · exact ⟨event, inRest, succeeds⟩
      · rw [mem_singleton.mp inLast, ← equal] at succeeds
        cases succeeds
    obtain ⟨event, member, notifies⟩ := notified before id assignee at_ rest whole ticked earlier
    exact ⟨event, mem_append_left _ member, notifies⟩

theorem assignmentsNotified_append_iff {messages : List Event}
    {now : Nat} {successful : Bool} (notified : AssignmentsNotified log)
    (only : ∀ event ∈ messages, ∃ taskId assigneeId, event = .notified taskId assigneeId now) :
    AssignmentsNotified (log ++ (messages ++ [.ticked now successful])) ↔
      (successful = true → ∀ taskId assigneeId, Waits log taskId assigneeId →
        Event.notified taskId assigneeId now ∈ messages) := by
  have absent : ∀ id assignee instant,
      Event.assigned id assignee instant ∉ messages ++ [.ticked now successful] := by
    intro id assignee instant member
    rcases mem_append.mp member with inMessages | last
    · obtain ⟨_, _, ⟨⟩⟩ := only _ inMessages
    · cases mem_singleton.mp last
  constructor
  · rintro kept success id assignee ⟨before, instant, after, split, ticked, waiting⟩
    obtain ⟨event, member, notifies⟩ := kept before id assignee instant
        (after ++ (messages ++ [.ticked now successful]))
        (by rw [split, append_assoc, cons_append]) ticked
        ⟨.ticked now successful, by simp, success⟩
    rcases mem_append.mp member with early | late
    · rw [(waiting event early).2] at notifies
      cases notifies
    · rcases mem_append.mp late with inMessages | last
      · obtain ⟨other, holder, same⟩ := only event inMessages
        rw [same] at inMessages notifies
        simp only [Event.notifies, Bool.and_eq_true, decide_eq_true_eq] at notifies
        rw [notifies.1, notifies.2] at inMessages
        exact inMessages
      · rw [mem_singleton.mp last] at notifies
        cases notifies
  · intro reaches before id assignee instant after split ticked success
    obtain ⟨rest, whole, same⟩ := split_of_append split (absent id assignee instant)
    rw [same] at success ⊢
    by_cases early : ∃ event ∈ rest, event.isSuccess = true
    · obtain ⟨event, member, notifies⟩ :=
        notified before id assignee instant rest whole ticked early
      exact ⟨event, mem_append_left _ member, notifies⟩
    · by_cases sent : ∃ event ∈ rest, event.notifies id assignee = true
      · obtain ⟨event, member, notifies⟩ := sent
        exact ⟨event, mem_append_left _ member, notifies⟩
      · have waits : Waits log id assignee := by
          refine ⟨before, instant, rest, whole, ticked, ?_⟩
          intro event member
          constructor
          · by_contra succeeds
            exact early ⟨event, member, (Bool.not_eq_false _).mp succeeds⟩
          · by_contra notifies
            exact sent ⟨event, member, (Bool.not_eq_false _).mp notifies⟩
        have done : successful = true := by
          obtain ⟨event, member, succeeds⟩ := success
          rcases mem_append.mp member with inRest | late
          · exact absurd ⟨event, inRest, succeeds⟩ early
          · rcases mem_append.mp late with inMessages | last
            · obtain ⟨_, _, equal⟩ := only event inMessages
              rw [equal] at succeeds
              cases succeeds
            · rw [mem_singleton.mp last] at succeeds
              exact succeeds
        refine ⟨_, mem_append_right _ (mem_append_left _ (reaches done id assignee waits)), ?_⟩
        simp [Event.notifies]

end Assignments

structure Remembers (system : System) : Prop where
  spaced : NotTwice system.log
  recent : ∀ taskId assigneeId instant, .notified taskId assigneeId instant ∈ system.log →
    ∃ cursor, system.dispatcher.lastCursor = some cursor ∧ instant ≤ cursor ∧
      (instant + hours ledgerMaxAgeHours < cursor ∨ ∃ entry,
        system.dispatcher.ledger (.assign taskId assigneeId) = some entry ∧ instant ≤ entry)

theorem remembers_opening (tasks : Tasks) :
    Remembers (System.opening tasks) where
  spaced := List.Pairwise.nil
  recent := fun _ _ _ member => by cases member

section Window

variable {system : System} {met : Circumstances} {now : Nat} {taskId assigneeId : String}

theorem executeAction_ledger (state : DispatcherState) (action : DispatchAction) (key : LedgerKey) :
    (executeAction met now state action).ledger key = some now ∨
      (executeAction met now state action).ledger key = state.ledger key := by
  cases action with
  | escalate id reason =>
    rw [executeAction]
    split
    · exact Or.inr rfl
    · by_cases here : key = .task id
      · rw [here]
        exact Or.inl (Function.update_self _ _ _)
      · exact Or.inr (Function.update_of_ne here _ _)
  | notifyAssignment id assignee =>
    rw [executeAction]
    split
    · exact Or.inr rfl
    · by_cases here : key = .assign id assignee
      · rw [here]
        exact Or.inl (Function.update_self _ _ _)
      · exact Or.inr (Function.update_of_ne here _ _)
  | digest =>
    rw [executeAction]
    split <;> exact Or.inr rfl
  | resetLease id | createRepairTask incident => exact Or.inr rfl

theorem executed_ledger (actions : List DispatchAction) (key : LedgerKey) :
    ∀ state : DispatcherState, (actions.foldl (executeAction met now) state).ledger key = some now ∨
      (actions.foldl (executeAction met now) state).ledger key = state.ledger key := by
  induction actions with
  | nil =>
    intro state
    exact Or.inr rfl
  | cons action rest ih =>
    intro state
    rw [foldl_cons]
    rcases ih (executeAction met now state action) with stamped | kept
    · exact Or.inl stamped
    · rw [kept]
      exact executeAction_ledger state action key

theorem executed_notification (sent : met.team taskId = .delivered) :
    ∀ (actions : List DispatchAction) (state : DispatcherState),
      .notifyAssignment taskId assigneeId ∈ actions →
        (actions.foldl (executeAction met now) state).ledger (.assign taskId assigneeId) = some now
  | [], _, member => by cases member
  | action :: rest, state, member => by
      rw [foldl_cons]
      rcases mem_cons.mp member with here | later
      · have stamped : (executeAction met now state action).ledger
            (.assign taskId assigneeId) = some now := by
          rw [← here, executeAction, sent, if_neg (by simp)]
          exact Function.update_self _ _ _
        rcases @executed_ledger met now rest (.assign taskId assigneeId)
            (executeAction met now state action) with again | kept
        · exact again
        · rw [kept, stamped]
      · exact executed_notification sent rest _ later

theorem pruneLedger_of_recent {ledger : Ledger} {key : LedgerKey}
    {entry : Nat} (stored : ledger key = some entry)
    (recent : now ≤ entry + hours ledgerMaxAgeHours) :
    pruneLedger ledger now key = some entry := by
  rw [pruneLedger, stored]
  exact Option.filter_some_pos (decide_eq_true recent)

theorem Remembers.spacedFrom (remembers : Remembers system)
    (ordered : ∀ cursor, system.dispatcher.lastCursor = some cursor → cursor ≤ now)
    (due : Due system now taskId assigneeId) {instant : Nat}
    (member : .notified taskId assigneeId instant ∈ system.log) :
    instant + hours escalateDedupHours < now := by
  obtain ⟨cursor, at_, _, old | ⟨entry, stored, later⟩⟩ :=
    remembers.recent taskId assigneeId instant member
  · have after := ordered cursor at_
    have window : hours escalateDedupHours ≤ hours ledgerMaxAgeHours := by
      decide
    omega
  · obtain ⟨_, _, _, _, _, _, allowed⟩ := due
    rw [ledgerAllows, stored] at allowed
    have apart := of_decide_eq_true allowed
    omega

theorem events_of_quiet {actions : List DispatchAction}
    (quiet : ∀ taskId assigneeId, DispatchAction.notifyAssignment taskId assigneeId ∉ actions) :
    actions.flatMap (DispatchAction.events met now) = [] := by
  rw [flatMap_eq_nil_iff]
  intro action member
  cases action with
  | notifyAssignment id assignee => exact absurd member (quiet id assignee)
  | _ => rfl

theorem messages_eq :
    system.messages met now = (if met.fetched then system.tasks.rows else []).flatMap (fun row =>
      (planNotification system.dispatcher.ledger
        system.dispatcher.lastCursor row now).flatMap (DispatchAction.events met now)) := by
  have digest : (if shouldDigest now system.dispatcher.lastDigestDate
      then [DispatchAction.digest] else []).flatMap (DispatchAction.events met now) = [] := by
    split <;> rfl
  have repairs : ∀ incidents : List Incident,
      (incidents.map DispatchAction.createRepairTask).flatMap
        (DispatchAction.events met now) = [] := by
    intro incidents
    refine events_of_quiet ?_
    intro id assignee member
    obtain ⟨_, _, ⟨⟩⟩ := mem_map.mp member
  rw [System.messages, System.plan, planActions, flatMap_append,
    flatMap_append, digest, repairs, append_nil,
    append_nil, flatMap_assoc]
  apply flatMap_congr
  intro row _
  have reset : (planReset row now).flatMap (DispatchAction.events met now) = [] :=
    events_of_quiet (fun _ _ => not_mem_planReset)
  have escalation : (planEscalation system.dispatcher.ledger row now).flatMap
      (DispatchAction.events met now) = [] :=
    events_of_quiet (fun _ _ => not_mem_planEscalation)
  rw [flatMap_append, flatMap_append, reset, escalation]
  rfl

theorem messages_spaced :
    (system.messages met now).Pairwise SpacedApart := by
  have single : ∀ row : Row, ((planNotification system.dispatcher.ledger
      system.dispatcher.lastCursor row now).flatMap
        (DispatchAction.events met now)).length ≤ 1 := by
    intro row
    have one : ∀ action : DispatchAction, (action.events met now).length ≤ 1 := by
      intro action
      cases action with
      | notifyAssignment id assignee =>
        rw [DispatchAction.events]
        split
        · exact le_refl 1
        · exact Nat.zero_le 1
      | _ => exact Nat.zero_le 1
    unfold planNotification
    split
    · split
      · split
        · rw [flatMap_singleton]
          exact one _
        · exact Nat.zero_le 1
      · exact Nat.zero_le 1
    · exact Nat.zero_le 1
  have named : ∀ (row : Row) (event : Event), event ∈ (planNotification system.dispatcher.ledger
      system.dispatcher.lastCursor row now).flatMap
      (DispatchAction.events met now) → ∀ taskId assigneeId instant,
          event = .notified taskId assigneeId instant → row.id = taskId := by
    intro row event member id assignee instant same
    obtain ⟨action, planned, sent⟩ := mem_flatMap.mp member
    obtain ⟨other, holder, which, event_, _⟩ := mem_events_iff.mp sent
    rw [which] at planned
    rw [same] at event_
    injection event_ with equal
    rw [equal]
    exact (mem_planNotification_iff.mp planned).1
  rw [messages_eq, pairwise_flatMap]
  constructor
  · intro row _
    have short := single row
    generalize (planNotification system.dispatcher.ledger
      system.dispatcher.lastCursor row now).flatMap
        (DispatchAction.events met now) = messages at short
    match messages, short with
    | [], _ => exact List.Pairwise.nil
    | [event], _ => exact pairwise_singleton _ _
    | _ :: _ :: _, long => simp at long
  · have distinct : (if met.fetched then system.tasks.rows else
        []).Pairwise (fun first second => first.id ≠ second.id) := by
      split
      · exact pairwise_map.mp system.tasks.keysNodup
      · exact List.Pairwise.nil
    refine distinct.imp ?_
    intro first second different event inFirst other inSecond id assignee earlier later same equal
    have firstId := named first event inFirst id assignee earlier same
    have secondId := named second other inSecond id assignee later equal
    exact absurd (firstId.trans secondId.symm) different

theorem Remembers.tick (remembers : Remembers system) (ordered :
    ∀ cursor, system.dispatcher.lastCursor = some cursor → cursor ≤ now) (met : Circumstances) :
    Remembers (system.tick met now) := by
  obtain ⟨successful, _, log⟩ := tick_log system met now
  constructor
  · rw [NotTwice, log, pairwise_append]
    refine ⟨remembers.spaced, ?_, ?_⟩
    · rw [pairwise_append]
      refine ⟨messages_spaced, pairwise_singleton _ _, ?_⟩
      intro event _ last member id assignee earlier later _ same
      rw [mem_singleton.mp member] at same
      cases same
    · intro event early last member id assignee earlier later same equal
      rw [same] at early
      rw [equal] at member
      rcases mem_append.mp member with sent | ticked
      · obtain ⟨_, _, which, _, _, _, due⟩ := mem_messages_iff.mp sent
        injection which with sameTask sameAssignee sameNow
        rw [← sameTask, ← sameAssignee] at due
        rw [sameNow]
        exact remembers.spacedFrom ordered due early
      · cases mem_singleton.mp ticked
  · intro id assignee instant member
    rw [log] at member
    refine ⟨now, rfl, ?_⟩
    rcases mem_append.mp member with early | late
    · obtain ⟨cursor, at_, before, old | ⟨entry, stored, later⟩⟩ :=
        remembers.recent id assignee instant early
      · have after := ordered cursor at_
        exact ⟨by omega, Or.inl (by omega)⟩
      · have after := ordered cursor at_
        refine ⟨by omega, ?_⟩
        rcases @executed_ledger met now (system.plan met now)
            (.assign id assignee) system.dispatcher with stamped | kept
        · exact Or.inr ⟨now, pruneLedger_of_recent stamped (by omega), by omega⟩
        · rw [stored] at kept
          by_cases recent : now ≤ entry + hours ledgerMaxAgeHours
          · exact Or.inr ⟨entry, pruneLedger_of_recent kept recent, later⟩
          · exact Or.inl (by omega)
    · rcases mem_append.mp late with sent | ticked
      · obtain ⟨_, _, which, fetched, _, delivered, due⟩ := mem_messages_iff.mp sent
        injection which with sameTask sameAssignee sameNow
        rw [← sameTask] at delivered
        rw [← sameTask, ← sameAssignee] at due
        have stamped := @executed_notification met now id assignee
          delivered (system.plan met now) system.dispatcher
          (mem_plan_iff.mpr ⟨fetched, due⟩)
        rw [sameNow]
        exact ⟨le_refl now, Or.inr ⟨now, pruneLedger_of_recent stamped (by omega), le_refl now⟩⟩
      · cases mem_singleton.mp ticked

end Window

section Steps

variable {before after : System} {action : Action}

theorem remembers_write {events : List Event} {tasks : Tasks}
    {system : System} (remembers : Remembers system)
    (silent :
      ∀ event ∈ events, ∀ taskId assigneeId instant, event ≠ .notified taskId assigneeId instant) :
    Remembers { system with tasks := tasks, log := system.log ++ events } where
  spaced := by
    rw [NotTwice, pairwise_append]
    refine ⟨remembers.spaced, ?_, ?_⟩
    · refine List.Pairwise.imp_of_mem ?_ (pairwise_of_forall
        (R := fun _ _ => True) (fun _ _ => trivial))
      intro first second member _ _ id assignee earlier _ same
      exact absurd same (silent first member id assignee earlier)
    · intro first _ second member id assignee _ later _ same
      exact absurd same (silent second member id assignee later)
  recent := by
    intro id assignee instant member
    rcases mem_append.mp member with early | late
    · exact remembers.recent id assignee instant early
    · exact absurd rfl (silent _ late id assignee instant)

theorem remembers_next (remembers : Remembers before)
    (fires : Fires next before action after) : Remembers after := by
  cases action with
  | write row now =>
    cases fires
    refine remembers_write remembers ?_
    intro event member id assignee instant equal
    rw [equal, Option.mem_toList, Option.map_eq_some_iff] at member
    obtain ⟨_, _, ⟨⟩⟩ := member
  | remove taskId =>
    cases fires
    exact ⟨remembers.spaced, remembers.recent⟩
  | tick met now =>
    obtain ⟨ordered, same⟩ := of_ite_eq_some fires
    rw [← same]
    refine remembers.tick ?_ met
    intro cursor at_
    rw [at_] at ordered
    exact of_decide_eq_true ordered

theorem assignmentsNotified_next_iff (notified : AssignmentsNotified before.log)
    (fires : Fires next before action after) :
    AssignmentsNotified after.log ↔ Allowed before action := by
  cases action with
  | write row now =>
    cases fires
    refine iff_of_true ?_ trivial
    cases newAssignee (before.tasks.lookup row.id) row with
    | none =>
      change AssignmentsNotified (before.log ++ [])
      rw [append_nil]
      exact notified
    | some assigneeId => exact notified.append_assigned now
  | remove taskId =>
    cases fires
    exact iff_of_true notified trivial
  | tick met now =>
    obtain ⟨_, same⟩ := of_ite_eq_some fires
    rw [← same]
    obtain ⟨successful, succeeds, log⟩ := tick_log before met now
    have only : ∀ event ∈ before.messages met now,
        ∃ taskId assigneeId, event = .notified taskId assigneeId now := by
      intro event member
      obtain ⟨taskId, assigneeId, equal, _⟩ := mem_messages_iff.mp member
      exact ⟨taskId, assigneeId, equal⟩
    rw [log]
    refine (assignmentsNotified_append_iff notified only).trans ?_
    constructor
    · intro reaches success taskId assigneeId waits
      obtain ⟨_, _, which, _, _, _, due⟩ := mem_messages_iff.mp
        (reaches (succeeds.mpr success) taskId assigneeId waits)
      injection which with sameTask sameAssignee
      rw [sameTask, sameAssignee]
      exact due
    · intro due success taskId assigneeId waits
      have complete := succeeds.mp success
      have due := due complete taskId assigneeId waits
      have planned := @mem_plan_iff before met now taskId assigneeId
      have sent := complete.2.2 _ (planned.mpr ⟨complete.1, due⟩)
      exact mem_messages_iff.mpr ⟨taskId, assigneeId, rfl, complete.1,
        complete.2.1, of_decide_eq_true sent, due⟩

end Steps

/-- What the dispatcher owes: every assignment after the first tick is
notified once a successful tick follows, and no assignment twice within the
window. -/
def Dispatches (system : System) : Prop :=
  AssignmentsNotified system.log ∧ NotTwice system.log

/-- From any tasks, the dispatcher keeps what it owes exactly as long as
every successful tick finds what waits still assigned, written later than the
cursor and not notified within the window. -/
theorem dispatches_iff (tasks : Tasks) (actions : List Action) (finish : System) :
    Run (staying (Fires next) Dispatches) (System.opening tasks) actions finish ↔
      Run (guarded (Fires next) Allowed) (System.opening tasks) actions
        finish := by
  have opening : AssignmentsNotified (System.opening tasks).log := by
    intro before taskId assigneeId instant after split
    have length := congrArg length split
    simp [System.opening] at length
  refine Run.staying_iff_guarded Remembers Dispatches Allowed ?_ ?_
    (remembers_opening tasks) ⟨opening, List.Pairwise.nil⟩
  · intro source target action remembers _ fires _
    exact remembers_next remembers fires
  · intro source target action remembers dispatches fires
    have spaced := (remembers_next remembers fires).spaced
    rw [← assignmentsNotified_next_iff dispatches.1 fires]
    exact and_iff_left spaced

def calm : Circumstances :=
  { dryRun := false
    fetched := true
    incidents := []
    team := fun _ => .delivered
    alert := fun _ => .delivered
    digest := .delivered }

def sampleRow : Row :=
  { id := "task"
    status := .todo
    priority := .p2
    assigneeId := some "agent"
    externalId := none
    leaseExpiresAt := none
    updatedAt := 0 }

def lateAssignment : List Action :=
  [.tick calm 10300, .write sampleRow 10700]

/-- The cursor is past the stored time of the assignment. -/
structure Overlooked (system : System) : Prop where
  row : ∀ row, system.tasks.lookup "task" = some row → row.updatedMs = 10000
  cursor : ∃ cursor, system.dispatcher.lastCursor = some cursor ∧ 10300 ≤ cursor
  silent : ∀ event ∈ system.log, event.notifies "task" "agent" = false

def Action.IsTick : Action → Prop
  | .tick _ _ => True
  | _ => False

theorem overlooked_next {before after : System} {action : Action}
    (overlooked : Overlooked before) (tick : action.IsTick)
    (fires : Fires next before action after) : Overlooked after := by
  cases action with
  | write row now | remove taskId => cases tick
  | tick met now =>
    obtain ⟨cursor, at_, later⟩ := overlooked.cursor
    simp only [Fires, next] at fires
    split at fires
    · rename_i ordered
      rw [at_] at ordered
      have ordered : cursor ≤ now := of_decide_eq_true ordered
      cases fires
      refine ⟨overlooked.row, ⟨now, rfl, by omega⟩, ?_⟩
      obtain ⟨successful, _, log⟩ := tick_log before met now
      intro event member
      rw [log] at member
      rcases mem_append.mp member with early | late
      · exact overlooked.silent event early
      · rcases mem_append.mp late with sent | ticked
        · obtain ⟨taskId, assigneeId, which, _, _, _, due⟩ := mem_messages_iff.mp sent
          rw [which]
          by_contra notifies
          rw [Bool.not_eq_false] at notifies
          simp only [Event.notifies, Bool.and_eq_true, decide_eq_true_eq] at notifies
          rw [notifies.1] at due
          obtain ⟨row, other, found, _, same, recent, _⟩ := due
          rw [at_] at same
          cases same
          rw [overlooked.row row found] at recent
          omega
        · rw [mem_singleton.mp ticked]
          rfl
    · cases fires

theorem overlooked_of_ticks {start finish : System} {actions : List Action}
    (run : Run (guarded (Fires next) (fun _ action => action.IsTick)) start
      actions finish) (overlooked : Overlooked start) :
    Overlooked finish :=
  run.invariant Overlooked (fun overlooked taken => overlooked_next overlooked taken.1 taken.2)
    overlooked

theorem assignment_never_notified :
    ∃ middle, Run (Fires next) (System.opening Table.empty) lateAssignment middle ∧
      .assigned "task" "agent" 10700 ∈ middle.log ∧
      (∀ ticks finish, Run (guarded (Fires next) (fun _ action => action.IsTick)) middle
        ticks finish → ∀ event ∈ finish.log, event.notifies "task" "agent" = false) ∧
      ∃ finish, Run (Fires next) middle [.tick calm 20000] finish ∧ ¬ Dispatches finish := by
  let start := System.opening Table.empty
  let first := start.tick calm 10300
  obtain ⟨middle, writes⟩ : ∃ middle, next first (.write sampleRow 10700) = some middle := ⟨_, rfl⟩
  have ticks : Fires next start (.tick calm 10300) first := rfl
  have run : Run (Fires next) start lateAssignment middle := Run.cons ticks (Run.single writes)
  have written := Option.some.inj writes
  have log : middle.log = [.ticked 10300 true, .assigned "task" "agent" 10700] := by
    rw [← written]
    decide +kernel
  have overlooked : Overlooked middle := by
    refine ⟨?_, ⟨10300, ?_, le_refl _⟩, ?_⟩
    · intro row found
      rw [← written] at found
      have same : some (sampleRow.stamped 10700) = some row := found
      cases same
      rfl
    · rw [← written]
      rfl
    · rw [log]
      decide
  refine ⟨middle, run, by simp [log], ?_, ?_⟩
  · intro ticks finish onward
    exact (overlooked_of_ticks onward overlooked).silent
  · let finish := middle.tick calm 20000
    have cursor : middle.dispatcher.lastCursor = some 10300 := by
      rw [← written]
      rfl
    have fires : Fires next middle (.tick calm 20000) finish := by
      rw [Fires, next, cursor]
      rfl
    have ended : finish.log =
        [.ticked 10300 true, .assigned "task" "agent" 10700, .ticked 20000 true] := by
      rw [show finish = middle.tick calm 20000 from rfl, ← written]
      decide +kernel
    refine ⟨finish, Run.single fires, ?_⟩
    rintro ⟨notified, _⟩
    obtain ⟨event, member, notifies⟩ := notified [.ticked 10300 true] "task" "agent" 10700
        [.ticked 20000 true] ended (by decide) (by decide)
    rw [mem_singleton.mp member] at notifies
    cases notifies

/-- Whatever cannot be fetched or delivered, two messages about one
assignment are more than the window apart. -/
theorem notified_apart {tasks : Tasks} {actions : List Action} {finish : System}
    (run : Run (Fires next) (System.opening tasks) actions finish) :
    NotTwice finish.log :=
  (run.invariant Remembers remembers_next (remembers_opening tasks)).spaced

theorem notified_apart_sample :
    ∃ finish, Run (Fires next) (System.opening Table.empty)
        [.tick calm 10300, .write sampleRow 20700, .tick calm 30000, .tick calm 40000] finish ∧
      .notified "task" "agent" 30000 ∈ finish.log ∧ NotTwice finish.log := by
  refine exists_run (fun finish => .notified "task" "agent" 30000 ∈ finish.log)
    (by decide +kernel) ?_
  intro finish run sent
  exact ⟨sent, notified_apart run⟩

end DcpPlatform.Dispatcher
