import DcpPlatform.Missions.Answers

/-!
# Leases are exclusive

The log tells every lease that was granted and every release or move to
review. A grant is outstanding while none of these by its agent, and no later
grant on the task, follows it; it has run out or is what the row of the task
says. Only scoped agents call.
-/

namespace DcpPlatform.Missions

open Foundation List
open Batches (Json)

def Request.isByAgent : Request → Bool
  | .patch _ .other _ => false
  | .reassign _ .other _ _ _ => false
  | _ => true

def ByAgents (_ : System) (action : Action) : Prop :=
  action.request.isByAgent = true
deriving Decidable

def Event.grantOn (taskId : String) : Event → Option (String × Nat)
  | .claimed id agentId lease _ =>
    if id = taskId then some (agentId, lease) else none
  | .renewed id agentId lease =>
    if id = taskId then some (agentId, lease) else none
  | .released _ _ => none
  | .reviewed _ _ => none

def Event.endsClaim (taskId agentId : String) : Event → Bool
  | .released id holder => id = taskId && holder = agentId
  | .reviewed id holder => id = taskId && holder = agentId
  | .claimed _ _ _ _ => false
  | .renewed _ _ _ => false

def Event.isClaim (taskId agentId : String) : Event → Bool
  | .claimed id holder _ _ => id = taskId && holder = agentId
  | .renewed _ _ _ => false
  | .released _ _ => false
  | .reviewed _ _ => false

def OneHolder (tasks : Tasks) : Prop :=
  ∀ taskId task first second, tasks.lookup taskId = some task →
    task.claimedBy = some first → task.claimedBy = some second →
    first = second

/-- When a task is claimed, the last lease granted on it had run out, or its
agent had released the task or moved it to review. -/
def TakenAfterEnd (log : List Event) : Prop :=
  ∀ before taskId taker lease now after, log = before ++ .claimed taskId taker lease now :: after →
    ∀ old grant since agentId granted, before = old ++ grant :: since →
      grant.grantOn taskId = some (agentId, granted) →
      (∀ event ∈ since, event.grantOn taskId = none) →
        granted < now ∨ ∃ event ∈ since, event.endsClaim taskId agentId = true

def Request.presupposes (taskId agentId : String) : Request → Prop
  | .renew id agent _ => id = taskId ∧ agent.assigneeId = agentId
  | .release id agent _ => id = taskId ∧ agent.assigneeId = agentId
  | .patch id (.agent agent) _ =>
    id = taskId ∧ agent.assigneeId = agentId
  | _ => False

def Refuses (tasks : Tasks) (taskId agentId : String) : Prop :=
  ∀ request, request.presupposes taskId agentId →
    ∀ now, ∃ failure, answer tasks request now = .error failure

/-- After a claim that succeeds, the other agents are refused until they
claim the task again. -/
def EvictedUntilReclaimed (middle : System) : Prop :=
  ∀ taskId taker ttlMinutes now tasks claimed,
    answer middle.tasks (.claim taskId taker ttlMinutes) now = .ok tasks →
      Fires next middle ⟨.claim taskId taker ttlMinutes, now⟩ claimed →
      ∀ actions finish since agentId, Run (guarded (Fires next) ByAgents) claimed actions finish →
        finish.log = claimed.log ++ since →
        (∀ event ∈ since, event.isClaim taskId agentId = false) →
          agentId ≠ taker.assigneeId → Refuses finish.tasks taskId agentId

def Outstanding (log : List Event) (taskId agentId : String) (lease : Nat) : Prop :=
  ∃ old grant since, log = old ++ grant :: since ∧ grant.grantOn taskId = some (agentId, lease) ∧
    (∀ event ∈ since, event.grantOn taskId = none) ∧
    ∀ event ∈ since, event.endsClaim taskId agentId = false

section Log

variable {log : List Event} {taskId agentId : String} {lease : Nat} {event : Event}

theorem Outstanding.of_append (outstanding : Outstanding (log ++ [event]) taskId agentId lease) :
    event.grantOn taskId = some (agentId, lease) ∨
      (event.grantOn taskId = none ∧ event.endsClaim taskId agentId = false ∧
        Outstanding log taskId agentId lease) := by
  obtain ⟨old, grant, since, split, granted, last, open_⟩ := outstanding
  rcases eq_nil_or_concat since with empty | ⟨rest, final, same⟩
  · rw [empty] at split
    obtain ⟨_, equal⟩ := append_inj' split rfl
    injection equal with equal
    rw [equal]
    exact Or.inl granted
  · rw [same, concat_eq_append] at split last open_
    rw [← cons_append, ← append_assoc] at split
    obtain ⟨whole, equal⟩ := append_inj' split rfl
    injection equal with equal
    have member : event ∈ rest ++ [final] := by simp [equal]
    refine Or.inr ⟨last event member, open_ event member, old, grant, rest, whole, granted, ?_, ?_⟩
    · intro other inRest
      exact last other (mem_append_left _ inRest)
    · intro other inRest
      exact open_ other (mem_append_left _ inRest)

theorem TakenAfterEnd.append (taken : TakenAfterEnd log)
    (ended : ∀ id taker until_ now, event = .claimed id taker until_ now →
      ∀ agentId lease, Outstanding log id agentId lease → lease < now) :
    TakenAfterEnd (log ++ [event]) := by
  intro before id taker until_ now after split old grant since agentId granted whole given last
  rcases eq_nil_or_concat after with empty | ⟨rest, final, same⟩
  · rw [empty] at split
    obtain ⟨same, equal⟩ := append_inj' split rfl
    injection equal with equal
    by_cases closed : ∃ event ∈ since, event.endsClaim id agentId = true
    · exact Or.inr closed
    · left
      refine ended id taker until_ now equal agentId granted
        ⟨old, grant, since, same.trans whole, given, last, ?_⟩
      intro other member
      by_contra closes
      exact closed ⟨other, member, (Bool.not_eq_false _).mp closes⟩
  · rw [same, concat_eq_append, ← cons_append, ← append_assoc] at split
    obtain ⟨same, _⟩ := append_inj' split rfl
    exact taken before id taker until_ now rest same old grant since
      agentId granted whole given last

theorem TakenAfterEnd.nil : TakenAfterEnd [] := by
  intro before id taker until_ now after split
  have length := congrArg length split
  simp at length

end Log

def Task.Carries (agentId : String) (lease : Nat) (task : Task) : Prop :=
  task.claimedBy = some agentId ∧ task.leaseExpiresAt = some lease ∧ task.status.isHeld = true

/-- Every outstanding grant has run out or is carried by its task. -/
def Backed (system : System) : Prop :=
  ∀ taskId agentId lease, Outstanding system.log taskId agentId lease → lease < system.clock ∨
    ∃ task, system.tasks.lookup taskId = some task ∧ task.Carries agentId lease

section Steps

variable {before after : System} {action : Action} {task : Task} {agentId : String} {now : Nat}

theorem Task.isClaimable.expired (claimable : task.isClaimable agentId now)
    (held : task.status.isHeld = true) : task.isExpired now = true := by
  rcases claimable with ⟨free, _⟩ | ⟨_, expired⟩
  · rw [free] at held
    cases held
  · exact expired

variable {lease : Nat}

theorem lt_of_isExpired (expired : task.isExpired now = true)
    (leased : task.leaseExpiresAt = some lease) : lease < now := by
  rw [Task.isExpired, leased] at expired
  exact of_decide_eq_true expired

theorem carries_patch {agent : MissionAgent} {body : Json}
    (passes : patchRefusal agent task body = none)
    (stays : (property "status" body).any (fun value => isText "review" value) = false)
    (carries : task.Carries agentId lease) :
    (task.patch body now).Carries agentId lease := by
  have held : (patchedStatus body task).isHeld = true := by
    rw [patchedStatus]
    unfold patchRefusal at passes
    split at passes
    · cases passes
    · split at passes
      · cases passes
      · cases given : property "status" body with
        | none => exact carries.2.2
        | some status =>
          rw [given] at passes stays
          dsimp only at passes
          split at passes
          · rename_i target
            cases status with
            | text value =>
              have notReview : value ≠ "review" := by
                intro same
                rw [same] at stays
                cases stays
              simp only [agentStatusTargets, any_cons, any_nil, isText, Bool.or_eq_true,
                decide_eq_true_eq, Bool.or_false] at target
              rcases target with same | same | same
              · rw [same]
                rfl
              · rw [same]
                rfl
              · exact absurd same notReview
            | _ => cases target
          · cases passes
  rw [Task.Carries, Task.patch, stays]
  exact ⟨carries.1, carries.2.1, held⟩

theorem backed_refused (backed : Backed before) (ordered : before.clock ≤ now) :
    Backed { before with clock := now } := by
  intro taskId agentId lease outstanding
  rcases backed taskId agentId lease outstanding with past | carried
  · exact Or.inl (lt_of_lt_of_le past ordered)
  · exact Or.inr carried

variable {other : Task}

theorem backed_accepted {events : List Event}
    (backed : Backed before) (ordered : before.clock ≤ after.clock)
    (replaces : Table.Replaces before.tasks after.tasks task other)
    (log : after.log = before.log ++ events)
    (single : events = [] ∨
      ∃ event, events = [event] ∧ ∀ taskId, taskId ≠ task.id → event.grantOn taskId = none)
    (own : ∀ agentId lease, Outstanding after.log task.id agentId lease →
      (Outstanding before.log task.id agentId lease →
        lease < before.clock ∨ task.Carries agentId lease) →
      lease < after.clock ∨ other.Carries agentId lease) :
    Backed after := by
  intro taskId agentId lease outstanding
  by_cases here : taskId = task.id
  · rw [here] at outstanding ⊢
    have carried := own agentId lease outstanding (fun earlier => by
      rcases backed task.id agentId lease earlier with past | ⟨stored, found, carries⟩
      · exact Or.inl past
      · rw [replaces.found] at found
        injection found with same
        rw [same]
        exact Or.inr carries)
    rcases carried with past | carries
    · exact Or.inl past
    · exact Or.inr ⟨other, by rw [replaces.lookup, if_pos rfl], carries⟩
  · have earlier : Outstanding before.log taskId agentId lease := by
      rcases single with none | ⟨event, one, elsewhere⟩
      · rw [log, none, append_nil] at outstanding
        exact outstanding
      · rw [log, one] at outstanding
        rcases outstanding.of_append with granted | ⟨_, _, earlier⟩
        · rw [elsewhere taskId here] at granted
          cases granted
        · exact earlier
    rcases backed taskId agentId lease earlier with past | ⟨stored, found, carries⟩
    · exact Or.inl (lt_of_lt_of_le past ordered)
    · refine Or.inr ⟨stored, ?_, carries⟩
      rw [replaces.lookup, if_neg here]
      exact found

variable {event : Event}

theorem own_of_grant (carries : other.Carries agentId lease)
    (log : after.log = before.log ++ [event])
    (grants : event.grantOn task.id = some (agentId, lease))
    (holder : String) (granted : Nat)
    (outstanding : Outstanding after.log task.id holder granted) :
    other.Carries holder granted := by
  rw [log] at outstanding
  rcases outstanding.of_append with same | ⟨free, _⟩
  · rw [grants] at same
    injection same with same
    injection same with agent until_
    rw [← agent, ← until_]
    exact carries
  · rw [grants] at free
    cases free

theorem own_of_end (claimed : task.claimedBy = some agentId)
    (log : after.log = before.log ++ [event]) (free : event.grantOn task.id = none)
    (closes : event.endsClaim task.id agentId = true)
    (ordered : before.clock ≤ after.clock) (holder : String) (granted : Nat)
    (outstanding : Outstanding after.log task.id holder granted)
    (earlier : Outstanding before.log task.id holder granted →
      granted < before.clock ∨ task.Carries holder granted) :
    granted < after.clock := by
  rw [log] at outstanding
  rcases outstanding.of_append with same | ⟨_, open_, old⟩
  · rw [free] at same
    cases same
  · rcases earlier old with past | carries
    · omega
    · have same := claimed.symm.trans carries.1
      injection same with same
      rw [← same, closes] at open_
      cases open_

theorem backed_step (backed : Backed before) (byAgent : action.request.isByAgent = true)
    (fires : Fires next before action after) : Backed after := by
  obtain ⟨ordered, clock, outcome⟩ := next_cases fires
  rcases outcome with ⟨same, _⟩ | ⟨task, accepted⟩
  · rw [same]
    exact backed_refused backed ordered
  · have key := Table.lookup_key accepted.found
    have onward : before.clock ≤ after.clock := by omega
    obtain ⟨_, accepts, replaces, log⟩ := accepted
    obtain ⟨request, now⟩ := action
    cases request with
    | claim taskId agent ttlMinutes =>
      have key : task.id = taskId := key
      subst key
      refine backed_accepted backed onward replaces log
        (Or.inr ⟨_, rfl, fun id apart => if_neg (Ne.symm apart)⟩) ?_
      intro holder granted outstanding _
      exact Or.inr (own_of_grant ⟨rfl, rfl, rfl⟩ log (if_pos rfl) holder granted outstanding)
    | renew taskId agent ttlMinutes =>
      have key : task.id = taskId := key
      subst key
      refine backed_accepted backed onward replaces log
        (Or.inr ⟨_, rfl, fun id apart => if_neg (Ne.symm apart)⟩) ?_
      intro holder granted outstanding _
      have held : task.isHeldBy agent.assigneeId := accepts
      have carries : (task.renew (leaseEnd now ttlMinutes) now).Carries
          agent.assigneeId (leaseEnd now ttlMinutes) :=
        ⟨held.1, rfl, held.2⟩
      exact Or.inr (own_of_grant carries log (if_pos rfl) holder granted outstanding)
    | release taskId agent reason =>
      have key : task.id = taskId := key
      subst key
      refine backed_accepted backed onward replaces log (Or.inr ⟨_, rfl, fun _ _ => rfl⟩) ?_
      intro holder granted outstanding earlier
      have closes : (Event.released task.id agent.assigneeId).endsClaim
          task.id agent.assigneeId = true := by
        simp [Event.endsClaim]
      exact Or.inl (own_of_end accepts.1.1 log rfl closes onward holder granted outstanding earlier)
    | resetLease taskId agent =>
      refine backed_accepted backed onward replaces log (Or.inl rfl) ?_
      intro holder granted outstanding earlier
      have log : after.log = before.log := by
        rw [log]
        exact append_nil _
      rw [log] at outstanding
      rcases earlier outstanding with past | carries
      · exact Or.inl (by omega)
      · left
        rw [clock]
        exact lt_of_isExpired accepts.1.2 carries.2.1
    | patch taskId caller body =>
      have key : task.id = taskId := key
      subst key
      cases caller with
      | other => cases byAgent
      | agent holder =>
        have passes : patchRefusal holder task body = none := accepts.1
        have claimed : task.claimedBy = some holder.assigneeId := by
          by_contra unclaimed
          rw [patchRefusal, if_pos unclaimed] at passes
          cases passes
        cases review : (property "status" body).any (isText "review" ·) with
        | true =>
          have events : after.log = before.log ++ [.reviewed task.id holder.assigneeId] := by
            rw [log]
            simp only [Request.events, review, if_true, claimed]
            rfl
          refine backed_accepted backed onward replaces events (Or.inr ⟨_, rfl, fun _ _ => rfl⟩) ?_
          intro agentId granted outstanding earlier
          have closes : (Event.reviewed task.id holder.assigneeId).endsClaim
              task.id holder.assigneeId = true := by
            simp [Event.endsClaim]
          exact Or.inl (own_of_end claimed events rfl closes onward
            agentId granted outstanding earlier)
        | false =>
          have events : after.log = before.log ++ [] := by
            rw [log]
            simp only [Request.events, review, Bool.false_eq_true, if_false]
          refine backed_accepted backed onward replaces events (Or.inl rfl) ?_
          intro agentId granted outstanding earlier
          rw [events, append_nil] at outstanding
          rcases earlier outstanding with past | carries
          · exact Or.inl (by omega)
          · exact Or.inr (carries_patch passes review carries)
    | reassign taskId caller newAssigneeId comment isActive =>
      have other : caller = .other := accepts.1
      rw [other] at byAgent
      cases byAgent

theorem taken_step (taken : TakenAfterEnd before.log)
    (backed : Backed before) (fires : Fires next before action after) :
    TakenAfterEnd after.log := by
  obtain ⟨ordered, _, outcome⟩ := next_cases fires
  rcases outcome with ⟨same, _⟩ | ⟨task, accepted⟩
  · rw [same]
    exact taken
  · obtain ⟨found, accepts, _, log⟩ := accepted
    rw [log]
    obtain ⟨request, now⟩ := action
    cases request with
    | claim taskId agent ttlMinutes =>
      refine taken.append ?_
      intro id taker until_ instant same agentId lease outstanding
      injection same with sameId _ _ sameInstant
      rw [← sameId] at outstanding
      rw [← sameInstant]
      rcases backed taskId agentId lease outstanding with past | ⟨stored, there, carries⟩
      · exact lt_of_lt_of_le past ordered
      · have found : before.tasks.lookup taskId = some task := found
        rw [found] at there
        cases there
        have claimable : task.isClaimable agent.assigneeId now := accepts
        exact lt_of_isExpired (claimable.expired carries.2.2) carries.2.1
    | renew taskId agent ttlMinutes | release taskId agent reason =>
      refine taken.append ?_
      intro id taker until_ instant same
      cases same
    | resetLease taskId agent =>
      rw [show Request.events now task (.resetLease taskId agent) = []
        from rfl, append_nil]
      exact taken
    | patch taskId caller body =>
      rw [Request.events]
      split
      · cases task.claimedBy with
        | none =>
          change TakenAfterEnd (before.log ++ [])
          rw [append_nil]
          exact taken
        | some holder =>
          refine taken.append ?_
          intro id taker until_ instant same
          cases same
      · rw [append_nil]
        exact taken
    | reassign taskId caller newAssigneeId comment isActive =>
      rw [show Request.events now task (.reassign taskId caller newAssigneeId comment isActive) = []
        from rfl, append_nil]
      exact taken

def Evicted (tasks : Tasks) (taskId agentId : String) : Prop :=
  ∀ task, tasks.lookup taskId = some task → task.claimedBy ≠ some agentId

theorem refuses_of_evicted {tasks : Tasks} {taskId agentId : String}
    (evicted : Evicted tasks taskId agentId) :
    Refuses tasks taskId agentId := by
  intro request presupposes now
  cases answered : answer tasks request now with
  | error failure => exact ⟨failure, rfl⟩
  | ok after =>
    obtain ⟨task, found, accepts⟩ := accepts_of_answer answered
    cases request with
    | renew id agent ttlMinutes =>
      obtain ⟨rfl, rfl⟩ := presupposes
      have held : task.isHeldBy agent.assigneeId := accepts
      exact absurd held.1 (evicted task found)
    | release id agent reason =>
      obtain ⟨rfl, rfl⟩ := presupposes
      exact absurd accepts.1.1 (evicted task found)
    | patch id caller body =>
      cases caller with
      | other => cases presupposes
      | agent holder =>
        obtain ⟨rfl, rfl⟩ := presupposes
        have passes : patchRefusal holder task body = none := accepts.1
        rw [patchRefusal, if_pos (evicted task found)] at passes
        cases passes
    | claim id agent ttlMinutes | resetLease id agent => cases presupposes
    | reassign id caller newAssigneeId comment isActive =>
      cases presupposes

theorem claimedBy_change {request : Request}
    (claimed : (request.change now task).claimedBy = some agentId) :
    task.claimedBy = some agentId ∨
      ∃ event ∈ request.events now task, event.isClaim request.taskId agentId = true := by
  cases request with
  | claim taskId agent ttlMinutes =>
    right
    have same : some agent.assigneeId = some agentId := claimed
    injection same with same
    refine ⟨_, mem_singleton.mpr rfl, ?_⟩
    simp [Event.isClaim, Request.taskId, same]
  | renew taskId agent ttlMinutes => exact Or.inl claimed
  | release taskId agent reason | resetLease taskId agent => cases claimed
  | patch taskId caller body =>
    rw [Request.change, Task.patch] at claimed
    split at claimed
    · cases claimed
    · exact Or.inl claimed
  | reassign taskId caller newAssigneeId comment isActive =>
    left
    rw [Request.change, Task.reassign] at claimed
    split at claimed <;> exact claimed

theorem evicted_step {taskId agentId : String} (fires : Fires next before action after) :
    ∃ events, after.log = before.log ++ events ∧ (Evicted before.tasks taskId agentId →
      (∀ event ∈ events, event.isClaim taskId agentId = false) →
        Evicted after.tasks taskId agentId) := by
  obtain ⟨_, _, outcome⟩ := next_cases fires
  rcases outcome with ⟨same, _⟩ | ⟨task, accepted⟩
  · rw [same]
    exact ⟨[], (append_nil _).symm, fun evicted _ => evicted⟩
  · refine ⟨_, accepted.log, ?_⟩
    intro evicted unclaimed stored there claimed
    rw [accepted.replaces.lookup] at there
    have key := Table.lookup_key accepted.found
    split at there
    · rename_i here
      cases there
      rcases claimedBy_change claimed with earlier | ⟨event, member, claims⟩
      · refine evicted task ?_ earlier
        rw [here, key]
        exact accepted.found
      · rw [← key, ← here] at claims
        rw [unclaimed event member] at claims
        cases claims
    · exact evicted stored there claimed

theorem evicted_of_run {start finish : System} {actions : List Action}
    {taskId agentId : String} (run : Run (Fires next) start actions finish) :
    ∃ events, finish.log = start.log ++ events ∧ (Evicted start.tasks taskId agentId →
      (∀ event ∈ events, event.isClaim taskId agentId = false) →
        Evicted finish.tasks taskId agentId) := by
  induction run with
  | nil state =>
    exact ⟨[], (append_nil _).symm, fun evicted _ => evicted⟩
  | cons fires _ ih =>
    obtain ⟨first, log, kept⟩ := @evicted_step _ _ _ taskId agentId fires
    obtain ⟨rest, onward, keptOn⟩ := ih
    refine ⟨first ++ rest, ?_, ?_⟩
    · rw [onward, log, append_assoc]
    · intro evicted unclaimed
      refine keptOn (kept evicted ?_) ?_
      · intro event member
        exact unclaimed event (mem_append_left _ member)
      · intro event member
        exact unclaimed event (mem_append_right _ member)

theorem evictedUntilReclaimed (middle : System) :
    EvictedUntilReclaimed middle := by
  intro taskId taker ttlMinutes now tasks claimed answered fires actions
    finish since agentId run log unclaimed different
  obtain ⟨events, grown, kept⟩ := @evicted_of_run _ _ _ taskId agentId run.of_guarded
  have same : since = events := by
    rw [log] at grown
    exact append_cancel_left grown
  rw [same] at unclaimed
  refine refuses_of_evicted (kept ?_ unclaimed)
  obtain ⟨_, _, outcome⟩ := next_cases fires
  rcases outcome with ⟨_, refused⟩ | ⟨task, accepted⟩
  · obtain ⟨task, found, accepts⟩ := accepts_of_answer answered
    exact absurd accepts (refused task found)
  · intro stored there holder
    rw [accepted.replaces.lookup] at there
    have here : taskId = task.id := (Table.lookup_key accepted.found).symm
    rw [if_pos here] at there
    cases there
    have holder : some taker.assigneeId = some agentId := holder
    injection holder with holder
    exact different holder.symm

end Steps

/-- From any tasks, whatever scoped agents request at whatever times: a task
has one holder; a lease that ends by a claim had run out, or its agent had
released the task or moved it to review; and who loses a task to a claim is
refused until it claims the task again. -/
theorem leases_exclusive (tasks : Tasks) (actions : List Action) (middle : System)
    (run : Run (guarded (Fires next) ByAgents) (System.opening tasks) actions middle) :
    OneHolder middle.tasks ∧ TakenAfterEnd middle.log ∧ EvictedUntilReclaimed middle := by
  have sound : TakenAfterEnd middle.log ∧ Backed middle := by
    refine run.invariant (fun system => TakenAfterEnd system.log ∧ Backed system) ?_ ?_
    · intro source target action holds taken
      exact ⟨taken_step holds.1 holds.2 taken.2, backed_step holds.2 taken.1 taken.2⟩
    · refine ⟨TakenAfterEnd.nil, ?_⟩
      rintro taskId agentId lease ⟨old, grant, since, split, _⟩
      have length := congrArg length split
      simp [System.opening] at length
  refine ⟨?_, sound.1, evictedUntilReclaimed middle⟩
  intro taskId task first second _ firstHolds secondHolds
  rw [firstHolds] at secondHolds
  injection secondHolds

def otherAgent : MissionAgent :=
  { assigneeId := "other", isDispatcher := false }

def takeover : List Action :=
  [⟨.claim "first" sampleAgent (some 1), 0⟩, ⟨.claim "first" otherAgent (some 1), 60001⟩]

theorem leases_exclusive_sample :
    ∃ finish, Run (guarded (Fires next) ByAgents) (System.opening sampleTasks) takeover finish ∧
      finish.log = [.claimed "first" "agent" 60000 0, .claimed "first" "other" 120001 60001] ∧
      OneHolder finish.tasks ∧ TakenAfterEnd finish.log ∧
      EvictedUntilReclaimed finish := by
  obtain ⟨finish, executed, log⟩ := @exists_of_execute_any _ _ (restricted next ByAgents)
    (·.log =
      [.claimed "first" "agent" 60000 0, .claimed "first" "other" 120001 60001]) _ takeover
    (System.opening sampleTasks) (by decide +kernel)
  have run := run_guarded_of_execute executed
  exact ⟨finish, run, log, leases_exclusive sampleTasks takeover finish run⟩

/-- After a claim that succeeds, the other agents are refused ever after. -/
def EvictedForEver (middle : System) : Prop :=
  ∀ taskId taker ttlMinutes now tasks claimed,
    answer middle.tasks (.claim taskId taker ttlMinutes) now = .ok tasks →
      Fires next middle ⟨.claim taskId taker ttlMinutes, now⟩ claimed → ∀ actions finish agentId,
        Run (guarded (Fires next) ByAgents) claimed actions finish →
          agentId ≠ taker.assigneeId → Refuses finish.tasks taskId agentId

def comeback : List Action :=
  [⟨.release "first" otherAgent (.text "reason"), 60002⟩,
    ⟨.claim "first" sampleAgent (some 1), 60003⟩]

theorem evicted_agent_returns :
    ∃ middle, Run (guarded (Fires next) ByAgents) (System.opening sampleTasks)
      [⟨.claim "first" sampleAgent (some 1), 0⟩] middle ∧ ¬ EvictedForEver middle := by
  obtain ⟨middle, executed, takes⟩ := @exists_of_execute_any _ _ (restricted next ByAgents)
    (fun middle =>
      (answer middle.tasks (.claim "first" otherAgent (some 1)) 60001).isOk = true ∧
        (execute (restricted next ByAgents) middle
          (⟨.claim "first" otherAgent (some 1), 60001⟩ :: comeback)).any (fun finish =>
            (answer finish.tasks (.renew "first" sampleAgent (some 1)) 60004).isOk) = true) _
    [⟨.claim "first" sampleAgent (some 1), 0⟩]
    (System.opening sampleTasks) (by decide +kernel)
  refine ⟨middle, run_guarded_of_execute executed, ?_⟩
  intro evicted
  obtain ⟨accepted, returns⟩ := takes
  obtain ⟨finish, ran, renews⟩ := (Option.any_eq_true _ _).mp returns
  cases answered : answer middle.tasks (.claim "first" otherAgent (some 1)) 60001 with
  | error failure =>
    rw [answered] at accepted
    cases accepted
  | ok tasks =>
    cases run_guarded_of_execute ran with
    | cons taken onward =>
      obtain ⟨failure, refused⟩ := evicted "first" otherAgent (some 1)
        60001 tasks _ answered taken.2 comeback finish "agent" onward
        (by decide) (.renew "first" sampleAgent (some 1)) ⟨rfl, rfl⟩
        60004
      rw [refused] at renews
      cases renews

end DcpPlatform.Missions
