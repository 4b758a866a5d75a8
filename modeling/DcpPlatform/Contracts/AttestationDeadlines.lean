import DcpPlatform.Contracts.AttestationEffects

/-!
# Challenge deadlines

A job keeps its announced deadline when a challenge can succeed exactly up to
it and a release exactly after it. It does so exactly while the window is the
one of its attestation.
-/

namespace DcpPlatform.Contracts.JobAttestation

open Foundation List
open Contracts.Escrow (JobId Revert Transfer Moves)

variable {Ledger Signature : Type} {deployment : Deployment Ledger Signature}

def deadlines (chain : Chain Ledger) (jobId : JobId) : List Nat :=
  chain.events.filterMap (Event.deadline jobId)

/-- A challenge can succeed at this time. -/
def Challengeable (chain : Chain Ledger) (jobId : JobId) (timestamp : Nat) : Prop :=
  ∃ sender reason after,
    challengeAttestation (chain.at timestamp) sender jobId reason = Except.ok after

def Releasable (deployment : Deployment Ledger Signature)
    (chain : Chain Ledger) (jobId : JobId) (timestamp : Nat) : Prop :=
  ∃ after, releasePayment deployment (chain.at timestamp) jobId = Except.ok after

def Payable (deployment : Deployment Ledger Signature)
    (chain : Chain Ledger) (jobId : JobId) (timestamp : Nat) : Prop :=
  ∃ paid,
    payProvider deployment ((chain.at timestamp).setStatus jobId .released) jobId = Except.ok paid

structure Keeps (deployment : Deployment Ledger Signature)
    (chain : Chain Ledger) (jobId : JobId) (deadline : Nat) : Prop where
  challenge : ∀ timestamp, timestamp ≤ uint256Max →
    (Challengeable chain jobId timestamp ↔ timestamp ≤ deadline)
  release : ∀ timestamp, timestamp ≤ uint256Max → (Releasable deployment chain jobId timestamp ↔
    deadline < timestamp ∧ Payable deployment chain jobId timestamp)

def currentDeadline (chain : Chain Ledger) (jobId : JobId) : Nat :=
  (chain.storage.jobs jobId).attestedAt + chain.storage.challengeWindow

variable {chain : Chain Ledger} {jobId : JobId} {timestamp : Nat}

theorem challengeable_iff :
    Challengeable chain jobId timestamp ↔ (chain.storage.jobs jobId).status = .attested ∧
      currentDeadline chain jobId ≤ uint256Max ∧
      timestamp ≤ currentDeadline chain jobId := by
  constructor
  · rintro ⟨sender, reason, after, succeeded⟩
    simp only [challengeAttestation, require_bind_eq_ok_iff] at succeeded
    obtain ⟨attested, _, checked⟩ := succeeded
    obtain ⟨deadline, added, checked⟩ := bind_eq_ok_iff.mp checked
    rw [checkedAdd_eq_ok_iff] at added
    rw [require_bind_eq_ok_iff] at checked
    obtain ⟨bounded, rfl⟩ := added
    exact ⟨attested, bounded, checked.1⟩
  · rintro ⟨attested, bounded, inTime⟩
    refine ⟨(chain.storage.jobs jobId).renter, "reason", { chain.at timestamp with
      storage := chain.storage.store jobId { chain.storage.jobs jobId with
        status := .challenged, challengeReason := "reason" }
      events := chain.events ++
        [.challengeFiled jobId (chain.storage.jobs jobId).renter "reason"] }, ?_⟩
    simp only [challengeAttestation, require_bind_eq_ok_iff]
    exact ⟨attested, rfl, bind_eq_ok_iff.mpr ⟨_, checkedAdd_eq_ok_iff.mpr ⟨bounded, rfl⟩,
        require_bind_eq_ok_iff.mpr ⟨inTime, require_bind_eq_ok_iff.mpr ⟨by decide, rfl⟩⟩⟩⟩

theorem releasable_iff :
    Releasable deployment chain jobId timestamp ↔ (chain.storage.jobs jobId).status = .attested ∧
      currentDeadline chain jobId ≤ uint256Max ∧
      currentDeadline chain jobId < timestamp ∧
      Payable deployment chain jobId timestamp := by
  constructor
  · rintro ⟨after, succeeded⟩
    simp only [releasePayment, require_bind_eq_ok_iff] at succeeded
    obtain ⟨attested, checked⟩ := succeeded
    obtain ⟨deadline, added, checked⟩ := bind_eq_ok_iff.mp checked
    rw [checkedAdd_eq_ok_iff] at added
    rw [require_bind_eq_ok_iff] at checked
    obtain ⟨bounded, rfl⟩ := added
    obtain ⟨late, paying⟩ := checked
    obtain ⟨paid, succeeded, _⟩ := bind_eq_ok_iff.mp paying
    exact ⟨attested, bounded, late, paid, succeeded⟩
  · rintro ⟨attested, bounded, late, paid, succeeded⟩
    refine ⟨paid.1.emit
      [.paymentReleased jobId (chain.storage.jobs jobId).provider paid.2.1 paid.2.2], ?_⟩
    simp only [releasePayment, require_bind_eq_ok_iff]
    exact ⟨attested, bind_eq_ok_iff.mpr ⟨_, checkedAdd_eq_ok_iff.mpr ⟨bounded, rfl⟩,
        require_bind_eq_ok_iff.mpr ⟨late, bind_eq_ok_iff.mpr ⟨paid, succeeded, rfl⟩⟩⟩⟩

theorem keeps_iff {deadline : Nat} (attested : (chain.storage.jobs jobId).status = .attested)
    (bounded : deadline ≤ uint256Max) :
    Keeps deployment chain jobId deadline ↔ currentDeadline chain jobId = deadline := by
  constructor
  · intro keeps
    have atDeadline := (keeps.challenge deadline bounded).mpr le_rfl
    obtain ⟨_, currentBounded, inTime⟩ := challengeable_iff.mp atDeadline
    have atCurrent : Challengeable chain jobId (currentDeadline chain jobId) :=
      challengeable_iff.mpr ⟨attested, currentBounded, le_rfl⟩
    have notLater := (keeps.challenge _ currentBounded).mp atCurrent
    exact Nat.le_antisymm notLater inTime
  · rintro rfl
    constructor
    · intro timestamp _
      rw [challengeable_iff]
      exact ⟨fun facts => facts.2.2, fun inTime => ⟨attested, bounded, inTime⟩⟩
    · intro timestamp _
      rw [releasable_iff]
      exact ⟨fun facts => facts.2.2, fun facts => ⟨attested, bounded, facts⟩⟩

/-- Every attested job keeps every deadline announced for it. -/
def KeepsDeadlines (deployment : Deployment Ledger Signature) (chain : Chain Ledger) : Prop :=
  ∀ jobId deadline, deadline ∈ deadlines chain jobId →
    (chain.storage.jobs jobId).status = .attested → Keeps deployment chain jobId deadline

def KeepsWindow (chain : Chain Ledger) : Action Signature → Prop
  | .transaction _ sender (.setChallengeWindow newWindow) =>
    sender = chain.storage.owner → 3600 ≤ newWindow → newWindow = chain.storage.challengeWindow ∨
      ∀ jobId, (chain.storage.jobs jobId).status ≠ .attested
  | _ => True

structure Announced (chain : Chain Ledger) : Prop where
  before : ∀ jobId, (chain.storage.jobs jobId).status = .empty ∨
    (chain.storage.jobs jobId).status = .deposited → deadlines chain jobId = []
  after : ∀ jobId, (chain.storage.jobs jobId).status = .attested →
    ∃ deadline, deadline ≤ uint256Max ∧ deadlines chain jobId = [deadline]

variable {events : List Event} {after : Chain Ledger}

theorem deadlines_append (chain : Chain Ledger) (jobId : JobId)
    (appended : after.events = chain.events ++ events) :
    deadlines after jobId = deadlines chain jobId ++ events.filterMap (Event.deadline jobId) := by
  unfold deadlines
  rw [appended, filterMap_append]

theorem deadlines_subset (chain : Chain Ledger) (jobId : JobId)
    (appended : after.events = chain.events ++ events) :
    deadlines chain jobId ⊆ deadlines after jobId := by
  rw [deadlines_append chain jobId appended]
  exact subset_append_left _ _

variable {chain after : Chain Ledger}

theorem deadlines_unannounced {events : List Event} (jobId : JobId)
    (appended : after.events = chain.events ++ events)
    (unannounced : Unannounced events) :
    deadlines after jobId = deadlines chain jobId := by
  rw [deadlines_append chain jobId appended, unannounced jobId, append_nil]

theorem Announced.of_same (announced : Announced chain)
    (jobs : after.storage.jobs = chain.storage.jobs)
    (same : ∀ jobId, deadlines after jobId = deadlines chain jobId) :
    Announced after := by
  constructor
  · intro jobId status
    rw [jobs] at status
    rw [same]
    exact announced.before jobId status
  · intro jobId status
    rw [jobs] at status
    rw [same]
    exact announced.after jobId status

variable {call : Call Signature} {sender self : Address} {record : JobRecord} {made : List Transfer}

theorem JobStep.status (step : JobStep chain sender self jobId call record made events) :
    ((chain.storage.jobs jobId).status = .deposited ∧ record.status = .attested ∧
      record.attestedAt = chain.timestamp ∧
      chain.timestamp + chain.storage.challengeWindow ≤ uint256Max ∧
      events.filterMap (Event.deadline jobId) = [chain.timestamp + chain.storage.challengeWindow] ∧
      ∀ other, other ≠ jobId → events.filterMap (Event.deadline other) = []) ∨
      (record.status ≠ .attested ∧ Unannounced events ∧
        (record.status = .empty ∨ record.status = .deposited →
          (chain.storage.jobs jobId).status = .empty)) := by
  cases step with
  | deposit unused unannounced =>
    exact Or.inr ⟨nofun, unannounced, fun _ => unused⟩
  | @attest job signature sameJob deposited bounded =>
    refine Or.inl ⟨deposited, rfl, rfl, bounded, ?_, ?_⟩
    · simp [Event.deadline]
    · intro other different
      simp [Event.deadline, Ne.symm different]
  | challenge attested =>
    refine Or.inr ⟨nofun, fun _ => rfl, ?_⟩
    rintro (status | status) <;> cases status
  | refund challenged _ unannounced | vindicate _ _ _ unannounced | release _ _ unannounced =>
    refine Or.inr ⟨nofun, unannounced, ?_⟩
    rintro (status | status) <;> cases status

variable {chain : Chain Ledger}

theorem effect_announced (announced : Announced chain)
    (effect : Effect deployment chain sender call after) :
    Announced after := by
  cases effect with
  | window _ _ unannounced | verified _ unannounced =>
    exact announced.of_same rfl (deadlines_unannounced · rfl unannounced)
  | owner _ _ =>
    exact announced.of_same rfl (fun _ => rfl)
  | @job jobId record made events ledger _ step _ =>
    rcases step.status with
      ⟨deposited, attested, _, bounded, own, others⟩ | ⟨notAttested, unannounced, unused⟩
    · have none_ := announced.before jobId (Or.inr deposited)
      constructor
      · intro other status
        by_cases same : other = jobId
        · subst same
          simp only [store_jobs_self, attested] at status
          rcases status with status | status <;> cases status
        · simp only [store_jobs_of_ne _ _ same] at status
          rw [deadlines_append chain other rfl, others other same, append_nil]
          exact announced.before other status
      · intro other status
        by_cases same : other = jobId
        · subst same
          refine ⟨_, bounded, ?_⟩
          rw [deadlines_append chain other rfl, none_, own, nil_append]
        · simp only [store_jobs_of_ne _ _ same] at status
          rw [deadlines_append chain other rfl, others other same, append_nil]
          exact announced.after other status
    · constructor
      · intro other status
        rw [deadlines_unannounced other rfl unannounced]
        by_cases same : other = jobId
        · subst same
          simp only [store_jobs_self] at status
          exact announced.before other (Or.inl (unused status))
        · simp only [store_jobs_of_ne _ _ same] at status
          exact announced.before other status
      · intro other status
        rw [deadlines_unannounced other rfl unannounced]
        by_cases same : other = jobId
        · subst same
          simp only [store_jobs_self] at status
          exact absurd status notAttested
        · simp only [store_jobs_of_ne _ _ same] at status
          exact announced.after other status

variable {action : Action Signature}

theorem step_announced (announced : Announced chain)
    (step : Step deployment chain action after) : Announced after := by
  cases step with
  | @succeeded _ timestamp _ _ _ _ _ performed =>
    have later : Announced (chain.at timestamp) := announced.of_same rfl (fun _ => rfl)
    exact effect_announced later (perform_effect performed)
  | reverted _ _ _ _ | tokenActivity _ _ _ =>
    exact announced.of_same rfl (fun _ => rfl)

def Computed (chain : Chain Ledger) : Prop :=
  ∀ jobId deadline, deadline ∈ deadlines chain jobId →
    (chain.storage.jobs jobId).status = .attested → currentDeadline chain jobId = deadline

theorem keepsDeadlines_iff {chain : Chain Ledger} (announced : Announced chain) :
    KeepsDeadlines deployment chain ↔ Computed chain := by
  have bounded {jobId : JobId} {deadline : Nat} (member : deadline ∈ deadlines chain jobId)
      (attested : (chain.storage.jobs jobId).status = .attested) :
      deadline ≤ uint256Max := by
    obtain ⟨only, small, same⟩ := announced.after jobId attested
    rw [same, mem_singleton] at member
    rw [member]
    exact small
  constructor
  · intro keeps jobId deadline member attested
    exact (keeps_iff attested (bounded member attested)).mp (keeps jobId deadline member attested)
  · intro computed jobId deadline member attested
    exact (keeps_iff attested (bounded member attested)).mpr
      (computed jobId deadline member attested)

theorem Computed.of_same (computed : Computed chain)
    (jobs : after.storage.jobs = chain.storage.jobs)
    (window : after.storage.challengeWindow = chain.storage.challengeWindow)
    (same : ∀ jobId, deadlines after jobId = deadlines chain jobId) :
    Computed after := by
  intro jobId deadline member attested
  rw [jobs] at attested
  rw [same] at member
  have current := computed jobId deadline member attested
  unfold currentDeadline at current ⊢
  rw [jobs, window]
  exact current

theorem keepsWindow_of_bystands (chain : Chain Ledger) (timestamp : Nat)
    (sender : Address) (bystands : call.Bystands) :
    KeepsWindow chain (.transaction timestamp sender call) := by
  cases call with
  | setChallengeWindow newWindow => cases bystands
  | _ => trivial

theorem JobStep.keepsWindow (step : JobStep chain sender self jobId call record made events)
    (timestamp : Nat) :
    KeepsWindow chain (.transaction timestamp sender call) := by
  cases step
  all_goals trivial

theorem effect_computed_iff (timestamp : Nat)
    (announced : Announced chain) (computed : Computed chain)
    (effect : Effect deployment chain sender call after) :
    Computed after ↔ KeepsWindow chain (.transaction timestamp sender call) := by
  cases effect with
  | @window newWindow events owner long unannounced =>
    have same := fun jobId =>
      @deadlines_unannounced _ chain { chain with
          storage := { chain.storage with challengeWindow := newWindow }
          events := chain.events ++ events } events jobId rfl unannounced
    constructor
    · intro still _ _
      by_cases none_ : ∀ jobId, (chain.storage.jobs jobId).status ≠ .attested
      · exact Or.inr none_
      · push Not at none_
        obtain ⟨jobId, attested⟩ := none_
        obtain ⟨deadline, _, only⟩ := announced.after jobId attested
        have member : deadline ∈ deadlines chain jobId := by
          rw [only]
          exact mem_cons_self
        have before := computed jobId deadline member attested
        rw [← same jobId] at member
        have now := still jobId deadline member attested
        unfold currentDeadline at before now
        dsimp only at now
        exact Or.inl (by omega)
    · intro kept jobId deadline member attested
      rw [same] at member
      rcases kept owner long with unchanged | none_
      · have before := computed jobId deadline member attested
        unfold currentDeadline at before ⊢
        rw [unchanged]
        exact before
      · exact absurd attested (none_ jobId)
  | @owner newOwner call bystands _ =>
    have trivially := keepsWindow_of_bystands chain timestamp sender bystands
    exact ⟨fun _ => trivially, fun _ => computed.of_same rfl rfl (fun _ => rfl)⟩
  | @verified call events verifiedJobs bystands unannounced =>
    have trivially := keepsWindow_of_bystands chain timestamp sender bystands
    exact ⟨fun _ => trivially, fun _ => computed.of_same rfl rfl
      (deadlines_unannounced · rfl unannounced)⟩
  | @job jobId record made events ledger call step _ =>
    refine ⟨fun _ => step.keepsWindow timestamp, fun _ => ?_⟩
    intro other deadline member attested
    unfold currentDeadline
    rcases step.status with
      ⟨deposited, _, attestedAt, _, own, others⟩ | ⟨notAttested, unannounced, _⟩
    · by_cases same : other = jobId
      · subst same
        rw [deadlines_append chain other rfl, announced.before other (Or.inr deposited), own,
          nil_append, mem_singleton] at member
        simp only [store_jobs_self]
        rw [attestedAt, member]
        rfl
      · rw [deadlines_append chain other rfl, others other same, append_nil] at member
        simp only [store_jobs_of_ne _ _ same] at attested ⊢
        exact computed other deadline member attested
    · rw [deadlines_unannounced other rfl unannounced] at member
      by_cases same : other = jobId
      · subst same
        simp only [store_jobs_self] at attested
        exact absurd attested notAttested
      · simp only [store_jobs_of_ne _ _ same] at attested ⊢
        exact computed other deadline member attested

theorem step_computed_iff (announced : Announced chain) (computed : Computed chain)
    (step : Step deployment chain action after) :
    Computed after ↔ KeepsWindow chain action := by
  cases step with
  | @succeeded _ timestamp sender call _ _ _ performed =>
    have laterAnnounced : Announced (chain.at timestamp) := announced.of_same rfl (fun _ => rfl)
    have laterComputed : Computed (chain.at timestamp) := computed.of_same rfl rfl (fun _ => rfl)
    have same : KeepsWindow (chain.at timestamp) (.transaction timestamp sender call) ↔
        KeepsWindow chain (.transaction timestamp sender call) := by
      cases call <;> rfl
    rw [effect_computed_iff timestamp laterAnnounced laterComputed (perform_effect performed), same]
  | @reverted timestamp sender call reason _ _ _ failed =>
    refine ⟨fun _ => ?_, fun _ =>
      computed.of_same rfl rfl (fun _ => rfl)⟩
    cases call with
    | setChallengeWindow newWindow =>
      intro owner long
      have succeeds :
          ∃ after, setChallengeWindow (chain.at timestamp) sender newWindow = Except.ok after := by
        refine ⟨{ chain.at timestamp with
          storage := { chain.storage with challengeWindow := newWindow }
          events := chain.events ++
            [.challengeWindowUpdated chain.storage.challengeWindow newWindow] }, ?_⟩
        unfold setChallengeWindow onlyOwner
        simp only [require_bind_eq_ok_iff]
        exact ⟨owner, long, rfl⟩
      obtain ⟨after, succeeded⟩ := succeeds
      rw [show perform deployment (chain.at timestamp) sender
        (.setChallengeWindow newWindow) = Except.ok after from succeeded] at failed
      cases failed
    | _ => trivial
  | tokenActivity _ _ _ =>
    exact ⟨fun _ => trivial, fun _ => computed.of_same rfl rfl (fun _ => rfl)⟩

theorem announced_of_deployed {usdc deployer : Address} {storage : Storage}
    (deployed : deploy usdc deployer = Except.ok storage)
    (ledger : Ledger) (timestamp : Nat) :
    Announced (Chain.mk storage ledger timestamp [] []) := by
  obtain ⟨jobs, _⟩ := deploy_facts deployed
  constructor
  · intro jobId _
    rfl
  · intro jobId attested
    simp only [jobs, emptyRecord] at attested
    cases attested

theorem computed_of_deployed {storage : Storage} (ledger : Ledger) (timestamp : Nat) :
    Computed (Chain.mk storage ledger timestamp [] []) := by
  intro jobId deadline member
  cases member

theorem step_deadlines (step : Step deployment chain action after) (jobId : JobId) :
    deadlines chain jobId ⊆ deadlines after jobId := by
  have effected {middle : Chain Ledger} {sender : Address} {call : Call Signature} (timestamp : Nat)
      (effect : Effect deployment (chain.at timestamp) sender call middle) :
      deadlines chain jobId ⊆ deadlines middle jobId := by
    cases effect with
    | job _ _ | window _ _ _ | verified _ _ =>
      exact deadlines_subset (chain.at timestamp) jobId rfl
    | owner _ _ =>
      exact fun _ member => member
  cases step with
  | @succeeded _ timestamp _ _ _ _ _ performed =>
    exact effected timestamp (perform_effect performed)
  | reverted _ _ _ _ | tokenActivity _ _ _ =>
    exact fun _ member => member

theorem not_challengeable_of_releasable {middle finish : Chain Ledger}
    (middleAnnounced : Announced middle)
    (middleComputed : Computed middle) (finishComputed : Computed finish)
    (kept : deadlines middle jobId ⊆ deadlines finish jobId)
    {earlier later : Nat} (order : earlier ≤ later)
    (releasable : Releasable deployment middle jobId earlier) :
    ¬ Challengeable finish jobId later := by
  intro challengeable
  obtain ⟨attested, _, late, _⟩ := releasable_iff.mp releasable
  obtain ⟨stillAttested, _, inTime⟩ := challengeable_iff.mp challengeable
  obtain ⟨deadline, _, only⟩ := middleAnnounced.after jobId attested
  have member : deadline ∈ deadlines middle jobId := by
    rw [only]
    exact mem_cons_self
  have before := middleComputed jobId deadline member attested
  have now := finishComputed jobId deadline (kept member) stillAttested
  omega

/-- The runs from deployment in which every attested job keeps its announced
deadline throughout are those in which the owner never changes the window
while a job is attested. In them a job that could be released can never be
challenged again. -/
theorem deadlines_kept {usdc deployer : Address} {storage : Storage}
    {ledger : Ledger} {timestamp : Nat} {middle finish : Chain Ledger}
    {actions laterActions : List (Action Signature)}
    (deployed : deploy usdc deployer = Except.ok storage) :
    (Run (staying (Step deployment) (KeepsDeadlines deployment))
      ⟨storage, ledger, timestamp, [], []⟩ actions middle ↔
        Run (guarded (Step deployment) KeepsWindow)
          ⟨storage, ledger, timestamp, [], []⟩ actions middle) ∧
      (Run (guarded (Step deployment) KeepsWindow)
        ⟨storage, ledger, timestamp, [], []⟩ actions middle →
        KeepsDeadlines deployment middle ∧
          (Run (guarded (Step deployment) KeepsWindow) middle laterActions finish →
            ∀ jobId earlier later, earlier ≤ later → Releasable deployment middle jobId earlier →
              ¬ Challengeable finish jobId later)) := by
  have announced := announced_of_deployed deployed ledger timestamp
  have computed := @computed_of_deployed _ storage ledger timestamp
  have keeps := (@keepsDeadlines_iff _ _ deployment _ announced).mpr computed
  have same := @Run.staying_iff_guarded _ _ (Step deployment)
      ⟨storage, ledger, timestamp, [], []⟩ middle actions Announced
      (KeepsDeadlines deployment) KeepsWindow
      (fun announced _ step _ => step_announced announced step)
      (fun announced keeps step => by
        rw [keepsDeadlines_iff (step_announced announced step)]
        exact step_computed_iff announced ((keepsDeadlines_iff announced).mp keeps) step)
      announced keeps
  refine ⟨same, ?_⟩
  intro run
  have middleKeeps := Run.holds_of_staying keeps (same.mpr run)
  have middleAnnounced := run.of_guarded.invariant Announced
      (fun announced step => step_announced announced step) announced
  have middleComputed := (keepsDeadlines_iff middleAnnounced).mp middleKeeps
  refine ⟨middleKeeps, ?_⟩
  intro laterRun jobId earlier later order releasable
  have finishFacts := laterRun.invariant (fun chain => Announced chain ∧ Computed chain)
      (fun facts taken =>
        ⟨step_announced facts.1 taken.2, (step_computed_iff facts.1 facts.2 taken.2).mpr taken.1⟩)
      ⟨middleAnnounced, middleComputed⟩
  have kept := laterRun.of_guarded.relates (fun _ => True)
      (fun before after => deadlines before jobId ⊆ deadlines after jobId)
      (fun _ _ member => member)
      (fun first second _ member => second (first member))
      (fun _ _ => trivial) (fun _ step => step_deadlines step jobId)
      trivial
  exact not_challengeable_of_releasable middleAnnounced middleComputed
    finishFacts.2 kept order releasable

def setsWindow : Action Signature → Bool
  | .transaction _ _ (.setChallengeWindow _) => true
  | _ => false

theorem keepsWindow_of_not_sets (other : setsWindow action = false) :
    KeepsWindow chain action := by
  cases action with
  | transaction timestamp sender call =>
    cases call with
    | setChallengeWindow newWindow => cases other
    | _ => trivial
  | tokenActivity timestamp => trivial

theorem deadlines_kept_sample :
    ∃ finish, Run (guarded (Step sampleDeployment) KeepsWindow)
      ⟨sampleStorage, sampleLedger, 0, [], []⟩ attestedSample finish ∧
        deadlines finish 7#256 = [86500] ∧
        KeepsDeadlines sampleDeployment finish := by
  obtain ⟨finish, executed, announced⟩ : ∃ finish, execute
      (restricted (nextCall sampleDeployment) (fun _ action => setsWindow action = false))
      ⟨sampleStorage, sampleLedger, 0, [], []⟩ attestedSample =
        some finish ∧ deadlines finish 7#256 = [86500] :=
    exists_of_execute_any (by decide +kernel)
  have run : Run (guarded (Step sampleDeployment) KeepsWindow)
      ⟨sampleStorage, sampleLedger, 0, [], []⟩ attestedSample finish :=
    (run_guarded_of_execute executed).mono (fun taken =>
      ⟨keepsWindow_of_not_sets taken.1, step_of_nextCall taken.2⟩)
  have facts := @deadlines_kept _ _ sampleDeployment _ _ _ sampleLedger 0 finish finish
      attestedSample [] sampleStorage_deployed
  exact ⟨finish, run, announced, (facts.2 run).1⟩

def succeeds (outcome : Except Revert (Chain Ledger)) : Bool :=
  outcome.isOk

theorem exists_of_succeeds {outcome : Except Revert (Chain Ledger)}
    (passes : succeeds outcome = true) :
    ∃ after, outcome = Except.ok after := by
  cases outcome with
  | error reason => cases passes
  | ok after => exact ⟨after, rfl⟩

/-- The owner shortens the window of an attested job: the job announced a
deadline at 86500, is released at 5000 and cannot be challenged then. The
owner lengthens the window of a job that can be released at 90000: it can be
challenged at 90001. -/
theorem announced_deadline_not_kept :
    ∃ attested shortened lengthened, Run (Step sampleDeployment)
      ⟨sampleStorage, sampleLedger, 0, [], []⟩ attestedSample attested ∧
        deadlines attested 7#256 = [86500] ∧
        Run (Step sampleDeployment) attested
          [.transaction 200 4#160 (.setChallengeWindow 3600)] shortened ∧
        Releasable sampleDeployment shortened 7#256 5000 ∧
        ¬ Challengeable shortened 7#256 5000 ∧
        Releasable sampleDeployment attested 7#256 90000 ∧
        Run (Step sampleDeployment) attested [.transaction 90000 4#160 (.setChallengeWindow 172800)]
          lengthened ∧
        Challengeable lengthened 7#256 90001 := by
  obtain ⟨attested, executed, announced, released⟩ : ∃ attested, execute (nextCall sampleDeployment)
      ⟨sampleStorage, sampleLedger, 0, [], []⟩ attestedSample = some attested ∧
        deadlines attested 7#256 = [86500] ∧
        succeeds (releasePayment sampleDeployment (attested.at 90000) 7#256) =
          true :=
    exists_of_execute_any (by decide +kernel)
  obtain ⟨shortened, shortenedExecuted, early, current⟩ : ∃ shortened,
      execute (nextCall sampleDeployment) ⟨sampleStorage, sampleLedger, 0, [], []⟩
        (attestedSample ++ [.transaction 200 4#160 (.setChallengeWindow 3600)]) =
        some shortened ∧
        succeeds (releasePayment sampleDeployment (shortened.at 5000) 7#256) = true ∧
        currentDeadline shortened 7#256 < 5000 :=
    exists_of_execute_any (by decide +kernel)
  obtain ⟨lengthened, lengthenedExecuted, again⟩ : ∃ lengthened,
      execute (nextCall sampleDeployment) ⟨sampleStorage, sampleLedger, 0, [], []⟩
        (attestedSample ++ [.transaction 90000 4#160 (.setChallengeWindow 172800)]) =
        some lengthened ∧
        succeeds (challengeAttestation (lengthened.at 90001) 5#160 7#256 "reason") = true :=
    exists_of_execute_any (by decide +kernel)
  obtain ⟨middle, toMiddle, toShortened⟩ := (run_of_execute shortenedExecuted).split
  obtain ⟨other, toOther, toLengthened⟩ := (run_of_execute lengthenedExecuted).split
  have sameMiddle := (run_of_execute executed).deterministic toMiddle
  have sameOther := (run_of_execute executed).deterministic toOther
  subst sameMiddle sameOther
  refine ⟨attested, shortened, lengthened,
    (run_of_execute executed).mono step_of_nextCall, announced,
    toShortened.mono step_of_nextCall, exists_of_succeeds early, ?_,
    exists_of_succeeds released, toLengthened.mono step_of_nextCall, ?_⟩
  · intro challengeable
    have inTime := (challengeable_iff.mp challengeable).2.2
    omega
  · obtain ⟨after, succeeded⟩ := exists_of_succeeds again
    exact ⟨5#160, "reason", after, succeeded⟩

end DcpPlatform.Contracts.JobAttestation
