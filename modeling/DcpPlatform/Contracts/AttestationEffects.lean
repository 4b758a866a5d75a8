import DcpPlatform.Contracts.EscrowSafety
import DcpPlatform.Contracts.JobAttestation

/-!
# What a call of the attestation contract does

`JobStep` lists the new records of a job with the token movements and events
made for it. `Effect` is a successful call: a step of one job, or a change
that concerns no job. Solvency is read off it.
-/

namespace DcpPlatform.Contracts.JobAttestation

open Foundation List
open Contracts.Escrow (JobId Revert Transfer Moves)

variable {Ledger Signature : Type} {deployment : Deployment Ledger Signature}
    {chain after : Chain Ledger} {jobId : JobId} {amount : Nat}

theorem safeTransfer_eq_ok {recipient : Address}
    (succeeded : safeTransfer deployment chain jobId recipient amount = Except.ok after) :
    Moves (deployment.token.balanceOf chain.ledger) [⟨jobId, deployment.self, recipient, amount⟩]
      (deployment.token.balanceOf after.ledger) ∧
      after = { chain with
        ledger := after.ledger
        transfers := chain.transfers ++ [⟨jobId, deployment.self, recipient, amount⟩] } := by
  obtain ⟨ledger, transferred, result⟩ := bind_eq_ok_iff.mp succeeded
  rw [orFail_eq_ok_iff] at transferred
  cases result
  refine ⟨?_, rfl⟩
  rw [deployment.token.transfer_exact transferred]
  exact Moves.cons (deployment.token.transfer_covered transferred) (Moves.nil _)

theorem safeTransferFrom_eq_ok {holder : Address}
    (succeeded : safeTransferFrom deployment chain jobId holder amount = Except.ok after) :
    Moves (deployment.token.balanceOf chain.ledger) [⟨jobId, holder, deployment.self, amount⟩]
      (deployment.token.balanceOf after.ledger) ∧
      after = { chain with
        ledger := after.ledger
        transfers := chain.transfers ++ [⟨jobId, holder, deployment.self, amount⟩] } := by
  obtain ⟨ledger, transferred, result⟩ := bind_eq_ok_iff.mp succeeded
  rw [orFail_eq_ok_iff] at transferred
  cases result
  refine ⟨?_, rfl⟩
  rw [deployment.token.transferFrom_exact transferred]
  exact Moves.cons (deployment.token.transferFrom_covered transferred) (Moves.nil _)

theorem checkedAdd_eq_ok_iff {left right sum : Nat} :
    checkedAdd left right = Except.ok sum ↔ left + right ≤ uint256Max ∧ left + right = sum := by
  rw [checkedAdd, require_bind_eq_ok_iff]
  constructor
  · rintro ⟨bounded, result⟩
    injection result with result
    exact ⟨bounded, result⟩
  · rintro ⟨bounded, same⟩
    rw [same]
    exact ⟨same ▸ bounded, rfl⟩

theorem feeOf_eq_ok {amount fee : Nat} (computed : feeOf amount = Except.ok fee) :
    amount * feeBps ≤ uint256Max ∧ fee ≤ amount := by
  rw [feeOf, require_bind_eq_ok_iff] at computed
  obtain ⟨bounded, ⟨⟩⟩ := computed
  refine ⟨bounded, ?_⟩
  unfold feeBps bpsDenominator
  omega

def payments (self owner : Address) (jobId : JobId) (record : JobRecord)
    (fee : Nat) : List Transfer :=
  [⟨jobId, self, record.provider, record.amount - fee⟩, ⟨jobId, self, owner, fee⟩]

variable {result : Chain Ledger × Nat × Nat}

theorem payProvider_eq_ok (succeeded : payProvider deployment chain jobId = Except.ok result) :
    ∃ ledger fee, fee ≤ (chain.storage.jobs jobId).amount ∧
      Moves (deployment.token.balanceOf chain.ledger)
        (payments deployment.self chain.storage.owner jobId (chain.storage.jobs jobId) fee)
        (deployment.token.balanceOf ledger) ∧
      result.1 = { chain with
        ledger := ledger
        transfers := chain.transfers ++ payments deployment.self chain.storage.owner jobId
          (chain.storage.jobs jobId) fee } := by
  obtain ⟨fee, computed, paying⟩ := bind_eq_ok_iff.mp succeeded
  obtain ⟨paid, providerPaid, paying⟩ := bind_eq_ok_iff.mp paying
  obtain ⟨after, feePaid, done⟩ := bind_eq_ok_iff.mp paying
  obtain ⟨providerMoved, paidEq⟩ := safeTransfer_eq_ok providerPaid
  obtain ⟨feeMoved, afterEq⟩ := safeTransfer_eq_ok feePaid
  rw [paidEq] at afterEq feeMoved
  cases done
  refine ⟨after.ledger, fee, (feeOf_eq_ok computed).2, providerMoved.append feeMoved, ?_⟩
  rw [afterEq]
  simp [payments]

def Event.deadline (jobId : JobId) : Event → Option Nat
  | .jobAttested other _ _ _ _ challengeDeadline =>
    if other = jobId then some challengeDeadline else none
  | _ => none

def Unannounced (events : List Event) : Prop :=
  ∀ jobId, events.filterMap (Event.deadline jobId) = []

inductive JobStep (chain : Chain Ledger) (sender self : Address) (jobId : JobId) :
    Call Signature → JobRecord → List Transfer → List Event → Prop
  | deposit {provider : Address} {amount : Nat} {events : List Event} :
      (chain.storage.jobs jobId).status = .empty →
      Unannounced events →
      JobStep chain sender self jobId (.depositForJob jobId provider amount) { emptyRecord with
        renter := sender
        provider := provider
        amount := amount
        depositedAt := chain.timestamp
        status := .deposited }
        [⟨jobId, sender, self, amount⟩] events
  | attest {job : AttestationData} {signature : Signature} :
      job.jobId = jobId →
      (chain.storage.jobs jobId).status = .deposited →
      chain.timestamp + chain.storage.challengeWindow ≤ uint256Max →
      JobStep chain sender self jobId (.attestJob job signature)
        ((chain.storage.jobs jobId).attest job chain.timestamp) []
        [.jobAttested jobId job.provider job.tokensUsed job.durationSecs job.outputHash
          (chain.timestamp + chain.storage.challengeWindow)]
  | challenge {reason : String} :
      (chain.storage.jobs jobId).status = .attested →
      JobStep chain sender self jobId (.challengeAttestation jobId reason)
        { chain.storage.jobs jobId with
          status := .challenged, challengeReason := reason } []
        [.challengeFiled jobId sender reason]
  | refund {events : List Event} :
      (chain.storage.jobs jobId).status = .challenged →
      sender = chain.storage.owner →
      Unannounced events →
      JobStep chain sender self jobId (.resolveChallenge jobId true)
        { chain.storage.jobs jobId with status := .resolved }
        [⟨jobId, self, (chain.storage.jobs jobId).renter, (chain.storage.jobs jobId).amount⟩] events
  | vindicate {fee : Nat} {events : List Event} :
      (chain.storage.jobs jobId).status = .challenged →
      sender = chain.storage.owner →
      fee ≤ (chain.storage.jobs jobId).amount →
      Unannounced events →
      JobStep chain sender self jobId (.resolveChallenge jobId false)
        { chain.storage.jobs jobId with status := .resolved }
        (payments self chain.storage.owner jobId (chain.storage.jobs jobId) fee) events
  | release {fee : Nat} {events : List Event} :
      (chain.storage.jobs jobId).status = .attested →
      fee ≤ (chain.storage.jobs jobId).amount →
      Unannounced events →
      JobStep chain sender self jobId (.releasePayment jobId)
        { chain.storage.jobs jobId with status := .released }
        (payments self chain.storage.owner jobId (chain.storage.jobs jobId) fee) events

def Call.Bystands : Call Signature → Prop
  | .transferOwnership _ | .renounceOwnership | .verifyJob _ _ _ _ _ => True
  | _ => False

inductive Effect (deployment : Deployment Ledger Signature)
    (chain : Chain Ledger) (sender : Address) :
    Call Signature → Chain Ledger → Prop
  | job {jobId : JobId} {record : JobRecord} {made : List Transfer}
      {events : List Event} {ledger : Ledger} {call : Call Signature} :
      JobStep chain sender deployment.self jobId call record made events →
      Moves (deployment.token.balanceOf chain.ledger) made (deployment.token.balanceOf ledger) →
      Effect deployment chain sender call { chain with
        storage := chain.storage.store jobId record
        ledger := ledger
        transfers := chain.transfers ++ made
        events := chain.events ++ events }
  | window {newWindow : Nat} {events : List Event} :
      sender = chain.storage.owner → 3600 ≤ newWindow →
      Unannounced events →
      Effect deployment chain sender (.setChallengeWindow newWindow) { chain with
        storage := { chain.storage with challengeWindow := newWindow }
        events := chain.events ++ events }
  | owner {newOwner : Address} {call : Call Signature} :
      call.Bystands → sender = chain.storage.owner →
      Effect deployment chain sender call
        { chain with storage := { chain.storage with owner := newOwner } }
  | verified {call : Call Signature} {events : List Event}
      {verifiedJobs : JobId → VerifiedJobRecord} :
      call.Bystands → Unannounced events →
      Effect deployment chain sender call { chain with
        storage := { chain.storage with verifiedJobs := verifiedJobs }
        events := chain.events ++ events }

theorem depositForJob_effect {sender provider : Address}
    (succeeded : depositForJob deployment chain sender jobId provider amount = Except.ok after) :
    Effect deployment chain sender (.depositForJob jobId provider amount)
      after := by
  simp only [depositForJob, require_bind_eq_ok_iff] at succeeded
  obtain ⟨unused, _, _, pulled⟩ := succeeded
  obtain ⟨funded, transferred, result⟩ := bind_eq_ok_iff.mp pulled
  obtain ⟨moved, fundedEq⟩ := safeTransferFrom_eq_ok transferred
  injection result with result
  rw [fundedEq] at result
  subst result
  refine Effect.job (JobStep.deposit unused ?_) moved
  intro other
  rfl

variable {sender : Address}

theorem attestJob_effect {job : AttestationData} {signature : Signature}
    (succeeded : attestJob deployment chain job signature = Except.ok after) :
    Effect deployment chain sender (.attestJob job signature) after := by
  simp only [attestJob, require_bind_eq_ok_iff] at succeeded
  obtain ⟨deposited, _, _, _, _, checked⟩ := succeeded
  obtain ⟨signer, _, checked⟩ := bind_eq_ok_iff.mp checked
  rw [require_bind_eq_ok_iff] at checked
  obtain ⟨deadline, added, result⟩ := bind_eq_ok_iff.mp checked.2
  rw [checkedAdd_eq_ok_iff] at added
  obtain ⟨bounded, sum⟩ := added
  injection result with result
  subst result sum
  have step : Effect deployment chain sender (.attestJob job signature) { chain with
      storage := chain.storage.store job.jobId
        ((chain.storage.jobs job.jobId).attest job chain.timestamp)
      ledger := chain.ledger
      transfers := chain.transfers ++ []
      events := chain.events ++ [.jobAttested job.jobId job.provider job.tokensUsed
        job.durationSecs job.outputHash
        (chain.timestamp + chain.storage.challengeWindow)] } :=
    Effect.job (JobStep.attest rfl deposited bounded) (Moves.nil _)
  rwa [append_nil] at step

theorem challengeAttestation_effect {reason : String}
    (succeeded : challengeAttestation chain sender jobId reason = Except.ok after) :
    Effect deployment chain sender (.challengeAttestation jobId reason)
      after := by
  simp only [challengeAttestation, require_bind_eq_ok_iff] at succeeded
  obtain ⟨attested, renter, checked⟩ := succeeded
  obtain ⟨deadline, _, checked⟩ := bind_eq_ok_iff.mp checked
  simp only [require_bind_eq_ok_iff] at checked
  obtain ⟨_, _, ⟨⟩⟩ := checked
  have step : Effect deployment chain sender (.challengeAttestation jobId reason) { chain with
      storage := chain.storage.store jobId { chain.storage.jobs jobId with
        status := .challenged, challengeReason := reason }
      ledger := chain.ledger
      transfers := chain.transfers ++ []
      events := chain.events ++ [.challengeFiled jobId sender reason] } :=
    Effect.job (JobStep.challenge attested) (Moves.nil _)
  rwa [append_nil] at step

@[simp]
theorem store_jobs_self (storage : Storage) (jobId : JobId) (record : JobRecord) :
    (storage.store jobId record).jobs jobId = record := by
  simp [Storage.store]

theorem store_jobs_of_ne (storage : Storage) {jobId other : JobId}
    (record : JobRecord) (different : other ≠ jobId) :
    (storage.store jobId record).jobs other = storage.jobs other := by
  simp [Storage.store, different]

theorem payProvider_setStatus_eq_ok {status : JobStatus}
    (succeeded : payProvider deployment (chain.setStatus jobId status) jobId = Except.ok result) :
    ∃ ledger fee, fee ≤ (chain.storage.jobs jobId).amount ∧
      Moves (deployment.token.balanceOf chain.ledger)
        (payments deployment.self chain.storage.owner jobId (chain.storage.jobs jobId) fee)
        (deployment.token.balanceOf ledger) ∧
      result.1 = { chain with
        storage := chain.storage.store jobId { chain.storage.jobs jobId with status := status }
        ledger := ledger
        transfers := chain.transfers ++ payments deployment.self chain.storage.owner jobId
          (chain.storage.jobs jobId) fee } := by
  have paid := payProvider_eq_ok succeeded
  simp only [Chain.setStatus, store_jobs_self] at paid
  exact paid

theorem resolveChallenge_effect {providerFault : Bool}
    (succeeded : resolveChallenge deployment chain sender jobId providerFault = Except.ok after) :
    Effect deployment chain sender (.resolveChallenge jobId providerFault) after := by
  simp only [resolveChallenge, onlyOwner, require_bind_eq_ok_iff] at succeeded
  obtain ⟨owner, challenged, succeeded⟩ := succeeded
  cases providerFault with
  | true =>
    obtain ⟨paid, refunded, done⟩ := bind_eq_ok_iff.mp succeeded
    obtain ⟨moved, paidEq⟩ := safeTransfer_eq_ok refunded
    injection done with done
    rw [paidEq] at done
    subst done
    refine Effect.job (JobStep.refund challenged owner ?_) moved
    intro other
    rfl
  | false =>
    obtain ⟨⟨paid, providerAmount, paidFee⟩, paying, done⟩ := bind_eq_ok_iff.mp succeeded
    obtain ⟨ledger, fee, within, moved, paidEq⟩ := payProvider_setStatus_eq_ok paying
    injection done with done
    rw [paidEq] at done
    subst done
    refine Effect.job (JobStep.vindicate challenged owner within ?_) moved
    intro other
    rfl

theorem releasePayment_effect
    (succeeded : releasePayment deployment chain jobId = Except.ok after) :
    Effect deployment chain sender (.releasePayment jobId) after := by
  simp only [releasePayment, require_bind_eq_ok_iff] at succeeded
  obtain ⟨attested, checked⟩ := succeeded
  obtain ⟨deadline, _, checked⟩ := bind_eq_ok_iff.mp checked
  rw [require_bind_eq_ok_iff] at checked
  obtain ⟨⟨paid, providerAmount, paidFee⟩, paying, done⟩ := bind_eq_ok_iff.mp checked.2
  obtain ⟨ledger, fee, within, moved, paidEq⟩ := payProvider_setStatus_eq_ok paying
  injection done with done
  rw [paidEq] at done
  subst done
  refine Effect.job (JobStep.release attested within ?_) moved
  intro other
  rfl

theorem verifyJob_effect {provider : Address} {inputTokens outputTokens : Nat}
    {providerSig : Signature}
    (succeeded : verifyJob deployment chain jobId provider inputTokens outputTokens
      providerSig = Except.ok after) :
    Effect deployment chain sender (.verifyJob jobId provider inputTokens outputTokens providerSig)
      after := by
  simp only [verifyJob, require_bind_eq_ok_iff] at succeeded
  obtain ⟨_, checked⟩ := succeeded
  obtain ⟨signer, _, checked⟩ := bind_eq_ok_iff.mp checked
  rw [require_bind_eq_ok_iff] at checked
  obtain ⟨totalTokens, _, ⟨⟩⟩ := bind_eq_ok_iff.mp checked.2
  refine Effect.verified trivial ?_
  intro other
  rfl

variable {call : Call Signature}

theorem perform_effect (succeeded : perform deployment chain sender call = Except.ok after) :
    Effect deployment chain sender call after := by
  cases call with
  | depositForJob jobId provider amount =>
    exact depositForJob_effect succeeded
  | attestJob job signature =>
    exact attestJob_effect succeeded
  | challengeAttestation jobId reason =>
    exact challengeAttestation_effect succeeded
  | resolveChallenge jobId providerFault =>
    exact resolveChallenge_effect succeeded
  | releasePayment jobId =>
    exact releasePayment_effect succeeded
  | setChallengeWindow newWindow =>
    simp only [perform, setChallengeWindow, onlyOwner, require_bind_eq_ok_iff] at succeeded
    obtain ⟨owner, long, ⟨⟩⟩ := succeeded
    exact Effect.window owner long (fun _ => rfl)
  | transferOwnership newOwner =>
    simp only [perform, transferOwnership, onlyOwner, require_bind_eq_ok_iff] at succeeded
    obtain ⟨owner, _, ⟨⟩⟩ := succeeded
    exact Effect.owner trivial owner
  | renounceOwnership =>
    simp only [perform, renounceOwnership, onlyOwner, require_bind_eq_ok_iff] at succeeded
    obtain ⟨owner, ⟨⟩⟩ := succeeded
    exact Effect.owner trivial owner
  | verifyJob jobId provider inputTokens outputTokens providerSig =>
    exact verifyJob_effect succeeded

def JobStatus.isOpen : JobStatus → Bool
  | .deposited | .attested | .challenged => true
  | _ => false

def heldAmount (record : JobRecord) : Nat :=
  if record.status.isOpen then record.amount else 0

/-- The token balance covers every finite set of open jobs. -/
def Solvent (deployment : Deployment Ledger Signature) (chain : Chain Ledger) : Prop :=
  ∀ jobs : Finset JobId, ∑ jobId ∈ jobs, heldAmount (chain.storage.jobs jobId) ≤
    deployment.token.balanceOf chain.ledger deployment.self

theorem JobStep.covers {sender self : Address} {record : JobRecord}
    {made : List Transfer} {events : List Event} {before after : Address → Nat}
    (step : JobStep chain sender self jobId call record made events)
    (foreign : sender ≠ self) (moved : Moves before made after) :
    before self + heldAmount record ≤ after self + heldAmount (chain.storage.jobs jobId) := by
  cases step with
  | deposit unused _ =>
    cases moved with
    | cons _ rest =>
      cases rest with
      | nil =>
        rw [moveBalance_recipient foreign]
        simp [heldAmount, JobStatus.isOpen]
  | attest _ deposited _ =>
    have kept := moved.le_add self
    simp only [map_nil, sum_nil] at kept
    simp only [heldAmount, JobRecord.attest, deposited, JobStatus.isOpen, if_true]
    omega
  | challenge attested =>
    have kept := moved.le_add self
    simp only [map_nil, sum_nil] at kept
    simp only [heldAmount, attested, JobStatus.isOpen, if_true]
    omega
  | refund challenged _ _ =>
    have paid := moved.le_add self
    simp only [map_cons, map_nil, sum_cons, sum_nil] at paid
    simp only [heldAmount, challenged, JobStatus.isOpen, if_true]
    simp
    omega
  | vindicate challenged _ within _ =>
    have paid := moved.le_add self
    simp only [payments, map_cons, map_nil, sum_cons, sum_nil] at paid
    simp only [heldAmount, challenged, JobStatus.isOpen, if_true]
    simp
    omega
  | release attested within _ =>
    have paid := moved.le_add self
    simp only [payments, map_cons, map_nil, sum_cons, sum_nil] at paid
    simp only [heldAmount, attested, JobStatus.isOpen, if_true]
    simp
    omega

theorem solvent_effect (solvent : Solvent deployment chain) (foreign : sender ≠ deployment.self)
    (effect : Effect deployment chain sender call after) :
    Solvent deployment after := by
  cases effect with
  | @job jobId record made events ledger _ step moved =>
    intro jobs
    refine sum_le_of_changed_member jobId ?_ solvent ?_ jobs
    · intro other different
      exact congrArg heldAmount (store_jobs_of_ne chain.storage record different)
    · have covered := step.covers foreign moved
      simpa using covered
  | window _ _ _ | owner _ _ | verified _ _ =>
    exact solvent

variable {action : Action Signature}

theorem solvent_step (solvent : Solvent deployment chain)
    (step : Step deployment chain action after) :
    Solvent deployment after := by
  cases step with
  | @succeeded _ timestamp _ _ _ _ sends performed =>
    have later : Solvent deployment (chain.at timestamp) := solvent
    exact solvent_effect later sends.1 (perform_effect performed)
  | reverted _ _ _ _ =>
    exact solvent
  | tokenActivity _ _ kept =>
    intro jobs
    exact (solvent jobs).trans kept

theorem deploy_facts {usdc deployer : Address} {storage : Storage}
    (deployed : deploy usdc deployer = Except.ok storage) :
    storage.jobs = (fun _ => emptyRecord) ∧ storage.owner = deployer ∧
      storage.challengeWindow = defaultChallengeWindow := by
  unfold deploy at deployed
  simp only [require_bind_eq_ok_iff] at deployed
  obtain ⟨_, _, ⟨⟩⟩ := deployed
  exact ⟨rfl, rfl, rfl⟩

instance (sender : Address) : Decidable (deployment.CanSend sender) :=
  inferInstanceAs (Decidable (_ ∧ _))

def nextCall (deployment : Deployment Ledger Signature)
    (chain : Chain Ledger) : Action Signature → Option (Chain Ledger)
  | .transaction timestamp sender call =>
    if chain.timestamp ≤ timestamp ∧ timestamp ≤ uint256Max ∧ deployment.CanSend sender then
      (perform deployment (chain.at timestamp) sender call).toOption
    else
      none
  | .tokenActivity _ => none

theorem step_of_nextCall (fires : Fires (nextCall deployment) chain action after) :
    Step deployment chain action after := by
  cases action with
  | transaction timestamp sender call =>
    simp only [Fires, nextCall] at fires
    split at fires
    · rename_i allowed
      cases performed : perform deployment (chain.at timestamp) sender call with
      | error reason =>
        rw [performed] at fires
        cases fires
      | ok reached =>
        rw [performed] at fires
        cases fires
        exact Step.succeeded allowed.1 allowed.2.1 allowed.2.2 performed
    · cases fires
  | tokenActivity timestamp => cases fires

def sampleDeployment : Deployment StandardLedger Address where
  token := standardToken
  self := 1#160
  attestationDigest := fun job => job.jobId
  verificationDigest := fun jobId _ _ => jobId
  recover := fun _ signer => some signer

def sampleStorage : Storage where
  owner := 4#160
  challengeWindow := defaultChallengeWindow
  jobs := fun _ => emptyRecord
  verifiedJobs := fun _ => ⟨zeroAddress, 0, 0, false⟩

def sampleLedger : StandardLedger where
  balances := fun account => if account = 5#160 then 1000 else 0
  allowances := fun _ _ => 1000

theorem sampleStorage_deployed :
    deploy 2#160 4#160 = Except.ok sampleStorage :=
  rfl

def sampleAttestation : AttestationData :=
  ⟨7#256, 6#160, 5#160, 10, 20, 90, 0#256⟩

def attestedSample : List (Action Address) :=
  [.transaction 10 5#160 (.depositForJob 7#256 6#160 1000),
    .transaction 100 6#160 (.attestJob sampleAttestation 6#160)]

end DcpPlatform.Contracts.JobAttestation
