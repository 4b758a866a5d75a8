import DcpPlatform.Contracts.AttestationEffects

/-!
# Ways out of the attestation contract

An attested or challenged job can be paid out by its renter and the owner, as
long as there is an owner who can call. A deposited job leaves its status only
through an attestation, and so it waits for its provider.
-/

namespace DcpPlatform.Contracts.JobAttestation

open Foundation
open Contracts.Escrow (JobId Revert Transfer Moves)

variable {Signature : Type} {deployment : Deployment StandardLedger Signature}

variable {amount : Nat} {ledger after : StandardLedger}

variable {sender recipient renter : Address}

theorem standard_transfer_nonzero
    (moved : standardToken.transfer ledger sender recipient amount = some after) :
    recipient ≠ zeroAddress := by
  simp only [standardToken, StandardLedger.move] at moved
  split at moved
  · rename_i checks
    exact checks.2.1
  · cases moved

theorem standard_transferFrom_nonzero {spender holder : Address}
    (moved : standardToken.transferFrom ledger spender holder recipient amount =
      some after) : recipient ≠ zeroAddress := by
  simp only [standardToken, StandardLedger.moveFrom] at moved
  split at moved
  · cases moved
  · exact standard_transfer_nonzero moved

variable {chain after : Chain StandardLedger} {jobId : JobId}

theorem depositForJob_self {provider : Address} (standard : deployment.token = standardToken)
    (succeeded : depositForJob deployment chain sender jobId provider amount =
      Except.ok after) : deployment.self ≠ zeroAddress := by
  simp only [depositForJob, safeTransferFrom, require_bind_eq_ok_iff] at succeeded
  obtain ⟨_, _, _, pulled⟩ := succeeded
  obtain ⟨funded, transferred, _⟩ := bind_eq_ok_iff.mp pulled
  obtain ⟨ledger, moved, _⟩ := bind_eq_ok_iff.mp transferred
  rw [orFail_eq_ok_iff, standard] at moved
  exact standard_transferFrom_nonzero moved

theorem releasePayment_owner {chain after : Chain StandardLedger}
    {jobId : JobId} (standard : deployment.token = standardToken)
    (succeeded : releasePayment deployment chain jobId = Except.ok after) :
    chain.storage.owner ≠ zeroAddress := by
  simp only [releasePayment, require_bind_eq_ok_iff] at succeeded
  obtain ⟨_, checked⟩ := succeeded
  obtain ⟨deadline, _, checked⟩ := bind_eq_ok_iff.mp checked
  rw [require_bind_eq_ok_iff] at checked
  obtain ⟨paid, paying, _⟩ := bind_eq_ok_iff.mp checked.2
  unfold payProvider at paying
  obtain ⟨fee, _, paying⟩ := bind_eq_ok_iff.mp paying
  obtain ⟨middle, providerPaid, paying⟩ := bind_eq_ok_iff.mp paying
  obtain ⟨last, feePaid, _⟩ := bind_eq_ok_iff.mp paying
  have sameOwner : middle.storage.owner = chain.storage.owner := by
    rw [(safeTransfer_eq_ok providerPaid).2]
    rfl
  obtain ⟨ledger, moved, _⟩ := bind_eq_ok_iff.mp feePaid
  rw [orFail_eq_ok_iff, standard, sameOwner] at moved
  exact standard_transfer_nonzero moved

def ByOwnerOrRenter (jobId : JobId) (renter : Address)
    (chain : Chain StandardLedger) : Action Signature → Prop
  | .transaction _ sender call =>
    (sender = chain.storage.owner ∨ sender = renter) ∧
      ∀ job signature, call = .attestJob job signature → job.jobId ≠ jobId
  | .tokenActivity _ => False

def paidOut (self : Address) (chain : Chain StandardLedger) (jobId : JobId) : Nat :=
  ((chain.transfers.filter (fun transfer =>
    transfer.jobId = jobId ∧ transfer.source = self)).map Transfer.amount).sum

/-- The owner and the renter can bring the job to an end in which its whole
deposit has been paid out. -/
def Exit (deployment : Deployment StandardLedger Signature)
    (chain : Chain StandardLedger) (jobId : JobId) : Prop :=
  ∃ actions after, Run
    (guarded (Step deployment) (ByOwnerOrRenter jobId (chain.storage.jobs jobId).renter))
    chain actions after ∧ ((after.storage.jobs jobId).status = .resolved ∨
        (after.storage.jobs jobId).status = .released) ∧
      paidOut deployment.self after jobId =
        paidOut deployment.self chain jobId + (chain.storage.jobs jobId).amount

def OwnerCanCall (deployment : Deployment StandardLedger Signature)
    (chain : Chain StandardLedger) : Prop :=
  deployment.CanSend chain.storage.owner

structure Exitable (deployment : Deployment StandardLedger Signature)
    (chain : Chain StandardLedger) : Prop where
  window : 3600 ≤ chain.storage.challengeWindow
  time : chain.timestamp ≤ uint256Max
  renters : ∀ jobId, (chain.storage.jobs jobId).status.isOpen = true →
    deployment.CanSend (chain.storage.jobs jobId).renter ∧ deployment.self ≠ zeroAddress
  attested : ∀ jobId, (chain.storage.jobs jobId).status = .attested →
    (chain.storage.jobs jobId).attestedAt + 3600 ≤ uint256Max

theorem Exitable.of_store {record : JobRecord} (exitable : Exitable deployment chain)
    (storage : after.storage = chain.storage.store jobId record)
    (timestamp : after.timestamp = chain.timestamp)
    (renter : record.status.isOpen = true →
      deployment.CanSend record.renter ∧ deployment.self ≠ zeroAddress)
    (attested : record.status = .attested → record.attestedAt + 3600 ≤ uint256Max) :
    Exitable deployment after := by
  constructor
  · rw [storage]
    exact exitable.window
  · rw [timestamp]
    exact exitable.time
  · intro other isOpen
    rw [storage] at isOpen ⊢
    by_cases same : other = jobId
    · subst same
      simp only [store_jobs_self] at isOpen ⊢
      exact renter isOpen
    · simp only [store_jobs_of_ne _ _ same] at isOpen ⊢
      exact exitable.renters other isOpen
  · intro other status
    rw [storage] at status ⊢
    by_cases same : other = jobId
    · subst same
      simp only [store_jobs_self] at status ⊢
      exact attested status
    · simp only [store_jobs_of_ne _ _ same] at status ⊢
      exact exitable.attested other status

variable {call : Call Signature}

theorem effect_exitable (standard : deployment.token = standardToken)
    (exitable : Exitable deployment chain) (sends : deployment.CanSend sender)
    (performed : perform deployment chain sender call = Except.ok after) :
    Exitable deployment after := by
  have effect := perform_effect performed
  cases effect with
  | window _ long _ =>
    exact ⟨long, exitable.time, exitable.renters, exitable.attested⟩
  | owner _ _ | verified _ _ =>
    exact ⟨exitable.window, exitable.time, exitable.renters, exitable.attested⟩
  | @job jobId record made events ledger _ step _ =>
    refine exitable.of_store rfl rfl ?_ ?_
    · intro isOpen
      cases step with
      | deposit _ _ =>
        exact ⟨sends, depositForJob_self standard performed⟩
      | attest _ deposited _ =>
        apply exitable.renters jobId
        rw [deposited]
        rfl
      | challenge attested =>
        apply exitable.renters jobId
        rw [attested]
        rfl
      | refund _ _ _ | vindicate _ _ _ _ | release _ _ _ =>
        cases isOpen
    · intro status
      cases step with
      | attest _ _ bounded =>
        have long := exitable.window
        simp only [JobRecord.attest]
        omega
      | deposit _ _ | challenge _ | refund _ _ _ | vindicate _ _ _ _
      | release _ _ _ =>
        cases status

variable {action : Action Signature}

theorem step_exitable (standard : deployment.token = standardToken)
    (exitable : Exitable deployment chain)
    (step : Step deployment chain action after) :
    Exitable deployment after := by
  cases step with
  | @succeeded _ timestamp _ _ _ bounded sends performed =>
    have later : Exitable deployment (chain.at timestamp) :=
      ⟨exitable.window, bounded, exitable.renters, exitable.attested⟩
    exact effect_exitable standard later sends performed
  | reverted _ bounded _ _ | tokenActivity _ bounded _ =>
    exact ⟨exitable.window, bounded, exitable.renters, exitable.attested⟩

theorem refund_succeeds (standard : deployment.token = standardToken)
    (solvent : Solvent deployment chain) (exitable : Exitable deployment chain)
    (challenged : (chain.storage.jobs jobId).status = .challenged) :
    ∃ after, resolveChallenge deployment chain chain.storage.owner jobId true = Except.ok after ∧
      (after.storage.jobs jobId).status = .resolved ∧
      after.transfers = chain.transfers ++
        [⟨jobId, deployment.self, (chain.storage.jobs jobId).renter,
          (chain.storage.jobs jobId).amount⟩] := by
  have isOpen : (chain.storage.jobs jobId).status.isOpen = true := by
    rw [challenged]
    rfl
  obtain ⟨sends, selfNonzero⟩ := exitable.renters jobId isOpen
  have covered := solvent {jobId}
  rw [Finset.sum_singleton, heldAmount, if_pos isOpen, standard] at covered
  have moves : deployment.token.transfer chain.ledger deployment.self
      (chain.storage.jobs jobId).renter
      (chain.storage.jobs jobId).amount = some { chain.ledger with
          balances := moveBalance chain.ledger.balances deployment.self
            (chain.storage.jobs jobId).renter
            (chain.storage.jobs jobId).amount } := by
    rw [standard]
    exact if_pos ⟨selfNonzero, sends.2, covered⟩
  refine ⟨({ chain.setStatus jobId .resolved with
    ledger := { chain.ledger with
      balances := moveBalance chain.ledger.balances deployment.self
        (chain.storage.jobs jobId).renter
        (chain.storage.jobs jobId).amount }
    transfers := chain.transfers ++ [⟨jobId, deployment.self, (chain.storage.jobs jobId).renter,
        (chain.storage.jobs jobId).amount⟩] } :
    Chain StandardLedger).emit
    [.challengeResolved jobId true (chain.storage.jobs jobId).renter
      (chain.storage.jobs jobId).amount,
      .paymentRefunded jobId (chain.storage.jobs jobId).renter
        (chain.storage.jobs jobId).amount], ?_, ?_, rfl⟩
  · unfold resolveChallenge onlyOwner
    simp only [require_bind_eq_ok_iff]
    refine ⟨trivial, challenged, ?_⟩
    rw [if_pos trivial]
    refine bind_eq_ok_iff.mpr ⟨_, ?_, rfl⟩
    refine bind_eq_ok_iff.mpr ⟨_, ?_, rfl⟩
    rw [orFail_eq_ok_iff]
    exact moves
  · simp [Chain.emit, Chain.setStatus]

theorem paidOut_refund {self : Address}
    (transfers : after.transfers = chain.transfers ++ [⟨jobId, self, recipient, amount⟩]) :
    paidOut self after jobId = paidOut self chain jobId + amount := by
  unfold paidOut
  rw [transfers, List.filter_append, List.map_append, List.sum_append]
  simp

theorem taken_by {timestamp : Nat} (sends : sender = chain.storage.owner ∨ sender = renter)
    (other : ∀ job signature, call ≠ .attestJob job signature)
    (step : Step deployment chain (.transaction timestamp sender call) after) :
    guarded (Step deployment) (ByOwnerOrRenter jobId renter) chain
      (.transaction timestamp sender call) after :=
  ⟨⟨sends, fun job signature same => absurd same (other job signature)⟩, step⟩

theorem exit_of_challenged (standard : deployment.token = standardToken)
    (solvent : Solvent deployment chain) (exitable : Exitable deployment chain)
    (owner : OwnerCanCall deployment chain)
    (challenged : (chain.storage.jobs jobId).status = .challenged) :
    Exit deployment chain jobId := by
  obtain ⟨after, succeeded, resolved, transfers⟩ :=
    refund_succeeds standard solvent exitable challenged
  have step : Step deployment chain
      (.transaction chain.timestamp chain.storage.owner (.resolveChallenge jobId true)) after :=
    Step.succeeded le_rfl exitable.time owner succeeded
  exact ⟨_, after, Run.single (taken_by (Or.inl rfl) (by rintro _ _ ⟨⟩) step),
    Or.inl resolved, paidOut_refund transfers⟩

theorem reopen_succeeds (exitable : Exitable deployment chain)
    (owner : OwnerCanCall deployment chain)
    (attested : (chain.storage.jobs jobId).status = .attested) :
    ∃ after newWindow, Step deployment chain
      (.transaction chain.timestamp chain.storage.owner (.setChallengeWindow newWindow)) after ∧
        after.storage.jobs = chain.storage.jobs ∧
        after.storage.owner = chain.storage.owner ∧
        after.timestamp = chain.timestamp ∧
        after.transfers = chain.transfers ∧
        (chain.storage.jobs jobId).attestedAt + after.storage.challengeWindow = uint256Max := by
  have room := exitable.attested jobId attested
  have performed : perform deployment (chain.at chain.timestamp) chain.storage.owner
      (.setChallengeWindow (uint256Max - (chain.storage.jobs jobId).attestedAt)) =
        Except.ok { chain with
          storage := { chain.storage with
            challengeWindow := uint256Max - (chain.storage.jobs jobId).attestedAt }
          events := chain.events ++ [.challengeWindowUpdated chain.storage.challengeWindow
            (uint256Max - (chain.storage.jobs jobId).attestedAt)] } := by
    simp only [perform, setChallengeWindow, onlyOwner, require_bind_eq_ok_iff]
    exact ⟨rfl, by omega, rfl⟩
  refine ⟨_, _, Step.succeeded le_rfl exitable.time owner performed, rfl, rfl, rfl, rfl, ?_⟩
  dsimp only
  omega

theorem challenge_succeeds (exitable : Exitable deployment chain)
    (attested : (chain.storage.jobs jobId).status = .attested)
    (reopened :
      (chain.storage.jobs jobId).attestedAt + chain.storage.challengeWindow = uint256Max) :
    ∃ after, Step deployment chain (.transaction chain.timestamp (chain.storage.jobs jobId).renter
      (.challengeAttestation jobId "disputed")) after ∧
        (after.storage.jobs jobId).status = .challenged ∧
        (after.storage.jobs jobId).renter = (chain.storage.jobs jobId).renter ∧
        (after.storage.jobs jobId).amount = (chain.storage.jobs jobId).amount ∧
        after.storage.owner = chain.storage.owner ∧
        after.transfers = chain.transfers := by
  have isOpen : (chain.storage.jobs jobId).status.isOpen = true := by
    rw [attested]
    rfl
  have sends := (exitable.renters jobId isOpen).1
  have performed : perform deployment (chain.at chain.timestamp) (chain.storage.jobs jobId).renter
      (.challengeAttestation jobId "disputed") = Except.ok { chain with
          storage := chain.storage.store jobId { chain.storage.jobs jobId with
            status := .challenged, challengeReason := "disputed" }
          events := chain.events ++
            [.challengeFiled jobId (chain.storage.jobs jobId).renter "disputed"] } := by
    simp only [perform, challengeAttestation, require_bind_eq_ok_iff]
    refine ⟨attested, rfl, bind_eq_ok_iff.mpr ⟨uint256Max, ?_, ?_⟩⟩
    · exact checkedAdd_eq_ok_iff.mpr ⟨reopened.le, reopened⟩
    · simp only [require_bind_eq_ok_iff]
      exact ⟨exitable.time, by decide, rfl⟩
  refine ⟨_, Step.succeeded le_rfl exitable.time sends performed, ?_, ?_, ?_, rfl, rfl⟩
  all_goals simp

theorem exit_of_attested (standard : deployment.token = standardToken)
    (solvent : Solvent deployment chain) (exitable : Exitable deployment chain)
    (owner : OwnerCanCall deployment chain)
    (attested : (chain.storage.jobs jobId).status = .attested) :
    Exit deployment chain jobId := by
  obtain ⟨reopened, newWindow, reopening, jobs, reopenedOwner, _, reopenedTransfers, window⟩ :=
    reopen_succeeds exitable owner attested
  have reopenedSolvent := solvent_step solvent reopening
  have reopenedExitable := step_exitable standard exitable reopening
  rw [← jobs] at attested window
  obtain ⟨disputed, disputing, challenged, renter, amount, disputedOwner, disputedTransfers⟩ :=
    challenge_succeeds reopenedExitable attested window
  have disputedSolvent := solvent_step reopenedSolvent disputing
  have disputedExitable := step_exitable standard reopenedExitable disputing
  have disputedCanCall : OwnerCanCall deployment disputed := by
    rw [OwnerCanCall, disputedOwner, reopenedOwner]
    exact owner
  obtain ⟨after, succeeded, resolved, transfers⟩ :=
    refund_succeeds standard disputedSolvent disputedExitable challenged
  have resolving : Step deployment disputed (.transaction disputed.timestamp disputed.storage.owner
      (.resolveChallenge jobId true)) after :=
    Step.succeeded le_rfl disputedExitable.time disputedCanCall succeeded
  rw [disputedTransfers, reopenedTransfers, renter, amount, jobs] at transfers
  have byRenter : (reopened.storage.jobs jobId).renter = (chain.storage.jobs jobId).renter := by
    rw [jobs]
  exact ⟨_, after, Run.cons (taken_by (Or.inl rfl) (by rintro _ _ ⟨⟩) reopening)
    (Run.cons (taken_by (Or.inr byRenter) (by rintro _ _ ⟨⟩) disputing)
      (Run.single (taken_by (Or.inl rfl) (by rintro _ _ ⟨⟩) resolving))),
    Or.inl resolved, paidOut_refund transfers⟩

theorem step_deposited (deposited : (chain.storage.jobs jobId).status = .deposited)
    (taken : guarded (Step deployment) (ByOwnerOrRenter jobId renter) chain action
      after) : (after.storage.jobs jobId).status = .deposited := by
  obtain ⟨allowed, step⟩ := taken
  cases step with
  | @succeeded _ timestamp sender call _ _ _ performed =>
    have effect := perform_effect performed
    cases effect with
    | window _ _ _ | owner _ _ | verified _ _ =>
      exact deposited
    | @job other record made events ledger _ jobStep _ =>
      by_cases same : jobId = other
      · subst same
        have before : ((chain.at timestamp).storage.jobs jobId).status =
            .deposited :=
          deposited
        cases jobStep with
        | @attest job signature sameJob _ _ =>
          exact absurd sameJob (allowed.2 job signature rfl)
        | deposit status _ | challenge status | refund status _ _
        | vindicate status _ _ _ | release status _ _ =>
          rw [before] at status
          cases status
      · rw [store_jobs_of_ne _ _ same]
        exact deposited
  | reverted _ _ _ _ | tokenActivity _ _ _ =>
    exact deposited

theorem step_ownerless (standard : deployment.token = standardToken)
    (ownerless : chain.storage.owner = zeroAddress)
    (isOpen : (chain.storage.jobs jobId).status.isOpen = true)
    (step : Step deployment chain action after) :
    after.storage.owner = zeroAddress ∧ (after.storage.jobs jobId).status.isOpen = true := by
  cases step with
  | @succeeded _ timestamp sender call _ _ sends performed =>
    have notOwner : sender ≠ (chain.at timestamp).storage.owner := by
      intro same
      exact sends.2 (same.trans ownerless)
    have effect := perform_effect performed
    cases effect with
    | window owner _ _ | owner _ owner =>
      exact absurd owner notOwner
    | verified _ _ =>
      exact ⟨ownerless, isOpen⟩
    | @job other record made events ledger _ jobStep _ =>
      refine ⟨ownerless, ?_⟩
      by_cases same : jobId = other
      · subst same
        rw [store_jobs_self]
        cases jobStep with
        | deposit _ _ | attest _ _ _ | challenge _ => rfl
        | refund _ owner _ | vindicate _ owner _ _ =>
          exact absurd owner notOwner
        | release _ _ _ =>
          exact absurd ownerless
            (@releasePayment_owner _ _ (chain.at timestamp) _ _ standard performed)
      · rw [store_jobs_of_ne _ _ same]
        exact isOpen
  | reverted _ _ _ _ | tokenActivity _ _ _ =>
    exact ⟨ownerless, isOpen⟩

theorem not_exit_of_deposited (deposited : (chain.storage.jobs jobId).status = .deposited) :
    ¬ Exit deployment chain jobId := by
  rintro ⟨actions, after, run, ended, _⟩
  have still := run.invariant (fun state => (state.storage.jobs jobId).status = .deposited)
      (fun deposited taken => step_deposited deposited taken) deposited
  rw [still] at ended
  rcases ended with status | status <;> cases status

theorem not_exit_of_ownerless (standard : deployment.token = standardToken)
    (ownerless : chain.storage.owner = zeroAddress)
    (isOpen : (chain.storage.jobs jobId).status.isOpen = true) :
    ¬ Exit deployment chain jobId := by
  rintro ⟨actions, after, run, ended, _⟩
  have still := run.of_guarded.invariant (fun state => state.storage.owner = zeroAddress ∧
      (state.storage.jobs jobId).status.isOpen = true)
      (fun facts step => step_ownerless standard facts.1 facts.2 step)
      ⟨ownerless, isOpen⟩
  have open_ := still.2
  rcases ended with status | status
  all_goals
    rw [status] at open_
    cases open_

end DcpPlatform.Contracts.JobAttestation
