import DcpPlatform.Contracts.Escrow
import DcpPlatform.Foundation.FiniteSums

/-!
# Solvency and exact outflow of the escrow contract

`Effect` says once what a successful call can do to the chain. The solvency,
the exact movements of every job and the life of a record are read off it.
-/

namespace DcpPlatform.Contracts.Escrow

open Foundation List

variable {Ledger Proof : Type} {deployment : Deployment Ledger Proof}

/-- A list of covered token movements takes some balances to others. -/
inductive Moves : (Address → Nat) → List Transfer → (Address → Nat) → Prop
  | nil (balances : Address → Nat) : Moves balances [] balances
  | cons {balances after : Address → Nat} {transfer : Transfer} {transfers : List Transfer} :
      transfer.amount ≤ balances transfer.source →
      Moves (moveBalance balances transfer.source transfer.recipient transfer.amount)
        transfers after →
      Moves balances (transfer :: transfers) after

theorem Moves.append {before middle after : Address → Nat}
    {first second : List Transfer} (earlier : Moves before first middle)
    (later : Moves middle second after) :
    Moves before (first ++ second) after := by
  induction earlier with
  | nil balances =>
    exact later
  | cons covered _ ih =>
    exact Moves.cons covered (ih later)

private theorem moves_single {before after : Address → Nat} {transfer : Transfer}
    (covered : transfer.amount ≤ before transfer.source)
    (exact : after = moveBalance before transfer.source transfer.recipient transfer.amount) :
    Moves before [transfer] after := by
  rw [exact]
  exact Moves.cons covered (Moves.nil _)

variable {chain after : Chain Ledger} {jobId : JobId}

theorem safeTransfer_eq_ok {recipient : Address} {amount : Nat}
    (succeeded : safeTransfer deployment chain jobId recipient amount = Except.ok after) :
    Moves (deployment.token.balanceOf chain.ledger) [⟨jobId, deployment.self, recipient, amount⟩]
      (deployment.token.balanceOf after.ledger) ∧
      after = { chain with
        ledger := after.ledger
        transfers := chain.transfers ++ [⟨jobId, deployment.self, recipient, amount⟩] } := by
  obtain ⟨ledger, transferred, result⟩ := bind_eq_ok_iff.mp succeeded
  rw [orFail_eq_ok_iff] at transferred
  cases result
  exact ⟨moves_single (deployment.token.transfer_covered transferred)
    (deployment.token.transfer_exact transferred), rfl⟩

theorem safeTransferFrom_eq_ok {holder : Address} {amount : Nat}
    (succeeded : safeTransferFrom deployment chain jobId holder amount = Except.ok after) :
    Moves (deployment.token.balanceOf chain.ledger) [⟨jobId, holder, deployment.self, amount⟩]
      (deployment.token.balanceOf after.ledger) ∧
      after = { chain with
        ledger := after.ledger
        transfers := chain.transfers ++ [⟨jobId, holder, deployment.self, amount⟩] } := by
  obtain ⟨ledger, transferred, result⟩ := bind_eq_ok_iff.mp succeeded
  rw [orFail_eq_ok_iff] at transferred
  cases result
  exact ⟨moves_single (deployment.token.transferFrom_covered transferred)
    (deployment.token.transferFrom_exact transferred), rfl⟩

inductive Advance (chain : Chain Ledger) (sender self : Address)
    (jobId : JobId) : EscrowRecord → List Transfer → Prop
  | lock {provider : Address} {amount expiry : Nat} :
      (chain.storage.escrows jobId).status = .empty →
      chain.timestamp < expiry →
      Advance chain sender self jobId ⟨sender, .locked, provider, amount, expiry⟩
        [⟨jobId, sender, self, amount⟩]
  | claim : (chain.storage.escrows jobId).status = .locked →
    chain.timestamp ≤ (chain.storage.escrows jobId).expiry →
    Advance chain sender self jobId { chain.storage.escrows jobId with status := .claimed }
      [⟨jobId, self, (chain.storage.escrows jobId).provider,
          (chain.storage.escrows jobId).amount - feeOf (chain.storage.escrows jobId).amount⟩,
        ⟨jobId, self, chain.storage.owner, feeOf (chain.storage.escrows jobId).amount⟩]
  | cancel : (chain.storage.escrows jobId).status = .locked →
    (chain.storage.escrows jobId).expiry < chain.timestamp →
    Advance chain sender self jobId { chain.storage.escrows jobId with status := .cancelled }
      [⟨jobId, self, (chain.storage.escrows jobId).renter, (chain.storage.escrows jobId).amount⟩]

/-- What a successful call does: it advances the record of one job and makes
that job's movements, or it changes administrative state only. -/
inductive Effect (deployment : Deployment Ledger Proof) (chain : Chain Ledger) (sender : Address) :
    Option JobId → Chain Ledger → Prop
  | job {jobId : JobId} {record : EscrowRecord} {made : List Transfer} {ledger : Ledger} :
      Advance chain sender deployment.self jobId record made →
      Moves (deployment.token.balanceOf chain.ledger) made (deployment.token.balanceOf ledger) →
      Effect deployment chain sender (some jobId) { chain with
        storage := chain.storage.store jobId record
        ledger := ledger
        transfers := chain.transfers ++ made }
  | administration {storage : Storage} :
      storage.escrows = chain.storage.escrows →
      Effect deployment chain sender none { chain with storage := storage }

theorem depositAndLock_effect {sender provider : Address} {amount expiry : Nat} (succeeded :
    depositAndLock deployment chain sender jobId provider amount expiry = Except.ok after) :
    Effect deployment chain sender (some jobId) after := by
  simp only [depositAndLock, require_bind_eq_ok_iff] at succeeded
  obtain ⟨unused, _, _, future, pulled⟩ := succeeded
  obtain ⟨funded, transferred, result⟩ := bind_eq_ok_iff.mp pulled
  obtain ⟨moved, fundedEq⟩ := safeTransferFrom_eq_ok transferred
  injection result with result
  rw [fundedEq] at result
  subst result
  exact Effect.job (Advance.lock unused future) moved

variable {sender : Address}

theorem claimLock_effect {proof : Proof}
    (succeeded : claimLock deployment chain sender jobId proof = Except.ok after) :
    Effect deployment chain sender (some jobId) after := by
  simp only [claimLock, require_bind_eq_ok_iff] at succeeded
  obtain ⟨locked, _, inTime, checked⟩ := succeeded
  obtain ⟨signer, _, verified⟩ := bind_eq_ok_iff.mp checked
  simp only [require_bind_eq_ok_iff] at verified
  obtain ⟨_, _, paying⟩ := verified
  obtain ⟨paid, providerPaid, feePaid⟩ := bind_eq_ok_iff.mp paying
  obtain ⟨providerMoved, paidEq⟩ := safeTransfer_eq_ok providerPaid
  obtain ⟨feeMoved, afterEq⟩ := safeTransfer_eq_ok feePaid
  rw [paidEq] at afterEq feeMoved
  rw [afterEq]
  simp only [append_assoc, cons_append, nil_append]
  exact Effect.job (Advance.claim locked inTime) (providerMoved.append feeMoved)

theorem cancelExpiredLock_effect
    (succeeded : cancelExpiredLock deployment chain sender jobId = Except.ok after) :
    Effect deployment chain sender (some jobId) after := by
  simp only [cancelExpiredLock, require_bind_eq_ok_iff] at succeeded
  obtain ⟨locked, expired, _, refunded⟩ := succeeded
  obtain ⟨moved, afterEq⟩ := safeTransfer_eq_ok refunded
  rw [afterEq]
  exact Effect.job (Advance.cancel locked expired) moved

theorem perform_effect {call : Call Proof}
    (succeeded : perform deployment chain sender call = Except.ok after) :
    Effect deployment chain sender call.job after := by
  cases call with
  | depositAndLock jobId provider amount expiry =>
    exact depositAndLock_effect succeeded
  | claimLock jobId proof =>
    exact claimLock_effect succeeded
  | cancelExpiredLock jobId =>
    exact cancelExpiredLock_effect succeeded
  | setOracle newOracle =>
    simp only [perform, setOracle, onlyOwner, require_bind_eq_ok_iff] at succeeded
    obtain ⟨_, _, ⟨⟩⟩ := succeeded
    exact Effect.administration rfl
  | setRelayer newRelayer =>
    simp only [perform, setRelayer, onlyOwner, require_bind_eq_ok_iff] at succeeded
    obtain ⟨_, _, ⟨⟩⟩ := succeeded
    exact Effect.administration rfl
  | transferOwnership newOwner =>
    simp only [perform, transferOwnership, onlyOwner, require_bind_eq_ok_iff] at succeeded
    obtain ⟨_, _, ⟨⟩⟩ := succeeded
    exact Effect.administration rfl
  | renounceOwnership =>
    simp only [perform, renounceOwnership, onlyOwner, require_bind_eq_ok_iff] at succeeded
    obtain ⟨_, ⟨⟩⟩ := succeeded
    exact Effect.administration rfl

theorem effect_timestamp {job : Option JobId} (effect : Effect deployment chain sender job after) :
    after.timestamp = chain.timestamp := by
  cases effect with
  | job _ _ | administration _ =>
    rfl

def lockedAmount (record : EscrowRecord) : Nat :=
  if record.status = .locked then record.amount else 0

/-- The token balance covers every finite set of open escrows. -/
def Solvent (deployment : Deployment Ledger Proof) (chain : Chain Ledger) : Prop :=
  ∀ jobs : Finset JobId, ∑ jobId ∈ jobs, lockedAmount (chain.storage.escrows jobId) ≤
    deployment.token.balanceOf chain.ledger deployment.self

variable {record : EscrowRecord}

theorem lockedAmount_of_not_locked (settled : record.status ≠ .locked) :
    lockedAmount record = 0 := by
  simp [lockedAmount, settled]

theorem lockedAmount_of_locked (locked : record.status = .locked) :
    lockedAmount record = record.amount := by
  simp [lockedAmount, locked]

theorem feeOf_le (amount : Nat) : feeOf amount ≤ amount := by
  unfold feeOf feeBps bpsDenominator
  omega

theorem Moves.le_add {before after : Address → Nat}
    {transfers : List Transfer} (moved : Moves before transfers after)
    (account : Address) :
    before account ≤ after account + (transfers.map Transfer.amount).sum := by
  induction moved with
  | nil balances =>
    simp
  | @cons balances after transfer transfers covered rest ih =>
    have first :=
      le_moveBalance_add balances transfer.source transfer.recipient transfer.amount account
    rw [map_cons, sum_cons]
    omega

variable {made : List Transfer} {sender self : Address}

theorem Advance.covers {before after : Address → Nat}
    (advance : Advance chain sender self jobId record made)
    (foreign : sender ≠ self) (moved : Moves before made after) :
    before self + lockedAmount record ≤
      after self + lockedAmount (chain.storage.escrows jobId) := by
  cases advance with
  | lock unused _ =>
    have owedBefore : lockedAmount (chain.storage.escrows jobId) = 0 :=
      lockedAmount_of_not_locked (by simp [unused])
    rw [owedBefore]
    cases moved with
    | cons _ rest =>
      cases rest with
      | nil =>
        rw [moveBalance_recipient foreign]
        simp [lockedAmount]
  | claim locked _ =>
    have paid := moved.le_add self
    have share := feeOf_le (chain.storage.escrows jobId).amount
    rw [lockedAmount_of_locked locked, lockedAmount_of_not_locked (by simp)]
    simp only [map_cons, map_nil, sum_cons, sum_nil] at paid
    omega
  | cancel locked _ =>
    have paid := moved.le_add self
    rw [lockedAmount_of_locked locked, lockedAmount_of_not_locked (by simp)]
    simp only [map_cons, map_nil, sum_cons, sum_nil] at paid
    omega

theorem solvent_effect {job : Option JobId} (solvent : Solvent deployment chain)
    (foreign : sender ≠ deployment.self)
    (effect : Effect deployment chain sender job after) :
    Solvent deployment after := by
  cases effect with
  | @job jobId record made ledger advance moved =>
    intro jobs
    refine sum_le_of_changed_member jobId ?_ solvent ?_ jobs
    · intro other different
      exact congrArg lockedAmount (Storage.store_escrows_of_ne chain.storage record different)
    · have covered := advance.covers foreign moved
      simpa using covered
  | administration same =>
    intro jobs
    simpa [same] using solvent jobs

variable {action : Action Proof}

theorem solvent_step (solvent : Solvent deployment chain)
    (step : Step deployment chain action after) :
    Solvent deployment after := by
  cases step with
  | @succeeded _ timestamp _ _ _ foreign performed =>
    have later : Solvent deployment (chain.at timestamp) := solvent
    exact solvent_effect later foreign (perform_effect performed)
  | reverted _ _ _ =>
    exact solvent
  | tokenActivity _ kept =>
    intro jobs
    exact (solvent jobs).trans kept

def transfersOf (chain : Chain Ledger) (jobId : JobId) : List Transfer :=
  chain.transfers.filter (fun transfer => transfer.jobId = jobId)

def depositTransfer (self : Address) (jobId : JobId) (record : EscrowRecord) : Transfer :=
  ⟨jobId, record.renter, self, record.amount⟩

/-- A job's movements are exactly those its record accounts for. -/
def Accounted (self : Address) (chain : Chain Ledger) (jobId : JobId) :
    Prop :=
  let record := chain.storage.escrows jobId
  match record.status with
  | .empty => transfersOf chain jobId = []
  | .locked =>
    transfersOf chain jobId = [depositTransfer self jobId record]
  | .claimed =>
    ∃ owner share fee, share + fee = record.amount ∧ fee = record.amount * 2500 / 10000 ∧
      transfersOf chain jobId = [depositTransfer self jobId record,
          ⟨jobId, self, record.provider, share⟩,
          ⟨jobId, self, owner, fee⟩]
  | .cancelled =>
    transfersOf chain jobId =
      [depositTransfer self jobId record, ⟨jobId, self, record.renter, record.amount⟩]

theorem Advance.made_jobId (advance : Advance chain sender self jobId record made)
    {transfer : Transfer} (member : transfer ∈ made) :
    transfer.jobId = jobId := by
  cases advance with
  | lock _ _ | cancel _ _ =>
    rw [mem_singleton.mp member]
  | claim _ _ =>
    rcases mem_pair.mp member with rfl | rfl <;> rfl

theorem effect_frame {job : Option JobId} {other : JobId}
    (effect : Effect deployment chain sender job after)
    (unrelated : job ≠ some other) :
    after.storage.escrows other = chain.storage.escrows other ∧
      transfersOf after other = transfersOf chain other := by
  cases effect with
  | @job jobId record made _ advance _ =>
    have different : other ≠ jobId := by
      intro same
      exact unrelated (congrArg some same.symm)
    have noneMade : made.filter (·.jobId = other) = [] := by
      rw [filter_eq_nil_iff]
      intro transfer member
      rw [advance.made_jobId member]
      simpa using Ne.symm different
    constructor
    · exact Storage.store_escrows_of_ne chain.storage record different
    · unfold transfersOf
      rw [filter_append, noneMade, append_nil]
  | administration same =>
    exact ⟨congrFun same other, rfl⟩

private theorem transfersOf_own (advance : Advance chain sender self jobId record made) :
    (chain.transfers ++ made).filter (fun transfer => transfer.jobId = jobId) =
      transfersOf chain jobId ++ made := by
  rw [filter_append]
  congr 1
  rw [filter_eq_self]
  intro transfer member
  simpa using advance.made_jobId member

variable {self usdc oracle deployer : Address}

theorem Accounted.congr (accounted : Accounted self chain jobId)
    (record : after.storage.escrows jobId = chain.storage.escrows jobId)
    (transfers : transfersOf after jobId = transfersOf chain jobId) :
    Accounted self after jobId := by
  unfold Accounted at accounted ⊢
  rw [record, transfers]
  exact accounted

theorem accounted_advance (accounted : Accounted self chain jobId)
    (advance : Advance chain sender self jobId record made)
    (stored : after.storage.escrows jobId = record)
    (recorded : transfersOf after jobId = transfersOf chain jobId ++ made) :
    Accounted self after jobId := by
  unfold Accounted at accounted ⊢
  rw [stored, recorded]
  cases advance with
  | lock unused _ =>
    simp only [unused] at accounted
    rw [accounted]
    rfl
  | claim locked _ =>
    simp only [locked] at accounted
    rw [accounted]
    have share := feeOf_le (chain.storage.escrows jobId).amount
    exact ⟨chain.storage.owner, _, _, Nat.sub_add_cancel share, rfl, rfl⟩
  | cancel locked _ =>
    simp only [locked] at accounted
    rw [accounted]
    rfl

theorem accounted_effect {job : Option JobId}
    (accounted : ∀ jobId, Accounted deployment.self chain jobId)
    (effect : Effect deployment chain sender job after) (other : JobId) :
    Accounted deployment.self after other := by
  by_cases unrelated : job ≠ some other
  · have frame := effect_frame effect unrelated
    exact (accounted other).congr frame.1 frame.2
  · have related := not_not.mp unrelated
    subst related
    cases effect with
    | job advance _ =>
      exact accounted_advance (accounted other) advance
        (Storage.store_escrows_self chain.storage other _)
        (transfersOf_own advance)

theorem accounted_step (accounted : ∀ jobId, Accounted deployment.self chain jobId)
    (step : Step deployment chain action after) (jobId : JobId) :
    Accounted deployment.self after jobId := by
  cases step with
  | @succeeded _ timestamp _ _ _ _ performed =>
    have later (other : JobId) :
        Accounted deployment.self (chain.at timestamp) other :=
      accounted other
    exact accounted_effect later (perform_effect performed) jobId
  | reverted _ _ _ | tokenActivity _ _ =>
    exact accounted jobId

/-- One move of a record: it is locked from the empty state, or a lock is
settled with its other fields as they were. -/
inductive StatusMove : EscrowRecord → EscrowRecord → Prop
  | lock {earlier later : EscrowRecord} :
      earlier.status = .empty →
      later.status = .locked →
      StatusMove earlier later
  | claim {record : EscrowRecord} :
      record.status = .locked →
      StatusMove record { record with status := .claimed }
  | cancel {record : EscrowRecord} :
      record.status = .locked →
      StatusMove record { record with status := .cancelled }

theorem Advance.statusMove (advance : Advance chain sender self jobId record made) :
    StatusMove (chain.storage.escrows jobId) record := by
  cases advance with
  | lock unused _ =>
    exact StatusMove.lock unused rfl
  | claim locked _ =>
    exact StatusMove.claim locked
  | cancel locked _ =>
    exact StatusMove.cancel locked

theorem effect_record {job : Option JobId}
    (effect : Effect deployment chain sender job after) (jobId : JobId) :
    after.storage.escrows jobId = chain.storage.escrows jobId ∨
      StatusMove (chain.storage.escrows jobId) (after.storage.escrows jobId) := by
  by_cases unrelated : job ≠ some jobId
  · exact Or.inl (effect_frame effect unrelated).1
  · have related := not_not.mp unrelated
    subst related
    cases effect with
    | job advance _ =>
      right
      simpa using advance.statusMove

theorem step_record (step : Step deployment chain action after) (jobId : JobId) :
    after.storage.escrows jobId = chain.storage.escrows jobId ∨
      StatusMove (chain.storage.escrows jobId) (after.storage.escrows jobId) := by
  cases step with
  | succeeded _ _ performed =>
    exact effect_record (perform_effect performed) jobId
  | reverted _ _ _ | tokenActivity _ _ =>
    exact Or.inl rfl

def Continues (earlier later : EscrowRecord) : Prop :=
  earlier.status = .empty ∨ later = earlier ∨ (earlier.status = .locked ∧
    (later = { earlier with status := .claimed } ∨ later = { earlier with status := .cancelled }))

theorem StatusMove.continues {earlier later : EscrowRecord} (move : StatusMove earlier later) :
    Continues earlier later := by
  cases move with
  | lock unused _ =>
    exact Or.inl unused
  | claim locked =>
    exact Or.inr (Or.inr ⟨locked, Or.inl rfl⟩)
  | cancel locked =>
    exact Or.inr (Or.inr ⟨locked, Or.inr rfl⟩)

theorem Continues.trans {first second third : EscrowRecord}
    (earlier : Continues first second) (later : Continues second third) :
    Continues first third := by
  rcases earlier with unused | same | ⟨locked, settled⟩
  · exact Or.inl unused
  · exact same ▸ later
  · -- a settled record allows no further move
    have final : third = second := by
      rcases settled with rfl | rfl <;> simpa [Continues] using later
    rw [final]
    exact Or.inr (Or.inr ⟨locked, settled⟩)

theorem run_record {start finish : Chain Ledger} {actions : List (Action Proof)}
    (run : Run (Step deployment) start actions finish) (jobId : JobId) :
    Continues (start.storage.escrows jobId) (finish.storage.escrows jobId) := by
  induction run with
  | nil state =>
    exact Or.inr (Or.inl rfl)
  | cons taken _ ih =>
    rcases step_record taken jobId with same | move
    · exact same ▸ ih
    · exact move.continues.trans ih

def ClaimEnabled (deployment : Deployment Ledger Proof)
    (chain : Chain Ledger) (jobId : JobId) : Prop :=
  ∃ sender proof after, claimLock deployment chain sender jobId proof = Except.ok after

def CancelEnabled (deployment : Deployment Ledger Proof)
    (chain : Chain Ledger) (jobId : JobId) : Prop :=
  ∃ sender after, cancelExpiredLock deployment chain sender jobId = Except.ok after

theorem not_claim_and_cancel (chain : Chain Ledger) (jobId : JobId) :
    ¬ (ClaimEnabled deployment chain jobId ∧ CancelEnabled deployment chain jobId) := by
  rintro ⟨⟨_, _, _, claimed⟩, ⟨_, _, cancelled⟩⟩
  simp only [claimLock, require_bind_eq_ok_iff] at claimed
  simp only [cancelExpiredLock, require_bind_eq_ok_iff] at cancelled
  omega

namespace Action

def job : Action Proof → Option JobId
  | .transaction _ _ call => call.job
  | .tokenActivity _ => none

end Action

theorem step_frame {other : JobId} (step : Step deployment chain action after)
    (unrelated : action.job ≠ some other) :
    after.storage.escrows other = chain.storage.escrows other ∧
      transfersOf after other = transfersOf chain other := by
  cases step with
  | succeeded _ _ performed =>
    have frame := effect_frame (perform_effect performed) unrelated
    exact frame
  | reverted _ _ _ | tokenActivity _ _ =>
    exact ⟨rfl, rfl⟩

theorem effect_moves {job : Option JobId} (effect : Effect deployment chain sender job after) :
    ∃ made, after.transfers = chain.transfers ++ made ∧
      Moves (deployment.token.balanceOf chain.ledger) made
        (deployment.token.balanceOf after.ledger) := by
  cases effect with
  | job _ moved =>
    exact ⟨_, rfl, moved⟩
  | administration _ =>
    exact ⟨[], (append_nil _).symm, Moves.nil _⟩

theorem transaction_moves {timestamp : Nat} {call : Call Proof}
    (step : Step deployment chain (.transaction timestamp sender call) after) :
    ∃ made, after.transfers = chain.transfers ++ made ∧
      Moves (deployment.token.balanceOf chain.ledger) made
        (deployment.token.balanceOf after.ledger) := by
  cases step with
  | succeeded _ _ performed =>
    have moves := effect_moves (perform_effect performed)
    exact moves
  | reverted _ _ _ =>
    exact ⟨[], (append_nil _).symm, Moves.nil _⟩

theorem deploy_escrows {storage : Storage}
    (deployed : deploy usdc oracle deployer = Except.ok storage) (jobId : JobId) :
    storage.escrows jobId = emptyRecord := by
  simp only [deploy, require_bind_eq_ok_iff] at deployed
  obtain ⟨_, _, result⟩ := deployed
  injection result with result
  rw [← result]

theorem solvent_of_deployed (deployed : deploy usdc oracle deployer = Except.ok chain.storage) :
    Solvent deployment chain := by
  intro jobs
  have nothing (jobId : JobId) :
      lockedAmount (chain.storage.escrows jobId) = 0 := by
    rw [deploy_escrows deployed jobId]
    rfl
  simp [nothing]

theorem accounted_of_deployed (deployed : deploy usdc oracle deployer = Except.ok chain.storage)
    (unused : chain.transfers = []) (jobId : JobId) :
    Accounted self chain jobId := by
  rw [Accounted, deploy_escrows deployed jobId]
  simp [emptyRecord, transfersOf, unused]

def sampleDeployment : Deployment StandardLedger Address where
  token := standardToken
  self := 1#160
  claimDigest := fun jobId _ _ => jobId
  recover := fun _ signer => some signer

def sampleChain : Chain StandardLedger where
  storage := ⟨4#160, 3#160, 4#160, fun _ => emptyRecord⟩
  ledger :=
    { balances := fun account => if account = 5#160 then 1000 else 0
      allowances := fun _ _ => 1000 }
  timestamp := 0
  transfers := []

def sampleClaim : Except Revert (Chain StandardLedger) := do
  let locked ← perform sampleDeployment (sampleChain.at 10) 5#160
    (.depositAndLock 7#256 6#160 1000 100)
  perform sampleDeployment (locked.at 100) 6#160 (.claimLock 7#256 3#160)

end DcpPlatform.Contracts.Escrow
