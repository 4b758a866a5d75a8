import DcpPlatform.Contracts.Escrow

/-!
# The attestation contract

A renter deposits tokens for a job; an attestation starts the challenge
window; within it the renter may challenge, and after it anyone may release
the payment. Each call computes the deadline from the window of its own time.
-/

namespace DcpPlatform.Contracts.JobAttestation

open Foundation
open Contracts.Escrow (JobId Revert Transfer)

def feeBps : Nat := 2500

def bpsDenominator : Nat := 10000

/-- `24 hours`. -/
def defaultChallengeWindow : Nat := 24 * 3600

inductive JobStatus where
  | empty | deposited | attested | challenged | resolved | released
  | refunded
  deriving DecidableEq

structure AttestationData where
  jobId : JobId
  provider : Address
  renter : Address
  tokensUsed : Nat
  durationSecs : Nat
  completedAt : Nat
  outputHash : BitVec 256

structure JobRecord where
  renter : Address
  provider : Address
  amount : Nat
  depositedAt : Nat
  attestedAt : Nat
  status : JobStatus
  tokensUsed : Nat
  durationSecs : Nat
  completedAt : Nat
  outputHash : BitVec 256
  challengeReason : String

def emptyRecord : JobRecord :=
  ⟨zeroAddress, zeroAddress, 0, 0, 0, .empty, 0, 0, 0, 0#256, ""⟩

structure VerifiedJobRecord where
  provider : Address
  tokenCount : Nat
  verifiedAt : Nat
  isVerified : Bool

structure Storage where
  owner : Address
  challengeWindow : Nat
  jobs : JobId → JobRecord
  verifiedJobs : JobId → VerifiedJobRecord

inductive Event where
  | jobDeposited (jobId : JobId) (renter provider : Address) (amount : Nat)
  | jobAttested (jobId : JobId) (provider : Address)
      (tokensUsed durationSecs : Nat) (outputHash : BitVec 256)
      (challengeDeadline : Nat)
  | challengeFiled (jobId : JobId) (renter : Address) (reason : String)
  | challengeResolved (jobId : JobId) (providerFault : Bool) (recipient : Address) (amount : Nat)
  | paymentReleased (jobId : JobId) (provider : Address) (providerAmount feeAmount : Nat)
  | paymentRefunded (jobId : JobId) (renter : Address) (amount : Nat)
  | challengeWindowUpdated (oldWindow newWindow : Nat)
  | jobVerified (jobId : JobId) (provider : Address) (totalTokens : Nat)

structure Deployment (Ledger Signature : Type) where
  token : Erc20 Ledger
  self : Address
  attestationDigest : AttestationData → BitVec 256
  verificationDigest : JobId → Nat → Nat → BitVec 256
  recover : BitVec 256 → Signature → Option Address

structure Chain (Ledger : Type) where
  storage : Storage
  ledger : Ledger
  timestamp : Nat
  transfers : List Transfer
  events : List Event

def deploy (usdc deployer : Address) : Except Revert Storage := do
  require (deployer ≠ zeroAddress) (.invalidOwner deployer)
  require (usdc ≠ zeroAddress) (.message "Invalid USDC address")
  return {
    owner := deployer
    challengeWindow := defaultChallengeWindow
    jobs := fun _ => emptyRecord
    verifiedJobs := fun _ => ⟨zeroAddress, 0, 0, false⟩ }

def Storage.store (storage : Storage) (jobId : JobId) (record : JobRecord) : Storage :=
  { storage with
    jobs := fun other =>
      if other = jobId then record else storage.jobs other }

section Calls

variable {Ledger Signature : Type}

def Chain.emit (chain : Chain Ledger) (events : List Event) :
    Chain Ledger :=
  { chain with events := chain.events ++ events }

def safeTransfer (deployment : Deployment Ledger Signature)
    (chain : Chain Ledger) (jobId : JobId) (recipient : Address)
    (amount : Nat) : Except Revert (Chain Ledger) := do
  let ledger ← orFail .tokenTransferFailed
    (deployment.token.transfer chain.ledger deployment.self recipient amount)
  return { chain with
    ledger := ledger
    transfers := chain.transfers ++ [⟨jobId, deployment.self, recipient, amount⟩] }

def safeTransferFrom (deployment : Deployment Ledger Signature)
    (chain : Chain Ledger) (jobId : JobId) (holder : Address)
    (amount : Nat) : Except Revert (Chain Ledger) := do
  let ledger ← orFail .tokenTransferFailed
    (deployment.token.transferFrom chain.ledger deployment.self holder deployment.self amount)
  return { chain with
    ledger := ledger
    transfers := chain.transfers ++ [⟨jobId, holder, deployment.self, amount⟩] }

def checkedAdd (left right : Nat) : Except Revert Nat := do
  require (left + right ≤ uint256Max) .arithmeticOverflow
  return left + right

def feeOf (amount : Nat) : Except Revert Nat := do
  require (amount * feeBps ≤ uint256Max) .arithmeticOverflow
  return amount * feeBps / bpsDenominator

def depositForJob (deployment : Deployment Ledger Signature)
    (chain : Chain Ledger) (sender : Address) (jobId : JobId)
    (provider : Address) (amount : Nat) :
    Except Revert (Chain Ledger) := do
  require ((chain.storage.jobs jobId).status = .empty) (.message "Job already exists")
  require (provider ≠ zeroAddress) (.message "Invalid provider")
  require (0 < amount) (.message "Amount must be > 0")
  let chain ← safeTransferFrom deployment chain jobId sender amount
  return { chain with
    storage := chain.storage.store jobId { emptyRecord with
      renter := sender
      provider := provider
      amount := amount
      depositedAt := chain.timestamp
      status := .deposited }
    events := chain.events ++ [.jobDeposited jobId sender provider amount] }

def JobRecord.attest (record : JobRecord) (job : AttestationData) (timestamp : Nat) : JobRecord :=
  { record with
    status := .attested
    attestedAt := timestamp
    tokensUsed := job.tokensUsed
    durationSecs := job.durationSecs
    completedAt := job.completedAt
    outputHash := job.outputHash }

def attestJob (deployment : Deployment Ledger Signature)
    (chain : Chain Ledger) (job : AttestationData)
    (signature : Signature) : Except Revert (Chain Ledger) := do
  let record := chain.storage.jobs job.jobId
  require (record.status = .deposited) (.message "Job not in DEPOSITED state")
  require (job.provider = record.provider) (.message "Provider mismatch")
  require (job.renter = record.renter) (.message "Renter mismatch")
  require (job.completedAt ≤ chain.timestamp) (.message "Completion time in future")
  require (0 < job.tokensUsed) (.message "No tokens recorded")
  let signer ← orFail .invalidSignature
    (deployment.recover (deployment.attestationDigest job) signature)
  require (signer = record.provider) (.message "Invalid provider signature")
  let deadline ← checkedAdd chain.timestamp chain.storage.challengeWindow
  return { chain with
    storage := chain.storage.store job.jobId (record.attest job chain.timestamp)
    events := chain.events ++ [.jobAttested job.jobId job.provider job.tokensUsed
      job.durationSecs job.outputHash deadline] }

def challengeAttestation (chain : Chain Ledger) (sender : Address)
    (jobId : JobId) (reason : String) : Except Revert (Chain Ledger) := do
  let record := chain.storage.jobs jobId
  require (record.status = .attested) (.message "Not in ATTESTED state")
  require (sender = record.renter) (.message "Only renter can challenge")
  let deadline ← checkedAdd record.attestedAt chain.storage.challengeWindow
  require (chain.timestamp ≤ deadline) (.message "Challenge window closed")
  require (0 < reason.length) (.message "Reason required")
  return { chain with
    storage := chain.storage.store jobId
      { record with status := .challenged, challengeReason := reason }
    events := chain.events ++ [.challengeFiled jobId sender reason] }

def payProvider (deployment : Deployment Ledger Signature) (chain : Chain Ledger) (jobId : JobId) :
    Except Revert (Chain Ledger × Nat × Nat) := do
  let record := chain.storage.jobs jobId
  let fee ← feeOf record.amount
  let providerAmount := record.amount - fee
  let chain ← safeTransfer deployment chain jobId record.provider providerAmount
  let chain ← safeTransfer deployment chain jobId chain.storage.owner fee
  return (chain, providerAmount, fee)

def onlyOwner (chain : Chain Ledger) (sender : Address) :
    Except Revert PUnit :=
  require (sender = chain.storage.owner) (.unauthorizedAccount sender)

def Chain.setStatus (chain : Chain Ledger) (jobId : JobId) (status : JobStatus) : Chain Ledger :=
  { chain with
    storage := chain.storage.store jobId { chain.storage.jobs jobId with status := status } }

def resolveChallenge (deployment : Deployment Ledger Signature)
    (chain : Chain Ledger) (sender : Address) (jobId : JobId)
    (providerFault : Bool) : Except Revert (Chain Ledger) := do
  onlyOwner chain sender
  let record := chain.storage.jobs jobId
  require (record.status = .challenged) (.message "Not in CHALLENGED state")
  let chain := chain.setStatus jobId .resolved
  if providerFault then
    let chain ← safeTransfer deployment chain jobId record.renter record.amount
    return chain.emit [.challengeResolved jobId true record.renter record.amount,
        .paymentRefunded jobId record.renter record.amount]
  else
    let (chain, providerAmount, fee) ← payProvider deployment chain jobId
    return chain.emit [.challengeResolved jobId false record.provider providerAmount,
        .paymentReleased jobId record.provider providerAmount fee]

def releasePayment (deployment : Deployment Ledger Signature)
    (chain : Chain Ledger) (jobId : JobId) :
    Except Revert (Chain Ledger) := do
  let record := chain.storage.jobs jobId
  require (record.status = .attested) (.message "Not in ATTESTED state")
  let deadline ← checkedAdd record.attestedAt chain.storage.challengeWindow
  require (deadline < chain.timestamp) (.message "Challenge window still open")
  let (chain, providerAmount, fee) ← payProvider deployment (chain.setStatus jobId .released) jobId
  return chain.emit [.paymentReleased jobId record.provider providerAmount fee]

def setChallengeWindow (chain : Chain Ledger) (sender : Address)
    (newWindow : Nat) : Except Revert (Chain Ledger) := do
  onlyOwner chain sender
  require (3600 ≤ newWindow) (.message "Window too short")
  return { chain with
    storage := { chain.storage with challengeWindow := newWindow }
    events := chain.events ++ [.challengeWindowUpdated chain.storage.challengeWindow newWindow] }

def transferOwnership (chain : Chain Ledger) (sender newOwner : Address) :
    Except Revert (Chain Ledger) := do
  onlyOwner chain sender
  require (newOwner ≠ zeroAddress) (.invalidOwner newOwner)
  return { chain with storage := { chain.storage with owner := newOwner } }

def renounceOwnership (chain : Chain Ledger) (sender : Address) :
    Except Revert (Chain Ledger) := do
  onlyOwner chain sender
  return { chain with
    storage := { chain.storage with owner := zeroAddress } }

def verifyJob (deployment : Deployment Ledger Signature)
    (chain : Chain Ledger) (jobId : JobId) (provider : Address)
    (inputTokens outputTokens : Nat) (providerSig : Signature) :
    Except Revert (Chain Ledger) := do
  require ((chain.storage.verifiedJobs jobId).isVerified = false) (.message "AlreadyVerified")
  let signer ← orFail .invalidSignature
    (deployment.recover (deployment.verificationDigest jobId inputTokens outputTokens) providerSig)
  require (signer = provider) (.message "Invalid provider signature")
  let totalTokens ← checkedAdd inputTokens outputTokens
  return { chain with
    storage := { chain.storage with
      verifiedJobs := fun other =>
        if other = jobId then
          ⟨provider, totalTokens, chain.timestamp, true⟩
        else
          chain.storage.verifiedJobs other }
    events := chain.events ++ [.jobVerified jobId provider totalTokens] }

inductive Call (Signature : Type) where
  | depositForJob (jobId : JobId) (provider : Address) (amount : Nat)
  | attestJob (job : AttestationData) (signature : Signature)
  | challengeAttestation (jobId : JobId) (reason : String)
  | resolveChallenge (jobId : JobId) (providerFault : Bool)
  | releasePayment (jobId : JobId)
  | setChallengeWindow (newWindow : Nat)
  | transferOwnership (newOwner : Address)
  | renounceOwnership
  | verifyJob (jobId : JobId) (provider : Address)
      (inputTokens outputTokens : Nat) (providerSig : Signature)

def perform (deployment : Deployment Ledger Signature) (chain : Chain Ledger) (sender : Address) :
    Call Signature → Except Revert (Chain Ledger)
  | .depositForJob jobId provider amount =>
    depositForJob deployment chain sender jobId provider amount
  | .attestJob job signature => attestJob deployment chain job signature
  | .challengeAttestation jobId reason =>
    challengeAttestation chain sender jobId reason
  | .resolveChallenge jobId providerFault =>
    resolveChallenge deployment chain sender jobId providerFault
  | .releasePayment jobId => releasePayment deployment chain jobId
  | .setChallengeWindow newWindow =>
    setChallengeWindow chain sender newWindow
  | .transferOwnership newOwner => transferOwnership chain sender newOwner
  | .renounceOwnership => renounceOwnership chain sender
  | .verifyJob jobId provider inputTokens outputTokens providerSig =>
    verifyJob deployment chain jobId provider inputTokens outputTokens providerSig

inductive Action (Signature : Type) where
  | transaction (timestamp : Nat) (sender : Address) (call : Call Signature)
  | tokenActivity (timestamp : Nat)

def Chain.at (chain : Chain Ledger) (timestamp : Nat) : Chain Ledger :=
  { chain with timestamp := timestamp }

def Deployment.CanSend (deployment : Deployment Ledger Signature) (sender : Address) : Prop :=
  sender ≠ deployment.self ∧ sender ≠ zeroAddress

/-- One step of the chain. The contract never calls itself and grants no
allowance, nobody has the key of the zero address, and token activity outside
the contract does not lower the contract's balance. -/
inductive Step (deployment : Deployment Ledger Signature) :
    Chain Ledger → Action Signature → Chain Ledger → Prop
  | succeeded {chain after : Chain Ledger} {timestamp : Nat}
      {sender : Address} {call : Call Signature} :
      chain.timestamp ≤ timestamp → timestamp ≤ uint256Max →
      deployment.CanSend sender →
      perform deployment (chain.at timestamp) sender call = Except.ok after →
      Step deployment chain (.transaction timestamp sender call) after
  | reverted {chain : Chain Ledger} {timestamp : Nat} {sender : Address}
      {call : Call Signature} {reason : Revert} :
      chain.timestamp ≤ timestamp → timestamp ≤ uint256Max →
      deployment.CanSend sender →
      perform deployment (chain.at timestamp) sender call = Except.error reason →
      Step deployment chain (.transaction timestamp sender call) (chain.at timestamp)
  | tokenActivity {chain : Chain Ledger} {timestamp : Nat} {ledger : Ledger} :
      chain.timestamp ≤ timestamp → timestamp ≤ uint256Max →
      deployment.token.balanceOf chain.ledger deployment.self ≤
        deployment.token.balanceOf ledger deployment.self →
      Step deployment chain (.tokenActivity timestamp)
        { chain with ledger := ledger, timestamp := timestamp }

end Calls

end DcpPlatform.Contracts.JobAttestation
