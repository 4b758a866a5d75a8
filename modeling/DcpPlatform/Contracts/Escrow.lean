import DcpPlatform.Contracts.Erc20
import DcpPlatform.Foundation.Outcome
import DcpPlatform.Foundation.Transition

/-!
# The escrow contract

A renter locks tokens under a job id; they are claimed with an oracle
signature until the expiry, and after it the lock can be cancelled.
`transfers` has every token movement. The token, the digest of a claim and
signature recovery are parameters.
-/

namespace DcpPlatform.Contracts.Escrow

open Foundation

abbrev JobId := BitVec 256

inductive EscrowStatus where
  | empty
  | locked
  | claimed
  | cancelled
  deriving DecidableEq

structure EscrowRecord where
  renter : Address
  status : EscrowStatus
  provider : Address
  amount : Nat
  expiry : Nat

def emptyRecord : EscrowRecord :=
  ⟨zeroAddress, .empty, zeroAddress, 0, 0⟩

def feeBps : Nat := 2500

def bpsDenominator : Nat := 10000

structure Storage where
  owner : Address
  oracle : Address
  relayer : Address
  escrows : JobId → EscrowRecord

inductive Revert where
  | message (text : String)
  | unauthorizedAccount (account : Address)
  | invalidOwner (account : Address)
  | invalidSignature
  | arithmeticOverflow
  | tokenTransferFailed

structure Transfer where
  jobId : JobId
  source : Address
  recipient : Address
  amount : Nat

structure Deployment (Ledger Proof : Type) where
  token : Erc20 Ledger
  self : Address
  claimDigest : JobId → Address → Nat → BitVec 256
  recover : BitVec 256 → Proof → Option Address

structure Chain (Ledger : Type) where
  storage : Storage
  ledger : Ledger
  timestamp : Nat
  transfers : List Transfer

def deploy (usdc oracle deployer : Address) : Except Revert Storage := do
  require (usdc ≠ zeroAddress) (.message "Invalid USDC address")
  require (oracle ≠ zeroAddress) (.message "Invalid oracle address")
  return {
    owner := deployer
    oracle := oracle
    relayer := deployer
    escrows := fun _ => emptyRecord }

namespace Storage

def store (storage : Storage) (jobId : JobId) (record : EscrowRecord) :
    Storage :=
  { storage with
    escrows := fun other =>
      if other = jobId then record else storage.escrows other }

@[simp]
theorem store_escrows_self (storage : Storage) (jobId : JobId) (record : EscrowRecord) :
    (storage.store jobId record).escrows jobId = record := by
  simp [store]

theorem store_escrows_of_ne (storage : Storage) {jobId other : JobId}
    (record : EscrowRecord) (different : other ≠ jobId) :
    (storage.store jobId record).escrows other = storage.escrows other := by
  simp [store, different]

end Storage

section Calls

variable {Ledger Proof : Type}

def safeTransfer (deployment : Deployment Ledger Proof)
    (chain : Chain Ledger) (jobId : JobId) (recipient : Address)
    (amount : Nat) : Except Revert (Chain Ledger) := do
  let ledger ← orFail .tokenTransferFailed
    (deployment.token.transfer chain.ledger deployment.self recipient amount)
  return { chain with
    ledger := ledger
    transfers := chain.transfers ++ [⟨jobId, deployment.self, recipient, amount⟩] }

def safeTransferFrom (deployment : Deployment Ledger Proof)
    (chain : Chain Ledger) (jobId : JobId) (holder : Address)
    (amount : Nat) : Except Revert (Chain Ledger) := do
  let ledger ← orFail .tokenTransferFailed
    (deployment.token.transferFrom chain.ledger deployment.self holder deployment.self amount)
  return { chain with
    ledger := ledger
    transfers := chain.transfers ++ [⟨jobId, holder, deployment.self, amount⟩] }

def depositAndLock (deployment : Deployment Ledger Proof)
    (chain : Chain Ledger) (sender : Address) (jobId : JobId)
    (provider : Address) (amount expiry : Nat) :
    Except Revert (Chain Ledger) := do
  require ((chain.storage.escrows jobId).status = .empty) (.message "Job already exists")
  require (provider ≠ zeroAddress) (.message "Invalid provider address")
  require (0 < amount) (.message "Amount must be > 0")
  require (chain.timestamp < expiry) (.message "Expiry must be in future")
  let chain ← safeTransferFrom deployment chain jobId sender amount
  return { chain with
    storage := chain.storage.store jobId {
      renter := sender
      status := .locked
      provider := provider
      amount := amount
      expiry := expiry } }

def feeOf (amount : Nat) : Nat :=
  amount * feeBps / bpsDenominator

def claimLock (deployment : Deployment Ledger Proof)
    (chain : Chain Ledger) (sender : Address) (jobId : JobId)
    (proof : Proof) : Except Revert (Chain Ledger) := do
  let escrow := chain.storage.escrows jobId
  require (escrow.status = .locked) (.message "Not locked")
  require (sender = escrow.provider ∨ sender = chain.storage.relayer ∨ sender = chain.storage.owner)
    (.message "Not authorized to claim")
  require (chain.timestamp ≤ escrow.expiry) (.message "Expired")
  let signer ← orFail .invalidSignature
    (deployment.recover (deployment.claimDigest jobId escrow.provider escrow.amount) proof)
  require (signer = chain.storage.oracle) (.message "Invalid oracle proof")
  -- checked arithmetic: the product must fit a uint256
  require (escrow.amount * feeBps ≤ uint256Max) .arithmeticOverflow
  let fee := feeOf escrow.amount
  let providerAmount := escrow.amount - fee
  let chain := { chain with
    storage := chain.storage.store jobId { escrow with status := .claimed } }
  let chain ← safeTransfer deployment chain jobId escrow.provider providerAmount
  safeTransfer deployment chain jobId chain.storage.owner fee

def cancelExpiredLock (deployment : Deployment Ledger Proof)
    (chain : Chain Ledger) (sender : Address) (jobId : JobId) :
    Except Revert (Chain Ledger) := do
  let escrow := chain.storage.escrows jobId
  require (escrow.status = .locked) (.message "Not locked")
  require (escrow.expiry < chain.timestamp) (.message "Not expired yet")
  require (sender = escrow.renter ∨ sender = chain.storage.relayer ∨ sender = chain.storage.owner)
    (.message "Not authorized to cancel")
  let chain := { chain with
    storage := chain.storage.store jobId { escrow with status := .cancelled } }
  safeTransfer deployment chain jobId escrow.renter escrow.amount

def onlyOwner (chain : Chain Ledger) (sender : Address) :
    Except Revert PUnit :=
  require (sender = chain.storage.owner) (.unauthorizedAccount sender)

def setOracle (chain : Chain Ledger) (sender newOracle : Address) :
    Except Revert (Chain Ledger) := do
  onlyOwner chain sender
  require (newOracle ≠ zeroAddress) (.message "Invalid oracle address")
  return { chain with storage := { chain.storage with oracle := newOracle } }

def setRelayer (chain : Chain Ledger) (sender newRelayer : Address) :
    Except Revert (Chain Ledger) := do
  onlyOwner chain sender
  require (newRelayer ≠ zeroAddress) (.message "Invalid relayer address")
  return { chain with
    storage := { chain.storage with relayer := newRelayer } }

def transferOwnership (chain : Chain Ledger) (sender newOwner : Address) :
    Except Revert (Chain Ledger) := do
  onlyOwner chain sender
  require (newOwner ≠ zeroAddress) (.invalidOwner newOwner)
  return { chain with storage := { chain.storage with owner := newOwner } }

def renounceOwnership (chain : Chain Ledger) (sender : Address) :
    Except Revert (Chain Ledger) := do
  onlyOwner chain sender
  return { chain with
    storage := { chain.storage with owner := zeroAddress } }

inductive Call (Proof : Type) where
  | depositAndLock (jobId : JobId) (provider : Address) (amount expiry : Nat)
  | claimLock (jobId : JobId) (proof : Proof)
  | cancelExpiredLock (jobId : JobId)
  | setOracle (newOracle : Address)
  | setRelayer (newRelayer : Address)
  | transferOwnership (newOwner : Address)
  | renounceOwnership

namespace Call

def job : Call Proof → Option JobId
  | .depositAndLock jobId _ _ _ => some jobId
  | .claimLock jobId _ => some jobId
  | .cancelExpiredLock jobId => some jobId
  | .setOracle _ | .setRelayer _ | .transferOwnership _ => none
  | .renounceOwnership => none

end Call

def perform (deployment : Deployment Ledger Proof) (chain : Chain Ledger)
    (sender : Address) : Call Proof → Except Revert (Chain Ledger)
  | .depositAndLock jobId provider amount expiry =>
    depositAndLock deployment chain sender jobId provider amount expiry
  | .claimLock jobId proof => claimLock deployment chain sender jobId proof
  | .cancelExpiredLock jobId =>
    cancelExpiredLock deployment chain sender jobId
  | .setOracle newOracle => setOracle chain sender newOracle
  | .setRelayer newRelayer => setRelayer chain sender newRelayer
  | .transferOwnership newOwner => transferOwnership chain sender newOwner
  | .renounceOwnership => renounceOwnership chain sender

inductive Action (Proof : Type) where
  | transaction (timestamp : Nat) (sender : Address) (call : Call Proof)
  | tokenActivity (timestamp : Nat)

def Chain.at (chain : Chain Ledger) (timestamp : Nat) : Chain Ledger :=
  { chain with timestamp := timestamp }

/-- One step of the chain. The contract never calls itself and grants no
allowance, so a transaction has another sender, and token activity outside
the contract does not lower the contract's balance. -/
inductive Step (deployment : Deployment Ledger Proof) :
    Chain Ledger → Action Proof → Chain Ledger → Prop
  | succeeded {chain after : Chain Ledger} {timestamp : Nat}
      {sender : Address} {call : Call Proof} :
      chain.timestamp ≤ timestamp →
      sender ≠ deployment.self →
      perform deployment (chain.at timestamp) sender call = Except.ok after →
      Step deployment chain (.transaction timestamp sender call) after
  | reverted {chain : Chain Ledger} {timestamp : Nat} {sender : Address}
      {call : Call Proof} {reason : Revert} :
      chain.timestamp ≤ timestamp →
      sender ≠ deployment.self →
      perform deployment (chain.at timestamp) sender call = Except.error reason →
      Step deployment chain (.transaction timestamp sender call) (chain.at timestamp)
  | tokenActivity {chain : Chain Ledger} {timestamp : Nat} {ledger : Ledger} :
      chain.timestamp ≤ timestamp →
      deployment.token.balanceOf chain.ledger deployment.self ≤
        deployment.token.balanceOf ledger deployment.self →
      Step deployment chain (.tokenActivity timestamp)
        { chain with ledger := ledger, timestamp := timestamp }

end Calls

end DcpPlatform.Contracts.Escrow
