import DcpPlatform.Foundation.Text
import DcpPlatform.Foundation.Transition
import DcpPlatform.Payouts.Service

/-!
# The handlers of the escrow listener

The listener reconciles payment events, jobs and payout requests with the logs
of the escrow contract. A handler hashes the ids of a bounded number of
candidates to find its job. `PayoutReleased`, which the contract does not
emit, is left out.
-/

namespace DcpPlatform.EscrowListener

open Foundation
open Payouts (PayoutId ProviderId Timestamp PayoutRequest usdToSar halalaPerSar)

abbrev TxHash := Nat

section Logs

variable (Hash : Type)

/-- `other` stands for the topics that are not handled. -/
inductive Event where
  | claimed (jobId32 : Hash) (provider : String) (providerAmount feeAmount : Nat)
  | cancelled (jobId32 : Hash) (renter : String) (amount : Nat)
  | paymentReleased (jobId32 : Hash) (provider : String) (amount : Nat)
  | disputeRaised (jobId32 : Hash) (renter : String)
  | other
  deriving DecidableEq

structure Log where
  blockNumber : Nat
  logIndex : Nat
  transactionHash : TxHash
  event : Event Hash
  deriving DecidableEq

end Logs

structure PaymentEvent where
  id : Nat
  jobId : String
  escrowTxHash : Option TxHash
  settledAt : Option Timestamp
  deriving DecidableEq

inductive JobStatus where
  | paymentReleased | disputed | cancelled | other
  deriving DecidableEq

structure Job where
  id : Nat
  jobId : String
  status : JobStatus

structure Alert where
  jobId : Option String
  txHash : TxHash

structure EthAccount where
  providerId : ProviderId
  ethAddress : String

/-- The tables of the listener and its column of the payout requests. -/
structure Records where
  paymentEvents : Table PaymentEvent PaymentEvent.id
  jobs : Table Job Job.id
  ethAccounts : Table EthAccount EthAccount.providerId
  payoutTxHash : PayoutId → Option TxHash
  alerts : List Alert

structure Database where
  payouts : Payouts.Database
  records : Records

inductive Deed where
  | settled (paymentEventId : Nat)
  | marked (jobId : Nat)
  | requested (payoutId : PayoutId)

def Deed.request : Deed → Option PayoutId
  | .requested payoutId => some payoutId
  | _ => none

inductive Statement where
  | selectCandidates | updateMatch | updatePayouts | selectProvider
  | insertPayout | insertAlert
  deriving DecidableEq

def scanLimit : Nat := 200

section Handlers

variable {Hash : Type} [DecidableEq Hash] (keccak256 : String → Hash)

/-! ## Claimed -/

def PaymentEvent.isUnsettled (row : PaymentEvent) : Prop :=
  row.escrowTxHash = none ∧ row.settledAt = none
deriving Decidable

def Records.unsettled (records : Records) : List PaymentEvent :=
  (records.paymentEvents.rows.filter PaymentEvent.isUnsettled).take scanLimit

def Records.unsettledEvent (records : Records) (jobId32 : Hash) :
    Option PaymentEvent :=
  records.unsettled.find? (fun row => keccak256 row.jobId = jobId32)

def PaymentEvent.settle (txHash : TxHash) (now : Timestamp) (row : PaymentEvent) : PaymentEvent :=
  { row with escrowTxHash := some txHash, settledAt := some now }

def Database.settleEvent (db : Database) (paymentEventId : Nat)
    (txHash : TxHash) (now : Timestamp) : Database :=
  { db with
    records := { db.records with
      paymentEvents := db.records.paymentEvents.update paymentEventId
        (PaymentEvent.settle txHash now) (fun _ => rfl) } }

def Database.isClaimedBy (db : Database) (provider : String) (row : PayoutRequest) : Prop :=
  row.status = .pending ∧ (db.payouts.activeProvider row.providerId).isSome = true ∧
    (db.records.ethAccounts.lookup row.providerId).any (fun account =>
      account.ethAddress = toLowerCase provider) = true

instance (db : Database) (provider : String) (row : PayoutRequest) :
    Decidable (db.isClaimedBy provider row) :=
  inferInstanceAs (Decidable (_ ∧ _))

def Database.claimedRequests (db : Database) (provider : String) :
    List PayoutRequest :=
  db.payouts.payoutRequests.rows.filter (db.isClaimedBy provider)

def Database.usesTxHash (db : Database) (txHash : TxHash) (row : PayoutRequest) : Prop :=
  db.records.payoutTxHash row.id = some txHash

instance (db : Database) (txHash : TxHash) (row : PayoutRequest) :
    Decidable (db.usesTxHash txHash row) :=
  inferInstanceAs (Decidable (_ = _))

def Database.violatesIndex (db : Database) (provider : String) (txHash : TxHash) : Prop :=
  1 < (db.claimedRequests provider).length ∨ ((db.claimedRequests provider) ≠ [] ∧
    ∃ row ∈ db.payouts.payoutRequests.rows,
      db.usesTxHash txHash row ∧ ¬ db.isClaimedBy provider row)

instance (db : Database) (provider : String) (txHash : TxHash) :
    Decidable (db.violatesIndex provider txHash) :=
  inferInstanceAs (Decidable (_ ∨ _))

def process (row : PayoutRequest) : PayoutRequest :=
  { row with status := .processing }

def Database.processRow (db : Database) (provider : String) (row : PayoutRequest) : PayoutRequest :=
  if db.isClaimedBy provider row then process row else row

@[simp]
theorem Database.processRow_id (db : Database) (provider : String) (row : PayoutRequest) :
    (db.processRow provider row).id = row.id := by
  unfold Database.processRow
  split <;> rfl

def Database.processRequests (db : Database) (provider : String) (txHash : TxHash) : Database :=
  if db.violatesIndex provider txHash then
    db
  else
    { payouts := { db.payouts with
      payoutRequests := db.payouts.payoutRequests.updateAll
        (db.processRow provider) (db.processRow_id provider) }
      records := { db.records with
        payoutTxHash := fun payoutId =>
          if db.payouts.payoutRequests.changes payoutId (db.isClaimedBy provider) then
            some txHash
          else
            db.records.payoutTxHash payoutId } }

def Database.claimRequests (db : Database) (provider : String)
    (txHash : TxHash) (fails : Option Statement) : Database :=
  if fails = some .updatePayouts then
    db
  else
    db.processRequests provider txHash

def handleClaimed (db : Database) (jobId32 : Hash) (provider : String)
    (txHash : TxHash) (now : Timestamp) (fails : Option Statement) :
    Database × List Deed :=
  if fails = some .selectCandidates then
    (db, [])
  else
    match db.records.unsettledEvent keccak256 jobId32 with
    | none => (db.claimRequests provider txHash fails, [])
    | some row =>
      if fails = some .updateMatch then
        (db, [])
      else
        ((db.settleEvent row.id txHash now).claimRequests provider txHash fails, [.settled row.id])

/-! ## PaymentReleased -/

def Records.candidateJob (records : Records) (excluded : List JobStatus)
    (jobId32 : Hash) : Option Job :=
  ((records.jobs.rows.filter (fun row => row.status ∉ excluded)).take
    scanLimit).find? (fun row => keccak256 row.jobId = jobId32)

def Job.withStatus (status : JobStatus) (row : Job) : Job :=
  { row with status := status }

def Database.setJob (db : Database) (jobId : Nat) (status : JobStatus) :
    Database :=
  { db with
    records := { db.records with
      jobs := db.records.jobs.update jobId (Job.withStatus status) (fun _ => rfl) } }

/-- The `LOWER` of SQL. -/
def lower (text : String) : String :=
  String.ofList (text.toList.map Char.toLower)

def Database.providerAt (db : Database) (address : String) :
    Option ProviderId :=
  (db.records.ethAccounts.rows.find? (fun account =>
    lower account.ethAddress = lower address ∧
      (db.payouts.activeProvider account.providerId).isSome = true)).map
    EthAccount.providerId

/-- Amounts on the chain are millionths of a dollar. -/
def amountUsd (amount : Nat) : ℚ :=
  amount / 1000000

def amountSar (amount : Nat) : ℚ :=
  amountUsd amount * usdToSar

def amountHalala (amount : Nat) : Int :=
  mathRound (amountSar amount * halalaPerSar)

def releaseRequest (payoutId : PayoutId) (providerId : ProviderId)
    (amount : Nat) (now : Timestamp) : PayoutRequest :=
  { id := payoutId
    providerId := providerId
    amountUsd := amountUsd amount
    amountSar := amountSar amount
    amountHalala := amountHalala amount
    status := .pending
    requestedAt := now
    processedAt := none
    paymentRef := none
    moyasarPayoutId := none
    moyasarStatus := none
    failureReason := none }

def Database.ignoresInsert (db : Database) (payoutId : PayoutId) (txHash : TxHash) : Prop :=
  (∃ row ∈ db.payouts.payoutRequests.rows, db.usesTxHash txHash row) ∨
    db.payouts.payoutRequests.lookup payoutId ≠ none

instance (db : Database) (payoutId : PayoutId) (txHash : TxHash) :
    Decidable (db.ignoresInsert payoutId txHash) :=
  inferInstanceAs (Decidable (_ ∨ _))

def Database.insertRelease (db : Database) (row : PayoutRequest)
    (txHash : TxHash) : Database × List Deed :=
  if db.ignoresInsert row.id txHash then
    (db, [])
  else
    ({ payouts := { db.payouts with
      payoutRequests := db.payouts.payoutRequests.insertIfNew row }
       records := { db.records with
        payoutTxHash := fun payoutId =>
          if payoutId = row.id then some txHash
          else db.records.payoutTxHash payoutId } },
      [.requested row.id])

def Database.requestRelease (db : Database) (provider : String)
    (amount : Nat) (txHash : TxHash) (payoutId : PayoutId)
    (now : Timestamp) (fails : Option Statement) : Database × List Deed :=
  if fails = some .selectProvider then
    (db, [])
  else
    match db.providerAt provider with
    | none => (db, [])
    | some providerId =>
      if fails = some .insertPayout then
        (db, [])
      else
        db.insertRelease (releaseRequest payoutId providerId amount now) txHash

def handlePaymentReleased (db : Database) (jobId32 : Hash)
    (provider : String) (amount : Nat) (txHash : TxHash)
    (payoutId : PayoutId) (now : Timestamp) (fails : Option Statement) :
    Database × List Deed :=
  if fails = some .selectCandidates then
    (db, [])
  else
    match db.records.candidateJob keccak256 [.paymentReleased, .cancelled] jobId32 with
    | none => db.requestRelease provider amount txHash payoutId now fails
    | some job =>
      if fails = some .updateMatch then
        (db, [])
      else
        let (after, deeds) := (db.setJob job.id .paymentReleased).requestRelease provider
            amount txHash payoutId now fails
        (after, .marked job.id :: deeds)

def Database.insertAlert (db : Database) (alert : Alert) : Database :=
  if db.records.alerts.any (fun other => other.txHash = alert.txHash) then
    db
  else
    { db with
      records := { db.records with alerts := db.records.alerts ++ [alert] } }

def Database.raiseAlert (db : Database) (jobId : Option String)
    (txHash : TxHash) (fails : Option Statement) : Database :=
  if fails = some .insertAlert then
    db
  else
    db.insertAlert { jobId := jobId, txHash := txHash }

def handleDisputeRaised (db : Database) (jobId32 : Hash)
    (txHash : TxHash) (fails : Option Statement) : Database :=
  if fails = some .selectCandidates then
    db
  else
    match db.records.candidateJob keccak256 [.disputed, .cancelled] jobId32 with
    | none => db.raiseAlert none txHash fails
    | some job =>
      if fails = some .updateMatch then
        db
      else
        (db.setJob job.id .disputed).raiseAlert (some job.jobId) txHash fails

structure Circumstances where
  payoutId : PayoutId
  now : Timestamp
  fails : Option Statement

def handleLog (db : Database) (log : Log Hash) (met : Circumstances) :
    Database × List Deed :=
  match log.event with
  | .claimed jobId32 provider _ _ =>
    handleClaimed keccak256 db jobId32 provider log.transactionHash met.now met.fails
  | .cancelled _ _ _ => (db, [])
  | .paymentReleased jobId32 provider amount =>
    handlePaymentReleased keccak256 db jobId32 provider amount
      log.transactionHash met.payoutId met.now met.fails
  | .disputeRaised jobId32 _ =>
    (handleDisputeRaised keccak256 db jobId32 log.transactionHash met.fails, [])
  | .other => (db, [])

end Handlers

end DcpPlatform.EscrowListener
