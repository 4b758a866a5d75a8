import DcpPlatform.Foundation.Text
import DcpPlatform.Payouts.Conservation

/-!
# Three ways to withdraw

Payout requests, the withdrawal requests of `/me/withdraw` and the legacy
withdrawals in riyals pay out the same claimable earnings: the first take
their amount at once, the second when they are paid, the third never. `earned`
is kept for reasoning only.
-/

namespace DcpPlatform.Payouts

open Foundation

inductive WithdrawalStatus where
  | pending | processing | paid | failed
  deriving DecidableEq

structure WithdrawalRequest where
  id : Nat
  providerId : ProviderId
  amountHalala : Int
  isAmountReserved : Bool
  status : WithdrawalStatus
  iban : String
  adminNote : Option String
  createdAt : Timestamp
  processedAt : Option Timestamp

inductive LegacyStatus where
  | pending | approved | rejected | completed
  deriving DecidableEq

structure Withdrawal where
  withdrawalId : Nat
  providerId : ProviderId
  amountSar : ℚ
  status : LegacyStatus
  requestedAt : Timestamp
  processedAt : Option Timestamp
  notes : Option String

/-- The payout requests and the other two tables; `totalEarnings` is the
column of the providers that is kept in riyals. -/
structure Earnings where
  db : Database
  totalEarnings : ProviderId → ℚ
  withdrawalRequests : Table WithdrawalRequest WithdrawalRequest.id
  withdrawals : Table Withdrawal Withdrawal.withdrawalId
  earned : ProviderId → Int

inductive WithdrawalError where
  | invalidApiKey
  | invalidAmount
  | invalidIban
  | pendingExists
  | exceedsClaimable (claimableHalala pendingHalala availableHalala : Int)
  | invalidStatus
  | notFound
  | invalidTransition (status requested : WithdrawalStatus)
  | insufficientClaimable
  | belowMinimum
  | insufficientEarnings (availableHalala : Int)
  | wrongStatus (status : LegacyStatus)
  deriving DecidableEq

def WithdrawalRequest.IsOpen (row : WithdrawalRequest) : Prop :=
  row.status = .pending ∨ row.status = .processing
deriving Decidable

def openAmount (providerId : ProviderId) (row : WithdrawalRequest) : Int :=
  if row.providerId = providerId ∧ row.IsOpen then row.amountHalala else 0

def Earnings.openHalala (earnings : Earnings) (providerId : ProviderId) :
    Int :=
  earnings.withdrawalRequests.total (openAmount providerId)

/-- `toUpperCase`, as far as the test of an IBAN sees it. -/
def toUpperCase (text : String) : String :=
  String.ofList (text.toList.map (fun character =>
    if character.toNat = 0x17f then 'S' else character.toUpper))

def isSaudiIban (text : String) : Bool :=
  match text.toList with
  | 'S' :: 'A' :: digits =>
    digits.length = 22 && digits.all Char.isDigit
  | _ => false

/-- An amount that is not an integer is `none`. Nothing is reserved. -/
def meWithdraw (earnings : Earnings) (id : Nat) (now : Timestamp)
    (providerId : ProviderId) (amountHalala : Option Int) (iban : String) :
    Except WithdrawalError Earnings := do
  let provider ← orFail .invalidApiKey (earnings.db.providers providerId)
  let amountHalala ← orFail .invalidAmount (amountHalala.filter (fun amount => 1000 ≤ amount))
  let iban := toUpperCase ((normalizeString 24 iban).getD "")
  require (isSaudiIban iban) .invalidIban
  let claimableHalala := max 0 provider.claimableEarningsHalala
  let pendingHalala := max 0 (earnings.openHalala providerId)
  let availableHalala := max 0 (claimableHalala - pendingHalala)
  -- one pending request over both tables
  require (¬ ((∃ row ∈ earnings.withdrawalRequests.rows, row.providerId = providerId ∧ row.IsOpen) ∨
    ∃ row ∈ earnings.withdrawals.rows, row.providerId = providerId ∧ row.status = .pending))
    .pendingExists
  require (amountHalala ≤ availableHalala)
    (.exceedsClaimable claimableHalala pendingHalala availableHalala)
  return { earnings with
    withdrawalRequests := earnings.withdrawalRequests.insertIfNew {
      id := id
      providerId := providerId
      amountHalala := amountHalala
      isAmountReserved := false
      status := .pending
      iban := iban
      adminNote := none
      createdAt := now
      processedAt := none } }

def requestedStatus (status : String) : Option WithdrawalStatus :=
  match (normalizeString 20 status).map toLowerCase with
  | some "processing" => some .processing
  | some "paid" | some "completed" => some .paid
  | some "failed" | some "rejected" => some .failed
  | _ => none

def allowedTransitions : WithdrawalStatus → List WithdrawalStatus
  | .pending => [.processing, .paid, .failed]
  | .processing => [.paid, .failed]
  | .paid | .failed => []

def WithdrawalRequest.setStatus (status : WithdrawalStatus)
    (now : Timestamp) (note : Option String) (row : WithdrawalRequest) :
    WithdrawalRequest :=
  { row with
    status := status
    adminNote := note.or row.adminNote
    processedAt :=
      if status = .paid ∨ status = .failed then some now
      else row.processedAt
    isAmountReserved :=
      if status = .paid then true
      else if status = .failed then false
      else row.isAmountReserved }

@[simp]
theorem WithdrawalRequest.setStatus_id (status : WithdrawalStatus)
    (now : Timestamp) (note : Option String) (row : WithdrawalRequest) :
    (row.setStatus status now note).id = row.id :=
  rfl

/-- The claimable earnings after a transition: an amount that is not reserved
is taken when it is paid, one that is comes back when it fails. -/
def transfer (db : Database) (row : WithdrawalRequest)
    (status : WithdrawalStatus) : Except WithdrawalError Database :=
  if status = .paid ∧ row.isAmountReserved = false then
    if claimable db row.providerId < row.amountHalala then
      .error .insufficientClaimable
    else
      .ok (db.addClaimable row.providerId (-row.amountHalala))
  else if status = .failed ∧ row.isAmountReserved = true then
    .ok (db.addClaimable row.providerId row.amountHalala)
  else
    .ok db

def patchWithdrawal (earnings : Earnings) (id : Nat) (now : Timestamp)
    (status : String) (adminNote : Option String) :
    Except WithdrawalError Earnings := do
  let requested ← orFail .invalidStatus (requestedStatus status)
  let existing ← orFail .notFound (earnings.withdrawalRequests.lookup id)
  require (requested ∈ allowedTransitions existing.status)
    (.invalidTransition existing.status requested)
  let db ← transfer earnings.db existing requested
  let note := adminNote.bind (normalizeString 500)
  return { earnings with
    db := db
    withdrawalRequests := earnings.withdrawalRequests.update id
      (WithdrawalRequest.setStatus requested now note)
      (WithdrawalRequest.setStatus_id requested now note) }

def Earnings.legacyHalala (earnings : Earnings) (providerId : ProviderId)
    (status : LegacyStatus) : Int :=
  mathRound (earnings.withdrawals.total (fun row =>
    if row.providerId = providerId ∧ row.status = status then
      row.amountSar
    else
      0) * 100)

/-- `POST /api/providers/withdraw`; an amount that is not a finite number is
`none`. -/
def withdraw (earnings : Earnings) (id : Nat) (now : Timestamp)
    (providerId : ProviderId) (amountSar : Option ℚ) :
    Except WithdrawalError Earnings := do
  let provider ← orFail .invalidApiKey (earnings.db.providers providerId)
  let amountSar ← orFail .invalidAmount (amountSar.filter (fun amount =>
      (1 / 100 : ℚ) ≤ amount ∧ amount ≤ 1000000))
  require (10 ≤ amountSar) .belowMinimum
  let claimableHalala := provider.claimableEarningsHalala
  let totalEarnedHalala :=
    if 0 < claimableHalala then claimableHalala
    else mathRound (earnings.totalEarnings providerId * 100)
  let availableHalala := max 0 (totalEarnedHalala - earnings.legacyHalala providerId .pending -
      earnings.legacyHalala providerId .completed)
  require (amountSar ≤ (availableHalala : ℚ) / 100) (.insufficientEarnings availableHalala)
  return { earnings with
    withdrawals := earnings.withdrawals.insertIfNew {
      withdrawalId := id
      providerId := providerId
      amountSar := amountSar
      status := .pending
      requestedAt := now
      processedAt := none
      notes := none } }

def Withdrawal.setStatus (status : LegacyStatus) (now : Timestamp)
    (notes : String) (row : Withdrawal) : Withdrawal :=
  { row with
    status := status
    processedAt := some now
    notes := some notes }

@[simp]
theorem Withdrawal.setStatus_withdrawalId (status : LegacyStatus)
    (now : Timestamp) (notes : String) (row : Withdrawal) :
    (row.setStatus status now notes).withdrawalId = row.withdrawalId :=
  rfl

def moveWithdrawal (required status : LegacyStatus) (standard : String)
    (earnings : Earnings) (id : Nat) (now : Timestamp)
    (notes : Option String) : Except WithdrawalError Earnings := do
  let row ← orFail .notFound (earnings.withdrawals.lookup id)
  require (row.status = required) (.wrongStatus row.status)
  let notes := (notes.bind (normalizeString 500)).getD standard
  return { earnings with
    withdrawals := earnings.withdrawals.update id (Withdrawal.setStatus status now notes)
      (Withdrawal.setStatus_withdrawalId status now notes) }

def approve :=
  moveWithdrawal .pending .approved "Approved by admin"

def reject :=
  moveWithdrawal .pending .rejected "Rejected by admin"

def complete :=
  moveWithdrawal .approved .completed "Payment sent"

inductive EarningsAction where
  | earn (providerId : ProviderId) (amount : Nat)
  | meWithdraw (id : Nat) (now : Timestamp) (providerId : ProviderId)
      (amountHalala : Option Int) (iban : String)
  | patchWithdrawal (id : Nat) (now : Timestamp) (status : String) (adminNote : Option String)
  | withdraw (id : Nat) (now : Timestamp) (providerId : ProviderId) (amountSar : Option ℚ)
  | approve (id : Nat) (now : Timestamp) (notes : Option String)
  | reject (id : Nat) (now : Timestamp) (reason : Option String)
  | complete (id : Nat) (now : Timestamp) (notes : Option String)
  | requestPayout (id : PayoutId) (now : Timestamp) (providerId : ProviderId) (amountUsd : Option ℚ)
  | markPayoutPaid (id : PayoutId) (now : Timestamp) (paymentRef : Option String)
  | rejectPayout (id : PayoutId) (now : Timestamp) (reason : Option String)

namespace Earnings

/-- An operation that fails leaves everything as it was. -/
def answer (earnings : Earnings) (outcome : Except WithdrawalError Earnings) : Earnings :=
  match outcome with
  | .ok after => after
  | .error _ => earnings

def answerPayout {Value : Type} (earnings : Earnings)
    (outcome : Except PayoutError (Database × Value)) : Earnings :=
  match outcome with
  | .ok (db, _) => { earnings with db := db }
  | .error _ => earnings

def earn (earnings : Earnings) (providerId : ProviderId) (amount : Nat) :
    Earnings :=
  { earnings with
    db := earnings.db.addClaimable providerId amount
    totalEarnings := fun other =>
      if other = providerId then
        earnings.totalEarnings other + amount / 100
      else
        earnings.totalEarnings other
    earned := fun other =>
      if other = providerId then earnings.earned other + amount
      else earnings.earned other }

end Earnings

def nextEarnings (earnings : Earnings) :
    EarningsAction → Option Earnings
  | .earn providerId amount =>
    if (earnings.db.providers providerId).isSome then
      some (earnings.earn providerId amount)
    else
      none
  | .meWithdraw id now providerId amountHalala iban =>
    if earnings.withdrawalRequests.lookup id = none then
      some (earnings.answer (meWithdraw earnings id now providerId amountHalala iban))
    else
      none
  | .patchWithdrawal id now status adminNote =>
    some (earnings.answer (patchWithdrawal earnings id now status adminNote))
  | .withdraw id now providerId amountSar =>
    if earnings.withdrawals.lookup id = none then
      some (earnings.answer (withdraw earnings id now providerId amountSar))
    else
      none
  | .approve id now notes =>
    some (earnings.answer (approve earnings id now notes))
  | .reject id now reason =>
    some (earnings.answer (reject earnings id now reason))
  | .complete id now notes =>
    some (earnings.answer (complete earnings id now notes))
  | .requestPayout id now providerId amountUsd =>
    if earnings.db.payoutRequests.lookup id = none then
      some (earnings.answerPayout (requestPayout earnings.db id now providerId amountUsd))
    else
      none
  | .markPayoutPaid id now paymentRef =>
    some (earnings.answerPayout (markPayoutPaid earnings.db id now paymentRef))
  | .rejectPayout id now reason =>
    some (earnings.answerPayout (rejectPayout earnings.db id now reason))

end DcpPlatform.Payouts
