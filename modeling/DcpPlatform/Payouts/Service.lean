import DcpPlatform.Foundation.Money
import DcpPlatform.Foundation.Outcome
import DcpPlatform.Foundation.Table

/-!
# Payout requests of providers

A payout request reserves part of a provider's claimable earnings. It is paid
or rejected by hand, or sent to the gateway and settled from the status
reported. A gateway operation has a part before the call and parts for its
return.
-/

namespace DcpPlatform.Payouts

open Foundation

abbrev ProviderId := Nat

abbrev PayoutId := Nat

abbrev DisbursementId := Nat

abbrev Timestamp := Nat

def minPayoutUsd : ℚ := 50

def usdToSar : ℚ := 375 / 100

def halalaPerSar : ℚ := 100

inductive PayoutStatus where
  | pending
  | processing
  | paid
  | rejected
  deriving DecidableEq

def PayoutStatus.text : PayoutStatus → String
  | .pending => "pending"
  | .processing => "processing"
  | .paid => "paid"
  | .rejected => "rejected"

structure PayoutRequest where
  id : PayoutId
  providerId : ProviderId
  amountUsd : ℚ
  amountSar : ℚ
  amountHalala : Int
  status : PayoutStatus
  requestedAt : Timestamp
  processedAt : Option Timestamp
  paymentRef : Option String
  moyasarPayoutId : Option DisbursementId
  moyasarStatus : Option String
  failureReason : Option String

structure Provider where
  claimableEarningsHalala : Int
  deleted : Bool
  payoutIban : Option String
  payoutHolderName : Option String

structure Database where
  providers : ProviderId → Option Provider
  payoutRequests : Table PayoutRequest PayoutRequest.id

structure MoyasarPayout where
  id : DisbursementId
  status : String
  sequenceNumber : Option String
  failureReason : Option String
  message : Option String

def isTerminalSuccess (status : String) : Bool :=
  status = "paid"

def isTerminalFailure (status : String) : Bool :=
  status = "failed" ∨ status = "canceled" ∨ status = "returned"

inductive PayoutError where
  | invalidAmount
  | belowMinimum
  | providerNotFound
  | insufficientBalance (availableHalala requestedHalala : Int)
  | notFound
  | alreadyPaid
  | rejected
  | notRejectable (status : PayoutStatus)
  | notPending (status : PayoutStatus)
  | claimedFirst (status : PayoutStatus)
  | noPayoutAccount
  | noMoyasarId

namespace PayoutError

def code : PayoutError → String
  | .invalidAmount => "INVALID_AMOUNT"
  | .belowMinimum => "BELOW_MINIMUM"
  | .providerNotFound => "PROVIDER_NOT_FOUND"
  | .insufficientBalance _ _ => "INSUFFICIENT_BALANCE"
  | .notFound => "NOT_FOUND"
  | .alreadyPaid => "ALREADY_PAID"
  | .rejected => "REJECTED"
  | .notRejectable _ => "NOT_REJECTABLE"
  | .notPending _ => "NOT_PENDING"
  | .claimedFirst _ => "NOT_PENDING"
  | .noPayoutAccount => "NO_PAYOUT_ACCOUNT"
  | .noMoyasarId => "NO_MOYASAR_ID"

def message : PayoutError → String
  | .invalidAmount => "amount_usd must be a positive number"
  | .belowMinimum => "Minimum payout is $50 USD (187.50 SAR)"
  | .providerNotFound => "Provider not found"
  | .insufficientBalance _ _ =>
    "Requested amount exceeds available balance"
  | .notFound => "Payout request not found"
  | .alreadyPaid => "Payout already marked as paid"
  | .rejected => "Cannot mark a rejected payout as paid"
  | .notRejectable status =>
    "Cannot reject a payout with status '" ++ status.text ++ "'"
  | .notPending status =>
    "Payout has status '" ++ status.text ++ "'; expected 'pending'"
  | .claimedFirst status =>
    "Payout has status '" ++ status.text ++ "'; another approver claimed it first"
  | .noPayoutAccount =>
    "Provider has no registered payout IBAN. " ++ "POST /api/providers/payout-account first."
  | .noMoyasarId => "Payout not yet sent to Moyasar"

end PayoutError

namespace Database

def addClaimable (db : Database) (providerId : ProviderId) (amount : Int) : Database :=
  { db with
    providers := fun other =>
      if other = providerId then
        (db.providers other).map (fun provider =>
          { provider with
            claimableEarningsHalala := provider.claimableEarningsHalala + amount })
      else
        db.providers other }

def activeProvider (db : Database) (providerId : ProviderId) :
    Option Provider :=
  (db.providers providerId).filter (fun provider => !provider.deleted)

end Database

/-- Halala on hold in requests that are neither paid nor rejected. -/
def pendingHoldsHalala (db : Database) (providerId : ProviderId) : Int :=
  db.payoutRequests.total (fun row =>
    if row.providerId = providerId ∧ (row.status = .pending ∨ row.status = .processing) then
      row.amountHalala
    else
      0)

/-- Reserve an amount and queue a request for it. An amount that is not a
finite number is `none`. -/
def requestPayout (db : Database) (id : PayoutId) (now : Timestamp)
    (providerId : ProviderId) (amountUsd : Option ℚ) :
    Except PayoutError (Database × PayoutRequest) := do
  let amountUsd ← orFail .invalidAmount amountUsd
  require (0 < amountUsd) .invalidAmount
  require (minPayoutUsd ≤ amountUsd) .belowMinimum
  let amountSar := toFixed2 (amountUsd * usdToSar)
  let amountHalala := mathRound (amountUsd * usdToSar * halalaPerSar)
  let provider ← orFail .providerNotFound (db.activeProvider providerId)
  let claimableHalala := provider.claimableEarningsHalala
  let onHoldHalala := pendingHoldsHalala db providerId
  let availableHalala := max 0 (claimableHalala - onHoldHalala)
  require (amountHalala ≤ availableHalala) (.insufficientBalance availableHalala amountHalala)
  let row := {
    id := id
    providerId := providerId
    amountUsd := amountUsd
    amountSar := amountSar
    amountHalala := amountHalala
    status := .pending
    requestedAt := now
    processedAt := none
    paymentRef := none
    moyasarPayoutId := none
    moyasarStatus := none
    failureReason := none }
  let reserved := db.addClaimable providerId (-amountHalala)
  return ({ reserved with
    payoutRequests := reserved.payoutRequests.insertIfNew row }, row)

def nonempty (text : Option String) : Option String :=
  text.filter (fun text => text ≠ "")

namespace Database

def updateRequest (db : Database) (payoutId : PayoutId) (change : PayoutRequest → PayoutRequest)
    (keeps : ∀ row, (change row).id = row.id) : Database :=
  { db with
    payoutRequests := db.payoutRequests.update payoutId change keeps }

def updateRequestWhere (db : Database) (payoutId : PayoutId)
    (guard : PayoutRequest → Prop) [DecidablePred guard]
    (change : PayoutRequest → PayoutRequest)
    (keeps : ∀ row, (change row).id = row.id) : Database :=
  { db with
    payoutRequests := db.payoutRequests.updateWhere payoutId guard change keeps }

end Database

def setPaid (now : Timestamp) (paymentRef : Option String) (row : PayoutRequest) : PayoutRequest :=
  { row with
    status := .paid
    processedAt := some now
    paymentRef := nonempty paymentRef }

variable (now : Timestamp)

@[simp]
theorem setPaid_id (paymentRef : Option String) (row : PayoutRequest) :
    (setPaid now paymentRef row).id = row.id :=
  rfl

def markPayoutPaid (db : Database) (payoutId : PayoutId)
    (now : Timestamp) (paymentRef : Option String) :
    Except PayoutError (Database × Option PayoutRequest) := do
  let row ← orFail .notFound (db.payoutRequests.lookup payoutId)
  require (row.status ≠ .paid) .alreadyPaid
  require (row.status ≠ .rejected) .rejected
  let after := db.updateRequest payoutId (setPaid now paymentRef) (setPaid_id now paymentRef)
  return (after, after.payoutRequests.lookup payoutId)

/-- The reference a manual rejection leaves on the row. -/
def rejectionRef (reason : Option String) : String :=
  match nonempty reason with
  | some reason => "REJECTED: " ++ reason
  | none => "REJECTED"

def setRejected (now : Timestamp) (reason : Option String) (row : PayoutRequest) : PayoutRequest :=
  { row with
    status := .rejected
    processedAt := some now
    paymentRef := some (rejectionRef reason) }

@[simp]
theorem setRejected_id (reason : Option String) (row : PayoutRequest) :
    (setRejected now reason row).id = row.id :=
  rfl

def rejectPayout (db : Database) (payoutId : PayoutId) (now : Timestamp) (reason : Option String) :
    Except PayoutError (Database × Option PayoutRequest) := do
  let row ← orFail .notFound (db.payoutRequests.lookup payoutId)
  require (row.status = .pending ∨ row.status = .processing) (.notRejectable row.status)
  let returned := db.addClaimable row.providerId row.amountHalala
  let after := returned.updateRequest payoutId (setRejected now reason) (setRejected_id now reason)
  return (after, after.payoutRequests.lookup payoutId)

structure CreatePayout where
  payoutId : PayoutId
  providerId : ProviderId
  amountHalala : Int
  iban : String
  beneficiaryName : String

def isPending (row : PayoutRequest) : Prop :=
  row.status = .pending
deriving Decidable

def setProcessing (now : Timestamp) (row : PayoutRequest) :
    PayoutRequest :=
  { row with
    status := .processing
    processedAt := some now }

@[simp]
theorem setProcessing_id (row : PayoutRequest) :
    (setProcessing now row).id = row.id :=
  rfl

/-- The part of `processPayoutViaMoyasar` before the gateway is called: the
request is claimed by moving it from pending to processing. -/
def processPayoutViaMoyasar (db : Database) (payoutId : PayoutId)
    (now : Timestamp) : Except PayoutError (Database × CreatePayout) := do
  let row ← orFail .notFound (db.payoutRequests.lookup payoutId)
  require (row.status = .pending) (.notPending row.status)
  let provider ← orFail .providerNotFound (db.providers row.providerId)
  let iban ← orFail .noPayoutAccount (nonempty provider.payoutIban)
  let beneficiaryName ← orFail .noPayoutAccount (nonempty provider.payoutHolderName)
  require (db.payoutRequests.changes payoutId isPending) (.claimedFirst row.status)
  return (db.updateRequestWhere payoutId isPending (setProcessing now) (setProcessing_id now),
    { payoutId := payoutId
      providerId := row.providerId
      amountHalala := row.amountHalala
      iban := iban
      beneficiaryName := beneficiaryName })

def setCreated (response : MoyasarPayout) (row : PayoutRequest) :
    PayoutRequest :=
  { row with
    moyasarPayoutId := some response.id
    moyasarStatus := some response.status }

variable (response : MoyasarPayout)

@[simp]
theorem setCreated_id (row : PayoutRequest) :
    (setCreated response row).id = row.id :=
  rfl

def createPayoutReturned (db : Database) (payoutId : PayoutId)
    (response : MoyasarPayout) : Database :=
  db.updateRequest payoutId (setCreated response) (setCreated_id response)

def isClaimed (row : PayoutRequest) : Prop :=
  row.status = .processing ∧ row.moyasarPayoutId = none
deriving Decidable

def setPending (row : PayoutRequest) : PayoutRequest :=
  { row with
    status := .pending
    processedAt := none }

@[simp]
theorem setPending_id (row : PayoutRequest) :
    (setPending row).id = row.id :=
  rfl

def createPayoutFailed (db : Database) (payoutId : PayoutId) : Database :=
  db.updateRequestWhere payoutId isClaimed setPending setPending_id

structure SyncResult where
  status : Option PayoutStatus
  moyasarStatus : Option String
  transitioned : Bool

/-- How `syncPayoutStatus` goes on after reading the row: it returns, or it
awaits the gateway with the row and its disbursement id in hand. -/
inductive SyncStart where
  | settled (result : SyncResult)
  | fetching (row : PayoutRequest) (disbursement : DisbursementId)

def syncPayoutStatus (db : Database) (payoutId : PayoutId) :
    Except PayoutError SyncStart := do
  let row ← orFail .notFound (db.payoutRequests.lookup payoutId)
  let disbursement ← orFail .noMoyasarId row.moyasarPayoutId
  if row.status = .paid ∨ row.status = .rejected then
    return .settled ⟨some row.status, row.moyasarStatus, false⟩
  else
    return .fetching row disbursement

/-- The status a peer has written in the meantime. -/
def freshResult (db : Database) (payoutId : PayoutId) : SyncResult :=
  let fresh := db.payoutRequests.lookup payoutId
  ⟨fresh.map (·.status), fresh.bind (·.moyasarStatus), false⟩

/-- The guard of both terminal transitions. -/
def isUnsettled (row : PayoutRequest) : Prop :=
  ¬ (row.status = .paid ∨ row.status = .rejected)
deriving Decidable

def setSyncedPaid (now : Timestamp) (response : MoyasarPayout)
    (row : PayoutRequest) : PayoutRequest :=
  { row with
    status := .paid
    moyasarStatus := some response.status
    processedAt := some now
    paymentRef := row.paymentRef.or
      (some ((nonempty response.sequenceNumber).getD (toString response.id))) }

@[simp]
theorem setSyncedPaid_id (row : PayoutRequest) :
    (setSyncedPaid now response row).id = row.id :=
  rfl

def failureReasonOf (response : MoyasarPayout) : String :=
  ((nonempty response.failureReason).or
    (nonempty response.message)).getD ("moyasar status=" ++ response.status)

def setSyncedRejected (now : Timestamp) (response : MoyasarPayout)
    (row : PayoutRequest) : PayoutRequest :=
  { row with
    status := .rejected
    moyasarStatus := some response.status
    failureReason := some (failureReasonOf response)
    processedAt := some now }

@[simp]
theorem setSyncedRejected_id (row : PayoutRequest) :
    (setSyncedRejected now response row).id = row.id :=
  rfl

def setSyncedStatus (response : MoyasarPayout) (row : PayoutRequest) :
    PayoutRequest :=
  { row with moyasarStatus := some response.status }

@[simp]
theorem setSyncedStatus_id (row : PayoutRequest) :
    (setSyncedStatus response row).id = row.id :=
  rfl

def fetchPayoutReturned (db : Database) (row : PayoutRequest)
    (now : Timestamp) (response : MoyasarPayout) :
    Database × SyncResult :=
  if isTerminalSuccess response.status then
    if db.payoutRequests.changes row.id isUnsettled then
      (db.updateRequestWhere row.id isUnsettled
        (setSyncedPaid now response) (setSyncedPaid_id now response),
        ⟨some .paid, some response.status, true⟩)
    else
      (db, freshResult db row.id)
  else if isTerminalFailure response.status then
    if db.payoutRequests.changes row.id isUnsettled then
      let rejected := db.updateRequestWhere row.id isUnsettled
        (setSyncedRejected now response) (setSyncedRejected_id now response)
      (rejected.addClaimable row.providerId row.amountHalala,
        ⟨some .rejected, some response.status, true⟩)
    else
      (db, freshResult db row.id)
  else
    (db.updateRequest row.id (setSyncedStatus response) (setSyncedStatus_id response),
      ⟨some row.status, some response.status, false⟩)

variable {db : Database} {providerId : ProviderId}

theorem Database.activeProvider_eq_some {provider : Provider}
    (active : db.activeProvider providerId = some provider) :
    db.providers providerId = some provider :=
  (Option.filter_eq_some_iff.mp active).1

variable {row : PayoutRequest} {payoutId : PayoutId} {guard : PayoutRequest → Prop}
    {change : PayoutRequest → PayoutRequest}

theorem Database.updateRequestWhere_of_found [DecidablePred guard]
    {keeps : ∀ row, (change row).id = row.id}
    (found : db.payoutRequests.lookup payoutId = some row) (met : guard row) :
    db.updateRequestWhere payoutId guard change keeps = db.updateRequest payoutId change keeps := by
  rw [Database.updateRequestWhere, Database.updateRequest, Table.updateWhere_of_met keeps found met]

theorem Database.updateRequestWhere_of_unmet [DecidablePred guard]
    {keeps : ∀ row, (change row).id = row.id}
    (unmet : ¬ db.payoutRequests.changes payoutId guard) :
    db.updateRequestWhere payoutId guard change keeps = db := by
  rw [Database.updateRequestWhere, Table.updateWhere_of_unmet keeps unmet]

variable {after : Database} {now : Timestamp} {id : PayoutId}

theorem requestPayout_eq_ok {amountUsd : Option ℚ}
    (succeeded : requestPayout db id now providerId amountUsd = Except.ok (after, row)) :
    row.id = id ∧ row.providerId = providerId ∧ row.status = .pending ∧
      row.moyasarPayoutId = none ∧ 0 ≤ row.amountHalala ∧
      (∃ provider, db.providers providerId = some provider ∧ row.amountHalala ≤
        max 0 (provider.claimableEarningsHalala - pendingHoldsHalala db providerId)) ∧
      after = { db.addClaimable providerId (-row.amountHalala) with
        payoutRequests := db.payoutRequests.insertIfNew row } := by
  obtain ⟨amount, _, checked⟩ := bind_eq_ok_iff.mp succeeded
  simp only [require_bind_eq_ok_iff] at checked
  obtain ⟨positive, _, checked⟩ := checked
  obtain ⟨provider, active, checked⟩ := bind_eq_ok_iff.mp checked
  rw [orFail_eq_ok_iff] at active
  simp only [require_bind_eq_ok_iff] at checked
  obtain ⟨available, result⟩ := checked
  injection result with result
  injection result with afterEq rowEq
  subst rowEq
  have scaled : 0 ≤ amount * usdToSar * halalaPerSar := by
    unfold usdToSar halalaPerSar
    linarith
  exact ⟨rfl, rfl, rfl, rfl, mathRound_nonneg scaled,
    ⟨provider, Database.activeProvider_eq_some active, available⟩,
    afterEq.symm⟩

variable {stored : Option PayoutRequest}

theorem markPayoutPaid_eq_ok {paymentRef : Option String}
    (succeeded : markPayoutPaid db id now paymentRef = Except.ok (after, stored)) :
    ∃ row, db.payoutRequests.lookup id = some row ∧ row.status ≠ .rejected ∧
      after = db.updateRequest id (setPaid now paymentRef) (setPaid_id now paymentRef) := by
  obtain ⟨row, found, checked⟩ := bind_eq_ok_iff.mp succeeded
  rw [orFail_eq_ok_iff] at found
  simp only [require_bind_eq_ok_iff] at checked
  obtain ⟨_, notRejected, result⟩ := checked
  injection result with result
  injection result with afterEq _
  exact ⟨row, found, notRejected, afterEq.symm⟩

theorem rejectPayout_eq_ok {reason : Option String}
    (succeeded : rejectPayout db id now reason = Except.ok (after, stored)) :
    ∃ row, db.payoutRequests.lookup id = some row ∧
      (row.status = .pending ∨ row.status = .processing) ∧
      after = (db.updateRequest id (setRejected now reason)
        (setRejected_id now reason)).addClaimable row.providerId
          row.amountHalala := by
  obtain ⟨row, found, checked⟩ := bind_eq_ok_iff.mp succeeded
  rw [orFail_eq_ok_iff] at found
  simp only [require_bind_eq_ok_iff] at checked
  obtain ⟨rejectable, result⟩ := checked
  injection result with result
  injection result with afterEq _
  exact ⟨row, found, rejectable, afterEq.symm⟩

theorem processPayout_eq_ok {request : CreatePayout}
    (succeeded : processPayoutViaMoyasar db id now = Except.ok (after, request)) :
    ∃ row, db.payoutRequests.lookup id = some row ∧ row.status = .pending ∧ request.payoutId = id ∧
      request.amountHalala = row.amountHalala ∧
      after = db.updateRequest id (setProcessing now) (setProcessing_id now) := by
  obtain ⟨row, found, checked⟩ := bind_eq_ok_iff.mp succeeded
  rw [orFail_eq_ok_iff] at found
  simp only [require_bind_eq_ok_iff] at checked
  obtain ⟨pending, checked⟩ := checked
  obtain ⟨provider, _, checked⟩ := bind_eq_ok_iff.mp checked
  obtain ⟨iban, _, checked⟩ := bind_eq_ok_iff.mp checked
  obtain ⟨beneficiaryName, _, checked⟩ := bind_eq_ok_iff.mp checked
  simp only [require_bind_eq_ok_iff] at checked
  obtain ⟨_, result⟩ := checked
  injection result with result
  injection result with afterEq requestEq
  subst requestEq
  refine ⟨row, found, pending, rfl, rfl, ?_⟩
  rw [← afterEq]
  exact Database.updateRequestWhere_of_found found pending

theorem syncPayoutStatus_fetching {disbursement : DisbursementId}
    (started : syncPayoutStatus db payoutId = Except.ok (.fetching row disbursement)) :
    db.payoutRequests.lookup row.id = some row ∧ row.moyasarPayoutId = some disbursement := by
  obtain ⟨stored, found, checked⟩ := bind_eq_ok_iff.mp started
  obtain ⟨sent, sentEq, checked⟩ := bind_eq_ok_iff.mp checked
  rw [orFail_eq_ok_iff] at found sentEq
  split at checked
  · injection checked with checked
    cases checked
  · injection checked with checked
    injection checked with rowEq disbursementEq
    subst rowEq disbursementEq
    have key : stored.id = payoutId := Table.lookup_key found
    exact ⟨key ▸ found, sentEq⟩

inductive Fetched (db : Database) (snapshot : PayoutRequest)
    (now : Timestamp) (response : MoyasarPayout) :
    Database × SyncResult → Prop
  | paid {row : PayoutRequest} :
      db.payoutRequests.lookup snapshot.id = some row →
      isUnsettled row →
      Fetched db snapshot now response (db.updateRequest snapshot.id (setSyncedPaid now response)
        (setSyncedPaid_id now response), ⟨some .paid, some response.status, true⟩)
  | rejected {row : PayoutRequest} :
      db.payoutRequests.lookup snapshot.id = some row →
      isUnsettled row →
      isTerminalFailure response.status →
      Fetched db snapshot now response
        ((db.updateRequest snapshot.id (setSyncedRejected now response)
          (setSyncedRejected_id now response)).addClaimable snapshot.providerId
            snapshot.amountHalala,
          ⟨some .rejected, some response.status, true⟩)
  | settledByPeer : Fetched db snapshot now response (db, freshResult db snapshot.id)
  | inFlight : Fetched db snapshot now response
        (db.updateRequest snapshot.id (setSyncedStatus response) (setSyncedStatus_id response),
          ⟨some snapshot.status, some response.status, false⟩)

theorem fetchPayoutReturned_fetched (db : Database) (snapshot : PayoutRequest) (now : Timestamp)
    (response : MoyasarPayout) :
    Fetched db snapshot now response (fetchPayoutReturned db snapshot now response) := by
  unfold fetchPayoutReturned
  by_cases success : isTerminalSuccess response.status
  · rw [if_pos success]
    by_cases changed : db.payoutRequests.changes snapshot.id isUnsettled
    · obtain ⟨row, found, unsettled⟩ := changed
      rw [if_pos ⟨row, found, unsettled⟩, Database.updateRequestWhere_of_found found unsettled]
      exact Fetched.paid found unsettled
    · rw [if_neg changed]
      exact Fetched.settledByPeer
  · rw [if_neg success]
    by_cases failure : isTerminalFailure response.status
    · rw [if_pos failure]
      by_cases changed : db.payoutRequests.changes snapshot.id isUnsettled
      · obtain ⟨row, found, unsettled⟩ := changed
        rw [if_pos ⟨row, found, unsettled⟩, Database.updateRequestWhere_of_found found unsettled]
        exact Fetched.rejected found unsettled failure
      · rw [if_neg changed]
        exact Fetched.settledByPeer
    · rw [if_neg failure]
      exact Fetched.inFlight

end DcpPlatform.Payouts
