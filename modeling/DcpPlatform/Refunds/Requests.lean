import DcpPlatform.Foundation.Outcome
import DcpPlatform.Foundation.Text
import DcpPlatform.Topups.Store

/-!
# Refund requests

Approving a payment that the gateway holds suspends at the refund call; any
other payment is refunded by hand. The gateway reports its refund to the
webhook as well, any number of times.
-/

namespace DcpPlatform.Refunds

open Foundation

structure Payment where
  paymentId : String
  moyasarId : Option String
  renterId : Nat
  amountHalala : Int
  status : Topups.PaymentStatus
  confirmedAt : Option Int
  refundedAt : Option Int
  refundAmountHalala : Option Int

structure Renter where
  id : Nat
  balanceHalala : Int

inductive RequestStatus where
  | pending | processing | approved | rejected
  deriving DecidableEq

structure RefundRequest where
  id : String
  paymentId : String
  renterId : Nat
  amountHalala : Int
  reason : String
  status : RequestStatus
  requestedAt : Int
  reviewedAt : Option Int
  reviewedBy : Option String
  adminNote : Option String
  moyasarRefundId : Option String

/-- What a recorded refund took from the balance of its renter. -/
structure Deduction where
  paymentId : String
  amountHalala : Int

structure Store where
  payments : Table Payment Payment.paymentId
  renters : Table Renter Renter.id
  requests : Table RefundRequest RefundRequest.id
  deductions : List Deduction

/-! ## Row updates -/

def Payment.IsRefundable (payment : Payment) : Prop :=
  payment.status = .paid ∧ payment.refundedAt = none
deriving Decidable

def Payment.IsCreditable (payment : Payment) : Prop :=
  payment.status.settled = false
deriving Decidable

namespace Payment

def setRefunded (refundAmountHalala now : Int) (payment : Payment) :
    Payment :=
  { payment with
    status := .refunded
    refundedAt := some now
    refundAmountHalala := some refundAmountHalala }

@[simp]
theorem setRefunded_paymentId (refundAmountHalala now : Int) (payment : Payment) :
    (payment.setRefunded refundAmountHalala now).paymentId =
      payment.paymentId :=
  rfl

def setPaid (now : Int) (payment : Payment) : Payment :=
  { payment with status := .paid, confirmedAt := some now }

@[simp]
theorem setPaid_paymentId (now : Int) (payment : Payment) :
    (payment.setPaid now).paymentId = payment.paymentId :=
  rfl

end Payment

def Renter.setBalance (change : Int → Int) (renter : Renter) : Renter :=
  { renter with balanceHalala := change renter.balanceHalala }

@[simp]
theorem Renter.setBalance_id (change : Int → Int) (renter : Renter) :
    (renter.setBalance change).id = renter.id :=
  rfl

namespace RefundRequest

def setReviewed (status : RequestStatus) (now : Int) (adminId : String)
    (adminNote : Option String) (request : RefundRequest) :
    RefundRequest :=
  { request with
    status := status
    reviewedAt := some now
    reviewedBy := some adminId
    adminNote := adminNote }

@[simp]
theorem setReviewed_id (status : RequestStatus) (now : Int)
    (adminId : String) (adminNote : Option String) (request : RefundRequest) :
    (request.setReviewed status now adminId adminNote).id = request.id :=
  rfl

def setApproved (now : Int) (adminId : String)
    (adminNote moyasarRefundId : Option String) (request : RefundRequest) :
    RefundRequest :=
  { request.setReviewed .approved now adminId adminNote with
    moyasarRefundId := moyasarRefundId }

@[simp]
theorem setApproved_id (now : Int) (adminId : String)
    (adminNote moyasarRefundId : Option String) (request : RefundRequest) :
    (request.setApproved now adminId adminNote moyasarRefundId).id =
      request.id :=
  rfl

/-- Back into the queue, with the error of the gateway in the note. -/
def setReturned (adminNote : Option String) (request : RefundRequest) :
    RefundRequest :=
  { request with status := .pending, adminNote := adminNote }

@[simp]
theorem setReturned_id (adminNote : Option String) (request : RefundRequest) :
    (request.setReturned adminNote).id = request.id :=
  rfl

def IsPending (request : RefundRequest) : Prop :=
  request.status = .pending
deriving Decidable

def IsOpen (request : RefundRequest) : Prop :=
  request.status = .pending ∨ request.status = .processing
deriving Decidable

end RefundRequest

namespace Store

def deduct (store : Store) (paymentId : String) (renterId : Nat) (amountHalala : Int) : Store :=
  let remains := fun balance : Int => max 0 (balance - amountHalala)
  { store with
    renters := store.renters.update renterId (Renter.setBalance remains)
      (Renter.setBalance_id remains)
    deductions := store.deductions ++ [⟨paymentId,
          ((store.renters.lookup renterId).map (fun renter =>
            renter.balanceHalala - remains renter.balanceHalala)).getD
            0⟩] }

def recordRefund (store : Store) (paymentId : String) (renterId : Nat)
    (refundAmountHalala now : Int) : Option Store :=
  if store.payments.changes paymentId Payment.IsRefundable then
    some ({ store with
      payments := store.payments.updateWhere paymentId
        Payment.IsRefundable (Payment.setRefunded refundAmountHalala now)
        (Payment.setRefunded_paymentId refundAmountHalala
          now) }.deduct paymentId renterId refundAmountHalala)
  else
    none

def markPaymentRefundedOnce (store : Store) (paymentId : String)
    (renterId : Nat) (refundAmountHalala now : Int) : Store :=
  (store.recordRefund paymentId renterId refundAmountHalala now).getD store

def markPaymentPaidOnce (store : Store) (paymentId : String)
    (renterId : Nat) (amountHalala now : Int) : Store :=
  if store.payments.changes paymentId Payment.IsCreditable then
    { store with
      payments := store.payments.updateWhere paymentId Payment.IsCreditable (Payment.setPaid now)
        (Payment.setPaid_paymentId now)
      renters := store.renters.update renterId
        (Renter.setBalance (fun balance => balance + amountHalala))
        (Renter.setBalance_id _) }
  else
    store

end Store

inductive RequestError where
  | paymentIdRequired | reasonTooShort | paymentNotFound
  | notPaid (status : Topups.PaymentStatus)
  | alreadyRefunded | badAmount
  | alreadyOpen (requestId : String)

def toFiniteInt (value : ℚ) (least most : Int) : Option Int :=
  if (least : ℚ) ≤ value ∧ value ≤ most ∧ value.den = 1 then
    some value.num
  else
    none

structure RefundBody where
  requestId : String
  renterId : Nat
  paymentParam : String
  reason : String
  amountHalala : Option ℚ

def findPayment (store : Store) (renterId : Nat) (param : String) :
    Option Payment :=
  store.payments.rows.find? (fun payment =>
    payment.renterId = renterId ∧ (payment.paymentId = param ∨ payment.moyasarId = some param))

def openRequest (store : Store) (paymentId : String) :
    Option RefundRequest :=
  store.requests.rows.find? (fun request =>
    request.paymentId = paymentId ∧ request.IsOpen)

def requestedAmount (payment : Payment) :
    Option ℚ → Option Int
  | none => some payment.amountHalala
  | some value => toFiniteInt value 1 payment.amountHalala

def requestRow (body : RefundBody) (payment : Payment) (amountHalala now : Int) : RefundRequest :=
  { id := body.requestId
    paymentId := payment.paymentId
    renterId := body.renterId
    amountHalala := amountHalala
    reason := clip 1000 (trim body.reason)
    status := .pending
    requestedAt := now
    reviewedAt := none
    reviewedBy := none
    adminNote := none
    moyasarRefundId := none }

/-- `POST /:id/refund-request`. A row without a positive amount is refused
by the table. -/
def requestRefund (store : Store) (body : RefundBody) (now : Int) :
    Except RequestError Store := do
  require (trim body.paymentParam ≠ "") .paymentIdRequired
  require (3 ≤ utf16Length (trim body.reason)) .reasonTooShort
  let payment ← orFail .paymentNotFound (findPayment store body.renterId (trim body.paymentParam))
  require (payment.status = .paid) (.notPaid payment.status)
  require (payment.refundedAt = none) .alreadyRefunded
  let amount ← orFail .badAmount (requestedAmount payment body.amountHalala)
  match openRequest store payment.paymentId with
  | some existing => .error (.alreadyOpen existing.id)
  | none => do
      require (0 < amount) .badAmount
      pure { store with
        requests := store.requests.insertIfNew (requestRow body payment amount now) }

/-! ## Approving and rejecting -/

inductive GatewayAnswer where
  | refunded (refundId : Option String)
  | failed (message : String)

structure ApproveCall where
  requestId : String
  paymentId : String
  renterId : Nat
  amountHalala : Int
  externalPaymentId : String
  now : Int
  adminId : String
  adminNote : Option String
  answer : Option GatewayAnswer

inductive Channel where
  | moyasar | manual
  deriving DecidableEq

structure Refund where
  requestId : String
  paymentId : String
  amountHalala : Int
  channel : Channel

structure System where
  gatewayConfigured : Bool
  store : Store
  calls : Table ApproveCall ApproveCall.requestId
  refunds : List Refund

inductive ReviewError where
  | notFound
  | notApprovable (status : RequestStatus)
  | paymentNotRefundable
  | alreadyClaimed
  | notRejectable (status : RequestStatus)
  | reasonTooShort
  | internal

def isSandbox (paymentId : String) : Bool :=
  "sandbox-".toList.isPrefixOf paymentId.toList

def externalIdToCall (gatewayConfigured : Bool) (payment : Payment) :
    Option String :=
  if gatewayConfigured = true ∧ isSandbox payment.paymentId = false ∧
    payment.moyasarId.getD "" ≠ "" then
    payment.moyasarId
  else
    none

def finishApproval (store : Store) (requestId paymentId : String)
    (renterId : Nat) (amountHalala now : Int) (adminId : String)
    (adminNote refundId : Option String) : Except ReviewError Store :=
  match store.recordRefund paymentId renterId amountHalala now with
  | none => .error .internal
  | some recorded =>
    .ok { recorded with
      requests := recorded.requests.update requestId
        (RefundRequest.setApproved now adminId adminNote refundId)
        (RefundRequest.setApproved_id now adminId adminNote refundId) }

def claim (store : Store) (requestId : String) (now : Int)
    (adminId : String) (adminNote : Option String) : Store :=
  { store with
    requests := store.requests.updateWhere requestId RefundRequest.IsPending
      (RefundRequest.setReviewed .processing now adminId adminNote)
      (RefundRequest.setReviewed_id .processing now adminId adminNote) }

def approveCall (row : RefundRequest) (externalPaymentId : String)
    (now : Int) (adminId : String) (adminNote : Option String) :
    ApproveCall :=
  { requestId := row.id
    paymentId := row.paymentId
    renterId := row.renterId
    amountHalala := row.amountHalala
    externalPaymentId := externalPaymentId
    now := now
    adminId := adminId
    adminNote := adminNote
    answer := none }

/-- `POST /admin/payments/refund-requests/:id/approve`, up to the refund call
where the gateway holds the payment, else to its end. -/
def approve (system : System) (requestId : String) (now : Int)
    (adminId : String) (adminNote : Option String) :
    Except ReviewError System := do
  let row ← orFail .notFound (system.store.requests.lookup requestId)
  let payment ← orFail .notFound (system.store.payments.lookup row.paymentId)
  require (row.status = .pending) (.notApprovable row.status)
  require payment.IsRefundable .paymentNotRefundable
  require (system.store.requests.changes requestId RefundRequest.IsPending) .alreadyClaimed
  let note := adminNote.map (fun text => clip 1000 (trim text))
  let claimed := claim system.store requestId now adminId note
  match externalIdToCall system.gatewayConfigured payment with
  | some externalPaymentId =>
    pure { system with
      store := claimed
      calls := system.calls.insertIfNew (approveCall row externalPaymentId now adminId note) }
  | none => do
      let finished ← finishApproval claimed requestId row.paymentId
        row.renterId row.amountHalala now adminId note none
      pure { system with
        store := finished
        refunds := system.refunds ++ [⟨requestId, row.paymentId, row.amountHalala, .manual⟩] }

def ApproveCall.setAnswer (answer : GatewayAnswer) (call : ApproveCall) :
    ApproveCall :=
  { call with answer := some answer }

@[simp]
theorem ApproveCall.setAnswer_requestId (answer : GatewayAnswer) (call : ApproveCall) :
    (call.setAnswer answer).requestId = call.requestId :=
  rfl

def madeBy (call : ApproveCall) : List Refund :=
  match call.answer with
  | some (.refunded _) =>
    [⟨call.requestId, call.paymentId, call.amountHalala, .moyasar⟩]
  | _ => []

/-- The gateway refunds exactly the requested amount, or fails. -/
def gatewayAnswers (system : System) (requestId : String)
    (answer : GatewayAnswer) : Option System :=
  match system.calls.lookup requestId with
  | none => none
  | some call =>
    if call.answer = none then
      some { system with
        calls := system.calls.update requestId (ApproveCall.setAnswer answer)
          (ApproveCall.setAnswer_requestId answer)
        refunds := system.refunds ++ madeBy (call.setAnswer answer) }
    else
      none

/-- `[adminNote, ...].filter(Boolean).join('\n')`. -/
def failureNote (adminNote : Option String) (message : String) : String :=
  match adminNote with
  | none => "Moyasar refund failed: " ++ message
  | some note =>
    if note = "" then "Moyasar refund failed: " ++ message
    else note ++ "\n" ++ "Moyasar refund failed: " ++ message

/-- The approval goes on once the gateway has answered. -/
def resumeApproval (system : System) (requestId : String) :
    Option System :=
  match system.calls.lookup requestId with
  | none => none
  | some call =>
    match call.answer with
    | none => none
    | some (.failed message) =>
      some { system with
        calls := system.calls.remove requestId
        store := { system.store with
          requests := system.store.requests.update requestId
            (RefundRequest.setReturned (some (failureNote call.adminNote message)))
            (RefundRequest.setReturned_id _) } }
    | some (.refunded refundId) =>
      match finishApproval system.store requestId call.paymentId
        call.renterId call.amountHalala call.now call.adminId
        call.adminNote refundId with
      | .ok finished =>
        some { system with
          calls := system.calls.remove requestId
          store := finished }
      | .error _ =>
        some { system with calls := system.calls.remove requestId }

def reject (store : Store) (requestId : String) (reason : String)
    (now : Int) (adminId : String) : Except ReviewError Store := do
  let note := clip 1000 (trim reason)
  require (3 ≤ utf16Length note) .reasonTooShort
  let row ← orFail .notFound (store.requests.lookup requestId)
  require (row.status = .pending) (.notRejectable row.status)
  pure { store with
    requests := store.requests.updateWhere requestId RefundRequest.IsPending
      (RefundRequest.setReviewed .rejected now adminId (some note))
      (RefundRequest.setReviewed_id .rejected now adminId (some note)) }

/-- A `refunded` event; an amount outside the range stands for all of it. -/
def webhookRefunded (store : Store) (paymentId : String) (amountRefunded now : Int) : Store :=
  match store.payments.lookup paymentId with
  | none => store
  | some payment =>
    if payment.status = .refunded then
      store
    else
      store.markPaymentRefundedOnce payment.paymentId payment.renterId
        ((toFiniteInt amountRefunded 1 payment.amountHalala).getD payment.amountHalala) now

def webhookPaid (store : Store) (paymentId : String) (now : Int) : Store :=
  match store.payments.lookup paymentId with
  | none => store
  | some payment =>
    if payment.status = .paid ∨ payment.status = .refunded then
      store
    else
      store.markPaymentPaidOnce payment.paymentId payment.renterId payment.amountHalala now

inductive RefundAction where
  | requestRefund (body : RefundBody) (now : Int)
  | approve (requestId : String) (now : Int) (adminId : String) (adminNote : Option String)
  | gatewayAnswers (requestId : String) (answer : GatewayAnswer)
  | resumeApproval (requestId : String)
  | reject (requestId reason : String) (now : Int) (adminId : String)
  | webhookRefunded (paymentId : String) (amountRefunded now : Int)
  | webhookPaid (paymentId : String) (now : Int)
  | spend (renterId : Nat) (amountHalala : Int)

def IsReported (system : System) (paymentId : String) (amountRefunded : Int) : Prop :=
  ∃ refund ∈ system.refunds,
    refund.paymentId = paymentId ∧ refund.amountHalala = amountRefunded ∧ refund.channel = .moyasar
deriving Decidable

def spend (store : Store) (renterId : Nat) (amountHalala : Int) :
    Option Store :=
  match store.renters.lookup renterId with
  | none => none
  | some renter =>
    if 0 ≤ amountHalala ∧ amountHalala ≤ renter.balanceHalala then
      some { store with
        renters := store.renters.update renterId
          (Renter.setBalance (fun balance => balance - amountHalala))
          (Renter.setBalance_id _) }
    else
      none

def next (system : System) : RefundAction → Option System
  | .requestRefund body now =>
    some (match requestRefund system.store body now with
      | .ok store => { system with store := store }
      | .error _ => system)
  | .approve requestId now adminId adminNote =>
    some (match approve system requestId now adminId adminNote with
      | .ok after => after
      | .error _ => system)
  | .gatewayAnswers requestId answer =>
    gatewayAnswers system requestId answer
  | .resumeApproval requestId => resumeApproval system requestId
  | .reject requestId reason now adminId =>
    some (match reject system.store requestId reason now adminId with
      | .ok store => { system with store := store }
      | .error _ => system)
  | .webhookRefunded paymentId amountRefunded now =>
    if IsReported system paymentId amountRefunded then
      some { system with
        store := webhookRefunded system.store paymentId amountRefunded now }
    else
      none
  | .webhookPaid paymentId now =>
    some { system with store := webhookPaid system.store paymentId now }
  | .spend renterId amountHalala =>
    (spend system.store renterId amountHalala).map (fun store =>
      { system with store := store })

end DcpPlatform.Refunds
