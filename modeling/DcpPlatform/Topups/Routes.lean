import DcpPlatform.Topups.AutoTopup

/-!
# Webhook, verification and reconciliation

The webhook handles one event of the gateway, which has passed the signature,
status and currency checks. `GET /verify` and `reconcilePendingTopups` read
rows first, ask the gateway and then settle the rows they have read.
-/

namespace DcpPlatform.Topups

open Foundation

inductive EventStatus where
  | initiated | paid | failed | refunded
  deriving DecidableEq

def EventStatus.toPaymentStatus : EventStatus → PaymentStatus
  | .initiated => .initiated
  | .paid => .paid
  | .failed => .failed
  | .refunded => .refunded

def EventStatus.toChargeStatus : EventStatus → ChargeStatus
  | .initiated => .initiated
  | .paid => .paid
  | .failed => .failed
  | .refunded => .refunded

structure WebhookEvent where
  id : Nat
  invoiceId : Option Nat
  status : EventStatus
  amountHalala : Int
  renterId : Option Nat
  amountRefunded : Option Int

inductive WebhookAction where
  | ignoredUnknown
  | alreadyProcessed
  | ignoredStaleStatus
  | ignoredRefundedTerminalStatus
  | balanceCredited (amountHalala : Int)
  | markedFailed
  | refundProcessed
  | statusUpdated

def IsPendingOf (renterId : Nat) (amountHalala : Int) (payment : Payment) : Prop :=
  payment.renterId = renterId ∧ payment.status = .pending ∧ payment.amountHalala = amountHalala
deriving Decidable

def newerThan (payment other : Payment) : Bool :=
  decide (other.createdAt < payment.createdAt)

def matchByAmount (db : Database) (event : WebhookEvent) :
    Option Payment :=
  event.renterId.bind (fun renterId =>
    if event.status = .paid ∧ 0 < event.amountHalala then
      firstBy newerThan (db.payments.select (IsPendingOf renterId event.amountHalala))
    else
      none)

def findPayment (db : Database) (event : WebhookEvent) : Option Payment :=
  match boundTo db event.id with
  | some payment => some payment
  | none =>
    match event.invoiceId.bind (boundTo db) with
    | some payment => some payment
    | none => matchByAmount db event

def bindPayment (db : Database) (payment : Payment) (moyasarId : Nat) :
    Database :=
  if payment.moyasarId = some moyasarId then
    db
  else
    { db with
      payments := db.payments.update payment.paymentId (Payment.setMoyasarId moyasarId)
        (Payment.setMoyasarId_paymentId moyasarId) }

def failOpenAttempt (db : Database) (moyasarPaymentId : Option Nat) (now : Int) : Database :=
  match openAttempt db moyasarPaymentId with
  | none => db
  | some attempt =>
    db.updateAttempt attempt.id (Attempt.setFailed now) (Attempt.setFailed_id now)

def setPaymentStatus (db : Database) (paymentId : PaymentKey) (status : PaymentStatus) : Database :=
  { db with
    payments := db.payments.update paymentId (Payment.setStatus status)
      (Payment.setStatus_paymentId status) }

def refundAmount (event : WebhookEvent) (payment : Payment) : Int :=
  (event.amountRefunded.filter (fun amount =>
    1 ≤ amount ∧ amount ≤ payment.amountHalala)).getD payment.amountHalala

/-- `payment` is the row as it was found, before it was bound. -/
def applyEvent (db : Database) (payment : Payment) (event : WebhookEvent)
    (now : Int) : Database × WebhookAction :=
  if payment.status = event.status.toPaymentStatus then
    (db, .alreadyProcessed)
  else if payment.status = .paid ∧ (event.status = .initiated ∨ event.status = .failed) then
    (db, .ignoredStaleStatus)
  else if payment.status = .refunded then
    (db, .ignoredRefundedTerminalStatus)
  else
    match event.status with
    | .paid =>
      match markPaymentPaidOnce db
        ⟨payment.paymentId, event.id, payment.renterId, payment.amountHalala⟩ now with
      | (after, true) =>
        (finalizeFrom3dsCallback after payment.moyasarId now, .balanceCredited payment.amountHalala)
      | (after, false) => (after, .alreadyProcessed)
    | .failed =>
      (failOpenAttempt (setPaymentStatus db payment.paymentId .failed)
        payment.moyasarId now, .markedFailed)
    | .refunded =>
      match markPaymentRefundedOnce db payment.paymentId
        payment.renterId (refundAmount event payment) now with
      | (after, true) => (after, .refundProcessed)
      | (after, false) => (after, .alreadyProcessed)
    | .initiated =>
      (setPaymentStatus db payment.paymentId .initiated, .statusUpdated)

def webhook (db : Database) (event : WebhookEvent) (now : Int) :
    Database × WebhookAction :=
  match findPayment db event with
  | none => (db, .ignoredUnknown)
  | some payment =>
    applyEvent (bindPayment db payment event.id) payment event now

/-- `GET /verify` by the platform's id of a payment or by the gateway's. -/
inductive VerifyKey where
  | paymentId (key : PaymentKey)
  | moyasarId (id : Nat)
  deriving DecidableEq

def VerifyKey.Names (key : VerifyKey) (renterId : Nat) (payment : Payment) : Prop :=
  payment.renterId = renterId ∧
    match key with
    | .paymentId key => payment.paymentId = key
    | .moyasarId id => payment.moyasarId = some id

instance (key : VerifyKey) (renterId : Nat) :
    DecidablePred (key.Names renterId) :=
  fun payment => by
    unfold VerifyKey.Names
    cases key
    all_goals exact inferInstance

/-- A verification that waits for `GET /payments/:id`. -/
structure VerifyCall where
  id : Nat
  payment : Payment
  answered : Bool

def verifyPayment (db : Database) (renterId : Nat) (key : VerifyKey) :
    Option Payment :=
  (db.payments.rows.find? (fun payment =>
    key.Names renterId payment)).filter (fun payment =>
      payment.status ≠ .paid)

def resumeVerify (db : Database) (gateway : Gateway) (payment : Payment) (now : Int) : Database :=
  match payment.moyasarId.bind gateway.charges.lookup with
  | none => db
  | some charge =>
    if charge.status = .paid then
      (markPaymentPaidOnce db
        ⟨payment.paymentId, charge.id, payment.renterId, payment.amountHalala⟩ now).1
    else
      db

inductive ReconcileDecision where
  | credit | skip | fail | wait

def topupReconcileDecision (report : Gateway.Report) (amountHalala : Int) : ReconcileDecision :=
  match report.status with
  | .paid => if report.amountHalala = amountHalala then .credit else .skip
  | .failed | .voided | .canceled | .expired => .fail
  | .waiting => .wait

structure SweptRow where
  paymentId : PaymentKey
  moyasarId : Nat
  renterId : Nat
  amountHalala : Int
  deriving DecidableEq

structure SweepCall where
  id : Nat
  remaining : List SweptRow
  deriving DecidableEq

def sweepMaxAgeDays : Int := 14

def sweepLimit : Nat := 50

def IsSweepable (now : Int) (payment : Payment) : Prop :=
  IsAwaited payment ∧ (payment.sourceType = .creditcard ∨ payment.sourceType = .applepay) ∧
    payment.moyasarId.isSome ∧
    now - sweepMaxAgeDays * 86400 * 1000 < payment.createdAt
deriving Decidable

def sweptRow (payment : Payment) : SweptRow :=
  { paymentId := payment.paymentId
    moyasarId := payment.moyasarId.getD 0
    renterId := payment.renterId
    amountHalala := payment.amountHalala }

def sweepSelection (db : Database) (now : Int) : List Payment :=
  ((db.payments.select (IsSweepable now)).mergeSort (fun payment other =>
    decide (other.createdAt ≤ payment.createdAt))).take sweepLimit

def sweepReport (gateway : Gateway) (moyasarId : Nat) :
    Option (Gateway.Report × Option Charge) :=
  match gateway.invoices.lookup moyasarId with
  | some invoice =>
    some (gateway.invoiceReport invoice, gateway.payingCharge invoice.id)
  | none =>
    (gateway.charges.lookup moyasarId).map (fun charge =>
      (Gateway.chargeReport charge, some charge))

def failAwaited (db : Database) (paymentId : PaymentKey) : Database :=
  { db with
    payments := db.payments.updateWhere paymentId IsAwaited
      (Payment.setStatus .failed) (Payment.setStatus_paymentId .failed) }

def resumeSweep (db : Database) (gateway : Gateway) (row : SweptRow) (now : Int) : Database :=
  match sweepReport gateway row.moyasarId with
  | none => db
  | some (report, charge) =>
    match topupReconcileDecision report row.amountHalala with
    | .credit =>
      (markPaymentPaidOnce db ⟨row.paymentId, (charge.map Charge.id).getD row.moyasarId,
          row.renterId, row.amountHalala⟩ now).1
    | .fail => failAwaited db row.paymentId
    | .skip | .wait => db

end DcpPlatform.Topups
