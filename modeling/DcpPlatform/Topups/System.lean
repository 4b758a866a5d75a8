import DcpPlatform.Foundation.Transition
import DcpPlatform.Topups.Routes

/-!
# Interleavings of top-ups

A state holds the database, the gateway and the calls suspended at a request
to the gateway. An action is one uninterrupted piece of an operation of the
platform, or an event at the gateway. Deliveries to the webhook may come
late, twice or never.
-/

namespace DcpPlatform.Topups

open Foundation

structure State where
  db : Database
  gateway : Gateway
  triggers : Table TriggerCall TriggerCall.attemptId
  verifies : Table VerifyCall VerifyCall.id
  sweeps : Table SweepCall SweepCall.id

inductive TopupAction where
  | topup (number renterId : Nat) (amountHalala : Int)
      (sourceType : SourceType) (invoiceId : Nat) (now : Int)
  | bankTransfer (number renterId : Nat) (amountHalala now : Int)
  | attempt (invoiceId chargeId : Nat) (carriesRenter : Bool)
  | settle (chargeId : Nat) (paid : Bool)
  | refund (chargeId : Nat)
  | expire (invoiceId : Nat)
  | deliver (chargeId : Nat) (status : EventStatus) (amountRefunded : Option Int) (now : Int)
  | startVerify (callId renterId : Nat) (key : VerifyKey)
  | resumeVerify (callId : Nat) (reachable : Bool) (now : Int)
  | startSweep (callId : Nat) (now : Int)
  | resumeSweep (callId : Nat) (reachable : Bool) (now : Int)
  | startTrigger (attemptId renterId : Nat) (clock : Clock)
  | chargeCard (attemptId chargeId : Nat)
  | resumeTrigger (attemptId : Nat) (status : ChargeStatus)
  | failTrigger (attemptId : Nat)
  | use (renterId : Nat) (amountHalala : Int)
  deriving DecidableEq

def TriggerCall.setChargeId (chargeId : Nat) (call : TriggerCall) :
    TriggerCall :=
  { call with chargeId := some chargeId }

@[simp]
theorem TriggerCall.setChargeId_attemptId (chargeId : Nat) (call : TriggerCall) :
    (call.setChargeId chargeId).attemptId = call.attemptId :=
  rfl

def TriggerCall.setAnswered (call : TriggerCall) : TriggerCall :=
  { call with answered := true }

@[simp]
theorem TriggerCall.setAnswered_attemptId (call : TriggerCall) :
    call.setAnswered.attemptId = call.attemptId :=
  rfl

def VerifyCall.setAnswered (call : VerifyCall) : VerifyCall :=
  { call with answered := true }

@[simp]
theorem VerifyCall.setAnswered_id (call : VerifyCall) :
    call.setAnswered.id = call.id :=
  rfl

def SweepCall.setRemaining (remaining : List SweptRow) (call : SweepCall) :
    SweepCall :=
  { call with remaining := remaining }

@[simp]
theorem SweepCall.setRemaining_id (remaining : List SweptRow) (call : SweepCall) :
    (call.setRemaining remaining).id = call.id :=
  rfl

/-- A suspended trigger that has not been answered. -/
def TriggerCall.IsWaiting (call : TriggerCall) : Prop :=
  call.answered = false
deriving Decidable

def topupPayment (invoice : Invoice) (sourceType : SourceType) (now : Int) : Payment :=
  { paymentId := .topup invoice.topup, moyasarId := some invoice.id
    renterId := invoice.renterId, amountHalala := invoice.amountHalala
    status := .pending, sourceType := sourceType, createdAt := now
    confirmedAt := none, refundedAt := none, refundAmountHalala := none }

def bankTransferPayment (number renterId : Nat) (amountHalala now : Int) :
    Payment :=
  { paymentId := .bankTransfer number, moyasarId := none
    renterId := renterId, amountHalala := amountHalala, status := .pending
    sourceType := .bankTransfer, createdAt := now, confirmedAt := none
    refundedAt := none, refundAmountHalala := none }

def newInvoice (number renterId : Nat) (amountHalala : Int) (invoiceId : Nat) : Invoice :=
  { id := invoiceId, topup := number, renterId := renterId
    amountHalala := amountHalala, expired := false }

def cardCharge (call : TriggerCall) (chargeId : Nat) : Charge :=
  { id := chargeId, invoiceId := none, renterId := call.renterId
    amountHalala := call.amountHalala, carriesRenter := true
    status := .initiated }

def eventOf (charge : Charge) (status : EventStatus) (amountRefunded : Option Int) : WebhookEvent :=
  { id := charge.id, invoiceId := charge.invoiceId, status := status
    amountHalala := charge.amountHalala
    renterId := if charge.carriesRenter then some charge.renterId else none
    amountRefunded := amountRefunded }

def AllowedTopup (amountHalala : Int) (sourceType : SourceType) : Prop :=
  100 ≤ amountHalala ∧ amountHalala ≤ 1000000 ∧ (sourceType = .creditcard ∨ sourceType = .applepay)
deriving Decidable

/-- An attempt id is random and never in use. -/
def State.FreshAttempt (state : State) (attemptId : Nat) : Prop :=
  state.db.attempts.lookup attemptId = none ∧ state.triggers.lookup attemptId = none ∧
    state.db.payments.lookup (.auto attemptId) = none

instance (state : State) (attemptId : Nat) :
    Decidable (state.FreshAttempt attemptId) :=
  inferInstanceAs (Decidable (_ ∧ _))

def Settleable (gateway : Gateway) (paid : Bool) (charge : Charge) :
    Prop :=
  charge.status = .initiated ∧ (paid = true → ¬ gateway.PaidOtherwise charge)
deriving Decidable

def State.startTrigger (state : State) (attemptId renterId : Nat) (clock : Clock) : State :=
  match Topups.startTrigger state.db renterId clock attemptId with
  | (db, .ok amountHalala) =>
    { state with
      db := db
      triggers := state.triggers.insertIfNew
        { attemptId := attemptId, renterId := renterId
          amountHalala := amountHalala, now := clock.now
          chargeId := none, answered := false } }
  | (db, .error _) => { state with db := db }

def State.answerTrigger (state : State) (attemptId : Nat) (db : Database) : State :=
  { state with
    db := db
    triggers := state.triggers.update attemptId TriggerCall.setAnswered
      TriggerCall.setAnswered_attemptId }

def State.answerSweep (state : State) (call : SweepCall)
    (row : SweptRow) (remaining : List SweptRow) (reachable : Bool)
    (now : Int) : State :=
  { state with
    db :=
      if reachable then
        Topups.resumeSweep state.db state.gateway row now
      else
        state.db
    sweeps := state.sweeps.update call.id (SweepCall.setRemaining remaining)
      (SweepCall.setRemaining_id remaining) }

def nextTopups (state : State) : TopupAction → Option State
  | .topup number renterId amountHalala sourceType invoiceId now =>
    let invoice := newInvoice number renterId amountHalala invoiceId
    if AllowedTopup amountHalala sourceType ∧ state.gateway.Fresh invoiceId ∧
      state.db.payments.lookup (.topup number) = none then
      some { state with
        gateway := state.gateway.createInvoice invoice
        db := { state.db with
          payments := state.db.payments.insertIfNew (topupPayment invoice sourceType now) } }
    else
      none
  | .bankTransfer number renterId amountHalala now =>
    if state.db.payments.lookup (.bankTransfer number) = none then
      some { state with
        db := { state.db with
          payments := state.db.payments.insertIfNew
            (bankTransferPayment number renterId amountHalala now) } }
    else
      none
  | .attempt invoiceId chargeId carriesRenter =>
    match state.gateway.invoices.lookup invoiceId with
    | none => none
    | some invoice =>
      if state.gateway.Fresh chargeId then
        some { state with
          gateway := state.gateway.attempt invoice chargeId carriesRenter }
      else
        none
  | .settle chargeId paid =>
    if state.gateway.charges.changes chargeId (Settleable state.gateway paid) then
      some { state with
        gateway := state.gateway.setChargeStatus chargeId (if paid then .paid else .failed) }
    else
      none
  | .refund chargeId =>
    if state.gateway.charges.changes chargeId (fun charge => charge.status = .paid) then
      some { state with
        gateway := state.gateway.setChargeStatus chargeId .refunded }
    else
      none
  | .expire invoiceId =>
    some { state with gateway := state.gateway.expire invoiceId }
  | .deliver chargeId status amountRefunded now =>
    match state.gateway.charges.lookup chargeId with
    | none => none
    | some charge =>
      if Reached charge.status status.toChargeStatus then
        some { state with
          db := (webhook state.db (eventOf charge status amountRefunded) now).1 }
      else
        none
  | .startVerify callId renterId key =>
    match verifyPayment state.db renterId key with
    | none => some state
    | some payment =>
      some { state with
        verifies := state.verifies.insertIfNew
          { id := callId, payment := payment, answered := false } }
  | .resumeVerify callId reachable now =>
    match state.verifies.lookup callId with
    | none => none
    | some call =>
      if call.answered then
        none
      else
        some { state with
          db :=
            if reachable then
              Topups.resumeVerify state.db state.gateway call.payment now
            else
              state.db
          verifies := state.verifies.update callId
            VerifyCall.setAnswered VerifyCall.setAnswered_id }
  | .startSweep callId now =>
    if state.sweeps.lookup callId = none then
      some { state with
        sweeps := state.sweeps.insertIfNew
          { id := callId
            remaining := (sweepSelection state.db now).map sweptRow } }
    else
      none
  | .resumeSweep callId reachable now =>
    match state.sweeps.lookup callId with
    | none => none
    | some call =>
      match call.remaining with
      | [] => none
      | row :: remaining =>
        some (state.answerSweep call row remaining reachable now)
  | .startTrigger attemptId renterId clock =>
    if state.FreshAttempt attemptId then
      some (state.startTrigger attemptId renterId clock)
    else
      none
  | .chargeCard attemptId chargeId =>
    match state.triggers.lookup attemptId with
    | none => none
    | some call =>
      if call.IsWaiting ∧ call.chargeId = none ∧ state.gateway.Fresh chargeId then
        some { state with
          gateway := state.gateway.createCharge (cardCharge call chargeId)
          triggers := state.triggers.update attemptId (TriggerCall.setChargeId chargeId)
            (TriggerCall.setChargeId_attemptId chargeId) }
      else
        none
  | .resumeTrigger attemptId status =>
    match state.triggers.lookup attemptId with
    | none => none
    | some call =>
      match call.chargeId.bind state.gateway.charges.lookup with
      | none => none
      | some charge =>
        if call.IsWaiting ∧ Reached charge.status status then
          some (state.answerTrigger attemptId (Topups.resumeTrigger state.db call charge.id status))
        else
          none
  | .failTrigger attemptId =>
    match state.triggers.lookup attemptId with
    | none => none
    | some call =>
      if call.IsWaiting then
        some (state.answerTrigger attemptId (finalizeFailure state.db call))
      else
        none
  | .use renterId amountHalala =>
    if 0 ≤ amountHalala then
      some { state with
        db := state.db.withdraw renterId (Database.usageTaken amountHalala) }
    else
      none

/-- No payments, nothing at the gateway and no calls; any renters. -/
structure State.Initial (state : State) : Prop where
  noPayments : state.db.payments = Table.empty
  noCredits : state.db.credits = []
  noInvoices : state.gateway.invoices = Table.empty
  noCharges : state.gateway.charges = Table.empty
  noTriggers : state.triggers = Table.empty
  noVerifies : state.verifies = Table.empty
  noSweeps : state.sweeps = Table.empty

def sampleRenter : Renter where
  id := 7
  balanceHalala := 0
  cardToken := some "token"
  autoTopupEnabled := true
  thresholdHalala := 1000
  topupAmountHalala := 10000
  monthlyCapHalala := 100000
  monthlyUsedHalala := 0
  monthlyResetAt := none
  consecutiveFailures := 0
  pausedUntil := none
  lastAttemptAt := none

def sampleStart : State where
  db := ⟨Table.empty, Table.empty.insertIfNew sampleRenter, Table.empty, [], []⟩
  gateway := ⟨Table.empty, Table.empty⟩
  triggers := Table.empty
  verifies := Table.empty
  sweeps := Table.empty

theorem sampleStart_initial : sampleStart.Initial :=
  ⟨rfl, rfl, rfl, rfl, rfl, rfl, rfl⟩

end DcpPlatform.Topups
