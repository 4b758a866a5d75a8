import DcpPlatform.Foundation.Text
import DcpPlatform.Pods.Conservation
import DcpPlatform.Topups.Store

/-!
# Paid credit for on-demand pods

A launch on an on-demand provider compares its quote with what the renter has
paid in, less what is committed to on-demand pods. It does not see the
`supply_tier`. Supply tiers do not change here.
-/

namespace DcpPlatform.Pods

open Foundation

inductive SupplyTier where
  | dcpOwned | provider | onDemand
  deriving DecidableEq

def normalizeSupplyTier (value : Option String) : Option SupplyTier :=
  let tier := (value.map (fun text => toLowerCase (trim text))).getD ""
  if tier = "dcp_owned" then some .dcpOwned
  else if tier = "provider" then some .provider
  else if tier = "on_demand" then some .onDemand
  else none

/-- `supplyTier` is `none` as well when the row was read without it. -/
def getProviderSupplyTier (dcpOwnedProviderIds : List Nat)
    (isBurst : Bool) (supplyTier : Option String) (providerId : Nat) :
    SupplyTier :=
  if isBurst then
    .onDemand
  else
    match normalizeSupplyTier supplyTier with
    | some explicit => explicit
    | none =>
      if providerId ∈ dcpOwnedProviderIds then .dcpOwned else .provider

def OnDemandText (supplyTier : Option String) : Prop :=
  sqlLower (sqlTrim (supplyTier.getD "")) = "on_demand"
deriving Decidable

section Tiers

variable (supplyTier : Nat → Option String) (db : Database)

def IsOnDemand (providerId : Nat) : Prop :=
  ∃ provider ∈ db.providers.lookup providerId,
    provider.isBurst = true ∨ OnDemandText (supplyTier providerId)
deriving Decidable

def OnDemandPodOf (renterId : Nat) (job : Job) : Prop :=
  job.renterId = some renterId ∧ job.jobType.isPod ∧
    ∃ providerId ∈ job.providerId, IsOnDemand supplyTier db providerId
deriving Decidable

/-- What a pod binds: its cost until it ends, its charge after that. -/
def commitment (job : Job) : Int :=
  if job.status.isTerminal then
    job.actualCostHalala.getD 0
  else
    job.costHalala

def committedHalala (renterId : Nat) : Int :=
  db.jobs.total (fun job =>
    if OnDemandPodOf supplyTier db renterId job then commitment job else 0)

def servedHalala (renterId : Nat) : Int :=
  db.jobs.total (fun job =>
    if OnDemandPodOf supplyTier db renterId job ∧ job.jobType = .vllmServe then
      commitment job
    else
      0)

def countedHalala (job : Job) : Int :=
  if job.status ∈ [JobStatus.pending, .queued, .assigned, .pulling, .running] then
    job.costHalala
  else if job.status ∈ [JobStatus.completed, .stopped] then
    job.actualCostHalala.getD job.costHalala
  else
    0

def getOnDemandCommittedHalala (renterId : Nat) : Int :=
  max 0 (db.jobs.total (fun job =>
    if OnDemandPodOf supplyTier db renterId job ∧ job.jobType = .interactivePod then
      countedHalala job
    else
      0))

end Tiers

def keptAmount (amountHalala : Int) (refundAmountHalala : Int) : Int :=
  if 0 < amountHalala - refundAmountHalala then
    amountHalala - refundAmountHalala
  else
    0

def fundedHalala (payment : Topups.Payment) : Int :=
  match payment.status with
  | .paid => payment.amountHalala
  | .refunded =>
    match payment.refundAmountHalala with
    | none => 0
    | some refund => keptAmount payment.amountHalala refund
  | _ => 0

abbrev PaymentTable :=
  Table Topups.Payment Topups.Payment.paymentId

def getPaidFundingHalala (payments : PaymentTable) (renterId : Nat) :
    Int :=
  max 0 (payments.total (fun payment =>
    if payment.renterId = renterId then fundedHalala payment else 0))

def computePaidAvailableCredit (balanceHalala paidFundingHalala onDemandCommittedHalala : Int) :
    Int :=
  min balanceHalala (max 0 (paidFundingHalala - onDemandCommittedHalala))

structure CreditState where
  pods : Database
  payments : PaymentTable
  supplyTier : Nat → Option String
  dcpOwnedProviderIds : List Nat

structure PaidCreditState where
  balanceHalala : Int
  paidFundingHalala : Int
  onDemandCommittedHalala : Int
  paidAvailableHalala : Int

structure CreditVerdict where
  allowed : Bool
  supplyTier : SupplyTier
  creditState : Option PaidCreditState

namespace CreditState

def paidHalala (state : CreditState) (renterId : Nat) : Int :=
  getPaidFundingHalala state.payments renterId

def committed (state : CreditState) (renterId : Nat) : Int :=
  committedHalala state.supplyTier state.pods renterId

def getRenterPaidCreditState (state : CreditState) (renterId : Nat) :
    PaidCreditState :=
  let balanceHalala :=
    max 0 (((state.pods.renters.lookup renterId).map Renter.balanceHalala).getD 0)
  let paidFundingHalala := state.paidHalala renterId
  let onDemandCommittedHalala := getOnDemandCommittedHalala state.supplyTier state.pods renterId
  { balanceHalala := balanceHalala
    paidFundingHalala := paidFundingHalala
    onDemandCommittedHalala := onDemandCommittedHalala
    paidAvailableHalala :=
      computePaidAvailableCredit balanceHalala paidFundingHalala onDemandCommittedHalala }

def evaluatePodLaunchCreditPolicy (state : CreditState) (renterId : Nat)
    (provider : Provider) (quoteHalala : Int) : CreditVerdict :=
  let supplyTier :=
    getProviderSupplyTier state.dcpOwnedProviderIds provider.isBurst none provider.id
  if supplyTier = .onDemand then
    let creditState := state.getRenterPaidCreditState renterId
    ⟨decide (max 0 quoteHalala ≤ creditState.paidAvailableHalala), supplyTier, some creditState⟩
  else
    ⟨true, supplyTier, none⟩

def launchAllowed (state : CreditState) (request : LaunchRequest) (now : Int) : Bool :=
  match planLaunch state.pods request now true with
  | .ok plan =>
    (state.evaluatePodLaunchCreditPolicy request.renterId plan.provider plan.quoteHalala).allowed
  | .error _ => true

end CreditState

inductive CreditAction where
  | createPayment (payment : Topups.Payment)
  | markPaymentPaidOnce (paymentId : Topups.PaymentKey) (now : Int)
  | markPaymentRefundedOnce (paymentId : Topups.PaymentKey) (refundAmountHalala now : Int)
  | grantTrialCredit (renterId amountHalala : Nat)
  | pods (action : PodAction)

def Renter.takeRefund (refundAmountHalala : Int) (renter : Renter) :
    Renter :=
  { renter with
    balanceHalala := max 0 (renter.balanceHalala - refundAmountHalala) }

@[simp]
theorem Renter.takeRefund_id (refundAmountHalala : Int) (renter : Renter) :
    (renter.takeRefund refundAmountHalala).id = renter.id :=
  rfl

namespace CreditState

def setRenter (state : CreditState) (renterId : Nat) (change : Renter → Renter)
    (keeps : ∀ renter, (change renter).id = renter.id) : CreditState :=
  { state with
    pods := { state.pods with
      renters := state.pods.renters.update renterId change keeps } }

/-- A new row awaits its payment; routes take positive amounts only. -/
def IsNewPayment (payment : Topups.Payment) : Prop :=
  Topups.IsAwaited payment ∧ 0 < payment.amountHalala
deriving Decidable

def createPayment (state : CreditState) (payment : Topups.Payment) :
    Option CreditState :=
  if IsNewPayment payment then
    some { state with payments := state.payments.insertIfNew payment }
  else
    none

def markPaymentPaidOnce (state : CreditState)
    (paymentId : Topups.PaymentKey) (now : Int) : CreditState :=
  match state.payments.lookup paymentId with
  | none => state
  | some payment =>
    if Topups.IsCreditable payment then
      { state with
        payments := state.payments.update paymentId (Topups.Payment.setPaid now)
          (Topups.Payment.setPaid_paymentId now) }.setRenter
        payment.renterId (Renter.addBalance payment.amountHalala)
        (Renter.addBalance_id payment.amountHalala)
    else
      state

def markPaymentRefundedOnce (state : CreditState)
    (paymentId : Topups.PaymentKey) (refundAmountHalala now : Int) :
    CreditState :=
  match state.payments.lookup paymentId with
  | none => state
  | some payment =>
    if Topups.IsRefundable payment then
      { state with
        payments := state.payments.update paymentId
          (Topups.Payment.setRefunded refundAmountHalala now)
          (Topups.Payment.setRefunded_paymentId refundAmountHalala now) }.setRenter
        payment.renterId (Renter.takeRefund refundAmountHalala)
        (Renter.takeRefund_id refundAmountHalala)
    else
      state

def decided (state : CreditState) : PodAction → PodAction
  | .launch request now outlook =>
    .launch request now { outlook with creditAllowed := state.launchAllowed request now }
  | action => action

def next (state : CreditState) : CreditAction → Option CreditState
  | .createPayment payment => state.createPayment payment
  | .markPaymentPaidOnce paymentId now =>
    some (state.markPaymentPaidOnce paymentId now)
  | .markPaymentRefundedOnce paymentId refundAmountHalala now =>
    some (state.markPaymentRefundedOnce paymentId refundAmountHalala now)
  | .grantTrialCredit renterId amountHalala =>
    some (state.setRenter renterId (Renter.addBalance amountHalala)
      (Renter.addBalance_id amountHalala))
  | .pods action =>
    (nextPods state.pods (state.decided action)).map (fun pods =>
      { state with pods := pods })

end CreditState

end DcpPlatform.Pods
