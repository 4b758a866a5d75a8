import DcpPlatform.Pods.OnDemandFunding

/-!
# Runs of paid and trial credit

Payments, trial credit and the requests of pods, one after another. Where a
launch, an extension or a refund is not compared with the paid credit, it must
fit into what is paid and not committed for the bound to survive.
-/

namespace DcpPlatform.Pods

open Foundation Table

def NonnegPayments (payments : PaymentTable) : Prop :=
  ∀ paymentId payment, payments.lookup paymentId = some payment → 0 ≤ payment.amountHalala

theorem keptAmount_nonneg (amountHalala refundAmountHalala : Int) :
    0 ≤ keptAmount amountHalala refundAmountHalala := by
  unfold keptAmount
  split <;> omega

variable {payment : Topups.Payment}

theorem fundedHalala_nonneg (nonneg : 0 ≤ payment.amountHalala) : 0 ≤ fundedHalala payment := by
  unfold fundedHalala
  cases payment.status with
  | paid => exact nonneg
  | refunded =>
    cases payment.refundAmountHalala with
    | none => exact le_refl 0
    | some refund => exact keptAmount_nonneg _ refund
  | pending | initiated | failed => exact le_refl 0

theorem fundedHalala_of_creditable (creditable : Topups.IsCreditable payment) :
    fundedHalala payment = 0 := by
  unfold fundedHalala
  rcases creditable with status | status | status
  all_goals rw [status]

def fundedShare (renterId : Nat) (payment : Topups.Payment) : Int :=
  if payment.renterId = renterId then fundedHalala payment else 0

theorem fundedShare_nonneg (nonneg : 0 ≤ payment.amountHalala) (renterId : Nat) :
    0 ≤ fundedShare renterId payment := by
  unfold fundedShare
  split
  · exact fundedHalala_nonneg nonneg
  · exact le_refl 0

theorem getPaidFundingHalala_eq {payments : PaymentTable}
    (nonneg : NonnegPayments payments) (renterId : Nat) :
    getPaidFundingHalala payments renterId = payments.total (fundedShare renterId) := by
  apply max_eq_right
  apply List.sum_nonneg
  intro share member
  obtain ⟨payment, stored, rfl⟩ := List.mem_map.mp member
  exact fundedShare_nonneg (nonneg payment.paymentId payment (lookup_of_mem stored)) renterId

section Updated

variable {payments : PaymentTable} {paymentId : Topups.PaymentKey}
  {payment : Topups.Payment} {change : Topups.Payment → Topups.Payment}
  (keeps : ∀ other, (change other).paymentId = other.paymentId)

theorem NonnegPayments.update (nonneg : NonnegPayments payments)
    (found : payments.lookup paymentId = some payment)
    (amount : 0 ≤ (change payment).amountHalala) :
    NonnegPayments (payments.update paymentId change keeps) := by
  intro other later stored
  rcases lookup_of_lookup_update keeps stored with ⟨here, row, rowFound, changed⟩ | ⟨_, rowFound⟩
  · subst here changed
    rw [found] at rowFound
    cases rowFound
    exact amount
  · exact nonneg other later rowFound

theorem getPaidFundingHalala_update (nonneg : NonnegPayments payments)
    (found : payments.lookup paymentId = some payment)
    (amount : 0 ≤ (change payment).amountHalala) (renterId : Nat) :
    getPaidFundingHalala (payments.update paymentId change keeps) renterId =
      getPaidFundingHalala payments renterId - fundedShare renterId payment +
        fundedShare renterId (change payment) := by
  rw [getPaidFundingHalala_eq (nonneg.update keeps found amount), getPaidFundingHalala_eq nonneg,
    total_update change keeps _ found]

end Updated

namespace CreditState

structure Proper (state : CreditState) : Prop where
  rows : AllRegular state.pods
  payments : NonnegPayments state.payments

/-- On-demand pods are paid for with what the renter has really paid. -/
def PaidFor (state : CreditState) : Prop :=
  ∀ renterId, state.committed renterId ≤ state.paidHalala renterId

def FitsPaid (state : CreditState) (renterId : Nat) (amountHalala : Int) :
    Prop :=
  state.committed renterId + amountHalala ≤ state.paidHalala renterId
deriving Decidable

def launching (state : CreditState) (request : LaunchRequest) (now : Int) : Option LaunchPlan :=
  match planLaunch state.pods request now (state.launchAllowed request now) with
  | .error _ => none
  | .ok plan =>
    if (debitQuote state.pods request plan.quoteHalala).isSome then
      some plan
    else
      none

/-- A launch onto external capacity is compared with the paid credit, unless
the sum leaves out a served model. Other launches onto on-demand machines,
extensions of on-demand pods and refunds are compared with nothing. -/
def SpendsPaid (state : CreditState) : CreditAction → Prop
  | .markPaymentRefundedOnce paymentId refundAmountHalala _ =>
    ∀ payment ∈ state.payments.lookup paymentId, Topups.IsRefundable payment →
      state.FitsPaid payment.renterId
        (payment.amountHalala - keptAmount payment.amountHalala refundAmountHalala)
  | .pods (.launch request now _) =>
    ∀ plan ∈ state.launching request now, IsOnDemand state.supplyTier state.pods plan.provider.id →
      plan.provider.isBurst = true ∧ servedHalala state.supplyTier state.pods request.renterId = 0 ∨
        state.FitsPaid request.renterId plan.quoteHalala
  | .pods (.extend jobId addMinutes _) =>
    ∀ job ∈ state.pods.jobs.lookup jobId,
      Extendable state.pods job addMinutes → ∀ renterId ∈ job.renterId,
        OnDemandPodOf state.supplyTier state.pods renterId job →
          state.FitsPaid renterId (extendQuote state.pods job addMinutes)
  | _ => True

instance (state : CreditState) :
    DecidablePred (SpendsPaid state) := by
  intro action
  unfold SpendsPaid
  split <;> infer_instance

section Money

variable {state : CreditState} {after : CreditState}

@[simp]
theorem setRenter_paidHalala (state : CreditState) (account : Nat) (change : Renter → Renter)
    (keeps : ∀ renter, (change renter).id = renter.id) (renterId : Nat) :
    (state.setRenter account change keeps).paidHalala renterId = state.paidHalala renterId :=
  rfl

@[simp]
theorem setRenter_committed (state : CreditState) (account : Nat) (change : Renter → Renter)
    (keeps : ∀ renter, (change renter).id = renter.id) (renterId : Nat) :
    (state.setRenter account change keeps).committed renterId = state.committed renterId :=
  @committedHalala_congr state.supplyTier state.pods
    (state.setRenter account change keeps).pods renterId
    (SameSupply.of_providers rfl) rfl

theorem Proper.setRenter (proper : state.Proper) (account : Nat)
    (change : Renter → Renter) (keeps : ∀ renter, (change renter).id = renter.id) :
    (state.setRenter account change keeps).Proper :=
  ⟨proper.rows, proper.payments⟩

theorem createPayment_keeps {payment : Topups.Payment}
    (proper : state.Proper) (paidFor : state.PaidFor)
    (created : state.createPayment payment = some after) :
    after.Proper ∧ after.PaidFor := by
  unfold createPayment at created
  split at created
  · rename_i new
    obtain rfl := Option.some.inj created
    cases found : state.payments.lookup payment.paymentId with
    | some other =>
      rw [insertIfNew_of_taken found]
      exact ⟨proper, paidFor⟩
    | none =>
      rw [insertIfNew_of_fresh found]
      have nonneg : NonnegPayments (state.payments.insert payment found) := by
        intro paymentId later stored
        rw [lookup_insert] at stored
        by_cases here : payment.paymentId = paymentId
        · rw [if_pos here] at stored
          cases stored
          exact le_of_lt new.2
        · rw [if_neg here] at stored
          exact proper.payments paymentId later stored
      refine ⟨⟨proper.rows, nonneg⟩, ?_⟩
      intro renterId
      have creditable : Topups.IsCreditable payment := by
        rcases new.1 with status | status
        · exact Or.inl status
        · exact Or.inr (Or.inl status)
      have unfunded : fundedShare renterId payment = 0 := by
        rw [fundedShare, fundedHalala_of_creditable creditable, ite_self]
      have paid : getPaidFundingHalala (state.payments.insert payment found) renterId =
          state.paidHalala renterId := by
        rw [getPaidFundingHalala_eq nonneg, total_insert, unfunded, add_zero]
        exact (getPaidFundingHalala_eq proper.payments renterId).symm
      have before := paidFor renterId
      rw [← paid] at before
      exact before
  · cases created

theorem markPaymentPaidOnce_keeps (proper : state.Proper)
    (paidFor : state.PaidFor) (paymentId : Topups.PaymentKey) (now : Int) :
    (state.markPaymentPaidOnce paymentId now).Proper ∧
      (state.markPaymentPaidOnce paymentId now).PaidFor := by
  unfold markPaymentPaidOnce
  split
  · exact ⟨proper, paidFor⟩
  · rename_i payment found
    split
    · rename_i creditable
      have amount : 0 ≤ (payment.setPaid now).amountHalala :=
        proper.payments paymentId payment found
      refine ⟨⟨proper.rows, proper.payments.update
        (Topups.Payment.setPaid_paymentId now) found amount⟩, ?_⟩
      intro renterId
      rw [setRenter_paidHalala, setRenter_committed]
      have before := paidFor renterId
      have paid := getPaidFundingHalala_update (Topups.Payment.setPaid_paymentId now)
          proper.payments found amount renterId
      have unfunded : fundedShare renterId payment = 0 := by
        rw [fundedShare, fundedHalala_of_creditable creditable, ite_self]
      have funded := fundedShare_nonneg amount renterId
      unfold paidHalala at before ⊢
      dsimp only [CreditState.committed] at before ⊢
      omega
    · exact ⟨proper, paidFor⟩

theorem markPaymentRefundedOnce_keeps (proper : state.Proper)
    (paidFor : state.PaidFor) {paymentId : Topups.PaymentKey}
    {refundAmountHalala now : Int}
    (fits : state.SpendsPaid (.markPaymentRefundedOnce paymentId refundAmountHalala now)) :
    (state.markPaymentRefundedOnce paymentId refundAmountHalala now).Proper ∧
      (state.markPaymentRefundedOnce paymentId refundAmountHalala now).PaidFor := by
  unfold markPaymentRefundedOnce
  split
  · exact ⟨proper, paidFor⟩
  · rename_i payment found
    split
    · rename_i refundable
      have covered := fits payment found refundable
      have amount : 0 ≤ (payment.setRefunded refundAmountHalala now).amountHalala :=
        proper.payments paymentId payment found
      refine ⟨⟨proper.rows, proper.payments.update
        (Topups.Payment.setRefunded_paymentId refundAmountHalala now)
        found amount⟩, ?_⟩
      intro renterId
      rw [setRenter_paidHalala, setRenter_committed]
      have before := paidFor renterId
      have paid := getPaidFundingHalala_update
          (Topups.Payment.setRefunded_paymentId refundAmountHalala now)
          proper.payments found amount renterId
      have funded : fundedHalala payment = payment.amountHalala := by
        rw [fundedHalala, refundable.1]
      have kept : fundedHalala (payment.setRefunded refundAmountHalala now) =
          keptAmount payment.amountHalala refundAmountHalala := rfl
      have account : (payment.setRefunded refundAmountHalala now).renterId =
          payment.renterId := rfl
      unfold fundedShare at paid
      rw [funded, kept, account] at paid
      by_cases own : payment.renterId = renterId
      · subst own
        rw [if_pos rfl, if_pos rfl] at paid
        unfold FitsPaid paidHalala at covered
        unfold paidHalala
        dsimp only [CreditState.committed] at covered ⊢
        omega
      · rw [if_neg own, if_neg own] at paid
        unfold paidHalala at before ⊢
        dsimp only [CreditState.committed] at before ⊢
        omega
    · exact ⟨proper, paidFor⟩

end Money

section Policy

variable {state : CreditState} {request : LaunchRequest} {plan : LaunchPlan} {now : Int}

theorem getProviderSupplyTier_of_burst (dcpOwnedProviderIds : List Nat)
    (supplyTier : Option String) (providerId : Nat) :
    getProviderSupplyTier dcpOwnedProviderIds true supplyTier providerId =
      .onDemand :=
  rfl

theorem fitsPaid_of_launchAllowed (proper : state.Proper) (paidFor : state.PaidFor)
    (planned : planLaunch state.pods request now true = .ok plan)
    (allowed : state.launchAllowed request now = true)
    (burst : plan.provider.isBurst = true)
    (unserved : servedHalala state.supplyTier state.pods request.renterId = 0) :
    state.FitsPaid request.renterId plan.quoteHalala := by
  have before := paidFor request.renterId
  have counted := @committed_le_counted state.supplyTier request.renterId state.pods proper.rows
  rw [unserved, add_zero] at counted
  rw [launchAllowed, planned] at allowed
  dsimp only [evaluatePodLaunchCreditPolicy] at allowed
  rw [burst, getProviderSupplyTier_of_burst, if_pos rfl] at allowed
  have within := of_decide_eq_true allowed
  dsimp only [getRenterPaidCreditState, computePaidAvailableCredit] at within
  unfold FitsPaid
  dsimp only [CreditState.committed] at before ⊢
  omega

theorem planLaunch_allowed {db : Database} {creditAllowed : Bool}
    (planned : planLaunch db request now creditAllowed = .ok plan) :
    creditAllowed = true := by
  obtain ⟨renter, _, planned⟩ := bind_eq_ok_iff.mp planned
  obtain ⟨_, planned⟩ := require_bind_eq_ok_iff.mp planned
  obtain ⟨_, planned⟩ := require_bind_eq_ok_iff.mp planned
  obtain ⟨_, planned⟩ := require_bind_eq_ok_iff.mp planned
  obtain ⟨provider, _, planned⟩ := bind_eq_ok_iff.mp planned
  obtain ⟨_, planned⟩ := require_bind_eq_ok_iff.mp planned
  obtain ⟨gpus, _, planned⟩ := bind_eq_ok_iff.mp planned
  exact (require_bind_eq_ok_iff.mp planned).1

theorem mem_launching
    (planned : planLaunch state.pods request now (state.launchAllowed request now) = .ok plan)
    (taken : (debitQuote state.pods request plan.quoteHalala).isSome) :
    plan ∈ state.launching request now := by
  rw [launching, planned]
  dsimp only
  rw [if_pos taken]
  rfl

theorem launch_fitsPaid (proper : state.Proper) (paidFor : state.PaidFor) {outlook : LaunchOutlook}
    (spends : state.SpendsPaid (.pods (.launch request now outlook)))
    (planned : planLaunch state.pods request now (state.launchAllowed request now) = .ok plan)
    (taken : (debitQuote state.pods request plan.quoteHalala).isSome)
    (onDemand : IsOnDemand state.supplyTier state.pods plan.provider.id) :
    state.FitsPaid request.renterId plan.quoteHalala := by
  rcases spends plan (mem_launching planned taken) onDemand with ⟨burst, unserved⟩ | fits
  · have allowed := planLaunch_allowed planned
    rw [allowed] at planned
    exact fitsPaid_of_launchAllowed proper paidFor planned allowed burst unserved
  · exact fits

end Policy

section Pods

variable {state : CreditState} {pods : Database}

theorem committed_withPods (state : CreditState) (pods : Database) (renterId : Nat) :
    ({ state with pods := pods } : CreditState).committed renterId =
      committedHalala state.supplyTier pods renterId :=
  rfl

variable {now : Int}

theorem launch_keeps (proper : state.Proper) (paidFor : state.PaidFor)
    {request : LaunchRequest} {outlook : LaunchOutlook}
    (spends : state.SpendsPaid (.pods (.launch request now outlook)))
    (launched : nextPods state.pods (state.decided (.launch request now outlook)) = some pods) :
    ({ state with pods := pods } : CreditState).Proper ∧
      ({ state with pods := pods } : CreditState).PaidFor := by
  simp only [decided, nextPods] at launched
  split at launched
  · obtain rfl := Option.some.inj launched
    obtain ⟨_, regular, same | ⟨plan, planned, taken, committed⟩⟩ :=
      @launchPodCore_commits state.supplyTier state.pods request now
        { outlook with creditAllowed := state.launchAllowed request now }
        proper.rows
    · refine ⟨⟨regular, proper.payments⟩, ?_⟩
      intro renterId
      rw [committed_withPods, same]
      exact paidFor renterId
    · refine ⟨⟨regular, proper.payments⟩, ?_⟩
      intro renterId
      rw [committed_withPods, committed]
      have before := paidFor renterId
      unfold committedShare
      split
      · rename_i onDemand
        obtain ⟨renter, _, providerId, provider, tier⟩ := onDemand
        injection renter with renter
        injection provider with provider
        subst renter provider
        rw [commitment_of_live podRow_live]
        exact launch_fitsPaid proper paidFor spends planned taken tier
      · rw [add_zero]
        exact before
  · cases launched

theorem extend_keeps (proper : state.Proper) (paidFor : state.PaidFor) {jobId addMinutes : Nat}
    (spends : state.SpendsPaid (.pods (.extend jobId addMinutes now)))
    (extended : nextPods state.pods (.extend jobId addMinutes now) = some pods) :
    ({ state with pods := pods } : CreditState).Proper ∧
      ({ state with pods := pods } : CreditState).PaidFor := by
  simp only [nextPods] at extended
  split at extended
  · rename_i job found
    obtain rfl := Option.some.inj extended
    have rowId := lookup_key found
    subst rowId
    obtain ⟨_, regular, same | ⟨extendable, committed⟩⟩ :=
      @extendPodCore_commits state.supplyTier state.pods job addMinutes now found proper.rows
    · refine ⟨⟨regular, proper.payments⟩, ?_⟩
      intro renterId
      rw [committed_withPods, same]
      exact paidFor renterId
    · refine ⟨⟨regular, proper.payments⟩, ?_⟩
      intro renterId
      rw [committed_withPods, committed]
      split
      · rename_i onDemand
        exact spends job found extendable renterId onDemand.1 onDemand
      · rw [add_zero]
        exact paidFor renterId
  · cases extended

theorem other_keeps (proper : state.Proper) (paidFor : state.PaidFor)
    {action : PodAction} (other : ¬ action.Commits)
    (taken : nextPods state.pods action = some pods) :
    ({ state with pods := pods } : CreditState).Proper ∧
      ({ state with pods := pods } : CreditState).PaidFor := by
  have binds := nextPods_bindsNoMore taken other
  refine ⟨⟨binds.regular proper.rows, proper.payments⟩, ?_⟩
  intro renterId
  rw [committed_withPods]
  exact (binds.committed_le proper.rows).trans (paidFor renterId)

end Pods

theorem next_keeps {state after : CreditState} {action : CreditAction}
    (both : state.Proper ∧ state.PaidFor)
    (step : guarded (Fires CreditState.next) SpendsPaid state action after) :
    after.Proper ∧ after.PaidFor := by
  obtain ⟨proper, paidFor⟩ := both
  obtain ⟨spends, step⟩ := step
  cases action with
  | createPayment payment =>
    exact createPayment_keeps proper paidFor step
  | markPaymentPaidOnce paymentId now =>
    obtain rfl := Option.some.inj step
    exact markPaymentPaidOnce_keeps proper paidFor paymentId now
  | markPaymentRefundedOnce paymentId refundAmountHalala now =>
    obtain rfl := Option.some.inj step
    exact markPaymentRefundedOnce_keeps proper paidFor spends
  | grantTrialCredit renterId amountHalala =>
    obtain rfl := Option.some.inj step
    refine ⟨proper.setRenter renterId _ _, ?_⟩
    intro account
    rw [setRenter_paidHalala, setRenter_committed]
    exact paidFor account
  | pods action =>
    obtain ⟨pods, taken, rfl⟩ := Option.map_eq_some_iff.mp step
    cases action with
    | launch request now outlook =>
      exact launch_keeps proper paidFor spends taken
    | extend jobId addMinutes now =>
      exact extend_keeps proper paidFor spends taken
    | pickUp | endpointReady | reportProgress | burstSuccess | stop
    | settleExpiredPods | enforceJobTimeouts | burstFail | setRate =>
      exact other_keeps proper paidFor id taken

def sampleCredit : CreditState :=
  { pods :=
    { jobs := Table.empty
      providers := ⟨[sampleProvider, { sampleProvider with
        id := 4, isBurst := true, burstGpuTypeId := some "A40" }], by decide⟩
      renters := ⟨[sampleRenter], List.pairwise_singleton _ _⟩
      journal := [] }
    payments := Table.empty
    supplyTier := fun providerId =>
      if providerId = 1 then some "on_demand" else none
    dcpOwnedProviderIds := [] }

def samplePayment : Topups.Payment :=
  { paymentId := .topup 1, moyasarId := none, renterId := 2
    amountHalala := 4000, status := .initiated
    sourceType := .creditcard, createdAt := 0, confirmedAt := none
    refundedAt := none, refundAmountHalala := none }

def sampleLaunchOn (providerId : Nat) : CreditAction :=
  .pods (.launch ⟨5, 2, .pinned providerId, none, none, false⟩ 0 ⟨true, true, true, true⟩)

def samplePaidLife : List CreditAction :=
  [.createPayment samplePayment, .markPaymentPaidOnce (.topup 1) 0,
    .grantTrialCredit 2 9000, sampleLaunchOn 4,
    .pods (.burstSuccess 5 "https://pod" 3600 1000),
    .pods (.stop 5 61000)]

theorem sampleCredit_proper : sampleCredit.Proper where
  rows := by
    intro jobId job found
    cases found
  payments := by
    intro paymentId payment found
    cases found

theorem sampleCredit_paidFor : sampleCredit.PaidFor :=
  fun _ => le_max_left 0 _

end CreditState

end DcpPlatform.Pods
