import DcpPlatform.Billing.Funds
import DcpPlatform.Jobs.ReportRuns
import DcpPlatform.Wallets.Service

/-!
# Which debits keep the balances from being negative

The extra charge of `/job-result`, the actual cost of a dispatched job, and
the usage of the retrieval endpoints are debited without a condition.
`Covered` asks the balance to cover these.
-/

namespace DcpPlatform.Wallets

open Foundation Table Option

def Database.Solvent (db : Database) : Prop :=
  ∀ renter ∈ db.jobs.renters.rows, 0 ≤ renter.balanceHalala
deriving Decidable

def Database.Covers (db : Database) (renterId : Nat) (amount : Int) :
    Prop :=
  ∀ balance ∈ db.balanceOf renterId, amount ≤ balance

instance (db : Database) (renterId : Nat) (amount : Int) :
    Decidable (db.Covers renterId amount) :=
  inferInstanceAs (Decidable (∀ _ ∈ _, _))

def Covered (db : Database) : Action → Prop
  | .jobResult report now =>
    ∀ provider ∈ db.jobs.providers.lookup report.providerId,
      ∀ job ∈ db.jobs.jobs.lookup report.jobId,
        job.providerId = some provider.id → job.status = .running →
          ¬ Jobs.BillingOwnedByV1 job → report.success = true → ∀ renterId ∈ job.renterId,
            db.Covers renterId (Jobs.jobResultPrice job provider report now - job.costHalala)
  | .completeJob jobId actualCostHalala =>
    ∀ hold ∈ db.heldFor jobId, db.Covers hold.renterId actualCostHalala
  | .ragIngest renterId embedTokens =>
    db.Covers renterId (ingestCost embedTokens)
  | .ragQuery renterId embedTokens rerankTokens genTokens =>
    db.Covers renterId (queryCost embedTokens rerankTokens genTokens)
  | _ => True

instance (db : Database) : DecidablePred (Covered db)
  | .jobResult report now =>
    inferInstanceAs (Decidable (∀ provider ∈ db.jobs.providers.lookup report.providerId,
      ∀ job ∈ db.jobs.jobs.lookup report.jobId,
        job.providerId = some provider.id → job.status = .running →
          ¬ Jobs.BillingOwnedByV1 job → report.success = true →
          ∀ renterId ∈ job.renterId, db.Covers renterId
            (Jobs.jobResultPrice job provider report now - job.costHalala)))
  | .completeJob jobId actualCostHalala =>
    inferInstanceAs
      (Decidable (∀ hold ∈ db.heldFor jobId, db.Covers hold.renterId actualCostHalala))
  | .ragIngest renterId embedTokens =>
    inferInstanceAs (Decidable (db.Covers renterId (ingestCost embedTokens)))
  | .ragQuery renterId embedTokens rerankTokens genTokens =>
    inferInstanceAs (Decidable (db.Covers renterId (queryCost embedTokens rerankTokens genTokens)))
  | .dispatch _ _ _ | .failJob _ | .payPayment _ _ _ _ _
  | .refundPayment _ _ _ _ | .settleInference _ | .debitIfCovered _ _ =>
    inferInstanceAs (Decidable True)

variable {db : Database}

theorem solvent_iff :
    db.Solvent ↔ ∀ renterId, ∀ balance ∈ db.balanceOf renterId, 0 ≤ balance := by
  constructor
  · intro solvent renterId balance found
    obtain ⟨renter, stored, same⟩ := map_eq_some_iff.mp found
    rw [← same]
    exact solvent renter (lookup_mem stored)
  · intro each renter member
    have stored := lookup_of_mem member
    apply each renter.id
    rw [Database.balanceOf, stored]
    rfl

/-- Every balance moves by an amount that depends on it. -/
def Moves (before after : Database) (moved : Nat → Int → Int) : Prop :=
  ∀ renterId, after.balanceOf renterId = (before.balanceOf renterId).map (fun balance =>
    balance + moved renterId balance)

section Moves

variable {before after : Database} {moved : Nat → Int → Int}

theorem Moves.solvent_iff (moves : Moves before after moved) :
    after.Solvent ↔ ∀ renterId, ∀ balance ∈ before.balanceOf renterId,
      0 ≤ balance + moved renterId balance := by
  rw [Wallets.solvent_iff]
  constructor
  · intro solvent renterId balance found
    apply solvent renterId
    rw [moves, found]
    rfl
  · intro each renterId balance found
    rw [moves] at found
    obtain ⟨earlier, stored, same⟩ := map_eq_some_iff.mp found
    rw [← same]
    exact each renterId earlier stored

theorem Moves.solvent (moves : Moves before after moved) (solvent : before.Solvent)
    (enough : ∀ renterId balance, 0 ≤ balance → 0 ≤ balance + moved renterId balance) :
    after.Solvent := by
  apply moves.solvent_iff.mpr
  intro renterId balance found
  exact enough renterId balance (Wallets.solvent_iff.mp solvent renterId balance found)

end Moves

def onlyFor (target : Nat) (amount : Int) (renterId : Nat) (_ : Int) :
    Int :=
  if renterId = target then amount else 0

theorem addBalance_moves (db : Database) (target : Nat) (amount : Int) :
    Moves db (db.addBalance target amount) (onlyFor target amount) := by
  intro renterId
  have stored : (db.addBalance target amount).jobs.renters.lookup renterId =
      if renterId = target then
        (db.jobs.renters.lookup renterId).map (Jobs.Renter.addBalance amount)
      else
        db.jobs.renters.lookup renterId :=
    lookup_update db.jobs.renters target renterId _ (Jobs.Renter.addBalance_id amount)
  rw [Database.balanceOf, stored, Database.balanceOf]
  by_cases same : renterId = target
  · rw [if_pos same, map_map, map_map]
    cases db.jobs.renters.lookup renterId with
    | none => rfl
    | some renter =>
      simp [onlyFor, if_pos same, Jobs.Renter.addBalance]
  · rw [if_neg same, map_map]
    cases db.jobs.renters.lookup renterId with
    | none => rfl
    | some renter =>
      simp [onlyFor, if_neg same]

variable {target : Nat}

theorem solvent_debit_iff {before after : Database} {amount : Int} (solvent : before.Solvent)
    (moves : Moves before after (onlyFor target (-amount))) :
    after.Solvent ↔ before.Covers target amount := by
  rw [moves.solvent_iff]
  constructor
  · intro each balance found
    have enough := each target balance found
    rw [onlyFor, if_pos rfl] at enough
    omega
  · intro covers renterId balance found
    have nonneg := solvent_iff.mp solvent renterId balance found
    rw [onlyFor]
    by_cases same : renterId = target
    · rw [if_pos same]
      rw [same] at found
      have enough := covers balance found
      omega
    · rw [if_neg same]
      omega

def jobResultMoved (job : Jobs.Job) (provider : Jobs.Provider)
    (report : Jobs.JobResultReport) (now : Int) : Int :=
  if Jobs.BillingOwnedByV1 job then 0
  else if report.success then
    job.costHalala - Jobs.jobResultPrice job provider report now
  else if Jobs.Refundable job then job.costHalala
  else 0

theorem refundFailed_renters (db : Jobs.Database) (job : Jobs.Job) (now : Int) (renterId : Nat) :
    (Jobs.refundFailed now db job).renters.lookup renterId =
      if job.renterId = some renterId ∧ Jobs.Refundable job then
        (db.renters.lookup renterId).map (Jobs.Renter.addBalance job.costHalala)
      else
        db.renters.lookup renterId := by
  rw [Jobs.refundFailed]
  by_cases refundable : Jobs.Refundable job
  · rw [if_pos refundable]
    have booked := db.book_renters (Jobs.refundBooking job) renterId
    have both : (job.renterId = some renterId ∧ Jobs.Refundable job) ↔
        job.renterId = some renterId := and_iff_left refundable
    rw [if_congr both rfl rfl]
    exact booked
  · rw [if_neg refundable, if_neg (refundable ·.2)]

theorem settleJobResult_balances (db : Jobs.Database) (job : Jobs.Job)
    (provider : Jobs.Provider) (report : Jobs.JobResultReport) (now : Int)
    (renterId : Nat) :
    ((Jobs.settleJobResult db job provider report now).renters.lookup
      renterId).map Jobs.Renter.balanceHalala =
      (db.renters.lookup renterId).map (fun renter =>
        renter.balanceHalala +
          if job.renterId = some renterId then
            jobResultMoved job provider report now
          else 0) := by
  unfold Jobs.settleJobResult
  extract_lets price split status settled released
  have renters : released.renters = db.renters := Jobs.Database.updateProvider_renters settled _ _ _
  by_cases owned : Jobs.BillingOwnedByV1 job
  · rw [if_pos owned, renters]
    cases db.renters.lookup renterId with
    | none => rfl
    | some renter =>
      simp [jobResultMoved, if_pos owned]
  · rw [if_neg owned]
    by_cases success : report.success = true
    · rw [if_pos success, Jobs.Database.updateRenter_lookup,
        Jobs.Database.updateProvider_renters, Jobs.Database.book_renters,
        renters]
      cases db.renters.lookup renterId with
      | none =>
        simp
      | some renter =>
        by_cases same : job.renterId = some renterId
        · have paid : (Jobs.earnedBooking job split
              (Jobs.jobResultReturned job price)).renterId = some renterId := same
          have returned : Jobs.jobResultReturned job price = job.costHalala - price := by
            rw [Jobs.jobResultReturned, same]
            rfl
          rw [if_pos same, if_pos paid]
          simp only [map_some, if_pos same, jobResultMoved, if_neg owned, if_pos success]
          exact congrArg (fun moved =>
            some (renter.balanceHalala + moved)) returned
        · have paid : ¬ (Jobs.earnedBooking job split
              (Jobs.jobResultReturned job price)).renterId = some renterId := same
          rw [if_neg same, if_neg paid]
          simp [if_neg same]
    · rw [if_neg success, refundFailed_renters, renters]
      cases db.renters.lookup renterId with
      | none =>
        simp
      | some renter =>
        by_cases same : job.renterId = some renterId
        · by_cases refundable : Jobs.Refundable job
          · rw [if_pos ⟨same, refundable⟩]
            simp only [map_some, if_pos same, jobResultMoved,
              if_neg owned, if_neg success, if_pos refundable,
              Jobs.Renter.addBalance]
          · rw [if_neg (refundable ·.2)]
            simp only [map_some, if_pos same, jobResultMoved,
              if_neg owned, if_neg success, if_neg refundable, add_zero]
        · rw [if_neg (same ·.1)]
          simp only [map_some, if_neg same, add_zero]

theorem solvent_settleJobResult_iff
    (solvent : db.Solvent) {job : Jobs.Job} {provider : Jobs.Provider}
    (same : job.providerId = some provider.id)
    (running : job.status = .running) (report : Jobs.JobResultReport) (now : Int) :
    Database.Solvent { db with
      jobs := Jobs.settleJobResult db.jobs job provider report now } ↔
      (job.providerId = some provider.id → job.status = .running →
        ¬ Jobs.BillingOwnedByV1 job → report.success = true → ∀ renterId ∈ job.renterId,
          db.Covers renterId (Jobs.jobResultPrice job provider report now - job.costHalala)) := by
  have moves : Moves db { db with
      jobs := Jobs.settleJobResult db.jobs job provider report now } (fun renterId _ =>
        if job.renterId = some renterId then
          jobResultMoved job provider report now
        else 0) := by
    intro renterId
    have balances := settleJobResult_balances db.jobs job provider report now renterId
    rw [Database.balanceOf, balances, Database.balanceOf, map_map]
    rfl
  by_cases charged : ¬ Jobs.BillingOwnedByV1 job ∧ report.success = true
  · rw [moves.solvent_iff]
    have moved : jobResultMoved job provider report now =
        job.costHalala - Jobs.jobResultPrice job provider report now := by
      rw [jobResultMoved, if_neg charged.1, if_pos charged.2]
    rw [moved]
    constructor
    · intro each _ _ _ _ renterId renter balance found
      have enough := each renterId balance found
      have enough : 0 ≤ balance +
          (job.costHalala - Jobs.jobResultPrice job provider report now) := by
        rw [if_pos (mem_def.mp renter)] at enough
        exact enough
      omega
    · intro covers renterId balance found
      by_cases renter : job.renterId = some renterId
      · rw [if_pos renter]
        have enough := covers same running charged.1 charged.2 renterId renter balance found
        omega
      · rw [if_neg renter, add_zero]
        exact solvent_iff.mp solvent renterId balance found
  · refine iff_of_true ?_ (fun _ _ unowned success => absurd ⟨unowned, success⟩ charged)
    have nonneg : 0 ≤ jobResultMoved job provider report now := by
      rw [jobResultMoved]
      by_cases owned : Jobs.BillingOwnedByV1 job
      · rw [if_pos owned]
      · rw [if_neg owned, if_neg (fun success => charged ⟨owned, success⟩)]
        by_cases refundable : Jobs.Refundable job
        · rw [if_pos refundable]
          exact le_of_lt refundable.2.1
        · rw [if_neg refundable]
    apply moves.solvent solvent
    intro renterId balance enough
    split
    · omega
    · omega

theorem solvent_jobResult_iff (solvent : db.Solvent) (report : Jobs.JobResultReport) (now : Int) :
    (postJobResult db report now).Solvent ↔ Covered db (.jobResult report now) := by
  rw [postJobResult, Jobs.postJobResult, Covered]
  cases known : db.jobs.providers.lookup report.providerId with
  | none =>
    exact iff_of_true solvent (fun _ absent => absurd absent (by simp))
  | some provider =>
    cases found : db.jobs.jobs.lookup report.jobId with
    | none =>
      exact iff_of_true solvent (fun _ _ _ absent => absurd absent (by simp))
    | some job =>
      simp only [mem_some_iff, forall_eq']
      by_cases other : job.providerId ≠ some provider.id
      · rw [if_pos other]
        exact iff_of_true solvent (absurd · other)
      · rw [if_neg other]
        by_cases ended : job.status ≠ .running
        · rw [if_pos ended]
          exact iff_of_true solvent (fun _ running => absurd running ended)
        · rw [if_neg ended]
          exact solvent_settleJobResult_iff solvent (not_not.mp other) (not_not.mp ended) report now

theorem dispatch_renters {db after : Database} {renterId jobId : Nat} {estimatedCostHalala : Int}
    (dispatched : dispatch db renterId jobId estimatedCostHalala = .ok after) :
    after.jobs = db.jobs := by
  unfold dispatch at dispatched
  split at dispatched
  · cases dispatched
  · split at dispatched
    · cases dispatched
    · split at dispatched
      · cases dispatched
      · split at dispatched
        · injection dispatched with same
          rw [← same]
        · split at dispatched
          · injection dispatched with same
            rw [← same]
          · cases dispatched

theorem solvent_completeJob_iff (solvent : db.Solvent) (jobId : Nat) (actualCostHalala : Int) :
    (completeJob db jobId actualCostHalala).1.Solvent ↔
      Covered db (.completeJob jobId actualCostHalala) := by
  rw [completeJob, Covered]
  cases held : db.heldFor jobId with
  | none =>
    exact iff_of_true solvent (fun _ absent => absurd absent (by simp))
  | some hold =>
    simp only [mem_some_iff, forall_eq']
    by_cases costly : 0 < max 0 actualCostHalala
    · have cost : max 0 actualCostHalala = actualCostHalala := by omega
      rw [if_pos costly, cost]
      exact solvent_debit_iff solvent (addBalance_moves db hold.renterId (-actualCostHalala))
    · rw [if_neg costly]
      refine iff_of_true solvent ?_
      intro balance found
      have nonneg := solvent_iff.mp solvent hold.renterId balance found
      omega

theorem failJob_renters (db : Database) (jobId : Nat) :
    (failJob db jobId).1.jobs = db.jobs := by
  rw [failJob]
  cases db.heldFor jobId with
  | none | some hold => rfl

def PaymentsSolvent (db : Topups.Database) : Prop :=
  ∀ renterId renter, db.renters.lookup renterId = some renter → 0 ≤ renter.balanceHalala

theorem forPayments_solvent (solvent : db.Solvent) :
    PaymentsSolvent db.forPayments := by
  intro renterId renter found
  have viewed :
      db.forPayments.renters.lookup renterId = (db.jobs.renters.lookup renterId).map paymentsView :=
    lookup_view db.jobs.renters paymentsView (fun _ => rfl) renterId
  rw [viewed] at found
  obtain ⟨row, stored, same⟩ := map_eq_some_iff.mp found
  rw [← same]
  exact solvent row (lookup_mem stored)

theorem fromPayments_solvent (solvent : db.Solvent)
    {after : Topups.Database} (paid : PaymentsSolvent after) :
    (db.fromPayments after).Solvent := by
  intro renter member
  obtain ⟨earlier, stored, same⟩ := List.mem_map.mp member
  rw [← same, writePaid]
  cases found : after.renters.lookup earlier.id with
  | none => exact solvent earlier stored
  | some row => exact paid earlier.id row found

theorem PaymentsSolvent.update {db : Topups.Database} (solvent : PaymentsSolvent db)
    {change : Topups.Renter → Topups.Renter}
    (keeps : ∀ renter, (change renter).id = renter.id)
    (enough : ∀ renter, db.renters.lookup target = some renter →
      0 ≤ renter.balanceHalala → 0 ≤ (change renter).balanceHalala)
    {renterId : Nat} {renter : Topups.Renter}
    (found : (db.renters.update target change keeps).lookup renterId = some renter) :
    0 ≤ renter.balanceHalala := by
  rcases lookup_of_lookup_update keeps found with ⟨same, earlier, stored, changed⟩ | ⟨_, stored⟩
  · rw [same] at stored
    rw [changed]
    exact enough earlier stored (solvent target earlier stored)
  · exact solvent renterId renter stored

theorem solvent_payPayment (solvent : db.Solvent)
    (paymentId : Topups.PaymentKey) (chargeId renterId amountHalala : Nat)
    (now : Int) :
    (markPaymentPaidOnce db paymentId chargeId renterId amountHalala now).Solvent := by
  have initially := forPayments_solvent solvent
  apply fromPayments_solvent solvent
  rw [Topups.markPaymentPaidOnce]
  split
  · intro other renter found
    refine initially.update (Topups.Renter.addBalance_id _) ?_ found
    intro row _ nonneg
    change 0 ≤ row.balanceHalala + (amountHalala : Int)
    omega
  · exact initially

theorem solvent_refundPayment (solvent : db.Solvent)
    (paymentId : Topups.PaymentKey) (renterId : Nat)
    (refundAmountHalala now : Int) :
    (markPaymentRefundedOnce db paymentId renterId refundAmountHalala now).Solvent := by
  have initially := forPayments_solvent solvent
  apply fromPayments_solvent solvent
  rw [Topups.markPaymentRefundedOnce]
  split
  · rw [Topups.Database.withdraw]
    split
    · exact initially
    · rename_i renter stored
      intro other row found
      refine initially.update (Topups.Renter.addBalance_id _) ?_ found
      intro row known _
      have same : row = renter := by
        rw [show db.forPayments.renters.lookup renterId = some renter from stored] at known
        injection known with same
        exact same.symm
      rw [same]
      change 0 ≤ renter.balanceHalala +
        -(renter.balanceHalala - max 0 (renter.balanceHalala - refundAmountHalala))
      omega
  · exact initially

theorem solvent_settleInference (solvent : db.Solvent) (args : Billing.SettleArgs) :
    (settleInferenceOnce db args).Solvent := by
  have initially : ∀ renterId renter, db.forBilling.renters renterId = some renter →
      0 ≤ renter.balanceHalala := by
    intro renterId renter found
    obtain ⟨row, stored, same⟩ := map_eq_some_iff.mp found
    rw [← same]
    exact solvent row (lookup_mem stored)
  have settled := Billing.settleInferenceOnce_balances args initially
  intro renter member
  obtain ⟨earlier, stored, same⟩ := List.mem_map.mp member
  rw [← same, writeBilled]
  split
  · exact solvent earlier stored
  · rename_i row found
    exact settled earlier.id row found

theorem solvent_debitIfCovered (solvent : db.Solvent) (renterId : Nat) (amount : Int) :
    (debitIfCovered db renterId amount).Solvent := by
  intro renter member
  obtain ⟨earlier, stored, same⟩ := List.mem_map.mp member
  have nonneg := solvent earlier stored
  rw [← same]
  split
  · beta_reduce
    split
    · rename_i enough
      change 0 ≤ earlier.balanceHalala + -amount
      omega
    · exact nonneg
  · exact nonneg

theorem solvent_chargeRag_iff (solvent : db.Solvent) (renterId : Nat) (costHalala : Int) :
    (chargeRag db renterId costHalala).Solvent ↔ db.Covers renterId costHalala := by
  rw [chargeRag]
  by_cases costly : 0 < costHalala
  · rw [if_pos costly]
    exact solvent_debit_iff solvent (addBalance_moves db renterId (-costHalala))
  · rw [if_neg costly]
    refine iff_of_true solvent ?_
    intro balance found
    have nonneg := solvent_iff.mp solvent renterId balance found
    omega

theorem solvent_perform_iff (solvent : db.Solvent) (action : Action) :
    (perform db action).Solvent ↔ Covered db action := by
  cases action with
  | jobResult report now => exact solvent_jobResult_iff solvent report now
  | dispatch renterId jobId estimatedCostHalala =>
    refine iff_of_true ?_ trivial
    rw [perform]
    cases dispatched : dispatch db renterId jobId estimatedCostHalala with
    | error failure => exact solvent
    | ok after =>
      change ∀ renter ∈ after.jobs.renters.rows, _
      rw [dispatch_renters dispatched]
      exact solvent
  | completeJob jobId actualCostHalala =>
    exact solvent_completeJob_iff solvent jobId actualCostHalala
  | failJob jobId =>
    refine iff_of_true ?_ trivial
    change ∀ renter ∈ (failJob db jobId).1.jobs.renters.rows, _
    rw [failJob_renters]
    exact solvent
  | payPayment paymentId chargeId renterId amountHalala now =>
    exact iff_of_true
      (solvent_payPayment solvent paymentId chargeId renterId amountHalala now) trivial
  | refundPayment paymentId renterId refundAmountHalala now =>
    exact iff_of_true
      (solvent_refundPayment solvent paymentId renterId refundAmountHalala now) trivial
  | settleInference args =>
    exact iff_of_true (solvent_settleInference solvent args) trivial
  | debitIfCovered renterId amount =>
    exact iff_of_true (solvent_debitIfCovered solvent renterId amount) trivial
  | ragIngest renterId embedTokens =>
    exact solvent_chargeRag_iff solvent renterId (ingestCost embedTokens)
  | ragQuery renterId embedTokens rerankTokens genTokens =>
    exact solvent_chargeRag_iff solvent renterId (queryCost embedTokens rerankTokens genTokens)

def sampleWallets : Database :=
  { jobs := Jobs.sampleSystem.db
    creditHolds := Table.empty
    payments := Table.empty
    billing := Billing.sampleDatabase }

end DcpPlatform.Wallets
