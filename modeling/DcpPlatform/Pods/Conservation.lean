import DcpPlatform.Foundation.Transition
import DcpPlatform.Pods.Effects
import DcpPlatform.Pods.Launch

/-!
# The money of a pod

A pod is followed from its launch to its end: a launch that may fail after its
debit, the reports that make it live, extensions and then a stop, a sweep or a
burst failure. `PodBooks` relates its row to the payments made for it.
-/

namespace DcpPlatform.Pods

open Foundation Table List Option

/-! ## The books of one pod -/

structure OpenRow (job : Job) (payments : List Payment) : Prop where
  onlyDebits : ∀ payment ∈ payments, payment.kind = .debit ∧ job.renterId = some payment.account
  debited : paid .debit payments = job.costHalala
  costNonneg : 0 ≤ job.costHalala
  unsettled : job.charge = (none, none, none)
  unreturned : job.refundedAt = none
  renter : job.renterId.isSome
  provider : job.providerId.isSome

def Payment.OwnedBy (job : Job) (payment : Payment) : Prop :=
  match payment.kind with
  | .credit => job.providerId = some payment.account
  | .debit | .refund => job.renterId = some payment.account

/-- A pod that has ended: its debits are its refund and its charge, and its
charge is the provider's share, which was credited, and the fee. -/
structure ClosedRow (job : Job) (payments : List Payment) : Prop where
  owned : ∀ payment ∈ payments, payment.OwnedBy job
  conserved : paid .debit payments = paid .refund payments + job.actualCostHalala.getD 0
  actualNonneg : 0 ≤ job.actualCostHalala.getD 0
  actualLe : job.actualCostHalala.getD 0 ≤ paid .debit payments
  split : job.actualCostHalala.getD 0 = job.providerEarnedHalala.getD 0 + job.dc1FeeHalala.getD 0
  credited : paid .credit payments = job.providerEarnedHalala.getD 0

inductive PodBooks : Option Job → List Payment → Prop
  | absent {payments : List Payment} :
      paid .debit payments = paid .refund payments →
      paid .credit payments = 0 →
      PodBooks none payments
  | live {job : Job} {payments : List Payment} :
      job.status.isTerminal = false →
      OpenRow job payments →
      PodBooks (some job) payments
  | ended {job : Job} {payments : List Payment} :
      job.status.isTerminal = true →
      ClosedRow job payments →
      PodBooks (some job) payments

def ConservedPod (db : Database) (jobId : Nat) : Prop :=
  PodBooks (db.jobs.lookup jobId) (db.paymentsFor jobId)

namespace ConservedPod

theorem of_same {before after : Database} {jobId : Nat}
    (row : after.jobs.lookup jobId = before.jobs.lookup jobId)
    (payments : after.paymentsFor jobId = before.paymentsFor jobId)
    (conserved : ConservedPod before jobId) :
    ConservedPod after jobId := by
  rw [ConservedPod, row, payments]
  exact conserved

theorem openRow {db : Database} {jobId : Nat} {job : Job}
    (conserved : ConservedPod db jobId) (found : db.jobs.lookup jobId = some job)
    (live : job.status.isTerminal = false) :
    OpenRow job (db.paymentsFor jobId) := by
  rw [ConservedPod, found] at conserved
  cases conserved with
  | live _ row => exact row
  | ended ended _ =>
    rw [live] at ended
    cases ended

end ConservedPod

variable {payments : List Payment}

theorem paid_of_onlyDebits (kind : PaymentKind) (different : kind ≠ .debit)
    (onlyDebits : ∀ payment ∈ payments, payment.kind = .debit) :
    paid kind payments = 0 := by
  have none_ : ofKind kind payments = [] := by
    apply filter_eq_nil_iff.mpr
    intro payment member
    simp [onlyDebits payment member, Ne.symm different]
  rw [paid, none_]
  rfl

namespace OpenRow

variable {job closed : Job} {payments : List Payment}

variable (row : OpenRow job payments)

include row

theorem kinds :
    ∀ payment ∈ payments, payment.kind = .debit :=
  fun payment member => (row.onlyDebits payment member).1

theorem refunded :
    paid .refund payments = 0 :=
  paid_of_onlyDebits .refund (by decide) row.kinds

theorem credited :
    paid .credit payments = 0 :=
  paid_of_onlyDebits .credit (by decide) row.kinds

theorem prepaid :
    prepaidHalala job = job.costHalala :=
  max_eq_right row.costNonneg

theorem owned (accounts : closed.renterId = job.renterId ∧ closed.providerId = job.providerId) :
    ∀ payment ∈ payments, payment.OwnedBy closed := by
  intro payment member
  have debit := row.onlyDebits payment member
  simp only [Payment.OwnedBy, debit.1, accounts.1]
  exact debit.2

end OpenRow

variable {jobId : Nat}

theorem entry_kind {kind : PaymentKind} {account : Option Nat} {amount : Int} {payment : Payment}
    (member : payment ∈ Database.entry jobId kind account amount) :
    payment.kind = kind ∧ account = some payment.account := by
  cases account with
  | none => cases member
  | some account =>
    simp only [Database.entry] at member
    split at member
    · cases member
    · rw [mem_singleton.mp member]
      exact ⟨rfl, rfl⟩

theorem OpenRow.charged {job closed : Job} {payments : List Payment}
    {settlement : PodSettlement} (row : OpenRow job payments)
    (splits : settlement.Splits (prepaidHalala job))
    (charge : closed.charge = settlement.charge)
    (accounts : closed.renterId = job.renterId ∧ closed.providerId = job.providerId) :
    ClosedRow closed (payments ++ settlement.payments job) := by
  obtain ⟨renterId, renter⟩ := isSome_iff_exists.mp row.renter
  obtain ⟨providerId, provider⟩ := isSome_iff_exists.mp row.provider
  obtain ⟨actual, earned, fee⟩ : closed.actualCostHalala = some settlement.actualCostHalala ∧
      closed.providerEarnedHalala = some settlement.providerEarnedHalala ∧
      closed.dc1FeeHalala = some settlement.dc1FeeHalala := by
    simpa [Job.charge, PodSettlement.charge] using charge
  have sums (kind : PaymentKind) :
      paid kind (payments ++ settlement.payments job) = paid kind payments +
        ((if PaymentKind.credit = kind then
            settlement.providerEarnedHalala
          else 0) +
          (if PaymentKind.refund = kind then settlement.refundHalala
          else 0)) := by
    rw [PodSettlement.payments, renter, provider, paid_append, paid_append, paid_entry, paid_entry]
  have debited := sums .debit
  have refunded := sums .refund
  have credited := sums .credit
  have refundedBefore := row.refunded
  have creditedBefore := row.credited
  have charge := splits.charge
  have share := splits.share
  have earnedNonneg := splits.earnedNonneg
  have feeNonneg := splits.feeNonneg
  have refundNonneg := splits.refundNonneg
  have cost := row.debited
  have prepaid := row.prepaid
  simp only [reduceCtorEq, if_true, if_false] at debited refunded credited
  refine ⟨?_, ?_, ?_, ?_, ?_, ?_⟩
  · intro payment member
    rcases mem_append.mp member with old | new
    · exact row.owned accounts payment old
    · rcases mem_append.mp new with credit | refund
      · have kind := entry_kind credit
        simp only [Payment.OwnedBy, kind.1, accounts.2]
        exact kind.2
      · have kind := entry_kind refund
        simp only [Payment.OwnedBy, kind.1, accounts.1]
        exact kind.2
  all_goals
    simp only [actual, earned, fee, getD_some]
    omega

theorem OpenRow.returned {job closed : Job} {payments : List Payment}
    (row : OpenRow job payments) (charge : closed.charge = job.charge)
    (accounts : closed.renterId = job.renterId ∧ closed.providerId = job.providerId) :
    ClosedRow closed
      (payments ++ Database.entry job.id .refund job.renterId (prepaidHalala job)) := by
  obtain ⟨renterId, renter⟩ := isSome_iff_exists.mp row.renter
  obtain ⟨actual, earned, fee⟩ : closed.actualCostHalala = none ∧
      closed.providerEarnedHalala = none ∧
      closed.dc1FeeHalala = none := by
    simpa [Job.charge] using charge.trans row.unsettled
  have sums (kind : PaymentKind) :
      paid kind (payments ++ Database.entry job.id .refund job.renterId (prepaidHalala job)) =
        paid kind payments + (if PaymentKind.refund = kind then prepaidHalala job else 0) := by
    rw [renter, paid_append, paid_entry]
  have debited := sums .debit
  have refunded := sums .refund
  have credited := sums .credit
  have refundedBefore := row.refunded
  have creditedBefore := row.credited
  have cost := row.debited
  have costNonneg := row.costNonneg
  have prepaid := row.prepaid
  simp only [reduceCtorEq, if_true, if_false] at debited refunded credited
  refine ⟨?_, ?_, ?_, ?_, ?_, ?_⟩
  · intro payment member
    rcases mem_append.mp member with old | new
    · exact row.owned accounts payment old
    · have kind := entry_kind new
      simp only [Payment.OwnedBy, kind.1, accounts.1]
      exact kind.2
  all_goals
    simp only [actual, earned, fee, getD_none]
    omega

variable {job : Job}

theorem Settling.conserves {before after : Database} (settling : Settling before job after)
    (current : before.jobs.lookup job.id = some job)
    (conserved : ConservedPod before jobId) :
    ConservedPod after jobId := by
  cases settling with
  | untouched =>
    exact conserved
  | @charged _ row closed settlement closing splits charge =>
    have owned : ∀ payment ∈ settlement.payments job, payment.jobId = job.id := by
      intro payment member
      rcases mem_append.mp member with credit | refund
      · exact entry_jobId credit
      · exact entry_jobId refund
    have payments := paymentsFor_of_journal closing.journal owned jobId
    by_cases same : jobId = job.id
    · subst same
      have found := closing.found
      rw [current] at found
      cases found
      have open_ := conserved.openRow current closing.live
      rw [ConservedPod, closing.stored, payments, if_pos rfl]
      exact PodBooks.ended closing.ended (open_.charged splits charge closing.accounts)
    · refine conserved.of_same (closing.others jobId same) ?_
      rw [payments, if_neg same, append_nil]
  | @returned _ row closed amount closing charge owed =>
    have payments :=
      paymentsFor_of_journal closing.journal (fun _ member => entry_jobId member) jobId
    by_cases same : jobId = job.id
    · subst same
      have found := closing.found
      rw [current] at found
      cases found
      have open_ := conserved.openRow current closing.live
      unfold ConservedPod
      rw [closing.stored, payments, if_pos rfl, owed open_.unreturned open_.renter open_.costNonneg]
      exact PodBooks.ended closing.ended (open_.returned charge closing.accounts)
    · refine conserved.of_same (closing.others jobId same) ?_
      rw [payments, if_neg same, append_nil]

/-- A rewrite of a live row that touches neither its money nor its end. -/
structure KeepsBooks (job changed : Job) : Prop where
  live : changed.status.isTerminal = false
  cost : changed.costHalala = job.costHalala
  charge : changed.charge = job.charge
  refundedAt : changed.refundedAt = job.refundedAt
  renter : changed.renterId = job.renterId
  provider : job.providerId.isSome → changed.providerId.isSome

theorem ConservedPod.of_update {db : Database} {jobId target : Nat}
    {job : Job} {change : Job → Job} (keeps : ∀ row, (change row).id = row.id)
    (found : db.jobs.lookup target = some job)
    (live : job.status.isTerminal = false) (books : KeepsBooks job (change job))
    (conserved : ConservedPod db jobId) :
    ConservedPod { db with jobs := db.jobs.update target change keeps } jobId := by
  by_cases same : jobId = target
  · subst same
    have open_ := conserved.openRow found live
    have stored := lookup_update_of_some db.jobs change keeps found
    rw [ConservedPod, stored]
    refine PodBooks.live books.live ?_
    exact
      { onlyDebits := by
          rw [books.renter]
          exact open_.onlyDebits
        debited := open_.debited.trans books.cost.symm
        costNonneg := by
          rw [books.cost]
          exact open_.costNonneg
        unsettled := books.charge.trans open_.unsettled
        unreturned := books.refundedAt.trans open_.unreturned
        renter := by
          rw [books.renter]
          exact open_.renter
        provider := books.provider open_.provider }
  · exact conserved.of_same (lookup_update_of_ne _ keeps same) rfl

theorem conservedPod_sweepClosed (jobId : Nat) :
    SweepClosed (fun before after =>
      ConservedPod before jobId → ConservedPod after jobId) where
  reflexive := fun _ conserved => conserved
  transitive := fun earlier later conserved => later (earlier conserved)
  settling := fun current settling _ conserved =>
    settling.conserves current conserved
  promoted := by
    intro db job now found queued conserved
    have live : job.status.isTerminal = false := by
      rw [queued]
      rfl
    exact conserved.of_update (Job.setPromoted_id now) found live ⟨rfl, rfl, rfl, rfl, rfl, id⟩

variable {db : Database}

theorem ConservedPod.of_updateWhere {jobId target : Nat} {guard : Job → Prop} [DecidablePred guard]
    {change : Job → Job} (keeps : ∀ row, (change row).id = row.id)
    (books : ∀ job, db.jobs.lookup target = some job → guard job →
      job.status.isTerminal = false ∧ KeepsBooks job (change job))
    (conserved : ConservedPod db jobId) :
    ConservedPod { db with jobs := db.jobs.updateWhere target guard change keeps }
      jobId := by
  by_cases changes : db.jobs.changes target guard
  · obtain ⟨job, found, met⟩ := changes
    rw [updateWhere_of_met keeps found met]
    exact conserved.of_update keeps found (books job found met).1 (books job found met).2
  · rw [updateWhere_of_unmet keeps changes]
    exact conserved

variable {request : LaunchRequest} {quoteHalala : Int} {db debited : Database}

theorem debitQuote_eq_some (nonneg : 0 ≤ quoteHalala)
    (taken : debitQuote db request quoteHalala = some debited) :
    debited.jobs = db.jobs ∧ debited.journal = db.journal ++
      Database.entry request.jobId .debit (some request.renterId)
        quoteHalala := by
  unfold debitQuote at taken
  split at taken
  · rw [Database.debitRenter_eq_some taken]
    exact ⟨rfl, rfl⟩
  · have nothing : quoteHalala = 0 := by omega
    cases taken
    rw [nothing, Database.entry_zero, append_nil]
    exact ⟨rfl, rfl⟩

theorem refundQuote_effect (db : Database) (request : LaunchRequest) (nonneg : 0 ≤ quoteHalala) :
    (refundQuote db request quoteHalala).jobs = db.jobs ∧
      (refundQuote db request quoteHalala).journal = db.journal ++
        Database.entry request.jobId .refund (some request.renterId)
          quoteHalala := by
  unfold refundQuote
  split
  · exact ⟨Database.refundRenter_jobs _ _ _ _, Database.refundRenter_journal _ _ _ _⟩
  · have nothing : quoteHalala = 0 := by omega
    rw [nothing, Database.entry_zero, append_nil]
    exact ⟨rfl, rfl⟩

theorem conserved_of_compensated (nonneg : 0 ≤ quoteHalala)
    (absent : db.jobs.lookup request.jobId = none)
    (unpaid : db.paymentsFor request.jobId = [])
    (taken : debitQuote db request quoteHalala = some debited)
    (conserved : ConservedPod db jobId) :
    ConservedPod (refundQuote debited request quoteHalala) jobId := by
  obtain ⟨jobs, journal⟩ := debitQuote_eq_some nonneg taken
  obtain ⟨laterJobs, laterJournal⟩ := refundQuote_effect debited request nonneg
  have debits := paymentsFor_of_journal journal (fun _ member => entry_jobId member) jobId
  have refunds := paymentsFor_of_journal laterJournal (fun _ member => entry_jobId member) jobId
  by_cases same : jobId = request.jobId
  · subst same
    rw [ConservedPod, laterJobs, jobs, absent, refunds, debits, unpaid]
    refine PodBooks.absent ?_ ?_ <;> simp [paid_entry]
  · refine conserved.of_same ?_ ?_
    · rw [laterJobs, jobs]
    · rw [if_neg same, append_nil] at debits refunds
      exact refunds.trans debits

variable {now : Int}

theorem conserved_of_inserted {plan : LaunchPlan} (nonneg : 0 ≤ plan.quoteHalala)
    (unpaid : db.paymentsFor request.jobId = [])
    (taken : debitQuote db request plan.quoteHalala = some debited)
    (fresh : debited.jobs.lookup (podRow request plan now).id = none)
    (conserved : ConservedPod db jobId) :
    ConservedPod { debited with
      jobs := debited.jobs.insert (podRow request plan now) fresh }
      jobId := by
  obtain ⟨jobs, journal⟩ := debitQuote_eq_some nonneg taken
  have debits := paymentsFor_of_journal journal (fun _ member => entry_jobId member) jobId
  by_cases same : jobId = request.jobId
  · subst same
    have stored := lookup_insert_self debited.jobs _ fresh
    have payments : { debited with
        jobs := debited.jobs.insert (podRow request plan now) fresh }.paymentsFor request.jobId =
        Database.entry request.jobId .debit (some request.renterId)
          plan.quoteHalala := by
      rw [unpaid, if_pos rfl, nil_append] at debits
      exact debits
    rw [podRow_id] at stored
    rw [ConservedPod, payments]
    rw [stored]
    refine PodBooks.live ?_ ?_
    · unfold podRow
      dsimp only
      split <;> rfl
    · exact
        { onlyDebits := by
            intro payment member
            exact entry_kind member
          debited := by
            rw [paid_entry, if_pos rfl]
            rfl
          costNonneg := nonneg
          unsettled := rfl
          unreturned := rfl
          renter := rfl
          provider := rfl }
  · refine conserved.of_same ?_ ?_
    · have different : (podRow request plan now).id ≠ jobId := Ne.symm same
      rw [lookup_insert_of_ne _ fresh different, jobs]
    · rw [if_neg same, append_nil] at debits
      exact debits

theorem launchPodCore_conserves {outlook : LaunchOutlook}
    (absent : db.jobs.lookup request.jobId = none)
    (unpaid : db.paymentsFor request.jobId = [])
    (conserved : ConservedPod db jobId) :
    ConservedPod (launchPodCore db request now outlook).1 jobId := by
  have effect := launchPodCore_effect db request now outlook
  generalize (launchPodCore db request now outlook).1 = after at effect ⊢
  cases effect with
  | refused =>
    exact conserved
  | compensated planned taken =>
    exact conserved_of_compensated (planLaunch_quote_nonneg planned) absent unpaid taken conserved
  | landed planned taken =>
    exact conserved_of_inserted (planLaunch_quote_nonneg planned) unpaid taken _ conserved
  | @unspawned plan debited fresh planned taken =>
    have opened :=
      conserved_of_inserted (planLaunch_quote_nonneg planned) unpaid taken fresh conserved
    have stored := lookup_insert_self debited.jobs _ fresh
    rcases failBurstJobAndRefund_settling _ request.jobId plan.quoteHalala request.renterId now with
      same | ⟨row, found, settling⟩
    · rw [same]
      exact opened
    · rw [podRow_id] at stored
      rw [stored] at found
      cases found
      exact settling.conserves stored opened

theorem debitExtension_eq_some {addQuoteHalala : Int} (nonneg : 0 ≤ addQuoteHalala)
    (taken : debitExtension db job addQuoteHalala = some debited) :
    debited.jobs = db.jobs ∧
      debited.journal = db.journal ++ Database.entry job.id .debit job.renterId addQuoteHalala := by
  unfold debitExtension at taken
  split at taken
  · cases account : job.renterId with
    | none =>
      rw [account] at taken
      cases taken
    | some renterId =>
      rw [account, bind_some] at taken
      rw [Database.debitRenter_eq_some taken]
      exact ⟨rfl, rfl⟩
  · have nothing : addQuoteHalala = 0 := by omega
    cases taken
    rw [nothing, Database.entry_zero, append_nil]
    exact ⟨rfl, rfl⟩

theorem extendPodCore_cases (db : Database) (job : Job) (addMinutes : Nat) (now : Int) :
    (extendPodCore db job addMinutes now).1 = db ∨ ∃ debited, job.status = .running ∧
      debitExtension db job (extendQuote db job addMinutes) = some debited ∧
      (extendPodCore db job addMinutes now).1 = { debited with
        jobs := debited.jobs.update job.id (Job.setExtended (currentSeconds job + addMinutes * 60)
          (extendQuote db job addMinutes) now)
          (Job.setExtended_id _ _ now) } := by
  unfold extendPodCore
  split
  · exact Or.inl rfl
  · rename_i running
    split
    · exact Or.inl rfl
    · dsimp only
      cases taken : debitExtension db job (extendQuote db job addMinutes) with
      | none => exact Or.inl rfl
      | some debited =>
        exact Or.inr ⟨debited, not_not.mp running, rfl, rfl⟩

theorem OpenRow.extended (row : OpenRow job payments)
    (nonneg : 0 ≤ quoteHalala) (newSeconds : Nat) (now : Int) :
    OpenRow (job.setExtended newSeconds quoteHalala now)
      (payments ++ Database.entry job.id .debit job.renterId quoteHalala) := by
  obtain ⟨renterId, renter⟩ := isSome_iff_exists.mp row.renter
  have debited := row.debited
  have costNonneg := row.costNonneg
  exact
    { onlyDebits := by
        intro payment member
        rcases mem_append.mp member with old | new
        · exact row.onlyDebits payment old
        · exact entry_kind new
      debited := by
        rw [renter, paid_append, paid_entry, if_pos rfl, debited]
        rfl
      costNonneg := add_nonneg costNonneg nonneg
      unsettled := row.unsettled
      unreturned := row.unreturned
      renter := row.renter
      provider := row.provider }

theorem extendPodCore_conserves {addMinutes : Nat} (current : db.jobs.lookup job.id = some job)
    (conserved : ConservedPod db jobId) :
    ConservedPod (extendPodCore db job addMinutes now).1 jobId := by
  rcases extendPodCore_cases db job addMinutes now with same | ⟨debited, running, taken, extended⟩
  · rw [same]
    exact conserved
  · have nonneg : 0 ≤ extendQuote db job addMinutes := computePodQuoteHalala_nonneg _ _ _
    obtain ⟨jobs, journal⟩ := debitExtension_eq_some nonneg taken
    have payments := paymentsFor_of_journal journal (fun _ member => entry_jobId member) jobId
    rw [extended]
    by_cases same : jobId = job.id
    · subst same
      have live : job.status.isTerminal = false := by
        rw [running]
        rfl
      have found : debited.jobs.lookup job.id = some job := by
        rw [jobs]
        exact current
      have stored := lookup_update_of_some debited.jobs _
          (Job.setExtended_id (currentSeconds job + addMinutes * 60)
            (extendQuote db job addMinutes) now) found
      have opened :=
        (conserved.openRow current live).extended nonneg (currentSeconds job + addMinutes * 60) now
      rw [if_pos rfl] at payments
      rw [← payments] at opened
      rw [ConservedPod, stored]
      exact PodBooks.live live opened
    · refine conserved.of_same ?_ ?_
      · rw [lookup_update_of_ne debited.jobs (Job.setExtended_id _ _ now) same, jobs]
      · rw [if_neg same, append_nil] at payments
        exact payments

inductive PodAction where
  | launch (request : LaunchRequest) (now : Int) (outlook : LaunchOutlook)
  | extend (jobId addMinutes : Nat) (now : Int)
  | pickUp (providerId jobId : Nat) (now : Int)
  | endpointReady (providerId jobId jupyterHostPort : Nat) (accessUrl : String) (now : Int)
  | reportProgress (providerId jobId : Nat) (pulling : Bool) (now : Int)
  | burstSuccess (jobId : Nat) (accessUrl : String) (durationSeconds : Nat) (now : Int)
  | stop (jobId : Nat) (now : Int)
  | settleExpiredPods (now : Int)
  | enforceJobTimeouts (now : Int)
  | burstFail (jobId : Nat) (now : Int)
  | setRate (providerId : Nat) (rate : Option ℚ)

def Provider.setRate (rate : Option ℚ) (provider : Provider) : Provider :=
  { provider with costPerGpuSecondHalala := rate }

@[simp]
theorem Provider.setRate_id (rate : Option ℚ) (provider : Provider) :
    (provider.setRate rate).id = provider.id :=
  rfl

def HasEnded (job : Job) : Prop :=
  job.status.isTerminal = true
deriving Decidable

/-- The next database. Launch ids are fresh random ids, and a pod becomes
live before it ends. -/
def nextPods (db : Database) : PodAction → Option Database
  | .launch request now outlook =>
    if db.jobs.lookup request.jobId = none ∧ db.paymentsFor request.jobId = [] then
      some (launchPodCore db request now outlook).1
    else
      none
  | .extend jobId addMinutes now =>
    match db.jobs.lookup jobId with
    | some job => some (extendPodCore db job addMinutes now).1
    | none => none
  | .pickUp providerId jobId now =>
    some (pickUpJob db providerId jobId now)
  | .endpointReady providerId jobId jupyterHostPort accessUrl now =>
    if db.jobs.changes jobId HasEnded then
      none
    else
      some (endpointReady db providerId jobId jupyterHostPort accessUrl now)
  | .reportProgress providerId jobId pulling now =>
    if db.jobs.changes jobId HasEnded then
      none
    else
      some (reportProgress db providerId jobId pulling now)
  | .burstSuccess jobId accessUrl durationSeconds now =>
    some (burstJobSuccess db jobId accessUrl durationSeconds now)
  | .stop jobId now =>
    match db.jobs.lookup jobId with
    | some job => some (stopPodCore db job now).1
    | none => none
  | .settleExpiredPods now => some (settleExpiredPods db now)
  | .enforceJobTimeouts now => some (enforceJobTimeouts db now)
  | .burstFail jobId now => some (burstJobFail db jobId now)
  | .setRate providerId rate =>
    some { db with
      providers := db.providers.update providerId (Provider.setRate rate)
        (Provider.setRate_id rate) }

theorem stopPodCore_settling (now : Int) (current : db.jobs.lookup job.id = some job) :
    Settling db job (stopPodCore db job now).1 := by
  unfold stopPodCore
  split
  · exact Settling.untouched
  · split
    · rename_i running
      exact stopRunning_settling now current running
    · exact cancelUnstarted_settling db job now

theorem burstJobFail_settling (db : Database) (jobId : Nat) (now : Int) :
    burstJobFail db jobId now = db ∨
      ∃ job, db.jobs.lookup job.id = some job ∧ Settling db job (burstJobFail db jobId now) := by
  unfold burstJobFail
  split
  · exact Or.inl rfl
  · rename_i job found
    have rowId := lookup_key found
    subst rowId
    split
    · exact Or.inl rfl
    · rename_i unended
      have live : job.status.isTerminal = false := by
        simpa using unended
      refine Or.inr ⟨job, found, ?_⟩
      split
      · exact Settling.returned (failAndRefund_closing now found live) rfl
          (fun _ _ costNonneg => (max_eq_right costNonneg).symm)
      · rename_i unowed
        apply markTimedOut_settling now found live
        intro unrefunded renter _
        by_contra nonzero
        exact unowed ⟨renter, nonzero, unrefunded⟩

theorem burstJobFail_accounted (db : Database) (jobId : Nat) (now : Int) :
    Accounted db (burstJobFail db jobId now) := by
  unfold burstJobFail
  split
  · exact Accounted.refl db
  · split
    · exact Accounted.refl db
    · split
      · exact failAndRefund_accounted db _ now
      · exact Accounted.of_jobs db _

theorem IsStarting.live (starting : IsStarting job) :
    job.status.isTerminal = false := by
  rcases starting with status | status | status
  all_goals
    rw [status]
    rfl

theorem live_of_unended (unended : ¬ db.jobs.changes jobId HasEnded)
    (found : db.jobs.lookup jobId = some job) :
    job.status.isTerminal = false := by
  cases status : job.status.isTerminal with
  | false => rfl
  | true => exact absurd ⟨job, found, status⟩ unended

theorem progressStatus_live {pulling : Bool} {status : JobStatus}
    (live : status.isTerminal = false) :
    (progressStatus pulling status).isTerminal = false := by
  unfold progressStatus
  split
  · rfl
  · split
    · rfl
    · exact live

variable {db after : Database} {action : PodAction}

theorem nextPods_conserves (step : Fires nextPods db action after)
    (conserved : ConservedPod db jobId) :
    ConservedPod after jobId := by
  cases action with
  | launch request now outlook =>
    obtain ⟨fresh, rfl⟩ := of_ite_eq_some step
    exact launchPodCore_conserves fresh.1 fresh.2 conserved
  | extend target addMinutes now =>
    simp only [Fires, nextPods] at step
    split at step
    · rename_i job found
      cases step
      have rowId := lookup_key found
      subst rowId
      exact extendPodCore_conserves found conserved
    · cases step
  | pickUp providerId target now =>
    cases step
    refine conserved.of_updateWhere _ ?_
    intro job _ pickable
    exact ⟨pickable.1.live, rfl, rfl, rfl, rfl, rfl, fun _ => rfl⟩
  | endpointReady providerId target port accessUrl now =>
    obtain ⟨unended, rfl⟩ := of_ite_none_eq_some step
    refine conserved.of_updateWhere _ ?_
    intro job found _
    exact ⟨live_of_unended unended found, rfl, rfl, rfl, rfl, rfl, id⟩
  | reportProgress providerId target pulling now =>
    obtain ⟨unended, rfl⟩ := of_ite_none_eq_some step
    unfold reportProgress
    split
    · exact conserved
    · rename_i job found
      have live := live_of_unended unended found
      split
      · exact conserved.of_update _ found live ⟨progressStatus_live live, rfl, rfl, rfl, rfl, id⟩
      · exact conserved
  | burstSuccess target accessUrl durationSeconds now =>
    cases step
    refine conserved.of_updateWhere _ ?_
    intro job _ starting
    exact ⟨starting.live, rfl, rfl, rfl, rfl, rfl, id⟩
  | stop target now =>
    simp only [Fires, nextPods] at step
    split at step
    · rename_i job found
      cases step
      have rowId := lookup_key found
      subst rowId
      exact (stopPodCore_settling now found).conserves found conserved
    · cases step
  | settleExpiredPods now =>
    cases step
    exact (conservedPod_sweepClosed jobId).settleExpiredPods db now conserved
  | enforceJobTimeouts now =>
    cases step
    exact (conservedPod_sweepClosed jobId).enforceJobTimeouts db now conserved
  | burstFail target now =>
    cases step
    rcases burstJobFail_settling db target now with same | ⟨job, found, settling⟩
    · rw [same]
      exact conserved
    · exact settling.conserves found conserved
  | setRate providerId rate =>
    cases step
    exact conserved

theorem debitQuote_accounted (taken : debitQuote db request quoteHalala = some debited) :
    Accounted db debited := by
  unfold debitQuote at taken
  split at taken
  · exact Database.debitRenter_accounted taken
  · injection taken with same
    subst same
    exact Accounted.refl db

theorem refundQuote_accounted (db : Database) (request : LaunchRequest) (quoteHalala : Int) :
    Accounted db (refundQuote db request quoteHalala) := by
  unfold refundQuote
  split
  · exact db.refundRenter_accounted _ _ _
  · exact Accounted.refl db

theorem launchPodCore_accounted (db : Database) (request : LaunchRequest)
    (now : Int) (outlook : LaunchOutlook) :
    Accounted db (launchPodCore db request now outlook).1 := by
  have effect := launchPodCore_effect db request now outlook
  generalize (launchPodCore db request now outlook).1 = after at effect ⊢
  cases effect with
  | refused =>
    exact Accounted.refl db
  | compensated planned taken =>
    exact (debitQuote_accounted taken).trans (refundQuote_accounted _ _ _)
  | landed planned taken =>
    exact (debitQuote_accounted taken).trans (Accounted.of_jobs _ _)
  | @unspawned plan debited fresh planned taken =>
    have opened : Accounted db { debited with
        jobs := debited.jobs.insert (podRow request plan now) fresh } :=
      (debitQuote_accounted taken).trans (Accounted.of_jobs _ _)
    exact opened.trans (failBurstJobAndRefund_accounted _ _ _ _ _)

theorem extendPodCore_accounted (db : Database) (job : Job) (addMinutes : Nat) (now : Int) :
    Accounted db (extendPodCore db job addMinutes now).1 := by
  rcases extendPodCore_cases db job addMinutes now with same | ⟨debited, _, taken, extended⟩
  · rw [same]
    exact Accounted.refl db
  · have debit : Accounted db debited := by
      unfold debitExtension at taken
      split at taken
      · obtain ⟨renterId, _, taken⟩ := bind_eq_some_iff.mp taken
        exact Database.debitRenter_accounted taken
      · cases taken
        exact Accounted.refl db
    rw [extended]
    exact debit.trans (Accounted.of_jobs debited _)

theorem stopPodCore_accounted (db : Database) (job : Job) (now : Int) :
    Accounted db (stopPodCore db job now).1 := by
  unfold stopPodCore
  split
  · exact Accounted.refl db
  · split
    · exact stopRunning_accounted db job now
    · exact cancelUnstarted_accounted db job now

theorem nextPods_accounted (step : Fires nextPods db action after) :
    Accounted db after := by
  cases action with
  | launch request now outlook =>
    obtain ⟨_, rfl⟩ := of_ite_eq_some step
    exact launchPodCore_accounted db request now outlook
  | extend target addMinutes now =>
    simp only [Fires, nextPods] at step
    split at step
    · cases step
      exact extendPodCore_accounted db _ addMinutes now
    · cases step
  | pickUp providerId target now | burstSuccess target accessUrl durationSeconds now =>
    cases step
    exact Accounted.of_jobs db _
  | endpointReady providerId target port accessUrl now =>
    obtain ⟨_, rfl⟩ := of_ite_none_eq_some step
    exact Accounted.of_jobs db _
  | reportProgress providerId target pulling now =>
    obtain ⟨_, rfl⟩ := of_ite_none_eq_some step
    unfold reportProgress
    split
    · exact Accounted.refl db
    · split
      · exact Accounted.of_jobs db _
      · exact Accounted.refl db
  | stop target now =>
    simp only [Fires, nextPods] at step
    split at step
    · cases step
      exact stopPodCore_accounted db _ now
    · cases step
  | settleExpiredPods now =>
    cases step
    exact accounted_sweepClosed.settleExpiredPods db now
  | enforceJobTimeouts now =>
    cases step
    exact accounted_sweepClosed.enforceJobTimeouts db now
  | burstFail target now =>
    cases step
    exact burstJobFail_accounted db target now
  | setRate providerId rate =>
    cases step
    refine ⟨fun _ renter found => ⟨renter, found, rfl⟩, ?_⟩
    intro other provider found
    by_cases same : other = providerId
    · subst same
      exact ⟨provider.setRate rate, lookup_update_of_some _ _ (Provider.setRate_id rate) found,
        rfl, rfl⟩
    · exact ⟨provider,
        (lookup_update_of_ne _ (Provider.setRate_id rate) same).trans found, rfl, rfl⟩

/-- Once a pod has ended, what was debited for it is its refund and its
charge, the charge is the provider's share and the fee, and the share is what
its provider was credited. A launch that failed before its row was inserted
has returned its debit. Balances move by exactly these payments. -/
theorem pod_money_conserved {start finish : Database} {actions : List PodAction} {jobId : Nat}
    (absent : start.jobs.lookup jobId = none)
    (unpaid : start.paymentsFor jobId = [])
    (run : Run (Fires nextPods) start actions finish) :
    (∀ job, finish.jobs.lookup jobId = some job →
      job.status.isTerminal = true → ClosedRow job (finish.paymentsFor jobId)) ∧
      (finish.jobs.lookup jobId = none →
        paid .debit (finish.paymentsFor jobId) = paid .refund (finish.paymentsFor jobId)) ∧
      Accounted start finish := by
  have initially : ConservedPod start jobId := by
    rw [ConservedPod, absent, unpaid]
    exact PodBooks.absent rfl rfl
  have conserved : ConservedPod finish jobId := run.invariant (ConservedPod · jobId)
      (fun conserved step => nextPods_conserves step conserved) initially
  have accounted : Accounted start finish :=
    run.relates (fun _ => True) Accounted Accounted.refl Accounted.trans
      (fun _ _ => trivial) (fun _ step => nextPods_accounted step) trivial
  unfold ConservedPod at conserved
  refine ⟨?_, ?_, accounted⟩
  · intro job found ended
    rw [found] at conserved
    cases conserved with
    | live live _ =>
      rw [ended] at live
      cases live
    | ended _ row => exact row
  · intro gone
    rw [gone] at conserved
    cases conserved with
    | absent balanced _ => exact balanced

def sampleDatabase : Database :=
  { jobs := Table.empty
    providers := ⟨[sampleProvider], by decide⟩
    renters := ⟨[sampleRenter.addBalance 9000], by decide⟩
    journal := [] }

def sampleLife : List PodAction :=
  [.launch ⟨5, 2, .autoPick, none, none, false⟩ 0 ⟨true, true, true, true⟩, .pickUp 1 5 1000,
    .endpointReady 1 5 8888 "https://pod" 60000,
    .extend 5 10 120000,
    .stop 5 1060000]

theorem pod_money_conserved_sample :
    ∃ finish job, Run (Fires nextPods) sampleDatabase sampleLife finish ∧
      finish.jobs.lookup 5 = some job ∧
      job.actualCostHalala = some 1000 ∧
      paid .debit (finish.paymentsFor 5) = 4200 ∧
      ClosedRow job (finish.paymentsFor 5) := by
  obtain ⟨finish, executed, job, found, ended, charged, debited⟩ : ∃ finish,
      execute nextPods sampleDatabase sampleLife = some finish ∧
        ∃ job ∈ finish.jobs.lookup 5, job.status.isTerminal = true ∧
          job.actualCostHalala = some 1000 ∧
          paid .debit (finish.paymentsFor 5) = 4200 :=
    exists_of_execute_any (by decide +kernel)
  have run := run_of_execute executed
  exact ⟨finish, job, run, found, charged, debited,
    (pod_money_conserved rfl rfl run).1 job found ended⟩

end DcpPlatform.Pods
