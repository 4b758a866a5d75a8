import DcpPlatform.Sessions.Effects

/-!
# What the ticks and the close add up to

The ticks are rounded one by one and the close adds what is missing, so the
debits meet the receipt exactly when rounding has not already taken the ticks
above it; the same goes for the provider's shares.
-/

namespace DcpPlatform.Sessions

open Foundation List

def bookedFor (store : Store) (type : TransactionType) (userId jobId : Nat) : Int :=
  ((store.transactions.filter (fun transaction =>
    transaction.type = type ∧ transaction.userId = userId ∧
      transaction.jobId = jobId)).map Transaction.amountHalala).sum

def recordTicks (store : Store) (sessionId : Nat) :
    List Int → Except BillingError Store
  | [] => .ok store
  | now :: rest => do
      let (_, recorded) ← recordBillingTick store sessionId now
      recordTicks recorded sessionId rest

def billSession (store : Store) (sessionId : Nat) (times : List Int)
    (closedAt : Int) : Except BillingError (BillingReceipt × Store) := do
  let ticked ← recordTicks store sessionId times
  closeBillingSession ticked sessionId closedAt

/-- Debits and credits add up to the receipt, and the receipt to the price
of the minutes. -/
structure Telescopes (before after : Store) (session : BillingSession)
    (closedAt : Int) (receipt : BillingReceipt) : Prop where
  debits : bookedFor after .debit session.renterId session.jobId -
    bookedFor before .debit session.renterId session.jobId = receipt.renterChargedTotalHalala
  price : receipt.renterChargedTotalHalala =
    costForMinutes (minutesBetween session.startedAt closedAt) session.ratePerHourHalala
  credits : bookedFor after .credit session.providerId session.jobId -
    bookedFor before .credit session.providerId session.jobId = receipt.providerPayoutTotalHalala
  split : receipt.renterChargedTotalHalala =
    receipt.providerPayoutTotalHalala + receipt.dc1RevenueTotalHalala

def increments (session : BillingSession) : Int → List Int → List Int
  | _, [] => []
  | billed, now :: rest =>
    (minutesBetween session.startedAt now - billed) ::
      increments session (minutesBetween session.startedAt now) rest

def billedThrough (session : BillingSession) :
    Int → List Int → Int
  | billed, [] => billed
  | _, now :: rest =>
    billedThrough session (minutesBetween session.startedAt now) rest

def tickCharges (session : BillingSession) (billed : Int) (times : List Int) : List Int :=
  (increments session billed times).map (fun minutes =>
    costForMinutes minutes session.ratePerHourHalala)

/-- What rounding has added to the ticks is no more than half a halala
above the exact price of the minutes that remain, and what it has added to
the shares no more than half a halala above the exact share of the charge
that remains. -/
structure RoundingCovered (session : BillingSession) (times : List Int)
    (closedAt : Int) : Prop where
  charges : ((increments session 0 times).map (fun minutes =>
    roundingExcess 60 (minutes * session.ratePerHourHalala))).sum ≤
      (minutesBetween session.startedAt closedAt -
        billedThrough session 0 times) * session.ratePerHourHalala + 30
  shares : ((tickCharges session 0 times).map (fun charge =>
    roundingExcess 100 (charge * PROVIDER_SHARE))).sum ≤
      PROVIDER_SHARE * (costForMinutes (minutesBetween session.startedAt closedAt)
        session.ratePerHourHalala - (tickCharges session 0 times).sum) + 50

instance (session : BillingSession) (times : List Int) (closedAt : Int) :
    Decidable (RoundingCovered session times closedAt) :=
  decidable_of_iff (_ ∧ _)
    ⟨fun both => ⟨both.1, both.2⟩, fun covered => ⟨covered.charges, covered.shares⟩⟩

theorem le_of_rounded {parts numerator rounded whole : Int}
    (positive : 0 < parts) (even : parts = 2 * (parts / 2))
    (exact : parts * rounded = numerator + roundingExcess parts numerator) :
    whole ≤ rounded ↔ parts * whole ≤ numerator + parts / 2 := by
  have least := Int.emod_nonneg (numerator + parts / 2) positive.ne'
  have most := Int.emod_lt_of_pos (numerator + parts / 2) positive
  unfold roundingExcess at exact
  constructor
  · intro within
    have scaled := mul_le_mul_of_nonneg_left within positive.le
    omega
  · intro within
    by_contra above
    have next : rounded + 1 ≤ whole := by omega
    have scaled := mul_le_mul_of_nonneg_left next positive.le
    rw [mul_add, mul_one] at scaled
    omega

theorem sum_increments (session : BillingSession) (times : List Int) :
    ∀ billed,
      (increments session billed times).sum = billedThrough session billed times - billed := by
  induction times with
  | nil =>
    intro billed
    simp [increments, billedThrough]
  | cons now rest ih =>
    intro billed
    simp only [increments, billedThrough, sum_cons, ih]
    omega

theorem mul_sum_map {parts : Int} (exact rounded excess : Int → Int)
    (rounds : ∀ item, parts * rounded item = exact item + excess item)
    (items : List Int) :
    parts * (items.map rounded).sum = (items.map exact).sum + (items.map excess).sum := by
  induction items with
  | nil => simp
  | cons item rest ih =>
    simp only [map_cons, sum_cons, mul_add, rounds, ih]
    omega

theorem sum_map_mul_right (factor : Int) (items : List Int) :
    (items.map (fun item => item * factor)).sum = items.sum * factor := by
  induction items with
  | nil => simp
  | cons item rest ih =>
    simp [ih, add_mul]

theorem charges_le_iff (session : BillingSession) (times : List Int) (closedAt : Int) :
    (tickCharges session 0 times).sum ≤
      costForMinutes (minutesBetween session.startedAt closedAt) session.ratePerHourHalala ↔
      ((increments session 0 times).map (fun minutes =>
        roundingExcess 60 (minutes * session.ratePerHourHalala))).sum ≤
        (minutesBetween session.startedAt closedAt -
          billedThrough session 0 times) * session.ratePerHourHalala +
          30 := by
  rw [le_of_rounded (by omega) (by omega)
    (mul_costForMinutes (minutesBetween session.startedAt closedAt) session.ratePerHourHalala)]
  rw [tickCharges, mul_sum_map (· * session.ratePerHourHalala)
    (costForMinutes · session.ratePerHourHalala)
    (fun minutes =>
      roundingExcess 60 (minutes * session.ratePerHourHalala))
    (mul_costForMinutes · session.ratePerHourHalala),
    sum_map_mul_right, sum_increments, sub_zero, sub_mul]
  omega

theorem shares_le_iff (charges : List Int) (total : Int) :
    (charges.map (fun charge => (splitCost charge).provider)).sum ≤ (splitCost total).provider ↔
      (charges.map (fun charge =>
        roundingExcess 100 (charge * PROVIDER_SHARE))).sum ≤
        PROVIDER_SHARE * (total - charges.sum) + 50 := by
  rw [le_of_rounded (by omega) (by omega) (mul_provider total)]
  rw [mul_sum_map (· * PROVIDER_SHARE)
    (fun charge => (splitCost charge).provider)
    (fun charge => roundingExcess 100 (charge * PROVIDER_SHARE))
    mul_provider,
    sum_map_mul_right, mul_sub, mul_comm PROVIDER_SHARE total,
    mul_comm PROVIDER_SHARE charges.sum]
  omega

structure Books (before store : Store) (session : BillingSession)
    (billed : Int) (charges : List Int) : Prop where
  found : store.sessions.lookup session.id = some session
  through : previouslyBilledMinutes (store.ticksOf session.id) = billed
  charged : (store.ticksOf session.id).map BillingTick.renterChargeHalala = charges
  shared : (store.ticksOf session.id).map BillingTick.providerCreditHalala =
    charges.map (fun charge => (splitCost charge).provider)
  debits : bookedFor store .debit session.renterId session.jobId -
    bookedFor before .debit session.renterId session.jobId = charges.sum
  credits : bookedFor store .credit session.providerId session.jobId -
    bookedFor before .credit session.providerId session.jobId =
      (charges.map (fun charge => (splitCost charge).provider)).sum

theorem bookedFor_booked (store : Store) (type booked : TransactionType)
    (userId jobId other otherJob : Nat) (amountHalala : Int)
    (reason : String) (now : Int) :
    bookedFor (store.booked booked other amountHalala reason otherJob now) type userId jobId =
      bookedFor store type userId jobId +
        if booked = type ∧ other = userId ∧ otherJob = jobId then
          amountHalala
        else 0 := by
  unfold bookedFor Store.booked
  rw [filter_append, map_append, sum_append]
  by_cases here : booked = type ∧ other = userId ∧ otherJob = jobId
  · rw [if_pos here]
    obtain ⟨rfl, rfl, rfl⟩ := here
    simp
  · rw [if_neg here]
    simp [here]

variable {before store after : Store} {session : BillingSession}

theorem Books.tick {billed now : Int} {charges : List Int}
    {tick : BillingTick} (books : Books before store session billed charges)
    (recorded : recordBillingTick store session.id now = .ok (tick, after)) :
    Books before after session (minutesBetween session.startedAt now) (charges ++
      [costForMinutes (minutesBetween session.startedAt now - billed)
        session.ratePerHourHalala]) := by
  rw [recordBillingTick, bind_eq_ok_iff] at recorded
  obtain ⟨found, got, remaining⟩ := recorded
  have same := Store.getSession_eq_ok got
  rw [books.found] at same
  cases same
  rw [require_bind_eq_ok_iff] at remaining
  simp only [require_bind_eq_ok_iff] at remaining
  obtain ⟨_, _, remaining⟩ := remaining
  rw [bind_eq_ok_iff] at remaining
  obtain ⟨debited, debit, remaining⟩ := remaining
  rw [bind_eq_ok_iff] at remaining
  obtain ⟨credited, credit, remaining⟩ := remaining
  rw [bind_eq_ok_iff] at remaining
  obtain ⟨inserted, insert, result⟩ := remaining
  rw [mapError_eq_ok_iff] at insert
  injection result with result
  injection result with same kept
  subst same
  subst kept
  obtain ⟨_, rfl⟩ := Store.debit_eq_ok debit
  obtain ⟨_, rfl⟩ := Store.credit_eq_ok credit
  obtain ⟨_, rfl⟩ := Store.insertTick_eq_ok insert
  have row : (tickRow session (store.ticksOf session.id) now).renterChargeHalala =
      costForMinutes (minutesBetween session.startedAt now - billed)
        session.ratePerHourHalala := by
    rw [← books.through]
    rfl
  have share : (tickRow session (store.ticksOf session.id) now).providerCreditHalala =
      (splitCost (costForMinutes (minutesBetween session.startedAt now - billed)
        session.ratePerHourHalala)).provider := by
    rw [← row]
    rfl
  have own : (tickRow session (store.ticksOf session.id) now).sessionId =
      session.id :=
    rfl
  refine ⟨books.found, ?_, ?_, ?_, ?_, ?_⟩
  · unfold previouslyBilledMinutes
    rw [Store.ticksOf_ticked _ own, Store.ticksOf_booked,
      Store.ticksOf_booked, lastTick_append_of_next rfl]
    rfl
  · rw [Store.ticksOf_ticked _ own, Store.ticksOf_booked,
      Store.ticksOf_booked, map_append, map_singleton, row,
      books.charged]
  · rw [Store.ticksOf_ticked _ own, Store.ticksOf_booked,
      Store.ticksOf_booked, map_append, map_append,
      map_singleton, map_singleton, share, books.shared]
  · have debits := books.debits
    rw [sum_append, sum_singleton, ← row, ← debits]
    refine (congrArg (· - _) (bookedFor_booked _ .debit .credit
      session.renterId session.jobId session.providerId session.jobId _ _
      now)).trans ?_
    rw [bookedFor_booked]
    simp
    omega
  · have credits := books.credits
    rw [map_append, sum_append, map_singleton, sum_singleton, ← share, ← credits]
    refine (congrArg (· - _) (bookedFor_booked _ .credit .credit
      session.providerId session.jobId session.providerId session.jobId _ _
      now)).trans ?_
    rw [bookedFor_booked]
    simp
    omega

theorem Books.ticks (times : List Int) :
    ∀ {store after : Store} {billed : Int} {charges : List Int},
      Books before store session billed charges → recordTicks store session.id times = .ok after →
        Books before after session (billedThrough session billed times)
          (charges ++ tickCharges session billed times) := by
  induction times with
  | nil =>
    intro store after billed charges books recorded
    cases recorded
    simpa [billedThrough, tickCharges, increments] using books
  | cons now rest ih =>
    intro store after billed charges books recorded
    rw [recordTicks, bind_eq_ok_iff] at recorded
    obtain ⟨⟨tick, middle⟩, first, remaining⟩ := recorded
    have later := ih (books.tick first) remaining
    simpa [billedThrough, tickCharges, increments] using later

variable {amountHalala now : Int}

theorem bookedFor_settleRenter (settled : store.settleRenter session amountHalala now = .ok after) :
    bookedFor after .debit session.renterId session.jobId =
      bookedFor store .debit session.renterId session.jobId + max 0 amountHalala ∧
      bookedFor after .credit session.providerId session.jobId =
        bookedFor store .credit session.providerId session.jobId := by
  unfold Store.settleRenter at settled
  by_cases positive : 0 < amountHalala
  · rw [if_pos positive] at settled
    obtain ⟨_, rfl⟩ := Store.debit_eq_ok settled
    rw [bookedFor_booked, bookedFor_booked, max_eq_right positive.le]
    simp
  · rw [if_neg positive] at settled
    cases settled
    rw [max_eq_left (not_lt.mp positive)]
    simp

theorem bookedFor_settleProvider
    (settled : store.settleProvider session amountHalala now = .ok after) :
    bookedFor after .credit session.providerId session.jobId =
      bookedFor store .credit session.providerId session.jobId + max 0 amountHalala ∧
      bookedFor after .debit session.renterId session.jobId =
        bookedFor store .debit session.renterId session.jobId := by
  unfold Store.settleProvider at settled
  by_cases positive : 0 < amountHalala
  · rw [if_pos positive] at settled
    obtain ⟨_, rfl⟩ := Store.credit_eq_ok settled
    rw [bookedFor_booked, bookedFor_booked, max_eq_right positive.le]
    simp
  · rw [if_neg positive] at settled
    cases settled
    rw [max_eq_left (not_lt.mp positive)]
    simp

structure Closes (before after : Store) (session : BillingSession)
    (closedAt : Int) (receipt : BillingReceipt) : Prop where
  receipt : receipt = receiptRow session closedAt
  debits : bookedFor after .debit session.renterId session.jobId =
    bookedFor before .debit session.renterId session.jobId +
      max 0 (remainRenter (receiptRow session closedAt) (before.ticksOf session.id))
  credits : bookedFor after .credit session.providerId session.jobId =
    bookedFor before .credit session.providerId session.jobId +
      max 0 (remainProvider (receiptRow session closedAt) (before.ticksOf session.id))

variable {closedAt : Int} {receipt : BillingReceipt}

theorem closes_of_settle (settled : before.settle session closedAt = .ok (receipt, after)) :
    Closes before after session closedAt receipt := by
  rw [Store.settle, bind_eq_ok_iff] at settled
  obtain ⟨debited, debit, remaining⟩ := settled
  rw [bind_eq_ok_iff] at remaining
  obtain ⟨credited, credit, remaining⟩ := remaining
  rw [bind_eq_ok_iff] at remaining
  obtain ⟨released, release, remaining⟩ := remaining
  rw [bind_eq_ok_iff] at remaining
  obtain ⟨receipted, insert, result⟩ := remaining
  rw [mapError_eq_ok_iff] at insert
  injection result with result
  injection result with same kept
  subst same
  subst kept
  obtain ⟨_, rfl⟩ := Store.insertReceipt_eq_ok insert
  obtain ⟨debits, credits⟩ := bookedFor_settleRenter debit
  obtain ⟨finalCredits, finalDebits⟩ := bookedFor_settleProvider credit
  have kept (type : TransactionType) (userId : Nat) :
      bookedFor released type userId session.jobId =
        bookedFor credited type userId session.jobId := by
    rcases Store.releaseReservation_eq_ok release with rfl | rfl <;> rfl
  refine ⟨rfl, ?_, ?_⟩
  · exact (kept .debit session.renterId).trans (finalDebits.trans debits)
  · rw [credits] at finalCredits
    exact (kept .credit session.providerId).trans finalCredits

theorem closes_of_close (found : before.sessions.lookup session.id = some session)
    (active : session.status = .active)
    (closed : closeBillingSession before session.id closedAt = .ok (receipt, after)) :
    Closes before after session closedAt receipt := by
  rw [closeBillingSession, bind_eq_ok_iff] at closed
  obtain ⟨other, got, remaining⟩ := closed
  have same := Store.getSession_eq_ok got
  rw [found] at same
  cases same
  have unclosed : before.existingReceipt session = none := by
    rw [Store.existingReceipt, if_neg]
    rw [active]
    exact SessionStatus.noConfusion
  rw [unclosed] at remaining
  exact closes_of_settle remaining

/-- A session that has been billed by its ticks and its close adds up to
its receipt exactly when rounding has not taken the ticks above it. -/
theorem billing_telescopes_iff {before after : Store}
    {session : BillingSession} {times : List Int} {closedAt : Int}
    {receipt : BillingReceipt}
    (found : before.sessions.lookup session.id = some session)
    (active : session.status = .active) (unbilled : before.ticksOf session.id = [])
    (billed : billSession before session.id times closedAt = .ok (receipt, after)) :
    Telescopes before after session closedAt receipt ↔ RoundingCovered session times closedAt := by
  rw [billSession, bind_eq_ok_iff] at billed
  obtain ⟨ticked, ticks, close⟩ := billed
  have unopened : Books before before session 0 [] := by
    refine ⟨found, ?_, ?_, ?_, ?_, ?_⟩
    all_goals simp [unbilled, previouslyBilledMinutes, lastTick]
  have books := unopened.ticks times ticks
  rw [nil_append] at books
  have closes := closes_of_close books.found active close
  have debits := closes.debits
  have credits := closes.credits
  unfold remainRenter at debits
  unfold remainProvider at credits
  rw [books.charged] at debits
  rw [books.shared] at credits
  have charged := books.debits
  have shared := books.credits
  have total : (receiptRow session closedAt).renterChargedTotalHalala =
      costForMinutes (minutesBetween session.startedAt closedAt)
        session.ratePerHourHalala :=
    rfl
  have share : (receiptRow session closedAt).providerPayoutTotalHalala =
      (splitCost (costForMinutes (minutesBetween session.startedAt closedAt)
        session.ratePerHourHalala)).provider :=
    rfl
  have chargesFit := charges_le_iff session times closedAt
  have sharesFit := shares_le_iff (tickCharges session 0 times)
    (costForMinutes (minutesBetween session.startedAt closedAt) session.ratePerHourHalala)
  rw [closes.receipt]
  constructor
  · intro telescopes
    have paid := telescopes.debits
    have earned := telescopes.credits
    refine ⟨chargesFit.mp ?_, sharesFit.mp ?_⟩
    · rw [total] at paid debits
      omega
    · rw [share] at earned credits
      omega
  · intro covered
    have chargesWithin := chargesFit.mpr covered.charges
    have sharesWithin := sharesFit.mpr covered.shares
    refine ⟨?_, total, ?_, ?_⟩
    · rw [total] at debits ⊢
      omega
    · rw [share] at credits ⊢
      omega
    · exact splitCost_sum _

def sampleDeposit : Transaction :=
  { userId := 1
    type := .credit
    amountHalala := 5000
    reason := "deposit"
    jobId := 0
    createdAt := 0 }

def sampleStore : Store :=
  { transactions := [sampleDeposit]
    reservations := Serial.empty
    sessions := Serial.empty
    ticks := []
    receipts := Table.empty
    payouts := Table.empty }

def startAndBill (ratePerHourSar : ℚ) (times : List Int) (closedAt : Int) :
    Except BillingError ((BillingSession × Store) × BillingReceipt × Store) := do
  let started ← startBillingSession sampleStore 7 1 2 ratePerHourSar 0
  let billed ← billSession started.2 started.1.id times closedAt
  pure (started, billed)

theorem exists_of_startAndBill {ratePerHourSar : ℚ} {times : List Int} {closedAt : Int}
    {check : (BillingSession × Store) × BillingReceipt × Store → Prop}
    [DecidablePred check]
    (passes : (startAndBill ratePerHourSar times closedAt).toOption.any
      (fun result => check result) = true) :
    ∃ session opened receipt closed,
      startBillingSession sampleStore 7 1 2 ratePerHourSar 0 = .ok (session, opened) ∧
        billSession opened session.id times closedAt = .ok (receipt, closed) ∧
        check ((session, opened), receipt, closed) := by
  cases result : startAndBill ratePerHourSar times closedAt with
  | error failure =>
    rw [result] at passes
    cases passes
  | ok value =>
    rw [result] at passes
    rw [startAndBill, bind_eq_ok_iff] at result
    obtain ⟨⟨session, opened⟩, started, remaining⟩ := result
    rw [bind_eq_ok_iff] at remaining
    obtain ⟨⟨receipt, closed⟩, billed, ⟨⟩⟩ := remaining
    exact ⟨session, opened, receipt, closed, started, billed, of_decide_eq_true passes⟩

theorem billing_telescopes_sample :
    ∃ session opened receipt closed,
      startBillingSession sampleStore 7 1 2 (3 / 5) 0 = .ok (session, opened) ∧
        billSession opened session.id [5400000] 7200000 = .ok (receipt, closed) ∧
        receipt.renterChargedTotalHalala = 120 ∧
        Telescopes opened closed session 7200000 receipt := by
  obtain ⟨session, opened, receipt, closed, started, billed, found, active,
    unbilled, covered, total⟩ : ∃ session opened receipt closed,
      startBillingSession sampleStore 7 1 2 (3 / 5) 0 = .ok (session, opened) ∧
        billSession opened session.id [5400000] 7200000 = .ok (receipt, closed) ∧
        opened.sessions.lookup session.id = some session ∧
        session.status = .active ∧ opened.ticksOf session.id = [] ∧
        RoundingCovered session [5400000] 7200000 ∧
        receipt.renterChargedTotalHalala = 120 :=
    @exists_of_startAndBill _ _ _ (fun ((session, opened), receipt, _) =>
        opened.sessions.lookup session.id = some session ∧
          session.status = .active ∧ opened.ticksOf session.id = [] ∧
          RoundingCovered session [5400000] 7200000 ∧ receipt.renterChargedTotalHalala = 120)
      _ (by decide +kernel)
  exact ⟨session, opened, receipt, closed, started, billed, total,
    (billing_telescopes_iff found active unbilled billed).mpr covered⟩

/-- At thirty halala an hour a minute costs half a halala. Two ticks of a
minute each take one halala, and the receipt is for one. -/
theorem ticks_round_up :
    ∃ session opened receipt closed,
      startBillingSession sampleStore 7 1 2 (3 / 10) 0 = .ok (session, opened) ∧
        billSession opened session.id [60000, 120000] 120000 = .ok (receipt, closed) ∧
        ¬ Telescopes opened closed session 120000 receipt := by
  obtain ⟨session, opened, receipt, closed, started, billed, booked, total⟩ :
      ∃ session opened receipt closed, startBillingSession sampleStore 7 1 2 (3 / 10) 0 =
        .ok (session, opened) ∧
          billSession opened session.id [60000, 120000] 120000 = .ok (receipt, closed) ∧
          bookedFor closed .debit session.renterId session.jobId -
            bookedFor opened .debit session.renterId session.jobId = 2 ∧
            receipt.renterChargedTotalHalala = 1 :=
    @exists_of_startAndBill _ _ _ (fun ((session, opened), receipt, closed) =>
        bookedFor closed .debit session.renterId session.jobId -
          bookedFor opened .debit session.renterId session.jobId = 2 ∧
          receipt.renterChargedTotalHalala = 1)
      _ (by decide +kernel)
  refine ⟨session, opened, receipt, closed, started, billed, ?_⟩
  intro telescopes
  have same := telescopes.debits
  rw [booked, total] at same
  omega

end DcpPlatform.Sessions
