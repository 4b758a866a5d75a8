import DcpPlatform.Topups.Effects

/-!
# The monthly cap of automatic top-ups

The counter of a renter is compared with the cap before a charge and raised
when the charge succeeds, so an open charge is in no counter. `KeepsBudget`
counts the open charges as well and asks for the month of the counter.
-/

namespace DcpPlatform.Topups

open Foundation Table List Option

/-- The day of the month, counted from 1, of a day counted from the epoch,
in the Gregorian calendar. -/
def dayOfMonth (day : Int) : Int :=
  let dayOfEra := (day + 719468) % 146097
  let yearOfEra := (dayOfEra - dayOfEra / 1460 + dayOfEra / 36524 - dayOfEra / 146096) / 365
  let dayOfYear := dayOfEra - (365 * yearOfEra + yearOfEra / 4 - yearOfEra / 100)
  let monthFromMarch := (5 * dayOfYear + 2) / 153
  dayOfYear - (153 * monthFromMarch + 2) / 5 + 1

def startOfCurrentMonthIso (now : Int) : Int :=
  let day := now / 86400000
  (day - (dayOfMonth day - 1)) * 86400000

-- noon on 29 February 2024, and the last millisecond of 1999
example : startOfCurrentMonthIso 1709208000000 = 1706745600000 := by decide

example : startOfCurrentMonthIso 946684799999 = 944006400000 := by decide

namespace Attempt

def PaidIn (month : Int) (attempt : Attempt) : Prop :=
  attempt.status = .paid ∧ attempt.completedAt.map startOfCurrentMonthIso = some month
deriving Decidable

def AwaitedIn (month : Int) (attempt : Attempt) : Prop :=
  attempt.status = .initiated ∧ startOfCurrentMonthIso attempt.createdAt = month
deriving Decidable

def weight (renterId : Nat) (condition : Attempt → Prop)
    [DecidablePred condition] (attempt : Attempt) : Int :=
  if attempt.renterId = renterId ∧ condition attempt then
    attempt.amountHalala
  else
    0

section Weight

variable {renterId : Nat} {condition : Attempt → Prop} [DecidablePred condition] {attempt : Attempt}

theorem weight_of_met (own : attempt.renterId = renterId) (met : condition attempt) :
    attempt.weight renterId condition = attempt.amountHalala :=
  if_pos ⟨own, met⟩

theorem weight_of_unmet (unmet : ¬ condition attempt) :
    attempt.weight renterId condition = 0 :=
  if_neg (unmet ·.2)

theorem weight_of_foreign (foreign : attempt.renterId ≠ renterId) :
    attempt.weight renterId condition = 0 :=
  if_neg (foreign ·.1)

theorem weight_nonneg (positive : 0 < attempt.amountHalala) :
    0 ≤ attempt.weight renterId condition := by
  unfold weight
  split
  · omega
  · exact le_refl 0

end Weight

end Attempt

namespace Database

def spentIn (db : Database) (renterId : Nat) (month : Int) : Int :=
  db.attempts.total (Attempt.weight renterId (Attempt.PaidIn month))

def openAmount (db : Database) (renterId : Nat) : Int :=
  db.attempts.total (Attempt.weight renterId IsOpenAttempt)

def awaitedIn (db : Database) (renterId : Nat) (month : Int) : Int :=
  db.attempts.total (Attempt.weight renterId (Attempt.AwaitedIn month))

end Database

structure Meter where
  capHalala : Int
  usedHalala : Int
  resetAt : Option Int

def Renter.meter (renter : Renter) : Meter :=
  ⟨renter.monthlyCapHalala, renter.monthlyUsedHalala, renter.monthlyResetAt⟩

namespace Meter

def roll (month : Int) (meter : Meter) : Meter :=
  if ∀ resetAt ∈ meter.resetAt, resetAt < month then
    { meter with usedHalala := 0, resetAt := some month }
  else
    meter

def recharge (amountHalala : Int) (meter : Meter) : Meter :=
  { meter with usedHalala := meter.usedHalala + amountHalala }

end Meter

theorem Renter.rollMonth_meter (clock : Clock) (renter : Renter) :
    (renter.rollMonth clock).meter = renter.meter.roll clock.monthStart := by
  unfold Renter.rollMonth Meter.roll
  by_cases due : renter.ShouldResetMonthly clock
  · have dueMeter : ∀ resetAt ∈ renter.meter.resetAt, resetAt < clock.monthStart := due
    rw [if_pos due, if_pos dueMeter]
    rfl
  · have currentMeter : ¬ ∀ resetAt ∈ renter.meter.resetAt, resetAt < clock.monthStart := due
    rw [if_neg due, if_neg currentMeter]

def meterOf (db : Database) (renterId : Nat) : Option Meter :=
  (db.renters.lookup renterId).map Renter.meter

def Remetered (before after : Database) (renterId : Nat) (change : Meter → Meter) : Prop :=
  ∀ other, meterOf after other =
    if other = renterId then (meterOf before other).map change
    else meterOf before other

theorem remetered_of_update {db : Database} {renterId : Nat}
    {change : Renter → Renter} {metered : Meter → Meter}
    (keeps : ∀ row, (change row).id = row.id)
    (meters : ∀ row, (change row).meter = metered row.meter) :
    Remetered db (db.updateRenter renterId change keeps) renterId
      metered := by
  intro other
  unfold meterOf Database.updateRenter
  rw [lookup_update]
  by_cases here : other = renterId
  · rw [if_pos here, if_pos here, Option.map_map, Option.map_map]
    apply congrArg (Option.map · _)
    exact funext meters
  · rw [if_neg here, if_neg here]

structure Unspent (before after : Database) : Prop where
  attempts : after.attempts = before.attempts
  meters : ∀ renterId, meterOf after renterId = meterOf before renterId

namespace Unspent

variable (db : Database)

theorem refl : Unspent db db :=
  ⟨rfl, fun _ => rfl⟩

theorem trans {first second third : Database}
    (earlier : Unspent first second) (later : Unspent second third) :
    Unspent first third :=
  ⟨later.attempts.trans earlier.attempts, fun renterId =>
    (later.meters renterId).trans (earlier.meters renterId)⟩

theorem of_renters {before after : Database} (attempts : after.attempts = before.attempts)
    (renters : after.renters = before.renters) :
    Unspent before after := by
  refine ⟨attempts, ?_⟩
  intro renterId
  unfold meterOf
  rw [renters]

theorem of_updateRenter (renterId : Nat) {change : Renter → Renter}
    (keeps : ∀ row, (change row).id = row.id)
    (same : ∀ row, (change row).meter = row.meter) :
    Unspent db (db.updateRenter renterId change keeps) := by
  refine ⟨rfl, ?_⟩
  intro other
  have moved := @remetered_of_update db renterId _ id keeps same other
  rw [moved, Option.map_id, id, ite_self]

theorem of_credit (credit : Credit) :
    Unspent db (db.credit credit) :=
  (of_updateRenter db credit.renterId
    (Renter.addBalance_id credit.amountHalala) (fun _ => rfl)).trans (of_renters rfl rfl)

theorem of_withdraw (renterId : Nat)
    (taken : Int → Int) : Unspent db (db.withdraw renterId taken) := by
  unfold Database.withdraw
  split
  · exact refl db
  · exact (of_updateRenter db renterId (Renter.addBalance_id _)
      (fun _ => rfl)).trans (of_renters rfl rfl)

theorem of_insertOrIgnore (payment : Payment) (moyasarId : Nat) :
    Unspent db (db.insertOrIgnore payment moyasarId) := by
  unfold Database.insertOrIgnore
  split
  · exact of_renters rfl rfl
  · exact refl db

theorem of_markPaymentPaidOnce (credit : Credit)
    (now : Int) : Unspent db (markPaymentPaidOnce db credit now).1 := by
  unfold markPaymentPaidOnce
  split
  · refine trans ?_ (of_credit _ credit)
    exact of_renters rfl rfl
  · exact refl db

theorem of_markPaymentRefundedOnce
    (paymentId : PaymentKey) (renterId : Nat) (refundAmountHalala now : Int) :
    Unspent db (markPaymentRefundedOnce db paymentId renterId refundAmountHalala now).1 := by
  unfold markPaymentRefundedOnce
  split
  · refine trans ?_ (of_withdraw _ renterId _)
    exact of_renters rfl rfl
  · exact refl db

theorem of_bindPayment (payment : Payment) (moyasarId : Nat) :
    Unspent db (bindPayment db payment moyasarId) := by
  unfold bindPayment
  split
  · exact refl db
  · exact of_renters rfl rfl

theorem of_resumeVerify (gateway : Gateway) (payment : Payment) (now : Int) :
    Unspent db (resumeVerify db gateway payment now) := by
  unfold resumeVerify
  split
  · exact refl db
  · split
    · exact of_markPaymentPaidOnce db _ now
    · exact refl db

theorem of_resumeSweep (gateway : Gateway) (row : SweptRow) (now : Int) :
    Unspent db (resumeSweep db gateway row now) := by
  unfold resumeSweep
  split
  · exact refl db
  · split
    · exact of_markPaymentPaidOnce db _ now
    · exact of_renters rfl rfl
    · exact refl db
    · exact refl db

end Unspent

def Positive (db : Database) : Prop :=
  ∀ id attempt, db.attempts.lookup id = some attempt → 0 < attempt.amountHalala

variable {db : Database} {attempt : Attempt}

theorem Positive.weight (positive : Positive db)
    (renterId : Nat) (condition : Attempt → Prop) [DecidablePred condition]
    (member : attempt ∈ db.attempts.rows) :
    0 ≤ attempt.weight renterId condition :=
  Attempt.weight_nonneg (positive _ _ (lookup_of_mem member))

theorem Positive.openAmount (positive : Positive db)
    (renterId : Nat) : 0 ≤ db.openAmount renterId :=
  total_nonneg (fun _ member => positive.weight _ _ member)

theorem Positive.awaitedIn (positive : Positive db)
    (renterId : Nat) (month : Int) : 0 ≤ db.awaitedIn renterId month :=
  total_nonneg (fun _ member => positive.weight _ _ member)

theorem Positive.awaitedIn_le (positive : Positive db) (renterId : Nat) (month : Int) :
    db.awaitedIn renterId month ≤ db.openAmount renterId := by
  apply sum_le_sum
  intro attempt member
  by_cases own : attempt.renterId = renterId
  · by_cases awaited : attempt.AwaitedIn month
    · have open_ : IsOpenAttempt attempt := Or.inr awaited.1
      rw [Attempt.weight_of_met own awaited, Attempt.weight_of_met own open_]
    · rw [Attempt.weight_of_unmet awaited]
      exact positive.weight _ _ member
  · rw [Attempt.weight_of_foreign own, Attempt.weight_of_foreign own]

/-- The counter covers its month, and the open charges still fit. -/
structure Budget (db : Database) (renterId : Nat) (meter : Meter) :
    Prop where
  unused : 0 ≤ meter.usedHalala
  counted : ∀ month, meter.resetAt = some month → db.spentIn renterId month ≤ meter.usedHalala
  reserved : meter.usedHalala + db.openAmount renterId ≤ meter.capHalala
  months : ∀ month, db.spentIn renterId month + db.awaitedIn renterId month ≤ meter.capHalala
  past : ∀ id attempt, db.attempts.lookup id = some attempt → attempt.renterId = renterId →
    ∀ month, attempt.PaidIn month ∨ attempt.AwaitedIn month →
      ∃ resetAt, meter.resetAt = some resetAt ∧ month ≤ resetAt

namespace Budget

variable {before after : Database} {renterId : Nat} {meter : Meter}

variable (budget : Budget before renterId meter)

include budget

theorem of_attempts (same : after.attempts = before.attempts) :
    Budget after renterId meter := by
  constructor
  · exact budget.unused
  · simp only [Database.spentIn, same]
    exact budget.counted
  · simp only [Database.openAmount, same]
    exact budget.reserved
  · simp only [Database.spentIn, Database.awaitedIn, same]
    exact budget.months
  · rw [same]
    exact budget.past

theorem spentIn_future {month : Int} (later : ∀ resetAt ∈ meter.resetAt, resetAt < month) :
    before.spentIn renterId month = 0 := by
  apply sum_eq_zero
  intro amount member
  obtain ⟨attempt, rowMember, rfl⟩ := mem_map.mp member
  by_cases own : attempt.renterId = renterId
  · apply Attempt.weight_of_unmet
    intro paid
    obtain ⟨resetAt, current, bound⟩ :=
      budget.past _ _ (lookup_of_mem rowMember) own month (Or.inl paid)
    have earlier := later resetAt current
    omega
  · exact Attempt.weight_of_foreign own

theorem roll (positive : Positive before) (month : Int) :
    Budget before renterId (meter.roll month) := by
  unfold Meter.roll
  split
  · rename_i later
    have empty := budget.spentIn_future later
    have open_ := positive.openAmount renterId
    have reserved := budget.reserved
    have unused := budget.unused
    constructor
    · exact le_refl 0
    · intro current same
      cases same
      exact empty.le
    · dsimp only
      omega
    · exact budget.months
    · intro id attempt found own other spent
      obtain ⟨resetAt, current, bound⟩ := budget.past id attempt found own other spent
      have earlier := later resetAt current
      exact ⟨month, rfl, by omega⟩
  · exact budget

theorem insert (positive : Positive before) {row : Attempt}
    (fresh : before.attempts.lookup row.id = none)
    (inserted : after.attempts = before.attempts.insert row fresh)
    (fits : meter.usedHalala + before.openAmount renterId + row.weight renterId IsOpenAttempt ≤
      meter.capHalala)
    (unpaid : row.status ≠ .paid)
    (current : row.renterId = renterId → row.status = .initiated →
      meter.resetAt = some (startOfCurrentMonthIso row.createdAt)) :
    Budget after renterId meter := by
  have notPaid (month : Int) : ¬ row.PaidIn month := fun paid => unpaid paid.1
  have spent (month : Int) :
      after.spentIn renterId month = before.spentIn renterId month := by
    unfold Database.spentIn
    rw [inserted, total_insert, Attempt.weight_of_unmet (notPaid month), add_zero]
  have opened : after.openAmount renterId =
      before.openAmount renterId + row.weight renterId IsOpenAttempt := by
    unfold Database.openAmount
    rw [inserted, total_insert]
  have awaited (month : Int) :
      after.awaitedIn renterId month =
        before.awaitedIn renterId month + row.weight renterId (Attempt.AwaitedIn month) := by
    unfold Database.awaitedIn
    rw [inserted, total_insert]
  constructor
  · exact budget.unused
  · intro month same
    rw [spent]
    exact budget.counted month same
  · rw [opened]
    omega
  · intro month
    have bound := budget.months month
    rw [spent, awaited]
    by_cases own : row.renterId = renterId
    · by_cases waits : row.AwaitedIn month
      · have open_ : IsOpenAttempt row := Or.inr waits.1
        have inMonth := current own waits.1
        rw [waits.2] at inMonth
        have counted := budget.counted month inMonth
        have smaller := positive.awaitedIn_le renterId month
        rw [Attempt.weight_of_met own open_] at fits
        rw [Attempt.weight_of_met own waits]
        omega
      · rw [Attempt.weight_of_unmet waits]
        omega
    · rw [Attempt.weight_of_foreign own]
      omega
  · intro id attempt found own month spentOrAwaited
    rw [inserted, lookup_insert] at found
    split at found
    · cases found
      rcases spentOrAwaited with paid | waits
      · exact absurd paid (notPaid month)
      · have inMonth := current own waits.1
        rw [waits.2] at inMonth
        exact ⟨month, inMonth, le_refl month⟩
    · exact budget.past id attempt found own month spentOrAwaited

end Budget

structure RewritesAttempt (before after : Database) (attempt changed : Attempt) : Prop where
  found : before.attempts.lookup attempt.id = some attempt
  totals : ∀ weight : Attempt → Int,
    after.attempts.total weight = before.attempts.total weight - weight attempt + weight changed
  cases : ∀ id row, after.attempts.lookup id = some row →
      (id = attempt.id ∧ row = changed) ∨ (id ≠ attempt.id ∧ before.attempts.lookup id = some row)
  stored : after.attempts.lookup attempt.id = some changed
  others : ∀ id, id ≠ attempt.id → after.attempts.lookup id = before.attempts.lookup id
  renter : changed.renterId = attempt.renterId
  amount : changed.amountHalala = attempt.amountHalala

theorem RewritesAttempt.of_update {before after : Database}
    {attempt : Attempt} {change : Attempt → Attempt}
    (keeps : ∀ row, (change row).id = row.id)
    (found : before.attempts.lookup attempt.id = some attempt)
    (updated : after.attempts = before.attempts.update attempt.id change keeps)
    (renter : (change attempt).renterId = attempt.renterId)
    (amount : (change attempt).amountHalala = attempt.amountHalala) :
    RewritesAttempt before after attempt (change attempt) where
  found := found
  totals := by
    intro weight
    rw [updated]
    exact total_update change keeps weight found
  cases := by
    intro id row rowFound
    rw [updated] at rowFound
    rcases lookup_of_lookup_update keeps rowFound with
      ⟨rfl, earlier, stored, changed⟩ | ⟨different, stored⟩
    · rw [found] at stored
      cases stored
      exact Or.inl ⟨rfl, changed⟩
    · exact Or.inr ⟨different, stored⟩
  stored := by
    rw [updated]
    exact lookup_update_of_some _ change keeps found
  others := by
    intro id different
    rw [updated]
    exact lookup_update_of_ne _ keeps different
  renter := renter
  amount := amount

variable {changed : Attempt}

theorem RewritesAttempt.positive {before after : Database}
    (rewrites : RewritesAttempt before after attempt changed)
    (positive : Positive before) : Positive after := by
  intro id row found
  rcases rewrites.cases id row found with ⟨_, same⟩ | ⟨_, stored⟩
  · rw [same, rewrites.amount]
    exact positive _ _ rewrites.found
  · exact positive id row stored

namespace Budget

variable {before after : Database} {renterId : Nat} {meter : Meter} {attempt changed : Attempt}

theorem foreign (budget : Budget before renterId meter)
    (rewrites : RewritesAttempt before after attempt changed)
    (other : attempt.renterId ≠ renterId) :
    Budget after renterId meter := by
  have changedOther : changed.renterId ≠ renterId := by
    rw [rewrites.renter]
    exact other
  have same (condition : Attempt → Prop) [DecidablePred condition] :
      after.attempts.total (Attempt.weight renterId condition) =
        before.attempts.total (Attempt.weight renterId condition) := by
    rw [rewrites.totals, Attempt.weight_of_foreign other,
      Attempt.weight_of_foreign changedOther, sub_zero, add_zero]
  constructor
  · exact budget.unused
  · simp only [Database.spentIn, same]
    exact budget.counted
  · simp only [Database.openAmount, same]
    exact budget.reserved
  · simp only [Database.spentIn, Database.awaitedIn, same]
    exact budget.months
  · intro id row found own month spent
    rcases rewrites.cases id row found with ⟨_, same⟩ | ⟨_, stored⟩
    · rw [same] at own
      exact absurd own changedOther
    · exact budget.past id row stored own month spent

theorem unpaid (budget : Budget before renterId meter) (positive : Positive before)
    (rewrites : RewritesAttempt before after attempt changed)
    (opened : IsOpenAttempt attempt)
    (closes : changed.status = .threeDsRequired ∨ changed.status = .failed) :
    Budget after renterId meter := by
  have notPaid (month : Int) : ¬ attempt.PaidIn month := by
    intro paid
    have status := paid.1
    rcases opened with same | same
    · rw [same] at status
      cases status
    · rw [same] at status
      cases status
  have notPaidLater (month : Int) : ¬ changed.PaidIn month := by
    intro paid
    have status := paid.1
    rcases closes with same | same
    · rw [same] at status
      cases status
    · rw [same] at status
      cases status
  have notAwaited (month : Int) : ¬ changed.AwaitedIn month := by
    intro awaited
    have status := awaited.1
    rcases closes with same | same
    · rw [same] at status
      cases status
    · rw [same] at status
      cases status
  have member := lookup_mem rewrites.found
  have shrinks : changed.weight renterId IsOpenAttempt ≤ attempt.weight renterId IsOpenAttempt := by
    by_cases own : attempt.renterId = renterId
    · rw [Attempt.weight_of_met own opened]
      rw [Attempt.weight, rewrites.amount]
      split
      · exact le_refl _
      · exact (positive _ _ rewrites.found).le
    · rw [Attempt.weight_of_foreign own, Attempt.weight_of_foreign (rewrites.renter ▸ own)]
  have spent (month : Int) :
      after.spentIn renterId month = before.spentIn renterId month := by
    unfold Database.spentIn
    rw [rewrites.totals, Attempt.weight_of_unmet (notPaid month),
      Attempt.weight_of_unmet (notPaidLater month), sub_zero, add_zero]
  have awaited (month : Int) :
      after.awaitedIn renterId month ≤ before.awaitedIn renterId month := by
    have weight := positive.weight renterId (Attempt.AwaitedIn month) member
    unfold Database.awaitedIn
    rw [rewrites.totals, Attempt.weight_of_unmet (notAwaited month)]
    omega
  have open_ : after.openAmount renterId ≤ before.openAmount renterId := by
    unfold Database.openAmount
    rw [rewrites.totals]
    omega
  constructor
  · exact budget.unused
  · intro month same
    rw [spent]
    exact budget.counted month same
  · have reserved := budget.reserved
    omega
  · intro month
    have bound := budget.months month
    have less := awaited month
    rw [spent]
    omega
  · intro id row found own month spentOrAwaited
    rcases rewrites.cases id row found with ⟨_, rfl⟩ | ⟨_, stored⟩
    · rcases spentOrAwaited with paid | waits
      · exact absurd paid (notPaidLater month)
      · exact absurd waits (notAwaited month)
    · exact budget.past id row stored own month spentOrAwaited

theorem paid (budget : Budget before renterId meter) (positive : Positive before)
    (rewrites : RewritesAttempt before after attempt changed)
    (own : attempt.renterId = renterId) (opened : IsOpenAttempt attempt)
    {month : Int} (succeeds : changed.PaidIn month)
    (booked : attempt.AwaitedIn month ∨ meter.resetAt = some month) :
    Budget after renterId (meter.recharge attempt.amountHalala) := by
  have ownLater : changed.renterId = renterId := by
    rw [rewrites.renter]
    exact own
  have amount := positive _ _ rewrites.found
  have member := lookup_mem rewrites.found
  have notOpen : ¬ IsOpenAttempt changed := by
    intro stillOpen
    have status := succeeds.1
    rcases stillOpen with same | same
    · rw [same] at status
      cases status
    · rw [same] at status
      cases status
  have notPaid (other : Int) : ¬ attempt.PaidIn other := by
    intro paid
    have status := paid.1
    rcases opened with same | same
    · rw [same] at status
      cases status
    · rw [same] at status
      cases status
  have notAwaited (other : Int) : ¬ changed.AwaitedIn other :=
    fun awaited => notOpen (Or.inr awaited.1)
  have inMonth {other : Int} (paid : changed.PaidIn other) :
      month = other :=
    some.inj (succeeds.2.symm.trans paid.2)
  have open_ : after.openAmount renterId = before.openAmount renterId - attempt.amountHalala := by
    unfold Database.openAmount
    rw [rewrites.totals, Attempt.weight_of_met own opened,
      Attempt.weight_of_unmet notOpen, add_zero]
  have awaited (other : Int) :
      after.awaitedIn renterId other =
        before.awaitedIn renterId other - attempt.weight renterId (Attempt.AwaitedIn other) := by
    unfold Database.awaitedIn
    rw [rewrites.totals, Attempt.weight_of_unmet (notAwaited other), add_zero]
  have spentHere :
      after.spentIn renterId month = before.spentIn renterId month + attempt.amountHalala := by
    unfold Database.spentIn
    rw [rewrites.totals, Attempt.weight_of_unmet (notPaid month),
      Attempt.weight_of_met ownLater succeeds, rewrites.amount, sub_zero]
  have spentThere (other : Int) (different : month ≠ other) :
      after.spentIn renterId other = before.spentIn renterId other := by
    unfold Database.spentIn
    rw [rewrites.totals, Attempt.weight_of_unmet (notPaid other),
      Attempt.weight_of_unmet (fun paid => different (inMonth paid)),
      sub_zero, add_zero]
  have unused := budget.unused
  have reserved := budget.reserved
  constructor
  · simp only [Meter.recharge]
    omega
  · intro other same
    have counted := budget.counted other same
    simp only [Meter.recharge]
    by_cases here : month = other
    · subst here
      omega
    · rw [spentThere other here]
      omega
  · simp only [Meter.recharge]
    omega
  · intro other
    have bound := budget.months other
    have weight := positive.weight renterId (Attempt.AwaitedIn other) member
    simp only [Meter.recharge]
    rw [awaited]
    by_cases here : month = other
    · subst here
      rcases booked with waits | current
      · rw [Attempt.weight_of_met own waits]
        omega
      · have counted := budget.counted month current
        have smaller := (rewrites.positive positive).awaitedIn_le renterId month
        rw [awaited] at smaller
        omega
    · rw [spentThere other here]
      omega
  · intro id row found rowOwn other spentOrAwaited
    rcases rewrites.cases id row found with ⟨_, rfl⟩ | ⟨_, stored⟩
    · rcases spentOrAwaited with paid | waits
      · have here := inMonth paid
        subst here
        rcases booked with waits | current
        · exact budget.past _ _ rewrites.found own month (Or.inr waits)
        · exact ⟨month, current, le_refl month⟩
      · exact absurd waits (notAwaited other)
    · exact budget.past id row stored rowOwn other spentOrAwaited

end Budget

def Renter.Chargeable (clock : Clock) (renter : Renter) : Prop :=
  renter.autoTopupEnabled = true ∧ renter.cardToken.getD "" ≠ "" ∧ 0 < renter.topupAmountHalala ∧
    renter.balanceHalala < renter.thresholdHalala ∧
    ¬ renter.IsPaused clock.now ∧
    ¬ (renter.rollMonth clock).CapReached ∧
    ¬ renter.SoftLocked clock.now
deriving Decidable

inductive TriggerResult (db : Database) (renterId : Nat) (clock : Clock)
    (attemptId : Nat) : Database × Except TriggerRefusal Int → Prop
  | refused {refusal : TriggerRefusal} :
      TriggerResult db renterId clock attemptId (db, .error refusal)
  | rolled {after : Database} {refusal : TriggerRefusal} :
      after.attempts = db.attempts →
      Remetered db after renterId (Meter.roll clock.monthStart) →
      TriggerResult db renterId clock attemptId (after, .error refusal)
  | capped {after : Database} {refusal : TriggerRefusal} {row : Attempt}
      (fresh : db.attempts.lookup row.id = none) :
      after.attempts = db.attempts.insert row fresh →
      row.renterId = renterId → row.status = .capped →
      0 < row.amountHalala →
      Remetered db after renterId (Meter.roll clock.monthStart) →
      TriggerResult db renterId clock attemptId (after, .error refusal)
  | started {after : Database} {renter : Renter} {row : Attempt}
      (fresh : db.attempts.lookup row.id = none) :
      db.renters.lookup renterId = some renter →
      renter.Chargeable clock →
      after.attempts = db.attempts.insert row fresh →
      row.id = attemptId → row.renterId = renterId →
      row.amountHalala = renter.topupAmountHalala →
      row.status = .initiated → row.moyasarPaymentId = none →
      row.createdAt = clock.now →
      Remetered db after renterId (Meter.roll clock.monthStart) →
      TriggerResult db renterId clock attemptId (after, .ok renter.topupAmountHalala)

variable {renterId : Nat}

theorem Remetered.trans {first second third : Database} {change : Meter → Meter}
    (earlier : Remetered first second renterId change)
    (same : ∀ other, meterOf third other = meterOf second other) :
    Remetered first third renterId change := by
  intro other
  rw [same, earlier other]

variable {attemptId chargeId : Nat}

theorem startTrigger_result
    (fresh : db.attempts.lookup attemptId = none) (renterId : Nat) (clock : Clock) :
    TriggerResult db renterId clock attemptId (startTrigger db renterId clock attemptId) := by
  have rolled : Remetered db
      (db.updateRenter renterId (Renter.rollMonth clock) (Renter.rollMonth_id clock)) renterId
      (Meter.roll clock.monthStart) :=
    remetered_of_update _ (Renter.rollMonth_meter clock)
  unfold startTrigger
  split
  · exact TriggerResult.refused
  · rename_i renter found
    split
    · exact TriggerResult.refused
    · rename_i enabled
      split
      · exact TriggerResult.refused
      · rename_i card
        split
        · exact TriggerResult.refused
        · rename_i amount
          split
          · exact TriggerResult.refused
          · rename_i below
            split
            · exact TriggerResult.refused
            · rename_i unpaused
              split
              · refine TriggerResult.capped fresh (insertIfNew_of_fresh fresh) rfl rfl ?_
                  (rolled.trans (fun _ => rfl))
                dsimp only
                omega
              · rename_i uncapped
                split
                · exact TriggerResult.rolled rfl rolled
                · rename_i unlocked
                  have stamped := Unspent.of_updateRenter
                      (db.updateRenter renterId (Renter.rollMonth clock)
                        (Renter.rollMonth_id clock)) renterId
                      (Renter.setLastAttemptAt_id clock.now)
                      (fun _ => rfl)
                  have chargeable : renter.Chargeable clock := ⟨Bool.not_eq_false _ ▸ enabled, card,
                      Int.lt_of_not_ge amount, Int.lt_of_not_ge below,
                      unpaused, uncapped, unlocked⟩
                  exact TriggerResult.started fresh found chargeable
                    (insertIfNew_of_fresh fresh) rfl rfl rfl rfl
                    rfl rfl (rolled.trans stamped.meters)

theorem openAttempt_eq_some {moyasarPaymentId : Option Nat}
    (found : openAttempt db moyasarPaymentId = some attempt) :
    db.attempts.lookup attempt.id = some attempt ∧
      IsOpenAttempt attempt ∧ attempt.moyasarPaymentId ≠ none := by
  obtain ⟨chargeId, _, first⟩ := bind_eq_some_iff.mp found
  have member := mem_of_find?_eq_some first
  have checked := find?_some first
  have met := of_decide_eq_true checked
  refine ⟨lookup_of_mem member, met.2, ?_⟩
  rw [met.1]
  nofun

structure Confirms (db : Database) (event : WebhookEvent)
    (attempt : Attempt) (renter : Renter) : Prop where
  paid : event.status = .paid
  located : ∃ payment, findPayment db event = some payment ∧ payment.status.settled = false ∧
    openAttempt db payment.moyasarId = some attempt
  renter : db.renters.lookup attempt.renterId = some renter

inductive EventSpending (db : Database) (event : WebhookEvent) (now : Int) (after : Database) : Prop
  | unspent : Unspent db after → EventSpending db event now after
  | confirmed {attempt changed : Attempt} {renter : Renter} :
      Confirms db event attempt renter →
      RewritesAttempt db after attempt changed →
      IsOpenAttempt attempt → attempt.moyasarPaymentId ≠ none →
      changed.status = .paid → changed.completedAt = some now →
      Remetered db after attempt.renterId (Meter.recharge attempt.amountHalala) →
      EventSpending db event now after
  | declined {attempt changed : Attempt} :
      RewritesAttempt db after attempt changed →
      IsOpenAttempt attempt → attempt.moyasarPaymentId ≠ none →
      changed.status = .failed →
      (∀ renterId, meterOf after renterId = meterOf db renterId) →
      EventSpending db event now after

theorem finalizeFrom3dsCallback_spending {db middle : Database}
    {event : WebhookEvent} {payment : Payment} (now : Int)
    (unspent : Unspent db middle) (paid : event.status = .paid)
    (found : findPayment db event = some payment)
    (unsettled : payment.status.settled = false) :
    EventSpending db event now (finalizeFrom3dsCallback middle payment.moyasarId now) := by
  have sameAttempt : openAttempt middle payment.moyasarId = openAttempt db payment.moyasarId := by
    unfold openAttempt
    rw [unspent.attempts]
  unfold finalizeFrom3dsCallback
  cases opened : openAttempt middle payment.moyasarId with
  | none => exact EventSpending.unspent unspent
  | some attempt =>
    dsimp only
    cases owner : middle.renters.lookup attempt.renterId with
    | none => exact EventSpending.unspent unspent
    | some renter =>
      rw [sameAttempt] at opened
      obtain ⟨stored, isOpen, bound⟩ := openAttempt_eq_some opened
      have metered := unspent.meters attempt.renterId
      rw [meterOf, owner] at metered
      obtain ⟨earlier, earlierFound, _⟩ := map_eq_some_iff.mp metered.symm
      have ownerId := lookup_key owner
      have recharged := @remetered_of_update (middle.updateAttempt attempt.id
          (Attempt.setConfirmed renter.balanceHalala now)
          (Attempt.setConfirmed_id _ _)) renter.id _
          (Meter.recharge attempt.amountHalala)
          (Renter.setRecharged_id attempt.amountHalala)
          (fun _ => rfl)
      have rewrites := @RewritesAttempt.of_update db ((middle.updateAttempt attempt.id
          (Attempt.setConfirmed renter.balanceHalala now)
          (Attempt.setConfirmed_id _ _)).updateRenter renter.id
            (Renter.setRecharged attempt.amountHalala)
            (Renter.setRecharged_id _)) attempt
          (Attempt.setConfirmed renter.balanceHalala now)
          (Attempt.setConfirmed_id _ _) stored
          (congrArg (·.update attempt.id (Attempt.setConfirmed renter.balanceHalala now)
              (Attempt.setConfirmed_id _ _)) unspent.attempts)
          rfl rfl
      refine EventSpending.confirmed ⟨paid, ⟨payment, found, unsettled, opened⟩, earlierFound⟩
        rewrites isOpen bound rfl rfl ?_
      intro other
      rw [recharged other, ownerId]
      by_cases here : other = attempt.renterId
      · rw [if_pos here, if_pos here]
        exact congrArg _ (unspent.meters other)
      · rw [if_neg here, if_neg here]
        exact unspent.meters other

theorem failOpenAttempt_spending {db middle : Database}
    (event : WebhookEvent) (moyasarPaymentId : Option Nat)
    (eventNow now : Int) (unspent : Unspent db middle) :
    EventSpending db event eventNow (failOpenAttempt middle moyasarPaymentId now) := by
  unfold failOpenAttempt
  cases opened : openAttempt middle moyasarPaymentId with
  | none => exact EventSpending.unspent unspent
  | some attempt =>
    obtain ⟨stored, isOpen, bound⟩ := openAttempt_eq_some opened
    rw [unspent.attempts] at stored
    have rewrites := @RewritesAttempt.of_update db
        (middle.updateAttempt attempt.id (Attempt.setFailed now)
          (Attempt.setFailed_id now)) attempt (Attempt.setFailed now)
        (Attempt.setFailed_id now) stored
        (congrArg (·.update attempt.id (Attempt.setFailed now)
            (Attempt.setFailed_id now)) unspent.attempts) rfl rfl
    exact EventSpending.declined rewrites isOpen bound rfl unspent.meters

theorem webhook_spending (db : Database) (event : WebhookEvent)
    (now : Int) : EventSpending db event now (webhook db event now).1 := by
  unfold webhook
  cases found : findPayment db event with
  | none => exact EventSpending.unspent (Unspent.refl db)
  | some payment =>
    have binds := Unspent.of_bindPayment db payment event.id
    dsimp only
    unfold applyEvent
    split
    · exact EventSpending.unspent binds
    · rename_i changes
      split
      · exact EventSpending.unspent binds
      · split
        · exact EventSpending.unspent binds
        · rename_i unrefunded
          cases announced : event.status with
          | initiated =>
            exact EventSpending.unspent (binds.trans (Unspent.of_renters rfl rfl))
          | failed =>
            exact failOpenAttempt_spending event payment.moyasarId
              now now (binds.trans (Unspent.of_renters rfl rfl))
          | refunded =>
            have refunds := binds.trans (Unspent.of_markPaymentRefundedOnce _
                payment.paymentId payment.renterId
                (refundAmount event payment) now)
            dsimp only
            split
            all_goals
              rename_i after result
              rw [result] at refunds
              exact EventSpending.unspent refunds
          | paid =>
            have pays := binds.trans (Unspent.of_markPaymentPaidOnce _
                ⟨payment.paymentId, event.id, payment.renterId, payment.amountHalala⟩ now)
            dsimp only
            split
            · rename_i after result
              rw [result] at pays
              apply finalizeFrom3dsCallback_spending now pays announced found
              cases status : payment.status with
              | paid =>
                rw [announced] at changes
                exact absurd status changes
              | refunded => exact absurd status unrefunded
              | pending | initiated | failed => rfl
            · rename_i after result
              rw [result] at pays
              exact EventSpending.unspent pays

def FewerCalls (before after : State) : Prop :=
  ∀ id call, after.triggers.lookup id = some call → call.answered = false →
    ∃ earlier, before.triggers.lookup id = some earlier ∧
      earlier.answered = false ∧ earlier.renterId = call.renterId ∧
      earlier.amountHalala = call.amountHalala ∧
      earlier.now = call.now

theorem FewerCalls.of_same {before after : State} (same : after.triggers = before.triggers) :
    FewerCalls before after := by
  intro id call found waiting
  rw [same] at found
  exact ⟨call, found, waiting, rfl, rfl, rfl⟩

structure AnswersCall (before after : State) (call : TriggerCall) :
    Prop where
  found : before.triggers.lookup call.attemptId = some call
  waiting : call.answered = false
  triggers : after.triggers = before.triggers.update call.attemptId TriggerCall.setAnswered
    TriggerCall.setAnswered_attemptId

inductive SpendingStep (before : State) (action : TopupAction) (after : State) : Prop
  | unspent : Unspent before.db after.db → FewerCalls before after →
    SpendingStep before action after
  | triggered {attemptId renterId : Nat} {clock : Clock} :
      action = .startTrigger attemptId renterId clock →
      TriggerResult before.db renterId clock attemptId
        (startTrigger before.db renterId clock attemptId) →
      before.triggers.lookup attemptId = none →
      after = before.startTrigger attemptId renterId clock →
      SpendingStep before action after
  | delivered {charge : Charge} {status : EventStatus} {amountRefunded : Option Int} {now : Int} :
      action = .deliver charge.id status amountRefunded now →
      before.gateway.charges.lookup charge.id = some charge →
      EventSpending before.db (eventOf charge status amountRefunded) now after.db →
      after.triggers = before.triggers → SpendingStep before action after
  | answeredPaid {call : TriggerCall} {chargeId : Nat} {balanceAfter : Option Int} :
      AnswersCall before after call →
      after.db.attempts = before.db.attempts.update call.attemptId
        (Attempt.setFinished .paid (some chargeId) balanceAfter call.now)
        (Attempt.setFinished_id _ _ _ _) →
      Remetered before.db after.db call.renterId (Meter.recharge call.amountHalala) →
      SpendingStep before action after
  | answeredUnpaid {call : TriggerCall} {change : Attempt → Attempt}
      (keeps : ∀ row, (change row).id = row.id) :
      AnswersCall before after call →
      after.db.attempts = before.db.attempts.update call.attemptId change keeps →
      (∀ row, (change row).renterId = row.renterId ∧ (change row).amountHalala = row.amountHalala ∧
        ((change row).status = .threeDsRequired ∨ (change row).status = .failed)) →
      (∀ renterId, meterOf after.db renterId = meterOf before.db renterId) →
      SpendingStep before action after

variable {before after : State}

theorem fewerCalls_of_charged (updated : after.triggers =
    before.triggers.update attemptId (TriggerCall.setChargeId chargeId)
      (TriggerCall.setChargeId_attemptId chargeId)) :
    FewerCalls before after := by
  intro id call found waiting
  rw [updated] at found
  rcases lookup_of_lookup_update (TriggerCall.setChargeId_attemptId chargeId) found with
    ⟨_, earlier, stored, rfl⟩ | ⟨_, stored⟩
  · exact ⟨earlier, stored, waiting, rfl, rfl, rfl⟩
  · exact ⟨call, stored, waiting, rfl, rfl, rfl⟩

variable {call : TriggerCall}

theorem resumeTrigger_spending (answers : AnswersCall before after call)
    {status : ChargeStatus} (action : TopupAction)
    (result : after.db = resumeTrigger before.db call chargeId status) :
    SpendingStep before action after := by
  cases status with
  | paid =>
    have credited := Unspent.of_credit before.db
        ⟨.auto call.attemptId, chargeId, call.renterId, call.amountHalala⟩
    have recharged := @remetered_of_update (before.db.credit ⟨.auto call.attemptId, chargeId,
          call.renterId, call.amountHalala⟩) call.renterId _
        (Meter.recharge call.amountHalala)
        (Renter.setRecharged_id call.amountHalala) (fun _ => rfl)
    simp only [resumeTrigger, finalizePaid] at result
    have inserted := fun db : Database =>
      Unspent.of_insertOrIgnore db (autoPayment call chargeId .paid) chargeId
    have attempts := congrArg Database.attempts result
    rw [(inserted _).attempts] at attempts
    refine SpendingStep.answeredPaid answers attempts ?_
    rw [result]
    intro other
    rw [(inserted _).meters]
    have moved := recharged other
    rw [credited.meters] at moved
    exact moved
  | initiated =>
    have inserted :=
      Unspent.of_insertOrIgnore before.db (autoPayment call chargeId .initiated) chargeId
    refine SpendingStep.answeredUnpaid (Attempt.setFinished_id .threeDsRequired (some chargeId) none
      call.now) answers ?_ (fun row => ⟨rfl, rfl, Or.inl rfl⟩) ?_
    · rw [result]
      exact congrArg (·.update call.attemptId (Attempt.setFinished .threeDsRequired (some chargeId) none
          call.now) (Attempt.setFinished_id _ _ _ _))
        inserted.attempts
    · rw [result]
      exact inserted.meters
  | failed =>
    have failed := Unspent.of_updateRenter before.db call.renterId
        (Renter.setFailed_id call.now) (fun _ => rfl)
    refine SpendingStep.answeredUnpaid (Attempt.setFailed_id call.now)
      answers ?_ (fun row => ⟨rfl, rfl, Or.inr rfl⟩) ?_
    · rw [result]
      rfl
    · rw [result]
      exact failed.meters
  | refunded | other =>
    refine SpendingStep.answeredUnpaid
      (Attempt.setFinished_id .failed (some chargeId) none call.now)
      answers ?_ (fun row => ⟨rfl, rfl, Or.inr rfl⟩) ?_
    · rw [result]
      rfl
    · rw [result]
      exact fun _ => rfl

theorem nextTopups_spending {action : TopupAction} (fires : Fires nextTopups before action after) :
    SpendingStep before action after := by
  have idle (db : Unspent before.db after.db) (triggers : after.triggers = before.triggers) :
      SpendingStep before action after :=
    SpendingStep.unspent db (FewerCalls.of_same triggers)
  cases action with
  | topup number renterId amount sourceType invoiceId now
  | bankTransfer number renterId amount now =>
    obtain ⟨_, rfl⟩ := of_ite_eq_some fires
    exact idle (Unspent.of_renters rfl rfl) rfl
  | attempt invoiceId chargeId carriesRenter =>
    simp only [Fires, nextTopups] at fires
    split at fires
    · cases fires
    · obtain ⟨_, rfl⟩ := of_ite_eq_some fires
      exact idle (Unspent.refl _) rfl
  | settle chargeId paid | refund chargeId =>
    obtain ⟨_, rfl⟩ := of_ite_eq_some fires
    exact idle (Unspent.refl _) rfl
  | expire invoiceId =>
    cases fires
    exact idle (Unspent.refl _) rfl
  | deliver chargeId status amountRefunded now =>
    simp only [Fires, nextTopups] at fires
    split at fires
    · cases fires
    · rename_i charge found
      obtain ⟨_, rfl⟩ := of_ite_eq_some fires
      have key := lookup_key found
      subst key
      exact SpendingStep.delivered rfl found (webhook_spending _ _ now) rfl
  | startVerify callId renterId key =>
    simp only [Fires, nextTopups] at fires
    split at fires
    · cases fires
      exact idle (Unspent.refl _) rfl
    · cases fires
      exact idle (Unspent.refl _) rfl
  | resumeVerify callId reachable now =>
    simp only [Fires, nextTopups] at fires
    split at fires
    · cases fires
    · obtain ⟨_, rfl⟩ := of_ite_none_eq_some fires
      refine idle ?_ rfl
      split
      · exact Unspent.of_resumeVerify _ _ _ now
      · exact Unspent.refl _
  | startSweep callId now =>
    obtain ⟨_, rfl⟩ := of_ite_eq_some fires
    exact idle (Unspent.refl _) rfl
  | resumeSweep callId reachable now =>
    simp only [Fires, nextTopups] at fires
    split at fires
    · cases fires
    · split at fires
      · cases fires
      · cases fires
        refine idle ?_ rfl
        unfold State.answerSweep
        split
        · exact Unspent.of_resumeSweep _ _ _ now
        · exact Unspent.refl _
  | startTrigger attemptId renterId clock =>
    obtain ⟨fresh, reached⟩ := of_ite_eq_some fires
    exact SpendingStep.triggered rfl (startTrigger_result fresh.1 renterId clock) fresh.2.1
      reached.symm
  | chargeCard attemptId chargeId =>
    simp only [Fires, nextTopups] at fires
    split at fires
    · cases fires
    · obtain ⟨_, rfl⟩ := of_ite_eq_some fires
      exact SpendingStep.unspent (Unspent.refl _) (fewerCalls_of_charged rfl)
  | resumeTrigger attemptId status =>
    simp only [Fires, nextTopups] at fires
    split at fires
    · cases fires
    · rename_i call found
      split at fires
      · cases fires
      · rename_i charge known
        obtain ⟨allowed, rfl⟩ := of_ite_eq_some fires
        have key := lookup_key found
        subst key
        exact resumeTrigger_spending ⟨found, allowed.1, rfl⟩ _ rfl
  | failTrigger attemptId =>
    simp only [Fires, nextTopups] at fires
    split at fires
    · cases fires
    · rename_i call found
      obtain ⟨waiting, rfl⟩ := of_ite_eq_some fires
      have key := lookup_key found
      subst key
      have failed := Unspent.of_updateRenter before.db call.renterId
          (Renter.setFailed_id call.now) (fun _ => rfl)
      exact SpendingStep.answeredUnpaid (Attempt.setFailed_id call.now) ⟨found, waiting, rfl⟩ rfl
        (fun row => ⟨rfl, rfl, Or.inr rfl⟩) failed.meters
  | use renterId amount =>
    obtain ⟨_, rfl⟩ := of_ite_eq_some fires
    exact idle (Unspent.of_withdraw _ renterId _) rfl

def ClockInOrder (db : Database) (renterId : Nat) (clock : Clock) : Prop :=
  clock.monthStart = startOfCurrentMonthIso clock.now ∧ ∀ renter ∈ db.renters.lookup renterId,
    ∀ resetAt ∈ renter.monthlyResetAt, resetAt ≤ clock.monthStart
deriving Decidable

def FitsOpenCharges (db : Database) (renterId : Nat) (clock : Clock) :
    Prop :=
  ∀ renter ∈ db.renters.lookup renterId, 0 < renter.monthlyCapHalala → renter.Chargeable clock →
    (renter.rollMonth clock).monthlyUsedHalala + db.openAmount renterId + renter.topupAmountHalala ≤
      renter.monthlyCapHalala
deriving Decidable

def ConfirmsInMonth (db : Database) (event : WebhookEvent) (now : Int) :
    Prop :=
  ∀ payment ∈ findPayment db event, event.status = .paid → payment.status.settled = false →
    ∀ attempt ∈ openAttempt db payment.moyasarId, ∀ renter ∈ db.renters.lookup attempt.renterId,
      0 < renter.monthlyCapHalala → renter.monthlyResetAt = some (startOfCurrentMonthIso now)
deriving Decidable

def KeepsBudget (state : State) : TopupAction → Prop
  | .startTrigger _ renterId clock =>
    ClockInOrder state.db renterId clock ∧ FitsOpenCharges state.db renterId clock
  | .deliver chargeId status amountRefunded now =>
    ∀ charge ∈ state.gateway.charges.lookup chargeId,
      ConfirmsInMonth state.db (eventOf charge status amountRefunded) now
  | _ => True

instance (state : State) : DecidablePred (KeepsBudget state) := by
  intro action
  apply TopupAction.casesOn (motive := fun action => Decidable (KeepsBudget state action)) action
  all_goals
    intros
    dsimp only [KeepsBudget]
    infer_instance

/-! ## Every step keeps the budgets -/

structure Backs (attempt : Attempt) (call : TriggerCall) : Prop where
  renter : attempt.renterId = call.renterId
  amount : attempt.amountHalala = call.amountHalala
  status : attempt.status = .initiated
  createdAt : attempt.createdAt = call.now

structure Metered (state : State) : Prop where
  positive : Positive state.db
  unbound : ∀ id attempt, state.db.attempts.lookup id = some attempt →
    attempt.status = .initiated → attempt.moyasarPaymentId = none
  calls : ∀ id call, state.triggers.lookup id = some call → call.answered = false →
    ∃ attempt, state.db.attempts.lookup id = some attempt ∧ Backs attempt call
  budgets : ∀ renterId meter, meterOf state.db renterId = some meter →
    0 < meter.capHalala → Budget state.db renterId meter

theorem Remetered.cases {before after : Database} {change : Meter → Meter}
    (remetered : Remetered before after renterId change) {other : Nat}
    {meter : Meter} (found : meterOf after other = some meter) :
    (other = renterId ∧ ∃ earlier, meterOf before other = some earlier ∧ meter = change earlier) ∨
      (other ≠ renterId ∧ meterOf before other = some meter) := by
  rw [remetered other] at found
  by_cases here : other = renterId
  · rw [if_pos here] at found
    obtain ⟨earlier, stored, same⟩ := map_eq_some_iff.mp found
    exact Or.inl ⟨here, earlier, stored, same.symm⟩
  · rw [if_neg here] at found
    exact Or.inr ⟨here, found⟩

theorem Meter.roll_cap (month : Int) (meter : Meter) :
    (meter.roll month).capHalala = meter.capHalala := by
  unfold Meter.roll
  split <;> rfl

variable {month : Int}

theorem Meter.roll_resetAt {meter : Meter} (inOrder : ∀ resetAt ∈ meter.resetAt, resetAt ≤ month) :
    (meter.roll month).resetAt = some month := by
  unfold Meter.roll
  split
  · rfl
  · rename_i current
    push Not at current
    obtain ⟨resetAt, present, bound⟩ := current
    have latest := inOrder resetAt present
    have same : resetAt = month := by
      omega
    rw [← same]
    exact present

theorem Metered.of_unspent (metered : Metered before) (unspent : Unspent before.db after.db)
    (fewer : FewerCalls before after) : Metered after where
  positive := by
    intro id attempt found
    rw [unspent.attempts] at found
    exact metered.positive id attempt found
  unbound := by
    rw [unspent.attempts]
    exact metered.unbound
  calls := by
    intro id call found waiting
    obtain ⟨earlier, stored, unanswered, renter, amount, now⟩ := fewer id call found waiting
    obtain ⟨attempt, present, backs⟩ := metered.calls id earlier stored unanswered
    rw [unspent.attempts]
    exact ⟨attempt, present, backs.renter.trans renter, backs.amount.trans amount, backs.status,
      backs.createdAt.trans now⟩
  budgets := by
    intro renterId meter found capped
    rw [unspent.meters] at found
    exact (metered.budgets renterId meter found capped).of_attempts unspent.attempts

theorem Metered.of_rolled (metered : Metered before)
    (attempts : after.db.attempts = before.db.attempts)
    (remetered : Remetered before.db after.db renterId (Meter.roll month))
    (triggers : after.triggers = before.triggers) : Metered after where
  positive := by
    intro id attempt found
    rw [attempts] at found
    exact metered.positive id attempt found
  unbound := by
    rw [attempts]
    exact metered.unbound
  calls := by
    rw [attempts, triggers]
    exact metered.calls
  budgets := by
    intro other meter found capped
    rcases remetered.cases found with ⟨_, earlier, stored, rfl⟩ | ⟨_, stored⟩
    · rw [Meter.roll_cap] at capped
      exact ((metered.budgets other earlier stored capped).roll
        metered.positive month).of_attempts attempts
    · exact (metered.budgets other meter stored capped).of_attempts attempts

theorem Metered.of_inserted (metered : Metered before) {row : Attempt}
    (fresh : before.db.attempts.lookup row.id = none)
    (inserted : after.db.attempts = before.db.attempts.insert row fresh)
    (own : row.renterId = renterId)
    (remetered : Remetered before.db after.db renterId (Meter.roll month))
    (positiveRow : 0 < row.amountHalala) (unpaid : row.status ≠ .paid)
    (unboundRow : row.status = .initiated → row.moyasarPaymentId = none)
    (calls : ∀ id call, after.triggers.lookup id = some call → call.answered = false →
      before.triggers.lookup id = some call ∨ (id = row.id ∧ Backs row call))
    (fits : ∀ meter, meterOf before.db renterId = some meter →
      0 < meter.capHalala → (meter.roll month).usedHalala + before.db.openAmount renterId +
        row.weight renterId IsOpenAttempt ≤ meter.capHalala)
    (current : ∀ meter, meterOf before.db renterId = some meter → row.status = .initiated →
      (meter.roll month).resetAt = some (startOfCurrentMonthIso row.createdAt)) :
    Metered after where
  positive := by
    intro id attempt found
    rw [inserted, lookup_insert] at found
    split at found
    · injection found with same
      exact same ▸ positiveRow
    · exact metered.positive id attempt found
  unbound := by
    intro id attempt found initiated
    rw [inserted, lookup_insert] at found
    split at found
    · cases found
      exact unboundRow initiated
    · exact metered.unbound id attempt found initiated
  calls := by
    intro id call found waiting
    rcases calls id call found waiting with stored | ⟨same, backs⟩
    · obtain ⟨attempt, present, backs⟩ := metered.calls id call stored waiting
      refine ⟨attempt, ?_, backs⟩
      rw [inserted]
      exact lookup_insert_of_some _ fresh present
    · refine ⟨row, ?_, backs⟩
      rw [inserted, same]
      exact lookup_insert_self _ row fresh
  budgets := by
    intro other meter found capped
    rcases remetered.cases found with ⟨rfl, earlier, stored, rfl⟩ | ⟨there, stored⟩
    · rw [Meter.roll_cap] at capped
      have budget := metered.budgets other earlier stored capped
      refine @Budget.insert _ _ _ _ (budget.roll metered.positive month)
        metered.positive row fresh inserted ?_ unpaid ?_
      · rw [Meter.roll_cap]
        exact fits earlier stored capped
      · intro _ initiated
        exact current earlier stored initiated
    · have foreign : row.renterId ≠ other := by
        rw [own]
        exact fun same => there same.symm
      have budget := metered.budgets other meter stored capped
      refine budget.insert metered.positive fresh inserted ?_ unpaid (absurd · foreign)
      rw [Attempt.weight_of_foreign foreign, add_zero]
      exact budget.reserved

theorem Metered.of_triggered (metered : Metered before) {renterId : Nat} {clock : Clock}
    (unused : before.triggers.lookup attemptId = none)
    (inOrder : ClockInOrder before.db renterId clock)
    (fits : FitsOpenCharges before.db renterId clock)
    (effect : TriggerResult before.db renterId clock attemptId
      (startTrigger before.db renterId clock attemptId)) :
    Metered (before.startTrigger attemptId renterId clock) := by
  unfold State.startTrigger
  generalize startTrigger before.db renterId clock attemptId = result at effect ⊢
  have meterRow (meter : Meter) (found : meterOf before.db renterId = some meter) :
      ∃ renter, before.db.renters.lookup renterId = some renter ∧ renter.meter = meter :=
    map_eq_some_iff.mp found
  cases effect with
  | refused => exact metered
  | rolled attempts remetered =>
    exact metered.of_rolled attempts remetered rfl
  | @capped after _ row fresh inserted own status positive remetered =>
    refine metered.of_inserted fresh inserted own remetered positive
      (by rw [status]; nofun) (by rw [status]; nofun)
      (fun _ _ found _ => Or.inl found) ?_
      (by rw [status]; nofun)
    intro meter found cap
    have notOpen : ¬ IsOpenAttempt row := by
      rw [IsOpenAttempt, status]
      nofun
    have reserved :=
      ((metered.budgets renterId meter found cap).roll metered.positive clock.monthStart).reserved
    rw [Meter.roll_cap] at reserved
    rw [Attempt.weight_of_unmet notOpen, add_zero]
    exact reserved
  | @started after renter row fresh found chargeable inserted key own
      amount status unbound createdAt remetered =>
      subst key
      dsimp only
      have unusedCall : before.triggers.lookup
          (TriggerCall.mk row.id renterId renter.topupAmountHalala
            clock.now none false).attemptId = none :=
        unused
      refine metered.of_inserted fresh inserted own remetered ?_
        (by rw [status]; nofun) (fun _ => unbound) ?_ ?_ ?_
      · rw [amount]
        exact chargeable.2.2.1
      · intro id call callFound waiting
        rw [insertIfNew_of_fresh unusedCall, lookup_insert] at callFound
        split at callFound
        · rename_i same
          cases callFound
          exact Or.inr ⟨same.symm, own, amount, status, createdAt⟩
        · exact Or.inl callFound
      · intro meter meterFound cap
        obtain ⟨stored, storedFound, rfl⟩ := meterRow meter meterFound
        rw [found] at storedFound
        cases storedFound
        have open_ : IsOpenAttempt row := Or.inr status
        have enough := fits renter found cap chargeable
        rw [Attempt.weight_of_met own open_, amount, ← Renter.rollMonth_meter]
        exact enough
      · intro meter meterFound _
        obtain ⟨stored, storedFound, rfl⟩ := meterRow meter meterFound
        rw [createdAt, ← inOrder.1]
        exact Meter.roll_resetAt (inOrder.2 stored storedFound)

theorem Metered.of_rewrites (metered : Metered before)
    (rewrites : RewritesAttempt before.db after.db attempt changed)
    (finished : changed.status ≠ .initiated) (fewer : FewerCalls before after)
    (free : ∀ call, after.triggers.lookup attempt.id = some call → call.answered = true)
    (budgets : ∀ renterId meter, meterOf after.db renterId = some meter →
      0 < meter.capHalala → Budget after.db renterId meter) :
    Metered after where
  positive := rewrites.positive metered.positive
  unbound := by
    intro id row found initiated
    rcases rewrites.cases id row found with ⟨_, same⟩ | ⟨_, stored⟩
    · rw [same] at initiated
      exact absurd initiated finished
    · exact metered.unbound id row stored initiated
  calls := by
    intro id call found waiting
    obtain ⟨earlier, stored, unanswered, renter, amount, now⟩ := fewer id call found waiting
    obtain ⟨row, present, backs⟩ := metered.calls id earlier stored unanswered
    by_cases here : id = attempt.id
    · subst here
      rw [free call found] at waiting
      cases waiting
    · refine ⟨row, ?_, backs.renter.trans renter, backs.amount.trans amount, backs.status,
        backs.createdAt.trans now⟩
      rw [rewrites.others id here]
      exact present
  budgets := budgets

theorem Metered.of_unpaid (metered : Metered before)
    (rewrites : RewritesAttempt before.db after.db attempt changed)
    (opened : IsOpenAttempt attempt)
    (closes : changed.status = .threeDsRequired ∨ changed.status = .failed)
    (fewer : FewerCalls before after)
    (free : ∀ call, after.triggers.lookup attempt.id = some call → call.answered = true)
    (meters : ∀ renterId, meterOf after.db renterId = meterOf before.db renterId) :
    Metered after := by
  refine metered.of_rewrites rewrites ?_ fewer free ?_
  · intro initiated
    rcases closes with same | same
    · rw [same] at initiated
      cases initiated
    · rw [same] at initiated
      cases initiated
  · intro renterId meter found capped
    rw [meters] at found
    exact (metered.budgets renterId meter found capped).unpaid
      metered.positive rewrites opened closes

theorem Metered.of_paid {before after : State}
    (metered : Metered before) {attempt changed : Attempt}
    (rewrites : RewritesAttempt before.db after.db attempt changed)
    (opened : IsOpenAttempt attempt) {month : Int} (succeeds : changed.PaidIn month)
    (booked : ∀ meter, meterOf before.db attempt.renterId = some meter →
      0 < meter.capHalala → attempt.AwaitedIn month ∨ meter.resetAt = some month)
    (fewer : FewerCalls before after)
    (free : ∀ call, after.triggers.lookup attempt.id = some call → call.answered = true)
    (remetered :
      Remetered before.db after.db attempt.renterId (Meter.recharge attempt.amountHalala)) :
    Metered after := by
  refine metered.of_rewrites rewrites ?_ fewer free ?_
  · rw [succeeds.1]
    nofun
  · intro renterId meter found capped
    rcases remetered.cases found with ⟨here, earlier, stored, rfl⟩ | ⟨there, stored⟩
    · have budget := metered.budgets renterId earlier stored capped
      rw [here] at stored
      exact budget.paid metered.positive rewrites here.symm opened
        succeeds (booked earlier stored capped)
    · exact (metered.budgets renterId meter stored capped).foreign rewrites (there ·.symm)

theorem Metered.free_of_bound {state : State} (metered : Metered state)
    (found : state.db.attempts.lookup attempt.id = some attempt)
    (bound : attempt.moyasarPaymentId ≠ none) (call : TriggerCall)
    (present : state.triggers.lookup attempt.id = some call) :
    call.answered = true := by
  cases waiting : call.answered with
  | true => rfl
  | false =>
    obtain ⟨row, rowFound, backs⟩ := metered.calls _ call present waiting
    rw [found] at rowFound
    cases rowFound
    exact absurd (metered.unbound _ _ found backs.status) bound

theorem Metered.of_delivered (metered : Metered before) {event : WebhookEvent} {now : Int}
    (inMonth : ConfirmsInMonth before.db event now)
    (effect : EventSpending before.db event now after.db)
    (triggers : after.triggers = before.triggers) : Metered after := by
  have fewer := FewerCalls.of_same triggers
  cases effect with
  | unspent unspent => exact metered.of_unspent unspent fewer
  | @confirmed attempt changed renter confirms rewrites opened bound paid completed remetered =>
    refine metered.of_paid rewrites opened ⟨paid, by rw [completed]; rfl⟩ ?_ fewer ?_ remetered
    · intro meter found capped
      obtain ⟨payment, located, unsettled, openRow⟩ := confirms.located
      have owner := confirms.renter
      rw [meterOf, owner, map_some] at found
      cases found
      exact Or.inr
        (inMonth payment located confirms.paid unsettled attempt openRow renter owner capped)
    · rw [triggers]
      exact metered.free_of_bound rewrites.found bound
  | @declined attempt changed rewrites opened bound failed meters =>
    refine metered.of_unpaid rewrites opened (Or.inr failed) fewer ?_ meters
    rw [triggers]
    exact metered.free_of_bound rewrites.found bound

theorem AnswersCall.fewer (answers : AnswersCall before after call) :
    FewerCalls before after := by
  intro id other found waiting
  rw [answers.triggers] at found
  rcases lookup_of_lookup_update TriggerCall.setAnswered_attemptId found with
    ⟨_, earlier, _, rfl⟩ | ⟨_, stored⟩
  · cases waiting
  · exact ⟨other, stored, waiting, rfl, rfl, rfl⟩

theorem AnswersCall.free (answers : AnswersCall before after call) (other : TriggerCall)
    (found : after.triggers.lookup call.attemptId = some other) :
    other.answered = true := by
  rw [answers.triggers,
    lookup_update_of_some _ _ TriggerCall.setAnswered_attemptId answers.found] at found
  cases found
  rfl

theorem spendingStep_metered {action : TopupAction} (metered : Metered before)
    (allowed : KeepsBudget before action)
    (step : SpendingStep before action after) : Metered after := by
  cases step with
  | unspent unspent fewer => exact metered.of_unspent unspent fewer
  | triggered same effect unused reached =>
    subst same
    subst reached
    exact metered.of_triggered unused allowed.1 allowed.2 effect
  | delivered same found effect triggers =>
    subst same
    exact metered.of_delivered (allowed _ found) effect triggers
  | @answeredPaid call chargeId balanceAfter answers updated remetered =>
    obtain ⟨attempt, stored, backs⟩ := metered.calls _ call answers.found answers.waiting
    have key := lookup_key stored
    rw [← key] at stored updated
    have rewrites :=
      RewritesAttempt.of_update (Attempt.setFinished_id _ _ _ _) stored updated rfl rfl
    rw [← backs.renter, ← backs.amount] at remetered
    refine @Metered.of_paid _ _ metered _ _ rewrites
      (Or.inr backs.status) (startOfCurrentMonthIso call.now)
      ⟨rfl, rfl⟩ ?_ answers.fewer ?_ remetered
    · intro _ _ _
      refine Or.inl ⟨backs.status, ?_⟩
      rw [backs.createdAt]
    · rw [key]
      exact answers.free
  | @answeredUnpaid call change keeps answers updated closes meters =>
    obtain ⟨attempt, stored, backs⟩ := metered.calls _ call answers.found answers.waiting
    have key := lookup_key stored
    have closed := closes attempt
    rw [← key] at stored updated
    have rewrites := RewritesAttempt.of_update keeps stored updated closed.1 closed.2.1
    refine metered.of_unpaid rewrites (Or.inr backs.status) closed.2.2 answers.fewer ?_ meters
    rw [key]
    exact answers.free

/-- No automatic top-up has been attempted yet. -/
structure State.Unspent (state : State) : Prop where
  initial : state.Initial
  noAttempts : state.db.attempts = Table.empty
  unused :
    ∀ renterId renter, state.db.renters.lookup renterId = some renter → renter.monthlyUsedHalala = 0

theorem State.Unspent.metered {state : State} (unspent : state.Unspent) :
    Metered state where
  positive := by
    rw [Positive, unspent.noAttempts]
    nofun
  unbound := by
    rw [unspent.noAttempts]
    nofun
  calls := by
    rw [unspent.initial.noTriggers]
    nofun
  budgets := by
    intro renterId meter found capped
    obtain ⟨renter, stored, rfl⟩ := map_eq_some_iff.mp found
    have zero : renter.meter.usedHalala = 0 := unspent.unused renterId renter stored
    have nothing (weight : Attempt → Int) :
        state.db.attempts.total weight = 0 := by
      rw [unspent.noAttempts]
      exact total_empty weight
    constructor
    · exact zero.ge
    · intro month _
      rw [Database.spentIn, nothing, zero]
    · rw [Database.openAmount, nothing, zero]
      omega
    · intro month
      rw [Database.spentIn, Database.awaitedIn, nothing, nothing]
      omega
    · rw [unspent.noAttempts]
      nofun

/-- When every trigger counts the open charges and every confirmation falls
into the month of the counter, no renter is charged more than the cap in any
month. -/
theorem monthly_cap_kept {start finish : State}
    {actions : List TopupAction} (unspent : start.Unspent)
    (run : Run (guarded (Fires nextTopups) KeepsBudget) start actions finish)
    {renterId : Nat} {renter : Renter}
    (found : finish.db.renters.lookup renterId = some renter)
    (capped : 0 < renter.monthlyCapHalala) (month : Int) :
    finish.db.spentIn renterId month ≤ renter.monthlyCapHalala := by
  have metered : Metered finish := by
    apply run.invariant Metered _ unspent.metered
    intro source target action metered taken
    exact spendingStep_metered metered taken.1 (nextTopups_spending taken.2)
  have meter : meterOf finish.db renterId = some renter.meter := by
    rw [meterOf, found, map_some]
  have budget := metered.budgets renterId renter.meter meter capped
  have bound := budget.months month
  have awaited := metered.positive.awaitedIn renterId month
  have sameCap : renter.meter.capHalala = renter.monthlyCapHalala := rfl
  omega

def clockAt (now : Int) : Clock :=
  ⟨now, startOfCurrentMonthIso now⟩

def cappedStart : State :=
  { sampleStart with
    db := { sampleStart.db with
      renters := Table.empty.insertIfNew { sampleRenter with monthlyCapHalala := 15000 } } }

theorem cappedStart_unspent : cappedStart.Unspent where
  initial := ⟨rfl, rfl, rfl, rfl, rfl, rfl, rfl⟩
  noAttempts := rfl
  unused := by
    intro renterId renter found
    have member := lookup_mem found
    have only :
        cappedStart.db.renters.rows = [{ sampleRenter with monthlyCapHalala := 15000 }] := by
      decide
    rw [only, mem_singleton] at member
    rw [member]
    rfl

def confirmedInMonth : List TopupAction :=
  [.startTrigger 1 7 (clockAt 0), .chargeCard 1 10, .resumeTrigger 1 .initiated, .settle 10 true,
    .deliver 10 .paid none 120000, .use 7 10000,
    .startTrigger 2 7 (clockAt 200000)]

theorem monthly_cap_kept_sample :
    ∃ finish renter, Run (guarded (Fires nextTopups) KeepsBudget) cappedStart
      confirmedInMonth finish ∧ finish.db.renters.lookup 7 = some renter ∧
        finish.db.spentIn 7 0 = 10000 ∧
        finish.db.spentIn 7 0 ≤ renter.monthlyCapHalala := by
  obtain ⟨finish, executed, spent, present⟩ : ∃ finish,
      execute (restricted nextTopups KeepsBudget) cappedStart confirmedInMonth = some finish ∧
        finish.db.spentIn 7 0 = 10000 ∧
        ∃ renter ∈ finish.db.renters.lookup 7, 0 < renter.monthlyCapHalala :=
    exists_of_execute_any (by decide +kernel)
  obtain ⟨renter, found, capped⟩ := present
  have run := run_guarded_of_execute executed
  exact ⟨finish, renter, run, found, spent, monthly_cap_kept cappedStart_unspent run found capped 0⟩

def chargedBesideOpen : List TopupAction :=
  [.startTrigger 1 7 (clockAt 0), .chargeCard 1 10,
    .resumeTrigger 1 .initiated, .startTrigger 2 7 (clockAt 61000),
    .chargeCard 2 11, .settle 11 true, .resumeTrigger 2 .paid,
    .settle 10 true, .deliver 10 .paid none 120000]

/-- A charge of January is confirmed in February, before the first trigger
of that month. -/
def confirmedBeforeReset : List TopupAction :=
  [.startTrigger 1 7 (clockAt 0), .chargeCard 1 10, .resumeTrigger 1 .initiated, .settle 10 true,
    .deliver 10 .paid none 2678400000, .use 7 10000,
    .startTrigger 2 7 (clockAt 2678500000), .chargeCard 2 11,
    .settle 11 true, .resumeTrigger 2 .paid]

/-- Twice the recharge is taken in one month, against a cap of one and a
half. -/
theorem monthly_cap_exceeded :
    (∃ finish, execute nextTopups cappedStart chargedBesideOpen = some finish ∧
      finish.db.spentIn 7 0 = 20000 ∧
      (finish.db.renters.lookup 7).map Renter.monthlyCapHalala = some 15000) ∧
    ∃ finish, execute nextTopups cappedStart confirmedBeforeReset = some finish ∧
      finish.db.spentIn 7 2678400000 = 20000 ∧
      (finish.db.renters.lookup 7).map Renter.monthlyCapHalala = some 15000 :=
  ⟨exists_of_execute_any (by decide +kernel), exists_of_execute_any (by decide +kernel)⟩

end DcpPlatform.Topups
