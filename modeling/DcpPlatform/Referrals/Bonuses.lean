import DcpPlatform.Foundation.Doubles
import DcpPlatform.Foundation.Table

/-!
# Referral bonuses

The job that pays a referrer a part of what the referred provider earned on
the day before. Times are seconds, and a day is a count of whole days.
-/

namespace DcpPlatform.Referrals

open Foundation

def dayOf (time : ℤ) : ℤ :=
  time / 86400

inductive Status where
  | active
  | expired
  | paid
deriving DecidableEq

structure Referral where
  id : Nat
  referrer_id : Nat
  referred_id : Nat
  status : Status
  bonus_pct : ℚ
  total_bonus_halala : ℤ
  created_at : ℤ
  expires_at : Option ℤ
deriving DecidableEq

structure Provider where
  id : Nat
  referral_earnings_halala : Option ℤ
  total_earnings_halala : Option ℤ

structure DailyRow where
  provider_id : Nat
  day : ℤ
  earned_halala : ℤ

inductive JobStatus where
  | completed
  | other
deriving DecidableEq

structure JobRow where
  provider_id : Nat
  status : JobStatus
  completed_at : ℤ
  provider_earned_halala : ℤ

/-- What the providers earned: the daily table where the database has it, and
the jobs. -/
structure Earnings where
  earnings_daily : Option (List DailyRow)
  jobs : List JobRow

def Earnings.dayEarnings (earnings : Earnings) (provider_id : Nat) (day : ℤ) : ℤ :=
  match earnings.earnings_daily with
  | some daily =>
    ((daily.filter (fun row =>
      row.provider_id = provider_id ∧ row.day = day)).map DailyRow.earned_halala).sum
  | none =>
    ((earnings.jobs.filter (fun job =>
      job.provider_id = provider_id ∧ job.status = .completed ∧
        dayOf job.completed_at = day)).map JobRow.provider_earned_halala).sum

structure Payment where
  referral_id : Nat
  referrer_id : Nat
  day : ℤ
  amount : ℤ

structure Database where
  referrals : Table Referral Referral.id
  providers : Table Provider Provider.id
  journal : List Payment
  runs : List ℤ
  clock : ℤ

def Referral.PastWindow (referral : Referral) (now : ℤ) : Prop :=
  ∃ expires_at, referral.expires_at = some expires_at ∧ expires_at < now

instance (referral : Referral) (now : ℤ) :
    Decidable (referral.PastWindow now) :=
  match found : referral.expires_at with
  | none => isFalse (by simp [Referral.PastWindow, found])
  | some expires_at =>
    decidable_of_iff (expires_at < now) (by simp [Referral.PastWindow, found])

def Referral.expire (now : ℤ) (referral : Referral) : Referral :=
  if referral.status = .active ∧ referral.PastWindow now then
    { referral with status := .expired }
  else
    referral

theorem Referral.expire_id (now : ℤ) (referral : Referral) :
    (referral.expire now).id = referral.id := by
  unfold Referral.expire
  split <;> rfl

def Referral.addBonus (bonusHalala : ℤ) (referral : Referral) : Referral :=
  { referral with
    total_bonus_halala := referral.total_bonus_halala + bonusHalala }

def Provider.addReferralEarnings (bonusHalala : ℤ) (provider : Provider) :
    Provider :=
  { provider with
    referral_earnings_halala := some (provider.referral_earnings_halala.getD 0 + bonusHalala) }

def Provider.addTotalEarnings (bonusHalala : ℤ) (provider : Provider) :
    Provider :=
  { provider with
    total_earnings_halala := some (provider.total_earnings_halala.getD 0 + bonusHalala) }

theorem Referral.addBonus_id (bonusHalala : ℤ) (referral : Referral) :
    (referral.addBonus bonusHalala).id = referral.id :=
  rfl

theorem Provider.addReferralEarnings_id (bonusHalala : ℤ) (provider : Provider) :
    (provider.addReferralEarnings bonusHalala).id = provider.id :=
  rfl

theorem Provider.addTotalEarnings_id (bonusHalala : ℤ) (provider : Provider) :
    (provider.addTotalEarnings bonusHalala).id = provider.id :=
  rfl

/-- `Math.floor(dayEarnings * (bonus_pct / 100))` on doubles. -/
def bonusHalala (dayEarnings : ℤ) (bonus_pct : ℚ) : ℤ :=
  ⌊toDouble (dayEarnings * toDouble (bonus_pct / 100))⌋

section Job

variable (earnings : Earnings)

def bonusFor (referral : Referral) (day : ℤ) : ℤ :=
  let dayEarnings := earnings.dayEarnings referral.referred_id day
  if dayEarnings ≤ 0 then
    0
  else
    bonusHalala dayEarnings referral.bonus_pct

def creditReferral (yesterday : ℤ) (database : Database) (referral : Referral) : Database :=
  let bonus := bonusFor earnings referral yesterday
  if bonus ≤ 0 then
    database
  else
    { database with
      referrals :=
        database.referrals.update referral.id (Referral.addBonus bonus) (Referral.addBonus_id bonus)
      providers := (database.providers.update referral.referrer_id
        (Provider.addReferralEarnings bonus)
        (Provider.addReferralEarnings_id bonus)).update
          referral.referrer_id (Provider.addTotalEarnings bonus)
            (Provider.addTotalEarnings_id bonus)
      journal := database.journal ++ [⟨referral.id, referral.referrer_id, yesterday, bonus⟩] }

def runJob (now : ℤ) (database : Database) : Database :=
  let expired := { database with
      referrals := database.referrals.updateAll (Referral.expire now) (Referral.expire_id now)
      runs := database.runs ++ [now]
      clock := now }
  (expired.referrals.rows.filter (fun row => row.status = .active)).foldl
    (creditReferral earnings (dayOf now - 1)) expired

/-- What `apply-referral` inserts, at the time of the insertion. -/
structure Enrolment where
  id : Nat
  referrer_id : Nat
  referred_id : Nat
  bonus_pct : ℚ
  expires_at : Option ℤ

def Enrolment.row (enrolment : Enrolment) (now : ℤ) : Referral where
  id := enrolment.id
  referrer_id := enrolment.referrer_id
  referred_id := enrolment.referred_id
  status := .active
  bonus_pct := enrolment.bonus_pct
  total_bonus_halala := 0
  created_at := now
  expires_at := enrolment.expires_at

inductive Event where
  | apply (enrolment : Enrolment) (now : ℤ)
  | run (now : ℤ)

/-- The clock does not go back, an id is new, a referrer exists and a pair of
providers is referred once. -/
def next (database : Database) : Event → Option Database
  | .apply enrolment now =>
    if database.clock ≤ now ∧ database.referrals.lookup enrolment.id = none ∧
      database.providers.lookup enrolment.referrer_id ≠ none ∧
      database.referrals.rows.all (fun row =>
        row.referrer_id ≠ enrolment.referrer_id ∨ row.referred_id ≠ enrolment.referred_id) then
      some { database with
        referrals := database.referrals.insertIfNew (enrolment.row now)
        clock := now }
    else
      none
  | .run now =>
    if database.clock ≤ now then
      some (runJob earnings now database)
    else
      none

end Job

end DcpPlatform.Referrals
