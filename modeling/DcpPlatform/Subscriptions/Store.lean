import DcpPlatform.Foundation.Serial
import DcpPlatform.Foundation.Outcome
import DcpPlatform.Foundation.Text

/-!
# Monthly subscriptions

The calls that open a subscription, confirm its payment and move it to the
next period. By two unique indices a renter has at most one open subscription,
and a payment id belongs to one.
-/

namespace DcpPlatform.Subscriptions

open Foundation

inductive Tier where
  | starter | growth | scale

structure TierTerms where
  monthlySar : Nat
  discountBps : Nat
  monthlyHalala : Int

def Tier.terms : Tier → TierTerms
  | .starter => ⟨375, 1500, 37500⟩
  | .growth => ⟨1500, 2200, 150000⟩
  | .scale => ⟨5625, 3000, 562500⟩

def getTier (tierKey : String) : Option Tier :=
  match toLowerCase tierKey with
  | "starter" => some .starter
  | "growth" => some .growth
  | "scale" => some .scale
  | _ => none

inductive Status where
  | pending | active | pastDue | cancelled | expired
  deriving DecidableEq

/-- The statuses of the partial unique index. -/
def Status.isOpen : Status → Bool
  | .pending | .active | .pastDue => true
  | .cancelled | .expired => false

structure Subscription where
  id : Nat
  renterId : Nat
  tier : Tier
  monthlySar : Nat
  discountBps : Nat
  periodStart : Int
  periodEnd : Int
  status : Status
  moyasarSubscriptionId : Option String
  createdAt : Int
  updatedAt : Int

structure Credit where
  id : Nat
  subscriptionId : Nat
  renterId : Nat
  grantedAt : Int
  amountHalala : Int
  consumedHalala : Int
  expiresAt : Int

structure Period where
  subscriptionId : Nat
  renterId : Nat
  starts : Int
  ends : Int
  deriving DecidableEq

structure Activation where
  subscriptionId : Nat
  moyasarSubscriptionId : Option String
  deriving DecidableEq

structure Database where
  subscriptions : Serial Subscription Subscription.id
  credits : Serial Credit Credit.id
  periods : List Period
  activations : List Activation

def Database.empty : Database :=
  ⟨Serial.empty, Serial.empty, [], []⟩

def millisecondsPerDay : Int := 86400000

def addDays (instant days : Int) : Int :=
  instant + days * millisecondsPerDay

def rolloverDays : Int := 30

def pendingTtlMin : Int := 60

namespace Subscription

def period (subscription : Subscription) : Period :=
  ⟨subscription.id, subscription.renterId, subscription.periodStart, subscription.periodEnd⟩

def IsStale (renterId : Nat) (now : Int) (subscription : Subscription) :
    Prop :=
  subscription.renterId = renterId ∧ subscription.status = .pending ∧
    subscription.createdAt < now - pendingTtlMin * 60000
deriving Decidable

def setCancelled (now : Int) (subscription : Subscription) :
    Subscription :=
  { subscription with status := .cancelled, updatedAt := now }

def cancelIfStale (renterId : Nat) (now : Int) (subscription : Subscription) : Subscription :=
  if subscription.IsStale renterId now then
    subscription.setCancelled now
  else
    subscription

theorem cancelIfStale_id (renterId : Nat) (now : Int) (subscription : Subscription) :
    (subscription.cancelIfStale renterId now).id = subscription.id := by
  unfold cancelIfStale
  split <;> rfl

def setActivated (moyasarSubscriptionId : Option String) (now : Int)
    (subscription : Subscription) : Subscription :=
  { subscription with
    status := .active
    moyasarSubscriptionId :=
      if moyasarSubscriptionId.getD "" = "" then
        subscription.moyasarSubscriptionId
      else
        moyasarSubscriptionId
    periodStart := now
    periodEnd := addDays now 30
    updatedAt := now }

@[simp]
theorem setActivated_id (moyasarSubscriptionId : Option String)
    (now : Int) (subscription : Subscription) :
    (subscription.setActivated moyasarSubscriptionId now).id =
      subscription.id :=
  rfl

def setAdvanced (now : Int) (subscription : Subscription) :
    Subscription :=
  { subscription with
    periodStart := subscription.periodEnd
    periodEnd := addDays subscription.periodEnd 30
    status := .active
    updatedAt := now }

@[simp]
theorem setAdvanced_id (now : Int) (subscription : Subscription) :
    (subscription.setAdvanced now).id = subscription.id :=
  rfl

end Subscription

def Database.Admits (db : Database) (row : Subscription) : Prop :=
  ∀ other ∈ db.subscriptions.table.rows, other.id ≠ row.id →
    (row.status.isOpen = true → other.renterId = row.renterId → other.status.isOpen = false) ∧
    ∀ payment ∈ row.moyasarSubscriptionId, other.moyasarSubscriptionId ≠ some payment

instance (db : Database) (row : Subscription) :
    Decidable (db.Admits row) :=
  inferInstanceAs (Decidable (∀ _ ∈ _, _))

inductive SubscriptionError where
  | unknownTier
  | alreadyOpen (subscriptionId : Nat)
  | notFound
  | constraint

def openRows (db : Database) (renterId : Nat) : List Subscription :=
  db.subscriptions.table.rows.filter (fun row =>
    row.renterId = renterId ∧ row.status.isOpen = true)

/-- `ORDER BY id DESC LIMIT 1`, in a table that grows by id. -/
def getOpenSubscription (db : Database) (renterId : Nat) :
    Option Subscription :=
  (openRows db renterId).getLast?

def cancelStalePendings (db : Database) (renterId : Nat) (now : Int) :
    Database :=
  { db with
    subscriptions := db.subscriptions.updateAll (Subscription.cancelIfStale renterId now)
      (Subscription.cancelIfStale_id renterId now) }

def pendingRow (db : Database) (renterId : Nat) (tier : Tier) (now : Int) : Subscription :=
  { id := db.subscriptions.last + 1
    renterId := renterId
    tier := tier
    monthlySar := tier.terms.monthlySar
    discountBps := tier.terms.discountBps
    periodStart := now
    periodEnd := addDays now 30
    status := .pending
    moyasarSubscriptionId := none
    createdAt := now
    updatedAt := now }

theorem pendingRow_id (db : Database) (renterId : Nat) (tier : Tier) (now : Int) :
    (pendingRow db renterId tier now).id = db.subscriptions.last + 1 :=
  rfl

def createPendingSubscription (db : Database) (renterId : Nat) (tierKey : String) (now : Int) :
    Except SubscriptionError Database := do
  let tier ← orFail .unknownTier (getTier tierKey)
  match getOpenSubscription db renterId with
  | some existing => .error (.alreadyOpen existing.id)
  | none =>
    pure { db with
      subscriptions := db.subscriptions.append (pendingRow db renterId tier now)
        (pendingRow_id db renterId tier now) }

def grantRow (db : Database) (sub : Subscription) (now : Int) : Credit :=
  { id := db.credits.last + 1
    subscriptionId := sub.id
    renterId := sub.renterId
    grantedAt := now
    amountHalala := sub.tier.terms.monthlyHalala
    consumedHalala := 0
    expiresAt := addDays sub.periodEnd rolloverDays }

theorem grantRow_id (db : Database) (sub : Subscription) (now : Int) :
    (grantRow db sub now).id = db.credits.last + 1 :=
  rfl

def grantMonthlyCredits (db : Database) (subscriptionId : Nat)
    (now : Int) : Except SubscriptionError Database := do
  let sub ← orFail .notFound (db.subscriptions.lookup subscriptionId)
  pure { db with
    credits := db.credits.append (grantRow db sub now) (grantRow_id db sub now) }

def activateSubscription (db : Database) (subscriptionId : Nat)
    (moyasarSubscriptionId : Option String) (now : Int) :
    Except SubscriptionError Database := do
  let sub ← orFail .notFound (db.subscriptions.lookup subscriptionId)
  let row := sub.setActivated moyasarSubscriptionId now
  require (db.Admits row) .constraint
  grantMonthlyCredits { db with
    subscriptions := db.subscriptions.update subscriptionId
      (Subscription.setActivated moyasarSubscriptionId now)
      (Subscription.setActivated_id moyasarSubscriptionId now)
    periods := db.periods ++ [row.period]
    activations := db.activations ++ [⟨subscriptionId, row.moyasarSubscriptionId⟩] }
    subscriptionId now

def advanceSubscriptionPeriod (db : Database) (subscriptionId : Nat)
    (now : Int) : Except SubscriptionError Database := do
  let sub ← orFail .notFound (db.subscriptions.lookup subscriptionId)
  let row := sub.setAdvanced now
  require (db.Admits row) .constraint
  grantMonthlyCredits { db with
    subscriptions := db.subscriptions.update subscriptionId
      (Subscription.setAdvanced now) (Subscription.setAdvanced_id now)
    periods := db.periods ++ [row.period] }
    subscriptionId now

inductive SubscriptionAction where
  | createPending (renterId : Nat) (tierKey : String) (now : Int)
  | cancelStalePendings (renterId : Nat) (now : Int)
  | activate (subscriptionId : Nat) (moyasarSubscriptionId : Option String) (now : Int)
  | advance (subscriptionId : Nat) (now : Int)

/-- A call that throws has written nothing. -/
def settle (db : Database) :
    Except SubscriptionError Database → Database
  | .ok after => after
  | .error _ => db

def next (db : Database) : SubscriptionAction → Option Database
  | .createPending renterId tierKey now =>
    some (settle db (createPendingSubscription db renterId tierKey now))
  | .cancelStalePendings renterId now =>
    some (cancelStalePendings db renterId now)
  | .activate subscriptionId moyasarSubscriptionId now =>
    some (settle db (activateSubscription db subscriptionId moyasarSubscriptionId now))
  | .advance subscriptionId now =>
    some (settle db (advanceSubscriptionPeriod db subscriptionId now))

end DcpPlatform.Subscriptions
