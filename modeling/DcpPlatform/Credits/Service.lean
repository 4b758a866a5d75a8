import DcpPlatform.Foundation.Query
import DcpPlatform.Foundation.Transaction

/-!
# The credit service

`addCredits` and `deductCredits` write an entry of the ledger and a balance in
one transaction. The ledger refers to renters by a foreign key. A value that
is not a number is `none`; the random id of an entry and the statement that
throws are arguments.
-/

namespace DcpPlatform.Credits

open Foundation

inductive Direction where
  | credit | debit

structure Entry where
  id : Nat
  renterId : Nat
  amountHalala : Int
  direction : Direction
  source : String
  jobId : Option String
  paymentRef : Option String
  note : Option String
  createdAt : Int

structure Renter where
  id : Nat
  deleted : Bool
  balanceHalala : Int
  totalSpentHalala : Int
  totalJobs : Nat
  updatedAt : Option Int

structure Database where
  renters : Table Renter Renter.id
  ledger : Table Entry Entry.id

def validSources : List String :=
  ["topup", "admin_grant", "job_debit", "job_refund", "adjustment"]

def positiveInteger (amount : Option ℚ) : Option Int :=
  amount.bind (fun value =>
    if value.den = 1 ∧ 0 < value then some value.num else none)

def nonEmpty (text : Option String) : Option String :=
  text.filter (fun text => text ≠ "")

structure CreditOptions where
  jobId : Option String
  paymentRef : Option String
  note : Option String

structure Credited where
  ledgerId : Nat
  newBalanceHalala : Int

inductive Deduction where
  | deducted (ledgerId : Nat) (newBalanceHalala : Int)
  | renterNotFound
  | insufficientBalance (balanceHalala shortfallHalala : Int)

def amountMessage : String :=
  "amountHalala must be a positive integer"

def sourceMessage (source : String) : String :=
  "Invalid source \"" ++ source ++ "\". Must be one of: " ++ String.intercalate ", " validSources

def jobIdMessage : String :=
  "jobId is required for debit ledger entries"

def undefinedMessage : String :=
  "Cannot read properties of undefined (reading 'balance_halala')"

/-! ## Statements -/

abbrev Crediting := Tx (Session Database) String

def insertEntry (entry : Entry) : Crediting PUnit :=
  statement (fun db =>
    if entry.amountHalala ≤ 0 then
      .error "CHECK constraint failed: amount_halala > 0"
    else if (db.renters.lookup entry.renterId).isNone then
      .error "FOREIGN KEY constraint failed"
    else if fresh : db.ledger.lookup entry.id = none then
      .ok (PUnit.unit, { db with ledger := db.ledger.insert entry fresh })
    else
      .error "UNIQUE constraint failed: renter_credit_ledger.id")

def updateRenter (renterId : Nat) (change : Renter → Renter)
    (keeps : ∀ renter, (change renter).id = renter.id) : Crediting PUnit :=
  statement (fun db =>
    .ok (PUnit.unit, { db with renters := db.renters.update renterId change keeps }))

def selectBalance (renterId : Nat) : Crediting (Option Int) :=
  statement (fun db =>
    .ok ((db.renters.lookup renterId).map Renter.balanceHalala, db))

def selectRenter (renterId : Nat) : Crediting (Option Renter) :=
  statement (fun db =>
    .ok ((db.renters.lookup renterId).filter (fun renter =>
      renter.deleted = false), db))

namespace Renter

def credit (amount now : Int) (renter : Renter) : Renter :=
  { renter with
    balanceHalala := renter.balanceHalala + amount
    updatedAt := some now }

@[simp]
theorem credit_id (amount now : Int) (renter : Renter) :
    (renter.credit amount now).id = renter.id :=
  rfl

def spend (amount now : Int) (renter : Renter) : Renter :=
  { renter with
    balanceHalala := renter.balanceHalala - amount
    totalSpentHalala := renter.totalSpentHalala + amount
    totalJobs := renter.totalJobs + 1
    updatedAt := some now }

@[simp]
theorem spend_id (amount now : Int) (renter : Renter) :
    (renter.spend amount now).id = renter.id :=
  rfl

end Renter

def creditEntry (renterId : Nat) (amount : Int) (source : String)
    (opts : CreditOptions) (ledgerId : Nat) (now : Int) : Entry :=
  { id := ledgerId
    renterId := renterId
    amountHalala := amount
    direction := .credit
    source := source
    jobId := nonEmpty opts.jobId
    paymentRef := nonEmpty opts.paymentRef
    note := nonEmpty opts.note
    createdAt := now }

def addTxn (entry : Entry) : Crediting (Option Int) := do
  insertEntry entry
  updateRenter entry.renterId (Renter.credit entry.amountHalala entry.createdAt)
    (Renter.credit_id _ _)
  selectBalance entry.renterId

def addCredits (renterId : Nat) (amountHalala : Option ℚ)
    (source : String) (opts : CreditOptions) (ledgerId : Nat) (now : Int) :
    Crediting Credited :=
  match positiveInteger amountHalala with
  | none => Tx.fail amountMessage
  | some amount =>
    if source ∉ validSources then
      Tx.fail (sourceMessage source)
    else do
      let updated ← Tx.transaction (addTxn (creditEntry renterId amount source opts ledgerId now))
      match updated with
      | some balance => return ⟨ledgerId, balance⟩
      -- after the commit
      | none => Tx.fail undefinedMessage

def debitEntry (renterId : Nat) (amount : Int) (jobId : String)
    (ledgerId : Nat) (now : Int) : Entry :=
  { id := ledgerId
    renterId := renterId
    amountHalala := amount
    direction := .debit
    source := "job_debit"
    jobId := some jobId
    paymentRef := none
    note := none
    createdAt := now }

def deductTxn (entry : Entry) : Crediting Deduction := do
  let renter ← selectRenter entry.renterId
  match renter with
  | none => return .renterNotFound
  | some renter =>
    if renter.balanceHalala < entry.amountHalala then
      return .insufficientBalance renter.balanceHalala (entry.amountHalala - renter.balanceHalala)
    else
      insertEntry entry
      updateRenter entry.renterId (Renter.spend entry.amountHalala entry.createdAt)
        (Renter.spend_id _ _)
      let updated ← selectBalance entry.renterId
      match updated with
      | some balance => return .deducted entry.id balance
      | none => Tx.fail undefinedMessage

def deductCredits (renterId : Nat) (amountHalala : Option ℚ)
    (jobId : Option String) (ledgerId : Nat) (now : Int) :
    Crediting Deduction :=
  match positiveInteger amountHalala with
  | none => Tx.fail amountMessage
  | some amount =>
    match nonEmpty jobId with
    | none => Tx.fail jobIdMessage
    | some jobId =>
      Tx.transaction (deductTxn (debitEntry renterId amount jobId ledgerId now))

inductive CreditCall where
  | add (renterId : Nat) (amountHalala : Option ℚ) (source : String)
      (opts : CreditOptions) (ledgerId : Nat) (now : Int)
      (fault : Option Fault)
  | deduct (renterId : Nat) (amountHalala : Option ℚ)
      (jobId : Option String) (ledgerId : Nat) (now : Int)
      (fault : Option Fault)

inductive Reply where
  | credited (credited : Credited)
  | deduction (deduction : Deduction)

def CreditCall.run (db : Database) : CreditCall → Except String Reply × Database
  | .add renterId amountHalala source opts ledgerId now fault =>
    let (outcome, session) := addCredits renterId amountHalala source opts ledgerId now ⟨db, fault⟩
    (outcome.map Reply.credited, session.db)
  | .deduct renterId amountHalala jobId ledgerId now fault =>
    let (outcome, session) := deductCredits renterId amountHalala jobId ledgerId now ⟨db, fault⟩
    (outcome.map Reply.deduction, session.db)

def creditNext (db : Database) (call : CreditCall) : Option Database :=
  some (call.run db).2

end DcpPlatform.Credits
