import DcpPlatform.Foundation.Table

/-!
# The payment gateway

A hosted invoice is paid by attempts, each a charge of its own; a saved card
is charged without an invoice. At most one attempt on an invoice is paid, and
a status is announced only when the charge has it or has passed through it.
-/

namespace DcpPlatform.Topups

open Foundation Table

/-- `other` stands for the statuses the platform does not know. -/
inductive ChargeStatus where
  | initiated | paid | failed | refunded | other
  deriving DecidableEq

def ChargeStatus.wasPaid : ChargeStatus → Bool
  | .paid | .refunded => true
  | _ => false

def Reached (status reported : ChargeStatus) : Prop :=
  reported = .initiated ∨ reported = .other ∨ reported = status ∨
    (reported = .paid ∧ status = .refunded)
deriving Decidable

theorem Reached.wasPaid {status : ChargeStatus}
    (reached : Reached status .paid) : status.wasPaid = true := by
  rcases reached with same | same | same | same
  · cases same
  · cases same
  · rw [← same]
    rfl
  · rw [same.2]
    rfl

/-- `topup` is the number of the platform's own row for the invoice, which
its checkout link leads back to. -/
structure Invoice where
  id : Nat
  topup : Nat
  renterId : Nat
  amountHalala : Int
  expired : Bool
  deriving DecidableEq

structure Charge where
  id : Nat
  invoiceId : Option Nat
  renterId : Nat
  amountHalala : Int
  carriesRenter : Bool
  status : ChargeStatus
  deriving DecidableEq

structure Gateway where
  invoices : Table Invoice Invoice.id
  charges : Table Charge Charge.id

def Charge.setStatus (status : ChargeStatus) (charge : Charge) : Charge :=
  { charge with status := status }

@[simp]
theorem Charge.setStatus_id (status : ChargeStatus) (charge : Charge) :
    (charge.setStatus status).id = charge.id :=
  rfl

def Invoice.setExpired (invoice : Invoice) : Invoice :=
  { invoice with expired := true }

@[simp]
theorem Invoice.setExpired_id (invoice : Invoice) :
    invoice.setExpired.id = invoice.id :=
  rfl

namespace Gateway

/-- Invoices and charges share one space of ids. -/
def Fresh (gateway : Gateway) (id : Nat) : Prop :=
  gateway.invoices.lookup id = none ∧ gateway.charges.lookup id = none
deriving Decidable

def createInvoice (gateway : Gateway) (invoice : Invoice) : Gateway :=
  { gateway with invoices := gateway.invoices.insertIfNew invoice }

def createCharge (gateway : Gateway) (charge : Charge) : Gateway :=
  { gateway with charges := gateway.charges.insertIfNew charge }

/-- The customer tries a card on the checkout page of an invoice. -/
def attempt (gateway : Gateway) (invoice : Invoice) (chargeId : Nat)
    (carriesRenter : Bool) : Gateway :=
  gateway.createCharge
    { id := chargeId, invoiceId := some invoice.id
      renterId := invoice.renterId
      amountHalala := invoice.amountHalala
      carriesRenter := carriesRenter, status := .initiated }

def PaidOtherwise (gateway : Gateway) (charge : Charge) : Prop :=
  charge.invoiceId.isSome ∧
    ∃ other ∈ gateway.charges.rows, other.invoiceId = charge.invoiceId ∧ other.status.wasPaid = true
deriving Decidable

def setChargeStatus (gateway : Gateway) (chargeId : Nat) (status : ChargeStatus) : Gateway :=
  { gateway with
    charges := gateway.charges.update chargeId (Charge.setStatus status)
      (Charge.setStatus_id status) }

def expire (gateway : Gateway) (invoiceId : Nat) : Gateway :=
  { gateway with
    invoices := gateway.invoices.update invoiceId Invoice.setExpired Invoice.setExpired_id }

/-- What `GET /invoices/:id` and `GET /payments/:id` report. -/
inductive ReportedStatus where
  | paid | failed | voided | canceled | expired | waiting

structure Report where
  status : ReportedStatus
  amountHalala : Int

def payingCharge (gateway : Gateway) (invoiceId : Nat) : Option Charge :=
  gateway.charges.rows.find? (fun charge =>
    charge.invoiceId = some invoiceId ∧ charge.status = .paid)

def invoiceReport (gateway : Gateway) (invoice : Invoice) : Report where
  status :=
    if (gateway.payingCharge invoice.id).isSome then .paid
    else if invoice.expired then .expired
    else .waiting
  amountHalala := invoice.amountHalala

def chargeReport (charge : Charge) : Report where
  status :=
    match charge.status with
    | .paid => .paid
    | .failed => .failed
    | _ => .waiting
  amountHalala := charge.amountHalala

end Gateway

structure Charge.Later (charge later : Charge) : Prop where
  invoice : later.invoiceId = charge.invoiceId
  renter : later.renterId = charge.renterId
  amount : later.amountHalala = charge.amountHalala
  paid : charge.status.wasPaid = true → later.status.wasPaid = true
  refunded : charge.status = .refunded → later.status = .refunded

structure Invoice.Later (invoice later : Invoice) : Prop where
  topup : later.topup = invoice.topup
  renter : later.renterId = invoice.renterId
  amount : later.amountHalala = invoice.amountHalala

structure Gateway.Grows (before after : Gateway) : Prop where
  invoices : ∀ id invoice, before.invoices.lookup id = some invoice →
    ∃ later, after.invoices.lookup id = some later ∧ invoice.Later later
  charges : ∀ id charge, before.charges.lookup id = some charge →
    ∃ later, after.charges.lookup id = some later ∧ charge.Later later

namespace Gateway.Grows

variable (gateway : Gateway)

theorem refl : Grows gateway gateway where
  invoices := fun _ invoice found => ⟨invoice, found, rfl, rfl, rfl⟩
  charges := fun _ charge found =>
    ⟨charge, found, rfl, rfl, rfl, id, id⟩

theorem trans {first second third : Gateway}
    (earlier : Grows first second) (later : Grows second third) :
    Grows first third where
  invoices := by
    intro id invoice found
    obtain ⟨middle, middleFound, one⟩ := earlier.invoices id invoice found
    obtain ⟨last, lastFound, two⟩ := later.invoices id middle middleFound
    exact ⟨last, lastFound, two.topup.trans one.topup,
      two.renter.trans one.renter, two.amount.trans one.amount⟩
  charges := by
    intro id charge found
    obtain ⟨middle, middleFound, one⟩ := earlier.charges id charge found
    obtain ⟨last, lastFound, two⟩ := later.charges id middle middleFound
    exact ⟨last, lastFound, two.invoice.trans one.invoice,
      two.renter.trans one.renter, two.amount.trans one.amount,
      two.paid ∘ one.paid, two.refunded ∘ one.refunded⟩

theorem of_createInvoice (invoice : Invoice) :
    Grows gateway (gateway.createInvoice invoice) where
  invoices := by
    intro id stored found
    refine ⟨stored, ?_, rfl, rfl, rfl⟩
    simp only [createInvoice, insertIfNew]
    split
    · exact lookup_insert_of_some _ _ found
    · exact found
  charges := (refl gateway).charges

theorem of_createCharge (charge : Charge) :
    Grows gateway (gateway.createCharge charge) where
  invoices := (refl gateway).invoices
  charges := by
    intro id stored found
    refine ⟨stored, ?_, rfl, rfl, rfl, fun paid => paid, fun refunded => refunded⟩
    simp only [createCharge, insertIfNew]
    split
    · exact lookup_insert_of_some _ _ found
    · exact found

theorem of_setChargeStatus {gateway : Gateway} {charge : Charge} {status : ChargeStatus}
    (paid : charge.status.wasPaid = true → status.wasPaid = true)
    (refunded : charge.status = .refunded → status = .refunded)
    (current : gateway.charges.lookup charge.id = some charge) :
    Grows gateway (gateway.setChargeStatus charge.id status) where
  invoices := (refl gateway).invoices
  charges := by
    intro id stored found
    by_cases same : id = charge.id
    · subst same
      rw [current] at found
      cases found
      exact ⟨charge.setStatus status, lookup_update_of_some _ _ (Charge.setStatus_id status)
        current, rfl, rfl, rfl, paid, refunded⟩
    · exact ⟨stored, (lookup_update_of_ne _ (Charge.setStatus_id status)
        same).trans found, rfl, rfl, rfl, fun paid => paid,
        fun refunded => refunded⟩

theorem of_expire (invoiceId : Nat) :
    Grows gateway (gateway.expire invoiceId) where
  invoices := by
    intro id stored found
    by_cases same : id = invoiceId
    · subst same
      exact ⟨stored.setExpired, lookup_update_of_some _ _ Invoice.setExpired_id found,
        rfl, rfl, rfl⟩
    · exact ⟨stored, (lookup_update_of_ne _ Invoice.setExpired_id same).trans found, rfl, rfl, rfl⟩
  charges := (refl gateway).charges

end Gateway.Grows

end DcpPlatform.Topups
