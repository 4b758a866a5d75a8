import DcpPlatform.Topups.Effects

/-!
# Payment rows and gateway ids

`Bindings`: an id names an invoice or a charge with the renter and the amount
of the row; no two rows have the same id; and once a row is bound to an
attempt on an invoice, no row is bound to the invoice itself.
-/

namespace DcpPlatform.Topups

open Foundation Table

inductive NamedBy (gateway : Gateway) (payment : Payment) (id : Nat) :
    Prop
  | invoice {invoice : Invoice} :
      gateway.invoices.lookup id = some invoice →
      payment.paymentId = .topup invoice.topup →
      payment.renterId = invoice.renterId →
      payment.amountHalala = invoice.amountHalala →
      NamedBy gateway payment id
  | charge {charge : Charge} :
      gateway.charges.lookup id = some charge →
      payment.renterId = charge.renterId →
      payment.amountHalala = charge.amountHalala →
      NamedBy gateway payment id

structure Bindings (db : Database) (gateway : Gateway) : Prop where
  named : ∀ key payment id, db.payments.lookup key = some payment →
    payment.moyasarId = some id → NamedBy gateway payment id
  distinct : ∀ key other payment otherPayment id, db.payments.lookup key = some payment →
    db.payments.lookup other = some otherPayment →
    payment.moyasarId = some id → otherPayment.moyasarId = some id → key = other
  replaced : ∀ key payment id charge invoiceId,
    db.payments.lookup key = some payment → payment.moyasarId = some id →
      gateway.charges.lookup id = some charge →
      charge.invoiceId = some invoiceId → ∀ other otherPayment,
        db.payments.lookup other = some otherPayment → otherPayment.moyasarId ≠ some invoiceId
  stored : ∀ id invoice, gateway.invoices.lookup id = some invoice → ∃ payment,
    db.payments.lookup (.topup invoice.topup) = some payment ∧ payment.renterId = invoice.renterId ∧
      payment.amountHalala = invoice.amountHalala
  charged : ∀ id charge invoiceId, gateway.charges.lookup id = some charge →
    charge.invoiceId = some invoiceId → ∃ invoice,
      gateway.invoices.lookup invoiceId = some invoice ∧ charge.renterId = invoice.renterId ∧
        charge.amountHalala = invoice.amountHalala
  apart : ∀ id invoice, gateway.invoices.lookup id = some invoice → gateway.charges.lookup id = none

structure Gateway.Extends (before after : Gateway) : Prop where
  grows : Gateway.Grows before after
  invoices : ∀ id later, after.invoices.lookup id = some later →
    ∃ invoice, before.invoices.lookup id = some invoice ∧ invoice.Later later
  charges : ∀ id later, after.charges.lookup id = some later → (∃ charge,
    before.charges.lookup id = some charge ∧ charge.Later later) ∨
    (before.Fresh id ∧ ∀ invoiceId, later.invoiceId = some invoiceId →
      ∃ invoice, before.invoices.lookup invoiceId = some invoice ∧
        later.renterId = invoice.renterId ∧
        later.amountHalala = invoice.amountHalala)

namespace Gateway.Extends

theorem refl (gateway : Gateway) : Extends gateway gateway where
  grows := Grows.refl gateway
  invoices := fun _ invoice found => ⟨invoice, found, rfl, rfl, rfl⟩
  charges := fun _ charge found =>
    Or.inl ⟨charge, found, rfl, rfl, rfl, id, id⟩

variable {gateway : Gateway} {charge : Charge}

theorem of_createCharge (fresh : gateway.Fresh charge.id)
    (invoice : ∀ invoiceId, charge.invoiceId = some invoiceId → ∃ invoice,
      gateway.invoices.lookup invoiceId = some invoice ∧ charge.renterId = invoice.renterId ∧
        charge.amountHalala = invoice.amountHalala) :
    Extends gateway (gateway.createCharge charge) where
  grows := Grows.of_createCharge gateway charge
  invoices := (refl gateway).invoices
  charges := by
    intro id later found
    simp only [createCharge, insertIfNew_of_fresh fresh.2, lookup_insert] at found
    split at found
    · rename_i same
      injection found with sameCharge
      subst same sameCharge
      exact Or.inr ⟨fresh, invoice⟩
    · exact (refl gateway).charges id later found

theorem of_setChargeStatus {status : ChargeStatus}
    (paid : charge.status.wasPaid = true → status.wasPaid = true)
    (refunded : charge.status = .refunded → status = .refunded)
    (current : gateway.charges.lookup charge.id = some charge) :
    Extends gateway (gateway.setChargeStatus charge.id status) where
  grows := Grows.of_setChargeStatus paid refunded current
  invoices := (refl gateway).invoices
  charges := by
    intro id later found
    rcases lookup_of_lookup_update (Charge.setStatus_id status)
        found with ⟨same, stored, storedFound, changed⟩ | ⟨_, kept⟩
    · subst same
      rw [current] at storedFound
      injection storedFound with same
      subst same changed
      exact Or.inl ⟨charge, current, rfl, rfl, rfl, paid, refunded⟩
    · exact (refl gateway).charges id later kept

theorem of_expire (gateway : Gateway) (invoiceId : Nat) :
    Extends gateway (gateway.expire invoiceId) where
  grows := Grows.of_expire gateway invoiceId
  invoices := by
    intro id later found
    rcases lookup_of_lookup_update Invoice.setExpired_id found with
      ⟨_, stored, storedFound, rfl⟩ | ⟨_, kept⟩
    · exact ⟨stored, storedFound, rfl, rfl, rfl⟩
    · exact ⟨later, kept, rfl, rfl, rfl⟩
  charges := (refl gateway).charges

end Gateway.Extends

theorem NamedBy.of_grows {before after : Gateway} {payment : Payment}
    {id : Nat} (grows : Gateway.Grows before after)
    (named : NamedBy before payment id) : NamedBy after payment id := by
  cases named with
  | invoice found key renter amount =>
    obtain ⟨later, laterFound, kept⟩ := grows.invoices id _ found
    refine NamedBy.invoice laterFound ?_ ?_ ?_
    · rw [kept.topup]
      exact key
    · exact renter.trans kept.renter.symm
    · exact amount.trans kept.amount.symm
  | charge found renter amount =>
    obtain ⟨later, laterFound, kept⟩ := grows.charges id _ found
    exact NamedBy.charge laterFound (renter.trans kept.renter.symm) (amount.trans kept.amount.symm)

variable {gateway : Gateway} {payment : Payment} {id : Nat}

theorem NamedBy.not_fresh (named : NamedBy gateway payment id) :
    ¬ gateway.Fresh id := by
  rintro ⟨noInvoice, noCharge⟩
  cases named with
  | invoice found _ _ _ =>
    rw [noInvoice] at found
    cases found
  | charge found _ _ =>
    rw [noCharge] at found
    cases found

variable {db : Database}

theorem Bindings.of_extends {before after : Gateway} (extension : Gateway.Extends before after)
    (bindings : Bindings db before) : Bindings db after where
  named := by
    intro key payment id found bound
    exact (bindings.named key payment id found bound).of_grows extension.grows
  distinct := bindings.distinct
  replaced := by
    intro key payment id later invoiceId found bound laterFound invoice
    rcases extension.charges id later laterFound with ⟨charge, chargeFound, kept⟩ | ⟨fresh, _⟩
    · rw [kept.invoice] at invoice
      exact bindings.replaced key payment id charge invoiceId found bound chargeFound invoice
    · have named := bindings.named key payment id found bound
      exact absurd fresh named.not_fresh
  stored := by
    intro id later found
    obtain ⟨invoice, invoiceFound, kept⟩ := extension.invoices id later found
    rw [kept.topup, kept.renter, kept.amount]
    exact bindings.stored id invoice invoiceFound
  charged := by
    intro id later invoiceId found invoice
    have known : ∃ stored, before.invoices.lookup invoiceId = some stored ∧
        later.renterId = stored.renterId ∧
        later.amountHalala = stored.amountHalala := by
      rcases extension.charges id later found with ⟨charge, chargeFound, kept⟩ | ⟨_, known⟩
      · rw [kept.invoice] at invoice
        rw [kept.renter, kept.amount]
        exact bindings.charged id charge invoiceId chargeFound invoice
      · exact known invoiceId invoice
    obtain ⟨stored, storedFound, renter, amount⟩ := known
    obtain ⟨last, lastFound, kept⟩ := extension.grows.invoices invoiceId stored storedFound
    exact ⟨last, lastFound, renter.trans kept.renter.symm, amount.trans kept.amount.symm⟩
  apart := by
    intro id later found
    obtain ⟨invoice, invoiceFound, _⟩ := extension.invoices id later found
    have noCharge := bindings.apart id invoice invoiceFound
    cases present : after.charges.lookup id with
    | none => rfl
    | some charge =>
      rcases extension.charges id charge present with ⟨earlier, earlierFound, _⟩ | ⟨fresh, _⟩
      · rw [noCharge] at earlierFound
        cases earlierFound
      · rw [fresh.1] at invoiceFound
        cases invoiceFound

theorem boundTo_eq_none_iff :
    boundTo db id = none ↔
      ∀ key payment, db.payments.lookup key = some payment → payment.moyasarId ≠ some id := by
  constructor
  · intro absent key payment found
    exact boundTo_eq_none absent found
  · intro unbound
    cases present : boundTo db id with
    | none => rfl
    | some payment =>
      obtain ⟨found, bound⟩ := boundTo_eq_some present
      exact absurd bound (unbound _ _ found)

variable {before after : Database}

theorem Bindings.of_payments (same : after.payments = before.payments)
    (bindings : Bindings before gateway) : Bindings after gateway := by
  constructor
  · rw [same]
    exact bindings.named
  · rw [same]
    exact bindings.distinct
  · rw [same]
    exact bindings.replaced
  · rw [same]
    exact bindings.stored
  · exact bindings.charged
  · exact bindings.apart

structure Bindable (db : Database) (gateway : Gateway)
    (payment : Payment) (charge : Charge) : Prop where
  found : gateway.charges.lookup charge.id = some charge
  renter : payment.renterId = charge.renterId
  amount : payment.amountHalala = charge.amountHalala
  free : payment.moyasarId = some charge.id ∨ (boundTo db charge.id = none ∧
    ∀ invoiceId, charge.invoiceId = some invoiceId →
      payment.moyasarId = some invoiceId ∨ boundTo db invoiceId = none)

variable {changed : Payment}

theorem Rewrites.lookup_cases (rewrites : Rewrites before after payment changed)
    {key : PaymentKey} {row : Payment}
    (found : after.payments.lookup key = some row) :
    (key = payment.paymentId ∧ row = changed) ∨
      (key ≠ payment.paymentId ∧ before.payments.lookup key = some row) := by
  by_cases same : key = payment.paymentId
  · subst same
    rw [rewrites.stored] at found
    injection found with same
    exact Or.inl ⟨rfl, same.symm⟩
  · rw [rewrites.others key same] at found
    exact Or.inr ⟨same, found⟩

private theorem stored_of_rewrites (rewrites : Rewrites before after payment changed)
    (bindings : Bindings before gateway) {invoice : Invoice}
    (found : gateway.invoices.lookup id = some invoice) :
    ∃ row, after.payments.lookup (.topup invoice.topup) = some row ∧
      row.renterId = invoice.renterId ∧
      row.amountHalala = invoice.amountHalala := by
  obtain ⟨row, rowFound, renter, amount⟩ := bindings.stored id invoice found
  by_cases same : PaymentKey.topup invoice.topup = payment.paymentId
  · have sameRow := rewrites.found
    rw [← same, rowFound] at sameRow
    cases sameRow
    refine ⟨changed, ?_, rewrites.renter.trans renter, rewrites.amount.trans amount⟩
    rw [same]
    exact rewrites.stored
  · refine ⟨row, ?_, renter, amount⟩
    rw [rewrites.others _ same]
    exact rowFound

theorem Bindings.of_kept (rewrites : Rewrites before after payment changed)
    (same : changed.moyasarId = payment.moyasarId)
    (bindings : Bindings before gateway) : Bindings after gateway := by
  have earlier {key : PaymentKey} {row : Payment} (found : after.payments.lookup key = some row) :
      ∃ old, before.payments.lookup key = some old ∧ old.moyasarId = row.moyasarId ∧
        old.paymentId = row.paymentId ∧
        old.renterId = row.renterId ∧
        old.amountHalala = row.amountHalala := by
    rcases rewrites.lookup_cases found with ⟨here, row_⟩ | ⟨_, kept⟩
    · subst here row_
      exact ⟨payment, rewrites.found, same.symm, rewrites.paymentId.symm,
        rewrites.renter.symm, rewrites.amount.symm⟩
    · exact ⟨row, kept, rfl, rfl, rfl, rfl⟩
  constructor
  · intro key row id found bound
    obtain ⟨old, oldFound, sameId, sameKey, renter, amount⟩ := earlier found
    have named := bindings.named key old id oldFound (sameId.trans bound)
    cases named with
    | invoice invoiceFound oldKey oldRenter oldAmount =>
      exact NamedBy.invoice invoiceFound (sameKey.symm.trans oldKey)
        (renter.symm.trans oldRenter) (amount.symm.trans oldAmount)
    | charge chargeFound oldRenter oldAmount =>
      exact NamedBy.charge chargeFound (renter.symm.trans oldRenter) (amount.symm.trans oldAmount)
  · intro key other row otherRow id found otherFound bound otherBound
    obtain ⟨old, oldFound, sameId, _⟩ := earlier found
    obtain ⟨otherOld, otherOldFound, otherSame, _⟩ := earlier otherFound
    exact bindings.distinct key other old otherOld id oldFound
      otherOldFound (sameId.trans bound) (otherSame.trans otherBound)
  · intro key row id charge invoiceId found bound chargeFound invoice
      other otherRow otherFound otherBound
    obtain ⟨old, oldFound, sameId, _⟩ := earlier found
    obtain ⟨otherOld, otherOldFound, otherSame, _⟩ := earlier otherFound
    exact bindings.replaced key old id charge invoiceId oldFound
      (sameId.trans bound) chargeFound invoice other otherOld
      otherOldFound (otherSame.trans otherBound)
  · intro id invoice found
    exact stored_of_rewrites rewrites bindings found
  · exact bindings.charged
  · exact bindings.apart

theorem Bindings.id_ne_invoiceId (bindings : Bindings db gateway) {id other invoiceId : Nat}
    {charge otherCharge : Charge} (found : gateway.charges.lookup id = some charge)
    (otherFound : gateway.charges.lookup other = some otherCharge)
    (invoice : otherCharge.invoiceId = some invoiceId) :
    id ≠ invoiceId := by
  rintro rfl
  obtain ⟨stored, storedFound, _⟩ := bindings.charged other otherCharge id otherFound invoice
  rw [bindings.apart id stored storedFound] at found
  cases found

variable {charge : Charge}

theorem Bindings.of_bound (rewrites : Rewrites before after payment changed)
    (bound : changed.moyasarId = some charge.id)
    (bindable : Bindable before gateway payment charge)
    (bindings : Bindings before gateway) : Bindings after gateway := by
  rcases bindable.free with same | ⟨unbound, noInvoice⟩
  · exact bindings.of_kept rewrites (bound.trans same.symm)
  have free := boundTo_eq_none_iff.mp unbound
  constructor
  · intro key row id found rowBound
    rcases rewrites.lookup_cases found with ⟨_, rfl⟩ | ⟨_, kept⟩
    · rw [bound] at rowBound
      cases rowBound
      exact NamedBy.charge bindable.found (rewrites.renter.trans bindable.renter)
        (rewrites.amount.trans bindable.amount)
    · exact bindings.named key row id kept rowBound
  · intro key other row otherRow id found otherFound rowBound otherBound
    rcases rewrites.lookup_cases found with ⟨here, rfl⟩ | ⟨away, kept⟩
    · rcases rewrites.lookup_cases otherFound with ⟨otherHere, _⟩ | ⟨_, otherKept⟩
      · exact here.trans otherHere.symm
      · rw [bound] at rowBound
        cases rowBound
        exact absurd otherBound (free other otherRow otherKept)
    · rcases rewrites.lookup_cases otherFound with ⟨_, rfl⟩ | ⟨_, otherKept⟩
      · rw [bound] at otherBound
        cases otherBound
        exact absurd rowBound (free key row kept)
      · exact bindings.distinct key other row otherRow id kept otherKept rowBound otherBound
  · intro key row id stored invoiceId found rowBound storedFound invoice
      other otherRow otherFound otherBound
    rcases rewrites.lookup_cases otherFound with ⟨_, rfl⟩ | ⟨otherAway, otherKept⟩
    · rw [bound] at otherBound
      injection otherBound with same
      exact bindings.id_ne_invoiceId bindable.found storedFound invoice same
    · rcases rewrites.lookup_cases found with ⟨_, rfl⟩ | ⟨_, kept⟩
      · rw [bound] at rowBound
        cases rowBound
        rw [bindable.found] at storedFound
        cases storedFound
        rcases noInvoice invoiceId invoice with onInvoice | absent
        · exact otherAway (bindings.distinct other payment.paymentId otherRow payment
            invoiceId otherKept rewrites.found otherBound onInvoice)
        · exact boundTo_eq_none absent otherKept otherBound
      · exact bindings.replaced key row id stored invoiceId kept rowBound
          storedFound invoice other otherRow otherKept otherBound
  · intro id invoice found
    exact stored_of_rewrites rewrites bindings found
  · exact bindings.charged
  · exact bindings.apart

structure Insertable (db : Database) (gateway : Gateway) (payment : Payment) (id : Nat) : Prop where
  unbound : boundTo db id = none
  named : NamedBy gateway payment id
  noAttempt : ∀ charge, gateway.charges.lookup id = some charge → charge.invoiceId = none
  noAttempts :
    ∀ chargeId charge, gateway.charges.lookup chargeId = some charge → charge.invoiceId ≠ some id

theorem Bindings.of_inserted {gateway later : Gateway}
    (fresh : before.payments.lookup payment.paymentId = none)
    (inserted : after.payments = before.payments.insert payment fresh)
    (grows : Gateway.Grows gateway later)
    (charges : later.charges = gateway.charges)
    (invoices : ∀ id invoice, later.invoices.lookup id = some invoice →
      gateway.invoices.lookup id = some invoice ∨ (gateway.charges.lookup id = none ∧
        payment.paymentId = .topup invoice.topup ∧
        payment.renterId = invoice.renterId ∧
        payment.amountHalala = invoice.amountHalala))
    (insertable : ∀ id, payment.moyasarId = some id → Insertable before later payment id)
    (bindings : Bindings before gateway) : Bindings after later := by
  have cases_ {key : PaymentKey} {row : Payment} (found : after.payments.lookup key = some row) :
      row = payment ∨ before.payments.lookup key = some row := by
    rw [inserted, lookup_insert] at found
    split at found
    · injection found with same
      exact Or.inl same.symm
    · exact Or.inr found
  have key_ {key : PaymentKey} (found : after.payments.lookup key = some payment) :
      key = payment.paymentId :=
    (lookup_key found).symm
  constructor
  · intro key row id found bound
    rcases cases_ found with rfl | kept
    · exact (insertable id bound).named
    · exact (bindings.named key row id kept bound).of_grows grows
  · intro key other row otherRow id found otherFound bound otherBound
    rcases cases_ found with rfl | kept
    · rcases cases_ otherFound with rfl | otherKept
      · exact (key_ found).trans (key_ otherFound).symm
      · exact absurd otherBound (boundTo_eq_none (insertable id bound).unbound otherKept)
    · rcases cases_ otherFound with rfl | otherKept
      · exact absurd bound (boundTo_eq_none (insertable id otherBound).unbound kept)
      · exact bindings.distinct key other row otherRow id kept otherKept bound otherBound
  · intro key row id charge invoiceId found bound chargeFound invoice
      other otherRow otherFound otherBound
    rcases cases_ otherFound with rfl | otherKept
    · exact (insertable invoiceId otherBound).noAttempts id charge chargeFound invoice
    · rcases cases_ found with rfl | kept
      · rw [(insertable id bound).noAttempt charge chargeFound] at invoice
        cases invoice
      · rw [charges] at chargeFound
        exact bindings.replaced key row id charge invoiceId kept bound
          chargeFound invoice other otherRow otherKept otherBound
  · intro id invoice found
    rcases invoices id invoice found with old | ⟨_, paymentKey, renter, amount⟩
    · obtain ⟨row, rowFound, renter, amount⟩ := bindings.stored id invoice old
      refine ⟨row, ?_, renter, amount⟩
      rw [inserted]
      exact lookup_insert_of_some _ fresh rowFound
    · refine ⟨payment, ?_, renter, amount⟩
      rw [inserted, ← paymentKey]
      exact lookup_insert_self _ _ fresh
  · intro id charge invoiceId found invoice
    rw [charges] at found
    obtain ⟨stored, storedFound, renter, amount⟩ :=
      bindings.charged id charge invoiceId found invoice
    obtain ⟨last, lastFound, kept⟩ := grows.invoices invoiceId stored storedFound
    exact ⟨last, lastFound, renter.trans kept.renter.symm, amount.trans kept.amount.symm⟩
  · intro id invoice found
    rw [charges]
    rcases invoices id invoice found with old | ⟨absent, _⟩
    · exact bindings.apart id invoice old
    · exact absent

theorem Matches.bindable {status : EventStatus} {amountRefunded : Option Int}
    (matched : Matches db (eventOf charge status amountRefunded) payment)
    (bindings : Bindings db gateway)
    (found : db.payments.lookup payment.paymentId = some payment)
    (known : gateway.charges.lookup charge.id = some charge) :
    Bindable db gateway payment charge := by
  cases matched with
  | byId bound =>
    have named := bindings.named _ payment charge.id found bound
    cases named with
    | invoice invoiceFound _ _ _ =>
      rw [bindings.apart _ _ invoiceFound] at known
      cases known
    | @charge stored chargeFound renter amount =>
      rw [known] at chargeFound
      cases chargeFound
      exact ⟨known, renter, amount, Or.inl bound⟩
  | @byInvoice invoiceId unbound invoice bound =>
    have named := bindings.named _ payment invoiceId found bound
    obtain ⟨stored, storedFound, renter, amount⟩ :=
      bindings.charged charge.id charge invoiceId known invoice
    cases named with
    | @invoice other invoiceFound _ otherRenter otherAmount =>
      rw [storedFound] at invoiceFound
      cases invoiceFound
      refine ⟨known, otherRenter.trans renter.symm,
        otherAmount.trans amount.symm, Or.inr ⟨unbound, ?_⟩⟩
      intro other otherInvoice
      have same : invoiceId = other := by
        have both := invoice.symm.trans otherInvoice
        injection both
      rw [← same]
      exact Or.inl bound
    | charge chargeFound _ _ =>
      rw [bindings.apart _ _ storedFound] at chargeFound
      cases chargeFound
  | byAmount unbound noInvoice _ renter amount _ =>
    have owner : payment.renterId = charge.renterId := by
      obtain ⟨_, same⟩ := of_ite_eq_some renter
      exact same.symm
    exact ⟨known, owner, amount, Or.inr ⟨unbound, fun invoiceId invoice =>
      Or.inr (noInvoice invoiceId invoice)⟩⟩

/-! ## Every step keeps the bindings -/

theorem markPaymentPaidOnce_bindings
    (credit : Credit) (now : Int) (bindings : Bindings db gateway) :
    Bindings (markPaymentPaidOnce db credit now).1 gateway := by
  rcases markPaymentPaidOnce_cases db credit now with ⟨same, _⟩ | ⟨payment, after, same, paid⟩
  · rw [same]
    exact bindings
  · rw [same]
    exact bindings.of_kept paid.rewrites rfl

theorem resumeVerify_bindings (payment : Payment) (now : Int) (bindings : Bindings db gateway) :
    Bindings (resumeVerify db gateway payment now) gateway := by
  unfold resumeVerify
  split
  · exact bindings
  · split
    · exact markPaymentPaidOnce_bindings _ now bindings
    · exact bindings

theorem failAwaited_bindings (paymentId : PaymentKey) (bindings : Bindings db gateway) :
    Bindings (failAwaited db paymentId) gateway := by
  by_cases changes : db.payments.changes paymentId IsAwaited
  · obtain ⟨payment, found, awaited⟩ := changes
    have key := lookup_key found
    subst key
    have rewrites :
        Rewrites db (failAwaited db payment.paymentId) payment (payment.setStatus .failed) := by
      apply Rewrites.of_update (Payment.setStatus_paymentId .failed) found rfl rfl
      exact updateWhere_of_met _ found awaited
    exact bindings.of_kept rewrites rfl
  · apply bindings.of_payments
    exact updateWhere_of_unmet (Payment.setStatus_paymentId .failed) changes

theorem resumeSweep_bindings (row : SweptRow) (now : Int) (bindings : Bindings db gateway) :
    Bindings (resumeSweep db gateway row now) gateway := by
  unfold resumeSweep
  split
  · exact bindings
  · split
    · exact markPaymentPaidOnce_bindings _ now bindings
    · exact failAwaited_bindings _ bindings
    · exact bindings
    · exact bindings

theorem webhook_bindings (known : gateway.charges.lookup charge.id = some charge)
    (status : EventStatus) (amountRefunded : Option Int) (now : Int)
    (bindings : Bindings db gateway) :
    Bindings (webhook db (eventOf charge status amountRefunded) now).1
      gateway := by
  have effect := webhook_effect db (eventOf charge status amountRefunded) now
  cases effect with
  | ignored same _ _ =>
    rw [same]
    exact bindings
  | moved matched rewrites bound _ _ _ _ | credited matched rewrites bound _ _ _ _ _ =>
    exact bindings.of_bound rewrites bound (matched.bindable bindings rewrites.found known)

def TriggersLinked (state : State) : Prop :=
  ∀ attemptId call chargeId, state.triggers.lookup attemptId = some call →
    call.chargeId = some chargeId → ∃ charge,
      state.gateway.charges.lookup chargeId = some charge ∧ charge.invoiceId = none ∧
        call.renterId = charge.renterId ∧
        call.amountHalala = charge.amountHalala

structure Linked (state : State) : Prop where
  bindings : Bindings state.db state.gateway
  triggers : TriggersLinked state

variable {before after : State}

theorem TriggersLinked.of_grows (linked : TriggersLinked before)
    (grows : Gateway.Grows before.gateway after.gateway)
    (triggers : ∀ attemptId call chargeId, after.triggers.lookup attemptId = some call →
      call.chargeId = some chargeId → ∃ earlier,
        before.triggers.lookup attemptId = some earlier ∧ earlier.chargeId = some chargeId ∧
          earlier.renterId = call.renterId ∧
          earlier.amountHalala = call.amountHalala) :
    TriggersLinked after := by
  intro attemptId call chargeId found charged
  obtain ⟨earlier, earlierFound, same, renterSame, amountSame⟩ :=
    triggers attemptId call chargeId found charged
  obtain ⟨charge, chargeFound, noInvoice, renter, amount⟩ :=
    linked attemptId earlier chargeId earlierFound same
  obtain ⟨later, laterFound, kept⟩ := grows.charges chargeId charge chargeFound
  refine ⟨later, laterFound, kept.invoice.trans noInvoice, ?_, ?_⟩
  · rw [← renterSame, renter, kept.renter]
  · rw [← amountSame, amount, kept.amount]

theorem TriggersLinked.of_same (linked : TriggersLinked before)
    (grows : Gateway.Grows before.gateway after.gateway)
    (same : after.triggers = before.triggers) : TriggersLinked after := by
  apply linked.of_grows grows
  intro attemptId call chargeId found charged
  rw [same] at found
  exact ⟨call, found, charged, rfl, rfl⟩

variable {state : State}

theorem TriggersLinked.of_answered
    (linked : TriggersLinked state) (attemptId : Nat) (db : Database) :
    TriggersLinked (state.answerTrigger attemptId db) := by
  refine @TriggersLinked.of_grows state _ linked (Gateway.Grows.refl _) ?_
  intro other call chargeId found charged
  rcases lookup_of_lookup_update TriggerCall.setAnswered_attemptId
      found with ⟨_, earlier, earlierFound, changed⟩ | ⟨_, kept⟩
  · subst changed
    exact ⟨earlier, earlierFound, charged, rfl, rfl⟩
  · exact ⟨call, kept, charged, rfl, rfl⟩

variable {attemptId : Nat} {call : TriggerCall}

theorem Linked.insertable (linked : Linked state)
    (found : state.triggers.lookup attemptId = some call)
    (charged : call.chargeId = some charge.id)
    (known : state.gateway.charges.lookup charge.id = some charge)
    (unbound : boundTo db charge.id = none) (status : PaymentStatus) :
    Insertable db state.gateway (autoPayment call charge.id status)
      charge.id := by
  obtain ⟨stored, storedFound, noInvoice, renter, amount⟩ :=
    linked.triggers attemptId call charge.id found charged
  rw [known] at storedFound
  cases storedFound
  refine ⟨unbound, NamedBy.charge known renter amount, ?_, ?_⟩
  · intro other otherFound
    rw [known] at otherFound
    cases otherFound
    exact noInvoice
  · intro otherId other otherFound invoice
    exact linked.bindings.id_ne_invoiceId known otherFound invoice rfl

theorem Linked.insertOrIgnore (linked : Linked state)
    (found : state.triggers.lookup attemptId = some call)
    (charged : call.chargeId = some charge.id)
    (known : state.gateway.charges.lookup charge.id = some charge)
    (same : db.payments = state.db.payments) (status : PaymentStatus) :
    Bindings (db.insertOrIgnore (autoPayment call charge.id status) charge.id)
      state.gateway := by
  have bindings : Bindings db state.gateway := linked.bindings.of_payments same
  rcases insertOrIgnore_cases db (autoPayment call charge.id status)
      charge.id with ignored | ⟨fresh, unbound, inserted⟩
  · rw [ignored]
    exact bindings
  · rw [inserted]
    refine bindings.of_inserted fresh rfl (Gateway.Grows.refl _) rfl
      (fun _ _ found => Or.inl found) ?_
    intro id bound
    cases bound
    exact linked.insertable found charged known unbound status

theorem Linked.resumeTrigger (linked : Linked state)
    (found : state.triggers.lookup attemptId = some call)
    (charged : call.chargeId = some charge.id)
    (known : state.gateway.charges.lookup charge.id = some charge)
    (status : ChargeStatus) :
    Bindings (Topups.resumeTrigger state.db call charge.id status)
      state.gateway := by
  cases status with
  | paid =>
    obtain ⟨credited, same, payments, _⟩ := finalizePaid_eq state.db call charge.id
    simp only [Topups.resumeTrigger, same]
    exact linked.insertOrIgnore found charged known payments .paid
  | initiated =>
    have inserted := linked.insertOrIgnore found charged known rfl .initiated
    refine inserted.of_payments ?_
    rfl
  | failed =>
    exact linked.bindings.of_payments (finalizeFailure_quiet state.db call).payments
  | refunded | other =>
    refine linked.bindings.of_payments ?_
    rfl

theorem topup_bindings {number renterId : Nat}
    {amount now : Int} {sourceType : SourceType} {invoiceId : Nat}
    (bindings : Bindings state.db state.gateway)
    (freshId : state.gateway.Fresh invoiceId)
    (freshKey : state.db.payments.lookup (.topup number) = none) :
    Bindings { state.db with
      payments := state.db.payments.insertIfNew
        (topupPayment (newInvoice number renterId amount invoiceId) sourceType now) }
      (state.gateway.createInvoice (newInvoice number renterId amount invoiceId)) := by
  have stored : ∀ id invoice, (state.gateway.createInvoice
      (newInvoice number renterId amount invoiceId)).invoices.lookup id = some invoice →
      state.gateway.invoices.lookup id = some invoice ∨
        (id = invoiceId ∧ invoice = newInvoice number renterId amount invoiceId) := by
    intro id invoice found
    have fresh :
        state.gateway.invoices.lookup (newInvoice number renterId amount invoiceId).id = none :=
      freshId.1
    simp only [Gateway.createInvoice, insertIfNew_of_fresh fresh, lookup_insert] at found
    split at found
    · rename_i same
      injection found with sameInvoice
      exact Or.inr ⟨same.symm, sameInvoice.symm⟩
    · exact Or.inl found
  refine bindings.of_inserted freshKey (insertIfNew_of_fresh freshKey)
    (Gateway.Grows.of_createInvoice _ _) rfl ?_ ?_
  · intro id invoice found
    rcases stored id invoice found with old | ⟨here, same⟩
    · exact Or.inl old
    · subst here same
      exact Or.inr ⟨freshId.2, rfl, rfl, rfl⟩
  · intro id bound
    cases bound
    refine ⟨?_, ?_, ?_, ?_⟩
    · apply boundTo_eq_none_iff.mpr
      intro key row found rowBound
      exact (bindings.named key row invoiceId found rowBound).not_fresh freshId
    · have created : (state.gateway.createInvoice
          (newInvoice number renterId amount invoiceId)).invoices.lookup invoiceId =
          some (newInvoice number renterId amount invoiceId) := by
        simp only [Gateway.createInvoice]
        rw [insertIfNew_of_fresh freshId.1]
        exact lookup_insert_self _ _ freshId.1
      exact NamedBy.invoice created rfl rfl rfl
    · intro charge found
      have absent := freshId.2
      simp only [Gateway.createInvoice, newInvoice] at found
      rw [absent] at found
      cases found
    · intro chargeId charge found invoice
      obtain ⟨other, otherFound, _⟩ := bindings.charged chargeId charge invoiceId found invoice
      rw [freshId.1] at otherFound
      cases otherFound

theorem nextTopups_linked {action : TopupAction}
    (fires : Fires nextTopups before action after) (linked : Linked before) :
    Linked after ∧ Gateway.Grows before.gateway after.gateway := by
  cases action with
  | topup number renterId amount sourceType invoiceId now =>
    obtain ⟨allowed, rfl⟩ := of_ite_eq_some fires
    have grows := Gateway.Grows.of_createInvoice before.gateway
        (newInvoice number renterId amount invoiceId)
    exact ⟨⟨topup_bindings linked.bindings allowed.2.1 allowed.2.2,
      linked.triggers.of_same grows rfl⟩, grows⟩
  | bankTransfer number renterId amount now =>
    obtain ⟨fresh, rfl⟩ := of_ite_eq_some fires
    refine ⟨⟨?_, linked.triggers.of_same (Gateway.Grows.refl _) rfl⟩, Gateway.Grows.refl _⟩
    exact linked.bindings.of_inserted fresh (insertIfNew_of_fresh fresh) (Gateway.Grows.refl _) rfl
      (fun _ _ found => Or.inl found) (by rintro _ ⟨⟩)
  | attempt invoiceId chargeId carriesRenter =>
    simp only [Fires, nextTopups] at fires
    split at fires
    · cases fires
    · rename_i invoice invoiceFound
      obtain ⟨fresh, rfl⟩ := of_ite_eq_some fires
      have key := lookup_key invoiceFound
      have extension : Gateway.Extends before.gateway
          (before.gateway.attempt invoice chargeId carriesRenter) := by
        apply Gateway.Extends.of_createCharge fresh
        intro other same
        cases same
        exact ⟨invoice, key ▸ invoiceFound, rfl, rfl⟩
      exact ⟨⟨linked.bindings.of_extends extension,
        linked.triggers.of_same extension.grows rfl⟩, extension.grows⟩
  | settle chargeId paid =>
    obtain ⟨changes, rfl⟩ := of_ite_eq_some fires
    obtain ⟨charge, found, settleable⟩ := changes
    have key := lookup_key found
    subst key
    have extension : Gateway.Extends before.gateway
        (before.gateway.setChargeStatus charge.id (if paid then .paid else .failed)) := by
      refine Gateway.Extends.of_setChargeStatus ?_ ?_ found
      · intro was
        rw [settleable.1] at was
        cases was
      · intro was
        rw [settleable.1] at was
        cases was
    exact ⟨⟨linked.bindings.of_extends extension,
      linked.triggers.of_same extension.grows rfl⟩, extension.grows⟩
  | refund chargeId =>
    obtain ⟨changes, rfl⟩ := of_ite_eq_some fires
    obtain ⟨charge, found, _⟩ := changes
    have key := lookup_key found
    subst key
    have extension :
        Gateway.Extends before.gateway (before.gateway.setChargeStatus charge.id .refunded) :=
      Gateway.Extends.of_setChargeStatus (fun _ => rfl) (fun _ => rfl) found
    exact ⟨⟨linked.bindings.of_extends extension,
      linked.triggers.of_same extension.grows rfl⟩, extension.grows⟩
  | expire invoiceId =>
    cases fires
    have extension := Gateway.Extends.of_expire before.gateway invoiceId
    exact ⟨⟨linked.bindings.of_extends extension,
      linked.triggers.of_same extension.grows rfl⟩, extension.grows⟩
  | deliver chargeId status amountRefunded now =>
    simp only [Fires, nextTopups] at fires
    split at fires
    · cases fires
    · rename_i charge found
      obtain ⟨_, rfl⟩ := of_ite_eq_some fires
      have key := lookup_key found
      subst key
      exact ⟨⟨webhook_bindings found _ _ now linked.bindings,
        linked.triggers.of_same (Gateway.Grows.refl _) rfl⟩,
        Gateway.Grows.refl _⟩
  | startVerify callId renterId key =>
    simp only [Fires, nextTopups] at fires
    split at fires
    all_goals
      cases fires
      exact ⟨⟨linked.bindings, linked.triggers.of_same (Gateway.Grows.refl _) rfl⟩,
        Gateway.Grows.refl _⟩
  | resumeVerify callId reachable now =>
    simp only [Fires, nextTopups] at fires
    split at fires
    · cases fires
    · obtain ⟨_, rfl⟩ := of_ite_none_eq_some fires
      refine ⟨⟨?_, linked.triggers.of_same (Gateway.Grows.refl _) rfl⟩, Gateway.Grows.refl _⟩
      dsimp only
      split
      · exact resumeVerify_bindings _ now linked.bindings
      · exact linked.bindings
  | startSweep callId now =>
    obtain ⟨_, rfl⟩ := of_ite_eq_some fires
    exact ⟨⟨linked.bindings, linked.triggers.of_same (Gateway.Grows.refl _) rfl⟩,
      Gateway.Grows.refl _⟩
  | resumeSweep callId reachable now =>
    simp only [Fires, nextTopups] at fires
    split at fires
    · cases fires
    · split at fires
      · cases fires
      · cases fires
        refine ⟨⟨?_, linked.triggers.of_same (Gateway.Grows.refl _) rfl⟩, Gateway.Grows.refl _⟩
        dsimp only [State.answerSweep]
        split
        · exact resumeSweep_bindings _ now linked.bindings
        · exact linked.bindings
  | startTrigger attemptId renterId clock =>
    obtain ⟨fresh, rfl⟩ := of_ite_eq_some fires
    have quiet := State.startTrigger_quiet before attemptId renterId clock
    have sameGateway : (before.startTrigger attemptId renterId clock).gateway =
        before.gateway := by
      unfold State.startTrigger
      split <;> rfl
    rw [sameGateway]
    refine ⟨⟨?_, ?_⟩, Gateway.Grows.refl _⟩
    · rw [sameGateway]
      exact linked.bindings.of_payments quiet.payments
    · unfold State.startTrigger
      split
      · refine linked.triggers.of_grows (Gateway.Grows.refl _) ?_
        intro other call chargeId found charged
        dsimp only at found
        rw [insertIfNew_of_fresh fresh.2.1, lookup_insert] at found
        split at found
        · cases found
          cases charged
        · exact ⟨call, found, charged, rfl, rfl⟩
      · exact linked.triggers.of_same (Gateway.Grows.refl _) rfl
  | chargeCard attemptId chargeId =>
    simp only [Fires, nextTopups] at fires
    split at fires
    · cases fires
    · rename_i call found
      obtain ⟨allowed, rfl⟩ := of_ite_eq_some fires
      have extension : Gateway.Extends before.gateway
          (before.gateway.createCharge (cardCharge call chargeId)) :=
        Gateway.Extends.of_createCharge allowed.2.2 (by rintro _ ⟨⟩)
      refine ⟨⟨linked.bindings.of_extends extension, ?_⟩, extension.grows⟩
      intro other otherCall id otherFound charged
      rcases lookup_of_lookup_update (TriggerCall.setChargeId_attemptId chargeId) otherFound with
        ⟨rfl, earlier, earlierFound, changed⟩ | ⟨_, kept⟩
      · rw [found] at earlierFound
        injection earlierFound with sameCall
        subst sameCall changed
        cases charged
        refine ⟨cardCharge call chargeId, ?_, rfl, rfl, rfl⟩
        simp only [Gateway.createCharge]
        rw [insertIfNew_of_fresh allowed.2.2.2]
        exact lookup_insert_self _ _ allowed.2.2.2
      · obtain ⟨charge, chargeFound, rest⟩ := linked.triggers other otherCall id kept charged
        obtain ⟨later, laterFound, keeps⟩ := extension.grows.charges id charge chargeFound
        refine ⟨later, laterFound, keeps.invoice.trans rest.1, rest.2.1.trans keeps.renter.symm,
          rest.2.2.trans keeps.amount.symm⟩
  | resumeTrigger attemptId status =>
    simp only [Fires, nextTopups] at fires
    split at fires
    · cases fires
    · rename_i call found
      split at fires
      · cases fires
      · rename_i charge known
        obtain ⟨_, rfl⟩ := of_ite_eq_some fires
        obtain ⟨chargeId, charged, chargeFound⟩ := Option.bind_eq_some_iff.mp known
        have key := lookup_key chargeFound
        subst key
        exact ⟨⟨linked.resumeTrigger found charged chargeFound status,
          linked.triggers.of_answered attemptId _⟩,
          Gateway.Grows.refl _⟩
  | failTrigger attemptId =>
    simp only [Fires, nextTopups] at fires
    split at fires
    · cases fires
    · obtain ⟨_, rfl⟩ := of_ite_eq_some fires
      exact ⟨⟨linked.bindings.of_payments (finalizeFailure_quiet _ _).payments,
        linked.triggers.of_answered attemptId _⟩,
        Gateway.Grows.refl _⟩
  | use renterId amount =>
    obtain ⟨_, rfl⟩ := of_ite_eq_some fires
    exact ⟨⟨linked.bindings.of_payments (withdraw_payments _ _ _),
      linked.triggers.of_same (Gateway.Grows.refl _) rfl⟩,
      Gateway.Grows.refl _⟩

theorem Linked.of_initial (initial : state.Initial) :
    Linked state := by
  refine ⟨?_, ?_⟩
  · constructor
    · intro key payment id found
      rw [initial.noPayments] at found
      cases found
    · intro key other payment otherPayment id found
      rw [initial.noPayments] at found
      cases found
    · intro key payment id charge invoiceId found
      rw [initial.noPayments] at found
      cases found
    · intro id invoice found
      rw [initial.noInvoices] at found
      cases found
    · intro id charge invoiceId found
      rw [initial.noCharges] at found
      cases found
    · intro id invoice found
      rw [initial.noInvoices] at found
      cases found
  · intro attemptId call chargeId found
    rw [initial.noTriggers] at found
    cases found

end DcpPlatform.Topups
