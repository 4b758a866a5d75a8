import DcpPlatform.Sessions.Turns

/-!
# The account of a session

An account is what the store and the journal hold of one session. A call that
bills the session takes its account from stage to stage; a request that fails
cleanly leaves it at rest.
-/

namespace DcpPlatform.Sessions

open Foundation List

def Pending.bills : Pending → Option Nat
  | .readSession sessionId | .readClosing sessionId => some sessionId
  | .readTicks session | .debitTick session _ | .creditTick session _
  | .insertTick session _ | .readReceipt session | .markClosing session
  | .sumTicks session _ => some session.id
  | .settleRenter closing | .settleProvider closing
  | .readReservation closing | .resolveReservation closing
  | .insertReceipt closing | .markClosed closing =>
    some closing.session.id
  | _ => none

def Pending.opens : Pending → Option Nat
  | .findSession request | .sumCredits request | .sumDebits request _
  | .sumHeld request _ | .insertReservation request
  | .insertSession request _ => some request.jobId
  | _ => none

def Closing.Moves (closing : Closing) : Prop :=
  0 < closing.renterHalala ∨ 0 < closing.providerHalala

instance (closing : Closing) : Decidable closing.Moves :=
  inferInstanceAs (Decidable (_ ∨ _))

/-- A read whose error is ignored fails only where there is nothing to read.
After money has moved nothing fails, and neither do the two updates of the
status. -/
def FailsCleanly (store : Store) : Pending → Prop
  | .findSession request => store.openSession request.jobId = none
  | .readTicks session => store.ticksOf session.id = []
  | .creditTick _ _ | .insertTick _ _ => False
  | .readReceipt session => store.receipts.lookup session.id = none
  | .markClosing _ => False
  | .sumTicks session _ => store.ticksOf session.id = []
  | .settleProvider closing => ¬ 0 < closing.renterHalala
  | .readReservation closing | .resolveReservation closing
  | .insertReceipt closing => ¬ closing.Moves
  | .markClosed _ => False
  | _ => True

/-- The answer of a debit, a credit or a receipt is never lost, nor any
answer between the money and the status. -/
def LosesCleanly (store : Store) : Pending → Prop
  | .findSession request => store.openSession request.jobId = none
  | .readTicks session => store.ticksOf session.id = []
  | .debitTick _ _ | .creditTick _ _ => False
  | .readReceipt session => store.receipts.lookup session.id = none
  | .sumTicks session _ => store.ticksOf session.id = []
  | .settleRenter _ | .settleProvider _ => False
  | .readReservation closing | .resolveReservation closing =>
    ¬ closing.Moves
  | .insertReceipt _ => False
  | _ => True

def Harmless (store : Store) (pending : Pending) : Reply → Prop
  | .done => True
  | .failed => FailsCleanly store pending
  | .lost => LosesCleanly store pending

instance (store : Store) : DecidablePred (FailsCleanly store) := by
  intro pending
  unfold FailsCleanly
  split <;> infer_instance

instance (store : Store) : DecidablePred (LosesCleanly store) := by
  intro pending
  unfold LosesCleanly
  split <;> infer_instance

instance (store : Store) (pending : Pending) :
    DecidablePred (Harmless store pending) := by
  intro reply
  unfold Harmless
  split <;> infer_instance

structure Account where
  session : Option BillingSession
  ticks : List BillingTick
  receipt : Option BillingReceipt
  entries : List Entry

def accountOf (store : Store) (journal : List Entry) (sessionId : Nat) :
    Account :=
  { session := store.sessions.lookup sessionId
    ticks := store.ticksOf sessionId
    receipt := store.receipts.lookup sessionId
    entries := journal.filter (fun entry => entry.sessionId = sessionId) }

def coverage (entries : List Entry) (type : TransactionType) (minute : Int) : Nat :=
  (entries.filter (fun entry => entry.covers type minute)).length

def settlements (entries : List Entry) (type : TransactionType) : Nat :=
  (entries.filter (fun entry => entry.settles type)).length

/-- The minutes are charged at most once, none after `through`, and no close
has charged any. -/
structure BilledThrough (entries : List Entry) (type : TransactionType) (through : Int) : Prop where
  once : ∀ minute, coverage entries type minute ≤ 1
  within : ∀ entry ∈ entries, ∀ minute, entry.covers type minute → minute ≤ through
  unsettled : settlements entries type = 0

/-- The minutes are charged at most once, the last ones by one close. -/
structure SettledBy (entries : List Entry) (type : TransactionType) (callId : Nat) : Prop where
  once : ∀ minute, coverage entries type minute ≤ 1
  settled : settlements entries type ≤ 1
  closer : ∀ entry ∈ entries, entry.settles type → entry.callId = callId

structure Side (entries : List Entry) (type : TransactionType)
    (through : Int) (callId : Nat) (moved : Prop) : Prop where
  settled : SettledBy entries type callId
  unmoved : ¬ moved → BilledThrough entries type through

structure Unsettled (account : Account) : Prop where
  debits : BilledThrough account.entries .debit (previouslyBilledMinutes account.ticks)
  credits : BilledThrough account.entries .credit (previouslyBilledMinutes account.ticks)
  receipt : account.receipt = none

structure Rest (account : Account) : Prop where
  unknown :
    account.session = none → account.ticks = [] ∧ account.receipt = none ∧ account.entries = []
  opened : ∀ session, account.session = some session → session.status ≠ .closed → Unsettled account
  active : ∀ session, account.session = some session →
    session.status = .active → ∀ entry ∈ account.entries, entry.isTotal = false
  closed : ∀ session, account.session = some session →
    session.status = .closed → account.receipt.isSome = true ∧ ∃ callId,
      SettledBy account.entries .debit callId ∧ SettledBy account.entries .credit callId

structure Ticking (account : Account) (session : BillingSession) :
    Prop where
  found : account.session = some session
  active : session.status = .active
  receipt : account.receipt = none
  untotalled : ∀ entry ∈ account.entries, entry.isTotal = false

structure Due (account : Account) (session : BillingSession) (tick : BillingTick) : Prop where
  own : tick.sessionId = session.id
  next : tick.tickNumber = nextTickNumber account.ticks
  after : tick.elapsedMinutes - tick.incrementMinutes = previouslyBilledMinutes account.ticks
  longer : 0 < tick.incrementMinutes
  share : 0 < tick.renterChargeHalala → 0 < tick.providerCreditHalala

structure Marked (account : Account) (session : BillingSession) :
    Prop where
  found : account.session = some session.setClosing
  unsettled : Unsettled account

structure Settling (account : Account) (callId : Nat) (closing : Closing)
    (debited credited : Prop) : Prop where
  found : account.session = some closing.session.setClosing
  own : closing.receipt.sessionId = closing.session.id
  ticks : previouslyBilledMinutes closing.ticks = previouslyBilledMinutes account.ticks
  debits : Side account.entries .debit (previouslyBilledMinutes account.ticks) callId debited
  credits : Side account.entries .credit (previouslyBilledMinutes account.ticks) callId credited

def Stage (account : Account) (callId : Nat) : Pending → Prop
  | .readSession _ | .readClosing _ => Rest account
  | .readTicks session => Ticking account session ∧ Unsettled account
  | .debitTick session tick =>
    Ticking account session ∧ Due account session tick ∧ Unsettled account
  | .creditTick session tick =>
    Ticking account session ∧ Due account session tick ∧ 0 < tick.providerCreditHalala ∧
      BilledThrough account.entries .debit tick.elapsedMinutes ∧
      BilledThrough account.entries .credit (previouslyBilledMinutes account.ticks)
  | .insertTick session tick =>
    Ticking account session ∧ Due account session tick ∧
      BilledThrough account.entries .debit tick.elapsedMinutes ∧
      BilledThrough account.entries .credit tick.elapsedMinutes
  | .readReceipt session =>
    account.session = some session ∧ session.status = .closed ∧ Rest account
  | .markClosing session =>
    account.session = some session ∧ session.status ≠ .closed ∧ Unsettled account
  | .sumTicks session receipt =>
    Marked account session ∧ receipt.sessionId = session.id
  | .settleRenter closing =>
    Settling account callId closing False False ∧ account.receipt = none ∧ 0 < closing.renterHalala
  | .settleProvider closing =>
    Settling account callId closing (0 < closing.renterHalala) False ∧
      account.receipt = none ∧ 0 < closing.providerHalala
  | .readReservation closing | .resolveReservation closing
  | .insertReceipt closing =>
    Settling account callId closing (0 < closing.renterHalala) (0 < closing.providerHalala) ∧
      account.receipt = none
  | .markClosed closing =>
    Settling account callId closing (0 < closing.renterHalala) (0 < closing.providerHalala) ∧
      account.receipt.isSome = true
  | _ => True

section Entries

variable {entries : List Entry} {entry : Entry} {type : TransactionType}
variable {through after upTo : Int} {sessionId callId : Nat} {moved : Prop}

theorem coverage_append (entries : List Entry) (entry : Entry)
    (type : TransactionType) (minute : Int) :
    coverage (entries ++ [entry]) type minute = coverage entries type minute +
      if entry.covers type minute = true then 1 else 0 := by
  unfold coverage
  rw [filter_append, length_append]
  by_cases covers : entry.covers type minute = true <;> simp [covers]

theorem settlements_append (entries : List Entry) (entry : Entry) (type : TransactionType) :
    settlements (entries ++ [entry]) type = settlements entries type +
      if entry.settles type = true then 1 else 0 := by
  unfold settlements
  rw [filter_append, length_append]
  by_cases settles : entry.settles type = true <;> simp [settles]

variable (billed : BilledThrough entries type through)

include billed

theorem BilledThrough.coverage_eq_zero {minute : Int}
    (later : through < minute) : coverage entries type minute = 0 := by
  rw [coverage, length_eq_zero_iff, filter_eq_nil_iff]
  intro entry member covers
  have bound := billed.within entry member minute covers
  omega

theorem BilledThrough.settles_eq_false :
    ∀ entry ∈ entries, entry.settles type ≠ true := by
  have none_ := billed.unsettled
  unfold settlements at none_
  rwa [length_eq_zero_iff, filter_eq_nil_iff] at none_

theorem BilledThrough.settledBy :
    SettledBy entries type callId where
  once := billed.once
  settled := by
    rw [billed.unsettled]
    exact Nat.zero_le 1
  closer := by
    intro entry member settles
    exact absurd settles (billed.settles_eq_false entry member)

theorem BilledThrough.side :
    Side entries type through callId moved :=
  ⟨billed.settledBy, fun _ => billed⟩

omit billed

def Ignores (entry : Entry) (type : TransactionType) : Prop :=
  (∀ minute, entry.covers type minute = false) ∧ entry.settles type = false

theorem BilledThrough.append_ignored (billed : BilledThrough entries type through)
    (ignores : Ignores entry type) :
    BilledThrough (entries ++ [entry]) type through where
  once := by
    intro minute
    rw [coverage_append, ignores.1 minute]
    exact billed.once minute
  within := by
    intro other member minute covers
    rcases mem_append.mp member with old | new
    · exact billed.within other old minute covers
    · rw [mem_singleton.mp new, ignores.1 minute] at covers
      cases covers
  unsettled := by
    rw [settlements_append, ignores.2, billed.unsettled]
    rfl

theorem SettledBy.append_ignored (settled : SettledBy entries type callId)
    (ignores : Ignores entry type) :
    SettledBy (entries ++ [entry]) type callId where
  once := by
    intro minute
    rw [coverage_append, ignores.1 minute]
    exact settled.once minute
  settled := by
    rw [settlements_append, ignores.2]
    exact settled.settled
  closer := by
    intro other member settles
    rcases mem_append.mp member with old | new
    · exact settled.closer other old settles
    · rw [mem_singleton.mp new, ignores.2] at settles
      cases settles

theorem Side.append_ignored (side : Side entries type through callId moved)
    (ignores : Ignores entry type) :
    Side (entries ++ [entry]) type through callId moved :=
  ⟨side.settled.append_ignored ignores,
    fun unmoved => (side.unmoved unmoved).append_ignored ignores⟩

theorem coverage_append_billed (closing : Bool)
    (billed : BilledThrough entries type after) (minute : Int) :
    coverage (entries ++ [.billed sessionId callId type closing after upTo]) type minute ≤ 1 := by
  rw [coverage_append]
  by_cases later : after < minute
  · rw [billed.coverage_eq_zero later]
    split <;> omega
  · have before :
        Entry.covers type minute (.billed sessionId callId type closing after upTo) = false := by
      simp [Entry.covers, later]
    rw [before]
    exact billed.once minute

theorem BilledThrough.append_tick
    (billed : BilledThrough entries type after) (longer : after ≤ upTo) :
    BilledThrough (entries ++ [.billed sessionId callId type false after upTo]) type upTo where
  once := coverage_append_billed false billed
  within := by
    intro other member minute covers
    rcases mem_append.mp member with old | new
    · exact (billed.within other old minute covers).trans longer
    · rw [mem_singleton.mp new] at covers
      simp only [Entry.covers, true_and, decide_eq_true_eq] at covers
      exact covers.2
  unsettled := by
    rw [settlements_append, billed.unsettled]
    simp [Entry.settles]

theorem BilledThrough.append_closing (billed : BilledThrough entries type after) :
    SettledBy (entries ++ [.billed sessionId callId type true after upTo]) type callId where
  once := coverage_append_billed true billed
  settled := by
    rw [settlements_append, billed.unsettled]
    split <;> omega
  closer := by
    intro other member settles
    rcases mem_append.mp member with old | new
    · exact absurd settles (billed.settles_eq_false other old)
    · rw [mem_singleton.mp new]
      rfl

theorem ignores_totalled : Ignores (.totalled sessionId callId) type :=
  ⟨fun _ => rfl, rfl⟩

theorem ignores_of_ne {other : TransactionType} (closing : Bool) (different : other ≠ type) :
    Ignores (.billed sessionId callId other closing after upTo) type := by
  refine ⟨fun minute => ?_, ?_⟩
  · simp [Entry.covers, different]
  · simp [Entry.settles, different]

end Entries

section Writes

variable (store : Store) (journal : List Entry) (sessionId : Nat)

def Account.noted (account : Account) (entry : Entry) : Account :=
  { account with entries := account.entries ++ [entry] }

variable {entry : Entry}

theorem accountOf_append (own : entry.sessionId = sessionId) :
    accountOf store (journal ++ [entry]) sessionId =
      (accountOf store journal sessionId).noted entry := by
  simp [accountOf, Account.noted, own]

theorem accountOf_append_of_ne (different : entry.sessionId ≠ sessionId) :
    accountOf store (journal ++ [entry]) sessionId = accountOf store journal sessionId := by
  simp [accountOf, different]

variable {tick : BillingTick}

theorem accountOf_ticked (own : tick.sessionId = sessionId) :
    accountOf (store.ticked tick) journal sessionId = { accountOf store journal sessionId with
      ticks := (accountOf store journal sessionId).ticks ++ [tick] } := by
  rw [accountOf, Store.ticksOf_ticked store own]
  rfl

theorem accountOf_ticked_of_ne (different : tick.sessionId ≠ sessionId) :
    accountOf (store.ticked tick) journal sessionId = accountOf store journal sessionId := by
  have ticks : (store.ticked tick).ticksOf sessionId = store.ticksOf sessionId := by
    simp [Store.ticksOf, Store.ticked, different]
  rw [accountOf, ticks]
  rfl

theorem accountOf_updateSession {session : BillingSession}
    (change : BillingSession → BillingSession)
    (keeps : ∀ session, (change session).id = session.id)
    (found : (accountOf store journal sessionId).session = some session) :
    accountOf (store.updateSession sessionId change keeps) journal sessionId =
      { accountOf store journal sessionId with
        session := some (change session) } := by
  have updated := Serial.lookup_update_of_some keeps found
  rw [accountOf, ← updated]
  rfl

theorem accountOf_updateSession_of_ne {other : Nat} (change : BillingSession → BillingSession)
    (keeps : ∀ session, (change session).id = session.id)
    (different : sessionId ≠ other) :
    accountOf (store.updateSession other change keeps) journal sessionId =
      accountOf store journal sessionId := by
  have updated := Serial.lookup_update_of_ne store.sessions keeps different
  unfold accountOf
  rw [← updated]
  rfl

theorem accountOf_receipted {receipt : BillingReceipt}
    (fresh : store.receipts.lookup receipt.sessionId = none) :
    accountOf { store with receipts := store.receipts.insertIfNew receipt } journal sessionId =
      if sessionId = receipt.sessionId then
        { accountOf store journal sessionId with receipt := some receipt }
      else
        accountOf store journal sessionId := by
  have inserted := Table.lookup_insert_under store.receipts fresh rfl sessionId
  rw [Table.insertIfNew_of_fresh fresh]
  unfold accountOf
  by_cases own : sessionId = receipt.sessionId
  · rw [if_pos own] at inserted ⊢
    rw [← inserted]
    rfl
  · rw [if_neg own] at inserted ⊢
    rw [← inserted]
    rfl

end Writes

def After (account : Account) (callId sessionId : Nat) :
    Option Pending → Prop
  | some pending =>
    pending.bills = some sessionId ∧ Stage account callId pending
  | none => Rest account

structure Continues (store : Store) (journal : List Entry)
    (callId sessionId : Nat) (turn : Turn) : Prop where
  account :
    After (accountOf turn.store (journal ++ turn.journal) sessionId) callId sessionId turn.pending
  entries : ∀ entry ∈ turn.journal, entry.sessionId = sessionId ∧ (entry.isTick = true →
    ∀ earlier ∈ (accountOf store journal sessionId).entries, earlier.isTotal = false)
  single : turn.journal.length ≤ 1
  others : ∀ other, other ≠ sessionId →
    accountOf turn.store (journal ++ turn.journal) other = accountOf store journal other
  rows : ∀ id later, turn.store.sessions.lookup id = some later → ∃ session,
    store.sessions.lookup id = some session ∧ later.jobId = session.jobId ∧
      later.reservationId = session.reservationId ∧ (later.IsOpen → session.IsOpen)
  kept : ∀ id session, store.sessions.lookup id = some session →
    ∃ later, turn.store.sessions.lookup id = some later ∧ later.providerId = session.providerId
  payouts : turn.store.payouts = store.payouts
  reservations : ∀ id, (store.reservations.lookup id).isSome = true →
    (turn.store.reservations.lookup id).isSome = true

namespace Continues

variable {store : Store} {journal : List Entry} {callId sessionId : Nat} {pending : Pending}

theorem goesOn (bills : pending.bills = some sessionId)
    (stage : Stage (accountOf store journal sessionId) callId pending) :
    Continues store journal callId sessionId (.goesOn store pending) where
  account := by
    have same : journal ++ (Turn.goesOn store pending).journal = journal := append_nil journal
    rw [same]
    exact ⟨bills, stage⟩
  entries := by
    intro entry member
    cases member
  single := Nat.zero_le 1
  others := by
    intro other _
    exact congrArg (accountOf store · other) (append_nil journal)
  rows := by
    intro id later found
    exact ⟨later, found, rfl, rfl, fun isOpen => isOpen⟩
  kept := by
    intro id session found
    exact ⟨session, found, rfl⟩
  payouts := rfl
  reservations := fun _ found => found

theorem ended (rest : Rest (accountOf store journal sessionId)) :
    Continues store journal callId sessionId (.ended store) where
  account := by
    have same : journal ++ (Turn.ended store).journal = journal := append_nil journal
    rw [same]
    exact rest
  entries := by
    intro entry member
    cases member
  single := Nat.zero_le 1
  others := by
    intro other _
    exact congrArg (accountOf store · other) (append_nil journal)
  rows := by
    intro id later found
    exact ⟨later, found, rfl, rfl, fun isOpen => isOpen⟩
  kept := by
    intro id session found
    exact ⟨session, found, rfl⟩
  payouts := rfl
  reservations := fun _ found => found

structure SameRows (before after : Store) : Prop where
  sessions : after.sessions = before.sessions
  payouts : after.payouts = before.payouts
  reservations : ∀ id,
    (before.reservations.lookup id).isSome = true → (after.reservations.lookup id).isSome = true

theorem wrote {turn : Turn} (same : SameRows store turn.store)
    (account : After (accountOf turn.store (journal ++ turn.journal) sessionId)
      callId sessionId turn.pending)
    (entries : ∀ entry ∈ turn.journal, entry.sessionId = sessionId ∧ (entry.isTick = true →
      ∀ earlier ∈ (accountOf store journal sessionId).entries, earlier.isTotal = false))
    (single : turn.journal.length ≤ 1)
    (others : ∀ other, other ≠ sessionId →
      accountOf turn.store (journal ++ turn.journal) other = accountOf store journal other) :
    Continues store journal callId sessionId turn where
  account := account
  entries := entries
  single := single
  others := others
  rows := by
    intro id later found
    rw [same.sessions] at found
    exact ⟨later, found, rfl, rfl, fun isOpen => isOpen⟩
  kept := by
    intro id session found
    rw [same.sessions]
    exact ⟨session, found, rfl⟩
  payouts := same.payouts
  reservations := same.reservations

theorem booked {type : TransactionType} {userId : Nat}
    {amountHalala : Int} {reason : String} {jobId : Nat} {now : Int} {entry : Entry}
    (own : entry.sessionId = sessionId)
    (untotalled : entry.isTick = true →
      ∀ earlier ∈ (accountOf store journal sessionId).entries, earlier.isTotal = false)
    (bills : pending.bills = some sessionId)
    (stage : Stage ((accountOf store journal sessionId).noted entry) callId pending) :
    Continues store journal callId sessionId
      ⟨store.booked type userId amountHalala reason jobId now, [entry], some pending⟩ := by
  apply wrote
  · exact ⟨rfl, rfl, fun _ found => found⟩
  · refine ⟨bills, ?_⟩
    have noted : accountOf (store.booked type userId amountHalala reason jobId now)
        (journal ++ [entry]) sessionId = (accountOf store journal sessionId).noted entry :=
      accountOf_append store journal sessionId own
    rw [noted]
    exact stage
  · intro other member
    rw [mem_singleton.mp member]
    exact ⟨own, untotalled⟩
  · exact Nat.le_refl 1
  · intro other different
    refine accountOf_append_of_ne store journal other ?_
    intro same
    exact different (same.symm.trans own)

end Continues

variable {Row : Type} {reply : Reply}

theorem readRow_eq_some {row : Option Row}
    {found : Row} (answered : readRow reply row = some found) :
    reply = .done ∧ row = some found := by
  unfold readRow at answered
  by_cases done : reply = .done
  · rw [if_pos done] at answered
    exact ⟨done, answered⟩
  · rw [if_neg done] at answered
    cases answered

theorem readRows_eq {rows : List Row} (harmless : reply ≠ .done → rows = []) :
    readRows reply rows = rows := by
  unfold readRows
  by_cases done : reply = .done
  · rw [if_pos done]
  · rw [if_neg done, harmless done]

variable {store : Store}

theorem write_of_error {written : Except StoreError Store} {journal : List Entry}
    {pending : Option Pending} {error : StoreError}
    (refused : written = .error error) :
    write store reply written journal pending = .ended store := by
  rw [refused]
  rfl

variable {userId jobId : Nat} {amountHalala now : Int} {reason : String}

theorem debitWalletAtomic_eq_ok {store after : Store}
    (debited : store.debitWalletAtomic userId amountHalala reason jobId now = .ok after) :
    0 < amountHalala ∧ after = store.booked .debit userId amountHalala reason jobId now :=
  Store.debit_eq_ok (mapError_eq_ok_iff.mpr debited)

theorem insertTransaction_of_pos {type : TransactionType} (positive : 0 < amountHalala) :
    store.insertTransaction type userId amountHalala reason jobId now =
      .ok (store.booked type userId amountHalala reason jobId now) := by
  rw [Store.insertTransaction, require_bind_eq_ok_iff]
  exact ⟨positive, rfl⟩

section Rest

variable {account : Account} {session : BillingSession} {callId : Nat} {closing : Closing}

theorem Rest.of_unsettled (found : account.session = some session)
    (status : session.status ≠ .closed)
    (untotalled : session.status = .active → ∀ entry ∈ account.entries, entry.isTotal = false)
    (unsettled : Unsettled account) : Rest account where
  unknown := by
    intro missing
    rw [found] at missing
    cases missing
  opened := fun _ _ _ => unsettled
  active := by
    intro other otherFound active
    rw [found] at otherFound
    cases otherFound
    exact untotalled active
  closed := by
    intro other otherFound closed
    rw [found] at otherFound
    cases otherFound
    exact absurd closed status

theorem Ticking.rest (ticking : Ticking account session)
    (unsettled : Unsettled account) : Rest account := by
  refine Rest.of_unsettled ticking.found ?_ (fun _ => ticking.untotalled) unsettled
  rw [ticking.active]
  exact SessionStatus.noConfusion

theorem rest_of_setClosing (found : account.session = some session.setClosing)
    (unsettled : Unsettled account) : Rest account :=
  Rest.of_unsettled found SessionStatus.noConfusion SessionStatus.noConfusion unsettled

theorem Settling.rest {debited credited : Prop}
    (settling : Settling account callId closing debited credited)
    (undebited : ¬ debited) (uncredited : ¬ credited)
    (receipt : account.receipt = none) : Rest account :=
  rest_of_setClosing settling.found
    ⟨settling.debits.unmoved undebited, settling.credits.unmoved uncredited, receipt⟩

end Rest

section Ticks

variable {store : Store} {journal : List Entry} {callId : Nat}
variable {reply : Reply} {session : BillingSession} {tick : BillingTick}
variable {account : Account} {entry : Entry}

theorem Ticking.noted (ticking : Ticking account session) (untotalled : entry.isTotal = false) :
    Ticking (account.noted entry) session where
  found := ticking.found
  active := ticking.active
  receipt := ticking.receipt
  untotalled := by
    intro other member
    rcases mem_append.mp member with old | new
    · exact ticking.untotalled other old
    · rw [mem_singleton.mp new]
      exact untotalled

theorem Due.noted (due : Due account session tick) (entry : Entry) :
    Due (account.noted entry) session tick :=
  ⟨due.own, due.next, due.after, due.longer, due.share⟩

theorem due_tickRow (account : Account) (session : BillingSession) (now : Int)
    (longer : 0 < (tickRow session account.ticks now).incrementMinutes) :
    Due account session (tickRow session account.ticks now) where
  own := rfl
  next := rfl
  after := sub_sub_cancel _ _
  longer := longer
  share := provider_pos

theorem readSession_continues (sessionId : Nat) (now : Int)
    (rest : Rest (accountOf store journal sessionId)) :
    Continues store journal callId sessionId
      (tickTurn callId store now reply (.readSession sessionId)) := by
  simp only [tickTurn]
  cases answered : readRow reply (store.sessions.lookup sessionId) with
  | none => exact Continues.ended rest
  | some session =>
    have found := (readRow_eq_some answered).2
    by_cases active : session.status = .active
    · have status : session.status ≠ .closed := by
        rw [active]
        exact SessionStatus.noConfusion
      have unsettled := rest.opened session found status
      have key := Serial.lookup_key found
      simp only [if_pos active]
      refine Continues.goesOn (congrArg some key) ?_
      exact ⟨⟨found, active, unsettled.receipt, rest.active session found active⟩, unsettled⟩
    · simp only [if_neg active]
      exact Continues.ended rest

variable (now : Int)

theorem readTicks_continues
    (stage : Stage (accountOf store journal session.id) callId (.readTicks session))
    (harmless : Harmless store (.readTicks session) reply) :
    Continues store journal callId session.id
      (tickTurn callId store now reply (.readTicks session)) := by
  obtain ⟨ticking, unsettled⟩ := stage
  have rows :
      readRows reply (store.ticksOf session.id) = (accountOf store journal session.id).ticks := by
    apply readRows_eq
    intro error
    cases reply with
    | done => exact absurd rfl error
    | failed | lost => exact harmless
  simp only [tickTurn, rows]
  by_cases longer :
    0 < (tickRow session (accountOf store journal session.id).ticks now).incrementMinutes
  · rw [if_pos longer]
    exact Continues.goesOn rfl ⟨ticking, due_tickRow _ session now longer, unsettled⟩
  · rw [if_neg longer]
    exact Continues.ended (ticking.rest unsettled)

theorem debitTick_continues
    (stage : Stage (accountOf store journal session.id) callId (.debitTick session tick))
    (harmless : Harmless store (.debitTick session tick) reply) :
    Continues store journal callId session.id
      (tickTurn callId store now reply (.debitTick session tick)) := by
  obtain ⟨ticking, due, unsettled⟩ := stage
  have rest := ticking.rest unsettled
  simp only [tickTurn]
  cases debited : store.debitWalletAtomic session.renterId tick.renterChargeHalala
      (tickDebitReason tick.tickNumber session.jobId) session.jobId
      now with
  | error failure =>
    rw [write_of_error rfl]
    exact Continues.ended rest
  | ok after =>
    obtain ⟨positive, rfl⟩ := debitWalletAtomic_eq_ok debited
    cases reply with
    | failed => exact Continues.ended rest
    | lost => exact harmless.elim
    | done =>
      refine Continues.booked due.own (fun _ => ticking.untotalled) rfl
        ⟨ticking.noted rfl, due.noted _, due.share positive, ?_, ?_⟩
      · apply BilledThrough.append_tick
        · rw [due.after]
          exact unsettled.debits
        · have longer := due.longer
          omega
      · exact unsettled.credits.append_ignored (ignores_of_ne false TransactionType.noConfusion)

theorem creditTick_continues
    (stage : Stage (accountOf store journal session.id) callId (.creditTick session tick))
    (harmless : Harmless store (.creditTick session tick) reply) :
    Continues store journal callId session.id
      (tickTurn callId store now reply (.creditTick session tick)) := by
  obtain ⟨ticking, due, positive, debits, credits⟩ := stage
  simp only [tickTurn, insertTransaction_of_pos positive]
  cases reply with
  | failed | lost => exact harmless.elim
  | done =>
    refine Continues.booked due.own (fun _ => ticking.untotalled) rfl
      ⟨ticking.noted rfl, due.noted _, ?_, ?_⟩
    · exact debits.append_ignored (ignores_of_ne false TransactionType.noConfusion)
    · apply BilledThrough.append_tick
      · rw [due.after]
        exact credits
      · have longer := due.longer
        omega

theorem insertTick_continues
    (stage : Stage (accountOf store journal session.id) callId (.insertTick session tick))
    (harmless : Harmless store (.insertTick session tick) reply) :
    Continues store journal callId session.id
      (tickTurn callId store now reply (.insertTick session tick)) := by
  obtain ⟨ticking, due, debits, credits⟩ := stage
  have fresh : ∀ other ∈ store.ticks,
      ¬ (other.sessionId = tick.sessionId ∧ other.tickNumber = tick.tickNumber) := by
    rintro other member ⟨own, number⟩
    have listed : other ∈ store.ticksOf session.id :=
      mem_filter.mpr ⟨member, decide_eq_true (own.trans due.own)⟩
    have below := tickNumber_lt_next _ other listed
    have next : tick.tickNumber = nextTickNumber (store.ticksOf session.id) := due.next
    omega
  have inserted : store.insertTick tick = .ok (store.ticked tick) := by
    rw [Store.insertTick, require_bind_eq_ok_iff]
    exact ⟨fresh, rfl⟩
  have recorded : Continues store journal callId session.id ⟨store.ticked tick, [], none⟩ := by
    apply Continues.wrote
    · exact ⟨rfl, rfl, fun _ found => found⟩
    · have same : accountOf (store.ticked tick) (journal ++ []) session.id =
          { accountOf store journal session.id with
            ticks := (accountOf store journal session.id).ticks ++ [tick] } := by
        rw [append_nil]
        exact accountOf_ticked store journal session.id due.own
      have through : previouslyBilledMinutes
          ((accountOf store journal session.id).ticks ++ [tick]) =
            tick.elapsedMinutes := by
        rw [previouslyBilledMinutes, lastTick_append_of_next due.next]
        rfl
      rw [same]
      refine Ticking.rest ⟨ticking.found, ticking.active, ticking.receipt, ticking.untotalled⟩
        ⟨?_, ?_, ticking.receipt⟩
      · rw [through]
        exact debits
      · rw [through]
        exact credits
    · intro entry member
      cases member
    · exact Nat.zero_le 1
    · intro other different
      have same := accountOf_ticked_of_ne store journal other
        (fun own => different (own.symm.trans due.own))
      rw [← same]
      exact congrArg (accountOf _ · other) (append_nil journal)
  simp only [tickTurn, inserted]
  cases reply with
  | failed => exact harmless.elim
  | done | lost => exact recorded

theorem tickTurn_continues {pending : Pending} {sessionId : Nat}
    (operation : pending.operation = .tick)
    (bills : pending.bills = some sessionId)
    (stage : Stage (accountOf store journal sessionId) callId pending)
    (harmless : Harmless store pending reply) :
    Continues store journal callId sessionId (tickTurn callId store now reply pending) := by
  cases pending with
  | readSession other =>
    injection bills with same
    subst same
    exact readSession_continues other now stage
  | readTicks session =>
    cases bills
    exact readTicks_continues now stage harmless
  | debitTick session tick =>
    cases bills
    exact debitTick_continues now stage harmless
  | creditTick session tick =>
    cases bills
    exact creditTick_continues now stage harmless
  | insertTick session tick =>
    cases bills
    exact insertTick_continues now stage harmless
  | _ => cases operation

end Ticks

section Closes

variable {store : Store} {journal : List Entry} {callId : Nat}
variable {reply : Reply} {session : BillingSession} {closing : Closing}
variable {account : Account} {entry : Entry} {debited credited : Prop}

theorem readClosing_continues (sessionId : Nat) (now : Int)
    (rest : Rest (accountOf store journal sessionId)) :
    Continues store journal callId sessionId
      (closeTurn callId store now reply (.readClosing sessionId)) := by
  simp only [closeTurn]
  cases answered : readRow reply (store.sessions.lookup sessionId) with
  | none => exact Continues.ended rest
  | some session =>
    have found := (readRow_eq_some answered).2
    have key := Serial.lookup_key found
    by_cases closed : session.status = .closed
    · simp only [if_pos closed]
      refine Continues.goesOn (congrArg some key) ?_
      exact ⟨found, closed, rest⟩
    · simp only [if_neg closed]
      refine Continues.goesOn (congrArg some key) ?_
      exact ⟨found, closed, rest.opened session found closed⟩

variable (now : Int)

theorem readReceipt_continues
    (stage : Stage (accountOf store journal session.id) callId (.readReceipt session))
    (harmless : Harmless store (.readReceipt session) reply) :
    Continues store journal callId session.id
      (closeTurn callId store now reply (.readReceipt session)) := by
  obtain ⟨found, closed, rest⟩ := stage
  have receipted := (rest.closed session found closed).1
  simp only [closeTurn]
  cases answered : readRow reply (store.receipts.lookup session.id) with
  | some receipt => exact Continues.ended rest
  | none =>
    have missing : store.receipts.lookup session.id = none := by
      cases reply with
      | done => exact answered
      | failed | lost => exact harmless
    have present : (store.receipts.lookup session.id).isSome = true := receipted
    rw [missing] at present
    cases present

theorem markClosing_continues
    (stage : Stage (accountOf store journal session.id) callId (.markClosing session))
    (harmless : Harmless store (.markClosing session) reply) :
    Continues store journal callId session.id
      (closeTurn callId store now reply (.markClosing session)) := by
  obtain ⟨found, status, unsettled⟩ := stage
  have executed : reply ≠ .failed := by
    rintro rfl
    exact harmless
  simp only [closeTurn, if_neg executed]
  refine ⟨⟨rfl, ?_, rfl⟩, ?_, Nat.le_refl 1, ?_, ?_, ?_, rfl, fun _ stored => stored⟩
  · have same : accountOf (store.setClosing session.id)
        (journal ++ [.totalled session.id callId]) session.id =
          { (accountOf store journal session.id).noted (.totalled session.id callId) with
            session := some session.setClosing } := by
      have own : (Entry.totalled session.id callId).sessionId = session.id := rfl
      rw [accountOf_append _ _ _ own]
      exact congrArg (Account.noted · _) (accountOf_updateSession store journal session.id
          BillingSession.setClosing BillingSession.setClosing_id found)
    simp only [same]
    exact ⟨rfl, unsettled.debits.append_ignored ignores_totalled,
      unsettled.credits.append_ignored ignores_totalled,
      unsettled.receipt⟩
  · intro entry member
    rw [mem_singleton.mp member]
    exact ⟨rfl, fun tick => by cases tick⟩
  · intro other different
    rw [accountOf_append_of_ne _ _ _ (Ne.symm different)]
    exact accountOf_updateSession_of_ne store journal other
      BillingSession.setClosing BillingSession.setClosing_id different
  · intro id later stored
    rcases Serial.lookup_update_cases BillingSession.setClosing_id
        stored with ⟨rfl, row, earlier, rfl⟩ | ⟨_, earlier⟩
    · have same : some row = some session := earlier.symm.trans found
      injection same with same
      subst same
      refine ⟨row, earlier, rfl, rfl, fun _ => ?_⟩
      unfold BillingSession.IsOpen
      cases current : row.status with
      | active => exact Or.inl rfl
      | closing => exact Or.inr rfl
      | closed => exact absurd current status
    · exact ⟨later, earlier, rfl, rfl, fun isOpen => isOpen⟩
  · intro id row stored
    by_cases own : id = session.id
    · subst own
      exact ⟨row.setClosing, Serial.lookup_update_of_some BillingSession.setClosing_id stored, rfl⟩
    · exact ⟨row, (Serial.lookup_update_of_ne store.sessions
        BillingSession.setClosing_id own).trans stored, rfl⟩

theorem Settling.afterRenter
    (settling : Settling account callId closing (0 < closing.renterHalala) False)
    (receipt : account.receipt = none) :
    closing.afterRenter.bills = some closing.session.id ∧
      Stage account callId closing.afterRenter := by
  unfold Closing.afterRenter
  by_cases positive : 0 < closing.providerHalala
  · rw [if_pos positive]
    exact ⟨rfl, settling, receipt, positive⟩
  · rw [if_neg positive]
    exact ⟨rfl, ⟨settling.found, settling.own, settling.ticks, settling.debits,
        settling.credits.settled,
        fun _ => settling.credits.unmoved not_false⟩, receipt⟩

theorem Settling.afterTicks (settling : Settling account callId closing False False)
    (receipt : account.receipt = none) :
    closing.afterTicks.bills = some closing.session.id ∧
      Stage account callId closing.afterTicks := by
  unfold Closing.afterTicks
  by_cases positive : 0 < closing.renterHalala
  · rw [if_pos positive]
    exact ⟨rfl, settling, receipt, positive⟩
  · rw [if_neg positive]
    refine Settling.afterRenter ?_ receipt
    exact ⟨settling.found, settling.own, settling.ticks,
      ⟨settling.debits.settled, fun _ => settling.debits.unmoved not_false⟩,
      settling.credits⟩

theorem sumTicks_continues {receipt : BillingReceipt}
    (stage : Stage (accountOf store journal session.id) callId (.sumTicks session receipt))
    (harmless : Harmless store (.sumTicks session receipt) reply) :
    Continues store journal callId session.id
      (closeTurn callId store now reply (.sumTicks session receipt)) := by
  obtain ⟨marked, own⟩ := stage
  have rows :
      readRows reply (store.ticksOf session.id) = (accountOf store journal session.id).ticks := by
    apply readRows_eq
    intro error
    cases reply with
    | done => exact absurd rfl error
    | failed | lost => exact harmless
  simp only [closeTurn, rows]
  have settling : Settling (accountOf store journal session.id) callId
      ⟨session, receipt, (accountOf store journal session.id).ticks⟩
      False False :=
    ⟨marked.found, own, rfl, marked.unsettled.debits.side, marked.unsettled.credits.side⟩
  obtain ⟨bills, later⟩ := settling.afterTicks marked.unsettled.receipt
  exact Continues.goesOn bills later

theorem settleRenter_continues
    (stage : Stage (accountOf store journal closing.session.id) callId (.settleRenter closing))
    (harmless : Harmless store (.settleRenter closing) reply) :
    Continues store journal callId closing.session.id
      (closeTurn callId store now reply (.settleRenter closing)) := by
  obtain ⟨settling, receipt, positive⟩ := stage
  have rest := settling.rest not_false not_false receipt
  simp only [closeTurn]
  cases debited : store.debitWalletAtomic closing.session.renterId
      closing.renterHalala (finalDebitReason closing.session.jobId)
      closing.session.jobId now with
  | error failure =>
    rw [write_of_error rfl]
    exact Continues.ended rest
  | ok after =>
    obtain ⟨_, rfl⟩ := debitWalletAtomic_eq_ok debited
    have debits := settling.debits.unmoved not_false
    rw [← settling.ticks] at debits
    cases reply with
    | failed => exact Continues.ended rest
    | lost => exact harmless.elim
    | done =>
      have later : Settling ((accountOf store journal closing.session.id).noted
          (closingEntry callId .debit closing)) callId closing (0 < closing.renterHalala) False :=
        ⟨settling.found, settling.own, settling.ticks,
          ⟨debits.append_closing, fun unmoved => absurd positive unmoved⟩,
          settling.credits.append_ignored (ignores_of_ne true TransactionType.noConfusion)⟩
      obtain ⟨bills, next⟩ := later.afterRenter receipt
      refine Continues.booked rfl (fun tick => ?_) bills next
      cases tick

theorem settleProvider_continues
    (stage : Stage (accountOf store journal closing.session.id) callId (.settleProvider closing))
    (harmless : Harmless store (.settleProvider closing) reply) :
    Continues store journal callId closing.session.id
      (closeTurn callId store now reply (.settleProvider closing)) := by
  obtain ⟨settling, receipt, positive⟩ := stage
  simp only [closeTurn, insertTransaction_of_pos positive]
  have credits := settling.credits.unmoved not_false
  rw [← settling.ticks] at credits
  cases reply with
  | failed =>
    exact Continues.ended (settling.rest harmless not_false receipt)
  | lost => exact harmless.elim
  | done =>
    refine Continues.booked rfl (fun tick => ?_) rfl ⟨?_, receipt⟩
    · cases tick
    · exact ⟨settling.found, settling.own, settling.ticks,
        settling.debits.append_ignored (ignores_of_ne true TransactionType.noConfusion),
        credits.append_closing,
        fun unmoved => absurd positive unmoved⟩

theorem Settling.rest_of_not_moves (settling :
    Settling account callId closing (0 < closing.renterHalala) (0 < closing.providerHalala))
    (receipt : account.receipt = none) (still : ¬ closing.Moves) :
    Rest account :=
  settling.rest (fun debit => still (Or.inl debit)) (fun credit => still (Or.inr credit)) receipt

theorem readReservation_continues
    (stage : Stage (accountOf store journal closing.session.id) callId (.readReservation closing))
    (harmless : Harmless store (.readReservation closing) reply)
    (reserved : (store.reservations.lookup closing.session.reservationId).isSome = true) :
    Continues store journal callId closing.session.id
      (closeTurn callId store now reply (.readReservation closing)) := by
  obtain ⟨settling, receipt⟩ := stage
  simp only [closeTurn]
  cases answered : readRow reply (store.reservations.lookup closing.session.reservationId) with
  | none =>
    have still : ¬ closing.Moves := by
      cases reply with
      | done =>
        have missing : store.reservations.lookup closing.session.reservationId = none := answered
        rw [missing] at reserved
        cases reserved
      | failed | lost => exact harmless
    exact Continues.ended (settling.rest_of_not_moves receipt still)
  | some reservation =>
    by_cases held : reservation.status = .held
    · simp only [if_pos held]
      exact Continues.goesOn rfl ⟨settling, receipt⟩
    · simp only [if_neg held]
      exact Continues.goesOn rfl ⟨settling, receipt⟩

theorem resolveReservation_continues (stage :
    Stage (accountOf store journal closing.session.id) callId (.resolveReservation closing))
    (harmless : Harmless store (.resolveReservation closing) reply) :
    Continues store journal callId closing.session.id
      (closeTurn callId store now reply (.resolveReservation closing)) := by
  obtain ⟨settling, receipt⟩ := stage
  have kept (id : Nat) (stored : (store.reservations.lookup id).isSome = true) :
      ((store.resolveReservation closing.session.reservationId
        closing.receipt.renterChargedTotalHalala
        now).reservations.lookup id).isSome = true := by
    by_cases own : id = closing.session.reservationId
    · subst own
      obtain ⟨row, found⟩ := Option.isSome_iff_exists.mp stored
      exact Option.isSome_iff_exists.mpr
        ⟨_, Serial.lookup_update_of_some (Reservation.resolve_id _ now) found⟩
    · have same := Serial.lookup_update_of_ne store.reservations
          (Reservation.resolve_id closing.receipt.renterChargedTotalHalala now) own
      exact (congrArg Option.isSome same).trans stored
  have wrote {pending : Option Pending} (after :
      After (accountOf store journal closing.session.id) callId closing.session.id pending) :
      Continues store journal callId closing.session.id
        ⟨store.resolveReservation closing.session.reservationId
          closing.receipt.renterChargedTotalHalala now, [], pending⟩ := by
    apply Continues.wrote
    · exact ⟨rfl, rfl, kept⟩
    · rw [append_nil]
      exact after
    · intro entry member
      cases member
    · exact Nat.zero_le 1
    · intro other _
      exact congrArg (accountOf store · other) (append_nil journal)
  cases reply with
  | done => exact wrote ⟨rfl, settling, receipt⟩
  | failed =>
    exact Continues.ended (settling.rest_of_not_moves receipt harmless)
  | lost => exact wrote (settling.rest_of_not_moves receipt harmless)

theorem insertReceipt_continues
    (stage : Stage (accountOf store journal closing.session.id) callId (.insertReceipt closing))
    (harmless : Harmless store (.insertReceipt closing) reply) :
    Continues store journal callId closing.session.id
      (closeTurn callId store now reply (.insertReceipt closing)) := by
  obtain ⟨settling, receipt⟩ := stage
  have fresh : store.receipts.lookup closing.receipt.sessionId = none := by
    rw [settling.own]
    exact receipt
  have inserted : store.insertReceipt closing.receipt = .ok { store with
      receipts := store.receipts.insertIfNew closing.receipt } :=
    if_pos fresh
  have recorded : Continues store journal callId closing.session.id ⟨{ store with
      receipts := store.receipts.insertIfNew closing.receipt }, [],
          some (.markClosed closing)⟩ := by
    apply Continues.wrote
    · exact ⟨rfl, rfl, fun _ stored => stored⟩
    · have same := accountOf_receipted store journal closing.session.id fresh
      rw [if_pos settling.own.symm] at same
      refine ⟨rfl, ?_⟩
      rw [append_nil, same]
      exact ⟨⟨settling.found, settling.own, settling.ticks, settling.debits, settling.credits⟩, rfl⟩
    · intro entry member
      cases member
    · exact Nat.zero_le 1
    · intro other different
      have same := accountOf_receipted store journal other fresh
      rw [settling.own, if_neg different] at same
      rw [append_nil]
      exact same
  simp only [closeTurn, inserted]
  cases reply with
  | done => exact recorded
  | failed =>
    exact Continues.ended (settling.rest_of_not_moves receipt harmless)
  | lost => exact harmless.elim

theorem markClosed_continues
    (stage : Stage (accountOf store journal closing.session.id) callId (.markClosed closing))
    (harmless : Harmless store (.markClosed closing) reply) :
    Continues store journal callId closing.session.id
      (closeTurn callId store now reply (.markClosed closing)) := by
  obtain ⟨settling, receipt⟩ := stage
  have executed : reply ≠ .failed := by
    rintro rfl
    exact harmless
  simp only [closeTurn, if_neg executed]
  have keeps := BillingSession.setClosed_id closing.receipt.closedAt
  refine ⟨?_, ?_, Nat.zero_le 1, ?_, ?_, ?_, rfl, fun _ stored => stored⟩
  · have same := accountOf_updateSession store journal closing.session.id
        (BillingSession.setClosed closing.receipt.closedAt) keeps
        settling.found
    show Rest (accountOf (store.setClosed closing.session.id
      closing.receipt.closedAt) (journal ++ []) closing.session.id)
    rw [append_nil]
    refine same ▸ ⟨?_, ?_, ?_, ?_⟩
    · intro missing
      cases missing
    · rintro session ⟨⟩ status
      exact absurd rfl status
    · rintro session ⟨⟩ active
      cases active
    · rintro session ⟨⟩ _
      exact ⟨receipt, callId, settling.debits.settled, settling.credits.settled⟩
  · intro entry member
    cases member
  · intro other different
    have same := accountOf_updateSession_of_ne store journal other
      (BillingSession.setClosed closing.receipt.closedAt) keeps different
    rw [← same]
    exact congrArg (accountOf _ · other) (append_nil journal)
  · intro id later stored
    rcases Serial.lookup_update_cases keeps stored with ⟨rfl, row, earlier, rfl⟩ | ⟨_, earlier⟩
    · refine ⟨row, earlier, rfl, rfl, fun isOpen => ?_⟩
      rcases isOpen with active | marked
      · cases active
      · cases marked
    · exact ⟨later, earlier, rfl, rfl, fun isOpen => isOpen⟩
  · intro id row stored
    by_cases own : id = closing.session.id
    · subst own
      exact ⟨row.setClosed closing.receipt.closedAt, Serial.lookup_update_of_some keeps stored, rfl⟩
    · exact ⟨row, (Serial.lookup_update_of_ne store.sessions keeps own).trans stored, rfl⟩

theorem closeTurn_continues {pending : Pending} {sessionId : Nat}
    (operation : pending.operation = .close)
    (bills : pending.bills = some sessionId)
    (stage : Stage (accountOf store journal sessionId) callId pending)
    (harmless : Harmless store pending reply)
    (reserved : ∀ session, store.sessions.lookup sessionId = some session →
      (store.reservations.lookup session.reservationId).isSome = true) :
    Continues store journal callId sessionId (closeTurn callId store now reply pending) := by
  cases pending with
  | readClosing other =>
    injection bills with same
    subst same
    exact readClosing_continues other now stage
  | readReceipt session =>
    cases bills
    exact readReceipt_continues now stage harmless
  | markClosing session =>
    cases bills
    exact markClosing_continues now stage harmless
  | sumTicks session receipt =>
    cases bills
    exact sumTicks_continues now stage harmless
  | settleRenter closing =>
    cases bills
    exact settleRenter_continues now stage harmless
  | settleProvider closing =>
    cases bills
    exact settleProvider_continues now stage harmless
  | readReservation closing =>
    cases bills
    exact readReservation_continues now stage harmless
      (reserved closing.session.setClosing stage.1.found)
  | resolveReservation closing =>
    cases bills
    exact resolveReservation_continues now stage harmless
  | insertReceipt closing =>
    cases bills
    exact insertReceipt_continues now stage harmless
  | markClosed closing =>
    cases bills
    exact markClosed_continues now stage harmless
  | _ => cases operation

end Closes

end DcpPlatform.Sessions
