import DcpPlatform.Foundation.Calls
import DcpPlatform.Sessions.Effects

/-!
# Calls that take turns

Every request to the store is awaited, so a call is a chain of turns. A
request may fail or its answer be lost: the engine learns of an error in both
cases, and the errors of some reads are read as no rows.
-/

namespace DcpPlatform.Sessions

open Foundation

/-- A session is billed for the minutes after `after` up to `upTo`, by a tick
or by a close, or the total of a close has been computed. -/
inductive Entry where
  | billed (sessionId callId : Nat) (type : TransactionType) (closing : Bool) (after upTo : Int)
  | totalled (sessionId callId : Nat)

namespace Entry

def sessionId : Entry → Nat
  | billed sessionId _ _ _ _ _ => sessionId
  | totalled sessionId _ => sessionId

def callId : Entry → Nat
  | billed _ callId _ _ _ _ => callId
  | totalled _ callId => callId

def covers (type : TransactionType) (minute : Int) : Entry → Bool
  | billed _ _ other _ after upTo =>
    other = type ∧ after < minute ∧ minute ≤ upTo
  | totalled _ _ => false

def settles (type : TransactionType) : Entry → Bool
  | billed _ _ other closing _ _ => other = type ∧ closing = true
  | totalled _ _ => false

def isTick : Entry → Bool
  | billed _ _ _ closing _ _ => !closing
  | totalled _ _ => false

def isTotal : Entry → Bool
  | billed _ _ _ _ _ _ => false
  | totalled _ _ => true

end Entry

/-! ## Calls -/

structure StartRequest where
  jobId : Nat
  renterId : Nat
  providerId : Nat
  ratePerHourSar : ℚ
  now : Int

def StartRequest.reserveHalala (request : StartRequest) : Int :=
  sarToHalala request.ratePerHourSar * DEFAULT_RESERVE_HOURS

structure Closing where
  session : BillingSession
  receipt : BillingReceipt
  ticks : List BillingTick

namespace Closing

variable (closing : Closing)

def renterHalala : Int :=
  remainRenter closing.receipt closing.ticks

def providerHalala : Int :=
  remainProvider closing.receipt closing.ticks

end Closing

inductive Pending where
  | findSession (request : StartRequest)
  | sumCredits (request : StartRequest)
  | sumDebits (request : StartRequest) (credits : Int)
  | sumHeld (request : StartRequest) (total : Int)
  | insertReservation (request : StartRequest)
  | insertSession (request : StartRequest) (reservationId : Nat)
  | readSession (sessionId : Nat)
  | readTicks (session : BillingSession)
  | debitTick (session : BillingSession) (tick : BillingTick)
  | creditTick (session : BillingSession) (tick : BillingTick)
  | insertTick (session : BillingSession) (tick : BillingTick)
  | readClosing (sessionId : Nat)
  | readReceipt (session : BillingSession)
  | markClosing (session : BillingSession)
  | sumTicks (session : BillingSession) (receipt : BillingReceipt)
  | settleRenter (closing : Closing)
  | settleProvider (closing : Closing)
  | readReservation (closing : Closing)
  | resolveReservation (closing : Closing)
  | insertReceipt (closing : Closing)
  | markClosed (closing : Closing)
  | findPayout (providerId sessionId : Nat)
  | findReceipt (providerId sessionId : Nat)
  | insertPayout (payout : PayoutRecord)

/-- What a turn leaves: the store, what it adds to the journal, and the next
request unless the call has ended. -/
structure Turn where
  store : Store
  journal : List Entry
  pending : Option Pending

def Turn.ended (store : Store) : Turn :=
  ⟨store, [], none⟩

def Turn.goesOn (store : Store) (pending : Pending) : Turn :=
  ⟨store, [], some pending⟩

def write (store : Store) (reply : Reply) (written : Except StoreError Store) (journal : List Entry)
    (next : Option Pending) : Turn :=
  match written with
  | .error _ => .ended store
  | .ok after =>
    match reply with
    | .done => ⟨after, journal, next⟩
    | .failed => .ended store
    | .lost => ⟨after, journal, none⟩

def readRows {Row : Type} (reply : Reply) (rows : List Row) : List Row :=
  if reply = .done then rows else []

def readRow {Row : Type} (reply : Reply) (row : Option Row) :
    Option Row :=
  if reply = .done then row else none

def readSum (reply : Reply) (sum : Int) : Int :=
  if reply = .done then sum else 0

namespace Closing

variable (closing : Closing)

def afterRenter : Pending :=
  if 0 < closing.providerHalala then
    .settleProvider closing
  else
    .readReservation closing

def afterTicks : Pending :=
  if 0 < closing.renterHalala then
    .settleRenter closing
  else
    closing.afterRenter

end Closing

def tickEntry (callId : Nat) (type : TransactionType) (tick : BillingTick) : Entry :=
  .billed tick.sessionId callId type false
    (tick.elapsedMinutes - tick.incrementMinutes) tick.elapsedMinutes

def closingEntry (callId : Nat) (type : TransactionType) (closing : Closing) : Entry :=
  .billed closing.session.id callId type true
    (previouslyBilledMinutes closing.ticks) closing.receipt.totalMinutes

section Turns

variable (callId : Nat) (store : Store) (now : Int) (reply : Reply)

def startTurn : Pending → Turn
  | .findSession request =>
    match readRow reply (store.openSession request.jobId) with
    | some _ => .ended store
    | none => .goesOn store (.sumCredits request)
  | .sumCredits request =>
    .goesOn store (.sumDebits request (readSum reply (store.totalOf .credit request.renterId)))
  | .sumDebits request credits =>
    .goesOn store (.sumHeld request
      (credits - readSum reply (store.totalOf .debit request.renterId)))
  | .sumHeld request total =>
    if total - readSum reply (store.heldFor request.renterId) < request.reserveHalala then
      .ended store
    else
      .goesOn store (.insertReservation request)
  | .insertReservation request =>
    match store.insertReservation request.renterId request.reserveHalala request.jobId now with
    | .error _ => .ended store
    | .ok (reservation, reserved) =>
      write store reply (.ok reserved) [] (some (.insertSession request reservation.id))
  | .insertSession request reservationId =>
    write store reply (.ok (store.insertSession
      (newSession request.jobId request.renterId request.providerId
        request.ratePerHourSar reservationId request.now)).2)
      [] none
  | _ => .ended store

@[grind =]
def tickTurn : Pending → Turn
  | .readSession sessionId =>
    match readRow reply (store.sessions.lookup sessionId) with
    | none => .ended store
    | some session =>
      if session.status = .active then
        .goesOn store (.readTicks session)
      else
        .ended store
  | .readTicks session =>
    let tick := tickRow session (readRows reply (store.ticksOf session.id)) now
    if 0 < tick.incrementMinutes then
      .goesOn store (.debitTick session tick)
    else
      .ended store
  | .debitTick session tick =>
    write store reply (store.debitWalletAtomic session.renterId tick.renterChargeHalala
      (tickDebitReason tick.tickNumber session.jobId) session.jobId
      now)
      [tickEntry callId .debit tick]
      (some (.creditTick session tick))
  | .creditTick session tick =>
    write store reply (store.insertTransaction .credit session.providerId tick.providerCreditHalala
      (tickCreditReason tick.tickNumber session.jobId) session.jobId
      now)
      [tickEntry callId .credit tick]
      (some (.insertTick session tick))
  | .insertTick _ tick =>
    write store reply (store.insertTick tick) [] none
  | _ => .ended store

/-- The errors of the two status updates are ignored. -/
@[grind =]
def closeTurn : Pending → Turn
  | .readClosing sessionId =>
    match readRow reply (store.sessions.lookup sessionId) with
    | none => .ended store
    | some session =>
      if session.status = .closed then
        .goesOn store (.readReceipt session)
      else
        .goesOn store (.markClosing session)
  | .readReceipt session =>
    match readRow reply (store.receipts.lookup session.id) with
    | some _ => .ended store
    | none => .goesOn store (.markClosing session)
  | .markClosing session =>
    ⟨if reply = .failed then store else store.setClosing session.id, [.totalled session.id callId],
      some (.sumTicks session (receiptRow session now))⟩
  | .sumTicks session receipt =>
    .goesOn store (Closing.afterTicks ⟨session, receipt, readRows reply (store.ticksOf session.id)⟩)
  | .settleRenter closing =>
    write store reply (store.debitWalletAtomic closing.session.renterId
      closing.renterHalala (finalDebitReason closing.session.jobId)
      closing.session.jobId now)
      [closingEntry callId .debit closing]
      (some closing.afterRenter)
  | .settleProvider closing =>
    write store reply (store.insertTransaction .credit closing.session.providerId
      closing.providerHalala
      (finalCreditReason closing.session.jobId)
      closing.session.jobId now)
      [closingEntry callId .credit closing]
      (some (.readReservation closing))
  | .readReservation closing =>
    match readRow reply (store.reservations.lookup closing.session.reservationId) with
    | none => .ended store
    | some reservation =>
      if reservation.status = .held then
        .goesOn store (.resolveReservation closing)
      else
        .goesOn store (.insertReceipt closing)
  | .resolveReservation closing =>
    write store reply (.ok (store.resolveReservation closing.session.reservationId
      closing.receipt.renterChargedTotalHalala now))
      [] (some (.insertReceipt closing))
  | .insertReceipt closing =>
    write store reply (store.insertReceipt closing.receipt) [] (some (.markClosed closing))
  | .markClosed closing =>
    .ended (if reply = .failed then store
      else store.setClosed closing.session.id closing.receipt.closedAt)
  | _ => .ended store

def payoutTurn : Pending → Turn
  | .findPayout providerId sessionId =>
    match readRow reply (store.payouts.lookup (providerId, sessionId)) with
    | some _ => .ended store
    | none => .goesOn store (.findReceipt providerId sessionId)
  | .findReceipt providerId sessionId =>
    match readRow reply (store.receipts.lookup sessionId) with
    | none => .ended store
    | some receipt =>
      .goesOn store (.insertPayout (payoutRow providerId sessionId receipt now))
  | .insertPayout payout =>
    write store reply (store.insertPayout payout) [] none
  | _ => .ended store

end Turns

inductive Operation where
  | start | tick | close | payout

def Pending.operation : Pending → Operation
  | .findSession _ | .sumCredits _ | .sumDebits _ _ | .sumHeld _ _
  | .insertReservation _ | .insertSession _ _ => .start
  | .readSession _ | .readTicks _ | .debitTick _ _ | .creditTick _ _
  | .insertTick _ _ => .tick
  | .readClosing _ | .readReceipt _ | .markClosing _ | .sumTicks _ _
  | .settleRenter _ | .settleProvider _ | .readReservation _
  | .resolveReservation _ | .insertReceipt _ | .markClosed _ => .close
  | .findPayout _ _ | .findReceipt _ _ | .insertPayout _ => .payout

def takeTurn (callId : Nat) (store : Store) (now : Int) (reply : Reply)
    (pending : Pending) : Turn :=
  match pending.operation with
  | .start => startTurn store now reply pending
  | .tick => tickTurn callId store now reply pending
  | .close => closeTurn callId store now reply pending
  | .payout => payoutTurn store now reply pending

structure System where
  store : Store
  calls : Calls Pending
  journal : List Entry

inductive Request where
  | startBillingSession (request : StartRequest)
  | recordBillingTick (sessionId : Nat)
  | closeBillingSession (sessionId : Nat)
  | processProviderPayout (providerId sessionId : Nat)

def Request.first : Request → Pending
  | .startBillingSession request => .findSession request
  | .recordBillingTick sessionId => .readSession sessionId
  | .closeBillingSession sessionId => .readClosing sessionId
  | .processProviderPayout providerId sessionId =>
    .findPayout providerId sessionId

inductive Action where
  | call (callId : Nat) (request : Request)
  | turn (callId : Nat) (reply : Reply) (now : Int)

def pendingOf (system : System) (callId : Nat) : Option Pending :=
  system.calls.waitsFor callId

def System.afterTurn (system : System) (callId : Nat) (turn : Turn) :
    System :=
  { store := turn.store
    calls := system.calls.resume callId turn.pending
    journal := system.journal ++ turn.journal }

def next (system : System) : Action → Option System
  | .call callId request =>
    if system.calls.IsFresh callId then
      some { system with
        calls := system.calls.start callId request.first }
    else
      none
  | .turn callId reply now =>
    (pendingOf system callId).map (fun pending =>
      system.afterTurn callId (takeTurn callId system.store now reply pending))

inductive Alone (callId : Nat) (now : Int) :
    Store → Pending → Store → Prop
  | last {store after : Store} {pending : Pending} {journal : List Entry}
      (step : takeTurn callId store now .done pending = ⟨after, journal, none⟩) :
      Alone callId now store pending after
  | turn {store middle after : Store} {pending later : Pending} {journal : List Entry}
      (step : takeTurn callId store now .done pending = ⟨middle, journal, some later⟩)
      (rest : Alone callId now middle later after) :
      Alone callId now store pending after

section Undisturbed

variable {callId : Nat} {now : Int} {store after : Store}

end Undisturbed

end DcpPlatform.Sessions
