import DcpPlatform.Foundation.Transition
import DcpPlatform.Sessions.Accounts

/-!
# Every minute is charged once

Two ticks that overlap debit the same minutes, and a request that fails after
money has moved leaves a charge that no tick records. Without both, every
minute is charged at most once.
-/

namespace DcpPlatform.Sessions

open Foundation Table List

structure ChargedOnce (system : System) : Prop where
  oneOpen : ∀ firstId secondId first second, system.store.sessions.lookup firstId = some first →
    system.store.sessions.lookup secondId = some second →
    first.IsOpen → second.IsOpen → first.jobId = second.jobId → firstId = secondId
  minutes : ∀ sessionId type minute, (system.journal.filter (fun entry =>
    entry.sessionId = sessionId ∧ entry.covers type minute)).length ≤ 1
  remainder : ∀ sessionId type, (system.journal.filter (fun entry =>
    entry.sessionId = sessionId ∧ entry.settles type)).length ≤ 1
  oneClose : ∀ first ∈ system.journal, ∀ second ∈ system.journal, ∀ firstType secondType,
    first.settles firstType → second.settles secondType →
      first.sessionId = second.sessionId →
      first.callId = second.callId
  receipt : ∀ sessionId session, system.store.sessions.lookup sessionId = some session →
    session.status = .closed → (system.store.receipts.rows.filter (fun receipt =>
      receipt.sessionId = sessionId)).length = 1
  receipts : ∀ sessionId, (system.store.receipts.rows.filter (fun receipt =>
    receipt.sessionId = sessionId)).length ≤ 1
  payouts : ∀ sessionId, (system.store.payouts.rows.filter (fun payout =>
    payout.sessionId = sessionId)).length ≤ 1
  noLateTick : system.journal.Pairwise (fun earlier later =>
    ¬ (earlier.isTotal ∧ later.isTick ∧ earlier.sessionId = later.sessionId))

/-- A tick or a close begins when no other one of its session is under way,
a start when no other one of its job is, and a payout is asked for with a
session and its provider. -/
def MayBegin (system : System) : Request → Prop
  | .startBillingSession request =>
    ∀ call ∈ system.calls.rows, ∀ pending ∈ call.pending, pending.opens ≠ some request.jobId
  | .recordBillingTick sessionId | .closeBillingSession sessionId =>
    ∀ call ∈ system.calls.rows, ∀ pending ∈ call.pending, pending.bills ≠ some sessionId
  | .processProviderPayout providerId sessionId =>
    ∃ session ∈ system.store.sessions.lookup sessionId, session.providerId = providerId

def Orderly (system : System) : Action → Prop
  | .call _ request => MayBegin system request
  | .turn callId reply _ =>
    ∀ pending ∈ pendingOf system callId, Harmless system.store pending reply

instance (system : System) : DecidablePred (MayBegin system) := by
  intro request
  unfold MayBegin
  split <;> infer_instance

instance (system : System) : DecidablePred (Orderly system) := by
  intro action
  unfold Orderly
  split <;> infer_instance

def IsAsked (store : Store) (providerId sessionId : Nat) : Prop :=
  ∃ session, store.sessions.lookup sessionId = some session ∧ session.providerId = providerId

def Asked (store : Store) : Pending → Prop
  | .findPayout providerId sessionId
  | .findReceipt providerId sessionId =>
    IsAsked store providerId sessionId
  | .insertPayout payout =>
    IsAsked store payout.providerId payout.sessionId
  | _ => True

def Looked : Pending → Option Nat
  | .findSession _ => none
  | pending => pending.opens

def Promised (store : Store) : Pending → Prop
  | .insertSession _ reservationId =>
    (store.reservations.lookup reservationId).isSome = true
  | _ => True

def Earlier (earlier later : Entry) : Prop :=
  ¬ (earlier.isTotal = true ∧ later.isTick = true ∧ earlier.sessionId = later.sessionId)

structure Kept (system : System) : Prop where
  stages : ∀ callId pending sessionId, pendingOf system callId = some pending →
    pending.bills = some sessionId →
    Stage (accountOf system.store system.journal sessionId) callId pending
  resting : ∀ sessionId, (∀ callId pending,
    pendingOf system callId = some pending → pending.bills ≠ some sessionId) →
    Rest (accountOf system.store system.journal sessionId)
  oneCall : Calls.Exclusive system.calls Pending.bills
  oneStart : Calls.Exclusive system.calls Pending.opens
  oneOpen : ∀ firstId secondId first second, system.store.sessions.lookup firstId = some first →
    system.store.sessions.lookup secondId = some second →
    first.IsOpen → second.IsOpen → first.jobId = second.jobId → firstId = secondId
  clear : ∀ callId pending jobId, pendingOf system callId = some pending →
    Looked pending = some jobId → ∀ sessionId session,
      system.store.sessions.lookup sessionId = some session → session.IsOpen → session.jobId ≠ jobId
  reserved : ∀ sessionId session, system.store.sessions.lookup sessionId = some session →
    (system.store.reservations.lookup session.reservationId).isSome = true
  promised :
    ∀ callId pending, pendingOf system callId = some pending → Promised system.store pending
  payouts :
    ∀ payout ∈ system.store.payouts.rows, IsAsked system.store payout.providerId payout.sessionId
  asked : ∀ callId pending, pendingOf system callId = some pending → Asked system.store pending
  noLateTick : system.journal.Pairwise Earlier

/-! ## What the accounts say -/

def Fair (entries : List Entry) : Prop :=
  ∃ callId, SettledBy entries .debit callId ∧ SettledBy entries .credit callId

variable {entries : List Entry}

theorem Fair.settledBy (fair : Fair entries) :
    ∃ callId, ∀ type, SettledBy entries type callId := by
  obtain ⟨callId, debits, credits⟩ := fair
  refine ⟨callId, fun type => ?_⟩
  cases type with
  | debit => exact debits
  | credit => exact credits

theorem Unsettled.fair {account : Account} (unsettled : Unsettled account) : Fair account.entries :=
  ⟨0, unsettled.debits.settledBy, unsettled.credits.settledBy⟩

theorem Rest.fair {account : Account} (rest : Rest account) :
    Fair account.entries := by
  cases found : account.session with
  | none =>
    have empty := (rest.unknown found).2.2
    have billed (type : TransactionType) :
        BilledThrough account.entries type 0 := by
      rw [empty]
      refine ⟨fun _ => Nat.zero_le 1, ?_, rfl⟩
      intro entry member
      cases member
    exact ⟨0, (billed .debit).settledBy, (billed .credit).settledBy⟩
  | some session =>
    by_cases closed : session.status = .closed
    · exact (rest.closed session found closed).2
    · exact (rest.opened session found closed).fair

variable {callId : Nat} {closing : Closing} {debited credited : Prop}

theorem Settling.fair {account : Account}
    (settling : Settling account callId closing debited credited) :
    Fair account.entries :=
  ⟨callId, settling.debits.settled, settling.credits.settled⟩

variable {sessionId : Nat} {pending : Pending}

theorem stage_fair {account : Account} (bills : pending.bills = some sessionId)
    (stage : Stage account callId pending) : Fair account.entries := by
  cases pending with
  | readSession other | readClosing other => exact Rest.fair stage
  | readTicks session => exact stage.2.fair
  | debitTick session tick | readReceipt session | markClosing session => exact stage.2.2.fair
  | creditTick session tick =>
    exact ⟨0, stage.2.2.2.1.settledBy, stage.2.2.2.2.settledBy⟩
  | insertTick session tick =>
    exact ⟨0, stage.2.2.1.settledBy, stage.2.2.2.settledBy⟩
  | sumTicks session receipt => exact stage.1.unsettled.fair
  | settleRenter closing | settleProvider closing | readReservation closing
  | resolveReservation closing | insertReceipt closing | markClosed closing => exact stage.1.fair
  | _ => cases bills

def Receipted (account : Account) : Prop :=
  ∀ session, account.session = some session →
    session.status = .closed → account.receipt.isSome = true

theorem Rest.receipted {account : Account} (rest : Rest account) :
    Receipted account := by
  intro session found closed
  exact (rest.closed session found closed).1

variable {session : BillingSession}

theorem receipted_of_found {account : Account} (found : account.session = some session)
    (status : session.status ≠ .closed) : Receipted account := by
  intro other otherFound closed
  rw [found] at otherFound
  injection otherFound with same
  rw [same] at status
  exact absurd closed status

theorem Ticking.receipted {account : Account}
    (ticking : Ticking account session) : Receipted account := by
  apply receipted_of_found ticking.found
  rw [ticking.active]
  exact SessionStatus.noConfusion

theorem Settling.receipted {account : Account}
    (settling : Settling account callId closing debited credited) :
    Receipted account :=
  receipted_of_found settling.found SessionStatus.noConfusion

theorem stage_receipted {account : Account} (bills : pending.bills = some sessionId)
    (stage : Stage account callId pending) : Receipted account := by
  cases pending with
  | readSession other | readClosing other => exact Rest.receipted stage
  | readTicks session | debitTick session tick | creditTick session tick
  | insertTick session tick | settleRenter closing | settleProvider closing
  | readReservation closing | resolveReservation closing | insertReceipt closing
  | markClosed closing => exact stage.1.receipted
  | readReceipt session => exact stage.2.2.receipted
  | markClosing session => exact receipted_of_found stage.1 stage.2.1
  | sumTicks session receipt =>
    exact receipted_of_found stage.1.found SessionStatus.noConfusion
  | _ => cases bills

variable {system : System}

theorem Kept.account (kept : Kept system) (sessionId : Nat) :
    Rest (accountOf system.store system.journal sessionId) ∨ ∃ callId pending,
      pending.bills = some sessionId ∧
        Stage (accountOf system.store system.journal sessionId) callId
          pending := by
  by_cases billing :
    ∃ callId pending, pendingOf system callId = some pending ∧ pending.bills = some sessionId
  · obtain ⟨callId, pending, found, bills⟩ := billing
    exact Or.inr ⟨callId, pending, bills, kept.stages callId pending sessionId found bills⟩
  · exact Or.inl (kept.resting sessionId (fun callId pending found bills =>
      billing ⟨callId, pending, found, bills⟩))

theorem Kept.fair (kept : Kept system) (sessionId : Nat) :
    Fair (accountOf system.store system.journal sessionId).entries := by
  rcases kept.account sessionId with rest | ⟨_, _, bills, stage⟩
  · exact rest.fair
  · exact stage_fair bills stage

theorem filter_accountOf (store : Store) (journal : List Entry)
    (sessionId : Nat) (keep : Entry → Bool) :
    (accountOf store journal sessionId).entries.filter keep = journal.filter (fun entry =>
      entry.sessionId = sessionId ∧ keep entry) := by
  rw [accountOf, filter_filter]
  apply filter_congr
  intro entry _
  rw [Bool.decide_and, Bool.decide_eq_true, Bool.and_comm]

theorem Kept.chargedOnce (kept : Kept system) :
    ChargedOnce system where
  oneOpen := kept.oneOpen
  minutes := by
    intro sessionId type minute
    obtain ⟨callId, settled⟩ := (kept.fair sessionId).settledBy
    have once := (settled type).once minute
    unfold coverage at once
    rwa [filter_accountOf] at once
  remainder := by
    intro sessionId type
    obtain ⟨callId, settled⟩ := (kept.fair sessionId).settledBy
    have once := (settled type).settled
    unfold settlements at once
    rwa [filter_accountOf] at once
  oneClose := by
    intro first firstMember second secondMember firstType secondType firstSettles secondSettles same
    obtain ⟨callId, settled⟩ := (kept.fair second.sessionId).settledBy
    have firstCall := (settled firstType).closer first
        (mem_filter.mpr ⟨firstMember, decide_eq_true same⟩)
        firstSettles
    have secondCall := (settled secondType).closer second
        (mem_filter.mpr ⟨secondMember, decide_eq_true rfl⟩)
        secondSettles
    exact firstCall.trans secondCall.symm
  receipt := by
    intro sessionId session found closed
    have receipted : Receipted (accountOf system.store system.journal sessionId) := by
      rcases kept.account sessionId with rest | ⟨_, _, bills, stage⟩
      · exact rest.receipted
      · exact stage_receipted bills stage
    obtain ⟨receipt, stored⟩ := Option.isSome_iff_exists.mp (receipted session found closed)
    have only := filter_of_lookup stored (fun _ => True)
    simp only [and_true, if_true] at only
    rw [only]
    rfl
  receipts := by
    intro sessionId
    apply length_filter_le_one
    intro first _ second _ firstOwn secondOwn
    exact (of_decide_eq_true firstOwn).trans (of_decide_eq_true secondOwn).symm
  payouts := by
    intro sessionId
    apply length_filter_le_one
    intro first firstMember second secondMember firstOwn secondOwn
    obtain ⟨firstRow, firstFound, firstProvider⟩ := kept.payouts first firstMember
    obtain ⟨secondRow, secondFound, secondProvider⟩ := kept.payouts second secondMember
    rw [of_decide_eq_true firstOwn] at firstFound
    rw [of_decide_eq_true secondOwn, firstFound] at secondFound
    injection secondFound with same
    unfold PayoutRecord.owner
    rw [of_decide_eq_true firstOwn, of_decide_eq_true secondOwn,
      ← firstProvider, ← secondProvider, same]
  noLateTick := kept.noLateTick

section Calls

variable {pending : Pending} {sessionId : Nat}

theorem opens_of_bills (bills : pending.bills = some sessionId) : pending.opens = none := by
  cases pending with
  | findSession _ | sumCredits _ | sumDebits _ _ | sumHeld _ _
  | insertReservation _ | insertSession _ _ => cases bills
  | _ => rfl

theorem looked_of_bills (bills : pending.bills = some sessionId) : Looked pending = none := by
  cases pending with
  | findSession _ => rfl
  | sumCredits _ | sumDebits _ _ | sumHeld _ _
  | insertReservation _ | insertSession _ _ => cases bills
  | _ => rfl

variable {store : Store}

theorem promised_of_bills (bills : pending.bills = some sessionId) :
    Promised store pending := by
  cases pending with
  | insertSession _ _ => cases bills
  | _ => exact trivial

theorem asked_of_bills (bills : pending.bills = some sessionId) : Asked store pending := by
  cases pending with
  | findPayout _ _ | findReceipt _ _ | insertPayout _ => cases bills
  | _ => exact trivial

end Calls

variable {before after : Store}

theorem Promised.of_kept (promised : Promised before pending)
    (reservations : ∀ id, (before.reservations.lookup id).isSome = true →
      (after.reservations.lookup id).isSome = true) :
    Promised after pending := by
  cases pending with
  | insertSession request reservationId =>
    exact reservations reservationId promised
  | _ => exact trivial

theorem IsAsked.of_kept {providerId sessionId : Nat} (asked : IsAsked before providerId sessionId)
    (kept : ∀ id session, before.sessions.lookup id = some session →
      ∃ later, after.sessions.lookup id = some later ∧ later.providerId = session.providerId) :
    IsAsked after providerId sessionId := by
  obtain ⟨session, found, provider⟩ := asked
  obtain ⟨later, laterFound, same⟩ := kept sessionId session found
  exact ⟨later, laterFound, same.trans provider⟩

theorem Asked.of_kept (asked : Asked before pending)
    (kept : ∀ id session, before.sessions.lookup id = some session →
      ∃ later, after.sessions.lookup id = some later ∧ later.providerId = session.providerId) :
    Asked after pending := by
  cases pending with
  | findPayout providerId sessionId | findReceipt providerId sessionId | insertPayout payout =>
    exact IsAsked.of_kept asked kept
  | _ => exact trivial

theorem pairwise_of_length_le_one (single : entries.length ≤ 1) : entries.Pairwise Earlier := by
  cases entries with
  | nil => exact List.Pairwise.nil
  | cons entry rest =>
    cases rest with
    | nil => exact pairwise_singleton Earlier entry
    | cons second rest => simp at single

theorem Kept.billed {turn : Turn} (kept : Kept system)
    (found : pendingOf system callId = some pending)
    (bills : pending.bills = some sessionId)
    (continues : Continues system.store system.journal callId sessionId turn) :
    Kept (system.afterTurn callId turn) := by
  have nextBills (later : Pending) (waits : turn.pending = some later) :
      later.bills = some sessionId := by
    have account := continues.account
    rw [waits] at account
    exact account.1
  have other {otherId otherSession : Nat} {waiting : Pending} (different : otherId ≠ callId)
      (waits : pendingOf system otherId = some waiting)
      (otherBills : waiting.bills = some otherSession) :
      otherSession ≠ sessionId := by
    rintro rfl
    exact different
      (kept.oneCall otherId callId waiting pending otherSession waits found otherBills bills)
  constructor
  · intro otherId later otherSession waits laterBills
    rcases Calls.waitsFor_resume_cases found waits with ⟨rfl, following⟩ | ⟨different, old⟩
    · have same := nextBills later following
      rw [laterBills] at same
      cases same
      have account := continues.account
      rw [following] at account
      exact account.2
    · have elsewhere := other different old laterBills
      have stage := kept.stages otherId later otherSession old laterBills
      rw [← continues.others otherSession elsewhere] at stage
      exact stage
  · intro otherSession idle
    by_cases here : otherSession = sessionId
    · subst here
      have account := continues.account
      cases following : turn.pending with
      | none =>
        rw [following] at account
        exact account
      | some later =>
        have waits : pendingOf (system.afterTurn callId turn) callId = some later := by
          exact (Calls.waitsFor_resume found _ _).trans ((if_pos rfl).trans following)
        exact absurd (nextBills later following) (idle callId later waits)
    · have rest : Rest (accountOf system.store system.journal otherSession) := by
        apply kept.resting
        intro otherId waiting waits otherBills
        by_cases own : otherId = callId
        · rw [own, found] at waits
          injection waits with same
          rw [← same, bills] at otherBills
          injection otherBills with sessions
          exact here sessions.symm
        · refine idle otherId waiting ?_ otherBills
          exact (Calls.waitsFor_resume_of_ne found own).trans waits
      rw [← continues.others otherSession here] at rest
      exact rest
  · apply kept.oneCall.resume found
    intro later key following laterBills
    rw [nextBills later following] at laterBills
    rw [bills]
    exact laterBills
  · apply kept.oneStart.resume found
    intro later key following opens
    rw [opens_of_bills (nextBills later following)] at opens
    cases opens
  · intro firstId secondId first second firstFound secondFound firstOpen secondOpen same
    obtain ⟨firstRow, firstStored, firstJob, _, firstWas⟩ := continues.rows firstId first firstFound
    obtain ⟨secondRow, secondStored, secondJob, _, secondWas⟩ :=
      continues.rows secondId second secondFound
    exact kept.oneOpen firstId secondId firstRow secondRow firstStored
      secondStored (firstWas firstOpen) (secondWas secondOpen)
      (firstJob.symm.trans (same.trans secondJob))
  · intro otherId later jobId waits looked id session stored isOpen
    rcases Calls.waitsFor_resume_cases found waits with ⟨_, following⟩ | ⟨_, old⟩
    · rw [looked_of_bills (nextBills later following)] at looked
      cases looked
    · obtain ⟨row, earlier, job, _, wasOpen⟩ := continues.rows id session stored
      rw [job]
      exact kept.clear otherId later jobId old looked id row earlier (wasOpen isOpen)
  · intro id session stored
    obtain ⟨row, earlier, _, reservation, _⟩ := continues.rows id session stored
    rw [reservation]
    exact continues.reservations _ (kept.reserved id row earlier)
  · intro otherId later waits
    rcases Calls.waitsFor_resume_cases found waits with ⟨_, following⟩ | ⟨_, old⟩
    · exact promised_of_bills (nextBills later following)
    · exact (kept.promised otherId later old).of_kept continues.reservations
  · intro payout member
    have stored : payout ∈ system.store.payouts.rows := by
      rw [← continues.payouts]
      exact member
    exact (kept.payouts payout stored).of_kept continues.kept
  · intro otherId later waits
    rcases Calls.waitsFor_resume_cases found waits with ⟨_, following⟩ | ⟨_, old⟩
    · exact asked_of_bills (nextBills later following)
    · exact (kept.asked otherId later old).of_kept continues.kept
  · refine pairwise_append.mpr ⟨kept.noLateTick, ?_, ?_⟩
    · exact pairwise_of_length_le_one continues.single
    · intro earlier earlierMember later laterMember late
      obtain ⟨own, untotalled⟩ := continues.entries later laterMember
      have listed : earlier ∈ (accountOf system.store system.journal sessionId).entries :=
        mem_filter.mpr ⟨earlierMember, decide_eq_true (late.2.2.trans own)⟩
      have total := untotalled late.2.1 earlier listed
      rw [late.1] at total
      cases total

structure Prepares (system : System) (pending : Pending) (turn : Turn) :
    Prop where
  journal : turn.journal = []
  accounts : ∀ sessionId, accountOf turn.store system.journal sessionId =
    accountOf system.store system.journal sessionId
  reservations : ∀ id, (system.store.reservations.lookup id).isSome = true →
    (turn.store.reservations.lookup id).isSome = true
  payouts :
    ∀ payout ∈ turn.store.payouts.rows, IsAsked system.store payout.providerId payout.sessionId
  next : ∀ later, turn.pending = some later → later.bills = none ∧ later.opens = pending.opens ∧
    Promised turn.store later ∧ Asked system.store later ∧
    ∀ jobId, Looked later = some jobId → ∀ sessionId session,
      system.store.sessions.lookup sessionId = some session → session.IsOpen → session.jobId ≠ jobId

theorem Kept.prepared {turn : Turn} (kept : Kept system)
    (found : pendingOf system callId = some pending) (bills : pending.bills = none)
    (prepares : Prepares system pending turn) :
    Kept (system.afterTurn callId turn) := by
  have journal : system.journal ++ turn.journal = system.journal := by
    rw [prepares.journal, append_nil]
  have accounts (sessionId : Nat) :
      accountOf turn.store (system.journal ++ turn.journal) sessionId =
        accountOf system.store system.journal sessionId := by
    rw [journal]
    exact prepares.accounts sessionId
  have rows (id : Nat) :
      turn.store.sessions.lookup id = system.store.sessions.lookup id :=
    congrArg Account.session (prepares.accounts id)
  have providers (id : Nat) (session : BillingSession)
      (stored : system.store.sessions.lookup id = some session) :
      ∃ later, turn.store.sessions.lookup id = some later ∧ later.providerId = session.providerId :=
    ⟨session, (rows id).trans stored, rfl⟩
  constructor
  · intro otherId later sessionId waits laterBills
    rcases Calls.waitsFor_resume_cases found waits with ⟨_, following⟩ | ⟨_, old⟩
    · rw [(prepares.next later following).1] at laterBills
      cases laterBills
    · have stage := kept.stages otherId later sessionId old laterBills
      rw [← accounts] at stage
      exact stage
  · intro sessionId idle
    have rest : Rest (accountOf system.store system.journal sessionId) := by
      apply kept.resting
      intro otherId waiting waits otherBills
      by_cases own : otherId = callId
      · rw [own, found] at waits
        injection waits with same
        rw [← same, bills] at otherBills
        cases otherBills
      · refine idle otherId waiting ?_ otherBills
        exact (Calls.waitsFor_resume_of_ne found own).trans waits
    rw [← accounts] at rest
    exact rest
  · apply kept.oneCall.resume found
    intro later key following laterBills
    rw [(prepares.next later following).1] at laterBills
    cases laterBills
  · apply kept.oneStart.resume found
    intro later key following opens
    rw [← (prepares.next later following).2.1]
    exact opens
  · intro firstId secondId first second firstFound secondFound
    exact kept.oneOpen firstId secondId first second ((rows firstId).symm.trans firstFound)
      ((rows secondId).symm.trans secondFound)
  · intro otherId later jobId waits looked id session stored
    have earlier := (rows id).symm.trans stored
    rcases Calls.waitsFor_resume_cases found waits with ⟨_, following⟩ | ⟨_, old⟩
    · exact (prepares.next later following).2.2.2.2 jobId looked id session earlier
    · exact kept.clear otherId later jobId old looked id session earlier
  · intro id session stored
    exact prepares.reservations _ (kept.reserved id session ((rows id).symm.trans stored))
  · intro otherId later waits
    rcases Calls.waitsFor_resume_cases found waits with ⟨_, following⟩ | ⟨_, old⟩
    · exact (prepares.next later following).2.2.1
    · exact (kept.promised otherId later old).of_kept prepares.reservations
  · intro payout member
    exact (prepares.payouts payout member).of_kept providers
  · intro otherId later waits
    rcases Calls.waitsFor_resume_cases found waits with ⟨_, following⟩ | ⟨_, old⟩
    · exact (prepares.next later following).2.2.2.1.of_kept providers
    · exact (kept.asked otherId later old).of_kept providers
  · show (system.journal ++ turn.journal).Pairwise Earlier
    rw [journal]
    exact kept.noLateTick

theorem Kept.prepares_ended (kept : Kept system)
    (pending : Pending) : Prepares system pending (.ended system.store) where
  journal := rfl
  accounts := fun _ => rfl
  reservations := fun _ stored => stored
  payouts := kept.payouts
  next := by
    intro later waits
    cases waits

theorem Kept.prepares_goesOn (kept : Kept system) {pending later : Pending}
    (next : later.bills = none ∧ later.opens = pending.opens ∧
      Promised system.store later ∧ Asked system.store later ∧
      ∀ jobId, Looked later = some jobId → ∀ sessionId session,
        system.store.sessions.lookup sessionId = some session →
          session.IsOpen → session.jobId ≠ jobId) :
    Prepares system pending (.goesOn system.store later) where
  journal := rfl
  accounts := fun _ => rfl
  reservations := fun _ stored => stored
  payouts := kept.payouts
  next := by
    intro other waits
    cases waits
    exact next

variable {reply : Reply} {store : Store} {request : StartRequest}

theorem clear_of_findSession (harmless : Harmless store (.findSession request) reply)
    (unanswered : readRow reply (store.openSession request.jobId) = none)
    (sessionId : Nat) (session : BillingSession)
    (stored : store.sessions.lookup sessionId = some session)
    (isOpen : session.IsOpen) : session.jobId ≠ request.jobId := by
  have missing : store.openSession request.jobId = none := by
    cases reply with
    | done => exact unanswered
    | failed | lost => exact harmless
  intro same
  have absent := find?_eq_none.mp missing session (lookup_mem stored)
  exact absent (decide_eq_true ⟨same, isOpen⟩)

theorem isSome_append {reservation : Reservation}
    (numbered : reservation.id = store.reservations.last + 1) (id : Nat)
    (stored : (store.reservations.lookup id).isSome = true) :
    ((store.reservations.append reservation numbered).lookup id).isSome = true := by
  obtain ⟨row, found⟩ := Option.isSome_iff_exists.mp stored
  exact Option.isSome_iff_exists.mpr ⟨row, Serial.lookup_append_of_some numbered found⟩

variable (now : Int)

theorem Kept.startTurn_prepares (kept : Kept system)
    (found : pendingOf system callId = some pending)
    (operation : pending.operation = .start)
    (harmless : Harmless system.store pending reply)
    (unopened : ∀ request reservationId, pending ≠ .insertSession request reservationId) :
    Prepares system pending (startTurn system.store now reply pending) := by
  cases pending with
  | findSession request =>
    simp only [startTurn]
    cases answered : readRow reply (system.store.openSession request.jobId) with
    | some existing => exact kept.prepares_ended _
    | none =>
      refine kept.prepares_goesOn ⟨rfl, rfl, trivial, trivial, ?_⟩
      rintro jobId ⟨⟩
      exact clear_of_findSession harmless answered
  | sumCredits request | sumDebits request credits =>
    exact kept.prepares_goesOn ⟨rfl, rfl, trivial, trivial,
      fun jobId looked => kept.clear callId _ jobId found looked⟩
  | sumHeld request total =>
    simp only [startTurn]
    by_cases short :
      total - readSum reply (system.store.heldFor request.renterId) < request.reserveHalala
    · rw [if_pos short]
      exact kept.prepares_ended _
    · rw [if_neg short]
      exact kept.prepares_goesOn ⟨rfl, rfl, trivial, trivial,
        fun jobId looked => kept.clear callId _ jobId found looked⟩
  | insertReservation request =>
    simp only [startTurn]
    cases inserted : system.store.insertReservation request.renterId
        request.reserveHalala request.jobId now with
    | error failure => exact kept.prepares_ended _
    | ok result =>
      rw [Store.insertReservation, require_bind_eq_ok_iff] at inserted
      obtain ⟨_, ⟨⟩⟩ := inserted
      have numbered :=
        system.store.reservationRow_id request.renterId request.reserveHalala request.jobId now
      have wrote (next : Option Pending) (own : ∀ later, next = some later →
          later = .insertSession request (system.store.reservations.last + 1)) :
          Prepares system (.insertReservation request) ⟨{ system.store with
            reservations := system.store.reservations.append
              (system.store.reservationRow request.renterId request.reserveHalala request.jobId now)
              numbered }, [],
              next⟩ := by
        refine
          { journal := rfl
            accounts := fun _ => rfl
            reservations := isSome_append numbered
            payouts := kept.payouts
            next := ?_ }
        intro later following
        have same := own later following
        subst same
        refine ⟨rfl, rfl, ?_, trivial, ?_⟩
        · exact Option.isSome_iff_exists.mpr
            ⟨_, (Serial.lookup_append numbered _).trans (if_pos rfl)⟩
        · exact fun jobId looked =>
            kept.clear callId _ jobId found looked
      cases reply with
      | done =>
        exact wrote _ (fun later same => by
          injection same with same
          exact same.symm)
      | failed => exact kept.prepares_ended _
      | lost => exact wrote none (fun later same => by cases same)
  | insertSession request reservationId =>
    exact absurd rfl (unopened request reservationId)
  | _ => cases operation

theorem Kept.payoutTurn_prepares (kept : Kept system)
    (found : pendingOf system callId = some pending)
    (operation : pending.operation = .payout) :
    Prepares system pending (payoutTurn system.store now reply pending) := by
  have asked := kept.asked callId pending found
  cases pending with
  | findPayout providerId sessionId =>
    simp only [payoutTurn]
    cases answered : readRow reply (system.store.payouts.lookup (providerId, sessionId)) with
    | some existing => exact kept.prepares_ended _
    | none =>
      refine kept.prepares_goesOn ⟨rfl, rfl, trivial, asked, ?_⟩
      intro jobId looked
      cases looked
  | findReceipt providerId sessionId =>
    simp only [payoutTurn]
    cases answered : readRow reply (system.store.receipts.lookup sessionId) with
    | none => exact kept.prepares_ended _
    | some receipt =>
      refine kept.prepares_goesOn ⟨rfl, rfl, trivial, asked, ?_⟩
      intro jobId looked
      cases looked
  | insertPayout payout =>
    simp only [payoutTurn]
    cases inserted : system.store.insertPayout payout with
    | error failure => exact kept.prepares_ended _
    | ok after =>
      have wrote : Prepares system (.insertPayout payout) ⟨after, [], none⟩ := by
        unfold Store.insertPayout at inserted
        by_cases fresh : system.store.payouts.lookup payout.owner = none
        · rw [if_pos fresh] at inserted
          cases inserted
          refine
            { journal := rfl
              accounts := fun _ => rfl
              reservations := fun _ stored => stored
              payouts := ?_
              next := ?_ }
          · intro other member
            simp only [insertIfNew_of_fresh fresh, insert_rows, mem_append, mem_singleton] at member
            rcases member with old | rfl
            · exact kept.payouts other old
            · exact asked
          · intro later following
            cases following
        · rw [if_neg fresh] at inserted
          cases inserted
      cases reply with
      | done | lost => exact wrote
      | failed => exact kept.prepares_ended _
  | _ => cases operation

theorem stage_iff_rest {account : Account} (unknown : account.session = none)
    (bills : pending.bills = some sessionId)
    (stage : Stage account callId pending) (other : Account) :
    Stage other callId pending ↔ Rest other := by
  have known {session : BillingSession} (found : account.session = some session) : False := by
    rw [unknown] at found
    cases found
  cases pending with
  | readSession id | readClosing id => exact Iff.rfl
  | readTicks session | debitTick session tick | creditTick session tick
  | insertTick session tick | sumTicks session receipt | settleRenter closing
  | settleProvider closing | readReservation closing | resolveReservation closing
  | insertReceipt closing | markClosed closing => exact (known stage.1.found).elim
  | readReceipt session => exact (known stage.1).elim
  | markClosing session => exact (known stage.1).elim
  | _ => cases bills

theorem Rest.withSession {account : Account}
    (rest : Rest account) (unknown : account.session = none)
    (active : session.status = .active) :
    Rest { account with session := some session } := by
  obtain ⟨ticks, receipt, entries⟩ := rest.unknown unknown
  have billed (type : TransactionType) :
      BilledThrough account.entries type 0 := by
    rw [entries]
    refine ⟨fun _ => Nat.zero_le 1, ?_, rfl⟩
    intro entry member
    cases member
  have through : previouslyBilledMinutes account.ticks = 0 := by
    rw [ticks]
    rfl
  apply Rest.of_unsettled rfl
  · rw [active]
    exact SessionStatus.noConfusion
  · intro _ entry member
    rw [show account.entries = [] from entries] at member
    cases member
  · refine ⟨?_, ?_, receipt⟩
    · exact through.symm ▸ billed .debit
    · exact through.symm ▸ billed .credit

theorem opens_of_looked {jobId : Nat} (looked : Looked pending = some jobId) :
    pending.opens = some jobId := by
  cases pending with
  | findSession _ => cases looked
  | _ => exact looked

theorem Kept.sessionOpened {reservationId : Nat} (kept : Kept system)
    (found : pendingOf system callId = some (.insertSession request reservationId)) :
    Kept (system.afterTurn callId ⟨(system.store.insertSession
      (newSession request.jobId request.renterId request.providerId
        request.ratePerHourSar reservationId request.now)).2,
        [], none⟩) := by
  generalize valuesAre : newSession request.jobId request.renterId request.providerId
    request.ratePerHourSar reservationId request.now = values
  have numbered := system.store.sessionRow_id values
  have rows (id : Nat) :
      (system.store.insertSession values).2.sessions.lookup id =
        if id = system.store.sessions.last + 1 then
          some (system.store.sessionRow values)
        else
          system.store.sessions.lookup id :=
    Serial.lookup_append numbered id
  have fresh : system.store.sessions.lookup (system.store.sessions.last + 1) =
      none :=
    Serial.lookup_above (Nat.lt_succ_self _)
  have old {id : Nat} {session : BillingSession}
      (stored : system.store.sessions.lookup id = some session) :
      (system.store.insertSession values).2.sessions.lookup id = some session :=
    Serial.lookup_append_of_some numbered stored
  have jobs : (system.store.sessionRow values).jobId = request.jobId := by
    rw [← valuesAre]
    rfl
  have reservation : (system.store.sessionRow values).reservationId = reservationId := by
    rw [← valuesAre]
    rfl
  have accounts (sessionId : Nat) :
      accountOf (system.store.insertSession values).2 (system.journal ++ []) sessionId =
        if sessionId = system.store.sessions.last + 1 then
          { accountOf system.store system.journal sessionId with
            session := some (system.store.sessionRow values) }
        else
          accountOf system.store system.journal sessionId := by
    have row := rows sessionId
    rw [append_nil]
    rw [accountOf, row]
    by_cases here : sessionId = system.store.sessions.last + 1
    · rw [if_pos here, if_pos here]
      rfl
    · rw [if_neg here, if_neg here]
      rfl
  have unjobbed (id : Nat) (session : BillingSession)
      (stored : system.store.sessions.lookup id = some session)
      (isOpen : session.IsOpen) : session.jobId ≠ request.jobId :=
    kept.clear callId _ request.jobId found rfl id session stored isOpen
  have waitsOld {other : Nat} {later : Pending} (waits : pendingOf
      (system.afterTurn callId ⟨(system.store.insertSession values).2, [], none⟩) other =
        some later) :
      other ≠ callId ∧ pendingOf system other = some later := by
    rcases Calls.waitsFor_resume_cases found waits with ⟨_, ⟨⟩⟩ | waiting
    exact waiting
  have restNew
      (rest : Rest (accountOf system.store system.journal (system.store.sessions.last + 1))) :
      Rest (accountOf (system.store.insertSession values).2
        (system.journal ++ []) (system.store.sessions.last + 1)) := by
    rw [accounts, if_pos rfl]
    exact rest.withSession fresh rfl
  constructor
  · intro otherId later sessionId waits laterBills
    have stage := kept.stages otherId later sessionId (waitsOld waits).2 laterBills
    by_cases here : sessionId = system.store.sessions.last + 1
    · subst here
      have same := stage_iff_rest fresh laterBills stage
      exact (same _).mpr (restNew ((same _).mp stage))
    · have same := accounts sessionId
      rw [if_neg here] at same
      rw [← same] at stage
      exact stage
  · intro sessionId idle
    have waits {otherId : Nat} {waiting : Pending}
        (waiting_ : pendingOf system otherId = some waiting)
        (bills : waiting.bills = some sessionId) : False := by
      by_cases own : otherId = callId
      · rw [own, found] at waiting_
        cases waiting_
        cases bills
      · refine idle otherId waiting ?_ bills
        exact (Calls.waitsFor_resume_of_ne found own).trans waiting_
    have rest := kept.resting sessionId (fun otherId waiting waiting_ bills => waits waiting_ bills)
    by_cases here : sessionId = system.store.sessions.last + 1
    · subst here
      exact restNew rest
    · have same := accounts sessionId
      rw [if_neg here] at same
      rw [← same] at rest
      exact rest
  · apply kept.oneCall.resume found
    intro later key following
    cases following
  · apply kept.oneStart.resume found
    intro later key following
    cases following
  · intro firstId secondId first second firstFound secondFound firstOpen secondOpen same
    rcases Serial.lookup_append_cases numbered firstFound with ⟨firstNew, rfl⟩ | ⟨_, firstOld⟩
    · rcases Serial.lookup_append_cases numbered secondFound with ⟨secondNew, rfl⟩ | ⟨_, secondOld⟩
      · exact firstNew.trans secondNew.symm
      · exact absurd (same.symm.trans jobs) (unjobbed secondId second secondOld secondOpen)
    · rcases Serial.lookup_append_cases numbered secondFound with ⟨secondNew, rfl⟩ | ⟨_, secondOld⟩
      · exact absurd (same.trans jobs) (unjobbed firstId first firstOld firstOpen)
      · exact kept.oneOpen firstId secondId first second firstOld secondOld
          firstOpen secondOpen same
  · intro otherId later jobId waits looked id session stored isOpen
    obtain ⟨different, waiting⟩ := waitsOld waits
    rcases Serial.lookup_append_cases numbered stored with ⟨_, rfl⟩ | ⟨_, earlier⟩
    · rw [jobs]
      rintro rfl
      exact different (kept.oneStart otherId callId later _ request.jobId waiting found
        (opens_of_looked looked) rfl)
    · exact kept.clear otherId later jobId waiting looked id session earlier isOpen
  · intro id session stored
    rcases Serial.lookup_append_cases numbered stored with ⟨_, rfl⟩ | ⟨_, earlier⟩
    · rw [reservation]
      exact kept.promised callId _ found
    · exact kept.reserved id session earlier
  · intro otherId later waits
    exact (kept.promised otherId later (waitsOld waits).2).of_kept (fun _ stored => stored)
  · intro payout member
    exact (kept.payouts payout member).of_kept (fun id session stored => ⟨session, old stored, rfl⟩)
  · intro otherId later waits
    exact (kept.asked otherId later (waitsOld waits).2).of_kept
      (fun id session stored => ⟨session, old stored, rfl⟩)
  · show (system.journal ++ []).Pairwise Earlier
    rw [append_nil]
    exact kept.noLateTick

theorem Kept.startTurn (kept : Kept system) (found : pendingOf system callId = some pending)
    (operation : pending.operation = .start)
    (harmless : Harmless system.store pending reply) :
    Kept (system.afterTurn callId (Sessions.startTurn system.store now reply pending)) := by
  have bills : pending.bills = none := by
    cases pending with
    | findSession _ | sumCredits _ | sumDebits _ _ | sumHeld _ _
    | insertReservation _ | insertSession _ _ => rfl
    | _ => cases operation
  by_cases opening : ∃ request reservationId, pending = .insertSession request reservationId
  · obtain ⟨request, reservationId, rfl⟩ := opening
    cases reply with
    | done | lost => exact kept.sessionOpened found
    | failed => exact kept.prepared found bills (kept.prepares_ended _)
  · refine kept.prepared found bills (kept.startTurn_prepares now found operation harmless ?_)
    intro request reservationId same
    exact opening ⟨request, reservationId, same⟩

theorem Kept.turn (kept : Kept system) (found : pendingOf system callId = some pending)
    (harmless : Harmless system.store pending reply) :
    Kept (system.afterTurn callId (takeTurn callId system.store now reply pending)) := by
  unfold takeTurn
  cases operation : pending.operation with
  | start => exact kept.startTurn now found operation harmless
  | tick =>
    cases bills : pending.bills with
    | none => cases pending <;> cases operation <;> cases bills
    | some sessionId =>
      have stage := kept.stages callId pending sessionId found bills
      exact kept.billed found bills (tickTurn_continues now operation bills stage harmless)
  | close =>
    cases bills : pending.bills with
    | none => cases pending <;> cases operation <;> cases bills
    | some sessionId =>
      have stage := kept.stages callId pending sessionId found bills
      exact kept.billed found bills
        (closeTurn_continues now operation bills stage harmless (kept.reserved sessionId))
  | payout =>
    have bills : pending.bills = none := by
      cases pending with
      | findPayout _ _ | findReceipt _ _ | insertPayout _ => rfl
      | _ => cases operation
    exact kept.prepared found bills (kept.payoutTurn_prepares now found operation)

theorem Kept.call {request : Request} (kept : Kept system) (fresh : system.calls.IsFresh callId)
    (mayBegin : MayBegin system request) :
    Kept { system with
      calls := system.calls.start callId request.first } := by
  have unbilled {sessionId otherId : Nat} {later : Pending}
      (bills : request.first.bills = some sessionId)
      (waits : pendingOf system otherId = some later) :
      later.bills ≠ some sessionId := by
    obtain ⟨call, member, same⟩ := Calls.mem_of_waitsFor waits
    cases request with
    | startBillingSession start | processProviderPayout provider session => cases bills
    | recordBillingTick session | closeBillingSession session =>
      rw [← bills]
      exact mayBegin call member later same
  have unopened {jobId otherId : Nat} {later : Pending} (opens : request.first.opens = some jobId)
      (waits : pendingOf system otherId = some later) :
      later.opens ≠ some jobId := by
    obtain ⟨call, member, same⟩ := Calls.mem_of_waitsFor waits
    cases request with
    | startBillingSession start =>
      rw [← opens]
      exact mayBegin call member later same
    | processProviderPayout provider session | recordBillingTick session
    | closeBillingSession session => cases opens
  refine ⟨?_, ?_, ?_, ?_, kept.oneOpen, ?_, kept.reserved, ?_, kept.payouts, ?_, kept.noLateTick⟩
  · intro otherId later sessionId waits bills
    rcases Calls.waitsFor_start_cases fresh waits with ⟨rfl, rfl⟩ | ⟨_, old⟩
    · have rest := kept.resting sessionId (fun _ _ earlier => unbilled bills earlier)
      cases request with
      | startBillingSession start | processProviderPayout provider session => cases bills
      | recordBillingTick session | closeBillingSession session => exact rest
    · exact kept.stages otherId later sessionId old bills
  · intro sessionId idle
    apply kept.resting sessionId
    intro otherId later old
    have different : otherId ≠ callId := by
      rintro rfl
      rw [show pendingOf system otherId = none from fresh.waitsFor] at old
      cases old
    apply idle otherId later
    exact (Calls.waitsFor_start fresh _ _).trans ((if_neg different).trans old)
  · exact kept.oneCall.start fresh (fun _ _ _ bills old => unbilled bills old)
  · exact kept.oneStart.start fresh (fun _ _ _ opens old => unopened opens old)
  · intro otherId later jobId waits looked
    rcases Calls.waitsFor_start_cases fresh waits with ⟨_, rfl⟩ | ⟨_, old⟩
    · cases request <;> cases looked
    · exact kept.clear otherId later jobId old looked
  · intro otherId later waits
    rcases Calls.waitsFor_start_cases fresh waits with ⟨_, rfl⟩ | ⟨_, old⟩
    · cases request <;> exact trivial
    · exact kept.promised otherId later old
  · intro otherId later waits
    rcases Calls.waitsFor_start_cases fresh waits with ⟨_, rfl⟩ | ⟨_, old⟩
    · cases request with
      | processProviderPayout provider session =>
        obtain ⟨row, found, same⟩ := mayBegin
        exact ⟨row, found, same⟩
      | _ => exact trivial
    · exact kept.asked otherId later old

theorem next_kept {source target : System} {action : Action} (kept : Kept source)
    (step : guarded (Fires next) Orderly source action target) :
    Kept target := by
  obtain ⟨orderly, fires⟩ := step
  cases action with
  | call callId request =>
    have called : (if source.calls.IsFresh callId then
          some { source with
            calls := source.calls.start callId request.first }
        else
          none) = some target :=
      fires
    by_cases fresh : source.calls.IsFresh callId
    · rw [if_pos fresh] at called
      cases called
      exact kept.call fresh orderly
    · rw [if_neg fresh] at called
      cases called
  | turn callId reply now =>
    obtain ⟨pending, found, rfl⟩ := Option.map_eq_some_iff.mp fires
    exact kept.turn now found (orderly pending found)

structure Unbilled (system : System) : Prop where
  sessions : system.store.sessions = Serial.empty
  ticks : system.store.ticks = []
  receipts : system.store.receipts = Table.empty
  payouts : system.store.payouts = Table.empty
  calls : system.calls = Table.empty
  journal : system.journal = []

theorem Unbilled.kept (unbilled : Unbilled system) :
    Kept system := by
  have idle (callId : Nat) : pendingOf system callId = none := by
    rw [pendingOf, unbilled.calls]
    rfl
  have unknown (sessionId : Nat) :
      system.store.sessions.lookup sessionId = none := by
    rw [unbilled.sessions]
    rfl
  constructor
  · intro callId pending sessionId waits
    rw [idle] at waits
    cases waits
  · intro sessionId _
    have ticks : system.store.ticksOf sessionId = [] := by
      rw [Store.ticksOf, unbilled.ticks]
      rfl
    have receipt : system.store.receipts.lookup sessionId = none := by
      rw [unbilled.receipts]
      rfl
    have entries : (accountOf system.store system.journal sessionId).entries = [] := by
      rw [accountOf, unbilled.journal]
      rfl
    have missing (session : BillingSession) :
        (accountOf system.store system.journal sessionId).session ≠ some session := by
      intro found
      have absent := unknown sessionId
      rw [show system.store.sessions.lookup sessionId = some session from found] at absent
      cases absent
    exact
      { unknown := fun _ => ⟨ticks, receipt, entries⟩
        opened := fun session found => absurd found (missing session)
        active := fun session found => absurd found (missing session)
        closed := fun session found => absurd found (missing session) }
  · rw [unbilled.calls]
    exact Calls.exclusive_empty Pending.bills
  · rw [unbilled.calls]
    exact Calls.exclusive_empty Pending.opens
  · intro firstId secondId first second found
    rw [unknown] at found
    cases found
  · intro callId pending jobId waits
    rw [idle] at waits
    cases waits
  · intro sessionId session found
    rw [unknown] at found
    cases found
  · intro callId pending waits
    rw [idle] at waits
    cases waits
  · intro payout member
    rw [unbilled.payouts] at member
    cases member
  · intro callId pending waits
    rw [idle] at waits
    cases waits
  · rw [unbilled.journal]
    exact List.Pairwise.nil

/-- While calls of one session or one job do not overlap and requests fail
only where nothing is lost with them, every minute is charged once. -/
theorem minutes_charged_once {start finish : System}
    {actions : List Action} (unbilled : Unbilled start)
    (run : Run (guarded (Fires next) Orderly) start actions finish) :
    ChargedOnce finish :=
  (run.invariant Kept next_kept unbilled.kept).chargedOnce

def sampleSystem : System :=
  { store :=
    { transactions := [⟨1, .credit, 5000, "deposit", 0, 0⟩]
      reservations := Serial.empty
      sessions := Serial.empty
      ticks := []
      receipts := Table.empty
      payouts := Table.empty }
    calls := Table.empty
    journal := [] }

theorem sampleSystem_unbilled : Unbilled sampleSystem :=
  ⟨rfl, rfl, rfl, rfl, rfl, rfl⟩

def answered (callId : Nat) (request : Request) (turns : Nat) (now : Int) : List Action :=
  .call callId request :: List.replicate turns (.turn callId .done now)

def sampleStart : List Action :=
  answered 1 (.startBillingSession ⟨7, 1, 2, 3 / 5, 0⟩) 6 0

theorem minutes_charged_once_sample :
    ∃ finish, Run (guarded (Fires next) Orderly) sampleSystem (sampleStart ++
      [.call 2 (.recordBillingTick 1), .turn 2 .done 60000,
        .turn 2 .done 60000, .turn 2 .failed 60000] ++
      answered 3 (.recordBillingTick 1) 5 60000 ++
      answered 4 (.closeBillingSession 1) 9 240000 ++
      answered 5 (.processProviderPayout 2 1) 3 240000) finish ∧
        finish.store.receipts.rows.length = 1 ∧
        finish.store.payouts.rows.length = 1 ∧ ChargedOnce finish := by
  refine exists_guarded_run (fun finish =>
    finish.store.receipts.rows.length = 1 ∧ finish.store.payouts.rows.length = 1)
    (by decide +kernel) ?_
  rintro finish run ⟨receipts, payouts⟩
  exact ⟨receipts, payouts, minutes_charged_once sampleSystem_unbilled run⟩

/-- Two ticks that overlap debit the same minute, and so does a tick that is
repeated after its row could not be stored. -/
theorem minute_charged_twice :
    (∃ finish, Run (Fires next) sampleSystem (sampleStart ++ [.call 2 (.recordBillingTick 1),
              .call 3 (.recordBillingTick 1), .turn 2 .done 60000,
              .turn 3 .done 60000, .turn 2 .done 60000,
              .turn 3 .done 60000, .turn 2 .done 60000,
              .turn 3 .done 60000]) finish ∧
        ¬ ChargedOnce finish) ∧
      ∃ finish, Run (Fires next) sampleSystem
        (sampleStart ++ answered 2 (.recordBillingTick 1) 4 60000 ++ [.turn 2 .failed 60000] ++
          answered 3 (.recordBillingTick 1) 5 60000) finish ∧
          ¬ ChargedOnce finish := by
  constructor
  · obtain ⟨finish, executed, twice⟩ : ∃ finish, execute next sampleSystem
        (sampleStart ++ [.call 2 (.recordBillingTick 1),
            .call 3 (.recordBillingTick 1), .turn 2 .done 60000,
            .turn 3 .done 60000, .turn 2 .done 60000,
            .turn 3 .done 60000, .turn 2 .done 60000,
            .turn 3 .done 60000]) = some finish ∧
            (finish.journal.filter (fun entry =>
              entry.sessionId = 1 ∧ entry.covers .debit 1)).length = 2 :=
      exists_of_execute_any (by decide +kernel)
    refine ⟨finish, run_of_execute executed, ?_⟩
    intro once
    have atMost := once.minutes 1 .debit 1
    omega
  · refine exists_run (fun finish =>
      (finish.journal.filter (fun entry =>
        entry.sessionId = 1 ∧ entry.covers .debit 1)).length = 2)
      (by decide +kernel) ?_
    intro finish _ twice once
    have atMost := once.minutes 1 .debit 1
    omega

end DcpPlatform.Sessions
