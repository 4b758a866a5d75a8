import DcpPlatform.Foundation.FiniteSums
import DcpPlatform.Topups.Bindings

/-!
# A charge is credited once

While a trigger waits for the answer to its charge, the webhook may find no
row bound to the charge, bind the newest pending row with the same amount and
credit it; the answer credits the charge again. `AnswersUnbound` excludes
this.
-/

namespace DcpPlatform.Topups

open Foundation Table List

/-- Verifications and sweeps ask the gateway about known rows. -/
def TopupAction.Polls : TopupAction → Prop
  | .startVerify _ _ _ | .resumeVerify _ _ _ | .startSweep _ _
  | .resumeSweep _ _ _ => True
  | _ => False

instance : DecidablePred TopupAction.Polls := by
  intro action
  apply TopupAction.casesOn (motive := fun action => Decidable action.Polls) action
  all_goals
    intros
    dsimp only [TopupAction.Polls]
    infer_instance

/-- Triggers, webhooks and the other steps that do not poll. -/
def PushStep (before : State) (action : TopupAction) (after : State) :
    Prop :=
  guarded (Fires nextTopups) (fun _ action => ¬ action.Polls) before action after

structure Answers (before : State) (call : TriggerCall) (charge : Charge)
    (status : ChargeStatus) (after : State) : Prop where
  found : before.triggers.lookup call.attemptId = some call
  waiting : call.answered = false
  charged : call.chargeId = some charge.id
  known : before.gateway.charges.lookup charge.id = some charge
  reached : Reached charge.status status
  same : after = before.answerTrigger call.attemptId (resumeTrigger before.db call charge.id status)

variable {before after : State} {call : TriggerCall} {charge : Charge} {status : ChargeStatus}

theorem Answers.db (answers : Answers before call charge status after) :
    after.db = resumeTrigger before.db call charge.id status := by
  rw [answers.same]
  rfl

variable {attemptId : Nat}

theorem PushStep.answers (pushes : PushStep before (.resumeTrigger attemptId status) after) :
    ∃ call charge, call.attemptId = attemptId ∧ Answers before call charge status after := by
  have fires := pushes.2
  simp only [Fires, nextTopups] at fires
  split at fires
  · cases fires
  · rename_i call found
    split at fires
    · cases fires
    · rename_i charge known
      obtain ⟨allowed, reached⟩ := of_ite_eq_some fires
      obtain ⟨chargeId, charged, chargeFound⟩ := Option.bind_eq_some_iff.mp known
      have key := lookup_key chargeFound
      subst key
      have attemptKey := lookup_key found
      subst attemptKey
      exact ⟨call, charge, rfl, found, allowed.1, charged, chargeFound, allowed.2, reached.symm⟩

inductive TriggerStep (before : State) (action : TopupAction) (after : State) : Prop
  | idle : after.db.payments = before.db.payments → after.db.credits = before.db.credits →
    after.triggers = before.triggers →
    TriggerStep before action after
  | inserted {payment : Payment} (fresh : before.db.payments.lookup payment.paymentId = none) :
      after.db.payments = before.db.payments.insert payment fresh →
      (∀ attemptId, payment.paymentId ≠ .auto attemptId) →
      (∀ id, payment.moyasarId = some id → before.gateway.Fresh id) →
      after.db.credits = before.db.credits →
      after.triggers = before.triggers → TriggerStep before action after
  | delivered {charge : Charge} {status : EventStatus} {amountRefunded : Option Int} :
      before.gateway.charges.lookup charge.id = some charge →
      Reached charge.status status.toChargeStatus →
      WebhookEffect before.db (eventOf charge status amountRefunded) after.db →
      after.gateway = before.gateway →
      after.triggers = before.triggers → TriggerStep before action after
  | started {call : TriggerCall} (fresh : before.triggers.lookup call.attemptId = none) :
      before.db.payments.lookup (.auto call.attemptId) = none →
      call.chargeId = none →
      after.db.payments = before.db.payments →
      after.db.credits = before.db.credits →
      after.triggers = before.triggers.insert call fresh →
      TriggerStep before action after
  | charged {attemptId chargeId : Nat} :
      before.gateway.Fresh chargeId →
      after.db = before.db →
      after.triggers = before.triggers.update attemptId (TriggerCall.setChargeId chargeId)
        (TriggerCall.setChargeId_attemptId chargeId) →
      TriggerStep before action after
  | answered {call : TriggerCall} {charge : Charge} {status : ChargeStatus} :
      action = .resumeTrigger call.attemptId status →
      Answers before call charge status after →
      TriggerStep before action after
  | abandoned {attemptId : Nat} :
      after.db.payments = before.db.payments →
      after.db.credits = before.db.credits →
      after.triggers =
        before.triggers.update attemptId TriggerCall.setAnswered TriggerCall.setAnswered_attemptId →
      TriggerStep before action after

variable {state : State}

theorem startTrigger_triggerStep
    (fresh : state.FreshAttempt attemptId) (renterId : Nat) (clock : Clock) :
    TriggerStep state (.startTrigger attemptId renterId clock)
      (state.startTrigger attemptId renterId clock) := by
  have quiet := Topups.startTrigger_quiet state.db renterId clock attemptId
  obtain ⟨_, noTrigger, noRow⟩ := fresh
  unfold State.startTrigger
  split
  · rename_i db amount started
    rw [started] at quiet
    have unused : state.triggers.lookup
        (TriggerCall.mk attemptId renterId amount clock.now none false).attemptId = none :=
      noTrigger
    exact TriggerStep.started unused noRow rfl quiet.payments
      quiet.credits (insertIfNew_of_fresh unused)
  · rename_i started
    rw [started] at quiet
    exact TriggerStep.idle quiet.payments quiet.credits rfl

variable {action : TopupAction}

theorem PushStep.triggerStep (pushes : PushStep before action after) :
    TriggerStep before action after := by
  obtain ⟨noPoll, fires⟩ := pushes
  cases action with
  | topup number renterId amount sourceType invoiceId now =>
    obtain ⟨allowed, rfl⟩ := of_ite_eq_some fires
    refine TriggerStep.inserted allowed.2.2 (insertIfNew_of_fresh allowed.2.2) nofun ?_ rfl rfl
    intro id bound
    cases bound
    exact allowed.2.1
  | bankTransfer number renterId amount now =>
    obtain ⟨fresh, rfl⟩ := of_ite_eq_some fires
    exact TriggerStep.inserted fresh (insertIfNew_of_fresh fresh) nofun nofun rfl rfl
  | attempt invoiceId chargeId carriesRenter =>
    simp only [Fires, nextTopups] at fires
    split at fires
    · cases fires
    · obtain ⟨_, rfl⟩ := of_ite_eq_some fires
      exact TriggerStep.idle rfl rfl rfl
  | settle chargeId paid | refund chargeId =>
    obtain ⟨_, rfl⟩ := of_ite_eq_some fires
    exact TriggerStep.idle rfl rfl rfl
  | expire invoiceId =>
    cases fires
    exact TriggerStep.idle rfl rfl rfl
  | deliver chargeId status amountRefunded now =>
    simp only [Fires, nextTopups] at fires
    split at fires
    · cases fires
    · rename_i charge found
      obtain ⟨announced, rfl⟩ := of_ite_eq_some fires
      have key := lookup_key found
      subst key
      exact TriggerStep.delivered found announced (webhook_effect _ _ now) rfl rfl
  | startVerify _ _ _ | resumeVerify _ _ _ | startSweep _ _
  | resumeSweep _ _ _ =>
    exact absurd trivial noPoll
  | startTrigger attemptId renterId clock =>
    obtain ⟨fresh, rfl⟩ := of_ite_eq_some fires
    exact startTrigger_triggerStep fresh renterId clock
  | chargeCard attemptId chargeId =>
    simp only [Fires, nextTopups] at fires
    split at fires
    · cases fires
    · obtain ⟨allowed, rfl⟩ := of_ite_eq_some fires
      exact TriggerStep.charged allowed.2.2 rfl rfl
  | resumeTrigger attemptId status =>
    obtain ⟨call, charge, rfl, answers⟩ := PushStep.answers ⟨noPoll, fires⟩
    exact TriggerStep.answered rfl answers
  | failTrigger attemptId =>
    simp only [Fires, nextTopups] at fires
    split at fires
    · cases fires
    · obtain ⟨_, rfl⟩ := of_ite_eq_some fires
      have quiet := finalizeFailure_quiet before.db
      exact TriggerStep.abandoned (quiet _).payments (quiet _).credits rfl
  | use renterId amount =>
    obtain ⟨_, rfl⟩ := of_ite_eq_some fires
    exact TriggerStep.idle (withdraw_payments _ _ _) (withdraw_credits _ _ _) rfl

inductive AnswerEffect (db : Database) (call : TriggerCall)
    (chargeId : Nat) (status : ChargeStatus) (after : Database) : Prop
  | silent : status ≠ .paid → after.payments = db.payments → after.credits = db.credits →
    AnswerEffect db call chargeId status after
  | mirrored (fresh : db.payments.lookup (.auto call.attemptId) = none) :
      status ≠ .paid → boundTo db chargeId = none →
      after.payments = db.payments.insert (autoPayment call chargeId .initiated) fresh →
      after.credits = db.credits →
      AnswerEffect db call chargeId status after
  | credited (fresh : db.payments.lookup (.auto call.attemptId) = none) :
      status = .paid → boundTo db chargeId = none →
      after.payments = db.payments.insert (autoPayment call chargeId .paid) fresh →
      after.credits = db.credits ++ [rechargeCredit call chargeId] →
      AnswerEffect db call chargeId status after
  | recredited {payment : Payment} :
      status = .paid → boundTo db chargeId = some payment →
      after.payments = db.payments →
      after.credits = db.credits ++ [rechargeCredit call chargeId] →
      AnswerEffect db call chargeId status after

theorem insertOrIgnore_of_bound {db : Database} {moyasarId : Nat}
    {other : Payment} (payment : Payment)
    (bound : boundTo db moyasarId = some other) :
    db.insertOrIgnore payment moyasarId = db := by
  rw [Database.insertOrIgnore, bound, if_neg (Option.some_ne_none other)]

variable {payment : Payment}

theorem insertOrIgnore_of_fresh {db : Database} {moyasarId : Nat}
    (unbound : boundTo db moyasarId = none)
    (fresh : db.payments.lookup payment.paymentId = none) :
    db.insertOrIgnore payment moyasarId =
      { db with payments := db.payments.insert payment fresh } := by
  rw [Database.insertOrIgnore, if_pos unbound, insertIfNew_of_fresh fresh]

theorem boundTo_congr {db other : Database}
    (same : other.payments = db.payments) (moyasarId : Nat) :
    boundTo other moyasarId = boundTo db moyasarId := by
  unfold boundTo
  rw [same]

theorem resumeTrigger_effect (db : Database) (call : TriggerCall)
    (chargeId : Nat) (status : ChargeStatus)
    (fresh : db.payments.lookup (.auto call.attemptId) = none) :
    AnswerEffect db call chargeId status (resumeTrigger db call chargeId status) := by
  cases status with
  | paid =>
    obtain ⟨credited, same, payments, credits, _⟩ := finalizePaid_eq db call chargeId
    have sameBound := boundTo_congr payments chargeId
    simp only [resumeTrigger, same]
    cases bound : boundTo db chargeId with
    | none =>
      rw [bound] at sameBound
      have freshLater :
          credited.payments.lookup (autoPayment call chargeId .paid).paymentId = none := by
        rw [payments]
        exact fresh
      rw [insertOrIgnore_of_fresh sameBound freshLater]
      refine AnswerEffect.credited fresh rfl bound ?_ credits
      simp [payments]
    | some payment =>
      rw [bound] at sameBound
      rw [insertOrIgnore_of_bound _ sameBound]
      exact AnswerEffect.recredited rfl bound payments credits
  | initiated =>
    simp only [resumeTrigger, requireThreeDs]
    cases bound : boundTo db chargeId with
    | none =>
      rw [insertOrIgnore_of_fresh bound fresh]
      exact AnswerEffect.mirrored fresh (by simp) bound rfl rfl
    | some payment =>
      rw [insertOrIgnore_of_bound _ bound]
      exact AnswerEffect.silent (by simp) rfl rfl
  | failed =>
    have quiet := finalizeFailure_quiet db call
    exact AnswerEffect.silent (by simp) quiet.payments quiet.credits
  | refunded | other =>
    exact AnswerEffect.silent (by simp) rfl rfl

/-- Triggers have charges of their own, the row of a waiting trigger does
not exist yet, and a row bound to its charge has been credited for it. -/
structure Awaiting (state : State) : Prop where
  apart : ∀ attemptId other call otherCall chargeId, state.triggers.lookup attemptId = some call →
    state.triggers.lookup other = some otherCall →
    call.chargeId = some chargeId → otherCall.chargeId = some chargeId → attemptId = other
  unmirrored : ∀ attemptId call, state.triggers.lookup attemptId = some call →
    call.answered = false → state.db.payments.lookup (.auto attemptId) = none
  credited : ∀ attemptId call chargeId, state.triggers.lookup attemptId = some call →
    call.answered = false → call.chargeId = some chargeId →
    ∀ key payment, state.db.payments.lookup key = some payment → payment.moyasarId = some chargeId →
      ∃ credit ∈ state.db.credits, credit.chargeId = chargeId

theorem Awaiting.of_fewer (awaiting : Awaiting before)
    (payments : after.db.payments = before.db.payments)
    (credits : after.db.credits = before.db.credits)
    (fewer : ∀ attemptId call, after.triggers.lookup attemptId = some call →
      ∃ earlier, before.triggers.lookup attemptId = some earlier ∧
        earlier.chargeId = call.chargeId ∧
        (call.answered = false → earlier.answered = false)) :
    Awaiting after := by
  constructor
  · intro attemptId other call otherCall chargeId found otherFound charged otherCharged
    obtain ⟨earlier, earlierFound, same, _⟩ := fewer attemptId call found
    obtain ⟨otherEarlier, otherEarlierFound, otherSame, _⟩ := fewer other otherCall otherFound
    exact awaiting.apart attemptId other earlier otherEarlier chargeId
      earlierFound otherEarlierFound (same.trans charged)
      (otherSame.trans otherCharged)
  · intro attemptId call found waiting
    obtain ⟨earlier, earlierFound, _, waits⟩ := fewer attemptId call found
    rw [payments]
    exact awaiting.unmirrored attemptId earlier earlierFound (waits waiting)
  · intro attemptId call chargeId found waiting charged
    obtain ⟨earlier, earlierFound, same, waits⟩ := fewer attemptId call found
    rw [payments, credits]
    exact awaiting.credited attemptId earlier chargeId earlierFound
      (waits waiting) (same.trans charged)

variable {before after : State}

theorem answered_fewer {attemptId : Nat} (triggers : after.triggers =
    before.triggers.update attemptId TriggerCall.setAnswered TriggerCall.setAnswered_attemptId)
    (other : Nat) (call : TriggerCall)
    (found : after.triggers.lookup other = some call) :
    ∃ earlier, before.triggers.lookup other = some earlier ∧ earlier.chargeId = call.chargeId ∧
      (call.answered = false → earlier.answered = false ∧ other ≠ attemptId) := by
  rw [triggers] at found
  rcases lookup_of_lookup_update TriggerCall.setAnswered_attemptId
      found with ⟨_, earlier, earlierFound, changed⟩ | ⟨different, kept⟩
  · subst changed
    exact ⟨earlier, earlierFound, rfl, nofun⟩
  · exact ⟨call, kept, rfl, fun waiting => ⟨waiting, different⟩⟩

theorem Awaiting.of_delivered {status : EventStatus} {amountRefunded : Option Int}
    (awaiting : Awaiting before) (linked : Linked before)
    (known : before.gateway.charges.lookup charge.id = some charge)
    (effect : WebhookEffect before.db (eventOf charge status amountRefunded) after.db)
    (triggers : after.triggers = before.triggers) : Awaiting after := by
  have unmirrored {key : PaymentKey} {payment changed : Payment}
      (rewrites : Rewrites before.db after.db payment changed)
      (absent : before.db.payments.lookup key = none) :
      after.db.payments.lookup key = none := by
    have different : key ≠ payment.paymentId := by
      intro same
      subst same
      rw [rewrites.found] at absent
      cases absent
    rw [rewrites.others key different]
    exact absent
  constructor
  · rw [triggers]
    exact awaiting.apart
  · intro attemptId call found waiting
    rw [triggers] at found
    have absent := awaiting.unmirrored attemptId call found waiting
    cases effect with
    | ignored same _ _ =>
      rw [same]
      exact absent
    | moved _ rewrites _ _ _ _ _ | credited _ rewrites _ _ _ _ _ _ =>
      exact unmirrored rewrites absent
  · intro attemptId call chargeId found waiting charged key row rowFound bound
    rw [triggers] at found
    have earlier := awaiting.credited attemptId call chargeId found waiting charged
    cases effect with
    | ignored same _ _ =>
      rw [same] at rowFound ⊢
      exact earlier key row rowFound bound
    | @moved payment changed matched rewrites toCharge _ paid credits _ =>
      rw [credits]
      rcases rewrites.lookup_cases rowFound with ⟨_, rfl⟩ | ⟨_, kept⟩
      · have same : charge.id = chargeId := by
          have both := toCharge.symm.trans bound
          injection both
        subst same
        cases matched with
        | byId already =>
          exact earlier payment.paymentId payment rewrites.found already
        | byInvoice _ announced _ =>
          obtain ⟨stored, storedFound, noInvoice, _⟩ :=
            linked.triggers attemptId call charge.id found charged
          rw [known] at storedFound
          cases storedFound
          have both := announced.symm.trans noInvoice
          cases both
        | byAmount _ _ eventPaid _ _ pending =>
          have settled := paid eventPaid
          rw [pending] at settled
          cases settled
      · exact earlier key row kept bound
    | @credited payment changed matched rewrites toCharge _ _ _ credits _ =>
      rw [credits]
      rcases rewrites.lookup_cases rowFound with ⟨_, rfl⟩ | ⟨_, kept⟩
      · have same : charge.id = chargeId := by
          have both := toCharge.symm.trans bound
          injection both
        exact ⟨_, mem_append_right _ mem_cons_self, same⟩
      · obtain ⟨credit, member, forCharge⟩ := earlier key row kept bound
        exact ⟨credit, mem_append_left _ member, forCharge⟩

theorem Awaiting.of_answered (awaiting : Awaiting before)
    (answers : Answers before call charge status after) :
    Awaiting after := by
  have found := answers.found
  have charged := answers.charged
  have fewer := @answered_fewer before after call.attemptId (by rw [answers.same]; rfl)
  have effect := resumeTrigger_effect before.db call charge.id status
      (awaiting.unmirrored _ call found answers.waiting)
  rw [← answers.db] at effect
  -- a new row is the one of the answered trigger
  have rows {key : PaymentKey} {row : Payment} (stored : after.db.payments.lookup key = some row) :
      before.db.payments.lookup key = some row ∨
        (key = .auto call.attemptId ∧ row.moyasarId = some charge.id) := by
    have inserted {payment : Payment} (fresh : before.db.payments.lookup payment.paymentId = none)
        (key_ : payment.paymentId = .auto call.attemptId)
        (bound : payment.moyasarId = some charge.id)
        (payments : after.db.payments = before.db.payments.insert payment fresh) :
        before.db.payments.lookup key = some row ∨
          (key = .auto call.attemptId ∧ row.moyasarId = some charge.id) := by
      rw [payments, lookup_insert] at stored
      split at stored
      · rename_i here
        injection stored with sameRow
        subst here sameRow
        exact Or.inr ⟨key_, bound⟩
      · exact Or.inl stored
    cases effect with
    | silent _ payments _ | recredited _ _ payments _ =>
      rw [payments] at stored
      exact Or.inl stored
    | mirrored fresh _ _ payments _ | credited fresh _ _ payments _ =>
      exact inserted fresh rfl rfl payments
  have credits {credit : Credit} (member : credit ∈ before.db.credits) :
      credit ∈ after.db.credits := by
    cases effect with
    | silent _ _ credits | mirrored _ _ _ _ credits =>
      rw [credits]
      exact member
    | credited _ _ _ _ credits | recredited _ _ _ credits =>
      rw [credits]
      exact mem_append_left _ member
  constructor
  · intro attemptId other first second chargeId firstFound secondFound firstCharged secondCharged
    obtain ⟨one, oneFound, oneSame, _⟩ := fewer attemptId first firstFound
    obtain ⟨two, twoFound, twoSame, _⟩ := fewer other second secondFound
    exact awaiting.apart attemptId other one two chargeId oneFound twoFound
      (oneSame.trans firstCharged) (twoSame.trans secondCharged)
  · intro attemptId other otherFound otherWaiting
    obtain ⟨earlier, earlierFound, _, waits⟩ := fewer attemptId other otherFound
    obtain ⟨earlierWaiting, different⟩ := waits otherWaiting
    cases stored : after.db.payments.lookup (.auto attemptId) with
    | none => rfl
    | some row =>
      rcases rows stored with kept | ⟨key, _⟩
      · rw [awaiting.unmirrored attemptId earlier earlierFound earlierWaiting] at kept
        cases kept
      · injection key with sameAttempt
        exact absurd sameAttempt different
  · intro attemptId other chargeId otherFound otherWaiting otherCharged key row stored bound
    obtain ⟨earlier, earlierFound, sameCharge, waits⟩ := fewer attemptId other otherFound
    obtain ⟨earlierWaiting, different⟩ := waits otherWaiting
    have earlierCharged := sameCharge.trans otherCharged
    rcases rows stored with kept | ⟨_, toCharge⟩
    · obtain ⟨credit, member, forCharge⟩ :=
        awaiting.credited attemptId earlier chargeId earlierFound
          earlierWaiting earlierCharged key row kept bound
      exact ⟨credit, credits member, forCharge⟩
    · have sameId : charge.id = chargeId := by
        have both := toCharge.symm.trans bound
        injection both
      rw [sameId] at charged
      exact absurd (awaiting.apart attemptId call.attemptId earlier call chargeId
        earlierFound found earlierCharged charged) different

theorem TriggerStep.awaiting (step : TriggerStep before action after) (linked : Linked before)
    (awaiting : Awaiting before) : Awaiting after := by
  cases step with
  | idle payments credits triggers =>
    apply awaiting.of_fewer payments credits
    intro attemptId call found
    rw [triggers] at found
    exact ⟨call, found, rfl, fun waiting => waiting⟩
  | @inserted payment fresh inserted foreign unnamed credits triggers =>
    constructor
    · rw [triggers]
      exact awaiting.apart
    · intro attemptId call found waiting
      rw [triggers] at found
      rw [inserted, lookup_insert_of_ne _ fresh (foreign attemptId)]
      exact awaiting.unmirrored attemptId call found waiting
    · intro attemptId call chargeId found waiting charged key row stored bound
      rw [triggers] at found
      rw [inserted, lookup_insert] at stored
      split at stored
      · cases stored
        obtain ⟨charge, known, _⟩ := linked.triggers attemptId call chargeId found charged
        rw [(unnamed chargeId bound).2] at known
        cases known
      · rw [credits]
        exact awaiting.credited attemptId call chargeId found waiting charged key row stored bound
  | delivered known _ effect _ triggers =>
    exact awaiting.of_delivered linked known effect triggers
  | @started started fresh noRow uncharged payments credits triggers =>
    have earlier {attemptId : Nat} {call : TriggerCall}
        (found : after.triggers.lookup attemptId = some call) :
        (attemptId = started.attemptId ∧ call = started) ∨
          before.triggers.lookup attemptId = some call := by
      rw [triggers, lookup_insert] at found
      split at found
      · rename_i here
        injection found with same
        exact Or.inl ⟨here.symm, same.symm⟩
      · exact Or.inr found
    constructor
    · intro attemptId other call otherCall chargeId found otherFound charged otherCharged
      rcases earlier found with ⟨_, same⟩ | kept
      · rw [same, uncharged] at charged
        cases charged
      · rcases earlier otherFound with ⟨_, same⟩ | otherKept
        · rw [same, uncharged] at otherCharged
          cases otherCharged
        · exact awaiting.apart attemptId other call otherCall chargeId
            kept otherKept charged otherCharged
    · intro attemptId call found waiting
      rw [payments]
      rcases earlier found with ⟨here, _⟩ | kept
      · rw [here]
        exact noRow
      · exact awaiting.unmirrored attemptId call kept waiting
    · intro attemptId call chargeId found waiting charged
      rw [payments, credits]
      rcases earlier found with ⟨_, same⟩ | kept
      · rw [same, uncharged] at charged
        cases charged
      · exact awaiting.credited attemptId call chargeId kept waiting charged
  | @charged chargedId newId fresh sameDb triggers =>
    have earlier {attemptId : Nat} {call : TriggerCall}
        (found : after.triggers.lookup attemptId = some call) :
        (attemptId = chargedId ∧ call.chargeId = some newId ∧
          ∃ old, before.triggers.lookup attemptId = some old ∧ old.answered = call.answered) ∨
          before.triggers.lookup attemptId = some call := by
      rw [triggers] at found
      rcases lookup_of_lookup_update (TriggerCall.setChargeId_attemptId newId) found with
        ⟨here, old, oldFound, rfl⟩ | ⟨_, kept⟩
      · exact Or.inl ⟨here, rfl, old, here ▸ oldFound, rfl⟩
      · exact Or.inr kept
    -- no call has the new charge yet
    have unused {attemptId : Nat} {call : TriggerCall}
        (found : before.triggers.lookup attemptId = some call) :
        call.chargeId ≠ some newId := by
      intro charged
      obtain ⟨charge, known, _⟩ := linked.triggers attemptId call newId found charged
      rw [fresh.2] at known
      cases known
    constructor
    · intro attemptId other call otherCall chargeId found otherFound charged otherCharged
      rcases earlier found with ⟨here, toNew, _⟩ | kept
      · rcases earlier otherFound with ⟨otherHere, _⟩ | otherKept
        · exact here.trans otherHere.symm
        · rw [charged] at toNew
          rw [toNew] at otherCharged
          exact absurd otherCharged (unused otherKept)
      · rcases earlier otherFound with ⟨_, toNew, _⟩ | otherKept
        · rw [otherCharged] at toNew
          rw [toNew] at charged
          exact absurd charged (unused kept)
        · exact awaiting.apart attemptId other call otherCall chargeId
            kept otherKept charged otherCharged
    · intro attemptId call found waiting
      rw [sameDb]
      rcases earlier found with ⟨_, _, old, oldFound, same⟩ | kept
      · exact awaiting.unmirrored attemptId old oldFound (same.trans waiting)
      · exact awaiting.unmirrored attemptId call kept waiting
    · intro attemptId call chargeId found waiting charged key row stored bound
      rw [sameDb] at stored ⊢
      rcases earlier found with ⟨_, toNew, _⟩ | kept
      · rw [charged] at toNew
        rw [toNew] at bound
        exact absurd fresh (linked.bindings.named key row newId stored bound).not_fresh
      · exact awaiting.credited attemptId call chargeId kept waiting charged key row stored bound
  | answered _ answers =>
    exact awaiting.of_answered answers
  | abandoned payments credits triggers =>
    apply awaiting.of_fewer payments credits
    intro attemptId call found
    obtain ⟨earlier, earlierFound, same, waits⟩ := answered_fewer triggers attemptId call found
    exact ⟨earlier, earlierFound, same, fun waiting =>
      (waits waiting).1⟩

structure Charged (state : State) : Prop where
  settled : ∀ credit ∈ state.db.credits,
    ∃ key payment, state.db.payments.lookup key = some payment ∧
      payment.moyasarId = some credit.chargeId ∧
      payment.status.settled = true
  paid : ∀ credit ∈ state.db.credits, ∃ charge,
    state.gateway.charges.lookup credit.chargeId = some charge ∧ charge.status.wasPaid = true ∧
      credit.renterId = charge.renterId ∧
      credit.amountHalala = charge.amountHalala

def ChargesOnce (state : State) : Prop :=
  (state.db.credits.map Credit.chargeId).Nodup
deriving Decidable

/-- When the answer to a trigger says that its charge was paid, no payment
row is bound to the charge. -/
def AnswersUnbound (state : State) : TopupAction → Prop
  | .resumeTrigger attemptId .paid =>
    ∀ call ∈ state.triggers.lookup attemptId,
      ∀ chargeId ∈ call.chargeId, boundTo state.db chargeId = none
  | _ => True

instance (state : State) (action : TopupAction) :
    Decidable (AnswersUnbound state action) := by
  unfold AnswersUnbound
  split <;> infer_instance

theorem WebhookEffect.keeps_settled {db after : Database}
    {gateway : Gateway} {charge known : Charge} {status : EventStatus}
    {amountRefunded : Option Int}
    (effect : WebhookEffect db (eventOf charge status amountRefunded) after)
    (bindings : Bindings db gateway)
    (eventKnown : gateway.charges.lookup charge.id = some charge)
    {key : PaymentKey} {row : Payment} {chargeId : Nat}
    (found : db.payments.lookup key = some row)
    (bound : row.moyasarId = some chargeId) (settled : row.status.settled = true)
    (rowKnown : gateway.charges.lookup chargeId = some known) :
    ∃ later, after.payments.lookup key = some later ∧ later.moyasarId = some chargeId ∧
      later.status.settled = true := by
  cases effect with
  | ignored same _ _ =>
    rw [same]
    exact ⟨row, found, bound, settled⟩
  | @moved payment changed matched rewrites toCharge kept _ _ _ =>
    by_cases here : key = payment.paymentId
    · subst here
      have sameRow := rewrites.found
      rw [found] at sameRow
      cases sameRow
      refine ⟨changed, rewrites.stored, ?_, kept.trans settled⟩
      cases matched with
      | byId already =>
        rw [bound] at already
        rw [already]
        exact toCharge
      | @byInvoice invoiceId _ announced onInvoice =>
        have same : chargeId = invoiceId := by
          have both := bound.symm.trans onInvoice
          injection both
        subst same
        exact absurd rfl (bindings.id_ne_invoiceId rowKnown eventKnown announced)
      | byAmount _ _ _ _ _ pending =>
        rw [pending] at settled
        cases settled
    · refine ⟨row, ?_, bound, settled⟩
      rw [rewrites.others key here]
      exact found
  | @credited payment changed _ rewrites _ _ unsettled _ _ _ =>
    have different : key ≠ payment.paymentId := by
      rintro rfl
      have sameRow := rewrites.found
      rw [found] at sameRow
      cases sameRow
      rw [settled] at unsettled
      cases unsettled
    refine ⟨row, ?_, bound, settled⟩
    rw [rewrites.others key different]
    exact found

theorem Charged.uncredited {status : EventStatus} {amountRefunded : Option Int}
    (charged : Charged state) (bindings : Bindings state.db state.gateway)
    (matched : Matches state.db (eventOf charge status amountRefunded) payment)
    (found : state.db.payments.lookup payment.paymentId = some payment)
    (unsettled : payment.status.settled = false) :
    charge.id ∉ state.db.credits.map Credit.chargeId := by
  intro member
  obtain ⟨credit, creditMember, forCharge⟩ := mem_map.mp member
  obtain ⟨key, row, rowFound, bound, settled⟩ := charged.settled credit creditMember
  rw [forCharge] at bound
  cases matched with
  | byId already =>
    have same := bindings.distinct key payment.paymentId row payment
      charge.id rowFound found bound already
    subst same
    rw [found] at rowFound
    cases rowFound
    rw [settled] at unsettled
    cases unsettled
  | byInvoice unbound _ _ | byAmount unbound _ _ _ _ _ =>
    exact boundTo_eq_none unbound rowFound bound

theorem Charged.of_kept (charged : Charged before)
    (grows : Gateway.Grows before.gateway after.gateway)
    (credits : after.db.credits = before.db.credits)
    (rows : ∀ key row chargeId charge, before.db.payments.lookup key = some row →
      row.moyasarId = some chargeId → row.status.settled = true →
      before.gateway.charges.lookup chargeId = some charge →
      ∃ later, after.db.payments.lookup key = some later ∧ later.moyasarId = some chargeId ∧
        later.status.settled = true) : Charged after := by
  constructor
  · intro credit member
    rw [credits] at member
    obtain ⟨key, row, found, bound, settled⟩ := charged.settled credit member
    obtain ⟨charge, known, _⟩ := charged.paid credit member
    obtain ⟨later, stored, kept⟩ := rows key row credit.chargeId charge found bound settled known
    exact ⟨key, later, stored, kept⟩
  · intro credit member
    rw [credits] at member
    obtain ⟨charge, known, wasPaid, renter, amount⟩ := charged.paid credit member
    obtain ⟨later, laterKnown, kept⟩ := grows.charges credit.chargeId charge known
    exact ⟨later, laterKnown, kept.paid wasPaid,
      renter.trans kept.renter.symm, amount.trans kept.amount.symm⟩

theorem Charged.of_credit {credit : Credit} (charged : Charged before)
    (gateway : after.gateway = before.gateway)
    (credits : after.db.credits = before.db.credits ++ [credit])
    (rows : ∀ key row chargeId charge, before.db.payments.lookup key = some row →
      row.moyasarId = some chargeId → row.status.settled = true →
      before.gateway.charges.lookup chargeId = some charge →
      ∃ later, after.db.payments.lookup key = some later ∧ later.moyasarId = some chargeId ∧
        later.status.settled = true)
    (settled : ∃ key payment, after.db.payments.lookup key = some payment ∧
      payment.moyasarId = some credit.chargeId ∧
      payment.status.settled = true)
    (known : before.gateway.charges.lookup credit.chargeId = some charge)
    (wasPaid : charge.status.wasPaid = true)
    (renter : credit.renterId = charge.renterId)
    (amount : credit.amountHalala = charge.amountHalala) :
    Charged after := by
  constructor
  · intro other member
    rw [credits] at member
    rcases mem_append.mp member with old | new
    · obtain ⟨key, row, found, bound, rowSettled⟩ := charged.settled other old
      obtain ⟨otherCharge, otherKnown, _⟩ := charged.paid other old
      obtain ⟨later, stored, kept⟩ :=
        rows key row other.chargeId otherCharge found bound rowSettled otherKnown
      exact ⟨key, later, stored, kept⟩
    · rw [mem_singleton.mp new]
      exact settled
  · intro other member
    rw [credits] at member
    rw [gateway]
    rcases mem_append.mp member with old | new
    · exact charged.paid other old
    · rw [mem_singleton.mp new]
      exact ⟨charge, known, wasPaid, renter, amount⟩

theorem AnswerEffect.keeps_rows {db after : Database} {chargeId : Nat}
    (effect : AnswerEffect db call chargeId status after)
    {key : PaymentKey} {row : Payment} (found : db.payments.lookup key = some row) :
    after.payments.lookup key = some row := by
  cases effect with
  | silent _ payments _ | recredited _ _ payments _ =>
    rw [payments]
    exact found
  | mirrored fresh _ _ payments _ | credited fresh _ _ payments _ =>
    rw [payments]
    exact lookup_insert_of_some _ fresh found

theorem Charged.bound_settled (charged : Charged state)
    (linked : Linked state) (awaiting : Awaiting state)
    (found : state.triggers.lookup call.attemptId = some call)
    (waiting : call.answered = false) (toCharge : call.chargeId = some charge.id)
    (bound : boundTo state.db charge.id = some payment) :
    charge.id ∈ state.db.credits.map Credit.chargeId ∧ payment.status.settled = true := by
  obtain ⟨stored, isBound⟩ := boundTo_eq_some bound
  obtain ⟨credit, member, forCharge⟩ :=
    awaiting.credited _ call charge.id found waiting toCharge _ payment stored isBound
  refine ⟨mem_map.mpr ⟨credit, member, forCharge⟩, ?_⟩
  obtain ⟨key, row, rowFound, rowBound, settled⟩ := charged.settled credit member
  rw [forCharge] at rowBound
  have same := linked.bindings.distinct key payment.paymentId row payment
    charge.id rowFound stored rowBound isBound
  subst same
  rw [stored] at rowFound
  injection rowFound with sameRow
  rw [sameRow]
  exact settled

theorem Charged.of_recharge (charged : Charged before) (linked : Linked before)
    (found : before.triggers.lookup call.attemptId = some call)
    (toCharge : call.chargeId = some charge.id)
    (known : before.gateway.charges.lookup charge.id = some charge)
    (wasPaid : charge.status.wasPaid = true)
    (gateway : after.gateway = before.gateway)
    (kept :
      ∀ key row, before.db.payments.lookup key = some row → after.db.payments.lookup key = some row)
    (credits : after.db.credits = before.db.credits ++ [rechargeCredit call charge.id])
    (stored : after.db.payments.lookup payment.paymentId = some payment)
    (bound : payment.moyasarId = some charge.id)
    (settled : payment.status.settled = true) : Charged after := by
  obtain ⟨other, otherKnown, _, renter, amount⟩ := linked.triggers _ call charge.id found toCharge
  rw [known] at otherKnown
  cases otherKnown
  refine charged.of_credit gateway credits ?_
    ⟨payment.paymentId, payment, stored, bound, settled⟩ known wasPaid
    renter amount
  intro key row _ _ rowFound rowBound rowSettled _
  exact ⟨row, kept key row rowFound, rowBound, rowSettled⟩

theorem TriggerStep.charges (step : TriggerStep before action after)
    (linked : Linked before) (awaiting : Awaiting before)
    (grows : Gateway.Grows before.gateway after.gateway)
    (charged : Charged before) : Charged after := by
  cases step with
  | idle payments credits _ | started _ _ _ payments credits _
  | abandoned payments credits _ =>
    apply charged.of_kept grows credits
    intro key row chargeId charge found bound settled _
    rw [payments]
    exact ⟨row, found, bound, settled⟩
  | inserted fresh inserted _ _ credits _ =>
    apply charged.of_kept grows credits
    intro key row chargeId charge found bound settled _
    rw [inserted]
    exact ⟨row, lookup_insert_of_some _ fresh found, bound, settled⟩
  | charged _ sameDb _ =>
    apply charged.of_kept grows
    · rw [sameDb]
    · intro key row chargeId charge found bound settled _
      rw [sameDb]
      exact ⟨row, found, bound, settled⟩
  | @delivered charge status amountRefunded known reached effect gateway
      _ =>
      have keeps := fun key row chargeId other found bound settled otherKnown =>
        @WebhookEffect.keeps_settled _ _ _ _ other _ _ effect
          linked.bindings known key row chargeId found bound settled
          otherKnown
      cases effect with
      | ignored same _ _ =>
        apply charged.of_kept grows
        · rw [same]
        · exact keeps
      | moved _ _ _ _ _ credits _ =>
        exact charged.of_kept grows credits keeps
      | @credited payment changed matched rewrites toCharge eventPaid _ settled credits _ =>
        have bindable := matched.bindable linked.bindings rewrites.found known
        have paid : status = .paid := eventPaid
        subst paid
        exact charged.of_credit gateway credits keeps
          ⟨payment.paymentId, changed, rewrites.stored, toCharge, settled⟩
          known reached.wasPaid bindable.renter bindable.amount
  | @answered call charge status _ answers =>
    have found := answers.found
    have toCharge := answers.charged
    have reached := answers.reached
    have effect := resumeTrigger_effect before.db call charge.id status
        (awaiting.unmirrored _ call found answers.waiting)
    rw [← answers.db] at effect
    have sameGateway : after.gateway = before.gateway := by
      rw [answers.same]
      rfl
    have kept : ∀ key row, before.db.payments.lookup key = some row →
        after.db.payments.lookup key = some row :=
      fun _ _ => effect.keeps_rows
    cases effect with
    | silent _ _ credits | mirrored _ _ _ _ credits =>
      apply charged.of_kept grows credits
      intro key row chargeId other rowFound bound settled _
      exact ⟨row, kept key row rowFound, bound, settled⟩
    | credited fresh paid unbound payments credits =>
      subst paid
      have stored : after.db.payments.lookup (.auto call.attemptId) =
          some (autoPayment call charge.id .paid) := by
        rw [payments]
        exact lookup_insert_self _ (autoPayment call charge.id .paid) fresh
      have settled : (autoPayment call charge.id .paid).status.settled = true := rfl
      exact charged.of_recharge linked found toCharge answers.known
        reached.wasPaid sameGateway kept credits stored rfl settled
    | @recredited payment paid bound payments credits =>
      subst paid
      obtain ⟨stored, isBound⟩ := boundTo_eq_some bound
      obtain ⟨_, settled⟩ :=
        charged.bound_settled linked awaiting found answers.waiting toCharge bound
      exact charged.of_recharge linked found toCharge answers.known
        reached.wasPaid sameGateway kept credits
        (kept _ _ stored) isBound settled

theorem chargesOnce_of_credits (credits : after.db.credits = before.db.credits)
    (once : ChargesOnce before) : ChargesOnce after := by
  rw [ChargesOnce, credits]
  exact once

theorem chargesOnce_append {credit : Credit}
    (credits : after.db.credits = before.db.credits ++ [credit])
    (once : ChargesOnce before) :
    ChargesOnce after ↔ credit.chargeId ∉ before.db.credits.map Credit.chargeId := by
  unfold ChargesOnce at once ⊢
  rw [credits, map_append, map_singleton, nodup_append_comm, singleton_append, nodup_cons]
  exact ⟨fun both => both.1, fun absent => ⟨absent, once⟩⟩

/-- What the runs of a push system keep. -/
structure Sound (state : State) : Prop where
  linked : Linked state
  awaiting : Awaiting state
  charged : Charged state

theorem PushStep.sound (pushes : PushStep before action after) (sound : Sound before) :
    Sound after := by
  obtain ⟨linked, grows⟩ := nextTopups_linked pushes.2 sound.linked
  have step := pushes.triggerStep
  exact ⟨linked, step.awaiting sound.linked sound.awaiting,
    step.charges sound.linked sound.awaiting grows sound.charged⟩

theorem Answers.credits (answers : Answers before call charge .paid after)
    (awaiting : Awaiting before) :
    after.db.credits = before.db.credits ++ [rechargeCredit call charge.id] := by
  have effect := resumeTrigger_effect before.db call charge.id .paid
      (awaiting.unmirrored _ call answers.found answers.waiting)
  rw [← answers.db] at effect
  cases effect with
  | silent unpaid _ _ | mirrored _ unpaid _ _ _ =>
    exact absurd rfl unpaid
  | credited _ _ _ _ credits | recredited _ _ _ credits =>
    exact credits

theorem PushStep.chargesOnce_iff (pushes : PushStep before action after)
    (sound : Sound before) (once : ChargesOnce before) :
    ChargesOnce after ↔ AnswersUnbound before action := by
  constructor
  · intro still
    cases action with
    | resumeTrigger attemptId status =>
      cases status with
      | paid =>
        obtain ⟨call, charge, rfl, answers⟩ := pushes.answers
        intro other otherFound chargeId charged
        rw [answers.found] at otherFound
        cases otherFound
        rw [answers.charged] at charged
        cases charged
        have credits := answers.credits sound.awaiting
        have absent := (chargesOnce_append credits once).mp still
        cases bound : boundTo before.db charge.id with
        | none => rfl
        | some payment =>
          obtain ⟨member, _⟩ := sound.charged.bound_settled sound.linked sound.awaiting
              answers.found answers.waiting answers.charged bound
          exact absurd member absent
      | initiated | failed | refunded | other => trivial
    | _ => trivial
  · intro unbound
    cases pushes.triggerStep with
    | idle _ credits _ | inserted _ _ _ _ credits _
    | started _ _ _ _ credits _ | abandoned _ credits _ =>
      exact chargesOnce_of_credits credits once
    | charged _ sameDb _ =>
      exact chargesOnce_of_credits (by rw [sameDb]) once
    | @delivered charge status amountRefunded known _ effect _ _ =>
      cases effect with
      | ignored same _ _ =>
        exact chargesOnce_of_credits (by rw [same]) once
      | moved _ _ _ _ _ credits _ =>
        exact chargesOnce_of_credits credits once
      | credited matched rewrites _ _ unsettled _ credits _ =>
        apply (chargesOnce_append credits once).mpr
        exact sound.charged.uncredited sound.linked.bindings matched rewrites.found unsettled
    | @answered call charge status same answers =>
      have effect := resumeTrigger_effect before.db call charge.id status
          (sound.awaiting.unmirrored _ call answers.found answers.waiting)
      rw [← answers.db] at effect
      cases effect with
      | silent _ _ credits | mirrored _ _ _ _ credits =>
        exact chargesOnce_of_credits credits once
      | credited _ _ free _ credits =>
        apply (chargesOnce_append credits once).mpr
        intro member
        obtain ⟨credit, creditMember, forCharge⟩ := mem_map.mp member
        obtain ⟨key, row, found, bound, _⟩ := sound.charged.settled credit creditMember
        rw [forCharge] at bound
        exact boundTo_eq_none free found bound
      | @recredited payment paid bound _ _ =>
        subst paid same
        have free := unbound call answers.found charge.id answers.charged
        rw [bound] at free
        cases free

structure Priced (state : State) : Prop where
  invoices :
    ∀ id invoice, state.gateway.invoices.lookup id = some invoice → 0 ≤ invoice.amountHalala
  charges : ∀ id charge, state.gateway.charges.lookup id = some charge → 0 ≤ charge.amountHalala
  triggers : ∀ attemptId call, state.triggers.lookup attemptId = some call → 0 ≤ call.amountHalala

theorem Priced.of_createCharge (priced : Priced state) (amount : 0 ≤ charge.amountHalala) (id : Nat)
    (stored : Charge)
    (found : (state.gateway.createCharge charge).charges.lookup id =
      some stored) : 0 ≤ stored.amountHalala := by
  simp only [Gateway.createCharge, insertIfNew] at found
  split at found
  · rw [lookup_insert] at found
    split at found
    · cases found
      exact amount
    · exact priced.charges id stored found
  · exact priced.charges id stored found

theorem Priced.of_setChargeStatus (priced : Priced state)
    (chargeId : Nat) (status : ChargeStatus) (id : Nat) (stored : Charge)
    (found : (state.gateway.setChargeStatus chargeId status).charges.lookup id =
      some stored) : 0 ≤ stored.amountHalala := by
  rcases lookup_of_lookup_update (Charge.setStatus_id status)
      found with ⟨_, earlier, earlierFound, changed⟩ | ⟨_, kept⟩
  · subst changed
    exact priced.charges id earlier earlierFound
  · exact priced.charges id stored kept

theorem startTrigger_amount {db after : Database} {renterId : Nat} {clock : Clock} {amount : Int}
    (started : startTrigger db renterId clock attemptId = (after, .ok amount)) : 0 < amount := by
  unfold startTrigger at started
  split at started
  · cases started
  · split at started
    · cases started
    · split at started
      · cases started
      · split at started
        · cases started
        · rename_i positive
          split at started
          · cases started
          · split at started
            · cases started
            · split at started
              · cases started
              · split at started
                · cases started
                · cases started
                  omega

theorem Priced.of_triggers (priced : Priced before) (gateway : after.gateway = before.gateway)
    (triggers : ∀ attemptId call, after.triggers.lookup attemptId = some call →
      (∃ earlier, before.triggers.lookup attemptId = some earlier ∧
        earlier.amountHalala = call.amountHalala) ∨
        0 ≤ call.amountHalala) : Priced after := by
  constructor
  · rw [gateway]
    exact priced.invoices
  · rw [gateway]
    exact priced.charges
  · intro attemptId call found
    rcases triggers attemptId call found with ⟨earlier, earlierFound, same⟩ | amount
    · rw [← same]
      exact priced.triggers attemptId earlier earlierFound
    · exact amount

theorem Priced.of_same (priced : Priced before) (gateway : after.gateway = before.gateway)
    (triggers : after.triggers = before.triggers) : Priced after := by
  apply priced.of_triggers gateway
  intro attemptId call found
  rw [triggers] at found
  exact Or.inl ⟨call, found, rfl⟩

theorem Priced.of_answerTrigger (priced : Priced state) (attemptId : Nat) (db : Database) :
    Priced (state.answerTrigger attemptId db) := by
  refine @Priced.of_triggers state _ priced rfl ?_
  intro other call found
  obtain ⟨earlier, earlierFound, changed⟩ : ∃ earlier, state.triggers.lookup other = some earlier ∧
      earlier.amountHalala = call.amountHalala := by
    rcases lookup_of_lookup_update TriggerCall.setAnswered_attemptId
        found with ⟨_, earlier, earlierFound, changed⟩ | ⟨_, kept⟩
    · subst changed
      exact ⟨earlier, earlierFound, rfl⟩
    · exact ⟨call, kept, rfl⟩
  exact Or.inl ⟨earlier, earlierFound, changed⟩

theorem PushStep.priced (pushes : PushStep before action after) (priced : Priced before) :
    Priced after := by
  obtain ⟨noPoll, fires⟩ := pushes
  cases action with
  | topup number renterId amount sourceType invoiceId now =>
    obtain ⟨allowed, rfl⟩ := of_ite_eq_some fires
    refine ⟨?_, priced.charges, priced.triggers⟩
    intro id invoice found
    simp only [Gateway.createInvoice, insertIfNew] at found
    split at found
    · rw [lookup_insert] at found
      split at found
      · injection found with same
        have bounds := allowed.1.1
        rw [← same]
        simp only [newInvoice]
        omega
      · exact priced.invoices id invoice found
    · exact priced.invoices id invoice found
  | bankTransfer _ _ _ _ | use _ _ =>
    obtain ⟨_, rfl⟩ := of_ite_eq_some fires
    exact priced.of_same rfl rfl
  | attempt invoiceId chargeId carriesRenter =>
    simp only [Fires, nextTopups] at fires
    split at fires
    · cases fires
    · rename_i invoice invoiceFound
      obtain ⟨_, rfl⟩ := of_ite_eq_some fires
      exact ⟨priced.invoices, priced.of_createCharge (priced.invoices _ _ invoiceFound),
        priced.triggers⟩
  | settle chargeId paid | refund chargeId =>
    obtain ⟨_, rfl⟩ := of_ite_eq_some fires
    exact ⟨priced.invoices, priced.of_setChargeStatus _ _, priced.triggers⟩
  | expire invoiceId =>
    cases fires
    refine ⟨?_, priced.charges, priced.triggers⟩
    intro id invoice found
    rcases lookup_of_lookup_update Invoice.setExpired_id found with
      ⟨_, earlier, earlierFound, rfl⟩ | ⟨_, kept⟩
    · exact priced.invoices id earlier earlierFound
    · exact priced.invoices id invoice kept
  | deliver _ _ _ _ =>
    simp only [Fires, nextTopups] at fires
    split at fires
    · cases fires
    · obtain ⟨_, rfl⟩ := of_ite_eq_some fires
      exact priced.of_same rfl rfl
  | startVerify _ _ _ | resumeVerify _ _ _ | startSweep _ _
  | resumeSweep _ _ _ =>
    exact absurd trivial noPoll
  | startTrigger attemptId renterId clock =>
    obtain ⟨fresh, rfl⟩ := of_ite_eq_some fires
    unfold State.startTrigger
    split
    · rename_i started
      have positive := startTrigger_amount started
      refine @Priced.of_triggers before _ priced rfl ?_
      intro other call found
      rw [insertIfNew_of_fresh fresh.2.1, lookup_insert] at found
      split at found
      · cases found
        exact Or.inr positive.le
      · exact Or.inl ⟨call, found, rfl⟩
    · exact priced.of_same rfl rfl
  | chargeCard attemptId chargeId =>
    simp only [Fires, nextTopups] at fires
    split at fires
    · cases fires
    · rename_i call callFound
      obtain ⟨_, rfl⟩ := of_ite_eq_some fires
      refine ⟨priced.invoices, priced.of_createCharge (priced.triggers _ _ callFound), ?_⟩
      intro other later found
      rcases lookup_of_lookup_update (TriggerCall.setChargeId_attemptId chargeId) found with
        ⟨_, earlier, earlierFound, rfl⟩ | ⟨_, kept⟩
      · exact priced.triggers other earlier earlierFound
      · exact priced.triggers other later kept
  | resumeTrigger attemptId status =>
    obtain ⟨call, charge, _, answers⟩ := PushStep.answers ⟨noPoll, fires⟩
    rw [answers.same]
    exact priced.of_answerTrigger _ _
  | failTrigger attemptId =>
    simp only [Fires, nextTopups] at fires
    split at fires
    · cases fires
    · obtain ⟨_, rfl⟩ := of_ite_eq_some fires
      exact priced.of_answerTrigger _ _

def Gateway.paidBy (gateway : Gateway) (renterId : Nat) : Int :=
  gateway.charges.total (fun charge =>
    if charge.renterId = renterId ∧ charge.status.wasPaid = true then
      charge.amountHalala
    else
      0)

theorem credited_le_paid (charged : Charged state)
    (priced : Priced state) (once : ChargesOnce state) (renterId : Nat) :
    state.db.credited renterId ≤ state.gateway.paidBy renterId := by
  apply sum_le_of_distinct Credit.chargeId Charge.id _ _ once
  · intro credit member
    obtain ⟨charge, known, wasPaid, renter, amount⟩ := charged.paid credit member
    refine ⟨charge, lookup_mem known, lookup_key known, ?_⟩
    rw [renter, amount]
    by_cases own : charge.renterId = renterId
    · simp [wasPaid]
    · simp [own]
  · intro charge member
    have amount := priced.charges charge.id charge (lookup_of_mem member)
    split
    · exact amount
    · exact le_rfl

theorem Sound.of_initial (initial : state.Initial) :
    Sound state := by
  refine ⟨Linked.of_initial initial, ?_, ?_⟩
  · constructor
    · intro attemptId other call otherCall chargeId found
      rw [initial.noTriggers] at found
      cases found
    · intro attemptId call found
      rw [initial.noTriggers] at found
      cases found
    · intro attemptId call chargeId found
      rw [initial.noTriggers] at found
      cases found
  · constructor
    · rw [initial.noCredits]
      exact nofun
    · rw [initial.noCredits]
      exact nofun

theorem Priced.of_initial (initial : state.Initial) :
    Priced state := by
  constructor
  · intro id invoice found
    rw [initial.noInvoices] at found
    cases found
  · intro id charge found
    rw [initial.noCharges] at found
    cases found
  · intro attemptId call found
    rw [initial.noTriggers] at found
    cases found

theorem chargesOnce_of_initial (initial : state.Initial) :
    ChargesOnce state := by
  rw [ChargesOnce, initial.noCredits]
  exact nodup_nil

/-- The runs in which no charge is ever credited twice are those in which no
trigger is answered `paid` while a payment row is bound to its charge. In
them a renter is never credited more than the charges of the renter have
paid. -/
theorem charge_credited_once {start finish : State}
    {actions : List TopupAction} (initial : start.Initial) :
    (Run (staying PushStep ChargesOnce) start actions finish ↔
      Run (guarded PushStep AnswersUnbound) start actions finish) ∧
      (Run (guarded PushStep AnswersUnbound) start actions finish → ChargesOnce finish ∧
        (∀ renterId, finish.db.credited renterId ≤ finish.gateway.paidBy renterId) ∧
        Accounted start.db finish.db) := by
  have sound := Sound.of_initial initial
  have once := chargesOnce_of_initial initial
  have same := @Run.staying_iff_guarded _ _ PushStep start finish actions Sound ChargesOnce
      AnswersUnbound
      (fun sound _ pushes _ => pushes.sound sound)
      (fun sound once pushes => pushes.chargesOnce_iff sound once)
      sound once
  refine ⟨same, ?_⟩
  intro run
  have pushes := run.of_guarded
  have finishOnce := Run.holds_of_staying once (same.mpr run)
  have finishSound := pushes.invariant Sound (fun sound taken => taken.sound sound) sound
  have finishPriced :=
    pushes.invariant Priced (fun priced taken => taken.priced priced) (Priced.of_initial initial)
  refine ⟨finishOnce, credited_le_paid finishSound.charged finishPriced finishOnce, ?_⟩
  exact accounted_of_run (pushes.mono (·.2))

def rechargedOnce : List TopupAction :=
  [.topup 1 7 5000 .creditcard 10 0, .startTrigger 5 7 ⟨1000, 0⟩,
    .chargeCard 5 20, .settle 20 true, .resumeTrigger 5 .paid,
    .deliver 20 .paid none 1001]

theorem charge_credited_once_sample :
    ∃ finish, Run (guarded PushStep AnswersUnbound) sampleStart rechargedOnce finish ∧
      Run (staying PushStep ChargesOnce) sampleStart rechargedOnce finish ∧
      finish.db.credited 7 = 10000 ∧
      finish.db.credited 7 ≤ finish.gateway.paidBy 7 := by
  obtain ⟨finish, executed, credited⟩ : ∃ finish, execute (restricted
      (restricted nextTopups (fun _ action => ¬ action.Polls))
      AnswersUnbound) sampleStart rechargedOnce = some finish ∧ finish.db.credited 7 = 10000 :=
    exists_of_execute_any (by decide +kernel)
  have run : Run (guarded PushStep AnswersUnbound) sampleStart rechargedOnce
      finish :=
    (run_guarded_of_execute executed).mono (fun taken => ⟨taken.1, guarded_of_fires taken.2⟩)
  have facts := @charge_credited_once sampleStart finish rechargedOnce sampleStart_initial
  exact ⟨finish, run, facts.1.mpr run, credited, (facts.2 run).2.1 7⟩

def rechargedTwice : List TopupAction :=
  [.topup 1 7 10000 .creditcard 10 0, .startTrigger 5 7 ⟨1000, 0⟩,
    .chargeCard 5 20, .settle 20 true, .deliver 20 .paid none 1001,
    .resumeTrigger 5 .paid]

theorem charge_credited_twice :
    ∃ finish, sampleStart.Initial ∧ Run PushStep sampleStart rechargedTwice finish ∧
      ¬ ChargesOnce finish ∧
      finish.gateway.paidBy 7 < finish.db.credited 7 := by
  obtain ⟨finish, executed, twice, more⟩ : ∃ finish,
      execute (restricted nextTopups (fun _ action => ¬ action.Polls))
        sampleStart rechargedTwice = some finish ∧
        ¬ ChargesOnce finish ∧
        finish.gateway.paidBy 7 < finish.db.credited 7 :=
    exists_of_execute_any (by decide +kernel)
  exact ⟨finish, sampleStart_initial, (run_of_execute executed).mono guarded_of_fires, twice, more⟩

end DcpPlatform.Topups
