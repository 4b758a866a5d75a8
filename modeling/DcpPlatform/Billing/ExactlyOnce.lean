import DcpPlatform.Billing.Settlement

/-!
# Settlements are exactly-once, atomic and conserving

`Settlement` says what a call that settles its request does. Every other
call, whether it throws or finds its request settled, leaves the database as
it was; and no request is settled twice in a sequence of calls.
-/

namespace DcpPlatform.Billing

open Foundation Table Option

structure Sound (db : Database) : Prop where
  balances : ∀ renterId renter, db.renters renterId = some renter → 0 ≤ renter.balanceHalala
  grants : ∀ grant ∈ db.credits.rows, grant.consumedHalala ≤ grant.amountHalala

structure Settlement (args : SettleArgs) (before after : Database) :
    Prop where
  fresh : before.billingAttempts.lookup args.requestId = none
  recorded : after.billingAttempts.lookup args.requestId = some args.attempt
  attemptsKept : ∀ other, other ≠ args.requestId →
    after.billingAttempts.lookup other = before.billingAttempts.lookup other
  charged : (before.balance args.renterId - after.balance args.renterId) +
    (totalConsumed after.credits - totalConsumed before.credits) = args.cost
  rentersKept : ∀ other, other ≠ args.renterId → after.renters other = before.renters other
  drawn : ∀ grant ∈ before.credits.rows, ∃ take, 0 ≤ take ∧
    (¬ Eligible args.renterId args.nowIso grant → take = 0) ∧
    (0 < take → grant.consumedHalala + take ≤ grant.amountHalala) ∧
    after.credits.lookup grant.id = some (grant.draw take)
  inOrder : ∀ first ∈ before.credits.rows, ∀ second ∈ before.credits.rows,
    Eligible args.renterId args.nowIso first → Eligible args.renterId args.nowIso second →
      first.id ≠ second.id → DrainsBefore first second →
      second.consumedHalala < consumedOf after.credits second.id →
      consumedOf after.credits first.id = first.amountHalala
  earned : ∀ providerId provider, args.providerId = some providerId →
    before.providers providerId = some provider → ∃ credited,
      after.providers providerId = some credited ∧ credited.claimableEarningsHalala =
        provider.claimableEarningsHalala + (splitCost args.cost).1 ∧
        credited.totalEarningsHalala.getD 0 =
          provider.totalEarningsHalala.getD 0 + (splitCost args.cost).1 ∧
        credited.totalEarnings = provider.totalEarnings + (splitCost args.cost).1 / 100
  providersKept :
    ∀ other, args.providerId ≠ some other → after.providers other = before.providers other

variable {args : SettleArgs} {db after : Database} {debit : Debit}

theorem drainCredits_eq_ok (succeeded : drainCredits args db = (Except.ok debit, after)) :
    debit = debitSubscriptionCredits db.credits args.renterId args.cost args.nowIso ∧
      after = { db with credits := debit.credits } := by
  obtain ⟨_, _, ⟨rfl, rfl⟩, _, _, rfl, rfl, rfl⟩ := succeeded
  exact ⟨rfl, rfl⟩

def Renter.paid (shortfall : Int) (now : Nat) (renter : Renter) : Renter :=
  if 0 < shortfall then renter.pay shortfall now else renter

variable {shortfall : Int}

theorem Renter.paid_of_short (short : 0 < shortfall) (now : Nat) :
    Renter.paid shortfall now = Renter.pay shortfall now := by
  funext renter
  exact if_pos short

theorem Renter.paid_of_covered (covered : ¬ 0 < shortfall) (now : Nat) :
    Renter.paid shortfall now = id := by
  funext renter
  exact if_neg covered

theorem debitBalance_eq_ok
    (succeeded : debitBalance args shortfall db = (Except.ok PUnit.unit, after)) :
    after = db.updateRenter args.renterId (Renter.paid shortfall args.nowIso) ∧ (0 < shortfall →
      ∃ renter, db.renters args.renterId = some renter ∧ shortfall ≤ renter.balanceHalala) := by
  unfold debitBalance at succeeded
  by_cases short : 0 < shortfall
  · rw [if_pos short] at succeeded
    simp only [Tx.bind_eq_ok_iff, Tx.read_eq_ok_iff] at succeeded
    obtain ⟨stored, _, ⟨rfl, rfl⟩, succeeded⟩ := succeeded
    cases found : (db.renters args.renterId).filter (shortfall ≤ ·.balanceHalala) with
    | none =>
      simp [found] at succeeded
    | some row =>
      simp only [found, Tx.write_eq_ok_iff] at succeeded
      rw [filter_eq_some_iff] at found
      constructor
      · rw [← succeeded]
        rw [Renter.paid_of_short short]
      · intro _
        exact ⟨row, found.1, by simpa using found.2⟩
  · rw [if_neg short, Tx.pure_eq_ok_iff] at succeeded
    constructor
    · rw [← succeeded.2]
      rw [Renter.paid_of_covered short]
      simp [Database.updateRenter]
    · intro positive
      exact absurd positive short

structure SameBooks (before after : Database) : Prop where
  renters : after.renters = before.renters
  providers : after.providers = before.providers
  credits : after.credits = before.credits
  billingAttempts : after.billingAttempts = before.billingAttempts

theorem insertUsageEvent_books
    (succeeded : insertUsageEvent args db = (Except.ok PUnit.unit, after)) :
    SameBooks db after := by
  cases usage : args.usageEventRow with
  | none =>
    simp only [insertUsageEvent, usage, Tx.pure_eq_ok_iff] at succeeded
    rw [← succeeded.2]
    exact ⟨rfl, rfl, rfl, rfl⟩
  | some row =>
    cases model : args.modelId with
    | none =>
      simp [insertUsageEvent, usage, model] at succeeded
    | some modelId =>
      simp only [insertUsageEvent, usage, model, Tx.write_eq_ok_iff] at succeeded
      rw [← succeeded]
      exact ⟨rfl, rfl, rfl, rfl⟩

theorem insertJob_books (succeeded : insertJob args db = (Except.ok PUnit.unit, after)) :
    SameBooks db after := by
  rw [insertJob, Tx.write_eq_ok_iff] at succeeded
  rw [← succeeded]
  cases args.jobRow with
  | none =>
    exact ⟨rfl, rfl, rfl, rfl⟩
  | some row =>
    dsimp only
    split
    · exact ⟨rfl, rfl, rfl, rfl⟩
    · exact ⟨rfl, rfl, rfl, rfl⟩

structure Charged (args : SettleArgs) (debit : Debit) (before after : Database) : Prop where
  credits : after.credits = debit.credits
  billingAttempts : after.billingAttempts = before.billingAttempts
  renters : ∀ other, after.renters other =
    if other = args.renterId then
      (before.renters other).map
        (Renter.addSpent args.cost ∘ Renter.paid debit.shortfall args.nowIso)
    else
      before.renters other
  affordable : 0 < debit.shortfall →
    ∃ renter, before.renters args.renterId = some renter ∧ debit.shortfall ≤ renter.balanceHalala
  providers : ∀ other, after.providers other =
    if args.providerId = some other ∧ 0 < args.providerEarned then
      (before.providers other).map (Provider.earn args.providerEarned)
    else
      before.providers other

theorem creditProvider_eq_ok (succeeded : creditProvider args db = (Except.ok PUnit.unit, after)) :
    after = { db with
      providers := fun other =>
        if args.providerId = some other ∧ 0 < args.providerEarned then
          (db.providers other).map (Provider.earn args.providerEarned)
        else
          db.providers other } := by
  rw [creditProvider, Tx.write_eq_ok_iff] at succeeded
  rw [← succeeded]
  cases args.providerId with
  | none =>
    simp
  | some providerId =>
    by_cases earned : 0 < args.providerEarned
    · simp [Database.updateProvider, earned, eq_comm]
    · simp [earned]

theorem settleClaimed_eq_ok {result : SettleResult}
    (succeeded : settleClaimed args db = (Except.ok result, after)) :
    (∃ receipt, result = .settled receipt) ∧ Charged args
      (debitSubscriptionCredits db.credits args.renterId args.cost args.nowIso)
      db after := by
  obtain ⟨debit, drained, drains, succeeded⟩ := Tx.bind_eq_ok_iff.mp succeeded
  obtain ⟨_, paid, pays, succeeded⟩ := Tx.bind_eq_ok_iff.mp succeeded
  obtain ⟨_, credited, credits, succeeded⟩ := Tx.bind_eq_ok_iff.mp succeeded
  obtain ⟨_, used, uses, succeeded⟩ := Tx.bind_eq_ok_iff.mp succeeded
  obtain ⟨_, entered, enters, succeeded⟩ := Tx.bind_eq_ok_iff.mp succeeded
  obtain ⟨_, totalled, totals, succeeded⟩ := Tx.bind_eq_ok_iff.mp succeeded
  obtain ⟨_, _, reads, returns⟩ := Tx.bind_eq_ok_iff.mp succeeded
  obtain ⟨debitEq, drainedEq⟩ := drainCredits_eq_ok drains
  have creditedEq := creditProvider_eq_ok credits
  have usedBooks := insertUsageEvent_books uses
  have enteredBooks := insertJob_books enters
  rw [addRenterTotals, Tx.write_eq_ok_iff] at totals
  rw [Tx.read_eq_ok_iff] at reads
  rw [Tx.pure_eq_ok_iff] at returns
  refine ⟨⟨_, returns.1.symm⟩, ?_⟩
  rw [← debitEq, ← returns.2, ← reads.2, ← totals]
  obtain ⟨paidEq, affordable⟩ := debitBalance_eq_ok pays
  rw [drainedEq] at paidEq affordable
  refine ⟨?_, ?_, ?_, affordable, ?_⟩
  · change entered.credits = debit.credits
    rw [enteredBooks.credits, usedBooks.credits, creditedEq, paidEq]
    rfl
  · change entered.billingAttempts = db.billingAttempts
    rw [enteredBooks.billingAttempts, usedBooks.billingAttempts, creditedEq, paidEq]
    rfl
  · intro other
    simp only [Database.updateRenter, enteredBooks.renters, usedBooks.renters, creditedEq, paidEq]
    by_cases same : other = args.renterId
    · simp [same]
    · simp [same]
  · intro other
    change entered.providers other = _
    rw [enteredBooks.providers, usedBooks.providers, creditedEq, paidEq]
    rfl

variable {renterId : RenterId}

theorem balance_of_found {renter : Renter} (found : db.renters renterId = some renter) :
    db.balance renterId = renter.balanceHalala := by
  simp [Database.balance, found]

theorem Renter.paid_balance (shortfall : Int) (now : Nat)
    (cost : Int) (renter : Renter) (nonneg : 0 ≤ shortfall) :
    ((renter.paid shortfall now).addSpent cost).balanceHalala =
      renter.balanceHalala - shortfall := by
  by_cases short : 0 < shortfall
  · rw [Renter.paid_of_short short]
    rfl
  · rw [Renter.paid_of_covered short]
    simp only [Renter.addSpent, id]
    omega

variable {before : Database}

theorem Charged.balance (charged : Charged args debit before after) (nonneg : 0 ≤ debit.shortfall) :
    before.balance args.renterId - after.balance args.renterId =
      debit.shortfall := by
  cases found : before.renters args.renterId with
  | none =>
    have covered : ¬ 0 < debit.shortfall := by
      intro short
      obtain ⟨renter, present, _⟩ := charged.affordable short
      rw [found] at present
      cases present
    simp only [Database.balance, charged.renters, found, if_pos, map_none, getD_none]
    omega
  | some renter =>
    have paid : after.renters args.renterId =
        some ((renter.paid debit.shortfall args.nowIso).addSpent args.cost) := by
      rw [charged.renters]
      simp [found]
    rw [balance_of_found found, balance_of_found paid, Renter.paid_balance _ _ _ _ nonneg]
    omega

theorem cost_nonneg (args : SettleArgs) : 0 ≤ args.cost :=
  le_max_left 0 _

theorem cost_of_integer {cost : Int} (integer : args.costHalala = cost) :
    args.cost = max 0 cost := by
  rw [SettleArgs.cost, settledCost, integer, Int.ceil_intCast]

theorem Charged.earned {args : SettleArgs} {debit : Debit} {before after : Database}
    (charged : Charged args debit before after)
    {providerId : ProviderId} {provider : Provider}
    (named : args.providerId = some providerId)
    (found : before.providers providerId = some provider) :
    ∃ credited, after.providers providerId = some credited ∧ credited.claimableEarningsHalala =
      provider.claimableEarningsHalala + (splitCost args.cost).1 ∧
        credited.totalEarningsHalala.getD 0 =
          provider.totalEarningsHalala.getD 0 + (splitCost args.cost).1 ∧
        credited.totalEarnings = provider.totalEarnings + (splitCost args.cost).1 / 100 := by
  have share : args.providerEarned = (splitCost args.cost).1 := by
    simp [SettleArgs.providerEarned, named]
  have stored := charged.providers providerId
  by_cases earned : 0 < args.providerEarned
  · rw [if_pos ⟨named, earned⟩, found] at stored
    refine ⟨provider.earn args.providerEarned, stored, ?_, ?_, ?_⟩
    · rw [← share]
      rfl
    · rw [← share]
      rfl
    · rw [← share]
      rfl
  · rw [if_neg (earned ·.2), found] at stored
    have nothing : (splitCost args.cost).1 = 0 := by
      have nonneg : 0 ≤ args.cost := cost_nonneg args
      rw [share] at earned
      simp only [splitCost, providerShare] at earned ⊢
      omega
    refine ⟨provider, stored, ?_, ?_, ?_⟩
    · omega
    · omega
    · simp [nothing]

variable {remaining : Int} {credits : Credits}

theorem Drained.take_of_row {now : Nat}
    (drained : Drained credits (getAvailableCredits credits renterId now) remaining debit)
    {grant : CreditGrant} (member : grant ∈ credits.rows) :
    ∃ take, 0 ≤ take ∧ (¬ Eligible renterId now grant → take = 0) ∧
      (0 < take → grant.consumedHalala + take ≤ grant.amountHalala) ∧
      debit.credits.lookup grant.id = some (grant.draw take) := by
  by_cases eligible : Eligible renterId now grant
  · obtain ⟨take, nonneg, fits, found⟩ :=
      drained.drawn grant (mem_getAvailableCredits.mpr ⟨member, eligible⟩)
    exact ⟨take, nonneg, fun ineligible => absurd eligible ineligible, fun _ => fits, found⟩
  · have absent : grant.id ∉ (getAvailableCredits credits renterId now).map
        CreditGrant.id := by
      intro listed
      obtain ⟨other, otherMember, same⟩ := List.mem_map.mp listed
      have facts := mem_getAvailableCredits.mp otherMember
      have equal : other = grant := by
        have first := lookup_of_mem facts.1
        rw [same, lookup_of_mem member] at first
        injection first with equality
        exact equality.symm
      exact eligible (equal ▸ facts.2)
    refine ⟨0, Int.le_refl 0, fun _ => rfl, ?_, ?_⟩
    · intro positive
      omega
    · rw [drained.untouched grant.id absent, lookup_of_mem member]
      simp [CreditGrant.draw]

theorem Charged.settlement {args : SettleArgs} {before claimed after : Database}
    (fresh : before.billingAttempts.lookup args.requestId = none)
    (claimedEq : claimed = { before with
      billingAttempts := before.billingAttempts.insert args.attempt fresh })
    (charged : Charged args
      (debitSubscriptionCredits before.credits args.renterId args.cost args.nowIso)
      claimed after) :
    Settlement args before after := by
  have drained :=
    debitSubscriptionCredits_drained before.credits args.renterId args.cost args.nowIso
  have nonneg := cost_nonneg args
  have short := drained.covered (by omega)
  have attempts : after.billingAttempts = before.billingAttempts.insert args.attempt fresh := by
    rw [charged.billingAttempts, claimedEq]
  have renters : claimed.renters = before.renters := by
    rw [claimedEq]
  have providers : claimed.providers = before.providers := by
    rw [claimedEq]
  refine ⟨fresh, ?_, ?_, ?_, ?_, ?_, ?_, ?_, ?_⟩
  · rw [attempts]
    exact lookup_insert_self _ args.attempt fresh
  · intro other different
    rw [attempts]
    exact lookup_insert_of_ne _ fresh (Ne.symm different)
  · have paid := charged.balance short
    have sameBalance : claimed.balance args.renterId = before.balance args.renterId := by
      unfold Database.balance
      rw [renters]
    have consumed := drained.consumed
    have balanced := drained.balanced
    rw [← charged.credits] at consumed
    omega
  · intro other different
    rw [charged.renters, if_neg different, renters]
  · intro grant member
    rw [charged.credits]
    exact drained.take_of_row member
  · intro first firstMember second secondMember firstEligible
      secondEligible different earlier touched
    rw [charged.credits] at touched ⊢
    exact debit_in_order firstMember firstEligible secondMember
      secondEligible different earlier touched
  · intro providerId provider named found
    rw [← providers] at found
    exact charged.earned named found
  · intro other unnamed
    rw [charged.providers, providers, if_neg (unnamed ·.1)]

variable {grants : List CreditGrant}

theorem Drained.within (drained : Drained credits grants remaining debit)
    (within : ∀ grant ∈ credits.rows, grant.consumedHalala ≤ grant.amountHalala) :
    ∀ grant ∈ debit.credits.rows, grant.consumedHalala ≤ grant.amountHalala := by
  intro grant member
  have found := lookup_of_mem member
  by_cases listed : grant.id ∈ grants.map CreditGrant.id
  · obtain ⟨earlier, earlierMember, same⟩ := List.mem_map.mp listed
    obtain ⟨take, _, fits, drawn⟩ := drained.drawn earlier earlierMember
    rw [same, found] at drawn
    injection drawn with equality
    rw [equality]
    exact fits
  · rw [drained.untouched grant.id listed] at found
    exact within grant (lookup_mem found)

theorem Charged.balances (charged : Charged args debit before after) (nonneg : 0 ≤ debit.shortfall)
    (initially :
      ∀ renterId renter, before.renters renterId = some renter → 0 ≤ renter.balanceHalala) :
    ∀ renterId renter, after.renters renterId = some renter → 0 ≤ renter.balanceHalala := by
  intro renterId renter found
  rw [charged.renters] at found
  by_cases same : renterId = args.renterId
  · subst same
    rw [if_pos rfl] at found
    obtain ⟨earlier, stored, rfl⟩ := map_eq_some_iff.mp found
    have before := initially args.renterId earlier stored
    change 0 ≤ ((earlier.paid _ _).addSpent _).balanceHalala
    rw [Renter.paid_balance _ _ _ _ nonneg]
    by_cases short : 0 < debit.shortfall
    · obtain ⟨other, otherStored, affordable⟩ := charged.affordable short
      rw [stored] at otherStored
      cases otherStored
      omega
    · omega
  · rw [if_neg same] at found
    exact initially renterId renter found

theorem Charged.sound (charged : Charged args debit before after)
    (drained : Drained before.credits grants remaining debit)
    (nonneg : 0 ≤ debit.shortfall) (sound : Sound before) :
    Sound after where
  balances := charged.balances nonneg sound.balances
  grants := by
    rw [charged.credits]
    exact drained.within sound.grants

theorem settleInferenceOnce_cases (args : SettleArgs) (before : Database) :
    (∃ receipt after, settleInferenceOnce args before = (Except.ok (.settled receipt), after) ∧
      Settlement args before after ∧ (Sound before → Sound after)) ∨
      ((settleInferenceOnce args before).2 = before ∧
        ∀ receipt, (settleInferenceOnce args before).1 ≠ Except.ok (.settled receipt)) := by
  unfold settleInferenceOnce
  by_cases missing : args.requestId = ""
  · rw [if_pos missing]
    exact Or.inr ⟨rfl, fun _ => by simp [Tx.fail]⟩
  · rw [if_neg missing]
    rcases Tx.transaction_cases (settleBody args) before with
      ⟨result, after, committed, outcome⟩ | ⟨failure, outcome⟩
    · rw [outcome]
      obtain ⟨existing, reached, reads, settles⟩ := Tx.bind_eq_ok_iff.mp committed
      rw [Tx.read_eq_ok_iff] at reads
      obtain ⟨found, same⟩ := reads
      subst same
      cases existing with
      | some attempt =>
        rw [Tx.pure_eq_ok_iff] at settles
        refine Or.inr ⟨settles.2.symm, fun receipt settled => ?_⟩
        injection settled with settled
        rw [← settles.1] at settled
        cases settled
      | none =>
        obtain ⟨_, claimed, claims, settles⟩ := Tx.bind_eq_ok_iff.mp settles
        rw [Tx.write_eq_ok_iff, insertIfNew_of_fresh found] at claims
        subst claims
        obtain ⟨⟨receipt, rfl⟩, charged⟩ := settleClaimed_eq_ok settles
        refine Or.inl ⟨receipt, after, rfl, Charged.settlement found rfl charged, fun sound => ?_⟩
        have drained :=
          debitSubscriptionCredits_drained before.credits args.renterId args.cost args.nowIso
        exact charged.sound drained (drained.covered (by omega)) ⟨sound.balances, sound.grants⟩
    · rw [outcome]
      exact Or.inr ⟨rfl, fun _ settled => by cases settled⟩

def settleAll (db : Database) (calls : List SettleArgs) : Database :=
  calls.foldl (fun current args => (settleInferenceOnce args current).2) db

def SettleResult.isSettled : SettleResult → Bool
  | .settled _ => true
  | .alreadySettled _ => false

def settles (args : SettleArgs) (db : Database) : Bool :=
  match (settleInferenceOnce args db).1 with
  | .ok result => result.isSettled
  | .error _ => false

def settledIds (db : Database) : List SettleArgs → List RequestId
  | [] => []
  | args :: rest =>
    let others := settledIds (settleInferenceOnce args db).2 rest
    if settles args db then args.requestId :: others else others

theorem settles_of_settled (settled : settles args db) :
    ∃ receipt, (settleInferenceOnce args db).1 = Except.ok (.settled receipt) := by
  unfold settles at settled
  split at settled
  · rename_i result outcome
    cases result with
    | settled receipt =>
      exact ⟨receipt, outcome⟩
    | alreadySettled existing =>
      cases settled
  · cases settled

theorem attempt_kept {requestId : RequestId} {attempt : BillingAttempt}
    (found : db.billingAttempts.lookup requestId = some attempt) :
    (settleInferenceOnce args db).2.billingAttempts.lookup requestId = some attempt := by
  rcases settleInferenceOnce_cases args db with ⟨_, after, outcome, settlement, _⟩ | ⟨same, _⟩
  · rw [outcome]
    have different : requestId ≠ args.requestId := by
      intro same
      have fresh := settlement.fresh
      rw [← same, found] at fresh
      cases fresh
    exact (settlement.attemptsKept requestId different).trans found
  · rw [same]
    exact found

variable {calls : List SettleArgs}

theorem settledIds_fresh :
    ∀ {db : Database} {requestId : RequestId},
      requestId ∈ settledIds db calls → db.billingAttempts.lookup requestId = none := by
  induction calls with
  | nil =>
    intro db requestId member
    cases member
  | cons args rest ih =>
    intro db requestId member
    cases found : db.billingAttempts.lookup requestId with
    | none =>
      rfl
    | some attempt =>
      exfalso
      have later : requestId ∉ settledIds (settleInferenceOnce args db).2 rest := by
        intro laterMember
        have absent := ih laterMember
        rw [attempt_kept found] at absent
        cases absent
      unfold settledIds at member
      split at member
      · rename_i settled
        rcases List.mem_cons.mp member with rfl | laterMember
        · obtain ⟨receipt, outcome⟩ := settles_of_settled settled
          rcases settleInferenceOnce_cases args db with ⟨_, _, _, settlement, _⟩ | ⟨_, never⟩
          · rw [settlement.fresh] at found
            cases found
          · exact never receipt outcome
        · exact later laterMember
      · exact later member

theorem settledIds_nodup :
    ∀ db : Database, (settledIds db calls).Nodup := by
  induction calls with
  | nil =>
    intro db
    exact List.nodup_nil
  | cons args rest ih =>
    intro db
    unfold settledIds
    split
    · rename_i settled
      refine List.nodup_cons.mpr ⟨?_, ih _⟩
      intro member
      have absent := settledIds_fresh member
      obtain ⟨receipt, outcome⟩ := settles_of_settled settled
      rcases settleInferenceOnce_cases args db with ⟨_, after, reached, settlement, _⟩ | ⟨_, never⟩
      · rw [reached, settlement.recorded] at absent
        cases absent
      · exact never receipt outcome
    · exact ih _

theorem settleAll_sound :
    ∀ {db : Database}, Sound db → Sound (settleAll db calls) := by
  induction calls with
  | nil =>
    intro db sound
    exact sound
  | cons args rest ih =>
    intro db sound
    have step : Sound (settleInferenceOnce args db).2 := by
      rcases settleInferenceOnce_cases args db with ⟨_, after, outcome, _, keeps⟩ | ⟨same, _⟩
      · rw [outcome]
        exact keeps sound
      · rw [same]
        exact sound
    exact ih step

/-- In any sequence of calls no request is settled twice. Each call settles
its request, charging its cost, with a negative cost charged as nothing, and
crediting the provider's share of it, or it changes nothing at all. -/
theorem settlements_exactly_once
    (start : Database) (calls : List SettleArgs) (sound : Sound start) :
    (settledIds start calls).Nodup ∧ Sound (settleAll start calls) ∧
      ∀ earlier args later, calls = earlier ++ args :: later → Sound (settleAll start earlier) ∧
        (∀ cost : Int, args.costHalala = (cost : ℚ) → args.cost = max 0 cost) ∧
        ((∃ receipt after, settleInferenceOnce args (settleAll start earlier) =
          (Except.ok (.settled receipt), after) ∧ Settlement args (settleAll start earlier) after) ∨
          ((settleInferenceOnce args (settleAll start earlier)).2 = settleAll start earlier ∧
            ∀ receipt, (settleInferenceOnce args (settleAll start earlier)).1 ≠
              Except.ok (.settled receipt))) := by
  refine ⟨settledIds_nodup start, settleAll_sound sound, ?_⟩
  intro earlier args later _
  refine ⟨settleAll_sound sound, fun cost => cost_of_integer, ?_⟩
  rcases settleInferenceOnce_cases args (settleAll start earlier) with
    ⟨receipt, after, outcome, settlement, _⟩ | unchanged
  · exact Or.inl ⟨receipt, after, outcome, settlement⟩
  · exact Or.inr unchanged

def sampleDatabase : Database where
  renters := fun renterId =>
    if renterId = 1 then some ⟨500, 0, 0, none⟩ else none
  providers := fun providerId =>
    if providerId = 2 then some ⟨0, 0, none, 0⟩ else none
  credits := (Table.empty.insertIfNew ⟨10, 1, 100, 0, 2000⟩).insertIfNew ⟨11, 1, 100, 40, 1000⟩
  billingAttempts := Table.empty
  usageEvents := Table.empty
  jobs := Table.empty

theorem sampleDatabase_sound : Sound sampleDatabase where
  balances := by
    intro renterId renter found
    by_cases known : renterId = 1
    · simp only [sampleDatabase, if_pos known, some.injEq] at found
      simp [← found]
    · simp [sampleDatabase, known] at found
  grants := by decide +kernel

def sampleCall (requestId : RequestId) (costHalala : ℚ) : SettleArgs :=
  ⟨requestId, 1, some 2, costHalala, some "model", none, none, 500⟩

def sampleCalls : List SettleArgs :=
  [sampleCall "first" 200, sampleCall "first" 200, sampleCall "second" 1000, sampleCall "third" 10]

theorem settlements_exactly_once_sample :
    settledIds sampleDatabase sampleCalls = ["first", "third"] ∧
      (settledIds sampleDatabase sampleCalls).Nodup ∧
      Sound (settleAll sampleDatabase sampleCalls) := by
  have facts := settlements_exactly_once sampleDatabase sampleCalls sampleDatabase_sound
  exact ⟨by decide +kernel, facts.1, facts.2.1⟩

/-- A call with a cost of minus one settles its request and takes nothing
from the renter. -/
theorem negative_cost_charges_nothing :
    ∃ receipt after, Sound sampleDatabase ∧
      settleInferenceOnce (sampleCall "first" (-1)) sampleDatabase =
        (Except.ok (.settled receipt), after) ∧
      (sampleDatabase.balance 1 - after.balance 1) +
        (totalConsumed after.credits - totalConsumed sampleDatabase.credits) ≠ -1 := by
  have settled : settles (sampleCall "first" (-1)) sampleDatabase = true := by
    decide +kernel
  obtain ⟨receipt, outcome⟩ := settles_of_settled settled
  rcases settleInferenceOnce_cases (sampleCall "first" (-1)) sampleDatabase with
    ⟨other, after, reached, settlement, _⟩ | ⟨_, never⟩
  · refine ⟨other, after, sampleDatabase_sound, reached, ?_⟩
    have charged := settlement.charged
    have cost : (sampleCall "first" (-1)).cost = 0 := by decide +kernel
    rw [cost] at charged
    change (sampleDatabase.balance 1 - after.balance 1) + _ = 0 at charged
    omega
  · exact absurd outcome (never receipt)

end DcpPlatform.Billing
