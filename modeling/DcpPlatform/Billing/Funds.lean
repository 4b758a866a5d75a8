import DcpPlatform.Billing.ExactlyOnce
import DcpPlatform.Foundation.FiniteSums

/-!
# The funds of a renter

What a renter can pay with is its balance and the credit of its grants that
have not expired. A settlement takes exactly its cost out of these funds, and
one that they cover does not fail for want of them.
-/

namespace DcpPlatform.Billing

open Foundation List

def CreditGrant.unspent (grant : CreditGrant) : Int :=
  max 0 (grant.amountHalala - grant.consumedHalala)

def getEffectiveBalance (db : Database) (renterId : RenterId) (now : Nat) :
    Int :=
  db.balance renterId + ((getAvailableCredits db.credits renterId now).map CreditGrant.unspent).sum

/-- The deficit, if the funds do not cover the estimate. -/
def checkBalanceGate (db : Database) (renterId : RenterId)
    (estimateHalala : Int) (now : Nat) : Option Int :=
  if max 0 estimateHalala ≤ getEffectiveBalance db renterId now then none
  else some (max 0 estimateHalala - getEffectiveBalance db renterId now)

theorem CreditGrant.unspent_nonneg (grant : CreditGrant) :
    0 ≤ grant.unspent :=
  le_max_left 0 _

def worth (renterId : RenterId) (now : Nat) (grant : CreditGrant) : Int :=
  if grant.renterId = renterId ∧ now < grant.expiresAt then grant.unspent
  else 0

def creditOf (credits : Credits) (renterId : RenterId) (now : Nat) : Int :=
  credits.total (worth renterId now)

variable {renterId : RenterId} {now : Nat} {grant : CreditGrant}

theorem worth_of_owned (owned : grant.renterId = renterId ∧ now < grant.expiresAt) :
    worth renterId now grant = grant.unspent :=
  if_pos owned

theorem worth_of_ineligible (ineligible : ¬ Eligible renterId now grant) :
    worth renterId now grant = 0 := by
  unfold worth CreditGrant.unspent
  split
  · rename_i known
    have consumed : grant.amountHalala ≤ grant.consumedHalala := by
      by_contra left
      exact ineligible ⟨known.1, by omega, known.2⟩
    omega
  · rfl

theorem sum_available (credits : Credits) (renterId : RenterId) (now : Nat) :
    ((getAvailableCredits credits renterId now).map CreditGrant.unspent).sum =
      creditOf credits renterId now := by
  have worths : (getAvailableCredits credits renterId now).map CreditGrant.unspent =
      (getAvailableCredits credits renterId now).map (worth renterId now) := by
    apply map_congr_left
    intro grant member
    obtain ⟨_, eligible⟩ := mem_getAvailableCredits.mp member
    exact (if_pos ⟨eligible.1, eligible.2.2⟩).symm
  rw [worths, getAvailableCredits, ((perm_insertionSort DrainsBefore _).map _).sum_eq,
    sum_filter_of_ignored (Eligible renterId now) _ credits.rows (fun _ _ => worth_of_ineligible)]
  rfl

theorem getEffectiveBalance_eq (db : Database) (renterId : RenterId) (now : Nat) :
    getEffectiveBalance db renterId now =
      db.balance renterId + creditOf db.credits renterId now := by
  rw [getEffectiveBalance, sum_available]

theorem drainGrants_shortfall {grants : List CreditGrant} :
    ∀ (credits : Credits) (remaining : Int), (drainGrants credits grants remaining).shortfall ≤
      max 0 (remaining - (grants.map CreditGrant.unspent).sum) := by
  induction grants with
  | nil =>
    intro credits remaining
    simp only [drainGrants, map_nil, sum_nil]
    omega
  | cons grant rest ih =>
    intro credits remaining
    have others : 0 ≤ (rest.map CreditGrant.unspent).sum := by
      apply sum_nonneg
      intro amount member
      obtain ⟨other, _, same⟩ := mem_map.mp member
      rw [← same]
      exact other.unspent_nonneg
    rw [map_cons, sum_cons]
    unfold drainGrants
    split
    · dsimp only
      omega
    · dsimp only
      split
      · have tail := ih credits remaining
        rw [CreditGrant.unspent]
        omega
      · have tail := ih
            (consume credits grant.id (min (grant.amountHalala - grant.consumedHalala) remaining))
            (remaining - min (grant.amountHalala - grant.consumedHalala) remaining)
        dsimp only
        rw [CreditGrant.unspent]
        omega

theorem drainGrants_credit {grants : List CreditGrant} :
    ∀ {credits : Credits} {remaining : Int}, Listed credits grants →
      (∀ grant ∈ grants, grant.renterId = renterId ∧ now < grant.expiresAt) →
        creditOf (drainGrants credits grants remaining).credits renterId now =
          creditOf credits renterId now - (drainGrants credits grants remaining).drained := by
  induction grants with
  | nil =>
    intro credits remaining _ _
    simp [drainGrants]
  | cons grant rest ih =>
    intro credits remaining listed owned
    have ownedRest := fun other member => owned other (mem_cons_of_mem grant member)
    unfold drainGrants
    split
    · exact (Int.sub_zero _).symm
    · dsimp only
      split
      · exact ih (listed.rest 0).2.1 ownedRest
      · rename_i positive available
        have stored := listed.stored grant mem_cons_self
        have tail := @ih
            (consume credits grant.id (min (grant.amountHalala - grant.consumedHalala) remaining))
            (remaining - min (grant.amountHalala - grant.consumedHalala) remaining)
            (listed.rest _).1 ownedRest
        have taken : creditOf (consume credits grant.id
            (min (grant.amountHalala - grant.consumedHalala) remaining)) renterId now =
              creditOf credits renterId now - min (grant.amountHalala - grant.consumedHalala)
                remaining := by
          have known := owned grant mem_cons_self
          rw [creditOf, consume_eq_update stored (by omega),
            Table.total_update _ _ _ stored, worth_of_owned known,
            worth_of_owned (by exact known), creditOf]
          simp only [CreditGrant.unspent, CreditGrant.draw]
          omega
        dsimp only
        omega

def SettleArgs.debit (args : SettleArgs) (db : Database) : Debit :=
  debitSubscriptionCredits db.credits args.renterId args.cost args.nowIso

theorem debit_credit (args : SettleArgs) (db : Database) :
    creditOf (args.debit db).credits args.renterId args.nowIso =
      creditOf db.credits args.renterId args.nowIso - (args.debit db).drained := by
  unfold SettleArgs.debit debitSubscriptionCredits
  dsimp only
  split
  · exact (Int.sub_zero _).symm
  · refine drainGrants_credit (getAvailableCredits_listed _ _ _) ?_
    intro grant member
    obtain ⟨_, eligible⟩ := mem_getAvailableCredits.mp member
    exact ⟨eligible.1, eligible.2.2⟩

theorem debit_shortfall (args : SettleArgs) (db : Database) :
    (args.debit db).shortfall ≤
      max 0 (args.cost - creditOf db.credits args.renterId args.nowIso) := by
  unfold SettleArgs.debit debitSubscriptionCredits
  dsimp only
  split
  · exact le_max_left 0 _
  · have short := @drainGrants_shortfall (getAvailableCredits db.credits args.renterId args.nowIso)
        db.credits (max 0 args.cost)
    rw [sum_available] at short
    omega

section Settled

variable {args : SettleArgs} {before after : Database} {receipt : Receipt}

theorem charged_of_settled
    (settled : settleInferenceOnce args before = (Except.ok (.settled receipt), after)) :
    ∃ fresh : before.billingAttempts.lookup args.attempt.requestId = none,
      Charged args (args.debit before) { before with
        billingAttempts := before.billingAttempts.insert args.attempt fresh }
        after := by
  unfold settleInferenceOnce at settled
  split at settled
  · simp at settled
  · rcases Tx.transaction_cases (settleBody args) before with
      ⟨result, reached, committed, outcome⟩ | ⟨failure, outcome⟩
    · rw [outcome] at settled
      injection settled with sameResult sameAfter
      injection sameResult with sameResult
      subst sameAfter
      obtain ⟨existing, middle, reads, settles⟩ := Tx.bind_eq_ok_iff.mp committed
      rw [Tx.read_eq_ok_iff] at reads
      obtain ⟨found, same⟩ := reads
      subst same
      cases existing with
      | some attempt =>
        rw [Tx.pure_eq_ok_iff, sameResult] at settles
        cases settles.1
      | none =>
        obtain ⟨_, claimed, claims, settles⟩ := Tx.bind_eq_ok_iff.mp settles
        rw [Tx.write_eq_ok_iff, Table.insertIfNew_of_fresh found] at claims
        subst claims
        exact ⟨found, (settleClaimed_eq_ok settles).2⟩
    · rw [outcome] at settled
      cases settled

theorem settleInferenceOnce_balances (args : SettleArgs) {before : Database} (initially :
    ∀ renterId renter, before.renters renterId = some renter → 0 ≤ renter.balanceHalala) :
    ∀ renterId renter, (settleInferenceOnce args before).2.renters renterId = some renter →
      0 ≤ renter.balanceHalala := by
  rcases settleInferenceOnce_cases args before with ⟨receipt, after, settled, _⟩ | ⟨same, _⟩
  · obtain ⟨fresh, charged⟩ := charged_of_settled settled
    have drained :=
      debitSubscriptionCredits_drained before.credits args.renterId args.cost args.nowIso
    rw [settled]
    exact charged.balances (drained.covered (by omega)) initially
  · rw [same]
    exact initially

variable (settled : settleInferenceOnce args before = (Except.ok (.settled receipt), after))

include settled

theorem settled_funds :
    getEffectiveBalance after args.renterId args.nowIso =
      getEffectiveBalance before args.renterId args.nowIso - args.cost := by
  obtain ⟨fresh, charged⟩ := charged_of_settled settled
  have drained :=
    debitSubscriptionCredits_drained before.credits args.renterId args.cost args.nowIso
  have nonneg := cost_nonneg args
  have balanced : (args.debit before).drained +
      (args.debit before).shortfall = max 0 args.cost := drained.balanced
  have paid := charged.balance (drained.covered (by omega))
  have credit := debit_credit args before
  rw [← charged.credits] at credit
  rw [getEffectiveBalance_eq, getEffectiveBalance_eq, credit]
  have sameBalance : Database.balance { before with
      billingAttempts := before.billingAttempts.insert args.attempt fresh } args.renterId =
        before.balance args.renterId := rfl
  rw [sameBalance] at paid
  omega

theorem settled_attempt (requestId : RequestId) :
    after.billingAttempts.lookup requestId =
      if requestId = args.requestId then some args.attempt
      else before.billingAttempts.lookup requestId := by
  obtain ⟨fresh, charged⟩ := charged_of_settled settled
  rw [charged.billingAttempts]
  exact Table.lookup_insert_under _ fresh rfl requestId

theorem settled_providers (providerId : ProviderId) :
    (after.providers providerId).isSome = (before.providers providerId).isSome := by
  obtain ⟨fresh, charged⟩ := charged_of_settled settled
  rw [charged.providers]
  split
  · exact Option.isSome_map
  · rfl

omit settled

theorem insertUsageEvent_of_model {db : Database} (model : args.modelId ≠ none) :
    ∃ entered, insertUsageEvent args db = (Except.ok PUnit.unit, entered) := by
  cases usage : args.usageEventRow with
  | none =>
    exact ⟨db, by simp only [insertUsageEvent, usage]; rfl⟩
  | some row =>
    cases named : args.modelId with
    | none => exact absurd named model
    | some modelId =>
      refine ⟨{ db with
        usageEvents := db.usageEvents.insertIfNew (args.usageEvent row modelId) },
        ?_⟩
      simp only [insertUsageEvent, usage, named]
      rfl

theorem debitBalance_of_covered {db : Database} {shortfall : Int}
    (covered : 0 < shortfall → shortfall ≤ db.balance args.renterId) :
    ∃ paid, debitBalance args shortfall db = (Except.ok PUnit.unit, paid) := by
  unfold debitBalance
  by_cases short : 0 < shortfall
  · rw [if_pos short]
    have enough := covered short
    cases found : db.renters args.renterId with
    | none =>
      rw [Database.balance, found] at enough
      simp only [Option.map_none, Option.getD_none] at enough
      omega
    | some renter =>
      rw [balance_of_found found] at enough
      refine ⟨db.updateRenter args.renterId (Renter.pay shortfall args.nowIso), ?_⟩
      refine Tx.bind_eq_ok_iff.mpr ⟨_, _, Tx.read_eq_ok_iff.mpr ⟨found, rfl⟩, ?_⟩
      rw [Option.filter_some, if_pos (decide_eq_true enough)]
      rfl
  · rw [if_neg short]
    exact ⟨db, rfl⟩

theorem debitBalance_of_uncovered {shortfall : Int} (positive : 0 < shortfall)
    (uncovered : before.balance args.renterId < shortfall) :
    debitBalance args shortfall before = (Except.error (.insufficientBalance args.renterId
      (shortfall - before.balance args.renterId) (before.balance args.renterId)), before) := by
  rw [debitBalance, if_pos positive, Tx.read_bind]
  have none_enough :
      (before.renters args.renterId).filter (shortfall ≤ ·.balanceHalala) = none := by
    cases found : before.renters args.renterId with
    | none => rfl
    | some renter =>
      rw [balance_of_found found] at uncovered
      simpa using uncovered
  rw [none_enough]
  rfl

theorem settleInferenceOnce_of_fresh (named : args.requestId ≠ "") (model : args.modelId ≠ none)
    (fresh : before.billingAttempts.lookup args.requestId = none) :
    (∃ receipt after, settleInferenceOnce args before = (Except.ok (.settled receipt), after)) ∨
      (0 < (args.debit before).shortfall ∧
        before.balance args.renterId < (args.debit before).shortfall) ∧
        ∃ deficit balance, settleInferenceOnce args before =
          (Except.error (.insufficientBalance args.renterId deficit balance), before) := by
  let claimed : Database := { before with
      billingAttempts := before.billingAttempts.insertIfNew args.attempt }
  let drained : Database := { claimed with credits := (args.debit before).credits }
  have drains : drainCredits args claimed = (Except.ok (args.debit before), drained) := rfl
  have body : settleBody args before = settleClaimed args claimed := by
    rw [settleBody, Tx.read_bind]
    simp only [fresh]
    rfl
  by_cases covered : 0 < (args.debit before).shortfall →
      (args.debit before).shortfall ≤ drained.balance args.renterId
  · left
    obtain ⟨paid, pays⟩ := debitBalance_of_covered covered
    obtain ⟨credited, credits⟩ :
        ∃ credited, creditProvider args paid = (Except.ok PUnit.unit, credited) :=
      ⟨_, rfl⟩
    obtain ⟨used, uses⟩ := @insertUsageEvent_of_model args credited model
    obtain ⟨receipt, after, settles⟩ :
        ∃ receipt after, settleClaimed args claimed = (Except.ok (.settled receipt), after) := by
      rw [settleClaimed, Tx.bind_of_ok drains, Tx.bind_of_ok pays,
        Tx.bind_of_ok credits, Tx.bind_of_ok uses]
      exact ⟨_, _, rfl⟩
    refine ⟨receipt, after, ?_⟩
    rw [settleInferenceOnce, if_neg named, Tx.transaction, body, settles]
  · right
    obtain ⟨positive, lacking⟩ := Classical.not_imp.mp covered
    have fails := debitBalance_of_uncovered positive (not_le.mp lacking)
    refine ⟨⟨positive, not_le.mp lacking⟩,
      (args.debit before).shortfall - before.balance args.renterId,
      before.balance args.renterId, ?_⟩
    rw [settleInferenceOnce, if_neg named, Tx.transaction, body, settleClaimed,
      Tx.bind_of_ok drains, Tx.bind_of_error fails]
    rfl

theorem settleInferenceOnce_of_covered (named : args.requestId ≠ "") (model : args.modelId ≠ none)
    (fresh : before.billingAttempts.lookup args.requestId = none)
    (covered : args.cost ≤ getEffectiveBalance before args.renterId args.nowIso) :
    ∃ receipt after, settleInferenceOnce args before = (Except.ok (.settled receipt), after) := by
  rcases settleInferenceOnce_of_fresh named model fresh with settled | ⟨lacking, _⟩
  · exact settled
  · have short := debit_shortfall args before
    rw [getEffectiveBalance_eq] at covered
    omega

end Settled

end DcpPlatform.Billing
