import DcpPlatform.Billing.Funds

/-!
# The gate and the settlement

A settlement lacks funds exactly when its cost exceeds what the gate counts:
the balance and the credit that has not expired. So a request that the gate
lets through can be paid up to its estimate.
-/

namespace DcpPlatform.Billing

open Foundation

variable {args : SettleArgs} {db : Database}

theorem creditOf_nonneg (credits : Credits) (renterId : RenterId)
    (now : Nat) : 0 ≤ creditOf credits renterId now := by
  apply Table.total_nonneg
  intro grant _
  unfold worth
  split
  · exact grant.unspent_nonneg
  · exact le_refl 0

theorem debit_shortfall_eq (args : SettleArgs) (db : Database) :
    (args.debit db).shortfall =
      max 0 (args.cost - creditOf db.credits args.renterId args.nowIso) := by
  have drained : Drained _ _ _ (args.debit db) :=
    debitSubscriptionCredits_drained db.credits args.renterId args.cost args.nowIso
  have balanced := drained.balanced
  have covered := drained.covered (le_max_left 0 args.cost)
  have short := debit_shortfall args db
  have credit := debit_credit args db
  have left := creditOf_nonneg (args.debit db).credits args.renterId args.nowIso
  omega

theorem settleClaimed_funded {paid : Database} (pays : debitBalance args (args.debit db).shortfall
    { db with credits := (args.debit db).credits } =
      (Except.ok PUnit.unit, paid)) (renterId : RenterId) (deficit balance : Int) :
    (settleClaimed args db).1 ≠ .error (.insufficientBalance renterId deficit balance) := by
  have drains : drainCredits args db =
      (Except.ok (args.debit db), { db with credits := (args.debit db).credits }) :=
    rfl
  obtain ⟨credited, credits⟩ :
      ∃ credited, creditProvider args paid = (Except.ok PUnit.unit, credited) :=
    ⟨_, rfl⟩
  rw [settleClaimed, Tx.bind_of_ok drains, Tx.bind_of_ok pays, Tx.bind_of_ok credits]
  cases usage : insertUsageEvent args credited with
  | mk outcome used =>
    cases outcome with
    | ok _ =>
      rw [Tx.bind_of_ok usage]
      intro same
      have failed : Except.ok _ = Except.error _ := same
      cases failed
    | error failure =>
      rw [Tx.bind_of_error usage]
      intro same
      cases same
      have thrown := congrArg Prod.fst usage
      unfold insertUsageEvent at thrown
      cases row : args.usageEventRow with
      | none =>
        rw [row] at thrown
        cases thrown
      | some event =>
        cases model : args.modelId with
        | none | some modelId =>
          rw [row, model] at thrown
          cases thrown

theorem insufficient_iff (named : args.requestId ≠ "")
    (fresh : db.billingAttempts.lookup args.requestId = none)
    (nonneg : 0 ≤ db.balance args.renterId) :
    (∃ renterId deficit balance,
      (settleInferenceOnce args db).1 = .error (.insufficientBalance renterId deficit balance)) ↔
      getEffectiveBalance db args.renterId args.nowIso < args.cost := by
  rw [getEffectiveBalance_eq]
  have short := debit_shortfall_eq args db
  have credit := creditOf_nonneg db.credits args.renterId args.nowIso
  let claimed : Database :=
    { db with billingAttempts := db.billingAttempts.insertIfNew args.attempt }
  have body : settleBody args db = settleClaimed args claimed := by
    rw [settleBody, Tx.read_bind, fresh]
    rfl
  have outcome : (settleInferenceOnce args db).1 = (settleClaimed args claimed).1 := by
    rw [settleInferenceOnce, if_neg named, Tx.transaction, body]
    cases settleClaimed args claimed with
    | mk result after => cases result <;> rfl
  rw [outcome]
  have sameBalance : Database.balance { claimed with credits := (args.debit claimed).credits }
      args.renterId = db.balance args.renterId := rfl
  constructor
  · rintro ⟨renterId, deficit, balance, failed⟩
    by_contra enough
    obtain ⟨paid, pays⟩ := @debitBalance_of_covered args
        { claimed with credits := (args.debit claimed).credits }
        (args.debit claimed).shortfall
        (by
          intro _
          change (args.debit db).shortfall ≤ db.balance args.renterId
          omega)
    exact settleClaimed_funded pays renterId deficit balance failed
  · intro lacking
    have stops := @debitBalance_of_uncovered args
        { claimed with credits := (args.debit claimed).credits }
        (args.debit db).shortfall (by omega) (by rw [sameBalance]; omega)
    have drains : drainCredits args claimed = (Except.ok (args.debit db),
            { claimed with credits := (args.debit claimed).credits }) := rfl
    rw [settleClaimed, Tx.bind_of_ok drains, Tx.bind_of_error stops]
    exact ⟨_, _, _, rfl⟩

theorem funded_of_gate (named : args.requestId ≠ "")
    (fresh : db.billingAttempts.lookup args.requestId = none)
    (nonneg : 0 ≤ db.balance args.renterId) {estimateHalala : ℚ}
    (passed : checkBalanceGate db args.renterId ⌈estimateHalala⌉ args.nowIso = none)
    (within : args.costHalala ≤ estimateHalala) (renterId : RenterId) (deficit balance : Int) :
    (settleInferenceOnce args db).1 ≠ .error (.insufficientBalance renterId deficit balance) := by
  intro failed
  have lacking := (insufficient_iff named fresh nonneg).mp ⟨renterId, deficit, balance, failed⟩
  have least : args.cost ≤ max 0 ⌈estimateHalala⌉ := max_le_max (le_refl 0) (Int.ceil_mono within)
  rw [checkBalanceGate] at passed
  split at passed
  · omega
  · cases passed

/-- A request that the gate lets through does not lack the funds for a cost
up to its estimate, and one that it turns away lacks them for the estimate. -/
theorem gate_sound_and_tight (named : args.requestId ≠ "")
    (fresh : db.billingAttempts.lookup args.requestId = none)
    (nonneg : 0 ≤ db.balance args.renterId) (estimateHalala : ℚ) :
    (checkBalanceGate db args.renterId ⌈estimateHalala⌉ args.nowIso = none →
      args.costHalala ≤ estimateHalala → ∀ renterId deficit balance,
        (settleInferenceOnce args db).1 ≠ .error (.insufficientBalance renterId deficit balance)) ∧
      (checkBalanceGate db args.renterId ⌈estimateHalala⌉ args.nowIso ≠ none →
        args.costHalala = estimateHalala → ∃ renterId deficit balance,
          (settleInferenceOnce args db).1 =
            .error (.insufficientBalance renterId deficit balance)) := by
  constructor
  · exact funded_of_gate named fresh nonneg
  · intro refused exact
    apply (insufficient_iff named fresh nonneg).mpr
    unfold checkBalanceGate at refused
    split at refused
    · exact absurd rfl refused
    · rw [SettleArgs.cost, settledCost, exact]
      omega

theorem gate_sound_and_tight_sample :
    checkBalanceGate sampleDatabase 1 ⌈(660 : ℚ)⌉ 500 = none ∧ (∀ renterId deficit balance,
      (settleInferenceOnce (sampleCall "first" 660) sampleDatabase).1 ≠
        .error (.insufficientBalance renterId deficit balance)) ∧
      checkBalanceGate sampleDatabase 1 ⌈(661 : ℚ)⌉ 500 ≠ none ∧
      ∃ renterId deficit balance, (settleInferenceOnce (sampleCall "first" 661) sampleDatabase).1 =
        .error (.insufficientBalance renterId deficit balance) := by
  have passed : checkBalanceGate sampleDatabase 1 ⌈(660 : ℚ)⌉ 500 = none := by
    decide +kernel
  have refused : checkBalanceGate sampleDatabase 1 ⌈(661 : ℚ)⌉ 500 ≠ none := by
    decide +kernel
  have sound := (@gate_sound_and_tight (sampleCall "first" 660) sampleDatabase (by decide)
      rfl (by decide +kernel) 660).1 passed (le_refl _)
  have tight := (@gate_sound_and_tight (sampleCall "first" 661) sampleDatabase (by decide)
      rfl (by decide +kernel) 661).2 refused rfl
  exact ⟨passed, sound, refused, tight⟩

end DcpPlatform.Billing
