import DcpPlatform.Payouts.Withdrawals

/-!
# Earnings leave by one door

A legacy withdrawal takes nothing from the claimable earnings, and a payout
request does not look at the open withdrawal requests, which have not taken
theirs yet. `StaysCovered` excludes both.
-/

namespace DcpPlatform.Payouts

open Foundation Table List

def paidPayout (providerId : ProviderId) (row : PayoutRequest) : Int :=
  if row.providerId = providerId ∧ row.status = .paid then
    row.amountHalala
  else
    0

def paidRequest (providerId : ProviderId) (row : WithdrawalRequest) :
    Int :=
  if row.providerId = providerId ∧ row.status = .paid then
    row.amountHalala
  else
    0

def paidLegacy (providerId : ProviderId) (row : Withdrawal) : ℚ :=
  if row.providerId = providerId ∧ (row.status = .approved ∨ row.status = .completed) then
    row.amountSar * 100
  else
    0

namespace Earnings

def paidRequests (earnings : Earnings) (providerId : ProviderId) : Int :=
  earnings.withdrawalRequests.total (paidRequest providerId)

def paidOut (earnings : Earnings) (providerId : ProviderId) : ℚ :=
  (earnings.db.payoutRequests.total (paidPayout providerId) : Int) +
    (earnings.paidRequests providerId : Int) +
    earnings.withdrawals.total (paidLegacy providerId)

end Earnings

structure OneDoor (earnings : Earnings) : Prop where
  bounded : ∀ providerId, earnings.paidOut providerId ≤ earnings.earned providerId
  nonneg : ∀ providerId, 0 ≤ claimable earnings.db providerId
  payable : ∀ row ∈ earnings.withdrawalRequests.rows, row.IsOpen →
    ∀ now, ∀ status ∈ ["paid", "failed"],
      ∃ after, patchWithdrawal earnings row.id now status none = .ok after
  /-- Requests that have failed or were rejected count for nothing. -/
  returned : ∀ providerId, claimable earnings.db providerId =
    earnings.earned providerId - held earnings.db providerId - earnings.paidRequests providerId

/-- Nothing was requested yet, and what a provider can claim is what it was
credited. -/
structure Earnings.Initial (earnings : Earnings) : Prop where
  noPayouts : earnings.db.payoutRequests = Table.empty
  noRequests : earnings.withdrawalRequests = Table.empty
  noWithdrawals : earnings.withdrawals = Table.empty
  claimable : ∀ providerId,
    claimable earnings.db providerId = earnings.earned providerId ∧ 0 ≤ earnings.earned providerId

def payoutHalala (amountUsd : ℚ) : Int :=
  mathRound (amountUsd * usdToSar * halalaPerSar)

def StaysCovered (earnings : Earnings) : EarningsAction → Prop
  | .approve id _ _ =>
    ∀ row ∈ earnings.withdrawals.lookup id, row.status ≠ .pending
  | .requestPayout _ _ providerId amountUsd =>
    ∀ amount ∈ amountUsd, payoutHalala amount ≤
      max 0 (claimable earnings.db providerId - pendingHoldsHalala earnings.db providerId) →
        earnings.openHalala providerId + payoutHalala amount ≤ claimable earnings.db providerId
  | _ => True

instance (earnings : Earnings) (action : EarningsAction) :
    Decidable (StaysCovered earnings action) := by
  unfold StaysCovered
  cases action <;> infer_instance

structure Kept (earnings : Earnings) : Prop where
  sound : ∀ row ∈ earnings.db.payoutRequests.rows, Sound earnings.db row
  balance : ∀ providerId, claimable earnings.db providerId + held earnings.db providerId +
    earnings.paidRequests providerId = earnings.earned providerId
  covers : ∀ providerId, earnings.openHalala providerId ≤ claimable earnings.db providerId
  requests : ∀ row ∈ earnings.withdrawalRequests.rows, 0 ≤ row.amountHalala ∧
    (earnings.db.providers row.providerId).isSome ∧
    (row.IsOpen → row.isAmountReserved = false)
  legacy : ∀ row ∈ earnings.withdrawals.rows, row.status = .pending ∨ row.status = .rejected

variable {earnings after : Earnings} {id : Nat} {now : Timestamp} {providerId : ProviderId}

namespace Kept

theorem openAmount_nonneg (kept : Kept earnings) :
    ∀ row ∈ earnings.withdrawalRequests.rows, 0 ≤ openAmount providerId row := by
  intro row member
  unfold openAmount
  split
  · exact (kept.requests row member).1
  · exact le_refl 0

theorem nonneg (kept : Kept earnings) (providerId : ProviderId) :
    0 ≤ claimable earnings.db providerId :=
  le_trans (total_nonneg kept.openAmount_nonneg) (kept.covers providerId)

variable {row : WithdrawalRequest}

theorem covered (kept : Kept earnings)
    (member : row ∈ earnings.withdrawalRequests.rows) (isOpen : row.IsOpen) :
    row.amountHalala ≤ claimable earnings.db row.providerId := by
  have single : openAmount row.providerId row ≤ earnings.openHalala row.providerId := by
    apply single_le_sum
    · intro amount listed
      obtain ⟨other, otherMember, same⟩ := mem_map.mp listed
      rw [← same]
      exact kept.openAmount_nonneg other otherMember
    · exact mem_map_of_mem member
  rw [openAmount, if_pos ⟨rfl, isOpen⟩] at single
  exact single.trans (kept.covers row.providerId)

theorem paidPayouts_le (kept : Kept earnings) (providerId : ProviderId) :
    earnings.db.payoutRequests.total (paidPayout providerId) ≤ held earnings.db providerId := by
  apply sum_le_sum
  intro row member
  have amount := (kept.sound row member).1
  by_cases owned : row.providerId = providerId
  · by_cases paid : row.status = .paid
    · simp [paidPayout, heldAmount, paid]
    · simp only [paidPayout, heldAmount, owned, paid, and_false, if_false]
      split
      · exact amount
      · exact le_refl 0
  · simp [paidPayout, heldAmount, owned]

theorem legacy_eq_zero (kept : Kept earnings) (providerId : ProviderId) :
    earnings.withdrawals.total (paidLegacy providerId) = 0 := by
  apply sum_eq_zero
  intro amount listed
  obtain ⟨row, member, same⟩ := mem_map.mp listed
  rw [← same]
  rcases kept.legacy row member with status | status <;> simp [paidLegacy, status]

theorem payable (kept : Kept earnings)
    (member : row ∈ earnings.withdrawalRequests.rows) (isOpen : row.IsOpen)
    {status : String} (named : status ∈ ["paid", "failed"]) :
    ∃ after, patchWithdrawal earnings row.id now status none = .ok after := by
  have found := lookup_of_mem member
  have reserved := (kept.requests row member).2.2 isOpen
  have enough := not_lt.mpr (kept.covered member isOpen)
  have transferred (requested : WithdrawalStatus) :
      ∃ db, transfer earnings.db row requested = .ok db := by
    unfold transfer
    by_cases paid : requested = .paid
    · rw [if_pos ⟨paid, reserved⟩, if_neg enough]
      exact ⟨_, rfl⟩
    · rw [if_neg (paid ·.1), reserved]
      exact ⟨_, if_neg (Bool.noConfusion ·.2)⟩
  have accepted (requested : WithdrawalStatus) (parsed : requestedStatus status = some requested)
      (final : requested = .paid ∨ requested = .failed) :
      ∃ after, patchWithdrawal earnings row.id now status none = .ok after := by
    obtain ⟨db, done⟩ := transferred requested
    have allowed : requested ∈ allowedTransitions row.status := by
      rcases isOpen with known | known
      · rcases final with last | last <;> simp [known, last, allowedTransitions]
      · rcases final with last | last <;> simp [known, last, allowedTransitions]
    refine ⟨{ earnings with
      db := db
      withdrawalRequests := earnings.withdrawalRequests.update row.id
        (WithdrawalRequest.setStatus requested now none)
        (WithdrawalRequest.setStatus_id requested now none) }, ?_⟩
    refine bind_eq_ok_iff.mpr ⟨requested, orFail_eq_ok_iff.mpr parsed, ?_⟩
    refine bind_eq_ok_iff.mpr ⟨row, orFail_eq_ok_iff.mpr found, ?_⟩
    refine require_bind_eq_ok_iff.mpr ⟨allowed, ?_⟩
    exact bind_eq_ok_iff.mpr ⟨db, done, rfl⟩
  rcases mem_cons.mp named with same | rest
  · exact accepted .paid (by rw [same]; decide) (Or.inl rfl)
  · rw [mem_singleton] at rest
    exact accepted .failed (by rw [rest]; decide) (Or.inr rfl)

theorem oneDoor (kept : Kept earnings) : OneDoor earnings where
  bounded := by
    intro providerId
    have paid := kept.paidPayouts_le providerId
    have balance := kept.balance providerId
    have nonneg := kept.nonneg providerId
    rw [Earnings.paidOut, kept.legacy_eq_zero, add_zero]
    exact_mod_cast (by omega : earnings.db.payoutRequests.total (paidPayout providerId) +
      earnings.paidRequests providerId ≤ earnings.earned providerId)
  nonneg := kept.nonneg
  payable := fun _ member isOpen _ _ named =>
    kept.payable member isOpen named
  returned := by
    intro providerId
    have balance := kept.balance providerId
    omega

theorem of_initial (initial : earnings.Initial) : Kept earnings where
  sound := by
    rw [initial.noPayouts]
    exact fun _ member => absurd member not_mem_nil
  balance := by
    intro providerId
    rw [held, Earnings.paidRequests, initial.noPayouts,
      initial.noRequests, total_empty, total_empty,
      (initial.claimable providerId).1]
    omega
  covers := by
    intro providerId
    rw [Earnings.openHalala, initial.noRequests, total_empty, (initial.claimable providerId).1]
    exact (initial.claimable providerId).2
  requests := by
    rw [initial.noRequests]
    exact fun _ member => absurd member not_mem_nil
  legacy := by
    rw [initial.noWithdrawals]
    exact fun _ member => absurd member not_mem_nil

end Kept

variable {db later : Database} {ret : Option PayoutId}

theorem effect_isSome (effect : Effect db ret later) (providerId : ProviderId) :
    (later.providers providerId).isSome = (db.providers providerId).isSome := by
  cases effect with
  | unchanged | rewritten _ _ _ => rfl
  | reserved _ _ _ _ _ => exact addClaimable_isSome db _ providerId _
  | released _ _ _ _ _ => exact addClaimable_isSome _ _ providerId _

theorem Kept.of_effect (kept : Kept earnings) (effect : Effect earnings.db ret db)
    (covers : ∀ providerId, earnings.openHalala providerId ≤ claimable db providerId) :
    Kept { earnings with db := db } where
  sound := effect_sound kept.sound effect
  balance := by
    intro providerId
    have conserved := effect_conserves kept.sound effect providerId
    have balance := kept.balance providerId
    change claimable db providerId + held db providerId +
      earnings.paidRequests providerId = earnings.earned providerId
    omega
  covers := covers
  requests := by
    intro row member
    obtain ⟨amount, known, unreserved⟩ := kept.requests row member
    refine ⟨amount, ?_, unreserved⟩
    rw [effect_isSome effect]
    exact known
  legacy := kept.legacy

theorem Kept.earn (kept : Kept earnings)
    (known : (earnings.db.providers providerId).isSome) (amount : Nat) :
    Kept (earnings.earn providerId amount) where
  sound := by
    intro row member
    obtain ⟨nonneg, stored⟩ := kept.sound row member
    exact ⟨nonneg, by rw [Earnings.earn, addClaimable_isSome]; exact stored⟩
  balance := by
    intro other
    have balance := kept.balance other
    change claimable (earnings.db.addClaimable providerId amount) other +
      held earnings.db other + earnings.paidRequests other =
      if other = providerId then earnings.earned other + amount
      else earnings.earned other
    rw [claimable_addClaimable known]
    split <;> omega
  covers := by
    intro other
    have covers := kept.covers other
    change earnings.openHalala other ≤ claimable (earnings.db.addClaimable providerId amount) other
    rw [claimable_addClaimable known]
    split <;> omega
  requests := by
    intro row member
    obtain ⟨nonneg, stored, unreserved⟩ := kept.requests row member
    refine ⟨nonneg, ?_, unreserved⟩
    rw [Earnings.earn, addClaimable_isSome]
    exact stored
  legacy := kept.legacy

variable {row : PayoutRequest} {amountUsd : Option ℚ}

theorem requestPayout_takes
    (succeeded : requestPayout db id now providerId amountUsd = Except.ok (later, row)) :
    ∃ amount ∈ amountUsd, row.amountHalala = payoutHalala amount := by
  obtain ⟨amount, given, checked⟩ := bind_eq_ok_iff.mp succeeded
  simp only [require_bind_eq_ok_iff] at checked
  obtain ⟨provider, _, checked⟩ := bind_eq_ok_iff.mp checked.2.2
  simp only [require_bind_eq_ok_iff] at checked
  injection checked.2 with result
  injection result with _ rowEq
  exact ⟨amount, orFail_eq_ok_iff.mp given, by rw [← rowEq]; rfl⟩

theorem Kept.requestPayout (kept : Kept earnings)
    (fresh : earnings.db.payoutRequests.lookup id = none)
    (stays : StaysCovered earnings (.requestPayout id now providerId amountUsd))
    (succeeded :
      Payouts.requestPayout earnings.db id now providerId amountUsd = Except.ok (db, row)) :
    Kept { earnings with db := db } := by
  have effect := requestPayout_effect fresh (fun row member => (kept.sound row member).1)
      (kept.nonneg providerId) succeeded
  obtain ⟨amount, given, takes⟩ := requestPayout_takes succeeded
  obtain ⟨_, owner, _, _, _, ⟨provider, found, available⟩, shape⟩ := requestPayout_eq_ok succeeded
  have balance := claimable_of_found found
  have leaves := stays amount given (by rw [← takes, balance]; exact available)
  refine kept.of_effect effect ?_
  intro other
  have covers := kept.covers other
  have moved : claimable db other = claimable earnings.db other +
      if other = providerId then -row.amountHalala else 0 := by
    rw [shape]
    exact claimable_addClaimable (by rw [found]; rfl) _ other
  rw [moved]
  split
  · rename_i same
    subst same
    omega
  · omega

variable {reason : Option String} {stored : Option PayoutRequest}

theorem Kept.rejectPayout (kept : Kept earnings)
    (succeeded : Payouts.rejectPayout earnings.db id now reason = Except.ok (db, stored)) :
    Kept { earnings with db := db } := by
  refine kept.of_effect (rejectPayout_effect succeeded) ?_
  obtain ⟨row, found, _, shape⟩ := rejectPayout_eq_ok succeeded
  obtain ⟨nonneg, known⟩ := kept.sound row (lookup_mem found)
  intro other
  have covers := kept.covers other
  have moved : claimable db other = claimable earnings.db other +
      if other = row.providerId then row.amountHalala else 0 := by
    rw [shape]
    exact claimable_addClaimable known _ other
  rw [moved]
  split <;> omega

theorem Kept.markPayoutPaid {paymentRef : Option String} (kept : Kept earnings)
    (succeeded : Payouts.markPayoutPaid earnings.db id now paymentRef = Except.ok (db, stored)) :
    Kept { earnings with db := db } := by
  refine kept.of_effect (markPayoutPaid_effect succeeded) ?_
  obtain ⟨_, _, _, shape⟩ := markPayoutPaid_eq_ok succeeded
  intro other
  rw [shape]
  exact kept.covers other

theorem Kept.meWithdraw {amountHalala : Option Int} {iban : String}
    (kept : Kept earnings) (fresh : earnings.withdrawalRequests.lookup id = none)
    (succeeded :
      Payouts.meWithdraw earnings id now providerId amountHalala iban = Except.ok after) :
    Kept after := by
  obtain ⟨provider, found, checked⟩ := bind_eq_ok_iff.mp succeeded
  obtain ⟨amount, given, checked⟩ := bind_eq_ok_iff.mp checked
  rw [orFail_eq_ok_iff] at found given
  simp only [require_bind_eq_ok_iff] at checked
  obtain ⟨_, _, available, result⟩ := checked
  injection result with result
  rw [insertIfNew_of_fresh fresh] at result
  subst result
  have least : 1000 ≤ amount := of_decide_eq_true (Option.filter_eq_some_iff.mp given).2
  have balance := claimable_of_found found
  refine ⟨kept.sound, ?_, ?_, ?_, kept.legacy⟩
  · intro other
    have before := kept.balance other
    rw [Earnings.paidRequests, total_insert]
    simp only [paidRequest, reduceCtorEq, and_false, if_false, add_zero]
    exact before
  · intro other
    have before := kept.covers other
    rw [Earnings.openHalala, total_insert]
    change earnings.openHalala other + openAmount other _ ≤ claimable earnings.db other
    rw [openAmount]
    split
    · rename_i owned
      have same : providerId = other := owned.1
      subst same
      dsimp only
      omega
    · omega
  · intro row member
    rcases mem_append.mp member with old | new
    · exact kept.requests row old
    · rw [mem_singleton.mp new]
      refine ⟨by dsimp only; omega, ?_, fun _ => rfl⟩
      rw [found]
      rfl

theorem transfer_eq_ok {row : WithdrawalRequest}
    {requested : WithdrawalStatus} (unreserved : row.isAmountReserved = false)
    (known : (db.providers row.providerId).isSome)
    (transferred : transfer db row requested = .ok later) :
    later.payoutRequests = db.payoutRequests ∧
      (∀ other, (later.providers other).isSome = (db.providers other).isSome) ∧
      ∀ other, claimable later other = claimable db other -
        if row.providerId = other ∧ requested = .paid then
          row.amountHalala
        else
          0 := by
  unfold transfer at transferred
  by_cases paid : requested = .paid
  · rw [if_pos ⟨paid, unreserved⟩] at transferred
    split at transferred
    · cases transferred
    · cases transferred
      refine ⟨rfl, fun other => addClaimable_isSome db _ other _, ?_⟩
      intro other
      rw [claimable_addClaimable known]
      by_cases owned : row.providerId = other
      · rw [if_pos owned.symm, if_pos ⟨owned, paid⟩]
        omega
      · rw [if_neg (owned ·.symm), if_neg (owned ·.1)]
        omega
  · rw [if_neg (paid ·.1),
      if_neg (fun both => by simp [unreserved] at both)] at transferred
    cases transferred
    refine ⟨rfl, fun _ => rfl, ?_⟩
    intro other
    rw [if_neg (paid ·.2), sub_zero]

theorem Kept.patchWithdrawal {status : String} {note : Option String} (kept : Kept earnings)
    (succeeded : Payouts.patchWithdrawal earnings id now status note = Except.ok after) :
    Kept after := by
  obtain ⟨requested, _, checked⟩ := bind_eq_ok_iff.mp succeeded
  obtain ⟨row, found, checked⟩ := bind_eq_ok_iff.mp checked
  rw [orFail_eq_ok_iff] at found
  simp only [require_bind_eq_ok_iff] at checked
  obtain ⟨allowed, checked⟩ := checked
  obtain ⟨db, transferred, ⟨⟩⟩ := bind_eq_ok_iff.mp checked
  obtain ⟨amount, known, unreserved⟩ := kept.requests row (lookup_mem found)
  have isOpen : row.IsOpen := by
    cases current : row.status with
    | pending => exact Or.inl current
    | processing => exact Or.inr current
    | paid | failed => simp [current, allowedTransitions] at allowed
  have notPending : requested ≠ .pending := by
    rintro rfl
    rcases isOpen with current | current <;> simp [current, allowedTransitions] at allowed
  obtain ⟨payouts, stored, moved⟩ := transfer_eq_ok (unreserved isOpen) known transferred
  have notPaid : row.status ≠ .paid := by
    rcases isOpen with current | current <;> simp [current]
  have opened (other : ProviderId) := total_update
      (WithdrawalRequest.setStatus requested now (note.bind (normalizeString 500)))
      (WithdrawalRequest.setStatus_id requested now _) (openAmount other)
      found
  have paid (other : ProviderId) := total_update
      (WithdrawalRequest.setStatus requested now (note.bind (normalizeString 500)))
      (WithdrawalRequest.setStatus_id requested now _) (paidRequest other)
      found
  refine ⟨?_, ?_, ?_, ?_, kept.legacy⟩
  · intro payout member
    rw [payouts] at member
    obtain ⟨nonneg, owner⟩ := kept.sound payout member
    exact ⟨nonneg, by rw [stored]; exact owner⟩
  · intro other
    have before := kept.balance other
    have unpaid : paidRequest other row = 0 := if_neg (notPaid ·.2)
    rw [Earnings.paidRequests, paid, unpaid]
    change claimable db other + db.payoutRequests.total _ + (earnings.paidRequests other - 0 +
      if row.providerId = other ∧ requested = .paid then
        row.amountHalala
      else
        0) = earnings.earned other
    rw [moved, payouts]
    change _ + held earnings.db other + _ = _
    omega
  · intro other
    have before := kept.covers other
    rw [Earnings.openHalala, opened, moved]
    change earnings.openHalala other - _ + _ ≤ _
    simp only [openAmount, isOpen, and_true]
    simp only [WithdrawalRequest.IsOpen, WithdrawalRequest.setStatus, notPending, false_or]
    by_cases owned : row.providerId = other
    · simp only [owned, true_and, if_true]
      cases requested with
      | pending => exact absurd rfl notPending
      | processing | paid => simpa using before
      | failed =>
        simp only [reduceCtorEq, if_false]
        omega
    · simpa [owned] using before
  · intro other member
    obtain ⟨earlier, earlierMember, same⟩ := mem_map.mp member
    obtain ⟨nonneg, owner, closed⟩ := kept.requests earlier earlierMember
    rw [← same]
    split
    · refine ⟨nonneg, by rw [stored]; exact owner, ?_⟩
      rename_i here
      have current := lookup_of_mem earlierMember
      rw [here, found] at current
      cases current
      intro still
      have processing : requested = .processing := by
        rcases still with known | known
        · exact absurd known notPending
        · exact known
      subst processing
      exact unreserved isOpen
    · exact ⟨nonneg, by rw [stored]; exact owner, closed⟩

theorem Kept.of_withdrawals {withdrawals : Table Withdrawal Withdrawal.withdrawalId}
    (kept : Kept earnings)
    (legacy : ∀ row ∈ withdrawals.rows, row.status = .pending ∨ row.status = .rejected) :
    Kept { earnings with withdrawals := withdrawals } where
  sound := kept.sound
  balance := kept.balance
  covers := kept.covers
  requests := kept.requests
  legacy := legacy

theorem Kept.withdraw {amountSar : Option ℚ} (kept : Kept earnings)
    (fresh : earnings.withdrawals.lookup id = none)
    (succeeded : Payouts.withdraw earnings id now providerId amountSar = Except.ok after) :
    Kept after := by
  obtain ⟨provider, _, checked⟩ := bind_eq_ok_iff.mp succeeded
  obtain ⟨amount, _, checked⟩ := bind_eq_ok_iff.mp checked
  simp only [require_bind_eq_ok_iff] at checked
  obtain ⟨_, _, result⟩ := checked
  injection result with result
  rw [insertIfNew_of_fresh fresh] at result
  subst result
  refine kept.of_withdrawals ?_
  intro row member
  rcases mem_append.mp member with old | new
  · exact kept.legacy row old
  · rw [mem_singleton.mp new]
    exact Or.inl rfl

theorem moveWithdrawal_eq_ok {required status : LegacyStatus}
    {standard : String} {notes : Option String}
    (succeeded : moveWithdrawal required status standard earnings id now notes = Except.ok after) :
    ∃ row, earnings.withdrawals.lookup id = some row ∧ row.status = required ∧
      ∃ text, after = { earnings with
        withdrawals := earnings.withdrawals.update id (Withdrawal.setStatus status now text)
          (Withdrawal.setStatus_withdrawalId status now text) } := by
  obtain ⟨row, found, checked⟩ := bind_eq_ok_iff.mp succeeded
  simp only [require_bind_eq_ok_iff] at checked
  injection checked.2 with result
  exact ⟨row, orFail_eq_ok_iff.mp found, checked.1, _, result.symm⟩

theorem Kept.reject (kept : Kept earnings)
    (succeeded : Payouts.reject earnings id now reason = Except.ok after) :
    Kept after := by
  obtain ⟨_, _, _, text, shape⟩ := moveWithdrawal_eq_ok succeeded
  rw [shape]
  refine kept.of_withdrawals ?_
  intro row member
  obtain ⟨earlier, earlierMember, same⟩ := mem_map.mp member
  rw [← same]
  split
  · exact Or.inr rfl
  · exact kept.legacy earlier earlierMember

theorem Kept.answer {outcome : Except WithdrawalError Earnings}
    (kept : Kept earnings) (succeeds : ∀ after, outcome = .ok after → Kept after) :
    Kept (earnings.answer outcome) := by
  cases outcome with
  | ok after => exact succeeds after rfl
  | error _ => exact kept

theorem Kept.answerPayout {Value : Type}
    {outcome : Except PayoutError (Database × Value)} (kept : Kept earnings)
    (succeeds : ∀ db value, outcome = .ok (db, value) →
      Kept { earnings with db := db }) :
    Kept (earnings.answerPayout outcome) := by
  cases outcome with
  | ok result => exact succeeds result.1 result.2 rfl
  | error _ => exact kept

theorem kept_next {action : EarningsAction} (kept : Kept earnings)
    (stays : StaysCovered earnings action)
    (fires : Fires nextEarnings earnings action after) : Kept after := by
  cases action with
  | earn providerId amount =>
    obtain ⟨known, same⟩ := of_ite_eq_some fires
    exact same ▸ kept.earn known amount
  | meWithdraw id now providerId amountHalala iban =>
    obtain ⟨fresh, same⟩ := of_ite_eq_some fires
    exact same ▸ kept.answer (fun _ => kept.meWithdraw fresh)
  | patchWithdrawal id now status adminNote =>
    injection fires with same
    exact same ▸ kept.answer (fun _ => kept.patchWithdrawal)
  | withdraw id now providerId amountSar =>
    obtain ⟨fresh, same⟩ := of_ite_eq_some fires
    exact same ▸ kept.answer (fun _ => kept.withdraw fresh)
  | approve id now notes =>
    injection fires with same
    refine same ▸ kept.answer (fun _ succeeded => ?_)
    obtain ⟨row, found, pending, _⟩ := moveWithdrawal_eq_ok succeeded
    exact absurd pending (stays row found)
  | reject id now reason =>
    injection fires with same
    exact same ▸ kept.answer (fun _ => kept.reject)
  | complete id now notes =>
    injection fires with same
    refine same ▸ kept.answer (fun _ succeeded => ?_)
    obtain ⟨row, found, approved, _⟩ := moveWithdrawal_eq_ok succeeded
    have unapproved := kept.legacy row (lookup_mem found)
    simp [approved] at unapproved
  | requestPayout id now providerId amountUsd =>
    obtain ⟨fresh, same⟩ := of_ite_eq_some fires
    exact same ▸ kept.answerPayout (fun _ _ => kept.requestPayout fresh stays)
  | markPayoutPaid id now paymentRef =>
    injection fires with same
    exact same ▸ kept.answerPayout (fun _ _ => kept.markPayoutPaid)
  | rejectPayout id now reason =>
    injection fires with same
    exact same ▸ kept.answerPayout (fun _ _ => kept.rejectPayout)

/-- Over every run that approves no legacy withdrawal and whose payouts leave
the open requests covered, earnings leave by one door. -/
theorem earnings_leave_once {start finish : Earnings}
    {actions : List EarningsAction} (initial : start.Initial)
    (run : Run (guarded (Fires nextEarnings) StaysCovered) start actions finish) :
    OneDoor finish := by
  have kept : Kept finish :=
    run.invariant Kept (fun kept step => kept_next kept step.1 step.2) (Kept.of_initial initial)
  exact kept.oneDoor

def sampleEarnings : Earnings where
  db :=
    { providers := fun providerId =>
      if providerId = 1 then some ⟨0, false, none, none⟩ else none
      payoutRequests := Table.empty }
  totalEarnings := fun _ => 0
  withdrawalRequests := Table.empty
  withdrawals := Table.empty
  earned := fun _ => 0

theorem sampleEarnings_initial : sampleEarnings.Initial where
  noPayouts := rfl
  noRequests := rfl
  noWithdrawals := rfl
  claimable := by
    intro providerId
    refine ⟨?_, le_refl 0⟩
    by_cases known : providerId = 1 <;> simp [claimable, sampleEarnings, known]

def sampleIban : String := "SA0380000000608010167519"

theorem earnings_leave_once_sample :
    ∃ finish, execute nextEarnings sampleEarnings [.earn 1 40000,
            .meWithdraw 1 0 1 (some 20000) sampleIban,
            .requestPayout 1 1 1 (some 50),
            .patchWithdrawal 1 2 "paid" none,
            .rejectPayout 1 3 none] = some finish ∧
        OneDoor finish ∧ claimable finish.db 1 = 20000 := by
  refine exists_executed_guarded StaysCovered
    (claimable ·.db 1 = 20000) (by decide +kernel) ?_
  intro finish run left
  exact ⟨earnings_leave_once sampleEarnings_initial run, left⟩

/-- Earnings that a legacy withdrawal has paid are paid once more, and a
withdrawal request cannot be paid after a payout took its earnings. -/
theorem earnings_leave_twice :
    sampleEarnings.Initial ∧ (∃ finish, execute nextEarnings sampleEarnings
      [.earn 1 2000, .withdraw 1 0 1 (some 20), .approve 1 1 none, .complete 1 2 none,
        .meWithdraw 1 3 1 (some 2000) sampleIban,
        .patchWithdrawal 1 4 "paid" none] = some finish ∧ ¬ OneDoor finish ∧
          finish.earned 1 = 2000 ∧ finish.paidOut 1 = 4000) ∧
      ∃ finish, execute nextEarnings sampleEarnings
        [.earn 1 20000, .meWithdraw 1 0 1 (some 20000) sampleIban,
          .requestPayout 1 1 1 (some 50)] = some finish ∧
          ¬ OneDoor finish ∧
          patchWithdrawal finish 1 2 "paid" none = .error .insufficientClaimable := by
  refine ⟨sampleEarnings_initial, ?_, ?_⟩
  · refine exists_executed (fun finish => finish.earned 1 = 2000 ∧ finish.paidOut 1 = 4000)
      (by decide +kernel) ?_
    rintro finish _ ⟨earned, paid⟩
    refine ⟨?_, earned, paid⟩
    intro door
    have bounded := door.bounded 1
    rw [earned, paid] at bounded
    norm_num at bounded
  · refine exists_executed (fun finish =>
      (∃ row ∈ finish.withdrawalRequests.rows, row.id = 1 ∧ row.IsOpen) ∧
      (match patchWithdrawal finish 1 2 "paid" none with
      | .error failure => decide (failure = .insufficientClaimable)
      | .ok _ => false) = true)
      (by decide +kernel) ?_
    rintro finish _ ⟨⟨row, member, named, isOpen⟩, refused⟩
    have failed : patchWithdrawal finish 1 2 "paid" none = .error .insufficientClaimable := by
      split at refused
      · rename_i failure answered
        rw [answered, of_decide_eq_true refused]
      · cases refused
    refine ⟨?_, failed⟩
    intro door
    obtain ⟨after, paid⟩ := door.payable row member isOpen 2 "paid" (by simp)
    rw [named, failed] at paid
    cases paid

end DcpPlatform.Payouts
