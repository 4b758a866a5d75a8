import DcpPlatform.Sessions.Service
import Mathlib.Data.List.Induction

/-!
# What the calls write

Each lemma inverts one operation that has succeeded: what it required, and
the store it leaves.
-/

namespace DcpPlatform.Sessions

open Foundation Option

theorem mapError_eq_ok_iff {First Second Value : Type}
    {change : First → Second} {result : Except First Value} {value : Value} :
    result.mapError change = .ok value ↔ result = .ok value := by
  cases result with
  | error failure =>
    constructor
    · intro succeeded
      cases succeeded
    · intro succeeded
      cases succeeded
  | ok other =>
    constructor
    · intro succeeded
      injection succeeded with same
      rw [same]
    · intro succeeded
      injection succeeded with same
      rw [same]
      rfl

theorem mul_costForMinutes (minutes rate : Int) :
    60 * costForMinutes minutes rate = minutes * rate + roundingExcess 60 (minutes * rate) := by
  have rounded := mul_mathRound_div 60 30 (minutes * rate) rfl (by omega)
  push_cast at rounded ⊢
  exact rounded

theorem mul_provider (total : Int) :
    100 * (splitCost total).provider =
      total * PROVIDER_SHARE + roundingExcess 100 (total * PROVIDER_SHARE) := by
  have rounded := mul_mathRound_div 100 50 (total * PROVIDER_SHARE) rfl (by omega)
  push_cast at rounded ⊢
  exact rounded

theorem provider_pos {total : Int} (positive : 0 < total) :
    0 < (splitCost total).provider := by
  have exact_ := mul_provider total
  unfold roundingExcess PROVIDER_SHARE at *
  omega

namespace Store

variable {store after : Store}

def booked (store : Store) (type : TransactionType) (userId : Nat)
    (amountHalala : Int) (reason : String) (jobId : Nat) (now : Int) :
    Store :=
  { store with
    transactions := store.transactions ++ [⟨userId, type, amountHalala, reason, jobId, now⟩] }

variable {userId jobId : Nat} {amountHalala now : Int} {reason : String}

theorem insertTransaction_eq_ok {type : TransactionType}
    (inserted : store.insertTransaction type userId amountHalala reason jobId now = .ok after) :
    0 < amountHalala ∧ after = store.booked type userId amountHalala reason jobId now := by
  rw [insertTransaction, require_bind_eq_ok_iff] at inserted
  obtain ⟨positive, same⟩ := inserted
  injection same with same
  exact ⟨positive, same.symm⟩

theorem debit_eq_ok (debited : store.debit userId amountHalala reason jobId now = .ok after) :
    0 < amountHalala ∧ after = store.booked .debit userId amountHalala reason jobId now := by
  rw [debit, debitWalletAtomic, mapError_eq_ok_iff, require_bind_eq_ok_iff] at debited
  exact insertTransaction_eq_ok debited.2

theorem credit_eq_ok (credited : store.credit userId amountHalala reason jobId now = .ok after) :
    0 < amountHalala ∧ after = store.booked .credit userId amountHalala reason jobId now := by
  rw [credit, mapError_eq_ok_iff] at credited
  exact insertTransaction_eq_ok credited

theorem releaseReservation_eq_ok {reservationId : Nat} {actualAmountHalala now : Int}
    (released : store.releaseReservation reservationId actualAmountHalala now = .ok after) :
    after = store ∨ after = store.resolveReservation reservationId actualAmountHalala now := by
  rw [releaseReservation, bind_eq_ok_iff] at released
  obtain ⟨reservation, _, remaining⟩ := released
  by_cases held : reservation.status = .held
  · rw [if_pos held] at remaining
    injection remaining with same
    exact Or.inr same.symm
  · rw [if_neg held] at remaining
    injection remaining with same
    exact Or.inl same.symm

def ticked (store : Store) (tick : BillingTick) : Store :=
  { store with ticks := store.ticks ++ [tick] }

variable {tick : BillingTick}

theorem insertTick_eq_ok (inserted : store.insertTick tick = .ok after) :
    (∀ other ∈ store.ticks,
      ¬ (other.sessionId = tick.sessionId ∧ other.tickNumber = tick.tickNumber)) ∧
      after = store.ticked tick := by
  rw [insertTick, require_bind_eq_ok_iff] at inserted
  obtain ⟨fresh, same⟩ := inserted
  injection same with same
  exact ⟨fresh, same.symm⟩

theorem insertReceipt_eq_ok {receipt : BillingReceipt}
    (inserted : store.insertReceipt receipt = .ok after) :
    store.receipts.lookup receipt.sessionId = none ∧ after = { store with
      receipts := store.receipts.insertIfNew receipt } := by
  unfold insertReceipt at inserted
  by_cases fresh : store.receipts.lookup receipt.sessionId = none
  · rw [if_pos fresh] at inserted
    injection inserted with same
    exact ⟨fresh, same.symm⟩
  · rw [if_neg fresh] at inserted
    cases inserted

variable {sessionId : Nat}

theorem getSession_eq_ok {session : BillingSession}
    (found : store.getSession sessionId = .ok session) :
    store.sessions.lookup sessionId = some session := by
  unfold getSession at found
  rwa [orFail_eq_ok_iff] at found

@[simp]
theorem ticksOf_booked (type : TransactionType) (userId : Nat)
    (amountHalala : Int) (reason : String) (jobId : Nat) (now : Int)
    (sessionId : Nat) :
    (store.booked type userId amountHalala reason jobId now).ticksOf
      sessionId = store.ticksOf sessionId :=
  rfl

theorem ticksOf_ticked (store : Store) (own : tick.sessionId = sessionId) :
    (store.ticked tick).ticksOf sessionId = store.ticksOf sessionId ++ [tick] := by
  unfold ticksOf ticked
  rw [List.filter_append]
  simp [own]

end Store

theorem lastTick_append (ticks : List BillingTick) (tick : BillingTick) :
    lastTick (ticks ++ [tick]) = laterTick (lastTick ticks) tick := by
  rw [lastTick, List.foldl_append]
  rfl

theorem lastTick_append_of_next {ticks : List BillingTick}
    {tick : BillingTick} (next : tick.tickNumber = nextTickNumber ticks) :
    lastTick (ticks ++ [tick]) = some tick := by
  rw [lastTick_append]
  unfold nextTickNumber at next
  cases last : lastTick ticks with
  | none => rfl
  | some other =>
    rw [last] at next
    have above : other.tickNumber < tick.tickNumber := by
      rw [next]
      exact Nat.lt_succ_self other.tickNumber
    exact if_pos above

theorem tickNumber_lt_next (ticks : List BillingTick) :
    ∀ tick ∈ ticks, tick.tickNumber < nextTickNumber ticks := by
  induction ticks using List.reverseRecOn with
  | nil =>
    intro tick member
    cases member
  | append_singleton earlier newest ih =>
    intro tick member
    have bound : tick ∈ earlier → tick.tickNumber < nextTickNumber earlier := ih tick
    unfold nextTickNumber at bound ⊢
    rw [lastTick_append]
    rw [List.mem_append, List.mem_singleton] at member
    cases last : lastTick earlier with
    | none =>
      rw [last] at bound
      rcases member with old | rfl
      · have smaller := bound old
        simp at smaller
        simp [smaller]
      · simp [laterTick]
    | some other =>
      rw [last] at bound
      simp only [map_some, getD_some] at bound
      unfold laterTick
      by_cases above : other.tickNumber < newest.tickNumber
      · simp only [if_pos above, map_some, getD_some]
        rcases member with old | rfl
        · have smaller := bound old
          omega
        · omega
      · simp only [if_neg above, map_some, getD_some]
        rcases member with old | rfl
        · exact bound old
        · omega

end DcpPlatform.Sessions
