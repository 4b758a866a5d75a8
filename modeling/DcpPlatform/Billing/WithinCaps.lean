import DcpPlatform.Billing.SpendCaps

/-!
# Spending within the caps

When what is settled in a month stays within the cap of the renter and the
caps of its keys, and the gates see every settled amount.
-/

namespace DcpPlatform.Billing

open Foundation List

/-! ## Budgets -/

def counts (budget renterApiKeyId : Option KeyId) : Bool :=
  budget = none || budget = renterApiKeyId

def Caps.cap (caps : Caps) : Option KeyId → Int
  | none => caps.monthlySpendCapHalala
  | some keyId => caps.keyCapHalala keyId

def spent (ledger : List LedgerRow) (renterId : RenterId) (month : Int)
    (budget : Option KeyId) : Int :=
  spentThisMonth ledger renterId (fun row => counts budget row.renterApiKeyId) month

def settledFrom (charges : List Charge) (budget : Option KeyId) : Int :=
  ((charges.filter (fun charge =>
    counts budget charge.renterApiKeyId)).map Charge.amountHalala).sum

def ChatRequest.estimateFor (budget : Option KeyId) (request : ChatRequest) :
    Int :=
  if counts budget request.renterApiKeyId then
    max 0 request.estimateHalala
  else
    0

def underWay (calls : Calls ChatRequest) (budget : Option KeyId) : Int :=
  calls.total (ChatRequest.estimateFor budget)

structure Shows (renterId : RenterId) (month : Int) (row : LedgerRow) (charge : Charge) : Prop where
  renter : row.usage.renterId = renterId
  key : row.renterApiKeyId = charge.renterApiKeyId
  cost : row.usage.costHalala = charge.amountHalala
  month : Topups.startOfCurrentMonthIso row.usage.createdAt = month
  request : row.usage.requestId = receiptId charge.requestId

/-- What is settled stays within the caps, and each settled amount has a row
in the ledger. -/
structure WithinCaps (caps : Caps) (renterId : RenterId) (month : Int)
    (spending : Spending) : Prop where
  renter : 0 < caps.monthlySpendCapHalala →
    (spending.charges.map Charge.amountHalala).sum ≤ caps.monthlySpendCapHalala
  keys : ∀ keyId, 0 < caps.keyCapHalala keyId → ((spending.charges.filter (fun charge =>
    charge.renterApiKeyId = some keyId)).map Charge.amountHalala).sum ≤ caps.keyCapHalala keyId
  visible : ∀ charge ∈ spending.charges, ∃ row ∈ spending.ledger, Shows renterId month row charge

/-- An admitted request fits into its budgets together with the requests
under way, and a settled answer has a token price within the bounds of the
ledger and no row there yet. -/
def LeavesRoom (caps : Caps) (renterId : ℕ+) (month : Int) (spending : Spending) : SpendEvent → Prop
  | .arrive _ now request admitted =>
    admitted = true → passesCaps caps renterId spending request now = true →
      ∀ budget ∈ [none, request.renterApiKeyId], 0 < caps.cap budget →
        spent spending.ledger renterId month budget +
          underWay spending.calls budget + max 0 request.estimateHalala ≤ caps.cap budget
  | .answered call now answer =>
    ∀ request ∈ spending.calls.waitsFor call, (settledAmount spending.books.db
      (request.delivery renterId answer now)).isSome = true →
        (0 < answer.usage.costHalala ∧ answer.usage.costHalala ≤ OpenRouter.maxHalala) ∧
        ∀ row ∈ spending.ledger,
          row.usage.requestId ≠ receiptId (request.delivery renterId answer now).requestId
  | .failed _ _ _ => True

instance (caps : Caps) (renterId : ℕ+) (month : Int) (spending : Spending) (event : SpendEvent) :
    Decidable (LeavesRoom caps renterId month spending event) := by
  unfold LeavesRoom
  cases event <;> infer_instance

theorem counts_iff {budget renterApiKeyId : Option KeyId} :
    counts budget renterApiKeyId = true ↔ budget ∈ [none, renterApiKeyId] := by
  simp [counts]

theorem settledFrom_none (charges : List Charge) :
    settledFrom charges none = (charges.map Charge.amountHalala).sum := by
  simp [settledFrom, counts]

theorem settledFrom_some (charges : List Charge) (keyId : KeyId) :
    settledFrom charges (some keyId) = ((charges.filter (fun charge =>
      charge.renterApiKeyId = some keyId)).map Charge.amountHalala).sum := by
  simp [settledFrom, counts, eq_comm]

theorem settledFrom_append (charges more : List Charge) (budget : Option KeyId) :
    settledFrom (charges ++ more) budget =
      settledFrom charges budget + settledFrom more budget := by
  simp [settledFrom]

theorem settledFrom_singleton (charge : Charge) (budget : Option KeyId) :
    settledFrom [charge] budget =
      if counts budget charge.renterApiKeyId then charge.amountHalala
      else 0 := by
  unfold settledFrom
  by_cases counted : counts budget charge.renterApiKeyId = true
  · simp [counted]
  · simp [counted]

theorem estimateFor_nonneg (budget : Option KeyId) (request : ChatRequest) :
    0 ≤ request.estimateFor budget := by
  unfold ChatRequest.estimateFor
  split
  · exact le_max_left 0 _
  · exact le_refl 0

theorem underWay_nonneg (calls : Calls ChatRequest)
    (budget : Option KeyId) : 0 ≤ underWay calls budget := by
  apply Table.total_nonneg
  intro call _
  cases call.pending with
  | none => exact le_refl 0
  | some request => exact estimateFor_nonneg budget request

def rowShare (renterId : RenterId) (month : Int) (budget : Option KeyId) (row : LedgerRow) : Int :=
  if row.usage.renterId = (renterId : Int) && counts budget row.renterApiKeyId &&
    Topups.startOfCurrentMonthIso row.usage.createdAt = month then
    row.usage.costHalala
  else
    0

variable (ledger : List LedgerRow)

theorem spent_append (row : LedgerRow) (renterId : RenterId) (month : Int) (budget : Option KeyId) :
    spent (ledger ++ [row]) renterId month budget =
      spent ledger renterId month budget + rowShare renterId month budget row := by
  have nonneg (rows : List LedgerRow) :
      0 ≤ (rows.map (·.usage.costHalala)).sum := by
    apply sum_nonneg
    intro cost member
    obtain ⟨other, _, rfl⟩ := mem_map.mp member
    exact other.nonneg
  unfold spent spentThisMonth rowShare
  rw [max_eq_right (nonneg _), max_eq_right (nonneg _), filter_append, map_append, sum_append]
  congr 1
  split
  · next counted => simp only [filter_cons, counted, if_true,
      filter_nil, map_cons, map_nil, sum_singleton]
  · next uncounted => simp [uncounted]

theorem rowShare_nonneg (renterId : RenterId) (month : Int)
    (budget : Option KeyId) (row : LedgerRow) :
    0 ≤ rowShare renterId month budget row := by
  unfold rowShare
  split
  · exact row.nonneg
  · exact le_refl 0

variable (delivery : Delivery) (renterApiKeyId : Option KeyId) (status : String)

theorem recordUsage_cases :
    recordUsage ledger delivery renterApiKeyId status = ledger ∨
      recordUsage ledger delivery renterApiKeyId status =
        ledger ++ [delivery.receipt ledger.length renterApiKeyId status] := by
  unfold recordUsage
  dsimp only
  split
  · exact Or.inl rfl
  · exact Or.inr rfl

theorem spent_le_recordUsage (renterId : RenterId) (month : Int) (budget : Option KeyId) :
    spent ledger renterId month budget ≤
      spent (recordUsage ledger delivery renterApiKeyId status) renterId month budget := by
  rcases recordUsage_cases ledger delivery renterApiKeyId status with same | added
  · rw [same]
  · have share := rowShare_nonneg renterId month budget
      (delivery.receipt ledger.length renterApiKeyId status)
    rw [added, spent_append]
    omega

variable {ledger : List LedgerRow}

theorem mem_recordUsage {row : LedgerRow} (member : row ∈ ledger) (delivery : Delivery)
    (renterApiKeyId : Option KeyId) (status : String) :
    row ∈ recordUsage ledger delivery renterApiKeyId status := by
  rcases recordUsage_cases ledger delivery renterApiKeyId status with same | added
  · rw [same]
    exact member
  · rw [added]
    exact mem_append_left _ member

theorem usageRow_requestId {input : OpenRouter.UsageRecord}
    {requestId : RequestId} (given : input.requestId = some requestId)
    (id : Nat) (renterId now : Int) :
    (OpenRouter.usageRow input id renterId now).requestId = receiptId requestId := by
  rw [OpenRouter.usageRow, receiptId, given]

theorem receipt_requestId (id : Nat) (renterApiKeyId : Option KeyId) (status : String) :
    (delivery.receipt id renterApiKeyId status).usage.requestId = receiptId delivery.requestId :=
  usageRow_requestId rfl _ _ _

variable {delivery : Delivery}

theorem recordUsage_of_fresh (renter : delivery.renterId ≠ 0)
    (model : OpenRouter.cleanText 200 (some delivery.modelId) ≠ "")
    (fresh : ∀ row ∈ ledger, row.usage.requestId ≠ receiptId delivery.requestId) :
    recordUsage ledger delivery renterApiKeyId status =
      ledger ++ [delivery.receipt ledger.length renterApiKeyId status] := by
  have unknown : ¬ ledger.any (·.usage.requestId =
        (delivery.receipt ledger.length renterApiKeyId status).usage.requestId) = true := by
    rw [any_eq_true, receipt_requestId]
    rintro ⟨row, member, same⟩
    exact fresh row member (of_decide_eq_true same)
  rw [recordUsage, if_neg]
  rintro (zero | empty | known)
  · exact renter zero
  · exact model empty
  · exact unknown known

theorem toInt_of_bounded {number least most : Int}
    (above : least ≤ number) (below : number ≤ most) :
    OpenRouter.toInt (some (number : ℚ)) (some least) (some most) = some number := by
  unfold OpenRouter.toInt
  dsimp only
  rw [Rat.num_intCast, if_pos]
  refine ⟨Rat.den_intCast _, ?_, ?_⟩
  · intro bound given
    rw [← Option.mem_some_iff.mp given]
    exact above
  · intro bound given
    rw [← Option.mem_some_iff.mp given]
    exact below

theorem receipt_cost (id : Nat) (renterApiKeyId : Option KeyId) (status : String)
    (positive : 0 < delivery.usage.costHalala)
    (bounded : delivery.usage.costHalala ≤ OpenRouter.maxHalala) :
    (delivery.receipt id renterApiKeyId status).usage.costHalala =
      delivery.usage.costHalala := by
  simp [Delivery.receipt, OpenRouter.usageRow, Delivery.usageRecord,
    toInt_of_bounded positive.le bounded]

theorem settled_receipt {args : SettleArgs} {before after : Database} {receipt : Receipt}
    (settled : settleInferenceOnce args before = (Except.ok (.settled receipt), after)) :
    receipt.costHalala = args.cost := by
  unfold settleInferenceOnce at settled
  split at settled
  · simp at settled
  · rcases Tx.transaction_cases (settleBody args) before with
      ⟨result, reached, committed, outcome⟩ | ⟨failure, outcome⟩
    · rw [outcome] at settled
      cases settled
      obtain ⟨existing, _, reads, committed⟩ := Tx.bind_eq_ok_iff.mp committed
      cases existing with
      | some attempt =>
        simp only [Tx.pure_eq_ok_iff] at committed
        cases committed.1
      | none =>
        obtain ⟨_, _, _, committed⟩ := Tx.bind_eq_ok_iff.mp committed
        simp only [settleClaimed, Tx.bind_eq_ok_iff, Tx.pure_eq_ok_iff] at committed
        obtain ⟨_, _, _, _, _, _, _, _, _, _, _, _, _, _, _, _, _, _, _, _, _, ⟨⟩, _⟩ := committed
        rfl
    · rw [outcome] at settled
      cases settled

theorem settledAmount_eq_some {db : Database}
    {amount : Int} (settled : settledAmount db delivery = some amount) :
    amount = max 0 delivery.settledCostHalala := by
  unfold settledAmount at settled
  split at settled
  · contradiction
  · split at settled
    · next receipt after outcome =>
        cases Option.some.inj settled
        rw [settled_receipt outcome]
        simp [SettleArgs.cost, settledCost, Delivery.settleArgs]
    · contradiction

structure KeptWithin (caps : Caps) (renterId : ℕ+) (month : Int) (spending : Spending) : Prop where
  bounded : ∀ budget, 0 < caps.cap budget →
    settledFrom spending.charges budget + underWay spending.calls budget ≤ caps.cap budget
  covered :
    ∀ budget, settledFrom spending.charges budget ≤ spent spending.ledger renterId month budget
  visible : ∀ charge ∈ spending.charges, ∃ row ∈ spending.ledger, Shows renterId month row charge
  named : ∀ call request, spending.calls.waitsFor call = some request →
    OpenRouter.cleanText 200 (some request.modelId) ≠ ""

variable {caps : Caps} {renterId : ℕ+} {spending : Spending} {month : Int}

theorem KeptWithin.withinCaps (kept : KeptWithin caps renterId month spending) :
    WithinCaps caps renterId month spending where
  renter := by
    intro positive
    have bounded := kept.bounded none positive
    have nonneg := underWay_nonneg spending.calls none
    rw [settledFrom_none] at bounded
    simp only [Caps.cap] at bounded
    omega
  keys := by
    intro keyId positive
    have bounded := kept.bounded (some keyId) positive
    have nonneg := underWay_nonneg spending.calls (some keyId)
    rw [settledFrom_some] at bounded
    simp only [Caps.cap] at bounded
    omega
  visible := kept.visible

theorem keptWithin_openMonth (caps : Caps) (renterId : ℕ+) (month : Int)
    (db : Database) (ledger : List LedgerRow) :
    KeptWithin caps renterId month (openMonth db ledger) where
  bounded := by
    intro budget positive
    have nothing : underWay (openMonth db ledger).calls budget = 0 := Calls.total_empty _
    rw [nothing]
    simpa [openMonth, settledFrom] using positive.le
  covered := by
    intro budget
    exact le_max_left 0 _
  visible := by
    intro charge member
    cases member
  named := by
    intro call request waits
    cases waits

variable {call : Nat} {request : ChatRequest}

theorem KeptWithin.start (kept : KeptWithin caps renterId month spending)
    (fresh : spending.calls.IsFresh call)
    (named : OpenRouter.cleanText 200 (some request.modelId) ≠ "")
    (room : ∀ budget ∈ [none, request.renterApiKeyId], 0 < caps.cap budget →
      spent spending.ledger renterId month budget +
        underWay spending.calls budget + max 0 request.estimateHalala ≤ caps.cap budget) :
    KeptWithin caps renterId month
      { spending with calls := spending.calls.start call request } where
  bounded := by
    intro budget positive
    have started : underWay (spending.calls.start call request) budget =
        underWay spending.calls budget + request.estimateFor budget :=
      Calls.total_start fresh request _
    have before := kept.bounded budget positive
    have covered := kept.covered budget
    show settledFrom spending.charges budget +
      underWay (spending.calls.start call request) budget ≤ _
    rw [started, ChatRequest.estimateFor]
    by_cases counted : counts budget request.renterApiKeyId = true
    · have fits := room budget (counts_iff.mp counted) positive
      rw [if_pos counted]
      omega
    · rw [if_neg counted]
      omega
  covered := kept.covered
  visible := kept.visible
  named := by
    intro other later waits
    rcases Calls.waitsFor_start_cases fresh waits with ⟨_, rfl⟩ | ⟨_, before⟩
    · exact named
    · exact kept.named other later before

theorem underWay_end {calls : Calls ChatRequest}
    (waits : calls.waitsFor call = some request) (budget : Option KeyId) :
    underWay (calls.resume call none) budget =
      underWay calls budget - request.estimateFor budget := by
  have ended : Calls.total (calls.resume call none) (ChatRequest.estimateFor budget) =
      Calls.total calls (ChatRequest.estimateFor budget) - request.estimateFor budget + 0 :=
    Calls.total_resume waits (ChatRequest.estimateFor budget)
  rw [add_zero] at ended
  exact ended

theorem KeptWithin.finish (kept : KeptWithin caps renterId month spending)
    (waits : spending.calls.waitsFor call = some request) (books : Books)
    (delivery : Delivery) (status : String) :
    KeptWithin caps renterId month { spending with
      books := books
      ledger := recordUsage spending.ledger delivery request.renterApiKeyId status
      calls := spending.calls.resume call none } where
  bounded := by
    intro budget positive
    have before := kept.bounded budget positive
    have nonneg := estimateFor_nonneg budget request
    show settledFrom spending.charges budget + underWay (spending.calls.resume call none) budget ≤ _
    rw [underWay_end waits]
    omega
  covered := by
    intro budget
    exact (kept.covered budget).trans (spent_le_recordUsage _ _ _ _ _ _ _)
  visible := by
    intro charge member
    obtain ⟨row, before, shows⟩ := kept.visible charge member
    exact ⟨row, mem_recordUsage before _ _ _, shows⟩
  named := by
    intro other later laterWaits
    rcases Calls.waitsFor_resume_cases waits laterWaits with ⟨_, impossible⟩ | ⟨_, before⟩
    · contradiction
    · exact kept.named other later before

theorem KeptWithin.charge {caps : Caps} {renterId : ℕ+} {month : Int}
    {spending : Spending} {row : LedgerRow} {charge : Charge}
    {calls : Calls ChatRequest} {estimate : Option KeyId → Int}
    (kept : KeptWithin caps renterId month spending)
    (shows : Shows renterId month row charge)
    (ended : ∀ budget, underWay calls budget = underWay spending.calls budget - estimate budget)
    (fits : ∀ budget, (if counts budget charge.renterApiKeyId then charge.amountHalala
      else 0) ≤ estimate budget)
    (named : ∀ call request, calls.waitsFor call = some request →
      OpenRouter.cleanText 200 (some request.modelId) ≠ "")
    (books : Books) :
    KeptWithin caps renterId month
      { books := books
        ledger := spending.ledger ++ [row]
        calls := calls
        charges := spending.charges ++ [charge] } where
  bounded := by
    intro budget positive
    have before := kept.bounded budget positive
    have within := fits budget
    simp only [settledFrom_append, settledFrom_singleton, ended]
    omega
  covered := by
    intro budget
    have before := kept.covered budget
    have share : rowShare renterId month budget row =
        if counts budget charge.renterApiKeyId then charge.amountHalala
        else 0 := by
      unfold rowShare
      simp [shows.renter, shows.key, shows.month, shows.cost]
    simp only [settledFrom_append, settledFrom_singleton, spent_append, share]
    omega
  visible := by
    intro other member
    rcases mem_append.mp member with old | last
    · obtain ⟨earlier, before, shown⟩ := kept.visible other old
      exact ⟨earlier, mem_append_left _ before, shown⟩
    · cases mem_singleton.mp last
      exact ⟨row, mem_append_right _ (mem_singleton_self row), shows⟩
  named := named

theorem keptWithin_answered {call now : Nat}
    {answer : Answer} (kept : KeptWithin caps renterId month spending)
    (waits : spending.calls.waitsFor call = some request)
    (inMonth : monthOf now = month)
    (affordable : (request.delivery renterId answer now).settledCostHalala ≤ request.estimateHalala)
    (shown : (settledAmount spending.books.db
      (request.delivery renterId answer now)).isSome = true →
        (0 < answer.usage.costHalala ∧ answer.usage.costHalala ≤ OpenRouter.maxHalala) ∧
        ∀ row ∈ spending.ledger,
          row.usage.requestId ≠ receiptId (request.delivery renterId answer now).requestId)
    (books : Books) (status : String) :
    KeptWithin caps renterId month
      { books := books
        ledger := recordUsage spending.ledger
          (request.delivery renterId answer now) request.renterApiKeyId
          status
        calls := spending.calls.resume call none
        charges := spending.charges ++ (settledAmount spending.books.db
          (request.delivery renterId answer now)).toList.map
          (fun amount =>
            ⟨(request.delivery renterId answer now).requestId,
              request.renterApiKeyId, amount⟩) } := by
  have ended := kept.finish waits books (request.delivery renterId answer now) status
  cases settled : settledAmount spending.books.db (request.delivery renterId answer now) with
  | none =>
    simpa using ended
  | some amount =>
    obtain ⟨⟨positive, bounded⟩, fresh⟩ := shown (by rw [settled]; rfl)
    have cost : (request.delivery renterId answer now).settledCostHalala =
        answer.usage.costHalala :=
      if_pos positive
    have same := settledAmount_eq_some settled
    rw [cost, max_eq_right positive.le] at same
    rw [cost] at affordable
    have known : (request.delivery renterId answer now).renterId ≠ 0 := renterId.ne_zero
    have model :
        OpenRouter.cleanText 200 (some (request.delivery renterId answer now).modelId) ≠ "" :=
      kept.named call request waits
    rw [recordUsage_of_fresh request.renterApiKeyId status known model fresh]
    refine kept.charge ?_ (underWay_end waits) ?_ ended.named books
    · exact
        { renter := rfl
          key := rfl
          cost := by
            rw [same]
            exact receipt_cost _ _ _ positive bounded
          month := inMonth
          request := receipt_requestId _ _ _ _ }
    · intro budget
      unfold ChatRequest.estimateFor
      split
      · rw [same]
        exact affordable.trans (le_max_right 0 _)
      · exact le_refl 0

theorem keptWithin_next {spending after : Spending} {event : SpendEvent}
    (kept : KeptWithin caps renterId month spending)
    (taken : guarded (Fires (nextSpending caps renterId month))
      (LeavesRoom caps renterId month) spending event after) :
    KeptWithin caps renterId month after := by
  obtain ⟨room, fires⟩ := taken
  cases event with
  | arrive call now request admitted =>
    simp only [Fires, nextSpending] at fires
    split at fires
    · next able =>
        obtain ⟨_, fresh, named⟩ := able
        split at fires
        · next passes =>
            cases fires
            obtain ⟨admits, gates⟩ := Bool.and_eq_true_iff.mp passes
            exact kept.start fresh named (room admits gates)
        · cases fires
          exact kept
    · contradiction
  | answered call now answer =>
    simp only [Fires, nextSpending] at fires
    cases waits : spending.calls.waitsFor call with
    | none => simp [waits] at fires
    | some request =>
      simp only [waits] at fires
      split at fires
      · next able =>
          cases fires
          exact keptWithin_answered kept waits able.1 able.2 (room request waits) _ _
      · contradiction
  | failed call now answer =>
    simp only [Fires, nextSpending] at fires
    cases waits : spending.calls.waitsFor call with
    | none => simp [waits] at fires
    | some request =>
      simp only [waits] at fires
      split at fires
      · cases fires
        exact kept.finish waits _ _ _
      · contradiction

/-- While every request leaves room for those under way and every settled
answer gets its receipt, the month stays within the caps. -/
theorem caps_bound_spending {caps : Caps} {renterId : ℕ+} {month : Int}
    {db : Database} {ledger : List LedgerRow} {events : List SpendEvent}
    {spending : Spending}
    (run : Run (guarded (Fires (nextSpending caps renterId month))
      (LeavesRoom caps renterId month)) (openMonth db ledger) events
      spending) :
    WithinCaps caps renterId month spending :=
  (run.invariant (KeptWithin caps renterId month) keptWithin_next
    (keptWithin_openMonth caps renterId month db ledger)).withinCaps

section Samples

def sampleCaps (renterCap keyCap : Int) : Caps where
  monthlySpendCapHalala := renterCap
  keyCapHalala := fun keyId => if keyId = 7 then keyCap else 0

def sampleChatRequest (header : String) : ChatRequest where
  headers := ⟨some header, none, none⟩
  uuid := "0"
  renterApiKeyId := some 7
  modelId := "model"
  promptTokens := 10
  maxTokens := 40
  tokenRateHalala := 0
  inRateHalalaPer1m := 1000000
  outRateHalalaPer1m := 1000000
  fallbackRateHalalaPerMin := 2

def sampleAnswer (costHalala : Int) : Answer where
  providerId := 2
  usage := ⟨10, 40, 10, costHalala - 10, costHalala⟩
  visibleAnswer := "An answer"
  finishReason := some "stop"
  jobRow := none

theorem caps_bound_spending_sample :
    ∃ spending, execute (nextSpending (sampleCaps 100 60) 1 0) (openMonth sampleDatabase [])
      [.arrive 1 1000 (sampleChatRequest "first") true, .answered 1 2000 (sampleAnswer 55),
        .arrive 2 3000 (sampleChatRequest "second") true] =
      some spending ∧ spending.charges.map Charge.amountHalala = [55] ∧
        WithinCaps (sampleCaps 100 60) 1 0 spending := by
  refine exists_executed_guarded (LeavesRoom (sampleCaps 100 60) 1 0)
    (·.charges.map Charge.amountHalala = [55])
    (by decide +kernel) ?_
  intro spending run charged
  exact ⟨charged, caps_bound_spending run⟩

/-- Two requests that overlap exceed a cap of 100 halala, and an answer under
the id of a request that failed is settled without a row of its own. -/
theorem caps_exceeded :
    (∃ spending, execute (nextSpending (sampleCaps 100 0) 1 0) (openMonth sampleDatabase [])
      [.arrive 1 1000 (sampleChatRequest "first") true,
        .arrive 2 2000 (sampleChatRequest "second") true,
        .answered 1 3000 (sampleAnswer 55),
        .answered 2 4000 (sampleAnswer 55)] = some spending ∧
        ¬ WithinCaps (sampleCaps 100 0) 1 0 spending) ∧
      ∃ spending, execute (nextSpending (sampleCaps 1000 0) 1 0) (openMonth sampleDatabase [])
        [.arrive 1 1000 (sampleChatRequest "retry") true, .failed 1 2000 (sampleAnswer 10),
          .arrive 2 3000 (sampleChatRequest "retry") true,
          .answered 2 4000 (sampleAnswer 55)] = some spending ∧
          ¬ WithinCaps (sampleCaps 1000 0) 1 0 spending := by
  constructor
  · refine exists_executed (fun spending =>
      (spending.charges.map Charge.amountHalala).sum = 110)
      (by decide +kernel) ?_
    intro spending _ total within
    have bounded := within.renter (by decide)
    rw [total] at bounded
    exact absurd bounded (by decide)
  · refine exists_executed (fun spending =>
      ∃ charge ∈ spending.charges, ∀ row ∈ spending.ledger,
        row.usage.costHalala ≠ charge.amountHalala)
      (by decide +kernel) ?_
    intro spending _ apart within
    obtain ⟨charge, member, hidden⟩ := apart
    obtain ⟨row, shown, shows⟩ := within.visible charge member
    exact hidden row shown shows.cost

end Samples

end DcpPlatform.Billing
