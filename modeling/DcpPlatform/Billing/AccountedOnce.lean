import DcpPlatform.Billing.Deliveries
import DcpPlatform.Billing.Funds
import DcpPlatform.Foundation.Transition

/-!
# Every delivery is charged or recorded

When each billable answer is charged to its own renter or recorded as
unbilled, and nothing else moves money.
-/

namespace DcpPlatform.Billing

open Foundation List

structure SameMoney (before after : Database) : Prop where
  renters : after.renters = before.renters
  providers : after.providers = before.providers
  credits : after.credits = before.credits

theorem SameMoney.refl (db : Database) : SameMoney db db :=
  ⟨rfl, rfl, rfl⟩

structure LeftUnbilled (delivery : Delivery) (before after : Books) :
    Prop where
  fresh : before.db.billingAttempts.lookup delivery.requestId = none
  recorded : after.db.billingAttempts.lookup delivery.requestId =
    some (delivery.unsettledAttempt (max 0 delivery.settledCostHalala))
  marked : (delivery.requestId, ErrorCode.unbilled) ∈ after.unsettled
  sameMoney : SameMoney before.db after.db

/-- A billable delivery is charged by a settlement of its own, up to the usage
events, or left unbilled; nothing else moves money. -/
def Posting.Accounted (posting : Posting) : Prop :=
  match posting.ending with
  | .failed _ => SameMoney posting.before.db posting.after.db
  | .delivered delivery =>
    if isUnbillableNonAnswer delivery then
      SameMoney posting.before.db posting.after.db
    else
      Settlement delivery.settleArgs posting.before.db posting.after.db ∨
        LeftUnbilled delivery posting.before posting.after

def AllAccounted (office : Office) : Prop :=
  ∀ posting ∈ office.postings, posting.Accounted

/-- A billable delivery comes with a request id under which no attempt is
recorded. -/
def FreshId (office : Office) : Ending → Prop
  | .failed _ => True
  | .delivered delivery =>
    isUnbillableNonAnswer delivery = false →
      office.books.db.billingAttempts.lookup delivery.requestId = none

theorem normalizeString_ne_empty {maxLen : Nat} {value text : String} (positive : 0 < maxLen)
    (normalized : normalizeString maxLen value = some text) :
    text ≠ "" := by
  unfold normalizeString at normalized
  by_cases empty : trim value = ""
  · rw [if_pos empty] at normalized
    contradiction
  · rw [if_neg empty] at normalized
    cases Option.some.inj normalized
    intro none_left
    have short : (trim value).toList.take maxLen = [] := by
      have chars := congrArg String.toList none_left
      simpa [clip] using chars
    rcases take_eq_nil_iff.mp short with zero | blank
    · omega
    · exact empty (String.toList_eq_nil_iff.mp blank)

theorem requestId_ne_empty (delivery : Delivery) :
    delivery.requestId ≠ "" := by
  unfold Delivery.requestId extractRequestId
  dsimp only
  cases given : ([delivery.headers.idempotencyKey, delivery.headers.xRequestId,
      delivery.headers.xCorrelationId].findSome? (fun header =>
        header.filter (· ≠ ""))).bind (normalizeString 200) with
  | none =>
    intro empty
    have chars := congrArg String.toList empty
    simp at chars
  | some text =>
    obtain ⟨header, _, normalized⟩ := Option.bind_eq_some_iff.mp given
    exact normalizeString_ne_empty (by decide) normalized

theorem Settlement.persistUsage {args : SettleArgs} {before : Database}
    {books : Books} (settlement : Settlement args before books.db)
    (delivery : Delivery) :
    Settlement args before (persistUsage books delivery).db where
  fresh := settlement.fresh
  recorded := settlement.recorded
  attemptsKept := settlement.attemptsKept
  charged := settlement.charged
  rentersKept := settlement.rentersKept
  drawn := settlement.drawn
  inOrder := settlement.inOrder
  earned := settlement.earned
  providersKept := settlement.providersKept

theorem insertUnsettled_sameMoney (books : Books) (delivery : Delivery)
    (costHalala : Int) (code : ErrorCode) :
    SameMoney books.db (insertUnsettled books delivery costHalala code).db := by
  unfold insertUnsettled
  split
  · exact SameMoney.refl _
  · exact ⟨rfl, rfl, rfl⟩

variable {books : Books} {delivery : Delivery}

theorem leftUnbilled_of_fresh (fresh : books.db.billingAttempts.lookup delivery.requestId = none) :
    LeftUnbilled delivery books (recordUnbilledSettlement books delivery) := by
  let attempt := delivery.unsettledAttempt (max 0 delivery.settledCostHalala)
  have free : books.db.billingAttempts.lookup attempt.requestId = none := fresh
  have inserted : insertUnsettled books delivery (max 0 delivery.settledCostHalala) .unbilled =
      { db := { books.db with
        billingAttempts := books.db.billingAttempts.insertIfNew attempt }
        unsettled := books.unsettled ++ [(delivery.requestId, .unbilled)] } := by
    rw [insertUnsettled, fresh]
  rw [recordUnbilledSettlement, inserted]
  exact
    { fresh := fresh
      recorded := by
        show (books.db.billingAttempts.insertIfNew attempt).lookup delivery.requestId = some attempt
        rw [Table.insertIfNew_of_fresh free, Table.lookup_insert]
        exact if_pos rfl
      marked := mem_append_right _ (mem_singleton_self _)
      sameMoney := ⟨rfl, rfl, rfl⟩ }

theorem accounted_delivered_iff (billable : isUnbillableNonAnswer delivery = false) :
    (Settlement delivery.settleArgs books.db (debitAndPersistUsage books delivery).db ∨
      LeftUnbilled delivery books (debitAndPersistUsage books delivery)) ↔
      books.db.billingAttempts.lookup delivery.requestId = none := by
  constructor
  · rintro (settlement | unbilled)
    · exact settlement.fresh
    · exact unbilled.fresh
  · intro fresh
    have named := requestId_ne_empty delivery
    have model : delivery.settleArgs.modelId ≠ none := Option.some_ne_none delivery.modelId
    rw [debitAndPersistUsage, billable]
    rcases @settleInferenceOnce_of_fresh delivery.settleArgs books.db named model fresh with
      ⟨receipt, after, settled⟩ | ⟨_, deficit, balance, failed⟩
    · left
      rcases settleInferenceOnce_cases delivery.settleArgs books.db with
        ⟨_, other, outcome, settlement, _⟩ | ⟨_, never⟩
      · rw [settled] at outcome
        cases outcome
        rw [settled]
        have posted : Settlement delivery.settleArgs books.db
            ({ books with db := after } : Books).db := settlement
        exact posted.persistUsage delivery
      · exact absurd (congrArg Prod.fst settled) (never receipt)
    · right
      rw [failed]
      exact leftUnbilled_of_fresh fresh

theorem accounted_post_iff {office : Office} {ending : Ending} :
    (Posting.mk ending office.books (post office.books ending)).Accounted ↔
      FreshId office ending := by
  cases ending with
  | failed delivery =>
    exact iff_of_true ⟨rfl, rfl, rfl⟩ trivial
  | delivered delivery =>
    simp only [Posting.Accounted, FreshId, post]
    by_cases unbillable : isUnbillableNonAnswer delivery = true
    · have money := insertUnsettled_sameMoney office.books delivery 0 .noAnswer
      have same : SameMoney office.books.db (debitAndPersistUsage office.books delivery).db := by
        rw [debitAndPersistUsage, if_pos unbillable]
        exact ⟨money.renters, money.providers, money.credits⟩
      rw [if_pos unbillable]
      exact iff_of_true same (fun billable => by
        rw [unbillable] at billable
        contradiction)
    · have billable : isUnbillableNonAnswer delivery = false :=
        Bool.eq_false_of_not_eq_true unbillable
      rw [if_neg unbillable, accounted_delivered_iff billable]
      exact ⟨fun fresh _ => fresh, fun fresh => fresh billable⟩

/-- The runs in which every delivery is accounted for are the runs in which
every billable delivery comes with a free request id. -/
theorem deliveries_accounted_iff {start : Database} {endings : List Ending} {office : Office} :
    Run (staying (Fires nextPosting) AllAccounted) (openOffice start) endings office ↔
      Run (guarded (Fires nextPosting) FreshId) (openOffice start) endings
        office := by
  refine Run.staying_iff_guarded (fun _ => True) AllAccounted FreshId
    (fun _ _ _ _ => trivial) ?_ trivial ?_
  · intro source target ending _ accounted fires
    cases Option.some.inj fires
    rw [← accounted_post_iff]
    constructor
    · intro all
      exact all _ (mem_append_right _ (mem_singleton_self _))
    · intro new posting member
      rcases mem_append.mp member with old | last
      · exact accounted posting old
      · cases mem_singleton.mp last
        exact new
  · intro posting member
    cases member

section Samples

def sampleRenters : Database :=
  { sampleDatabase with
    renters := fun renterId =>
      if renterId = 1 ∨ renterId = 2 then some ⟨500, 0, 0, none⟩
      else none
    credits := Table.empty }

def sampleDelivery (renterId : RenterId) (key : String) : Delivery where
  headers := ⟨some key, none, none⟩
  uuid := "0"
  renterId
  providerId := 2
  modelId := "model"
  usage := ⟨10, 20, 40, 60, 100⟩
  visibleAnswer := "An answer"
  finishReason := some "stop"
  inRateHalalaPer1m := 0
  outRateHalalaPer1m := 0
  jobRow := none
  now := 500

/-- Two renters send the same key: the second gets its answer for nothing. -/
theorem delivery_goes_unaccounted :
    ∃ office, execute nextPosting (openOffice sampleRenters)
      [.delivered (sampleDelivery 1 "retry-1"),
        .delivered (sampleDelivery 2 "retry-1")] = some office ∧
        (office.books.db.balance 1 = 400 ∧
          office.books.db.balance 2 = 500 ∧ office.books.unsettled = []) ∧
          ¬ AllAccounted office := by
  refine exists_executed (fun office =>
    (office.books.db.balance 1 = 400 ∧
      office.books.db.balance 2 = 500 ∧ office.books.unsettled = []) ∧
      ∃ posting ∈ office.postings, posting.ending = .delivered (sampleDelivery 2 "retry-1") ∧
        (posting.before.db.billingAttempts.lookup (sampleDelivery 2 "retry-1").requestId).isSome)
    (by decide +kernel) ?_
  rintro office _ ⟨money, posting, member, taken⟩
  refine ⟨money, ?_⟩
  intro accounted
  obtain ⟨same, found⟩ := taken
  have own := accounted posting member
  simp only [Posting.Accounted, same] at own
  rw [if_neg (by decide +kernel)] at own
  rcases own with settlement | unbilled
  · rw [show posting.before.db.billingAttempts.lookup
      (sampleDelivery 2 "retry-1").requestId = none from settlement.fresh] at found
    contradiction
  · rw [unbilled.fresh] at found
    contradiction

end Samples

end DcpPlatform.Billing
