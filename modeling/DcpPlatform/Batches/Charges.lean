import DcpPlatform.Batches.Worker

/-!
# What a settlement of a batch charges

The request id of a line belongs to that line alone, so its own settlement
charges it and no other does. The settlement of all billable lines succeeds
exactly when the funds cover them and every provider is known.
-/

namespace DcpPlatform.Batches

open Foundation List

theorem eq_of_append_cons {Item : Type} {mark : Item} {first : List Item} :
    ∀ {second firstRest secondRest : List Item}, mark ∉ first → mark ∉ second →
      first ++ mark :: firstRest = second ++ mark :: secondRest →
      first = second ∧ firstRest = secondRest := by
  induction first with
  | nil =>
    intro second firstRest secondRest _ absent same
    cases second with
    | nil =>
      rw [nil_append, nil_append] at same
      exact ⟨rfl, tail_eq_of_cons_eq same⟩
    | cons item items =>
      have here := head_eq_of_cons_eq same
      rw [here] at absent
      exact absurd mem_cons_self absent
  | cons head tail ih =>
    intro second firstRest secondRest firstAbsent absent same
    rw [mem_cons, not_or] at firstAbsent
    cases second with
    | nil =>
      have here := head_eq_of_cons_eq same
      exact absurd here.symm firstAbsent.1
    | cons item items =>
      rw [mem_cons, not_or] at absent
      have heads := head_eq_of_cons_eq same
      obtain ⟨tails, rests⟩ := ih firstAbsent.2 absent.2 (tail_eq_of_cons_eq same)
      rw [heads, tails]
      exact ⟨rfl, rests⟩

theorem colon_notMem (batchId : BatchId) :
    ':' ∉ batchId.val.toList := by
  obtain ⟨text, valid⟩ := batchId
  unfold isBatchId at valid
  split at valid
  · rename_i first rest characters
    simp only [Bool.and_eq_true, all_eq_true, Bool.or_eq_true] at valid
    obtain ⟨⟨⟨start, _⟩, _⟩, others⟩ := valid
    rw [characters]
    intro member
    simp only [mem_cons] at member
    rcases member with no | no | no | no | no | no | here | there
    · exact absurd no (by decide)
    · exact absurd no (by decide)
    · exact absurd no (by decide)
    · exact absurd no (by decide)
    · exact absurd no (by decide)
    · exact absurd no (by decide)
    · rw [← here] at start
      exact absurd start (by decide)
    · exact absurd (others _ there) (by decide)
  · cases valid

theorem requestId_inj {batchId otherBatch : BatchId} {customId otherId : CustomId} :
    buildBatchLineSettlementRequestId batchId customId =
      buildBatchLineSettlementRequestId otherBatch otherId ↔
      batchId = otherBatch ∧ customId = otherId := by
  constructor
  · intro same
    have lists := congrArg String.toList same
    simp only [buildBatchLineSettlementRequestId, String.toList_append, append_assoc] at lists
    obtain ⟨batches, lines⟩ := eq_of_append_cons (colon_notMem batchId) (colon_notMem otherBatch)
        (append_cancel_left lists)
    exact ⟨Subtype.ext (String.toList_injective batches),
      Subtype.ext (String.toList_injective lines)⟩
  · rintro ⟨rfl, rfl⟩
    rfl

theorem requestId_ne_empty (batchId : BatchId) (customId : CustomId) :
    buildBatchLineSettlementRequestId batchId customId ≠ "" := by
  intro empty
  have lists := congrArg String.toList empty
  simp [buildBatchLineSettlementRequestId] at lists

/-! ## Charges -/

namespace Database

def funds (db : Database) (batch : Batch) (now : Nat) : Int :=
  Billing.getEffectiveBalance db.billing batch.renterId now

/-- A line has been charged when billing has settled its request. -/
def IsCharged (db : Database) (batchId : BatchId) (customId : CustomId) :
    Prop :=
  (db.billing.billingAttempts.lookup
    (buildBatchLineSettlementRequestId batchId customId)).isSome = true
deriving Decidable

def Knows (db : Database) (providerId : Option Nat) : Prop :=
  providerId.all (fun id => (db.billing.providers id).isSome) = true
deriving Decidable

end Database

def totalCost (lines : List Line) : Int :=
  (lines.map Line.costHalala).sum

theorem totalCost_nonneg {lines : List Line} (costs : ∀ line ∈ lines, 0 ≤ line.costHalala) :
    0 ≤ totalCost lines := by
  apply sum_nonneg
  intro cost member
  obtain ⟨line, listed, same⟩ := mem_map.mp member
  rw [← same]
  exact costs line listed

structure Charges (batch : Batch) (now : Nat) (lines : List Line)
    (before after : Database) : Prop where
  funds : after.funds batch now = before.funds batch now - totalCost lines
  charged : ∀ batchId customId, after.IsCharged batchId customId ↔
    before.IsCharged batchId customId ∨ batchId = batch.batchId ∧ customId ∈ lines.map Line.customId
  providers : ∀ providerId, after.Knows providerId ↔ before.Knows providerId

section Charges

variable {batch : Batch} {now : Nat} {workerProvider : Option Nat} {before after : Database}

theorem Charges.nil (same : after.billing = before.billing) :
    Charges batch now [] before after where
  funds := by
    rw [Database.funds, same]
    exact (Int.sub_zero _).symm
  charged := by
    intro batchId customId
    rw [Database.IsCharged, Database.IsCharged, same]
    simp
  providers := by
    intro providerId
    rw [Database.Knows, Database.Knows, same]

theorem Charges.append {first second : List Line} {before middle after : Database}
    (earlier : Charges batch now first before middle)
    (later : Charges batch now second middle after) :
    Charges batch now (first ++ second) before after where
  funds := by
    rw [later.funds, earlier.funds, totalCost, totalCost, totalCost, map_append, sum_append]
    omega
  charged := by
    intro batchId customId
    rw [later.charged, earlier.charged, map_append, mem_append]
    constructor
    · rintro ((known | here) | there)
      · exact Or.inl known
      · exact Or.inr ⟨here.1, Or.inl here.2⟩
      · exact Or.inr ⟨there.1, Or.inr there.2⟩
    · rintro (known | ⟨same, here | there⟩)
      · exact Or.inl (Or.inl known)
      · exact Or.inl (Or.inr ⟨same, here⟩)
      · exact Or.inr ⟨same, there⟩
  providers := by
    intro providerId
    rw [later.providers, earlier.providers]

variable {line : Line}

theorem settleArgs_cost (nonneg : 0 ≤ line.costHalala) (providerId : Option Nat) :
    (settleArgs batch line providerId now).cost = line.costHalala := by
  have integer :
      (settleArgs batch line providerId now).costHalala = ((max 0 line.costHalala : Int) : ℚ) := by
    rw [Int.cast_max, Int.cast_zero]
    rfl
  rw [Billing.cost_of_integer integer]
  omega

theorem charges_of_settled {providerId : Option Nat} {receipt : Billing.Receipt}
    (nonneg : 0 ≤ line.costHalala)
    (settled : Billing.settleInferenceOnce (settleArgs batch line providerId now) before.billing =
      (.ok (.settled receipt), after.billing)) :
    Charges batch now [line] before after where
  funds := by
    have paid := Billing.settled_funds settled
    rw [settleArgs_cost nonneg] at paid
    simp only [totalCost, map_cons, map_nil, sum_cons, sum_nil, Int.add_zero]
    exact paid
  charged := by
    intro batchId customId
    rw [Database.IsCharged, Billing.settled_attempt settled]
    by_cases same : buildBatchLineSettlementRequestId batchId customId =
      (settleArgs batch line providerId now).requestId
    · rw [if_pos same]
      obtain ⟨batches, lines⟩ := requestId_inj.mp same
      rw [batches, lines]
      simp
    · rw [if_neg same]
      constructor
      · intro charged
        exact Or.inl charged
      · rintro (charged | ⟨batches, lines⟩)
        · exact charged
        · rw [map_singleton, mem_singleton] at lines
          exact absurd (requestId_inj.mpr ⟨batches, lines⟩) same
  providers := by
    intro named
    cases named with
    | none =>
      exact Iff.rfl
    | some id =>
      rw [Database.Knows, Database.Knows]
      simp only [Option.all_some]
      rw [Billing.settled_providers settled]

theorem settleLine_cases {line : Line} {db : Database} (nonneg : 0 ≤ line.costHalala)
    (fresh : ¬ db.IsCharged batch.batchId line.customId)
    (covered : line.costHalala ≤ db.funds batch now) :
    (db.Knows (chargedProvider workerProvider line) ∧ ∃ after,
      settleLine batch workerProvider now line db = (.ok PUnit.unit, after) ∧
        Charges batch now [line] db after) ∨
      (¬ db.Knows (chargedProvider workerProvider line) ∧ ∃ failure after,
        settleLine batch workerProvider now line db = (.error failure, after) ∧
          after.billing = db.billing) := by
  let args := settleArgs batch line (chargedProvider workerProvider line) now
  have cost : args.cost = line.costHalala := settleArgs_cost nonneg _
  obtain ⟨receipt, billing, settled⟩ := @Billing.settleInferenceOnce_of_covered args db.billing
      (requestId_ne_empty _ _) (Option.some_ne_none _)
      (Option.not_isSome_iff_eq_none.mp fresh)
      (by rw [cost]; exact covered)
  by_cases known : db.Knows (chargedProvider workerProvider line)
  · left
    have outcome : settleInferenceOnce args db.billing = (.ok (.settled receipt), billing) := by
      rw [settleInferenceOnce, settled]
      exact if_pos known
    refine ⟨known, { db with billing := billing }.setLineSettlement batch line.customId
      (settledWrite batch line (chargedProvider workerProvider line) .settled none) now, ?_, ?_⟩
    · rw [settleLine]
      rw [outcome]
    · exact charges_of_settled nonneg settled
  · right
    have outcome : settleInferenceOnce args db.billing = (.error ⟨"sqlite_constraint_foreignkey",
            "FOREIGN KEY constraint failed"⟩, db.billing) := by
      rw [settleInferenceOnce, settled]
      exact if_neg known
    rw [settleLine]
    rw [outcome]
    exact ⟨known, _, _, rfl, rfl⟩

def Database.KnowsAll (db : Database) (workerProvider : Option Nat) (lines : List Line) : Prop :=
  ∀ line ∈ lines, db.Knows (chargedProvider workerProvider line)

def LeavesUncharged (batch : Batch) (lines : List Line) (after : Database) : Prop :=
  ∃ line ∈ lines, ¬ after.IsCharged batch.batchId line.customId

variable {lines : List Line}

theorem settleLines_cases :
    ∀ {db : Database}, (∀ line ∈ lines, 0 ≤ line.costHalala) →
      (∀ line ∈ lines, ¬ db.IsCharged batch.batchId line.customId) →
      (lines.map Line.customId).Nodup →
      totalCost lines ≤ db.funds batch now → (db.KnowsAll workerProvider lines ∧
        ∃ after, settleLines batch workerProvider now lines db = (.ok PUnit.unit, after) ∧
          Charges batch now lines db after) ∨
        (¬ db.KnowsAll workerProvider lines ∧ ∃ failure after,
          settleLines batch workerProvider now lines db = (.error failure, after) ∧
            LeavesUncharged batch lines after) := by
  induction lines with
  | nil =>
    intro db _ _ _ _
    left
    refine ⟨?_, db, rfl, Charges.nil rfl⟩
    intro line member
    cases member
  | cons line rest ih =>
    intro db costs fresh distinct covered
    have nonneg := costs line mem_cons_self
    have restCosts : ∀ other ∈ rest, 0 ≤ other.costHalala :=
      fun other member => costs other (mem_cons_of_mem line member)
    have others := totalCost_nonneg restCosts
    rw [map_cons, nodup_cons] at distinct
    have total : totalCost (line :: rest) = line.costHalala + totalCost rest := by
      simp [totalCost]
    rw [total] at covered
    rw [settleLines]
    rcases @settleLine_cases batch now workerProvider line db nonneg
        (fresh line mem_cons_self) (by omega) with
      ⟨known, middle, settled, charges⟩ | ⟨unknown, failure, after, failed, same⟩
    · rw [Tx.bind_of_ok settled]
      have funds := charges.funds
      simp only [totalCost, map_cons, map_nil, sum_cons, sum_nil, Int.add_zero] at funds
      have restFresh : ∀ other ∈ rest, ¬ middle.IsCharged batch.batchId other.customId := by
        intro other member charged
        rw [charges.charged] at charged
        rcases charged with before | ⟨_, here⟩
        · exact fresh other (mem_cons_of_mem line member) before
        · rw [map_singleton, mem_singleton] at here
          apply distinct.1
          rw [← here]
          exact mem_map_of_mem member
      have restKnown : middle.KnowsAll workerProvider rest ↔ db.KnowsAll workerProvider rest := by
        constructor
        · intro all other member
          exact (charges.providers _).mp (all other member)
        · intro all other member
          exact (charges.providers _).mpr (all other member)
      rcases ih restCosts restFresh distinct.2 (by rw [funds]; omega) with
        ⟨allKnown, after, settledRest, chargesRest⟩ |
          ⟨unknown, failure, after, failed, other, member, uncharged⟩
      · left
        refine ⟨?_, after, settledRest, charges.append chargesRest⟩
        intro other member
        rcases mem_cons.mp member with here | there
        · rw [here]
          exact known
        · exact restKnown.mp allKnown other there
      · right
        refine ⟨?_, failure, after, failed, other, mem_cons_of_mem line member, uncharged⟩
        intro all
        apply unknown
        apply restKnown.mpr
        intro other member
        exact all other (mem_cons_of_mem line member)
    · right
      rw [Tx.bind_of_error failed]
      refine ⟨?_, failure, after, rfl, line, mem_cons_self, ?_⟩
      · intro all
        exact unknown (all line mem_cons_self)
      · rw [Database.IsCharged, same]
        exact fresh line mem_cons_self

theorem markLines_billing (lines : List Line) (write : Line → SettlementWrite) (db : Database) :
    (db.markLines batch lines write now).billing = db.billing := by
  induction lines generalizing db with
  | nil =>
    rfl
  | cons line rest ih =>
    exact ih _

def billable (lines : List Line) : List Line :=
  lines.filter (fun line => IsBillable line)

theorem mem_billable :
    line ∈ billable lines ↔ line ∈ lines ∧ IsBillable line := by
  rw [billable, mem_filter, decide_eq_true_iff]

def Database.CanCharge (db : Database) (batch : Batch)
    (workerProvider : Option Nat) (now : Nat) (lines : List Line) : Prop :=
  lines = [] ∨ (totalCost lines ≤ db.funds batch now ∧ db.KnowsAll workerProvider lines)

def Database.markFree (db : Database) (batch : Batch) (lines : List Line) (now : Nat) : Database :=
  db.markLines batch (lines.filter (fun line => ¬ IsBillable line)) (fun _ => notRequiredWrite) now

theorem markFree_billing (db : Database) (lines : List Line) :
    (db.markFree batch lines now).billing = db.billing :=
  markLines_billing _ _ db

theorem settle_free {db : Database} (free : billable lines = []) :
    settleBatchInferenceLines batch lines workerProvider now db =
      (.ok PUnit.unit, db.markFree batch lines now) := by
  have empty : (lines.filter (IsBillable ·)).isEmpty = true := isEmpty_iff.mpr free
  rw [settleBatchInferenceLines, Tx.write_bind, if_pos empty]
  rfl

theorem settle_costly {lines : List Line} {db : Database} (costly : billable lines ≠ []) :
    settleBatchInferenceLines batch lines workerProvider now db =
      settleLines batch workerProvider now (billable lines) (db.markFree batch lines now) ∧
      totalCost (billable lines) ≤ db.funds batch now ∨
      (∃ failure write, settleBatchInferenceLines batch lines workerProvider now db =
        (.error failure,
          (db.markFree batch lines now).markLines batch (billable lines) write now)) ∧
        ¬ totalCost (billable lines) ≤ db.funds batch now := by
  have some : ¬ (lines.filter (IsBillable ·)).isEmpty = true :=
    fun empty => costly (isEmpty_iff.mp empty)
  have nonneg : 0 ≤ totalCost (billable lines) := totalCost_nonneg (fun line member =>
      (mem_billable.mp member).2.2.le)
  have gate : Billing.checkBalanceGate (db.markFree batch lines now).billing
      batch.renterId (totalCost (billable lines)) now =
        if totalCost (billable lines) ≤ db.funds batch now then none
        else .some (totalCost (billable lines) - db.funds batch now) := by
    rw [markFree_billing, Billing.checkBalanceGate, max_eq_right nonneg]
    rfl
  rw [settleBatchInferenceLines, Tx.write_bind, if_neg some, Tx.read_bind]
  by_cases covered : totalCost (billable lines) ≤ db.funds batch now
  · left
    rw [if_pos covered] at gate
    simp only [totalCost, billable, Database.markFree] at gate ⊢
    rw [gate]
    exact ⟨rfl, covered⟩
  · right
    refine ⟨?_, covered⟩
    rw [if_neg covered] at gate
    simp only [totalCost, billable, Database.markFree] at gate
    rw [gate]
    exact ⟨_, _, rfl⟩

theorem settleBatchInferenceLines_cases {lines : List Line} {db : Database}
    (fresh : ∀ line ∈ lines, ¬ db.IsCharged batch.batchId line.customId)
    (distinct : (lines.map Line.customId).Nodup) :
    (db.CanCharge batch workerProvider now (billable lines) ∧ ∃ after,
      settleBatchInferenceLines batch lines workerProvider now db = (.ok PUnit.unit, after) ∧
        Charges batch now (billable lines) db after) ∨
      (¬ db.CanCharge batch workerProvider now (billable lines) ∧ ∃ failure after,
        settleBatchInferenceLines batch lines workerProvider now db = (.error failure, after) ∧
          LeavesUncharged batch (billable lines) after) := by
  by_cases free : billable lines = []
  · left
    refine ⟨Or.inl free, _, settle_free free, ?_⟩
    rw [free]
    exact Charges.nil (markFree_billing db lines)
  · rcases @settle_costly batch now workerProvider lines db free with
      ⟨settles, covered⟩ | ⟨⟨failure, write, failed⟩, short⟩
    · have billing := @markFree_billing batch now db lines
      have costs : ∀ line ∈ billable lines, 0 ≤ line.costHalala :=
        fun line member => (mem_billable.mp member).2.2.le
      have unpaid : ∀ line ∈ billable lines, ¬ (db.markFree batch lines now).IsCharged batch.batchId
          line.customId := by
        intro line member
        rw [Database.IsCharged, billing]
        exact fresh line (mem_billable.mp member).1
      have separate : ((billable lines).map Line.customId).Nodup :=
        distinct.sublist (filter_sublist.map _)
      have known : (db.markFree batch lines now).KnowsAll workerProvider (billable lines) ↔
          db.KnowsAll workerProvider (billable lines) := by
        unfold Database.KnowsAll Database.Knows
        rw [billing]
      rw [settles]
      rcases settleLines_cases costs unpaid separate
          (by rw [Database.funds, billing]; exact covered) with
        ⟨allKnown, after, settled, charges⟩ | ⟨unknown, failure, after, failed, uncharged⟩
      · left
        refine ⟨Or.inr ⟨covered, known.mp allKnown⟩, after, settled, ?_⟩
        exact (Charges.nil billing).append charges
      · right
        refine ⟨?_, failure, after, failed, uncharged⟩
        rintro (empty | ⟨_, allKnown⟩)
        · exact free empty
        · exact unknown (known.mpr allKnown)
    · right
      refine ⟨?_, failure, _, failed, ?_⟩
      · rintro (empty | ⟨covered, _⟩)
        · exact free empty
        · exact short covered
      · obtain ⟨line, member⟩ := exists_mem_of_ne_nil _ free
        refine ⟨line, member, ?_⟩
        rw [Database.IsCharged, markLines_billing, markFree_billing]
        exact fresh line (mem_billable.mp member).1

end Charges

end DcpPlatform.Batches
