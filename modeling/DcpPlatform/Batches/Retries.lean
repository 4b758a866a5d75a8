import DcpPlatform.Batches.ChargedExactly

/-!
# Settling the lines of a batch again

When the balance gate refuses a retry, which counts the charged lines once
more, every billable line becomes `failed`, the charged ones too. No call
charges a line twice, and calls that spare the charged lines leave them
settled.
-/

namespace DcpPlatform.Batches

open Foundation List

structure Call where
  lines : List Line
  workerProvider : Option Nat
  now : Nat

/-- Between two calls the funds may change. -/
inductive Turn where
  | settle (call : Call)
  | funds (renters : Billing.RenterId → Option Billing.Renter)
      (providers : Billing.ProviderId → Option Billing.Provider) (credits : Billing.Credits)

def Batch.turn (batch : Batch) (db : Database) : Turn → Option Database
  | .settle call =>
    some (settleBatchInferenceLines batch call.lines call.workerProvider call.now db).2
  | .funds renters providers credits =>
    some { db with
      billing :=
        { db.billing with renters := renters, providers := providers, credits := credits } }

/-- A line that is charged, and settled in the table. -/
def Database.IsPaid (db : Database) (batch : Batch) (customId : CustomId) : Prop :=
  db.IsCharged batch.batchId customId ∧
    ∀ line, db.lines.lookup (batch.lineKey customId) = some line →
      line.settlementStatus = .settled ∨ line.settlementStatus = .alreadySettled

def Refuses (batch : Batch) (db : Database) (call : Call) : Prop :=
  billable call.lines ≠ [] ∧ ¬ totalCost (billable call.lines) ≤ db.funds batch call.now

/-- A call that settles charged lines again, at most, and none when refused. -/
def Spares (batch : Batch) (db : Database) : Turn → Prop
  | .settle call =>
    (∀ line ∈ call.lines, db.IsCharged batch.batchId line.customId → IsBillable line) ∧
      (Refuses batch db call →
        ∀ line ∈ billable call.lines, ¬ db.IsCharged batch.batchId line.customId)
  | .funds _ _ _ => True

structure KeepsPaid (batch : Batch) (before after : Database) : Prop where
  paid : ∀ customId, before.IsPaid batch customId → after.IsPaid batch customId
  new : ∀ customId, ¬ before.IsCharged batch.batchId customId →
    after.IsCharged batch.batchId customId → after.IsPaid batch customId

structure ChargesOnce (batch : Batch) (now : Nat) (lines charged : List Line)
    (before after : Database) : Prop where
  listed : charged.Sublist lines
  distinct : (charged.map Line.customId).Nodup
  fresh : ∀ line ∈ charged, ¬ before.IsCharged batch.batchId line.customId
  charges : Charges batch now charged before after

variable {batch : Batch} {now : Nat} {workerProvider : Option Nat} {line : Line}
  {lines : List Line} {db before middle after : Database} {customId : CustomId}

theorem lineKey_inj {other : CustomId} : batch.lineKey customId = batch.lineKey other ↔
    customId = other := by
  simp [Batch.lineKey]

theorem Charges.kept {charged : List Line} (charges : Charges batch now charged before after)
    (known : before.IsCharged batch.batchId customId) : after.IsCharged batch.batchId customId :=
  (charges.charged _ _).mpr (Or.inl known)

theorem KeepsPaid.trans (first : KeepsPaid batch before middle) (second : KeepsPaid batch middle after) :
    KeepsPaid batch before after where
  paid := fun customId paid => second.paid customId (first.paid customId paid)
  new := by
    intro customId fresh charged
    by_cases early : middle.IsCharged batch.batchId customId
    · exact second.paid customId (first.new customId fresh early)
    · exact second.new customId early charged

theorem KeepsPaid.of_rows (billing : after.billing = before.billing)
    (rows : ∀ customId, before.IsCharged batch.batchId customId →
      after.lines.lookup (batch.lineKey customId) = before.lines.lookup (batch.lineKey customId)) :
    KeepsPaid batch before after where
  paid := by
    rintro customId ⟨charged, settled⟩
    refine ⟨by rwa [Database.IsCharged, billing], fun line found => settled line ?_⟩
    rwa [rows customId charged] at found
  new := by
    intro customId fresh charged
    rw [Database.IsCharged, billing] at charged
    exact absurd charged fresh

theorem markLines_row {write : Line → SettlementWrite}
    (absent : customId ∉ lines.map Line.customId) :
    (db.markLines batch lines write now).lines.lookup (batch.lineKey customId) =
      db.lines.lookup (batch.lineKey customId) := by
  induction lines generalizing db with
  | nil => rfl
  | cons line rest ih =>
    rw [map_cons, mem_cons, not_or] at absent
    refine (ih absent.2).trans ?_
    exact Table.lookup_update_of_ne _ (Line.setSettlement_key (write line) now)
      (fun same => absent.1 (lineKey_inj.mp same))

theorem markLines_spares {write : Line → SettlementWrite}
    (fresh : ∀ line ∈ lines, ¬ db.IsCharged batch.batchId line.customId)
    (charged : db.IsCharged batch.batchId customId) :
    (db.markLines batch lines write now).lines.lookup (batch.lineKey customId) =
      db.lines.lookup (batch.lineKey customId) := by
  apply markLines_row
  rintro listed
  obtain ⟨line, member, rfl⟩ := mem_map.mp listed
  exact fresh line member charged

theorem ChargesOnce.nil (same : after.billing = before.billing) :
    ChargesOnce batch now lines [] before after where
  listed := nil_sublist _
  distinct := nodup_nil
  fresh := by simp
  charges := Charges.nil same

theorem ChargesOnce.cons {rest first second : List Line}
    (earlier : ChargesOnce batch now [line] first before middle)
    (later : ChargesOnce batch now rest second middle after) :
    ChargesOnce batch now (line :: rest) (first ++ second) before after where
  listed := earlier.listed.append later.listed
  distinct := by
    rw [map_append, nodup_append]
    refine ⟨earlier.distinct, later.distinct, ?_⟩
    rintro _ here other there rfl
    obtain ⟨row, member, same⟩ := mem_map.mp there
    apply later.fresh row member
    rw [same]
    exact (earlier.charges.charged _ _).mpr (Or.inr ⟨rfl, here⟩)
  fresh := by
    intro row member
    rcases mem_append.mp member with here | there
    · exact earlier.fresh row here
    · exact fun charged => later.fresh row there (earlier.charges.kept charged)
  charges := earlier.charges.append later.charges

theorem setLineSettlement_paid {write : SettlementWrite} {billing : Billing.Database}
    (status : write.status = .settled ∨ write.status = .alreadySettled)
    (charges : ChargesOnce batch now [line] lines db { db with billing := billing }) :
    KeepsPaid batch db
      ({ db with billing := billing }.setLineSettlement batch line.customId write now) := by
  have row (customId : CustomId) (settled : customId ≠ line.customId → ∀ row,
      db.lines.lookup (batch.lineKey customId) = some row →
        row.settlementStatus = .settled ∨ row.settlementStatus = .alreadySettled) :
      ∀ row, ({ db with billing := billing }.setLineSettlement batch line.customId
        write now).lines.lookup (batch.lineKey customId) = some row →
        row.settlementStatus = .settled ∨ row.settlementStatus = .alreadySettled := by
    intro row found
    rcases Table.lookup_of_lookup_update (Line.setSettlement_key write now) found with ⟨_, earlier, _, rfl⟩ | ⟨other, kept⟩
    · exact status
    · exact settled (fun same => other (lineKey_inj.mpr same)) row kept
  constructor
  · rintro customId ⟨charged, settled⟩
    exact ⟨charges.charges.kept charged, row customId (fun _ => settled)⟩
  · intro customId fresh charged
    refine ⟨charged, row customId (fun different => ?_)⟩
    rcases (charges.charges.charged _ _).mp charged with known | ⟨_, listed⟩
    · exact absurd known fresh
    · obtain ⟨other, member, rfl⟩ := mem_map.mp listed
      exact absurd (mem_singleton.mp (charges.listed.subset member) ▸ rfl) different

theorem settleInferenceOnce_charged (charged : db.IsCharged batch.batchId line.customId)
    (providerId : Option Nat) :
    ∃ existing, settleInferenceOnce (settleArgs batch line providerId now) db.billing =
      (.ok (.alreadySettled existing), db.billing) := by
  obtain ⟨existing, found⟩ := Option.isSome_iff_exists.mp charged
  refine ⟨existing, ?_⟩
  have body : Billing.settleBody (settleArgs batch line providerId now) db.billing =
      (.ok (.alreadySettled existing), db.billing) :=
    Tx.bind_eq_ok_iff.mpr ⟨_, _, Tx.read_eq_ok_iff.mpr ⟨found, rfl⟩, rfl⟩
  have named := requestId_ne_empty batch.batchId line.customId
  rw [settleInferenceOnce, Billing.settleInferenceOnce, if_neg (by exact named), Tx.transaction,
    body]

theorem settleInferenceOnce_result (args : Billing.SettleArgs) (db : Billing.Database) :
    (∃ receipt after, settleInferenceOnce args db = (.ok (.settled receipt), after) ∧
      Billing.settleInferenceOnce args db = (.ok (.settled receipt), after)) ∨
      (∃ existing, settleInferenceOnce args db = (.ok (.alreadySettled existing), db)) ∨
        ∃ failure, settleInferenceOnce args db = (.error failure, db) := by
  rcases Billing.settleInferenceOnce_cases args db with
    ⟨receipt, after, settled, -⟩ | ⟨same, unsettled⟩
  · rw [settleInferenceOnce, settled]
    dsimp only
    split
    · exact Or.inl ⟨receipt, after, rfl, rfl⟩
    · exact Or.inr (Or.inr ⟨_, rfl⟩)
  · rw [settleInferenceOnce]
    rcases ended : Billing.settleInferenceOnce args db with ⟨_ | receipt | existing, after⟩
    · rw [ended] at same
      obtain rfl : after = db := same
      exact Or.inr (Or.inr ⟨_, rfl⟩)
    · rw [ended] at unsettled
      exact absurd rfl (unsettled receipt)
    · rw [ended] at same
      obtain rfl : after = db := same
      exact Or.inr (Or.inl ⟨existing, rfl⟩)

theorem settleLine_effect (nonneg : 0 ≤ line.costHalala) (db : Database) :
    ∃ charged, ChargesOnce batch now [line] charged db
      (settleLine batch workerProvider now line db).2 ∧
      KeepsPaid batch db (settleLine batch workerProvider now line db).2 := by
  rcases settleInferenceOnce_result
      (settleArgs batch line (chargedProvider workerProvider line) now) db.billing with
    ⟨receipt, billing, outcome, settled⟩ | ⟨existing, outcome⟩ | ⟨failure, outcome⟩
  · have charges : ChargesOnce batch now [line] [line] db { db with billing := billing } :=
      { listed := List.Sublist.refl _
        distinct := nodup_singleton _
        fresh := by
          intro row member known
          rw [mem_singleton.mp member] at known
          obtain ⟨existing, already⟩ := settleInferenceOnce_charged known
            (chargedProvider workerProvider line)
          cases outcome.symm.trans already
        charges := charges_of_settled nonneg settled }
    refine ⟨[line], ?_, ?_⟩
    · simp only [settleLine, outcome]
      exact { charges with charges := charges_of_settled nonneg settled }
    · simp only [settleLine, outcome]
      exact setLineSettlement_paid (Or.inl rfl) charges
  · refine ⟨[], ?_, ?_⟩
    · simp only [settleLine, outcome]
      exact ChargesOnce.nil rfl
    · simp only [settleLine, outcome]
      exact setLineSettlement_paid (Or.inr rfl) (@ChargesOnce.nil batch now [line] db db rfl)
  · refine ⟨[], ?_, ?_⟩
    · simp only [settleLine, outcome]
      exact ChargesOnce.nil rfl
    · simp only [settleLine, outcome]
      refine KeepsPaid.of_rows rfl (fun customId charged => ?_)
      refine Table.lookup_update_of_ne _ (Line.setSettlement_key _ now) (fun same => ?_)
      rw [lineKey_inj.mp same] at charged
      obtain ⟨existing, already⟩ := settleInferenceOnce_charged charged
        (chargedProvider workerProvider line)
      cases outcome.symm.trans already

theorem settleLines_effect : ∀ {db : Database}, (∀ line ∈ lines, 0 ≤ line.costHalala) →
    ∃ charged, ChargesOnce batch now lines charged db
      (settleLines batch workerProvider now lines db).2 ∧
      KeepsPaid batch db (settleLines batch workerProvider now lines db).2 := by
  induction lines with
  | nil =>
    intro db _
    exact ⟨[], ChargesOnce.nil rfl, KeepsPaid.of_rows rfl (fun _ _ => rfl)⟩
  | cons line rest ih =>
    intro db costs
    obtain ⟨first, charges, keeps⟩ :=
      @settleLine_effect batch now workerProvider line (costs line mem_cons_self) db
    rcases ended : settleLine batch workerProvider now line db with ⟨failure | value, middle⟩
    · rw [ended] at charges keeps
      rw [settleLines, Tx.bind_of_error ended]
      exact ⟨first, by simpa using charges.cons (ChargesOnce.nil rfl), keeps⟩
    · rw [ended] at charges keeps
      rw [settleLines, Tx.bind_of_ok ended]
      obtain ⟨second, later, keepsLater⟩ :=
        @ih middle (fun other member => costs other (mem_cons_of_mem line member))
      exact ⟨first ++ second, charges.cons later, keeps.trans keepsLater⟩

theorem settle_effect (batch : Batch) (call : Call) (db : Database) :
    let after := (settleBatchInferenceLines batch call.lines call.workerProvider call.now db).2
    (∃ charged, ChargesOnce batch call.now (billable call.lines) charged db after) ∧
      (Refuses batch db call → after.billing = db.billing) ∧
      (Spares batch db (.settle call) → KeepsPaid batch db after ∧
        (Refuses batch db call → ∀ customId, db.IsCharged batch.batchId customId →
          after.lines.lookup (batch.lineKey customId) =
            db.lines.lookup (batch.lineKey customId))) := by
  intro after
  have free (spares : Spares batch db (.settle call)) {customId : CustomId}
      (charged : db.IsCharged batch.batchId customId) :
      (db.markFree batch call.lines call.now).lines.lookup (batch.lineKey customId) =
        db.lines.lookup (batch.lineKey customId) := by
    refine markLines_spares (fun line member known => ?_) charged
    obtain ⟨listed, costs⟩ := mem_filter.mp member
    exact of_decide_eq_true costs (spares.1 line listed known)
  by_cases costly : billable call.lines = []
  · have same : after = db.markFree batch call.lines call.now :=
      congrArg Prod.snd (settle_free costly)
    have billing : after.billing = db.billing := by
      rw [same, markFree_billing]
    refine ⟨⟨[], ChargesOnce.nil billing⟩, fun refuses => absurd costly refuses.1, fun spares => ?_⟩
    refine ⟨KeepsPaid.of_rows billing (fun customId charged => ?_),
      fun refuses => absurd costly refuses.1⟩
    rw [same, free spares charged]
  · rcases @settle_costly batch call.now call.workerProvider call.lines db costly with
      ⟨settles, covered⟩ | ⟨⟨failure, write, failed⟩, short⟩
    · have same : after = _ := congrArg Prod.snd settles
      have billing := @markFree_billing batch call.now db call.lines
      obtain ⟨charged, charges, keeps⟩ :=
        @settleLines_effect batch call.now call.workerProvider (billable call.lines)
          (db.markFree batch call.lines call.now)
          (fun line member => (mem_billable.mp member).2.2.le)
      rw [← same] at charges keeps
      refine ⟨⟨charged, charges.listed, charges.distinct, ?_, ?_⟩,
        fun refuses => absurd covered refuses.2, fun spares => ⟨?_, fun refuses =>
          absurd covered refuses.2⟩⟩
      · intro line member known
        exact charges.fresh line member (by rwa [Database.IsCharged, billing])
      · exact (Charges.nil billing).append charges.charges
      · exact (KeepsPaid.of_rows billing (fun customId known => free spares known)).trans keeps
    · have same : after = _ := congrArg Prod.snd failed
      have billing : after.billing = db.billing := by
        rw [same, markLines_billing, markFree_billing]
      have rows (spares : Spares batch db (.settle call)) (customId : CustomId)
          (charged : db.IsCharged batch.batchId customId) :
          after.lines.lookup (batch.lineKey customId) =
            db.lines.lookup (batch.lineKey customId) := by
        rw [same, markLines_spares, free spares charged]
        · intro line member known
          rw [Database.IsCharged, markFree_billing] at known
          exact spares.2 ⟨costly, short⟩ line member known
        · rwa [Database.IsCharged, markFree_billing]
      exact ⟨⟨[], ChargesOnce.nil billing⟩, fun _ => billing, fun spares =>
        ⟨KeepsPaid.of_rows billing (rows spares), fun _ => rows spares⟩⟩

theorem turn_keeps {turn : Turn}
    (taken : guarded (Fires batch.turn) (Spares batch) before turn after) :
    KeepsPaid batch before after ∧ ∀ customId, before.IsCharged batch.batchId customId →
      after.IsCharged batch.batchId customId := by
  obtain ⟨spares, fires⟩ := taken
  cases turn with
  | settle call =>
    obtain rfl := Option.some.inj fires
    obtain ⟨⟨charged, charges⟩, -, kept⟩ := settle_effect batch call before
    exact ⟨(kept spares).1, fun customId => charges.charges.kept⟩
  | funds renters providers credits =>
    obtain rfl := Option.some.inj fires
    exact ⟨⟨fun _ paid => paid, fun _ fresh charged => absurd charged fresh⟩, fun _ known => known⟩

theorem run_keeps {turns : List Turn}
    (run : Run (guarded (Fires batch.turn) (Spares batch)) before turns after) :
    KeepsPaid batch before after ∧ ∀ customId, before.IsCharged batch.batchId customId →
      after.IsCharged batch.batchId customId := by
  refine run.relates (fun _ => True) (fun first second => KeepsPaid batch first second ∧
    ∀ customId, first.IsCharged batch.batchId customId →
      second.IsCharged batch.batchId customId) ?_ ?_ (fun _ _ => trivial)
    (fun _ taken => turn_keeps taken) trivial
  · exact fun state => ⟨KeepsPaid.of_rows rfl (fun _ _ => rfl), fun _ known => known⟩
  · exact fun first second => ⟨first.1.trans second.1,
      fun customId known => second.2 customId (first.2 customId known)⟩

def workedLine (customId : CustomId) (index : Nat) (providerId : Nat) (cost : Int) : Line :=
  { newLine 1 firstId 5 (sampleRequest customId) index with
    status := .succeeded
    providerId := some providerId
    costHalala := cost }

def retriedCall : Call :=
  { lines := [workedLine firstLine 0 7 30, workedLine secondLine 1 8 60]
    workerProvider := none
    now := 20 }

def retriedDatabase : Database :=
  { chargedSystem.db with
    lines := (Table.empty.insertIfNew (workedLine firstLine 0 7 30)).insertIfNew
      (workedLine secondLine 1 8 60) }

end DcpPlatform.Batches
