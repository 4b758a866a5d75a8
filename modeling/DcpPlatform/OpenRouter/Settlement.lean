import DcpPlatform.Foundation.Transition
import DcpPlatform.OpenRouter.Ledger

/-!
# Executing a settlement

`executeOpenRouterSettlement` turns the rows of a window into one settlement
inside a transaction. When a statement throws, everything is rolled back and a
failed settlement is reported; a statement of the report may throw too.
-/

namespace DcpPlatform.OpenRouter

open Foundation List

namespace Usage

def setSettled (settlementId : Nat) (row : Usage) : Usage :=
  { row with
    settlementStatus := .settled
    settlementId := some settlementId }

@[simp]
theorem setSettled_id (settlementId : Nat) (row : Usage) :
    (row.setSettled settlementId).id = row.id :=
  rfl

def toItem (settlementId : Nat) (createdAt : Int) (row : Usage) : Item :=
  { usageId := row.id
    settlementId := settlementId
    renterId := row.renterId
    providerId := row.providerId
    costHalala := row.costHalala
    createdAt := createdAt }

end Usage

def Settlement.close (status : SettlementStatus) (completedAt : Int)
    (failureReason : Option String) (settlement : Settlement) :
    Settlement :=
  { settlement with
    status := status
    completedAt := some completedAt
    failureReason := failureReason }

@[simp]
theorem Settlement.close_id (status : SettlementStatus)
    (completedAt : Int) (failureReason : Option String) (settlement : Settlement) :
    (settlement.close status completedAt failureReason).id =
      settlement.id :=
  rfl

abbrev Script (Value : Type) : Type := Tx (Session Database) String Value

def insertSettlement (settlement : Settlement) : Script PUnit :=
  statement (fun db =>
    if fresh : db.settlements.lookup settlement.id = none then
      .ok (PUnit.unit, { db with settlements := db.settlements.insert settlement fresh })
    else
      .error "UNIQUE constraint failed: openrouter_settlements.id")

def markUsage (settlementId usageId : Nat) : Script Bool :=
  statement (fun db =>
    .ok (decide (db.usage.changes usageId (fun row => row.settlementStatus = .pending)), { db with
      usage := db.usage.updateWhere usageId (fun row => row.settlementStatus = .pending)
        (Usage.setSettled settlementId)
        (Usage.setSettled_id settlementId) }))

def fetchUsage (usageId : Nat) : Script Usage :=
  statement (fun db =>
    match db.usage.lookup usageId with
    | none =>
      .error "Cannot read properties of undefined (reading 'id')"
    | some row => .ok (row, db))

def insertItem (item : Item) : Script PUnit :=
  statement (fun db =>
    if fresh : db.items.lookup item.usageId = none then
      .ok (PUnit.unit, { db with items := db.items.insert item fresh })
    else
      .error "UNIQUE constraint failed: openrouter_settlement_items.usage_id")

def insertInvoice (invoice : Invoice) : Script PUnit :=
  statement (fun db =>
    if fresh : db.invoices.lookup invoice.settlementId = none then
      .ok (PUnit.unit, { db with invoices := db.invoices.insert invoice fresh })
    else
      .error ("UNIQUE constraint failed: " ++ "openrouter_settlement_invoices.settlement_id"))

def insertTopup (topup : Topup) : Script PUnit :=
  statement (fun db =>
    if fresh : db.topups.lookup topup.settlementId = none then
      .ok (PUnit.unit, { db with topups := db.topups.insert topup fresh })
    else
      .error ("UNIQUE constraint failed: " ++ "openrouter_settlement_topups.settlement_id"))

def closeSettlement (settlementId : Nat) (status : SettlementStatus)
    (completedAt : Int) (failureReason : Option String) : Script PUnit :=
  statement (fun db =>
    .ok (PUnit.unit, { db with
      settlements := db.settlements.update settlementId
        (Settlement.close status completedAt failureReason)
        (Settlement.close_id status completedAt failureReason) }))

def createAlert (settlementId : Nat) (code message : String) (now : Int) : Script PUnit :=
  statement (fun db =>
    .ok (PUnit.unit, { db with
      alerts := db.alerts ++ [{
        settlementId := some settlementId
        severity := .critical
        code := code
        message := clip 500 message
        createdAt := now }] }))

/-- The end of the transaction may throw like any other statement. -/
def commit : Script PUnit :=
  statement (fun db => .ok (PUnit.unit, db))

/-! ## The transaction -/

def settleUsage (settlementId : Nat) (createdAt : Int) :
    List Nat → Script PUnit
  | [] => pure PUnit.unit
  | usageId :: rest => do
      let updated ← markUsage settlementId usageId
      if updated then
        let usage ← fetchUsage usageId
        insertItem (usage.toItem settlementId createdAt)
        settleUsage settlementId createdAt rest
      else
        Tx.fail s!"usage row became unavailable during settlement: {usageId}"

def cleanMode (mode : String) : SettlementMode :=
  if mode = "auto_topup" then .autoTopup else .invoice

def cleanCadence (cadence : Option String) : String :=
  match cadence with
  | none => "daily"
  | some text => clip 24 text

def newSettlement (request : SettlementRequest) (summary : DryRunSummary)
    (settlementId : Nat) (status : SettlementStatus)
    (failureReason : Option String) (createdAt : Int)
    (completedAt : Option Int) : Settlement :=
  { id := settlementId
    periodStart := summary.periodStart
    periodEnd := summary.periodEnd
    cadence := cleanCadence request.cadence
    settlementMode := cleanMode request.mode
    expectedTotalHalala := summary.expectedTotalHalala
    reconciledHalala := summary.reconciledHalala
    discrepancyHalala := summary.discrepancyHalala
    usageCount := summary.usageCount
    status := status
    failureReason := failureReason
    createdAt := createdAt
    completedAt := completedAt }

def newInvoice (summary : DryRunSummary) (settlementId : Nat) (clock : Clock) : Invoice :=
  { settlementId := settlementId
    amountHalala := summary.reconciledHalala
    dueAt := clock.issued + 7 * dayMs
    status := .issued
    createdAt := clock.created }

def newTopup (summary : DryRunSummary) (settlementId : Nat) (clock : Clock) : Topup :=
  { settlementId := settlementId
    amountHalala := summary.reconciledHalala
    status := .queued
    createdAt := clock.created }

def billSettlement (mode : SettlementMode) (summary : DryRunSummary)
    (settlementId : Nat) (clock : Clock) :
    Script (Option Invoice × Option Topup) :=
  match mode with
  | .invoice => do
      insertInvoice (newInvoice summary settlementId clock)
      pure (some (newInvoice summary settlementId clock), none)
  | .autoTopup => do
      insertTopup (newTopup summary settlementId clock)
      pure (none, some (newTopup summary settlementId clock))

def finalStatus (summary : DryRunSummary) : SettlementStatus :=
  if summary.discrepancyHalala = 0 then .completed else .partially

def finalReason (summary : DryRunSummary) : Option String :=
  if summary.discrepancyHalala = 0 then none
  else some "Discrepancy between expected and reconciled totals"

def alertDiscrepancy (summary : DryRunSummary) (settlementId : Nat) (now : Int) : Script PUnit :=
  if summary.discrepancyHalala = 0 then
    pure PUnit.unit
  else
    createAlert settlementId "SETTLEMENT_DISCREPANCY"
      (s!"Expected {summary.expectedTotalHalala} halala but reconciled " ++
        s!"{summary.reconciledHalala} halala") now

def settlementTx (request : SettlementRequest) (summary : DryRunSummary)
    (settlementId : Nat) (clock : Clock) :
    Script (Option Invoice × Option Topup) := do
  insertSettlement (newSettlement request summary settlementId .processing none clock.created none)
  settleUsage settlementId clock.created summary.usageIds
  let billed ← billSettlement (cleanMode request.mode) summary settlementId clock
  closeSettlement settlementId (finalStatus summary) clock.finished (finalReason summary)
  alertDiscrepancy summary settlementId clock.finished
  commit
  pure billed

def replaceSettlement (settlement : Settlement) : Script PUnit :=
  statement (fun db =>
    .ok (PUnit.unit, { db with settlements := db.settlements.put settlement }))

def reportFailure (request : SettlementRequest) (summary : DryRunSummary)
    (settlementId : Nat) (clock : Clock) (message : String) :
    Script PUnit := do
  replaceSettlement (newSettlement request summary settlementId .failed
    (some (clip 500 message)) clock.created (some clock.finished))
  createAlert settlementId "SETTLEMENT_EXECUTION_FAILED" message clock.finished

structure SettlementResult where
  settlement : Option Settlement
  summary : DryRunSummary
  invoice : Option Invoice
  topup : Option Topup
  alerts : List Alert
  message : Option String
  error : Option String

def alertsOf (db : Database) (settlementId : Nat) : List Alert :=
  db.alerts.filter (fun alert => alert.settlementId = some settlementId)

structure Faults where
  inTransaction : Option Fault
  inReport : Option Fault

def executeOpenRouterSettlement (db : Database)
    (request : SettlementRequest) (settlementId : Nat) (clock : Clock)
    (faults : Faults) : SettlementResult × Database :=
  let summary := computeDryRunSummary db request clock
  if summary.usageIds = [] then
    ({ settlement := none
       summary := summary
       invoice := none
       topup := none
       alerts := []
       message := some "No pending OpenRouter usage records for the selected period"
       error := none }, db)
  else
    match Tx.transaction (settlementTx request summary settlementId clock)
      ⟨db, faults.inTransaction⟩ with
    | (.ok billed, after) =>
      ({ settlement := after.db.settlements.lookup settlementId
         summary := summary
         invoice := billed.1
         topup := billed.2
         alerts := alertsOf after.db settlementId
         message := none
         error := none }, after.db)
    | (.error message, _) =>
      let after :=
        (reportFailure request summary settlementId clock message ⟨db, faults.inReport⟩).2.db
      ({ settlement := after.settlements.lookup settlementId
         summary := summary
         invoice := none
         topup := none
         alerts := alertsOf after settlementId
         message := none
         error := some message }, after)

inductive Action where
  | record (input : UsageRecord) (id : Nat) (now : Int)
  | execute (request : SettlementRequest) (settlementId : Nat) (clock : Clock) (faults : Faults)

/-- Calls in any order. The ids are random and never occur twice; a
recording that throws leaves the ledger as it was. -/
def next (db : Database) : Action → Option Database
  | .record input id now =>
    if db.usage.lookup id = none then
      match recordOpenRouterUsage db input id now with
      | .error _ => some db
      | .ok (_, after) => some after
    else
      none
  | .execute request settlementId clock faults =>
    if db.settlements.lookup settlementId = none then
      some (executeOpenRouterSettlement db request settlementId clock faults).2
    else
      none

structure Marks (settlementId : Nat) (createdAt : Int)
    (before : Database) (ids : List Nat) (after : Database) : Prop where
  pending : ∀ id ∈ ids, ∃ row, before.usage.lookup id = some row ∧ row.settlementStatus = .pending
  usage : ∀ id, after.usage.lookup id =
    if id ∈ ids then
      (before.usage.lookup id).map (Usage.setSettled settlementId)
    else before.usage.lookup id
  items : after.items.rows = before.items.rows ++ ids.filterMap (fun id =>
    (before.usage.lookup id).map (Usage.toItem settlementId createdAt))
  settlements : after.settlements = before.settlements
  invoices : after.invoices = before.invoices
  topups : after.topups = before.topups

theorem Marks.nil (settlementId : Nat) (createdAt : Int)
    (db : Database) : Marks settlementId createdAt db [] db where
  pending := by simp
  usage := by simp
  items := by simp
  settlements := rfl
  invoices := rfl
  topups := rfl

theorem Marks.cons {settlementId : Nat} {createdAt : Int}
    {before middle after : Database} {id : Nat} {rest : List Nat} {row : Usage}
    (found : before.usage.lookup id = some row)
    (waiting : row.settlementStatus = .pending)
    (usage : ∀ other, middle.usage.lookup other =
      if other = id then some (row.setSettled settlementId)
      else before.usage.lookup other)
    (items : middle.items.rows = before.items.rows ++ [row.toItem settlementId createdAt])
    (settlements : middle.settlements = before.settlements)
    (invoices : middle.invoices = before.invoices)
    (topups : middle.topups = before.topups)
    (later : Marks settlementId createdAt middle rest after) :
    Marks settlementId createdAt before (id :: rest) after := by
  have absent : id ∉ rest := by
    intro member
    obtain ⟨stored, storedFound, stillWaiting⟩ := later.pending id member
    rw [usage, if_pos rfl] at storedFound
    cases storedFound
    cases stillWaiting
  have elsewhere {other : Nat} (member : other ∈ rest) :
      middle.usage.lookup other = before.usage.lookup other := by
    have different : other ≠ id := fun same => absent (same ▸ member)
    rw [usage, if_neg different]
  constructor
  case pending =>
    intro other member
    rcases mem_cons.mp member with rfl | restMember
    · exact ⟨row, found, waiting⟩
    · rw [← elsewhere restMember]
      exact later.pending other restMember
  case usage =>
    intro other
    rw [later.usage other]
    by_cases restMember : other ∈ rest
    · rw [if_pos restMember, if_pos (mem_cons_of_mem _ restMember), elsewhere restMember]
    · rw [if_neg restMember, usage]
      by_cases here : other = id
      · subst here
        rw [if_pos rfl, if_pos mem_cons_self, found, Option.map_some]
      · rw [if_neg here, if_neg (by simp [here, restMember])]
  case items =>
    rw [later.items, items, append_assoc]
    apply congrArg (before.items.rows ++ ·)
    have same : rest.filterMap (fun other =>
        (middle.usage.lookup other).map (Usage.toItem settlementId createdAt)) =
          rest.filterMap (fun other =>
            (before.usage.lookup other).map (Usage.toItem settlementId createdAt)) := by
      apply filterMap_congr
      intro other member
      rw [elsewhere member]
    rw [same, filterMap_cons, found]
    rfl
  case settlements => rw [later.settlements, settlements]
  case invoices => rw [later.invoices, invoices]
  case topups => rw [later.topups, topups]

end DcpPlatform.OpenRouter
