import DcpPlatform.OpenRouter.Settlement

/-!
# What a settlement run does

A run that throws nowhere commits: the rows it previewed are settled under
its id, each with one item, and their total is billed. A run that throws
leaves the ledger, the items and the bills as they were.
-/

namespace DcpPlatform.OpenRouter

open Foundation Table

section Statements

variable {session done : Session Database} {outcome : PUnit}

theorem insertSettlement_eq_ok {settlement : Settlement}
    (succeeded : insertSettlement settlement session = (Except.ok outcome, done)) :
    ∃ fresh, done.db = { session.db with
      settlements := session.db.settlements.insert settlement fresh } := by
  have ran := statement_eq_ok succeeded
  split at ran
  · rename_i fresh
    injection ran with same
    exact ⟨fresh, (congrArg Prod.snd same).symm⟩
  · cases ran

theorem insertItem_eq_ok {item : Item}
    (succeeded : insertItem item session = (Except.ok outcome, done)) :
    ∃ fresh, done.db = { session.db with
      items := session.db.items.insert item fresh } := by
  have ran := statement_eq_ok succeeded
  split at ran
  · rename_i fresh
    injection ran with same
    exact ⟨fresh, (congrArg Prod.snd same).symm⟩
  · cases ran

theorem insertInvoice_eq_ok {invoice : Invoice}
    (succeeded : insertInvoice invoice session = (Except.ok outcome, done)) :
    ∃ fresh, done.db = { session.db with
      invoices := session.db.invoices.insert invoice fresh } := by
  have ran := statement_eq_ok succeeded
  split at ran
  · rename_i fresh
    injection ran with same
    exact ⟨fresh, (congrArg Prod.snd same).symm⟩
  · cases ran

theorem insertTopup_eq_ok {topup : Topup}
    (succeeded : insertTopup topup session = (Except.ok outcome, done)) :
    ∃ fresh, done.db = { session.db with
      topups := session.db.topups.insert topup fresh } := by
  have ran := statement_eq_ok succeeded
  split at ran
  · rename_i fresh
    injection ran with same
    exact ⟨fresh, (congrArg Prod.snd same).symm⟩
  · cases ran

theorem fetchUsage_eq_ok {usageId : Nat} {row : Usage}
    (succeeded : fetchUsage usageId session = (Except.ok row, done)) :
    session.db.usage.lookup usageId = some row ∧ done.db = session.db := by
  have ran := statement_eq_ok succeeded
  split at ran
  · cases ran
  · rename_i stored found
    injection ran with same
    injection same with sameRow sameDb
    subst sameRow
    exact ⟨found, sameDb.symm⟩

theorem markUsage_eq_ok {settlementId usageId : Nat}
    (succeeded : markUsage settlementId usageId session = (Except.ok true, done)) :
    ∃ row, session.db.usage.lookup usageId = some row ∧ row.settlementStatus = .pending ∧
      (∀ other, done.db.usage.lookup other =
        if other = usageId then some (row.setSettled settlementId)
        else session.db.usage.lookup other) ∧
      done.db.items = session.db.items ∧
      done.db.settlements = session.db.settlements ∧
      done.db.invoices = session.db.invoices ∧
      done.db.topups = session.db.topups := by
  have ran := statement_eq_ok succeeded
  injection ran with same
  injection same with changed sameDb
  obtain ⟨row, found, waiting⟩ := of_decide_eq_true changed
  have usage (other : Nat) :
      done.db.usage.lookup other =
        if other = usageId then some (row.setSettled settlementId)
        else session.db.usage.lookup other := by
    rw [← sameDb]
    exact lookup_updateWhere_of_met (Usage.setSettled_id settlementId) found waiting other
  rw [← sameDb] at usage ⊢
  exact ⟨row, found, waiting, usage, rfl, rfl, rfl, rfl⟩

end Statements

variable {settlementId : Nat}

theorem settleUsage_marks {createdAt : Int} :
    ∀ {ids : List Nat} {session done : Session Database} {outcome : PUnit},
      settleUsage settlementId createdAt ids session = (Except.ok outcome, done) →
        Marks settlementId createdAt session.db ids done.db := by
  intro ids
  induction ids with
  | nil =>
    intro session done outcome succeeded
    have same := (Tx.pure_eq_ok_iff.mp succeeded).2
    subst same
    exact Marks.nil settlementId createdAt session.db
  | cons id rest ih =>
    intro session done outcome succeeded
    obtain ⟨updated, marked, marking, remaining⟩ := Tx.bind_eq_ok_iff.mp succeeded
    cases updated with
    | false =>
      exact absurd remaining Tx.fail_ne_ok
    | true =>
      obtain ⟨row, found, waiting, usage, items, settlements,
        invoices, topups⟩ := markUsage_eq_ok marking
      obtain ⟨fetched, read, fetching, inserting⟩ := Tx.bind_eq_ok_iff.mp remaining
      obtain ⟨fetchedFound, readDb⟩ := fetchUsage_eq_ok fetching
      obtain ⟨_, inserted, insertion, looping⟩ := Tx.bind_eq_ok_iff.mp inserting
      obtain ⟨fresh, insertedDb⟩ := insertItem_eq_ok insertion
      have fetchedRow : fetched = row.setSettled settlementId := by
        rw [usage, if_pos rfl] at fetchedFound
        injection fetchedFound with same
        exact same.symm
      have insertedItems : inserted.db.items.rows =
          read.db.items.rows ++ [fetched.toItem settlementId createdAt] := by
        rw [insertedDb]
        exact insert_rows _ _ fresh
      have others : inserted.db.usage = read.db.usage ∧
          inserted.db.settlements = read.db.settlements ∧
          inserted.db.invoices = read.db.invoices ∧
          inserted.db.topups = read.db.topups := by
        rw [insertedDb]
        exact ⟨rfl, rfl, rfl, rfl⟩
      rw [readDb] at insertedItems others
      have later := ih looping
      apply Marks.cons found waiting _ _ _ _ _ later
      · intro other
        rw [others.1]
        exact usage other
      · rw [insertedItems, items, fetchedRow]
        rfl
      · exact others.2.1.trans settlements
      · exact others.2.2.1.trans invoices
      · exact others.2.2.2.trans topups

structure Commits (request : SettlementRequest) (summary : DryRunSummary)
    (settlementId : Nat) (clock : Clock) (before after : Database) :
    Prop where
  pending : ∀ id ∈ summary.usageIds, ∃ row,
    before.usage.lookup id = some row ∧ row.settlementStatus = .pending
  usage : ∀ id, after.usage.lookup id =
    if id ∈ summary.usageIds then
      (before.usage.lookup id).map (Usage.setSettled settlementId)
    else before.usage.lookup id
  items : after.items.rows = before.items.rows ++ summary.usageIds.filterMap (fun id =>
    (before.usage.lookup id).map (Usage.toItem settlementId clock.created))
  settlements : ∀ other, after.settlements.lookup other =
    if other = settlementId then
      some (newSettlement request summary settlementId
        (finalStatus summary) (finalReason summary) clock.created
        (some clock.finished))
    else before.settlements.lookup other
  invoices : ∀ other, after.invoices.lookup other =
    if other = settlementId ∧ cleanMode request.mode = .invoice then
      some (newInvoice summary settlementId clock)
    else before.invoices.lookup other
  topups : ∀ other, after.topups.lookup other =
    if other = settlementId ∧ cleanMode request.mode = .autoTopup then
      some (newTopup summary settlementId clock)
    else before.topups.lookup other

section Billing

variable {summary : DryRunSummary} {settlementId : Nat} {clock : Clock}
variable {session done : Session Database}

theorem billSettlement_eq_ok {mode : SettlementMode} {billed : Option Invoice × Option Topup}
    (succeeded :
      billSettlement mode summary settlementId clock session = (Except.ok billed, done)) :
    done.db.usage = session.db.usage ∧ done.db.items = session.db.items ∧
      done.db.settlements = session.db.settlements ∧
      (∀ other, done.db.invoices.lookup other =
        if other = settlementId ∧ mode = .invoice then
          some (newInvoice summary settlementId clock)
        else session.db.invoices.lookup other) ∧
      (∀ other, done.db.topups.lookup other =
        if other = settlementId ∧ mode = .autoTopup then
          some (newTopup summary settlementId clock)
        else session.db.topups.lookup other) := by
  cases mode with
  | invoice =>
    obtain ⟨_, inserted, insertion, finishing⟩ := Tx.bind_eq_ok_iff.mp succeeded
    obtain ⟨fresh, insertedDb⟩ := insertInvoice_eq_ok insertion
    have same := (Tx.pure_eq_ok_iff.mp finishing).2
    subst same
    rw [insertedDb]
    refine ⟨rfl, rfl, rfl, ?_, ?_⟩
    · intro other
      have found := lookup_insert_under _ fresh (rfl : _ = settlementId) other
      simpa only [and_true] using found
    · intro other
      rw [if_neg]
      rintro ⟨_, impossible⟩
      cases impossible
  | autoTopup =>
    obtain ⟨_, inserted, insertion, finishing⟩ := Tx.bind_eq_ok_iff.mp succeeded
    obtain ⟨fresh, insertedDb⟩ := insertTopup_eq_ok insertion
    have same := (Tx.pure_eq_ok_iff.mp finishing).2
    subst same
    rw [insertedDb]
    refine ⟨rfl, rfl, rfl, ?_, ?_⟩
    · intro other
      rw [if_neg]
      rintro ⟨_, impossible⟩
      cases impossible
    · intro other
      have found := lookup_insert_under _ fresh (rfl : _ = settlementId) other
      simpa only [and_true] using found

theorem createAlert_db (settlementId : Nat) (code message : String)
    (now : Int) (session : Session Database) :
    ∃ alerts, (createAlert settlementId code message now session).2.db =
      { session.db with alerts := alerts } := by
  unfold createAlert
  rcases statement_cases _ session with ⟨refused, threw⟩ | ⟨_, afterwards, ran, did⟩
  · rw [threw]
    exact ⟨session.db.alerts, rfl⟩
  · rw [did]
    injection ran with same
    exact ⟨_, (congrArg Prod.snd same).symm⟩

theorem alertDiscrepancy_eq_ok {now : Int} {outcome : PUnit}
    (succeeded : alertDiscrepancy summary settlementId now session = (Except.ok outcome, done)) :
    ∃ alerts, done.db = { session.db with alerts := alerts } := by
  unfold alertDiscrepancy at succeeded
  split at succeeded
  · have same := (Tx.pure_eq_ok_iff.mp succeeded).2
    subst same
    exact ⟨session.db.alerts, rfl⟩
  · have afterwards := createAlert_db settlementId "SETTLEMENT_DISCREPANCY"
      (s!"Expected {summary.expectedTotalHalala} halala but reconciled " ++
        s!"{summary.reconciledHalala} halala") now session
    rw [succeeded] at afterwards
    exact afterwards

end Billing

theorem settlementTx_commits {request : SettlementRequest}
    {summary : DryRunSummary} {clock : Clock} {session done : Session Database}
    {billed : Option Invoice × Option Topup}
    (succeeded :
      settlementTx request summary settlementId clock session = (Except.ok billed, done)) :
    Commits request summary settlementId clock session.db done.db := by
  obtain ⟨_, opened, opening, succeeded⟩ := Tx.bind_eq_ok_iff.mp succeeded
  obtain ⟨_, marked, marking, succeeded⟩ := Tx.bind_eq_ok_iff.mp succeeded
  obtain ⟨bill, invoiced, invoicing, succeeded⟩ := Tx.bind_eq_ok_iff.mp succeeded
  obtain ⟨_, closed, closing, succeeded⟩ := Tx.bind_eq_ok_iff.mp succeeded
  obtain ⟨_, alerted, alerting, succeeded⟩ := Tx.bind_eq_ok_iff.mp succeeded
  obtain ⟨_, committed, committing, finishing⟩ := Tx.bind_eq_ok_iff.mp succeeded
  obtain ⟨fresh, openedDb⟩ := insertSettlement_eq_ok opening
  have marks := settleUsage_marks marking
  rw [openedDb] at marks
  obtain ⟨sameUsage, sameItems, sameSettlements, invoices, topups⟩ := billSettlement_eq_ok invoicing
  have closedDb := statement_eq_ok closing
  injection closedDb with closedSame
  have closedDb := congrArg Prod.snd closedSame
  dsimp only at closedDb
  obtain ⟨alerts, alertedDb⟩ := alertDiscrepancy_eq_ok alerting
  have committedDb := statement_eq_ok committing
  injection committedDb with committedSame
  have committedDb := congrArg Prod.snd committedSame
  dsimp only at committedDb
  have same := (Tx.pure_eq_ok_iff.mp finishing).2
  subst same
  rw [← committedDb, alertedDb, ← closedDb]
  constructor
  case pending => exact marks.pending
  case usage =>
    intro id
    rw [sameUsage]
    exact marks.usage id
  case items =>
    rw [sameItems]
    exact marks.items
  case settlements =>
    intro other
    rw [lookup_update, sameSettlements, marks.settlements,
      lookup_insert_under _ fresh (rfl : _ = settlementId) other]
    by_cases here : other = settlementId
    · rw [if_pos here, if_pos here, if_pos here, Option.map_some]
      rfl
    · rw [if_neg here, if_neg here, if_neg here]
  case invoices =>
    intro other
    rw [invoices other, marks.invoices]
  case topups =>
    intro other
    rw [topups other, marks.topups]

/-- A failed run leaves everything but settlements and alerts, and among the
settlements it touches its own, which is marked as failed. -/
structure Reports (settlementId : Nat) (before after : Database) :
    Prop where
  usage : after.usage = before.usage
  items : after.items = before.items
  invoices : after.invoices = before.invoices
  topups : after.topups = before.topups
  others :
    ∀ other, other ≠ settlementId → after.settlements.lookup other = before.settlements.lookup other
  own : after.settlements.lookup settlementId = before.settlements.lookup settlementId ∨
    ∃ settlement,
      after.settlements.lookup settlementId = some settlement ∧ settlement.status = .failed

theorem Reports.refl (settlementId : Nat) (db : Database) :
    Reports settlementId db db where
  usage := rfl
  items := rfl
  invoices := rfl
  topups := rfl
  others := fun _ _ => rfl
  own := Or.inl rfl

theorem replaceSettlement_cases (settlement : Settlement) (session : Session Database) :
    (∃ refused, replaceSettlement settlement session = (Except.error refused, session)) ∨
      ∃ done, replaceSettlement settlement session = (Except.ok PUnit.unit, done) ∧ done.db =
        { session.db with
          settlements := session.db.settlements.put settlement } := by
  rcases statement_cases _ session with threw | ⟨_, afterwards, ran, did⟩
  · exact Or.inl threw
  · injection ran with same
    exact Or.inr ⟨afterwards, did, (congrArg Prod.snd same).symm⟩

theorem reportFailure_reports (request : SettlementRequest)
    (summary : DryRunSummary) (settlementId : Nat) (clock : Clock)
    (message : String) (session : Session Database) :
    Reports settlementId session.db
      (reportFailure request summary settlementId clock message session).2.db := by
  have replaced (settlement : Settlement) (own : settlement.id = settlementId)
      (failed : settlement.status = .failed) (alerts : List Alert) :
      Reports settlementId session.db { session.db with
        settlements := session.db.settlements.put settlement
        alerts := alerts } := by
    refine ⟨rfl, rfl, rfl, rfl, ?_, ?_⟩
    · intro other different
      rw [lookup_put, own, if_neg different]
    · refine Or.inr ⟨settlement, ?_, failed⟩
      rw [lookup_put, own, if_pos rfl]
  rcases replaceSettlement_cases (newSettlement request summary settlementId .failed
      (some (clip 500 message)) clock.created (some clock.finished))
      session with
    ⟨refused, threw⟩ | ⟨afterwards, did, stored⟩
  · have stopped : reportFailure request summary settlementId clock message session =
        (Except.error refused, session) :=
      Tx.bind_of_error threw
    rw [stopped]
    exact Reports.refl settlementId session.db
  · have continued : reportFailure request summary settlementId clock message session =
        createAlert settlementId "SETTLEMENT_EXECUTION_FAILED" message clock.finished afterwards :=
      Tx.bind_of_ok did
    obtain ⟨alerts, alerted⟩ := createAlert_db settlementId
      "SETTLEMENT_EXECUTION_FAILED" message clock.finished afterwards
    rw [continued, alerted, stored]
    exact replaced _ rfl rfl alerts

/-- What a run did: nothing when the window was empty, everything when it
reports no error, and nothing but the report when it does. -/
inductive Executes (request : SettlementRequest) (settlementId : Nat)
    (clock : Clock) (before : Database) :
    SettlementResult → Database → Prop
  | idle {result : SettlementResult} (noError : result.error = none)
      (noUsage : (computeDryRunSummary before request clock).usageIds = []) :
      Executes request settlementId clock before result before
  | committed {result : SettlementResult} {after : Database} (noError : result.error = none)
      (commits : Commits request (computeDryRunSummary before request clock)
        settlementId clock before after) :
      Executes request settlementId clock before result after
  | failed {result : SettlementResult} {after : Database} {message : String}
      (error : result.error = some message)
      (reports : Reports settlementId before after) :
      Executes request settlementId clock before result after

theorem execute_executes (db : Database) (request : SettlementRequest)
    (settlementId : Nat) (clock : Clock) (faults : Faults) :
    Executes request settlementId clock db
      (executeOpenRouterSettlement db request settlementId clock faults).1
      (executeOpenRouterSettlement db request settlementId clock faults).2 := by
  unfold executeOpenRouterSettlement
  by_cases noUsage : (computeDryRunSummary db request clock).usageIds = []
  · rw [if_pos noUsage]
    exact Executes.idle rfl noUsage
  · rw [if_neg noUsage]
    rcases Tx.transaction_cases (settlementTx request (computeDryRunSummary db request clock)
        settlementId clock) ⟨db, faults.inTransaction⟩ with
      ⟨billed, after, succeeded, kept⟩ | ⟨message, undone⟩
    · rw [kept]
      exact Executes.committed rfl (settlementTx_commits succeeded)
    · rw [undone]
      exact Executes.failed rfl
        (reportFailure_reports request _ settlementId clock message ⟨db, faults.inReport⟩)

end DcpPlatform.OpenRouter
