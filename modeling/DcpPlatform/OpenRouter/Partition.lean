import DcpPlatform.OpenRouter.Effects

/-!
# Settlements partition the usage

A usage row is taken up by at most one settlement, the items of a settlement
add up to its totals, a failed run leaves its rows to a later run, and a run
without an error takes up every pending row of its window.
-/

namespace DcpPlatform.OpenRouter

open Foundation Table List Option

def Belongs (db : Database) (usageId settlementId : Nat) : Prop :=
  ∃ item ∈ db.items.rows, item.usageId = usageId ∧ item.settlementId = settlementId
deriving Decidable

def itemsTotal (items : List Item) (settlementId : Nat) : Int :=
  ((items.filter (fun item => item.settlementId = settlementId)).map Item.costHalala).sum

def amountBilled (db : Database) (settlement : Settlement) : Option Int :=
  match settlement.settlementMode with
  | .invoice =>
    (db.invoices.lookup settlement.id).map Invoice.amountHalala
  | .autoTopup =>
    (db.topups.lookup settlement.id).map Topup.amountHalala

theorem itemsTotal_append (first second : List Item) (settlementId : Nat) :
    itemsTotal (first ++ second) settlementId =
      itemsTotal first settlementId + itemsTotal second settlementId := by
  simp [itemsTotal]

variable {settlementId : Nat}

theorem itemsTotal_of_absent {items : List Item}
    (absent : ∀ item ∈ items, item.settlementId ≠ settlementId) :
    itemsTotal items settlementId = 0 := by
  have nothing : items.filter (·.settlementId = settlementId) = [] := by
    apply filter_eq_nil_iff.mpr
    intro item member
    simpa using absent item member
  rw [itemsTotal, nothing]
  rfl

def newItems (db : Database) (settlementId : Nat) (createdAt : Int) (ids : List Nat) : List Item :=
  ids.filterMap (fun id =>
    (db.usage.lookup id).map (Usage.toItem settlementId createdAt))

variable {db : Database}

theorem mem_newItems_iff {createdAt : Int} {ids : List Nat} {item : Item} :
    item ∈ newItems db settlementId createdAt ids ↔ ∃ id ∈ ids, ∃ row,
      db.usage.lookup id = some row ∧ item = row.toItem settlementId createdAt := by
  rw [newItems, mem_filterMap]
  constructor
  · rintro ⟨id, member, found⟩
    obtain ⟨row, rowFound, rfl⟩ := map_eq_some_iff.mp found
    exact ⟨id, member, row, rowFound, rfl⟩
  · rintro ⟨id, member, row, rowFound, rfl⟩
    exact ⟨id, member, by rw [rowFound, map_some]⟩

theorem itemsTotal_newItems (db : Database) (settlementId : Nat)
    (createdAt : Int) (ids : List Nat) :
    itemsTotal (newItems db settlementId createdAt ids) settlementId = (ids.map (fun id =>
      ((db.usage.lookup id).map Usage.costHalala).getD 0)).sum := by
  induction ids with
  | nil =>
    rfl
  | cons id rest ih =>
    rw [map_cons, sum_cons, ← ih]
    cases found : db.usage.lookup id with
    | none =>
      simp [newItems, found]
    | some row =>
      have split : newItems db settlementId createdAt (id :: rest) =
          [row.toItem settlementId createdAt] ++ newItems db settlementId createdAt rest := by
        simp [newItems, found]
      rw [split, itemsTotal_append]
      apply congrArg (· + _)
      simp [itemsTotal, Usage.toItem]

/-- Items agree with the ledger and belong to settlements that are known, and
a settlement that did not fail accounts for its items. -/
structure Balanced (db : Database) : Prop where
  itemized : ∀ item ∈ db.items.rows, ∃ row,
    db.usage.lookup item.usageId = some row ∧ row.settlementStatus = .settled
  known : ∀ item ∈ db.items.rows, db.settlements.lookup item.settlementId ≠ none
  accounted : ∀ settlementId settlement, db.settlements.lookup settlementId = some settlement →
    settlement.status ≠ .failed → itemsTotal db.items.rows settlementId =
      settlement.reconciledHalala ∧ amountBilled db settlement = some settlement.reconciledHalala

theorem Balanced.empty : Balanced Database.empty where
  itemized := by simp [Database.empty, Table.empty]
  known := by simp [Database.empty, Table.empty]
  accounted := by
    intro settlementId settlement found
    cases found

theorem Balanced.insert_usage (balanced : Balanced db)
    {row : Usage} (fresh : db.usage.lookup row.id = none) :
    Balanced { db with usage := db.usage.insert row fresh } where
  itemized := by
    intro item member
    obtain ⟨stored, found, settled⟩ := balanced.itemized item member
    exact ⟨stored, lookup_insert_of_some _ fresh found, settled⟩
  known := balanced.known
  accounted := balanced.accounted

variable {before after : Database}

theorem Balanced.reports (balanced : Balanced before)
    (fresh : before.settlements.lookup settlementId = none)
    (reports : Reports settlementId before after) : Balanced after := by
  constructor
  case itemized =>
    intro item member
    rw [reports.items] at member
    rw [reports.usage]
    exact balanced.itemized item member
  case known =>
    intro item member
    rw [reports.items] at member
    have known := balanced.known item member
    have different : item.settlementId ≠ settlementId := by
      intro same
      rw [same] at known
      exact known fresh
    rw [reports.others _ different]
    exact known
  case accounted =>
    intro other settlement found notFailed
    by_cases own : other = settlementId
    · subst own
      rcases reports.own with kept | ⟨stored, storedFound, failed⟩
      · rw [kept, fresh] at found
        cases found
      · rw [storedFound] at found
        cases found
        exact absurd failed notFailed
    · rw [reports.others _ own] at found
      have billed : amountBilled after settlement = amountBilled before settlement := by
        unfold amountBilled
        rw [reports.invoices, reports.topups]
      rw [reports.items, billed]
      exact balanced.accounted other settlement found notFailed

section Commit

variable {request : SettlementRequest} {settlementId : Nat}
variable {clock : Clock} {before after : Database}

theorem Commits.amountBilled_of_ne (commits :
    Commits request (computeDryRunSummary before request clock) settlementId clock before after)
    {settlement : Settlement} (different : settlement.id ≠ settlementId) :
    amountBilled after settlement = amountBilled before settlement := by
  unfold amountBilled
  rw [commits.invoices, commits.topups, if_neg (different ·.1),
    if_neg (different ·.1)]

theorem Commits.amountBilled_own {summary : DryRunSummary} {status : SettlementStatus}
    {failureReason : Option String} {createdAt : Int} {completedAt : Option Int}
    (commits : Commits request summary settlementId clock before after) :
    amountBilled after
      (newSettlement request summary settlementId status failureReason createdAt completedAt) =
      some summary.reconciledHalala := by
  unfold amountBilled
  dsimp only [newSettlement]
  cases mode : cleanMode request.mode with
  | invoice =>
    rw [commits.invoices, if_pos ⟨rfl, mode⟩]
    rfl
  | autoTopup =>
    rw [commits.topups, if_pos ⟨rfl, mode⟩]
    rfl

theorem Balanced.commits (balanced : Balanced before)
    (fresh : before.settlements.lookup settlementId = none)
    (commits : Commits request (computeDryRunSummary before request clock)
      settlementId clock before after) : Balanced after := by
  have rows : after.items.rows = before.items.rows ++ newItems before settlementId clock.created
      (computeDryRunSummary before request clock).usageIds :=
    commits.items
  have earlier {item : Item} (member : item ∈ before.items.rows) :
      item.settlementId ≠ settlementId := by
    intro same
    apply balanced.known item member
    rw [same]
    exact fresh
  have own {item : Item} (member : item ∈ newItems before settlementId clock.created
      (computeDryRunSummary before request clock).usageIds) :
      item.settlementId = settlementId := by
    obtain ⟨id, _, row, _, rfl⟩ := mem_newItems_iff.mp member
    rfl
  constructor
  case itemized =>
    intro item member
    rw [rows] at member
    rcases mem_append.mp member with old | new
    · obtain ⟨row, found, settled⟩ := balanced.itemized item old
      refine ⟨row, ?_, settled⟩
      rw [commits.usage, if_neg, found]
      intro selected
      obtain ⟨stored, storedFound, waiting⟩ := commits.pending _ selected
      rw [found] at storedFound
      injection storedFound with same
      rw [← same, settled] at waiting
      cases waiting
    · obtain ⟨id, selected, row, found, rfl⟩ := mem_newItems_iff.mp new
      have rowKey := lookup_key found
      refine ⟨row.setSettled settlementId, ?_, rfl⟩
      dsimp only [Usage.toItem]
      rw [commits.usage, rowKey, if_pos selected, found, map_some]
  case known =>
    intro item member
    rw [rows] at member
    rcases mem_append.mp member with old | new
    · rw [commits.settlements, if_neg (earlier old)]
      exact balanced.known item old
    · rw [commits.settlements, if_pos (own new)]
      exact some_ne_none _
  case accounted =>
    intro other settlement found notFailed
    rw [rows, itemsTotal_append]
    rw [commits.settlements] at found
    by_cases here : other = settlementId
    · rw [if_pos here] at found
      injection found with same
      subst here same
      have nothing := itemsTotal_of_absent (fun _ member => earlier member)
      rw [nothing, itemsTotal_newItems, zero_add]
      exact ⟨(reconciledHalala_eq before request clock).symm, commits.amountBilled_own⟩
    · rw [if_neg here] at found
      have settlementKey := lookup_key found
      have nothing := itemsTotal_of_absent
        (fun item member same => here ((same.symm.trans (own member))))
      rw [nothing, add_zero,
        commits.amountBilled_of_ne (fun same => here (settlementKey.symm.trans same))]
      exact balanced.accounted other settlement found notFailed

end Commit

/-- Items are never lost, and a pending row stays as it is until it has
one. -/
structure Remembers (before after : Database) : Prop where
  items : ∀ item ∈ before.items.rows, item ∈ after.items.rows
  pending : ∀ id row, before.usage.lookup id = some row → row.settlementStatus = .pending →
    after.usage.lookup id = some row ∨ ∃ settlementId, Belongs after id settlementId

theorem Remembers.refl (db : Database) : Remembers db db where
  items := fun _ member => member
  pending := fun _ _ found _ => Or.inl found

theorem Remembers.belongs (remembers : Remembers before after) {usageId settlementId : Nat}
    (belongs : Belongs before usageId settlementId) :
    Belongs after usageId settlementId := by
  obtain ⟨item, member, sameUsage, sameSettlement⟩ := belongs
  exact ⟨item, remembers.items item member, sameUsage, sameSettlement⟩

theorem Remembers.trans {first second third : Database}
    (earlier : Remembers first second) (later : Remembers second third) :
    Remembers first third where
  items := fun item member => later.items item (earlier.items item member)
  pending := by
    intro id row found waiting
    rcases earlier.pending id row found waiting with kept | ⟨settlementId, taken⟩
    · exact later.pending id row kept waiting
    · exact Or.inr ⟨settlementId, later.belongs taken⟩

theorem Remembers.insert_usage (db : Database) {row : Usage}
    (fresh : db.usage.lookup row.id = none) :
    Remembers db { db with usage := db.usage.insert row fresh } where
  items := fun _ member => member
  pending := fun _ _ found _ =>
    Or.inl (lookup_insert_of_some _ fresh found)

theorem Remembers.reports (reports : Reports settlementId before after) :
    Remembers before after where
  items := by
    intro item member
    rw [reports.items]
    exact member
  pending := by
    intro id row found _
    rw [reports.usage]
    exact Or.inl found

variable {request : SettlementRequest} {summary : DryRunSummary} {clock : Clock}

theorem Commits.belongs (commits : Commits request summary settlementId clock before after)
    {id : Nat} (selected : id ∈ summary.usageIds) :
    Belongs after id settlementId := by
  obtain ⟨row, found, _⟩ := commits.pending id selected
  have rowKey := lookup_key found
  refine ⟨row.toItem settlementId clock.created, ?_, rowKey, rfl⟩
  rw [commits.items]
  apply mem_append_right
  exact mem_newItems_iff.mpr ⟨id, selected, row, found, rfl⟩

theorem Remembers.commits (commits : Commits request summary settlementId clock before after) :
    Remembers before after where
  items := by
    intro item member
    rw [commits.items]
    exact mem_append_left _ member
  pending := by
    intro id row found _
    by_cases selected : id ∈ summary.usageIds
    · exact Or.inr ⟨settlementId, commits.belongs selected⟩
    · rw [commits.usage, if_neg selected]
      exact Or.inl found

/-- What a step can do, with the result of a settlement run. -/
inductive Step (before : Database) : Action → Database → Prop
  | unrecorded {input : UsageRecord} {id : Nat} {now : Int} :
      Step before (.record input id now) before
  | recorded {input : UsageRecord} {id : Nat} {now : Int} {row : Usage}
      (fresh : before.usage.lookup row.id = none) :
      Step before (.record input id now) { before with usage := before.usage.insert row fresh }
  | executed {request : SettlementRequest} {settlementId : Nat}
      {clock : Clock} {faults : Faults} {after : Database}
      (fresh : before.settlements.lookup settlementId = none)
      (executes : Executes request settlementId clock before
        (executeOpenRouterSettlement before request settlementId clock faults).1 after) :
      Step before (.execute request settlementId clock faults) after

variable {action : Action}

theorem step_of_fires (fires : Fires next before action after) :
    Step before action after := by
  cases action with
  | record input id now =>
    simp only [Fires, next] at fires
    split at fires
    · split at fires
      · cases fires
        exact Step.unrecorded
      · rename_i row stored recorded
        cases fires
        rcases recordOpenRouterUsage_cases recorded with rfl | ⟨fresh, _, rfl⟩
        · exact Step.unrecorded
        · exact Step.recorded fresh
    · cases fires
  | execute request settlementId clock faults =>
    obtain ⟨fresh, rfl⟩ := of_ite_eq_some fires
    exact Step.executed fresh (execute_executes before request settlementId clock faults)

theorem Balanced.step (balanced : Balanced before) (step : Step before action after) :
    Balanced after := by
  cases step with
  | unrecorded => exact balanced
  | recorded fresh => exact balanced.insert_usage fresh
  | executed fresh executes =>
    cases executes with
    | idle noError noUsage => exact balanced
    | committed noError commits => exact balanced.commits fresh commits
    | failed error reports => exact balanced.reports fresh reports

theorem Remembers.step (step : Step before action after) : Remembers before after := by
  cases step with
  | unrecorded => exact Remembers.refl before
  | recorded fresh => exact Remembers.insert_usage before fresh
  | executed fresh executes =>
    cases executes with
    | idle noError noUsage => exact Remembers.refl before
    | committed noError commits => exact Remembers.commits commits
    | failed error reports => exact Remembers.reports reports

variable {actions : List Action}

theorem balanced_of_run {finish : Database} (run : Run (Fires next) Database.empty actions finish) :
    Balanced finish :=
  run.invariant Balanced (fun balanced fires => balanced.step (step_of_fires fires)) Balanced.empty

theorem remembers_of_run {start finish : Database} (run : Run (Fires next) start actions finish) :
    Remembers start finish :=
  run.relates (fun _ => True) Remembers Remembers.refl Remembers.trans (fun _ _ => trivial)
    (fun _ fires => Remembers.step (step_of_fires fires)) trivial

/-- A usage row that was in one settlement earlier is in no other later. -/
def TakenOnce (earlier later : Database) : Prop :=
  ∀ usageId first second, Belongs earlier usageId first → Belongs later usageId second →
    first = second

/-- A settlement that did not fail accounts for its items. -/
def Accounted (db : Database) : Prop :=
  ∀ settlementId settlement, db.settlements.lookup settlementId = some settlement →
    settlement.status = .completed ∨ settlement.status = .partially →
    itemsTotal db.items.rows settlementId = settlement.reconciledHalala ∧
      amountBilled db settlement = some settlement.reconciledHalala

/-- A run that reports an error leaves the rows it looked at pending, and
every later preview over a window with their time finds them. -/
def FailuresKeepUsage (db : Database) : Prop :=
  ∀ request settlementId clock faults after message,
    next db (.execute request settlementId clock faults) = some after →
      (executeOpenRouterSettlement db request settlementId clock faults).1.error = some message →
      ∀ id ∈ (computeDryRunSummary db request clock).usageIds, ∃ row,
        after.usage.lookup id = some row ∧ row.settlementStatus = .pending ∧
          ∀ laterRequest laterClock, laterRequest.since laterClock ≤ row.createdAt →
            row.createdAt ≤ laterRequest.until laterClock →
            id ∈ (computeDryRunSummary after laterRequest laterClock).usageIds

/-- Rows that were pending earlier are taken up by every run without an
error whose window has their time. -/
def WindowsSettled (earlier later : Database) : Prop :=
  ∀ id row, earlier.usage.lookup id = some row → row.settlementStatus = .pending →
    ∀ request settlementId clock faults after,
      next later (.execute request settlementId clock faults) = some after →
        (executeOpenRouterSettlement later request settlementId clock faults).1.error = none →
        request.since clock ≤ row.createdAt →
        row.createdAt ≤ request.until clock → ∃ taker, Belongs after id taker

variable {earlier later : Database}

theorem takenOnce_of_remembers (remembers : Remembers earlier later) : TakenOnce earlier later := by
  intro usageId first second inFirst inSecond
  obtain ⟨item, member, sameUsage, rfl⟩ := remembers.belongs inFirst
  obtain ⟨other, otherMember, otherUsage, rfl⟩ := inSecond
  have found := lookup_of_mem member
  have otherFound := lookup_of_mem otherMember
  rw [sameUsage] at found
  rw [otherUsage, found] at otherFound
  injection otherFound with same
  rw [same]

theorem failuresKeepUsage (db : Database) : FailuresKeepUsage db := by
  intro request settlementId clock faults after message fires error id selected
  obtain ⟨row, found, waiting, _⟩ := mem_usageIds_iff.mp selected
  have step := step_of_fires fires
  have unchanged : after.usage = db.usage := by
    cases step with
    | executed fresh executes =>
      cases executes with
      | idle noError noUsage => rfl
      | committed noError commits =>
        rw [noError] at error
        cases error
      | failed error reports => exact reports.usage
  rw [← unchanged] at found
  refine ⟨row, found, waiting, ?_⟩
  intro laterRequest laterClock starts ends
  exact mem_usageIds_iff.mpr ⟨row, found, waiting, starts, ends⟩

theorem windowsSettled_of_remembers (remembers : Remembers earlier later) :
    WindowsSettled earlier later := by
  intro id row found waiting request settlementId clock faults after fires noError starts ends
  have step := step_of_fires fires
  have growth := Remembers.step step
  rcases remembers.pending id row found waiting with kept | ⟨taker, taken⟩
  · have selected : id ∈ (computeDryRunSummary later request clock).usageIds :=
      mem_usageIds_iff.mpr ⟨row, kept, waiting, starts, ends⟩
    cases step with
    | executed fresh executes =>
      cases executes with
      | idle _ noUsage =>
        rw [noUsage] at selected
        cases selected
      | committed _ commits =>
        exact ⟨settlementId, commits.belongs selected⟩
      | failed error reports =>
        rw [error] at noError
        cases noError
  · exact ⟨taker, growth.belongs taken⟩

theorem usage_partitioned {earlier later : List Action} {middle finish : Database}
    (firstRun : Run (Fires next) Database.empty earlier middle)
    (secondRun : Run (Fires next) middle later finish) :
    TakenOnce middle finish ∧ Accounted finish ∧
      FailuresKeepUsage finish ∧ WindowsSettled middle finish := by
  have remembers := remembers_of_run secondRun
  have balanced := balanced_of_run (firstRun.append secondRun)
  have accounted : Accounted finish := by
    intro settlementId settlement found closed
    apply balanced.accounted settlementId settlement found
    rcases closed with completed | partially
    · rw [completed]
      decide
    · rw [partially]
      decide
  exact ⟨takenOnce_of_remembers remembers, accounted,
    failuresKeepUsage finish, windowsSettled_of_remembers remembers⟩

/-- A receipt of one model call at a given price. -/
def receipt (costHalala : ℚ) (settlementStatus : String) : UsageRecord :=
  { requestId := none
    promptCostHalala := none
    completionCostHalala := none
    tokenRateHalala := none
    renterId := some 7
    providerId := none
    model := some "llama"
    promptTokens := some 12
    completionTokens := some 30
    totalTokens := none
    costHalala := some costHalala
    currency := "SAR"
    settlementStatus := settlementStatus }

def window (periodStart periodEnd : Int) : SettlementRequest :=
  { periodStart := some periodStart
    periodEnd := some periodEnd
    mode := "invoice"
    cadence := none
    expectedTotalHalala := none }

theorem usage_partitioned_sample :
    ∃ middle finish, TakenOnce middle finish ∧ Accounted finish ∧
      FailuresKeepUsage finish ∧ WindowsSettled middle finish ∧
      Belongs finish 1 2 ∧ Belongs finish 2 3 := by
  obtain ⟨middle, recorded⟩ : ∃ middle, execute next Database.empty
      [.record (receipt 20 "pending") 1 100, .record (receipt 30 "pending") 2 150] =
        some middle := ⟨_, rfl⟩
  have taken : ((execute next Database.empty
      [.record (receipt 20 "pending") 1 100, .record (receipt 30 "pending") 2 150]).bind
        (fun middle =>
          execute next middle [.execute (window 0 200) 1 ⟨0, 0, 300, 300, 300⟩
            ⟨some ⟨3, "disk I/O error"⟩, none⟩,
              .execute (window 0 120) 2 ⟨0, 0, 301, 301, 301⟩ ⟨none, none⟩,
              .execute (window 0 200) 3 ⟨0, 0, 302, 302, 302⟩ ⟨none, none⟩])).any
        (fun finish => Belongs finish 1 2 ∧ Belongs finish 2 3) = true := by
    decide +kernel
  rw [recorded, bind_some] at taken
  obtain ⟨finish, executed, both⟩ := exists_of_execute_any taken
  obtain ⟨once, accounted, failures, settled⟩ :=
    usage_partitioned (run_of_execute recorded) (run_of_execute executed)
  exact ⟨middle, finish, once, accounted, failures, settled, both⟩

/-- A row recorded as failed in the window of a completed settlement has no
item. -/
theorem failed_receipt_left_out :
    ∃ finish, execute next Database.empty [.record (receipt 20 "failed") 1 100,
            .record (receipt 30 "pending") 2 150,
            .execute (window 0 200) 1 ⟨0, 0, 300, 300, 300⟩ ⟨none, none⟩] =
        some finish ∧
        (∃ settlement ∈ finish.settlements.rows, settlement.status = .completed ∧
          settlement.periodStart = 0 ∧ settlement.periodEnd = 200) ∧
        (∃ row ∈ finish.usage.rows, row.id = 1 ∧ row.createdAt = 100) ∧
        ∀ settlementId, ¬ Belongs finish 1 settlementId := by
  refine exists_executed (fun finish =>
    (∃ settlement ∈ finish.settlements.rows,
      settlement.status = .completed ∧ settlement.periodStart = 0 ∧ settlement.periodEnd = 200) ∧
    (∃ row ∈ finish.usage.rows, row.id = 1 ∧ row.createdAt = 100) ∧
    ∀ item ∈ finish.items.rows, item.usageId ≠ 1)
    (by decide +kernel) ?_
  rintro finish _ ⟨closed, recorded, absent⟩
  refine ⟨closed, recorded, ?_⟩
  rintro settlementId ⟨item, member, sameUsage, _⟩
  exact absent item member sameUsage

end DcpPlatform.OpenRouter
