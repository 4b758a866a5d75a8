import Mathlib.Data.Int.ConditionallyCompleteOrder
import DcpPlatform.Foundation.FiniteSums
import DcpPlatform.Foundation.Windows
import DcpPlatform.PayoutBatches.Batch

/-!
# Batches over consecutive windows

A batch exports, or reports as skipped, exactly what the rows of its window
say. A row settled exactly at a shared boundary is exported once more for each
window that ends there; up to these rows consecutive batches add up to one
over the union.
-/

namespace DcpPlatform.PayoutBatches

open Foundation List

inductive Action where
  | record (job : FinishedJob) (id : Nat) (now : Int)
  | request (withdrawal : WithdrawalRequest)

def next (db : Database) : Action → Option Database
  | .record job id now => some (recordSettlement db job id now).2
  | .request withdrawal =>
    some { db with withdrawals := db.withdrawals ++ [withdrawal] }

def Database.empty : Database :=
  ⟨Table.empty, []⟩

def Paying (db : Database) : Prop :=
  ∀ row ∈ db.settlements.rows, row.status = .completed → 0 < row.providerPayoutHalala

theorem splitFee_positive {grossHalala : Int}
    (positive : 0 < grossHalala) : 0 < (splitFee grossHalala).2 := by
  unfold splitFee platformFeePercent
  dsimp only
  omega

variable {now : Int}

theorem settlementRow_paying {job : FinishedJob} {id : Nat}
    (completed : (settlementRow job id now).status = .completed) :
    0 < (settlementRow job id now).providerPayoutHalala := by
  have done : job.status = .completed := completed
  apply splitFee_positive
  rw [if_pos done]
  exact lt_of_lt_of_le one_pos (le_max_left 1 _)

theorem Paying.step {before after : Database} {action : Action}
    (paying : Paying before) (fires : Fires next before action after) :
    Paying after := by
  cases action with
  | record job id now =>
    have afterDb : (recordSettlement before job id now).2 = after := by
      injection fires
    unfold recordSettlement at afterDb
    split at afterDb
    · subst afterDb
      exact paying
    · rename_i fresh
      dsimp only at afterDb
      rw [Table.insertIfNew_of_fresh (fresh : _ = none)] at afterDb
      subst afterDb
      intro row member completed
      rcases mem_append.mp member with old | new
      · exact paying row old completed
      · rw [mem_singleton.mp new] at completed ⊢
        exact settlementRow_paying completed
  | request withdrawal =>
    cases fires
    exact paying

theorem paying_of_run {actions : List Action} {finish : Database}
    (run : Run (Fires next) Database.empty actions finish) :
    Paying finish := by
  apply run.invariant Paying Paying.step
  intro row member
  cases member

def entriesOf (entries : List Entry) (providerId : Nat) : Int :=
  ((entries.filter (fun entry => entry.providerId = providerId)).map Entry.amountHalala).sum

def skippedOf (skipped : List Skipped) (providerId : Nat) : Int :=
  ((skipped.filter (fun skip => skip.providerId = providerId)).map Skipped.amountHalala).sum

/-- A provider's net amount in a batch, exported or skipped. -/
def netOf (batch : PayoutBatch) (providerId : Nat) : Int :=
  entriesOf batch.entries providerId + skippedOf batch.skipped providerId

def Tally.net (tally : Tally) (providerId : Nat) : Int :=
  entriesOf tally.entries providerId + skippedOf tally.skipped providerId

def SourceRow.share (row : SourceRow) (providerId : Nat) : Int :=
  if row.providerId = providerId then row.payoutHalala else 0

theorem entriesOf_append (first second : List Entry) (providerId : Nat) :
    entriesOf (first ++ second) providerId =
      entriesOf first providerId + entriesOf second providerId := by
  simp [entriesOf]

theorem skippedOf_append (first second : List Skipped) (providerId : Nat) :
    skippedOf (first ++ second) providerId =
      skippedOf first providerId + skippedOf second providerId := by
  simp [skippedOf]

theorem entriesOf_perm {first second : List Entry} (same : first.Perm second) (providerId : Nat) :
    entriesOf first providerId = entriesOf second providerId :=
  ((same.filter _).map _).sum_eq

theorem exportRow_net (db : Database) (currency : String) (tally : Tally)
    {row : SourceRow} (positive : 0 < row.payoutHalala) (providerId : Nat) :
    (exportRow db currency tally row).net providerId =
      tally.net providerId + row.share providerId := by
  rw [exportRow, if_neg (not_le.mpr positive)]
  cases ibanLookup db row.providerId with
  | none =>
    dsimp only [Tally.net]
    rw [skippedOf_append]
    by_cases own : row.providerId = providerId
    · simp [skippedOf, SourceRow.share, own, add_assoc]
    · simp [skippedOf, SourceRow.share, own]
  | some iban =>
    dsimp only [Tally.net]
    rw [entriesOf_append]
    by_cases own : row.providerId = providerId
    · simp [entriesOf, SourceRow.share, own]
      omega
    · simp [entriesOf, SourceRow.share, own]

theorem exportRows_net (db : Database) (currency : String)
    (providerId : Nat) {rows : List SourceRow} :
    ∀ {tally : Tally}, (∀ row ∈ rows, 0 < row.payoutHalala) →
      (rows.foldl (exportRow db currency) tally).net providerId =
        tally.net providerId + (rows.map (fun row => row.share providerId)).sum := by
  induction rows with
  | nil =>
    intro tally _
    simp
  | cons row rest ih =>
    intro tally positive
    rw [foldl_cons, map_cons, sum_cons, ih (fun other member =>
      positive other (mem_cons_of_mem _ member)),
      exportRow_net db currency tally (positive row mem_cons_self)]
    omega

theorem exportRows_covered (db : Database) (currency : String) {rows : List SourceRow} :
    ∀ {tally : Tally}, (tally.entries.map Entry.amountHalala).sum = tally.coveredTotalHalala →
      ((rows.foldl (exportRow db currency) tally).entries.map Entry.amountHalala).sum =
        (rows.foldl (exportRow db currency) tally).coveredTotalHalala := by
  induction rows with
  | nil =>
    intro tally covered
    exact covered
  | cons row rest ih =>
    intro tally covered
    apply ih
    unfold exportRow
    split
    · exact covered
    · split
      · exact covered
      · simp [covered]

variable {rows : List JobSettlement} {providerId : Nat}

theorem payoutOf_positive (paying : ∀ row ∈ rows, 0 < row.providerPayoutHalala)
    (present : providerId ∈ rows.filterMap JobSettlement.providerId) :
    0 < payoutOf rows providerId := by
  obtain ⟨row, member, named⟩ := mem_filterMap.mp present
  have selected : row ∈ rowsOf rows providerId := mem_filter.mpr ⟨member, decide_eq_true named⟩
  have part : row.providerPayoutHalala ≤
      ((rowsOf rows providerId).map JobSettlement.providerPayoutHalala).sum := by
    apply single_le_sum
    · intro amount amountMember
      obtain ⟨other, otherMember, rfl⟩ := mem_map.mp amountMember
      exact le_of_lt (paying other (mem_filter.mp otherMember).1)
    · exact mem_map_of_mem selected
  exact lt_of_lt_of_le (paying row member) part

theorem payoutOf_of_absent (absent : providerId ∉ rows.filterMap JobSettlement.providerId) :
    payoutOf rows providerId = 0 := by
  have nothing : rowsOf rows providerId = [] := by
    apply filter_eq_nil_iff.mpr
    intro row member named
    apply absent
    exact mem_filterMap.mpr ⟨row, member, of_decide_eq_true named⟩
  rw [payoutOf, nothing]
  rfl

theorem sourceRows_share (rows : List JobSettlement) (providerId : Nat) :
    ((sourceRows rows).map (fun row => row.share providerId)).sum = payoutOf rows providerId := by
  have sorted : ((rows.filterMap JobSettlement.providerId).dedup.insertionSort
      (fun first second => first ≤ second)).Perm (rows.filterMap JobSettlement.providerId).dedup :=
    perm_insertionSort _ _
  rw [sourceRows, map_map, (sorted.map _).sum_eq]
  apply sum_over_keys (payoutOf rows) providerId (nodup_dedup _)
  intro absent
  apply payoutOf_of_absent
  rw [mem_dedup] at absent
  exact absent

theorem sourceRows_positive (paying : ∀ row ∈ rows, 0 < row.providerPayoutHalala) :
    ∀ row ∈ sourceRows rows, 0 < row.payoutHalala := by
  intro row member
  obtain ⟨providerId, listed, rfl⟩ := mem_map.mp member
  apply payoutOf_positive paying
  rw [mem_insertionSort, mem_dedup] at listed
  exact listed

variable {db : Database} {currency : String}

theorem batch_net {windowStart windowEnd : Int} {batch : PayoutBatch} (paying : Paying db)
    (built : generateProviderPayoutBatch db (some windowStart) (some windowEnd)
      currency now = .ok batch) (providerId : Nat) :
    windowStart ≤ windowEnd ∧
      netOf batch providerId = payoutOf (exportedRows db windowStart windowEnd) providerId := by
  have positive :
      ∀ row ∈ sourceRows (exportedRows db windowStart windowEnd), 0 < row.payoutHalala := by
    apply sourceRows_positive
    intro row member
    obtain ⟨stored, exported⟩ := mem_filter.mp member
    exact paying row stored (of_decide_eq_true exported).1
  have exported := @exportRows_net db currency providerId _ Tally.start positive
  rw [sourceRows_share] at exported
  change (if windowEnd < windowStart then
      Except.error "windowStart must be <= windowEnd"
    else _) = _ at built
  split at built
  · cases built
  · rename_i ordered
    split at built
    · cases built
    · cases built
      refine ⟨not_lt.mp ordered, ?_⟩
      have sorted := perm_insertionSort
          (fun first second : Entry => first.providerId ≤ second.providerId)
          ((sourceRows (exportedRows db windowStart windowEnd)).foldl
            (exportRow db currency) Tally.start).entries
      dsimp only [netOf]
      rw [entriesOf_perm sorted]
      exact exported.trans (zero_add _)

theorem batch_built {db : Database} {windowStart windowEnd : Int}
    (ordered : windowStart ≤ windowEnd) (currency : String) (now : Int) :
    ∃ batch, generateProviderPayoutBatch db (some windowStart) (some windowEnd)
      currency now = .ok batch := by
  have covered := @exportRows_covered db currency
      (sourceRows (exportedRows db windowStart windowEnd)) Tally.start rfl
  have sorted := perm_insertionSort
      (fun first second : Entry => first.providerId ≤ second.providerId)
      ((sourceRows (exportedRows db windowStart windowEnd)).foldl
        (exportRow db currency) Tally.start).entries
  have totals := (sorted.map Entry.amountHalala).sum_eq
  rw [covered] at totals
  change ∃ batch, (if windowEnd < windowStart then
        Except.error "windowStart must be <= windowEnd"
      else _) = _
  rw [if_neg (not_lt.mpr ordered)]
  split
  · rename_i mismatch
    exact absurd totals mismatch
  · exact ⟨_, rfl⟩

variable {first middle last : Int}

theorem exported_splits (row : JobSettlement)
    (amount : Int) (starts : first ≤ middle) (ends : middle ≤ last) :
    ((if ExportedIn first middle row then amount else 0) +
      if ExportedIn middle last row then amount else 0) =
      (if ExportedIn first last row then amount else 0) +
        if ExportedIn middle middle row then amount else 0 := by
  by_cases eligible : row.status = .completed ∧ row.providerId ≠ none
  · have inWindow (since upTo : Int) :
        ExportedIn since upTo row ↔ since ≤ row.settledAt ∧ row.settledAt ≤ upTo :=
      ⟨fun exported => exported.2.2, fun inside => ⟨eligible.1, eligible.2, inside⟩⟩
    simp only [inWindow]
    split_ifs <;> omega
  · have outside (since upTo : Int) : ¬ ExportedIn since upTo row :=
      fun exported => eligible ⟨exported.1, exported.2.1⟩
    simp [outside]

theorem payoutOf_eq_sum (db : Database) (since upTo : Int) (providerId : Nat) :
    payoutOf (exportedRows db since upTo) providerId = (db.settlements.rows.map (fun row =>
      if ExportedIn since upTo row then
        if row.providerId = some providerId then
          row.providerPayoutHalala
        else 0
      else 0)).sum := by
  rw [payoutOf, rowsOf, exportedRows, Table.select, sum_filter, sum_filter]

theorem payoutOf_splits (db : Database) (providerId : Nat)
    (starts : first ≤ middle) (ends : middle ≤ last) :
    payoutOf (exportedRows db first middle) providerId +
      payoutOf (exportedRows db middle last) providerId =
      payoutOf (exportedRows db first last) providerId +
        payoutOf (exportedRows db middle middle) providerId := by
  simp only [payoutOf_eq_sum]
  rw [← sum_map_add, ← sum_map_add]
  apply congrArg sum
  apply map_congr_left
  intro row _
  exact exported_splits row _ starts ends

def BuiltFor (db : Database) (currency : String) (window : Int × Int)
    (batch : PayoutBatch) : Prop :=
  ∃ now, generateProviderPayoutBatch db (some window.1) (some window.2) currency now = .ok batch

variable {windows : List (Int × Int)} {batches : List PayoutBatch}

theorem forward_of_built (paying : Paying db)
    (built : List.Forall₂ (BuiltFor db currency) windows batches) :
    ∀ window ∈ windows, window.1 ≤ window.2 := by
  induction built with
  | nil =>
    intro window member
    cases member
  | cons first _ ih =>
    intro window member
    rcases mem_cons.mp member with rfl | restMember
    · obtain ⟨now, generated⟩ := first
      exact (batch_net paying generated 0).1
    · exact ih window restMember

theorem nets_of_built (paying : Paying db)
    (built : List.Forall₂ (BuiltFor db currency) windows batches)
    (providerId : Nat) :
    batches.map (fun batch => netOf batch providerId) = windows.map (fun window =>
      payoutOf (exportedRows db window.1 window.2) providerId) := by
  induction built with
  | nil =>
    rfl
  | cons first _ ih =>
    obtain ⟨now, generated⟩ := first
    rw [map_cons, map_cons, ih, (batch_net paying generated providerId).2]

def timesExported (windows : List (Int × Int)) (row : JobSettlement) :
    Nat :=
  (windows.filter (fun window => ExportedIn window.1 window.2 row)).length

theorem timesExported_eq_sum (windows : List (Int × Int)) (row : JobSettlement) :
    (timesExported windows row : Int) = (windows.map (fun window =>
      if ExportedIn window.1 window.2 row then (1 : Int) else 0)).sum := by
  rw [← sum_filter (fun window => ExportedIn window.1 window.2 row) (fun _ => 1) windows]
  simp [timesExported]

theorem timesExported_consecutive {start : Int} {ends : List Int}
    (nonempty : ends ≠ []) (forward : Forward start ends) {row : JobSettlement}
    (exported : ExportedIn start (lastEnd start ends) row) :
    timesExported (consecutive start ends) row =
      1 + (sharedBoundaries ends).count row.settledAt := by
  have counted := sum_consecutive (fun since upTo =>
      if ExportedIn since upTo row then (1 : Int) else 0)
      (exported_splits row 1) nonempty forward
  have atBoundary (boundary : Int) :
      ExportedIn boundary boundary row ↔ boundary = row.settledAt := by
    constructor
    · intro inside
      have bounds := inside.2.2
      omega
    · rintro rfl
      exact ⟨exported.1, exported.2.1, le_refl _, le_refl _⟩
  have shared : ((sharedBoundaries ends).map (fun boundary =>
      if ExportedIn boundary boundary row then (1 : Int) else 0)).sum =
        (sharedBoundaries ends).count row.settledAt := by
    simp only [atBoundary]
    rw [← sum_filter (· = row.settledAt)
      (fun _ => 1), count_eq_length_filter]
    simp
    rfl
  rw [if_pos exported, shared, ← timesExported_eq_sum] at counted
  omega

/-- Batches over consecutive windows are disjoint and complete up to the rows
settled exactly at a shared boundary. -/
theorem consecutive_batches {actions : List Action} {db : Database}
    (recorded : Run (Fires next) Database.empty actions db)
    {start : Int} {ends : List Int} (nonempty : ends ≠ [])
    {currency : String} {batches : List PayoutBatch}
    (built : List.Forall₂ (BuiltFor db currency) (consecutive start ends) batches)
    {whole : PayoutBatch}
    (builtWhole : BuiltFor db currency (start, lastEnd start ends) whole) :
    (∀ window batch, BuiltFor db currency window batch → ∀ providerId,
      netOf batch providerId = payoutOf (exportedRows db window.1 window.2) providerId) ∧
    (∀ row ∈ db.settlements.rows, ExportedIn start (lastEnd start ends) row →
      timesExported (consecutive start ends) row =
        1 + (sharedBoundaries ends).count row.settledAt) ∧
      ∀ providerId, (batches.map (fun batch => netOf batch providerId)).sum =
        netOf whole providerId + ((sharedBoundaries ends).map (fun boundary =>
          payoutOf (exportedRows db boundary boundary) providerId)).sum := by
  have paying := paying_of_run recorded
  have forward : Forward start ends := forward_of_built paying built
  refine ⟨?_, ?_, ?_⟩
  · rintro window batch ⟨now, generated⟩ providerId
    exact (batch_net paying generated providerId).2
  · intro row _ exported
    exact timesExported_consecutive nonempty forward exported
  · intro providerId
    obtain ⟨now, generated⟩ := builtWhole
    rw [nets_of_built paying built providerId, (batch_net paying generated providerId).2]
    exact sum_consecutive (fun since upTo =>
      payoutOf (exportedRows db since upTo) providerId)
      (payoutOf_splits db providerId) nonempty forward

def sampleJob (jobId : String) (providerId : Nat) : FinishedJob :=
  { jobId := jobId
    providerId := some providerId
    renterId := 1
    durationSeconds := 600
    jobType := "llm-inference"
    status := .completed }

def sampleActions : List Action :=
  [.request ⟨11, "SA03 8000", 5⟩, .record (sampleJob "j1" 11) 1 50,
    .record (sampleJob "j2" 22) 2 100]

def batchesFor (db : Database) (windows : List (Int × Int)) :
    List (Except String PayoutBatch) :=
  windows.map (fun window =>
    generateProviderPayoutBatch db (some window.1) (some window.2) "SAR" 300)

theorem consecutive_batches_sample :
    ∃ db first second whole, execute next Database.empty sampleActions = some db ∧
      BuiltFor db "SAR" (0, 100) first ∧
      BuiltFor db "SAR" (100, 200) second ∧
      BuiltFor db "SAR" (0, 200) whole ∧
      (∀ row ∈ db.settlements.rows, ExportedIn 0 200 row →
        timesExported [(0, 100), (100, 200)] row = 1 + [100].count row.settledAt) ∧
      netOf first 22 + netOf second 22 = netOf whole 22 + 77 := by
  obtain ⟨db, executed, extra⟩ : ∃ db, execute next Database.empty sampleActions = some db ∧
      payoutOf (exportedRows db 100 100) 22 = 77 :=
    exists_of_execute_any (by decide +kernel)
  obtain ⟨first, firstBuilt⟩ := @batch_built db 0 100 (by decide) "SAR" 300
  obtain ⟨second, secondBuilt⟩ := @batch_built db 100 200 (by decide) "SAR" 300
  obtain ⟨whole, wholeBuilt⟩ := @batch_built db 0 200 (by decide) "SAR" 300
  obtain ⟨_, times, nets⟩ := @consecutive_batches sampleActions db (run_of_execute executed) 0
      [100, 200] (by decide) "SAR" [first, second]
      (List.Forall₂.cons ⟨300, firstBuilt⟩ (List.Forall₂.cons ⟨300, secondBuilt⟩ List.Forall₂.nil))
      whole ⟨300, wholeBuilt⟩
  refine ⟨db, first, second, whole, executed, ⟨300, firstBuilt⟩,
    ⟨300, secondBuilt⟩, ⟨300, wholeBuilt⟩, times, ?_⟩
  have total := nets 22
  simp only [map_cons, map_nil, sum_cons, sum_nil, add_zero, sharedBoundaries, dropLast_cons_cons,
    dropLast_singleton, extra] at total
  exact total

/-- A job settled at the boundary of two windows is exported in both. -/
theorem boundary_job_exported_twice :
    ∃ db, execute next Database.empty sampleActions = some db ∧
      (∃ row ∈ db.settlements.rows, row.jobId = "j2" ∧ ExportedIn 0 200 row ∧
        timesExported (consecutive 0 [100, 200]) row = 2) ∧
      (batchesFor db (consecutive 0 [100, 200])).map
        (fun built => built.toOption.map (fun batch => netOf batch 22)) =
        [some 77, some 77] ∧
      (batchesFor db [(0, 200)]).map
        (fun built => built.toOption.map (fun batch => netOf batch 22)) =
        [some 77] :=
  exists_of_execute_any (by decide +kernel)

end DcpPlatform.PayoutBatches
