import DcpPlatform.PayoutBatches.ConsecutiveWindows

/-!
# The settlement preview

`buildProviderSettlementPreview` adds the rows of a window up for each
provider. A batch for the same window exports or skips exactly the providers
whose previewed net amount is positive, with that amount.
-/

namespace DcpPlatform.PayoutBatches

open Foundation List

structure PreviewRow where
  providerId : Nat
  settledJobs : Nat
  grossHalala : Int
  platformFeeHalala : Int
  providerNetHalala : Int
  reconciliationOk : Bool

structure PreviewTotals where
  providersCount : Nat
  settledJobs : Nat
  grossHalala : Int
  platformFeeHalala : Int
  providerNetHalala : Int

structure Preview where
  windowStart : Int
  windowEnd : Int
  providers : List PreviewRow
  totals : PreviewTotals
  grossEqualsSplit : Bool
  deltaHalala : Int

def sumOf (rows : List JobSettlement) (amount : JobSettlement → Int) (providerId : Nat) : Int :=
  ((rowsOf rows providerId).map amount).sum

def previewRow (rows : List JobSettlement) (providerId : Nat) : PreviewRow :=
  let gross := sumOf rows JobSettlement.grossAmountHalala providerId
  let fee := sumOf rows JobSettlement.platformFeeHalala providerId
  let net := sumOf rows JobSettlement.providerPayoutHalala providerId
  { providerId := providerId
    settledJobs := (rowsOf rows providerId).length
    grossHalala := gross
    platformFeeHalala := fee
    providerNetHalala := net
    reconciliationOk := gross = fee + net }

def previewRows (rows : List JobSettlement) : List PreviewRow :=
  ((rows.filterMap JobSettlement.providerId).dedup.insertionSort
    (fun first second => first ≤ second)).map (previewRow rows)

def addRow (totals : PreviewTotals) (row : PreviewRow) : PreviewTotals :=
  { totals with
    settledJobs := totals.settledJobs + row.settledJobs
    grossHalala := totals.grossHalala + row.grossHalala
    platformFeeHalala := totals.platformFeeHalala + row.platformFeeHalala
    providerNetHalala := totals.providerNetHalala + row.providerNetHalala }

def previewTotals (providers : List PreviewRow) : PreviewTotals :=
  providers.foldl addRow ⟨providers.length, 0, 0, 0, 0⟩

def buildProviderSettlementPreview (db : Database) (windowStart windowEnd : Option Int)
    (providerId : Option Nat) : Except String Preview := do
  let startIso ← assertIso windowStart "windowStart"
  let endIso ← assertIso windowEnd "windowEnd"
  if endIso < startIso then
    .error "windowStart must be <= windowEnd"
  else
    let rows := (exportedRows db startIso endIso).filter (fun row =>
      providerId = none ∨ row.providerId = providerId)
    let providers := previewRows rows
    let totals := previewTotals providers
    let split := totals.platformFeeHalala + totals.providerNetHalala
    .ok {
      windowStart := startIso
      windowEnd := endIso
      providers := providers
      totals := totals
      grossEqualsSplit := totals.grossHalala = split
      deltaHalala := totals.grossHalala - split }

def PayoutBatch.covered (batch : PayoutBatch) : List (Nat × Int) :=
  batch.entries.map (fun entry => (entry.providerId, entry.amountHalala)) ++
    batch.skipped.map (fun skipped => (skipped.providerId, skipped.amountHalala))

def Preview.owed (preview : Preview) : List (Nat × Int) :=
  (preview.providers.filter (fun row => 0 < row.providerNetHalala)).map
    (fun row => (row.providerId, row.providerNetHalala))

def JobSettlement.IsSplit (row : JobSettlement) : Prop :=
  splitFee row.grossAmountHalala = (row.platformFeeHalala, row.providerPayoutHalala)

structure Matches (rows : List JobSettlement) (preview : Preview) (batch : PayoutBatch) : Prop where
  owed : preview.owed.Perm batch.covered
  once : (batch.covered.map Prod.fst).Nodup
  ledger : batch.ledgerHalala = batch.coveredHalala + batch.skippedHalala
  exported : batch.exportedHalala = batch.coveredHalala
  splits : (∀ row ∈ rows, row.IsSplit) →
    (∀ row ∈ preview.providers, row.grossHalala = row.platformFeeHalala + row.providerNetHalala) ∧
      preview.totals.grossHalala =
        preview.totals.platformFeeHalala + preview.totals.providerNetHalala

variable {db : Database} {rows : List JobSettlement} {startIso endIso : Int}

def SourceRow.pair (row : SourceRow) : Nat × Int :=
  (row.providerId, row.payoutHalala)

def Tally.covered (tally : Tally) : List (Nat × Int) :=
  tally.entries.map (fun entry => (entry.providerId, entry.amountHalala)) ++
    tally.skipped.map (fun skipped => (skipped.providerId, skipped.amountHalala))

/-- What the ledger total counts is covered or skipped. -/
def Tally.Balanced (tally : Tally) : Prop :=
  tally.ledgerTotalHalala = tally.coveredTotalHalala + (tally.skipped.map Skipped.amountHalala).sum

theorem exportRow_covered (db : Database) (currency : String) (tally : Tally) (row : SourceRow) :
    (exportRow db currency tally row).covered.Perm (tally.covered ++ [row].filterMap (fun row =>
      if 0 < row.payoutHalala then some row.pair else none)) := by
  by_cases positive : 0 < row.payoutHalala
  · rw [exportRow, if_neg (not_le.mpr positive)]
    cases ibanLookup db row.providerId with
    | none => simp [Tally.covered, positive, SourceRow.pair]
    | some iban =>
      simp only [Tally.covered, map_append, append_assoc]
      apply List.Perm.append_left
      simpa [positive, SourceRow.pair] using
        (perm_append_singleton (row.providerId, row.payoutHalala)
          (tally.skipped.map (fun skipped => (skipped.providerId, skipped.amountHalala)))).symm
  · rw [exportRow, if_pos (not_lt.mp positive)]
    simp [positive]

theorem exportRow_balanced {currency : String} {tally : Tally} (balanced : tally.Balanced)
    (row : SourceRow) : (exportRow db currency tally row).Balanced := by
  rw [exportRow]
  split
  · exact balanced
  · unfold Tally.Balanced at balanced ⊢
    split
    · simp only [map_append, sum_append, map_cons, map_nil, sum_singleton]
      omega
    · simp only
      omega

theorem exportRows_spec (db : Database) (currency : String) {source : List SourceRow} :
    ∀ {tally : Tally}, tally.Balanced → (source.foldl (exportRow db currency) tally).Balanced ∧
      (source.foldl (exportRow db currency) tally).covered.Perm
        (tally.covered ++ source.filterMap (fun row =>
          if 0 < row.payoutHalala then some row.pair else none)) := by
  induction source with
  | nil =>
    intro tally balanced
    exact ⟨balanced, by simp⟩
  | cons row rest ih =>
    intro tally balanced
    obtain ⟨later, covers⟩ := ih (exportRow_balanced balanced row)
    refine ⟨later, covers.trans ?_⟩
    have first := (exportRow_covered db currency tally row).append_right
      (rest.filterMap (fun row => if 0 < row.payoutHalala then some row.pair else none))
    rw [append_assoc, ← filterMap_append] at first
    exact first

def providersOf (rows : List JobSettlement) : List Nat :=
  (rows.filterMap JobSettlement.providerId).dedup.insertionSort (fun first second => first ≤ second)

theorem providersOf_nodup (rows : List JobSettlement) : (providersOf rows).Nodup :=
  (perm_insertionSort _ _).nodup_iff.mpr (nodup_dedup _)

def owedBy (rows : List JobSettlement) : List (Nat × Int) :=
  ((providersOf rows).filter (fun providerId => 0 < payoutOf rows providerId)).map
    (fun providerId => (providerId, payoutOf rows providerId))

theorem owedBy_nodup (rows : List JobSettlement) : ((owedBy rows).map Prod.fst).Nodup := by
  have names : (owedBy rows).map Prod.fst =
      (providersOf rows).filter (0 < payoutOf rows ·) := by
    simp [owedBy, Function.comp_def]
  rw [names]
  exact (providersOf_nodup rows).filter _

theorem previewRows_owed (rows : List JobSettlement) :
    ((previewRows rows).filter (fun row => 0 < row.providerNetHalala)).map
      (fun row => (row.providerId, row.providerNetHalala)) = owedBy rows := by
  rw [previewRows, filter_map, map_map]
  rfl

theorem sourceRows_owed (rows : List JobSettlement) :
    (sourceRows rows).filterMap (fun row =>
      if 0 < row.payoutHalala then some row.pair else none) = owedBy rows := by
  rw [sourceRows, filterMap_map]
  change (providersOf rows).filterMap _ = _
  rw [owedBy]
  induction providersOf rows with
  | nil => simp
  | cons providerId rest ih =>
    by_cases positive : 0 < payoutOf rows providerId
    · simpa [positive, SourceRow.pair] using ih
    · simpa [positive] using ih

theorem sum_splits {rows : List JobSettlement} (split : ∀ row ∈ rows, row.IsSplit) :
    (rows.map JobSettlement.grossAmountHalala).sum =
      (rows.map JobSettlement.platformFeeHalala).sum +
        (rows.map JobSettlement.providerPayoutHalala).sum := by
  rw [← sum_map_add]
  apply congrArg sum
  apply map_congr_left
  intro row member
  have parts := Prod.mk.inj (split row member)
  omega

theorem previewRow_splits (split : ∀ row ∈ rows, row.IsSplit) (providerId : Nat) :
    (previewRow rows providerId).grossHalala = (previewRow rows providerId).platformFeeHalala +
      (previewRow rows providerId).providerNetHalala :=
  sum_splits (fun row member => split row (mem_filter.mp member).1)

theorem foldl_splits {providers : List PreviewRow} (split : ∀ row ∈ providers,
    row.grossHalala = row.platformFeeHalala + row.providerNetHalala) :
    ∀ {totals : PreviewTotals},
      totals.grossHalala = totals.platformFeeHalala + totals.providerNetHalala →
        (providers.foldl addRow totals).grossHalala =
          (providers.foldl addRow totals).platformFeeHalala +
            (providers.foldl addRow totals).providerNetHalala := by
  induction providers with
  | nil =>
    intro totals same
    exact same
  | cons row rest ih =>
    intro totals same
    apply ih (fun other member => split other (mem_cons_of_mem _ member))
    have here := split row mem_cons_self
    simp only [addRow]
    omega

theorem preview_of_ordered (db : Database) (ordered : startIso ≤ endIso) :
    ∃ preview, buildProviderSettlementPreview db (some startIso) (some endIso) none = .ok preview ∧
      preview.windowStart = startIso ∧ preview.windowEnd = endIso ∧
      preview.providers = previewRows (exportedRows db startIso endIso) ∧
      preview.totals = previewTotals (previewRows (exportedRows db startIso endIso)) := by
  change ∃ preview, (if endIso < startIso then
      Except.error "windowStart must be <= windowEnd"
    else _) = _ ∧ _
  rw [if_neg (not_lt.mpr ordered)]
  refine ⟨_, rfl, rfl, rfl, ?_⟩
  simp

theorem batch_of_ordered (ordered : startIso ≤ endIso) (currency : String) (now : Int) :
    ∃ batch, generateProviderPayoutBatch db (some startIso) (some endIso) currency now = .ok batch ∧
      batch.covered.Perm (owedBy (exportedRows db startIso endIso)) ∧
      batch.ledgerHalala = batch.coveredHalala + batch.skippedHalala ∧
      batch.exportedHalala = batch.coveredHalala := by
  obtain ⟨balanced, covers⟩ := @exportRows_spec db currency
    (sourceRows (exportedRows db startIso endIso)) Tally.start rfl
  rw [sourceRows_owed] at covers
  obtain ⟨batch, built⟩ := @batch_built db startIso endIso ordered currency now
  refine ⟨batch, built, ?_⟩
  have guarded := built
  change (if endIso < startIso then
      Except.error "windowStart must be <= windowEnd"
    else _) = _ at guarded
  rw [if_neg (not_lt.mpr ordered)] at guarded
  split at guarded
  · cases guarded
  · rename_i totals
    cases guarded
    refine ⟨List.Perm.trans ?_ covers, balanced, not_not.mp totals⟩
    exact ((perm_insertionSort _ _).map _).append_right _

/-- A preview and a batch of one window fail alike, or agree. -/
theorem preview_matches_batch (db : Database) (windowStart windowEnd : Option Int)
    (currency : String) (now : Int) :
    match buildProviderSettlementPreview db windowStart windowEnd none,
      generateProviderPayoutBatch db windowStart windowEnd currency now with
    | .ok preview, .ok batch =>
      Matches (exportedRows db preview.windowStart preview.windowEnd) preview batch
    | .error first, .error second => first = second
    | _, _ => False := by
  cases windowStart with
  | none => rfl
  | some startIso =>
    cases windowEnd with
    | none => rfl
    | some endIso =>
      by_cases ordered : startIso ≤ endIso
      · obtain ⟨batch, built, covers, balanced, exported⟩ :=
          @batch_of_ordered db startIso endIso ordered currency now
        obtain ⟨preview, previewed, start, finish, providers, totals⟩ :=
          preview_of_ordered db ordered
        rw [built, previewed]
        simp only [start, finish]
        refine ⟨?_, ?_, balanced, exported, ?_⟩
        · rw [Preview.owed, providers, previewRows_owed]
          exact covers.symm
        · exact (covers.map Prod.fst).nodup_iff.mpr (owedBy_nodup _)
        · intro split
          rw [totals, providers]
          have rowsSplit : ∀ row ∈ previewRows (exportedRows db startIso endIso),
              row.grossHalala = row.platformFeeHalala + row.providerNetHalala := by
            intro row member
            obtain ⟨providerId, -, rfl⟩ := mem_map.mp member
            exact previewRow_splits split providerId
          exact ⟨rowsSplit, foldl_splits rowsSplit rfl⟩
      · have late := not_le.mp ordered
        change match (if endIso < startIso then
              Except.error "windowStart must be <= windowEnd" else _ : Except String Preview),
            (if endIso < startIso then
              Except.error "windowStart must be <= windowEnd" else _ : Except String PayoutBatch)
          with
          | .ok preview, .ok batch => _
          | .error first, .error second => first = second
          | _, _ => False
        rw [if_pos late, if_pos late]

end DcpPlatform.PayoutBatches
