import DcpPlatform.Payouts.OneDoor

/-!
# What a provider is told about its earnings

The summary splits the earnings into what is available, what is on hold in
open requests and what was paid. A hold has already left the claimable
earnings, and the summary takes it off once more, as a payout request does.
-/

namespace DcpPlatform.Payouts

open Foundation

structure EarningsSummary where
  providerId : ProviderId
  availableHalala : Int
  availableSar : ℚ
  availableUsd : ℚ
  pendingHalala : Int
  pendingSar : ℚ
  pendingUsd : ℚ
  paidHalala : Int
  paidSar : ℚ
  paidUsd : ℚ
  minimumPayoutUsd : ℚ
  minimumPayoutSar : ℚ

def toSar (halala : Int) : ℚ :=
  toFixed2 (halala / halalaPerSar)

def toUsd (halala : Int) : ℚ :=
  toFixed2 (halala / (halalaPerSar * usdToSar))

def paidHalala (db : Database) (providerId : ProviderId) : Int :=
  db.payoutRequests.total (paidPayout providerId)

def getEarningsSummary (db : Database) (providerId : ProviderId) :
    Option EarningsSummary :=
  (db.activeProvider providerId).map (fun provider =>
    let claimableHalala := provider.claimableEarningsHalala
    let pendingHalala := pendingHoldsHalala db providerId
    let paidHalala := paidHalala db providerId
    let availableHalala := max 0 (claimableHalala - pendingHalala)
    { providerId := providerId
      availableHalala := availableHalala
      availableSar := toSar availableHalala
      availableUsd := toUsd availableHalala
      pendingHalala := pendingHalala
      pendingSar := toSar pendingHalala
      pendingUsd := toUsd pendingHalala
      paidHalala := paidHalala
      paidSar := toSar paidHalala
      paidUsd := toUsd paidHalala
      minimumPayoutUsd := minPayoutUsd
      minimumPayoutSar := minPayoutUsd * usdToSar })

variable {db : Database} {providerId : ProviderId}

theorem held_eq_pending_add_paid :
    held db providerId = pendingHoldsHalala db providerId + paidHalala db providerId := by
  unfold held pendingHoldsHalala paidHalala Table.total
  rw [← List.sum_map_add]
  congr 1
  apply List.map_congr_left
  intro row _
  by_cases owned : row.providerId = providerId
  · cases status : row.status
    all_goals simp [heldAmount, paidPayout, owned, status]
  · simp [heldAmount, paidPayout, owned]

theorem requestPayout_accepted_iff {provider : Provider} {id : PayoutId}
    {now : Timestamp} {amount : ℚ}
    (active : db.activeProvider providerId = some provider)
    (least : minPayoutUsd ≤ amount) :
    (∃ later, requestPayout db id now providerId (some amount) = .ok later) ↔ payoutHalala amount ≤
      max 0 (provider.claimableEarningsHalala - pendingHoldsHalala db providerId) := by
  have positive : 0 < amount := lt_of_lt_of_le (by norm_num [minPayoutUsd]) least
  constructor
  · rintro ⟨⟨later, row⟩, succeeded⟩
    obtain ⟨given, same, takes⟩ := requestPayout_takes succeeded
    obtain ⟨_, _, _, _, _, ⟨stored, found, available⟩, _⟩ := requestPayout_eq_ok succeeded
    rw [Database.activeProvider_eq_some active] at found
    cases found
    cases same
    rw [← takes]
    exact available
  · intro available
    unfold payoutHalala at available
    unfold requestPayout
    simp only [orFail, require, positive, least, active, available, if_true, bind, Except.bind]
    exact ⟨_, rfl⟩

/-- In every state of every interleaving the open and the paid requests of a
provider are reported, and what is available is what it has earned less what
was paid and twice what is on hold. This is what can be requested next, and
the three add up to the earnings exactly when nothing is on hold or nothing is
left to claim. -/
theorem payout_buckets {start finish : System} {actions : List Action}
    (initial : start.Initial) (run : Run (Fires next) start actions finish)
    {provider : Provider}
    (active : finish.db.activeProvider providerId = some provider) :
    ∃ summary, getEarningsSummary finish.db providerId = some summary ∧
      summary.pendingHalala = pendingHoldsHalala finish.db providerId ∧
      summary.paidHalala = paidHalala finish.db providerId ∧
      summary.availableHalala =
        max 0 (finish.earned providerId - summary.paidHalala - 2 * summary.pendingHalala) ∧
      (summary.availableHalala + summary.pendingHalala + summary.paidHalala =
        finish.earned providerId ↔
        summary.pendingHalala = 0 ∨
          finish.earned providerId = summary.pendingHalala + summary.paidHalala) ∧
      ∀ id now amount, minPayoutUsd ≤ amount →
        ((∃ later, requestPayout finish.db id now providerId (some amount) = .ok later) ↔
          payoutHalala amount ≤ summary.availableHalala) := by
  have balanced : Balanced finish := run.invariant Balanced balanced_step (balanced_initial initial)
  have conserved := balanced.conserved providerId
  have covered := balanced.covered providerId
  have pending := pendingHolds_nonneg (fun row member => (balanced.sound row member).1) providerId
  rw [held_eq_pending_add_paid] at conserved
  rw [claimable_of_found (Database.activeProvider_eq_some active)] at conserved covered
  refine ⟨_, congrArg _ active, rfl, rfl, ?_, ?_, ?_⟩
  · dsimp only
    congr 1
    omega
  · dsimp only
    omega
  · intro id now amount least
    exact requestPayout_accepted_iff active least

def heldSystem : System :=
  { sampleSystem with
    db := { sampleSystem.db with
      providers := fun providerId =>
        if providerId = 1 then some ⟨100000, false, none, none⟩ else none }
    earned := fun providerId => if providerId = 1 then 100000 else 0 }

theorem heldSystem_initial : heldSystem.Initial where
  noRequests := rfl
  noCreating := rfl
  noFetching := rfl
  noDisbursements := rfl
  noneReturned := rfl
  claimable := by
    intro providerId provider found
    by_cases known : providerId = 1
    · simp only [heldSystem, if_pos known, Option.some.injEq] at found
      simp [heldSystem, known, ← found]
    · simp [heldSystem, known] at found
  noProvider := by
    intro providerId missing
    by_cases known : providerId = 1
    · simp [heldSystem, known] at missing
    · simp [heldSystem, known]

theorem payout_buckets_sample :
    ∃ finish, execute next heldSystem [.requestPayout 7 0 1 (some 50)] = some finish ∧
      ∃ summary, getEarningsSummary finish.db 1 = some summary ∧ summary.availableHalala =
        max 0 (finish.earned 1 - summary.paidHalala - 2 * summary.pendingHalala) := by
  refine exists_executed (fun finish => (finish.db.activeProvider 1).isSome = true)
    (by decide +kernel) ?_
  intro finish executed active
  obtain ⟨provider, found⟩ := Option.isSome_iff_exists.mp active
  obtain ⟨summary, reported, _, _, available, _⟩ :=
    payout_buckets heldSystem_initial (run_of_execute executed) found
  exact ⟨summary, reported, available⟩

/-- With 1000 SAR earned and 187.50 SAR on hold, the three buckets add up to
812.50 SAR, and of the 812.50 SAR that are left 625 SAR can be requested. -/
theorem held_counted_twice :
    heldSystem.Initial ∧ ∃ finish,
      execute next heldSystem [.requestPayout 7 0 1 (some 50)] = some finish ∧
        (∃ summary ∈ getEarningsSummary finish.db 1,
          summary.availableHalala + summary.pendingHalala + summary.paidHalala ≠ finish.earned 1) ∧
        payoutHalala 200 ≤
          finish.earned 1 - pendingHoldsHalala finish.db 1 - paidHalala finish.db 1 ∧
        minPayoutUsd ≤ 200 ∧
        ¬ ∃ later, requestPayout finish.db 8 1 1 (some 200) = .ok later := by
  refine ⟨heldSystem_initial, ?_⟩
  refine exists_executed (fun finish =>
    (∃ summary ∈ getEarningsSummary finish.db 1,
      summary.availableHalala + summary.pendingHalala + summary.paidHalala ≠ finish.earned 1) ∧
    payoutHalala 200 ≤ finish.earned 1 - pendingHoldsHalala finish.db 1 - paidHalala finish.db 1 ∧
    minPayoutUsd ≤ 200 ∧
    ∃ provider ∈ finish.db.activeProvider 1, ¬ payoutHalala 200 ≤
      max 0 (provider.claimableEarningsHalala - pendingHoldsHalala finish.db 1))
    (by decide +kernel) ?_
  rintro finish _ ⟨apart, within, least, provider, active, tooMuch⟩
  refine ⟨apart, within, least, ?_⟩
  rw [requestPayout_accepted_iff active least]
  exact tooMuch

end DcpPlatform.Payouts
