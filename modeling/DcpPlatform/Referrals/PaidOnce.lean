import DcpPlatform.Foundation.Transition
import DcpPlatform.Referrals.Bonuses

/-!
# One bonus for a day

When the referral job pays every referral once for every finished day on which
it was active, for every schedule of runs.
-/

namespace DcpPlatform.Referrals

open Foundation Table List

/-- The part of a referral that the job never changes. -/
def Referral.bare (referral : Referral) : Referral :=
  { referral with status := .active, total_bonus_halala := 0 }

theorem Referral.expire_bare (now : ℤ) (referral : Referral) :
    (referral.expire now).bare = referral.bare := by
  unfold Referral.expire
  split <;> rfl

theorem Referral.expire_total (now : ℤ) (referral : Referral) :
    (referral.expire now).total_bonus_halala =
      referral.total_bonus_halala := by
  unfold Referral.expire
  split <;> rfl

theorem pastWindow_of_bare {first second : Referral} (same : first.bare = second.bare) (now : ℤ) :
    first.PastWindow now ↔ second.PastWindow now := by
  have expires : first.expires_at = second.expires_at := by
    simpa [Referral.bare] using congrArg Referral.expires_at same
  rw [Referral.PastWindow, Referral.PastWindow, expires]

theorem Referral.PastWindow.later {referral : Referral} {now later : ℤ}
    (past : referral.PastWindow now) (ordered : now ≤ later) :
    referral.PastWindow later := by
  obtain ⟨expires_at, expires, before⟩ := past
  exact ⟨expires_at, expires, by omega⟩

def paidSum (journal : List Payment) (selected : Payment → Prop) [DecidablePred selected] : ℤ :=
  ((journal.filter (fun payment => selected payment)).map Payment.amount).sum

theorem paidSum_concat (journal : List Payment) (payment : Payment)
    (selected : Payment → Prop) [DecidablePred selected] :
    paidSum (journal ++ [payment]) selected = paidSum journal selected +
      if selected payment then payment.amount else 0 := by
  by_cases chosen : selected payment <;> simp [paidSum, chosen]

theorem paidSum_of_none {journal : List Payment}
    {selected : Payment → Prop} [DecidablePred selected]
    (outside : ∀ payment ∈ journal, ¬ selected payment) :
    paidSum journal selected = 0 := by
  have empty : journal.filter (selected ·) = [] := by
    rw [filter_eq_nil_iff]
    intro payment member
    simpa using outside payment member
  rw [paidSum, empty]
  rfl

structure Balanced (start database : Database) : Prop where
  referral : ∀ id row, database.referrals.lookup id = some row →
    row.total_bonus_halala = paidSum database.journal (fun payment => payment.referral_id = id)
  referrer : ∀ id provider, start.providers.lookup id = some provider →
    ∃ later, database.providers.lookup id = some later ∧ later.referral_earnings_halala.getD 0 =
      provider.referral_earnings_halala.getD 0 +
        paidSum database.journal (fun payment => payment.referrer_id = id) ∧
      later.total_earnings_halala.getD 0 = provider.total_earnings_halala.getD 0 +
        paidSum database.journal (fun payment => payment.referrer_id = id)

section Job

variable {earnings : Earnings}

variable (earnings) in
def pays (yesterday : ℤ) (referral : Referral) : List Payment :=
  if bonusFor earnings referral yesterday ≤ 0 then
    []
  else
    [⟨referral.id, referral.referrer_id, yesterday, bonusFor earnings referral yesterday⟩]

variable {first second row : Referral}

theorem bonusFor_of_bare (same : first.bare = second.bare) (day : ℤ) :
    bonusFor earnings first day = bonusFor earnings second day := by
  have referred : first.referred_id = second.referred_id := by
    simpa [Referral.bare] using congrArg Referral.referred_id same
  have percent : first.bonus_pct = second.bonus_pct := by
    simpa [Referral.bare] using congrArg Referral.bonus_pct same
  rw [bonusFor, bonusFor, referred, percent]

variable (yesterday : ℤ)

theorem creditReferral_journal (database : Database) (referral : Referral) :
    (creditReferral earnings yesterday database referral).journal =
      database.journal ++ pays earnings yesterday referral := by
  by_cases nothing : bonusFor earnings referral yesterday ≤ 0
  · simp [creditReferral, pays, nothing]
  · simp [creditReferral, pays, nothing]

theorem creditReferral_bare (database : Database) (referral : Referral) (id : Nat) :
    ((creditReferral earnings yesterday database referral).referrals.lookup id).map
      (fun row => (row.status, row.bare)) =
      (database.referrals.lookup id).map (fun row => (row.status, row.bare)) := by
  by_cases nothing : bonusFor earnings referral yesterday ≤ 0
  · rw [creditReferral, if_pos nothing]
  · simp only [creditReferral, if_neg nothing, lookup_update]
    split
    · rw [Option.map_map]
      rfl
    · rfl

theorem creditReferral_clock (database : Database) (referral : Referral) :
    (creditReferral earnings yesterday database referral).clock = database.clock ∧
      (creditReferral earnings yesterday database referral).runs =
        database.runs := by
  by_cases nothing : bonusFor earnings referral yesterday ≤ 0
  · rw [creditReferral, if_pos nothing]
    exact ⟨rfl, rfl⟩
  · rw [creditReferral, if_neg nothing]
    exact ⟨rfl, rfl⟩

variable {start database after : Database}

theorem balanced_creditReferral
    (balanced : Balanced start database) (yesterday : ℤ) (referral : Referral) :
    Balanced start (creditReferral earnings yesterday database referral) := by
  by_cases nothing : bonusFor earnings referral yesterday ≤ 0
  · rw [creditReferral, if_pos nothing]
    exact balanced
  · rw [creditReferral, if_neg nothing]
    constructor
    case referral =>
      intro id row found
      rw [paidSum_concat]
      obtain ⟨same, earlier, foundEarlier, changed⟩ | ⟨other, unchanged⟩ :=
        lookup_of_lookup_update (Referral.addBonus_id _) found
      · rw [changed, if_pos same.symm, Referral.addBonus, balanced.referral id earlier foundEarlier]
      · rw [if_neg (other ·.symm), add_zero]
        exact balanced.referral id row unchanged
    case referrer =>
      intro id provider found
      obtain ⟨later, foundLater, referralPart, totalPart⟩ := balanced.referrer id provider found
      simp only [paidSum_concat, lookup_update]
      by_cases same : id = referral.referrer_id
      · rw [if_pos same, if_pos same, if_pos same.symm, foundLater]
        refine ⟨_, rfl, ?_, ?_⟩
        · simp only [Provider.addTotalEarnings, Provider.addReferralEarnings, Option.getD_some]
          omega
        · simp only [Provider.addTotalEarnings, Provider.addReferralEarnings, Option.getD_some]
          omega
      · rw [if_neg same, if_neg same, if_neg (same ·.symm), add_zero]
        exact ⟨later, foundLater, referralPart, totalPart⟩

variable (referrals : List Referral)

theorem foldl_creditReferral_journal (database : Database) :
    (referrals.foldl (creditReferral earnings yesterday) database).journal =
      database.journal ++ referrals.flatMap (pays earnings yesterday) := by
  induction referrals generalizing database with
  | nil => simp
  | cons referral rest ih =>
    rw [foldl_cons, ih, creditReferral_journal, flatMap_cons, append_assoc]

theorem foldl_creditReferral_bare (database : Database) (id : Nat) :
    ((referrals.foldl (creditReferral earnings yesterday) database).referrals.lookup id).map
      (fun row => (row.status, row.bare)) =
      (database.referrals.lookup id).map (fun row => (row.status, row.bare)) := by
  induction referrals generalizing database with
  | nil => rfl
  | cons referral rest ih =>
    rw [foldl_cons, ih, creditReferral_bare]

theorem foldl_creditReferral_clock (database : Database) :
    (referrals.foldl (creditReferral earnings yesterday) database).clock = database.clock ∧
      (referrals.foldl (creditReferral earnings yesterday) database).runs =
        database.runs := by
  induction referrals generalizing database with
  | nil => exact ⟨rfl, rfl⟩
  | cons referral rest ih =>
    obtain ⟨clock, runs⟩ := @creditReferral_clock earnings yesterday database referral
    rw [foldl_cons, (ih _).1, (ih _).2, clock, runs]
    exact ⟨rfl, rfl⟩

variable {database : Database}

theorem balanced_foldl (balanced : Balanced start database) :
    Balanced start (referrals.foldl (creditReferral earnings yesterday) database) := by
  induction referrals generalizing database with
  | nil => exact balanced
  | cons referral rest ih =>
    exact ih (balanced_creditReferral balanced yesterday referral)

theorem filter_flatMap_pays (id : Nat) (day : ℤ) :
    (referrals.flatMap (pays earnings yesterday)).filter
      (fun payment => payment.referral_id = id ∧ payment.day = day) =
      if day = yesterday then
        (referrals.filter (fun referral => referral.id = id)).flatMap (pays earnings yesterday)
      else
        [] := by
  induction referrals with
  | nil => simp
  | cons referral rest ih =>
    rw [flatMap_cons, filter_append, ih]
    by_cases same : day = yesterday
    · by_cases sameId : referral.id = id
      · by_cases nothing : bonusFor earnings referral yesterday ≤ 0 <;> simp [pays, same, sameId]
      · by_cases nothing : bonusFor earnings referral yesterday ≤ 0 <;> simp [pays, sameId]
    · have different : yesterday ≠ day := fun equal => same equal.symm
      by_cases nothing : bonusFor earnings referral yesterday ≤ 0
      · simp [pays, nothing, same]
      · simp [pays, same, different]

/-! ## What a run pays -/

def paidRuns (runs : List ℤ) (referral : Referral) (day : ℤ) : Nat :=
  runs.countP (fun now => dayOf now = day + 1 ∧ ¬ referral.PastWindow now)

theorem paidRuns_of_bare (same : first.bare = second.bare) (runs : List ℤ) (day : ℤ) :
    paidRuns runs first day = paidRuns runs second day := by
  unfold paidRuns
  congr 1
  funext now
  simp [pastWindow_of_bare same]

theorem paidRuns_concat (runs : List ℤ) (now : ℤ) (referral : Referral) (day : ℤ) :
    paidRuns (runs ++ [now]) referral day = paidRuns runs referral day +
      if dayOf now = day + 1 ∧ ¬ referral.PastWindow now then 1 else 0 := by
  rw [paidRuns, countP_append, countP_singleton]
  simp only [decide_eq_true_eq]
  rfl

def amountsOf (journal : List Payment) (id : Nat) (day : ℤ) : List ℤ :=
  (journal.filter (fun payment =>
    payment.referral_id = id ∧ payment.day = day)).map Payment.amount

variable (earnings) in
def paidFor (runs : List ℤ) (referral : Referral) (day : ℤ) : List ℤ :=
  if bonusFor earnings referral day ≤ 0 then
    []
  else
    List.replicate (paidRuns runs referral day) (bonusFor earnings referral day)

variable (earnings) in
structure Kept (start database : Database) : Prop where
  created : ∀ id row, database.referrals.lookup id = some row → row.created_at ≤ database.clock
  past : ∀ now ∈ database.runs, now ≤ database.clock
  status : ∀ id row, database.referrals.lookup id = some row →
    row.status = .active ∨ row.status = .expired ∧ row.PastWindow database.clock
  known : ∀ payment ∈ database.journal,
    ∃ row, database.referrals.lookup payment.referral_id = some row ∧
      ∀ expires_at, row.expires_at = some expires_at → payment.day < dayOf expires_at
  amounts : ∀ id row, database.referrals.lookup id = some row → ∀ day, dayOf row.created_at ≤ day →
    amountsOf database.journal id day = paidFor earnings database.runs row day
  balanced : Balanced start database

structure Opening (database : Database) : Prop where
  referrals : database.referrals = Table.empty
  journal : database.journal = []
  runs : database.runs = []

theorem kept_opening (opening : Opening start) :
    Kept earnings start start := by
  have absent : ∀ id, start.referrals.lookup id = none := by
    intro id
    rw [opening.referrals]
    rfl
  constructor
  case created =>
    intro id row found
    rw [absent] at found
    contradiction
  case past =>
    intro now member
    rw [opening.runs] at member
    contradiction
  case status =>
    intro id row found
    rw [absent] at found
    contradiction
  case known =>
    intro payment member
    rw [opening.journal] at member
    contradiction
  case amounts =>
    intro id row found
    rw [absent] at found
    contradiction
  case balanced =>
    constructor
    · intro id row found
      rw [absent] at found
      contradiction
    · intro id provider found
      refine ⟨provider, found, ?_⟩
      rw [opening.journal, paidSum_of_none (by simp), add_zero, add_zero]
      exact ⟨rfl, rfl⟩

theorem dayOf_mono {first second : ℤ} (ordered : first ≤ second) :
    dayOf first ≤ dayOf second :=
  Int.ediv_le_ediv (by decide) ordered

variable {now : ℤ}

theorem kept_apply {enrolment : Enrolment} (kept : Kept earnings start database)
    (fires : Fires (next earnings) database (.apply enrolment now) after) :
    Kept earnings start after := by
  simp only [Fires, next] at fires
  split at fires
  · next accepted =>
      obtain ⟨ordered, unknown, _⟩ := accepted
      have fresh : database.referrals.lookup (enrolment.row now).id = none := unknown
      rw [← Option.some.inj fires, insertIfNew_of_fresh fresh]
      have split : ∀ id row,
          (database.referrals.insert (enrolment.row now) fresh).lookup id = some row →
          id = enrolment.id ∧ row = enrolment.row now ∨
            database.referrals.lookup id = some row := by
        intro id row found
        rw [lookup_insert] at found
        split at found
        · next same => exact Or.inl ⟨same.symm, (Option.some.inj found).symm⟩
        · exact Or.inr found
      have unpaid : ∀ payment ∈ database.journal, payment.referral_id ≠ enrolment.id := by
        intro payment member same
        obtain ⟨row, found, _⟩ := kept.known payment member
        rw [same, unknown] at found
        contradiction
      constructor
      case created =>
        intro id row found
        obtain ⟨_, rfl⟩ | earlier := split id row found
        · exact le_refl now
        · exact (kept.created id row earlier).trans ordered
      case past =>
        intro time member
        exact (kept.past time member).trans ordered
      case status =>
        intro id row found
        obtain ⟨_, rfl⟩ | earlier := split id row found
        · exact Or.inl rfl
        · exact (kept.status id row earlier).imp_right
            (fun expired => ⟨expired.1, expired.2.later ordered⟩)
      case known =>
        intro payment member
        obtain ⟨row, found, before⟩ := kept.known payment member
        exact ⟨row, lookup_insert_of_some _ fresh found, before⟩
      case amounts =>
        intro id row found day active
        obtain ⟨rfl, rfl⟩ | earlier := split id row found
        · have none_paid : amountsOf database.journal enrolment.id day = [] := by
            rw [amountsOf, map_eq_nil_iff, filter_eq_nil_iff]
            intro payment member
            have other := unpaid payment member
            simp [other]
          have none_ran : paidRuns database.runs (enrolment.row now) day = 0 := by
            rw [paidRuns, countP_eq_zero]
            intro time member
            have earlier : dayOf time ≤ dayOf now :=
              dayOf_mono ((kept.past time member).trans ordered)
            have created : dayOf now ≤ day := active
            have notAfter : dayOf time ≠ day + 1 := by omega
            simp [notAfter]
          rw [none_paid, paidFor, none_ran]
          split <;> rfl
        · exact kept.amounts id row earlier day active
      case balanced =>
        constructor
        · intro id row found
          obtain ⟨rfl, rfl⟩ | earlier := split id row found
          · exact (paidSum_of_none unpaid).symm
          · exact kept.balanced.referral id row earlier
        · exact kept.balanced.referrer
  · contradiction

theorem lookup_runJob_bare (database : Database) (now : ℤ) (id : Nat) :
    ((runJob earnings now database).referrals.lookup id).map (fun row => (row.status, row.bare)) =
      (database.referrals.lookup id).map (fun row => ((row.expire now).status, row.bare)) := by
  rw [runJob, foldl_creditReferral_bare]
  simp only [lookup_updateAll, Option.map_map]
  congr 1
  funext row
  simp [Referral.expire_bare]

theorem lookup_runJob {id : Nat}
    (found : (runJob earnings now database).referrals.lookup id = some row) :
    ∃ earlier, database.referrals.lookup id = some earlier ∧
      row.bare = earlier.bare ∧ row.status = (earlier.expire now).status := by
  have kept := @lookup_runJob_bare earnings database now id
  rw [found] at kept
  obtain ⟨earlier, looked, same⟩ := Option.map_eq_some_iff.mp kept.symm
  exact ⟨earlier, looked, (congrArg Prod.snd same).symm, (congrArg Prod.fst same).symm⟩

theorem lookup_runJob_of_some (now : ℤ) {id : Nat}
    {earlier : Referral} (found : database.referrals.lookup id = some earlier) :
    ∃ row, (runJob earnings now database).referrals.lookup id = some row ∧
      row.bare = earlier.bare := by
  have kept := @lookup_runJob_bare earnings database now id
  rw [found] at kept
  obtain ⟨row, looked, same⟩ := Option.map_eq_some_iff.mp kept
  exact ⟨row, looked, congrArg Prod.snd same⟩

theorem expire_active_iff {clock now : ℤ}
    (status : row.status = .active ∨ row.status = .expired ∧ row.PastWindow clock)
    (ordered : clock ≤ now) :
    (row.expire now).status = .active ↔ ¬ row.PastWindow now := by
  obtain active | ⟨expired, past⟩ := status
  · by_cases past : row.PastWindow now <;> simp [Referral.expire, active, past]
  · have later := past.later ordered
    simp [Referral.expire, expired, later]

theorem runJob_journal (database : Database) (now : ℤ) :
    (runJob earnings now database).journal = database.journal ++
      ((database.referrals.updateAll (Referral.expire now) (Referral.expire_id now)).rows.filter
        (fun row => row.status = .active)).flatMap (pays earnings (dayOf now - 1)) := by
  rw [runJob, foldl_creditReferral_journal]

theorem runJob_clock (database : Database) (now : ℤ) :
    (runJob earnings now database).clock = now ∧
      (runJob earnings now database).runs = database.runs ++ [now] := by
  obtain ⟨clock, runs⟩ := @foldl_creditReferral_clock earnings (dayOf now - 1)
    ((database.referrals.updateAll (Referral.expire now)
      (Referral.expire_id now)).rows.filter (·.status = .active))
    { database with
      referrals := database.referrals.updateAll (Referral.expire now) (Referral.expire_id now)
      runs := database.runs ++ [now]
      clock := now }
  exact ⟨clock, runs⟩

theorem amountsOf_runJob {id : Nat} (found : database.referrals.lookup id = some row)
    (status : row.status = .active ∨ row.status = .expired ∧ row.PastWindow database.clock)
    (ordered : database.clock ≤ now) (day : ℤ) :
    amountsOf (runJob earnings now database).journal id day = amountsOf database.journal id day ++
      if dayOf now = day + 1 ∧ ¬ row.PastWindow now ∧ 0 < bonusFor earnings row day then
        [bonusFor earnings row day]
      else
        [] := by
  have expired : (database.referrals.updateAll (Referral.expire now)
      (Referral.expire_id now)).lookup id = some (row.expire now) := by
    rw [lookup_updateAll, found]
    rfl
  have chosen : ((database.referrals.updateAll (Referral.expire now)
      (Referral.expire_id now)).rows.filter (·.status = .active)).filter (·.id = id) =
      if ¬ row.PastWindow now then [row.expire now] else [] := by
    rw [filter_filter]
    have one := filter_of_lookup expired (·.status = .active)
    simp only [expire_active_iff status ordered] at one
    rw [← one]
    congr 1
    funext other
    simp
  rw [amountsOf, runJob_journal, filter_append, map_append, filter_flatMap_pays, chosen]
  congr 1
  by_cases same : day = dayOf now - 1
  · have next_day : dayOf now = day + 1 := by omega
    rw [if_pos same]
    by_cases past : row.PastWindow now
    · simp [past]
    · have bonus : bonusFor earnings (row.expire now) day = bonusFor earnings row day :=
        bonusFor_of_bare (row.expire_bare now) day
      by_cases nothing : bonusFor earnings row day ≤ 0
      · have none_due : ¬ 0 < bonusFor earnings row day := by omega
        simp [past, pays, bonus, nothing, next_day]
      · have due : 0 < bonusFor earnings row day := by omega
        rw [if_pos past, if_pos ⟨next_day, past, due⟩,
          flatMap_singleton, ← same, pays, bonus, if_neg nothing]
        rfl
  · have other_day : dayOf now ≠ day + 1 := by omega
    simp [same, other_day]

theorem paidFor_concat (runs : List ℤ) (now : ℤ) (row : Referral) (day : ℤ) :
    paidFor earnings (runs ++ [now]) row day = paidFor earnings runs row day ++
      if dayOf now = day + 1 ∧ ¬ row.PastWindow now ∧ 0 < bonusFor earnings row day then
        [bonusFor earnings row day]
      else
        [] := by
  unfold paidFor
  by_cases nothing : bonusFor earnings row day ≤ 0
  · have none_due : ¬ 0 < bonusFor earnings row day := by omega
    simp [nothing]
  · have due : 0 < bonusFor earnings row day := by omega
    rw [if_neg nothing, if_neg nothing, paidRuns_concat]
    by_cases paid : dayOf now = day + 1 ∧ ¬ row.PastWindow now
    · rw [if_pos paid, if_pos ⟨paid.1, paid.2, due⟩, replicate_succ']
    · rw [if_neg paid, if_neg (fun all => paid ⟨all.1, all.2.1⟩), append_nil, add_zero]

theorem mem_runJob_journal {payment : Payment}
    (member : payment ∈ (runJob earnings now database).journal) :
    payment ∈ database.journal ∨ ∃ row, database.referrals.lookup payment.referral_id = some row ∧
      (row.expire now).status = .active ∧ payment.day = dayOf now - 1 := by
  rw [runJob_journal, mem_append] at member
  refine member.imp_right fun added => ?_
  obtain ⟨referral, chosen, entry⟩ := mem_flatMap.mp added
  obtain ⟨present, active⟩ := mem_filter.mp chosen
  obtain ⟨row, rowMember, rfl⟩ := mem_map.mp present
  unfold pays at entry
  split at entry
  · contradiction
  · rw [mem_singleton.mp entry]
    refine ⟨row, ?_, of_decide_eq_true active, rfl⟩
    rw [Referral.expire_id]
    exact lookup_of_mem rowMember

theorem kept_run (kept : Kept earnings start database) (ordered : database.clock ≤ now) :
    Kept earnings start (runJob earnings now database) := by
  obtain ⟨clock, runs⟩ := @runJob_clock earnings database now
  constructor
  case created =>
    intro id row found
    obtain ⟨earlier, looked, bare, _⟩ := lookup_runJob found
    have created : row.created_at = earlier.created_at := by
      simpa [Referral.bare] using congrArg Referral.created_at bare
    rw [clock, created]
    exact (kept.created id earlier looked).trans ordered
  case past =>
    intro time member
    rw [runs, mem_append, mem_singleton] at member
    rw [clock]
    obtain earlier | rfl := member
    · exact (kept.past time earlier).trans ordered
    · exact le_refl time
  case status =>
    intro id row found
    obtain ⟨earlier, looked, bare, status⟩ := lookup_runJob found
    rw [clock, pastWindow_of_bare bare, status]
    have before := kept.status id earlier looked
    by_cases past : earlier.PastWindow now
    · refine Or.inr ⟨?_, past⟩
      obtain active | ⟨expired, _⟩ := before
      · simp [Referral.expire, active, past]
      · simp [Referral.expire, expired]
    · exact Or.inl ((expire_active_iff before ordered).mpr past)
  case known =>
    intro payment member
    obtain earlier | ⟨row, found, active, day⟩ := mem_runJob_journal member
    · obtain ⟨row, found, before⟩ := kept.known payment earlier
      obtain ⟨later, looked, bare⟩ := @lookup_runJob_of_some earnings _ now _ _ found
      have expires : later.expires_at = row.expires_at := by
        simpa [Referral.bare] using congrArg Referral.expires_at bare
      refine ⟨later, looked, ?_⟩
      rw [expires]
      exact before
    · obtain ⟨later, looked, bare⟩ := @lookup_runJob_of_some earnings _ now _ _ found
      have expires : later.expires_at = row.expires_at := by
        simpa [Referral.bare] using congrArg Referral.expires_at bare
      refine ⟨later, looked, ?_⟩
      intro expires_at same
      have current := (expire_active_iff (kept.status _ row found) ordered).mp active
      have after : now ≤ expires_at := by
        by_contra before
        exact current ⟨expires_at, by rw [← expires, same], by omega⟩
      have days := dayOf_mono after
      omega
  case amounts =>
    intro id row found day active
    obtain ⟨earlier, looked, bare, _⟩ := lookup_runJob found
    have created : row.created_at = earlier.created_at := by
      simpa [Referral.bare] using congrArg Referral.created_at bare
    rw [created] at active
    have same : ∀ times, paidFor earnings times row day = paidFor earnings times earlier day := by
      intro times
      rw [paidFor, paidFor, bonusFor_of_bare bare, paidRuns_of_bare bare]
    rw [same, runs, paidFor_concat, ← kept.amounts id earlier looked day active]
    exact amountsOf_runJob looked (kept.status id earlier looked) ordered day
  case balanced =>
    refine balanced_foldl _ _ ?_
    constructor
    · intro id row found
      simp only [lookup_updateAll] at found
      obtain ⟨earlier, looked, rfl⟩ := Option.map_eq_some_iff.mp found
      rw [Referral.expire_total]
      exact kept.balanced.referral id earlier looked
    · exact kept.balanced.referrer

theorem kept_next {event : Event} (kept : Kept earnings start database)
    (fires : Fires (next earnings) database event after) :
    Kept earnings start after := by
  cases event with
  | apply enrolment now => exact kept_apply kept fires
  | run now =>
    simp only [Fires, next] at fires
    split at fires
    · next ordered =>
        rw [← Option.some.inj fires]
        exact kept_run kept ordered
    · contradiction

/-! ## The bonuses of a schedule -/

def Referral.ActiveOn (referral : Referral) (day : ℤ) : Prop :=
  dayOf referral.created_at ≤ day ∧
    ∀ expires_at, referral.expires_at = some expires_at → day ≤ dayOf expires_at

def Database.Finished (database : Database) (day : ℤ) : Prop :=
  ∃ now ∈ database.runs, day < dayOf now

variable (earnings) in
/-- The whole halala in the referral's percentage of a day's earnings. -/
def exactBonus (referral : Referral) (day : ℤ) : ℤ :=
  ⌊referral.bonus_pct * earnings.dayEarnings referral.referred_id day / 100⌋

variable (earnings) in
structure PaidOnce (start database : Database) : Prop where
  once : ∀ id row, database.referrals.lookup id = some row →
    ∀ day, database.Finished day → row.ActiveOn day → amountsOf database.journal id day =
      if 0 < exactBonus earnings row day then
        [exactBonus earnings row day]
      else
        []
  never : ∀ payment ∈ database.journal,
    ∃ row, database.referrals.lookup payment.referral_id = some row ∧
      ∀ expires_at, row.expires_at = some expires_at → payment.day ≤ dayOf expires_at
  totals : Balanced start database

variable (earnings) in
/-- One run of the next day finds the referral in its window, and the doubles
lose nothing of its bonus; a day without a bonus may have any runs. -/
def OneRun (runs : List ℤ) (referral : Referral) (day : ℤ) : Prop :=
  if 0 < exactBonus earnings referral day then
    paidRuns runs referral day = 1 ∧
      bonusFor earnings referral day = exactBonus earnings referral day
  else
    paidRuns runs referral day = 0 ∨ bonusFor earnings referral day ≤ 0

instance (runs : List ℤ) (referral : Referral) (day : ℤ) :
    Decidable (OneRun earnings runs referral day) := by
  unfold OneRun
  infer_instance

variable (earnings) in
def OneRunEach (database : Database) : Prop :=
  ∀ id row, database.referrals.lookup id = some row →
    ∀ day, database.Finished day → row.ActiveOn day → OneRun earnings database.runs row day

theorem paidFor_eq_iff (runs : List ℤ) (row : Referral) (day : ℤ) :
    paidFor earnings runs row day = (if 0 < exactBonus earnings row day then
          [exactBonus earnings row day]
        else
          []) ↔
      OneRun earnings runs row day := by
  unfold paidFor OneRun
  by_cases due : 0 < exactBonus earnings row day
  · rw [if_pos due, if_pos due]
    by_cases nothing : bonusFor earnings row day ≤ 0
    · rw [if_pos nothing]
      constructor
      · intro impossible
        contradiction
      · rintro ⟨_, same⟩
        omega
    · rw [if_neg nothing]
      constructor
      · intro same
        have one := congrArg length same
        rw [length_replicate, length_singleton] at one
        rw [one, replicate_one, singleton_inj] at same
        exact ⟨one, same⟩
      · rintro ⟨one, same⟩
        rw [one, same, replicate_one]
  · rw [if_neg due, if_neg due]
    by_cases nothing : bonusFor earnings row day ≤ 0
    · rw [if_pos nothing]
      simp [nothing]
    · rw [if_neg nothing, replicate_eq_nil_iff]
      simp [nothing]

/-- A schedule pays every bonus once exactly when one run follows each day of
each referral in its window. -/
theorem bonuses_paid_once_iff {start finish : Database}
    {events : List Event} (opening : Opening start)
    (run : Run (Fires (next earnings)) start events finish) :
    PaidOnce earnings start finish ↔ OneRunEach earnings finish := by
  have kept := run.invariant (Kept earnings start) kept_next (kept_opening opening)
  constructor
  · intro paid id row found day finished active
    have once := paid.once id row found day finished active
    rw [kept.amounts id row found day active.1] at once
    exact (paidFor_eq_iff _ row day).mp once
  · intro each
    constructor
    case once =>
      intro id row found day finished active
      rw [kept.amounts id row found day active.1]
      exact (paidFor_eq_iff _ row day).mpr (each id row found day finished active)
    case never =>
      intro payment member
      obtain ⟨row, found, before⟩ := kept.known payment member
      exact ⟨row, found, fun expires_at same =>
        (before expires_at same).le⟩
    case totals => exact kept.balanced

end Job

section Samples

def sampleStart : Database where
  referrals := Table.empty
  providers := Table.empty.put
    { id := 1, referral_earnings_halala := some 0, total_earnings_halala := some 500 }
  journal := []
  runs := []
  clock := 0

def sampleEarnings : Earnings where
  earnings_daily := some [⟨2, 0, 1000⟩, ⟨2, 2, 1999⟩]
  jobs := []

def sampleEnrolment : Enrolment where
  id := 1
  referrer_id := 1
  referred_id := 2
  bonus_pct := 5
  expires_at := some (30 * 86400)

def sampleRow (total : ℤ) : Referral :=
  { sampleEnrolment.row 100 with total_bonus_halala := total }

theorem sampleStart_opening : Opening sampleStart :=
  ⟨rfl, rfl, rfl⟩

theorem oneRunEach_of_sample {database : Database} {row : Referral}
    {last : ℤ} (rows : database.referrals.rows = [row])
    (runs : ∀ now ∈ database.runs, dayOf now ≤ last)
    (created : 0 ≤ dayOf row.created_at)
    (each :
      ∀ day ∈ (List.range last.toNat).map Int.ofNat, OneRun sampleEarnings database.runs row day) :
    OneRunEach sampleEarnings database := by
  intro id other found day finished active
  have member := lookup_mem found
  rw [rows, mem_singleton] at member
  obtain ⟨now, ran, before⟩ := finished
  have bound := runs now ran
  have nonneg : 0 ≤ day := created.trans (by
    rw [← member]
    exact active.1)
  rw [member]
  refine each day (mem_map.mpr ⟨day.toNat, ?_, ?_⟩)
  · rw [mem_range]
    omega
  · exact Int.toNat_of_nonneg nonneg

theorem bonuses_paid_once_sample :
    ∃ finish, execute (next sampleEarnings) sampleStart
      [.apply sampleEnrolment 100, .run 90000, .run 180000, .run 262800] = some finish ∧
        amountsOf finish.journal 1 0 = [50] ∧
        amountsOf finish.journal 1 2 = [99] ∧ PaidOnce sampleEarnings sampleStart finish := by
  refine exists_executed (fun finish =>
    amountsOf finish.journal 1 0 = [50] ∧ amountsOf finish.journal 1 2 = [99] ∧
      finish.referrals.rows = [sampleRow 149] ∧ (∀ now ∈ finish.runs, dayOf now ≤ 3) ∧
      ∀ day ∈ (range 3).map Int.ofNat, OneRun sampleEarnings finish.runs (sampleRow 149) day)
    (by decide +kernel) ?_
  rintro finish executed ⟨first, third, rows, runs, each⟩
  refine ⟨first, third, ?_⟩
  exact (bonuses_paid_once_iff sampleStart_opening
    (run_of_execute executed)).mpr (oneRunEach_of_sample rows runs (by decide) each)

/-- Two runs on one day pay its bonus twice, and a day whose next day has no
run is never paid. -/
theorem bonus_paid_twice_or_never :
    (∃ finish, execute (next sampleEarnings) sampleStart
      [.apply sampleEnrolment 100, .run 90000, .run 95000] =
      some finish ∧ ¬ PaidOnce sampleEarnings sampleStart finish) ∧
      ∃ finish, execute (next sampleEarnings) sampleStart
        [.apply sampleEnrolment 100, .run 180000] = some finish ∧
          ¬ PaidOnce sampleEarnings sampleStart finish := by
  constructor
  · refine exists_executed (fun finish =>
      finish.referrals.lookup 1 = some (sampleRow 100) ∧
        90000 ∈ finish.runs ∧ dayOf 100 ≤ 0 ∧ amountsOf finish.journal 1 0 = [50, 50])
      (by decide +kernel) ?_
    rintro finish executed ⟨found, finished, active, paid⟩
    intro once
    have due := once.once 1 _ found 0 ⟨90000, finished, by decide⟩ ⟨active, by rintro _ ⟨⟩; decide⟩
    rw [paid] at due
    revert due
    decide +kernel
  · refine exists_executed (fun finish =>
      finish.referrals.lookup 1 = some (sampleRow 0) ∧
        180000 ∈ finish.runs ∧ dayOf 100 ≤ 0 ∧ amountsOf finish.journal 1 0 = [])
      (by decide +kernel) ?_
    rintro finish _ ⟨found, finished, active, paid⟩
    intro once
    have due := once.once 1 _ found 0 ⟨180000, finished, by decide⟩ ⟨active, by rintro _ ⟨⟩; decide⟩
    rw [paid] at due
    revert due
    decide +kernel

end Samples

end DcpPlatform.Referrals
