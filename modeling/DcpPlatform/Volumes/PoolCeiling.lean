import DcpPlatform.Foundation.Transition
import DcpPlatform.Volumes.Effects

/-!
# The ceiling of the storage pool

A suspended volume does not count against the ceiling; the sweep reactivates
it without looking at the pool. `HasRoom` asks that the volumes it reactivates
fit beside the active ones that it does not suspend.
-/

namespace DcpPlatform.Volumes

open Foundation Table List

def WithinCeiling (db : Database) : Prop :=
  db.activePoolGb ≤ poolCeilingGb
deriving Decidable

def IsLive (volume : Volume) : Prop :=
  volume.status ≠ .released

def OneLiveEach (db : Database) : Prop :=
  ∀ first ∈ db.volumes.rows, ∀ second ∈ db.volumes.rows,
    IsLive first → IsLive second → first.renterId = second.renterId →
      first = second

def Reactivates (now : Int) (db : Database) (volume : Volume) : Prop :=
  volume.status = .suspended ∧ ¬ volume.HasLapsed now ∧ CanPay db volume
deriving Decidable

def Suspends (db : Database) (volume : Volume) : Prop :=
  volume.status = .active ∧ ¬ CanPay db volume
deriving Decidable

def sizeOf (volumes : List Volume) : Nat :=
  (volumes.map Volume.sizeGb).sum

def HasRoom (db : Database) : VolumeAction → Prop
  | .billRenterVolumes now =>
    db.activePoolGb + sizeOf ((dueVolumes db now).filter (fun volume =>
      Reactivates now db volume)) ≤
      poolCeilingGb + sizeOf ((dueVolumes db now).filter (fun volume =>
        Suspends db volume))
  | _ => True

instance (db : Database) : DecidablePred (HasRoom db)
  | .billRenterVolumes now =>
    inferInstanceAs (Decidable (db.activePoolGb + sizeOf ((dueVolumes db now).filter (fun volume =>
      Reactivates now db volume)) ≤
        poolCeilingGb + sizeOf ((dueVolumes db now).filter (fun volume =>
          Suspends db volume))))
  | .rent _ _ _ _ => inferInstanceAs (Decidable True)
  | .release _ _ => inferInstanceAs (Decidable True)
  | .topUp _ _ => inferInstanceAs (Decidable True)

def activeWeight (volume : Volume) : Int :=
  if volume.status = .active then volume.sizeGb else 0

theorem activePoolGb_eq_total (db : Database) :
    (db.activePoolGb : Int) = db.volumes.total activeWeight := by
  have cast (volumes : List Volume) :
      ((volumes.map Volume.sizeGb).sum : Int) =
        (volumes.map (fun volume => (volume.sizeGb : Int))).sum := by
    induction volumes with
    | nil => rfl
    | cons volume rest ih =>
      simp [ih]
  rw [Database.activePoolGb, cast]
  exact sum_filter (·.status = .active) (fun volume => (volume.sizeGb : Int)) db.volumes.rows

section Sweep

variable {db after : Database} {volume : Volume} {now : Int}

def poolChange (now : Int) (db : Database) (volume : Volume) : Int :=
  (if Reactivates now db volume then (volume.sizeGb : Int) else 0) -
    (if Suspends db volume then (volume.sizeGb : Int) else 0)

variable (billing : Billing now db volume after)

include billing

theorem Billing.total (live : IsLive volume)
    (current : db.volumes.lookup volume.bucket = some volume) :
    after.volumes.total activeWeight =
      db.volumes.total activeWeight + poolChange now db volume := by
  cases billing with
  | released lapsed =>
    have dormant : ¬ Reactivates now db volume := fun met => met.2.1 lapsed
    have inactive : ¬ Suspends db volume := by
      intro met
      have active := met.1
      rw [lapsed.1] at active
      cases active
    rw [poolChange, if_neg dormant, if_neg inactive, sub_zero, add_zero]
    apply total_update_of_eq _ (Volume.setReleased_bucket now) _ current
    simp only [activeWeight, Volume.setReleased, lapsed.1]
    rfl
  | renewed lapsed canPay taken =>
    have volumes : ∀ {debited : Database}, (debited = db ∧ volume.renewalPrice = 0 ∨
        db.debit volume.renterId volume.renewalPrice =
          some debited) → debited.volumes = db.volumes := by
      rintro debited (⟨same, _⟩ | debit)
      · rw [same]
      · exact Database.debit_volumes debit
    have active : ¬ Suspends db volume := fun met => met.2 canPay
    rw [poolChange, if_neg active, sub_zero]
    simp only [renewVolume, volumes taken]
    rw [total_update _ _ _ current]
    cases status : volume.status with
    | active =>
      have running : ¬ Reactivates now db volume := by
        intro met
        have dormant := met.1
        rw [status] at dormant
        cases dormant
      rw [if_neg running]
      simp only [activeWeight, Volume.setRenewed, status]
      omega
    | released => exact absurd status live
    | suspended =>
      rw [if_pos ⟨status, lapsed, canPay⟩]
      simp only [activeWeight, Volume.setRenewed, status]
      simp
  | suspended lapsed short active =>
    have running : ¬ Reactivates now db volume := fun met => short met.2.2
    rw [poolChange, if_neg running, if_pos ⟨active, short⟩, total_update _ _ _ current]
    simp only [activeWeight, Volume.setSuspended, active]
    simp
    omega
  | kept lapsed short inactive =>
    have dormant : ¬ Reactivates now db volume := fun met => short met.2.2
    have unsuspended : ¬ Suspends db volume := fun met => inactive met.1
    rw [poolChange, if_neg dormant, if_neg unsuspended, sub_zero, add_zero]

theorem Billing.volumes :
    after.volumes = db.volumes ∨
      ∃ change, ∃ keeps : ∀ row : Volume, (change row).bucket = row.bucket,
        (∀ row, (change row).renterId = row.renterId) ∧
          after.volumes = db.volumes.update volume.bucket change keeps := by
  cases billing with
  | released _ =>
    exact Or.inr ⟨_, Volume.setReleased_bucket now, fun _ => rfl, rfl⟩
  | renewed _ _ taken =>
    refine Or.inr ⟨_, Volume.setRenewed_bucket now, fun _ => rfl, ?_⟩
    rcases taken with ⟨same, _⟩ | debit
    · rw [renewVolume, same]
    · rw [renewVolume, Database.debit_volumes debit]
  | suspended _ _ _ =>
    exact Or.inr ⟨_, Volume.setSuspended_bucket, fun _ => rfl, rfl⟩
  | kept _ _ _ => exact Or.inl rfl

theorem Billing.others {bucket : String} (different : bucket ≠ volume.bucket) :
    after.volumes.lookup bucket = db.volumes.lookup bucket := by
  rcases billing.volumes with same | ⟨change, keeps, _, same⟩
  · rw [same]
  · rw [same]
    exact lookup_update_of_ne _ keeps different

theorem Billing.renters {other : Nat} (different : other ≠ volume.renterId) :
    after.renters.lookup other = db.renters.lookup other := by
  cases billing with
  | released _ | suspended _ _ _ | kept _ _ _ => rfl
  | renewed _ _ taken =>
    rcases taken with ⟨same, _⟩ | debit
    · rw [same]
      rfl
    · exact Database.debit_others debit different

theorem Billing.wellNamed (named : WellNamed db) : WellNamed after := by
  rcases billing.volumes with same | ⟨change, keeps, owner, same⟩
  · rw [WellNamed, same]
    exact named
  · exact named.update keeps owner same

omit billing

theorem poolChange_congr
    (same : after.renters.lookup volume.renterId = db.renters.lookup volume.renterId) :
    poolChange now after volume = poolChange now db volume := by
  have pays : CanPay after volume ↔ CanPay db volume := by
    rw [CanPay, CanPay, same]
  have reactivates : Reactivates now after volume ↔ Reactivates now db volume :=
    and_congr_right (fun _ => and_congr_right (fun _ => pays))
  have suspends : Suspends after volume ↔ Suspends db volume :=
    and_congr_right (fun _ => not_congr pays)
  rw [poolChange, if_congr reactivates rfl rfl, if_congr suspends rfl rfl]
  rfl

end Sweep

variable {db : Database} {now : Int}

theorem mem_dueVolumes {volume : Volume} (member : volume ∈ dueVolumes db now) :
    volume.IsDue now ∧ db.volumes.lookup volume.bucket = some volume :=
  mem_select (mem_of_mem_take member)

def Billable (volume : Volume) : Prop :=
  IsLive volume ∧ volume.bucket = bucketFor volume.renterId

theorem Billable.renter_ne {first second : Volume}
    (firstMet : Billable first) (secondMet : Billable second)
    (different : second.bucket ≠ first.bucket) :
    second.renterId ≠ first.renterId := by
  intro same
  apply different
  rw [firstMet.2, secondMet.2, same]

abbrev billingSweep (now : Int) : Sweep Database Volume.bucket where
  table := Database.volumes
  act := billVolume now
  selected := Billable
  untouched := fun _ current _ otherCurrent different =>
    ((billVolume_billing current).others different).trans otherCurrent

theorem reads_dueVolumes (named : WellNamed db) :
    (billingSweep now).Reads db (dueVolumes db now) where
  nodup := (select_nodup db.volumes (Volume.IsDue now)).sublist
    ((take_sublist 50 _).map Volume.bucket)
  current := by
    intro volume member
    obtain ⟨due, current⟩ := mem_dueVolumes member
    exact ⟨⟨due.1, named.of_lookup current⟩, current⟩

theorem billRenterVolumes_total (named : WellNamed db) (now : Int) :
    (billRenterVolumes db now).volumes.total activeWeight =
      db.volumes.total activeWeight + ((dueVolumes db now).map (poolChange now db)).sum := by
  refine (billingSweep now).moves (·.volumes.total activeWeight) (poolChange now) ?_ ?_
    (reads_dueVolumes named)
  · intro state volume other met current otherMet _ different
    have billing : Billing now state volume (billVolume now state volume) :=
      billVolume_billing current
    exact poolChange_congr (billing.renters (met.renter_ne otherMet different))
  · intro state volume met current
    exact (billVolume_billing current).total met.1 current

theorem billRenterVolumes_wellNamed (named : WellNamed db)
    (now : Int) : WellNamed (billRenterVolumes db now) := by
  refine (billingSweep now).relates (fun first second => WellNamed first → WellNamed second)
    (fun _ => id) (fun earlier later => later ∘ earlier) ?_ (reads_dueVolumes named) named
  intro state volume _ current
  exact (billVolume_billing current).wellNamed

theorem billRenterVolumes_within_iff (named : WellNamed db) (now : Int) :
    WithinCeiling (billRenterVolumes db now) ↔ HasRoom db (.billRenterVolumes now) := by
  have size (condition : Volume → Prop) [DecidablePred condition] (volumes : List Volume) :
      ((sizeOf (volumes.filter (condition ·)) : Nat) :
        Int) =
        (volumes.map (fun volume =>
          if condition volume then (volume.sizeGb : Int) else 0)).sum := by
    rw [← sum_filter]
    induction volumes.filter (condition ·) with
    | nil => rfl
    | cons volume rest ih =>
      rw [sizeOf] at ih
      rw [sizeOf, map_cons, map_cons, sum_cons, sum_cons, Nat.cast_add, ih]
  have changed : ((dueVolumes db now).map (poolChange now db)).sum =
      sizeOf ((dueVolumes db now).filter (Reactivates now db ·)) -
        sizeOf ((dueVolumes db now).filter (Suspends db ·)) := by
    rw [size, size]
    induction dueVolumes db now with
    | nil => rfl
    | cons volume rest ih =>
      simp only [map_cons, sum_cons, ih, poolChange]
      ring
  have total := billRenterVolumes_total named now
  rw [← activePoolGb_eq_total, ← activePoolGb_eq_total, changed] at total
  unfold WithinCeiling
  simp only [HasRoom]
  omega

section Rental

variable {db : Database} {renterId sizeGb : Nat} {now : Int}

theorem persistRental_wellNamed (named : WellNamed db) :
    WellNamed (persistRental db renterId sizeGb now) := by
  unfold persistRental
  split
  · rename_i fresh
    intro volume stored
    rcases mem_append.mp stored with earlier | last
    · exact named volume earlier
    · rw [mem_singleton.mp last]
      rfl
  · exact named.update (Volume.setRented_bucket _ _ _ _) (fun _ => rfl) rfl

theorem persistRental_total (named : WellNamed db) (inactive : db.activeVolume renterId = none) :
    (persistRental db renterId sizeGb now).volumes.total activeWeight =
      db.volumes.total activeWeight + sizeGb := by
  unfold persistRental
  split
  · rename_i fresh
    exact total_insert db.volumes (newVolume renterId sizeGb now) fresh activeWeight
  · rename_i taken
    obtain ⟨volume, found⟩ := Option.ne_none_iff_exists'.mp taken
    have key := lookup_key found
    have owned : volume.renterId = renterId := by
      apply bucketFor_injective
      rw [← named.of_lookup found, key]
    have dormant := Database.not_active_of_none inactive (lookup_mem found) owned
    rw [total_update _ (Volume.setRented_bucket _ _ _ _) _ found]
    simp only [activeWeight, Volume.setRented, if_neg dormant]
    simp

variable {after : Database}

theorem activeVolume_congr (same : after.volumes = db.volumes) (renterId : Nat) :
    after.activeVolume renterId = db.activeVolume renterId := by
  rw [Database.activeVolume, same, Database.activeVolume]

theorem activePoolGb_congr (same : after.volumes = db.volumes) :
    after.activePoolGb = db.activePoolGb := by
  rw [Database.activePoolGb, same, Database.activePoolGb]

theorem WellNamed.of_same {after : Database} (named : WellNamed db)
    (same : after.volumes = db.volumes) : WellNamed after := by
  rw [WellNamed, same]
  exact named

theorem refunded_volumes {debited : Database} {amount : Int}
    (taken : db.debit renterId amount = some debited) :
    (debited.credit .refund renterId amount).volumes = db.volumes :=
  (Database.credit_volumes debited .refund renterId amount).trans (Database.debit_volumes taken)

variable {result : Database × Option VolumeError}

theorem Renting.wellNamed (renting : Renting now db renterId result) (named : WellNamed db) :
    WellNamed result.1 := by
  cases renting with
  | refused _ => exact named
  | refunded _ taken => exact named.of_same (refunded_volumes taken)
  | rented _ _ _ taken =>
    exact persistRental_wellNamed (named.of_same (Database.debit_volumes taken))

theorem Renting.within (renting : Renting now db renterId result) (named : WellNamed db)
    (within : WithinCeiling db) : WithinCeiling result.1 := by
  cases renting with
  | refused _ => exact within
  | refunded _ taken =>
    have same := activePoolGb_congr (refunded_volumes taken)
    exact same.le.trans within
  | rented sized inactive room taken =>
    rename_i sizeGb debited
    have same := Database.debit_volumes taken
    have named := named.of_same same
    rw [← activeVolume_congr same] at inactive
    have total := @persistRental_total debited renterId sizeGb now named inactive
    rw [← activePoolGb_eq_total, same, ← activePoolGb_eq_total] at total
    have sum :
        (persistRental debited renterId sizeGb now).activePoolGb = db.activePoolGb + sizeGb := by
      omega
    exact sum.le.trans room

theorem releaseVolume_wellNamed (named : WellNamed db) :
    WellNamed (releaseVolume db renterId now).1 := by
  unfold releaseVolume
  split
  · exact named
  · exact named.update (Volume.setReleased_bucket now) (fun _ => rfl) rfl

theorem releaseVolume_within (within : WithinCeiling db) :
    WithinCeiling (releaseVolume db renterId now).1 := by
  unfold releaseVolume
  split
  · exact within
  · rename_i volume found
    obtain ⟨_, active, current⟩ := Database.activeVolume_some found
    have total := total_update (Volume.setReleased now)
        (Volume.setReleased_bucket now) activeWeight current
    have released : activeWeight (volume.setReleased now) = 0 := rfl
    have weight : activeWeight volume = volume.sizeGb := if_pos active
    have later := activePoolGb_eq_total { db with
        volumes := db.volumes.update volume.bucket (Volume.setReleased now)
          (Volume.setReleased_bucket now) }
    rw [total, ← activePoolGb_eq_total, released, weight] at later
    refine le_trans (Nat.cast_le.mp (later.le.trans ?_)) within
    omega

end Rental

variable {after : Database} {action : VolumeAction}

theorem volumeNext_wellNamed (fires : Fires volumeNext db action after) (named : WellNamed db) :
    WellNamed after := by
  cases action with
  | rent renterId requestedGb outcome now =>
    cases fires
    exact (rentVolume_renting db renterId requestedGb outcome now).wellNamed named
  | release renterId now =>
    cases fires
    exact releaseVolume_wellNamed named
  | topUp renterId amount =>
    cases fires
    exact named.of_same (Database.credit_volumes _ _ _ _)
  | billRenterVolumes now =>
    cases fires
    exact billRenterVolumes_wellNamed named now

theorem volumeNext_within_iff (named : WellNamed db) (within : WithinCeiling db)
    (fires : Fires volumeNext db action after) :
    WithinCeiling after ↔ HasRoom db action := by
  cases action with
  | rent renterId requestedGb outcome now =>
    cases fires
    refine iff_of_true ?_ trivial
    exact (rentVolume_renting db renterId requestedGb outcome now).within named within
  | release renterId now =>
    cases fires
    exact iff_of_true (releaseVolume_within within) trivial
  | topUp renterId amount =>
    cases fires
    refine iff_of_true ?_ trivial
    exact (activePoolGb_congr (Database.credit_volumes _ _ _ _)).le.trans within
  | billRenterVolumes now =>
    cases fires
    exact billRenterVolumes_within_iff named now

/-- From a pool without volumes, over all orders of rentals, releases, top-ups
and sweeps: the active volumes stay within the ceiling exactly when every
sweep has room for what it reactivates. A renter never has two live
volumes. -/
theorem pool_within_ceiling_iff_hasRoom {start finish : Database}
    {actions : List VolumeAction} (empty : start.volumes = Table.empty) :
    (Run (staying (Fires volumeNext) WithinCeiling) start actions finish ↔
      Run (guarded (Fires volumeNext) HasRoom) start actions finish) ∧
      (Run (Fires volumeNext) start actions finish → OneLiveEach finish) := by
  have named : WellNamed start := by
    rw [WellNamed, empty]
    intro volume stored
    cases stored
  have within : WithinCeiling start := by
    rw [WithinCeiling, Database.activePoolGb, empty]
    exact Nat.zero_le _
  constructor
  · exact Run.staying_iff_guarded WellNamed WithinCeiling HasRoom
      (fun named _ fires _ => volumeNext_wellNamed fires named)
      volumeNext_within_iff named within
  · intro run first firstStored second secondStored _ _ same
    have namedLater :=
      run.invariant WellNamed (fun named fires => volumeNext_wellNamed fires named) named
    exact namedLater.unique firstStored secondStored same

def sampleRenter (renterId : Nat) : Renter :=
  { id := renterId, balanceHalala := 563 }

def sampleVolumes : Database :=
  { renters := [1, 2, 3, 4, 5].foldl
        (fun renters renterId => renters.insertIfNew (sampleRenter renterId))
        Table.empty
    volumes := Table.empty
    movements := []
    rentals := [] }

theorem pool_within_ceiling_iff_hasRoom_sample :
    ∃ finish, execute volumeNext sampleVolumes [.rent 1 30 .rented 0, .billRenterVolumes periodMs,
            .rent 2 30 .rented periodMs, .topUp 1 563,
            .billRenterVolumes (periodMs + dayMs)] = some finish ∧
        WithinCeiling finish ∧ OneLiveEach finish ∧
        finish.activePoolGb = 60 := by
  refine exists_executed_guarded HasRoom (·.activePoolGb = 60) (by decide +kernel) ?_
  intro finish allowed pool
  have empty : sampleVolumes.volumes = empty := rfl
  have stays := (pool_within_ceiling_iff_hasRoom empty).1.mpr allowed
  exact ⟨stays.holds_of_staying (by decide), (pool_within_ceiling_iff_hasRoom
    empty).2 allowed.of_guarded, pool⟩

/-- Three rentals of 30 GB, one of which is suspended; a fourth renter takes
the room, and the first one tops up again. -/
theorem pool_beyond_ceiling :
    ∃ finish, execute volumeNext sampleVolumes [.rent 1 30 .rented 0, .rent 2 30 .rented dayMs,
            .rent 3 30 .rented dayMs, .billRenterVolumes periodMs,
            .rent 4 30 .rented periodMs, .topUp 1 563,
            .billRenterVolumes periodMs] = some finish ∧
        ¬ WithinCeiling finish ∧ finish.activePoolGb = 120 :=
  exists_of_execute_any (by decide +kernel)

end DcpPlatform.Volumes
