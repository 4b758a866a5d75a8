import DcpPlatform.Foundation.FiniteSums
import DcpPlatform.Volumes.Service

/-!
# What renting and billing do

`Billing` says what the sweep does to one due volume: release it, renew it
against a debit, suspend it, or leave it suspended. `WellNamed` ties rows to
renters: a bucket is named after its renter.
-/

namespace DcpPlatform.Volumes

open Foundation Table

theorem bucketFor_injective {first second : Nat}
    (same : bucketFor first = bucketFor second) : first = second := by
  have texts := congrArg String.toList same
  simp only [bucketFor, String.toList_append, List.append_cancel_left_eq,
    Nat.toString_eq_repr, Nat.toList_repr] at texts
  rw [← @Nat.ofDigitChars_toDigits 10 first (by decide) (by decide), texts,
    Nat.ofDigitChars_toDigits (by decide) (by decide)]

def WellNamed (db : Database) : Prop :=
  ∀ volume ∈ db.volumes.rows, volume.bucket = bucketFor volume.renterId

namespace WellNamed

variable {db : Database} {bucket : String}

theorem of_lookup (named : WellNamed db) {volume : Volume}
    (found : db.volumes.lookup bucket = some volume) :
    volume.bucket = bucketFor volume.renterId :=
  named volume (lookup_mem found)

theorem unique (named : WellNamed db) {first second : Volume}
    (firstStored : first ∈ db.volumes.rows)
    (secondStored : second ∈ db.volumes.rows)
    (same : first.renterId = second.renterId) : first = second := by
  have firstFound := lookup_of_mem firstStored
  have secondFound := lookup_of_mem secondStored
  rw [named first firstStored, same, ← named second secondStored, secondFound] at firstFound
  injection firstFound with equal
  exact equal.symm

theorem update (named : WellNamed db) {change : Volume → Volume}
    (keeps : ∀ volume, (change volume).bucket = volume.bucket)
    (owner : ∀ volume, (change volume).renterId = volume.renterId)
    {after : Database}
    (volumes : after.volumes = db.volumes.update bucket change keeps) :
    WellNamed after := by
  intro volume stored
  have found := lookup_of_mem stored
  rw [volumes] at found
  rcases lookup_of_lookup_update keeps found with
    ⟨_, earlier, earlierFound, rfl⟩ | ⟨_, earlierFound⟩
  · rw [keeps, owner]
    exact named.of_lookup earlierFound
  · exact named.of_lookup earlierFound

end WellNamed

namespace Database

variable {db after : Database} {renterId : Nat} {amount : Int}

theorem debit_some (debited : db.debit renterId amount = some after) :
    ∃ renter, db.renters.lookup renterId = some renter ∧ amount ≤ renter.balanceHalala ∧
      after = db.move .debit renter (-amount) := by
  unfold debit at debited
  split at debited
  · cases debited
  · rename_i renter found
    split at debited
    · rename_i enough
      injection debited with same
      exact ⟨renter, found, enough, same.symm⟩
    · cases debited

theorem debit_eq_none_iff :
    db.debit renterId amount = none ↔
      ∀ renter, db.renters.lookup renterId = some renter → renter.balanceHalala < amount := by
  unfold debit
  split
  · rename_i absent
    rw [absent]
    exact iff_of_true rfl (fun _ missing => by cases missing)
  · rename_i renter found
    rw [found]
    simp only [Option.some.injEq, forall_eq']
    split
    · rename_i enough
      exact iff_of_false (fun none => by cases none) (not_lt.mpr enough)
    · rename_i short
      exact iff_of_true rfl (not_le.mp short)

theorem move_lookup (kind : MovementKind) {renter : Renter}
    (found : db.renters.lookup renter.id = some renter) (other : Nat) :
    (db.move kind renter amount).renters.lookup other =
      if other = renter.id then some (renter.addBalance amount)
      else db.renters.lookup other := by
  rw [move, lookup_update]
  by_cases same : other = renter.id
  · rw [if_pos same, if_pos same, same, found]
    rfl
  · rw [if_neg same, if_neg same]

@[simp]
theorem credit_volumes (db : Database) (kind : MovementKind) (renterId : Nat) (amount : Int) :
    (db.credit kind renterId amount).volumes = db.volumes := by
  unfold credit
  split <;> rfl

@[simp]
theorem credit_rentals (db : Database) (kind : MovementKind) (renterId : Nat) (amount : Int) :
    (db.credit kind renterId amount).rentals = db.rentals := by
  unfold credit
  split <;> rfl

variable (debited : db.debit renterId amount = some after)

include debited

theorem debit_volumes :
    after.volumes = db.volumes := by
  obtain ⟨renter, _, _, same⟩ := debit_some debited
  rw [same]
  rfl

theorem debit_rentals :
    after.rentals = db.rentals := by
  obtain ⟨renter, _, _, same⟩ := debit_some debited
  rw [same]
  rfl

theorem debit_others {other : Nat} (different : other ≠ renterId) :
    after.renters.lookup other = db.renters.lookup other := by
  obtain ⟨renter, found, _, same⟩ := debit_some debited
  have key := lookup_key found
  subst key
  rw [same, move_lookup .debit found, if_neg different]

end Database

def CanPay (db : Database) (volume : Volume) : Prop :=
  volume.renewalPrice ≤ 0 ∨
    ∃ renter ∈ db.renters.lookup volume.renterId, volume.renewalPrice ≤ renter.balanceHalala
deriving Decidable

inductive Billing (now : Int) (db : Database) (volume : Volume) :
    Database → Prop
  | released : volume.HasLapsed now → Billing now db volume { db with
    volumes := db.volumes.update volume.bucket (Volume.setReleased now)
      (Volume.setReleased_bucket now) }
  | renewed {debited : Database} :
      ¬ volume.HasLapsed now → CanPay db volume →
      (debited = db ∧ volume.renewalPrice = 0 ∨
        db.debit volume.renterId volume.renewalPrice = some debited) →
      Billing now db volume (renewVolume debited volume now)
  | suspended : ¬ volume.HasLapsed now → ¬ CanPay db volume → volume.status = .active →
    Billing now db volume { db with
      volumes := db.volumes.update volume.bucket Volume.setSuspended Volume.setSuspended_bucket }
  | kept : ¬ volume.HasLapsed now → ¬ CanPay db volume → volume.status ≠ .active →
    Billing now db volume db

variable {volume : Volume} {now : Int}

theorem canPay_of_charge {db charged : Database}
    (paid : chargeRenewal db volume now = some charged) :
    CanPay db volume ∧ ∃ debited, (debited = db ∧ volume.renewalPrice = 0 ∨
      db.debit volume.renterId volume.renewalPrice = some debited) ∧
        charged = renewVolume debited volume now := by
  unfold chargeRenewal at paid
  by_cases positive : 0 < volume.renewalPrice
  · rw [if_pos positive] at paid
    obtain ⟨debited, taken, same⟩ := Option.map_eq_some_iff.mp paid
    obtain ⟨renter, found, enough, _⟩ := Database.debit_some taken
    exact ⟨Or.inr ⟨renter, found, enough⟩, debited, Or.inr taken, same.symm⟩
  · rw [if_neg positive] at paid
    injection paid with same
    have least : 0 ≤ volume.renewalPrice := le_max_left _ _
    exact ⟨Or.inl (not_lt.mp positive), db, Or.inl ⟨rfl, by omega⟩, same.symm⟩

variable {db : Database}

theorem not_canPay_of_charge (unpaid : chargeRenewal db volume now = none) :
    ¬ CanPay db volume := by
  unfold chargeRenewal at unpaid
  by_cases positive : 0 < volume.renewalPrice
  · rw [if_pos positive, Option.map_eq_none_iff, Database.debit_eq_none_iff] at unpaid
    rintro (free | ⟨renter, found, enough⟩)
    · omega
    · have short := unpaid renter found
      omega
  · rw [if_neg positive] at unpaid
    cases unpaid

theorem billVolume_billing (current : db.volumes.lookup volume.bucket = some volume) :
    Billing now db volume (billVolume now db volume) := by
  unfold billVolume
  by_cases lapsed : volume.HasLapsed now
  · rw [if_pos lapsed, updateWhere_of_met _ current lapsed.1]
    exact Billing.released lapsed
  · rw [if_neg lapsed]
    cases charged : chargeRenewal db volume now with
    | some after =>
      obtain ⟨canPay, debited, taken, same⟩ := canPay_of_charge charged
      rw [same]
      exact Billing.renewed lapsed canPay taken
    | none =>
      have short := not_canPay_of_charge charged
      by_cases active : volume.status = .active
      · simp only [if_pos active]
        rw [updateWhere_of_met _ current active]
        exact Billing.suspended lapsed short active
      · simp only [if_neg active]
        exact Billing.kept lapsed short active

inductive Renting (now : Int) (db : Database) (renterId : Nat) :
    Database × Option VolumeError → Prop
  | refused (error : VolumeError) :
      Renting now db renterId (db, some error)
  | refunded {sizeGb : Nat} {debited : Database} (error : VolumeError) :
      db.debit renterId (monthlyHalala sizeGb) = some debited →
      Renting now db renterId (debited.credit .refund renterId (monthlyHalala sizeGb), some error)
  | rented {sizeGb : Nat} {debited : Database} :
      sizeGb ∈ volumeSizesGb →
      db.activeVolume renterId = none →
      db.activePoolGb + sizeGb ≤ poolCeilingGb →
      db.debit renterId (monthlyHalala sizeGb) = some debited →
      Renting now db renterId (persistRental debited renterId sizeGb now, none)

theorem rentVolume_renting (db : Database) (renterId : Nat)
    (requestedGb : ℚ) (outcome : Outcome) (now : Int) :
    Renting now db renterId (rentVolume db renterId requestedGb outcome now) := by
  unfold rentVolume
  split
  · exact Renting.refused _
  · rename_i sizeGb sized
    split
    · exact Renting.refused _
    · rename_i inactive
      split
      · exact Renting.refused _
      · rename_i room
        split
        · exact Renting.refused _
        · rename_i debited taken
          cases outcome with
          | rented =>
            exact Renting.rented (List.mem_of_find?_eq_some sized)
              (Option.not_isSome_iff_eq_none.mp inactive)
              (not_lt.mp room) taken
          | provisionFailed | persistFailed => exact Renting.refunded _ taken

variable {renterId : Nat}

theorem Database.not_active_of_none (absent : db.activeVolume renterId = none)
    (stored : volume ∈ db.volumes.rows)
    (owned : volume.renterId = renterId) : volume.status ≠ .active := by
  intro active
  have empty := List.head?_eq_none_iff.mp absent
  have member : volume ∈ db.volumes.select (fun volume =>
      volume.renterId = renterId ∧ volume.status = .active) :=
    mem_select_iff.mpr ⟨⟨owned, active⟩, lookup_of_mem stored⟩
  rw [empty] at member
  cases member

theorem Database.activeVolume_some (found : db.activeVolume renterId = some volume) :
    volume.renterId = renterId ∧ volume.status = .active ∧
      db.volumes.lookup volume.bucket = some volume := by
  obtain ⟨⟨owned, active⟩, current⟩ := mem_select (List.mem_of_mem_head? found)
  exact ⟨owned, active, current⟩

end DcpPlatform.Volumes
