import DcpPlatform.Volumes.PoolCeiling

/-!
# One debit for each period

What has been debited for volumes and not been returned is what the granted
periods cost, renter by renter. A renewal writes the new end with
`datetime(..)`, which keeps whole seconds.
-/

namespace DcpPlatform.Volumes

open Foundation Table List

def PaidUntil (rentals : List Rental) (volume : Volume) : Prop :=
  ∃ rental ∈ Rental.latest volume.bucket rentals,
    rental.renterId = volume.renterId ∧ rental.rentedAt = volume.rentedAt ∧
      rental.priceHalala = volume.priceHalalaPerMonth ∧
      datetime volume.currentPeriodEnd = datetime volume.rentedAt + rental.periods * periodMs

def PaidExactlyUntil (rentals : List Rental) (volume : Volume) : Prop :=
  ∃ rental ∈ Rental.latest volume.bucket rentals,
    volume.currentPeriodEnd = volume.rentedAt + rental.periods * periodMs
deriving Decidable

structure Balanced (db : Database) : Prop where
  charged : ∀ renterId, db.takenFrom renterId = db.chargedFor renterId
  counted : ∀ renterId, db.debitsOf renterId = db.periodsGrantedTo renterId
  covered : ∀ movement ∈ db.movements, movement.kind = .debit → 0 ≤ movement.remaining
  paid : ∀ volume ∈ db.volumes.rows, PaidUntil db.rentals volume

def Priced (db : Database) : Prop :=
  ∀ volume ∈ db.volumes.rows, 0 < volume.priceHalalaPerMonth

/-! ## Movements -/

section Movements

variable {db : Database} {renter : Renter} {amount : Int}

theorem sumOf_append (amount : Movement → Int) (renterId : Nat) (earlier later : List Movement) :
    Movement.sumOf amount renterId (earlier ++ later) =
      Movement.sumOf amount renterId earlier + Movement.sumOf amount renterId later := by
  simp [Movement.sumOf]

theorem sumOf_single (amount : Movement → Int) (renterId : Nat) (movement : Movement) :
    Movement.sumOf amount renterId [movement] =
      if movement.renterId = renterId then amount movement else 0 := by
  by_cases own : movement.renterId = renterId <;> simp [Movement.sumOf, own]

theorem balanceOf_move (found : db.renters.lookup renter.id = some renter)
    (kind : MovementKind) (renterId : Nat) :
    (db.move kind renter amount).balanceOf renterId = db.balanceOf renterId +
      if renter.id = renterId then amount else 0 := by
  rw [Database.balanceOf, Database.move_lookup kind found]
  by_cases own : renterId = renter.id
  · rw [if_pos own, if_pos own.symm, Database.balanceOf, own, found]
    rfl
  · have other : ¬ renter.id = renterId := fun same => own same.symm
    rw [if_neg own, if_neg other, add_zero, Database.balanceOf]

def openingBalance (db : Database) (renterId : Nat) : Int :=
  db.balanceOf renterId + db.takenFrom renterId - db.toppedUpBy renterId

theorem openingBalance_move (found : db.renters.lookup renter.id = some renter)
    (kind : MovementKind) (renterId : Nat) :
    openingBalance (db.move kind renter amount) renterId = openingBalance db renterId := by
  unfold openingBalance Database.takenFrom Database.toppedUpBy
  rw [balanceOf_move found, Database.move, sumOf_append, sumOf_append, sumOf_single, sumOf_single]
  by_cases own : renter.id = renterId
  · cases kind with
    | debit =>
      simp only [Movement.taken, Movement.toppedUp, if_true]
      omega
    | refund | topUp =>
      simp only [Movement.taken, Movement.toppedUp, reduceCtorEq, if_false]
      omega
  · simp only [if_neg own]
    omega

variable {after : Database} {payer : Nat}

theorem openingBalance_debit (taken : db.debit payer amount = some after) (renterId : Nat) :
    openingBalance after renterId = openingBalance db renterId := by
  obtain ⟨renter, found, _, same⟩ := Database.debit_some taken
  rw [same]
  have key := lookup_key found
  subst key
  exact openingBalance_move found .debit renterId

theorem openingBalance_credit (db : Database) (kind : MovementKind)
    (receiver : Nat) (amount : Int) (renterId : Nat) :
    openingBalance (db.credit kind receiver amount) renterId = openingBalance db renterId := by
  unfold Database.credit
  split
  · rfl
  · rename_i renter found
    have key := lookup_key found
    subst key
    exact openingBalance_move found kind renterId

theorem debit_movements (taken : db.debit payer amount = some after) :
    ∃ remaining, 0 ≤ remaining ∧ after.movements = db.movements ++
      [{ kind := .debit
         renterId := payer
         amount := amount
         remaining := remaining }] := by
  obtain ⟨renter, found, enough, same⟩ := Database.debit_some taken
  have key := lookup_key found
  refine ⟨renter.balanceHalala - amount, by omega, ?_⟩
  simp [same, Database.move, key, sub_eq_add_neg]

theorem credit_movements (kind : MovementKind) {receiver : Nat}
    (found : db.renters.lookup receiver = some renter) (credited : kind ≠ .debit) :
    ∃ remaining, (db.credit kind receiver amount).movements = db.movements ++
      [{ kind := kind
         renterId := receiver
         amount := amount
         remaining := remaining }] := by
  have key := lookup_key found
  refine ⟨renter.balanceHalala + amount, ?_⟩
  simp [Database.credit, found, Database.move, key, credited]

theorem debit_lookup (taken : db.debit payer amount = some after) :
    ∃ renter, db.renters.lookup payer = some renter ∧ ∀ other, after.renters.lookup other =
      if other = payer then some (renter.addBalance (-amount))
      else db.renters.lookup other := by
  obtain ⟨renter, found, _, same⟩ := Database.debit_some taken
  have key := lookup_key found
  subst key
  refine ⟨renter, found, fun other => ?_⟩
  rw [same]
  exact Database.move_lookup .debit found other

theorem refunded_lookup (taken : db.debit payer amount = some after) (other : Nat) :
    (after.credit .refund payer amount).renters.lookup other = db.renters.lookup other := by
  obtain ⟨renter, found, lookups⟩ := debit_lookup taken
  have lowered := lookups payer
  rw [if_pos rfl] at lowered
  have key := lookup_key lowered
  have restored : (renter.addBalance (-amount)).addBalance amount = renter := by
    simp [Renter.addBalance]
  rw [Database.credit, lowered]
  subst key
  simp only [Database.move_lookup .refund lowered, restored]
  by_cases own : other = (renter.addBalance (-amount)).id
  · rw [if_pos own, own, found]
  · rw [if_neg own, lookups other, if_neg own]

end Movements

namespace Rental

@[simp]
theorem sumOf_cons (amount : Rental → Int) (renterId : Nat)
    (rental : Rental) (rentals : List Rental) :
    sumOf amount renterId (rental :: rentals) =
      (if rental.renterId = renterId then amount rental else 0) +
        sumOf amount renterId rentals := by
  unfold sumOf
  by_cases own : rental.renterId = renterId <;> simp [own]

theorem latest_cons (bucket : String) (rental : Rental) (rentals : List Rental) :
    latest bucket (rental :: rentals) =
      if rental.bucket = bucket then some rental
      else latest bucket rentals := by
  unfold latest
  by_cases here : rental.bucket = bucket <;> simp [here]

theorem latest_extendLatest (bucket other : String) (rentals : List Rental) :
    latest other (extendLatest bucket rentals) =
      if other = bucket then (latest bucket rentals).map extend
      else latest other rentals := by
  induction rentals with
  | nil =>
    rw [extendLatest]
    by_cases same : other = bucket
    · rw [if_pos same]
      rfl
    · rw [if_neg same]
  | cons rental rest ih =>
    rw [extendLatest]
    by_cases here : rental.bucket = bucket
    · rw [if_pos here, latest_cons, latest_cons, latest_cons, if_pos here]
      by_cases same : other = bucket
      · rw [if_pos same, same, extend, if_pos here]
        rfl
      · have different : ¬ rental.bucket = other := by
          intro equal
          exact same (equal.symm.trans here)
        rw [if_neg same, extend, if_neg different, if_neg different]
    · rw [if_neg here, latest_cons, latest_cons, latest_cons, if_neg here, ih]
      by_cases same : other = bucket
      · rw [if_pos same, if_pos same, same, if_neg here]
      · rw [if_neg same, if_neg same]

theorem sumOf_extendLatest (amount : Rental → Int) (renterId : Nat) {bucket : String} :
    ∀ {rentals : List Rental} {rental : Rental}, latest bucket rentals = some rental →
      sumOf amount renterId (extendLatest bucket rentals) = sumOf amount renterId rentals +
        if rental.renterId = renterId then
          amount rental.extend - amount rental
        else 0
  | [], rental, found => by
      cases found
  | first :: rest, rental, found => by
      rw [latest_cons] at found
      rw [extendLatest]
      by_cases here : first.bucket = bucket
      · rw [if_pos here] at found
        cases found
        rw [if_pos here, sumOf_cons, sumOf_cons]
        by_cases own : first.renterId = renterId
        · rw [extend, if_pos own, if_pos own, if_pos own]
          omega
        · rw [extend, if_neg own, if_neg own, if_neg own]
          omega
      · rw [if_neg here] at found
        rw [if_neg here, sumOf_cons, sumOf_cons, sumOf_extendLatest amount renterId found]
        omega

end Rental

section Books

variable {db after : Database}

theorem Balanced.of_entries (balanced : Balanced db) {entries : List Movement}
    (movements : after.movements = db.movements ++ entries)
    (covered : ∀ movement ∈ entries, movement.kind = .debit → 0 ≤ movement.remaining)
    (charges : ∀ renterId, after.chargedFor renterId =
      db.chargedFor renterId + Movement.sumOf Movement.taken renterId entries)
    (periods : ∀ renterId, after.periodsGrantedTo renterId =
      db.periodsGrantedTo renterId + Movement.sumOf Movement.debits renterId entries)
    (paid : ∀ volume ∈ after.volumes.rows, PaidUntil after.rentals volume) :
    Balanced after := by
  refine ⟨?_, ?_, ?_, paid⟩
  · intro renterId
    rw [charges, ← balanced.charged, Database.takenFrom, movements, sumOf_append]
    rfl
  · intro renterId
    rw [periods, ← balanced.counted, Database.debitsOf, movements, sumOf_append]
    rfl
  · intro movement member
    rw [movements] at member
    rcases mem_append.mp member with earlier | later
    · exact balanced.covered movement earlier
    · exact covered movement later

theorem Balanced.of_same (balanced : Balanced db) (movements : after.movements = db.movements)
    (rentals : after.rentals = db.rentals)
    (paid : ∀ volume ∈ after.volumes.rows, PaidUntil after.rentals volume) :
    Balanced after := by
  refine @Balanced.of_entries db after balanced [] ?_ ?_ ?_ ?_ paid
  · rw [movements, append_nil]
  · intro movement member
    cases member
  · intro renterId
    rw [Database.chargedFor, rentals]
    exact (add_zero _).symm
  · intro renterId
    rw [Database.periodsGrantedTo, rentals]
    exact (add_zero _).symm

theorem paid_of_update (paid : ∀ volume ∈ db.volumes.rows, PaidUntil db.rentals volume)
    {bucket : String} {change : Volume → Volume}
    (keeps : ∀ volume, (change volume).bucket = volume.bucket)
    (volumes : after.volumes = db.volumes.update bucket change keeps)
    (others :
      ∀ other, other ≠ bucket → Rental.latest other after.rentals = Rental.latest other db.rentals)
    (here : ∀ volume, db.volumes.lookup bucket = some volume →
      PaidUntil db.rentals volume → PaidUntil after.rentals (change volume)) :
    ∀ volume ∈ after.volumes.rows, PaidUntil after.rentals volume := by
  intro volume stored
  have found := lookup_of_mem stored
  rw [volumes] at found
  rcases lookup_of_lookup_update keeps found with
    ⟨own, earlier, earlierFound, same⟩ | ⟨other, earlierFound⟩
  · have row := paid earlier (lookup_mem earlierFound)
    rw [own] at earlierFound
    rw [same]
    exact here earlier earlierFound row
  · have row := paid volume (lookup_mem earlierFound)
    rw [PaidUntil, others _ other]
    exact row

theorem priced_of_update (priced : Priced db) {bucket : String} {change : Volume → Volume}
    (keeps : ∀ volume, (change volume).bucket = volume.bucket)
    (volumes : after.volumes = db.volumes.update bucket change keeps)
    (here : ∀ volume, 0 < volume.priceHalalaPerMonth → 0 < (change volume).priceHalalaPerMonth) :
    Priced after := by
  intro volume stored
  have found := lookup_of_mem stored
  rw [volumes] at found
  rcases lookup_of_lookup_update keeps found with
    ⟨_, earlier, earlierFound, same⟩ | ⟨_, earlierFound⟩
  · rw [same]
    exact here earlier (priced earlier (lookup_mem earlierFound))
  · exact priced volume (lookup_mem earlierFound)

end Books

theorem datetime_renewed (instant : Int) :
    datetime (datetime instant + periodMs) = datetime instant + periodMs := by
  have whole : periodMs = 2592000 * 1000 := by decide
  rw [whole]
  unfold datetime
  omega

theorem datetime_rented (instant : Int) :
    datetime (instant + periodMs) = datetime instant + periodMs := by
  have whole : periodMs = 2592000 * 1000 := by decide
  rw [whole]
  unfold datetime
  omega

section Sweep

variable {db after : Database} {volume : Volume} {now : Int}

theorem PaidUntil.change {rentals : List Rental}
    (paid : PaidUntil rentals volume) {changed : Volume}
    (bucket : changed.bucket = volume.bucket)
    (renterId : changed.renterId = volume.renterId)
    (rentedAt : changed.rentedAt = volume.rentedAt)
    (price : changed.priceHalalaPerMonth = volume.priceHalalaPerMonth)
    (periodEnd : changed.currentPeriodEnd = volume.currentPeriodEnd) :
    PaidUntil rentals changed := by
  rw [PaidUntil, bucket, renterId, rentedAt, price, periodEnd]
  exact paid

theorem PaidUntil.renew {rentals : List Rental} (paid : PaidUntil rentals volume) :
    PaidUntil (Rental.extendLatest volume.bucket rentals) (volume.setRenewed now) := by
  obtain ⟨rental, found, renterId, rentedAt, price, periodEnd⟩ := paid
  refine ⟨rental.extend, ?_, renterId, rentedAt, price, ?_⟩
  · have lookup : Rental.latest volume.bucket rentals = some rental := found
    rw [Volume.setRenewed_bucket, Rental.latest_extendLatest, if_pos rfl, lookup]
    rfl
  · have renewed := datetime_renewed volume.currentPeriodEnd
    rw [periodEnd] at renewed
    simp only [Volume.setRenewed, Rental.extend, periodEnd,
      Nat.cast_add, Nat.cast_one, add_mul, one_mul]
    rw [renewed, add_assoc]

variable {debited : Database}

theorem renewVolume_volumes (volumes : debited.volumes = db.volumes) :
    (renewVolume debited volume now).volumes =
      db.volumes.update volume.bucket (Volume.setRenewed now) (Volume.setRenewed_bucket now) := by
  rw [renewVolume, volumes]

theorem renew_balanced (balanced : Balanced db) (priced : 0 < volume.priceHalalaPerMonth)
    (current : db.volumes.lookup volume.bucket = some volume)
    (taken : db.debit volume.renterId volume.renewalPrice = some debited) :
    Balanced (renewVolume debited volume now) := by
  have volumes := Database.debit_volumes taken
  have rentals := Database.debit_rentals taken
  obtain ⟨remaining, covered, movements⟩ := debit_movements taken
  obtain ⟨rental, found, owner, rentedAt, price, _⟩ := balanced.paid volume (lookup_mem current)
  have renewal : volume.renewalPrice = rental.priceHalala := by
    rw [Volume.renewalPrice, price]
    omega
  refine balanced.of_entries movements ?_ ?_ ?_ ?_
  · intro movement member _
    rw [mem_singleton.mp member]
    exact covered
  · intro renterId
    have charge : rental.extend.charge - rental.charge = rental.priceHalala := by
      simp only [Rental.charge, Rental.extend, Nat.cast_add, Nat.cast_one]
      ring
    rw [Database.chargedFor, renewVolume, rentals,
      Rental.sumOf_extendLatest Rental.charge renterId found, charge,
      sumOf_single, owner, renewal]
    rfl
  · intro renterId
    rw [Database.periodsGrantedTo, renewVolume, rentals,
      Rental.sumOf_extendLatest _ renterId found, sumOf_single, owner]
    simp [Rental.extend, Movement.debits, Database.periodsGrantedTo]
  · refine paid_of_update balanced.paid (Volume.setRenewed_bucket now)
      (renewVolume_volumes volumes) ?_ ?_
    · intro other different
      rw [renewVolume, rentals, Rental.latest_extendLatest, if_neg different]
    · intro row rowFound paid
      have key := lookup_key rowFound
      rw [renewVolume, rentals, ← key]
      exact paid.renew

theorem Billing.balanced (billing : Billing now db volume after)
    (balanced : Balanced db) (priced : Priced db)
    (current : db.volumes.lookup volume.bucket = some volume) :
    Balanced after := by
  have positive := priced volume (lookup_mem current)
  cases billing with
  | released _ =>
    exact balanced.of_same rfl rfl
      (paid_of_update balanced.paid (Volume.setReleased_bucket now) rfl (fun _ _ => rfl)
        (fun _ _ paid => paid.change rfl rfl rfl rfl rfl))
  | renewed _ _ taken =>
    rcases taken with ⟨_, free⟩ | taken
    · rw [Volume.renewalPrice] at free
      omega
    · exact renew_balanced balanced positive current taken
  | suspended _ _ _ =>
    exact balanced.of_same rfl rfl
      (paid_of_update balanced.paid Volume.setSuspended_bucket rfl (fun _ _ => rfl)
        (fun _ _ paid => paid.change rfl rfl rfl rfl rfl))
  | kept _ _ _ => exact balanced

theorem Billing.priced (billing : Billing now db volume after)
    (priced : Priced db) : Priced after := by
  cases billing with
  | released _ =>
    exact priced_of_update priced (Volume.setReleased_bucket now) rfl (fun _ met => met)
  | renewed _ _ taken =>
    rcases taken with ⟨same, _⟩ | taken
    · rw [same]
      exact priced_of_update priced (Volume.setRenewed_bucket now) rfl (fun _ met => met)
    · have volumes := Database.debit_volumes taken
      exact priced_of_update priced (Volume.setRenewed_bucket now)
        (renewVolume_volumes volumes) (fun _ met => met)
  | suspended _ _ _ =>
    exact priced_of_update priced Volume.setSuspended_bucket rfl (fun _ met => met)
  | kept _ _ _ => exact priced

theorem Billing.openingBalance (billing : Billing now db volume after) (renterId : Nat) :
    openingBalance after renterId = Volumes.openingBalance db renterId := by
  cases billing with
  | released _ | suspended _ _ _ | kept _ _ _ => rfl
  | renewed _ _ taken =>
    rcases taken with ⟨same, _⟩ | taken
    · rw [same]
      rfl
    · exact openingBalance_debit taken renterId

structure Kept (db : Database) : Prop where
  named : WellNamed db
  priced : Priced db
  balanced : Balanced db

theorem billRenterVolumes_kept (kept : Kept db) :
    Kept (billRenterVolumes db now) := by
  refine (billingSweep now).relates (fun first second => Kept first → Kept second)
    (fun _ => id) (fun earlier later => later ∘ earlier) ?_ (reads_dueVolumes kept.named) kept
  intro state volume _ current before
  have billing : Billing now state volume (billVolume now state volume) :=
    billVolume_billing current
  exact
    { named := billing.wellNamed before.named
      priced := billing.priced before.priced
      balanced := billing.balanced before.balanced before.priced current }

theorem billRenterVolumes_openingBalance (kept : Kept db) (renterId : Nat) :
    openingBalance (billRenterVolumes db now) renterId = openingBalance db renterId := by
  refine (billingSweep now).relates (fun first second =>
      openingBalance second renterId = openingBalance first renterId)
    (fun _ => rfl) (fun earlier later => later.trans earlier) ?_ (reads_dueVolumes kept.named)
  intro state volume _ current
  exact (billVolume_billing current).openingBalance renterId

end Sweep

section Renting

variable {db : Database} {renterId sizeGb : Nat} {now : Int}

theorem monthlyHalala_pos (sized : sizeGb ∈ volumeSizesGb) :
    0 < monthlyHalala sizeGb := by
  have sizes : ∀ size ∈ volumeSizesGb, 0 < monthlyHalala size := by
    decide +kernel
  exact sizes sizeGb sized

theorem persistRental_rentals :
    (persistRental db renterId sizeGb now).rentals =
      newRental renterId (monthlyHalala sizeGb) now :: db.rentals := by
  unfold persistRental
  split <;> rfl

theorem persistRental_movements :
    (persistRental db renterId sizeGb now).movements = db.movements := by
  unfold persistRental
  split <;> rfl

theorem persistRental_renters :
    (persistRental db renterId sizeGb now).renters = db.renters := by
  unfold persistRental
  split <;> rfl

theorem PaidUntil.rented {rentals : List Rental} {volume : Volume}
    (bucket : volume.bucket = bucketFor renterId)
    (owner : volume.renterId = renterId) (rentedAt : volume.rentedAt = now)
    (price : volume.priceHalalaPerMonth = monthlyHalala sizeGb)
    (periodEnd : volume.currentPeriodEnd = now + periodMs) :
    PaidUntil (newRental renterId (monthlyHalala sizeGb) now :: rentals)
      volume := by
  refine ⟨newRental renterId (monthlyHalala sizeGb) now, ?_, owner.symm,
    rentedAt.symm, price.symm, ?_⟩
  · have here : (newRental renterId (monthlyHalala sizeGb) now).bucket =
        volume.bucket :=
      bucket.symm
    rw [Rental.latest_cons, if_pos here]
    rfl
  · rw [periodEnd, rentedAt, datetime_rented]
    simp [newRental]

theorem persistRental_paid (named : WellNamed db)
    (paid : ∀ volume ∈ db.volumes.rows, PaidUntil db.rentals volume) :
    ∀ volume ∈ (persistRental db renterId sizeGb now).volumes.rows,
      PaidUntil (persistRental db renterId sizeGb now).rentals volume := by
  have others (other : String) (different : other ≠ bucketFor renterId) :
      Rental.latest other (newRental renterId (monthlyHalala sizeGb) now :: db.rentals) =
        Rental.latest other db.rentals := by
    rw [Rental.latest_cons, if_neg]
    exact fun same => different same.symm
  rw [persistRental_rentals]
  unfold persistRental
  split
  · rename_i fresh
    intro volume stored
    rcases mem_append.mp stored with earlier | last
    · have found := lookup_of_mem earlier
      have different : volume.bucket ≠ bucketFor renterId := by
        intro same
        rw [same, fresh] at found
        cases found
      rw [PaidUntil, others _ different]
      exact paid volume earlier
    · rw [mem_singleton.mp last]
      exact PaidUntil.rented rfl rfl rfl rfl rfl
  · refine @paid_of_update db { db with
      volumes := db.volumes.update (bucketFor renterId)
        (Volume.setRented sizeGb (monthlyHalala sizeGb) now
          (now + periodMs)) (Volume.setRented_bucket _ _ _ _)
      rentals := newRental renterId (monthlyHalala sizeGb) now :: db.rentals }
      paid _ _ (Volume.setRented_bucket _ _ _ _) rfl others ?_
    intro volume found _
    have key := lookup_key found
    have owner : volume.renterId = renterId := by
      apply bucketFor_injective
      rw [← named.of_lookup found, key]
    exact PaidUntil.rented key owner rfl rfl rfl

theorem persistRental_priced (priced : Priced db) (sized : sizeGb ∈ volumeSizesGb) :
    Priced (persistRental db renterId sizeGb now) := by
  have positive := monthlyHalala_pos sized
  unfold persistRental
  split
  · intro volume stored
    rcases mem_append.mp stored with earlier | last
    · exact priced volume earlier
    · rw [mem_singleton.mp last]
      exact positive
  · exact priced_of_update priced (Volume.setRented_bucket _ _ _ _) rfl (fun _ _ => positive)

variable {debited : Database}

theorem refunded_balanced (balanced : Balanced db)
    (taken : db.debit renterId (monthlyHalala sizeGb) = some debited) :
    Balanced (debited.credit .refund renterId (monthlyHalala sizeGb)) := by
  obtain ⟨remaining, covered, movements⟩ := debit_movements taken
  obtain ⟨renter, _, lookups⟩ := debit_lookup taken
  have lowered := lookups renterId
  rw [if_pos rfl] at lowered
  obtain ⟨restored, returned⟩ :=
    @credit_movements debited _ (monthlyHalala sizeGb) .refund renterId lowered (by decide)
  rw [movements, append_assoc] at returned
  have rentals := Database.debit_rentals taken
  have volumes := refunded_volumes taken
  refine balanced.of_entries returned ?_ ?_ ?_ ?_
  · intro movement member debit
    rcases mem_append.mp member with first | second
    · rw [mem_singleton.mp first]
      exact covered
    · rw [mem_singleton.mp second] at debit
      cases debit
  · intro other
    rw [Database.chargedFor, Database.credit_rentals, rentals,
      sumOf_append, sumOf_single, sumOf_single]
    by_cases own : renterId = other
    · simp [own, Movement.taken, Database.chargedFor]
    · simp [own, Database.chargedFor]
  · intro other
    rw [Database.periodsGrantedTo, Database.credit_rentals, rentals,
      sumOf_append, sumOf_single, sumOf_single]
    by_cases own : renterId = other
    · simp [own, Movement.debits, Database.periodsGrantedTo]
    · simp [own, Database.periodsGrantedTo]
  · rw [volumes, Database.credit_rentals, rentals]
    exact balanced.paid

theorem rented_balanced (balanced : Balanced db) (named : WellNamed db)
    (taken : db.debit renterId (monthlyHalala sizeGb) = some debited) :
    Balanced (persistRental debited renterId sizeGb now) := by
  obtain ⟨remaining, covered, movements⟩ := debit_movements taken
  have rentals := Database.debit_rentals taken
  have volumes := Database.debit_volumes taken
  have paid : ∀ volume ∈ debited.volumes.rows, PaidUntil debited.rentals volume := by
    rw [volumes, rentals]
    exact balanced.paid
  have booked := (@persistRental_movements debited renterId sizeGb now).trans movements
  refine balanced.of_entries booked ?_ ?_ ?_ (persistRental_paid (named.of_same volumes) paid)
  · intro movement member _
    rw [mem_singleton.mp member]
    exact covered
  · intro other
    rw [Database.chargedFor, persistRental_rentals, rentals,
      Rental.sumOf_cons, sumOf_single, add_comm]
    simp [newRental, Rental.charge, Movement.taken, Database.chargedFor]
  · intro other
    rw [Database.periodsGrantedTo, persistRental_rentals, rentals,
      Rental.sumOf_cons, sumOf_single, add_comm]
    simp [newRental, Movement.debits, Database.periodsGrantedTo]

variable {result : Database × Option VolumeError}

theorem Renting.kept (renting : Renting now db renterId result) (kept : Kept db) :
    Kept result.1 := by
  have named := renting.wellNamed kept.named
  cases renting with
  | refused _ => exact kept
  | refunded _ taken =>
    refine ⟨named, ?_, refunded_balanced kept.balanced taken⟩
    rw [Priced, refunded_volumes taken]
    exact kept.priced
  | rented sized _ _ taken =>
    refine ⟨named, ?_, rented_balanced kept.balanced kept.named taken⟩
    apply persistRental_priced _ sized
    rw [Priced, Database.debit_volumes taken]
    exact kept.priced

theorem Renting.openingBalance (renting : Renting now db renterId result) (other : Nat) :
    openingBalance result.1 other = Volumes.openingBalance db other := by
  cases renting with
  | refused _ => rfl
  | refunded _ taken =>
    rw [openingBalance_credit]
    exact openingBalance_debit taken other
  | rented _ _ _ taken =>
    rw [← openingBalance_debit taken other, Volumes.openingBalance,
      Database.balanceOf, Database.takenFrom, Database.toppedUpBy,
      persistRental_renters, persistRental_movements]
    rfl

theorem Renting.refused_lookup (renting : Renting now db renterId result) (failed : result.2 ≠ none)
    (other : Nat) :
    result.1.renters.lookup other = db.renters.lookup other := by
  cases renting with
  | refused _ => rfl
  | refunded _ taken => exact refunded_lookup taken other
  | rented _ _ _ _ => exact absurd rfl failed

theorem releaseVolume_kept (kept : Kept db) :
    Kept (releaseVolume db renterId now).1 := by
  refine ⟨releaseVolume_wellNamed kept.named, ?_, ?_⟩
  · unfold releaseVolume
    split
    · exact kept.priced
    · exact priced_of_update kept.priced (Volume.setReleased_bucket now) rfl (fun _ met => met)
  · unfold releaseVolume
    split
    · exact kept.balanced
    · exact kept.balanced.of_same rfl rfl
        (paid_of_update kept.balanced.paid (Volume.setReleased_bucket now) rfl (fun _ _ => rfl)
          (fun _ _ paid => paid.change rfl rfl rfl rfl rfl))

theorem topUp_kept (kept : Kept db) (amount : Int) :
    Kept (db.credit .topUp renterId amount) := by
  have volumes := Database.credit_volumes db .topUp renterId amount
  have rentals := Database.credit_rentals db .topUp renterId amount
  have paid : ∀ volume ∈ (db.credit .topUp renterId amount).volumes.rows,
      PaidUntil (db.credit .topUp renterId amount).rentals volume := by
    rw [volumes, rentals]
    exact kept.balanced.paid
  refine ⟨kept.named.of_same volumes, ?_, ?_⟩
  · rw [Priced, volumes]
    exact kept.priced
  · cases found : db.renters.lookup renterId with
    | none =>
      have same : db.credit .topUp renterId amount = db := by
        rw [Database.credit, found]
      rw [same]
      exact kept.balanced
    | some renter =>
      obtain ⟨remaining, movements⟩ :=
        @credit_movements db _ amount .topUp renterId found (by decide)
      refine kept.balanced.of_entries movements ?_ ?_ ?_ paid
      · intro movement member debit
        rw [mem_singleton.mp member] at debit
        cases debit
      · intro other
        rw [Database.chargedFor, rentals, sumOf_single]
        simp [Movement.taken, Database.chargedFor]
      · intro other
        rw [Database.periodsGrantedTo, rentals, sumOf_single]
        simp [Movement.debits, Database.periodsGrantedTo]

end Renting

variable {db after : Database} {action : VolumeAction}

theorem volumeNext_kept (fires : Fires volumeNext db action after) (kept : Kept db) :
    Kept after := by
  cases action with
  | rent renterId requestedGb outcome now =>
    cases fires
    exact (rentVolume_renting db renterId requestedGb outcome now).kept kept
  | release renterId now =>
    cases fires
    exact releaseVolume_kept kept
  | topUp renterId amount =>
    cases fires
    exact topUp_kept kept amount
  | billRenterVolumes now =>
    cases fires
    exact billRenterVolumes_kept kept

theorem volumeNext_openingBalance (fires : Fires volumeNext db action after)
    (kept : Kept db) (renterId : Nat) :
    openingBalance after renterId = openingBalance db renterId := by
  cases action with
  | rent tenant requestedGb outcome now =>
    cases fires
    exact (rentVolume_renting db tenant requestedGb outcome now).openingBalance renterId
  | release tenant now =>
    cases fires
    unfold releaseVolume
    split <;> rfl
  | topUp tenant amount =>
    cases fires
    exact openingBalance_credit db .topUp tenant amount renterId
  | billRenterVolumes now =>
    cases fires
    exact billRenterVolumes_openingBalance kept renterId

structure Unrented (db : Database) : Prop where
  volumes : db.volumes = Table.empty
  movements : db.movements = []
  rentals : db.rentals = []

theorem Unrented.kept (unrented : Unrented db) :
    Kept db := by
  have absent : ∀ volume, volume ∉ db.volumes.rows := by
    intro volume stored
    rw [unrented.volumes] at stored
    cases stored
  refine
    { named := fun volume stored => absurd stored (absent volume)
      priced := fun volume stored => absurd stored (absent volume)
      balanced := ?_ }
  refine ⟨?_, ?_, ?_, fun volume stored => absurd stored (absent volume)⟩
  · intro renterId
    rw [Database.takenFrom, Database.chargedFor, unrented.movements, unrented.rentals]
    rfl
  · intro renterId
    rw [Database.debitsOf, Database.periodsGrantedTo, unrented.movements, unrented.rentals]
    rfl
  · intro movement member
    rw [unrented.movements] at member
    cases member

/-- Over all orders of rentals, failures, releases, top-ups and sweeps: each
renter has been debited the price of every granted period, once for each
period, and nothing else; no debit overdrew a balance; rows are paid until the
end of their periods; and a rental that fails changes no balance. -/
theorem volumes_debited_by_period {start finish : Database}
    {actions : List VolumeAction} (unrented : Unrented start)
    (run : Run (Fires volumeNext) start actions finish) :
    Balanced finish ∧ (∀ renterId, finish.balanceOf renterId =
      start.balanceOf renterId + finish.toppedUpBy renterId - finish.chargedFor renterId) ∧
      ∀ renterId requestedGb outcome now,
        (rentVolume finish renterId requestedGb outcome now).2 ≠ none → ∀ other,
          (rentVolume finish renterId requestedGb outcome now).1.renters.lookup other =
            finish.renters.lookup other := by
  have kept := run.invariant Kept (fun kept fires => volumeNext_kept fires kept) unrented.kept
  refine ⟨kept.balanced, ?_, ?_⟩
  · intro renterId
    have opening := run.relates Kept (fun first second =>
        openingBalance second renterId = openingBalance first renterId)
        (fun _ => rfl) (fun earlier later => later.trans earlier)
        (fun kept fires => volumeNext_kept fires kept)
        (fun kept fires => volumeNext_openingBalance fires kept renterId)
        unrented.kept
    have charged := kept.balanced.charged renterId
    have before : openingBalance start renterId = start.balanceOf renterId := by
      rw [openingBalance, Database.takenFrom, Database.toppedUpBy, unrented.movements]
      exact (sub_zero _).trans (add_zero _)
    rw [before, openingBalance, charged] at opening
    omega
  · intro renterId requestedGb outcome now failed other
    exact (rentVolume_renting finish renterId requestedGb outcome now).refused_lookup failed other

theorem volumes_debited_by_period_sample :
    ∃ finish, execute volumeNext sampleVolumes
      [.rent 1 10 .rented 1, .billRenterVolumes (periodMs + 1000),
        .rent 2 20 .provisionFailed (periodMs + 1000),
        .release 1 (periodMs + 2000), .topUp 1 100,
        .rent 1 10 .rented (periodMs + 3000)] = some finish ∧
        Balanced finish ∧ finish.takenFrom 1 = 564 ∧
        finish.periodsGrantedTo 1 = 3 ∧ finish.balanceOf 1 = 99 ∧
        finish.takenFrom 2 = 0 := by
  obtain ⟨finish, executed, shown⟩ : ∃ finish, execute volumeNext sampleVolumes
      [.rent 1 10 .rented 1, .billRenterVolumes (periodMs + 1000),
        .rent 2 20 .provisionFailed (periodMs + 1000),
        .release 1 (periodMs + 2000), .topUp 1 100,
        .rent 1 10 .rented (periodMs + 3000)] = some finish ∧
          finish.takenFrom 1 = 564 ∧ finish.periodsGrantedTo 1 = 3 ∧
          finish.balanceOf 1 = 99 ∧ finish.takenFrom 2 = 0 :=
    exists_of_execute_any (by decide +kernel)
  have unrented : Unrented sampleVolumes := ⟨rfl, rfl, rfl⟩
  have balanced := (volumes_debited_by_period unrented (run_of_execute executed)).1
  exact ⟨finish, executed, balanced, shown⟩

/-- A renewal drops the milliseconds of the end that it advances. -/
theorem volume_period_loses_milliseconds :
    ∃ finish, execute volumeNext sampleVolumes
      [.rent 1 10 .rented 1, .billRenterVolumes (periodMs + 1000)] = some finish ∧
        (∃ volume ∈ finish.volumes.rows, ¬ PaidExactlyUntil finish.rentals volume) ∧
        finish.debitsOf 1 = 2 :=
  exists_of_execute_any (by decide +kernel)

end DcpPlatform.Volumes
