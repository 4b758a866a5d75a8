import DcpPlatform.Payouts.System

/-!
# Conservation of payout money

A provider's claimable earnings and its requests that are not rejected add up
to what it has earned. `Effect` lists what one piece of an operation can do to
the database.
-/

namespace DcpPlatform.Payouts

open Foundation Table List

/-! ## What an operation does to the money -/

def claimable (db : Database) (providerId : ProviderId) : Int :=
  match db.providers providerId with
  | some provider => provider.claimableEarningsHalala
  | none => 0

def heldAmount (providerId : ProviderId) (row : PayoutRequest) : Int :=
  if row.providerId = providerId ∧ row.status ≠ .rejected then
    row.amountHalala
  else
    0

def held (db : Database) (providerId : ProviderId) : Int :=
  db.payoutRequests.total (heldAmount providerId)

def Rejected (db : Database) (payoutId : PayoutId) : Prop :=
  ∃ row, db.payoutRequests.lookup payoutId = some row ∧ row.status = .rejected
deriving Decidable

def SameMoney (earlier later : PayoutRequest) : Prop :=
  later.providerId = earlier.providerId ∧ later.amountHalala = earlier.amountHalala

inductive Effect (db : Database) : Option PayoutId → Database → Prop
  | unchanged : Effect db none db
  | rewritten {payoutId : PayoutId} {change : PayoutRequest → PayoutRequest}
      (keeps : ∀ row, (change row).id = row.id) :
      (∀ row, SameMoney row (change row)) →
      (∀ row, db.payoutRequests.lookup payoutId = some row →
        ((change row).status = .rejected ↔ row.status = .rejected)) →
      Effect db none (db.updateRequest payoutId change keeps)
  | reserved {row : PayoutRequest} (fresh : db.payoutRequests.lookup row.id = none) :
      (db.providers row.providerId).isSome →
      row.status = .pending →
      0 ≤ row.amountHalala →
      row.amountHalala ≤ claimable db row.providerId →
      Effect db none { db.addClaimable row.providerId (-row.amountHalala) with
        payoutRequests := db.payoutRequests.insert row fresh }
  | released {row : PayoutRequest} {change : PayoutRequest → PayoutRequest}
      (keeps : ∀ row, (change row).id = row.id) :
      db.payoutRequests.lookup row.id = some row →
      row.status ≠ .rejected →
      (change row).status = .rejected →
      (∀ row, SameMoney row (change row)) →
      Effect db (some row.id)
        ((db.updateRequest row.id change keeps).addClaimable row.providerId row.amountHalala)

variable {db : Database}

theorem pendingHolds_nonneg (nonneg : ∀ row ∈ db.payoutRequests.rows, 0 ≤ row.amountHalala)
    (providerId : ProviderId) :
    0 ≤ pendingHoldsHalala db providerId := by
  apply total_nonneg
  intro row member
  split
  · exact nonneg row member
  · exact Int.le_refl 0

variable {providerId : ProviderId}

theorem claimable_of_found {provider : Provider} (found : db.providers providerId = some provider) :
    claimable db providerId = provider.claimableEarningsHalala := by
  simp [claimable, found]

variable {id : PayoutId} {now : Timestamp} {row : PayoutRequest} {after : Database}

theorem requestPayout_effect {amountUsd : Option ℚ} (fresh : db.payoutRequests.lookup id = none)
    (nonneg : ∀ row ∈ db.payoutRequests.rows, 0 ≤ row.amountHalala)
    (covered : 0 ≤ claimable db providerId)
    (succeeded : requestPayout db id now providerId amountUsd = Except.ok (after, row)) :
    Effect db none after := by
  obtain ⟨rfl, rfl, pending, _, amountNonneg,
    ⟨provider, found, available⟩, shape⟩ := requestPayout_eq_ok succeeded
  have holds := pendingHolds_nonneg nonneg row.providerId
  have balance := claimable_of_found found
  have enough : row.amountHalala ≤ claimable db row.providerId := by
    omega
  have exists_ : (db.providers row.providerId).isSome := by
    rw [found]
    rfl
  rw [shape, insertIfNew_of_fresh fresh]
  exact Effect.reserved fresh exists_ pending amountNonneg enough

variable {payoutId : PayoutId} {change : PayoutRequest → PayoutRequest}

theorem Effect.rewritten_of_found (keeps : ∀ row, (change row).id = row.id)
    (found : db.payoutRequests.lookup payoutId = some row)
    (money : ∀ row, SameMoney row (change row))
    (status : (change row).status = .rejected ↔ row.status = .rejected) :
    Effect db none (db.updateRequest payoutId change keeps) := by
  refine Effect.rewritten keeps money ?_
  intro other otherFound
  rw [found] at otherFound
  injection otherFound with same
  exact same ▸ status

variable {stored : Option PayoutRequest}

theorem markPayoutPaid_effect {paymentRef : Option String}
    (succeeded : markPayoutPaid db id now paymentRef = Except.ok (after, stored)) :
    Effect db none after := by
  obtain ⟨row, found, notRejected, rfl⟩ := markPayoutPaid_eq_ok succeeded
  refine Effect.rewritten_of_found _ found (fun _ => ⟨rfl, rfl⟩) ?_
  simp [setPaid, notRejected]

theorem rejectPayout_effect {reason : Option String}
    (succeeded : rejectPayout db id now reason = Except.ok (after, stored)) :
    Effect db (some id) after := by
  obtain ⟨row, found, rejectable, rfl⟩ := rejectPayout_eq_ok succeeded
  have rowId : row.id = id := lookup_key found
  have notRejected : row.status ≠ .rejected := by
    intro rejected
    simp [rejected] at rejectable
  subst rowId
  exact Effect.released _ found notRejected rfl (fun _ => ⟨rfl, rfl⟩)

theorem processPayout_effect {request : CreatePayout}
    (succeeded : processPayoutViaMoyasar db id now = Except.ok (after, request)) :
    Effect db none after := by
  obtain ⟨row, found, pending, _, _, rfl⟩ := processPayout_eq_ok succeeded
  refine Effect.rewritten_of_found _ found (fun _ => ⟨rfl, rfl⟩) ?_
  simp [setProcessing, pending]

theorem createPayoutReturned_effect
    (db : Database) (payoutId : PayoutId) (response : MoyasarPayout) :
    Effect db none (createPayoutReturned db payoutId response) :=
  Effect.rewritten _ (fun _ => ⟨rfl, rfl⟩) (fun _ _ => Iff.rfl)

theorem createPayoutFailed_effect (db : Database) (payoutId : PayoutId) :
    Effect db none (createPayoutFailed db payoutId) := by
  unfold createPayoutFailed
  by_cases claimed : db.payoutRequests.changes payoutId isClaimed
  · obtain ⟨row, found, processing, unsent⟩ := claimed
    rw [Database.updateRequestWhere_of_found found ⟨processing, unsent⟩]
    refine Effect.rewritten_of_found _ found (fun _ => ⟨rfl, rfl⟩) ?_
    simp [setPending, processing]
  · rw [Database.updateRequestWhere_of_unmet claimed]
    exact Effect.unchanged

def Current (db : Database) (snapshot : PayoutRequest) : Prop :=
  ∃ row, db.payoutRequests.lookup snapshot.id = some row ∧ SameMoney row snapshot

theorem isUnsettled_status (unsettled : isUnsettled row) :
    row.status ≠ .rejected := by
  intro rejected
  exact unsettled (Or.inr rejected)

variable {snapshot : PayoutRequest}

theorem fetchPayoutReturned_effect {response : MoyasarPayout} (current : Current db snapshot) :
    Effect db (if returnsHold (fetchPayoutReturned db snapshot now response).2 then
        some snapshot.id
      else
        none)
      (fetchPayoutReturned db snapshot now response).1 := by
  obtain ⟨stored, storedFound, sameProvider, sameAmount⟩ := current
  have fetched := fetchPayoutReturned_fetched db snapshot now response
  generalize fetchPayoutReturned db snapshot now response = outcome at fetched ⊢
  cases fetched with
  | paid found unsettled =>
    refine Effect.rewritten_of_found _ found (fun _ => ⟨rfl, rfl⟩) ?_
    simp [setSyncedPaid, isUnsettled_status unsettled]
  | rejected found unsettled _ =>
    have rowId : stored.id = snapshot.id := lookup_key storedFound
    have notRejected : stored.status ≠ .rejected := by
      rw [found] at storedFound
      injection storedFound with same
      exact same ▸ isUnsettled_status unsettled
    rw [sameProvider, sameAmount, ← rowId]
    exact Effect.released _ (rowId ▸ storedFound) notRejected rfl (fun _ => ⟨rfl, rfl⟩)
  | settledByPeer =>
    exact Effect.unchanged
  | inFlight =>
    exact Effect.rewritten _ (fun _ => ⟨rfl, rfl⟩) (fun _ _ => Iff.rfl)

/-- A stored request has a provider and a nonnegative amount. -/
def Sound (db : Database) (row : PayoutRequest) : Prop :=
  0 ≤ row.amountHalala ∧ (db.providers row.providerId).isSome

@[simp]
theorem addClaimable_payoutRequests (db : Database) (providerId : ProviderId) (amount : Int) :
    (db.addClaimable providerId amount).payoutRequests =
      db.payoutRequests :=
  rfl

@[simp]
theorem addClaimable_isSome (db : Database) (providerId other : ProviderId) (amount : Int) :
    ((db.addClaimable providerId amount).providers other).isSome = (db.providers other).isSome := by
  by_cases same : other = providerId <;> simp [Database.addClaimable, same]

theorem claimable_addClaimable {db : Database} {providerId : ProviderId}
    (exists_ : (db.providers providerId).isSome) (amount : Int)
    (other : ProviderId) :
    claimable (db.addClaimable providerId amount) other =
      claimable db other + if other = providerId then amount else 0 := by
  by_cases same : other = providerId
  · subst same
    obtain ⟨provider, found⟩ := Option.isSome_iff_exists.mp exists_
    simp [claimable, Database.addClaimable, found]
  · simp [claimable, Database.addClaimable, same]

theorem heldAmount_congr {earlier later : PayoutRequest} (money : SameMoney earlier later)
    (status : later.status = .rejected ↔ earlier.status = .rejected)
    (providerId : ProviderId) :
    heldAmount providerId later = heldAmount providerId earlier := by
  simp [heldAmount, money.1, money.2, status]

variable {ret : Option PayoutId}

theorem effect_conserves (sound : ∀ row ∈ db.payoutRequests.rows, Sound db row)
    (effect : Effect db ret after) (providerId : ProviderId) :
    claimable after providerId + held after providerId =
      claimable db providerId + held db providerId := by
  cases effect with
  | unchanged =>
    rfl
  | @rewritten payoutId change keeps money status =>
    have sameHeld :
        held (db.updateRequest payoutId change keeps) providerId = held db providerId := by
      cases found : db.payoutRequests.lookup payoutId with
      | none =>
        unfold held Database.updateRequest
        rw [update_of_absent change keeps found]
      | some row =>
        exact total_update_of_eq change keeps _ found
          (heldAmount_congr (money row) (status row found) providerId)
    rw [sameHeld]
    rfl
  | @reserved row fresh exists_ pending nonneg covered =>
    have balance := claimable_addClaimable exists_ (-row.amountHalala) providerId
    have total := total_insert db.payoutRequests row fresh (heldAmount providerId)
    have weight : heldAmount providerId row =
        if providerId = row.providerId then row.amountHalala
        else 0 := by
      simp [heldAmount, pending, eq_comm]
    change claimable (db.addClaimable _ _) providerId + _ = _
    rw [balance]
    change _ + (db.payoutRequests.insert row fresh).total _ = _
    rw [total, weight]
    unfold held
    split <;> ring
  | @released row change keeps found notRejected rejected money =>
    have exists_ : ((db.updateRequest row.id change keeps).providers row.providerId).isSome :=
      (sound row (lookup_mem found)).2
    have balance := claimable_addClaimable exists_ row.amountHalala providerId
    have total := total_update change keeps (heldAmount providerId) found
    have weightBefore : heldAmount providerId row =
        if providerId = row.providerId then row.amountHalala
        else 0 := by
      simp [heldAmount, notRejected, eq_comm]
    have weightAfter : heldAmount providerId (change row) = 0 := by
      simp [heldAmount, rejected]
    rw [balance]
    change _ + (db.payoutRequests.update row.id change keeps).total _ = _
    rw [total, weightBefore, weightAfter]
    change claimable db providerId + _ + _ = _
    unfold held
    split <;> ring

theorem effect_covered (sound : ∀ row ∈ db.payoutRequests.rows, Sound db row)
    (covered : ∀ providerId, 0 ≤ claimable db providerId)
    (effect : Effect db ret after) (providerId : ProviderId) :
    0 ≤ claimable after providerId := by
  cases effect with
  | unchanged | rewritten _ _ _ =>
    exact covered providerId
  | @reserved row fresh exists_ _ _ enough =>
    have balance := claimable_addClaimable exists_ (-row.amountHalala) providerId
    change 0 ≤ claimable (db.addClaimable _ _) providerId
    rw [balance]
    split
    · rename_i same
      subst same
      omega
    · simpa using covered providerId
  | @released row change keeps found _ _ _ =>
    have facts := sound row (lookup_mem found)
    have balance := @claimable_addClaimable (db.updateRequest row.id change keeps)
        row.providerId facts.2 row.amountHalala providerId
    rw [balance]
    have before : 0 ≤ claimable db providerId := covered providerId
    have nonneg := facts.1
    change 0 ≤ claimable db providerId + _
    split <;> omega

private theorem sound_update (keeps : ∀ row, (change row).id = row.id)
    (money : ∀ row, SameMoney row (change row))
    (sound : ∀ row ∈ db.payoutRequests.rows, Sound db row) :
    ∀ row ∈ (db.payoutRequests.update payoutId change keeps).rows, Sound db row := by
  intro row member
  obtain ⟨earlier, earlierMember, rfl⟩ := mem_map.mp member
  have facts := sound earlier earlierMember
  split
  · unfold Sound
    rw [(money earlier).1, (money earlier).2]
    exact facts
  · exact facts

theorem effect_sound (sound : ∀ row ∈ db.payoutRequests.rows, Sound db row)
    (effect : Effect db ret after) :
    ∀ row ∈ after.payoutRequests.rows, Sound after row := by
  cases effect with
  | unchanged =>
    exact sound
  | rewritten keeps money _ =>
    exact sound_update keeps money sound
  | @reserved row fresh exists_ _ nonneg _ =>
    intro other member
    rw [Sound, addClaimable_isSome]
    rcases mem_append.mp member with old | new
    · exact sound other old
    · rw [mem_singleton.mp new]
      exact ⟨nonneg, exists_⟩
  | released keeps _ _ _ money =>
    intro other member
    rw [Sound, addClaimable_isSome]
    exact sound_update keeps money sound other member

private theorem current_update (keeps : ∀ row, (change row).id = row.id)
    (money : ∀ row, SameMoney row (change row)) (current : Current db snapshot) :
    Current (db.updateRequest payoutId change keeps) snapshot := by
  obtain ⟨row, found, provider, amount⟩ := current
  by_cases same : snapshot.id = payoutId
  · subst same
    refine ⟨change row, lookup_update_of_some db.payoutRequests change keeps found, ?_, ?_⟩
    · rw [(money row).1, provider]
    · rw [(money row).2, amount]
  · refine ⟨row, ?_, provider, amount⟩
    exact (lookup_update_of_ne db.payoutRequests keeps same).trans found

theorem effect_current (current : Current db snapshot) (effect : Effect db ret after) :
    Current after snapshot := by
  cases effect with
  | unchanged =>
    exact current
  | rewritten keeps money _ | released keeps _ _ _ money =>
    exact current_update keeps money current
  | @reserved row fresh _ _ _ _ =>
    obtain ⟨earlier, found, money⟩ := current
    exact ⟨earlier, lookup_insert_of_some db.payoutRequests fresh found, money⟩

theorem effect_rejected (effect : Effect db ret after) (payoutId : PayoutId) :
    Rejected after payoutId ↔ Rejected db payoutId ∨ ret = some payoutId := by
  cases effect with
  | unchanged =>
    simp
  | @rewritten changed change keeps _ status =>
    simp only [Rejected, Database.updateRequest, lookup_update, reduceCtorEq, or_false]
    by_cases same : payoutId = changed
    · subst same
      rw [if_pos rfl]
      cases found : db.payoutRequests.lookup payoutId with
      | none =>
        simp
      | some row =>
        simpa using status row found
    · rw [if_neg same]
  | @reserved row fresh _ pending _ _ =>
    simp only [Rejected, lookup_insert, reduceCtorEq, or_false]
    by_cases same : row.id = payoutId
    · subst same
      simp [fresh, pending]
    · rw [if_neg same]
  | @released row change keeps found notRejected rejected _ =>
    simp only [Rejected, addClaimable_payoutRequests, Database.updateRequest, lookup_update]
    by_cases same : payoutId = row.id
    · subst same
      simp [found, rejected]
    · rw [if_neg same]
      simp [Ne.symm same]

theorem effect_returned (effect : Effect db (some payoutId) after) :
    ¬ Rejected db payoutId := by
  cases effect with
  | released _ found notRejected _ _ =>
    rintro ⟨row, rowFound, rejected⟩
    rw [found] at rowFound
    cases rowFound
    exact notRejected rejected

/-! ## Steps of the system -/

/-- Every provider's balance and requests add up to its earnings, no balance
is negative, suspended syncs hold rows that are still current, and the holds
returned are those of the rejected requests, each once. -/
structure Balanced (system : System) : Prop where
  conserved : ∀ providerId,
    claimable system.db providerId + held system.db providerId = system.earned providerId
  covered : ∀ providerId, 0 ≤ claimable system.db providerId
  sound : ∀ row ∈ system.db.payoutRequests.rows, Sound system.db row
  current : ∀ call ∈ system.fetching, Current system.db call.row
  returnedOnce : system.returned.Nodup
  returnedRejected : ∀ payoutId, payoutId ∈ system.returned ↔ Rejected system.db payoutId

/-- No balance is negative, requests are sound, and suspended syncs hold rows
that are still current. -/
structure Solvent (system : System) : Prop where
  covered : ∀ providerId, 0 ≤ claimable system.db providerId
  sound : ∀ row ∈ system.db.payoutRequests.rows, Sound system.db row
  current : ∀ call ∈ system.fetching, Current system.db call.row

theorem Balanced.solvent {system : System} (balanced : Balanced system) :
    Solvent system where
  covered := balanced.covered
  sound := balanced.sound
  current := balanced.current

inductive Booked (system : System) : System → Prop
  | effect {after : System} {ret : Option PayoutId} :
      Effect system.db ret after.db →
      after.earned = system.earned →
      after.returned = system.returned ++ ret.toList →
      Booked system after
  | earned {providerId : ProviderId} {amount : Nat} :
      (system.db.providers providerId).isSome →
      Booked system { system with
        db := system.db.addClaimable providerId amount
        earned := fun other =>
          if other = providerId then
            system.earned other + amount
          else
            system.earned other }

def Action.earns : Action → Bool
  | .earn _ _ => true
  | _ => false

variable {system after : System} {action : Action}

theorem step_effect (solvent : Solvent system)
    (step : Fires next system action after) (other : action.earns = false) :
    ∃ ret, Effect system.db ret after.db ∧ after.earned = system.earned ∧
      after.returned = system.returned ++ ret.toList := by
  cases step_outcome step with
  | @requested id now providerId amountUsd db row fresh done =>
    have nonneg : ∀ row ∈ system.db.payoutRequests.rows, 0 ≤ row.amountHalala :=
      fun row member => (solvent.sound row member).1
    exact ⟨none, requestPayout_effect fresh nonneg
      (solvent.covered providerId) done, rfl, (append_nil _).symm⟩
  | markedPaid done =>
    exact ⟨none, markPayoutPaid_effect done, rfl, (append_nil _).symm⟩
  | rejected done =>
    exact ⟨_, rejectPayout_effect done, rfl, rfl⟩
  | claimed done =>
    exact ⟨none, processPayout_effect done, rfl, (append_nil _).symm⟩
  | created _ =>
    exact ⟨none, createPayoutReturned_effect _ _ _, rfl, (append_nil _).symm⟩
  | createFailed _ =>
    exact ⟨none, createPayoutFailed_effect _ _, rfl, (append_nil _).symm⟩
  | fetched found _ =>
    have member := mem_of_getElem? found
    refine ⟨_, fetchPayoutReturned_effect (solvent.current _ member), rfl, ?_⟩
    split
    · rfl
    · exact (append_nil _).symm
  | earned known =>
    cases other
  | idle _ | accepted _ _ | fetching _ | fetchFailed
  | disbursementFailed =>
    exact ⟨none, Effect.unchanged, rfl, (append_nil _).symm⟩

theorem step_booked (solvent : Solvent system) (step : Fires next system action after) :
    Booked system after := by
  cases earns : action.earns with
  | false =>
    obtain ⟨ret, effect, earned, returned⟩ := step_effect solvent step earns
    exact Booked.effect effect earned returned
  | true =>
    cases step_outcome step with
    | earned known =>
      exact Booked.earned known
    | idle starts =>
      cases action with
      | earn providerId amount =>
        cases starts
      | _ =>
        cases earns
    | _ =>
      cases earns

theorem step_fetching (step : Fires next system action after) :
    ∀ call ∈ after.fetching, call ∈ system.fetching ∨
      (system.db.payoutRequests.lookup call.row.id = some call.row ∧
        call.row.moyasarPayoutId = some call.disbursement) := by
  intro call member
  cases step_outcome step with
  | fetching started =>
    rcases mem_append.mp member with old | new
    · exact Or.inl old
    · rw [mem_singleton.mp new]
      exact Or.inr (syncPayoutStatus_fetching started)
  | fetched _ _ | fetchFailed =>
    exact Or.inl (mem_of_mem_eraseIdx member)
  | idle _ | requested _ _ | markedPaid _ | rejected _ | claimed _
  | accepted _ _ | created _ | createFailed _ | disbursementFailed
  | earned _ =>
    exact Or.inl member

theorem booked_current (booked : Booked system after) (current : Current system.db snapshot) :
    Current after.db snapshot := by
  cases booked with
  | effect effect _ _ =>
    exact effect_current current effect
  | earned _ =>
    exact current

theorem solvent_step (solvent : Solvent system) (step : Fires next system action after) :
    Solvent after := by
  have booked := step_booked solvent step
  have current : ∀ call ∈ after.fetching, Current after.db call.row := by
    intro call member
    rcases step_fetching step call member with old | ⟨found, _⟩
    · exact booked_current booked (solvent.current call old)
    · exact booked_current booked ⟨call.row, found, rfl, rfl⟩
  cases booked with
  | effect effect _ _ =>
    exact ⟨effect_covered solvent.sound solvent.covered effect,
      effect_sound solvent.sound effect, current⟩
  | @earned providerId amount exists_ =>
    refine ⟨?_, ?_, current⟩
    · intro other
      have before := solvent.covered other
      have balance := claimable_addClaimable exists_ (amount : Int) other
      rw [balance]
      split <;> omega
    · intro row member
      have facts := solvent.sound row member
      rw [Sound, addClaimable_isSome]
      exact facts

theorem balanced_step (balanced : Balanced system) (step : Fires next system action after) :
    Balanced after := by
  have booked := step_booked balanced.solvent step
  obtain ⟨covered, sound, current⟩ := solvent_step balanced.solvent step
  cases booked with
  | @effect _ ret effect earned returned =>
    refine ⟨?_, covered, sound, current, ?_, ?_⟩
    · intro providerId
      rw [effect_conserves balanced.sound effect, earned]
      exact balanced.conserved providerId
    · rw [returned]
      cases ret with
      | none =>
        simpa using balanced.returnedOnce
      | some payoutId =>
        have fresh : payoutId ∉ system.returned := by
          rw [balanced.returnedRejected]
          exact effect_returned effect
        rw [Option.toList_some, ← concat_eq_append]
        exact balanced.returnedOnce.concat fresh
    · intro payoutId
      rw [effect_rejected effect, returned, mem_append, balanced.returnedRejected]
      simp
  | @earned providerId amount exists_ =>
    refine ⟨?_, covered, sound, current, balanced.returnedOnce, balanced.returnedRejected⟩
    intro other
    have before := balanced.conserved other
    dsimp only
    rw [claimable_addClaimable exists_ (amount : Int) other]
    change _ + held system.db other = _
    split <;> omega

theorem balanced_initial (initial : system.Initial) :
    Balanced system := by
  have nothingHeld (providerId : ProviderId) :
      held system.db providerId = 0 := by
    rw [held, initial.noRequests]
    exact total_empty _
  have noRow (payoutId : PayoutId) :
      system.db.payoutRequests.lookup payoutId = none := by
    rw [initial.noRequests]
    rfl
  refine ⟨?_, ?_, ?_, ?_, ?_, ?_⟩
  · intro providerId
    rw [nothingHeld]
    cases found : system.db.providers providerId with
    | none =>
      simp [claimable, found, initial.noProvider providerId found]
    | some provider =>
      have facts := initial.claimable providerId provider found
      simp [claimable, found, facts.2]
  · intro providerId
    cases found : system.db.providers providerId with
    | none =>
      simp [claimable, found]
    | some provider =>
      have facts := initial.claimable providerId provider found
      simp [claimable, found, facts.1]
  · intro row member
    rw [initial.noRequests] at member
    cases member
  · intro call member
    rw [initial.noFetching] at member
    cases member
  · rw [initial.noneReturned]
    exact nodup_nil
  · intro payoutId
    simp [initial.noneReturned, Rejected, noRow]

/-- In every state of every interleaving a provider's claimable earnings and
the requests that are not rejected add up to what it has earned, no balance
is negative, and a hold is returned once, for a rejected request. -/
theorem payouts_conserve_earnings {start finish : System} {actions : List Action}
    (initial : start.Initial) (run : Run (Fires next) start actions finish) :
    (∀ providerId,
      claimable finish.db providerId + held finish.db providerId = finish.earned providerId) ∧
      (∀ providerId, 0 ≤ claimable finish.db providerId) ∧
      finish.returned.Nodup ∧
      (∀ payoutId, payoutId ∈ finish.returned ↔ Rejected finish.db payoutId) := by
  have balanced : Balanced finish := run.invariant Balanced balanced_step (balanced_initial initial)
  exact ⟨balanced.conserved, balanced.covered, balanced.returnedOnce, balanced.returnedRejected⟩

def sampleSystem : System where
  db :=
    { providers := fun providerId =>
      if providerId = 1 then
        some ⟨40000, false, some "SA03", some "Provider"⟩
      else
        none
      payoutRequests := Table.empty }
  creating := []
  fetching := []
  disbursements := Table.empty
  earned := fun providerId => if providerId = 1 then 40000 else 0
  returned := []

theorem sampleSystem_initial : sampleSystem.Initial where
  noRequests := rfl
  noCreating := rfl
  noFetching := rfl
  noDisbursements := rfl
  noneReturned := rfl
  claimable := by
    intro providerId provider found
    by_cases known : providerId = 1
    · simp only [sampleSystem, if_pos known, Option.some.injEq] at found
      simp [sampleSystem, known, ← found]
    · simp [sampleSystem, known] at found
  noProvider := by
    intro providerId missing
    by_cases known : providerId = 1
    · simp [sampleSystem, known] at missing
    · simp [sampleSystem, known]

def sampleFailure : List Action :=
  [.requestPayout 7 0 1 (some 60), .processPayout 7 1, .gatewayAccepts 0 900,
    .createReturns 0 ⟨900, "queued", none, none, none⟩,
    .syncPayout 7,
    .disbursementFails 900,
    .fetchReturns 0 2 ⟨900, "failed", none, none, none⟩]

theorem payouts_conserve_earnings_sample :
    ∃ finish, execute next sampleSystem sampleFailure = some finish ∧
      claimable finish.db 1 + held finish.db 1 = finish.earned 1 ∧
      finish.returned = [7] := by
  have completes : (execute next sampleSystem sampleFailure).map System.returned = some [7] := by
    decide +kernel
  obtain ⟨finish, executed, returned⟩ := Option.map_eq_some_iff.mp completes
  have facts := payouts_conserve_earnings sampleSystem_initial (run_of_execute executed)
  exact ⟨finish, executed, facts.1 1, returned⟩

end DcpPlatform.Payouts
