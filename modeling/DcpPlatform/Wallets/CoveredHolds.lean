import DcpPlatform.Wallets.NonNegative

/-!
# Credit holds are covered

A dispatch places a hold that the available balance covers, and the end of a
job resolves it for good. Nothing in `completeJob` compares the actual cost
with the hold, and a job that costs more takes money that other holds have
reserved.
-/

namespace DcpPlatform.Wallets

open Foundation Table List Option

inductive Call where
  | dispatch (renterId jobId : Nat) (estimatedCostHalala : Int)
  | completeJob (jobId : Nat) (actualCostHalala : Int)
  | failJob (jobId : Nat)

def Call.action : Call → Action
  | .dispatch renterId jobId estimatedCostHalala =>
    .dispatch renterId jobId estimatedCostHalala
  | .completeJob jobId actualCostHalala =>
    .completeJob jobId actualCostHalala
  | .failJob jobId => .failJob jobId

def callNext (db : Database) (call : Call) : Option Database :=
  next db call.action

/-! ## The property -/

def CreditHold.reservedFor (renterId : Nat) (hold : CreditHold) : Int :=
  if hold.renterId = renterId ∧ hold.status = .held then
    hold.amountHalala
  else
    0

def Database.reserved (db : Database) (renterId : Nat) : Int :=
  db.creditHolds.total (CreditHold.reservedFor renterId)

def Database.HoldsCovered (db : Database) : Prop :=
  ∀ renterId, ∀ balance ∈ db.balanceOf renterId, db.reserved renterId ≤ balance

/-- The hold of a job has left the status `held`. -/
def Database.Resolved (db : Database) (jobId : Nat) : Prop :=
  ∃ hold ∈ db.creditHolds.lookup jobId, hold.status ≠ .held

instance (db : Database) (jobId : Nat) : Decidable (db.Resolved jobId) :=
  inferInstanceAs (Decidable (∃ _ ∈ _, _))

def DebitsAtMost (before after : Database) (target : Nat) (most : Int) :
    Prop :=
  ∀ renterId, ∀ balance ∈ before.balanceOf renterId,
    ∀ later ∈ after.balanceOf renterId, balance - later ≤ if renterId = target then most else 0

def Database.liveHolds (db : Database) (jobId : Nat) : List CreditHold :=
  db.creditHolds.rows.filter (fun hold =>
    hold.jobId = jobId ∧ hold.status = .held)

structure Proper (before : Database) (call : Call) (after : Database) :
    Prop where
  covered : after.HoldsCovered
  completed : ∀ jobId actualCostHalala, call = .completeJob jobId actualCostHalala →
    ∀ hold ∈ before.heldFor jobId,
      DebitsAtMost before after hold.renterId hold.amountHalala ∧ after.Resolved jobId
  failed : ∀ jobId, call = .failJob jobId →
    after.jobs = before.jobs ∧ ∀ _hold ∈ before.heldFor jobId, after.Resolved jobId
  dispatched : ∀ renterId jobId estimatedCostHalala,
    call = .dispatch renterId jobId estimatedCostHalala → after.jobs = before.jobs ∧
      (∀ hold ∈ before.heldFor jobId, after.liveHolds jobId = [hold]) ∧
      ∀ reached, dispatch before renterId jobId estimatedCostHalala = .ok reached →
        (after.liveHolds jobId).length = 1
  kept : ∀ jobId, ∀ hold ∈ before.creditHolds.lookup jobId,
    hold.status ≠ .held → after.creditHolds.lookup jobId = some hold

/-- The steps of a run in which the hold of a job leaves `held`. -/
def leavings (jobId : Nat) : Database → List Call → Nat
  | _, [] => 0
  | db, call :: rest =>
    let after := perform db call.action
    (if (db.heldFor jobId).isSome = true ∧ after.heldFor jobId = none then
      1
    else
      0) + leavings jobId after rest

def WithinHold (db : Database) : Call → Prop
  | .completeJob jobId actualCostHalala =>
    ∀ hold ∈ db.heldFor jobId, actualCostHalala ≤ hold.amountHalala
  | _ => True

instance (db : Database) : DecidablePred (WithinHold db)
  | .completeJob jobId actualCostHalala =>
    inferInstanceAs (Decidable (∀ hold ∈ db.heldFor jobId, actualCostHalala ≤ hold.amountHalala))
  | .dispatch _ _ _ | .failJob _ => inferInstanceAs (Decidable True)

structure HoldsSound (db : Database) : Prop where
  covered : db.HoldsCovered
  nonneg : ∀ hold ∈ db.creditHolds.rows, 0 ≤ hold.amountHalala
  known : ∀ hold ∈ db.creditHolds.rows, (db.balanceOf hold.renterId).isSome

section Lookups

variable {db : Database} {jobId renterId : Nat} {hold : CreditHold}

theorem heldFor_eq_some :
    db.heldFor jobId = some hold ↔
      db.creditHolds.lookup jobId = some hold ∧ hold.status = .held := by
  rw [Database.heldFor, filter_eq_some_iff]
  exact and_congr Iff.rfl decide_eq_true_iff

theorem not_resolved_of_held (held : db.heldFor jobId = some hold) :
    ¬ db.Resolved jobId := by
  rintro ⟨other, found, resolved⟩
  obtain ⟨stored, live⟩ := heldFor_eq_some.mp held
  rw [mem_def, stored] at found
  injection found with same
  exact resolved (same ▸ live)

theorem liveHolds_of_held (held : db.heldFor jobId = some hold) :
    db.liveHolds jobId = [hold] := by
  obtain ⟨stored, live⟩ := heldFor_eq_some.mp held
  have filtered := filter_of_lookup stored (fun hold : CreditHold => hold.status = .held)
  rw [if_pos live] at filtered
  exact filtered

theorem getAvailableBalance_eq (db : Database) (renterId : Nat) :
    db.getAvailableBalance renterId = (db.balanceOf renterId).map (fun balance =>
      balance - db.reserved renterId) := by
  rw [Database.getAvailableBalance]
  have sums := sum_filter (fun hold : CreditHold =>
      hold.renterId = renterId ∧ hold.status = .held)
      CreditHold.amountHalala db.creditHolds.rows
  rw [sums]
  rfl

end Lookups

theorem dispatch_cases {db after : Database} {renterId jobId : Nat} {estimatedCostHalala : Int}
    (dispatched : dispatch db renterId jobId estimatedCostHalala = .ok after) :
    (after = db ∧ ∃ hold, db.heldFor jobId = some hold) ∨
      ∃ fresh : db.creditHolds.lookup jobId = none, 0 ≤ estimatedCostHalala ∧
        (∃ balance, db.balanceOf renterId = some balance ∧
          db.reserved renterId + estimatedCostHalala ≤ balance) ∧
        after = { db with
          creditHolds := db.creditHolds.insert ⟨jobId, renterId, estimatedCostHalala, .held, none⟩
            fresh } := by
  unfold dispatch at dispatched
  split at dispatched
  · cases dispatched
  · rename_i nonneg
    split at dispatched
    · cases dispatched
    · rename_i available balanced
      rw [getAvailableBalance_eq] at balanced
      obtain ⟨balance, found, same⟩ := map_eq_some_iff.mp balanced
      split at dispatched
      · cases dispatched
      · rename_i covered
        split at dispatched
        · rename_i hold reused
          injection dispatched with unchanged
          exact Or.inl ⟨unchanged.symm, hold, (filter_eq_some_iff.mp reused).1⟩
        · split at dispatched
          · rename_i fresh
            injection dispatched with inserted
            exact Or.inr ⟨fresh, by omega, ⟨balance, found, by omega⟩, inserted.symm⟩
          · cases dispatched

structure Resolves (jobId : Nat) (hold : CreditHold) (before after : Database) : Prop where
  written : ∃ status actual, status ≠ .held ∧ ∃ keeps,
    after.creditHolds = before.creditHolds.update jobId (CreditHold.resolve status actual) keeps

section Resolves

variable {before after : Database} {jobId : Nat} {hold : CreditHold}

variable (resolves : Resolves jobId hold before after)

include resolves

theorem Resolves.resolved (held : before.heldFor jobId = some hold) : after.Resolved jobId := by
  obtain ⟨status, actual, ended, keeps, written⟩ := resolves.written
  refine ⟨hold.resolve status actual, ?_, ended⟩
  rw [written]
  exact lookup_update_of_some _ _ keeps (heldFor_eq_some.mp held).1

theorem Resolves.reserved (held : before.heldFor jobId = some hold) (renterId : Nat) :
    after.reserved renterId = before.reserved renterId - hold.reservedFor renterId := by
  obtain ⟨status, actual, ended, keeps, written⟩ := resolves.written
  have resolvedHold : (hold.resolve status actual).reservedFor renterId = 0 := if_neg (ended ·.2)
  rw [Database.reserved, written, total_update _ keeps _ (heldFor_eq_some.mp held).1, resolvedHold,
    add_zero]
  rfl

theorem Resolves.lookup_of_ne {other : Nat} (different : other ≠ jobId) :
    after.creditHolds.lookup other = before.creditHolds.lookup other := by
  obtain ⟨status, actual, ended, keeps, written⟩ := resolves.written
  rw [written]
  exact lookup_update_of_ne _ keeps different

theorem Resolves.row {row : CreditHold} (member : row ∈ after.creditHolds.rows) :
    ∃ earlier ∈ before.creditHolds.rows,
      earlier.renterId = row.renterId ∧ earlier.amountHalala = row.amountHalala := by
  obtain ⟨status, actual, ended, keeps, written⟩ := resolves.written
  rw [written] at member
  obtain ⟨earlier, stored, same⟩ := mem_map.mp member
  refine ⟨earlier, stored, ?_⟩
  rw [← same]
  split
  · exact ⟨rfl, rfl⟩
  · exact ⟨rfl, rfl⟩

end Resolves

variable {db : Database} {jobId : Nat} {hold : CreditHold}

theorem completeJob_resolves (held : db.heldFor jobId = some hold) (actualCostHalala : Int) :
    Resolves jobId hold db (completeJob db jobId actualCostHalala).1 := by
  refine ⟨.settled, max 0 actualCostHalala, by decide, CreditHold.resolve_jobId _ _, ?_⟩
  rw [completeJob, held]
  dsimp only
  by_cases costly : 0 < max 0 actualCostHalala
  · rw [if_pos costly]
    rfl
  · rw [if_neg costly]

theorem completeJob_moves (held : db.heldFor jobId = some hold) (actualCostHalala : Int) :
    Moves db (completeJob db jobId actualCostHalala).1
      (onlyFor hold.renterId (-max 0 actualCostHalala)) := by
  rw [completeJob, held]
  dsimp only
  by_cases costly : 0 < max 0 actualCostHalala
  · rw [if_pos costly]
    exact addBalance_moves db hold.renterId (-max 0 actualCostHalala)
  · have free : max 0 actualCostHalala = 0 := by omega
    rw [if_neg costly, free]
    intro renterId
    change db.balanceOf renterId = _
    cases db.balanceOf renterId with
    | none => rfl
    | some balance => simp [onlyFor]

theorem failJob_resolves (held : db.heldFor jobId = some hold) :
    Resolves jobId hold db (failJob db jobId).1 := by
  refine ⟨.released, 0, by decide, CreditHold.resolve_jobId _ _, ?_⟩
  rw [failJob, held]

theorem balanceOf_of_jobs {before after : Database}
    (same : after.jobs = before.jobs) (renterId : Nat) :
    after.balanceOf renterId = before.balanceOf renterId := by
  rw [Database.balanceOf, same]
  rfl

section Sound

variable {before after : Database} {jobId : Nat} {hold : CreditHold}

theorem HoldsSound.insert (sound : HoldsSound before) {renterId : Nat}
    {amount balance : Int} (fresh : before.creditHolds.lookup jobId = none)
    (nonneg : 0 ≤ amount) (found : before.balanceOf renterId = some balance)
    (covered : before.reserved renterId + amount ≤ balance) :
    HoldsSound { before with
      creditHolds := before.creditHolds.insert ⟨jobId, renterId, amount, .held, none⟩ fresh } where
  covered := by
    intro other otherBalance otherFound
    have enough := sound.covered other otherBalance otherFound
    have total := total_insert before.creditHolds ⟨jobId, renterId, amount, .held, none⟩ fresh
        (CreditHold.reservedFor other)
    change (before.creditHolds.insert _ fresh).total _ ≤ otherBalance
    rw [total]
    change before.reserved other + _ ≤ _
    by_cases same : other = renterId
    · subst same
      have equal : balance = otherBalance := by
        have both : before.balanceOf other = some otherBalance := otherFound
        rw [found] at both
        injection both
      rw [CreditHold.reservedFor, if_pos ⟨rfl, rfl⟩, ← equal]
      exact covered
    · rw [CreditHold.reservedFor, if_neg (same ·.1.symm), add_zero]
      exact enough
  nonneg := by
    intro row member
    rcases mem_append.mp member with old | new
    · exact sound.nonneg row old
    · rw [mem_singleton.mp new]
      exact nonneg
  known := by
    intro row member
    rcases mem_append.mp member with old | new
    · exact sound.known row old
    · rw [mem_singleton.mp new]
      change (before.balanceOf renterId).isSome = true
      rw [found]
      rfl

theorem HoldsSound.resolve (sound : HoldsSound before) (resolves : Resolves jobId hold before after)
    (held : before.heldFor jobId = some hold) {amount : Int}
    (moves : Moves before after (onlyFor hold.renterId (-amount)))
    (within : amount ≤ hold.amountHalala) : HoldsSound after where
  covered := by
    intro renterId later found
    rw [moves] at found
    obtain ⟨balance, stored, same⟩ := map_eq_some_iff.mp found
    have enough := sound.covered renterId balance stored
    have nonneg := sound.nonneg hold (lookup_mem (heldFor_eq_some.mp held).1)
    rw [resolves.reserved held renterId, ← same, onlyFor, CreditHold.reservedFor]
    by_cases owner : renterId = hold.renterId
    · rw [if_pos owner, if_pos ⟨owner.symm, (heldFor_eq_some.mp held).2⟩]
      omega
    · rw [if_neg owner, if_neg (owner ·.1.symm)]
      omega
  nonneg := by
    intro row member
    obtain ⟨earlier, stored, _, amount⟩ := resolves.row member
    rw [← amount]
    exact sound.nonneg earlier stored
  known := by
    intro row member
    obtain ⟨earlier, stored, renter, _⟩ := resolves.row member
    rw [← renter, moves, isSome_map]
    exact sound.known earlier stored

end Sound

section Step

variable {db : Database} {jobId : Nat} {after : Database} {hold : CreditHold}

theorem Resolves.kept (resolves : Resolves jobId hold db after)
    (held : db.heldFor jobId = some hold) (other : Nat) :
    ∀ row ∈ db.creditHolds.lookup other, row.status ≠ .held →
      after.creditHolds.lookup other = some row := by
  intro row found ended
  by_cases same : other = jobId
  · rw [same] at found
    exact absurd ⟨row, found, ended⟩ (not_resolved_of_held held)
  · rw [resolves.lookup_of_ne same]
    exact found

theorem completeJob_of_none (absent : db.heldFor jobId = none) (actualCostHalala : Int) :
    (completeJob db jobId actualCostHalala).1 = db := by
  rw [completeJob, absent]

theorem failJob_of_none (absent : db.heldFor jobId = none) :
    (failJob db jobId).1 = db := by
  rw [failJob, absent]

variable (sound : HoldsSound db)

include sound

theorem debitsAtMost_iff (held : db.heldFor jobId = some hold) {actualCostHalala : Int}
    (moves : Moves db after (onlyFor hold.renterId (-max 0 actualCostHalala))) :
    DebitsAtMost db after hold.renterId hold.amountHalala ↔
      actualCostHalala ≤ hold.amountHalala := by
  have member := lookup_mem (heldFor_eq_some.mp held).1
  have nonneg := sound.nonneg hold member
  constructor
  · intro most
    obtain ⟨balance, found⟩ := isSome_iff_exists.mp (sound.known hold member)
    have taken := most hold.renterId balance found
      (balance + onlyFor hold.renterId (-max 0 actualCostHalala)
        hold.renterId balance) (by rw [moves, found]; rfl)
    have amount : onlyFor hold.renterId (-max 0 actualCostHalala) hold.renterId
        balance = -max 0 actualCostHalala :=
      if_pos rfl
    rw [if_pos rfl, amount] at taken
    omega
  · intro within renterId balance found later laterFound
    rw [moves, mem_def.mp found] at laterFound
    injection laterFound with same
    have moved : later = balance + (if renterId = hold.renterId then -max 0 actualCostHalala
        else 0) := same.symm
    rw [moved]
    by_cases owner : renterId = hold.renterId
    · rw [if_pos owner, if_pos owner]
      omega
    · rw [if_neg owner, if_neg owner]
      omega

theorem proper_completeJob_iff (actualCostHalala : Int) :
    Proper db (.completeJob jobId actualCostHalala) (completeJob db jobId actualCostHalala).1 ↔
      WithinHold db (.completeJob jobId actualCostHalala) := by
  cases held : db.heldFor jobId with
  | none =>
    have condition : WithinHold db (.completeJob jobId actualCostHalala) := by
      intro hold found
      rw [held] at found
      cases found
    rw [completeJob_of_none held]
    refine iff_of_true ?_ condition
    exact
      { covered := sound.covered
        completed := by
          intro other cost same hold found
          injection same with same
          rw [← same, held] at found
          cases found
        failed := by
          intro other same
          cases same
        dispatched := by
          intro renterId other estimated same
          cases same
        kept := fun _ _ found _ => found }
  | some hold =>
    have resolves := completeJob_resolves held actualCostHalala
    have moves := completeJob_moves held actualCostHalala
    have atMost := debitsAtMost_iff sound held moves
    constructor
    · intro proper other found
      rw [held] at found
      cases found
      exact atMost.mp (proper.completed jobId actualCostHalala rfl hold held).1
    · intro within
      have cost := within hold held
      have nonneg := sound.nonneg hold (lookup_mem (heldFor_eq_some.mp held).1)
      exact
        { covered := (sound.resolve resolves held moves (by omega)).covered
          completed := by
            intro other otherCost same row found
            injection same with sameJob sameCost
            subst sameJob
            rw [held] at found
            cases found
            exact ⟨atMost.mpr cost, resolves.resolved held⟩
          failed := by
            intro other same
            cases same
          dispatched := by
            intro renterId other estimated same
            cases same
          kept := fun other => resolves.kept held other }

theorem proper_failJob :
    Proper db (.failJob jobId) (failJob db jobId).1 := by
  have jobs := failJob_renters db jobId
  have covered : (failJob db jobId).1.HoldsCovered ∧
      (∀ hold ∈ db.heldFor jobId, (failJob db jobId).1.Resolved jobId) ∧
      ∀ other, ∀ row ∈ db.creditHolds.lookup other, row.status ≠ .held →
        (failJob db jobId).1.creditHolds.lookup other = some row := by
    cases held : db.heldFor jobId with
    | none =>
      rw [failJob_of_none held]
      refine ⟨sound.covered, ?_, fun _ _ found _ => found⟩
      intro hold found
      cases found
    | some hold =>
      have resolves := failJob_resolves held
      refine ⟨?_, fun _ _ => resolves.resolved held, fun other => resolves.kept held other⟩
      intro renterId balance found
      rw [balanceOf_of_jobs jobs] at found
      have enough := sound.covered renterId balance found
      have nonneg := sound.nonneg hold (lookup_mem (heldFor_eq_some.mp held).1)
      have counted : 0 ≤ hold.reservedFor renterId := by
        rw [CreditHold.reservedFor]
        split
        · exact nonneg
        · exact Int.le_refl 0
      rw [resolves.reserved held renterId]
      omega
  exact
    { covered := covered.1
      completed := by
        intro other cost same
        cases same
      failed := by
        intro other same
        cases same
        exact ⟨jobs, covered.2.1⟩
      dispatched := by
        intro renterId other estimated same
        cases same
      kept := covered.2.2 }

theorem proper_dispatch (renterId jobId : Nat) (estimatedCostHalala : Int) :
    Proper db (.dispatch renterId jobId estimatedCostHalala)
      (perform db (.dispatch renterId jobId estimatedCostHalala)) ∧
      HoldsSound (perform db (.dispatch renterId jobId estimatedCostHalala)) := by
  have unchanged : ∀ (_ : ∀ reached, dispatch db renterId jobId estimatedCostHalala = .ok reached →
      reached = db ∧ ∃ hold, db.heldFor jobId = some hold),
      Proper db (.dispatch renterId jobId estimatedCostHalala) db := by
    intro reuses
    exact
      { covered := sound.covered
        completed := by
          intro other cost same
          cases same
        failed := by
          intro other same
          cases same
        dispatched := by
          intro otherRenter other estimated same
          injection same with sameRenter sameJob sameEstimate
          subst sameRenter
          subst sameJob
          subst sameEstimate
          refine ⟨rfl, fun _ => liveHolds_of_held, ?_⟩
          intro reached dispatched
          obtain ⟨_, hold, held⟩ := reuses reached dispatched
          rw [liveHolds_of_held held]
          rfl
        kept := fun _ _ found _ => found }
  cases dispatched : dispatch db renterId jobId estimatedCostHalala with
  | error failure =>
    simp only [perform, dispatched]
    refine ⟨unchanged ?_, sound⟩
    intro reached reaches
    rw [dispatched] at reaches
    cases reaches
  | ok after =>
    simp only [perform, dispatched]
    rcases dispatch_cases dispatched with
      ⟨same, held⟩ | ⟨fresh, nonneg, ⟨balance, found, covers⟩, same⟩
    · subst same
      refine ⟨unchanged ?_, sound⟩
      intro reached reaches
      rw [dispatched] at reaches
      injection reaches with same
      exact ⟨same.symm, held⟩
    · have later := sound.insert fresh nonneg found covers
      rw [← same] at later
      have placed :
          after.heldFor jobId = some ⟨jobId, renterId, estimatedCostHalala, .held, none⟩ := by
        rw [heldFor_eq_some, same]
        exact ⟨lookup_insert_self db.creditHolds _ fresh, rfl⟩
      refine ⟨?_, later⟩
      exact
        { covered := later.covered
          completed := by
            intro other cost equal
            cases equal
          failed := by
            intro other equal
            cases equal
          dispatched := by
            intro otherRenter other estimated equal
            injection equal with _ sameJob _
            subst sameJob
            refine ⟨by rw [same], ?_, ?_⟩
            · intro hold held
              have stored := (heldFor_eq_some.mp held).1
              rw [fresh] at stored
              cases stored
            · intro _ _
              rw [liveHolds_of_held placed]
              rfl
          kept := by
            intro other row stored _
            rw [same]
            exact lookup_insert_of_some db.creditHolds fresh stored }

theorem proper_iff_within (call : Call) :
    Proper db call (perform db call.action) ↔ WithinHold db call := by
  cases call with
  | dispatch renterId jobId estimatedCostHalala =>
    exact iff_of_true (proper_dispatch sound renterId jobId estimatedCostHalala).1 trivial
  | completeJob jobId actualCostHalala =>
    exact proper_completeJob_iff sound actualCostHalala
  | failJob jobId => exact iff_of_true (proper_failJob sound) trivial

theorem sound_perform {call : Call} (within : WithinHold db call) :
    HoldsSound (perform db call.action) := by
  cases call with
  | dispatch renterId jobId estimatedCostHalala =>
    exact (proper_dispatch sound renterId jobId estimatedCostHalala).2
  | completeJob jobId actualCostHalala =>
    change HoldsSound (completeJob db jobId actualCostHalala).1
    cases held : db.heldFor jobId with
    | none =>
      rw [completeJob_of_none held]
      exact sound
    | some hold =>
      have nonneg := sound.nonneg hold (lookup_mem (heldFor_eq_some.mp held).1)
      have cost := within hold held
      exact sound.resolve (completeJob_resolves held actualCostHalala)
        held (completeJob_moves held actualCostHalala) (by omega)
  | failJob jobId =>
    change HoldsSound (failJob db jobId).1
    cases held : db.heldFor jobId with
    | none =>
      rw [failJob_of_none held]
      exact sound
    | some hold =>
      have nonneg := sound.nonneg hold (lookup_mem (heldFor_eq_some.mp held).1)
      have moves : Moves db (failJob db jobId).1 (onlyFor hold.renterId (-0)) := by
        intro renterId
        rw [balanceOf_of_jobs (failJob_renters db jobId)]
        cases db.balanceOf renterId with
        | none => rfl
        | some balance => simp [onlyFor]
      exact sound.resolve (failJob_resolves held) held moves nonneg

end Step

section Leaving

variable {jobId : Nat}

theorem hold_cases (db : Database) (call : Call) (jobId : Nat) :
    (perform db call.action).creditHolds.lookup jobId = db.creditHolds.lookup jobId ∨
      (db.creditHolds.lookup jobId = none ∧
        ∃ hold, (perform db call.action).heldFor jobId = some hold) ∨
      ((∃ hold, db.heldFor jobId = some hold) ∧ (perform db call.action).Resolved jobId) := by
  have resolving : ∀ {target : Nat} {hold : CreditHold} {after : Database},
      Resolves target hold db after → db.heldFor target = some hold →
        after.creditHolds.lookup jobId = db.creditHolds.lookup jobId ∨
          (∃ hold, db.heldFor jobId = some hold) ∧ after.Resolved jobId := by
    intro target hold after resolves held
    by_cases same : jobId = target
    · subst same
      exact Or.inr ⟨⟨hold, held⟩, resolves.resolved held⟩
    · exact Or.inl (resolves.lookup_of_ne same)
  cases call with
  | dispatch renterId target estimatedCostHalala =>
    cases dispatched : dispatch db renterId target estimatedCostHalala with
    | error failure =>
      have same : perform db (Call.dispatch renterId target estimatedCostHalala).action =
          db := by
        simp [Call.action, perform, dispatched]
      rw [same]
      exact Or.inl rfl
    | ok after =>
      simp only [Call.action, perform, dispatched]
      rcases dispatch_cases dispatched with ⟨same, _⟩ | ⟨fresh, _, _, same⟩
      · rw [same]
        exact Or.inl rfl
      · by_cases here : jobId = target
        · subst here
          refine Or.inr (Or.inl ⟨fresh, ⟨jobId, renterId, estimatedCostHalala, .held, none⟩, ?_⟩)
          rw [heldFor_eq_some, same]
          exact ⟨lookup_insert_self db.creditHolds _ fresh, rfl⟩
        · rw [same]
          exact Or.inl (lookup_insert_of_ne db.creditHolds fresh (here ·.symm))
  | completeJob target actualCostHalala =>
    change (completeJob db target actualCostHalala).1.creditHolds.lookup jobId = _ ∨ _ ∧ (∃ hold,
      (completeJob db target actualCostHalala).1.heldFor jobId = some hold) ∨ _
    cases held : db.heldFor target with
    | none =>
      rw [completeJob_of_none held]
      exact Or.inl rfl
    | some hold =>
      exact (resolving (completeJob_resolves held actualCostHalala) held).imp_right Or.inr
  | failJob target =>
    change (failJob db target).1.creditHolds.lookup jobId = _ ∨
      _ ∧ (∃ hold, (failJob db target).1.heldFor jobId = some hold) ∨ _
    cases held : db.heldFor target with
    | none =>
      rw [failJob_of_none held]
      exact Or.inl rfl
    | some hold =>
      exact (resolving (failJob_resolves held) held).imp_right Or.inr

theorem leaves_iff (db : Database) (call : Call) :
    ((db.heldFor jobId).isSome = true ∧ (perform db call.action).heldFor jobId = none ↔
      ¬ db.Resolved jobId ∧ (perform db call.action).Resolved jobId) ∧
      (db.Resolved jobId → (perform db call.action).Resolved jobId) := by
  rcases hold_cases db call jobId with same | ⟨absent, hold, placed⟩ | ⟨⟨hold, held⟩, resolved⟩
  · have heldSame : (perform db call.action).heldFor jobId = db.heldFor jobId := by
      rw [Database.heldFor, same]
      rfl
    have resolvedSame : (perform db call.action).Resolved jobId ↔ db.Resolved jobId := by
      rw [Database.Resolved, same]
      rfl
    rw [heldSame, resolvedSame]
    refine ⟨iff_of_false ?_ (fun both => both.1 both.2), id⟩
    rintro ⟨live, none⟩
    rw [none] at live
    cases live
  · have unheld : db.heldFor jobId = none := by
      rw [Database.heldFor, absent]
      rfl
    have unresolved : ¬ db.Resolved jobId := by
      rintro ⟨row, found, _⟩
      rw [absent] at found
      cases found
    refine ⟨iff_of_false ?_ ?_, fun resolved => absurd resolved unresolved⟩
    · rintro ⟨live, _⟩
      rw [unheld] at live
      cases live
    · rintro ⟨_, resolved⟩
      exact not_resolved_of_held placed resolved
  · refine ⟨iff_of_true ⟨?_, ?_⟩ ⟨not_resolved_of_held held, resolved⟩, fun _ => resolved⟩
    · rw [held]
      rfl
    · cases later : (perform db call.action).heldFor jobId with
      | none => rfl
      | some row => exact absurd resolved (not_resolved_of_held later)

theorem leavings_eq {start finish : Database} {calls : List Call}
    (run : Run (Fires callNext) start calls finish) (jobId : Nat) :
    leavings jobId start calls = (if ¬ start.Resolved jobId ∧ finish.Resolved jobId then 1 else 0) ∧
      (start.Resolved jobId → finish.Resolved jobId) := by
  induction run with
  | nil db =>
    refine ⟨?_, id⟩
    rw [leavings, if_neg (fun both => both.1 both.2)]
  | @cons source middle target call rest taken _ ih =>
    cases taken
    obtain ⟨count, stays⟩ := ih
    obtain ⟨leaves, resolves⟩ := @leaves_iff jobId source call
    refine ⟨?_, fun resolved => stays (resolves resolved)⟩
    rw [leavings, count, if_congr leaves rfl rfl]
    by_cases before : source.Resolved jobId
    · have after := resolves before
      rw [if_neg (·.1 before), if_neg (·.1 after), if_neg (·.1 before)]
    · by_cases after : (perform source call.action).Resolved jobId
      · rw [if_pos ⟨before, after⟩, if_neg (·.1 after), if_pos ⟨before, stays after⟩]
      · rw [if_neg (after ·.2), zero_add]
        by_cases last : target.Resolved jobId
        · rw [if_pos ⟨after, last⟩, if_pos ⟨before, last⟩]
        · rw [if_neg (last ·.2), if_neg (last ·.2)]

end Leaving

/-- The runs in which every call is proper are those whose completions cost
at most their holds; and in every run a hold leaves `held` once, if at
all. -/
theorem holds_covered_iff_within {start finish : Database}
    {calls : List Call} (sound : HoldsSound start) :
    (Run (fun before call after =>
      Fires callNext before call after ∧ Proper before call after) start calls finish ↔
      Run (guarded (Fires callNext) WithinHold) start calls finish) ∧
    (Run (Fires callNext) start calls finish → ∀ jobId, leavings jobId start calls =
      if ¬ start.Resolved jobId ∧ finish.Resolved jobId then 1 else 0) :=
      by
  refine ⟨?_, fun run jobId => (leavings_eq run jobId).1⟩
  refine Run.congr_of_invariant HoldsSound ?_ ?_ sound
  · rintro source target call initially ⟨fires, proper⟩
    injection fires with same
    rw [← same] at proper ⊢
    exact sound_perform initially ((proper_iff_within initially call).mp proper)
  · intro source target call initially
    constructor
    · rintro ⟨fires, proper⟩
      refine ⟨?_, fires⟩
      injection fires with same
      rw [← same] at proper
      exact (proper_iff_within initially call).mp proper
    · rintro ⟨within, fires⟩
      refine ⟨fires, ?_⟩
      injection fires with same
      rw [← same]
      exact (proper_iff_within initially call).mpr within

def fundedWallets : Database :=
  sampleWallets.addBalance 2 500

theorem fundedWallets_sound : HoldsSound fundedWallets where
  covered := by
    intro renterId balance found
    have nonneg : fundedWallets.Solvent := by decide +kernel
    exact solvent_iff.mp nonneg renterId balance found
  nonneg := fun _ member => absurd member not_mem_nil
  known := fun _ member => absurd member not_mem_nil

theorem holds_covered_iff_within_sample :
    ∃ finish, Run (fun before call after =>
      Fires callNext before call after ∧ Proper before call after) fundedWallets
        [.dispatch 2 9 300, .dispatch 2 10 200, .dispatch 2 9 0, .completeJob 9 120, .failJob 10]
        finish ∧
        finish.balanceOf 2 = some 380 ∧
        leavings 9 fundedWallets [.dispatch 2 9 300, .dispatch 2 10 200, .dispatch 2 9 0,
            .completeJob 9 120, .failJob 10] = 1 := by
  obtain ⟨finish, executed, balance, resolved⟩ : ∃ finish,
      execute (restricted callNext WithinHold) fundedWallets
        [.dispatch 2 9 300, .dispatch 2 10 200, .dispatch 2 9 0,
          .completeJob 9 120, .failJob 10] = some finish ∧
        (finish.balanceOf 2 = some 380 ∧ finish.Resolved 9) :=
    exists_of_execute_any (by decide +kernel)
  have guardedRun := run_guarded_of_execute executed
  have both := @holds_covered_iff_within fundedWallets finish
      [.dispatch 2 9 300, .dispatch 2 10 200, .dispatch 2 9 0,
        .completeJob 9 120, .failJob 10] fundedWallets_sound
  refine ⟨finish, both.1.mpr guardedRun, balance, ?_⟩
  rw [both.2 guardedRun.of_guarded 9, if_pos ⟨by decide +kernel, resolved⟩]

/-- The first of two dispatched jobs costs more than its hold: it is debited
what the hold of the second one has reserved. -/
theorem hold_not_covered :
    ∃ middle finish, Run (Fires callNext) fundedWallets
      [.dispatch 2 9 100, .dispatch 2 10 400] middle ∧
        Fires callNext middle (.completeJob 9 300) finish ∧
        (middle.heldFor 9).map CreditHold.amountHalala = some 100 ∧
        finish.balanceOf 2 = some 200 ∧ finish.reserved 2 = 400 ∧
        ¬ finish.HoldsCovered ∧
        ¬ Proper middle (.completeJob 9 300) finish := by
  obtain ⟨middle, executed, hold, balance, reserved⟩ : ∃ middle, execute callNext fundedWallets
      [.dispatch 2 9 100, .dispatch 2 10 400] = some middle ∧
        ((middle.heldFor 9).map CreditHold.amountHalala = some 100 ∧
          (perform middle (.completeJob 9 300)).balanceOf 2 = some 200 ∧
          (perform middle (.completeJob 9 300)).reserved 2 = 400) :=
    exists_of_execute_any (by decide +kernel)
  have uncovered : ¬ (perform middle (.completeJob 9 300)).HoldsCovered := by
    intro covered
    have enough := covered 2 200 balance
    rw [reserved] at enough
    omega
  exact ⟨middle, _, run_of_execute executed, rfl, hold, balance, reserved,
    uncovered, fun proper => uncovered proper.covered⟩

end DcpPlatform.Wallets
