import DcpPlatform.Foundation.Table
import Mathlib.Data.List.Pairwise
import Mathlib.Data.List.Sort

/-!
# Subscription credits

A grant of credit belongs to a renter, expires at some time and is consumed
bit by bit. A debit drains the eligible grants in the order of their expiry;
what it drains and what it leaves short add up to its cost.
-/

namespace DcpPlatform.Billing

open Foundation Table List

abbrev RenterId := Nat

structure CreditGrant where
  id : Nat
  renterId : RenterId
  amountHalala : Int
  consumedHalala : Int
  expiresAt : Nat

abbrev Credits := Table CreditGrant CreditGrant.id

def Eligible (renterId : RenterId) (now : Nat) (grant : CreditGrant) : Prop :=
  grant.renterId = renterId ∧ grant.consumedHalala < grant.amountHalala ∧ now < grant.expiresAt
deriving Decidable

def DrainsBefore (first second : CreditGrant) : Prop :=
  first.expiresAt < second.expiresAt ∨ (first.expiresAt = second.expiresAt ∧ first.id ≤ second.id)
deriving Decidable

def getAvailableCredits (credits : Credits) (renterId : RenterId) (now : Nat) : List CreditGrant :=
  (credits.rows.filter (fun grant => Eligible renterId now grant)).insertionSort DrainsBefore

namespace CreditGrant

def draw (take : Int) (grant : CreditGrant) : CreditGrant :=
  { grant with consumedHalala := grant.consumedHalala + take }

@[simp]
theorem draw_id (take : Int) (grant : CreditGrant) :
    (grant.draw take).id = grant.id :=
  rfl

end CreditGrant

def consume (credits : Credits) (id : Nat) (take : Int) : Credits :=
  credits.updateWhere id (fun grant => grant.consumedHalala + take ≤ grant.amountHalala)
    (CreditGrant.draw take) (CreditGrant.draw_id take)

structure Debit where
  credits : Credits
  drained : Int
  shortfall : Int
  grantsTouched : List (Nat × Int)

def drainGrants (credits : Credits) : List CreditGrant → Int → Debit
  | [], remaining => ⟨credits, 0, remaining, []⟩
  | grant :: rest, remaining =>
    if remaining ≤ 0 then
      ⟨credits, 0, remaining, []⟩
    else
      let available := grant.amountHalala - grant.consumedHalala
      if available ≤ 0 then
        drainGrants credits rest remaining
      else
        let take := min available remaining
        let debit := drainGrants (consume credits grant.id take) rest (remaining - take)
        { debit with
          drained := take + debit.drained
          grantsTouched := (grant.id, take) :: debit.grantsTouched }

def debitSubscriptionCredits (credits : Credits) (renterId : RenterId)
    (costHalala : Int) (now : Nat) : Debit :=
  let remaining := max 0 costHalala
  if remaining = 0 then
    ⟨credits, 0, 0, []⟩
  else
    drainGrants credits (getAvailableCredits credits renterId now) remaining

structure Listed (credits : Credits) (grants : List CreditGrant) : Prop where
  stored : ∀ grant ∈ grants, credits.lookup grant.id = some grant
  distinct : (grants.map CreditGrant.id).Nodup
  within : ∀ grant ∈ grants, grant.consumedHalala ≤ grant.amountHalala

def consumedOf (credits : Credits) (id : Nat) : Int :=
  match credits.lookup id with
  | some grant => grant.consumedHalala
  | none => 0

def totalConsumed (credits : Credits) : Int :=
  credits.total CreditGrant.consumedHalala

variable {grant : CreditGrant} {credits : Credits}

theorem consumedOf_of_found {id : Nat} (found : credits.lookup id = some grant) :
    consumedOf credits id = grant.consumedHalala := by
  simp [consumedOf, found]

theorem consume_eq_update {take : Int} (found : credits.lookup grant.id = some grant)
    (fits : grant.consumedHalala + take ≤ grant.amountHalala) :
    consume credits grant.id take =
      credits.update grant.id (CreditGrant.draw take) (CreditGrant.draw_id take) :=
  updateWhere_of_met _ found fits

theorem lookup_consume_self {take : Int} (found : credits.lookup grant.id = some grant)
    (fits : grant.consumedHalala + take ≤ grant.amountHalala) :
    (consume credits grant.id take).lookup grant.id = some (grant.draw take) := by
  rw [consume_eq_update found fits]
  exact lookup_update_of_some credits _ _ found

theorem lookup_consume_of_ne {id other : Nat} {take : Int} (different : other ≠ id) :
    (consume credits id take).lookup other = credits.lookup other :=
  lookup_updateWhere_of_ne credits (CreditGrant.draw_id take) different

theorem totalConsumed_consume {take : Int} (found : credits.lookup grant.id = some grant)
    (fits : grant.consumedHalala + take ≤ grant.amountHalala) :
    totalConsumed (consume credits grant.id take) = totalConsumed credits + take := by
  rw [consume_eq_update found fits]
  unfold totalConsumed
  rw [total_update _ _ _ found]
  simp only [CreditGrant.draw]
  omega

theorem Listed.rest {rest : List CreditGrant}
    (listed : Listed credits (grant :: rest)) (take : Int) :
    Listed (consume credits grant.id take) rest ∧
      Listed credits rest ∧ ∀ other ∈ rest, other.id ≠ grant.id := by
  have distinct := listed.distinct
  rw [map_cons, nodup_cons] at distinct
  have different : ∀ other ∈ rest, other.id ≠ grant.id := by
    intro other member same
    exact distinct.1 (same ▸ mem_map_of_mem member)
  have stored : ∀ other ∈ rest, credits.lookup other.id = some other := fun other member =>
      listed.stored other (mem_cons_of_mem grant member)
  have within : ∀ other ∈ rest, other.consumedHalala ≤ other.amountHalala := fun other member =>
      listed.within other (mem_cons_of_mem grant member)
  refine ⟨⟨?_, distinct.2, within⟩, ⟨stored, distinct.2, within⟩, different⟩
  intro other member
  rw [lookup_consume_of_ne (different other member)]
  exact stored other member

structure Drained (credits : Credits) (grants : List CreditGrant)
    (remaining : Int) (debit : Debit) : Prop where
  balanced : debit.drained + debit.shortfall = remaining
  covered : 0 ≤ remaining → 0 ≤ debit.shortfall
  idle : remaining ≤ 0 → debit.credits = credits
  consumed : totalConsumed debit.credits = totalConsumed credits + debit.drained
  untouched : ∀ id, id ∉ grants.map CreditGrant.id → debit.credits.lookup id = credits.lookup id
  drawn : ∀ grant ∈ grants, ∃ take, 0 ≤ take ∧ grant.consumedHalala + take ≤ grant.amountHalala ∧
    debit.credits.lookup grant.id = some (grant.draw take)
  ordered : grants.Pairwise (fun first second =>
    second.consumedHalala < consumedOf debit.credits second.id →
      consumedOf debit.credits first.id = first.amountHalala)

private theorem draw_zero (grant : CreditGrant) :
    grant.draw 0 = grant := by
  simp [CreditGrant.draw]

variable {grants : List CreditGrant} {remaining : Int}

theorem drained_nothing (listed : Listed credits grants) :
    Drained credits grants remaining ⟨credits, 0, remaining, []⟩ where
  balanced := Int.zero_add remaining
  covered := id
  idle := fun _ => rfl
  consumed := (Int.add_zero _).symm
  untouched := fun _ _ => rfl
  drawn := by
    intro grant member
    refine ⟨0, Int.le_refl 0, ?_, ?_⟩
    · simpa using listed.within grant member
    · rw [draw_zero]
      exact listed.stored grant member
  ordered := by
    rw [pairwise_iff_forall_sublist]
    intro first second sublist consumed
    have member : second ∈ grants := sublist.subset (by simp)
    rw [consumedOf_of_found (listed.stored second member)] at consumed
    omega

variable {debit : Debit}

theorem Drained.skip {rest : List CreditGrant} (listed : Listed credits (grant :: rest))
    (exhausted : grant.amountHalala - grant.consumedHalala ≤ 0)
    (drained : Drained credits rest remaining debit) :
    Drained credits (grant :: rest) remaining debit := by
  have stored := listed.stored grant mem_cons_self
  have within := listed.within grant mem_cons_self
  obtain ⟨_, _, different⟩ := listed.rest 0
  have absent : grant.id ∉ rest.map CreditGrant.id := by
    intro member
    obtain ⟨other, otherMember, same⟩ := mem_map.mp member
    exact different other otherMember same
  have kept : debit.credits.lookup grant.id = some grant :=
    (drained.untouched grant.id absent).trans stored
  refine ⟨drained.balanced, drained.covered, drained.idle, drained.consumed, ?_, ?_, ?_⟩
  · intro id missing
    rw [map_cons, mem_cons, not_or] at missing
    exact drained.untouched id missing.2
  · intro other member
    rcases mem_cons.mp member with rfl | later
    · refine ⟨0, Int.le_refl 0, ?_, ?_⟩
      · simpa using within
      · rw [draw_zero]
        exact kept
    · exact drained.drawn other later
  · refine pairwise_cons.mpr ⟨?_, drained.ordered⟩
    intro second _ _
    rw [consumedOf_of_found kept]
    omega

theorem Drained.take {rest : List CreditGrant} {remaining take : Int}
    (listed : Listed credits (grant :: rest)) (positive : 0 < remaining)
    (open_ : 0 < grant.amountHalala - grant.consumedHalala)
    (takes : take = min (grant.amountHalala - grant.consumedHalala) remaining)
    (drained : Drained (consume credits grant.id take) rest (remaining - take) debit) :
    Drained credits (grant :: rest) remaining { debit with
      drained := take + debit.drained
      grantsTouched := (grant.id, take) :: debit.grantsTouched } := by
  have stored := listed.stored grant mem_cons_self
  obtain ⟨_, listedRest, different⟩ := listed.rest take
  have fits : grant.consumedHalala + take ≤ grant.amountHalala := by
    omega
  have absent : grant.id ∉ rest.map CreditGrant.id := by
    intro member
    obtain ⟨other, otherMember, same⟩ := mem_map.mp member
    exact different other otherMember same
  have kept : debit.credits.lookup grant.id = some (grant.draw take) :=
    (drained.untouched grant.id absent).trans (lookup_consume_self stored fits)
  have balanced := drained.balanced
  have consumed := drained.consumed
  rw [totalConsumed_consume stored fits] at consumed
  refine ⟨?_, ?_, ?_, ?_, ?_, ?_, ?_⟩
  · dsimp only
    omega
  · intro _
    exact drained.covered (by omega)
  · intro none
    omega
  · dsimp only
    omega
  · intro id missing
    rw [map_cons, mem_cons, not_or] at missing
    exact (drained.untouched id missing.2).trans (lookup_consume_of_ne missing.1)
  · intro other member
    rcases mem_cons.mp member with rfl | later
    · exact ⟨take, by omega, fits, kept⟩
    · exact drained.drawn other later
  · refine pairwise_cons.mpr ⟨?_, drained.ordered⟩
    intro second member touched
    rw [consumedOf_of_found kept]
    -- a later grant is touched only when this one did not cover the need
    by_cases covers : take = remaining
    · have later : credits.lookup second.id = some second := listedRest.stored second member
      rw [← lookup_consume_of_ne (different second member)] at later
      rw [drained.idle (by omega), consumedOf_of_found later] at touched
      omega
    · simp only [CreditGrant.draw]
      omega

theorem drainGrants_drained :
    ∀ {credits : Credits} {remaining : Int}, Listed credits grants →
      Drained credits grants remaining (drainGrants credits grants remaining) := by
  induction grants with
  | nil =>
    intro credits remaining listed
    exact drained_nothing listed
  | cons grant rest ih =>
    intro credits remaining listed
    unfold drainGrants
    split
    · exact drained_nothing listed
    · dsimp only
      split
      · rename_i exhausted
        exact Drained.skip listed exhausted (ih (listed.rest 0).2.1)
      · exact Drained.take listed (by omega) (by omega) rfl (ih (listed.rest _).1)

theorem drainsBefore_total (first second : CreditGrant) :
    DrainsBefore first second ∨ DrainsBefore second first := by
  unfold DrainsBefore
  omega

theorem drainsBefore_trans {first second third : CreditGrant}
    (earlier : DrainsBefore first second) (later : DrainsBefore second third) :
    DrainsBefore first third := by
  unfold DrainsBefore at *
  omega

variable {first second : CreditGrant}

theorem drainsBefore_antisymm (forward : DrainsBefore first second)
    (backward : DrainsBefore second first) :
    first.id = second.id := by
  unfold DrainsBefore at *
  omega

instance : Std.Total DrainsBefore := ⟨drainsBefore_total⟩

instance : IsTrans CreditGrant DrainsBefore :=
  ⟨fun _ _ _ => drainsBefore_trans⟩

variable {renterId : RenterId} {now : Nat}

theorem mem_getAvailableCredits :
    grant ∈ getAvailableCredits credits renterId now ↔
      grant ∈ credits.rows ∧ Eligible renterId now grant := by
  simp [getAvailableCredits]

theorem getAvailableCredits_sorted (credits : Credits) (renterId : RenterId) (now : Nat) :
    (getAvailableCredits credits renterId now).Pairwise DrainsBefore :=
  pairwise_insertionSort DrainsBefore _

theorem getAvailableCredits_listed (credits : Credits) (renterId : RenterId) (now : Nat) :
    Listed credits (getAvailableCredits credits renterId now) where
  stored := by
    intro grant member
    exact lookup_of_mem (mem_getAvailableCredits.mp member).1
  distinct := by
    unfold getAvailableCredits
    have permuted := perm_insertionSort DrainsBefore
        (credits.rows.filter (Eligible renterId now ·))
    rw [(permuted.map CreditGrant.id).nodup_iff]
    exact credits.keysNodup.sublist (filter_sublist.map _)
  within := by
    intro grant member
    exact Int.le_of_lt (mem_getAvailableCredits.mp member).2.2.1

theorem debitSubscriptionCredits_drained (credits : Credits)
    (renterId : RenterId) (costHalala : Int) (now : Nat) :
    Drained credits (getAvailableCredits credits renterId now) (max 0 costHalala)
      (debitSubscriptionCredits credits renterId costHalala now) := by
  have listed := getAvailableCredits_listed credits renterId now
  unfold debitSubscriptionCredits
  dsimp only
  split
  · rename_i free
    rw [free]
    exact drained_nothing listed
  · exact drainGrants_drained listed

private theorem pairwise_either {related : CreditGrant → CreditGrant → Prop}
    (ordered : grants.Pairwise related)
    (firstMember : first ∈ grants) (secondMember : second ∈ grants)
    (different : first ≠ second) :
    related first second ∨ related second first := by
  have either : grants.Pairwise (fun first second =>
      related first second ∨ related second first) :=
    ordered.imp Or.inl
  have symmetric : Std.Symm (fun first second : CreditGrant =>
      related first second ∨ related second first) :=
    ⟨fun _ _ => Or.symm⟩
  exact either.forall firstMember secondMember different

theorem debit_in_order {costHalala : Int} (firstStored : first ∈ credits.rows)
    (firstEligible : Eligible renterId now first)
    (secondStored : second ∈ credits.rows)
    (secondEligible : Eligible renterId now second)
    (different : first.id ≠ second.id) (earlier : DrainsBefore first second)
    (touched : second.consumedHalala <
      consumedOf (debitSubscriptionCredits credits renterId costHalala now).credits second.id) :
    consumedOf (debitSubscriptionCredits credits renterId costHalala now).credits
      first.id =
      first.amountHalala := by
  have drained := debitSubscriptionCredits_drained credits renterId costHalala now
  have sorted := getAvailableCredits_sorted credits renterId now
  have both := sorted.and drained.ordered
  have firstMember := mem_getAvailableCredits.mpr ⟨firstStored, firstEligible⟩
  have secondMember := mem_getAvailableCredits.mpr ⟨secondStored, secondEligible⟩
  have distinct : first ≠ second := by
    intro same
    exact different (congrArg CreditGrant.id same)
  rcases pairwise_either both firstMember secondMember distinct with forward | backward
  · exact forward.2 touched
  · exact absurd (drainsBefore_antisymm earlier backward.1) different

end DcpPlatform.Billing
