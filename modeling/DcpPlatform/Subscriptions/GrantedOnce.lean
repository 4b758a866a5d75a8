import DcpPlatform.Foundation.Transition
import DcpPlatform.Subscriptions.Store
import Mathlib.Data.List.Chain
import Mathlib.Data.List.Dedup
import Mathlib.Tactic.Ring

/-!
# Credit for every paid period, once

A renter has at most one open subscription, by the unique index. Each
activation that the store accepts restarts the period and grants the monthly
credit, so the periods are paid for once only while no active subscription is
activated again.
-/

namespace DcpPlatform.Subscriptions

open Foundation List

def periodsOf (db : Database) (renterId : Nat) : List Period :=
  db.periods.filter (fun period => period.renterId = renterId)

def periodsFor (db : Database) (subscriptionId : Nat) : List Period :=
  db.periods.filter (fun period => period.subscriptionId = subscriptionId)

def grantedTo (db : Database) (subscriptionId : Nat) : Int :=
  db.credits.table.total (fun credit =>
    if credit.subscriptionId = subscriptionId then credit.amountHalala
    else 0)

def Follows (first second : Period) : Prop :=
  first.ends = second.starts

/-- At most one subscription of a renter is open, its periods are contiguous,
no payment has activated it twice, and each of its periods was granted the
monthly amount of its tier. -/
structure GrantedPerPeriod (db : Database) : Prop where
  oneOpen : ∀ firstId secondId first second, db.subscriptions.lookup firstId = some first →
    db.subscriptions.lookup secondId = some second →
    first.status.isOpen = true → second.status.isOpen = true →
    first.renterId = second.renterId → firstId = secondId
  nonempty : ∀ period ∈ db.periods, period.starts < period.ends
  contiguous : ∀ renterId, (periodsOf db renterId).IsChain Follows
  activatedOnce : db.activations.Nodup
  granted : ∀ subscriptionId row, db.subscriptions.lookup subscriptionId = some row →
    grantedTo db subscriptionId =
      row.tier.terms.monthlyHalala * (periodsFor db subscriptionId).dedup.length

/-- A cancelled subscription stays cancelled while another one of its renter
is open. -/
def RevivesNone (before after : Database) : Prop :=
  ∀ firstId secondId first second, before.subscriptions.lookup firstId = some first →
    first.status = .cancelled → before.subscriptions.lookup secondId = some second →
    second.status.isOpen = true →
    first.renterId = second.renterId →
    ∃ later, after.subscriptions.lookup firstId = some later ∧ later.status = .cancelled

/-- An active subscription is not activated again, unless the store refuses
the row. -/
def ActivatesOnce (db : Database) : SubscriptionAction → Prop
  | .activate subscriptionId moyasarSubscriptionId now =>
    ∀ sub ∈ db.subscriptions.lookup subscriptionId,
      sub.status = .active → ¬ db.Admits (sub.setActivated moyasarSubscriptionId now)
  | _ => True

instance (db : Database) : DecidablePred (ActivatesOnce db) := by
  intro action
  unfold ActivatesOnce
  split <;> infer_instance

section Admitted

variable {db : Database} {subscriptionId : Nat} {row : Subscription} {otherId : Nat}

theorem Database.Admits.closed (admits : db.Admits row)
    (opens : row.status.isOpen = true) {other : Subscription}
    (found : db.subscriptions.lookup otherId = some other)
    (different : otherId ≠ row.id) (renter : other.renterId = row.renterId) :
    other.status.isOpen = false := by
  have otherKey := Serial.lookup_key found
  rw [← otherKey] at different
  exact (admits other (Table.lookup_mem found) different).1 opens renter

theorem lookup_of_written {change : Subscription → Subscription}
    (keeps : ∀ row, (change row).id = row.id) {sub later : Subscription}
    (found : db.subscriptions.lookup subscriptionId = some sub)
    (stored : (db.subscriptions.update subscriptionId change keeps).lookup otherId = some later) :
    otherId = subscriptionId ∧ later = change sub ∨
      otherId ≠ subscriptionId ∧ db.subscriptions.lookup otherId = some later := by
  rcases Serial.lookup_update_cases keeps stored with ⟨rfl, row, rowFound, same⟩ | other
  · rw [found] at rowFound
    cases rowFound
    exact Or.inl ⟨rfl, same⟩
  · exact Or.inr other

end Admitted

structure Consistent (db : Database) : Prop where
  statuses : ∀ subscriptionId row, db.subscriptions.lookup subscriptionId = some row →
    row.status = .pending ∨ row.status = .active ∨ row.status = .cancelled
  oneOpen : ∀ firstId secondId first second, db.subscriptions.lookup firstId = some first →
    db.subscriptions.lookup secondId = some second →
    first.status.isOpen = true → second.status.isOpen = true →
    first.renterId = second.renterId → firstId = secondId
  known : ∀ period ∈ db.periods, ∃ row, db.subscriptions.lookup period.subscriptionId = some row ∧
    row.renterId = period.renterId ∧ row.status = .active
  nonempty : ∀ period ∈ db.periods, period.starts < period.ends
  contiguous : ∀ renterId, (periodsOf db renterId).IsChain Follows
  current : ∀ subscriptionId row, db.subscriptions.lookup subscriptionId = some row →
    row.status = .active → (periodsOf db row.renterId).getLast? = some row.period
  credited : ∀ credit ∈ db.credits.table.rows, credit.subscriptionId ≤ db.subscriptions.last
  granted : ∀ subscriptionId row, db.subscriptions.lookup subscriptionId = some row →
    grantedTo db subscriptionId =
      row.tier.terms.monthlyHalala * (periodsFor db subscriptionId).length
  activated : ∀ activation ∈ db.activations,
    ∃ row, db.subscriptions.lookup activation.subscriptionId = some row ∧ row.status = .active
  activatedOnce : db.activations.Nodup

theorem consistent_empty : Consistent Database.empty where
  statuses := by
    intro subscriptionId row found
    cases found
  oneOpen := by
    intro firstId secondId first second found
    cases found
  known := by
    intro period member
    cases member
  nonempty := by
    intro period member
    cases member
  contiguous := fun _ => List.IsChain.nil
  current := by
    intro subscriptionId row found
    cases found
  credited := by
    intro credit member
    cases member
  granted := by
    intro subscriptionId row found
    cases found
  activated := by
    intro activation member
    cases member
  activatedOnce := nodup_nil

variable {periods : List Period}

theorem starts_lt_of_chain (nonempty : ∀ period ∈ periods, period.starts < period.ends)
    (contiguous : periods.IsChain Follows) :
    periods.IsChain (fun first second => first.starts < second.starts) := by
  induction contiguous with
  | nil => exact List.IsChain.nil
  | singleton period => exact List.IsChain.singleton period
  | cons_cons follows chained ih =>
    rename_i first second rest
    apply List.IsChain.cons_cons
    · have shorter := nonempty first mem_cons_self
      unfold Follows at follows
      omega
    · apply ih
      intro period member
      exact nonempty period (mem_cons_of_mem first member)

theorem nodup_of_chain (nonempty : ∀ period ∈ periods, period.starts < period.ends)
    (contiguous : periods.IsChain Follows) : periods.Nodup := by
  have increasing := starts_lt_of_chain nonempty contiguous
  have sorted := isChain_iff_pairwise.mp increasing
  exact sorted.imp (fun before same => by
    rw [same] at before
    exact lt_irrefl _ before)

namespace Consistent

variable {db : Database}

theorem periodsFor_nodup (consistent : Consistent db) {subscriptionId : Nat} {row : Subscription}
    (found : db.subscriptions.lookup subscriptionId = some row) :
    (periodsFor db subscriptionId).Nodup := by
  have distinct : (periodsOf db row.renterId).Nodup := nodup_of_chain (fun period member =>
      consistent.nonempty period (mem_filter.mp member).1)
      (consistent.contiguous row.renterId)
  have within : periodsFor db subscriptionId = (periodsOf db row.renterId).filter
      (·.subscriptionId = subscriptionId) := by
    rw [periodsFor, periodsOf, filter_filter]
    apply filter_congr
    intro period member
    by_cases here : period.subscriptionId = subscriptionId
    · obtain ⟨other, otherFound, renter, _⟩ := consistent.known period member
      rw [here, found] at otherFound
      cases otherFound
      simp [renter]
    · simp [here]
  rw [within]
  exact distinct.filter _

theorem grantedPerPeriod (consistent : Consistent db) :
    GrantedPerPeriod db where
  oneOpen := consistent.oneOpen
  nonempty := consistent.nonempty
  contiguous := consistent.contiguous
  activatedOnce := consistent.activatedOnce
  granted := by
    intro subscriptionId row found
    rw [dedup_eq_self.mpr (consistent.periodsFor_nodup found)]
    exact consistent.granted subscriptionId row found

theorem created (consistent : Consistent db) {renterId : Nat} {tier : Tier}
    {now : Int} (unopened : getOpenSubscription db renterId = none) :
    Consistent { db with
      subscriptions := db.subscriptions.append (pendingRow db renterId tier now)
        (pendingRow_id db renterId tier now) } := by
  have numbered := pendingRow_id db renterId tier now
  have closed (otherId : Nat) (other : Subscription)
      (found : db.subscriptions.lookup otherId = some other)
      (renter : other.renterId = renterId) :
      other.status.isOpen = false := by
    have nobody : openRows db renterId = [] := getLast?_eq_none_iff.mp unopened
    cases opens : other.status.isOpen with
    | false => rfl
    | true =>
      have member : other ∈ openRows db renterId :=
        mem_filter.mpr ⟨Table.lookup_mem found, decide_eq_true ⟨renter, opens⟩⟩
      rw [nobody] at member
      cases member
  refine ⟨?_, ?_, ?_, consistent.nonempty, consistent.contiguous, ?_, ?_,
    ?_, ?_, consistent.activatedOnce⟩
  · intro subscriptionId row found
    rcases Serial.lookup_append_cases numbered found with ⟨_, rfl⟩ | ⟨_, old⟩
    · exact Or.inl rfl
    · exact consistent.statuses subscriptionId row old
  · intro firstId secondId first second firstFound secondFound firstOpen secondOpen renter
    rcases Serial.lookup_append_cases numbered firstFound with ⟨firstNew, rfl⟩ | ⟨_, firstOld⟩
    · rcases Serial.lookup_append_cases numbered secondFound with ⟨secondNew, _⟩ | ⟨_, secondOld⟩
      · rw [firstNew, secondNew]
      · rw [closed secondId second secondOld renter.symm] at secondOpen
        cases secondOpen
    · rcases Serial.lookup_append_cases numbered secondFound with ⟨_, rfl⟩ | ⟨_, secondOld⟩
      · rw [closed firstId first firstOld renter] at firstOpen
        cases firstOpen
      · exact consistent.oneOpen firstId secondId first second firstOld
          secondOld firstOpen secondOpen renter
  · intro period member
    obtain ⟨row, found, rest⟩ := consistent.known period member
    exact ⟨row, Serial.lookup_append_of_some numbered found, rest⟩
  · intro subscriptionId row found active
    rcases Serial.lookup_append_cases numbered found with ⟨_, rfl⟩ | ⟨_, old⟩
    · cases active
    · exact consistent.current subscriptionId row old active
  · intro credit member
    exact Nat.le_succ_of_le (consistent.credited credit member)
  · intro subscriptionId row found
    rcases Serial.lookup_append_cases numbered found with ⟨next, rfl⟩ | ⟨_, old⟩
    · have unknown : periodsFor db subscriptionId = [] := by
        rw [periodsFor, filter_eq_nil_iff]
        intro period member here
        obtain ⟨other, otherFound, _⟩ := consistent.known period member
        rw [of_decide_eq_true here, next, Serial.lookup_above (Nat.lt_succ_self _)] at otherFound
        cases otherFound
      have uncredited : grantedTo db subscriptionId = 0 := by
        apply sum_eq_zero
        intro amount member
        obtain ⟨credit, stored, rfl⟩ := mem_map.mp member
        have bound := consistent.credited credit stored
        rw [if_neg (by omega)]
      have nothing : grantedTo db subscriptionId =
          tier.terms.monthlyHalala * (periodsFor db subscriptionId).length := by
        rw [unknown, uncredited]
        simp
      exact nothing
    · exact consistent.granted subscriptionId row old
  · intro activation member
    obtain ⟨row, found, active⟩ := consistent.activated activation member
    exact ⟨row, Serial.lookup_append_of_some numbered found, active⟩

theorem cancelIfStale_cases (renterId : Nat) (now : Int) (row : Subscription) :
    row.cancelIfStale renterId now = row ∨
      row.status = .pending ∧ row.cancelIfStale renterId now = row.setCancelled now := by
  unfold Subscription.cancelIfStale
  split
  · rename_i stale
    exact Or.inr ⟨stale.2.1, rfl⟩
  · exact Or.inl rfl

theorem swept_row {renterId : Nat} {now : Int} {row : Subscription} :
    (row.cancelIfStale renterId now).renterId = row.renterId ∧
      (row.cancelIfStale renterId now).tier = row.tier ∧
      (row.cancelIfStale renterId now).period = row.period ∧
      ((row.cancelIfStale renterId now).status = .cancelled ∨
        (row.cancelIfStale renterId now).status = row.status) ∧
      (row.status = .active → (row.cancelIfStale renterId now).status = .active) := by
  rcases cancelIfStale_cases renterId now row with same | ⟨pending, same⟩
  · rw [same]
    exact ⟨rfl, rfl, rfl, Or.inr rfl, id⟩
  · rw [same]
    refine ⟨rfl, rfl, rfl, Or.inl rfl, ?_⟩
    intro active
    rw [pending] at active
    cases active

theorem swept (consistent : Consistent db) (renterId : Nat) (now : Int) :
    Consistent (cancelStalePendings db renterId now) := by
  have origin {subscriptionId : Nat} {later : Subscription} (found :
      (cancelStalePendings db renterId now).subscriptions.lookup subscriptionId = some later) :
      ∃ row, db.subscriptions.lookup subscriptionId = some row ∧
        later = row.cancelIfStale renterId now :=
    Serial.lookup_updateAll_cases (Subscription.cancelIfStale_id renterId now) found
  have opened {row : Subscription} (opens : (row.cancelIfStale renterId now).status.isOpen = true) :
      row.status.isOpen = true := by
    obtain ⟨_, _, _, cancelled | same, _⟩ := @swept_row renterId now row
    · rw [cancelled] at opens
      cases opens
    · rw [same] at opens
      exact opens
  have still {subscriptionId : Nat} {row : Subscription}
      (found : db.subscriptions.lookup subscriptionId = some row) :
      (cancelStalePendings db renterId now).subscriptions.lookup
        subscriptionId = some (row.cancelIfStale renterId now) :=
    Serial.lookup_updateAll_of_some (Subscription.cancelIfStale_id renterId now) found
  refine ⟨?_, ?_, ?_, consistent.nonempty, consistent.contiguous, ?_,
    consistent.credited, ?_, ?_, consistent.activatedOnce⟩
  · intro subscriptionId later found
    obtain ⟨row, rowFound, rfl⟩ := origin found
    obtain ⟨_, _, _, cancelled | same, _⟩ := @swept_row renterId now row
    · exact Or.inr (Or.inr cancelled)
    · rw [same]
      exact consistent.statuses subscriptionId row rowFound
  · intro firstId secondId first second firstFound secondFound firstOpen secondOpen renter
    obtain ⟨firstRow, firstStored, rfl⟩ := origin firstFound
    obtain ⟨secondRow, secondStored, rfl⟩ := origin secondFound
    rw [swept_row.1, swept_row.1] at renter
    exact consistent.oneOpen firstId secondId firstRow secondRow
      firstStored secondStored (opened firstOpen) (opened secondOpen) renter
  · intro period member
    obtain ⟨row, found, renter, active⟩ := consistent.known period member
    exact ⟨_, still found, swept_row.1.trans renter, swept_row.2.2.2.2 active⟩
  · intro subscriptionId later found active
    obtain ⟨row, rowFound, rfl⟩ := origin found
    obtain ⟨renter, _, period, cancelled | same, _⟩ := @swept_row renterId now row
    · rw [cancelled] at active
      cases active
    · rw [same] at active
      rw [renter, period]
      exact consistent.current subscriptionId row rowFound active
  · intro subscriptionId later found
    obtain ⟨row, rowFound, rfl⟩ := origin found
    rw [swept_row.2.1]
    exact consistent.granted subscriptionId row rowFound
  · intro activation member
    obtain ⟨row, found, active⟩ := consistent.activated activation member
    exact ⟨_, still found, swept_row.2.2.2.2 active⟩

end Consistent

def opened (db : Database) (subscriptionId : Nat) (change : Subscription → Subscription)
    (keeps : ∀ row, (change row).id = row.id) (sub : Subscription)
    (activations : List Activation) (now : Int) : Database :=
  { subscriptions := db.subscriptions.update subscriptionId change keeps
    credits := db.credits.append (grantRow db (change sub) now) (grantRow_id db (change sub) now)
    periods := db.periods ++ [(change sub).period]
    activations := activations }

section Opened

variable {db : Database} {subscriptionId : Nat} {change : Subscription → Subscription}
  {keeps : ∀ row, (change row).id = row.id} {sub : Subscription}
  {activations : List Activation} {now : Int}

theorem periodsOf_opened (renterId : Nat) :
    periodsOf (opened db subscriptionId change keeps sub activations now) renterId =
      periodsOf db renterId ++
        if (change sub).renterId = renterId then [(change sub).period]
        else [] := by
  rw [periodsOf, opened, filter_append]
  congr 1
  by_cases own : (change sub).renterId = renterId
  · rw [if_pos own]
    exact filter_eq_self.mpr (fun period member => by
      rw [mem_singleton.mp member]
      exact decide_eq_true own)
  · rw [if_neg own, filter_eq_nil_iff]
    intro period member here
    rw [mem_singleton.mp member] at here
    exact own (of_decide_eq_true here)

theorem periodsFor_opened (other : Nat) :
    periodsFor (opened db subscriptionId change keeps sub activations now) other =
      periodsFor db other ++
        if (change sub).id = other then [(change sub).period] else [] := by
  rw [periodsFor, opened, filter_append]
  congr 1
  by_cases own : (change sub).id = other
  · rw [if_pos own]
    exact filter_eq_self.mpr (fun period member => by
      rw [mem_singleton.mp member]
      exact decide_eq_true own)
  · rw [if_neg own, filter_eq_nil_iff]
    intro period member here
    rw [mem_singleton.mp member] at here
    exact own (of_decide_eq_true here)

theorem grantedTo_opened (other : Nat) :
    grantedTo (opened db subscriptionId change keeps sub activations now) other =
      grantedTo db other +
        if (change sub).id = other then
          (change sub).tier.terms.monthlyHalala
        else 0 := by
  rw [grantedTo, opened, Serial.append, Table.total_insert]
  rfl

theorem opened_consistent (consistent : Consistent db)
    (found : db.subscriptions.lookup subscriptionId = some sub)
    (terms : (change sub).renterId = sub.renterId ∧ (change sub).tier = sub.tier)
    (active : (change sub).status = .active) (admits : db.Admits (change sub))
    (nonempty : (change sub).periodStart < (change sub).periodEnd)
    (follows : sub.status = .active → (change sub).periodStart = sub.periodEnd)
    (activatedOnce : activations.Nodup)
    (activated : ∀ activation ∈ activations,
      activation ∈ db.activations ∨ activation.subscriptionId = subscriptionId) :
    Consistent (opened db subscriptionId change keeps sub activations now) := by
  obtain ⟨renter, tier⟩ := terms
  have subId := Serial.lookup_key found
  have changedId : (change sub).id = subscriptionId := (keeps sub).trans subId
  have opens : (change sub).status.isOpen = true := by
    rw [active]
    rfl
  have closed {otherId : Nat} {other : Subscription}
      (otherFound : db.subscriptions.lookup otherId = some other)
      (different : otherId ≠ subscriptionId)
      (sameRenter : other.renterId = sub.renterId) :
      other.status.isOpen = false := by
    rw [← changedId] at different
    exact admits.closed opens otherFound different (sameRenter.trans renter.symm)
  -- the renter's periods so far are periods of this subscription
  have own (period : Period) (member : period ∈ db.periods)
      (sameRenter : period.renterId = sub.renterId) :
      period.subscriptionId = subscriptionId ∧ sub.status = .active := by
    obtain ⟨row, rowFound, rowRenter, rowActive⟩ := consistent.known period member
    by_cases here : period.subscriptionId = subscriptionId
    · rw [here, found] at rowFound
      cases rowFound
      exact ⟨here, rowActive⟩
    · have shut := closed rowFound here (rowRenter.trans sameRenter)
      rw [rowActive] at shut
      cases shut
  have still {otherId : Nat} {other : Subscription}
      (otherFound : db.subscriptions.lookup otherId = some other)
      (otherActive : other.status = .active) :
      ∃ row, (db.subscriptions.update subscriptionId change keeps).lookup otherId = some row ∧
        row.renterId = other.renterId ∧ row.status = .active := by
    by_cases here : otherId = subscriptionId
    · subst here
      rw [found] at otherFound
      cases otherFound
      exact ⟨change sub, Serial.lookup_update_of_some keeps found, renter, active⟩
    · exact ⟨other, (Serial.lookup_update_of_ne _ keeps here).trans otherFound, rfl, otherActive⟩
  refine ⟨?_, ?_, ?_, ?_, ?_, ?_, ?_, ?_, ?_, activatedOnce⟩
  · intro otherId later laterFound
    rcases lookup_of_written keeps found laterFound with ⟨_, same⟩ | ⟨_, old⟩
    · rw [same]
      exact Or.inr (Or.inl active)
    · exact consistent.statuses otherId later old
  · intro firstId secondId first second firstFound secondFound firstOpen secondOpen sameRenter
    rcases lookup_of_written keeps found firstFound with ⟨firstHere, rfl⟩ | ⟨firstElse, firstOld⟩
    · rcases lookup_of_written keeps found secondFound with
        ⟨secondHere, _⟩ | ⟨secondElse, secondOld⟩
      · rw [firstHere, secondHere]
      · rw [closed secondOld secondElse (sameRenter.symm.trans renter)] at secondOpen
        cases secondOpen
    · rcases lookup_of_written keeps found secondFound with ⟨_, rfl⟩ | ⟨_, secondOld⟩
      · rw [closed firstOld firstElse (sameRenter.trans renter)] at firstOpen
        cases firstOpen
      · exact consistent.oneOpen firstId secondId first second firstOld
          secondOld firstOpen secondOpen sameRenter
  · intro period member
    rcases mem_append.mp member with old | new
    · obtain ⟨row, rowFound, rowRenter, rowActive⟩ := consistent.known period old
      obtain ⟨later, laterFound, laterRenter, laterActive⟩ := still rowFound rowActive
      exact ⟨later, laterFound, laterRenter.trans rowRenter, laterActive⟩
    · rw [mem_singleton.mp new]
      refine ⟨change sub, ?_, rfl, active⟩
      dsimp only [Subscription.period]
      rw [changedId]
      exact Serial.lookup_update_of_some keeps found
  · intro period member
    rcases mem_append.mp member with old | new
    · exact consistent.nonempty period old
    · rw [mem_singleton.mp new]
      exact nonempty
  · intro renterId
    have before := consistent.contiguous renterId
    rw [periodsOf_opened]
    by_cases own' : (change sub).renterId = renterId
    · rw [if_pos own', isChain_append]
      refine ⟨before, List.IsChain.singleton _, ?_⟩
      intro last lastMember first firstMember
      obtain rfl := Option.some.inj firstMember
      have member := mem_of_getLast? lastMember
      obtain ⟨stored, sameRenter⟩ := mem_filter.mp member
      have ofRenter : sub.renterId = renterId := renter.symm.trans own'
      have subActive := (own last stored ((of_decide_eq_true sameRenter).trans ofRenter.symm)).2
      have current := consistent.current subscriptionId sub found subActive
      rw [ofRenter] at current
      have same : last = sub.period := Option.some.inj (lastMember.symm.trans current)
      rw [same]
      exact (follows subActive).symm
    · rw [if_neg own', append_nil]
      exact before
  · intro otherId later laterFound laterActive
    rw [periodsOf_opened]
    rcases lookup_of_written keeps found laterFound with ⟨_, same⟩ | ⟨elsewhere, old⟩
    · rw [same, if_pos rfl]
      exact getLast?_concat
    · have different : (change sub).renterId ≠ later.renterId := by
        intro sameRenter
        have shut := closed old elsewhere (sameRenter.symm.trans renter)
        rw [laterActive] at shut
        cases shut
      rw [if_neg different, append_nil]
      exact consistent.current otherId later old laterActive
  · intro credit member
    rcases mem_append.mp member with old | new
    · exact consistent.credited credit old
    · rw [mem_singleton.mp new]
      have bound := Serial.le_last found
      rw [← changedId] at bound
      exact bound
  · intro otherId later laterFound
    rw [grantedTo_opened, periodsFor_opened]
    rcases lookup_of_written keeps found laterFound with ⟨here, same⟩ | ⟨elsewhere, old⟩
    · have before := consistent.granted subscriptionId sub found
      rw [here, if_pos changedId, if_pos changedId, same, tier, before,
        length_append, length_singleton]
      push_cast
      ring
    · have different : (change sub).id ≠ otherId := by
        rw [changedId]
        exact Ne.symm elsewhere
      rw [if_neg different, if_neg different, add_zero, append_nil]
      exact consistent.granted otherId later old
  · intro activation member
    rcases activated activation member with old | here
    · obtain ⟨row, rowFound, rowActive⟩ := consistent.activated activation old
      obtain ⟨later, laterFound, _, laterActive⟩ := still rowFound rowActive
      exact ⟨later, laterFound, laterActive⟩
    · rw [here]
      exact ⟨change sub, Serial.lookup_update_of_some keeps found, active⟩

end Opened

section Calls

variable {db : Database} {subscriptionId : Nat} {now : Int}

theorem grantMonthlyCredits_written {change : Subscription → Subscription}
    {keeps : ∀ row, (change row).id = row.id} {sub : Subscription}
    (found : db.subscriptions.lookup subscriptionId = some sub)
    (activations : List Activation) :
    grantMonthlyCredits { db with
      subscriptions := db.subscriptions.update subscriptionId change keeps
      periods := db.periods ++ [(change sub).period]
      activations := activations } subscriptionId now =
      .ok (opened db subscriptionId change keeps sub activations now) := by
  have stored : (db.subscriptions.update subscriptionId change keeps).lookup
      subscriptionId = some (change sub) :=
    Serial.lookup_update_of_some keeps found
  rw [grantMonthlyCredits, stored]
  rfl

theorem activateSubscription_cases (db : Database) (subscriptionId : Nat)
    (payment : Option String) (now : Int) :
    settle db (activateSubscription db subscriptionId payment now) = db ∨ ∃ sub,
      db.subscriptions.lookup subscriptionId = some sub ∧ db.Admits (sub.setActivated payment now) ∧
        settle db (activateSubscription db subscriptionId payment now) =
          opened db subscriptionId (Subscription.setActivated payment now)
            (Subscription.setActivated_id payment now) sub
            (db.activations ++ [⟨subscriptionId,
                (sub.setActivated payment now).moyasarSubscriptionId⟩]) now := by
  unfold activateSubscription
  cases found : db.subscriptions.lookup subscriptionId with
  | none => exact Or.inl rfl
  | some sub =>
    by_cases admits : db.Admits (sub.setActivated payment now)
    · refine Or.inr ⟨sub, rfl, admits, ?_⟩
      simp only [orFail, require, if_pos admits, bind, Except.bind]
      rw [grantMonthlyCredits_written found]
      rfl
    · refine Or.inl ?_
      simp only [orFail, require, if_neg admits, bind, Except.bind]
      rfl

theorem advanceSubscriptionPeriod_cases (db : Database) (subscriptionId : Nat) (now : Int) :
    settle db (advanceSubscriptionPeriod db subscriptionId now) = db ∨ ∃ sub,
      db.subscriptions.lookup subscriptionId = some sub ∧ db.Admits (sub.setAdvanced now) ∧
        settle db (advanceSubscriptionPeriod db subscriptionId now) =
          opened db subscriptionId (Subscription.setAdvanced now)
            (Subscription.setAdvanced_id now) sub db.activations
            now := by
  unfold advanceSubscriptionPeriod
  cases found : db.subscriptions.lookup subscriptionId with
  | none => exact Or.inl rfl
  | some sub =>
    by_cases admits : db.Admits (sub.setAdvanced now)
    · refine Or.inr ⟨sub, rfl, admits, ?_⟩
      simp only [orFail, require, if_pos admits, bind, Except.bind]
      rw [grantMonthlyCredits_written found]
      rfl
    · refine Or.inl ?_
      simp only [orFail, require, if_neg admits, bind, Except.bind]
      rfl

theorem createPendingSubscription_cases (db : Database) (renterId : Nat)
    (tierKey : String) (now : Int) :
    settle db (createPendingSubscription db renterId tierKey now) = db ∨ ∃ tier,
      getOpenSubscription db renterId = none ∧
        settle db (createPendingSubscription db renterId tierKey now) = { db with
          subscriptions := db.subscriptions.append (pendingRow db renterId tier now)
            (pendingRow_id db renterId tier now) } := by
  unfold createPendingSubscription
  cases getTier tierKey with
  | none => exact Or.inl rfl
  | some tier =>
    cases unopened : getOpenSubscription db renterId with
    | some existing => exact Or.inl rfl
    | none => exact Or.inr ⟨tier, rfl, rfl⟩

theorem addDays_month (instant : Int) : instant < addDays instant 30 := by
  unfold addDays millisecondsPerDay
  omega

end Calls

variable {db after : Database} {action : SubscriptionAction}

theorem next_consistent (consistent : Consistent db)
    (step : guarded (Fires next) ActivatesOnce db action after) :
    Consistent after := by
  obtain ⟨once, step⟩ := step
  cases action with
  | createPending renterId tierKey now =>
    obtain rfl := Option.some.inj step
    rcases createPendingSubscription_cases db renterId tierKey now with
      same | ⟨tier, unopened, same⟩
    · rw [same]
      exact consistent
    · rw [same]
      exact consistent.created unopened
  | cancelStalePendings renterId now =>
    obtain rfl := Option.some.inj step
    exact consistent.swept renterId now
  | activate subscriptionId payment now =>
    obtain rfl := Option.some.inj step
    rcases activateSubscription_cases db subscriptionId payment now with
      same | ⟨sub, found, admits, same⟩
    · rw [same]
      exact consistent
    · have inactive : sub.status ≠ .active := fun active =>
        once sub found active admits
      rw [same]
      apply opened_consistent consistent found ⟨rfl, rfl⟩ rfl admits
        (addDays_month now) (absurd · inactive)
      · rw [nodup_append]
        refine ⟨consistent.activatedOnce, nodup_singleton _, ?_⟩
        intro earlier earlierMember new newMember equal
        rw [mem_singleton.mp newMember] at equal
        obtain ⟨row, rowFound, rowActive⟩ := consistent.activated earlier earlierMember
        rw [equal, found] at rowFound
        cases rowFound
        exact inactive rowActive
      · intro activation member
        rcases mem_append.mp member with old | new
        · exact Or.inl old
        · rw [mem_singleton.mp new]
          exact Or.inr rfl
  | advance subscriptionId now =>
    obtain rfl := Option.some.inj step
    rcases advanceSubscriptionPeriod_cases db subscriptionId now with
      same | ⟨sub, found, admits, same⟩
    · rw [same]
      exact consistent
    · rw [same]
      exact opened_consistent consistent found ⟨rfl, rfl⟩ rfl admits
        (addDays_month sub.periodEnd) (fun _ => rfl)
        consistent.activatedOnce (fun _ member => Or.inl member)

theorem revivesNone_opened {subscriptionId : Nat} {change : Subscription → Subscription}
    {keeps : ∀ row, (change row).id = row.id} {sub : Subscription}
    {activations : List Activation} {now : Int}
    (found : db.subscriptions.lookup subscriptionId = some sub)
    (renter : (change sub).renterId = sub.renterId)
    (active : (change sub).status = .active) (admits : db.Admits (change sub)) :
    RevivesNone db (opened db subscriptionId change keeps sub activations now) := by
  intro firstId secondId first second firstFound cancelled secondFound secondOpen sameRenter
  by_cases here : firstId = subscriptionId
  · subst here
    rw [found] at firstFound
    cases firstFound
    have changedId : (change sub).id = firstId := (keeps sub).trans (Serial.lookup_key found)
    have different : secondId ≠ (change sub).id := by
      rw [changedId]
      rintro rfl
      rw [found] at secondFound
      cases secondFound
      rw [cancelled] at secondOpen
      cases secondOpen
    have opens : (change sub).status.isOpen = true := by
      rw [active]
      rfl
    have shut := admits.closed opens secondFound different (sameRenter.symm.trans renter.symm)
    rw [shut] at secondOpen
    cases secondOpen
  · exact ⟨first, (Serial.lookup_update_of_ne _ keeps here).trans firstFound, cancelled⟩

theorem next_revivesNone (step : Fires next db action after) :
    RevivesNone db after := by
  have refl : RevivesNone db db := fun firstId _ first _ found cancelled _ _ _ =>
      ⟨first, found, cancelled⟩
  cases action with
  | createPending renterId tierKey now =>
    obtain rfl := Option.some.inj step
    rcases createPendingSubscription_cases db renterId tierKey now with same | ⟨tier, _, same⟩
    · rw [same]
      exact refl
    · rw [same]
      intro firstId _ first _ found cancelled _ _ _
      exact ⟨first,
        Serial.lookup_append_of_some (pendingRow_id db renterId tier now) found, cancelled⟩
  | cancelStalePendings renterId now =>
    obtain rfl := Option.some.inj step
    intro firstId _ first _ found cancelled _ _ _
    refine ⟨first.cancelIfStale renterId now, ?_, ?_⟩
    · exact Serial.lookup_updateAll_of_some (Subscription.cancelIfStale_id renterId now) found
    · rcases Consistent.cancelIfStale_cases renterId now first with same | ⟨_, same⟩
      · rw [same]
        exact cancelled
      · rw [same]
        rfl
  | activate subscriptionId payment now =>
    obtain rfl := Option.some.inj step
    rcases activateSubscription_cases db subscriptionId payment now with
      same | ⟨sub, found, admits, same⟩
    · rw [same]
      exact refl
    · rw [same]
      exact revivesNone_opened found rfl rfl admits
  | advance subscriptionId now =>
    obtain rfl := Option.some.inj step
    rcases advanceSubscriptionPeriod_cases db subscriptionId now with
      same | ⟨sub, found, admits, same⟩
    · rw [same]
      exact refl
    · rw [same]
      exact revivesNone_opened found rfl rfl admits

/-- While no active subscription is activated again, its credit is granted
once per period. No call revives a cancelled subscription beside an open
one. -/
theorem credit_granted_once {finish : Database} {actions : List SubscriptionAction}
    (run : Run (guarded (Fires next) ActivatesOnce) Database.empty actions finish) :
    GrantedPerPeriod finish ∧ Run (keeping (Fires next) RevivesNone) Database.empty actions
      finish :=
  ⟨(run.invariant Consistent next_consistent consistent_empty).grantedPerPeriod,
    run.mono (fun taken => ⟨taken.2, next_revivesNone taken.2⟩)⟩

def sampleCalls : List SubscriptionAction :=
  [.createPending 7 "starter" 0, .cancelStalePendings 7 3600001, .createPending 7 "growth" 3600001,
    .activate 1 (some "sub_a") 3700000,
    .activate 2 (some "sub_b") 3800000, .advance 2 2600000000]

theorem credit_granted_once_sample :
    ∃ finish, Run (guarded (Fires next) ActivatesOnce) Database.empty sampleCalls finish ∧
      grantedTo finish 1 = 0 ∧ grantedTo finish 2 = 300000 ∧
      GrantedPerPeriod finish := by
  refine exists_guarded_run (fun finish => grantedTo finish 1 = 0 ∧ grantedTo finish 2 = 300000)
    (by decide +kernel) ?_
  intro finish run granted
  exact ⟨granted.1, granted.2, (credit_granted_once run).1⟩

/-- A confirmation that arrives twice grants twice and moves the period. -/
theorem confirmation_grants_twice :
    ∃ finish, Run (Fires next) Database.empty
      [.createPending 7 "starter" 0, .activate 1 (some "sub_a") 1000,
        .activate 1 (some "sub_a") 2000] finish ∧
        grantedTo finish 1 = 75000 ∧ ¬ GrantedPerPeriod finish := by
  refine exists_run (fun finish => grantedTo finish 1 = 75000 ∧ ¬ finish.activations.Nodup)
    (by decide +kernel) ?_
  rintro finish _ ⟨granted, repeated⟩
  exact ⟨granted, fun once => repeated once.activatedOnce⟩

end DcpPlatform.Subscriptions
