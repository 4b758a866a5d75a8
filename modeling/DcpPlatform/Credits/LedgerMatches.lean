import DcpPlatform.Credits.Service
import DcpPlatform.Foundation.Transition
import Mathlib.Algebra.Order.Ring.Unbundled.Rat

/-!
# The credit ledger matches the balances

A call either throws, and leaves the database alone, or is refused, or writes
one entry together with the balance it changes, in one transaction. The
foreign key of the entry makes sure that the balance exists.
-/

namespace DcpPlatform.Credits

open Foundation Option

def Entry.signed (entry : Entry) : Int :=
  match entry.direction with
  | .credit => entry.amountHalala
  | .debit => -entry.amountHalala

/-- The credit entries of a renter minus its debit entries. -/
def netOf (entries : List Entry) (renterId : Nat) : Int :=
  ((entries.filter (fun entry => entry.renterId = renterId)).map Entry.signed).sum

structure Moved (before after : Database) (entries : List Entry) :
    Prop where
  ledger : after.ledger.rows = before.ledger.rows ++ entries
  balances : ∀ renterId renter, before.renters.lookup renterId = some renter →
    ∃ later, after.renters.lookup renterId = some later ∧
      later.balanceHalala = renter.balanceHalala + netOf entries renterId
  absent : ∀ renterId, before.renters.lookup renterId = none →
    after.renters.lookup renterId = none ∧ ∀ entry ∈ entries, entry.renterId ≠ renterId

theorem netOf_append (earlier later : List Entry) (renterId : Nat) :
    netOf (earlier ++ later) renterId = netOf earlier renterId + netOf later renterId := by
  simp [netOf]

namespace Moved

theorem refl (db : Database) : Moved db db [] where
  ledger := (List.append_nil _).symm
  balances := by
    intro renterId renter found
    exact ⟨renter, found, (add_zero _).symm⟩
  absent := by
    intro renterId missing
    refine ⟨missing, ?_⟩
    intro entry member
    cases member

theorem trans {first second third : Database}
    {earlier later : List Entry} (before : Moved first second earlier)
    (after : Moved second third later) :
    Moved first third (earlier ++ later) where
  ledger := by
    rw [after.ledger, before.ledger, List.append_assoc]
  balances := by
    intro renterId renter found
    obtain ⟨middle, middleFound, middleBalance⟩ := before.balances renterId renter found
    obtain ⟨last, lastFound, lastBalance⟩ := after.balances renterId middle middleFound
    refine ⟨last, lastFound, ?_⟩
    rw [lastBalance, middleBalance, netOf_append, add_assoc]
  absent := by
    intro renterId missing
    obtain ⟨middleMissing, earlierOthers⟩ := before.absent renterId missing
    obtain ⟨lastMissing, laterOthers⟩ := after.absent renterId middleMissing
    refine ⟨lastMissing, ?_⟩
    intro entry member
    rcases List.mem_append.mp member with old | new
    · exact earlierOthers entry old
    · exact laterOthers entry new

theorem of_entry {before after : Database} {entry : Entry} {renter : Renter}
    (found : before.renters.lookup entry.renterId = some renter)
    (ledger : after.ledger.rows = before.ledger.rows ++ [entry])
    {change : Renter → Renter} (keeps : ∀ renter, (change renter).id = renter.id)
    (renters : after.renters = before.renters.update entry.renterId change keeps)
    (balance : (change renter).balanceHalala = renter.balanceHalala + entry.signed) :
    Moved before after [entry] where
  ledger := ledger
  balances := by
    intro renterId other otherFound
    rw [renters, Table.lookup_update]
    by_cases own : renterId = entry.renterId
    · rw [own, found] at otherFound
      injection otherFound with same
      rw [if_pos own, own, found]
      refine ⟨change renter, rfl, ?_⟩
      rw [← same, balance]
      simp [netOf]
    · have elsewhere : ¬ entry.renterId = renterId := fun same => own same.symm
      rw [if_neg own, otherFound]
      refine ⟨other, rfl, ?_⟩
      simp [netOf, elsewhere]
  absent := by
    intro renterId missing
    have other : renterId ≠ entry.renterId := by
      intro same
      rw [same, found] at missing
      cases missing
    refine ⟨?_, ?_⟩
    · rw [renters, Table.lookup_update_of_ne _ keeps other, missing]
    · intro listed member
      rw [List.mem_singleton.mp member]
      exact other.symm

end Moved

section Statements

variable {session after : Session Database} {done : PUnit}

theorem insertEntry_eq_ok {entry : Entry}
    (succeeded : insertEntry entry session = (Except.ok done, after)) :
    (∃ renter, session.db.renters.lookup entry.renterId = some renter) ∧
      after.db.renters = session.db.renters ∧
      after.db.ledger.rows = session.db.ledger.rows ++ [entry] := by
  have ran := statement_eq_ok succeeded
  split at ran
  · cases ran
  · split at ran
    · cases ran
    · rename_i present
      have found := ne_none_iff_exists'.mp (fun missing => present (isNone_iff_eq_none.mpr missing))
      split at ran
      · injection ran with written
        have db := (Prod.mk.inj written).2
        refine ⟨found, ?_, ?_⟩
        · rw [← db]
        · rw [← db, Table.insert_rows]
      · cases ran

variable {renterId : Nat}

theorem updateRenter_eq_ok {change : Renter → Renter}
    {keeps : ∀ renter, (change renter).id = renter.id}
    (succeeded : updateRenter renterId change keeps session = (Except.ok done, after)) :
    after.db.renters = session.db.renters.update renterId change keeps ∧
      after.db.ledger = session.db.ledger := by
  have ran := statement_eq_ok succeeded
  injection ran with written
  have db := (Prod.mk.inj written).2
  rw [← db]
  exact ⟨rfl, rfl⟩

theorem selectBalance_eq_ok {balance : Option Int}
    (succeeded : selectBalance renterId session = (Except.ok balance, after)) :
    balance = (session.db.renters.lookup renterId).map Renter.balanceHalala ∧
      after.db = session.db := by
  have ran := statement_eq_ok succeeded
  injection ran with read
  obtain ⟨value, db⟩ := Prod.mk.inj read
  exact ⟨value.symm, db.symm⟩

theorem selectRenter_eq_ok {renter : Option Renter}
    (succeeded : selectRenter renterId session = (Except.ok renter, after)) :
    renter = (session.db.renters.lookup renterId).filter (fun renter =>
      renter.deleted = false) ∧
      after.db = session.db := by
  have ran := statement_eq_ok succeeded
  injection ran with read
  obtain ⟨value, db⟩ := Prod.mk.inj read
  exact ⟨value.symm, db.symm⟩

end Statements

section Transactions

variable {session after : Session Database} {entry : Entry}

theorem entry_and_balance {middle : Session Database}
    {written updated : PUnit} {change : Renter → Renter}
    {keeps : ∀ renter, (change renter).id = renter.id}
    (balance : ∀ renter, (change renter).balanceHalala = renter.balanceHalala + entry.signed)
    (inserted : insertEntry entry session = (Except.ok written, middle))
    (moved : updateRenter entry.renterId change keeps middle = (Except.ok updated, after)) :
    Moved session.db after.db [entry] ∧ ∃ renter,
      session.db.renters.lookup entry.renterId = some renter ∧
        after.db.renters.lookup entry.renterId = some (change renter) := by
  obtain ⟨⟨renter, found⟩, renters, ledger⟩ := insertEntry_eq_ok inserted
  obtain ⟨changed, kept⟩ := updateRenter_eq_ok moved
  rw [renters] at changed
  rw [← kept] at ledger
  refine ⟨Moved.of_entry found ledger keeps changed (balance renter), renter, found, ?_⟩
  rw [changed, Table.lookup_update_self, found]
  rfl

theorem addTxn_eq_ok {balance : Option Int} (credited : entry.direction = .credit)
    (succeeded : addTxn entry session = (Except.ok balance, after)) :
    balance.isSome ∧ Moved session.db after.db [entry] := by
  unfold addTxn at succeeded
  simp only [Tx.bind_eq_ok_iff] at succeeded
  obtain ⟨_, first, inserted, _, second, moved, selected⟩ := succeeded
  have signed : entry.signed = entry.amountHalala := by
    rw [Entry.signed, credited]
  obtain ⟨effect, renter, _, later⟩ :=
    entry_and_balance (fun renter => by rw [signed]; rfl) inserted moved
  obtain ⟨read, same⟩ := selectBalance_eq_ok selected
  rw [later] at read
  rw [same, read]
  exact ⟨rfl, effect⟩

theorem deductTxn_eq_ok {deduction : Deduction} (debited : entry.direction = .debit)
    (succeeded : deductTxn entry session = (Except.ok deduction, after)) :
    after.db = session.db ∨ Moved session.db after.db [entry] ∧ ∃ renter,
      session.db.renters.lookup entry.renterId = some renter ∧
        entry.amountHalala ≤ renter.balanceHalala := by
  obtain ⟨found, middle, selected, succeeded⟩ := Tx.bind_eq_ok_iff.mp succeeded
  obtain ⟨read, unchanged⟩ := selectRenter_eq_ok selected
  cases found with
  | none =>
    obtain ⟨_, same⟩ := Tx.pure_eq_ok_iff.mp succeeded
    exact Or.inl (same ▸ unchanged)
  | some renter =>
    obtain ⟨stored, _⟩ := filter_eq_some_iff.mp read.symm
    dsimp only at succeeded
    by_cases short : renter.balanceHalala < entry.amountHalala
    · rw [if_pos short] at succeeded
      obtain ⟨_, same⟩ := Tx.pure_eq_ok_iff.mp succeeded
      exact Or.inl (same ▸ unchanged)
    · rw [if_neg short] at succeeded
      simp only [Tx.bind_eq_ok_iff] at succeeded
      obtain ⟨_, first, inserted, _, second, moved, balance, last, checked, finished⟩ := succeeded
      have signed : entry.signed = -entry.amountHalala := by
        rw [Entry.signed, debited]
      obtain ⟨effect, owner, ownerFound, later⟩ := entry_and_balance (fun renter => by
            rw [signed, ← sub_eq_add_neg]
            rfl) inserted moved
      obtain ⟨value, same⟩ := selectBalance_eq_ok checked
      rw [later] at value
      subst value
      obtain ⟨_, done⟩ := Tx.pure_eq_ok_iff.mp finished
      rw [← done, same, ← unchanged]
      refine Or.inr ⟨effect, renter, ?_, not_lt.mp short⟩
      rw [unchanged]
      exact stored

end Transactions

section Calls

variable {session : Session Database}

theorem addCredits_cases (renterId : Nat) (amountHalala : Option ℚ)
    (source : String) (opts : CreditOptions) (ledgerId : Nat) (now : Int) :
    (∃ message, addCredits renterId amountHalala source opts ledgerId now session =
      (Except.error message, session)) ∨
      ∃ credited after amount, addCredits renterId amountHalala source opts ledgerId now session =
        (Except.ok credited, after) ∧
        positiveInteger amountHalala = some amount ∧
        Moved session.db after.db [creditEntry renterId amount source opts ledgerId now] := by
  unfold addCredits
  cases whole : positiveInteger amountHalala with
  | none => exact Or.inl ⟨amountMessage, rfl⟩
  | some amount =>
    by_cases invalid : source ∉ validSources
    · simp only [if_pos invalid]
      exact Or.inl ⟨sourceMessage source, rfl⟩
    · simp only [if_neg invalid]
      rcases Tx.transaction_cases (addTxn (creditEntry renterId amount source opts ledgerId now))
          session with ⟨balance, after, ran, committed⟩ | ⟨message, threw⟩
      · obtain ⟨present, moved⟩ := addTxn_eq_ok rfl ran
        obtain ⟨value, rfl⟩ := isSome_iff_exists.mp present
        refine Or.inr ⟨⟨ledgerId, value⟩, after, amount, ?_, rfl, moved⟩
        rw [Tx.bind_of_ok committed]
        rfl
      · exact Or.inl ⟨message, Tx.bind_of_error threw⟩

theorem deductCredits_cases (renterId : Nat) (amountHalala : Option ℚ)
    (jobId : Option String) (ledgerId : Nat) (now : Int) :
    (∃ message, deductCredits renterId amountHalala jobId ledgerId now session =
      (Except.error message, session)) ∨
      ∃ deduction after, deductCredits renterId amountHalala jobId ledgerId now session =
        (Except.ok deduction, after) ∧
        (after.db = session.db ∨ ∃ amount job, positiveInteger amountHalala = some amount ∧
          Moved session.db after.db [debitEntry renterId amount job ledgerId now] ∧
          ∃ renter, session.db.renters.lookup renterId = some renter ∧
            amount ≤ renter.balanceHalala) := by
  unfold deductCredits
  cases whole : positiveInteger amountHalala with
  | none => exact Or.inl ⟨amountMessage, rfl⟩
  | some amount =>
    cases named : nonEmpty jobId with
    | none => exact Or.inl ⟨jobIdMessage, rfl⟩
    | some job =>
      rcases Tx.transaction_cases (deductTxn (debitEntry renterId amount job ledgerId now))
          session with ⟨deduction, after, ran, done⟩ | ⟨message, threw⟩
      · refine Or.inr ⟨deduction, after, done, ?_⟩
        rcases deductTxn_eq_ok rfl ran with same | ⟨moved, covered⟩
        · exact Or.inl same
        · exact Or.inr ⟨amount, job, rfl, moved, covered⟩
      · exact Or.inl ⟨message, threw⟩

end Calls

theorem positiveInteger_pos {amountHalala : Option ℚ} {amount : Int}
    (whole : positiveInteger amountHalala = some amount) : 0 < amount := by
  obtain ⟨value, _, kept⟩ := bind_eq_some_iff.mp whole
  split at kept
  · rename_i met
    cases kept
    exact Rat.num_pos.mpr met.2
  · cases kept

def KeepsNonneg (before after : Database) : Prop :=
  ∀ renterId renter later, before.renters.lookup renterId = some renter →
    after.renters.lookup renterId = some later →
    0 ≤ renter.balanceHalala → 0 ≤ later.balanceHalala

theorem KeepsNonneg.refl (db : Database) : KeepsNonneg db db := by
  intro renterId renter later found laterFound nonneg
  rw [found] at laterFound
  cases laterFound
  exact nonneg

theorem KeepsNonneg.of_entry {before after : Database} {entry : Entry}
    (moved : Moved before after [entry])
    (covered : ∀ renter, before.renters.lookup entry.renterId = some renter →
      0 ≤ renter.balanceHalala → 0 ≤ renter.balanceHalala + entry.signed) :
    KeepsNonneg before after := by
  intro renterId renter later found laterFound nonneg
  obtain ⟨reached, reachedFound, balance⟩ := moved.balances renterId renter found
  rw [reachedFound] at laterFound
  injection laterFound with same
  rw [← same, balance]
  by_cases own : entry.renterId = renterId
  · rw [← own] at found
    have kept := covered renter found nonneg
    simpa [netOf, own] using kept
  · simpa [netOf, own] using nonneg

theorem run_moved (db : Database) (call : CreditCall) :
    (∃ entries, Moved db (call.run db).2 entries) ∧ KeepsNonneg db (call.run db).2 ∧
      ∀ message, (call.run db).1 = .error message → (call.run db).2 = db := by
  cases call with
  | add renterId amountHalala source opts ledgerId now fault =>
    simp only [CreditCall.run]
    rcases @addCredits_cases ⟨db, fault⟩ renterId amountHalala source opts ledgerId now with
      ⟨message, threw⟩ | ⟨credited, after, amount, done, whole, moved⟩
    · rw [threw]
      exact ⟨⟨[], Moved.refl db⟩, KeepsNonneg.refl db, fun _ _ => rfl⟩
    · rw [done]
      refine ⟨⟨_, moved⟩, KeepsNonneg.of_entry moved ?_, ?_⟩
      · intro renter _ nonneg
        have positive := positiveInteger_pos whole
        simp only [Entry.signed, creditEntry]
        omega
      · intro message threw
        cases threw
  | deduct renterId amountHalala jobId ledgerId now fault =>
    simp only [CreditCall.run]
    rcases @deductCredits_cases ⟨db, fault⟩ renterId amountHalala jobId ledgerId now with
      ⟨message, threw⟩ | ⟨deduction, after, done, effect⟩
    · rw [threw]
      exact ⟨⟨[], Moved.refl db⟩, KeepsNonneg.refl db, fun _ _ => rfl⟩
    · rw [done]
      rcases effect with same | ⟨amount, job, whole, moved, stored⟩
      · have moved : Moved db after.db [] := by
          rw [same]
          exact Moved.refl db
        have nonneg : KeepsNonneg db after.db := by
          rw [same]
          exact KeepsNonneg.refl db
        exact ⟨⟨[], moved⟩, nonneg, fun _ _ => same⟩
      · obtain ⟨renter, found, covered⟩ := stored
        refine ⟨⟨_, moved⟩, KeepsNonneg.of_entry moved ?_, ?_⟩
        · intro other otherFound _
          have stored : db.renters.lookup renterId = some renter := found
          have otherStored : db.renters.lookup renterId = some other := otherFound
          rw [stored] at otherStored
          cases otherStored
          simp only [Entry.signed, debitEntry]
          omega
        · intro message threw
          cases threw

def Kept (before after : Database) : Prop :=
  (∃ entries, Moved before after entries) ∧ KeepsNonneg before after

theorem Kept.trans {first second third : Database}
    (before : Kept first second) (after : Kept second third) :
    Kept first third := by
  obtain ⟨⟨earlier, movedBefore⟩, keptBefore⟩ := before
  obtain ⟨⟨later, movedAfter⟩, keptAfter⟩ := after
  refine ⟨⟨earlier ++ later, movedBefore.trans movedAfter⟩, ?_⟩
  intro renterId renter last found lastFound nonneg
  obtain ⟨middle, middleFound, _⟩ := movedBefore.balances renterId renter found
  have between := keptBefore renterId renter middle found middleFound nonneg
  exact keptAfter renterId middle last middleFound lastFound between

/-- Over all sequences of calls, refused, throwing or not: the balances move
by the entries that are written, none of them becomes negative, and a call
that throws changes neither. -/
theorem ledger_matches_balances {start finish : Database} {calls : List CreditCall}
    (run : Run (Fires creditNext) start calls finish) :
    (∃ entries, Moved start finish entries) ∧ KeepsNonneg start finish ∧
      ∀ call message, (CreditCall.run finish call).1 = .error message →
        (CreditCall.run finish call).2 = finish := by
  have kept : Kept start finish := by
    refine run.relates (fun _ => True) Kept
      (fun db => ⟨⟨[], Moved.refl db⟩, KeepsNonneg.refl db⟩) Kept.trans
      (fun _ _ => trivial) ?_ trivial
    intro source target call _ fires
    cases fires
    obtain ⟨moved, nonneg, _⟩ := run_moved source call
    exact ⟨moved, nonneg⟩
  exact ⟨kept.1, kept.2, fun call => (run_moved finish call).2.2⟩

def sampleCredits : Database :=
  { renters := ⟨[⟨1, false, 0, 0, 0, none⟩], by decide⟩
    ledger := Table.empty }

theorem ledger_matches_balances_sample :
    ∃ finish, execute creditNext sampleCredits
      [.add 1 (some 500) "topup" ⟨none, some "mp-1", none⟩ 10 0 none,
        .add 2 (some 500) "topup" ⟨none, none, none⟩ 11 1 none,
        .deduct 1 (some 200) (some "job-1") 12 2 none,
        .deduct 1 (some 400) (some "job-2") 13 3 none,
        .deduct 1 (some 100) (some "job-3") 14 4 (some ⟨1, "disk I/O error"⟩)] = some finish ∧
        (∃ entries, Moved sampleCredits finish entries) ∧
        finish.renters.rows.map Renter.balanceHalala = [300] ∧
        finish.ledger.rows.map Entry.signed = [500, -200] := by
  obtain ⟨finish, executed, shown⟩ : ∃ finish, execute creditNext sampleCredits
      [.add 1 (some 500) "topup" ⟨none, some "mp-1", none⟩ 10 0 none,
        .add 2 (some 500) "topup" ⟨none, none, none⟩ 11 1 none,
        .deduct 1 (some 200) (some "job-1") 12 2 none,
        .deduct 1 (some 400) (some "job-2") 13 3 none,
        .deduct 1 (some 100) (some "job-3") 14 4 (some ⟨1, "disk I/O error"⟩)] = some finish ∧
          finish.renters.rows.map Renter.balanceHalala = [300] ∧
          finish.ledger.rows.map Entry.signed = [500, -200] :=
    exists_of_execute_any (by decide +kernel)
  have moved := (ledger_matches_balances (run_of_execute executed)).1
  exact ⟨finish, executed, moved, shown⟩

end DcpPlatform.Credits
