import Mathlib.Tactic.Basic

/-!
# Computations on a database that may throw

A computation of type `Tx` may throw; what it has written before stays
written. `transaction` undoes the writes when it throws. A session is a
connection on which one later statement is going to throw, or none is.
-/

namespace DcpPlatform.Foundation

/-- A computation and the database it leaves, thrown or not. -/
def Tx (Db Failure Value : Type) : Type :=
  Db → Except Failure Value × Db

namespace Tx

variable {Db Failure Value Result : Type}

instance : Monad (Tx Db Failure) where
  pure value := fun db => (Except.ok value, db)
  bind first continuation := fun db =>
    match first db with
    | (Except.ok value, middle) => continuation value middle
    | (Except.error failure, middle) => (Except.error failure, middle)

def read (observe : Db → Value) : Tx Db Failure Value :=
  fun db => (Except.ok (observe db), db)

def write (change : Db → Db) : Tx Db Failure PUnit :=
  fun db => (Except.ok PUnit.unit, change db)

def fail (failure : Failure) : Tx Db Failure Value :=
  fun db => (Except.error failure, db)

/-- Run a computation and roll back when it throws. -/
def transaction (body : Tx Db Failure Value) : Tx Db Failure Value :=
  fun db =>
    match body db with
    | (Except.ok value, after) => (Except.ok value, after)
    | (Except.error failure, _) => (Except.error failure, db)

variable {first : Tx Db Failure Value} {continuation : Value → Tx Db Failure Result} {db after : Db}

theorem bind_eq_ok_iff {result : Result} :
    (first >>= continuation) db = (Except.ok result, after) ↔ ∃ value middle,
      first db = (Except.ok value, middle) ∧
        continuation value middle = (Except.ok result, after) := by
  change (match first db with
      | (Except.ok value, middle) => continuation value middle
      | (Except.error failure, middle) =>
        (Except.error failure, middle)) = _ ↔ _
  constructor
  · intro succeeded
    rcases reached : first db with ⟨outcome, middle⟩
    rw [reached] at succeeded
    cases outcome with
    | error failure =>
      simp at succeeded
    | ok value =>
      exact ⟨value, middle, rfl, succeeded⟩
  · rintro ⟨value, middle, reached, succeeded⟩
    rw [reached]
    exact succeeded

variable {middle : Db}

theorem bind_of_ok {value : Value} (succeeded : first db = (Except.ok value, middle)) :
    (first >>= continuation) db = continuation value middle := by
  change (match first db with
      | (Except.ok value, middle) => continuation value middle
      | (Except.error failure, middle) =>
        (Except.error failure, middle)) = _
  rw [succeeded]

variable {failure : Failure}

theorem bind_of_error (failed : first db = (Except.error failure, middle)) :
    (first >>= continuation) db = (Except.error failure, middle) := by
  change (match first db with
      | (Except.ok value, middle) => continuation value middle
      | (Except.error failure, middle) =>
        (Except.error failure, middle)) = _
  rw [failed]

@[simp]
theorem pure_eq_ok_iff {value result : Value} :
    (pure value : Tx Db Failure Value) db = (Except.ok result, after) ↔
      value = result ∧ db = after := by
  change (Except.ok value, db) = (Except.ok result, after) ↔ _
  simp

theorem read_bind (observe : Db → Value) (continuation : Value → Tx Db Failure Result) (db : Db) :
    (read observe >>= continuation) db = continuation (observe db) db :=
  rfl

theorem write_bind (change : Db → Db) (continuation : PUnit → Tx Db Failure Result) (db : Db) :
    (write change >>= continuation) db = continuation PUnit.unit (change db) :=
  rfl

variable {result : Value}

@[simp]
theorem read_eq_ok_iff {observe : Db → Value} :
    (read observe : Tx Db Failure Value) db = (Except.ok result, after) ↔
      observe db = result ∧ db = after := by
  simp [read]

@[simp]
theorem write_eq_ok_iff {change : Db → Db} {result : PUnit} :
    (write change : Tx Db Failure PUnit) db = (Except.ok result, after) ↔ change db = after := by
  simp [write]

@[simp]
theorem fail_ne_ok :
    (fail failure : Tx Db Failure Value) db ≠ (Except.ok result, after) := by
  simp [fail]

theorem transaction_cases (body : Tx Db Failure Value) (db : Db) :
    (∃ value after,
      body db = (Except.ok value, after) ∧ transaction body db = (Except.ok value, after)) ∨
      ∃ failure, transaction body db = (Except.error failure, db) := by
  unfold transaction
  rcases body db with ⟨outcome, after⟩
  cases outcome with
  | ok value =>
    exact Or.inl ⟨value, after, rfl, rfl⟩
  | error failure =>
    exact Or.inr ⟨failure, rfl⟩

/-- A computation that leaves what is observed as it is, thrown or not. -/
def Keeps {Observed : Type} (observe : Db → Observed) (body : Tx Db Failure Value) : Prop :=
  ∀ db, observe (body db).2 = observe db

namespace Keeps

variable {Observed : Type} {observe : Db → Observed}

theorem pure (value : Value) :
    Keeps observe (Pure.pure value : Tx Db Failure Value) :=
  fun _ => rfl

theorem read (reads : Db → Value) :
    Keeps observe (Tx.read reads : Tx Db Failure Value) :=
  fun _ => rfl

theorem fail (failure : Failure) :
    Keeps observe (Tx.fail failure : Tx Db Failure Value) :=
  fun _ => rfl

theorem write {change : Db → Db} (same : ∀ db, observe (change db) = observe db) :
    Keeps observe (Tx.write change : Tx Db Failure PUnit) :=
  same

theorem bind {first : Tx Db Failure Value}
    {continuation : Value → Tx Db Failure Result} (keeps : Keeps observe first)
    (continues : ∀ value, Keeps observe (continuation value)) :
    Keeps observe (first >>= continuation) := by
  intro db
  have earlier := keeps db
  rcases reached : first db with ⟨outcome, middle⟩
  rw [reached] at earlier
  cases outcome with
  | ok value =>
    rw [Tx.bind_of_ok reached]
    exact (continues value middle).trans earlier
  | error failure =>
    rw [Tx.bind_of_error reached]
    exact earlier

end Keeps

end Tx

/-- The statement that throws, counted from the next one. -/
structure Fault where
  position : Nat
  message : String

structure Session (Db : Type) where
  db : Db
  fault : Option Fault

def statement {Db Value : Type} (run : Db → Except String (Value × Db)) :
    Tx (Session Db) String Value :=
  fun session =>
    match session.fault with
    | some ⟨0, message⟩ => (Except.error message, session)
    | some ⟨position + 1, message⟩ =>
      match run session.db with
      | .error refused => (Except.error refused, session)
      | .ok (value, db) =>
        (Except.ok value, ⟨db, some ⟨position, message⟩⟩)
    | none =>
      match run session.db with
      | .error refused => (Except.error refused, session)
      | .ok (value, db) => (Except.ok value, ⟨db, none⟩)

variable {Db Value : Type}

theorem statement_cases (run : Db → Except String (Value × Db)) (session : Session Db) :
    (∃ message, statement run session = (Except.error message, session)) ∨
      ∃ value after, run session.db = .ok (value, after.db) ∧
        statement run session = (Except.ok value, after) := by
  rcases session with ⟨db, fault⟩
  rcases fault with _ | ⟨position, message⟩
  · cases ran : run db with
    | error refused =>
      exact Or.inl ⟨refused, by simp [statement, ran]⟩
    | ok done =>
      exact Or.inr ⟨done.1, ⟨done.2, none⟩, rfl, by simp [statement, ran]⟩
  · cases position with
    | zero =>
      exact Or.inl ⟨message, rfl⟩
    | succ position =>
      cases ran : run db with
      | error refused =>
        exact Or.inl ⟨refused, by simp [statement, ran]⟩
      | ok done =>
        exact Or.inr ⟨done.1, ⟨done.2, some ⟨position, message⟩⟩, rfl, by simp [statement, ran]⟩

theorem statement_eq_ok {run : Db → Except String (Value × Db)} {session after : Session Db}
    {value : Value} (succeeded : statement run session = (Except.ok value, after)) :
    run session.db = .ok (value, after.db) := by
  rcases statement_cases run session with ⟨message, threw⟩ | ⟨other, reached, ran, did⟩
  · rw [threw] at succeeded
    cases succeeded
  · rw [did] at succeeded
    have values := congrArg Prod.fst succeeded
    have sessions := congrArg Prod.snd succeeded
    injection values with sameValue
    dsimp at sessions
    rw [← sessions, ← sameValue]
    exact ran

end DcpPlatform.Foundation
