import Mathlib.Data.BitVec

/-!
# Fungible tokens without transfer fees

`Erc20` is the interface a contract sees of its token. The laws are fields, so
a token that charges a fee on transfer is not a value of this type.
-/

namespace DcpPlatform.Contracts

universe u

abbrev Address := BitVec 160

def zeroAddress : Address := 0#160

def uint256Max : Nat := 2 ^ 256 - 1

def moveBalance (balances : Address → Nat)
    (source recipient : Address) (amount : Nat) : Address → Nat :=
  fun account =>
    balances account - (if account = source then amount else 0) +
      (if account = recipient then amount else 0)

theorem moveBalance_recipient {balances : Address → Nat}
    {source recipient : Address} {amount : Nat} (different : source ≠ recipient) :
    moveBalance balances source recipient amount recipient = balances recipient + amount := by
  simp [moveBalance, Ne.symm different]

theorem le_moveBalance_add (balances : Address → Nat)
    (source recipient : Address) (amount : Nat) (account : Address) :
    balances account ≤ moveBalance balances source recipient amount account + amount := by
  unfold moveBalance
  split <;> split <;> omega

structure Erc20 (Ledger : Type u) where
  balanceOf : Ledger → Address → Nat
  transfer : Ledger → (sender recipient : Address) → (amount : Nat) → Option Ledger
  transferFrom : Ledger → (spender holder recipient : Address) → (amount : Nat) → Option Ledger
  transfer_covered : ∀ {ledger after : Ledger} {sender recipient : Address} {amount : Nat},
    transfer ledger sender recipient amount = some after → amount ≤ balanceOf ledger sender
  transfer_exact : ∀ {ledger after : Ledger} {sender recipient : Address} {amount : Nat},
    transfer ledger sender recipient amount = some after →
      balanceOf after = moveBalance (balanceOf ledger) sender recipient amount
  transferFrom_covered : ∀ {ledger after : Ledger} {spender holder recipient : Address}
    {amount : Nat}, transferFrom ledger spender holder recipient amount = some after →
        amount ≤ balanceOf ledger holder
  transferFrom_exact : ∀ {ledger after : Ledger} {spender holder recipient : Address}
    {amount : Nat}, transferFrom ledger spender holder recipient amount = some after →
        balanceOf after = moveBalance (balanceOf ledger) holder recipient amount

structure StandardLedger where
  balances : Address → Nat
  allowances : Address → Address → Nat

namespace StandardLedger

def move (ledger : StandardLedger) (source recipient : Address)
    (amount : Nat) : Option StandardLedger :=
  if source ≠ zeroAddress ∧ recipient ≠ zeroAddress ∧ amount ≤ ledger.balances source then
    some { ledger with
      balances := moveBalance ledger.balances source recipient amount }
  else
    none

def spendAllowance (ledger : StandardLedger) (holder spender : Address)
    (amount : Nat) : Option StandardLedger :=
  if ledger.allowances holder spender = uint256Max then
    some ledger
  else if amount ≤ ledger.allowances holder spender then
    some { ledger with
      allowances := fun owner delegate =>
        if owner = holder ∧ delegate = spender then
          ledger.allowances holder spender - amount
        else
          ledger.allowances owner delegate }
  else
    none

variable {ledger after : StandardLedger} {amount : Nat}

theorem move_eq_some {source recipient : Address}
    (moved : ledger.move source recipient amount = some after) :
    amount ≤ ledger.balances source ∧
      after.balances = moveBalance ledger.balances source recipient amount := by
  unfold move at moved
  split at moved
  · rename_i checks
    cases moved
    exact ⟨checks.2.2, rfl⟩
  · cases moved

theorem spendAllowance_balances {holder spender : Address}
    (spent : ledger.spendAllowance holder spender amount = some after) :
    after.balances = ledger.balances := by
  unfold spendAllowance at spent
  split at spent
  · injection spent with same
    rw [same]
  · split at spent
    · cases spent
      rfl
    · cases spent

def moveFrom (ledger : StandardLedger) (spender holder recipient : Address) (amount : Nat) :
    Option StandardLedger :=
  match ledger.spendAllowance holder spender amount with
  | none => none
  | some spent => spent.move holder recipient amount

theorem moveFrom_eq_some {spender holder recipient : Address}
    (moved : ledger.moveFrom spender holder recipient amount = some after) :
    amount ≤ ledger.balances holder ∧
      after.balances = moveBalance ledger.balances holder recipient amount := by
  unfold moveFrom at moved
  cases spent : ledger.spendAllowance holder spender amount with
  | none =>
    rw [spent] at moved
    cases moved
  | some middle =>
    rw [spent] at moved
    have facts := move_eq_some moved
    rwa [spendAllowance_balances spent] at facts

end StandardLedger

/-- The standard ledger is a token without transfer fees. -/
def standardToken : Erc20 StandardLedger where
  balanceOf := StandardLedger.balances
  transfer := StandardLedger.move
  transferFrom := StandardLedger.moveFrom
  transfer_covered := fun moved => (StandardLedger.move_eq_some moved).1
  transfer_exact := fun moved => (StandardLedger.move_eq_some moved).2
  transferFrom_covered := fun moved =>
    (StandardLedger.moveFrom_eq_some moved).1
  transferFrom_exact := fun moved =>
    (StandardLedger.moveFrom_eq_some moved).2

end DcpPlatform.Contracts
