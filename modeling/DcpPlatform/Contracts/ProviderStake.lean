import DcpPlatform.Contracts.Erc20
import DcpPlatform.Foundation.FiniteSums
import DcpPlatform.Foundation.Outcome
import DcpPlatform.Foundation.Transition

/-!
# The stake contract

A provider deposits at least `minStake` and takes it back after `lockPeriod`;
the owner slashes stakes and withdraws. `withdrawSlashed` does not look at
what was slashed. A payment hands control over after all changes, so a
reentrant call is one that comes next.
-/

namespace DcpPlatform.Contracts.ProviderStake

open Foundation

/-- `100 ether`. -/
def minStake : Nat := 100 * 10 ^ 18

/-- `7 days`. -/
def lockPeriod : Nat := 7 * 24 * 3600

structure Stake where
  amount : Nat
  stakedAt : Nat
  isActive : Bool

inductive Revert where
  | belowMinimum (sent minimum : Nat)
  | alreadyStaked
  | notStaked
  | lockPeriodNotElapsed (unlocksAt : Nat)
  | insufficientStake (requested available : Nat)
  | transferFailed
  | unauthorizedAccount (account : Address)
  | invalidOwner (account : Address)
  | arithmeticOverflow
  deriving DecidableEq

structure Storage where
  owner : Address
  stakes : Address → Stake

/-- `balance` is the contract's own. `slashed` and `withdrawn` add up what
`slash` and `withdrawSlashed` have moved; the contract keeps no such sums. -/
structure Chain where
  storage : Storage
  balance : Nat
  timestamp : Nat
  slashed : Nat
  withdrawn : Nat

def deploy (initialOwner : Address) : Except Revert Storage := do
  require (initialOwner ≠ zeroAddress) (.invalidOwner initialOwner)
  return { owner := initialOwner, stakes := fun _ => ⟨0, 0, false⟩ }

def Storage.store (storage : Storage) (provider : Address) (record : Stake) : Storage :=
  { storage with
    stakes := fun other =>
      if other = provider then record else storage.stakes other }

/-- `recipient.call{value: amount}("")`; the recipient may refuse. -/
def sendValue (chain : Chain) (amount : Nat) (accepts : Bool) :
    Except Revert Chain := do
  require (amount ≤ chain.balance ∧ accepts = true) .transferFailed
  return { chain with balance := chain.balance - amount }

def stake (chain : Chain) (sender : Address) (value : Nat) :
    Except Revert Chain := do
  require (minStake ≤ value) (.belowMinimum value minStake)
  require ((chain.storage.stakes sender).isActive = false) .alreadyStaked
  return { chain with
    storage := chain.storage.store sender ⟨value, chain.timestamp, true⟩
    balance := chain.balance + value }

def Stake.reduce (record : Stake) (amount : Nat) : Stake :=
  { record with
    amount := record.amount - amount
    isActive := decide (record.amount - amount ≠ 0) && record.isActive }

def unstake (chain : Chain) (sender : Address) (amount : Nat)
    (accepts : Bool) : Except Revert Chain := do
  let record := chain.storage.stakes sender
  require (record.isActive = true) .notStaked
  require (record.stakedAt + lockPeriod ≤ uint256Max) .arithmeticOverflow
  require (record.stakedAt + lockPeriod ≤ chain.timestamp)
    (.lockPeriodNotElapsed (record.stakedAt + lockPeriod))
  require (amount ≤ record.amount) (.insufficientStake amount record.amount)
  sendValue { chain with
    storage := chain.storage.store sender (record.reduce amount) }
    amount accepts

def onlyOwner (chain : Chain) (sender : Address) : Except Revert PUnit :=
  require (sender = chain.storage.owner) (.unauthorizedAccount sender)

def slash (chain : Chain) (sender provider : Address) (amount : Nat) :
    Except Revert Chain := do
  onlyOwner chain sender
  let record := chain.storage.stakes provider
  require (record.isActive = true) .notStaked
  require (amount ≤ record.amount) (.insufficientStake amount record.amount)
  return { chain with
    storage := chain.storage.store provider (record.reduce amount)
    slashed := chain.slashed + amount }

def withdrawSlashed (chain : Chain) (sender : Address) (amount : Nat)
    (accepts : Bool) : Except Revert Chain := do
  onlyOwner chain sender
  let chain ← sendValue chain amount accepts
  return { chain with withdrawn := chain.withdrawn + amount }

def transferOwnership (chain : Chain) (sender newOwner : Address) :
    Except Revert Chain := do
  onlyOwner chain sender
  require (newOwner ≠ zeroAddress) (.invalidOwner newOwner)
  return { chain with storage := { chain.storage with owner := newOwner } }

def renounceOwnership (chain : Chain) (sender : Address) :
    Except Revert Chain := do
  onlyOwner chain sender
  return { chain with
    storage := { chain.storage with owner := zeroAddress } }

inductive Call where
  | stake (value : Nat)
  | unstake (amount : Nat) (accepts : Bool)
  | slash (provider : Address) (amount : Nat)
  | withdrawSlashed (amount : Nat) (accepts : Bool)
  | transferOwnership (newOwner : Address)
  | renounceOwnership

def perform (chain : Chain) (sender : Address) :
    Call → Except Revert Chain
  | .stake value => stake chain sender value
  | .unstake amount accepts => unstake chain sender amount accepts
  | .slash provider amount => slash chain sender provider amount
  | .withdrawSlashed amount accepts =>
    withdrawSlashed chain sender amount accepts
  | .transferOwnership newOwner => transferOwnership chain sender newOwner
  | .renounceOwnership => renounceOwnership chain sender

/-- Coins also reach the contract without a call. -/
inductive Action where
  | transaction (timestamp : Nat) (sender : Address) (call : Call)
  | endow (amount : Nat)

def Chain.at (chain : Chain) (timestamp : Nat) : Chain :=
  { chain with timestamp := timestamp }

def nextStake (chain : Chain) : Action → Option Chain
  | .transaction timestamp sender call =>
    if chain.timestamp ≤ timestamp ∧ timestamp ≤ uint256Max then
      match perform (chain.at timestamp) sender call with
      | .ok after => some after
      | .error _ => some (chain.at timestamp)
    else
      none
  | .endow amount =>
    some { chain with balance := chain.balance + amount }

/-! ## Solvency -/

def Stake.activeAmount (record : Stake) : Nat :=
  if record.isActive then record.amount else 0

/-- The balance covers the active stakes of any set of providers. -/
def Solvent (chain : Chain) : Prop :=
  ∀ providers : Finset Address,
    ∑ provider ∈ providers, (chain.storage.stakes provider).activeAmount ≤ chain.balance

structure Sound (chain : Chain) : Prop where
  solvent : Solvent chain
  withdrawn : chain.withdrawn ≤ chain.slashed

/-- A withdrawal that goes through takes no more than what was slashed and
not yet withdrawn. -/
def WithinSlashed (chain : Chain) : Action → Prop
  | .transaction _ sender (.withdrawSlashed amount accepts) =>
    sender = chain.storage.owner → amount ≤ chain.balance →
      accepts = true → chain.withdrawn + amount ≤ chain.slashed
  | _ => True

instance (chain : Chain) (action : Action) :
    Decidable (WithinSlashed chain action) := by
  cases action with
  | transaction timestamp sender call =>
    cases call
    all_goals
      unfold WithinSlashed
      infer_instance
  | endow amount =>
    unfold WithinSlashed
    infer_instance

/-- The balance and what was withdrawn cover the stakes and the slashes. -/
def Backed (chain : Chain) : Prop :=
  ∀ providers : Finset Address, ∑ provider ∈ providers,
        (chain.storage.stakes provider).activeAmount + chain.slashed ≤
      chain.balance + chain.withdrawn

variable {amount : Nat} {record : Stake}

theorem reduce_activeAmount (active : record.isActive = true) (within : amount ≤ record.amount) :
    (record.reduce amount).activeAmount + amount = record.activeAmount := by
  unfold Stake.activeAmount Stake.reduce
  by_cases nothing : record.amount - amount = 0
  · simp only [nothing, active]
    simp
    omega
  · simp only [active]
    simp [nothing]
    omega

variable {chain after : Chain} {provider : Address}

theorem Backed.of_store (backed : Backed chain)
    (stored : after.storage.stakes = (chain.storage.store provider record).stakes)
    (moved : chain.balance + chain.withdrawn + record.activeAmount + after.slashed ≤
      after.balance + after.withdrawn +
        (chain.storage.stakes provider).activeAmount + chain.slashed) :
    Backed after := by
  intro providers
  have nothing := backed ∅
  have single := backed {provider}
  simp only [Finset.sum_empty, Finset.sum_singleton] at nothing single
  have bound := @sum_le_of_changed_member Address _
      (fun other => (chain.storage.stakes other).activeAmount)
      (fun other => (after.storage.stakes other).activeAmount) provider
      (chain.balance + chain.withdrawn - chain.slashed)
      (after.balance + after.withdrawn - after.slashed)
      (by
        intro other different
        simp [stored, Storage.store, if_neg different])
      (by
        intro others
        have covered := backed others
        omega)
      (by
        simp only [stored, Storage.store, if_pos]
        omega)
      providers
  omega

theorem Backed.of_stakes {chain after : Chain} (backed : Backed chain)
    (stakes : after.storage.stakes = chain.storage.stakes)
    (moved : chain.balance + chain.withdrawn + after.slashed ≤
      after.balance + after.withdrawn + chain.slashed) :
    Backed after := by
  intro providers
  have covered := backed providers
  rw [stakes]
  omega

variable {accepts : Bool}

theorem sendValue_eq_ok (sent : sendValue chain amount accepts = Except.ok after) :
    amount ≤ chain.balance ∧ accepts = true ∧
      after = { chain with balance := chain.balance - amount } := by
  rw [sendValue, require_bind_eq_ok_iff] at sent
  obtain ⟨⟨covered, accepted⟩, result⟩ := sent
  injection result with result
  exact ⟨covered, accepted, result.symm⟩

inductive Effect (chain : Chain) (sender : Address) :
    Call → Chain → Prop
  | kept {call : Call} {after : Chain} :
      (∀ amount accepts, call ≠ .withdrawSlashed amount accepts) →
      Backed after → after.withdrawn = chain.withdrawn →
      chain.slashed ≤ after.slashed → Effect chain sender call after
  | withdrawn {amount : Nat} {after : Chain} :
      sender = chain.storage.owner → amount ≤ chain.balance →
      Backed after → after.withdrawn = chain.withdrawn + amount →
      after.slashed = chain.slashed →
      Effect chain sender (.withdrawSlashed amount true) after

variable {sender : Address}

theorem stake_effect {value : Nat} (backed : Backed chain)
    (succeeded : stake chain sender value = Except.ok after) :
    Effect chain sender (.stake value) after := by
  unfold stake at succeeded
  simp only [require_bind_eq_ok_iff] at succeeded
  obtain ⟨_, inactive, ⟨⟩⟩ := succeeded
  refine Effect.kept (by simp) ?_ rfl le_rfl
  apply backed.of_store rfl
  have free : (chain.storage.stakes sender).activeAmount = 0 := by
    rw [Stake.activeAmount, inactive, if_neg Bool.false_ne_true]
  have whole : (Stake.mk value chain.timestamp true).activeAmount = value := rfl
  rw [free, whole]
  dsimp only
  omega

theorem unstake_effect (backed : Backed chain)
    (succeeded : unstake chain sender amount accepts = Except.ok after) :
    Effect chain sender (.unstake amount accepts) after := by
  unfold unstake at succeeded
  simp only [require_bind_eq_ok_iff] at succeeded
  obtain ⟨active, _, _, within, sent⟩ := succeeded
  obtain ⟨covered, _, rfl⟩ := sendValue_eq_ok sent
  refine Effect.kept (by simp) ?_ rfl le_rfl
  apply backed.of_store rfl
  have reduced := reduce_activeAmount active within
  dsimp only at covered ⊢
  omega

theorem slash_effect {sender provider : Address} (backed : Backed chain)
    (succeeded : slash chain sender provider amount = Except.ok after) :
    Effect chain sender (.slash provider amount) after := by
  unfold slash onlyOwner at succeeded
  simp only [require_bind_eq_ok_iff] at succeeded
  obtain ⟨_, active, within, ⟨⟩⟩ := succeeded
  refine Effect.kept (by simp) ?_ rfl (Nat.le_add_right _ _)
  apply backed.of_store rfl
  have reduced := reduce_activeAmount active within
  dsimp only
  omega

theorem withdrawSlashed_effect (backed : Backed chain)
    (succeeded : withdrawSlashed chain sender amount accepts = Except.ok after) :
    Effect chain sender (.withdrawSlashed amount accepts) after := by
  rw [withdrawSlashed, onlyOwner, require_bind_eq_ok_iff] at succeeded
  obtain ⟨owner, succeeded⟩ := succeeded
  obtain ⟨middle, sent, result⟩ := bind_eq_ok_iff.mp succeeded
  obtain ⟨covered, accepted, same⟩ := sendValue_eq_ok sent
  injection result with result
  subst same result accepted
  refine Effect.withdrawn owner covered ?_ rfl rfl
  refine @Backed.of_stakes chain _ backed rfl ?_
  dsimp only
  omega

theorem ownership_effect (owner : Address) (backed : Backed chain) :
    Backed { chain with storage := { chain.storage with owner := owner } } :=
  backed.of_stakes rfl le_rfl

theorem perform_effect {call : Call} (backed : Backed chain)
    (succeeded : perform chain sender call = Except.ok after) :
    Effect chain sender call after := by
  cases call with
  | stake value =>
    exact stake_effect backed succeeded
  | unstake amount accepts =>
    exact unstake_effect backed succeeded
  | slash provider amount =>
    exact slash_effect backed succeeded
  | withdrawSlashed amount accepts =>
    exact withdrawSlashed_effect backed succeeded
  | transferOwnership newOwner =>
    simp only [perform, transferOwnership, onlyOwner, require_bind_eq_ok_iff] at succeeded
    obtain ⟨_, _, ⟨⟩⟩ := succeeded
    exact Effect.kept (by simp) (ownership_effect newOwner backed) rfl le_rfl
  | renounceOwnership =>
    simp only [perform, renounceOwnership, onlyOwner, require_bind_eq_ok_iff] at succeeded
    obtain ⟨_, ⟨⟩⟩ := succeeded
    exact Effect.kept (by simp) (ownership_effect zeroAddress backed) rfl le_rfl

theorem withdrawSlashed_succeeds {chain : Chain} {amount : Nat} (covered : amount ≤ chain.balance) :
    withdrawSlashed chain chain.storage.owner amount true = Except.ok { chain with
      balance := chain.balance - amount
      withdrawn := chain.withdrawn + amount } := by
  rw [withdrawSlashed, onlyOwner, require_bind_eq_ok_iff]
  refine ⟨rfl, bind_eq_ok_iff.mpr ⟨{ chain with balance := chain.balance - amount }, ?_, rfl⟩⟩
  rw [sendValue, require_bind_eq_ok_iff]
  exact ⟨⟨covered, rfl⟩, rfl⟩

theorem Sound.of_backed (backed : Backed chain)
    (withdrawn : chain.withdrawn ≤ chain.slashed) : Sound chain := by
  refine ⟨?_, withdrawn⟩
  intro providers
  have covered := backed providers
  omega

variable {before after : Chain} {action : Action}

theorem nextStake_backed (fires : Fires nextStake before action after)
    (backed : Backed before) : Backed after := by
  cases action with
  | transaction timestamp sender call =>
    have later : Backed (before.at timestamp) := backed
    simp only [Fires, nextStake] at fires
    split at fires
    · split at fires
      · rename_i reached succeeded
        cases fires
        cases perform_effect later succeeded with
        | kept _ backed _ _ | withdrawn _ _ backed _ _ => exact backed
      · cases fires
        exact later
    · cases fires
  | endow amount =>
    cases fires
    refine @Backed.of_stakes before _ backed rfl ?_
    dsimp only
    omega

theorem nextStake_sound_iff (fires : Fires nextStake before action after)
    (backed : Backed before) (sound : Sound before) :
    Sound after ↔ WithinSlashed before action := by
  have backedAfter := nextStake_backed fires backed
  have withdrawn := sound.withdrawn
  constructor
  · intro soundAfter
    cases action with
    | transaction timestamp sender call =>
      cases call with
      | withdrawSlashed amount accepts =>
        intro owner covered accepted
        subst owner accepted
        have succeeded := @withdrawSlashed_succeeds (before.at timestamp) amount covered
        simp only [Fires, nextStake, perform] at fires
        split at fires
        · rw [show (before.at timestamp).storage.owner = before.storage.owner from rfl] at succeeded
          rw [succeeded] at fires
          cases fires
          exact soundAfter.withdrawn
        · cases fires
      | stake _ | unstake _ _ | slash _ _ | transferOwnership _
      | renounceOwnership => trivial
    | endow amount => trivial
  · intro within
    apply Sound.of_backed backedAfter
    cases action with
    | transaction timestamp sender call =>
      have later : Backed (before.at timestamp) := backed
      simp only [Fires, nextStake] at fires
      split at fires
      · split at fires
        · rename_i reached succeeded
          cases fires
          cases perform_effect later succeeded with
          | kept _ _ same more =>
            rw [same]
            exact withdrawn.trans more
          | withdrawn owner covered _ more same =>
            rw [same, more]
            exact within owner covered rfl
        · cases fires
          exact withdrawn
      · cases fires
    | endow amount =>
      cases fires
      exact withdrawn

theorem unstake_succeeds (solvent : Solvent chain)
    (active : (chain.storage.stakes provider).isActive = true)
    (passed : (chain.storage.stakes provider).stakedAt + lockPeriod ≤ chain.timestamp)
    (bounded : chain.timestamp ≤ uint256Max) :
    ∃ after,
      unstake chain provider (chain.storage.stakes provider).amount true = Except.ok after := by
  have covered := solvent {provider}
  rw [Finset.sum_singleton, Stake.activeAmount, if_pos active] at covered
  generalize record : chain.storage.stakes provider = held at *
  refine ⟨{ chain with
    storage := chain.storage.store provider (held.reduce held.amount)
    balance := chain.balance - held.amount }, ?_⟩
  rw [unstake, sendValue, record]
  simp only [require_bind_eq_ok_iff]
  exact ⟨active, passed.trans bounded, passed, le_rfl, ⟨covered, trivial⟩, rfl⟩

theorem backed_of_deployed {storage : Storage} {initialOwner : Address}
    (deployed : deploy initialOwner = Except.ok storage) (balance timestamp : Nat) :
    Backed ⟨storage, balance, timestamp, 0, 0⟩ := by
  rw [deploy, require_bind_eq_ok_iff] at deployed
  obtain ⟨_, ⟨⟩⟩ := deployed
  intro providers
  simp [Stake.activeAmount]

/-- The runs from deployment in which the contract is solvent throughout and
never pays its owner more than was slashed are those in which each
withdrawal stays within what was slashed and not yet withdrawn. In them a
provider can take back its stake once its lock has passed. -/
theorem stake_solvent {storage : Storage} {initialOwner : Address}
    {balance timestamp : Nat} {finish : Chain} {actions : List Action}
    (deployed : deploy initialOwner = Except.ok storage) :
    (Run (staying (Fires nextStake) Sound) ⟨storage, balance, timestamp, 0, 0⟩ actions finish ↔
      Run (guarded (Fires nextStake) WithinSlashed)
        ⟨storage, balance, timestamp, 0, 0⟩ actions finish) ∧
      (Run (guarded (Fires nextStake) WithinSlashed)
        ⟨storage, balance, timestamp, 0, 0⟩ actions finish →
        Sound finish ∧ ∀ provider later, later ≤ uint256Max →
        (finish.storage.stakes provider).isActive = true →
        (finish.storage.stakes provider).stakedAt + lockPeriod ≤ later →
        ∃ after, unstake (finish.at later) provider (finish.storage.stakes provider).amount true =
          Except.ok after) := by
  have backed := backed_of_deployed deployed balance timestamp
  have sound : Sound ⟨storage, balance, timestamp, 0, 0⟩ := Sound.of_backed backed le_rfl
  have same := @Run.staying_iff_guarded _ _ (Fires nextStake)
      ⟨storage, balance, timestamp, 0, 0⟩ finish actions Backed Sound
      WithinSlashed (fun backed _ fires _ => nextStake_backed fires backed)
      (fun backed sound fires => nextStake_sound_iff fires backed sound)
      backed sound
  refine ⟨same, ?_⟩
  intro run
  have finishSound := Run.holds_of_staying sound (same.mpr run)
  refine ⟨finishSound, ?_⟩
  intro provider later bounded active passed
  have solvent : Solvent (finish.at later) := finishSound.solvent
  exact unstake_succeeds solvent active passed bounded

def sampleOwner : Address := 1#160

def sampleProvider : Address := 2#160

def sampleStorage : Storage :=
  { owner := sampleOwner, stakes := fun _ => ⟨0, 0, false⟩ }

def slashedPart : List Action :=
  [.transaction 0 sampleProvider (.stake minStake),
    .transaction 1 sampleOwner (.slash sampleProvider 5),
    .transaction 2 sampleOwner (.withdrawSlashed 5 true)]

theorem stake_solvent_sample :
    ∃ finish, Run (guarded (Fires nextStake) WithinSlashed)
      ⟨sampleStorage, 0, 0, 0, 0⟩ slashedPart finish ∧ finish.withdrawn = 5 ∧
        (finish.storage.stakes sampleProvider).amount = minStake - 5 ∧
        ∃ after, unstake (finish.at lockPeriod) sampleProvider
          (finish.storage.stakes sampleProvider).amount true = Except.ok after := by
  refine exists_guarded_run (fun finish =>
    finish.withdrawn = 5 ∧
    (finish.storage.stakes sampleProvider).amount = minStake - 5 ∧
    (finish.storage.stakes sampleProvider).isActive = true ∧
    (finish.storage.stakes sampleProvider).stakedAt = 0)
    (by decide +kernel) ?_
  rintro finish run ⟨withdrawn, amount, active, stakedAt⟩
  have deployed : deploy sampleOwner = Except.ok sampleStorage := rfl
  refine ⟨withdrawn, amount, ?_⟩
  refine ((stake_solvent deployed).2 run).2 sampleProvider lockPeriod (by decide) active ?_
  rw [stakedAt]
  decide

/-- The owner withdraws a stake that nobody slashed; the provider cannot get
it back. -/
theorem unslashed_stake_withdrawn :
    ∃ finish, Run (Fires nextStake) ⟨sampleStorage, 0, 0, 0, 0⟩
      [.transaction 0 sampleProvider (.stake minStake),
        .transaction 1 sampleOwner (.withdrawSlashed minStake true)]
      finish ∧ ¬ Solvent finish ∧ finish.slashed < finish.withdrawn ∧
        unstake (finish.at lockPeriod) sampleProvider
          (finish.storage.stakes sampleProvider).amount true =
          Except.error .transferFailed := by
  refine exists_run (fun finish =>
    finish.balance < (finish.storage.stakes sampleProvider).activeAmount ∧
    finish.slashed < finish.withdrawn ∧
    (match unstake (finish.at lockPeriod) sampleProvider
      (finish.storage.stakes sampleProvider).amount true with
      | .ok _ => none
      | .error reason => some reason) = some .transferFailed)
    (by decide +kernel) ?_
  rintro finish _ ⟨short, more, failed⟩
  refine ⟨?_, more, ?_⟩
  · intro solvent
    have covered := solvent {sampleProvider}
    rw [Finset.sum_singleton] at covered
    omega
  · split at failed
    · cases failed
    · rename_i reason stopped
      injection failed with same
      rw [stopped, same]

/-- The contract falls short of its stakes by what its owner has withdrawn
beyond the slashes, at most. -/
theorem stakes_covered_up_to_withdrawals {storage : Storage} {initialOwner : Address}
    {balance timestamp : Nat} {finish : Chain} {actions : List Action}
    (deployed : deploy initialOwner = Except.ok storage)
    (run : Run (Fires nextStake) ⟨storage, balance, timestamp, 0, 0⟩ actions finish) :
    Backed finish :=
  run.invariant Backed (fun backed fires => nextStake_backed fires backed)
    (backed_of_deployed deployed balance timestamp)

theorem stakes_covered_up_to_withdrawals_sample :
    ∃ finish, Run (Fires nextStake) ⟨sampleStorage, 0, 0, 0, 0⟩ slashedPart finish ∧
      finish.withdrawn = 5 ∧ Backed finish := by
  refine exists_run (fun finish => finish.withdrawn = 5) (by decide +kernel) ?_
  intro finish run withdrawn
  have deployed : deploy sampleOwner = Except.ok sampleStorage := rfl
  exact ⟨withdrawn, stakes_covered_up_to_withdrawals deployed run⟩

end DcpPlatform.Contracts.ProviderStake
