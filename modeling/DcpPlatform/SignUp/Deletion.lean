import DcpPlatform.Jobs.Store
import DcpPlatform.Pods.EscrowHolds
import DcpPlatform.SignUp.Accounts

/-!
# Deleting an account

The statements of a deletion run one by one, and only the one about the account
can fail. By then the jobs are cancelled, and what was paid for them is not
given back.
-/

namespace DcpPlatform.SignUp

open Foundation Table List
open Jobs (JobStatus)

structure JobRow where
  jobId : String
  renterId : Option Nat
  status : JobStatus
  costHalala : Int
  refundedAt : Option Nat
  settled : Bool
  error : Option String
  completedAt : Option Nat
  updatedAt : Option Nat
  model : Option String
  taskSpec : Option String

structure HoldRow where
  jobId : String
  renterApiKey : RenterKey
  status : Pods.HoldStatus

structure ApiKeyRow where
  key : RenterKey
  renterId : Nat
  revokedAt : Option Nat

/-- The tables of a deletion; a row of `job_templates`, `renter_quota` or
`quota_log` is the id of its renter, and `pdpl_request_log` is left out. -/
structure Records where
  renters : Table Renter Renter.id
  apiKeys : List ApiKeyRow
  jobs : Table JobRow JobRow.jobId
  holds : List HoldRow
  ownedRows : List Nat

def Records.accountUnder (records : Records) (key : RenterKey) : Option Renter :=
  records.renters.rows.find? (fun row => row.apiKey = key)

def resolveRenterIdByKey (records : Records) (key : RenterKey) : Option Nat :=
  match records.renters.rows.find? (fun row => row.apiKey = key ∧ row.status = .active) with
  | some direct => some direct.id
  | none =>
    match records.apiKeys.find? (fun row => row.key = key ∧ row.revokedAt = none) with
    | none => none
    | some entry => ((records.renters.lookup entry.renterId).filter
        (fun linked => linked.status = .active)).map Renter.id

section Statements

variable (renterId now : Nat) (key : RenterKey)

def JobRow.IsCancelled (job : JobRow) : Prop :=
  job.renterId = some renterId ∧ job.status ∈ [.queued, .pending, .running, .paused]
deriving Decidable

def JobRow.cancelled (job : JobRow) : JobRow :=
  if job.IsCancelled renterId then
    { job with
      status := .cancelled
      error := some (job.error.getD "Cancelled: renter account deleted by PDPL request")
      completedAt := some (job.completedAt.getD now)
      updatedAt := some now }
  else
    job

def JobRow.erased (job : JobRow) : JobRow :=
  if job.renterId = some renterId then
    { job with model := none, taskSpec := none, updatedAt := some now }
  else
    job

def JobRow.swept (job : JobRow) : JobRow :=
  (job.cancelled renterId now).erased renterId now

def HoldRow.detached (hold : HoldRow) : HoldRow :=
  if hold.renterApiKey = key then
    { hold with renterApiKey := .tombstone (toString renterId) }
  else
    hold

theorem JobRow.swept_fields (job : JobRow) :
    (job.swept renterId now).jobId = job.jobId ∧
      (job.swept renterId now).renterId = job.renterId ∧
      (job.swept renterId now).refundedAt = job.refundedAt ∧
      (job.swept renterId now).settled = job.settled ∧
      (job.swept renterId now).status =
        if job.IsCancelled renterId then .cancelled else job.status := by
  simp only [swept, erased, cancelled]
  split <;> split <;> simp

def Records.swept (records : Records) : Records :=
  { records with
    jobs := records.jobs.updateAll (JobRow.swept renterId now)
      (fun job => (job.swept_fields renterId now).1)
    holds := records.holds.map (HoldRow.detached renterId key)
    ownedRows := records.ownedRows.filter (· ≠ renterId) }

end Statements

/-- The answers with the status 400, 404, 410 and 500. -/
inductive Refusal where
  | keyRequired | notFound | alreadyDeleted | failed

def tombstone (row : Renter) (uuid : String) : String :=
  toString row.id ++ "-" ++ uuid

def Records.Taken (records : Records) (row : Renter) : Prop :=
  ∃ other ∈ records.renters.rows, other.id ≠ row.id ∧
    (other.email = row.email ∨ other.apiKey = row.apiKey)
deriving Decidable

/-- `DELETE /me`, with the number of cancelled jobs and the tables after it. -/
def deleteAccount (settings : Settings) (records : Records) (key : Option RenterKey)
    (uuid : String) (now : Nat) : Except Refusal Nat × Records :=
  match key with
  | none => (.error .keyRequired, records)
  | some key =>
    match records.accountUnder key with
    | none => (.error .notFound, records)
    | some row =>
      let anonymized := Renter.anonymized (hashedDeletedEmail settings row.email) (tombstone row uuid)
      let swept := records.swept row.id now key
      if row.status = .deleted then
        (.error .alreadyDeleted, records)
      else if records.Taken (anonymized row) then
        (.error .failed, swept)
      else
        (.ok (records.jobs.rows.countP (·.IsCancelled row.id)),
          { swept with renters := swept.renters.update row.id anonymized (fun _ => rfl) })

def JobRow.IsRepaid (holds : List HoldRow) (job : JobRow) : Prop :=
  (job.refundedAt.isSome ∨ job.settled = true) ∧
    ∀ hold ∈ holds, hold.jobId = job.jobId → hold.status.isOpen = false

/-- What a deletion promises. -/
structure Erased (before after : Records) (row : Renter) : Prop where
  ended : ∀ job ∈ after.jobs.rows, job.renterId = some row.id → job.status.isTerminal = true
  repaid : ∀ job ∈ before.jobs.rows, job.renterId = some row.id → job.status.isTerminal = false →
    0 < job.costHalala →
      ∃ later, after.jobs.lookup job.jobId = some later ∧ later.IsRepaid after.holds
  refused : ∀ key, resolveRenterIdByKey after key ≠ some row.id
  gone : ∀ other ∈ after.renters.rows, other.id = row.id →
    other.email ≠ row.email ∧ other.apiKey ≠ row.apiKey

/-- It fails and leaves every table, or it deletes the account. -/
def AllOrNothing (before : Records) (key : Option RenterKey)
    (outcome : Except Refusal Nat × Records) : Prop :=
  match outcome.1 with
  | .error _ => outcome.2 = before
  | .ok _ => ∃ row, key.bind before.accountUnder = some row ∧ Erased before outcome.2 row

/-- No statement before the one about the account finds anything to write. -/
structure Clear (records : Records) (renterId now : Nat) (key : RenterKey) : Prop where
  jobs : ∀ job ∈ records.jobs.rows, job.swept renterId now = job
  holds : ∀ hold ∈ records.holds, hold.detached renterId key = hold
  ownedRows : renterId ∉ records.ownedRows

/-- Every live job of the renter will be cancelled, and is not paid for or repaid. -/
def Settled (records : Records) (renterId : Nat) : Prop :=
  ∀ job ∈ records.jobs.rows, job.renterId = some renterId → job.status.isTerminal = false →
    job.IsCancelled renterId ∧ (0 < job.costHalala → job.IsRepaid records.holds)

section Proofs

variable {settings : Settings} {records : Records} {row : Renter} {renterId now : Nat}
  {key : RenterKey}

theorem map_eq_self_iff {Row : Type} (change : Row → Row) (rows : List Row) :
    rows.map change = rows ↔ ∀ row ∈ rows, change row = row := by
  rw [← map_inj_left, map_id']

theorem swept_eq_iff : records.swept renterId now key = records ↔ Clear records renterId now key := by
  obtain ⟨renters, apiKeys, ⟨jobs, distinct⟩, holds, owned⟩ := records
  simp only [Records.swept, updateAll, Records.mk.injEq, Table.mk.injEq, map_eq_self_iff,
    filter_eq_self, decide_eq_true_eq, true_and]
  constructor
  · rintro ⟨jobs, holds, others⟩
    exact ⟨jobs, holds, fun member => others _ member rfl⟩
  · intro clear
    exact ⟨clear.jobs, clear.holds, fun _ member same => clear.ownedRows (same ▸ member)⟩

theorem resolve_ne {deleted : Renter} (found : records.renters.lookup renterId = some deleted)
    (status : deleted.status ≠ .active) : resolveRenterIdByKey records key ≠ some renterId := by
  have inactive : ∀ other ∈ records.renters.rows, other.status = .active → other.id ≠ renterId := by
    rintro other member active rfl
    rw [lookup_of_mem member] at found
    cases found
    exact status active
  unfold resolveRenterIdByKey
  split
  · rename_i direct hit
    have active := find?_some hit
    simp only [decide_eq_true_eq] at active
    simpa using inactive direct (mem_of_find?_eq_some hit) active.2
  · split
    · simp
    · intro resolved
      obtain ⟨linked, kept, same⟩ := Option.map_eq_some_iff.mp resolved
      obtain ⟨linkedFound, active⟩ := Option.filter_eq_some_iff.mp kept
      exact inactive linked (lookup_mem linkedFound) (of_decide_eq_true active) same

theorem isRepaid_swept {holds : List HoldRow} (job : JobRow) :
    (job.swept renterId now).IsRepaid (holds.map (HoldRow.detached renterId key)) ↔
      job.IsRepaid holds := by
  have same (hold : HoldRow) : (hold.detached renterId key).jobId = hold.jobId ∧
      (hold.detached renterId key).status = hold.status := by
    unfold HoldRow.detached
    split <;> exact ⟨rfl, rfl⟩
  obtain ⟨jobId, _, refunded, settled, _⟩ := job.swept_fields renterId now
  simp only [JobRow.IsRepaid, forall_mem_map, same, jobId, refunded, settled]

theorem erased_iff (now : Nat) (key : RenterKey) {after : Records} {deleted : Renter}
    (account : after.renters.lookup row.id = some deleted) (status : deleted.status = .deleted)
    (jobs : after.jobs.rows = records.jobs.rows.map (JobRow.swept row.id now))
    (holds : after.holds = records.holds.map (HoldRow.detached row.id key)) :
    Erased records after row ↔
      (deleted.email ≠ row.email ∧ deleted.apiKey ≠ row.apiKey) ∧ Settled records row.id := by
  have stored (job : JobRow) (member : job ∈ records.jobs.rows) :
      after.jobs.lookup job.jobId = some (job.swept row.id now) := by
    rw [lookup_of_rows_eq_map (fun job => (job.swept_fields row.id now).1) jobs,
      lookup_of_mem member]
    rfl
  constructor
  · intro erased
    refine ⟨erased.gone deleted (lookup_mem account) (lookup_key account), ?_⟩
    intro job member owner live
    constructor
    · by_contra kept
      obtain ⟨_, sameOwner, _, _, swept⟩ := job.swept_fields row.id now
      have ended := erased.ended (job.swept row.id now)
        (jobs ▸ mem_map_of_mem member) (sameOwner.trans owner)
      rw [swept, if_neg kept, live] at ended
      cases ended
    · intro prepaid
      obtain ⟨later, found, repaid⟩ := erased.repaid job member owner live prepaid
      rw [stored job member] at found
      cases found
      exact (isRepaid_swept job).mp (holds ▸ repaid)
  · rintro ⟨changed, settled⟩
    refine ⟨?_, ?_, fun key => resolve_ne account (by simp [status]), ?_⟩
    · intro later member owner
      rw [jobs] at member
      obtain ⟨job, listed, rfl⟩ := mem_map.mp member
      obtain ⟨_, sameOwner, _, _, swept⟩ := job.swept_fields row.id now
      rw [swept]
      split
      · rfl
      · rename_i kept
        by_contra live
        exact kept (settled job listed (sameOwner ▸ owner) (eq_false_of_ne_true live)).1
    · intro job member owner live prepaid
      refine ⟨_, stored job member, ?_⟩
      rw [holds]
      exact (isRepaid_swept job).mpr ((settled job member owner live).2 prepaid)
    · intro other member same
      have found := lookup_of_mem member
      rw [same, account] at found
      cases found
      exact changed

/-- A deletion is all or nothing exactly when it is refused, when the anonymous
email or key is taken and there was nothing to write before, or when neither is
taken or the account's own and no job of the renter is left unsettled. -/
theorem allOrNothing_iff (settings : Settings) (records : Records) (key : Option RenterKey)
    (uuid : String) (now : Nat) :
    AllOrNothing records key (deleteAccount settings records key uuid now) ↔
      ∀ given ∈ key, ∀ row ∈ records.accountUnder given, row.status ≠ .deleted →
        let later := row.anonymized (hashedDeletedEmail settings row.email) (tombstone row uuid)
        if records.Taken later then
          Clear records row.id now given
        else
          (later.email ≠ row.email ∧ later.apiKey ≠ row.apiKey) ∧ Settled records row.id := by
  cases key with
  | none => simp [deleteAccount, AllOrNothing]
  | some key =>
    cases found : records.accountUnder key with
    | none => simp [deleteAccount, AllOrNothing, found]
    | some row =>
      simp only [Option.mem_def, Option.some.injEq, forall_eq', found, deleteAccount]
      by_cases deleted : row.status = .deleted
      · simp [deleted, AllOrNothing]
      · rw [if_neg deleted]
        simp only [ne_eq, deleted, not_false_eq_true, forall_const]
        split
        · exact swept_eq_iff
        · have account : records.renters.lookup row.id = some row :=
            lookup_of_mem (mem_of_find?_eq_some found)
          simp only [AllOrNothing, Option.bind_some, found, Option.some.injEq, exists_eq_left']
          exact erased_iff now key (lookup_update_of_some _ (Renter.anonymized _ _) (fun _ => rfl) account) rfl rfl rfl

def returningRecords : Records where
  renters := ⟨[⟨1, "deleted_a@b.sa@deleted.dcp.sa", .deleted, .tombstone "1-x", 0⟩,
    ⟨2, "a@b.sa", .active, .renter "r", 0⟩], by decide⟩
  apiKeys := []
  jobs := ⟨[⟨"job-1", some 2, .running, 500, none, false, none, none, none, none, none⟩], by decide⟩
  holds := []
  ownedRows := []

/-- A renter who came back is not deleted, but the job is cancelled. -/
theorem deletion_fails_halfway : ¬ AllOrNothing returningRecords (some (.renter "r"))
    (deleteAccount testSettings returningRecords (some (.renter "r")) "y" 0) := by
  have failed : (deleteAccount testSettings returningRecords (some (.renter "r")) "y" 0) =
      (.error .failed, returningRecords.swept 2 0 (.renter "r")) := by
    rfl
  rw [failed]
  intro same
  have cancelled := congrArg (fun records => records.jobs.rows.map JobRow.status) same
  revert cancelled
  decide

end Proofs

end DcpPlatform.SignUp
