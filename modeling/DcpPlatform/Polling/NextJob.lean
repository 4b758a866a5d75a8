import DcpPlatform.Foundation.Query
import DcpPlatform.Foundation.Transition
import Mathlib.Data.List.Sort
import Mathlib.Data.Prod.Lex

/-!
# Polling for the next job

A poll works through at most two hundred waiting jobs and takes the first one
that the admission accepts. Polls of several providers hand a job out once.
-/

namespace DcpPlatform.Polling

open Foundation Table List

inductive JobStatus
  | pending
  | queued
  | running
  | other
deriving DecidableEq

structure Job where
  id : Nat
  status : JobStatus
  priority : Option Int
  taskSpec : Option String
  containerSpec : Option String
  createdAt : Int
  maxDurationSeconds : Option Nat
  providerId : Option Nat
  assignedAt : Option Int
  pickedUpAt : Option Int
  startedAt : Option Int
  timeoutAt : Option Int
deriving DecidableEq

abbrev Jobs := Table Job Job.id

structure Provider where
  id : Nat
  isPaused : Bool
  lastHeartbeat : Option Int

/-- `computeProviderStatus(..).status === 'offline'`. -/
def Provider.IsOffline (provider : Provider) (now : Int) : Prop :=
  ∀ heartbeat ∈ provider.lastHeartbeat, 600000 ≤ now - heartbeat
deriving Decidable

/-- The guard of the update that hands a job out. -/
def Waits (providerId : Nat) (job : Job) : Prop :=
  (job.status = .pending ∨ job.status = .queued) ∧ job.pickedUpAt = none ∧
    (job.providerId = some providerId ∨ job.providerId = none)
deriving Decidable

/-- Highest priority first, then what is pending, then the oldest. -/
def Job.rank (job : Job) : Lex (Int × Lex (Nat × Int)) :=
  toLex (-job.priority.getD 5, toLex (if job.status = .pending then 0 else 1, job.createdAt))

def candidates (jobs : Jobs) (providerId : Nat) : List Job :=
  ((jobs.select (fun job => Waits providerId job ∧ job.taskSpec ≠ none)).insertionSort
    (fun job other => job.rank ≤ other.rank)).take 200

def Job.setPickedUp (providerId : Nat) (now : Int) (job : Job) : Job :=
  { job with
    providerId := some providerId
    assignedAt := some (job.assignedAt.getD now)
    pickedUpAt := some now
    status := .running
    startedAt := some (job.startedAt.getD now)
    timeoutAt := some (now - now % 1000 + job.maxDurationSeconds.getD 600 * 1000) }

theorem Job.setPickedUp_id (providerId : Nat) (now : Int) (job : Job) :
    (job.setPickedUp providerId now).id = job.id :=
  rfl

def pickUp (providerId : Nat) (now : Int) (jobs : Jobs) (id : Nat) : Jobs :=
  jobs.updateWhere id (Waits providerId) (Job.setPickedUp providerId now)
    (Job.setPickedUp_id providerId now)

/-- The loop over the candidates; a job that was taken meanwhile is passed
over. -/
def pickUpFirst (admits : Job → Bool) (providerId : Nat) (now : Int) (jobs : Jobs) :
    List Job → Option Job × Jobs
  | [] => (none, jobs)
  | candidate :: rest =>
    if admits candidate ∧ jobs.changes candidate.id (Waits providerId) then
      (some candidate, pickUp providerId now jobs candidate.id)
    else
      pickUpFirst admits providerId now jobs rest

/-- `admits` is `evaluateProviderAdmission` on the profile of a provider and
the requirements of a job. -/
def buildNextPendingJob (admits : Provider → Job → Bool) (provider : Provider) (now : Int)
    (jobs : Jobs) : Option Job × Jobs :=
  if provider.isPaused ∨ provider.IsOffline now then
    (none, jobs)
  else
    pickUpFirst (admits provider) provider.id now jobs (candidates jobs provider.id)

variable {admits : Provider → Job → Bool} {jobs : Jobs} {providerId : Nat}

theorem waits_of_candidate {job : Job} (member : job ∈ candidates jobs providerId) :
    Waits providerId job ∧ jobs.lookup job.id = some job := by
  have chosen := (perm_insertionSort _ _).mem_iff.mp (mem_of_mem_take member)
  obtain ⟨⟨waits, _⟩, found⟩ := mem_select chosen
  exact ⟨waits, found⟩

theorem pickUpFirst_cases {admits : Job → Bool} {now : Int} {waiting : List Job}
    (current : ∀ job ∈ waiting, Waits providerId job ∧ jobs.lookup job.id = some job) :
    (pickUpFirst admits providerId now jobs waiting = (none, jobs) ∧
      ∀ job ∈ waiting, admits job = false) ∨
    ∃ front job back, waiting = front ++ job :: back ∧ admits job = true ∧
      (∀ other ∈ front, admits other = false) ∧
      pickUpFirst admits providerId now jobs waiting =
        (some job, pickUp providerId now jobs job.id) := by
  induction waiting with
  | nil => exact Or.inl ⟨rfl, forall_mem_nil _⟩
  | cons candidate rest ih =>
    obtain ⟨waits, found⟩ := current candidate mem_cons_self
    have free : jobs.changes candidate.id (Waits providerId) := ⟨candidate, found, waits⟩
    cases admitted : admits candidate with
    | true =>
      exact Or.inr ⟨[], candidate, rest, rfl, admitted, forall_mem_nil _,
        if_pos ⟨admitted, free⟩⟩
    | false =>
      have later : pickUpFirst admits providerId now jobs (candidate :: rest) =
          pickUpFirst admits providerId now jobs rest := by simp [pickUpFirst, admitted]
      rw [later]
      rcases ih (fun job member => current job (mem_cons_of_mem _ member)) with
        ⟨same, refused⟩ | ⟨front, job, back, split, taken, before, same⟩
      · exact Or.inl ⟨same, forall_mem_cons.mpr ⟨admitted, refused⟩⟩
      · exact Or.inr ⟨candidate :: front, job, back, by rw [split]; rfl, taken,
          forall_mem_cons.mpr ⟨admitted, before⟩, same⟩

/-- A poll takes the first admissible candidate and changes no other job, or
there is none or the provider is away. -/
def TakesFirst (admits : Provider → Job → Bool) (jobs : Jobs) (provider : Provider)
    (now : Int) : Prop :=
  let result := buildNextPendingJob admits provider now jobs
  (result = (none, jobs) ∧ (provider.isPaused ∨ provider.IsOffline now ∨
    ∀ job ∈ candidates jobs provider.id, admits provider job = false)) ∨
  ∃ front job back, candidates jobs provider.id = front ++ job :: back ∧
    admits provider job = true ∧ (∀ other ∈ front, admits provider other = false) ∧
    result.1 = some job ∧ ∀ id, result.2.lookup id =
      if id = job.id then some (job.setPickedUp provider.id now) else jobs.lookup id

theorem takesFirst (admits : Provider → Job → Bool) (jobs : Jobs) (provider : Provider)
    (now : Int) : TakesFirst admits jobs provider now := by
  unfold TakesFirst buildNextPendingJob
  split
  next away => exact Or.inl ⟨rfl, away.imp_right Or.inl⟩
  next =>
    rcases pickUpFirst_cases (fun _ => waits_of_candidate) with
      ⟨same, refused⟩ | ⟨front, job, back, split, taken, before, same⟩
    · exact Or.inl ⟨same, Or.inr (Or.inr refused)⟩
    · obtain ⟨waits, found⟩ := waits_of_candidate
        (split ▸ mem_append_right front mem_cons_self)
      refine Or.inr ⟨front, job, back, split, taken, before, by rw [same], ?_⟩
      rw [same]
      exact lookup_updateWhere_of_met (Job.setPickedUp_id provider.id now) found waits

/-! ## Runs of polls -/

/-- `handed` are the providers and the jobs that they were given, latest
first. -/
structure System where
  jobs : Jobs
  handed : List (Nat × Nat)

inductive Action
  | poll (provider : Provider) (now : Int)
  | submit (job : Job)

def next (admits : Provider → Job → Bool) (system : System) : Action → Option System
  | .poll provider now =>
    let result := buildNextPendingJob admits provider now system.jobs
    some ⟨result.2, (result.1.map (fun job => (provider.id, job.id))).toList ++ system.handed⟩
  | .submit job => some { system with jobs := system.jobs.insertIfNew job }

/-- A job that was handed out belongs to one provider, which has picked it up. -/
structure HandedOnce (system : System) : Prop where
  once : (system.handed.map Prod.snd).Nodup
  owned : ∀ given ∈ system.handed, ∃ job, system.jobs.lookup given.2 = some job ∧
    job.status = .running ∧ job.providerId = some given.1 ∧ job.pickedUpAt ≠ none

theorem HandedOnce.step {source target : System} {action : Action} (once : HandedOnce source)
    (fires : Fires (next admits) source action target) : HandedOnce target := by
  cases action with
  | submit job =>
    cases fires
    refine ⟨once.once, ?_⟩
    intro given member
    obtain ⟨stored, found, facts⟩ := once.owned given member
    refine ⟨stored, ?_, facts⟩
    unfold insertIfNew
    split
    next fresh => exact lookup_insert_of_some _ fresh found
    next => exact found
  | poll provider now =>
    cases fires
    rcases takesFirst admits source.jobs provider now with
      ⟨same, _⟩ | ⟨front, job, back, split, _, _, taken, rows⟩
    · rw [same]
      exact once
    · obtain ⟨waits, found⟩ := waits_of_candidate (split ▸ mem_append_right front mem_cons_self)
      have unhanded : ∀ given ∈ source.handed, given.2 ≠ job.id := by
        intro given member here
        obtain ⟨stored, same, _, _, pickedUp⟩ := once.owned given member
        rw [here, found] at same
        cases same
        exact pickedUp waits.2.1
      refine ⟨?_, ?_⟩
      · rw [taken]
        refine nodup_cons.mpr ⟨?_, once.once⟩
        intro again
        obtain ⟨given, member, here⟩ := mem_map.mp again
        exact unhanded given member here
      · rw [taken]
        refine forall_mem_cons.mpr ⟨⟨_, (rows job.id).trans (if_pos rfl), rfl, rfl,
          Option.some_ne_none now⟩, ?_⟩
        intro given member
        obtain ⟨stored, kept, facts⟩ := once.owned given member
        exact ⟨stored, (rows given.2).trans ((if_neg (unhanded given member)).trans kept), facts⟩

/-- Over all orders of polls and submissions a job is handed out once, and the
next poll of any provider takes the first job that it is admitted to. -/
theorem polls_hand_out_once {actions : List Action} {finish : System}
    (run : Run (Fires (next admits)) ⟨jobs, []⟩ actions finish) :
    HandedOnce finish ∧ ∀ provider now, TakesFirst admits finish.jobs provider now := by
  have opening : HandedOnce ⟨jobs, []⟩ := ⟨nodup_nil, forall_mem_nil _⟩
  exact ⟨run.invariant HandedOnce (fun once fires => once.step fires) opening,
    takesFirst admits finish.jobs⟩

def sampleJob (id : Nat) : Job :=
  ⟨id, .queued, none, some "", none, 0, none, none, none, none, none, none⟩

theorem polls_hand_out_once_sample :
    ∃ finish, Run (Fires (next (fun _ _ => true))) ⟨empty, []⟩
        [.submit (sampleJob 1), .submit (sampleJob 2), .poll ⟨7, false, some 0⟩ 5,
          .poll ⟨8, false, some 0⟩ 6] finish ∧
      finish.handed.map Prod.fst = [8, 7] ∧ HandedOnce finish := by
  refine exists_run (fun finish => finish.handed.map Prod.fst = [8, 7]) (by decide +kernel) ?_
  intro finish run handed
  exact ⟨handed, (polls_hand_out_once run).1⟩

end DcpPlatform.Polling
