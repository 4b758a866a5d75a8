import DcpPlatform.Pipeline.Turns

/-!
# A GPU serves one job and is given back

Two submissions that match the same GPU both reserve it, and a failure or a
job stopped over its budget leaves a GPU reserved. Apart from that a GPU is
owned by one submission, job or completion until its release.
-/

namespace DcpPlatform.Pipeline

open Foundation

def Job.IsLive (job : Job) : Prop :=
  job.status ≠ .completed ∧ job.status ≠ .failed ∧
    job.status ≠ .overBudget ∧ job.status ≠ .cancelled
deriving Decidable

def Pending.reserved : Pending → Option (Nat × Nat)
  | .launch jobId _ gpu => some (jobId, gpu.id)
  | .record job => some (job.id, job.matchedGpu.id)
  | _ => none

/-- A job that has not ended uses a GPU, or its submission has reserved
it. -/
def Uses (system : System) (jobId gpuId : Nat) : Prop :=
  (∃ job, system.world.jobs.lookup jobId = some job ∧ job.IsLive ∧ job.matchedGpu.id = gpuId) ∨
    ∃ callId pending,
      system.calls.waitsFor callId = some pending ∧ pending.reserved = some (jobId, gpuId)

structure ReservedOnce (system : System) : Prop where
  oneJob : ∀ first second gpuId, Uses system first gpuId → Uses system second gpuId →
    first = second
  givenBack : (∀ callId, system.calls.waitsFor callId = none) → ∀ gpuId gpu,
    system.world.gpus.lookup gpuId = some gpu → gpu.status = .inUse →
      ∃ jobId job, system.world.jobs.lookup jobId = some job ∧
        job.status = .running ∧ job.matchedGpu.id = gpuId
  onePayout : ∀ jobId, (system.world.payouts.filter (fun payout =>
    payout.jobId = jobId)).length ≤ 1

def IsFree (world : World) (gpuId : Nat) : Prop :=
  (∃ gpu ∈ world.gpus.lookup gpuId, gpu.status = .available) ∧
    ∀ job ∈ world.jobs.rows, job.IsLive → job.matchedGpu.id ≠ gpuId
deriving Decidable

/-- A submission reserves a GPU that is free, and from then on nothing fails
until the job is recorded. No running job is stopped over its budget. A
completion stops the container of its job without an error, and the release
of the GPU is executed. -/
def Undisturbed (world : World) (reply : Reply) : Pending → Prop
  | .reserveGpu _ _ gpu =>
    reply = .failed ∨ reply = .done ∧ IsFree world gpu.id
  | .launch _ _ _ => reply = .done
  | .record _ => reply ≠ .failed
  | .stopOverBudget job =>
    reply = .failed ∨ ¬ world.IsRunning job.containerId
  | .stopCompleted job =>
    reply = .done ∨ ¬ world.IsRunning job.containerId
  | .releaseGpu _ _ => reply ≠ .failed
  | _ => True

instance (world : World) (reply : Reply) :
    DecidablePred (Undisturbed world reply) := by
  intro pending
  unfold Undisturbed
  split <;> infer_instance

def Smooth (system : System) : Action → Prop
  | .call _ _ => True
  | .turn callId reply _ =>
    ∀ pending ∈ system.calls.waitsFor callId, Undisturbed system.world reply pending

instance (system : System) : DecidablePred (Smooth system) := by
  intro action
  unfold Smooth
  split <;> infer_instance

def Pending.submits : Pending → Option Nat
  | .readProviders jobId _ | .readBalance jobId _ _
  | .reserveGpu jobId _ _ | .launch jobId _ _ => some jobId
  | .record job => some job.id
  | _ => none

def Pending.records : Pending → Option Job
  | .record job => some job
  | _ => none

def Pending.copy : Pending → Option Job
  | .monitorStatus job | .stopOverBudget job | .markOverBudget job
  | .monitorCompletion job | .stopCompleted job | .wipe job
  | .releaseGpu job _ | .markCompleted job _ | .postPayout job _
  | .markFailed job => some job
  | _ => none

def Pending.finishes : Pending → Option Job
  | .wipe job | .releaseGpu job _ | .markCompleted job _
  | .postPayout job _ => some job
  | _ => none

def Pending.halts : Pending → Option Job
  | .wipe job | .releaseGpu job _ | .markCompleted job _
  | .postPayout job _ | .markFailed job | .markOverBudget job => some job
  | _ => none

def Pending.releases : Pending → Option Job
  | .wipe job | .releaseGpu job _ => some job
  | _ => none

inductive Owns (system : System) (jobId gpuId : Nat) : Prop
  | submission {callId : Nat} {pending : Pending}
      (waits : system.calls.waitsFor callId = some pending)
      (reserved : pending.reserved = some (jobId, gpuId))
  | job {job : Job} (stored : system.world.jobs.lookup jobId = some job)
      (runs : system.world.IsRunning job.containerId)
      (gpu : job.matchedGpu.id = gpuId)
  | completion {callId : Nat} {pending : Pending} {job : Job}
      (waits : system.calls.waitsFor callId = some pending)
      (releases : pending.releases = some job) (own : job.id = jobId)
      (gpu : job.matchedGpu.id = gpuId)

variable {jobId gpuId : Nat}

theorem Owns.transport {before after : System}
    (owner : Owns before jobId gpuId) (calls : before.calls = after.calls)
    (jobs : before.world.jobs = after.world.jobs)
    (containers : before.world.containers = after.world.containers) :
    Owns after jobId gpuId := by
  cases owner with
  | submission waits reserved =>
    rw [calls] at waits
    exact Owns.submission waits reserved
  | job stored runs gpu =>
    rw [jobs] at stored
    rw [World.IsRunning, containers] at runs
    exact Owns.job stored runs gpu
  | completion waits releases own gpu =>
    rw [calls] at waits
    exact Owns.completion waits releases own gpu

def HasContainer (world : World) (containerId jobId : Nat) : Prop :=
  ∃ container, world.containers.lookup containerId = some container ∧ container.jobId = jobId

structure Traced (system : System) : Prop where
  submissions : ∀ callId pending jobId, system.calls.waitsFor callId = some pending →
    pending.submits = some jobId → jobId = callId ∧ system.world.jobs.lookup jobId = none
  begun : ∀ jobId job, system.world.jobs.lookup jobId = some job → ¬ system.calls.IsFresh jobId
  launched : ∀ callId pending job, system.calls.waitsFor callId = some pending →
    pending.records = some job → HasContainer system.world job.containerId job.id ∧
      system.world.IsRunning job.containerId ∧ job.status = .running
  contained : ∀ jobId job,
    system.world.jobs.lookup jobId = some job → HasContainer system.world job.containerId jobId
  copies : ∀ callId pending job, system.calls.waitsFor callId = some pending →
    pending.copy = some job → ∃ row, system.world.jobs.lookup job.id = some row ∧
      row.containerId = job.containerId ∧ row.matchedGpu = job.matchedGpu
  running : ∀ jobId job, system.world.jobs.lookup jobId = some job →
    system.world.IsRunning job.containerId → job.status = .running
  stopped : ∀ callId pending job, system.calls.waitsFor callId = some pending →
    pending.halts = some job → ¬ system.world.IsRunning job.containerId
  oneFinish : system.calls.Exclusive (fun pending => pending.finishes.map Job.id)
  paid : ∀ payout ∈ system.world.payouts, ∃ job, system.world.jobs.lookup payout.jobId = some job ∧
    ¬ system.world.IsRunning job.containerId ∧ ∀ callId pending finished,
      system.calls.waitsFor callId = some pending →
        pending.finishes = some finished → finished.id ≠ payout.jobId
  onePayout : ∀ jobId, (system.world.payouts.filter (fun payout =>
    payout.jobId = jobId)).length ≤ 1

structure Kept (system : System) : Prop extends Traced system where
  inUse : ∀ jobId gpuId, Owns system jobId gpuId →
    ∀ gpu, system.world.gpus.lookup gpuId = some gpu → gpu.status = .inUse
  oneOwner : ∀ first second gpuId, Owns system first gpuId → Owns system second gpuId →
    first = second
  owned : ∀ gpuId gpu, system.world.gpus.lookup gpuId = some gpu →
    gpu.status = .inUse → ∃ jobId, Owns system jobId gpuId
  oneJob : ∀ first second gpuId, Uses system first gpuId → Uses system second gpuId →
    first = second

variable {system : System}

theorem Kept.reservedOnce (kept : Kept system) :
    ReservedOnce system where
  oneJob := kept.oneJob
  givenBack := by
    intro idle gpuId gpu found status
    obtain ⟨jobId, owns⟩ := kept.owned gpuId gpu found status
    cases owns with
    | submission waits _ | completion waits _ _ _ =>
      rw [idle] at waits
      cases waits
    | job stored runs own =>
      exact ⟨jobId, _, stored, kept.running jobId _ stored runs, own⟩
  onePayout := kept.onePayout

def IsCopy (world : World) (job : Job) : Prop :=
  ∃ row, world.jobs.lookup job.id = some row ∧
    row.containerId = job.containerId ∧ row.matchedGpu = job.matchedGpu

/-- What the next request of a call may carry, in the same world. -/
structure Carries (world : World) (pending later : Pending) : Prop where
  submits : ∀ jobId, later.submits = some jobId → pending.submits = some jobId
  records : ∀ job, later.records = some job → HasContainer world job.containerId job.id ∧
    world.IsRunning job.containerId ∧ job.status = .running
  copy : ∀ job, later.copy = some job → IsCopy world job
  halts : ∀ job, later.halts = some job → ¬ world.IsRunning job.containerId
  finishes : ∀ job, later.finishes = some job → pending.finishes = some job

/-- The next request leaves the GPUs to those that have reserved them. -/
structure Follows (world : World) (pending later : Pending) : Prop extends
    Carries world pending later where
  reserved : later.reserved = pending.reserved
  releases : later.releases = pending.releases

structure MayEnd (pending : Pending) : Prop where
  reserved : pending.reserved = none
  releases : pending.releases = none

section Resumed

variable {system : System} {callId : Nat} {pending : Pending} {next : Option Pending}

theorem Traced.resumed (traced : Traced system)
    (waits : system.calls.waitsFor callId = some pending)
    (carries : ∀ later, next = some later → Carries system.world pending later) :
    Traced { system with calls := system.calls.resume callId next } := by
  refine ⟨?_, ?_, ?_, traced.contained, ?_, traced.running, ?_, ?_, ?_, traced.onePayout⟩
  · intro otherId later jobId laterWaits submits
    rcases Calls.waitsFor_resume_cases waits laterWaits with ⟨rfl, following⟩ | ⟨_, old⟩
    · exact traced.submissions otherId pending jobId waits
        ((carries later following).submits jobId submits)
    · exact traced.submissions otherId later jobId old submits
  · intro jobId job stored fresh
    apply traced.begun jobId job stored
    exact Calls.isFresh_of_resume fresh
  · intro otherId later job laterWaits records
    rcases Calls.waitsFor_resume_cases waits laterWaits with ⟨rfl, following⟩ | ⟨_, old⟩
    · exact (carries later following).records job records
    · exact traced.launched otherId later job old records
  · intro otherId later job laterWaits copy
    rcases Calls.waitsFor_resume_cases waits laterWaits with ⟨rfl, following⟩ | ⟨_, old⟩
    · exact (carries later following).copy job copy
    · exact traced.copies otherId later job old copy
  · intro otherId later job laterWaits halts
    rcases Calls.waitsFor_resume_cases waits laterWaits with ⟨rfl, following⟩ | ⟨_, old⟩
    · exact (carries later following).halts job halts
    · exact traced.stopped otherId later job old halts
  · apply traced.oneFinish.resume waits
    intro later key following finishes
    obtain ⟨job, has, own⟩ := Option.map_eq_some_iff.mp finishes
    rw [(carries later following).finishes job has]
    exact congrArg some own
  · intro payout member
    obtain ⟨job, stored, stopped, unfinished⟩ := traced.paid payout member
    refine ⟨job, stored, stopped, ?_⟩
    intro otherId later finished laterWaits finishes
    rcases Calls.waitsFor_resume_cases waits laterWaits with ⟨rfl, following⟩ | ⟨_, old⟩
    · exact unfinished otherId pending finished waits
        ((carries later following).finishes finished finishes)
    · exact unfinished otherId later finished old finishes

theorem Kept.resumed (kept : Kept system) (waits : system.calls.waitsFor callId = some pending)
    (follows : ∀ later, next = some later → Follows system.world pending later)
    (mayEnd : next = none → MayEnd pending) :
    Kept { system with calls := system.calls.resume callId next } := by
  have same {Key : Type} (of : Pending → Option Key)
      (keeps : ∀ later, next = some later → of later = of pending)
      (gone : next = none → of pending = none) (key : Key) :
      (∃ otherId other,
        (system.calls.resume callId next).waitsFor otherId = some other ∧ of other = some key) ↔
      ∃ otherId other, system.calls.waitsFor otherId = some other ∧ of other = some key := by
    constructor
    · rintro ⟨otherId, other, laterWaits, has⟩
      rcases Calls.waitsFor_resume_cases waits laterWaits with ⟨rfl, following⟩ | ⟨_, old⟩
      · rw [keeps other following] at has
        exact ⟨otherId, pending, waits, has⟩
      · exact ⟨otherId, other, old, has⟩
    · rintro ⟨otherId, other, old, has⟩
      by_cases here : otherId = callId
      · rw [here, waits] at old
        cases old
        cases following : next with
        | none =>
          rw [gone following] at has
          cases has
        | some later =>
          refine ⟨callId, later, ?_, ?_⟩
          · exact (Calls.waitsFor_resume waits _ _).trans (if_pos rfl)
          · rw [keeps later following]
            exact has
      · exact ⟨otherId, other, (Calls.waitsFor_resume_of_ne waits here).trans old, has⟩
  have reservedSame := same Pending.reserved
    (fun later following => (follows later following).reserved)
    (fun ended => (mayEnd ended).reserved)
  have releasesSame := same Pending.releases
    (fun later following => (follows later following).releases)
    (fun ended => (mayEnd ended).releases)
  have owns {jobId gpuId : Nat} (owner :
      Owns { system with calls := system.calls.resume callId next }
        jobId gpuId) : Owns system jobId gpuId := by
    cases owner with
    | submission laterWaits reserved =>
      obtain ⟨otherId, other, old, has⟩ := (reservedSame _).mp ⟨_, _, laterWaits, reserved⟩
      exact Owns.submission old has
    | job stored runs gpu => exact Owns.job stored runs gpu
    | completion laterWaits releases own gpu =>
      obtain ⟨otherId, other, old, has⟩ := (releasesSame _).mp ⟨_, _, laterWaits, releases⟩
      exact Owns.completion old has own gpu
  have uses {jobId gpuId : Nat} (user :
      Uses { system with calls := system.calls.resume callId next }
        jobId gpuId) : Uses system jobId gpuId := by
    rcases user with stored | ⟨otherId, other, laterWaits, reserved⟩
    · exact Or.inl stored
    · exact Or.inr ((reservedSame _).mp ⟨_, _, laterWaits, reserved⟩)
  refine
    { toTraced := kept.toTraced.resumed waits (fun later following =>
      (follows later following).toCarries)
      inUse := fun jobId gpuId owner => kept.inUse jobId gpuId (owns owner)
      oneOwner := fun first second gpuId firstOwns secondOwns =>
        kept.oneOwner first second gpuId (owns firstOwns) (owns secondOwns)
      owned := ?_
      oneJob := fun first second gpuId firstUses secondUses =>
        kept.oneJob first second gpuId (uses firstUses) (uses secondUses) }
  intro gpuId gpu found status
  obtain ⟨jobId, owner⟩ := kept.owned gpuId gpu found status
  refine ⟨jobId, ?_⟩
  cases owner with
  | submission old reserved =>
    obtain ⟨otherId, other, laterWaits, has⟩ := (reservedSame _).mpr ⟨_, _, old, reserved⟩
    exact Owns.submission laterWaits has
  | job stored runs own => exact Owns.job stored runs own
  | completion old releases own gpu =>
    obtain ⟨otherId, other, laterWaits, has⟩ := (releasesSame _).mpr ⟨_, _, old, releases⟩
    exact Owns.completion laterWaits has own gpu

theorem Owns.resumed_cases {jobId gpuId : Nat} (owner : Owns system jobId gpuId)
    (waits : system.calls.waitsFor callId = some pending) (next : Option Pending) :
    Owns { system with calls := system.calls.resume callId next } jobId gpuId ∨
      pending.reserved = some (jobId, gpuId) ∨
        ∃ job, pending.releases = some job ∧ job.id = jobId ∧ job.matchedGpu.id = gpuId := by
  cases owner with
  | @submission otherId other old reserved =>
    by_cases here : otherId = callId
    · rw [here, waits] at old
      cases old
      exact Or.inr (Or.inl reserved)
    · exact Or.inl (Owns.submission ((Calls.waitsFor_resume_of_ne waits here).trans old) reserved)
  | job stored runs gpu => exact Or.inl (Owns.job stored runs gpu)
  | @completion otherId other job old releases own gpu =>
    by_cases here : otherId = callId
    · rw [here, waits] at old
      cases old
      exact Or.inr (Or.inr ⟨job, releases, own, gpu⟩)
    · exact Or.inl (Owns.completion
        ((Calls.waitsFor_resume_of_ne waits here).trans old) releases own
        gpu)

theorem Owns.resumed {jobId gpuId : Nat} (owner : Owns system jobId gpuId)
    (waits : system.calls.waitsFor callId = some pending)
    (idle : MayEnd pending) (next : Option Pending) :
    Owns { system with calls := system.calls.resume callId next } jobId
      gpuId := by
  rcases owner.resumed_cases waits next with later | reserved | ⟨_, releases, _⟩
  · exact later
  · rw [idle.reserved] at reserved
    cases reserved
  · rw [idle.releases] at releases
    cases releases

end Resumed

/-! ## The world under the calls -/

theorem Traced.gpuSet {system : System} (traced : Traced system)
    (gpuId : Nat) (status : GpuStatus) :
    Traced { system with world := system.world.setGpu gpuId status } where
  submissions := traced.submissions
  begun := traced.begun
  launched := traced.launched
  contained := traced.contained
  copies := traced.copies
  running := traced.running
  stopped := traced.stopped
  oneFinish := traced.oneFinish
  paid := traced.paid
  onePayout := traced.onePayout

variable {pending : Pending} {job : Job}

theorem copy_of_halts (halts : pending.halts = some job) : pending.copy = some job := by
  cases pending with
  | wipe _ | releaseGpu _ _ | markCompleted _ _ | postPayout _ _ | markFailed _
  | markOverBudget _ => exact halts
  | _ => cases halts

theorem halts_of_finishes (finishes : pending.finishes = some job) :
    pending.halts = some job := by
  cases pending with
  | wipe _ | releaseGpu _ _ | markCompleted _ _ | postPayout _ _ => exact finishes
  | _ => cases finishes

theorem submits_of_halts (halts : pending.halts = some job) :
    pending.submits = none ∧ pending.records = none := by
  cases pending with
  | wipe _ | releaseGpu _ _ | markCompleted _ _ | postPayout _ _ | markFailed _
  | markOverBudget _ => exact ⟨rfl, rfl⟩
  | _ => cases halts

theorem finishes_of_releases (releases : pending.releases = some job) :
    pending.finishes = some job := by
  cases pending with
  | wipe _ | releaseGpu _ _ => exact releases
  | _ => cases releases

theorem submits_of_records (records : pending.records = some job) :
    pending.submits = some job.id := by
  cases pending with
  | record _ => exact congrArg (Option.map Job.id) records
  | _ => cases records

theorem submits_of_reserved (reserved : pending.reserved = some (jobId, gpuId)) :
    pending.submits = some jobId := by
  cases pending with
  | launch _ _ _ | record _ =>
    injection reserved with same
    injection same with same _
    exact congrArg some same
  | _ => cases reserved

structure Plain (pending : Pending) : Prop where
  submits : pending.submits = none
  records : pending.records = none
  halts : pending.halts = none
  finishes : pending.finishes = none
  reserved : pending.reserved = none
  releases : pending.releases = none

variable {world : World} {pending later : Pending}

theorem follows_plain (plain : Plain later) (copy : ∀ job, later.copy = some job → IsCopy world job)
    (idle : MayEnd pending) : Follows world pending later where
  submits := by
    intro jobId submits
    rw [plain.submits] at submits
    cases submits
  records := by
    intro job records
    rw [plain.records] at records
    cases records
  copy := copy
  halts := by
    intro job halts
    rw [plain.halts] at halts
    cases halts
  finishes := by
    intro job finishes
    rw [plain.finishes] at finishes
    cases finishes
  reserved := plain.reserved.trans idle.reserved.symm
  releases := plain.releases.trans idle.releases.symm

theorem carries_halted (halted : later.halts = some job)
    (copy : IsCopy world job) (stopped : ¬ world.IsRunning job.containerId)
    (finishes : ∀ other, later.finishes = some other → pending.finishes = some other) :
    Carries world pending later where
  submits := by
    intro jobId submits
    rw [(submits_of_halts halted).1] at submits
    cases submits
  records := by
    intro other records
    rw [(submits_of_halts halted).2] at records
    cases records
  copy := by
    intro other same
    rw [copy_of_halts halted] at same
    cases same
    exact copy
  halts := by
    intro other same
    rw [halted] at same
    cases same
    exact stopped
  finishes := finishes

variable {containerId : Nat}

theorem isRunning_congr {before after : World}
    (same : after.containers.lookup containerId = before.containers.lookup containerId) :
    after.IsRunning containerId ↔ before.IsRunning containerId := by
  unfold World.IsRunning
  rw [same]

theorem HasContainer.lookup_launched (has : HasContainer world containerId jobId)
    (newJob gpuId : Nat) (dockerImage : String) :
    (world.launchJobContainer newJob gpuId dockerImage).containers.lookup containerId =
      world.containers.lookup containerId := by
  obtain ⟨container, found, _⟩ := has
  rw [found]
  exact Serial.lookup_append_of_some (world.containerRow_id newJob gpuId dockerImage) found

theorem HasContainer.launched (has : HasContainer world containerId jobId) (newJob gpuId : Nat)
    (dockerImage : String) :
    HasContainer (world.launchJobContainer newJob gpuId dockerImage) containerId jobId := by
  obtain ⟨container, found, own⟩ := has
  exact ⟨container, (HasContainer.lookup_launched ⟨container, found, own⟩ newJob gpuId
    dockerImage).trans found, own⟩

theorem Kept.copyContainer (kept : Kept system) (copy : IsCopy system.world job) :
    HasContainer system.world job.containerId job.id := by
  obtain ⟨row, stored, container, _⟩ := copy
  rw [← container]
  exact kept.contained job.id row stored

theorem Kept.containerAdded (kept : Kept system) (newJob gpuId : Nat) (dockerImage : String) :
    Kept { system with
      world := system.world.launchJobContainer newJob gpuId dockerImage } := by
  have runs {containerId jobId : Nat} (has : HasContainer system.world containerId jobId) :
      (system.world.launchJobContainer newJob gpuId dockerImage).IsRunning containerId ↔
        system.world.IsRunning containerId :=
    isRunning_congr (has.lookup_launched newJob gpuId dockerImage)
  have owns {jobId ofGpu : Nat} :
      Owns { system with
        world := system.world.launchJobContainer newJob gpuId dockerImage } jobId ofGpu ↔
        Owns system jobId ofGpu := by
    constructor
    · intro owner
      cases owner with
      | submission waits reserved =>
        exact Owns.submission waits reserved
      | job stored running own =>
        exact Owns.job stored ((runs (kept.contained _ _ stored)).mp running) own
      | completion waits releases own gpu =>
        exact Owns.completion waits releases own gpu
    · intro owner
      cases owner with
      | submission waits reserved =>
        exact Owns.submission waits reserved
      | job stored running own =>
        exact Owns.job stored ((runs (kept.contained _ _ stored)).mpr running) own
      | completion waits releases own gpu =>
        exact Owns.completion waits releases own gpu
  refine
    { submissions := kept.submissions
      begun := kept.begun
      launched := ?_
      contained := ?_
      copies := kept.copies
      running := ?_
      stopped := ?_
      oneFinish := kept.oneFinish
      inUse := fun jobId ofGpu owner =>
        kept.inUse jobId ofGpu (owns.mp owner)
      oneOwner := fun first second ofGpu firstOwns secondOwns =>
        kept.oneOwner first second ofGpu (owns.mp firstOwns) (owns.mp secondOwns)
      owned := ?_
      oneJob := kept.oneJob
      paid := ?_
      onePayout := kept.onePayout }
  · intro callId pending job waits records
    obtain ⟨has, running, status⟩ := kept.launched callId pending job waits records
    exact ⟨has.launched newJob gpuId dockerImage, (runs has).mpr running, status⟩
  · intro jobId job stored
    exact (kept.contained jobId job stored).launched newJob gpuId dockerImage
  · intro jobId job stored running
    exact kept.running jobId job stored ((runs (kept.contained jobId job stored)).mp running)
  · intro callId pending job waits halts running
    have copy := kept.copies callId pending job waits (copy_of_halts halts)
    exact kept.stopped callId pending job waits halts ((runs (kept.copyContainer copy)).mp running)
  · intro payout member
    obtain ⟨job, stored, stopped, unfinished⟩ := kept.paid payout member
    refine ⟨job, stored, ?_, unfinished⟩
    intro running
    exact stopped ((runs (kept.contained _ _ stored)).mp running)
  · intro ofGpu gpu found status
    obtain ⟨jobId, owner⟩ := kept.owned ofGpu gpu found status
    exact ⟨jobId, owns.mpr owner⟩

structure Ends (change : Job → Job) : Prop where
  id : ∀ job, (change job).id = job.id
  container : ∀ job, (change job).containerId = job.containerId
  gpu : ∀ job, (change job).matchedGpu = job.matchedGpu
  ended : ∀ job, ¬ (change job).IsLive

theorem ends_setCompleted (cost : ℚ) (minutes now : Int) :
    Ends (Job.setCompleted cost minutes now) :=
  ⟨fun _ => rfl, fun _ => rfl, fun _ => rfl, fun _ live => live.1 rfl⟩

theorem ends_setFailed : Ends (Job.setStatus .failed) :=
  ⟨fun _ => rfl, fun _ => rfl, fun _ => rfl, fun _ live => live.2.1 rfl⟩

theorem ends_setOverBudget : Ends (Job.setStatus .overBudget) :=
  ⟨fun _ => rfl, fun _ => rfl, fun _ => rfl, fun _ live => live.2.2.1 rfl⟩

theorem Kept.jobEnded {change : Job → Job} (kept : Kept system) (ends : Ends change) {ended : Nat}
    (stopped :
      ∀ row, system.world.jobs.lookup ended = some row → ¬ system.world.IsRunning row.containerId) :
    Kept { system with
      world := system.world.patchJob ended change ends.id } := by
  have earlier {jobId : Nat} {later : Job}
      (stored : (system.world.patchJob ended change ends.id).jobs.lookup jobId = some later) :
      ∃ row, system.world.jobs.lookup jobId = some row ∧
        later.containerId = row.containerId ∧ later.matchedGpu = row.matchedGpu ∧
        (later = row ∨ jobId = ended ∧ later = change row) := by
    rcases Table.lookup_of_lookup_update ends.id stored with ⟨here, row, found, rfl⟩ | ⟨_, found⟩
    · exact ⟨row, found, ends.container row, ends.gpu row, Or.inr ⟨here, rfl⟩⟩
    · exact ⟨later, found, rfl, rfl, Or.inl rfl⟩
  have later {jobId : Nat} {row : Job} (stored : system.world.jobs.lookup jobId = some row) :
      ∃ other, (system.world.patchJob ended change ends.id).jobs.lookup jobId = some other ∧
        other.containerId = row.containerId ∧ other.matchedGpu = row.matchedGpu := by
    by_cases here : jobId = ended
    · subst here
      exact ⟨change row, Table.lookup_update_of_some system.world.jobs change ends.id stored,
        ends.container row, ends.gpu row⟩
    · exact ⟨row, (Table.lookup_update_of_ne system.world.jobs ends.id here).trans stored, rfl, rfl⟩
  have owns {jobId gpuId : Nat} (owner : Owns { system with
      world := system.world.patchJob ended change ends.id }
        jobId gpuId) : Owns system jobId gpuId := by
    cases owner with
    | submission waits reserved => exact Owns.submission waits reserved
    | job stored running own =>
      obtain ⟨row, found, container, gpu, _⟩ := earlier stored
      rw [container] at running
      rw [gpu] at own
      exact Owns.job found running own
    | completion waits releases own gpu =>
      exact Owns.completion waits releases own gpu
  have uses {jobId gpuId : Nat} (user : Uses { system with
      world := system.world.patchJob ended change ends.id }
        jobId gpuId) : Uses system jobId gpuId := by
    rcases user with ⟨job, stored, live, gpu⟩ | submission
    · obtain ⟨row, found, _, _, rfl | ⟨_, rfl⟩⟩ := earlier stored
      · exact Or.inl ⟨_, found, live, gpu⟩
      · exact absurd live (ends.ended row)
    · exact Or.inr submission
  refine
    { submissions := ?_
      begun := ?_
      launched := kept.launched
      contained := ?_
      copies := ?_
      running := ?_
      stopped := kept.stopped
      oneFinish := kept.oneFinish
      inUse := fun jobId gpuId owner => kept.inUse jobId gpuId (owns owner)
      oneOwner := fun first second gpuId firstOwns secondOwns =>
        kept.oneOwner first second gpuId (owns firstOwns) (owns secondOwns)
      owned := ?_
      oneJob := fun first second gpuId firstUses secondUses =>
        kept.oneJob first second gpuId (uses firstUses) (uses secondUses)
      paid := ?_
      onePayout := kept.onePayout }
  · intro callId pending jobId waits submits
    obtain ⟨own, missing⟩ := kept.submissions callId pending jobId waits submits
    refine ⟨own, ?_⟩
    cases stored : (system.world.patchJob ended change ends.id).jobs.lookup jobId with
    | none => rfl
    | some other =>
      obtain ⟨row, found, _⟩ := earlier stored
      rw [missing] at found
      cases found
  · intro jobId job stored
    obtain ⟨row, found, _⟩ := earlier stored
    exact kept.begun jobId row found
  · intro jobId job stored
    obtain ⟨row, found, container, _⟩ := earlier stored
    rw [container]
    exact kept.contained jobId row found
  · intro callId pending job waits copy
    obtain ⟨row, found, container, gpu⟩ := kept.copies callId pending job waits copy
    obtain ⟨other, stored, sameContainer, sameGpu⟩ := later found
    exact ⟨other, stored, sameContainer.trans container, sameGpu.trans gpu⟩
  · intro jobId job stored running
    obtain ⟨row, found, container, _, rfl | ⟨rfl, rfl⟩⟩ := earlier stored
    · exact kept.running jobId _ found running
    · rw [container] at running
      exact absurd running (stopped row found)
  · intro payout member
    obtain ⟨job, stored, still, unfinished⟩ := kept.paid payout member
    obtain ⟨other, laterStored, container, _⟩ := later stored
    refine ⟨other, laterStored, ?_, unfinished⟩
    rw [container]
    exact still
  · intro gpuId gpu found status
    obtain ⟨jobId, owner⟩ := kept.owned gpuId gpu found status
    refine ⟨jobId, ?_⟩
    cases owner with
    | submission waits reserved => exact Owns.submission waits reserved
    | job stored running own =>
      obtain ⟨other, laterStored, container, sameGpu⟩ := later stored
      rw [← container] at running
      rw [← sameGpu] at own
      exact Owns.job laterStored running own
    | completion waits releases own ofGpu =>
      exact Owns.completion waits releases own ofGpu

theorem Kept.paidOut {system : System} (kept : Kept system) {payout : Payout} {job : Job}
    (stored : system.world.jobs.lookup payout.jobId = some job)
    (stopped : ¬ system.world.IsRunning job.containerId)
    (unfinished : ∀ callId pending finished, system.calls.waitsFor callId = some pending →
      pending.finishes = some finished → finished.id ≠ payout.jobId)
    (unpaid : ∀ other ∈ system.world.payouts, other.jobId ≠ payout.jobId) :
    Kept { system with
      world := { system.world with
        payouts := system.world.payouts ++ [payout] } } := by
  refine
    { submissions := kept.submissions
      begun := kept.begun
      launched := kept.launched
      contained := kept.contained
      copies := kept.copies
      running := kept.running
      stopped := kept.stopped
      oneFinish := kept.oneFinish
      inUse := fun jobId gpuId owner => kept.inUse jobId gpuId (owner.transport rfl rfl rfl)
      oneOwner := fun first second gpuId firstOwns secondOwns =>
        kept.oneOwner first second gpuId (firstOwns.transport rfl rfl rfl)
          (secondOwns.transport rfl rfl rfl)
      owned := ?_
      oneJob := kept.oneJob
      paid := ?_
      onePayout := ?_ }
  · intro other member
    rcases List.mem_append.mp member with old | new
    · exact kept.paid other old
    · rw [List.mem_singleton.mp new]
      exact ⟨job, stored, stopped, unfinished⟩
  · intro jobId
    rw [List.filter_append, List.length_append]
    by_cases own : payout.jobId = jobId
    · have none_ : system.world.payouts.filter (·.jobId = jobId) = [] := by
        rw [List.filter_eq_nil_iff]
        intro other member same
        exact unpaid other member ((of_decide_eq_true same).trans own.symm)
      rw [none_]
      simp [own]
    · have once := kept.onePayout jobId
      simpa [own] using once
  · intro gpuId gpu found status
    obtain ⟨jobId, owner⟩ := kept.owned gpuId gpu found status
    exact ⟨jobId, owner.transport rfl rfl rfl⟩

end DcpPlatform.Pipeline
