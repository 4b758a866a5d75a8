import DcpPlatform.Foundation.Transition
import DcpPlatform.Pipeline.Handover

/-!
# Every interleaving of the calls

Each turn of a call keeps the reservations, so all of them do, in any order.
-/

namespace DcpPlatform.Pipeline

open Foundation Table Option

/-! ## Every turn -/

section Turned

variable {system : System} {callId : Nat} {now : Int} {reply : Reply}

theorem submits_first {callId jobId : Nat} {request : Request}
    (submits : (request.first callId).submits = some jobId) :
    jobId = callId := by
  cases request with
  | submitJob _ =>
    injection submits with same
    exact same.symm
  | getJobStatus _ | completeJob _ => cases submits

theorem first_carriesNothing (callId : Nat) (request : Request) :
    (request.first callId).records = none ∧ (request.first callId).copy = none ∧
      (request.first callId).finishes = none ∧ MayEnd (request.first callId) := by
  cases request with
  | submitJob _ | getJobStatus _ | completeJob _ => exact ⟨rfl, rfl, rfl, rfl, rfl⟩

theorem Kept.started (kept : Kept system)
    (fresh : system.calls.IsFresh callId) (request : Request) :
    Kept { system with
      calls := system.calls.start callId (request.first callId) } := by
  obtain ⟨noRecord, noCopy, noFinish, idle⟩ := first_carriesNothing callId request
  have owns {jobId gpuId : Nat} :
      Owns { system with
        calls := system.calls.start callId (request.first callId) } jobId gpuId ↔
        Owns system jobId gpuId := by
    constructor
    · intro owner
      cases owner with
      | submission waits reserved =>
        rcases Calls.waitsFor_start_cases fresh waits with ⟨_, same⟩ | ⟨_, old⟩
        · rw [same, idle.reserved] at reserved
          cases reserved
        · exact Owns.submission old reserved
      | job stored runs own => exact Owns.job stored runs own
      | completion waits releases own gpu =>
        rcases Calls.waitsFor_start_cases fresh waits with ⟨_, same⟩ | ⟨_, old⟩
        · rw [same, idle.releases] at releases
          cases releases
        · exact Owns.completion old releases own gpu
    · intro owner
      cases owner with
      | submission waits reserved =>
        exact Owns.submission (Calls.waitsFor_start_of_some fresh waits _) reserved
      | job stored runs own => exact Owns.job stored runs own
      | completion waits releases own gpu =>
        exact Owns.completion (Calls.waitsFor_start_of_some fresh waits _) releases own gpu
  have uses {jobId gpuId : Nat} (user : Uses { system with
      calls := system.calls.start callId (request.first callId) }
        jobId gpuId) : Uses system jobId gpuId := by
    rcases user with stored | ⟨otherId, later, waits, reserved⟩
    · exact Or.inl stored
    · rcases Calls.waitsFor_start_cases fresh waits with ⟨_, same⟩ | ⟨_, old⟩
      · rw [same, idle.reserved] at reserved
        cases reserved
      · exact Or.inr ⟨otherId, later, old, reserved⟩
  refine
    { submissions := ?_
      begun := fun jobId job stored unused =>
        kept.begun jobId job stored (Calls.isFresh_of_start unused)
      launched := ?_
      contained := kept.contained
      copies := ?_
      running := kept.running
      stopped := ?_
      oneFinish := ?_
      paid := ?_
      onePayout := kept.onePayout
      inUse := fun jobId gpuId owner =>
        kept.inUse jobId gpuId (owns.mp owner)
      oneOwner := fun first second gpuId firstOwns secondOwns =>
        kept.oneOwner first second gpuId (owns.mp firstOwns) (owns.mp secondOwns)
      owned := ?_
      oneJob := fun first second gpuId firstUses secondUses =>
        kept.oneJob first second gpuId (uses firstUses) (uses secondUses) }
  · intro otherId later jobId waits submits
    rcases Calls.waitsFor_start_cases fresh waits with ⟨here, same⟩ | ⟨_, old⟩
    · rw [same] at submits
      have own := submits_first submits
      refine ⟨own.trans here.symm, ?_⟩
      cases stored : system.world.jobs.lookup jobId with
      | none => rfl
      | some job =>
        rw [own] at stored
        exact absurd fresh (kept.begun callId job stored)
    · exact kept.submissions otherId later jobId old submits
  · intro otherId later job waits records
    rcases Calls.waitsFor_start_cases fresh waits with ⟨_, same⟩ | ⟨_, old⟩
    · rw [same, noRecord] at records
      cases records
    · exact kept.launched otherId later job old records
  · intro otherId later job waits copy
    rcases Calls.waitsFor_start_cases fresh waits with ⟨_, same⟩ | ⟨_, old⟩
    · rw [same, noCopy] at copy
      cases copy
    · exact kept.copies otherId later job old copy
  · intro otherId later job waits halts
    rcases Calls.waitsFor_start_cases fresh waits with ⟨_, same⟩ | ⟨_, old⟩
    · have copy := copy_of_halts halts
      rw [same, noCopy] at copy
      cases copy
    · exact kept.stopped otherId later job old halts
  · apply kept.oneFinish.start fresh
    intro otherId other key firstKey
    rw [noFinish] at firstKey
    cases firstKey
  · intro payout member
    obtain ⟨job, stored, still, unfinished⟩ := kept.paid payout member
    refine ⟨job, stored, still, ?_⟩
    intro otherId later finished waits finishes
    rcases Calls.waitsFor_start_cases fresh waits with ⟨_, same⟩ | ⟨_, old⟩
    · rw [same, noFinish] at finishes
      cases finishes
    · exact unfinished otherId later finished old finishes
  · intro gpuId gpu found status
    obtain ⟨jobId, owner⟩ := kept.owned gpuId gpu found status
    exact ⟨jobId, owns.mpr owner⟩

variable {pending : Pending}

theorem Kept.goneOn (kept : Kept system) (waits : system.calls.waitsFor callId = some pending)
    (idle : MayEnd pending) {later : Option Pending}
    (plain : ∀ other,
      later = some other → Plain other ∧ ∀ job, other.copy = some job → IsCopy system.world job) :
    Kept { system with calls := system.calls.resume callId later } :=
  kept.resumed waits (fun other following =>
    follows_plain (plain other following).1 (plain other following).2 idle)
    (fun _ => idle)

theorem Kept.returned (kept : Kept system) {pending : Pending}
    (waits : system.calls.waitsFor callId = some pending) (idle : MayEnd pending) :
    Kept { system with calls := system.calls.resume callId none } :=
  kept.goneOn waits idle (fun _ following => nomatch following)

theorem answer_eq_some {Row : Type} {found : Option Row} {row : Row}
    (answered : answer reply found = some row) : found = some row := by
  unfold answer at answered
  split at answered
  · exact answered
  · cases answered

variable {job : Job}

theorem isCopy_of_lookup {world : World} {jobId : Nat}
    (found : world.jobs.lookup jobId = some job) : IsCopy world job := by
  have own : job.id = jobId := lookup_key found
  refine ⟨job, ?_, rfl, rfl⟩
  rw [own]
  exact found

theorem follows_launched (world : World) (jobId : Nat)
    (request : JobRequest) (gpu : ProviderGpu) (startTime : Int) :
    Follows (world.launchJobContainer jobId gpu.id request.dockerImage) (.launch jobId request gpu)
      (.record (newJob jobId request gpu (world.containers.last + 1) startTime)) where
  submits := fun _ submits => submits
  records := by
    intro job same
    cases same
    have found : (world.launchJobContainer jobId gpu.id
        request.dockerImage).containers.lookup (world.containers.last + 1) =
          some (world.containerRow jobId gpu.id request.dockerImage) :=
      (Serial.lookup_append
        (world.containerRow_id jobId gpu.id request.dockerImage) _).trans (if_pos rfl)
    refine ⟨⟨_, found, rfl⟩, ?_, rfl⟩
    rw [World.IsRunning, show (newJob jobId request gpu (world.containers.last + 1)
      startTime).containerId = world.containers.last + 1 from rfl,
      found]
    rfl
  copy := fun _ copy => nomatch copy
  halts := fun _ halts => nomatch halts
  finishes := fun _ finishes => nomatch finishes
  reserved := rfl
  releases := rfl

variable (kept : Kept system)

include kept

theorem Kept.submitTurned (waits : system.calls.waitsFor callId = some pending)
    (submits : pending.operation = .submit)
    (undisturbed : Undisturbed system.world reply pending) :
    Kept (system.afterTurn callId (submitTurn system.world now reply pending)) := by
  cases pending with
  | readProviders jobId request =>
    apply kept.resumed waits
    · intro later following
      obtain ⟨gpu, _, rfl⟩ := map_eq_some_iff.mp following
      exact
        { submits := fun _ submits => submits
          records := fun _ records => nomatch records
          copy := fun _ copy => nomatch copy
          halts := fun _ halts => nomatch halts
          finishes := fun _ finishes => nomatch finishes
          reserved := rfl
          releases := rfl }
    · intro _
      exact ⟨rfl, rfl⟩
  | readBalance jobId request gpu =>
    simp only [submitTurn]
    cases answered : answer reply (system.world.renters.lookup request.renterId) with
    | none => exact kept.returned waits ⟨rfl, rfl⟩
    | some renter =>
      simp only
      split
      · exact kept.returned waits ⟨rfl, rfl⟩
      · apply kept.resumed waits
        · intro later following
          cases following
          exact
            { submits := fun _ submits => submits
              records := fun _ records => nomatch records
              copy := fun _ copy => nomatch copy
              halts := fun _ halts => nomatch halts
              finishes := fun _ finishes => nomatch finishes
              reserved := rfl
              releases := rfl }
        · intro ended
          cases ended
  | reserveGpu jobId request gpu =>
    rcases undisturbed with rfl | ⟨rfl, free⟩
    · exact kept.returned waits ⟨rfl, rfl⟩
    · exact kept.gpuReserved waits free
  | launch jobId request gpu =>
    rcases undisturbed with rfl
    have added := kept.containerAdded jobId gpu.id request.dockerImage
    apply added.resumed waits
    · intro later following
      cases following
      exact follows_launched system.world jobId request gpu now
    · intro ended
      cases ended
  | record job =>
    have recorded := kept.jobRecorded waits
    cases reply with
    | done | lost => exact recorded
    | failed => exact absurd rfl undisturbed
  | _ => cases submits

theorem Kept.rowStopped (waits : system.calls.waitsFor callId = some pending)
    (halts : pending.halts = some job) (row : Job)
    (found : system.world.jobs.lookup job.id = some row) :
    ¬ system.world.IsRunning row.containerId := by
  obtain ⟨other, stored, container, _⟩ := kept.copies callId pending job waits (copy_of_halts halts)
  rw [found] at stored
  injection stored with same
  rw [same, container]
  exact kept.stopped callId pending job waits halts

theorem Kept.marked {pending : Pending} {job : Job} {change : Job → Job} (ends : Ends change)
    (waits : system.calls.waitsFor callId = some pending)
    (halts : pending.halts = some job) :
    Kept { system with
      world := executed system.world reply (system.world.patchJob job.id change ends.id) } := by
  unfold executed
  split
  · exact kept
  · exact kept.jobEnded ends (kept.rowStopped waits halts)

theorem Kept.statusTurned (waits : system.calls.waitsFor callId = some pending)
    (reports : pending.operation = .status)
    (undisturbed : Undisturbed system.world reply pending) :
    Kept (system.afterTurn callId (statusTurn system.world now reply pending)) := by
  cases pending with
  | readStatus jobId =>
    simp only [statusTurn]
    cases answered : answer reply (system.world.jobs.lookup jobId) with
    | none => exact kept.returned waits ⟨rfl, rfl⟩
    | some job =>
      simp only
      split
      · apply kept.goneOn waits ⟨rfl, rfl⟩
        intro other following
        cases following
        refine ⟨⟨rfl, rfl, rfl, rfl, rfl, rfl⟩, ?_⟩
        intro copied same
        cases same
        exact isCopy_of_lookup (answer_eq_some answered)
      · exact kept.returned waits ⟨rfl, rfl⟩
  | monitorStatus job =>
    have copy := kept.copies callId _ job waits rfl
    simp only [statusTurn]
    split
    · apply kept.goneOn waits ⟨rfl, rfl⟩
      intro other following
      cases following
      refine ⟨⟨rfl, rfl, rfl, rfl, rfl, rfl⟩, ?_⟩
      intro copied same
      cases same
      exact copy
    · exact kept.returned waits ⟨rfl, rfl⟩
  | stopOverBudget job =>
    simp only [statusTurn]
    split
    · rename_i runs
      rcases undisturbed with rfl | stopped
      · exact kept.returned waits ⟨rfl, rfl⟩
      · exact absurd runs stopped
    · exact kept.returned waits ⟨rfl, rfl⟩
  | markOverBudget job =>
    exact (kept.marked ends_setOverBudget waits rfl).returned waits ⟨rfl, rfl⟩
  | _ => cases reports

theorem Kept.halted {pending later : Pending} (waits : system.calls.waitsFor callId = some pending)
    (copies : pending.copy = some job) (halted : later.halts = some job)
    (stopped : ¬ system.world.IsRunning job.containerId)
    (finishes : ∀ other, later.finishes = some other → pending.finishes = some other)
    (reserved : later.reserved = pending.reserved)
    (releases : later.releases = pending.releases) :
    Kept { system with
      calls := system.calls.resume callId (some later) } := by
  have copy := kept.copies callId pending job waits copies
  apply kept.resumed waits
  · intro other following
    cases following
    exact
      { toCarries := carries_halted halted copy stopped finishes
        reserved := reserved
        releases := releases }
  · intro ended
    cases ended

theorem Kept.unfinished (waits : system.calls.waitsFor callId = some pending)
    (finishes : pending.finishes = some job) (otherId : Nat)
    (other : Pending) (finished : Job)
    (otherWaits : (system.calls.resume callId none).waitsFor otherId = some other)
    (otherFinishes : other.finishes = some finished) :
    finished.id ≠ job.id := by
  intro same
  rcases Calls.waitsFor_resume_cases waits otherWaits with ⟨_, ⟨⟩⟩ | ⟨different, old⟩
  apply different
  apply kept.oneFinish otherId callId other pending job.id old waits
  · exact (congrArg (Option.map Job.id) otherFinishes).trans (congrArg some same)
  · exact congrArg (Option.map Job.id) finishes

theorem Kept.unpaid (waits : system.calls.waitsFor callId = some pending)
    (finishes : pending.finishes = some job) :
    ∀ payout ∈ system.world.payouts, payout.jobId ≠ job.id := by
  intro payout member same
  obtain ⟨_, _, _, unfinished⟩ := kept.paid payout member
  exact unfinished callId pending job waits finishes same.symm

theorem Kept.completeTurned (waits : system.calls.waitsFor callId = some pending)
    (completes : pending.operation = .complete)
    (undisturbed : Undisturbed system.world reply pending) :
    Kept (system.afterTurn callId (completeTurn system.world now reply pending)) := by
  cases pending with
  | readCompletion jobId =>
    apply kept.goneOn waits ⟨rfl, rfl⟩
    intro other following
    obtain ⟨job, answered, rfl⟩ := map_eq_some_iff.mp following
    refine ⟨⟨rfl, rfl, rfl, rfl, rfl, rfl⟩, ?_⟩
    intro copied same
    cases same
    exact isCopy_of_lookup (answer_eq_some answered)
  | monitorCompletion job =>
    have copy := kept.copies callId _ job waits rfl
    apply kept.goneOn waits ⟨rfl, rfl⟩
    intro other following
    cases following
    refine ⟨⟨rfl, rfl, rfl, rfl, rfl, rfl⟩, ?_⟩
    intro copied same
    cases same
    exact copy
  | stopCompleted job =>
    simp only [completeTurn]
    split
    · rename_i runs
      rcases undisturbed with rfl | stopped
      · exact kept.containerStopped waits runs
      · exact absurd runs stopped
    · rename_i stopped
      exact kept.halted waits rfl rfl stopped (fun _ finishes => nomatch finishes) rfl rfl
  | wipe job =>
    exact kept.halted waits rfl rfl (kept.stopped callId _ job waits rfl)
      (fun _ finishes => finishes) rfl rfl
  | releaseGpu job minutes =>
    cases reply with
    | done => exact kept.gpuReleased waits (Or.inl rfl)
    | lost => exact kept.gpuReleased waits (Or.inr rfl)
    | failed => exact absurd rfl undisturbed
  | markCompleted job minutes =>
    have marked := @Kept.marked _ _ reply kept _ _ _
      (ends_setCompleted (totalCostUsd job minutes) minutes now) waits rfl
    have stopped := marked.stopped callId _ job waits rfl
    simp only [completeTurn]
    split
    · exact marked.halted waits rfl rfl stopped (fun _ finishes => finishes) rfl rfl
    · exact marked.halted waits rfl rfl stopped (fun _ finishes => nomatch finishes) rfl rfl
  | postPayout job minutes =>
    have ended := kept.returned waits ⟨rfl, rfl⟩
    obtain ⟨row, stored, _⟩ := kept.copies callId _ job waits rfl
    have paid := @Kept.paidOut _ ended ⟨job.id, job.matchedGpu.providerId, totalCostUsd job minutes⟩
        row stored (kept.rowStopped waits rfl row stored)
        (kept.unfinished waits rfl) (kept.unpaid waits rfl)
    cases reply with
    | done | lost => exact paid
    | failed => exact ended
  | markFailed job =>
    exact (kept.marked ends_setFailed waits rfl).returned waits ⟨rfl, rfl⟩
  | _ => cases completes

theorem Kept.turned (waits : system.calls.waitsFor callId = some pending)
    (undisturbed : Undisturbed system.world reply pending) :
    Kept (system.afterTurn callId (takeTurn system.world now reply pending)) := by
  unfold takeTurn
  cases operation : pending.operation with
  | submit => exact kept.submitTurned waits operation undisturbed
  | status => exact kept.statusTurned waits operation undisturbed
  | complete => exact kept.completeTurned waits operation undisturbed

end Turned

theorem next_kept {source target : System} {action : Action} (kept : Kept source)
    (step : guarded (Fires next) Smooth source action target) :
    Kept target := by
  obtain ⟨smooth, fires⟩ := step
  cases action with
  | call callId request =>
    have called : (if source.calls.IsFresh callId then
          some { source with
            calls := source.calls.start callId (request.first callId) }
        else
          none) = some target :=
      fires
    obtain ⟨fresh, rfl⟩ := of_ite_eq_some called
    exact kept.started fresh request
  | turn callId reply now =>
    obtain ⟨pending, waits, rfl⟩ := map_eq_some_iff.mp fires
    exact kept.turned waits (smooth pending waits)

structure Unstarted (system : System) : Prop where
  jobs : system.world.jobs = Table.empty
  payouts : system.world.payouts = []
  calls : system.calls = Table.empty
  idle : ∀ gpuId gpu, system.world.gpus.lookup gpuId = some gpu → gpu.status ≠ .inUse

theorem Unstarted.kept {system : System} (unstarted : Unstarted system) :
    Kept system := by
  obtain ⟨world, calls⟩ := system
  obtain ⟨jobs, payouts, rfl, idle⟩ := unstarted
  have noJob {jobId : Nat} {job : Job} (stored : world.jobs.lookup jobId = some job) : False := by
    rw [jobs] at stored
    cases stored
  have unowned {jobId gpuId : Nat} (owner : Owns ⟨world, empty⟩ jobId gpuId) : False := by
    cases owner with
    | submission waits _ | completion waits _ _ _ => cases waits
    | job stored _ _ => exact noJob stored
  have unused {jobId gpuId : Nat} (user : Uses ⟨world, empty⟩ jobId gpuId) : False := by
    rcases user with ⟨_, stored, _⟩ | ⟨_, _, ⟨⟩, _⟩
    exact noJob stored
  exact
    { submissions := fun _ _ _ waits => nomatch waits
      begun := fun _ _ stored => (noJob stored).elim
      launched := fun _ _ _ waits => nomatch waits
      contained := fun _ _ stored => (noJob stored).elim
      copies := fun _ _ _ waits => nomatch waits
      running := fun _ _ stored => (noJob stored).elim
      stopped := fun _ _ _ waits => nomatch waits
      oneFinish := Calls.exclusive_empty _
      paid := by
        intro payout member
        rw [payouts] at member
        cases member
      onePayout := by
        intro jobId
        rw [payouts]
        exact Nat.zero_le 1
      inUse := fun _ _ owner => (unowned owner).elim
      oneOwner := fun _ _ _ owner => (unowned owner).elim
      owned := fun gpuId gpu found status =>
        absurd status (idle gpuId gpu found)
      oneJob := fun _ _ _ user => (unused user).elim }

/-- While each submission reserves a free GPU and goes through, and no job is
stopped over its budget, a GPU serves one job and is given back, and a job
is paid once. -/
theorem gpus_reserved_once {start finish : System}
    {actions : List Action} (unstarted : Unstarted start)
    (run : Run (guarded (Fires next) Smooth) start actions finish) :
    ReservedOnce finish :=
  (run.invariant Kept next_kept unstarted.kept).reservedOnce

def sampleGpu : ProviderGpu :=
  { id := 1
    providerId := 4
    vramGb := 24
    ratePerHour := 2
    reliability := 1
    status := .available }

def sampleSystem : System :=
  { world :=
    { gpus := Table.empty.insertIfNew sampleGpu
      renters := Table.empty.insertIfNew ⟨5, 100⟩
      jobs := Table.empty
      payouts := []
      containers := Serial.empty }
    calls := Table.empty }

theorem sampleSystem_unstarted : Unstarted sampleSystem where
  jobs := rfl
  payouts := rfl
  calls := rfl
  idle := by
    intro gpuId gpu found
    have member : gpu ∈ [sampleGpu] := lookup_mem found
    rw [List.mem_singleton.mp member]
    decide

def sampleRequest : Request :=
  .submitJob
    { renterId := 5
      dockerImage := "trainer"
      requiredVramGb := 16
      estimatedHours := 1
      maxBudgetUsd := 2 }

def answered (callId : Nat) (request : Request) (turns : Nat) (now : Int) : List Action :=
  .call callId request :: List.replicate turns (.turn callId .done now)

/-- The same GPU serves a job, is given back and serves the next job; the
second completion of the first job finds its container stopped. -/
theorem gpus_reserved_once_sample :
    ∃ finish, Run (guarded (Fires next) Smooth) sampleSystem
      (answered 1 sampleRequest 5 0 ++ answered 2 (.completeJob 1) 7 60000 ++
        answered 3 sampleRequest 5 60000 ++
        answered 4 (.completeJob 1) 4 120000) finish ∧
        finish.world.payouts.length = 1 ∧
        (∃ job ∈ finish.world.jobs.lookup 3, job.status = .running) ∧ ReservedOnce finish := by
  refine exists_guarded_run (fun finish =>
    finish.world.payouts.length = 1 ∧ ∃ job ∈ finish.world.jobs.lookup 3, job.status = .running)
    (by decide +kernel) ?_
  rintro finish run ⟨paid, running⟩
  exact ⟨paid, running, gpus_reserved_once sampleSystem_unstarted run⟩

/-- Two submissions that overlap run their jobs on the same GPU, and a job
that is stopped over its budget keeps its GPU reserved for good. -/
theorem gpu_reserved_twice_or_kept :
    (∃ actions finish, Run (Fires next) sampleSystem actions finish ∧
      Uses finish 1 1 ∧ Uses finish 2 1 ∧ ¬ ReservedOnce finish) ∧
      ∃ actions finish, Run (Fires next) sampleSystem actions finish ∧
        (∀ call ∈ finish.calls.rows, call.pending = none) ∧
          (∃ gpu ∈ finish.world.gpus.lookup 1, gpu.status = .inUse) ∧
            (∀ job ∈ finish.world.jobs.rows, job.status ≠ .running) ∧ ¬ ReservedOnce finish := by
  constructor
  · obtain ⟨finish, executed, first, second⟩ : ∃ finish, execute next sampleSystem
        ([.call 1 sampleRequest, .call 2 sampleRequest] ++
          [.turn 1 .done 0, .turn 2 .done 0] ++ List.replicate 4 (.turn 1 .done 0) ++
            List.replicate 4 (.turn 2 .done 0)) = some finish ∧
            (∃ job ∈ finish.world.jobs.lookup 1, job.IsLive ∧ job.matchedGpu.id = 1) ∧
              ∃ job ∈ finish.world.jobs.lookup 2, job.IsLive ∧ job.matchedGpu.id = 1 :=
      exists_of_execute_any (by decide +kernel)
    have firstUses : Uses finish 1 1 := Or.inl first
    have secondUses : Uses finish 2 1 := Or.inl second
    refine ⟨_, finish, run_of_execute executed, firstUses, secondUses, ?_⟩
    intro once
    have same := once.oneJob 1 2 1 firstUses secondUses
    omega
  · obtain ⟨finish, executed, ended, ⟨gpu, found, inUse⟩, stopped⟩ : ∃ finish,
        execute next sampleSystem (answered 1 sampleRequest 5 0 ++
          answered 2 (.getJobStatus 1) 4 7200000) = some finish ∧
          (∀ call ∈ finish.calls.rows, call.pending = none) ∧
            (∃ gpu ∈ finish.world.gpus.lookup 1, gpu.status = .inUse) ∧
              ∀ job ∈ finish.world.jobs.rows, job.status ≠ .running :=
      exists_of_execute_any (by decide +kernel)
    refine ⟨_, finish, run_of_execute executed, ended, ⟨gpu, found, inUse⟩, stopped, ?_⟩
    intro once
    have idle (callId : Nat) : finish.calls.waitsFor callId = none := by
      cases waits : finish.calls.waitsFor callId with
      | none => rfl
      | some pending =>
        obtain ⟨call, member, has⟩ := Calls.mem_of_waitsFor waits
        rw [ended call member] at has
        cases has
    obtain ⟨jobId, job, stored, running, _⟩ := once.givenBack idle 1 gpu found inUse
    exact stopped job (lookup_mem stored) running

end DcpPlatform.Pipeline
