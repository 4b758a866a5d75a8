import DcpPlatform.Pipeline.Reservations

/-!
# A GPU goes from owner to owner

The four turns that hand a GPU on: a submission reserves it, records its job,
a completion stops the container and, last, releases the GPU.
-/

namespace DcpPlatform.Pipeline

open Foundation Table

section Handed

variable {system : System} {callId : Nat} {gpu : ProviderGpu} {gpuId jobId : Nat}

theorem Kept.unowned (kept : Kept system) (found : system.world.gpus.lookup gpuId = some gpu)
    (available : gpu.status = .available) : ¬ Owns system jobId gpuId := by
  intro owner
  have inUse := kept.inUse jobId gpuId owner gpu found
  rw [available] at inUse
  cases inUse

theorem Kept.unused (kept : Kept system)
    (free : IsFree system.world gpuId) : ¬ Uses system jobId gpuId := by
  obtain ⟨⟨gpu, found, available⟩, idle⟩ := free
  rintro (⟨job, stored, live, own⟩ | ⟨callId, pending, waits, reserved⟩)
  · exact idle job (lookup_mem stored) live own
  · exact kept.unowned found available (Owns.submission waits reserved)

theorem Kept.gpuReserved (kept : Kept system) {request : JobRequest}
    (waits : system.calls.waitsFor callId = some (.reserveGpu jobId request gpu))
    (free : IsFree system.world gpu.id) :
    Kept
      { world := system.world.setGpu gpu.id .inUse
        calls := system.calls.resume callId (some (.launch jobId request gpu)) } := by
  have owns {other gpuId : Nat} (owner : Owns
      { world := system.world.setGpu gpu.id .inUse
        calls := system.calls.resume callId (some (.launch jobId request gpu)) } other gpuId) :
      Owns system other gpuId ∨ other = jobId ∧ gpuId = gpu.id := by
    cases owner with
    | submission laterWaits reserved =>
      rcases Calls.waitsFor_resume_cases waits laterWaits with ⟨_, ⟨⟩⟩ | ⟨_, old⟩
      · injection reserved with same
        injection same with sameJob sameGpu
        exact Or.inr ⟨sameJob.symm, sameGpu.symm⟩
      · exact Or.inl (Owns.submission old reserved)
    | job stored runs own => exact Or.inl (Owns.job stored runs own)
    | completion laterWaits releases own ofGpu =>
      rcases Calls.waitsFor_resume_cases waits laterWaits with ⟨_, ⟨⟩⟩ | ⟨_, old⟩
      · cases releases
      · exact Or.inl (Owns.completion old releases own ofGpu)
  have uses {other gpuId : Nat} (user : Uses
      { world := system.world.setGpu gpu.id .inUse
        calls := system.calls.resume callId (some (.launch jobId request gpu)) } other gpuId) :
      Uses system other gpuId ∨ other = jobId ∧ gpuId = gpu.id := by
    rcases user with stored | ⟨otherId, later, laterWaits, reserved⟩
    · exact Or.inl (Or.inl stored)
    · rcases owns (Owns.submission laterWaits reserved) with
        _ | both
      · rcases Calls.waitsFor_resume_cases waits laterWaits with ⟨_, ⟨⟩⟩ | ⟨_, old⟩
        · injection reserved with same
          injection same with sameJob sameGpu
          exact Or.inr ⟨sameJob.symm, sameGpu.symm⟩
        · exact Or.inl (Or.inr ⟨otherId, later, old, reserved⟩)
      · exact Or.inr both
  obtain ⟨⟨stored, found, available⟩, _⟩ := id free
  have unowned {other : Nat} : ¬ Owns system other gpu.id := kept.unowned found available
  refine ⟨(kept.toTraced.gpuSet gpu.id .inUse).resumed waits ?_, ?_, ?_, ?_, ?_⟩
  · intro later following
    cases following
    exact
      { submits := fun _ submits => submits
        records := fun _ records => nomatch records
        copy := fun _ copy => nomatch copy
        halts := fun _ halts => nomatch halts
        finishes := fun _ finishes => nomatch finishes }
  · intro other gpuId owner laterGpu laterFound
    rcases lookup_of_lookup_update (ProviderGpu.setStatus_id .inUse)
      laterFound with ⟨_, row, _, rfl⟩ | ⟨different, old⟩
    · rfl
    · rcases owns owner with before | ⟨_, here⟩
      · exact kept.inUse other gpuId before laterGpu old
      · exact absurd here different
  · intro first second gpuId firstOwns secondOwns
    rcases owns firstOwns with firstOld | ⟨rfl, rfl⟩
    · rcases owns secondOwns with secondOld | ⟨rfl, rfl⟩
      · exact kept.oneOwner first second gpuId firstOld secondOld
      · exact absurd firstOld unowned
    · rcases owns secondOwns with secondOld | ⟨rfl, _⟩
      · exact absurd secondOld unowned
      · rfl
  · intro gpuId laterGpu laterFound status
    rcases lookup_of_lookup_update (ProviderGpu.setStatus_id .inUse)
      laterFound with ⟨rfl, _, _, _⟩ | ⟨_, old⟩
    · exact ⟨jobId, Owns.submission ((Calls.waitsFor_resume waits _ _).trans (if_pos rfl)) rfl⟩
    · obtain ⟨other, owner⟩ := kept.owned gpuId laterGpu old status
      exact ⟨other, (owner.resumed waits ⟨rfl, rfl⟩ _).transport rfl rfl rfl⟩
  · intro first second gpuId firstUses secondUses
    rcases uses firstUses with firstOld | ⟨rfl, rfl⟩
    · rcases uses secondUses with secondOld | ⟨rfl, rfl⟩
      · exact kept.oneJob first second gpuId firstOld secondOld
      · exact absurd firstOld (kept.unused free)
    · rcases uses secondUses with secondOld | ⟨rfl, _⟩
      · exact absurd secondOld (kept.unused free)
      · rfl

variable {job : Job}

theorem Kept.gpuReleased (kept : Kept system) {minutes : Int} {later : Pending}
    (waits : system.calls.waitsFor callId = some (.releaseGpu job minutes))
    (goesOn : later = .markCompleted job minutes ∨ later = .markFailed job) :
    Kept
      { world := system.world.setGpu job.matchedGpu.id .available
        calls := system.calls.resume callId (some later) } := by
  have reservesNone : later.reserved = none := by
    rcases goesOn with rfl | rfl <;> rfl
  have releasesNone : later.releases = none := by
    rcases goesOn with rfl | rfl <;> rfl
  have carries : Carries (system.world.setGpu job.matchedGpu.id .available)
      (.releaseGpu job minutes) later := by
    have copy := kept.copies callId _ job waits rfl
    have stopped := kept.stopped callId _ job waits rfl
    rcases goesOn with rfl | rfl
    · exact carries_halted rfl copy stopped (fun _ finishes => finishes)
    · exact carries_halted rfl copy stopped (fun _ finishes => nomatch finishes)
  have alone {other : Nat} (owner : Owns system other job.matchedGpu.id) : other = job.id :=
    kept.oneOwner other job.id job.matchedGpu.id owner (Owns.completion waits rfl rfl rfl)
  -- No other call and no running job owns the GPU of this completion.
  have owns {other gpuId : Nat} (owner : Owns
      { world := system.world.setGpu job.matchedGpu.id .available
        calls := system.calls.resume callId (some later) }
      other gpuId) :
      Owns system other gpuId ∧ gpuId ≠ job.matchedGpu.id := by
    obtain ⟨row, stored, container, _⟩ := kept.copies callId _ job waits rfl
    cases owner with
    | submission laterWaits reserved =>
      rcases Calls.waitsFor_resume_cases waits laterWaits with ⟨_, following⟩ | ⟨_, old⟩
      · injection following with same
        rw [← same, reservesNone] at reserved
        cases reserved
      · refine ⟨Owns.submission old reserved, ?_⟩
        rintro rfl
        obtain ⟨_, missing⟩ := kept.submissions _ _ _ old (submits_of_reserved reserved)
        rw [alone (Owns.submission old reserved), stored] at missing
        cases missing
    | job laterStored runs own =>
      have owned : Owns system other gpuId := Owns.job laterStored runs own
      refine ⟨owned, ?_⟩
      rintro rfl
      have same := stored.symm.trans
        ((congrArg system.world.jobs.lookup (alone owned)).symm.trans laterStored)
      injection same with same
      rw [← same, container] at runs
      exact kept.stopped callId _ job waits rfl runs
    | completion laterWaits releases own ofGpu =>
      rcases Calls.waitsFor_resume_cases waits laterWaits with ⟨_, following⟩ | ⟨different, old⟩
      · injection following with same
        rw [← same, releasesNone] at releases
        cases releases
      · refine ⟨Owns.completion old releases own ofGpu, ?_⟩
        rintro rfl
        have sameJob := alone (Owns.completion old releases own ofGpu)
        apply different
        apply kept.oneFinish _ _ _ _ job.id old waits
        · exact (congrArg (Option.map Job.id)
            (finishes_of_releases releases)).trans (congrArg some (own.trans sameJob))
        · rfl
  have uses {other gpuId : Nat} (user : Uses
      { world := system.world.setGpu job.matchedGpu.id .available
        calls := system.calls.resume callId (some later) }
      other gpuId) : Uses system other gpuId := by
    rcases user with stored | ⟨otherId, follower, laterWaits, reserved⟩
    · exact Or.inl stored
    · rcases Calls.waitsFor_resume_cases waits laterWaits with ⟨_, following⟩ | ⟨_, old⟩
      · injection following with same
        rw [← same, reservesNone] at reserved
        cases reserved
      · exact Or.inr ⟨otherId, follower, old, reserved⟩
  refine
    { toTraced := (kept.toTraced.gpuSet job.matchedGpu.id .available).resumed waits
          (fun _ following => Option.some.inj following ▸ carries)
      inUse := ?_
      oneOwner := fun first second gpuId firstOwns secondOwns =>
        kept.oneOwner first second gpuId (owns firstOwns).1 (owns secondOwns).1
      owned := ?_
      oneJob := fun first second gpuId firstUses secondUses =>
        kept.oneJob first second gpuId (uses firstUses) (uses secondUses) }
  · intro other gpuId owner gpu found
    rcases lookup_of_lookup_update (ProviderGpu.setStatus_id .available) found with
      ⟨here, _⟩ | ⟨_, old⟩
    · exact absurd here (owns owner).2
    · exact kept.inUse other gpuId (owns owner).1 gpu old
  · intro gpuId gpu found status
    rcases lookup_of_lookup_update (ProviderGpu.setStatus_id .available) found with
      ⟨_, row, _, rfl⟩ | ⟨different, old⟩
    · cases status
    · obtain ⟨other, owner⟩ := kept.owned gpuId gpu old status
      refine ⟨other, ?_⟩
      rcases owner.resumed_cases waits (some later) with after | reserved | ⟨_, ⟨⟩, _, ofGpu⟩
      · exact after.transport rfl rfl rfl
      · cases reserved
      · exact absurd ofGpu.symm different

theorem Kept.jobRecorded (kept : Kept system)
    (waits : system.calls.waitsFor callId = some (.record job)) :
    Kept
      { world := { system.world with jobs := system.world.jobs.insertIfNew job }
        calls := system.calls.resume callId none } := by
  obtain ⟨ownCall, missing⟩ := kept.submissions callId _ job.id waits rfl
  obtain ⟨has, runs, status⟩ := kept.launched callId _ job waits rfl
  have still {jobId : Nat} {row : Job} (found : system.world.jobs.lookup jobId = some row) :
      (system.world.jobs.insertIfNew job).lookup jobId = some row := by
    rw [insertIfNew_of_fresh missing]
    exact lookup_insert_of_some system.world.jobs missing found
  have recorded : (system.world.jobs.insertIfNew job).lookup job.id = some job := by
    rw [insertIfNew_of_fresh missing]
    exact lookup_insert_self system.world.jobs job missing
  have earlier {jobId : Nat} {row : Job}
      (stored : (system.world.jobs.insertIfNew job).lookup jobId = some row) :
      jobId = job.id ∧ row = job ∨ system.world.jobs.lookup jobId = some row := by
    rw [insertIfNew_of_fresh missing, lookup_insert] at stored
    by_cases here : job.id = jobId
    · rw [if_pos here] at stored
      injection stored with same
      exact Or.inl ⟨here.symm, same.symm⟩
    · rw [if_neg here] at stored
      exact Or.inr stored
  have old {otherId : Nat} {later : Pending}
      (laterWaits : (system.calls.resume callId none).waitsFor otherId = some later) :
      otherId ≠ callId ∧ system.calls.waitsFor otherId = some later := by
    rcases Calls.waitsFor_resume_cases waits laterWaits with ⟨_, ⟨⟩⟩ | other
    exact other
  have owns {jobId gpuId : Nat} (owner : Owns
      { world := { system.world with jobs := system.world.jobs.insertIfNew job }
        calls := system.calls.resume callId none } jobId gpuId) :
      Owns system jobId gpuId := by
    cases owner with
    | submission laterWaits reserved =>
      exact Owns.submission (old laterWaits).2 reserved
    | job stored runs own =>
      rcases earlier stored with ⟨rfl, rfl⟩ | before
      · rw [← own]
        exact Owns.submission waits rfl
      · exact Owns.job before runs own
    | completion laterWaits releases own ofGpu =>
      exact Owns.completion (old laterWaits).2 releases own ofGpu
  have uses {jobId gpuId : Nat} (user : Uses
      { world := { system.world with jobs := system.world.jobs.insertIfNew job }
        calls := system.calls.resume callId none } jobId gpuId) :
      Uses system jobId gpuId := by
    rcases user with ⟨row, stored, live, own⟩ | ⟨otherId, later, laterWaits, reserved⟩
    · rcases earlier stored with ⟨rfl, rfl⟩ | before
      · rw [← own]
        exact Or.inr ⟨callId, _, waits, rfl⟩
      · exact Or.inl ⟨row, before, live, own⟩
    · exact Or.inr ⟨otherId, later, (old laterWaits).2, reserved⟩
  refine
    { submissions := ?_
      begun := ?_
      launched := ?_
      contained := ?_
      copies := ?_
      running := ?_
      stopped := ?_
      oneFinish := ?_
      paid := ?_
      onePayout := kept.onePayout
      inUse := fun jobId gpuId owner => kept.inUse jobId gpuId (owns owner)
      oneOwner := fun first second gpuId firstOwns secondOwns =>
        kept.oneOwner first second gpuId (owns firstOwns) (owns secondOwns)
      owned := ?_
      oneJob := fun first second gpuId firstUses secondUses =>
        kept.oneJob first second gpuId (uses firstUses) (uses secondUses) }
  · intro otherId later jobId laterWaits submits
    obtain ⟨different, before⟩ := old laterWaits
    obtain ⟨own, absent⟩ := kept.submissions otherId later jobId before submits
    refine ⟨own, ?_⟩
    cases stored : (system.world.jobs.insertIfNew job).lookup jobId with
    | none => rfl
    | some row =>
      rcases earlier stored with ⟨here, _⟩ | found
      · exact absurd (own.symm.trans (here.trans ownCall)) different
      · rw [absent] at found
        cases found
  · intro jobId row stored fresh
    have unused := Calls.isFresh_of_resume fresh
    rcases earlier stored with ⟨rfl, _⟩ | before
    · rw [ownCall] at unused
      rw [unused.waitsFor] at waits
      cases waits
    · exact kept.begun jobId row before unused
  · intro otherId later other laterWaits records
    exact kept.launched otherId later other (old laterWaits).2 records
  · intro jobId row stored
    rcases earlier stored with ⟨rfl, rfl⟩ | before
    · exact has
    · exact kept.contained jobId row before
  · intro otherId later other laterWaits copy
    obtain ⟨row, found, same⟩ := kept.copies otherId later other (old laterWaits).2 copy
    exact ⟨row, still found, same⟩
  · intro jobId row stored running
    rcases earlier stored with ⟨_, rfl⟩ | before
    · exact status
    · exact kept.running jobId row before running
  · intro otherId later other laterWaits halts
    exact kept.stopped otherId later other (old laterWaits).2 halts
  · apply kept.oneFinish.resume waits
    intro later key following
    cases following
  · intro payout member
    obtain ⟨row, stored, stopped, unfinished⟩ := kept.paid payout member
    refine ⟨row, still stored, stopped, ?_⟩
    intro otherId later finished laterWaits
    exact unfinished otherId later finished (old laterWaits).2
  · intro gpuId gpu found inUse
    obtain ⟨jobId, owner⟩ := kept.owned gpuId gpu found inUse
    refine ⟨jobId, ?_⟩
    rcases owner.resumed_cases waits none with after | reserved | ⟨_, ⟨⟩, _⟩
    · cases after with
      | submission laterWaits reserved =>
        exact Owns.submission laterWaits reserved
      | job stored running own =>
        exact Owns.job (still stored) running own
      | completion laterWaits releases own ofGpu =>
        exact Owns.completion laterWaits releases own ofGpu
    · injection reserved with same
      injection same with sameJob sameGpu
      rw [← sameJob]
      exact Owns.job recorded runs sameGpu

theorem Kept.containerStopped (kept : Kept system)
    (waits : system.calls.waitsFor callId = some (.stopCompleted job))
    (runs : system.world.IsRunning job.containerId) :
    Kept
      { world := system.world.removeContainer job.containerId
        calls := system.calls.resume callId (some (.wipe job)) } := by
  obtain ⟨row, stored, container, gpu⟩ := kept.copies callId _ job waits rfl
  have has := kept.copyContainer ⟨row, stored, container, gpu⟩
  have removed : ¬ (system.world.removeContainer job.containerId).IsRunning
      job.containerId := by
    obtain ⟨old, found, _⟩ := has
    unfold World.IsRunning World.removeContainer
    rw [Serial.lookup_update_of_some Container.remove_id found]
    exact Bool.false_ne_true
  have others {containerId : Nat} (different : containerId ≠ job.containerId) :
      (system.world.removeContainer job.containerId).IsRunning containerId ↔
        system.world.IsRunning containerId :=
    isRunning_congr
      (Serial.lookup_update_of_ne system.world.containers Container.remove_id different)
  have before {containerId : Nat}
      (running : (system.world.removeContainer job.containerId).IsRunning containerId) :
      containerId ≠ job.containerId ∧ system.world.IsRunning containerId := by
    have different : containerId ≠ job.containerId := by
      intro same
      rw [same] at running
      exact removed running
    exact ⟨different, (others different).mp running⟩
  have contains {containerId jobId : Nat} (holds : HasContainer system.world containerId jobId) :
      HasContainer (system.world.removeContainer job.containerId) containerId jobId := by
    obtain ⟨old, found, own⟩ := holds
    by_cases here : containerId = job.containerId
    · subst here
      exact ⟨old.remove, Serial.lookup_update_of_some Container.remove_id found, own⟩
    · exact ⟨old, (Serial.lookup_update_of_ne system.world.containers
        Container.remove_id here).trans found, own⟩
  have sameJob {jobId : Nat} (holds : HasContainer system.world job.containerId jobId) :
      jobId = job.id := by
    obtain ⟨first, firstFound, firstOwn⟩ := holds
    obtain ⟨second, secondFound, secondOwn⟩ := has
    rw [firstFound] at secondFound
    injection secondFound with same
    rw [← firstOwn, same, secondOwn]
  have unfinished {otherId : Nat} {other : Pending} {finished : Job}
      (otherWaits : system.calls.waitsFor otherId = some other)
      (finishes : other.finishes = some finished) :
      finished.id ≠ job.id := by
    intro same
    have halts := halts_of_finishes finishes
    obtain ⟨otherRow, otherStored, otherContainer, _⟩ :=
      kept.copies otherId other finished otherWaits (copy_of_halts halts)
    rw [same, stored] at otherStored
    injection otherStored with sameRow
    apply kept.stopped otherId other finished otherWaits halts
    rw [← otherContainer, ← sameRow, container]
    exact runs
  have owns {jobId gpuId : Nat} (owner : Owns
      { world := system.world.removeContainer job.containerId
        calls := system.calls.resume callId (some (.wipe job)) }
      jobId gpuId) : Owns system jobId gpuId := by
    cases owner with
    | submission laterWaits reserved =>
      rcases Calls.waitsFor_resume_cases waits laterWaits with ⟨_, ⟨⟩⟩ | ⟨_, old⟩
      · cases reserved
      · exact Owns.submission old reserved
    | job laterStored running own =>
      exact Owns.job laterStored (before running).2 own
    | completion laterWaits releases own ofGpu =>
      rcases Calls.waitsFor_resume_cases waits laterWaits with ⟨_, ⟨⟩⟩ | ⟨_, old⟩
      · cases releases
        rw [← own, ← ofGpu]
        apply Owns.job stored
        · rw [container]
          exact runs
        · rw [gpu]
      · exact Owns.completion old releases own ofGpu
  have uses {jobId gpuId : Nat} (user : Uses
      { world := system.world.removeContainer job.containerId
        calls := system.calls.resume callId (some (.wipe job)) }
      jobId gpuId) : Uses system jobId gpuId := by
    rcases user with recorded | ⟨otherId, later, laterWaits, reserved⟩
    · exact Or.inl recorded
    · rcases Calls.waitsFor_resume_cases waits laterWaits with ⟨_, ⟨⟩⟩ | ⟨_, old⟩
      · cases reserved
      · exact Or.inr ⟨otherId, later, old, reserved⟩
  refine
    { submissions := ?_
      begun := ?_
      launched := ?_
      contained := fun jobId other found =>
        contains (kept.contained jobId other found)
      copies := ?_
      running := fun jobId other found running =>
        kept.running jobId other found (before running).2
      stopped := ?_
      oneFinish := ?_
      paid := ?_
      onePayout := kept.onePayout
      inUse := fun jobId gpuId owner => kept.inUse jobId gpuId (owns owner)
      oneOwner := fun first second gpuId firstOwns secondOwns =>
        kept.oneOwner first second gpuId (owns firstOwns) (owns secondOwns)
      owned := ?_
      oneJob := fun first second gpuId firstUses secondUses =>
        kept.oneJob first second gpuId (uses firstUses) (uses secondUses) }
  · intro otherId later jobId laterWaits submits
    rcases Calls.waitsFor_resume_cases waits laterWaits with ⟨_, ⟨⟩⟩ | ⟨_, old⟩
    · cases submits
    · exact kept.submissions otherId later jobId old submits
  · intro jobId other found fresh
    exact kept.begun jobId other found (Calls.isFresh_of_resume fresh)
  · intro otherId later other laterWaits records
    rcases Calls.waitsFor_resume_cases waits laterWaits with ⟨_, ⟨⟩⟩ | ⟨_, old⟩
    · cases records
    · obtain ⟨holds, running, status⟩ := kept.launched otherId later other old records
      refine ⟨contains holds, (others ?_).mpr running, status⟩
      intro here
      rw [here] at holds
      obtain ⟨_, missing⟩ := kept.submissions otherId later other.id old
        (submits_of_records records)
      rw [sameJob holds, stored] at missing
      cases missing
  · intro otherId later other laterWaits copy
    rcases Calls.waitsFor_resume_cases waits laterWaits with ⟨_, ⟨⟩⟩ | ⟨_, old⟩
    · cases copy
      exact ⟨row, stored, container, gpu⟩
    · exact kept.copies otherId later other old copy
  · intro otherId later other laterWaits halts running
    rcases Calls.waitsFor_resume_cases waits laterWaits with ⟨_, ⟨⟩⟩ | ⟨_, old⟩
    · cases halts
      exact removed running
    · exact kept.stopped otherId later other old halts (before running).2
  · apply kept.oneFinish.resume_alone waits
    intro later key following laterKey otherId other _ otherWaits otherKey
    cases following
    injection laterKey with sameKey
    obtain ⟨finished, finishes, own⟩ := Option.map_eq_some_iff.mp otherKey
    exact unfinished otherWaits finishes (own.trans sameKey.symm)
  · intro payout member
    obtain ⟨paid, found, still, others⟩ := kept.paid payout member
    refine ⟨paid, found, fun running => still (before running).2, ?_⟩
    intro otherId later finished laterWaits finishes
    rcases Calls.waitsFor_resume_cases waits laterWaits with ⟨_, ⟨⟩⟩ | ⟨_, old⟩
    · cases finishes
      intro here
      rw [← here, stored] at found
      injection found with sameRow
      rw [← sameRow, container] at still
      exact still runs
    · exact others otherId later finished old finishes
  · intro gpuId ofGpu found inUse
    obtain ⟨jobId, owner⟩ := kept.owned gpuId ofGpu found inUse
    refine ⟨jobId, ?_⟩
    rcases owner.resumed_cases waits (some (.wipe job)) with after | reserved | ⟨_, ⟨⟩, _⟩
    · cases after with
      | submission laterWaits reserved =>
        exact Owns.submission laterWaits reserved
      | @job other laterStored running own =>
        by_cases here : other.containerId = job.containerId
        · have holds := kept.contained jobId other laterStored
          rw [here] at holds
          have same := sameJob holds
          rw [same] at laterStored ⊢
          have sameRow := stored.symm.trans laterStored
          injection sameRow with sameRow
          rw [← sameRow, gpu] at own
          exact Owns.completion ((Calls.waitsFor_resume waits _ _).trans (if_pos rfl)) rfl rfl own
        · exact Owns.job laterStored ((others here).mpr running) own
      | completion laterWaits releases own own' =>
        exact Owns.completion laterWaits releases own own'
    · cases reserved

end Handed

end DcpPlatform.Pipeline
