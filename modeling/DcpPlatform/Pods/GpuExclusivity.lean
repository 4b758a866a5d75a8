import DcpPlatform.Pods.Conservation
import DcpPlatform.Pods.Scheduling

/-!
# GPUs of a machine are reserved once

Only a launch adds a pod to a machine; every other operation has the relation
`KeepsPlacement`. Four operations can place a pod without asking for free
GPUs; `Undisturbed` excludes them, and a launch that misses a pending pod on a
machine with one GPU.
-/

namespace DcpPlatform.Pods

open Foundation Table List

def PlacedOn (providerId : Nat) (job : Job) : Prop :=
  job.jobType.isPod ∧ job.status.isTerminal = false ∧ job.providerId = some providerId
deriving Decidable

def placedPods (db : Database) (providerId : Nat) : List Job :=
  db.jobs.select (PlacedOn providerId)

variable {db : Database} {providerId : Nat} {job : Job}

theorem mem_placedPods :
    job ∈ placedPods db providerId ↔ PlacedOn providerId job ∧ db.jobs.lookup job.id = some job :=
  mem_select_iff

/-- The pods on a provider with `gpuCount` GPUs share none of them. -/
structure GpuExclusive (db : Database) (providerId gpuCount : Nat) :
    Prop where
  disjoint : ∀ pod ∈ placedPods db providerId,
    ∀ other ∈ placedPods db providerId, pod.id ≠ other.id →
      ∀ index ∈ pod.gpuIndices, index ∉ other.gpuIndices
  bounded : ∀ pod ∈ placedPods db providerId, ∀ index ∈ pod.gpuIndices, index < gpuCount
  total : ((placedPods db providerId).map countedGpus).sum ≤ gpuCount

def Steady (job : Job) : Prop :=
  job.status ≠ .paused ∧ job.checkpointEnabled = false

theorem PlacedOn.holdsGpus (placed : PlacedOn providerId job) (unpaused : job.status ≠ .paused) :
    HoldsGpus job := by
  obtain ⟨pod, live, _⟩ := placed
  refine ⟨pod, ?_⟩
  cases status : job.status with
  | paused => exact absurd status unpaused
  | completed | failed | stopped | cancelled =>
    rw [status] at live
    cases live
  | pending | queued | assigned | provisioning | pulling | running =>
    decide

structure Allocated (db : Database) (providerId gpuTotal : Nat) :
    Prop where
  reserved : Reserved Job.id Job.gpuIndices gpuTotal (placedPods db providerId)
  steady : ∀ pod ∈ placedPods db providerId, Steady pod
  counted : 1 < gpuTotal → ∀ pod ∈ placedPods db providerId, pod.gpuIndices.length = countedGpus pod
  alone : gpuTotal = 1 → ∀ pod ∈ placedPods db providerId,
    countedGpus pod = 1 ∧ ∀ other ∈ placedPods db providerId, other.id = pod.id

private theorem sum_le_of_alone {pods : List Job} (nodup : (pods.map Job.id).Nodup)
    (alone : ∀ pod ∈ pods, countedGpus pod = 1 ∧ ∀ other ∈ pods, other.id = pod.id) :
    (pods.map countedGpus).sum ≤ 1 := by
  cases pods with
  | nil => decide
  | cons pod rest =>
    have head := alone pod mem_cons_self
    cases rest with
    | nil =>
      simp [head.1]
    | cons other tail =>
      have member : other ∈ pod :: other :: tail := by simp
      have same : other.id = pod.id := head.2 other member
      simp [same] at nodup

theorem Allocated.exclusive {providerId gpuTotal gpuCount : Nat}
    (allocated : Allocated db providerId gpuTotal)
    (positive : 1 ≤ gpuTotal) (within : gpuTotal ≤ gpuCount) :
    GpuExclusive db providerId gpuCount where
  disjoint := allocated.reserved.disjoint
  bounded := by
    intro pod member index held
    exact (allocated.reserved.bounded pod member index held).trans_le within
  total := by
    refine le_trans ?_ within
    have nodup : ((placedPods db providerId).map Job.id).Nodup :=
      select_nodup db.jobs (PlacedOn providerId)
    by_cases several : 1 < gpuTotal
    · have lengths := allocated.reserved.total_le nodup
      have same : (placedPods db providerId).map (·.gpuIndices.length) =
          (placedPods db providerId).map countedGpus :=
        map_congr_left (allocated.counted several)
      rw [same] at lengths
      exact lengths
    · have single : gpuTotal = 1 := by omega
      rw [single]
      exact sum_le_of_alone nodup (allocated.alone single)

variable {gpuTotal : Nat}

theorem Allocated.of_noPods (noPods : placedPods db providerId = []) :
    Allocated db providerId gpuTotal := by
  constructor
  · constructor
    all_goals simp [noPods]
  all_goals simp [noPods]

def Job.placement (job : Job) :
    JobType × Option Nat × List Nat × Nat × Bool :=
  (job.jobType, job.providerId, job.gpuIndices, job.gpuCount, job.checkpointEnabled)

structure StaysPlaced (providerId : Nat) (job changed : Job) : Prop where
  placed : PlacedOn providerId job
  indices : job.gpuIndices = changed.gpuIndices
  count : countedGpus job = countedGpus changed
  steady : Steady job → Steady changed

namespace StaysPlaced

variable {providerId : Nat}

theorem refl {job : Job} (placed : PlacedOn providerId job) : StaysPlaced providerId job job :=
  ⟨placed, rfl, rfl, id⟩

theorem trans {providerId : Nat} {first second third : Job}
    (earlier : StaysPlaced providerId first second)
    (later : StaysPlaced providerId second third) :
    StaysPlaced providerId first third where
  placed := earlier.placed
  indices := earlier.indices.trans later.indices
  count := earlier.count.trans later.count
  steady := later.steady ∘ earlier.steady

theorem of_live {job changed : Job} (live : job.status.isTerminal = false)
    (same : changed.placement = job.placement) (unpaused : changed.status ≠ .paused)
    (placed : PlacedOn providerId changed) :
    StaysPlaced providerId job changed := by
  simp only [Job.placement, Prod.mk.injEq] at same
  obtain ⟨jobType, provider, indices, count, checkpoint⟩ := same
  refine ⟨⟨?_, live, ?_⟩, indices.symm, ?_, ?_⟩
  · rw [← jobType]
    exact placed.1
  · rw [← provider]
    exact placed.2.2
  · simp [countedGpus, count]
  · intro steady
    exact ⟨unpaused, checkpoint.trans steady.2⟩

end StaysPlaced

def KeepsPlacement (providerId : Nat) (before after : Database) : Prop :=
  ∀ jobId changed, after.jobs.lookup jobId = some changed → PlacedOn providerId changed →
    ∃ job, before.jobs.lookup jobId = some job ∧ StaysPlaced providerId job changed

theorem Allocated.of_keepsPlacement {before after : Database}
    (keeps : KeepsPlacement providerId before after)
    (allocated : Allocated before providerId gpuTotal) :
    Allocated after providerId gpuTotal := by
  have inherited : ∀ pod ∈ placedPods after providerId, ∃ earlier ∈ placedPods before providerId,
      earlier.id = pod.id ∧ StaysPlaced providerId earlier pod := by
    intro pod member
    obtain ⟨placed, found⟩ := mem_placedPods.mp member
    obtain ⟨earlier, earlierFound, stays⟩ := keeps pod.id pod found placed
    have same := lookup_key earlierFound
    refine ⟨earlier, mem_placedPods.mpr ⟨stays.placed, ?_⟩, same, stays⟩
    rw [same]
    exact earlierFound
  constructor
  · apply allocated.reserved.inherit
    intro pod member
    obtain ⟨earlier, earlierMember, same, stays⟩ := inherited pod member
    exact ⟨earlier, earlierMember, same, stays.indices⟩
  · intro pod member
    obtain ⟨earlier, earlierMember, _, stays⟩ := inherited pod member
    exact stays.steady (allocated.steady earlier earlierMember)
  · intro several pod member
    obtain ⟨earlier, earlierMember, _, stays⟩ := inherited pod member
    have counted := allocated.counted several earlier earlierMember
    rw [stays.indices, stays.count] at counted
    exact counted
  · intro single pod member
    obtain ⟨earlier, earlierMember, same, stays⟩ := inherited pod member
    have alone := allocated.alone single earlier earlierMember
    refine ⟨stays.count.symm.trans alone.1, ?_⟩
    intro other otherMember
    obtain ⟨before, beforeMember, beforeSame, _⟩ := inherited other otherMember
    rw [← same, ← beforeSame]
    exact alone.2 before beforeMember

namespace KeepsPlacement

variable {providerId : Nat} {before after : Database}

theorem of_jobs (same : after.jobs = before.jobs) :
    KeepsPlacement providerId before after := by
  intro jobId changed found placed
  rw [same] at found
  exact ⟨changed, found, StaysPlaced.refl placed⟩

theorem refl (db : Database) : KeepsPlacement providerId db db :=
  of_jobs rfl

theorem trans {first second third : Database} (earlier : KeepsPlacement providerId first second)
    (later : KeepsPlacement providerId second third) :
    KeepsPlacement providerId first third := by
  intro jobId changed found placed
  obtain ⟨middle, middleFound, stays⟩ := later jobId changed found placed
  obtain ⟨job, jobFound, stayed⟩ := earlier jobId middle middleFound stays.placed
  exact ⟨job, jobFound, stayed.trans stays⟩

theorem of_update {db : Database} {target : Nat} {change : Job → Job}
    (keeps : ∀ row, (change row).id = row.id)
    (stays : ∀ job, db.jobs.lookup target = some job →
      PlacedOn providerId (change job) → StaysPlaced providerId job (change job)) :
    KeepsPlacement providerId db { db with jobs := db.jobs.update target change keeps } := by
  intro jobId changed found placed
  rcases lookup_of_lookup_update keeps found with ⟨same, job, jobFound, rewritten⟩ | ⟨_, untouched⟩
  · subst same rewritten
    exact ⟨job, jobFound, stays job jobFound placed⟩
  · exact ⟨changed, untouched, StaysPlaced.refl placed⟩

variable {change : Job → Job}

theorem of_updateWhere {db : Database} {target : Nat} {guard : Job → Prop} [DecidablePred guard]
    (keeps : ∀ row, (change row).id = row.id)
    (stays : ∀ job, db.jobs.lookup target = some job → guard job →
      PlacedOn providerId (change job) → StaysPlaced providerId job (change job)) :
    KeepsPlacement providerId db { db with
      jobs := db.jobs.updateWhere target guard change keeps } := by
  by_cases changes : db.jobs.changes target guard
  · obtain ⟨job, found, met⟩ := changes
    rw [updateWhere_of_met keeps found met]
    apply of_update
    intro other otherFound
    rw [found] at otherFound
    cases otherFound
    exact stays job found met
  · rw [updateWhere_of_unmet keeps changes]
    exact refl db

theorem of_map (rewrites : after.jobs.rows = before.jobs.rows.map change)
    (keeps : ∀ row, (change row).id = row.id)
    (stays : ∀ job, PlacedOn providerId (change job) → StaysPlaced providerId job (change job)) :
    KeepsPlacement providerId before after := by
  intro jobId changed found placed
  rw [lookup_of_rows_eq_map keeps rewrites] at found
  obtain ⟨job, jobFound, rfl⟩ := Option.map_eq_some_iff.mp found
  exact ⟨job, jobFound, stays job placed⟩

theorem of_settling {job : Job} (settling : Settling before job after) :
    KeepsPlacement providerId before after := by
  have ended {row closed : Job} {payments : List Payment}
      (closing : Closing before after job.id row closed payments) :
      KeepsPlacement providerId before after := by
    intro jobId changed found placed
    by_cases same : jobId = job.id
    · subst same
      rw [closing.stored] at found
      cases found
      have live := placed.2.1
      rw [closing.ended] at live
      cases live
    · rw [closing.others jobId same] at found
      exact ⟨changed, found, StaysPlaced.refl placed⟩
  cases settling with
  | untouched => exact refl before
  | charged closing _ _ | returned closing _ _ => exact ended closing

theorem sweepClosed (providerId : Nat) :
    SweepClosed (KeepsPlacement providerId) where
  reflexive := refl
  transitive := trans
  settling := fun _ settling _ => of_settling settling
  promoted := by
    intro db job now found queued
    apply of_update
    intro row rowFound
    rw [found] at rowFound
    cases rowFound
    apply StaysPlaced.of_live
    · rw [queued]
      rfl
    · rfl
    · exact JobStatus.noConfusion

end KeepsPlacement

theorem Allocated.place {db after : Database} {row : Job}
    (allocated : Allocated db providerId gpuTotal)
    (positive : 1 ≤ gpuTotal) (fresh : db.jobs.lookup row.id = none)
    (inserted : after.jobs = db.jobs.insert row fresh)
    (placedRow : PlacedOn providerId row) (steady : Steady row)
    (several : 1 < gpuTotal → row.gpuIndices.length = countedGpus row ∧ row.gpuIndices.Nodup ∧
      ∀ index ∈ row.gpuIndices, index < gpuTotal ∧ index ∉ usedIndices db providerId)
    (single :
      gpuTotal = 1 → countedGpus row = 1 ∧ row.gpuIndices = [] ∧ placedPods db providerId = []) :
    Allocated after providerId gpuTotal := by
  have grown : placedPods after providerId = placedPods db providerId ++ [row] := by
    unfold placedPods
    rw [inserted, select_insert, if_pos placedRow]
  have unused : ∀ other ∈ placedPods db providerId,
      ∀ index ∈ other.gpuIndices, index ∈ usedIndices db providerId := by
    intro other member index held
    obtain ⟨placed, found⟩ := mem_placedPods.mp member
    have holds := placed.holdsGpus (allocated.steady other member).1
    exact mem_flatMap.mpr ⟨other, mem_select_iff.mpr ⟨⟨placed.2.2, holds⟩, found⟩, held⟩
  have indices : row.gpuIndices.Nodup ∧
      ∀ index ∈ row.gpuIndices, index < gpuTotal ∧ index ∉ usedIndices db providerId := by
    by_cases many : 1 < gpuTotal
    · exact (several many).2
    · have none_ := (single (by omega)).2.1
      simp [none_]
  constructor
  · rw [grown]
    apply allocated.reserved.concat indices.1
    · intro index member
      exact (indices.2 index member).1
    · intro other otherMember index member held
      exact (indices.2 index member).2 (unused other otherMember index held)
  · intro pod member
    rw [grown] at member
    rcases mem_append.mp member with old | new
    · exact allocated.steady pod old
    · rw [mem_singleton.mp new]
      exact steady
  · intro many pod member
    rw [grown] at member
    rcases mem_append.mp member with old | new
    · exact allocated.counted many pod old
    · rw [mem_singleton.mp new]
      exact (several many).1
  · intro one pod member
    obtain ⟨counted, _, empty⟩ := single one
    rw [grown, empty, nil_append] at member ⊢
    rw [mem_singleton.mp member]
    refine ⟨counted, ?_⟩
    intro other otherMember
    rw [mem_singleton.mp otherMember]

theorem countedGpus_of_pos (positive : 1 ≤ job.gpuCount) :
    countedGpus job = job.gpuCount := by
  rw [countedGpus, if_neg (by omega)]

variable {provider : Provider}

theorem placedPods_eq_nil_of_freeGpus (single : resolvePodGpuCount (some provider) = 1)
    (free : 1 ≤ freeGpus db provider)
    (steady : ∀ pod ∈ placedPods db provider.id, Steady pod) :
    placedPods db provider.id = [] := by
  have gpuCount : max 1 provider.gpuCount = 1 := by
    simp only [resolvePodGpuCount] at single
    split at single <;> omega
  apply eq_nil_iff_forall_not_mem.mpr
  intro pod member
  obtain ⟨placed, found⟩ := mem_placedPods.mp member
  have holds := placed.holdsGpus (steady pod member).1
  have counted : 1 ≤ countedGpus pod := by
    unfold countedGpus
    split
    · exact le_refl 1
    · omega
  have summed : countedGpus pod ≤ ((db.jobs.select (fun job =>
      job.providerId = some provider.id ∧ HoldsGpus job)).map countedGpus).sum := by
    apply single_le_sum (by simp)
    apply mem_map_of_mem
    exact mem_select_iff.mpr ⟨⟨placed.2.2, holds⟩, found⟩
  unfold freeGpus at free
  omega

def NoticesPods (db : Database) (request : LaunchRequest) (now : Int)
    (creditAllowed : Bool) : Prop :=
  request.choice.byGpuType = false → ∀ plan ∈ (planLaunch db request now creditAllowed).toOption,
    plan.provider.isBurst = false → resolvePodGpuCount (some plan.provider) = 1 →
      ∀ pod ∈ placedPods db plan.provider.id, OccupiesProvider pod
deriving Decidable

variable {request : LaunchRequest} {now : Int} {creditAllowed : Bool} {plan : LaunchPlan}

theorem placedPods_eq_nil_of_planned (planned : planLaunch db request now creditAllowed = .ok plan)
    (notices : NoticesPods db request now creditAllowed)
    (native : plan.provider.isBurst = false)
    (single : resolvePodGpuCount (some plan.provider) = 1)
    (steady : ∀ pod ∈ placedPods db plan.provider.id, Steady pod) :
    placedPods db plan.provider.id = [] := by
  have resolved := resolveProvider_eq_ok (planLaunch_eq_ok planned).1
  cases byType : request.choice.byGpuType with
  | true =>
    rw [byType, if_pos rfl] at resolved
    have fits : max 1 (requestedGpuCount request) ≤ freeGpus db plan.provider := by
      rcases resolved.2 with burst | fits
      · rw [native] at burst
        cases burst
      · exact fits
    apply placedPods_eq_nil_of_freeGpus single _ steady
    omega
  | false =>
    rw [byType] at resolved
    have available : NativeAvailable db now plan.provider := by
      rcases resolved.2 with burst | available
      · have isBurst := burst.1
        rw [native] at isBurst
        cases isBurst
      · exact available
    have idle := available.2.2.2.2.2.2.2.2
    apply eq_nil_iff_forall_not_mem.mpr
    intro pod member
    obtain ⟨placed, found⟩ := mem_placedPods.mp member
    have occupies := notices byType plan (by rw [planned]; rfl) native single pod member
    exact idle pod (lookup_mem found) placed.2.2 occupies

def HasMachine (db : Database) (provider : Provider) : Prop :=
  ∃ stored, db.providers.lookup provider.id = some stored ∧ stored.machine = provider.machine

theorem resolvePodGpuCount_of_machine {provider other : Provider}
    (same : provider.machine = other.machine) :
    resolvePodGpuCount (some provider) = resolvePodGpuCount (some other) := by
  simp only [Provider.machine, Prod.mk.injEq] at same
  simp [resolvePodGpuCount, same.2]

theorem landed_allocated {db debited : Database}
    (planned : planLaunch db request now creditAllowed = .ok plan)
    (taken : debitQuote db request plan.quoteHalala = some debited)
    (fresh : debited.jobs.lookup (podRow request plan now).id = none)
    (notices : NoticesPods db request now creditAllowed)
    (machine : HasMachine db provider) (native : provider.isBurst = false)
    (allocated : Allocated db provider.id (resolvePodGpuCount (some provider))) :
    Allocated { debited with
      jobs := debited.jobs.insert (podRow request plan now) fresh }
      provider.id (resolvePodGpuCount (some provider)) := by
  have jobs := (debitQuote_eq_some (planLaunch_quote_nonneg planned) taken).1
  have freshBefore : db.jobs.lookup (podRow request plan now).id = none := by
    rw [← jobs]
    exact fresh
  have inserted : debited.jobs.insert (podRow request plan now) fresh =
      db.jobs.insert (podRow request plan now) freshBefore := by
    simp [jobs]
  by_cases here : plan.provider.id = provider.id
  · obtain ⟨resolved, reserved, _⟩ := planLaunch_eq_ok planned
    obtain ⟨stored, found, same⟩ := machine
    have storedPlan := (resolveProvider_eq_ok resolved).1
    rw [here, found] at storedPlan
    cases storedPlan
    have gpus := resolvePodGpuCount_of_machine same
    have planNative : plan.provider.isBurst = false := by
      simp only [Provider.machine, Prod.mk.injEq] at same
      exact same.1.trans native
    rw [← here, ← gpus] at allocated ⊢
    obtain ⟨several, single⟩ :=
      allocateGpus_eq_ok planNative (requestedGpuCount_pos request) reserved
    have placedRow : PlacedOn plan.provider.id (podRow request plan now) := by
      refine ⟨?_, ?_, rfl⟩
      · simp only [podRow]
        split <;> rfl
      · simp only [podRow, planNative]
        rfl
    refine allocated.place (resolvePodGpuCount_pos _) freshBefore inserted placedRow ?_ ?_ ?_
    · refine ⟨?_, rfl⟩
      simp [podRow, planNative]
    · intro many
      obtain ⟨positive, length, sublist⟩ := several many
      refine ⟨?_, sublist.nodup (freeBelow_nodup _ _), ?_⟩
      · rw [countedGpus_of_pos positive]
        exact length
      · intro index member
        exact mem_freeBelow (sublist.subset member)
    · intro one
      obtain ⟨count, indices⟩ := single one
      refine ⟨?_, indices,
        placedPods_eq_nil_of_planned planned notices planNative one allocated.steady⟩
      simp [countedGpus, podRow, count]
  · apply allocated.of_keepsPlacement
    intro jobId changed found placed
    rw [inserted, lookup_insert] at found
    by_cases same : (podRow request plan now).id = jobId
    · rw [if_pos same] at found
      cases found
      have elsewhere := placed.2.2
      simp only [podRow, Option.some.injEq] at elsewhere
      exact absurd elsewhere here
    · rw [if_neg same] at found
      exact ⟨changed, found, StaysPlaced.refl placed⟩

theorem launchPodCore_allocated {outlook : LaunchOutlook}
    (notices : NoticesPods db request now outlook.creditAllowed)
    (machine : HasMachine db provider) (native : provider.isBurst = false)
    (allocated : Allocated db provider.id (resolvePodGpuCount (some provider))) :
    Allocated (launchPodCore db request now outlook).1 provider.id
      (resolvePodGpuCount (some provider)) := by
  have effect := launchPodCore_effect db request now outlook
  generalize (launchPodCore db request now outlook).1 = after at effect ⊢
  cases effect with
  | refused =>
    exact allocated
  | compensated planned taken =>
    have nonneg := planLaunch_quote_nonneg planned
    apply allocated.of_keepsPlacement
    apply KeepsPlacement.of_jobs
    rw [(refundQuote_effect _ request nonneg).1, (debitQuote_eq_some nonneg taken).1]
  | landed planned taken =>
    exact landed_allocated planned taken _ notices machine native allocated
  | @unspawned plan debited fresh planned taken =>
    have landed := landed_allocated planned taken fresh notices machine native allocated
    apply landed.of_keepsPlacement
    rcases failBurstJobAndRefund_settling _ request.jobId plan.quoteHalala request.renterId now with
      same | ⟨row, _, settling⟩
    · rw [same]
      exact KeepsPlacement.refl _
    · exact KeepsPlacement.of_settling settling

namespace HasMachine

variable {before after : Database} {provider : Provider}

theorem of_accounted (accounted : Accounted before after)
    (machine : HasMachine before provider) : HasMachine after provider := by
  obtain ⟨stored, found, same⟩ := machine
  obtain ⟨later, laterFound, kept, _⟩ := accounted.providers provider.id stored found
  exact ⟨later, laterFound, kept.trans same⟩

theorem of_providers (same : after.providers = before.providers)
    (machine : HasMachine before provider) : HasMachine after provider := by
  rw [HasMachine, same]
  exact machine

theorem of_map {change : Provider → Provider}
    (rewrites : after.providers.rows = before.providers.rows.map change)
    (keeps : ∀ row, (change row).id = row.id)
    (kept : ∀ row, (change row).machine = row.machine)
    (machine : HasMachine before provider) : HasMachine after provider := by
  obtain ⟨stored, found, same⟩ := machine
  refine ⟨change stored, ?_, (kept stored).trans same⟩
  rw [lookup_of_rows_eq_map keeps rewrites, found, Option.map_some]

end HasMachine

/-! ## One step -/

def IsReleasedPod (job : Job) : Prop :=
  job.jobType.isPod ∧ job.providerId = none
deriving Decidable

def IsFailedPod (job : Job) : Prop :=
  job.jobType.isPod ∧ HasFailed job
deriving Decidable

def IsRecoverablePod (db : Database) (job : Job) : Prop :=
  job.jobType.isPod ∧ Recoverable db job
deriving Decidable

def IsEndedPod (job : Job) : Prop :=
  job.jobType.isPod ∧ HasEnded job
deriving Decidable

/-- No pod is placed without a reservation: released, failed and ended pods
stay so, no pod is migrated, and launches notice the pods of a machine with
one GPU. -/
def Undisturbed (db : Database) : SchedulerAction → Prop
  | .launch request now outlook =>
    NoticesPods db request now outlook.creditAllowed
  | .pickUp _ jobId _ => ¬ db.jobs.changes jobId IsReleasedPod
  | .endpointReady _ jobId _ _ _ => ¬ db.jobs.changes jobId IsEndedPod
  | .serveReady _ jobId _ => ¬ db.jobs.changes jobId IsEndedPod
  | .reportProgress _ jobId _ _ => ¬ db.jobs.changes jobId IsEndedPod
  | .migrateJob jobId _ => ¬ db.jobs.changes jobId (IsRecoverablePod db)
  | .requeueFailed jobId _ => ¬ db.jobs.changes jobId IsFailedPod
  | _ => True

instance (db : Database) (action : SchedulerAction) :
    Decidable (Undisturbed db action) := by
  cases action
  all_goals
    unfold Undisturbed
    infer_instance

def nextSchedule (db : Database) (action : SchedulerAction) :
    Option Database :=
  some (schedule db action)

theorem live_of_not_endedPod {jobId : Nat} (unended : ¬ db.jobs.changes jobId IsEndedPod)
    (found : db.jobs.lookup jobId = some job) (pod : job.jobType.isPod) :
    job.status.isTerminal = false := by
  cases status : job.status.isTerminal with
  | false => rfl
  | true => exact absurd ⟨job, found, pod, status⟩ unended

namespace KeepsPlacement

variable {providerId : Nat} {db : Database} {target jobId : Nat} {now : Int}

theorem of_pickUpJob (claimed : ¬ db.jobs.changes jobId IsReleasedPod) :
    KeepsPlacement providerId db (pickUpJob db target jobId now) := by
  apply of_updateWhere
  intro job found pickable placed
  have assigned : job.providerId = some target := by
    rcases pickable.2.2 with pinned | released
    · exact pinned
    · exact absurd ⟨job, found, placed.1, released⟩ claimed
  apply StaysPlaced.of_live pickable.1.live
  · simp [Job.placement, Job.setPickedUp, assigned]
  · exact JobStatus.noConfusion
  · exact placed

theorem of_fetchAndAssignNextJob (db : Database) (target : Nat) (now : Int) :
    KeepsPlacement providerId db (fetchAndAssignNextJob db target now) := by
  unfold fetchAndAssignNextJob
  dsimp only
  split
  · exact refl db
  · rename_i job first
    obtain ⟨selected, found⟩ := mem_select (firstBy_mem first)
    apply of_update
    intro row rowFound
    rw [found] at rowFound
    cases rowFound
    apply StaysPlaced.of_live selected.2.1.live
    · rfl
    · exact JobStatus.noConfusion

theorem of_endpointReady {target jobId port : Nat} {accessUrl : String}
    (unended : ¬ db.jobs.changes jobId IsEndedPod) :
    KeepsPlacement providerId db (endpointReady db target jobId port accessUrl now) := by
  apply of_updateWhere
  intro job found _ placed
  apply StaysPlaced.of_live (live_of_not_endedPod unended found placed.1)
  · rfl
  · exact JobStatus.noConfusion
  · exact placed

theorem of_serveReady (unended : ¬ db.jobs.changes jobId IsEndedPod) :
    KeepsPlacement providerId db (serveReady db target jobId now) := by
  apply of_updateWhere
  intro job found _ placed
  apply StaysPlaced.of_live (live_of_not_endedPod unended found placed.1)
  · rfl
  · exact JobStatus.noConfusion
  · exact placed

theorem of_reportProgress {pulling : Bool} (unended : ¬ db.jobs.changes jobId IsEndedPod) :
    KeepsPlacement providerId db (reportProgress db target jobId pulling now) := by
  unfold reportProgress
  split
  · exact refl db
  · rename_i job found
    split
    · rename_i reported
      apply of_update
      intro row rowFound placed
      rw [found] at rowFound
      cases rowFound
      apply StaysPlaced.of_live (live_of_not_endedPod unended found placed.1)
      · rfl
      · rcases reported.2 with pulls | status | status
        · simp [Job.setProgress, progressStatus, pulls]
        all_goals
          simp only [Job.setProgress, progressStatus, status]
          split <;> decide
      · exact placed
    · exact refl db

theorem of_burstJobSuccess (db : Database) (jobId : Nat)
    (accessUrl : String) (durationSeconds : Nat) (now : Int) :
    KeepsPlacement providerId db (burstJobSuccess db jobId accessUrl durationSeconds now) := by
  apply of_updateWhere
  intro job _ starting placed
  apply StaysPlaced.of_live starting.live
  · rfl
  · exact JobStatus.noConfusion
  · exact placed

theorem of_burstJobFail (db : Database) (jobId : Nat) (now : Int) :
    KeepsPlacement providerId db (burstJobFail db jobId now) := by
  rcases burstJobFail_settling db jobId now with same | ⟨job, _, settling⟩
  · rw [same]
    exact refl db
  · exact of_settling settling

theorem of_promoteNextQueuedJob (db : Database) (target : Option Nat) (now : Int) :
    KeepsPlacement providerId db (promoteNextQueuedJob db target now) := by
  rcases promoteNextQueuedJob_cases db target now with same | ⟨job, found, queued, promoted⟩
  · rw [same]
    exact refl db
  · rw [promoted]
    exact (sweepClosed providerId).promoted now found queued

theorem of_releaseJobs (db : Database) (stale : Provider → Prop)
    [DecidablePred stale] (statuses : List JobStatus)
    (released : JobStatus) (retries : Nat) :
    KeepsPlacement providerId db (releaseJobs db stale statuses released retries) := by
  refine of_map rfl ?_ ?_
  · intro job
    split <;> rfl
  intro job placed
  split at placed
  · cases placed.2.2
  · rename_i kept
    rw [if_neg kept]
    exact StaysPlaced.refl placed

theorem of_migrateJob (unmoved : ¬ db.jobs.changes jobId (IsRecoverablePod db)) :
    KeepsPlacement providerId db (migrateJob db jobId now) := by
  unfold migrateJob
  split
  · exact refl db
  · rename_i job found
    split
    · rename_i recoverable
      split
      · exact refl db
      · apply of_update
        intro row rowFound placed
        rw [found] at rowFound
        cases rowFound
        exact absurd ⟨job, found, placed.1, recoverable⟩ unmoved
    · exact refl db

theorem of_retrySweep (db : Database) (now : Int) :
    KeepsPlacement providerId db (retrySweep db now) := by
  refine of_map rfl ?_ ?_
  · intro job
    unfold updateJobForRetry
    split
    · split <;> rfl
    · rfl
  intro job placed
  split at placed
  · unfold updateJobForRetry at placed
    split at placed
    · cases placed.2.2
    · cases placed.2.1
  · rename_i kept
    rw [if_neg kept]
    exact StaysPlaced.refl placed

theorem of_retryTransient (db : Database) (target jobId : Nat) (now : Int) :
    KeepsPlacement providerId db (retryTransient db target jobId now) := by
  apply of_updateWhere
  intro job _ transient placed
  have live : job.status.isTerminal = false := by
    rcases transient.2.1 with status | status | status
    all_goals
      rw [status]
      rfl
  apply StaysPlaced.of_live live
  · rfl
  · exact JobStatus.noConfusion
  · exact placed

theorem of_requeueFailed (kept : ¬ db.jobs.changes jobId IsFailedPod) :
    KeepsPlacement providerId db (requeueFailed db jobId now) := by
  apply of_updateWhere
  intro job found failed placed
  exact absurd ⟨job, found, placed.1, failed⟩ kept

theorem of_pauseJob (db : Database) (jobId : Nat) :
    KeepsPlacement providerId db (pauseJob db jobId) := by
  apply of_updateWhere
  intro job _ pausable placed
  have live : job.status.isTerminal = false := by
    rcases pausable.1 with status | status | status
    all_goals
      rw [status]
      rfl
  refine ⟨⟨placed.1, live, placed.2.2⟩, rfl, rfl, ?_⟩
  intro steady
  have disabled := steady.2
  rw [pausable.2] at disabled
  cases disabled

theorem of_resumeJob (db : Database) (jobId : Nat) :
    KeepsPlacement providerId db (resumeJob db jobId) := by
  apply of_updateWhere
  intro job _ paused placed
  have live : job.status.isTerminal = false := by
    rw [paused]
    rfl
  apply StaysPlaced.of_live live
  · rfl
  · exact JobStatus.noConfusion
  · exact placed

end KeepsPlacement

theorem schedule_hasMachine (action : SchedulerAction) (machine : HasMachine db provider) :
    HasMachine (schedule db action) provider := by
  have released (stale : Provider → Prop) [DecidablePred stale]
      (statuses : List JobStatus) (status : JobStatus) (retries : Nat) :
      HasMachine (releaseJobs db stale statuses status retries)
        provider := by
    refine machine.of_map rfl ?_ ?_
    all_goals
      intro row
      split <;> rfl
  cases action with
  | launch request now outlook =>
    exact machine.of_accounted (launchPodCore_accounted _ _ _ _)
  | burstFail jobId now =>
    exact machine.of_accounted (burstJobFail_accounted _ _ _)
  | stop jobId now =>
    simp only [schedule]
    split
    · exact machine.of_accounted (stopPodCore_accounted _ _ _)
    · exact machine
  | settleExpiredPods now =>
    exact machine.of_accounted (accounted_sweepClosed.settleExpiredPods db now)
  | enforceJobTimeouts now =>
    exact machine.of_accounted (accounted_sweepClosed.enforceJobTimeouts db now)
  | sweepOfflineProviders now | livenessSweep staleThresholdSec now | sweepStale now =>
    exact released _ _ _ _
  | detectDisconnected now =>
    refine machine.of_map rfl ?_ ?_
    all_goals
      intro row
      split <;> rfl
  | heartbeat providerId now =>
    obtain ⟨stored, found, same⟩ := machine
    by_cases here : provider.id = providerId
    · subst here
      exact ⟨stored.setHeartbeat now,
        lookup_update_of_some _ _ (Provider.setHeartbeat_id now) found, same⟩
    · exact ⟨stored, (lookup_update_of_ne _ (Provider.setHeartbeat_id now) here).trans found, same⟩
  | promoteNextQueuedJob providerId now =>
    simp only [schedule]
    rcases promoteNextQueuedJob_cases db (some providerId) now with same | ⟨job, _, _, promoted⟩
    · rw [same]
      exact machine
    · rw [promoted]
      exact machine
  | reportProgress providerId jobId pulling now =>
    simp only [schedule, reportProgress]
    split
    · exact machine
    · split <;> exact machine
  | migrateJob jobId now =>
    simp only [schedule, migrateJob]
    split
    · exact machine
    · split
      · split <;> exact machine
      · exact machine
  | fetchAndAssign providerId now =>
    simp only [schedule, fetchAndAssignNextJob]
    split <;> exact machine
  | pickUp _ _ _ | endpointReady _ _ _ _ _ | serveReady _ _ _
  | burstSuccess _ _ _ _ | retrySweep _ | retryTransient _ _ _
  | requeueFailed _ _ | pause _ | resume _ =>
    exact machine.of_providers rfl

variable {action : SchedulerAction}

theorem schedule_keepsPlacement (providerId : Nat) (undisturbed : Undisturbed db action)
    (settled : ∀ request now outlook, action ≠ .launch request now outlook) :
    KeepsPlacement providerId db (schedule db action) := by
  cases action with
  | launch request now outlook => exact absurd rfl (settled _ _ _)
  | pickUp target jobId now =>
    exact KeepsPlacement.of_pickUpJob undisturbed
  | fetchAndAssign target now =>
    exact KeepsPlacement.of_fetchAndAssignNextJob db target now
  | endpointReady target jobId port accessUrl now =>
    exact KeepsPlacement.of_endpointReady undisturbed
  | serveReady target jobId now =>
    exact KeepsPlacement.of_serveReady undisturbed
  | reportProgress target jobId pulling now =>
    exact KeepsPlacement.of_reportProgress undisturbed
  | burstSuccess jobId accessUrl durationSeconds now =>
    exact KeepsPlacement.of_burstJobSuccess db jobId accessUrl durationSeconds now
  | burstFail jobId now =>
    exact KeepsPlacement.of_burstJobFail db jobId now
  | stop jobId now =>
    simp only [schedule]
    split
    · rename_i job found
      have rowId := lookup_key found
      subst rowId
      exact KeepsPlacement.of_settling (stopPodCore_settling now found)
    · exact KeepsPlacement.refl db
  | settleExpiredPods now =>
    exact (KeepsPlacement.sweepClosed providerId).settleExpiredPods db now
  | enforceJobTimeouts now =>
    exact (KeepsPlacement.sweepClosed providerId).enforceJobTimeouts db now
  | promoteNextQueuedJob target now =>
    exact KeepsPlacement.of_promoteNextQueuedJob db (some target) now
  | sweepOfflineProviders now | livenessSweep staleThresholdSec now =>
    exact KeepsPlacement.of_releaseJobs db _ _ _ _
  | sweepStale now => exact KeepsPlacement.of_releaseJobs db _ _ _ _
  | detectDisconnected now | heartbeat target now => exact KeepsPlacement.of_jobs rfl
  | migrateJob jobId now => exact KeepsPlacement.of_migrateJob undisturbed
  | retrySweep now => exact KeepsPlacement.of_retrySweep db now
  | retryTransient target jobId now =>
    exact KeepsPlacement.of_retryTransient db target jobId now
  | requeueFailed jobId now =>
    exact KeepsPlacement.of_requeueFailed undisturbed
  | pause jobId => exact KeepsPlacement.of_pauseJob db jobId
  | resume jobId => exact KeepsPlacement.of_resumeJob db jobId

theorem schedule_allocated (undisturbed : Undisturbed db action)
    (machine : HasMachine db provider) (native : provider.isBurst = false)
    (allocated : Allocated db provider.id (resolvePodGpuCount (some provider))) :
    Allocated (schedule db action) provider.id (resolvePodGpuCount (some provider)) := by
  by_cases launches : ∃ request now outlook, action = .launch request now outlook
  · obtain ⟨request, now, outlook, rfl⟩ := launches
    exact launchPodCore_allocated undisturbed machine native allocated
  · apply allocated.of_keepsPlacement
    apply schedule_keepsPlacement provider.id undisturbed
    intro request now outlook launched
    exact launches ⟨request, now, outlook, launched⟩

theorem placedPods_eq_nil (noPods : ∀ job ∈ db.jobs.rows, job.jobType.isPod = false)
    (providerId : Nat) : placedPods db providerId = [] := by
  apply eq_nil_iff_forall_not_mem.mpr
  intro pod member
  obtain ⟨placed, found⟩ := mem_placedPods.mp member
  have isPod := placed.1
  rw [noPods pod (lookup_mem found)] at isPod
  cases isPod

/-- From a database without pods, an undisturbed run leaves the pods of every
machine on distinct GPUs of it. -/
theorem gpu_exclusive {start finish : Database} {actions : List SchedulerAction}
    (noPods : ∀ job ∈ start.jobs.rows, job.jobType.isPod = false)
    (run : Run (guarded (Fires nextSchedule) Undisturbed) start actions finish)
    {provider : Provider} (machine : HasMachine start provider)
    (native : provider.isBurst = false) :
    HasMachine finish provider ∧ GpuExclusive finish provider.id (max 1 provider.gpuCount) := by
  have initially : HasMachine start provider ∧
      Allocated start provider.id (resolvePodGpuCount (some provider)) :=
    ⟨machine, Allocated.of_noPods (placedPods_eq_nil noPods _)⟩
  obtain ⟨kept, allocated⟩ := run.invariant (fun db =>
      HasMachine db provider ∧ Allocated db provider.id (resolvePodGpuCount (some provider)))
      (by
        rintro before after action ⟨machine, allocated⟩ ⟨undisturbed, step⟩
        cases step
        exact ⟨schedule_hasMachine action machine,
          schedule_allocated undisturbed machine native allocated⟩)
      initially
  refine ⟨kept, ?_⟩
  apply allocated.exclusive (resolvePodGpuCount_pos _)
  unfold resolvePodGpuCount
  dsimp only
  split <;> omega

def sampleMachines : Database :=
  { jobs := Table.empty
    providers := ⟨[{ sampleProvider with gpuCount := 2 },
        { sampleProvider with id := 3, gpuCount := 2 },
        { sampleProvider with
          id := 4, isBurst := true, burstGpuTypeId := some "A40" }],
        by decide⟩
    renters := ⟨[sampleRenter.addBalance 90000], by decide⟩
    journal := [] }

def sampleLaunch (jobId : Nat) (choice : ProviderChoice) :
    SchedulerAction :=
  .launch ⟨jobId, 2, choice, none, none, false⟩ 0 ⟨true, true, true, true⟩

theorem gpu_exclusive_sample :
    ∃ finish, Run (guarded (Fires nextSchedule) Undisturbed) sampleMachines
      [sampleLaunch 5 (.pinned 1), .pickUp 1 5 1000, sampleLaunch 6 (.gpuType [1])] finish ∧
        (placedPods finish 1).map Job.gpuIndices = [[0], [1]] ∧
        GpuExclusive finish 1 2 := by
  refine exists_guarded_run (fun finish => (placedPods finish 1).map Job.gpuIndices = [[0], [1]])
    (by decide +kernel) ?_
  intro finish run placed
  have exclusive := @gpu_exclusive sampleMachines finish _ (by decide) run
      { sampleProvider with gpuCount := 2 } ⟨_, rfl, rfl⟩ rfl
  exact ⟨placed, exclusive.2⟩

/-- The pod that loses its machine keeps its GPU indices and takes them to the
machine that picks it up, where another pod holds them. External capacity is
launched onto without looking at its GPUs. -/
theorem gpu_shared :
    (∃ finish, Run (Fires nextSchedule) sampleMachines
      [sampleLaunch 5 (.pinned 1), sampleLaunch 6 (.pinned 3),
        .pickUp 1 5 1000, .pickUp 3 6 1000, .heartbeat 3 399000,
        .sweepOfflineProviders 400000, .pickUp 3 5 401000] finish ∧
        ¬ GpuExclusive finish 3 2) ∧
      ∃ finish, Run (Fires nextSchedule) sampleMachines
        [sampleLaunch 5 (.pinned 4), sampleLaunch 6 (.pinned 4)]
        finish ∧ ¬ GpuExclusive finish 4 1 := by
  constructor
  · obtain ⟨finish, executed, pod, placed, other, otherPlaced, different, index, held, shared⟩ :
        ∃ finish, execute nextSchedule sampleMachines
          [sampleLaunch 5 (.pinned 1), sampleLaunch 6 (.pinned 3),
            .pickUp 1 5 1000, .pickUp 3 6 1000, .heartbeat 3 399000,
            .sweepOfflineProviders 400000, .pickUp 3 5 401000] =
          some finish ∧ ∃ pod ∈ placedPods finish 3, ∃ other ∈ placedPods finish 3,
              pod.id ≠ other.id ∧ ∃ index ∈ pod.gpuIndices, index ∈ other.gpuIndices :=
      exists_of_execute_any (by decide +kernel)
    refine ⟨finish, run_of_execute executed, ?_⟩
    intro exclusive
    exact exclusive.disjoint pod placed other otherPlaced different index held shared
  · refine exists_run (fun finish => 1 < ((placedPods finish 4).map countedGpus).sum)
      (by decide +kernel) ?_
    intro finish _ more exclusive
    exact absurd exclusive.total (by omega)

end DcpPlatform.Pods
