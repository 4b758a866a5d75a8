import DcpPlatform.Checkpoints.Manager

/-!
# The latest save

When the checkpoint manager loads the document that was saved last, and when
its saves leave earlier ones alone.
-/

namespace DcpPlatform.Checkpoints

open Foundation List

section Calls

variable {Value : Type} (text : String → Value) (local_base_path job_id : List Char)

theorem append_ts_le_iff (front back : List Char) (now later : Moment) :
    front ++ (ts now ++ back) ≤ front ++ (ts later ++ back) ↔
      now.wholeSecond ≤ later.wholeSecond := by
  have sameLength : (ts later).length = (ts now).length := by
    rw [length_ts, length_ts]
  rw [← not_lt, ← not_lt, append_left_lt_append_left_iff,
    append_right_lt_append_right_iff sameLength, ts_lt_iff]

variable (now later : Moment)

theorem s3Key_le_iff :
    s3Key job_id now ≤ s3Key job_id later ↔ now.wholeSecond ≤ later.wholeSecond :=
  append_ts_le_iff _ _ now later

theorem localPath_le_iff :
    localPath local_base_path job_id now ≤ localPath local_base_path job_id later ↔
      now.wholeSecond ≤ later.wholeSecond :=
  append_ts_le_iff _ _ now later

theorem s3Key_inj :
    s3Key job_id now = s3Key job_id later ↔ now.wholeSecond = later.wholeSecond := by
  rw [le_antisymm_iff, le_antisymm_iff, s3Key_le_iff, s3Key_le_iff]

theorem localPath_inj :
    localPath local_base_path job_id now = localPath local_base_path job_id later ↔
      now.wholeSecond = later.wholeSecond := by
  rw [le_antisymm_iff, le_antisymm_iff, localPath_le_iff, localPath_le_iff]

/-- A save raises only when neither store took the document. -/
def returned (call : Call Value) : Bool :=
  uploaded call || call.writable

def resultOf (call : Call Value) : CheckpointResult where
  s3_key :=
    if uploaded call then Option.some (s3Key job_id call.now) else Option.none
  local_path :=
    if call.writable then
      Option.some (localPath local_base_path job_id call.now)
    else
      Option.none

theorem saveCheckpoint_fst (call : Call Value) (stores : Stores Value) :
    (saveCheckpoint text local_base_path job_id call stores).1 =
      if returned call then
        .ok (resultOf local_base_path job_id call)
      else
        .error (.bothFailed job_id) := by
  cases up : uploaded call <;> cases wrote : call.writable <;>
    simp [saveCheckpoint, returned, resultOf, up, wrote]

theorem saveCheckpoint_snd (call : Call Value) (stores : Stores Value) :
    (saveCheckpoint text local_base_path job_id call stores).2 =
      { s3 :=
        if uploaded call then
          stores.s3.write (s3Key job_id call.now) (payload text job_id call)
        else
          stores.s3
        disk :=
          if call.writable then
            stores.disk.write (localPath local_base_path job_id call.now) (payload text job_id call)
          else
            stores.disk } := by
  cases up : uploaded call <;> cases wrote : call.writable <;>
    simp [saveCheckpoint, up, wrote]

def s3Writes (calls : List (Call Value)) :
    List (List Char × Document Value) :=
  (calls.filter uploaded).map fun call =>
    (s3Key job_id call.now, payload text job_id call)

def diskWrites (calls : List (Call Value)) :
    List (List Char × Document Value) :=
  (calls.filter Call.writable).map fun call =>
    (localPath local_base_path job_id call.now, payload text job_id call)

variable (calls : List (Call Value))

theorem saveAll_eq :
    saveAll text local_base_path job_id calls =
      { s3 := Files.writeAll (s3Writes text job_id calls) ∅
        disk := Files.writeAll (diskWrites text local_base_path job_id calls) ∅ } := by
  induction calls using reverseRecOn with
  | nil => rfl
  | append_singleton calls call ih =>
    have last : saveAll text local_base_path job_id (calls ++ [call]) =
        (saveCheckpoint text local_base_path job_id call
          (saveAll text local_base_path job_id calls)).2 := by
      rw [saveAll, foldl_append]
      rfl
    rw [last, saveCheckpoint_snd, ih]
    cases up : uploaded call <;> cases wrote : call.writable <;>
      simp [s3Writes, diskWrites, up, wrote, Files.writeAll_concat]

theorem mem_s3Writes (write : List Char × Document Value) :
    write ∈ s3Writes text job_id calls ↔ ∃ call ∈ calls, uploaded call = true ∧
      (s3Key job_id call.now, payload text job_id call) = write := by
  simp [s3Writes, and_assoc]

theorem mem_diskWrites (write : List Char × Document Value) :
    write ∈ diskWrites text local_base_path job_id calls ↔ ∃ call ∈ calls, call.writable = true ∧
      (localPath local_base_path job_id call.now, payload text job_id call) = write := by
  simp [diskWrites, and_assoc]

structure StoredIn (stores : Stores Value) (result : CheckpointResult)
    (document : Document Value) : Prop where
  s3 : ∀ key, result.s3_key = some key → stores.s3.read key = some document
  disk : ∀ path, result.local_path = some path → stores.disk.read path = some document

/-- The saves keep one another's documents, and a load reads the last. -/
structure LoadsLatest (calls : List (Call Value)) : Prop where
  stored : ∀ before call after result, calls = before ++ call :: after →
    (saveCheckpoint text local_base_path job_id call
      (saveAll text local_base_path job_id before)).1 = .ok result →
    StoredIn (saveAll text local_base_path job_id calls) result (payload text job_id call)
  loaded : loadCheckpoint { s3 := true, disk := true } (saveAll text local_base_path job_id calls) =
    .ok ((calls.filter returned).getLast?.map (payload text job_id))

/-- No store took two different documents within one second. -/
def SecondsApart (calls : List (Call Value)) : Prop :=
  ∀ call ∈ calls, ∀ other ∈ calls, call.now.wholeSecond = other.now.wholeSecond →
    (uploaded call = true ∧ uploaded other = true ∨ call.writable = true ∧ other.writable = true) →
    payload text job_id call = payload text job_id other

def consulted (calls : List (Call Value)) : List (Call Value) :=
  if calls.any uploaded then
    calls.filter uploaded
  else
    calls.filter Call.writable

/-- Of the consulted saves, one of the latest second has the document of the
last save that did not raise. -/
def LatestConsulted (calls : List (Call Value)) : Prop :=
  ∀ last, (calls.filter returned).getLast? = some last → ∃ call ∈ consulted calls,
    payload text job_id call = payload text job_id last ∧
      ∀ other ∈ consulted calls, other.now.wholeSecond ≤ call.now.wholeSecond

variable {text local_base_path job_id}

theorem storedIn_resultOf (stores : Stores Value) (call : Call Value) (document : Document Value) :
    StoredIn stores (resultOf local_base_path job_id call) document ↔
      (uploaded call = true → stores.s3.read (s3Key job_id call.now) = some document) ∧
      (call.writable = true →
        stores.disk.read (localPath local_base_path job_id call.now) = some document) := by
  constructor
  · intro stored
    constructor
    · intro up
      exact stored.s3 _ (by simp [resultOf, up])
    · intro wrote
      exact stored.disk _ (by simp [resultOf, wrote])
  · rintro ⟨s3, disk⟩
    constructor
    · intro key reported
      cases up : uploaded call with
      | false => simp [resultOf, up] at reported
      | true =>
        have same : s3Key job_id call.now = key := by
          simpa [resultOf, up] using reported
        rw [← same]
        exact s3 up
    · intro path reported
      cases wrote : call.writable with
      | false => simp [resultOf, wrote] at reported
      | true =>
        have same : localPath local_base_path job_id call.now = path := by
          simpa [resultOf, wrote] using reported
        rw [← same]
        exact disk wrote

theorem stored_iff :
    (∀ before call after result, calls = before ++ call :: after →
      (saveCheckpoint text local_base_path job_id call
        (saveAll text local_base_path job_id before)).1 = .ok result →
      StoredIn (saveAll text local_base_path job_id calls) result (payload text job_id call)) ↔
      (∀ write ∈ s3Writes text job_id calls,
        (Files.writeAll (s3Writes text job_id calls) ∅).read write.1 = some write.2) ∧
      ∀ write ∈ diskWrites text local_base_path job_id calls,
        (Files.writeAll (diskWrites text local_base_path job_id calls)
          ∅).read write.1 = some write.2 := by
  constructor
  · intro stored
    have each : ∀ call ∈ calls, returned call = true →
        StoredIn (saveAll text local_base_path job_id calls) (resultOf local_base_path job_id call)
          (payload text job_id call) := by
      intro call member back
      obtain ⟨before, after, split⟩ := append_of_mem member
      refine stored before call after _ split ?_
      rw [saveCheckpoint_fst, if_pos back]
    rw [saveAll_eq] at each
    constructor
    · intro write member
      obtain ⟨call, callMember, up, rfl⟩ := (mem_s3Writes text job_id calls write).mp member
      have back : returned call = true := by simp [returned, up]
      exact ((storedIn_resultOf _ _ _).mp (each call callMember back)).1 up
    · intro write member
      obtain ⟨call, callMember, wrote, rfl⟩ :=
        (mem_diskWrites text local_base_path job_id calls write).mp member
      have back : returned call = true := by simp [returned, wrote]
      exact ((storedIn_resultOf _ _ _).mp (each call callMember back)).2 wrote
  · rintro ⟨s3, disk⟩ before call after result split saved
    have member : call ∈ calls := by simp [split]
    rw [saveCheckpoint_fst] at saved
    split at saved
    · rw [← Except.ok.inj saved, storedIn_resultOf, saveAll_eq]
      constructor
      · intro up
        exact s3 _ ((mem_s3Writes text job_id calls _).mpr ⟨call, member, up, rfl⟩)
      · intro wrote
        exact disk _ ((mem_diskWrites text local_base_path job_id calls _).mpr
          ⟨call, member, wrote, rfl⟩)
    · contradiction

theorem secondsApart_iff :
    SecondsApart text job_id calls ↔ (∀ write ∈ s3Writes text job_id calls,
      ∀ other ∈ s3Writes text job_id calls, write.1 = other.1 → write.2 = other.2) ∧
      ∀ write ∈ diskWrites text local_base_path job_id calls,
        ∀ other ∈ diskWrites text local_base_path job_id calls,
          write.1 = other.1 → write.2 = other.2 := by
  constructor
  · intro apart
    constructor
    · intro write member other otherMember same
      obtain ⟨call, callMember, up, rfl⟩ := (mem_s3Writes text job_id calls write).mp member
      obtain ⟨next, nextMember, nextUp, rfl⟩ :=
        (mem_s3Writes text job_id calls other).mp otherMember
      exact apart call callMember next nextMember
        ((s3Key_inj job_id _ _).mp same) (Or.inl ⟨up, nextUp⟩)
    · intro write member other otherMember same
      obtain ⟨call, callMember, wrote, rfl⟩ :=
        (mem_diskWrites text local_base_path job_id calls write).mp member
      obtain ⟨next, nextMember, nextWrote, rfl⟩ :=
        (mem_diskWrites text local_base_path job_id calls other).mp otherMember
      exact apart call callMember next nextMember
        ((localPath_inj local_base_path job_id _ _).mp same)
        (Or.inr ⟨wrote, nextWrote⟩)
  · rintro ⟨s3, disk⟩ call member other otherMember same written
    obtain ⟨up, otherUp⟩ | ⟨wrote, otherWrote⟩ := written
    · exact s3 _ ((mem_s3Writes text job_id calls _).mpr ⟨call, member, up, rfl⟩)
        _ ((mem_s3Writes text job_id calls _).mpr ⟨other, otherMember, otherUp, rfl⟩)
        ((s3Key_inj job_id _ _).mpr same)
    · exact disk _ ((mem_diskWrites text local_base_path job_id calls _).mpr
        ⟨call, member, wrote, rfl⟩)
        _ ((mem_diskWrites text local_base_path job_id calls _).mpr
          ⟨other, otherMember, otherWrote, rfl⟩)
        ((localPath_inj local_base_path job_id _ _).mpr same)

theorem newest_s3_iff (document : Document Value)
    (functional : ∀ write ∈ s3Writes text job_id calls,
      ∀ other ∈ s3Writes text job_id calls, write.1 = other.1 → write.2 = other.2) :
    (Files.writeAll (s3Writes text job_id calls) ∅).newest = some document ↔
      ∃ call ∈ calls.filter uploaded, payload text job_id call = document ∧
        ∀ other ∈ calls.filter uploaded, other.now.wholeSecond ≤ call.now.wholeSecond := by
  rw [Files.newest_writeAll_eq_some_iff functional, s3Writes]
  constructor
  · rintro ⟨write, member, rfl, above⟩
    obtain ⟨call, callMember, rfl⟩ := mem_map.mp member
    refine ⟨call, callMember, rfl, ?_⟩
    intro other otherMember
    rw [← s3Key_le_iff job_id]
    exact above _ (mem_map_of_mem otherMember)
  · rintro ⟨call, callMember, rfl, above⟩
    refine ⟨_, mem_map_of_mem callMember, rfl, ?_⟩
    intro write member
    obtain ⟨other, otherMember, rfl⟩ := mem_map.mp member
    exact (s3Key_le_iff job_id _ _).mpr (above other otherMember)

theorem newest_disk_iff (document : Document Value)
    (functional : ∀ write ∈ diskWrites text local_base_path job_id calls,
      ∀ other ∈ diskWrites text local_base_path job_id calls,
        write.1 = other.1 → write.2 = other.2) :
    (Files.writeAll (diskWrites text local_base_path job_id calls) ∅).newest = some document ↔
      ∃ call ∈ calls.filter Call.writable, payload text job_id call = document ∧
        ∀ other ∈ calls.filter Call.writable, other.now.wholeSecond ≤ call.now.wholeSecond := by
  rw [Files.newest_writeAll_eq_some_iff functional, diskWrites]
  constructor
  · rintro ⟨write, member, rfl, above⟩
    obtain ⟨call, callMember, rfl⟩ := mem_map.mp member
    refine ⟨call, callMember, rfl, ?_⟩
    intro other otherMember
    rw [← localPath_le_iff local_base_path job_id]
    exact above _ (mem_map_of_mem otherMember)
  · rintro ⟨call, callMember, rfl, above⟩
    refine ⟨_, mem_map_of_mem callMember, rfl, ?_⟩
    intro write member
    obtain ⟨other, otherMember, rfl⟩ := mem_map.mp member
    exact (localPath_le_iff local_base_path job_id _ _).mpr (above other otherMember)

theorem loadCheckpoint_saveAll :
    loadCheckpoint { s3 := true, disk := true } (saveAll text local_base_path job_id calls) =
      .ok (if calls.any uploaded then
        (Files.writeAll (s3Writes text job_id calls) ∅).newest
      else
        (Files.writeAll (diskWrites text local_base_path job_id calls) ∅).newest) := by
  rw [saveAll_eq, loadCheckpoint]
  cases up : calls.any uploaded with
  | true =>
    obtain ⟨call, member, uploads⟩ := any_eq_true.mp up
    have present : s3Key job_id call.now ∈ (Files.writeAll (s3Writes text job_id calls) ∅).keys :=
      (Files.mem_keys_writeAll _ _).mpr ⟨_,
        (mem_s3Writes text job_id calls _).mpr ⟨call, member, uploads, rfl⟩, rfl⟩
    have filled := isEmpty_eq_false_iff.mpr (ne_nil_of_mem present)
    rw [filled]
    rfl
  | false =>
    have empty : s3Writes text job_id calls = [] := by
      rw [s3Writes, filter_eq_nil_iff.mpr]
      · rfl
      · intro call member
        exact Bool.not_eq_true _ ▸ any_eq_false.mp up call member
    rw [empty]
    rfl

variable {calls : List (Call Value)}

theorem filter_writable_of_not_uploaded (noUpload : calls.any uploaded = false) :
    calls.filter Call.writable = calls.filter returned := by
  refine filter_congr fun call member => ?_
  have down : uploaded call = false := by
    simpa using any_eq_false.mp noUpload call member
  simp [returned, down]

theorem loaded_iff (apart : SecondsApart text job_id calls) :
    loadCheckpoint { s3 := true, disk := true } (saveAll text local_base_path job_id calls) =
      .ok ((calls.filter returned).getLast?.map (payload text job_id)) ↔
      LatestConsulted text job_id calls := by
  obtain ⟨s3, disk⟩ := (@secondsApart_iff _ text local_base_path job_id calls).mp apart
  rw [loadCheckpoint_saveAll, LatestConsulted, consulted, Except.ok.injEq]
  cases up : calls.any uploaded with
  | true =>
    obtain ⟨call, member, uploads⟩ := any_eq_true.mp up
    have back : call ∈ calls.filter returned := by
      simp [member, returned, uploads]
    cases last : (calls.filter returned).getLast? with
    | none =>
      rw [getLast?_eq_none_iff.mp last] at back
      contradiction
    | some save =>
      rw [if_pos rfl, if_pos rfl, Option.map_some, newest_s3_iff calls _ s3]
      constructor
      · rintro found other same
        rw [← Option.some.inj same]
        exact found
      · intro found
        exact found save rfl
  | false =>
    rw [if_neg Bool.false_ne_true, if_neg Bool.false_ne_true]
    cases last : (calls.filter returned).getLast? with
    | none =>
      have empty : diskWrites text local_base_path job_id calls = [] := by
        rw [diskWrites, filter_writable_of_not_uploaded up, getLast?_eq_none_iff.mp last]
        rfl
      rw [empty]
      constructor
      · intro _ save impossible
        contradiction
      · intro _
        rfl
    | some save =>
      rw [Option.map_some, newest_disk_iff calls _ disk]
      constructor
      · rintro found other same
        rw [← Option.some.inj same]
        exact found
      · intro found
        exact found save rfl

/-- The saves of a job keep one another and are loaded in turn exactly when no
store took two documents in one second and the newest document of the store
that is asked first is the last one saved. -/
theorem loadsLatest_iff (calls : List (Call Value)) :
    LoadsLatest text local_base_path job_id calls ↔
      SecondsApart text job_id calls ∧ LatestConsulted text job_id calls := by
  constructor
  · intro latest
    have apart : SecondsApart text job_id calls := by
      obtain ⟨s3, disk⟩ := (stored_iff calls).mp latest.stored
      rw [@secondsApart_iff _ text local_base_path]
      exact ⟨(Files.keepsAll_iff _).mp s3, (Files.keepsAll_iff _).mp disk⟩
    exact ⟨apart, (loaded_iff apart).mp latest.loaded⟩
  · rintro ⟨apart, consulted⟩
    constructor
    · obtain ⟨s3, disk⟩ := (@secondsApart_iff _ text local_base_path job_id calls).mp apart
      rw [stored_iff]
      exact ⟨(Files.keepsAll_iff _).mpr s3, (Files.keepsAll_iff _).mpr disk⟩
    · exact (loaded_iff apart).mpr consulted

end Calls

section Samples

def newYear (second : Fin 60) (microsecond : Nat) : Moment where
  year := 2026
  month := 1
  day := 1
  hour := 0
  minute := 0
  second := second
  microsecond
  second_lt := by omega

def epochSave (epoch : String) (now : Moment) (up wrote : Bool) :
    Call String where
  container_id := "ctr-1"
  checkpoint_data := [("epoch", epoch)]
  now
  uploads := fun _ => up
  writable := wrote

/-- A save that reaches only the disk is passed over for an older upload, and
two saves of one second leave one document. -/
theorem loads_older_save :
    ¬ LoadsLatest id "/var/dc1/checkpoints".toList "job-1".toList
      [epochSave "1" (newYear 0 0) true true, epochSave "2" (newYear 1 0) false true] ∧
      ¬ LoadsLatest id "/var/dc1/checkpoints".toList "job-1".toList
        [epochSave "1" (newYear 0 0) true true, epochSave "2" (newYear 0 500000) true true] := by
  constructor
  · intro latest
    have loaded := latest.loaded
    revert loaded
    decide +kernel
  · intro latest
    have stored := (latest.stored [] (epochSave "1" (newYear 0 0) true true)
      [epochSave "2" (newYear 0 500000) true true]
      (resultOf "/var/dc1/checkpoints".toList "job-1".toList
        (epochSave "1" (newYear 0 0) true true)) rfl (by decide +kernel)).s3
      (s3Key "job-1".toList (newYear 0 0)) (by decide +kernel)
    revert stored
    decide +kernel

end Samples

end DcpPlatform.Checkpoints
