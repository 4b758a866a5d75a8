import DcpPlatform.Checkpoints.Failover
import DcpPlatform.Foundation.Transition

/-!
# Checkpoints and pruning

When the failover checkpoints that the metadata lists can be loaded after any
saves, prunes and losses on the NAS.
-/

namespace DcpPlatform.Checkpoints

open Foundation List Option

section Slices

variable {Item : Type}

theorem remaining_map {Image : Type} (image : Item → Image) (keep_n : Nat) (items : List Item) :
    remaining keep_n (items.map image) = (remaining keep_n items).map image := by
  unfold remaining
  split
  · rfl
  · rw [length_map, map_drop]

theorem toDelete_map {Image : Type} (image : Item → Image) (keep_n : Nat) (items : List Item) :
    toDelete keep_n (items.map image) = (toDelete keep_n items).map image := by
  unfold toDelete
  split
  · rfl
  · rw [length_map, map_take]

theorem remaining_of_length_le {keep_n : Nat} {items : List Item} (short : items.length ≤ keep_n) :
    remaining keep_n items = items := by
  have none_over : items.length - keep_n = 0 := by omega
  simp [remaining, none_over]

theorem remaining_sublist (keep_n : Nat) (items : List Item) :
    (remaining keep_n items).Sublist items := by
  unfold remaining
  split
  · exact List.Sublist.refl items
  · exact drop_sublist _ _

theorem remaining_append (keep_n : Nat) (items : List Item) (item : Item) :
    remaining keep_n (remaining keep_n items ++ [item]) = remaining keep_n (items ++ [item]) := by
  by_cases zero : keep_n = 0
  · simp [remaining, zero]
  · simp only [remaining, if_neg zero, length_append, length_drop, length_singleton]
    rw [← drop_append_of_le_length (by omega), drop_drop]
    congr 1
    omega

theorem mem_remaining_append {keep_n : Nat} {items : List Item} {item other : Item}
    (member : other ∈ remaining keep_n (items ++ [item])) :
    other = item ∨ other ∈ remaining keep_n items := by
  rw [← remaining_append] at member
  have origin := (remaining_sublist keep_n _).subset member
  simpa [or_comm] using origin

theorem getLast_remaining {keep_n : Nat} (items : List Item) :
    (remaining keep_n items).getLast? = items.getLast? := by
  by_cases zero : keep_n = 0
  · simp [remaining, zero]
  · rw [remaining, if_neg zero, getLast?_drop]
    split
    · have empty : items.length = 0 := by omega
      rw [length_eq_zero_iff.mp empty]
      rfl
    · rfl

end Slices

section Failover

variable {Digest : Type} {sha256 : Bytes → Digest} {NAS_PATH job_id : List Char} {KEEP_N : Nat}

theorem failoverKey_inj {num other : Int} :
    failoverKey job_id num = failoverKey job_id other ↔ num = other := by
  constructor
  · intro same
    have names := append_cancel_left same
    exact zeroPaddedInt_inj.mp (append_cancel_right names)
  · rintro rfl
    rfl

variable {key : List Char}

theorem read_s3_deleteAll (entries : List (Entry Digest)) (storage : Storage Digest)
    (spared : ∀ entry ∈ entries, entry.s3_key ≠ key) :
    (entries.foldl deleteEntry storage).s3.read key = storage.s3.read key := by
  induction entries generalizing storage with
  | nil => rfl
  | cons entry rest ih =>
    have others : ∀ other ∈ rest, other.s3_key ≠ key :=
      fun other member => spared other (mem_cons_of_mem entry member)
    have different := spared entry mem_cons_self
    rw [foldl_cons, ih _ others, deleteEntry]
    exact storage.s3.read_remove_ne different.symm

variable {storage : Storage Digest} {data : Bytes}

theorem read_nas_deleteAll {entries : List (Entry Digest)} {path : List Char}
    (found : (entries.foldl deleteEntry storage).nas.read path = some data) :
    storage.nas.read path = some data := by
  induction entries generalizing storage with
  | nil => exact found
  | cons entry rest ih =>
    have after := ih found
    by_cases same : path = entry.nas_path
    · rw [same, deleteEntry, Files.read_remove] at after
      contradiction
    · rw [deleteEntry, Files.read_remove_ne _ same] at after
      exact after

theorem read_s3_of_deleteAll {entries : List (Entry Digest)}
    (found : (entries.foldl deleteEntry storage).s3.read key = some data) :
    storage.s3.read key = some data := by
  induction entries generalizing storage with
  | nil => exact found
  | cons entry rest ih =>
    have after := ih found
    by_cases same : key = entry.s3_key
    · rw [same, deleteEntry, Files.read_remove] at after
      contradiction
    · rw [deleteEntry, Files.read_remove_ne _ same] at after
      exact after

theorem loadMeta_deleteOldCheckpoints (listed : List (Entry Digest))
    (reads : storage.metaFile = .entries listed) :
    loadMeta (deleteOldCheckpoints KEEP_N listed storage) = .ok (remaining KEEP_N listed) := by
  unfold deleteOldCheckpoints
  split
  · next short =>
      rw [remaining_of_length_le short, loadMeta, reads]
  · rfl

variable {listed : List (Entry Digest)}

theorem read_s3_deleteOldCheckpoints
    (spared : ∀ entry ∈ toDelete KEEP_N listed, entry.s3_key ≠ key) :
    (deleteOldCheckpoints KEEP_N listed storage).s3.read key = storage.s3.read key := by
  unfold deleteOldCheckpoints
  split
  · rfl
  · exact read_s3_deleteAll _ storage spared

theorem read_s3_of_deleteOldCheckpoints
    (found : (deleteOldCheckpoints KEEP_N listed storage).s3.read key = some data) :
    storage.s3.read key = some data := by
  unfold deleteOldCheckpoints at found
  split at found
  · exact found
  · exact read_s3_of_deleteAll found

theorem read_nas_deleteOldCheckpoints {path : List Char}
    (found : (deleteOldCheckpoints KEEP_N listed storage).nas.read path = some data) :
    storage.nas.read path = some data := by
  unfold deleteOldCheckpoints at found
  split at found
  · exact found
  · exact read_nas_deleteAll found

variable [DecidableEq Digest]

variable (sha256 NAS_PATH job_id KEEP_N) in
def savedOver (save : Save) (listed : List (Entry Digest))
    (storage : Storage Digest) : Storage Digest :=
  deleteOldCheckpoints KEEP_N (listed ++ [entryOf sha256 NAS_PATH job_id save])
    { nas := storage.nas.write (nasFile NAS_PATH job_id save.num) save.data
      metaFile := .entries (listed ++ [entryOf sha256 NAS_PATH job_id save])
      s3 := storage.s3.write (failoverKey job_id save.num) save.data }

theorem saveNumbered_eq {save : Save} (reads : loadMeta storage = .ok listed) :
    saveNumbered sha256 NAS_PATH job_id KEEP_N save storage =
      (.ok (refOf job_id (entryOf sha256 NAS_PATH job_id save)),
        savedOver sha256 NAS_PATH job_id KEEP_N save listed storage) := by
  have readsOver : ∀ nas s3, loadMeta { storage with nas, s3 } = .ok listed := by
    intro nas s3
    exact reads
  simp only [saveNumbered, Files.read_write, map_some, ne_eq, not_true, if_false]
  rw [readsOver]
  rfl

variable (sha256 job_id) in
def Returns (storage : Storage Digest) (num : Int) (data : Bytes) : Prop :=
  ∃ ref after, loadNumbered sha256 job_id num storage = (.ok (some ref), after) ∧
    after.nas.read ref.nas_path = some data

theorem loadNumbered_frame (num : Int) (storage : Storage Digest) :
    (loadNumbered sha256 job_id num storage).2 = storage ∨
      ∃ path key data, storage.s3.read key = some data ∧
        (loadNumbered sha256 job_id num storage).2 =
          { storage with nas := storage.nas.write path data } := by
  unfold loadNumbered
  split
  · exact Or.inl rfl
  · split
    · exact Or.inl rfl
    · split
      · exact Or.inl rfl
      · split
        · exact Or.inl rfl
        · next data found =>
            split
            · exact Or.inl rfl
            · exact Or.inr ⟨_, _, data, found, rfl⟩

theorem returns_of_entry {num : Int} {entry : Entry Digest} (reads : loadMeta storage = .ok listed)
    (picked : (if num = -1 then
          listed.getLast?
        else
          listed.find? (fun entry => entry.num = num)) = some entry)
    (object : storage.s3.read entry.s3_key = some data)
    (checksum : sha256 data = entry.checksum)
    (distinct : ∀ path found, storage.nas.read path = some found →
      sha256 found = sha256 data → found = data) :
    Returns sha256 job_id storage num data := by
  by_cases onNas : (storage.nas.read entry.nas_path).map sha256 = some entry.checksum
  · obtain ⟨found, present, same⟩ := map_eq_some_iff.mp onNas
    refine ⟨refOf job_id entry, storage, ?_, ?_⟩
    · rw [loadNumbered, reads]
      simp only [picked]
      rw [if_pos onNas]
    · rw [← checksum] at same
      rw [← distinct _ found present same]
      exact present
  · refine ⟨refOf job_id entry, { storage with nas := storage.nas.write entry.nas_path data },
      ?_, Files.read_write _ _ _⟩
    rw [loadNumbered, reads]
    simp only [picked]
    rw [if_neg onNas, object]
    simp only [checksum, ne_eq, not_true, if_false]

/-! ## Runs -/

variable (sha256 NAS_PATH job_id KEEP_N) in
/-- The listed checkpoints are the last saves, their objects are there, and
loads return them. -/
structure Survives (state : Failover Digest) : Prop where
  listed : loadMeta state.storage =
    .ok ((remaining KEEP_N state.saves).map (entryOf sha256 NAS_PATH job_id))
  objects : ∀ listed, loadMeta state.storage = .ok listed → ∀ entry ∈ listed, ∃ data,
    state.storage.s3.read entry.s3_key = some data ∧ sha256 data = entry.checksum
  latest :
    ∀ save, state.saves.getLast? = some save → Returns sha256 job_id state.storage (-1) save.data
  numbered : ∀ num save,
    ((remaining KEEP_N state.saves).filter (fun save => save.num = num)).getLast? = some save →
    Returns sha256 job_id state.storage num save.data

variable (KEEP_N) in
/-- A save shares no file with an entry it prunes or leaves with other bytes,
and nothing replaces the metadata file. -/
def Clean (occurring : List Bytes) (state : Failover Digest) :
    Event Digest → Prop
  | .save save =>
    (∀ old ∈ toDelete KEEP_N (remaining KEEP_N state.saves ++ [save]),
      ∀ other ∈ remaining KEEP_N (state.saves ++ [save]), old.num ≠ other.num) ∧
    (∀ other ∈ remaining KEEP_N (state.saves ++ [save]),
      other.num = save.num ∨ other.num = -1 → other.data = save.data) ∧
    save.data ∈ occurring
  | .load _ => True
  | .lose _ => True
  | .corrupt _ data => data ∈ occurring
  | .damageMeta found => found = state.storage.metaFile

instance (occurring : List Bytes) (state : Failover Digest)
    (event : Event Digest) : Decidable (Clean KEEP_N occurring state event) := by
  cases event <;> unfold Clean <;> infer_instance

variable (sha256 NAS_PATH job_id KEEP_N) in
structure Held (occurring : List Bytes) (state : Failover Digest) : Prop where
  listed : loadMeta state.storage =
    .ok ((remaining KEEP_N state.saves).map (entryOf sha256 NAS_PATH job_id))
  objects : ∀ save ∈ remaining KEEP_N state.saves,
    state.storage.s3.read (failoverKey job_id save.num) = some save.data
  unnumbered : ∀ save ∈ remaining KEEP_N state.saves, save.num = -1 →
    ∀ last, state.saves.getLast? = some last → save.data = last.data
  occurs : ∀ save ∈ state.saves, save.data ∈ occurring
  nasOccurs : ∀ path data, state.storage.nas.read path = some data → data ∈ occurring
  s3Occurs : ∀ key data, state.storage.s3.read key = some data → data ∈ occurring

omit [DecidableEq Digest] in
theorem held_noSaves (occurring : List Bytes) :
    Held sha256 NAS_PATH job_id KEEP_N occurring noSaves where
  listed := by
    rw [remaining_of_length_le (Nat.zero_le _)]
    rfl
  objects := by
    intro save member
    rw [remaining_of_length_le (Nat.zero_le _)] at member
    contradiction
  unnumbered := by
    intro save member
    rw [remaining_of_length_le (Nat.zero_le _)] at member
    contradiction
  occurs := by
    intro save member
    contradiction
  nasOccurs := by
    intro path data found
    rw [noSaves, emptyStorage, Files.read_empty] at found
    contradiction
  s3Occurs := by
    intro path data found
    rw [noSaves, emptyStorage, Files.read_empty] at found
    contradiction

variable {occurring : List Bytes} {state : Failover Digest}

omit [DecidableEq Digest] in
theorem held_save (held : Held sha256 NAS_PATH job_id KEEP_N occurring state)
    {save : Save} (clean : Clean KEEP_N occurring state (.save save)) :
    Held sha256 NAS_PATH job_id KEEP_N occurring
      { storage := savedOver sha256 NAS_PATH job_id KEEP_N save
            ((remaining KEEP_N state.saves).map (entryOf sha256 NAS_PATH job_id)) state.storage
        saves := state.saves ++ [save] } := by
  obtain ⟨apart, agree, occurs⟩ := clean
  have appended : (remaining KEEP_N state.saves).map (entryOf sha256 NAS_PATH job_id) ++
      [entryOf sha256 NAS_PATH job_id save] =
        (remaining KEEP_N state.saves ++ [save]).map (entryOf sha256 NAS_PATH job_id) := by
    rw [map_append]
    rfl
  constructor
  case listed =>
    rw [savedOver, loadMeta_deleteOldCheckpoints _ rfl, appended, remaining_map, remaining_append]
  case objects =>
    intro other member
    have spared : ∀ entry ∈ toDelete KEEP_N ((remaining KEEP_N state.saves).map
        (entryOf sha256 NAS_PATH job_id) ++ [entryOf sha256 NAS_PATH job_id save]),
          entry.s3_key ≠ failoverKey job_id other.num := by
      intro entry entryMember
      rw [appended, toDelete_map] at entryMember
      obtain ⟨old, oldMember, rfl⟩ := mem_map.mp entryMember
      intro sameKey
      exact apart old oldMember other member (failoverKey_inj.mp sameKey)
    rw [savedOver, read_s3_deleteOldCheckpoints spared]
    by_cases same : other.num = save.num
    · rw [same, Files.read_write, agree other member (Or.inl same)]
    · have differentKey : failoverKey job_id other.num ≠ failoverKey job_id save.num :=
        fun sameKey => same (failoverKey_inj.mp sameKey)
      rw [Files.read_write_ne _ _ differentKey]
      obtain rfl | earlier := mem_remaining_append member
      · exact absurd rfl same
      · exact held.objects other earlier
  case unnumbered =>
    intro other member isMinusOne last lastSave
    rw [getLast?_concat] at lastSave
    rw [← some.inj lastSave]
    exact agree other member (Or.inr isMinusOne)
  case occurs =>
    intro other member
    obtain earlier | latest := mem_append.mp member
    · exact held.occurs other earlier
    · rw [mem_singleton.mp latest]
      exact occurs
  case nasOccurs =>
    intro path data found
    have written := read_nas_deleteOldCheckpoints found
    by_cases same : path = nasFile NAS_PATH job_id save.num
    · rw [same, Files.read_write] at written
      rw [← some.inj written]
      exact occurs
    · rw [Files.read_write_ne _ _ same] at written
      exact held.nasOccurs path data written
  case s3Occurs =>
    intro key data found
    have written := read_s3_of_deleteOldCheckpoints found
    by_cases same : key = failoverKey job_id save.num
    · rw [same, Files.read_write] at written
      rw [← some.inj written]
      exact occurs
    · rw [Files.read_write_ne _ _ same] at written
      exact held.s3Occurs key data written

omit [DecidableEq Digest] in
theorem Held.of_nas {occurring : List Bytes} {state : Failover Digest}
    (held : Held sha256 NAS_PATH job_id KEEP_N occurring state)
    {nas : Files (List Char) Bytes}
    (occurs : ∀ path data, nas.read path = some data → data ∈ occurring) :
    Held sha256 NAS_PATH job_id KEEP_N occurring
      { state with storage := { state.storage with nas } } where
  listed := held.listed
  objects := held.objects
  unnumbered := held.unnumbered
  occurs := held.occurs
  nasOccurs := occurs
  s3Occurs := held.s3Occurs

omit [DecidableEq Digest] in
theorem Held.write (held : Held sha256 NAS_PATH job_id KEEP_N occurring state)
    (occurs : data ∈ occurring) (path : List Char) :
    ∀ other found,
      (state.storage.nas.write path data).read other = some found → found ∈ occurring := by
  intro other found read
  by_cases same : other = path
  · rw [same, Files.read_write] at read
    rw [← some.inj read]
    exact occurs
  · rw [Files.read_write_ne _ _ same] at read
    exact held.nasOccurs other found read

theorem held_next {state after : Failover Digest} {event : Event Digest}
    (held : Held sha256 NAS_PATH job_id KEEP_N occurring state)
    (taken : guarded (Fires (nextFailover sha256 NAS_PATH job_id KEEP_N))
      (Clean KEEP_N occurring) state event after) :
    Held sha256 NAS_PATH job_id KEEP_N occurring after := by
  obtain ⟨clean, fires⟩ := taken
  cases event with
  | save save =>
    simp only [Fires, nextFailover, saveNumbered_eq held.listed] at fires
    rw [← some.inj fires]
    exact held_save held clean
  | load num =>
    rw [← some.inj fires]
    obtain same | ⟨path, key, data, object, same⟩ :=
      @loadNumbered_frame _ sha256 job_id _ num state.storage
    · rw [same]
      exact held
    · rw [same]
      exact held.of_nas (held.write (held.s3Occurs key data object) path)
  | lose path =>
    rw [← some.inj fires]
    refine held.of_nas ?_
    intro other data found
    by_cases same : other = path
    · rw [same, Files.read_remove] at found
      contradiction
    · rw [Files.read_remove_ne _ same] at found
      exact held.nasOccurs other data found
  | corrupt path data =>
    rw [← some.inj fires]
    exact held.of_nas (held.write clean path)
  | damageMeta found =>
    rw [← some.inj fires, show found = _ from clean]
    exact held

theorem Held.survives (held : Held sha256 NAS_PATH job_id KEEP_N occurring state) (distinct :
    ∀ data ∈ occurring, ∀ other ∈ occurring, sha256 data = sha256 other → data = other) :
    Survives sha256 NAS_PATH job_id KEEP_N state := by
  have onNas : ∀ save ∈ state.saves, ∀ path found, state.storage.nas.read path = some found →
      sha256 found = sha256 save.data → found = save.data := by
    intro save member path found read same
    exact distinct found (held.nasOccurs path found read) save.data (held.occurs save member) same
  have kept : ∀ save ∈ remaining KEEP_N state.saves, save ∈ state.saves :=
    fun save member => (remaining_sublist KEEP_N _).subset member
  constructor
  case listed => exact held.listed
  case objects =>
    intro listed reads entry member
    rw [held.listed] at reads
    rw [← Except.ok.inj reads] at member
    obtain ⟨save, saveMember, rfl⟩ := mem_map.mp member
    exact ⟨save.data, held.objects save saveMember, rfl⟩
  case latest =>
    intro save last
    have lastKept := last
    rw [← @getLast_remaining _ KEEP_N] at lastKept
    have member := mem_of_getLast? lastKept
    have picked : (if (-1 : Int) = -1 then
          ((remaining KEEP_N state.saves).map (entryOf sha256 NAS_PATH job_id)).getLast?
        else
          ((remaining KEEP_N state.saves).map
            (entryOf sha256 NAS_PATH job_id)).find? (·.num = -1)) =
          some (entryOf sha256 NAS_PATH job_id save) := by
      rw [if_pos rfl, getLast?_map, lastKept]
      rfl
    exact returns_of_entry held.listed picked (held.objects save member) rfl
      (onNas save (kept save member))
  case numbered =>
    intro num save last
    obtain ⟨member, isNum⟩ := mem_filter.mp (mem_of_getLast? last)
    have sameNum : save.num = num := of_decide_eq_true isNum
    by_cases minusOne : num = -1
    · cases final : state.saves.getLast? with
      | none =>
        rw [getLast?_eq_none_iff.mp final] at member
        rw [remaining_of_length_le (Nat.zero_le _)] at member
        contradiction
      | some latest =>
        have lastKept := final
        rw [← @getLast_remaining _ KEEP_N] at lastKept
        have latestMember := mem_of_getLast? lastKept
        rw [held.unnumbered save member (sameNum.trans minusOne) latest final]
        have picked : (if num = -1 then
              ((remaining KEEP_N state.saves).map (entryOf sha256 NAS_PATH job_id)).getLast?
            else
              ((remaining KEEP_N state.saves).map
                (entryOf sha256 NAS_PATH job_id)).find? (·.num = num)) =
              some (entryOf sha256 NAS_PATH job_id latest) := by
          rw [if_pos minusOne, getLast?_map, lastKept]
          rfl
        exact returns_of_entry held.listed picked (held.objects latest latestMember) rfl
          (onNas latest (kept latest latestMember))
    · have present : (((remaining KEEP_N state.saves).map (entryOf sha256 NAS_PATH job_id)).find?
          (·.num = num)).isSome = true := by
        rw [find?_isSome]
        exact ⟨_, mem_map_of_mem member, decide_eq_true sameNum⟩
      obtain ⟨entry, found⟩ := isSome_iff_exists.mp present
      obtain ⟨first, firstMember, rfl⟩ := mem_map.mp (mem_of_find?_eq_some found)
      have found_num := find?_some found
      have firstNum : first.num = num := of_decide_eq_true found_num
      -- entries of one number share their object, so they agree
      have object := held.objects first firstMember
      rw [firstNum, ← sameNum, held.objects save member] at object
      rw [some.inj object]
      have picked : (if num = -1 then
            ((remaining KEEP_N state.saves).map (entryOf sha256 NAS_PATH job_id)).getLast?
          else
            ((remaining KEEP_N state.saves).map
              (entryOf sha256 NAS_PATH job_id)).find? (·.num = num)) =
            some (entryOf sha256 NAS_PATH job_id first) := by
        rw [if_neg minusOne]
        exact found
      exact returns_of_entry held.listed picked (held.objects first firstMember) rfl
        (onNas first (kept first firstMember))

/-- In every run of clean saves, loads, prunes and losses the listed
checkpoints are the last saves and can be loaded. -/
theorem checkpoints_survive {occurring : List Bytes}
    (distinct : ∀ data ∈ occurring, ∀ other ∈ occurring, sha256 data = sha256 other → data = other)
    {events : List (Event Digest)} {state : Failover Digest}
    (run : Run (guarded (Fires (nextFailover sha256 NAS_PATH job_id KEEP_N))
      (Clean KEEP_N occurring)) noSaves events state) :
    Survives sha256 NAS_PATH job_id KEEP_N state :=
  (run.invariant (Held sha256 NAS_PATH job_id KEEP_N occurring)
    (fun held taken => held_next held taken)
    (held_noSaves occurring)).survives distinct

end Failover

section Samples

def sampleSha256 : Bytes → String
  | [1] =>
    "4bf5122f344554c53bde2ebb8cd2b7e3d1600ad631c385a5d7cce23c7785459a"
  | [2] =>
    "dbc1b4c900ffe48d575b5da5c638040125f65db0fe3e24494b76ea986457d986"
  | [9] =>
    "2b4c342f5433ebe591a1da77e013d1b72475562d48578dca8b84bac6651c3cb9"
  | _ => ""

abbrev sampleNext : Failover String → Event String → Option (Failover String) :=
  nextFailover sampleSha256 "/mnt/nas/dc1/checkpoints".toList "job-1".toList 1

def sampleFile (num : Int) : List Char :=
  nasFile "/mnt/nas/dc1/checkpoints".toList "job-1".toList num

theorem checkpoints_survive_sample :
    ∃ state, execute sampleNext noSaves
      [.save ⟨1, [1], 10⟩, .save ⟨2, [2], 20⟩, .corrupt (sampleFile 2) [9]] = some state ∧
        state.storage.nas.read (sampleFile 2) = some [9] ∧
        Survives sampleSha256 "/mnt/nas/dc1/checkpoints".toList "job-1".toList 1 state := by
  refine exists_executed_guarded (Clean 1 [[1], [2], [9]])
    (·.storage.nas.read (sampleFile 2) = some [9])
    (by decide +kernel) ?_
  intro state run damaged
  exact ⟨damaged, checkpoints_survive (by decide +kernel) run⟩

/-- A number that is saved again loses its object to the prune of its first
entry, or is looked up under the checksum of its first bytes. -/
theorem saved_again_is_lost :
    (∃ state, execute sampleNext noSaves [.save ⟨1, [1], 10⟩, .save ⟨1, [2], 20⟩] = some state ∧
      ¬ Survives sampleSha256 "/mnt/nas/dc1/checkpoints".toList "job-1".toList 1 state) ∧
      ∃ state, execute
        (nextFailover sampleSha256 "/mnt/nas/dc1/checkpoints".toList "job-1".toList 3) noSaves
        [.save ⟨1, [1], 10⟩, .save ⟨1, [2], 20⟩] = some state ∧
          ¬ Survives sampleSha256 "/mnt/nas/dc1/checkpoints".toList "job-1".toList 3 state := by
  constructor
  · refine exists_executed (fun state =>
      state.saves.getLast? = some ⟨1, [2], 20⟩ ∧
        (loadNumbered sampleSha256 "job-1".toList (-1) state.storage).1 = .ok none)
      (by decide +kernel) ?_
    rintro state executed ⟨saves, missing⟩
    intro survives
    obtain ⟨ref, after, loaded, _⟩ := survives.latest _ saves
    rw [loaded] at missing
    cases missing
  · refine exists_executed (fun state =>
      ((remaining 3 state.saves).filter (·.num = 1)).getLast? = some ⟨1, [2], 20⟩ ∧
        (loadNumbered sampleSha256 "job-1".toList 1 state.storage).1 = .ok none)
      (by decide +kernel) ?_
    rintro state _ ⟨saves, missing⟩
    intro survives
    obtain ⟨ref, after, loaded, _⟩ := survives.numbered 1 _ saves
    rw [loaded] at missing
    cases missing

end Samples

end DcpPlatform.Checkpoints
