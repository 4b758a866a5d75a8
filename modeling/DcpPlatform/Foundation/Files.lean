import Mathlib.Data.List.AList
import Mathlib.Data.List.Induction
import Mathlib.Data.List.Sort

/-!
# Named files

A store keeps one content under each name. Writing a name that exists
replaces what was there, so the store keeps everything that was written to it
exactly when no name was written with two contents. `newest` reads the file
whose name sorts last.
-/

namespace DcpPlatform.Foundation

open Option

open List

universe u v

variable {Name : Type u} {Content : Type v} [LinearOrder Name]

abbrev Files (Name : Type u) (Content : Type v) : Type (max u v) :=
  AList fun _ : Name => Content

namespace Files

def read (files : Files Name Content) (name : Name) : Option Content :=
  files.lookup name

def write (files : Files Name Content) (name : Name) (content : Content) :
    Files Name Content :=
  files.insert name content

def remove (files : Files Name Content) (name : Name) : Files Name Content :=
  files.erase name

@[simp]
theorem read_empty (name : Name) :
    (∅ : Files Name Content).read name = none :=
  AList.lookup_empty name

@[simp]
theorem read_write (files : Files Name Content) (name : Name) (content : Content) :
    (files.write name content).read name = some content :=
  AList.lookup_insert files

variable {name other : Name}

theorem read_write_ne (files : Files Name Content) (content : Content) (different : other ≠ name) :
    (files.write name content).read other = files.read other :=
  AList.lookup_insert_ne different

@[simp]
theorem read_remove (files : Files Name Content) (name : Name) :
    (files.remove name).read name = none :=
  AList.lookup_erase name files

theorem read_remove_ne (files : Files Name Content) (different : other ≠ name) :
    (files.remove name).read other = files.read other :=
  AList.lookup_erase_ne different

theorem mem_keys_iff (files : Files Name Content) (name : Name) :
    name ∈ files.keys ↔ ∃ content, files.read name = some content := by
  rw [← AList.mem_keys, ← AList.lookup_isSome, isSome_iff_exists]
  rfl

@[simp]
theorem mem_keys_write (files : Files Name Content) (name other : Name) (content : Content) :
    other ∈ (files.write name content).keys ↔ other = name ∨ other ∈ files.keys := by
  rw [← AList.mem_keys, ← AList.mem_keys, write, AList.mem_insert]

/-- The content under the name that sorts last. -/
def newest (files : Files Name Content) : Option Content :=
  (files.keys.insertionSort (· ≤ ·)).getLast?.bind files.read

theorem newest_eq_none_iff (files : Files Name Content) :
    files.newest = none ↔ files.keys = [] := by
  constructor
  · intro missing
    cases sorted : (files.keys.insertionSort (· ≤ ·)).getLast? with
    | none =>
      have empty := getLast?_eq_none_iff.mp sorted
      have length := length_insertionSort (· ≤ ·) files.keys
      rw [empty] at length
      exact length_eq_zero_iff.mp length.symm
    | some name =>
      have member : name ∈ files.keys := by
        rw [← mem_insertionSort (r := (· ≤ ·))]
        exact mem_of_getLast? sorted
      obtain ⟨content, found⟩ := (mem_keys_iff files name).mp member
      rw [newest, sorted, bind_some, found] at missing
      contradiction
  · intro empty
    rw [newest, empty]
    rfl

/-- What `newest` reads lies under a name that no other name exceeds. -/
theorem newest_eq_some_iff (files : Files Name Content) (content : Content) :
    files.newest = some content ↔
      ∃ name, files.read name = some content ∧ ∀ other ∈ files.keys, other ≤ name := by
  have greatest : ∀ name, (files.keys.insertionSort (· ≤ ·)).getLast? = some name →
      name ∈ files.keys ∧ ∀ other ∈ files.keys, other ≤ name := by
    intro name last
    obtain ⟨front, split⟩ := getLast?_eq_some_iff.mp last
    have ordered := pairwise_insertionSort (· ≤ ·) files.keys
    rw [split] at ordered
    constructor
    · rw [← mem_insertionSort (r := (· ≤ ·))]
      exact mem_of_getLast? last
    · intro other member
      rw [← mem_insertionSort (r := (· ≤ ·)), split, mem_append, mem_singleton] at member
      obtain before | rfl := member
      · exact (pairwise_append.mp ordered).2.2 other before name (mem_singleton_self name)
      · exact le_refl other
  constructor
  · intro found
    obtain ⟨name, last, content⟩ := bind_eq_some_iff.mp found
    exact ⟨name, content, (greatest name last).2⟩
  · rintro ⟨name, found, above⟩
    have member := (mem_keys_iff files name).mpr ⟨content, found⟩
    cases last : (files.keys.insertionSort (· ≤ ·)).getLast? with
    | none =>
      have empty := (newest_eq_none_iff files).mp (by
        rw [newest, last]
        rfl)
      rw [empty] at member
      contradiction
    | some top =>
      obtain ⟨topMember, topAbove⟩ := greatest top last
      have same : top = name := le_antisymm (above top topMember) (topAbove name member)
      rw [newest, last, bind_some, same]
      exact found

/-- Write a list of files, the first of the list first. -/
def writeAll (writes : List (Name × Content)) (files : Files Name Content) :
    Files Name Content :=
  writes.foldl (fun current write => current.write write.1 write.2) files

@[simp]
theorem writeAll_nil (files : Files Name Content) :
    writeAll [] files = files :=
  rfl

theorem writeAll_concat (writes : List (Name × Content))
    (write : Name × Content) (files : Files Name Content) :
    writeAll (writes ++ [write]) files = (writeAll writes files).write write.1 write.2 := by
  rw [writeAll, foldl_append]
  rfl

theorem mem_keys_writeAll (writes : List (Name × Content)) (name : Name) :
    name ∈ (writeAll writes (∅ : Files Name Content)).keys ↔ ∃ write ∈ writes, write.1 = name := by
  induction writes using reverseRecOn with
  | nil => simp
  | append_singleton writes write ih =>
    rw [writeAll_concat, mem_keys_write, ih]
    simp [or_comm, eq_comm]

variable {writes : List (Name × Content)}

theorem exists_of_read_writeAll {content : Content}
    (found : (writeAll writes (∅ : Files Name Content)).read name = some content) :
    (name, content) ∈ writes := by
  induction writes using reverseRecOn with
  | nil => simp at found
  | append_singleton writes write ih =>
    rw [writeAll_concat] at found
    by_cases same : name = write.1
    · subst same
      rw [read_write] at found
      rw [← some.inj found]
      simp
    · rw [read_write_ne _ _ same] at found
      exact mem_append_left _ (ih found)

theorem keepsAll_iff (writes : List (Name × Content)) :
    (∀ write ∈ writes, (writeAll writes (∅ : Files Name Content)).read write.1 = some write.2) ↔
      ∀ write ∈ writes, ∀ other ∈ writes, write.1 = other.1 → write.2 = other.2 := by
  constructor
  · intro kept write member other otherMember sameName
    have found := kept write member
    rw [sameName, kept other otherMember] at found
    exact (some.inj found).symm
  · intro functional write member
    obtain ⟨content, found⟩ := (mem_keys_iff _ _).mp
      ((mem_keys_writeAll writes write.1).mpr ⟨write, member, rfl⟩)
    have written := exists_of_read_writeAll found
    rw [found, functional write member (write.1, content) written rfl]

theorem newest_writeAll_eq_some_iff
    (functional : ∀ write ∈ writes, ∀ other ∈ writes, write.1 = other.1 → write.2 = other.2)
    (content : Content) :
    (writeAll writes (∅ : Files Name Content)).newest = some content ↔
      ∃ write ∈ writes, write.2 = content ∧ ∀ other ∈ writes, other.1 ≤ write.1 := by
  rw [newest_eq_some_iff]
  constructor
  · rintro ⟨name, found, above⟩
    refine ⟨(name, content), exists_of_read_writeAll found, rfl, ?_⟩
    intro other member
    exact above other.1 ((mem_keys_writeAll writes other.1).mpr ⟨other, member, rfl⟩)
  · rintro ⟨write, member, rfl, above⟩
    refine ⟨write.1, (keepsAll_iff writes).mpr functional write member, ?_⟩
    intro name present
    obtain ⟨other, otherMember, rfl⟩ := (mem_keys_writeAll writes name).mp present
    exact above other otherMember

end Files

end DcpPlatform.Foundation
