import DcpPlatform.Foundation.Files
import DcpPlatform.Foundation.Numerals

/-!
# Failover checkpoints

The saves, loads and prunes of one job's numbered checkpoints. A save writes
the bytes to the NAS and to the bucket under a name made from its number, and
appends an entry to the metadata file on the NAS.
-/

namespace DcpPlatform.Checkpoints

open Foundation

abbrev Bytes : Type := List UInt8

structure Entry (Digest : Type) where
  num : Int
  checksum : Digest
  nas_path : List Char
  s3_key : List Char
  size : Nat
  saved_at : Nat
deriving DecidableEq

structure CheckpointRef (Digest : Type) where
  job_id : List Char
  checkpoint_num : Int
  nas_path : List Char
  s3_key : List Char
  checksum_sha256 : Digest
  size_bytes : Nat
  saved_at : Nat
deriving DecidableEq

inductive MetaFile (Digest : Type) where
  | missing
  | garbled
  | entries (listed : List (Entry Digest))
deriving DecidableEq

structure Storage (Digest : Type) where
  nas : Files (List Char) Bytes
  metaFile : MetaFile Digest
  s3 : Files (List Char) Bytes

def emptyStorage {Digest : Type} : Storage Digest where
  nas := ∅
  metaFile := .missing
  s3 := ∅

inductive SaveError where
  | nasIntegrity
  | s3Integrity
  | unreadableMeta
deriving DecidableEq

section Failover

variable {Digest : Type} [DecidableEq Digest] (sha256 : Bytes → Digest)
  (NAS_PATH job_id : List Char) (KEEP_N : Nat)

def ckptName (num : Int) : List Char :=
  zeroPaddedInt 6 num ++ ".ckpt".toList

def nasFile (num : Int) : List Char :=
  NAS_PATH ++ ['/'] ++ job_id ++ ['/'] ++ ckptName num

def failoverKey (num : Int) : List Char :=
  "checkpoints/".toList ++ job_id ++ ['/'] ++ ckptName num

def loadMeta (storage : Storage Digest) :
    Except SaveError (List (Entry Digest)) :=
  match storage.metaFile with
  | .missing => .ok []
  | .garbled => .error .unreadableMeta
  | .entries listed => .ok listed

def toDelete {Item : Type} (keep_n : Nat) (items : List Item) : List Item :=
  if keep_n = 0 then [] else items.take (items.length - keep_n)

def remaining {Item : Type} (keep_n : Nat) (items : List Item) : List Item :=
  if keep_n = 0 then items else items.drop (items.length - keep_n)

def deleteEntry (storage : Storage Digest) (entry : Entry Digest) :
    Storage Digest :=
  { storage with
    nas := storage.nas.remove entry.nas_path
    s3 := storage.s3.remove entry.s3_key }

def deleteOldCheckpoints (keep_n : Nat) (listed : List (Entry Digest))
    (storage : Storage Digest) : Storage Digest :=
  if listed.length ≤ keep_n then
    storage
  else
    { (toDelete keep_n listed).foldl deleteEntry storage with
      metaFile := .entries (remaining keep_n listed) }

structure Save where
  num : Int
  data : Bytes
  now : Nat
deriving DecidableEq

def entryOf (save : Save) : Entry Digest where
  num := save.num
  checksum := sha256 save.data
  nas_path := nasFile NAS_PATH job_id save.num
  s3_key := failoverKey job_id save.num
  size := save.data.length
  saved_at := save.now

def refOf (entry : Entry Digest) : CheckpointRef Digest where
  job_id := job_id
  checkpoint_num := entry.num
  nas_path := entry.nas_path
  s3_key := entry.s3_key
  checksum_sha256 := entry.checksum
  size_bytes := entry.size
  saved_at := entry.saved_at

/-- The failover module's `save_checkpoint`. -/
def saveNumbered (save : Save) (storage : Storage Digest) :
    Except SaveError (CheckpointRef Digest) × Storage Digest :=
  let checksum := sha256 save.data
  let nas_file := nasFile NAS_PATH job_id save.num
  let onNas := { storage with nas := storage.nas.write nas_file save.data }
  if (onNas.nas.read nas_file).map sha256 ≠ some checksum then
    (.error .nasIntegrity, onNas)
  else
    let key := failoverKey job_id save.num
    let onBoth := { onNas with s3 := onNas.s3.write key save.data }
    if (onBoth.s3.read key).map sha256 ≠ some checksum then
      (.error .s3Integrity, onBoth)
    else
      match loadMeta onBoth with
      | .error failure => (.error failure, onBoth)
      | .ok listed =>
        let entry := entryOf sha256 NAS_PATH job_id save
        let appended := listed ++ [entry]
        (.ok (refOf job_id entry), deleteOldCheckpoints KEEP_N appended
          { onBoth with metaFile := .entries appended })

/-- The failover module's `load_checkpoint`; its default number is `-1`. -/
def loadNumbered (checkpoint_num : Int) (storage : Storage Digest) :
    Except SaveError (Option (CheckpointRef Digest)) × Storage Digest :=
  match loadMeta storage with
  | .error failure => (.error failure, storage)
  | .ok listed =>
    match
      if checkpoint_num = -1 then
        listed.getLast?
      else
        listed.find? (fun entry => entry.num = checkpoint_num) with
    | none => (.ok none, storage)
    | some entry =>
      if (storage.nas.read entry.nas_path).map sha256 = some entry.checksum then
        (.ok (some (refOf job_id entry)), storage)
      else
        match storage.s3.read entry.s3_key with
        | none => (.ok none, storage)
        | some data =>
          if sha256 data ≠ entry.checksum then
            (.ok none, storage)
          else
            (.ok (some (refOf job_id entry)), { storage with
              nas := storage.nas.write entry.nas_path data })

/-- The stored files, and the saves that returned, the first of them first. -/
structure Failover (Digest : Type) where
  storage : Storage Digest
  saves : List Save

inductive Event (Digest : Type) where
  | save (save : Save)
  | load (checkpoint_num : Int)
  | lose (path : List Char)
  | corrupt (path : List Char) (data : Bytes)
  | damageMeta (found : MetaFile Digest)

def nextFailover (state : Failover Digest) :
    Event Digest → Option (Failover Digest)
  | .save save =>
    match saveNumbered sha256 NAS_PATH job_id KEEP_N save state.storage with
    | (.ok _, storage) =>
      some { storage, saves := state.saves ++ [save] }
    | (.error _, storage) => some { state with storage }
  | .load checkpoint_num =>
    some { state with
      storage := (loadNumbered sha256 job_id checkpoint_num state.storage).2 }
  | .lose path =>
    some { state with
      storage :=
        { state.storage with nas := state.storage.nas.remove path } }
  | .corrupt path data =>
    some { state with
      storage :=
        { state.storage with nas := state.storage.nas.write path data } }
  | .damageMeta found =>
    some { state with storage := { state.storage with metaFile := found } }

def noSaves : Failover Digest where
  storage := emptyStorage
  saves := []

end Failover

end DcpPlatform.Checkpoints
