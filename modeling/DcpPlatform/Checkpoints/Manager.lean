import DcpPlatform.Foundation.Files
import DcpPlatform.Foundation.Numerals

/-!
# Checkpoint manager

A save writes one document to an object store and to a local directory, each
of which may fail, under a name made from the clock cut to whole seconds. A
load asks the object store first. A document is a JSON object; `text` embeds
strings in the JSON values.
-/

namespace DcpPlatform.Checkpoints

open Foundation

/-- A reading of the UTC clock, as `datetime.now` gives it. -/
structure Moment where
  year : Nat
  month : Nat
  day : Nat
  hour : Nat
  minute : Nat
  second : Nat
  microsecond : Nat
  year_lt : year < 10 ^ 4 := by decide
  month_lt : month < 10 ^ 2 := by decide
  day_lt : day < 10 ^ 2 := by decide
  hour_lt : hour < 10 ^ 2 := by decide
  minute_lt : minute < 10 ^ 2 := by decide
  second_lt : second < 10 ^ 2 := by decide

namespace Moment

def wholeSecond (now : Moment) : List Nat :=
  [now.year, now.month, now.day, now.hour, now.minute, now.second]

end Moment

/-- `strftime` with the format `%Y%m%dT%H%M%SZ`. -/
def ts (now : Moment) : List Char :=
  numeral 4 now.year ++ (numeral 2 now.month ++ (numeral 2 now.day ++
    (['T'] ++ (numeral 2 now.hour ++ (numeral 2 now.minute ++ (numeral 2 now.second ++ ['Z']))))))

@[simp]
theorem length_ts (now : Moment) : (ts now).length = 16 := by
  simp [ts]

theorem ts_lt_iff (now later : Moment) :
    ts now < ts later ↔ now.wholeSecond < later.wholeSecond := by
  have years := numeral_lt_iff now.year_lt later.year_lt
  have months := numeral_lt_iff now.month_lt later.month_lt
  have days := numeral_lt_iff now.day_lt later.day_lt
  have hours := numeral_lt_iff now.hour_lt later.hour_lt
  have minutes := numeral_lt_iff now.minute_lt later.minute_lt
  have seconds := numeral_lt_iff now.second_lt later.second_lt
  have sameYears := numeral_inj now.year_lt later.year_lt
  have sameMonths := numeral_inj now.month_lt later.month_lt
  have sameDays := numeral_inj now.day_lt later.day_lt
  have sameHours := numeral_inj now.hour_lt later.hour_lt
  have sameMinutes := numeral_inj now.minute_lt later.minute_lt
  rw [ts, ts, append_lt_append_iff (by simp),
    append_lt_append_iff (by simp), append_lt_append_iff (by simp),
    append_left_lt_append_left_iff, append_lt_append_iff (by simp),
    append_lt_append_iff (by simp),
    append_right_lt_append_right_iff (by simp)]
  rw [years, months, days, hours, minutes, seconds, sameYears, sameMonths,
    sameDays, sameHours, sameMinutes]
  simp [Moment.wholeSecond, List.cons_lt_cons_iff]

section Documents

variable {Value : Type}

/-- A JSON object, its fields in the order of their first assignment. -/
abbrev Document (Value : Type) : Type :=
  List (String × Value)

def assign (document : Document Value) (field : String × Value) :
    Document Value :=
  if document.any (fun known => known.1 == field.1) then
    document.map (fun known => if known.1 == field.1 then field else known)
  else
    document ++ [field]

end Documents

structure Call (Value : Type) where
  container_id : String
  checkpoint_data : Document Value
  now : Moment
  uploads : Nat → Bool
  writable : Bool

structure CheckpointResult where
  s3_key : Option (List Char)
  local_path : Option (List Char)
deriving DecidableEq

inductive CheckpointError where
  | bothFailed (job_id : List Char)
deriving DecidableEq

structure Stores (Value : Type) where
  s3 : Files (List Char) (Document Value)
  disk : Files (List Char) (Document Value)

def noStores {Value : Type} : Stores Value where
  s3 := ∅
  disk := ∅

def S3_RETRY_DELAYS : List Nat := [1, 2, 4]

def s3UploadWithRetry : List Nat → Nat → (Nat → Bool) → Bool
  | [], _, _ => false
  | _ :: delays, attempt, uploads =>
    if uploads attempt then
      true
    else
      s3UploadWithRetry delays (attempt + 1) uploads

section Manager

variable {Value : Type} (text : String → Value) (local_base_path job_id : List Char)

def s3Key (now : Moment) : List Char :=
  "checkpoints/".toList ++ job_id ++ ['/'] ++ (ts now ++ ".json".toList)

def localPath (now : Moment) : List Char :=
  local_base_path ++ ['/'] ++ job_id ++ ['/'] ++ (ts now ++ ".json".toList)

def payload (call : Call Value) : Document Value :=
  call.checkpoint_data.foldl assign [("job_id", text (String.ofList job_id)),
      ("container_id", text call.container_id),
      ("saved_at", text (String.ofList (ts call.now)))]

def uploaded (call : Call Value) : Bool :=
  s3UploadWithRetry S3_RETRY_DELAYS 0 call.uploads

def saveCheckpoint (call : Call Value) (stores : Stores Value) :
    Except CheckpointError CheckpointResult × Stores Value :=
  let key := s3Key job_id call.now
  let path := localPath local_base_path job_id call.now
  let document := payload text job_id call
  let s3Ok := uploaded call
  let s3 := if s3Ok then stores.s3.write key document else stores.s3
  let localOk := call.writable
  let disk := if localOk then stores.disk.write path document else stores.disk
  if !s3Ok && !localOk then
    (.error (.bothFailed job_id), { s3, disk })
  else
    (.ok
      { s3_key := if s3Ok then Option.some key else Option.none
        local_path := if localOk then Option.some path else Option.none },
      { s3, disk })

structure Readable where
  s3 : Bool
  disk : Bool

inductive LoadError where
  | unreadable
deriving DecidableEq

def loadCheckpoint (readable : Readable) (stores : Stores Value) :
    Except LoadError (Option (Document Value)) :=
  if readable.s3 && !stores.s3.keys.isEmpty then
    .ok stores.s3.newest
  else if readable.disk then
    .ok stores.disk.newest
  else
    .error .unreadable

def saveAll (calls : List (Call Value)) : Stores Value :=
  calls.foldl (fun stores call =>
    (saveCheckpoint text local_base_path job_id call stores).2)
    noStores

end Manager

end DcpPlatform.Checkpoints
