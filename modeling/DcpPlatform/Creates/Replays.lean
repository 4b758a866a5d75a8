import DcpPlatform.Foundation.Text

/-!
# Idempotent creation

LoRA training jobs, evaluator jobs and batches are created under an optional
idempotency key. A key is used once, and a call that reuses it gets the job of
the first call, whatever it asks for.
-/

namespace DcpPlatform.Creates

open Foundation List

inductive Kind where
  | loraTraining
  | evaluator
  | batchInference
deriving DecidableEq

structure JobRow (Body : Type) where
  jobId : String
  renterId : Nat
  idempotencyKey : Option String
  body : Body
deriving DecidableEq

/-- A call; `jobId` is the given or the generated id. -/
structure CreateCall (Input : Type) where
  kind : Kind
  renterId : Nat
  idempotencyKey : Option String
  jobId : String
  input : Input

inductive Answer (Body : Type) where
  | created (job : JobRow Body)
  | replay (job : JobRow Body)
  | refused
deriving DecidableEq

/-- `/^[A-Za-z0-9_.:-]{1,180}$/`, of a key that is not empty. -/
def urlSafeKey (value : Option String) : Option (Option String) :=
  match value.filter (· ≠ "") with
  | none => some none
  | some value =>
    let key := (trim value).toList
    if key ≠ [] ∧ key.length ≤ 180 ∧
        key.all (fun character => character.isAlphanum || "_.:-".toList.contains character) then
      some (some (trim value))
    else
      none

def boundedKey (value : Option String) : Option (Option String) :=
  match (value.map trim).filter (· ≠ "") with
  | none => some none
  | some key => if utf16Length key ≤ 180 then some (some key) else none

/-- `normalizeOptionalIdempotencyKey`; the outer `none` is an exception. -/
def normalizeOptionalIdempotencyKey : Kind → Option String → Option (Option String)
  | .evaluator => boundedKey
  | .loraTraining | .batchInference => urlSafeKey

section Services

variable {Input Body : Type} (normalize : CreateCall Input → Option Body)

def createJob (rows : List (JobRow Body)) (call : CreateCall Input) :
    Answer Body × List (JobRow Body) :=
  match normalizeOptionalIdempotencyKey call.kind call.idempotencyKey with
  | none => (.refused, rows)
  | some key =>
    match rows.find? (fun row =>
      key.isSome && row.renterId == call.renterId && row.idempotencyKey == key) with
    | some existing => (.replay existing, rows)
    | none =>
      match normalize call with
      | none => (.refused, rows)
      | some body =>
        if rows.any (fun row => row.jobId == call.jobId) then
          (.refused, rows)
        else
          let row : JobRow Body := ⟨call.jobId, call.renterId, key, body⟩
          (.created row, rows ++ [row])

structure Services (Input Body : Type) where
  jobs : Kind → List (JobRow Body)
  log : List (CreateCall Input × Answer Body)

def Services.create (services : Services Input Body) (call : CreateCall Input) :
    Services Input Body :=
  let (answer, rows) := createJob normalize (services.jobs call.kind) call
  { jobs := fun kind => if kind = call.kind then rows else services.jobs kind
    log := services.log ++ [(call, answer)] }

def createAll (calls : List (CreateCall Input)) : Services Input Body :=
  calls.foldl (Services.create normalize) ⟨fun _ => [], []⟩

def SameKey (first second : CreateCall Input) : Prop :=
  first.kind = second.kind ∧ first.renterId = second.renterId ∧
    ∃ key, normalizeOptionalIdempotencyKey first.kind first.idempotencyKey = some (some key) ∧
      normalizeOptionalIdempotencyKey second.kind second.idempotencyKey = some (some key)

/-- After the calls of `earlier`, a key that was used creates no job, and a
replay gives the job that an earlier call with the key created. -/
def Answered (earlier : List (CreateCall Input × Answer Body)) (call : CreateCall Input) :
    Answer Body → Prop
  | .created _ => ∀ entry ∈ earlier, SameKey entry.1 call → ∀ job, entry.2 ≠ .created job
  | .replay job => ∃ entry ∈ earlier, SameKey entry.1 call ∧ entry.2 = .created job
  | .refused => True

def Idempotent (log : List (CreateCall Input × Answer Body)) : Prop :=
  ∀ front call answer back, log = front ++ (call, answer) :: back → Answered front call answer

structure Recorded (services : Services Input Body) : Prop where
  stored : ∀ kind job, job ∈ services.jobs kind ↔
    ∃ entry ∈ services.log, entry.1.kind = kind ∧ entry.2 = .created job
  keyed : ∀ entry ∈ services.log, ∀ job, entry.2 = .created job →
    job.renterId = entry.1.renterId ∧
      normalizeOptionalIdempotencyKey entry.1.kind entry.1.idempotencyKey = some job.idempotencyKey
  answered : Idempotent services.log

variable {services : Services Input Body}

theorem createJob_cases (rows : List (JobRow Body)) (call : CreateCall Input) :
    (∃ job, createJob normalize rows call = (.created job, rows ++ [job]) ∧
        job.renterId = call.renterId ∧
        normalizeOptionalIdempotencyKey call.kind call.idempotencyKey = some job.idempotencyKey ∧
        ∀ row ∈ rows, job.idempotencyKey.isSome → row.renterId = call.renterId →
          row.idempotencyKey ≠ job.idempotencyKey) ∨
      (∃ job ∈ rows, createJob normalize rows call = (.replay job, rows) ∧
        job.renterId = call.renterId ∧ job.idempotencyKey.isSome ∧
        normalizeOptionalIdempotencyKey call.kind call.idempotencyKey = some job.idempotencyKey) ∨
      createJob normalize rows call = (.refused, rows) := by
  rw [createJob]
  split
  · exact Or.inr (Or.inr rfl)
  · rename_i key named
    split
    · rename_i existing found
      have same := find?_some found
      simp only [Bool.and_eq_true, beq_iff_eq] at same
      obtain ⟨⟨given, renter⟩, rfl⟩ := same
      exact Or.inr (Or.inl ⟨existing, mem_of_find?_eq_some found, rfl, renter, given, named⟩)
    · rename_i missing
      split
      · exact Or.inr (Or.inr rfl)
      · split
        · exact Or.inr (Or.inr rfl)
        · refine Or.inl ⟨_, rfl, rfl, named, ?_⟩
          intro row member given renter same
          have unseen := find?_eq_none.mp missing row member
          simp [given, renter, same] at unseen

theorem createJob_answered (recorded : Recorded services) (call : CreateCall Input) :
    Answered services.log call (createJob normalize (services.jobs call.kind) call).1 := by
  rcases createJob_cases normalize (services.jobs call.kind) call with
    ⟨job, result, _, named, unseen⟩ | ⟨job, stored, result, renter, given, named⟩ | result
  · rw [result]
    intro entry member ⟨kind, renter, key, first, second⟩ other made
    obtain ⟨owner, keyed⟩ := recorded.keyed entry member other made
    rw [first] at keyed
    rw [second] at named
    have name := Option.some.inj named
    exact unseen other ((recorded.stored _ _).mpr ⟨entry, member, kind, made⟩) (name ▸ rfl)
      (owner.trans renter) ((Option.some.inj keyed).symm.trans name)
  · rw [result]
    obtain ⟨entry, member, kind, made⟩ := (recorded.stored _ _).mp stored
    obtain ⟨owner, keyed⟩ := recorded.keyed entry member job made
    obtain ⟨key, name⟩ := Option.isSome_iff_exists.mp given
    exact ⟨entry, member, ⟨kind, owner.symm.trans renter, key, name ▸ keyed, name ▸ named⟩, made⟩
  · rw [result]
    trivial

variable {normalize}

theorem Recorded.create (recorded : Recorded services) (call : CreateCall Input) :
    Recorded (services.create normalize call) := by
  have answered := createJob_answered normalize recorded call
  refine ⟨?_, ?_, ?_⟩
  · intro kind job
    rcases createJob_cases normalize (services.jobs call.kind) call with
      ⟨added, result, _⟩ | ⟨_, _, result, _⟩ | result
    all_goals
      by_cases same : kind = call.kind <;>
        simp [Services.create, result, same, or_and_right, exists_or, ← recorded.stored,
          @eq_comm _ job, Ne.symm]
  · intro entry member job made
    rcases mem_append.mp member with old | new
    · exact recorded.keyed entry old job made
    · obtain rfl := mem_singleton.mp new
      change (createJob normalize (services.jobs call.kind) call).1 = _ at made
      rcases createJob_cases normalize (services.jobs call.kind) call with
        ⟨added, result, owner, named, _⟩ | ⟨_, _, result, _⟩ | result
      all_goals
        rw [result] at made
        cases made
      exact ⟨owner, named⟩
  · intro front other answer back split
    rcases eq_nil_or_concat back with rfl | ⟨rest, last, rfl⟩
    · obtain ⟨rfl, same⟩ := append_inj' split rfl
      cases same
      exact answered
    · rw [concat_eq_append, ← cons_append, ← append_assoc] at split
      exact recorded.answered _ _ _ _ (append_inj' split rfl).1

/-- Every call is answered in view of the calls before it. -/
theorem calls_answered (normalize : CreateCall Input → Option Body)
    (calls : List (CreateCall Input)) : Idempotent (createAll normalize calls).log := by
  have recorded : ∀ (services : Services Input Body), Recorded services →
      Recorded (calls.foldl (Services.create normalize) services) := by
    induction calls with
    | nil => exact fun _ recorded => recorded
    | cons call calls ih => exact fun _ recorded => ih _ (recorded.create call)
  exact (recorded ⟨fun _ => [], []⟩ ⟨by simp, by simp, by simp [Idempotent]⟩).answered

/-- A second evaluator job under the key is answered with the first one. -/
theorem replay_of_other_body :
    (createAll (fun call => some call.input)
      [⟨.evaluator, 1, some "eval-1", "evaljob_aaaaaaaa", "a"⟩,
        ⟨.evaluator, 1, some "eval-1", "evaljob_bbbbbbbb", "b"⟩]).log.map Prod.snd =
      [.created ⟨"evaljob_aaaaaaaa", 1, some "eval-1", "a"⟩,
        .replay ⟨"evaljob_aaaaaaaa", 1, some "eval-1", "a"⟩] := by
  decide

end Services

end DcpPlatform.Creates
