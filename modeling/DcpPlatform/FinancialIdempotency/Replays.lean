import DcpPlatform.Foundation.Table
import DcpPlatform.Foundation.Text
import DcpPlatform.Foundation.Transition

/-!
# Replays of financial requests

`withFinancialIdempotency` keeps the successful answers of a handler under a
digest of subject, endpoint and client key. A handler waits for the gateway,
so requests interleave, and two with one key may both be handled. What is
replayed is the answer to an earlier request with the same key.
-/

namespace DcpPlatform.FinancialIdempotency

open Foundation Table List

def nul : Char :=
  Char.ofNat 0

/-- What the middleware reads of a request and of the options of its route. -/
structure Call where
  subjectType : String
  subjectId : Option String
  method : String
  routePath : String
  idempotencyKey : String
  xIdempotencyKey : String
  ttlMs : Int

namespace Call

variable (call : Call)

def clientKey : String :=
  trim (if call.idempotencyKey = "" then call.xIdempotencyKey else call.idempotencyKey)

def endpointTag : String :=
  call.method ++ " " ++ call.routePath

def parts : List String :=
  [call.subjectType, call.subjectId.getD "", call.endpointTag, call.clientKey]

/-- No key for a request that is passed through or refused for a long key. -/
def keyHash (digest : String → String) : Option String :=
  if call.clientKey = "" ∨ 256 < utf16Length call.clientKey ∨ call.subjectId.getD "" = "" then none
  else some (digest ((String.singleton nul).intercalate call.parts))

end Call

/-- Headers, paths and ids contain no NUL. -/
structure Request extends Call where
  clean : ∀ part ∈ toCall.parts, nul ∉ part.toList

structure Row where
  keyHash : String
  responseStatus : Nat
  responseBody : Option String
  expiresAt : Int

/-- An answer that a client has received, from a handler or from the store. -/
structure Answer where
  request : Request
  status : Nat
  body : Option String
  sentAt : Int
  replayed : Bool

/-- The stored answers, the requests that wait for their handlers, and all
answers so far, latest first. -/
structure System where
  rows : Table Row Row.keyHash
  handling : List Request
  answers : List Answer

def System.empty : System :=
  ⟨Table.empty, [], []⟩

def evictExpired (rows : Table Row Row.keyHash) (now : Int) : Table Row Row.keyHash where
  rows := rows.rows.filter (fun row => now < row.expiresAt)
  keysNodup := rows.keysNodup.sublist (filter_sublist.map Row.keyHash)

/-- `INSERT OR REPLACE INTO idempotency_keys`, of a successful answer of at
most 64 KB. -/
def captureJson (rows : Table Row Row.keyHash) (keyHash : String) (ttlMs : Int) (status : Nat)
    (body : Option String) (now : Int) : Table Row Row.keyHash :=
  if 200 ≤ status ∧ status < 300 ∧ utf16Length (body.getD "") ≤ 64 * 1024 then
    rows.put ⟨keyHash, status, body, now + ttlMs⟩
  else
    rows

inductive Action
  | arrive (request : Request) (now : Int) (readFails evicts : Bool)
  /-- The handler at `index` answers. -/
  | answer (index : Nat) (status : Nat) (body : Option String) (now : Int) (writeFails : Bool)

def next (digest : String → String) (system : System) : Action → Option System
  | .arrive request now readFails evicts =>
    match request.keyHash digest with
    | none => some system
    | some keyHash =>
      match if readFails then none else system.rows.lookup keyHash with
      | none => some (forward request now evicts)
      | some row =>
        if now < row.expiresAt then
          some { system with
            answers :=
              ⟨request, row.responseStatus, row.responseBody, now, true⟩ :: system.answers }
        else
          some (forward request now evicts)
  | .answer index status body now writeFails =>
    match system.handling[index]? with
    | none => none
    | some request => some
        { rows := match request.keyHash digest with
            | none => system.rows
            | some keyHash =>
              if writeFails then system.rows
              else captureJson system.rows keyHash request.ttlMs status body now
          handling := system.handling.eraseIdx index
          answers := ⟨request, status, body, now, false⟩ :: system.answers }
where
  forward (request : Request) (now : Int) (evicts : Bool) : System :=
    { system with
      rows := if evicts then evictExpired system.rows now else system.rows
      handling := system.handling ++ [request] }

/-! ## What is replayed -/

/-- The two requests of one subject name one endpoint and one key. -/
def SameRequest (first second : Call) : Prop :=
  first.subjectType = second.subjectType ∧ first.subjectId = second.subjectId ∧
    first.endpointTag = second.endpointTag ∧ first.clientKey = second.clientKey

/-- The handler answered with success, as the replay does before the end of
the time that the route allows. -/
structure Replays (later earlier : Answer) : Prop where
  handled : earlier.replayed = false
  same : SameRequest earlier.request.toCall later.request.toCall
  successful : 200 ≤ earlier.status ∧ earlier.status < 300
  answered : later.status = earlier.status ∧ later.body = earlier.body
  inTime : later.sentAt < earlier.sentAt + earlier.request.ttlMs

/-- Every replay repeats an answer before it. -/
def Justified : List Answer → Prop
  | [] => True
  | answer :: earlier =>
    (answer.replayed = true → ∃ first ∈ earlier, Replays answer first) ∧ Justified earlier

variable {digest : String → String}

/-- A row holds an answer of a handler, under the key of its request. -/
def Holds (digest : String → String) (answers : List Answer) (row : Row) : Prop :=
  ∃ answer ∈ answers, answer.replayed = false ∧
    answer.request.keyHash digest = some row.keyHash ∧
    (200 ≤ answer.status ∧ answer.status < 300) ∧ answer.status = row.responseStatus ∧
    answer.body = row.responseBody ∧ row.expiresAt = answer.sentAt + answer.request.ttlMs

theorem sameRequest_of_keyHash (noCollisions : Function.Injective digest) {first second : Request}
    {keyHash : String} (one : first.keyHash digest = some keyHash)
    (other : second.keyHash digest = some keyHash) :
    SameRequest first.toCall second.toCall := by
  unfold Call.keyHash at one other
  split at one
  next => cases one
  next keyed =>
    split at other
    next => cases other
    next otherKeyed =>
      have joined := noCollisions (Option.some.inj (one.trans other.symm))
      have split := String.toList_split_intercalate first.clean
      rw [joined, String.toList_split_intercalate second.clean] at split
      have parts : first.parts = second.parts := by
        simpa [Call.parts] using split.symm
      simp only [Call.parts, cons.injEq, and_true] at parts
      refine ⟨parts.1, ?_, parts.2.2⟩
      cases id : first.subjectId <;> cases otherId : second.subjectId <;> simp_all

/-- The rows hold answers of handlers, and every replay is justified. -/
structure Sound (digest : String → String) (system : System) : Prop where
  rows : ∀ row ∈ system.rows.rows, Holds digest system.answers row
  answers : Justified system.answers

theorem Holds.later {answers : List Answer} {row : Row} (holds : Holds digest answers row)
    (answer : Answer) : Holds digest (answer :: answers) row := by
  obtain ⟨first, member, facts⟩ := holds
  exact ⟨first, mem_cons_of_mem _ member, facts⟩

theorem mem_put {rows : Table Row Row.keyHash} {row stored : Row}
    (member : stored ∈ (rows.put row).rows) : stored = row ∨ stored ∈ rows.rows := by
  have found := lookup_of_mem member
  rw [lookup_put] at found
  split at found
  next => exact Or.inl (Option.some.inj found).symm
  next => exact Or.inr (lookup_mem found)

theorem Sound.forward {system : System} (sound : Sound digest system) (request : Request)
    (now : Int) (evicts : Bool) : Sound digest (next.forward system request now evicts) := by
  refine ⟨?_, sound.answers⟩
  intro row member
  cases evicts with
  | false => exact sound.rows row member
  | true => exact sound.rows row (mem_of_mem_filter member)

theorem Sound.step (noCollisions : Function.Injective digest) {source target : System}
    {action : Action} (sound : Sound digest source)
    (fires : Fires (next digest) source action target) :
    Sound digest target := by
  unfold Fires next at fires
  cases action with
  | arrive request now readFails evicts =>
    simp only at fires
    split at fires
    next => cases fires; exact sound
    next keyHash keyed =>
      split at fires
      next => cases fires; exact sound.forward request now evicts
      next row found =>
        split at fires
        next fresh =>
          cases fires
          have stored : source.rows.lookup keyHash = some row := by
            cases readFails with
            | false => exact found
            | true => cases found
          have held := sound.rows row (lookup_mem stored)
          refine ⟨fun row member => (sound.rows row member).later _, ?_, sound.answers⟩
          intro _
          obtain ⟨first, member, handled, same, successful, status, body, expiry⟩ := held
          rw [lookup_key stored] at same
          exact ⟨first, member, handled, sameRequest_of_keyHash noCollisions same keyed,
            successful, ⟨status.symm, body.symm⟩, expiry ▸ fresh⟩
        next => cases fires; exact sound.forward request now evicts
  | answer index status body now writeFails =>
    simp only at fires
    split at fires
    next => cases fires
    next request waiting =>
      cases fires
      refine ⟨?_, nofun, sound.answers⟩
      intro row member
      have kept (old : row ∈ source.rows.rows) :
          Holds digest (⟨request, status, body, now, false⟩ :: source.answers) row :=
        (sound.rows row old).later _
      simp only at member
      split at member
      next => exact kept member
      next keyHash keyed =>
        split at member
        next => exact kept member
        next =>
          unfold captureJson at member
          split at member
          next small =>
            rcases mem_put member with rfl | old
            · exact ⟨_, mem_cons_self, rfl, keyed, ⟨small.1, small.2.1⟩, rfl, rfl, rfl⟩
            · exact kept old
          next => exact kept member

def sampleRequest : Request where
  subjectType := "renter"
  subjectId := some "7"
  method := "POST"
  routePath := "/topup"
  idempotencyKey := " once "
  xIdempotencyKey := ""
  ttlMs := 1000
  clean := by decide +kernel

end DcpPlatform.FinancialIdempotency
