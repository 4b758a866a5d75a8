import DcpPlatform.Foundation.Calls
import DcpPlatform.Foundation.InsertionMap
import DcpPlatform.Foundation.Text
import Mathlib.Data.Rat.Floor

/-!
# Idempotency keys of chat requests

Answers of providers are kept under the key that came with the request. A
request is split where it awaits its provider, through the endpoint or through
the job queue; only answers through the endpoint are kept.
-/

namespace DcpPlatform.Chat.Idempotency

open Foundation

section Cache

variable {Response : Type}

/-- An answer that is kept. `producedBy` is the request that it was the
answer to, which the code does not note. -/
structure Entry (Response : Type) where
  response : Response
  statusCode : Nat
  settledAt : Nat
  producedBy : Nat

abbrev Cache (Response : Type) :=
  InsertionMap (Nat × String) (Entry Response)

def idempotencyTtlMs (configured : ℚ) : ℚ :=
  max 10000 (if configured = 0 then 60000 else configured)

def IDEMPOTENCY_MAX_ENTRIES : Nat := 5000

def isExpired (ttl : ℚ) (now : Nat) (entry : Entry Response) : Bool :=
  ttl < (now : ℚ) - entry.settledAt

def idempotencySweep (ttl : ℚ) (now : Nat) (cache : Cache Response) :
    Cache Response :=
  if cache.length ≤ IDEMPOTENCY_MAX_ENTRIES then
    cache
  else
    let live := cache.deleteWhere (isExpired ttl now)
    live.dropOldest (live.length - IDEMPOTENCY_MAX_ENTRIES)

def idempotencyKey (renterId : Nat) (key : String) : Nat × String :=
  (renterId, clip 200 key)

def getIdempotencyEntry (ttl : ℚ) (now : Nat) (cache : Cache Response)
    (renterId : Nat) (key : String) :
    Option (Entry Response) × Cache Response :=
  let name := idempotencyKey renterId key
  match cache.get name with
  | none => (none, cache)
  | some entry =>
    if isExpired ttl now entry then
      (none, cache.delete name)
    else
      (some entry, cache)

def settleIdempotencyEntry (ttl : ℚ) (now : Nat) (cache : Cache Response)
    (renterId : Nat) (key : String) (response : Response)
    (producedBy : Nat) : Cache Response :=
  (idempotencySweep ttl now cache).set (idempotencyKey renterId key)
    { response, statusCode := 200, settledAt := now, producedBy }

end Cache

structure Request (Body : Type) where
  renter : Nat
  header : Option String
  stream : Bool
  body : Body

def Request.key {Body : Type} (request : Request Body) : Option String :=
  if request.stream then
    none
  else
    request.header.bind (normalizeString 200)

inductive Path where
  | proxy
  | queue

structure Pending (Body : Type) where
  request : Request Body
  begunAt : Nat
  path : Path

/-- An answer of a provider, which was handed to the billing. -/
structure Served (Body Response : Type) where
  call : Nat
  request : Request Body
  response : Response
  begunAt : Nat
  settledAt : Nat

structure Replay (Body Response : Type) where
  request : Request Body
  response : Response
  statusCode : Nat
  repliedAt : Nat

structure Chats (Body Response : Type) where
  cache : Cache Response
  calls : Calls (Pending Body)
  served : List (Served Body Response)
  replayed : List (Replay Body Response)

inductive Event (Body Response : Type) where
  | arrive (call now : Nat) (request : Request Body) (path : Option Path)
  | settle (call now : Nat) (answer : Option Response)

variable {Body Response : Type}

def lookUp (ttl : ℚ) (now : Nat) (cache : Cache Response)
    (request : Request Body) : Option (Entry Response) × Cache Response :=
  match request.key with
  | none => (none, cache)
  | some key => getIdempotencyEntry ttl now cache request.renter key

def keepAnswer (ttl : ℚ) (now : Nat) (cache : Cache Response)
    (pending : Pending Body) (call : Nat) (response : Response) :
    Cache Response :=
  match pending.path, pending.request.key with
  | .proxy, some key =>
    settleIdempotencyEntry ttl now cache pending.request.renter key response call
  | _, _ => cache

def next (ttl : ℚ) (chats : Chats Body Response) :
    Event Body Response → Option (Chats Body Response)
  | .arrive call now request path =>
    if chats.calls.IsFresh call then
      let found := lookUp ttl now chats.cache request
      match found.1 with
      | some entry =>
        some { chats with
          cache := found.2
          replayed := chats.replayed ++ [⟨request, entry.response, entry.statusCode, now⟩] }
      | none =>
        match path with
        | none => some { chats with cache := found.2 }
        | some path =>
          some { chats with
            cache := found.2
            calls := chats.calls.start call ⟨request, now, path⟩ }
    else
      none
  | .settle call now answer =>
    match chats.calls.waitsFor call with
    | none => none
    | some pending =>
      match answer with
      | none =>
        some { chats with calls := chats.calls.resume call none }
      | some response =>
        some { chats with
          cache := keepAnswer ttl now chats.cache pending call response
          calls := chats.calls.resume call none
          served := chats.served ++ [⟨call, pending.request, response, pending.begunAt, now⟩] }

def noChats : Chats Body Response where
  cache := []
  calls := Table.empty
  served := []
  replayed := []

end DcpPlatform.Chat.Idempotency
