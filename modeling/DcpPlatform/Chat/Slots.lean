import Mathlib.Data.Rat.Floor
import DcpPlatform.Foundation.Calls
import DcpPlatform.Foundation.Files

/-!
# In-flight slots

The per-provider counters of the chat route. A request takes a slot for every
upstream call it makes and gives its slots back in one final block; it is
split where it awaits an upstream answer, a stream or a queued job. Provider
ids are positive.
-/

namespace DcpPlatform.Chat.InFlight

open Foundation

abbrev Inflight := Files Nat Nat

def providerInflightCount (inflight : Inflight) (providerId : Nat) : Nat :=
  (inflight.read providerId).getD 0

def maxInflightPerProvider (configured : ℚ) : ℚ :=
  max 1 (if configured = 0 then 1 else configured)

def acquireProviderSlot (maximum : ℚ) (inflight : Inflight) (providerId : Nat) : Option Inflight :=
  if providerId = 0 then
    none
  else
    let cur := providerInflightCount inflight providerId
    if maximum ≤ cur then
      none
    else
      some (inflight.write providerId (cur + 1))

def releaseProviderSlot (inflight : Inflight) (providerId : Nat) :
    Inflight :=
  if providerId = 0 then
    inflight
  else
    let cur := providerInflightCount inflight providerId
    if cur ≤ 1 then
      inflight.remove providerId
    else
      inflight.write providerId (cur - 1)

/-- A fallback provider: whether it has an endpoint, and whether a model
variant fits it. -/
structure Candidate where
  id : Nat
  endpoint : Bool
  eligible : Bool

structure Selection where
  assigned : Nat
  proxied : Bool
  fallbackProviders : List Candidate

def Selection.fallbackCapable (selection : Selection) : List Candidate :=
  (selection.fallbackProviders.filter (fun provider =>
    provider.id ≠ selection.assigned && provider.endpoint)).take 2

inductive Phase where
  | upstream
  | streaming
  | queued
deriving DecidableEq

/-- A request that awaits something. `acquiredSlots` is its set of ids,
`dispatches` the providers of the upstream calls it took a slot for. -/
structure Pending where
  phase : Phase
  candidates : List Candidate
  acquiredSlots : List Nat
  dispatches : List Nat

structure Slots where
  inflight : Inflight
  calls : Calls Pending

def addSlot (slots : List Nat) (providerId : Nat) : List Nat :=
  if providerId ∈ slots then slots else slots ++ [providerId]

def nextFree (maximum : ℚ) (inflight : Inflight) :
    List Candidate → Option (Candidate × Inflight × List Candidate)
  | [] => none
  | candidate :: rest =>
    if candidate.eligible then
      match acquireProviderSlot maximum inflight candidate.id with
      | some taken => some (candidate, taken, rest)
      | none => nextFree maximum inflight rest
    else
      nextFree maximum inflight rest

def finish (slots : Slots) (call : Nat) (request : Pending) : Slots where
  inflight := request.acquiredSlots.foldl releaseProviderSlot slots.inflight
  calls := slots.calls.resume call none

/-- How an awaited upstream call settles: an error or an answer of no use, an
answer, a stream, or an exception. -/
inductive Settled where
  | noAnswer
  | body
  | stream
  | thrown

inductive Event where
  | arrive (call : Nat) (selection : Option Selection)
  | settle (call : Nat) (outcome : Settled)
  | streamEnds (call : Nat)
  | queueEnds (call : Nat)

def next (maximum : ℚ) (slots : Slots) : Event → Option Slots
  | .arrive call selection =>
    if slots.calls.IsFresh call then
      match selection with
      | none => some slots
      | some selection =>
        if selection.proxied then
          match acquireProviderSlot maximum slots.inflight selection.assigned with
          | none => some slots
          | some taken =>
            some
              { inflight := taken
                calls := slots.calls.start call
                  { phase := .upstream
                    candidates := selection.fallbackCapable
                    acquiredSlots := addSlot [] selection.assigned
                    dispatches := [selection.assigned] } }
        else
          some { slots with
            calls := slots.calls.start call
              { phase := .queued
                candidates := []
                acquiredSlots := []
                dispatches := [] } }
    else
      none
  | .settle call outcome =>
    match slots.calls.waitsFor call with
    | none => none
    | some request =>
      if request.phase ≠ .upstream then
        none
      else
        match outcome with
        | .body => some (finish slots call request)
        | .thrown => some (finish slots call request)
        | .stream =>
          some { slots with
            calls := slots.calls.resume call (some { request with phase := .streaming }) }
        | .noAnswer =>
          match nextFree maximum slots.inflight request.candidates with
          | none => some (finish slots call request)
          | some (candidate, taken, rest) =>
            some
              { inflight := taken
                calls := slots.calls.resume call (some { request with
                  candidates := rest
                  acquiredSlots := addSlot request.acquiredSlots candidate.id
                  dispatches := request.dispatches ++ [candidate.id] }) }
  | .streamEnds call =>
    match slots.calls.waitsFor call with
    | none => none
    | some request =>
      if request.phase = .streaming then
        some (finish slots call request)
      else
        none
  | .queueEnds call =>
    match slots.calls.waitsFor call with
    | none => none
    | some request =>
      if request.phase = .queued then
        some (finish slots call request)
      else
        none

def noRequests : Slots where
  inflight := ∅
  calls := Table.empty

end DcpPlatform.Chat.InFlight
