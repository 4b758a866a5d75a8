import DcpPlatform.Chat.LatencyGate
import DcpPlatform.Chat.Slots

/-!
# Routing with session affinity

The chat route chooses among the free capable providers through the latency
gate, and then prefers the provider that served the session before. The
upstream calls that follow are those of the in-flight slots.
-/

namespace DcpPlatform.Chat.Routing

open Foundation
open InFlight

structure Message where
  role : String
  content : Option String

structure Affinity where
  providerId : Nat
  expiresAt : Nat

abbrev Sessions := Files Nat Affinity

def SESSION_TTL_MS : Nat := 20 * 60 * 1000

def getSessionKey (messages : List Message) (model : String) : Nat :=
  let opening :=
    match messages.find? (fun message => message.role = "user") with
    | some message => message.content.getD ""
    | none => ""
  let units := utf16Units model ++ utf16Units ":" ++ (utf16Units opening).take 200
  units.foldl (fun hash unit => (hash * 33 + unit) % 2 ^ 31) 5381

def getAffinityProvider (now : Nat) (sessions : Sessions)
    (sessionKey : Nat) : Option Nat × Sessions :=
  match sessions.read sessionKey with
  | some entry =>
    if now < entry.expiresAt then
      (some entry.providerId, sessions)
    else
      (none, sessions.remove sessionKey)
  | none => (none, sessions)

def pruneExpired (now : Nat) (sessions : Sessions) : Sessions :=
  sessions.keys.foldl (fun kept key =>
    match kept.read key with
    | some entry =>
      if entry.expiresAt < now then kept.remove key else kept
    | none => kept)
    sessions

def setAffinityProvider (now : Nat) (sessions : Sessions)
    (sessionKey providerId : Nat) : Sessions :=
  let written := sessions.write sessionKey ⟨providerId, now + SESSION_TTL_MS⟩
  if 10000 < written.keys.length then
    pruneExpired now written
  else
    written

/-! ## The choice of a provider -/

structure Request where
  model : String
  requirements : ModelRequirements
  messages : List Message
  population : Population
  telemetry : Telemetry
  config : GateConfig

structure Situation where
  request : Request
  inflight : Inflight

def isProviderBusy (maximum : ℚ) (inflight : Inflight) (providerId : Nat) : Bool :=
  maximum ≤ providerInflightCount inflight providerId

def Situation.capable (situation : Situation) : List Routable :=
  capableProviders situation.request.population situation.request.requirements

def Situation.earned (situation : Situation) : EarnedState :=
  getEarnedRoutingState situation.request.population

def Situation.sessionKey (situation : Situation) : Nat :=
  getSessionKey situation.request.messages situation.request.model

def freeProviders (maximum : ℚ) (situation : Situation) : List Routable :=
  situation.capable.filter (fun routable =>
    !isProviderBusy maximum situation.inflight routable.id)

def servingProviders (maximum : ℚ) (situation : Situation) :
    List Routable :=
  (freeProviders maximum situation).filter (fun routable =>
    situation.earned.servingIds.contains routable.id)

def prefersVerified (maximum : ℚ) (situation : Situation) : Bool :=
  situation.request.population.mode = .earnedFirst && situation.earned.active &&
    !(servingProviders maximum situation).isEmpty

def gateCandidates (maximum : ℚ) (situation : Situation) : List Routable :=
  if prefersVerified maximum situation then
    servingProviders maximum situation
  else
    freeProviders maximum situation

def gateSelection (maximum : ℚ) (situation : Situation) : GateSelection :=
  selectProvidersWithLatencyGate situation.request.telemetry
    situation.request.config situation.request.population.now
    (gateCandidates maximum situation)

def passesGate (maximum : ℚ) (situation : Situation) : Bool :=
  !situation.capable.isEmpty && !(freeProviders maximum situation).isEmpty &&
    (gateSelection maximum situation).pass &&
    (gateSelection maximum situation).selectedProviderId.getD 0 ≠ 0

/-- `providerById.get`: the last row of an id counts. -/
def providerById (situation : Situation) (providerId : Nat) :
    Option Routable :=
  situation.capable.reverse.find? (fun routable =>
    routable.id = providerId)

/-- The provider of the session when it is both capable and not busy. -/
def stickyProvider (maximum : ℚ) (situation : Situation)
    (affinityId : Option Nat) : Option Routable :=
  match affinityId with
  | none => none
  | some providerId =>
    if providerId ≠ 0 && (freeProviders maximum situation).any (fun routable =>
      routable.id = providerId) then
      providerById situation providerId
    else
      none

structure Choice where
  assigned : Routable
  fallbackProviders : List Routable

def choose (maximum : ℚ) (sessions : Sessions) (situation : Situation) :
    Sessions × Option Choice :=
  if passesGate maximum situation then
    let selection := gateSelection maximum situation
    let now := situation.request.population.now
    let found := getAffinityProvider now sessions situation.sessionKey
    let assigned := (stickyProvider maximum situation found.1).or
        (selection.selectedProviderId.bind (providerById situation))
    match assigned with
    | none => (found.2, none)
    | some assigned =>
      (setAffinityProvider now found.2 situation.sessionKey assigned.id, some
        { assigned := assigned
          fallbackProviders := selection.fallbackProviderIds.filterMap (providerById situation) })
  else
    (sessions, none)

def toCandidate (request : Request) (routable : Routable) : Candidate where
  id := routable.id
  endpoint := routable.provider.endpoint || (routable.engine.map Engine.base).getD false
  eligible := (resolveProviderRoutingModel request.population request.requirements.model_id
    (resolveProviderVramMb routable.provider)).eligible

def toSelection (request : Request) (choice : Choice) : Selection where
  assigned := choice.assigned.id
  proxied := choice.assigned.provider.endpoint
  fallbackProviders := choice.fallbackProviders.map (toCandidate request)

structure Dispatch where
  provider : Nat
  inflight : Inflight
  situation : Situation

structure Router where
  sessions : Sessions
  slots : Slots
  routed : Files Nat Situation
  dispatched : List Dispatch

inductive Event where
  /-- A request is routed; it is `admitted` when nothing after the choice
  refuses it. -/
  | request (call : Nat) (request : Request) (admitted : Bool)
  | settle (call : Nat) (outcome : Settled)
  | streamEnds (call : Nat)
  | queueEnds (call : Nat)

def firstDispatch (maximum : ℚ) (situation : Situation)
    (selection : Option Selection) : List Dispatch :=
  match selection with
  | none => []
  | some selection =>
    if !selection.proxied ||
      (acquireProviderSlot maximum situation.inflight selection.assigned).isSome then
      [⟨selection.assigned, situation.inflight, situation⟩]
    else
      []

def nextDispatch (maximum : ℚ) (router : Router) (call : Nat) (outcome : Settled) : List Dispatch :=
  match outcome, router.slots.calls.waitsFor call, router.routed.read call with
  | .noAnswer, some pending, some situation =>
    match nextFree maximum router.slots.inflight pending.candidates with
    | some (candidate, _, _) =>
      [⟨candidate.id, router.slots.inflight, situation⟩]
    | none => []
  | _, _, _ => []

def next (maximum : ℚ) (router : Router) : Event → Option Router
  | .request call request admitted =>
    let situation := ⟨request, router.slots.inflight⟩
    let chosen := choose maximum router.sessions situation
    let selection :=
      if admitted then chosen.2.map (toSelection request) else none
    (InFlight.next maximum router.slots (.arrive call selection)).map (fun slots =>
      { sessions := chosen.1
        slots := slots
        routed := router.routed.write call situation
        dispatched := router.dispatched ++ firstDispatch maximum situation selection })
  | .settle call outcome =>
    (InFlight.next maximum router.slots (.settle call outcome)).map (fun slots =>
      { router with
        slots := slots
        dispatched := router.dispatched ++ nextDispatch maximum router call outcome })
  | .streamEnds call =>
    (InFlight.next maximum router.slots (.streamEnds call)).map
      (fun slots => { router with slots := slots })
  | .queueEnds call =>
    (InFlight.next maximum router.slots (.queueEnds call)).map
      (fun slots => { router with slots := slots })

def noSessions : Router where
  sessions := ∅
  slots := noRequests
  routed := ∅
  dispatched := []

end DcpPlatform.Chat.Routing
