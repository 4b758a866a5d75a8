import Mathlib.Data.List.Infix
import Mathlib.Data.Rat.Floor
import DcpPlatform.Foundation.Text

/-!
# Providers that can serve a model

The names under which a model is known, and the providers that the chat route
finds for one: through their engines where several are registered, through
their own endpoint otherwise. The lists of the text columns are read as
parsed.
-/

namespace DcpPlatform.Chat.Routing

open Foundation

def DASH_TO_CANONICAL : List (String × String) :=
  [("allam-ai/allam-7b-instruct-preview", "allam-q4"), ("allam-7b-instruct", "allam-q4"),
    ("baai/bge-m3", "bge-m3"),
    ("deepseek-r1-7b", "deepseek-r1:7b"),
    ("falcon3-7b", "falcon3:7b"),
    ("gemma3-27b", "gemma3:27b"),
    ("glm4-9b", "glm4:9b"),
    ("llama3.1-8b", "llama3.1:8b"),
    ("meta-llama/meta-llama-3-8b-instruct", "llama3.1:8b"),
    ("mistral-7b", "mistral:7b"),
    ("mistralai/mistral-7b-instruct-v0.2", "mistral:7b"),
    ("nemotron-30b-a3b", "nemotron:30b-a3b"),
    ("qwen/qwen2.5-14b-instruct-awq", "qwen2.5:14b"),
    ("qwen/qwen2.5-3b-instruct", "qwen2.5:3b"),
    ("qwen/qwen2.5-7b-instruct-awq", "qwen2.5:7b"),
    ("qwen/qwen2.5-vl-3b-instruct", "qwen2.5vl:3b"),
    ("qwen/qwen3-30b-a3b-gptq-int4", "qwen3:30b-a3b"),
    ("qwen/qwen3.5-35b-a3b-gptq-int4", "qwen3.5:35b-a3b"),
    ("qwen2.5-14b", "qwen2.5:14b"),
    ("qwen2.5-7b", "qwen2.5:7b"),
    ("qwen2.5-vl-3b", "qwen2.5vl:3b"),
    ("qwen2.5vl-3b", "qwen2.5vl:3b"),
    ("qwen3-14b", "qwen3:14b"),
    ("qwen3-30b-a3b", "qwen3:30b-a3b"),
    ("qwen3-4b", "qwen3:4b"),
    ("qwen3-8b", "qwen3:8b"),
    ("qwen3.5-35b-a3b", "qwen3.5:35b-a3b"),
    ("thebloke/mistral-7b-instruct-v0.2-awq", "mistral:7b")]

def getCanonicalModelId (modelId : String) : String :=
  (DASH_TO_CANONICAL.lookup (trim (toLowerCase modelId))).getD modelId

def quantizations : List (List Char) :=
  ["gptq", "awq", "gguf", "int4", "int8", "fp16", "fp8", "bf16", "q4km",
    "q4ks", "q5km", "q5ks", "q6k", "q8", "km", "ks"].map String.toList

/-- Remove the marks of a quantization, the first of the list that fits at
each place; `skipped` characters of a removed mark are still to come. -/
def withoutQuantization (skipped : Nat) : List Char → List Char
  | [] => []
  | character :: rest =>
    match skipped with
    | more + 1 => withoutQuantization more rest
    | 0 =>
      match quantizations.find? (fun mark =>
        mark.isPrefixOf (character :: rest)) with
      | some mark => withoutQuantization (mark.length - 1) rest
      | none => character :: withoutQuantization 0 rest

def looseModelKey (modelId : String) : String :=
  let stripped := String.ofList (withoutQuantization 0
      ((toLowerCase modelId).toList.filter (fun character =>
        !(['/', ':', '_', '-', '.'].contains character || isSpace character))))
  if 4 ≤ utf16Length stripped then stripped else ""

def normalizeModelKey (modelId : String) : Option String :=
  let cleaned := trim (toLowerCase modelId)
  if cleaned = "" then none else some cleaned

def modelMatchKeys (modelId : String) : List String :=
  match normalizeModelKey modelId with
  | none => []
  | some raw =>
    match normalizeModelKey (getCanonicalModelId raw) with
    | none => [raw]
    | some canonical => if canonical = raw then [raw] else [raw, canonical]

def includes (text part : String) : Bool :=
  decide (part.toList <:+: text.toList)

/-- Equal texts, or one of them a part of the other. -/
def eitherIncludes (left right : String) : Bool :=
  left = right || includes left right || includes right left

def modelIdsMatch (candidateModelId requestedModelId : String) : Bool :=
  let candidateKeys := modelMatchKeys candidateModelId
  let requestedKeys := modelMatchKeys requestedModelId
  candidateKeys.any (fun candidate =>
    requestedKeys.any (fun requested =>
      eitherIncludes candidate requested)) ||
    candidateKeys.any (fun candidate =>
      looseModelKey candidate ≠ "" && requestedKeys.any (fun requested =>
        looseModelKey requested ≠ "" &&
          eitherIncludes (looseModelKey candidate) (looseModelKey requested)))

example : modelIdsMatch "qwen3:8b" "Qwen3-8B" = true := by decide +kernel

inductive ProviderStatus where
  | online
  | other
deriving DecidableEq

/-- A row of `providers`: what the route reads of it. -/
structure Provider where
  id : Nat
  status : ProviderStatus
  is_paused : Bool
  deleted : Bool
  endpoint : Bool
  endpoint_reachable : Bool
  endpoint_probed : Bool
  last_heartbeat : Option Nat
  supported_compute_types : List String
  vram_mb : Option ℚ
  gpu_vram_mb : Option ℚ
  gpu_vram_mib : Option ℚ
  vram_gb : Option ℚ
  cached_models : List String
  gpu_util_pct : Option ℚ

/-- A row of `provider_engines`. -/
structure Engine where
  provider_id : Nat
  reachable : Bool
  base : Bool
  served_models : List String

structure Verdict where
  provider_id : Nat
  verified_online : Bool
  verified_at : Nat

structure Variant where
  key : String
  modelId : String
  minVramMb : Nat
  available : Bool
  aliases : List String

structure Compatibility where
  aliases : List String
  variants : List Variant
  defaultVariant : Option String
  fallbackVariant : Option String

inductive EarnedMode where
  | off
  | excludeDead
  | earnedFirst
  | strict
deriving DecidableEq

structure Population where
  now : Nat
  mode : EarnedMode
  multiEngine : Bool
  providers : List Provider
  engines : List Engine
  rented : List Nat
  verdicts : List Verdict
  compatibility : Option (List Compatibility)

/-- A provider that a request may be routed to, with the engine that serves
the model when it was found through one. -/
structure Routable where
  provider : Provider
  engine : Option Engine

def Routable.id (routable : Routable) : Nat :=
  routable.provider.id

def USABLE_FRESH_MS : Nat := 3 * 60 * 1000

structure EarnedState where
  active : Bool
  servingIds : List Nat
  deadIds : List Nat

def getEarnedRoutingState (population : Population) : EarnedState :=
  let rows := population.verdicts.filter (fun verdict =>
    population.now ≤ verdict.verified_at + USABLE_FRESH_MS)
  { active := !rows.isEmpty
    servingIds := (rows.filter (fun verdict => verdict.verified_online)).map Verdict.provider_id
    deadIds := (rows.filter (fun verdict => !verdict.verified_online)).map Verdict.provider_id }

def applyEarnedRoutingPolicy (population : Population)
    (providers : List Routable) : List Routable :=
  let state := getEarnedRoutingState population
  if population.mode = .off then
    providers
  else if !state.active then
    providers
  else if population.mode = .strict then
    providers.filter (fun routable =>
      state.servingIds.contains routable.id)
  else
    providers.filter (fun routable =>
      !state.deadIds.contains routable.id)

def PROVIDER_HEARTBEAT_STALE_MS : Nat := 10 * 60 * 1000

def isProviderHeartbeatStale (now : Nat) (provider : Provider) : Bool :=
  match provider.last_heartbeat with
  | none => false
  | some beat => beat + PROVIDER_HEARTBEAT_STALE_MS < now

def resolveProviderVramMb (provider : Provider) : ℚ :=
  let candidates := [provider.vram_mb, provider.gpu_vram_mb, provider.gpu_vram_mib,
      provider.vram_gb.map (· * 1024)].filterMap id
  (candidates.find? (fun value =>
    value.isInt && 0 < value && value ≤ 1024 * 1024)).getD 0

def servesRequests (population : Population) (provider : Provider) : Bool :=
  provider.status = .online && !provider.is_paused && !provider.deleted &&
    provider.endpoint_reachable && provider.endpoint_probed &&
    !population.rented.contains provider.id

def isReady (population : Population) (minVramMb : ℚ) (provider : Provider) : Bool :=
  !isProviderHeartbeatStale population.now provider &&
    provider.endpoint_reachable && provider.endpoint_probed &&
    provider.supported_compute_types.contains "inference" &&
    minVramMb ≤ resolveProviderVramMb provider

def lookupProviderEnginesForModel (population : Population) (modelAlias : String) : List Routable :=
  let requestedLower := trim (toLowerCase modelAlias)
  if requestedLower = "" then
    []
  else
    population.engines.flatMap (fun engine =>
      if engine.reachable && engine.served_models.any (fun served =>
        modelIdsMatch served requestedLower) then
        (population.providers.filter (fun provider =>
          provider.id = engine.provider_id && servesRequests population provider)).map
          (fun provider => ⟨provider, some engine⟩)
      else
        [])

def getCapableProviders (population : Population) (minVramMb : ℚ)
    (requestedModelId : String) : List Routable :=
  let throughEngines :=
    if population.multiEngine && requestedModelId ≠ "" then
      applyEarnedRoutingPolicy population
        ((lookupProviderEnginesForModel population requestedModelId).filter
          (fun routable => isReady population minVramMb routable.provider))
    else
      []
  if throughEngines ≠ [] then
    throughEngines
  else
    let requestedLower := trim (toLowerCase requestedModelId)
    applyEarnedRoutingPolicy population ((population.providers.filter (fun provider =>
      servesRequests population provider && provider.endpoint &&
        isReady population minVramMb provider &&
        (requestedModelId = "" || provider.cached_models.isEmpty ||
          provider.cached_models.any (fun cached =>
            modelIdsMatch cached requestedLower)))).map
      (fun provider => ⟨provider, none⟩))

def normalizeModelToken (value : String) : Option String :=
  (normalizeString 300 value).map toLowerCase

def findCompatibility (population : Population) (modelId : String) :
    Option (String × Compatibility) := do
  let entries ← population.compatibility
  let normalized ← normalizeModelToken modelId
  let entry ← entries.find? (fun entry => entry.aliases.contains normalized)
  return (normalized, entry)

def variantOrder (normalized : String) (entry : Compatibility) :
    List String :=
  let requested := (entry.variants.find? (fun variant =>
    variant.aliases.contains normalized)).map Variant.key
  requested.toList ++ entry.defaultVariant.toList ++
    entry.fallbackVariant.toList ++ entry.variants.map Variant.key

structure ProxyModel where
  proxyModelId : String
  eligible : Bool

def resolveProviderRoutingModel (population : Population)
    (requestedModelId : String) (providerVramMb : ℚ) : ProxyModel :=
  match findCompatibility population requestedModelId with
  | none => { proxyModelId := requestedModelId, eligible := true }
  | some (normalized, entry) =>
    let fitting := (variantOrder normalized entry).findSome? (fun key =>
      entry.variants.find? (fun variant =>
        variant.key = key && variant.available && variant.minVramMb ≤ providerVramMb))
    match fitting with
    | some variant =>
      { proxyModelId := variant.modelId, eligible := true }
    | none => { proxyModelId := requestedModelId, eligible := false }

def resolveEffectiveMinVramMb (population : Population)
    (requestedModelId : String) (registryMinVramMb : ℚ) : ℚ :=
  match findCompatibility population requestedModelId with
  | none => registryMinVramMb
  | some (_, entry) =>
    match (entry.variants.filter Variant.available).map
      (fun variant => (variant.minVramMb : ℚ)) with
    | [] => registryMinVramMb
    | first :: rest => min registryMinVramMb (rest.foldl min first)

/-- The model that a request asks for, as the registry resolves it. -/
structure ModelRequirements where
  model_id : String
  min_vram_gb : ℚ

/-- The providers that a request finds before any of them is left out for
being busy. -/
def capableProviders (population : Population) (model : ModelRequirements) : List Routable :=
  let effectiveMinVramMb :=
    resolveEffectiveMinVramMb population model.model_id (model.min_vram_gb * 1024)
  (getCapableProviders population effectiveMinVramMb model.model_id).filter (fun routable =>
    (resolveProviderRoutingModel population model.model_id
      (resolveProviderVramMb routable.provider)).eligible)

end DcpPlatform.Chat.Routing
