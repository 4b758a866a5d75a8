import DcpPlatform.Foundation.Outcome
import DcpPlatform.Foundation.Text
import Mathlib.Data.List.Nodup
import Mathlib.Data.Rat.Defs

/-!
# The input of a batch

`parseBatchJsonl` reads one request from every line of a JSONL text that is
not blank. What `JSON.parse` makes of a line is a parameter: nothing below
depends on what it accepts.
-/

namespace DcpPlatform.Batches

open Foundation List

/-- A value that `JSON.parse` returns. -/
inductive Json where
  | null
  | bool (value : Bool)
  | number (value : ℚ)
  | text (value : String)
  | array (items : List Json)
  | object (fields : List (String × Json))

namespace Json

/-- A property that is missing reads as `null`: no check tells them apart. -/
def field (name : String) : Json → Json
  | object fields =>
    ((fields.find? (fun entry => entry.1 = name)).map Prod.snd).getD null
  | _ => null

def isTruthy : Json → Bool
  | null => false
  | bool value => value
  | number value => value ≠ 0
  | text value => value ≠ ""
  | array _ => true
  | object _ => true

mutual

def print : Json → String
  | null => "null"
  | bool value => toString value
  | number value => toString value
  | text value => value
  | array items => String.intercalate "," (printItems items)
  | object _ => "[object Object]"

/-- `null` is left out when an array is printed. -/
def printItems : List Json → List String
  | [] => []
  | null :: rest => "" :: printItems rest
  | item :: rest => print item :: printItems rest

end

def trimmed (value : Json) : String :=
  trim (if value.isTruthy then value.print else "")

end Json

def isIdCharacter (character : Char) : Bool :=
  character.isAlphanum || character = '_' || character = '.' || character = ':' || character = '-'

/-- `/^[A-Za-z0-9_.:-]{1,128}$/`. -/
def isCustomId (text : String) : Bool :=
  1 ≤ text.length && text.length ≤ 128 && text.toList.all isIdCharacter

abbrev CustomId := { text : String // isCustomId text = true }

structure BatchRequest where
  customId : CustomId
  url : String
  model : String
  deriving DecidableEq

structure ContractError where
  message : String
  code : String
  line : Option Nat
  deriving DecidableEq

def supportedBatchUrls : List String :=
  ["/v1/chat/completions", "/v1/complete"]

def maxBatchRequests : Nat := 1000

def maxBatchBytes : Nat := 10 * 1024 * 1024

/-- `toUpperCase`, as far as the letters of `POST` are concerned: the long s
and its two ligatures with t have capitals among them. -/
def toUpperCase (text : String) : String :=
  String.ofList (text.toList.flatMap (fun character =>
    if character.toNat = 0x17f then ['S']
    else if character.toNat = 0xfb05 ∨ character.toNat = 0xfb06 then
      ['S', 'T']
    else [character.toUpper]))

def normalizeCustomId (value : Json) (lineNumber : Nat) :
    Except ContractError CustomId :=
  match value with
  | .text value =>
    if valid : isCustomId (trim value) then
      .ok ⟨trim value, valid⟩
    else
      .error ⟨"custom_id must be 1-128 URL-safe characters", "invalid_custom_id", some lineNumber⟩
  | _ =>
    .error ⟨"custom_id is required", "missing_custom_id", some lineNumber⟩

def normalizeBody (body : Json) (url : String) (lineNumber : Nat) :
    Except ContractError String :=
  match body with
  | .object _ =>
    match body.field "model" with
    | .text model =>
      if trim model = "" then
        .error ⟨"body.model is required", "missing_model", some lineNumber⟩
      else if url = "/v1/chat/completions" then
        match body.field "messages" with
        | .array (_ :: _) => .ok (trim model)
        | _ =>
          .error ⟨"body.messages is required for chat completions",
            "missing_messages", some lineNumber⟩
      else if url = "/v1/complete" then
        match body.field "prompt" with
        | .text prompt =>
          if trim prompt = "" then
            .error ⟨"body.prompt is required for completions", "missing_prompt", some lineNumber⟩
          else
            .ok (trim model)
        | _ =>
          .error ⟨"body.prompt is required for completions", "missing_prompt", some lineNumber⟩
      else
        .ok (trim model)
    | _ =>
      .error ⟨"body.model is required", "missing_model", some lineNumber⟩
  | _ => .error ⟨"body must be an object", "invalid_body", some lineNumber⟩

def normalizeBatchRequest (value : Json) (lineNumber : Nat) :
    Except ContractError BatchRequest :=
  match value with
  | .object _ => do
      let customId ← normalizeCustomId (value.field "custom_id") lineNumber
      require (toUpperCase (value.field "method").trimmed = "POST")
        ⟨"Batch request method must be POST", "unsupported_method", some lineNumber⟩
      let url := (value.field "url").trimmed
      require (url ∈ supportedBatchUrls)
        ⟨"Batch request url is not supported", "unsupported_url", some lineNumber⟩
      let model ← normalizeBody (value.field "body") url lineNumber
      return ⟨customId, url, model⟩
  | _ =>
    .error ⟨"Batch line must be an object", "invalid_line", some lineNumber⟩

def splitLines : List Char → List (List Char)
  | [] => [[]]
  | '\r' :: '\n' :: rest => [] :: splitLines rest
  | '\n' :: rest => [] :: splitLines rest
  | character :: rest =>
    match splitLines rest with
    | [] => [[character]]
    | line :: lines => (character :: line) :: lines

section Parse

variable (jsonParse : String → Option Json)

def parseLines (lineNumber : Nat) (requests : List BatchRequest) :
    List String → Except ContractError (List BatchRequest)
  | [] => .ok requests
  | rawLine :: rest =>
    if trim rawLine = "" then
      parseLines (lineNumber + 1) requests rest
    else if maxBatchRequests ≤ requests.length then
      .error ⟨"Batch request count exceeds limit", "too_many_requests", some lineNumber⟩
    else
      match jsonParse (trim rawLine) with
      | none =>
        .error ⟨"Invalid JSONL line", "invalid_json", some lineNumber⟩
      | some parsed =>
        match normalizeBatchRequest parsed lineNumber with
        | .error refused => .error refused
        | .ok request =>
          if request.customId ∈ requests.map BatchRequest.customId then
            .error ⟨"Duplicate custom_id in batch", "duplicate_custom_id", some lineNumber⟩
          else
            parseLines (lineNumber + 1) (requests ++ [request]) rest

def parseBatchJsonl (input : String) :
    Except ContractError (List BatchRequest) :=
  if maxBatchBytes < input.utf8ByteSize then
    .error ⟨"Batch input exceeds max byte size", "batch_too_large", none⟩
  else
    match parseLines jsonParse 1 [] ((splitLines input.toList).map String.ofList) with
    | .error refused => .error refused
    | .ok [] =>
      .error ⟨"Batch must contain at least one request", "empty_batch", none⟩
    | .ok requests => .ok requests

end Parse

structure Accepted (requests : List BatchRequest) : Prop where
  nonempty : requests ≠ []
  bounded : requests.length ≤ maxBatchRequests
  distinct : (requests.map BatchRequest.customId).Nodup

variable {jsonParse : String → Option Json}

theorem parseLines_eq_ok {lines : List String} :
    ∀ {lineNumber : Nat} {before requests : List BatchRequest},
      parseLines jsonParse lineNumber before lines = .ok requests →
        before.length ≤ maxBatchRequests →
        (before.map BatchRequest.customId).Nodup →
        requests.length ≤ maxBatchRequests ∧ (requests.map BatchRequest.customId).Nodup := by
  induction lines with
  | nil =>
    intro lineNumber before requests parsed bounded distinct
    cases parsed
    exact ⟨bounded, distinct⟩
  | cons rawLine rest ih =>
    intro lineNumber before requests parsed bounded distinct
    rw [parseLines] at parsed
    split at parsed
    · exact ih parsed bounded distinct
    · split at parsed
      · cases parsed
      · rename_i room
        split at parsed
        · cases parsed
        · split at parsed
          · cases parsed
          · rename_i request normalized
            split at parsed
            · cases parsed
            · rename_i fresh
              refine ih parsed ?_ ?_
              · rw [length_append, length_singleton]
                omega
              · rw [map_append, nodup_append]
                refine ⟨distinct, nodup_singleton _, ?_⟩
                intro first member second new same
                rw [map_singleton, mem_singleton] at new
                rw [same, new] at member
                exact fresh member

theorem parseBatchJsonl_accepted {input : String} {requests : List BatchRequest}
    (parsed : parseBatchJsonl jsonParse input = .ok requests) :
    Accepted requests := by
  unfold parseBatchJsonl at parsed
  split at parsed
  · cases parsed
  · split at parsed
    · cases parsed
    · cases parsed
    · rename_i nonempty lines
      cases parsed
      obtain ⟨bounded, distinct⟩ := parseLines_eq_ok lines (Nat.zero_le _) nodup_nil
      exact ⟨nonempty, bounded, distinct⟩

end DcpPlatform.Batches
