import DcpPlatform.Batches.Store
import DcpPlatform.Jobs.Reports

/-!
# What an executor returns

An executor is code of the operator: whatever it returns is checked before it
is written. `normalizeExecutionLine` checks the result of one line against
the lines of the batch, and `lineWrite` is what the line service accepts of it
afterwards.
-/

namespace DcpPlatform.Batches

open Foundation
open Jobs (Field)

inductive Text where
  | missing
  | text (value : String)
  | other (truthy : Bool) (printed : String)
  deriving DecidableEq

namespace Text

def isTruthy : Text → Bool
  | missing => false
  | text value => value ≠ ""
  | other truthy _ => truthy

def print : Text → Option String
  | missing => none
  | text value => some value
  | other _ printed => some printed

def printTruthy (value : Text) : String :=
  if value.isTruthy then value.print.getD "" else ""

end Text

structure Usage where
  promptTokens : Field
  completionTokens : Field
  totalTokens : Field

structure ExecutionLine where
  customId : Text
  statusCode : Field
  status : Text
  errorCode : Text
  errorMessage : Text
  error : Text
  responseChecksumSha256 : Text
  responseNormalizedBytes : Field
  providerId : Field
  usage : Option Usage
  costHalala : Field
  requestId : Text
  providerResponseId : Text

inductive ExecutionLines where
  | missing
  | notArray
  | array (lines : List (Option ExecutionLine))

/-- A count that is `null` reads as the number 0. -/
structure Execution where
  resultStorageKey : Text
  resultChecksumSha256 : Text
  resultNormalizedBytes : Field
  completedCount : Field
  failedCount : Field
  totalCostHalala : Field
  lines : ExecutionLines

structure Failure where
  code : String
  message : String
  deriving DecidableEq

def plainError (message : String) : Failure :=
  ⟨"Error", message⟩

def integerFrom (least : Int) : Field → Option Int
  | .number value =>
    if value.den = 1 ∧ least ≤ value.num then some value.num else none
  | _ => none

def nonNegativeOr (fallback : Int) (field : Field) : Int :=
  (integerFrom 0 field).getD fallback

def normalizeNonNegativeInteger (field : Field) (fieldName : String) :
    Except Failure Int :=
  orFail ⟨"invalid_integer", fieldName ++ " must be a non-negative integer"⟩ (integerFrom 0 field)

def unlessMissing {Value : Type} (field : Field) (check : Field → Except Failure Value) :
    Except Failure (Option Value) :=
  match field with
  | .missing => .ok none
  | present => (check present).map some

def normalizeHttpStatus (field : Field) : Except Failure Int :=
  orFail (plainError "status_code must be an HTTP status code")
    ((integerFrom 100 field).filter (fun status => status ≤ 599))

def normalizeProviderId (field : Field) : Except Failure Nat :=
  orFail (plainError "provider_id must be a positive integer") ((integerFrom 1 field).map Int.toNat)

def utf16Length (text : String) : Nat :=
  (text.toList.map (fun character =>
    if character.toNat < 0x10000 then 1 else 2)).sum

def normalizeBoundedString (value : Text) (fieldName : String)
    (maxLength : Nat) : Except Failure String :=
  match value with
  | .text value =>
    if trim value = "" ∨ maxLength < utf16Length (trim value) then
      .error ⟨"invalid_string", fieldName ++ " is invalid"⟩
    else
      .ok (trim value)
  | _ => .error ⟨"missing_required_field", fieldName ++ " is required"⟩

def isSha256 (text : String) : Bool :=
  text.length = 64 && text.toList.all (fun character =>
    character.isDigit || 'a' ≤ character && character ≤ 'f')

def normalizeChecksum (value : Text) (fieldName : String) :
    Except Failure String := do
  let bounded ← normalizeBoundedString value fieldName 64
  require (isSha256 bounded.toLower = true)
    ⟨"invalid_checksum", fieldName ++ " must be a 64-character hex SHA-256 digest"⟩
  return bounded.toLower

def requireSha256 (value : Text) (fieldName : String) :
    Except Failure String :=
  let checksum := (trim value.printTruthy).toLower
  if isSha256 checksum then .ok checksum
  else
    .error (plainError (fieldName ++ " must be a 64-character hex SHA-256 digest"))

def optionalText {Value : Type} (value : Text) (check : Text → Except Failure Value) :
    Except Failure (Option Value) :=
  match value with
  | .missing => .ok none
  | present => (check present).map some

def keySegments : List Char → List (List Char)
  | [] => [[]]
  | '/' :: rest => [] :: keySegments rest
  | character :: rest =>
    match keySegments rest with
    | [] => [[character]]
    | segment :: segments => (character :: segment) :: segments

def isKeySegment (segment : List Char) : Bool :=
  segment ≠ [] && segment ≠ ['.'] && segment ≠ ['.', '.']

def normalizeStorageKey (value : Text) (fieldName : String) :
    Except Failure String :=
  match value with
  | .text value =>
    let key := String.ofList ((trim value).toList.dropWhile (· = '/'))
    if key = "" ∨ 512 < utf16Length key ∨ '\x00' ∈ key.toList then
      .error ⟨"invalid_storage_key", fieldName ++ " is invalid"⟩
    else if (keySegments key.toList).all isKeySegment then
      .ok key
    else
      .error ⟨"invalid_storage_key",
        fieldName ++ " must be a relative object key without dot segments"⟩
  | _ => .error ⟨"missing_required_field", fieldName ++ " is required"⟩

structure LineProof where
  customId : CustomId
  status : LineStatus
  statusCode : Option Int
  costHalala : Int
  responseChecksumSha256 : Text
  responseNormalizedBytes : Field
  providerId : Option Nat
  usage : Option Usage
  requestId : Text
  providerResponseId : Text
  errorCode : Text
  errorMessage : Option String

namespace ExecutionLine

def trimmedId (line : ExecutionLine) : String :=
  trim line.customId.printTruthy

def hasError (line : ExecutionLine) : Bool :=
  line.errorCode ≠ .missing || line.errorMessage ≠ .missing || line.error ≠ .missing

def isSuccess (statusCode : Option Int) : Bool :=
  statusCode.any (fun status => 200 ≤ status && status < 300)

def statusText (line : ExecutionLine) (statusCode : Option Int) :
    String :=
  let explicit := (line.status.print.map (fun text =>
    (trim text).toLower)).getD ""
  if explicit ≠ "" then explicit
  else if isSuccess statusCode && !line.hasError then "succeeded"
  else "failed"

def normalizeStatus (line : ExecutionLine) (statusCode : Option Int)
    (customId : String) : Except Failure LineStatus :=
  if line.statusText statusCode = "succeeded" then
    if isSuccess statusCode = false then
      .error (plainError ("succeeded execution line " ++ customId ++ " requires a 2xx status_code"))
    else
      (requireSha256 line.responseChecksumSha256
        "response_checksum_sha256").map (fun _ => .succeeded)
  else if line.statusText statusCode = "failed" then
    .ok .failed
  else
    .error (plainError "execution line status must be succeeded or failed")

def message (line : ExecutionLine) : Option String :=
  if line.errorMessage.isTruthy then line.errorMessage.print
  else if line.error.isTruthy then line.error.print
  else none

def proof (line : ExecutionLine) (customId : CustomId) :
    Except Failure LineProof := do
  let statusCode ← unlessMissing line.statusCode normalizeHttpStatus
  let status ← line.normalizeStatus statusCode customId.val
  let providerId ← unlessMissing line.providerId normalizeProviderId
  return {
    customId := customId
    status := status
    statusCode := statusCode
    costHalala := nonNegativeOr 0 line.costHalala
    responseChecksumSha256 := line.responseChecksumSha256
    responseNormalizedBytes := line.responseNormalizedBytes
    providerId := providerId
    usage := line.usage
    requestId := line.requestId
    providerResponseId := line.providerResponseId
    errorCode :=
      if line.errorCode.isTruthy then line.errorCode
      else if status = .failed then .text "batch_line_failed"
      else .missing
    errorMessage := line.message }

end ExecutionLine

def normalizeExecutionLine (expected seen : List CustomId)
    (entry : Option ExecutionLine) : Except Failure LineProof :=
  match entry with
  | none =>
    .error (plainError "execution line result must be an object")
  | some line =>
    if line.trimmedId = "" then
      .error (plainError "execution line custom_id is required")
    else if line.trimmedId ∈ seen.map Subtype.val then
      .error (plainError ("duplicate execution line custom_id: " ++ line.trimmedId))
    else
      match expected.find? (fun customId =>
        customId.val = line.trimmedId) with
      | none =>
        .error (plainError ("execution line custom_id is not part of batch: " ++ line.trimmedId))
      | some customId => line.proof customId

def normalizeExecutionLines (expected : List CustomId) :
    List CustomId → List (Option ExecutionLine) → Except Failure (List LineProof)
  | _, [] => .ok []
  | seen, entry :: rest => do
      let proof ← normalizeExecutionLine expected seen entry
      let proofs ← normalizeExecutionLines expected (proof.customId :: seen) rest
      return proof :: proofs

structure Tokens where
  prompt : Int
  completion : Int
  total : Int

def normalizeLineUsage (usage : Option Usage) : Except Failure Tokens :=
  match usage with
  | none => .ok ⟨0, 0, 0⟩
  | some usage => do
      let prompt ← unlessMissing usage.promptTokens (fun field =>
        normalizeNonNegativeInteger field "usage.prompt_tokens")
      let completion ← unlessMissing usage.completionTokens (fun field =>
        normalizeNonNegativeInteger field "usage.completion_tokens")
      let total ← unlessMissing usage.totalTokens (fun field =>
        normalizeNonNegativeInteger field "usage.total_tokens")
      return ⟨prompt.getD 0, completion.getD 0, total.getD (prompt.getD 0 + completion.getD 0)⟩

/-- The columns of a result, unless the line service refuses one. A status, a
status code, a provider and a cost have been checked already. -/
def lineWrite (proof : LineProof) : Except Failure LineWrite := do
  let checksum ← optionalText proof.responseChecksumSha256
    (normalizeChecksum · "response_checksum_sha256")
  let bytes ← unlessMissing proof.responseNormalizedBytes
    (normalizeNonNegativeInteger · "response_normalized_bytes")
  let tokens ← normalizeLineUsage proof.usage
  let requestId ← optionalText proof.requestId (normalizeBoundedString · "request_id" 180)
  let providerResponseId ← optionalText proof.providerResponseId
    (normalizeBoundedString · "provider_response_id" 180)
  let errorCode ← optionalText proof.errorCode (normalizeBoundedString · "error_code" 120)
  let errorMessage ← optionalText ((proof.errorMessage.map Text.text).getD .missing)
      (normalizeBoundedString · "error_message" 500)
  return {
    status := proof.status
    statusCode := proof.statusCode
    responseChecksumSha256 := checksum
    responseNormalizedBytes := bytes
    providerId := proof.providerId
    promptTokens := tokens.prompt
    completionTokens := tokens.completion
    totalTokens := tokens.total
    costHalala := proof.costHalala
    requestId := requestId
    providerResponseId := providerResponseId
    errorCode := errorCode
    errorMessage := errorMessage }

end DcpPlatform.Batches
