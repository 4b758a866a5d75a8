import DcpPlatform.Batches.Contract
import DcpPlatform.Foundation.Table

/-!
# Registered adapters

A renter registers a LoRA adapter under an id; only its status changes
afterwards. What a normaliser accepts is stored as a subtype of the values
that pass its checks.
-/

namespace DcpPlatform.Adapters

open Foundation List
open Batches (Json)

/-- An `AdapterDeploymentError` or an `AdapterRegistryError`. The errors of
the contract reach a route with status 400. -/
structure AdapterError where
  message : String
  code : String
  httpStatus : Nat
  field : Option String

/-! ## Ids, texts and checksums -/

def isIdStart (character : Char) : Bool :=
  character.isLower || character.isDigit

def isIdRest (character : Char) : Bool :=
  isIdStart character || character = '_' || character = '-'

/-- `/^lead[a-z0-9][a-z0-9_-]{5,63}$/`, for a lead of five characters. -/
def isIdOf (lead : String) (text : String) : Bool :=
  text.toList.take 5 = lead.toList &&
    match text.toList.drop 5 with
    | [] => false
    | first :: rest =>
      isIdStart first && 5 ≤ rest.length && rest.length ≤ 63 && rest.all isIdRest

abbrev AdapterId := { text : String // isIdOf "adpt_" text = true }

abbrev DeploymentId := { text : String // isIdOf "adpl_" text = true }

def isBounded (maxLength : Nat) (text : String) : Bool :=
  text ≠ "" && trim text = text && utf16Length text ≤ maxLength

abbrev BoundedText (maxLength : Nat) :=
  { text : String // isBounded maxLength text = true }

def isHex (character : Char) : Bool :=
  ('a' ≤ character && character ≤ 'f') || character.isDigit

/-- `/^[a-f0-9]{64}$/`. -/
def isChecksum (text : String) : Bool :=
  text.toList.length = 64 && text.toList.all isHex

abbrev Checksum := { text : String // isChecksum text = true }

section Characters

variable {character : Char}

theorem isLower_iff :
    character.isLower = true ↔ 97 ≤ character.toNat ∧ character.toNat ≤ 122 := by
  delta Char.isLower
  simp only [Bool.and_eq_true, decide_eq_true_eq, ge_iff_le, UInt32.le_iff_toNat_le]
  rfl

theorem isDigit_iff :
    character.isDigit = true ↔ 48 ≤ character.toNat ∧ character.toNat ≤ 57 := by
  simp only [Char.isDigit, Bool.and_eq_true, decide_eq_true_eq, ge_iff_le, UInt32.le_iff_toNat_le]
  rfl

theorem toNat_of_isIdRest (allowed : isIdRest character = true) :
    (97 ≤ character.toNat ∧ character.toNat ≤ 122) ∨ (48 ≤ character.toNat ∧ character.toNat ≤ 57) ∨
      character.toNat = 95 ∨ character.toNat = 45 := by
  simp only [isIdRest, isIdStart, Bool.or_eq_true, isLower_iff, isDigit_iff,
    decide_eq_true_eq] at allowed
  rcases allowed with ((lower | digit) | same) | same
  · exact Or.inl lower
  · exact Or.inr (Or.inl digit)
  · exact Or.inr (Or.inr (Or.inl (congrArg Char.toNat same)))
  · exact Or.inr (Or.inr (Or.inr (congrArg Char.toNat same)))

theorem isIdRest_of_isHex (hex : isHex character = true) :
    isIdRest character = true := by
  simp only [isHex, Char.le_def, Bool.or_eq_true, Bool.and_eq_true,
    decide_eq_true_eq, UInt32.le_iff_toNat_le] at hex
  rcases hex with ⟨least, most⟩ | digit
  · have lower : character.isLower = true := isLower_iff.mpr ⟨least, le_trans most (by decide)⟩
    simp [isIdRest, isIdStart, lower]
  · simp [isIdRest, isIdStart, digit]

theorem isSpace_of_isIdRest (allowed : isIdRest character = true) :
    isSpace character = false := by
  have range := toNat_of_isIdRest allowed
  rw [isSpace]
  generalize character.toNat = code at range
  simp only [contains_eq_mem, mem_cons, not_mem_nil, decide_eq_false_iff_not, or_false]
  omega

theorem toLower_of_isIdRest (allowed : isIdRest character = true) :
    character.toLower = character := by
  have range := toNat_of_isIdRest allowed
  have notUpper : ¬ (character.val ≥ 'A'.val ∧ character.val ≤ 'Z'.val) := by
    rw [ge_iff_le, UInt32.le_iff_toNat_le, UInt32.le_iff_toNat_le]
    change ¬ (65 ≤ character.toNat ∧ character.toNat ≤ 90)
    omega
  exact dif_neg notUpper

end Characters

section Texts

variable {text : String}

variable (allowed : ∀ character ∈ text.toList, isIdRest character = true)

include allowed

theorem trim_of_idCharacters :
    trim text = text :=
  strip_of_visible (fun character member => isSpace_of_isIdRest (allowed character member))

theorem utf16Length_of_idCharacters :
    utf16Length text = text.toList.length := by
  have ones : text.toList.map (fun character =>
      if character.toNat < 0x10000 then 1 else 2) =
      text.toList.map (fun _ => 1) := by
    apply map_congr_left
    intro character member
    have bounds := toNat_of_isIdRest (allowed character member)
    exact if_pos (by omega)
  rw [utf16Length, ones, map_const', sum_replicate_nat, mul_one]

theorem toLowerCase_of_idCharacters :
    toLowerCase text = text := by
  have singles : text.toList.flatMap (fun character =>
      if character.toNat = 0x212a then ['k']
      else if character.toNat = 0x130 then ['i', Char.ofNat 0x307]
      else [character.toLower]) =
      text.toList.flatMap ([·]) := by
    apply flatMap_congr
    intro character member
    have bounds := toNat_of_isIdRest (allowed character member)
    rw [if_neg (by omega), if_neg (by omega), toLower_of_isIdRest (allowed character member)]
  rw [toLowerCase, singles, flatMap_singleton', String.ofList_toList]

omit allowed

variable {lead : String}

theorem idCharacters_of_isIdOf (leading : ∀ character ∈ lead.toList, isIdRest character = true)
    (valid : isIdOf lead text = true) :
    ∀ character ∈ text.toList, isIdRest character = true := by
  intro character member
  simp only [isIdOf, Bool.and_eq_true, decide_eq_true_eq] at valid
  rw [← take_append_drop 5 text.toList] at member
  rcases mem_append.mp member with front | back
  · rw [valid.1] at front
    exact leading character front
  · cases remaining : text.toList.drop 5 with
    | nil =>
      rw [remaining] at back
      cases back
    | cons first rest =>
      rw [remaining] at valid back
      simp only [Bool.and_eq_true, all_eq_true] at valid
      rcases mem_cons.mp back with same | inRest
      · rw [same, isIdRest, valid.2.1.1.1]
        rfl
      · exact valid.2.2 character inRest

theorem length_of_isIdOf (valid : isIdOf lead text = true) :
    text.toList.length ≤ 69 := by
  simp only [isIdOf, Bool.and_eq_true, decide_eq_true_eq] at valid
  have short : (text.toList.drop 5).length ≤ 64 := by
    cases remaining : text.toList.drop 5 with
    | nil => simp
    | cons first rest =>
      rw [remaining] at valid
      simp only [Bool.and_eq_true, decide_eq_true_eq] at valid
      rw [length_cons]
      omega
  rw [length_drop] at short
  omega

theorem isBounded_of_isIdOf (leading : ∀ character ∈ lead.toList, isIdRest character = true)
    (valid : isIdOf lead text = true) : isBounded 80 text = true := by
  have characters := idCharacters_of_isIdOf leading valid
  have visible : text ≠ "" := by
    intro empty
    rw [empty] at valid
    simp [isIdOf] at valid
  have length := length_of_isIdOf valid
  rw [← utf16Length_of_idCharacters characters] at length
  simp only [isBounded, Bool.and_eq_true, decide_eq_true_eq]
  exact ⟨⟨visible, trim_of_idCharacters characters⟩, by omega⟩

theorem idCharacters_of_isChecksum (valid : isChecksum text = true) :
    ∀ character ∈ text.toList, isIdRest character = true := by
  simp only [isChecksum, Bool.and_eq_true, all_eq_true] at valid
  exact fun character member =>
    isIdRest_of_isHex (valid.2 character member)

end Texts

def invalid (message code : String) (field : String) : AdapterError :=
  { message := message, code := code, httpStatus := 400, field := some field }

/-- The argument is what `Number` makes of the value; nothing stands for
`NaN`. -/
def normalizePositiveInteger (fieldName : String) (value : Option ℚ) :
    Except AdapterError Nat :=
  match value with
  | none =>
    .error (invalid (fieldName ++ " must be a positive integer") "invalid_integer" fieldName)
  | some number =>
    if number.den = 1 ∧ 0 < number then
      .ok number.num.toNat
    else
      .error (invalid (fieldName ++ " must be a positive integer") "invalid_integer" fieldName)

def normalizeBoundedString (fieldName : String) (maxLength : Nat)
    (value : Json) : Except AdapterError (BoundedText maxLength) :=
  match value with
  | .text raw =>
    if empty : trim raw = "" then
      .error (invalid (fieldName ++ " must not be empty") "empty_string" fieldName)
    else if long : maxLength < utf16Length (trim raw) then
      .error (invalid (fieldName ++ " exceeds max length") "string_too_long" fieldName)
    else
      .ok ⟨trim raw, by
        simp only [isBounded, Bool.and_eq_true, decide_eq_true_eq]
        exact ⟨⟨empty, trim_trim raw⟩, not_lt.mp long⟩⟩
  | _ =>
    .error (invalid (fieldName ++ " is required") "missing_required_field" fieldName)

def normalizeAdapterId (value : Json) : Except AdapterError AdapterId := do
  let id ← normalizeBoundedString "adapter_id" 80 value
  if valid : isIdOf "adpt_" id.val = true then
    .ok ⟨id.val, valid⟩
  else
    .error (invalid "adapter_id must be a valid adapter registry id"
      "invalid_adapter_id" "adapter_id")

def normalizeChecksum (fieldName : String) (value : Json) :
    Except AdapterError Checksum :=
  if valid : isChecksum (toLowerCase value.trimmed) = true then
    .ok ⟨toLowerCase value.trimmed, valid⟩
  else
    .error (invalid (fieldName ++ " must be a 64-character hex SHA-256 digest")
      "invalid_checksum" fieldName)

def whenTruthy {Value : Type} (normalize : Json → Except AdapterError Value) (value : Json) :
    Except AdapterError (Option Value) :=
  if value.isTruthy then
    (normalize value).map some
  else
    .ok none

theorem normalizeBoundedString_stored (fieldName : String) {maxLength : Nat}
    (stored : BoundedText maxLength) :
    normalizeBoundedString fieldName maxLength (.text stored.val) = .ok stored := by
  obtain ⟨text, valid⟩ := stored
  have bounded := valid
  simp only [isBounded, Bool.and_eq_true, decide_eq_true_eq] at bounded
  obtain ⟨⟨visible, trimmed⟩, short⟩ := bounded
  have notLong : ¬ maxLength < utf16Length text := not_lt.mpr short
  simp [normalizeBoundedString, trimmed, dif_neg visible, dif_neg notLong]

theorem normalizeAdapterId_stored (stored : AdapterId) :
    normalizeAdapterId (.text stored.val) = .ok stored := by
  have bounded := isBounded_of_isIdOf (all_eq_true.mp (by decide)) stored.property
  have normal := normalizeBoundedString_stored "adapter_id" ⟨stored.val, bounded⟩
  rw [normalizeAdapterId, normal]
  exact dif_pos stored.property

theorem trimmed_of_visible {text : String} (visible : text ≠ "")
    (trimmed : trim text = text) : (Json.text text).trimmed = text := by
  have truthy : (Json.text text).isTruthy = true := decide_eq_true visible
  rw [Json.trimmed, if_pos truthy]
  exact trimmed

theorem Checksum.visible (stored : Checksum) : stored.val ≠ "" := by
  intro empty
  have valid := stored.property
  rw [empty] at valid
  simp [isChecksum] at valid

theorem normalizeChecksum_stored (fieldName : String) (stored : Checksum) :
    normalizeChecksum fieldName (.text stored.val) = .ok stored := by
  have characters := idCharacters_of_isChecksum stored.property
  have same : toLowerCase (Json.text stored.val).trimmed = stored.val := by
    rw [trimmed_of_visible stored.visible (trim_of_idCharacters characters),
      toLowerCase_of_idCharacters characters]
  have valid : isChecksum (toLowerCase (Json.text stored.val).trimmed) = true := by
    rw [same]
    exact stored.property
  rw [normalizeChecksum, dif_pos valid]
  exact congrArg Except.ok (Subtype.ext same)

inductive AdapterStatus where
  | registered | validating | ready | deploying | deployed | failed
  | archived
  deriving DecidableEq

def AdapterStatus.ofText : String → Option AdapterStatus
  | "registered" => some .registered
  | "validating" => some .validating
  | "ready" => some .ready
  | "deploying" => some .deploying
  | "deployed" => some .deployed
  | "failed" => some .failed
  | "archived" => some .archived
  | _ => none

structure AdapterRow where
  adapterId : AdapterId
  renterId : Nat
  baseModel : BoundedText 160
  checksum : Checksum
  status : AdapterStatus
  updatedAt : Nat
  deployedAt : Option Nat

abbrev Registry := Table AdapterRow AdapterRow.adapterId

def normalizeAdapterStatus (value : Option Json) :
    Except AdapterError AdapterStatus :=
  match AdapterStatus.ofText (toLowerCase (value.getD (.text "registered")).trimmed) with
  | some status => .ok status
  | none =>
    .error (invalid "status is not a supported adapter lifecycle state" "invalid_status" "status")

/-- The row is one whose values the normalisers have accepted. -/
def createAdapter (adapters : Registry) (adapter : AdapterRow) :
    Except AdapterError Registry :=
  if absent : adapters.lookup adapter.adapterId = none then
    .ok (adapters.insert adapter absent)
  else
    .error
      { message := "adapter_id already exists"
        code := "adapter_exists"
        httpStatus := 409
        field := none }

def getAdapter (adapters : Registry) (renterId : Nat) (adapterId : AdapterId) : Option AdapterRow :=
  (adapters.lookup adapterId).filter (fun adapter => adapter.renterId = renterId)

def AdapterRow.setStatus (status : AdapterStatus) (now : Nat)
    (deployedAt : Option Nat) (adapter : AdapterRow) : AdapterRow :=
  { adapter with
    status := status
    updatedAt := now
    deployedAt := deployedAt.or adapter.deployedAt }

@[simp]
theorem AdapterRow.setStatus_adapterId (status : AdapterStatus) (now : Nat)
    (deployedAt : Option Nat) (adapter : AdapterRow) :
    (adapter.setStatus status now deployedAt).adapterId =
      adapter.adapterId :=
  rfl

def updateAdapterStatus (adapters : Registry) (renterId : Option ℚ)
    (adapterId : AdapterId) (status : Option Json)
    (deployedAt : Option Nat) (now : Nat) :
    Except AdapterError Registry := do
  let ownerId ← normalizePositiveInteger "renter_id" renterId
  let nextStatus ← normalizeAdapterStatus status
  let stamp := deployedAt.or (if nextStatus = .deployed then some now else none)
  pure (adapters.updateWhere adapterId (fun adapter => adapter.renterId = ownerId)
    (AdapterRow.setStatus nextStatus now stamp)
    (AdapterRow.setStatus_adapterId nextStatus now stamp))

end DcpPlatform.Adapters
