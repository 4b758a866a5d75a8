import DcpPlatform.PromptCache.Stringify
import Mathlib.Data.List.Forall2

/-!
# The printed text is canonical

A printed value can be read back from the start of a text: `Reads` says that
it determines the value and the rest of the text.
-/

namespace DcpPlatform.PromptCache

open List

section Quoting

def hexValue (unit : Nat) : Nat :=
  if unit < 58 then unit - 48 else unit - 87

theorem hexValue_hexDigit {digit : Nat} (small : digit < 16) :
    hexValue (hexDigit digit) = digit := by
  unfold hexValue hexDigit
  split <;> split <;> omega

def unescaped (letter : Nat) : Nat :=
  ((shortEscapes.find? (fun entry => entry.2 = letter)).map Prod.fst).getD 0

def readPiece : Text → Option Nat × Text
  | [] => (none, [])
  | 34 :: rest => (none, rest)
  | 92 :: 117 :: first :: second :: third :: fourth :: rest =>
    (some (hexValue first * 4096 + hexValue second * 256 + hexValue third * 16 +
      hexValue fourth), rest)
  | 92 :: letter :: rest => (some (unescaped letter), rest)
  | unit :: rest => (some unit, rest)

theorem readPiece_raw {unit : Nat} (plain : unit ≠ 34 ∧ unit ≠ 92) (rest : Text) :
    readPiece (unit :: rest) = (some unit, rest) := by
  unfold readPiece
  split <;> simp_all

theorem readPiece_escape (unit : Nat) (rest : Text) :
    readPiece (escape unit ++ rest) = (some unit, rest) := by
  unfold escape
  cases found : shortEscapes.find? (·.1 = unit) with
  | some entry =>
    have table : ∀ entry ∈ shortEscapes, entry.2 ≠ 117 ∧ unescaped entry.2 = entry.1 := by
      decide
    obtain ⟨other, value⟩ := table entry (mem_of_find?_eq_some found)
    have key : entry.1 = unit := by simpa using find?_some found
    simp [readPiece, other, value, key]
  | none =>
    dsimp only
    split
    · rename_i control
      have small : unit < 65536 := by
        simp only [isLead, isTrail, Bool.or_eq_true, Bool.and_eq_true, decide_eq_true_eq] at control
        omega
      have value (digit : Nat) : hexValue (hexDigit (digit % 16)) = digit % 16 :=
        hexValue_hexDigit (Nat.mod_lt _ (by decide))
      simp only [unicodeEscape, cons_append, nil_append, readPiece, value]
      congr 2
      omega
    · apply readPiece_raw
      constructor <;> rintro rfl <;> cases found

inductive Pieces : Text → Text → Prop
  | nil : Pieces [] []
  | cons {unit : Nat} {piece rest printed : Text} :
      (∀ tail, readPiece (piece ++ tail) = (some unit, tail)) → Pieces rest printed →
      Pieces (unit :: rest) (piece ++ printed)

theorem pieces_escapeUnits (text : Text) : Pieces text (escapeUnits text) := by
  induction text using escapeUnits.induct with
  | case1 => exact Pieces.nil
  | case2 unit =>
    have piece := Pieces.cons (readPiece_escape unit) Pieces.nil
    rwa [append_nil] at piece
  | case3 lead trail rest paired ih =>
    rw [escapeUnits, if_pos paired]
    simp only [isLead, isTrail, Bool.and_eq_true, decide_eq_true_eq] at paired
    have raw {unit : Nat} (high : 0xd800 ≤ unit) (tail : Text) :
        readPiece ([unit] ++ tail) = (some unit, tail) :=
      readPiece_raw (by omega) tail
    exact Pieces.cons (raw paired.1.1) (Pieces.cons (raw (by omega)) ih)
  | case4 lead trail rest paired ih =>
    rw [escapeUnits, if_neg paired]
    exact Pieces.cons (readPiece_escape lead) ih

theorem Pieces.cancel {text other printed copied rest more : Text} (pieces : Pieces text printed)
    (others : Pieces other copied) (same : printed ++ 34 :: rest = copied ++ 34 :: more) :
    text = other ∧ rest = more := by
  induction pieces generalizing other copied with
  | nil =>
    cases others with
    | nil =>
      injection same with _ same
      exact ⟨rfl, same⟩
    | cons reads _ =>
      have read := congrArg readPiece same
      rw [append_assoc, reads] at read
      cases read
  | cons reads _ ih =>
    have read := congrArg readPiece same
    rw [append_assoc, reads] at read
    cases others with
    | nil => cases read
    | cons otherReads others =>
      rw [append_assoc, otherReads] at read
      injection read with sameUnit sameTail
      injection sameUnit with sameUnit
      obtain ⟨sameText, sameRest⟩ := ih others sameTail
      exact ⟨by rw [sameUnit, sameText], sameRest⟩

theorem quote_cancel {text other rest more : Text}
    (same : quote text ++ rest = quote other ++ more) : text = other ∧ rest = more := by
  simp only [quote, cons_append, append_assoc, nil_append] at same
  injection same with _ same
  exact (pieces_escapeUnits text).cancel (pieces_escapeUnits other) same

end Quoting

section Reading

def Delimited (rest : Text) : Prop :=
  ∀ unit ∈ rest.head?, isNumeral unit = false

variable {rest more : Text}

theorem numeral_cancel {numeral other : Numeral} (ends : Delimited rest)
    (otherEnds : Delimited more) (same : numeral.1 ++ rest = other.1 ++ more) :
    numeral = other ∧ rest = more := by
  have taken (numeral : Numeral) {rest : Text} (ends : Delimited rest) :
      (numeral.1 ++ rest).takeWhile isNumeral = numeral.1 := by
    rw [takeWhile_append_of_pos (by simpa using numeral.2.2)]
    cases rest with
    | nil => simp
    | cons unit rest => simp [ends unit rfl]
  have sameNumeral := congrArg (takeWhile isNumeral) same
  rw [taken numeral ends, taken other otherEnds] at sameNumeral
  rw [sameNumeral] at same
  exact ⟨Subtype.ext sameNumeral, append_cancel_left same⟩

variable {Content : Type} {print : Content → Text} {related : Content → Content → Prop}

def Reads (print : Content → Text) (related : Content → Content → Prop) (content : Content) :
    Prop :=
  ∀ ⦃other : Content⦄ ⦃rest more : Text⦄, Delimited rest → Delimited more →
    print content ++ rest = print other ++ more → related content other ∧ rest = more

variable {close : Nat} (closes : close ≠ 44 ∧ isNumeral close = false)

include closes

theorem tail_cancel {contents others : List Content}
    (reads : ∀ content ∈ contents, Reads print related content)
    (same : (contents.map print).flatMap (44 :: ·) ++ close :: rest =
      (others.map print).flatMap (44 :: ·) ++ close :: more) :
    List.Forall₂ related contents others ∧ rest = more := by
  have delimited {contents : List Content} {rest : Text} :
      Delimited ((contents.map print).flatMap (44 :: ·) ++ close :: rest) := by
    intro unit first
    cases contents with
    | nil =>
      cases first
      exact closes.2
    | cons => 
      cases first
      rfl
  induction contents generalizing others with
  | nil =>
    cases others with
    | nil =>
      injection same with _ same
      exact ⟨List.Forall₂.nil, same⟩
    | cons =>
      injection same with comma _
      exact absurd comma closes.1
  | cons content contents ih =>
    cases others with
    | nil =>
      injection same with comma _
      exact absurd comma.symm closes.1
    | cons other others =>
      simp only [map_cons, flatMap_cons, cons_append, append_assoc] at same
      injection same with _ same
      obtain ⟨first, same⟩ := reads content mem_cons_self delimited delimited same
      obtain ⟨later, sameRest⟩ := ih (fun content member => reads content (mem_cons_of_mem _ member)) same
      exact ⟨List.Forall₂.cons first later, sameRest⟩

theorem join_cancel {contents others : List Content}
    (reads : ∀ content ∈ contents, Reads print related content)
    (opens : ∀ content tail rest, print content ++ tail ≠ close :: rest)
    (same : join (contents.map print) ++ close :: rest = join (others.map print) ++ close :: more) :
    List.Forall₂ related contents others ∧ rest = more := by
  cases contents with
  | nil =>
    cases others with
    | nil => exact tail_cancel closes reads same
    | cons =>
      rw [map_cons, join, append_assoc] at same
      exact absurd same.symm (opens _ _ _)
  | cons =>
    cases others with
    | nil =>
      rw [map_cons, join, append_assoc] at same
      exact absurd same (opens _ _ _)
    | cons => exact tail_cancel closes reads (congrArg (44 :: ·) same)

end Reading

section Kinds

def Json.kind : Json → Nat
  | null => 0
  | bool _ => 1
  | number _ => 2
  | text _ => 3
  | array _ => 4
  | object _ => 5

def kindOfUnit (unit : Nat) : Nat :=
  if isNumeral unit then 2
  else if unit = 110 then 0
  else if unit = 116 ∨ unit = 102 then 1
  else if unit = 34 then 3
  else if unit = 91 then 4
  else if unit = 123 then 5
  else 6

theorem head_stableStringify (json : Json) :
    ∃ unit rest, stableStringify json = unit :: rest ∧ kindOfUnit unit = json.kind := by
  cases json with
  | null => exact ⟨_, _, rfl, rfl⟩
  | bool value =>
    cases value with
    | true | false => exact ⟨_, _, rfl, rfl⟩
  | number numeral =>
    obtain ⟨printed, visible, numerals⟩ := numeral
    cases printed with
    | nil => exact absurd rfl visible
    | cons unit rest =>
      rw [all_cons, Bool.and_eq_true] at numerals
      exact ⟨unit, rest, by simp [stableStringify], if_pos numerals.1⟩
  | text | array | object =>
    rw [stableStringify]
    exact ⟨_, _, rfl, rfl⟩

theorem kind_eq {json other : Json} {rest more : Text}
    (same : stableStringify json ++ rest = stableStringify other ++ more) :
    json.kind = other.kind := by
  obtain ⟨unit, _, printed, kind⟩ := head_stableStringify json
  obtain ⟨otherUnit, _, otherPrinted, otherKind⟩ := head_stableStringify other
  rw [printed, otherPrinted] at same
  injection same with first _
  rw [← kind, ← otherKind, first]

theorem stableStringify_opens {close : Nat} (closes : kindOfUnit close = 6) (json : Json)
    (tail rest : Text) : stableStringify json ++ tail ≠ close :: rest := by
  obtain ⟨unit, _, printed, kind⟩ := head_stableStringify json
  rw [printed]
  intro same
  injection same with first _
  rw [first, closes] at kind
  cases json <;> cases kind

end Kinds

section Containers

theorem stringifyItems_eq_map (items : List Json) :
    stringifyItems items = items.map stableStringify := by
  induction items with
  | nil => simp [stringifyItems]
  | cons item items ih => simp [stringifyItems, ih]

theorem stringifyFields_eq_map (fields : List (Text × Json)) :
    stringifyFields fields = fields.map (fun field => (field.1, stableStringify field.2)) := by
  induction fields with
  | nil => simp [stringifyFields]
  | cons field fields ih => simp [stringifyFields, ih]

def printField (field : Text × Json) : Text :=
  quote field.1 ++ 58 :: stableStringify field.2

theorem stableStringify_array (items : List Json) (rest : Text) :
    stableStringify (.array items) ++ rest =
      91 :: (join (items.map stableStringify) ++ 93 :: rest) := by
  simp [stableStringify, stringifyItems_eq_map]

theorem stableStringify_object (fields : List (Text × Json)) (rest : Text) :
    stableStringify (.object fields) ++ rest =
      123 :: (join ((sortByKey fields).map printField) ++ 125 :: rest) := by
  have sorted : sortByKey (stringifyFields fields) =
      (sortByKey fields).map (fun field => (field.1, stableStringify field.2)) := by
    rw [stringifyFields_eq_map]
    exact (map_insertionSort (fun field other : Text × Json => field.1 ≤ other.1)
      (fun field other : Text × Text => field.1 ≤ other.1) _ fields
      (fun _ _ _ _ => Iff.rfl)).symm
  simp [stableStringify, sorted]
  rfl

theorem sortByKey_perm {Content : Type} (fields : List (Text × Content)) :
    (sortByKey fields).Perm fields :=
  perm_insertionSort _ fields

theorem sortByKey_eq {fields others : List (Text × Json)} (same : fields.Perm others)
    (distinct : (fields.map Prod.fst).Nodup) : sortByKey fields = sortByKey others := by
  refine List.Perm.eq_of_pairwise ?_ (pairwise_insertionSort _ fields)
    (pairwise_insertionSort _ others)
    ((sortByKey_perm fields).trans (same.trans (sortByKey_perm others).symm))
  intro field other member otherMember below above
  apply inj_on_of_nodup_map distinct ((sortByKey_perm fields).mem_iff.mp member)
    (same.mem_iff.mpr ((sortByKey_perm others).mem_iff.mp otherMember))
  exact le_antisymm below above

theorem Same.array_of_forall {items others : List Json} (each : List.Forall₂ Same items others) :
    ∀ before, Same (.array (before ++ items)) (.array (before ++ others)) := by
  induction each with
  | nil => exact fun before => Same.refl _
  | @cons _ other _ _ first _ ih =>
    intro before
    refine (Same.item before _ first).trans ?_
    simpa using ih (before ++ [other])

def SameField (field other : Text × Json) : Prop :=
  field.1 = other.1 ∧ Same field.2 other.2

theorem Same.object_of_forall {fields others : List (Text × Json)}
    (each : List.Forall₂ SameField fields others) :
    ∀ before, Same (.object (before ++ fields)) (.object (before ++ others)) := by
  induction each with
  | nil => exact fun before => Same.refl _
  | @cons field other _ _ first _ ih =>
    intro before
    obtain ⟨key, value⟩ := field
    obtain ⟨sameKey, sameValue⟩ := first
    refine (Same.field before _ key sameValue).trans ?_
    obtain rfl : key = other.1 := sameKey
    simpa using ih (before ++ [other])

end Containers

section Values

theorem reads_array {items : List Json} (each : ∀ item ∈ items, Reads stableStringify Same item) :
    Reads stableStringify Same (.array items) := by
  intro other rest more _ _ same
  have kinds := kind_eq same
  cases other with
  | array others =>
    rw [stableStringify_array, stableStringify_array] at same
    injection same with _ same
    obtain ⟨sameItems, sameRest⟩ :=
      join_cancel ⟨by decide, rfl⟩ each (stableStringify_opens rfl) same
    exact ⟨Same.array_of_forall sameItems [], sameRest⟩
  | _ => cases kinds

theorem reads_printField {field : Text × Json} (reads : Reads stableStringify Same field.2) :
    Reads printField SameField field := by
  intro other rest more ends otherEnds same
  simp only [printField, append_assoc] at same
  obtain ⟨sameKey, same⟩ := quote_cancel same
  injection same with _ same
  obtain ⟨sameValue, sameRest⟩ := reads ends otherEnds same
  exact ⟨⟨sameKey, sameValue⟩, sameRest⟩

theorem reads_object {fields : List (Text × Json)}
    (each : ∀ field ∈ fields, Reads stableStringify Same field.2) :
    Reads stableStringify Same (.object fields) := by
  intro other rest more _ _ same
  have kinds := kind_eq same
  cases other with
  | object others =>
    rw [stableStringify_object, stableStringify_object] at same
    injection same with _ same
    have opens (field : Text × Json) (tail rest : Text) :
        printField field ++ tail ≠ 125 :: rest := by
      intro same
      injection same with first _
      cases first
    obtain ⟨sameFields, sameRest⟩ := join_cancel ⟨by decide, rfl⟩
      (fun field member => reads_printField (each field ((sortByKey_perm fields).mem_iff.mp member)))
      opens same
    refine ⟨?_, sameRest⟩
    exact ((Same.permuted (sortByKey_perm fields).symm).trans
      (Same.object_of_forall sameFields [])).trans (Same.permuted (sortByKey_perm others))
  | _ => cases kinds

theorem reads_scalar (json : Json) (scalar : json.kind < 4) :
    Reads stableStringify Same json := by
  intro other rest more ends otherEnds same
  have kinds := kind_eq same
  cases json with
  | null =>
    cases other with
    | null => exact ⟨Same.refl _, append_cancel_left same⟩
    | _ => cases kinds
  | bool value =>
    cases other with
    | bool otherValue =>
      cases value <;> cases otherValue
      · exact ⟨Same.refl _, append_cancel_left same⟩
      · simp [stableStringify, units] at same
      · simp [stableStringify, units] at same
      · exact ⟨Same.refl _, append_cancel_left same⟩
    | _ => cases kinds
  | number numeral =>
    cases other with
    | number =>
      obtain ⟨rfl, sameRest⟩ := numeral_cancel ends otherEnds same
      exact ⟨Same.refl _, sameRest⟩
    | _ => cases kinds
  | text value =>
    cases other with
    | text =>
      obtain ⟨rfl, sameRest⟩ := quote_cancel same
      exact ⟨Same.refl _, sameRest⟩
    | _ => cases kinds
  | array | object => simp [Json.kind] at scalar

theorem reads_stableStringify : (json : Json) → Reads stableStringify Same json
  | .null => reads_scalar .null (by decide)
  | .bool value => reads_scalar (.bool value) (by simp [Json.kind])
  | .number numeral => reads_scalar (.number numeral) (by simp [Json.kind])
  | .text value => reads_scalar (.text value) (by simp [Json.kind])
  | .array items => reads_array (fun item _ => reads_stableStringify item)
  | .object fields => reads_object (fun field _ => reads_stableStringify field.2)
decreasing_by
  · have smaller := List.sizeOf_lt_of_mem ‹_›
    simp only [Json.array.sizeOf_spec]
    omega
  · have smaller := List.sizeOf_lt_of_mem ‹_›
    cases field
    simp only [Prod.mk.sizeOf_spec, Json.object.sizeOf_spec] at smaller ⊢
    omega

theorem Same.stringified {json other : Json} (same : Same json other)
    (wellFormed : json.WellFormed) :
    other.WellFormed ∧ stableStringify json = stableStringify other := by
  induction same with
  | refl => exact ⟨wellFormed, rfl⟩
  | trans _ _ first second =>
    obtain ⟨middle, sameFirst⟩ := first wellFormed
    obtain ⟨last, sameSecond⟩ := second middle
    exact ⟨last, sameFirst.trans sameSecond⟩
  | item before after _ ih =>
    cases wellFormed with
    | array each =>
      obtain ⟨changed, printed⟩ := ih (each _ (by simp))
      refine ⟨.array fun item member => ?_, ?_⟩
      · rcases mem_append.mp member with early | late
        · exact each item (by simp [early])
        · rcases mem_cons.mp late with rfl | late
          · exact changed
          · exact each item (by simp [late])
      · simp [stableStringify, stringifyItems_eq_map, printed]
  | field before after key _ ih =>
    cases wellFormed with
    | object distinct each =>
      obtain ⟨changed, printed⟩ := ih (each (key, _) (by simp))
      refine ⟨.object (by simpa using distinct) fun field member => ?_, ?_⟩
      · rcases mem_append.mp member with early | late
        · exact each field (by simp [early])
        · rcases mem_cons.mp late with rfl | late
          · exact changed
          · exact each field (by simp [late])
      · simp [stableStringify, stringifyFields_eq_map, printed]
  | permuted order =>
    cases wellFormed with
    | object distinct each =>
      refine ⟨.object ((order.map _).nodup_iff.mp distinct) fun field member =>
        each field (order.mem_iff.mpr member), ?_⟩
      have printed (fields : List (Text × Json)) := stableStringify_object fields []
      simp only [append_nil] at printed
      rw [printed, printed, sortByKey_eq order distinct]

end Values

section CacheKey

variable (sha256 : Text → Text) (model : Text) (sessionId : Option Text)

theorem cacheMaterial_eq : ∃ before after, ∀ staticPrefix,
    cacheMaterial sha256 model sessionId staticPrefix =
      before ++ (stableStringify staticPrefix ++ after) := by
  let modelField : Text × Json := (units ['m', 'o', 'd', 'e', 'l'], .text model)
  let scopeField : Text × Json := (units ['s', 'c', 'o', 'p', 'e'], sessionScope sha256 sessionId)
  let versionField : Text × Json := (units ['v', 'e', 'r', 's', 'i', 'o', 'n'], .text version)
  let prefixKey := units ['p', 'r', 'e', 'f', 'i', 'x']
  have sorted (staticPrefix : Json) :
      sortByKey [versionField, modelField, scopeField, (prefixKey, staticPrefix)] =
        [modelField, (prefixKey, staticPrefix), scopeField, versionField] :=
    rfl
  refine ⟨123 :: join [printField modelField, quote prefixKey ++ [58]],
    join [[], printField scopeField, printField versionField] ++ [125], fun staticPrefix => ?_⟩
  rw [cacheMaterial, ← append_nil (stableStringify _), stableStringify_object, sorted]
  simp [join, printField]

/-- Two values are printed alike, and share a cache key, exactly when they are
equal up to the order of object keys. -/
theorem stableStringify_canonical (json other : Value)
    (apart : (sha256 (cacheMaterial sha256 model sessionId json.1)).take 40 =
      (sha256 (cacheMaterial sha256 model sessionId other.1)).take 40 →
      cacheMaterial sha256 model sessionId json.1 = cacheMaterial sha256 model sessionId other.1) :
    (stableStringify json.1 = stableStringify other.1 ↔ Same json.1 other.1) ∧
      (cacheKey sha256 model sessionId json.1 = cacheKey sha256 model sessionId other.1 ↔
        Same json.1 other.1) := by
  have ends : Delimited [] := nofun
  have printed : stableStringify json.1 = stableStringify other.1 ↔ Same json.1 other.1 := by
    constructor
    · intro same
      have padded := congrArg (· ++ ([] : Text)) same
      exact (reads_stableStringify json.1 ends ends padded).1
    · exact fun same => (same.stringified json.2).2
  refine ⟨printed, fun same => ?_, fun same => ?_⟩
  · obtain ⟨before, after, material⟩ := cacheMaterial_eq sha256 model sessionId
    have shared := apart (append_cancel_left same)
    rw [material, material] at shared
    exact printed.mp (append_cancel_right (append_cancel_left shared))
  · obtain ⟨before, after, material⟩ := cacheMaterial_eq sha256 model sessionId
    rw [cacheKey, cacheKey, material, material, printed.mpr same]

def sampleFields : List (Text × Json) :=
  [(units ['a'], .null), (units ['b'], .bool true)]

def sampleValue : Value :=
  ⟨.object sampleFields, .object (by decide) (by simp [sampleFields, Json.WellFormed.null,
    Json.WellFormed.bool])⟩

def sampleSwapped : Value :=
  ⟨.object sampleFields.reverse, .object (by decide) (by simp [sampleFields,
    Json.WellFormed.null, Json.WellFormed.bool])⟩

def sampleSha256 (_ : Text) : Text :=
  units "e9a7940dc2af951788d48c7d0a43f8d5329b7da50488fdb95e1ffef7b306e132".toList

theorem stableStringify_canonical_sample :
    stableStringify sampleValue.1 = stableStringify sampleSwapped.1 ∧
      cacheKey sampleSha256 (units ['m']) none sampleValue.1 =
        cacheKey sampleSha256 (units ['m']) none sampleSwapped.1 := by
  have swapped : Same sampleValue.1 sampleSwapped.1 := Same.permuted sampleFields.reverse_perm.symm
  obtain ⟨printed, keys⟩ := stableStringify_canonical sampleSha256 (units ['m']) none
    sampleValue sampleSwapped (fun _ => rfl)
  exact ⟨printed.mpr swapped, keys.mpr swapped⟩

end CacheKey

end DcpPlatform.PromptCache
