import Mathlib.Data.List.Lex
import Mathlib.Data.List.Sort

/-!
# Printing JSON values

A text is the list of its UTF-16 code units, so that a surrogate may stand
alone. A finite number is known by the numeral that `JSON.stringify` prints for
it, which is the same for no other number.
-/

namespace DcpPlatform.PromptCache

abbrev Text := List Nat

def units (characters : List Char) : Text :=
  characters.map Char.toNat

/-- The digits, the signs, the point and the `e` of a numeral. -/
def isNumeral (unit : Nat) : Bool :=
  (48 ≤ unit && unit ≤ 57) || [43, 45, 46, 101].contains unit

abbrev Numeral := { text : Text // text ≠ [] ∧ text.all isNumeral = true }

inductive Json where
  | null
  | bool (value : Bool)
  | number (numeral : Numeral)
  | text (value : Text)
  | array (items : List Json)
  | object (fields : List (Text × Json))

/-- No object has a key twice. -/
inductive Json.WellFormed : Json → Prop
  | null : WellFormed .null
  | bool (value : Bool) : WellFormed (.bool value)
  | number (numeral : Numeral) : WellFormed (.number numeral)
  | text (value : Text) : WellFormed (.text value)
  | array {items : List Json} : (∀ item ∈ items, item.WellFormed) → WellFormed (.array items)
  | object {fields : List (Text × Json)} : (fields.map Prod.fst).Nodup →
    (∀ field ∈ fields, field.2.WellFormed) → WellFormed (.object fields)

abbrev Value := { json : Json // json.WellFormed }

/-- Equal up to the order of the fields of objects. -/
inductive Same : Json → Json → Prop
  | refl (json : Json) : Same json json
  | trans {first second third : Json} : Same first second → Same second third → Same first third
  | item {json other : Json} (before after : List Json) : Same json other →
    Same (.array (before ++ json :: after)) (.array (before ++ other :: after))
  | field {json other : Json} (before after : List (Text × Json)) (key : Text) : Same json other →
    Same (.object (before ++ (key, json) :: after)) (.object (before ++ (key, other) :: after))
  | permuted {fields others : List (Text × Json)} : fields.Perm others →
    Same (.object fields) (.object others)

section Quoting

/-- The letters of `\b`, `\t`, `\n`, `\f`, `\r` and of the escaped quote and
backslash. -/
def shortEscapes : List (Nat × Nat) :=
  [(8, 98), (9, 116), (10, 110), (12, 102), (13, 114), (34, 34), (92, 92)]

def isLead (unit : Nat) : Bool :=
  0xd800 ≤ unit && unit < 0xdc00

def isTrail (unit : Nat) : Bool :=
  0xdc00 ≤ unit && unit < 0xe000

def hexDigit (digit : Nat) : Nat :=
  if digit < 10 then 48 + digit else 87 + digit

def unicodeEscape (unit : Nat) : Text :=
  [92, 117, hexDigit (unit / 4096 % 16), hexDigit (unit / 256 % 16),
    hexDigit (unit / 16 % 16), hexDigit (unit % 16)]

def escape (unit : Nat) : Text :=
  match shortEscapes.find? (fun entry => entry.1 = unit) with
  | some entry => [92, entry.2]
  | none =>
    if unit < 32 || isLead unit || isTrail unit then unicodeEscape unit else [unit]

/-- The two halves of a surrogate pair are not escaped. -/
def escapeUnits : Text → Text
  | [] => []
  | [unit] => escape unit
  | lead :: trail :: rest =>
    if isLead lead && isTrail trail then
      lead :: trail :: escapeUnits rest
    else
      escape lead ++ escapeUnits (trail :: rest)

def quote (text : Text) : Text :=
  34 :: escapeUnits text ++ [34]

end Quoting

def join : List Text → Text
  | [] => []
  | first :: rest => first ++ rest.flatMap (fun text => 44 :: text)

def sortByKey {Content : Type} (fields : List (Text × Content)) : List (Text × Content) :=
  fields.insertionSort (fun field other => field.1 ≤ other.1)

mutual

def stableStringify : Json → Text
  | .null => units ['n', 'u', 'l', 'l']
  | .bool true => units ['t', 'r', 'u', 'e']
  | .bool false => units ['f', 'a', 'l', 's', 'e']
  | .number numeral => numeral.1
  | .text value => quote value
  | .array items => 91 :: join (stringifyItems items) ++ [93]
  | .object fields =>
    123 :: join ((sortByKey (stringifyFields fields)).map
      (fun field => quote field.1 ++ 58 :: field.2)) ++ [125]

def stringifyItems : List Json → List Text
  | [] => []
  | item :: rest => stableStringify item :: stringifyItems rest

def stringifyFields : List (Text × Json) → List (Text × Text)
  | [] => []
  | (key, value) :: rest => (key, stableStringify value) :: stringifyFields rest

end

section CacheKey

def version : Text :=
  units ['d', 'c', 'p', '.', 'p', 'r', 'o', 'm', 'p', 't', '_', 'c', 'a', 'c', 'h', 'e', '.',
    'v', '1']

def sessionScope (sha256 : Text → Text) (sessionId : Option Text) : Json :=
  .object [(units ['s', 'e', 's', 's', 'i', 'o', 'n', '_', 'i', 'd', '_', 'h', 'a', 's', 'h'],
    match sessionId with
    | none | some [] => .null
    | some sessionId => .text (sha256 sessionId))]

/-- What a cache key is the digest of; `model` is trimmed. -/
def cacheMaterial (sha256 : Text → Text) (model : Text) (sessionId : Option Text)
    (staticPrefix : Json) : Text :=
  stableStringify (.object [ (units ['v', 'e', 'r', 's', 'i', 'o', 'n'], .text version),
    (units ['m', 'o', 'd', 'e', 'l'], .text model),
    (units ['s', 'c', 'o', 'p', 'e'], sessionScope sha256 sessionId),
    (units ['p', 'r', 'e', 'f', 'i', 'x'], staticPrefix)])

/-- The `cache_key` of `buildPromptCacheKey`. -/
def cacheKey (sha256 : Text → Text) (model : Text) (sessionId : Option Text)
    (staticPrefix : Json) : Text :=
  units ['p', 'c', '_'] ++ (sha256 (cacheMaterial sha256 model sessionId staticPrefix)).take 40

end CacheKey

end DcpPlatform.PromptCache
