import DcpPlatform.Chat.Capability

/-!
# The model that is sent upstream

A provider gets the id that was asked for, another name of it, or an id that
it reports and that looks alike: one key is a part of the other. So a name
without its size stands for every size.
-/

namespace DcpPlatform.Chat.Routing

open Foundation

/-- The list of a provider: an array, or a column of text. -/
inductive ReportedModels where
  | absent
  | list (models : List String)
  | text (raw : String)

def looksTagged (id : String) : Bool :=
  includes id ":" && !includes id "/"

def endpointLooksOllama (endpointUrl : Option String) : Bool :=
  endpointUrl.any (fun url => includes url ":11434" || includes (sqlLower url) "ollama")

def OLLAMA_TO_HF_ALIASES : List (String × String) :=
  (DASH_TO_CANONICAL.map (fun entry => (trim (toLowerCase entry.2), entry.1))).reverse

/-- The key of `resolveOllamaModelId`, which may be short. -/
def looseKey (id : String) : String :=
  String.ofList (withoutQuantization 0
    ((toLowerCase id).toList.filter (fun character =>
      !(['/', ':', '_', '-', '.'].contains character || isSpace character))))

def splitModels (raw : String) : List String :=
  let opened := if raw.toList.head? = some '[' then raw.toList.drop 1 else raw.toList
  let closed := if opened.getLast? = some ']' then opened.dropLast else opened
  (closed.splitOnP [',', '\n'].contains).map (fun piece => strip
    (fun character => [34, 39].contains character.toNat || isSpace character)
    (String.ofList piece))

def cachedOriginal (reported : ReportedModels) : List String :=
  (match reported with
    | .absent => []
    | .list models => models.map trim
    | .text raw => splitModels raw).filter (· ≠ "")

section Resolve

-- What `JSON.parse` and `String` make of a text that is an array.
variable (parse : String → Option (List String))

def cachedList (reported : ReportedModels) : List String :=
  ((match reported with
    | .absent => []
    | .list models => models
    | .text raw => (parse raw).getD
      ((raw.toList.splitOnP (· = ',')).map String.ofList)).map
        (fun model => trim (toLowerCase model))).filter (· ≠ "")

def looseMatch (wantLoose : String) (reported : List String) : Option String :=
  if 4 ≤ utf16Length wantLoose then
    (reported.find? (fun model => looseKey model = wantLoose)).or
      (reported.find? (fun model => looseKey model ≠ "" &&
        (includes (looseKey model) wantLoose || includes wantLoose (looseKey model))))
  else
    none

def resolveOllamaModelId (modelId : String) (endpointUrl : Option String)
    (reported : ReportedModels) : String :=
  let normalized := trim (toLowerCase modelId)
  let listed := cachedList parse reported
  let canonical := (DASH_TO_CANONICAL.lookup normalized).filter (fun tag =>
    endpointLooksOllama endpointUrl || looksTagged normalized || listed.contains tag)
  let original :=
    if looksTagged normalized && !endpointLooksOllama endpointUrl && !listed.any looksTagged then
      (OLLAMA_TO_HF_ALIASES.lookup normalized).filter (fun hf => listed.contains (toLowerCase hf))
    else
      none
  if modelId = "" then
    modelId
  else
    ((canonical.or original).or
      (looseMatch (looseKey normalized) (cachedOriginal reported))).getD modelId

end Resolve

def PartOfOther (first second : String) : Prop :=
  first.toList <:+: second.toList ∨ second.toList <:+: first.toList

/-- Ids with names, or with keys of names, of which one is a part of the
other. -/
def LookAlike (candidate requested : String) : Prop :=
  ∃ first ∈ modelMatchKeys candidate, ∃ second ∈ modelMatchKeys requested,
    PartOfOther first second ∨ looseModelKey first ≠ "" ∧ looseModelKey second ≠ "" ∧
      PartOfOther (looseModelKey first) (looseModelKey second)

/-- What may be sent to a provider for an id. -/
inductive Served (requested : String) (reported : List String) : String → Prop
  | asked : Served requested reported requested
  | canonical {tag : String} (named : (trim (toLowerCase requested), tag) ∈ DASH_TO_CANONICAL) :
      Served requested reported tag
  | original {hf : String} (named : (hf, trim (toLowerCase requested)) ∈ DASH_TO_CANONICAL) :
      Served requested reported hf
  | alike {model : String} (listed : model ∈ reported) (keyed : looseKey model ≠ "")
      (long : 4 ≤ utf16Length (looseKey (trim (toLowerCase requested))))
      (part : PartOfOther (looseKey model) (looseKey (trim (toLowerCase requested))))
      (closest : ∀ other ∈ reported, looseKey other = looseKey (trim (toLowerCase requested)) →
        looseKey model = looseKey (trim (toLowerCase requested))) :
      Served requested reported model

theorem eitherIncludes_iff (left right : String) :
    eitherIncludes left right = true ↔ PartOfOther left right := by
  simp only [eitherIncludes, includes, PartOfOther, Bool.or_eq_true, decide_eq_true_eq]
  constructor
  · rintro ((rfl | part) | part)
    · exact Or.inl List.infix_rfl
    · exact Or.inr part
    · exact Or.inl part
  · rintro (part | part)
    · exact Or.inr part
    · exact Or.inl (Or.inr part)

theorem modelIdsMatch_iff (candidate requested : String) :
    modelIdsMatch candidate requested = true ↔ LookAlike candidate requested := by
  simp only [modelIdsMatch, LookAlike, Bool.or_eq_true, Bool.and_eq_true, List.any_eq_true,
    eitherIncludes_iff, decide_eq_true_eq]
  constructor
  · rintro (⟨first, named, second, asked, part⟩ | ⟨first, named, keyed, second, asked, key, part⟩)
    · exact ⟨first, named, second, asked, Or.inl part⟩
    · exact ⟨first, named, second, asked, Or.inr ⟨keyed, key, part⟩⟩
  · rintro ⟨first, named, second, asked, part | ⟨keyed, key, part⟩⟩
    · exact Or.inl ⟨first, named, second, asked, part⟩
    · exact Or.inr ⟨first, named, keyed, second, asked, key, part⟩

theorem mem_of_lookup {entries : List (String × String)} {name tag : String}
    (found : entries.lookup name = some tag) : (name, tag) ∈ entries := by
  induction entries with
  | nil => cases found
  | cons entry rest ih =>
    rw [List.lookup_cons] at found
    split at found
    · rename_i same
      cases found
      rw [beq_iff_eq.mp same]
      exact List.mem_cons_self
    · exact List.mem_cons_of_mem _ (ih found)

theorem original_of_lookup {name hf : String}
    (found : OLLAMA_TO_HF_ALIASES.lookup name = some hf) : (hf, name) ∈ DASH_TO_CANONICAL := by
  have plain : ∀ entry ∈ DASH_TO_CANONICAL, trim (toLowerCase entry.2) = entry.2 := by
    decide +kernel
  obtain ⟨entry, member, same⟩ := List.mem_map.mp (List.mem_reverse.mp (mem_of_lookup found))
  obtain ⟨tagged, rfl⟩ := Prod.mk.inj same
  rw [← tagged, plain entry member]
  exact member

theorem served_of_looseMatch {requested model : String} {reported : List String}
    (found : looseMatch (looseKey (trim (toLowerCase requested))) reported = some model) :
    Served requested reported model := by
  generalize key : looseKey (trim (toLowerCase requested)) = wanted at found
  unfold looseMatch at found
  split at found
  · rename_i long
    rcases Option.or_eq_some_iff.mp found with equal | ⟨missing, part⟩
    · have same : looseKey model = wanted := by simpa using List.find?_some equal
      refine .alike (List.mem_of_find?_eq_some equal) ?_ (key ▸ long) ?_ ?_
      · rw [same]
        rintro rfl
        cases long
      · rw [same, key]
        exact Or.inl List.infix_rfl
      · rw [key]
        exact fun _ _ _ => same
    · have parts := List.find?_some part
      simp only [includes, Bool.and_eq_true, Bool.or_eq_true, decide_eq_true_eq] at parts
      refine .alike (List.mem_of_find?_eq_some part) parts.1 (key ▸ long) ?_ ?_
      · rw [key]
        exact parts.2.symm
      · intro other listed same
        exact absurd (same.trans key) (of_decide_eq_false
          (eq_false_of_ne_true (List.find?_eq_none.mp missing other listed)))
  · cases found

/-- What is sent is the id that was asked for, another name of it, or a reported
id that looks alike, and ids match when they look alike. -/
theorem served_or_lookAlike (parse : String → Option (List String)) (modelId : String)
    (endpointUrl : Option String) (reported : ReportedModels) :
    Served modelId (cachedOriginal reported)
        (resolveOllamaModelId parse modelId endpointUrl reported) ∧
      ∀ candidate, modelIdsMatch candidate modelId = true ↔ LookAlike candidate modelId := by
  refine ⟨?_, fun candidate => modelIdsMatch_iff candidate modelId⟩
  simp only [resolveOllamaModelId]
  split
  · exact .asked
  · generalize result : Option.or _ _ = sent
    cases sent with
    | none => exact .asked
    | some model =>
      rcases Option.or_eq_some_iff.mp result with named | ⟨_, alike⟩
      · rcases Option.or_eq_some_iff.mp named with canonical | ⟨_, original⟩
        · exact .canonical (mem_of_lookup (Option.filter_eq_some_iff.mp canonical).1)
        · split at original
          · exact .original (original_of_lookup (Option.filter_eq_some_iff.mp original).1)
          · cases original
      · exact served_of_looseMatch alike

/-- A request for a family is sent to the one of its models that is reported;
the keys differ even without the repository. -/
theorem size_not_asked_for : resolveOllamaModelId (fun _ => none) "llama-3" none
        (.list ["meta-llama/Llama-3-70B-Instruct"]) = "meta-llama/Llama-3-70B-Instruct" ∧
      modelIdsMatch "meta-llama/Llama-3-70B-Instruct" "llama-3" = true ∧
      looseKey "Llama-3-70B-Instruct" ≠ looseKey "llama-3" ∧
      (∀ entry ∈ DASH_TO_CANONICAL, entry.1 ≠ "llama-3" ∧ entry.2 ≠ "llama-3") := by
  decide +kernel

end DcpPlatform.Chat.Routing
