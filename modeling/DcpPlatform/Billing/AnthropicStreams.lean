import DcpPlatform.Billing.Gate
import DcpPlatform.Chat.Relay
import DcpPlatform.Foundation.Doubles

/-!
# Anthropic streams

A stream is billed by the usage in the last 65536 code units received, where a
count of zero does not replace an earlier one. When the funds are gone by then,
the settlement is rolled back and only logged.
-/

namespace DcpPlatform.Billing

open Foundation Table List

/-- The counts of a usage object, as far as it has them. -/
structure AnthropicUsage where
  inputTokens : Option Nat
  outputTokens : Option Nat

structure AnthropicRequest where
  uuid : String
  renterId : RenterId
  providerId : ProviderId
  modelId : String
  estimateHalala : Int
  inRateHalalaPer1m : Nat
  outRateHalalaPer1m : Nat
  nowIso : Nat

def settleAnthropicUsage (request : AnthropicRequest) (promptTokens completionTokens : Nat) :
    SettleArgs :=
  let costOf (tokens rate : Nat) : ℚ := toDouble (toDouble (tokens * rate : Nat) / 1000000)
  let promptCost := costOf promptTokens request.inRateHalalaPer1m
  let completionCost := costOf completionTokens request.outRateHalalaPer1m
  { requestId := "anthro-" ++ request.uuid
    renterId := request.renterId
    providerId := some request.providerId
    costHalala := max 1 ⌈toDouble (promptCost + completionCost)⌉
    modelId := some request.modelId
    usageEventRow := some
      { promptTokens
        completionTokens
        promptCostHalala := ⌈promptCost⌉
        completionCostHalala := ⌈completionCost⌉
        inRateHalalaPer1m := request.inRateHalalaPer1m
        outRateHalalaPer1m := request.outRateHalalaPer1m
        source := some "anthropic/messages" }
    jobRow := none
    nowIso := request.nowIso }

def streamTailCap : Nat := 65536

def unitsOf (bytes : List Nat) : List Nat :=
  utf16Units (String.ofList (Chat.Relay.decode bytes))

def sseTail (chunks : List (List Nat)) : List Nat :=
  chunks.foldl (fun tail chunk => (tail ++ unitsOf chunk).rtake streamTailCap) []

section Usage

-- The usage that `JSON.parse` finds in a frame, unless it throws.
variable (parse : List Nat → Option AnthropicUsage) (field : AnthropicUsage → Option Nat)

def countIn (line : List Nat) : Option Nat :=
  if utf16Units "data: " <+: line ∧ utf16Units "\"usage\"" <:+: line then
    (parse (line.drop 6)).bind field
  else
    none

def extractStreamUsage (text : List Nat) : Nat :=
  (text.splitOn 10).foldl (fun usage line =>
    match countIn parse field line with
    | some count => if count = 0 then usage else count
    | none => usage) 0

def countsIn (text : List Nat) : List Nat :=
  (text.splitOn 10).filterMap (countIn parse field)

def lastCount (text : List Nat) : Nat :=
  (countsIn parse field text).getLast?.getD 0

def BeforeLine (text : List Nat) : Prop :=
  text = [] ∨ ∃ lines, text = lines ++ [10]

/-- No count is lost where a chunk ends within a character, and the last one is
in whole lines of the tail and not zero, or zero as are all in the tail. -/
def LastKept (chunks : List (List Nat)) : Prop :=
  let received := chunks.flatMap unitsOf
  countsIn parse field received = countsIn parse field (unitsOf chunks.flatten) ∧
    ((∃ front rest, received = front ++ rest ∧ BeforeLine front ∧ rest.length ≤ streamTailCap ∧
        lastCount parse field rest ≠ 0) ∨
      lastCount parse field received = 0 ∧
        ∀ count ∈ countsIn parse field (received.rtake streamTailCap), count = 0)

end Usage

section Billed

variable (parse : List Nat → Option AnthropicUsage) (request : AnthropicRequest)
  (chunks : List (List Nat)) (db : Database)

def streamSettlement : SettleArgs :=
  settleAnthropicUsage request (extractStreamUsage parse AnthropicUsage.inputTokens (sseTail chunks))
    (extractStreamUsage parse AnthropicUsage.outputTokens (sseTail chunks))

/-- The settlement by the last counts of the complete stream. -/
def wholeSettlement : SettleArgs :=
  settleAnthropicUsage request
    (lastCount parse AnthropicUsage.inputTokens (unitsOf chunks.flatten))
    (lastCount parse AnthropicUsage.outputTokens (unitsOf chunks.flatten))

/-- The stream costs what its last counts cost, and leaves a record when the
funds for a cost within the estimate are gone. -/
structure StreamBilled : Prop where
  cost : (streamSettlement parse request chunks).costHalala =
    (wholeSettlement parse request chunks).costHalala
  recorded : (wholeSettlement parse request chunks).costHalala ≤ request.estimateHalala →
    getEffectiveBalance db request.renterId request.nowIso <
        (wholeSettlement parse request chunks).cost →
      ((settleInferenceOnce (streamSettlement parse request chunks) db).2.billingAttempts.lookup
        ("anthro-" ++ request.uuid)).isSome

end Billed

variable {parse : List Nat → Option AnthropicUsage} {field : AnthropicUsage → Option Nat}
  {request : AnthropicRequest} {chunks : List (List Nat)} {db : Database}

theorem rtake_rtake_append (text more : List Nat) (size : Nat) :
    (text.rtake size ++ more).rtake size = (text ++ more).rtake size := by
  simp only [rtake_eq_reverse_take_reverse, reverse_append, reverse_reverse, take_append, take_take]
  rw [Nat.min_eq_left (Nat.sub_le _ _)]

theorem foldl_rtake (size : Nat) (text : List Nat) (chunks : List (List Nat)) :
    chunks.foldl (fun tail chunk => (tail ++ unitsOf chunk).rtake size) (text.rtake size) =
      (text ++ chunks.flatMap unitsOf).rtake size := by
  induction chunks generalizing text with
  | nil => simp
  | cons chunk chunks ih =>
    rw [foldl_cons, rtake_rtake_append, ih, flatMap_cons, append_assoc]

theorem sseTail_eq (chunks : List (List Nat)) :
    sseTail chunks = (chunks.flatMap unitsOf).rtake streamTailCap := by
  have folded := foldl_rtake streamTailCap [] chunks
  rwa [rtake_nil, nil_append] at folded

theorem extractStreamUsage_eq (text : List Nat) : extractStreamUsage parse field text =
    (countsIn parse field text).foldl (fun usage count =>
      if count = 0 then usage else count) 0 := by
  rw [extractStreamUsage, countsIn, foldl_filterMap]
  congr 1
  funext usage line
  cases countIn parse field line <;> rfl

theorem foldl_of_zero {counts : List Nat} (zero : ∀ count ∈ counts, count = 0) :
    counts.foldl (fun usage count => if count = 0 then usage else count) 0 = 0 := by
  induction counts with
  | nil => rfl
  | cons count counts ih =>
    obtain ⟨here, rest⟩ := forall_mem_cons.mp zero
    rw [foldl_cons, if_pos here]
    exact ih rest

variable (parse field) in
theorem countsIn_append {front : List Nat} (before : BeforeLine front) (rest : List Nat) :
    ∃ earlier, countsIn parse field (front ++ rest) = earlier ++ countsIn parse field rest := by
  rcases before with rfl | ⟨lines, rfl⟩
  · exact ⟨[], rfl⟩
  · refine ⟨countsIn parse field lines, ?_⟩
    rw [append_assoc, countsIn, singleton_append, splitOn_append_cons_self, filterMap_append]
    rfl

theorem BeforeLine.rtake {front : List Nat} (before : BeforeLine front) (size : Nat) :
    BeforeLine (front.rtake size) := by
  rcases before with rfl | ⟨lines, rfl⟩
  · exact Or.inl (rtake_nil _)
  · cases size with
    | zero => exact Or.inl (rtake_zero _)
    | succ size => exact Or.inr ⟨_, rtake_concat_succ lines size 10⟩

theorem extractStreamUsage_sseTail (kept : LastKept parse field chunks) :
    extractStreamUsage parse field (sseTail chunks) =
      lastCount parse field (unitsOf chunks.flatten) := by
  obtain ⟨same, ⟨front, rest, received, before, short, positive⟩ | ⟨last, zero⟩⟩ := kept
  · have tail : sseTail chunks = front.rtake (streamTailCap - rest.length) ++ rest := by
      rw [sseTail_eq, received, rtake_eq_reverse_take_reverse, reverse_append, take_append,
        length_reverse, take_of_length_le (by simpa using short), reverse_append, reverse_reverse,
        rtake_eq_reverse_take_reverse]
    obtain ⟨earlier, all⟩ := countsIn_append parse field before rest
    obtain ⟨cut, ending⟩ :=
      countsIn_append parse field (before.rtake (streamTailCap - rest.length)) rest
    rw [extractStreamUsage_eq, tail, ending, lastCount, ← same, received, all]
    rw [lastCount] at positive
    rcases eq_nil_or_concat (countsIn parse field rest) with none | ⟨counts, count, found⟩
    · rw [none] at positive
      exact absurd rfl positive
    · rw [found, concat_eq_append] at positive ⊢
      rw [getLast?_concat, Option.getD_some] at positive
      simp [positive]
  · rw [extractStreamUsage_eq, sseTail_eq, foldl_of_zero zero, ← last, lastCount, same]
    rfl

/-- Where the tail keeps the last counts, a stream is billed for all of it
exactly when the funds cover the cost or the cost exceeds the estimate. -/
theorem streamBilled_iff (fresh : db.billingAttempts.lookup ("anthro-" ++ request.uuid) = none)
    (nonneg : 0 ≤ db.balance request.renterId)
    (input : LastKept parse AnthropicUsage.inputTokens chunks)
    (output : LastKept parse AnthropicUsage.outputTokens chunks) :
    StreamBilled parse request chunks db ↔
      ((wholeSettlement parse request chunks).costHalala ≤ request.estimateHalala →
        (wholeSettlement parse request chunks).cost ≤
          getEffectiveBalance db request.renterId request.nowIso) := by
  have whole : streamSettlement parse request chunks = wholeSettlement parse request chunks := by
    rw [streamSettlement, extractStreamUsage_sseTail input, extractStreamUsage_sseTail output]
    rfl
  have named : (wholeSettlement parse request chunks).requestId ≠ "" := by
    intro empty
    have length := congrArg String.length empty
    simp [wholeSettlement, settleAnthropicUsage] at length
  have lost : getEffectiveBalance db request.renterId request.nowIso <
      (wholeSettlement parse request chunks).cost →
        (settleInferenceOnce (wholeSettlement parse request chunks) db).2 = db := by
    intro short
    obtain ⟨_, _, _, thrown⟩ := (insufficient_iff named fresh nonneg).mpr short
    rcases settleInferenceOnce_cases (wholeSettlement parse request chunks) db with
      ⟨_, _, settled, _⟩ | ⟨unchanged, _⟩
    · rw [settled] at thrown
      cases thrown
    · exact unchanged
  constructor
  · intro billed within
    by_contra short
    have recorded := billed.recorded within (not_le.mp short)
    rw [whole, lost (not_le.mp short), fresh] at recorded
    cases recorded
  · intro covered
    refine ⟨congrArg SettleArgs.costHalala whole, fun within short => ?_⟩
    exact absurd short (not_lt.mpr (covered within))

def sampleStreamRequest : AnthropicRequest :=
  ⟨"x", 1, 2, "model", 1000, 150, 400, 500⟩

def sampleStream : List (List Nat) :=
  ["data: \x7b\"usage\":\x7b\"output_tokens\":1000000\x7d\x7d\n".toList.map Char.toNat]

def sampleUsage (_ : List Nat) : Option AnthropicUsage :=
  some ⟨none, some 1000000⟩

theorem streamBilled_sample :
    StreamBilled sampleUsage sampleStreamRequest sampleStream sampleDatabase :=
  (streamBilled_iff rfl (by decide +kernel)
    ⟨by decide +kernel, Or.inr ⟨by decide +kernel, by decide +kernel⟩⟩
    ⟨by decide +kernel, Or.inl ⟨[], sampleStream.flatMap unitsOf, rfl, Or.inl rfl, by decide +kernel,
      by decide +kernel⟩⟩).mpr (fun _ => by decide +kernel)

/-- The renter has spent everything since the gate. -/
theorem drained_stream_unrecorded : ¬ StreamBilled sampleUsage sampleStreamRequest sampleStream
    { sampleDatabase with renters := fun _ => none } := by
  intro billed
  have recorded := billed.recorded (by decide +kernel) (by decide +kernel)
  revert recorded
  decide +kernel

end DcpPlatform.Billing
