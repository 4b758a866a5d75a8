import DcpPlatform.Foundation.Text

/-!
# Relaying a stream of events

A provider's stream comes in chunks of bytes, each of which is decoded by
itself. Where no chunk ends within a character, what the renter is sent does
not depend on the chunks.
-/

namespace DcpPlatform.Chat.Relay

open Foundation List

/-- A character of which bytes are still to come, the next one within a range. -/
structure Pending where
  code : Nat
  missing : Nat
  lowest : Nat
  highest : Nat

def replacement : Char :=
  Char.ofNat 0xFFFD

def beginCharacter (byte : Nat) : List Char × Option Pending :=
  if byte ≤ 0x7F then ([Char.ofNat byte], none)
  else if 0xC2 ≤ byte ∧ byte ≤ 0xDF then ([], some ⟨byte - 0xC0, 1, 0x80, 0xBF⟩)
  else if byte = 0xE0 then ([], some ⟨0, 2, 0xA0, 0xBF⟩)
  else if byte = 0xED then ([], some ⟨0xD, 2, 0x80, 0x9F⟩)
  else if 0xE1 ≤ byte ∧ byte ≤ 0xEF then ([], some ⟨byte - 0xE0, 2, 0x80, 0xBF⟩)
  else if byte = 0xF0 then ([], some ⟨0, 3, 0x90, 0xBF⟩)
  else if 0xF1 ≤ byte ∧ byte ≤ 0xF3 then ([], some ⟨byte - 0xF0, 3, 0x80, 0xBF⟩)
  else if byte = 0xF4 then ([], some ⟨4, 3, 0x80, 0x8F⟩)
  else ([replacement], none)

def readByte : Option Pending → Nat → List Char × Option Pending
  | none, byte => beginCharacter byte
  | some pending, byte =>
    if pending.lowest ≤ byte ∧ byte ≤ pending.highest then
      let code := pending.code * 64 + (byte - 0x80)
      if pending.missing = 1 then ([Char.ofNat code], none)
      else ([], some ⟨code, pending.missing - 1, 0x80, 0xBF⟩)
    else
      (replacement :: (beginCharacter byte).1, (beginCharacter byte).2)

def decodeFrom : Option Pending → List Nat → List Char
  | none, [] => []
  | some _, [] => [replacement]
  | pending, byte :: rest =>
    (readByte pending byte).1 ++ decodeFrom (readByte pending byte).2 rest

/-- `toString('utf8')` of a buffer. -/
def decode (bytes : List Nat) : List Char :=
  decodeFrom none bytes

example : decode [0xE2, 0x82, 0xAC, 0xC3, 0x28] = ['€', replacement, '('] := by decide

/-- Bytes that do not end within a character. -/
def EndsWhole (bytes : List Nat) : Prop :=
  (bytes.foldl (fun pending byte => (readByte pending byte).2) none).isNone
deriving Decidable

def splitLines : List Char → List (List Char) × List Char
  | [] => ([], [])
  | character :: text =>
    if character = '\n' then
      ([] :: (splitLines text).1, (splitLines text).2)
    else
      match (splitLines text).1 with
      | [] => ([], character :: (splitLines text).2)
      | line :: lines => ((character :: line) :: lines, (splitLines text).2)

section Stream

-- The state is the id, the usage, the finish reason and the text so far, with
-- that of the reasoning stripper; a payload is rewritten unless it throws.
variable {State : Type} (rewrite : State → List Char → State × Option (List Char))

def processLine (state : State) (rawLine : List Char) : State × Option (List Char) :=
  let line := rawLine.rdropWhile isSpace
  if "data:".toList.isPrefixOf line then
    let payload := (line.drop 5).dropWhile isSpace
    if payload = [] then
      (state, some rawLine)
    else if payload = "[DONE]".toList then
      (state, none)
    else
      let (next, text) := rewrite state payload
      (next, some (text.elim rawLine ("data: ".toList ++ ·)))
  else
    (state, some rawLine)

def processLines : State → List (List Char) → State × List Char
  | state, [] => (state, [])
  | state, line :: lines =>
    let (next, sent) := processLine rewrite state line
    let (last, more) := processLines next lines
    (last, sent.elim [] (· ++ ['\n']) ++ more)

structure Stream (State : Type) where
  state : State
  sseBuffer : List Char
  sent : List Char

def transformSseText (stream : Stream State) (chunkText : List Char) : Stream State :=
  let (lines, rest) := splitLines (stream.sseBuffer ++ chunkText)
  let (state, text) := processLines rewrite stream.state lines
  { state, sseBuffer := rest, sent := stream.sent ++ text }

/-- The loop over the chunks, and the line that is left at the end. -/
def writeStreamingResponse (state : State) (chunks : List (List Nat)) : State × List Char :=
  let stream := chunks.foldl (fun stream chunk => transformSseText rewrite stream (decode chunk))
    ⟨state, [], []⟩
  let (last, text) := processLines rewrite stream.state [stream.sseBuffer]
  (last, stream.sent ++ text)

theorem decodeFrom_append {pending : Option Pending} {bytes : List Nat} (rest : List Nat)
    (whole : (bytes.foldl (fun pending byte => (readByte pending byte).2) pending).isNone) :
    decodeFrom pending (bytes ++ rest) = decodeFrom pending bytes ++ decodeFrom none rest := by
  induction bytes generalizing pending with
  | nil =>
    rw [foldl_nil, Option.isNone_iff_eq_none] at whole
    rw [whole]
    rfl
  | cons byte bytes ih =>
    have later := ih whole
    simp [decodeFrom, later]

theorem decode_flatten {chunks : List (List Nat)}
    (whole : ∀ chunk ∈ chunks.dropLast, EndsWhole chunk) :
    chunks.flatMap decode = decode chunks.flatten := by
  induction chunks with
  | nil => rfl
  | cons chunk chunks ih =>
    cases chunks with
    | nil => simp
    | cons next rest =>
      rw [dropLast_cons_cons, forall_mem_cons] at whole
      rw [flatMap_cons, ih whole.2]
      exact (decodeFrom_append _ whole.1).symm

theorem splitLines_append (text more : List Char) :
    splitLines (text ++ more) =
      ((splitLines text).1 ++ (splitLines ((splitLines text).2 ++ more)).1,
        (splitLines ((splitLines text).2 ++ more)).2) := by
  induction text with
  | nil => rfl
  | cons character text ih =>
    rw [cons_append, splitLines, splitLines, ih]
    split
    · rfl
    · rename_i inside
      cases (splitLines text).1 with
      | nil => simp [splitLines, inside]
      | cons line rest => simp

theorem processLines_append (state : State) (lines more : List (List Char)) :
    processLines rewrite state (lines ++ more) =
      ((processLines rewrite (processLines rewrite state lines).1 more).1,
        (processLines rewrite state lines).2 ++
          (processLines rewrite (processLines rewrite state lines).1 more).2) := by
  induction lines generalizing state with
  | nil => rfl
  | cons line lines ih => simp [processLines, ih]

theorem transformSseText_append (stream : Stream State) (text more : List Char) :
    transformSseText rewrite (transformSseText rewrite stream text) more =
      transformSseText rewrite stream (text ++ more) := by
  simp only [transformSseText, ← append_assoc]
  rw [splitLines_append (stream.sseBuffer ++ text) more]
  simp [processLines_append]

theorem foldl_transformSseText (stream : Stream State) (text : List Char)
    (chunks : List (List Nat)) :
    chunks.foldl (fun stream chunk => transformSseText rewrite stream (decode chunk))
        (transformSseText rewrite stream text) =
      transformSseText rewrite stream (text ++ chunks.flatMap decode) := by
  induction chunks generalizing text with
  | nil => simp
  | cons chunk chunks ih =>
    rw [foldl_cons, transformSseText_append, ih]
    simp

/-- Two ways of cutting bytes between characters leave the same state and send
the same. -/
theorem chunking_independent (state : State) {chunks others : List (List Nat)}
    (bytes : chunks.flatten = others.flatten)
    (whole : ∀ chunk ∈ chunks.dropLast, EndsWhole chunk)
    (otherWhole : ∀ chunk ∈ others.dropLast, EndsWhole chunk) :
    writeStreamingResponse rewrite state chunks = writeStreamingResponse rewrite state others := by
  have relayed (chunks : List (List Nat)) :
      chunks.foldl (fun stream chunk => transformSseText rewrite stream (decode chunk))
        ⟨state, [], []⟩ = transformSseText rewrite ⟨state, [], []⟩ (chunks.flatMap decode) :=
    foldl_transformSseText rewrite ⟨state, [], []⟩ [] chunks
  rw [writeStreamingResponse, writeStreamingResponse, relayed, relayed, decode_flatten whole,
    decode_flatten otherWhole, bytes]

theorem chunking_independent_sample :
    writeStreamingResponse (fun (_ : Unit) _ => ((), none)) () [[0x3A, 0xC3, 0xA9, 10]] =
      writeStreamingResponse (fun _ _ => ((), none)) () [[0x3A, 0xC3, 0xA9], [10]] :=
  chunking_independent _ () rfl (by decide) (by decide)

/-- A chunk that ends within a character turns it into replacement characters. -/
theorem chunking_dependent :
    [[0x3A, 0xC3, 0xA9, 10]].flatten = [[0x3A, 0xC3], [0xA9, 10]].flatten ∧
      writeStreamingResponse (fun (_ : Unit) _ => ((), none)) () [[0x3A, 0xC3, 0xA9, 10]] ≠
        writeStreamingResponse (fun _ _ => ((), none)) () [[0x3A, 0xC3], [0xA9, 10]] := by
  decide

end Stream

end DcpPlatform.Chat.Relay
