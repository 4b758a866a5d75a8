import Mathlib.Data.List.Infix

/-!
# Stripping reasoning from a stream

A tag may be cut by the end of a chunk, so the stripper holds back what may be
the beginning of one. What a renter is sent does not depend on the chunks.
-/

namespace DcpPlatform.Chat.ThinkStripper

open List

/-- `OPEN` ends what is shown, `CLOSE` ends a think block. -/
def tag : Bool → List Char
  | false => "<think>".toList
  | true => "</think>".toList

/-- `buf.indexOf(OPEN, i)`, as the texts before and after the first occurrence. -/
def cutAt (mark : List Char) : List Char → Option (List Char × List Char)
  | [] => none
  | first :: rest =>
    if mark <+: first :: rest then
      some ([], (first :: rest).drop mark.length)
    else
      (cutAt mark rest).map (fun parts => (first :: parts.1, parts.2))

/-- An end of the buffer that is carried over; outside of a block it may
begin either tag. -/
def Carried (insideThink : Bool) (held : List Char) : Prop :=
  held.length < (tag insideThink).length ∧
    (held <+: tag true ∨ insideThink = false ∧ held <+: tag false)
deriving Decidable

/-- The buffer without a tag, up to the first position that is carried, and from there on. -/
def holdBack (insideThink : Bool) : List Char → List Char × List Char
  | [] => ([], [])
  | first :: rest =>
    if Carried insideThink (first :: rest) then
      ([], first :: rest)
    else
      (first :: (holdBack insideThink rest).1, (holdBack insideThink rest).2)

structure Stripper where
  insideThink : Bool
  carry : List Char

def shown (insideThink : Bool) (text : List Char) : List Char :=
  if insideThink then [] else text

theorem cutAt_length {mark buf before after : List Char} (marked : mark ≠ [])
    (found : cutAt mark buf = some (before, after)) :
    after.length < buf.length ∧ mark.length ≤ buf.length := by
  induction buf generalizing before with
  | nil => cases found
  | cons first rest ih =>
    unfold cutAt at found
    split at found
    next here =>
      cases found
      have positive := length_pos_iff.mpr marked
      have shorter := here.length_le
      rw [length_drop]
      omega
    next =>
      obtain ⟨parts, later, same⟩ := Option.map_eq_some_iff.mp found
      cases same
      have shorter := ih later
      rw [length_cons]
      omega

theorem tag_ne_nil (insideThink : Bool) : tag insideThink ≠ [] := by
  cases insideThink <;> decide

/-- The loop of `stripChunk`: what it puts out, and the state it leaves. -/
def scan (insideThink : Bool) (buf : List Char) : List Char × Stripper :=
  match _found : cutAt (tag insideThink) buf with
  | none =>
    (shown insideThink (holdBack insideThink buf).1, ⟨insideThink, (holdBack insideThink buf).2⟩)
  | some parts =>
    (shown insideThink parts.1 ++ (scan (!insideThink) parts.2).1,
      (scan (!insideThink) parts.2).2)
termination_by buf.length
decreasing_by all_goals exact (cutAt_length (tag_ne_nil _) _found).1

def stripChunk (stripper : Stripper) (text : List Char) : List Char × Stripper :=
  if text = [] then
    ([], stripper)
  else
    scan stripper.insideThink (stripper.carry ++ text)

/-- The chunks of a stream, one after the other. -/
def stripChunks (stripper : Stripper) : List (List Char) → List Char × Stripper
  | [] => ([], stripper)
  | text :: chunks =>
    let sent := stripChunk stripper text
    (sent.1 ++ (stripChunks sent.2 chunks).1, (stripChunks sent.2 chunks).2)

def createStreamingThinkStripper : Stripper :=
  ⟨false, []⟩

/-! ## Cutting -/

theorem cutAt_append {mark buf before after : List Char} (marked : mark ≠ []) (more : List Char)
    (found : cutAt mark buf = some (before, after)) :
    cutAt mark (buf ++ more) = some (before, after ++ more) := by
  induction buf generalizing before with
  | nil => cases found
  | cons first rest ih =>
    rw [cons_append]
    unfold cutAt at found ⊢
    split at found
    next here =>
      cases found
      have still : mark <+: first :: (rest ++ more) := here.trans (prefix_append _ more)
      rw [if_pos still, ← cons_append, drop_append_of_le_length here.length_le]
    next absent =>
      obtain ⟨parts, later, same⟩ := Option.map_eq_some_iff.mp found
      cases same
      have still : ¬ mark <+: first :: (rest ++ more) := by
        intro here
        have fits : mark.length ≤ (first :: rest).length :=
          Nat.le_succ_of_le (cutAt_length marked later).2
        exact absent (prefix_of_prefix_length_le here (prefix_append _ more) fits)
      rw [if_neg still, ih later]
      rfl

/-- What begins a tag after more text has come could be carried before. -/
theorem carried_of_prefix_append {insideThink : Bool} {held more : List Char}
    (absent : ¬ tag insideThink <+: held) (here : tag insideThink <+: held ++ more) :
    Carried insideThink held := by
  have nested := prefix_or_prefix_of_prefix here (prefix_append held more)
  have shorter : held <+: tag insideThink := nested.resolve_left absent
  refine ⟨?_, ?_⟩
  · by_contra long
    exact absent (shorter.eq_of_length_le (by omega) ▸ prefix_rfl)
  · cases insideThink with
    | false => exact Or.inr ⟨rfl, shorter⟩
    | true => exact Or.inl shorter

theorem Carried.of_append {insideThink : Bool} {held more : List Char}
    (carried : Carried insideThink (held ++ more)) : Carried insideThink held := by
  obtain ⟨short, begins⟩ := carried
  rw [length_append] at short
  exact ⟨by omega, begins.imp (prefix_append held more).trans
    (And.imp_right (prefix_append held more).trans)⟩

theorem shown_append (insideThink : Bool) (text more : List Char) :
    shown insideThink (text ++ more) = shown insideThink text ++ shown insideThink more := by
  cases insideThink <;> rfl

/-! ## Scanning -/

section Scanning

variable {insideThink : Bool} {buf : List Char}

theorem scan_of_uncut (uncut : cutAt (tag insideThink) buf = none) :
    scan insideThink buf = (shown insideThink (holdBack insideThink buf).1,
      ⟨insideThink, (holdBack insideThink buf).2⟩) := by
  rw [scan]
  split
  next => rfl
  next cut => rw [uncut] at cut; cases cut

theorem scan_of_cut {parts : List Char × List Char}
    (found : cutAt (tag insideThink) buf = some parts) :
    scan insideThink buf = (shown insideThink parts.1 ++ (scan (!insideThink) parts.2).1,
      (scan (!insideThink) parts.2).2) := by
  rw [scan]
  split
  next uncut => rw [found] at uncut; cases uncut
  next same => rw [found] at same; cases same; rfl

/-- A character that neither begins a tag nor may begin one is passed over. -/
theorem scan_cons {first : Char} {rest : List Char} (absent : ¬ tag insideThink <+: first :: rest)
    (decided : ¬ Carried insideThink (first :: rest)) :
    scan insideThink (first :: rest) =
      (shown insideThink [first] ++ (scan insideThink rest).1, (scan insideThink rest).2) := by
  have cut : cutAt (tag insideThink) (first :: rest) =
      (cutAt (tag insideThink) rest).map (fun parts => (first :: parts.1, parts.2)) := by
    rw [cutAt, if_neg absent]
  cases found : cutAt (tag insideThink) rest with
  | none =>
    rw [found] at cut
    rw [scan_of_uncut cut, scan_of_uncut found, holdBack, if_neg decided, ← shown_append]
    rfl
  | some parts =>
    rw [found] at cut
    rw [scan_of_cut cut, scan_of_cut found, ← append_assoc, ← shown_append]
    rfl

/-- What is held back is looked at again with the text that follows. -/
theorem scan_append_of_uncut (more : List Char) (uncut : cutAt (tag insideThink) buf = none) :
    scan insideThink (buf ++ more) =
      (shown insideThink (holdBack insideThink buf).1 ++
          (scan insideThink ((holdBack insideThink buf).2 ++ more)).1,
        (scan insideThink ((holdBack insideThink buf).2 ++ more)).2) := by
  induction buf with
  | nil => cases insideThink <;> rfl
  | cons first rest ih =>
    rw [cutAt] at uncut
    split at uncut
    next => cases uncut
    next absent =>
      rw [holdBack]
      split
      next => cases insideThink <;> rfl
      next decided =>
        have still : ¬ tag insideThink <+: first :: (rest ++ more) :=
          fun here => decided (carried_of_prefix_append absent here)
        have free : ¬ Carried insideThink (first :: (rest ++ more)) :=
          fun carried => decided (Carried.of_append carried)
        rw [cons_append, scan_cons still free, ih (Option.map_eq_none_iff.mp uncut),
          ← append_assoc, ← shown_append]
        rfl

theorem scan_append (insideThink : Bool) (buf more : List Char) :
    scan insideThink (buf ++ more) =
      let left := scan insideThink buf
      let right := scan left.2.insideThink (left.2.carry ++ more)
      (left.1 ++ right.1, right.2) := by
  induction insideThink, buf using scan.induct with
  | case1 insideThink buf uncut =>
    rw [scan_of_uncut uncut]
    exact scan_append_of_uncut more uncut
  | case2 insideThink buf parts found ih =>
    have later := cutAt_append (tag_ne_nil insideThink) more found
    rw [scan_of_cut later, scan_of_cut found]
    simp only [ih, append_assoc]

theorem holdBack_carried :
    (holdBack insideThink buf).2 = [] ∨ Carried insideThink (holdBack insideThink buf).2 := by
  induction buf with
  | nil => exact Or.inl rfl
  | cons first rest ih =>
    rw [holdBack]
    split
    next carried => exact Or.inr carried
    next => exact ih

theorem scan_carried (insideThink : Bool) (buf : List Char) :
    (scan insideThink buf).2.carry = [] ∨
      Carried (scan insideThink buf).2.insideThink (scan insideThink buf).2.carry := by
  induction insideThink, buf using scan.induct with
  | case1 insideThink buf uncut =>
    rw [scan_of_uncut uncut]
    exact holdBack_carried
  | case2 insideThink buf parts found ih =>
    rw [scan_of_cut found]
    exact ih

theorem stripChunks_scan {sent : List Char} {stripper : Stripper}
    (chunks : List (List Char)) (before : scan insideThink buf = (sent, stripper)) :
    scan insideThink (buf ++ chunks.flatten) =
      (sent ++ (stripChunks stripper chunks).1, (stripChunks stripper chunks).2) := by
  induction chunks generalizing buf sent stripper with
  | nil => simp [stripChunks, before]
  | cons text chunks ih =>
    rw [flatten_cons, ← append_assoc, stripChunks, stripChunk]
    split
    next empty => simpa [empty] using ih before
    next =>
      have next := scan_append insideThink buf text
      rw [before] at next
      rw [ih next, append_assoc]

end Scanning

/-- What is sent depends on the text of a stream, not on its chunks. What is
never sent at the end may begin a tag. -/
theorem stripped_alike (chunks : List (List Char)) :
    let finish := stripChunks createStreamingThinkStripper chunks
    finish = stripChunk createStreamingThinkStripper chunks.flatten ∧
      (finish.2.carry = [] ∨ Carried finish.2.insideThink finish.2.carry) := by
  have empty : scan false [] = ([], createStreamingThinkStripper) := scan_of_uncut rfl
  have whole := stripChunks_scan chunks empty
  rw [nil_append, nil_append] at whole
  constructor
  · rw [stripChunk]
    split
    next blank =>
      rw [blank, empty] at whole
      exact whole.symm
    next => exact whole.symm
  · have carried := scan_carried false chunks.flatten
    rw [whole] at carried
    exact carried

end DcpPlatform.Chat.ThinkStripper
