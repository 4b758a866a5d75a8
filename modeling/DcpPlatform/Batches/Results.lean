import DcpPlatform.Batches.Effects

/-!
# The results of a batch

The results that pass the checks before the first write belong to the listed
lines one to one. They are written in turn, up to the first one that the line
service refuses, each to the line with its custom id.
-/

namespace DcpPlatform.Batches

open Foundation Table List

variable {write : LineWrite}

theorem lineWrite_eq_ok {proof : LineProof} (accepted : lineWrite proof = .ok write) :
    write.status = proof.status ∧ write.costHalala = proof.costHalala ∧
      write.providerId = proof.providerId := by
  obtain ⟨_, _, accepted⟩ := bind_eq_ok_iff.mp accepted
  obtain ⟨_, _, accepted⟩ := bind_eq_ok_iff.mp accepted
  obtain ⟨_, _, accepted⟩ := bind_eq_ok_iff.mp accepted
  obtain ⟨_, _, accepted⟩ := bind_eq_ok_iff.mp accepted
  obtain ⟨_, _, accepted⟩ := bind_eq_ok_iff.mp accepted
  obtain ⟨_, _, accepted⟩ := bind_eq_ok_iff.mp accepted
  obtain ⟨_, _, ⟨⟩⟩ := bind_eq_ok_iff.mp accepted
  exact ⟨rfl, rfl, rfl⟩

def LineProof.IsAccepted (proof : LineProof) : Prop :=
  (lineWrite proof).isOk = true
deriving Decidable

theorem LineProof.isAccepted_iff {proof : LineProof} :
    proof.IsAccepted ↔ ∃ write, lineWrite proof = .ok write := by
  rw [LineProof.IsAccepted]
  cases lineWrite proof with
  | ok write => exact iff_of_true rfl ⟨write, rfl⟩
  | error failure =>
    refine iff_of_false Bool.false_ne_true ?_
    rintro ⟨write, same⟩
    cases same

def LineProof.writeTo (proof : LineProof) (now : Nat) (line : Line) :
    Line :=
  match lineWrite proof with
  | .ok write => line.setResult write now
  | .error _ => line

theorem LineProof.writeTo_of_ok {proof : LineProof}
    (accepted : lineWrite proof = .ok write) (now : Nat) (line : Line) :
    proof.writeTo now line = line.setResult write now := by
  rw [LineProof.writeTo, accepted]

@[simp]
theorem LineProof.writeTo_key (proof : LineProof) (now : Nat) (line : Line) :
    (proof.writeTo now line).key = line.key := by
  rw [LineProof.writeTo]
  cases lineWrite proof with
  | ok write | error failure => rfl

@[simp]
theorem LineProof.writeTo_lineIndex (proof : LineProof) (now : Nat) (line : Line) :
    (proof.writeTo now line).lineIndex = line.lineIndex := by
  rw [LineProof.writeTo]
  cases lineWrite proof with
  | ok write | error failure => rfl

theorem LineProof.IsAccepted.written {proof : LineProof}
    (accepted : proof.IsAccepted) (now : Nat) (line : Line) :
    (proof.writeTo now line).costHalala = proof.costHalala ∧
      (proof.writeTo now line).status = proof.status ∧
      (proof.writeTo now line).providerId = proof.providerId.or line.providerId := by
  obtain ⟨write, written⟩ := LineProof.isAccepted_iff.mp accepted
  obtain ⟨status, cost, providerId⟩ := lineWrite_eq_ok written
  rw [LineProof.writeTo_of_ok written]
  refine ⟨cost, status, ?_⟩
  rw [← providerId]
  rfl

/-! ## The results of several lines -/

def proofFor (proofs : List LineProof) (customId : CustomId) :
    Option LineProof :=
  proofs.find? (fun proof => proof.customId = customId)

variable {proofs : List LineProof}

theorem proofFor_of_mem {proof : LineProof}
    (distinct : (proofs.map LineProof.customId).Nodup) (member : proof ∈ proofs) :
    proofFor proofs proof.customId = some proof := by
  induction proofs with
  | nil =>
    cases member
  | cons head tail ih =>
    rw [map_cons, nodup_cons] at distinct
    rw [proofFor, find?_cons]
    by_cases same : head.customId = proof.customId
    · rw [decide_eq_true same]
      rcases mem_cons.mp member with here | there
      · rw [here]
      · rw [same] at distinct
        exact absurd (mem_map_of_mem there) distinct.1
    · rw [decide_eq_false same]
      rcases mem_cons.mp member with here | there
      · rw [here] at same
        exact absurd rfl same
      · exact ih distinct.2 there

variable {customId : CustomId}

theorem proofFor_of_notMem (absent : customId ∉ proofs.map LineProof.customId) :
    proofFor proofs customId = none := by
  rw [proofFor, find?_eq_none]
  intro proof member same
  apply absent
  rw [← of_decide_eq_true same]
  exact mem_map_of_mem member

def received (now : Nat) (proofs : List LineProof) (line : Line) : Line :=
  match proofFor proofs line.customId with
  | some proof => proof.writeTo now line
  | none => line

@[simp]
theorem received_key (now : Nat) (proofs : List LineProof) (line : Line) :
    (received now proofs line).key = line.key := by
  rw [received]
  cases proofFor proofs line.customId with
  | some proof => exact proof.writeTo_key now line
  | none => rfl

theorem received_customId (now : Nat) (proofs : List LineProof) (line : Line) :
    (received now proofs line).customId = line.customId :=
  (Prod.ext_iff.mp (Prod.ext_iff.mp (received_key now proofs line)).2).2

@[simp]
theorem received_lineIndex (now : Nat) (proofs : List LineProof) (line : Line) :
    (received now proofs line).lineIndex = line.lineIndex := by
  rw [received]
  cases proofFor proofs line.customId with
  | some proof => exact proof.writeTo_lineIndex now line
  | none => rfl

def acceptedProofs (proofs : List LineProof) : List LineProof :=
  proofs.takeWhile (fun proof => proof.IsAccepted)

theorem acceptedProofs_of_all (all : ∀ proof ∈ proofs, proof.IsAccepted) :
    acceptedProofs proofs = proofs :=
  takeWhile_eq_self_iff.mpr (fun proof member => decide_eq_true (all proof member))

theorem acceptedProofs_sublist (proofs : List LineProof) :
    (acceptedProofs proofs).Sublist proofs :=
  (List.takeWhile_prefix _).sublist

theorem of_mem_acceptedProofs {proof : LineProof} (member : proof ∈ acceptedProofs proofs) :
    proof.IsAccepted :=
  of_decide_eq_true
    (@mem_takeWhile_imp _ (fun proof : LineProof => decide proof.IsAccepted) _ _ member)

section Writes

variable {batch : Batch} {now : Nat}

theorem writeProofs_outcome {proofs : List LineProof} :
    ∀ {db : Database}, ((∀ proof ∈ proofs, proof.IsAccepted) ∧
      (writeProofs batch now proofs db).1 = .ok PUnit.unit) ∨
      ((¬ ∀ proof ∈ proofs, proof.IsAccepted) ∧
        ∃ failure, (writeProofs batch now proofs db).1 = .error failure) := by
  induction proofs with
  | nil =>
    intro db
    left
    refine ⟨?_, rfl⟩
    intro proof member
    cases member
  | cons proof rest ih =>
    intro db
    rw [writeProofs]
    cases written : lineWrite proof with
    | error failure =>
      right
      refine ⟨?_, failure, rfl⟩
      intro all
      obtain ⟨write, accepted⟩ := LineProof.isAccepted_iff.mp (all proof mem_cons_self)
      rw [written] at accepted
      cases accepted
    | ok write =>
      have accepted : proof.IsAccepted := LineProof.isAccepted_iff.mpr ⟨write, written⟩
      have all :
          (∀ other ∈ proof :: rest, other.IsAccepted) ↔ ∀ other ∈ rest, other.IsAccepted := by
        rw [forall_mem_cons]
        exact and_iff_right accepted
      rw [all, Tx.bind_of_ok (show checked (.ok write) db = _ from rfl), Tx.write_bind]
      exact ih

variable {proofs : List LineProof} {proof : LineProof} {line : Line}

theorem received_cons_self (same : proof.customId = line.customId) :
    received now (proof :: proofs) line = proof.writeTo now line := by
  rw [received, proofFor, find?_cons, decide_eq_true same]

theorem received_cons_of_ne (different : proof.customId ≠ line.customId) :
    received now (proof :: proofs) line = received now proofs line := by
  rw [received, received, proofFor, find?_cons, decide_eq_false different]
  rfl

theorem received_of_notMem (absent : line.customId ∉ proofs.map LineProof.customId) :
    received now proofs line = line := by
  rw [received, proofFor_of_notMem absent]

theorem received_of_mem (distinct : (proofs.map LineProof.customId).Nodup)
    (member : proof ∈ proofs) (same : proof.customId = line.customId) :
    received now proofs line = proof.writeTo now line := by
  rw [received, ← same, proofFor_of_mem distinct member]

def receivedRow (batch : Batch) (now : Nat) (proofs : List LineProof) (line : Line) : Line :=
  if IsLineOf batch line then received now proofs line else line

theorem writeProofs_rows {proofs : List LineProof} :
    ∀ {db : Database}, (proofs.map LineProof.customId).Nodup →
      (writeProofs batch now proofs db).2.lines.rows =
        db.lines.rows.map (receivedRow batch now (acceptedProofs proofs)) := by
  have unwritten : receivedRow batch now [] = id := by
    funext line
    exact ite_self line
  induction proofs with
  | nil =>
    intro db _
    rw [acceptedProofs, takeWhile_nil, unwritten, map_id]
    rfl
  | cons proof rest ih =>
    intro db distinct
    rw [map_cons, nodup_cons] at distinct
    rw [writeProofs]
    cases written : lineWrite proof with
    | error failure =>
      have refused : ¬ proof.IsAccepted := by
        rw [LineProof.isAccepted_iff, written]
        rintro ⟨write, same⟩
        cases same
      rw [acceptedProofs, takeWhile_cons, decide_eq_false refused]
      exact (map_id _).symm.trans (by rw [← unwritten]; rfl)
    | ok write =>
      have accepted : proof.IsAccepted := LineProof.isAccepted_iff.mpr ⟨write, written⟩
      have more : acceptedProofs (proof :: rest) = proof :: acceptedProofs rest := by
        rw [acceptedProofs, takeWhile_cons, decide_eq_true accepted]
        rfl
      have absent : proof.customId ∉ (acceptedProofs rest).map LineProof.customId :=
        fun member => distinct.1 (((acceptedProofs_sublist rest).map _).mem member)
      rw [more, Tx.bind_of_ok (show checked (.ok write) db = _ from rfl),
        Tx.write_bind, ih distinct.2]
      simp only [Database.setLineResult, update, map_map]
      apply map_congr_left
      intro line _
      rw [Function.comp_apply]
      by_cases here : line.key = batch.lineKey proof.customId
      · -- The rest of the results does not touch this line again.
        obtain ⟨renter, parts⟩ := Prod.ext_iff.mp here
        obtain ⟨batchIs, same⟩ := Prod.ext_iff.mp parts
        have owned : IsLineOf batch line := ⟨renter, batchIs⟩
        have ownedAfter : IsLineOf batch (line.setResult write now) := owned
        have untouched : (line.setResult write now).customId ∉
            (acceptedProofs rest).map LineProof.customId := by
          change line.customId ∉ _
          rw [show line.customId = proof.customId from same]
          exact absent
        rw [if_pos here, receivedRow, receivedRow, if_pos ownedAfter,
          if_pos owned, received_of_notMem untouched,
          received_cons_self same.symm,
          LineProof.writeTo_of_ok written]
      · rw [if_neg here, receivedRow, receivedRow]
        by_cases owned : IsLineOf batch line
        · have different : proof.customId ≠ line.customId := by
            intro same
            apply here
            rw [Line.key, owned.1, owned.2, ← same]
            rfl
          rw [if_pos owned, if_pos owned, received_cons_of_ne different]
        · rw [if_neg owned, if_neg owned]

@[simp]
theorem receivedRow_key (proofs : List LineProof) (line : Line) :
    (receivedRow batch now proofs line).key = line.key := by
  rw [receivedRow]
  split
  · exact received_key now proofs line
  · rfl

theorem writeProofs_lookup {db : Database}
    (distinct : (proofs.map LineProof.customId).Nodup) (customId : CustomId) :
    (writeProofs batch now proofs db).2.lines.lookup (batch.lineKey customId) =
      (db.lines.lookup (batch.lineKey customId)).map (received now (acceptedProofs proofs)) := by
  rw [lookup_of_rows_eq_map (receivedRow_key _) (writeProofs_rows distinct)]
  cases found : db.lines.lookup (batch.lineKey customId) with
  | none => rfl
  | some line =>
    have same := lookup_key found
    have owned : IsLineOf batch line :=
      ⟨(Prod.ext_iff.mp same).1, (Prod.ext_iff.mp (Prod.ext_iff.mp same).2).1⟩
    rw [Option.map_some, Option.map_some, receivedRow, if_pos owned]

variable {before after : Database}

theorem linesOf_written
    (rows : after.lines.rows = before.lines.rows.map (receivedRow batch now proofs)) :
    after.linesOf batch = (before.linesOf batch).map (received now proofs) := by
  have kept : ∀ line, IsLineOf batch (receivedRow batch now proofs line) ↔ IsLineOf batch line := by
    intro line
    obtain ⟨renter, parts⟩ := Prod.ext_iff.mp (@receivedRow_key batch now proofs line)
    obtain ⟨batchIs, _⟩ := Prod.ext_iff.mp parts
    have sameRenter : (receivedRow batch now proofs line).renterId = line.renterId := renter
    have sameBatch : (receivedRow batch now proofs line).batchId = line.batchId := batchIs
    rw [IsLineOf, IsLineOf, sameRenter, sameBatch]
  have selected : after.lines.select (IsLineOf batch) =
      (before.lines.select (IsLineOf batch)).map (received now proofs) := by
    rw [select, select, rows, filter_map]
    have sameFilter : ((fun line => decide (IsLineOf batch line)) ∘ receivedRow batch now proofs) =
        fun line => decide (IsLineOf batch line) := by
      funext line
      exact decide_eq_decide.mpr (kept line)
    rw [sameFilter]
    apply map_congr_left
    intro line member
    exact if_pos (of_decide_eq_true (mem_filter.mp member).2)
  rw [Database.linesOf, Database.linesOf, selected]
  refine (map_insertionSort _ _ _ _ ?_).symm
  intro first _ second _
  rw [received_lineIndex, received_lineIndex]

theorem workedLines_written
    (rows : after.lines.rows = before.lines.rows.map (receivedRow batch now proofs))
    (batches : after.batches = before.batches) :
    after.workedLines batch = (before.workedLines batch).map (received now proofs) := by
  unfold Database.workedLines Database.listBatchInferenceJobLines
  rw [batches]
  split
  · rfl
  · split
    · rw [linesOf_written rows, map_take]
    · rfl

end Writes

section Listed

variable {db : Database} {batch : Batch}

theorem mem_workedLines {line : Line} (member : line ∈ db.workedLines batch) :
    db.lines.lookup (batch.lineKey line.customId) = some line := by
  unfold Database.workedLines Database.listBatchInferenceJobLines at member
  split at member
  · cases member
  · split at member
    · have listed := mem_of_mem_take member
      rw [Database.linesOf, mem_insertionSort] at listed
      obtain ⟨owned, found⟩ := mem_select listed
      rw [Line.key, owned.1, owned.2] at found
      exact found
    · cases member

theorem workedLines_distinct :
    ((db.workedLines batch).map Line.customId).Nodup := by
  have keys : ∀ line ∈ db.workedLines batch, line.key = batch.lineKey line.customId :=
    fun line member => lookup_key (mem_workedLines member)
  have nodup : ((db.workedLines batch).map Line.key).Nodup := by
    unfold Database.workedLines Database.listBatchInferenceJobLines
    split
    · exact nodup_nil
    · split
      · refine List.Nodup.sublist ((take_sublist _ _).map _) ?_
        exact ((perm_insertionSort _ _).map Line.key).nodup_iff.mpr (select_nodup db.lines _)
      · exact nodup_nil
  have same : (db.workedLines batch).map Line.key =
      ((db.workedLines batch).map Line.customId).map batch.lineKey := by
    rw [map_map]
    exact map_congr_left keys
  rw [same] at nodup
  exact nodup.of_map _

end Listed

theorem nonNegativeOr_nonneg {fallback : Int} (nonneg : 0 ≤ fallback)
    (field : Jobs.Field) : 0 ≤ nonNegativeOr fallback field := by
  unfold nonNegativeOr integerFrom
  cases field with
  | number value =>
    dsimp only
    split
    · rename_i integer
      exact integer.2
    · exact nonneg
  | _ => exact nonneg

theorem proof_eq_ok {line : ExecutionLine}
    {proof : LineProof} (checked : line.proof customId = .ok proof) :
    proof.customId = customId ∧ proof.costHalala = nonNegativeOr 0 line.costHalala := by
  obtain ⟨_, _, checked⟩ := bind_eq_ok_iff.mp checked
  obtain ⟨_, _, checked⟩ := bind_eq_ok_iff.mp checked
  obtain ⟨_, _, ⟨⟩⟩ := bind_eq_ok_iff.mp checked
  exact ⟨rfl, rfl⟩

theorem normalizeExecutionLine_eq_ok {expected seen : List CustomId}
    {entry : Option ExecutionLine} {proof : LineProof}
    (checked : normalizeExecutionLine expected seen entry = .ok proof) :
    proof.customId ∈ expected ∧ proof.customId ∉ seen ∧ 0 ≤ proof.costHalala := by
  unfold normalizeExecutionLine at checked
  split at checked
  · cases checked
  · split at checked
    · cases checked
    · split at checked
      · cases checked
      · rename_i unseen
        split at checked
        · cases checked
        · rename_i customId found
          obtain ⟨same, cost⟩ := proof_eq_ok checked
          have matching := find?_some found
          rw [same, cost]
          refine ⟨mem_of_find?_eq_some found, ?_, nonNegativeOr_nonneg (Int.le_refl 0) _⟩
          intro seenBefore
          apply unseen
          rw [← of_decide_eq_true matching]
          exact mem_map_of_mem seenBefore

variable {results : List (Option ExecutionLine)}

theorem normalizeExecutionLines_eq_ok {expected : List CustomId} :
    ∀ {seen : List CustomId} {proofs : List LineProof},
      normalizeExecutionLines expected seen results = .ok proofs →
        proofs.length = results.length ∧ (proofs.map LineProof.customId).Nodup ∧ ∀ proof ∈ proofs,
          proof.customId ∈ expected ∧ proof.customId ∉ seen ∧ 0 ≤ proof.costHalala := by
  induction results with
  | nil =>
    intro seen proofs checked
    cases checked
    exact ⟨rfl, nodup_nil, fun _ member => by cases member⟩
  | cons entry rest ih =>
    intro seen proofs checked
    rw [normalizeExecutionLines] at checked
    obtain ⟨proof, first, checked⟩ := bind_eq_ok_iff.mp checked
    obtain ⟨others, second, checked⟩ := bind_eq_ok_iff.mp checked
    injection checked with same
    obtain ⟨length, distinct, known⟩ := ih second
    obtain ⟨listed, unseen, cost⟩ := normalizeExecutionLine_eq_ok first
    rw [← same]
    refine ⟨?_, ?_, ?_⟩
    · rw [length_cons, length_cons, length]
    · rw [map_cons, nodup_cons]
      refine ⟨?_, distinct⟩
      intro member
      obtain ⟨other, otherMember, equal⟩ := mem_map.mp member
      have apart := (known other otherMember).2.1
      rw [equal] at apart
      exact apart mem_cons_self
    · intro other member
      rcases mem_cons.mp member with here | there
      · rw [here]
        exact ⟨listed, unseen, cost⟩
      · obtain ⟨otherListed, otherUnseen, otherCost⟩ := known other there
        exact ⟨otherListed, fun before =>
          otherUnseen (mem_cons_of_mem _ before),
          otherCost⟩

structure ProofsFor (lines : List Line) (proofs : List LineProof) :
    Prop where
  distinct : (proofs.map LineProof.customId).Nodup
  each : (proofs.map LineProof.customId).Perm (lines.map Line.customId)
  costs : ∀ proof ∈ proofs, 0 ≤ proof.costHalala

theorem lineProofs_eq_ok {db : Database} {batch : Batch}
    (checked : lineProofs db batch results = .ok proofs) :
    ProofsFor (db.workedLines batch) proofs := by
  rw [lineProofs, require_bind_eq_ok_iff] at checked
  obtain ⟨length, normalized⟩ := checked
  obtain ⟨sameLength, distinct, known⟩ := normalizeExecutionLines_eq_ok normalized
  refine ⟨distinct, ?_, fun proof member => (known proof member).2.2⟩
  refine (distinct.subperm ?_).perm_of_length_le ?_
  · intro customId member
    obtain ⟨proof, listed, same⟩ := mem_map.mp member
    rw [← same]
    exact (known proof listed).1
  · rw [length_map, length_map, sameLength, length]

section ProofsFor

variable {lines : List Line} {proofs : List LineProof}

variable (each : ProofsFor lines proofs)

include each

theorem ProofsFor.proof {line : Line} (member : line ∈ lines) :
    ∃ proof ∈ proofs, proof.customId = line.customId :=
  mem_map.mp (each.each.mem_iff.mpr (mem_map_of_mem member))

theorem ProofsFor.line {proof : LineProof} (member : proof ∈ proofs) :
    ∃ line ∈ lines, line.customId = proof.customId :=
  mem_map.mp (each.each.mem_iff.mp (mem_map_of_mem member))

theorem ProofsFor.unique {first second : LineProof} (firstMember : first ∈ proofs)
    (secondMember : second ∈ proofs)
    (same : first.customId = second.customId) : first = second := by
  have found := proofFor_of_mem each.distinct firstMember
  rw [same, proofFor_of_mem each.distinct secondMember] at found
  injection found with equal
  exact equal.symm

theorem ProofsFor.sum (quantity : LineProof → Int) (counted : Line → Int)
    (same : ∀ line ∈ lines, ∀ proof ∈ proofs,
      proof.customId = line.customId → counted line = quantity proof) :
    (lines.map counted).sum = (proofs.map quantity).sum := by
  let byId : CustomId → Int := fun customId =>
    ((proofFor proofs customId).map quantity).getD 0
  have first : lines.map counted = (lines.map Line.customId).map byId := by
    rw [map_map]
    apply map_congr_left
    intro line member
    obtain ⟨proof, listed, equal⟩ := each.proof member
    have found := proofFor_of_mem each.distinct listed
    rw [equal] at found
    rw [Function.comp_apply, same line member proof listed equal]
    simp [byId, found]
  have second : proofs.map quantity = (proofs.map LineProof.customId).map byId := by
    rw [map_map]
    apply map_congr_left
    intro proof member
    have found := proofFor_of_mem each.distinct member
    rw [Function.comp_apply]
    simp [byId, found]
  rw [first, second]
  exact (each.each.map byId).sum_eq.symm

end ProofsFor

end DcpPlatform.Batches
