import DcpPlatform.EscrowListener.Effects
import DcpPlatform.EscrowListener.Polls

/-!
# Every final log is applied once

A log that the cursor has passed is applied once when its handler meets it at
a good moment. The invariant: what lies before a poll has been applied, and
the rest of its chunk is applied or still to come.
-/

namespace DcpPlatform.EscrowListener

open Foundation List
open Payouts (PayoutId ProviderId PayoutRequest)

section Property

variable {Hash : Type} [DecidableEq Hash] (keccak256 : String → Hash)

def Records.KnowsEvent (records : Records) (jobId32 : Hash) : Prop :=
  ∃ row ∈ records.paymentEvents.rows, keccak256 row.jobId = jobId32

instance (records : Records) (jobId32 : Hash) :
    Decidable (records.KnowsEvent keccak256 jobId32) :=
  inferInstanceAs (Decidable (∃ _ ∈ _, _))

def Records.KnowsJob (records : Records) (jobId32 : Hash) : Prop :=
  ∃ row ∈ records.jobs.rows, keccak256 row.jobId = jobId32

instance (records : Records) (jobId32 : Hash) :
    Decidable (records.KnowsJob keccak256 jobId32) :=
  inferInstanceAs (Decidable (∃ _ ∈ _, _))

def deedsFor (deeds : List (Log Hash × Deed)) (log : Log Hash) : List Deed :=
  (deeds.filter (fun entry => entry.1 = log)).map Prod.snd

def MarksJob (records : Records) (jobId32 : Hash) (marks : List Deed) :
    Prop :=
  (∃ job ∈ records.jobs.rows, keccak256 job.jobId = jobId32 ∧ marks = [.marked job.id]) ∨
    (¬ records.KnowsJob keccak256 jobId32 ∧ marks = [])

def Requests (db : Database) (provider : String) (amount : Nat) (payoutId : PayoutId) : Prop :=
  ∃ row, db.payouts.payoutRequests.lookup payoutId = some row ∧
    db.providerAt provider = some row.providerId ∧ row.amountHalala = amountHalala amount

/-- A claim whose job is known has settled one payment event, that of its
job; a release has marked its job and created one payout request. -/
def AppliedOnce (db : Database) (deeds : List (Log Hash × Deed)) (log : Log Hash) : Prop :=
  match log.event with
  | .claimed jobId32 _ _ _ =>
    db.records.KnowsEvent keccak256 jobId32 →
      ∃ row ∈ db.records.paymentEvents.rows, keccak256 row.jobId = jobId32 ∧
        row.escrowTxHash = some log.transactionHash ∧
        row.settledAt ≠ none ∧ deedsFor deeds log = [.settled row.id]
  | .paymentReleased jobId32 provider amount =>
    ∃ marks payoutId, deedsFor deeds log = marks ++ [.requested payoutId] ∧
      MarksJob keccak256 db.records jobId32 marks ∧ Requests db provider amount payoutId
  | _ => True

/-- Every final log that the cursor has passed is applied once. -/
def PassedApplied (settings : Settings Hash) (system : System Hash) : Prop :=
  system.lastBlock ≠ 0 → ∀ log ∈ settings.logs, log.blockNumber ≤ system.lastBlock →
    AppliedOnce keccak256 system.db system.deeds log

end Property

section Condition

variable {Hash : Type} [DecidableEq Hash] (keccak256 : String → Hash)

/-- A new claim finds the payment event of a job that is known, and its
statements succeed; a claim that was applied finds no other one. -/
def ClaimsWell (system : System Hash) (log : Log Hash) (jobId32 : Hash)
    (fails : Option Statement) : Prop :=
  if deedsFor system.deeds log = [] then
    system.db.records.KnowsEvent keccak256 jobId32 →
      fails ∉ [some Statement.selectCandidates, some .updateMatch] ∧
        system.db.records.unsettledEvent keccak256 jobId32 ≠ none
  else
    fails ∈ [some Statement.selectCandidates, some .updateMatch] ∨
      system.db.records.unsettledEvent keccak256 jobId32 = none

instance (system : System Hash) (log : Log Hash) (jobId32 : Hash) (fails : Option Statement) :
    Decidable (ClaimsWell keccak256 system log jobId32 fails) := by
  unfold ClaimsWell
  infer_instance

def Records.releasedJob (records : Records) (jobId32 : Hash) : Option Job :=
  records.candidateJob keccak256 [.paymentReleased, .cancelled] jobId32

/-- A new release finds its provider and a job that is known, has a new
transaction and id, and its statements succeed; a release that was applied
finds no job to mark and inserts nothing. -/
def ReleasesWell (system : System Hash) (log : Log Hash) (jobId32 : Hash)
    (provider : String) (met : Circumstances) : Prop :=
  if deedsFor system.deeds log = [] then
    met.fails ∉ [some Statement.selectCandidates, some .selectProvider, some .insertPayout] ∧
      (met.fails = some .updateMatch → system.db.records.releasedJob keccak256 jobId32 = none) ∧
      (system.db.records.KnowsJob keccak256 jobId32 →
        system.db.records.releasedJob keccak256 jobId32 ≠ none) ∧
      system.db.providerAt provider ≠ none ∧
      ¬ system.db.ignoresInsert met.payoutId log.transactionHash
  else
    met.fails = some .selectCandidates ∨
      (met.fails = some .updateMatch ∧ system.db.records.releasedJob keccak256 jobId32 ≠ none) ∨
      (system.db.records.releasedJob keccak256 jobId32 = none ∧
        (met.fails ∈ [some Statement.selectProvider, some .insertPayout] ∨
          system.db.providerAt provider = none ∨
            system.db.ignoresInsert met.payoutId log.transactionHash))

instance (system : System Hash) (log : Log Hash) (jobId32 : Hash)
    (provider : String) (met : Circumstances) :
    Decidable (ReleasesWell keccak256 system log jobId32 provider met) := by
  unfold ReleasesWell
  infer_instance

def HandlesWell (system : System Hash) (log : Log Hash) (met : Circumstances) : Prop :=
  match log.event with
  | .claimed jobId32 _ _ _ =>
    ClaimsWell keccak256 system log jobId32 met.fails
  | .paymentReleased jobId32 provider _ =>
    ReleasesWell keccak256 system log jobId32 provider met
  | _ => True

instance (system : System Hash) (log : Log Hash) (met : Circumstances) :
    Decidable (HandlesWell keccak256 system log met) := by
  unfold HandlesWell
  cases log.event <;> dsimp only <;> infer_instance

/-- A first run begins before every final log, and every log is met at a good
moment. -/
def Careful (settings : Settings Hash) (system : System Hash) :
    PollAction → Prop
  | .poll latestBlock =>
    system.lastBlock = 0 →
      ∀ log ∈ settings.logs, system.fromBlock settings latestBlock ≤ log.blockNumber
  | .handle index met =>
    match system.polls[index]? with
    | some poll =>
      match poll.chunk with
      | some (log :: _) => HandlesWell keccak256 system log met
      | _ => True
    | none => True
  | _ => True

instance (settings : Settings Hash) (system : System Hash) (action : PollAction) :
    Decidable (Careful keccak256 settings system action) := by
  cases action with
  | handle index met =>
    unfold Careful
    dsimp only
    split
    · split
      · infer_instance
      · infer_instance
    · infer_instance
  | poll latestBlock | _ =>
    unfold Careful
    infer_instance

end Condition

section Stability

variable {Hash : Type} [DecidableEq Hash] {keccak256 : String → Hash} {before after : Records}

omit [DecidableEq Hash] in
theorem Records.Keeps.knowsEvent_iff (keeps : before.Keeps after) (jobId32 : Hash) :
    after.KnowsEvent keccak256 jobId32 ↔ before.KnowsEvent keccak256 jobId32 := by
  constructor
  · rintro ⟨row, member, hashed⟩
    obtain ⟨earlier, stored, _, same⟩ := keeps.eventsBefore row member
    exact ⟨earlier, stored, same ▸ hashed⟩
  · rintro ⟨row, member, hashed⟩
    obtain ⟨later, stored, _, same, _⟩ := keeps.events row member
    exact ⟨later, stored, same ▸ hashed⟩

omit [DecidableEq Hash] in
theorem Records.Keeps.marksJob (keeps : before.Keeps after) {jobId32 : Hash} {marks : List Deed}
    (marked : MarksJob keccak256 before jobId32 marks) :
    MarksJob keccak256 after jobId32 marks := by
  rcases marked with ⟨job, member, hashed, shape⟩ | ⟨unknown, shape⟩
  · obtain ⟨later, stored, sameId, sameJob⟩ := keeps.jobs job member
    exact Or.inl ⟨later, stored, sameJob ▸ hashed, sameId ▸ shape⟩
  · refine Or.inr ⟨?_, shape⟩
    rintro ⟨row, member, hashed⟩
    obtain ⟨earlier, stored, _, same⟩ := keeps.jobsBefore row member
    exact unknown ⟨earlier, stored, same ▸ hashed⟩

theorem providerAt_congr {before after : Database}
    (providers : after.payouts.providers = before.payouts.providers)
    (accounts : after.records.ethAccounts = before.records.ethAccounts)
    (address : String) :
    after.providerAt address = before.providerAt address := by
  unfold Database.providerAt Payouts.Database.activeProvider
  rw [providers, accounts]

theorem appliedOnce_of_handled {db : Database}
    {deeds later : List (Log Hash × Deed)} {log : Log Hash}
    (applied : AppliedOnce keccak256 db deeds log)
    (same : deedsFor later log = deedsFor deeds log)
    (other : Log Hash) (met : Circumstances) :
    AppliedOnce keccak256 (handleLog keccak256 db other met).1 later log := by
  have keeps := handleLog_keeps keccak256 db other met
  have handled := handleLog_handled keccak256 db other met
  unfold AppliedOnce at applied ⊢
  cases event : log.event with
  | claimed jobId32 provider providerAmount feeAmount =>
    rw [event] at applied
    intro known
    obtain ⟨row, member, hashed, settledBy, settledAt, once⟩ :=
      applied ((keeps.knowsEvent_iff jobId32).mp known)
    obtain ⟨kept, keptMember, _, _, unchanged⟩ := keeps.events row member
    have isSame : kept = row := by
      apply unchanged
      rw [settledBy]
      exact Option.some_ne_none _
    rw [isSame] at keptMember
    exact ⟨row, keptMember, hashed, settledBy, settledAt, same.trans once⟩
  | paymentReleased jobId32 provider amount =>
    rw [event] at applied
    obtain ⟨marks, payoutId, once, marked, row, found, address, amounts⟩ := applied
    obtain ⟨kept, keptFound, money⟩ := handled.kept_row found
    refine ⟨marks, payoutId, same.trans once, keeps.marksJob marked, kept, keptFound, ?_, ?_⟩
    · rw [providerAt_congr handled.providers keeps.accounts, money.1]
      exact address
    · rw [money.2]
      exact amounts
  | cancelled jobId32 renter amount | disputeRaised jobId32 renter | other =>
    trivial

theorem deedsFor_append (deeds : List (Log Hash × Deed)) (other : Log Hash)
    (written : List Deed) (log : Log Hash) :
    deedsFor (deeds ++ written.map (fun deed => (other, deed))) log =
      deedsFor deeds log ++ if other = log then written else [] := by
  unfold deedsFor
  rw [filter_append, map_append, filter_map]
  by_cases same : other = log <;> simp [same]

end Stability

section OneLog

variable {Hash : Type} [DecidableEq Hash] {keccak256 : String → Hash}
  {system : System Hash} {log : Log Hash} {jobId32 : Hash}

def System.deedsAfter (keccak256 : String → Hash) (system : System Hash)
    (log : Log Hash) (met : Circumstances) : List (Log Hash × Deed) :=
  system.deeds ++ (handleLog keccak256 system.db log met).2.map (fun deed => (log, deed))

theorem deedsFor_deedsAfter (met : Circumstances) :
    deedsFor (system.deedsAfter keccak256 log met) log =
      deedsFor system.deeds log ++ (handleLog keccak256 system.db log met).2 := by
  rw [System.deedsAfter, deedsFor_append, if_pos rfl]

theorem deedsFor_deedsAfter_of_ne {other : Log Hash} (met : Circumstances)
    (different : log ≠ other) :
    deedsFor (system.deedsAfter keccak256 log met) other = deedsFor system.deeds other := by
  rw [System.deedsAfter, deedsFor_append, if_neg different, append_nil]

variable {provider : String}

theorem handleClaimed_again {now : Payouts.Timestamp} {fails : Option Statement}
    (written : deedsFor system.deeds log ≠ [])
    (well : ClaimsWell keccak256 system log jobId32 fails) :
    (handleClaimed keccak256 system.db jobId32 provider log.transactionHash now fails).2 = [] := by
  rw [ClaimsWell, if_neg written] at well
  unfold handleClaimed
  split
  · rfl
  · rename_i selects
    split
    · rfl
    · rename_i row found
      split
      · rfl
      · rename_i updates
        rcases well with failed | absent
        · rcases mem_cons.mp failed with failed | failed
          · exact absurd failed selects
          · exact absurd (mem_singleton.mp failed) updates
        · rw [absent] at found
          cases found

theorem settled_of_claimed {provider : String} {now : Payouts.Timestamp}
    {fails : Option Statement} {row : PaymentEvent}
    (found : system.db.records.unsettledEvent keccak256 jobId32 = some row)
    (succeeds : fails ∉ [some Statement.selectCandidates, some .updateMatch]) :
    (handleClaimed keccak256 system.db jobId32 provider
      log.transactionHash now fails).2 = [.settled row.id] ∧
      row.settle log.transactionHash now ∈ (handleClaimed keccak256 system.db jobId32 provider
        log.transactionHash now fails).1.records.paymentEvents.rows := by
  simp only [mem_cons, not_mem_nil, or_false, not_or] at succeeds
  rw [handleClaimed, if_neg succeeds.1, found]
  dsimp only
  rw [if_neg succeeds.2]
  refine ⟨rfl, ?_⟩
  rw [(sameTables_claimRequests _ provider log.transactionHash fails).1]
  have member := (unsettledEvent_eq_some keccak256 found).1
  refine mem_map.mpr ⟨row, member, ?_⟩
  rw [if_pos rfl]

variable {met : Circumstances}

theorem handlePaymentReleased_again {amount : Nat} (written : deedsFor system.deeds log ≠ [])
    (well : ReleasesWell keccak256 system log jobId32 provider met) :
    (handlePaymentReleased keccak256 system.db jobId32 provider amount
      log.transactionHash met.payoutId met.now met.fails).2 = [] := by
  rw [ReleasesWell, if_neg written] at well
  unfold handlePaymentReleased
  split
  · rfl
  · rename_i selects
    rcases well with failed | ⟨failed, found⟩ | ⟨absent, rest⟩
    · exact absurd failed selects
    · obtain ⟨job, candidate⟩ := Option.ne_none_iff_exists'.mp found
      unfold Records.releasedJob at candidate
      rw [candidate]
      dsimp only
      rw [if_pos failed]
    · unfold Records.releasedJob at absent
      rw [absent]
      dsimp only
      unfold Database.requestRelease Database.insertRelease
      split
      · rfl
      · rename_i providers
        split
        · rfl
        · rename_i providerId address
          split
          · rfl
          · rename_i inserts
            split
            · rfl
            · rename_i fresh
              exfalso
              rcases rest with failed | absent | taken
              · rcases mem_cons.mp failed with failed | failed
                · exact providers failed
                · exact inserts (mem_singleton.mp failed)
              · rw [absent] at address
                cases address
              · exact fresh taken

theorem requestRelease_creates {db : Database} {provider : String}
    {amount : Nat} {txHash : TxHash} {payoutId : PayoutId}
    {now : Payouts.Timestamp} {fails : Option Statement}
    (selects : fails ≠ some .selectProvider) (inserts : fails ≠ some .insertPayout)
    (known : db.providerAt provider ≠ none)
    (fresh : ¬ db.ignoresInsert payoutId txHash) :
    (db.requestRelease provider amount txHash payoutId now fails).2 = [.requested payoutId] ∧
      Requests (db.requestRelease provider amount txHash payoutId now fails).1
        provider amount payoutId := by
  obtain ⟨providerId, address⟩ := Option.ne_none_iff_exists'.mp known
  have absent : db.payouts.payoutRequests.lookup
      (releaseRequest payoutId providerId amount now).id = none := by
    by_contra taken
    exact fresh (Or.inr taken)
  have creates : db.requestRelease provider amount txHash payoutId now fails =
      ({ payouts := { db.payouts with
        payoutRequests := db.payouts.payoutRequests.insert
          (releaseRequest payoutId providerId amount now) absent }
         records := { db.records with
          payoutTxHash := fun other =>
            if other = payoutId then some txHash
            else db.records.payoutTxHash other } },
        [.requested payoutId]) := by
    unfold Database.requestRelease Database.insertRelease
    rw [if_neg selects, address]
    have newRow : ¬ db.ignoresInsert (releaseRequest payoutId providerId amount now).id txHash :=
      fresh
    dsimp only
    rw [if_neg inserts, if_neg newRow, Table.insertIfNew_of_fresh absent]
    rfl
  rw [creates]
  refine ⟨rfl, releaseRequest payoutId providerId amount now, ?_, ?_, rfl⟩
  · exact Table.lookup_insert_self _ _ absent
  · exact (providerAt_congr rfl rfl provider).trans address

theorem released_of_well {provider : String} {amount : Nat}
    {met : Circumstances} (new : deedsFor system.deeds log = [])
    (well : ReleasesWell keccak256 system log jobId32 provider met) :
    ∃ marks, (handlePaymentReleased keccak256 system.db jobId32 provider amount
      log.transactionHash met.payoutId met.now met.fails).2 =
      marks ++ [.requested met.payoutId] ∧
        MarksJob keccak256 system.db.records jobId32 marks ∧ Requests
          (handlePaymentReleased keccak256 system.db jobId32 provider
            amount log.transactionHash met.payoutId met.now
            met.fails).1 provider amount met.payoutId := by
  rw [ReleasesWell, if_pos new] at well
  obtain ⟨succeeds, updates, knows, known, fresh⟩ := well
  simp only [mem_cons, not_mem_nil, or_false, not_or] at succeeds
  obtain ⟨selects, selectsProvider, inserts⟩ := succeeds
  unfold Records.releasedJob at updates knows
  rw [handlePaymentReleased, if_neg selects]
  cases found : system.db.records.candidateJob keccak256 [.paymentReleased, .cancelled] jobId32 with
  | none =>
    have creates := @requestRelease_creates system.db provider amount
      log.transactionHash met.payoutId met.now met.fails
      selectsProvider inserts known fresh
    refine ⟨[], creates.1, Or.inr ⟨?_, rfl⟩, creates.2⟩
    intro knownJob
    exact knows knownJob found
  | some job =>
    have goesOn : met.fails ≠ some .updateMatch := by
      intro failed
      rw [updates failed] at found
      cases found
    dsimp only
    rw [if_neg goesOn]
    obtain ⟨member, hashed⟩ := candidateJob_eq_some keccak256 found
    have creates := @requestRelease_creates
      (system.db.setJob job.id .paymentReleased) provider amount
      log.transactionHash met.payoutId met.now met.fails
      selectsProvider inserts known fresh
    refine ⟨[.marked job.id], ?_, Or.inl ⟨job, member, hashed, rfl⟩, creates.2⟩
    rw [creates.1]
    rfl

theorem appliedOnce_of_handlesWell
    (applied : deedsFor system.deeds log ≠ [] → AppliedOnce keccak256 system.db system.deeds log)
    (well : HandlesWell keccak256 system log met) :
    AppliedOnce keccak256 (handleLog keccak256 system.db log met).1
      (system.deedsAfter keccak256 log met) log := by
  have again (written : deedsFor system.deeds log ≠ [])
      (nothing : (handleLog keccak256 system.db log met).2 = []) :
      AppliedOnce keccak256 (handleLog keccak256 system.db log met).1
        (system.deedsAfter keccak256 log met) log := by
    refine appliedOnce_of_handled (applied written) ?_ log met
    rw [deedsFor_deedsAfter, nothing, append_nil]
  have keeps := handleLog_keeps keccak256 system.db log met
  by_cases new : deedsFor system.deeds log = []
  · have deeds := @deedsFor_deedsAfter _ _ keccak256 system log met
    rw [new, nil_append] at deeds
    unfold AppliedOnce
    unfold HandlesWell at well
    cases event : log.event with
    | claimed jobId32 provider providerAmount feeAmount =>
      rw [event] at well
      dsimp only at well ⊢
      intro known
      rw [ClaimsWell, if_pos new] at well
      obtain ⟨succeeds, scanned⟩ := well ((keeps.knowsEvent_iff jobId32).mp known)
      obtain ⟨row, found⟩ := Option.ne_none_iff_exists'.mp scanned
      have hashed := (unsettledEvent_eq_some keccak256 found).2.2
      have settled := @settled_of_claimed _ _ keccak256 system log
        jobId32 provider met.now met.fails row found succeeds
      have same : handleLog keccak256 system.db log met =
          handleClaimed keccak256 system.db jobId32 provider
            log.transactionHash met.now met.fails := by
        rw [handleLog, event]
      rw [deeds, same]
      exact ⟨_, settled.2, hashed, rfl, Option.some_ne_none _, settled.1⟩
    | paymentReleased jobId32 provider amount =>
      rw [event] at well
      obtain ⟨marks, written, marked, requested⟩ :=
        @released_of_well _ _ keccak256 system log jobId32 provider amount met new well
      have same : handleLog keccak256 system.db log met =
          handlePaymentReleased keccak256 system.db jobId32 provider
            amount log.transactionHash met.payoutId met.now
            met.fails := by
        rw [handleLog, event]
      have marksKept := keeps.marksJob marked
      rw [same] at marksKept
      rw [deeds, same]
      exact ⟨marks, met.payoutId, written, marksKept, requested⟩
    | cancelled jobId32 renter amount | disputeRaised jobId32 renter | other =>
      trivial
  · unfold HandlesWell at well
    cases event : log.event with
    | claimed jobId32 provider providerAmount feeAmount =>
      rw [event] at well
      refine again new ?_
      rw [handleLog, event]
      exact handleClaimed_again new well
    | paymentReleased jobId32 provider amount =>
      rw [event] at well
      refine again new ?_
      rw [handleLog, event]
      exact handlePaymentReleased_again new well
    | cancelled jobId32 renter amount | disputeRaised jobId32 renter | other =>
      rw [AppliedOnce, event]
      trivial

end OneLog

section Runs

variable {Hash : Type} [DecidableEq Hash] {keccak256 : String → Hash} {settings : Settings Hash}

/-- What lies before a poll is applied, and of its chunk what is not still
to come. -/
structure Poll.Sound (settings : Settings Hash) (applied : Log Hash → Prop)
    (poll : Poll Hash) : Prop where
  before : ∀ log ∈ settings.logs, log.blockNumber < poll.cursor → applied log
  within : ∀ rest, poll.chunk = some rest →
    ∀ log ∈ settings.logs, poll.covers settings log → log ∈ rest ∨ applied log

variable (keccak256 settings)

structure Consistent (system : System Hash) : Prop where
  passed : PassedApplied keccak256 settings system
  polls : ∀ poll ∈ system.polls, poll.Sound settings (AppliedOnce keccak256 system.db system.deeds)
  written : ∀ log, deedsFor system.deeds log ≠ [] → AppliedOnce keccak256 system.db system.deeds log

variable {keccak256 settings}

omit [DecidableEq Hash] in
theorem Poll.Sound.mono {first second : Log Hash → Prop} {poll : Poll Hash}
    (sound : poll.Sound settings first) (implies : ∀ log, first log → second log) :
    poll.Sound settings second where
  before := fun log member earlier =>
    implies log (sound.before log member earlier)
  within := fun rest shape log member covered =>
    (sound.within rest shape log member covered).imp_right (implies log)

variable {poll : Poll Hash} {log : Log Hash} {applied : Log Hash → Prop} {rest : List (Log Hash)}

omit [DecidableEq Hash] in
theorem Poll.Sound.tail (sound : poll.Sound settings applied)
    (shape : poll.chunk = some (log :: rest)) (head : applied log) :
    Poll.Sound settings applied { poll with chunk := some rest } where
  before := sound.before
  within := by
    intro other same next member covered
    obtain rfl := Option.some.inj same
    rcases sound.within _ shape next member covered with listed | done
    · rcases mem_cons.mp listed with first | later
      · exact Or.inr (first ▸ head)
      · exact Or.inl later
    · exact Or.inr done

omit [DecidableEq Hash] in
theorem Poll.Sound.upTo_chunkEnd (sound : poll.Sound settings applied)
    (shape : poll.chunk = some []) (member : log ∈ settings.logs)
    (upTo : log.blockNumber ≤ poll.chunkEnd settings) :
    applied log := by
  by_cases earlier : log.blockNumber < poll.cursor
  · exact sound.before log member earlier
  · have covered : poll.covers settings log := ⟨Nat.le_of_not_lt earlier, upTo⟩
    rcases sound.within [] shape log member covered with listed | done
    · cases listed
    · exact done

variable {system : System Hash}

theorem consistent_poll {latestBlock : Nat} (consistent : Consistent keccak256 settings system)
    (careful : Careful keccak256 settings system (.poll latestBlock)) :
    Consistent keccak256 settings { system with
      polls := system.polls ++
        [{ cursor := system.fromBlock settings latestBlock
           safeBlock := settings.safeBlock latestBlock
           chunk := none }] } where
  passed := consistent.passed
  polls := by
    intro poll member
    rcases mem_append.mp member with old | new
    · exact consistent.polls poll old
    · rw [mem_singleton.mp new]
      refine ⟨?_, fun rest shape => nomatch shape⟩
      intro log logMember earlier
      by_cases first : system.lastBlock = 0
      · have starts := careful first log logMember
        exact absurd starts (Nat.not_le_of_lt earlier)
      · have resumes : system.fromBlock settings latestBlock = system.lastBlock + 1 := if_neg first
        rw [resumes] at earlier
        exact consistent.passed first log logMember (Nat.le_of_lt_succ earlier)
  written := consistent.written

variable {index : Nat}

theorem consistent_fetch (consistent : Consistent keccak256 settings system)
    (found : system.polls[index]? = some poll) :
    Consistent keccak256 settings { system with
      polls := system.polls.set index (poll.fetched settings) } where
  passed := consistent.passed
  polls := by
    intro other member
    rcases mem_or_eq_of_mem_set member with old | rfl
    · exact consistent.polls other old
    · have sound := consistent.polls poll (mem_of_getElem? found)
      refine ⟨sound.before, ?_⟩
      intro rest shape log logMember covered
      obtain rfl := Option.some.inj shape
      exact Or.inl (mem_filter.mpr ⟨logMember, decide_eq_true covered⟩)
  written := consistent.written

theorem consistent_handle {met : Circumstances} (consistent : Consistent keccak256 settings system)
    (found : system.polls[index]? = some poll)
    (shape : poll.chunk = some (log :: rest))
    (well : HandlesWell keccak256 system log met) :
    Consistent keccak256 settings (system.handled keccak256 index poll log rest met) := by
  have head : AppliedOnce keccak256 (handleLog keccak256 system.db log met).1
      (system.deedsAfter keccak256 log met) log :=
    appliedOnce_of_handlesWell (consistent.written log) well
  have stays (other : Log Hash) (applied : AppliedOnce keccak256 system.db system.deeds other) :
      AppliedOnce keccak256 (handleLog keccak256 system.db log met).1
        (system.deedsAfter keccak256 log met) other := by
    by_cases same : log = other
    · exact same ▸ head
    · exact appliedOnce_of_handled applied (deedsFor_deedsAfter_of_ne met same) log met
  refine ⟨?_, ?_, ?_⟩
  · intro begun other member passed
    exact stays other (consistent.passed begun other member passed)
  · intro other member
    rcases mem_or_eq_of_mem_set member with old | rfl
    · exact (consistent.polls other old).mono stays
    · have sound := consistent.polls poll (mem_of_getElem? found)
      exact (sound.mono stays).tail shape head
  · intro other written
    by_cases same : log = other
    · exact same ▸ head
    · apply stays other
      apply consistent.written other
      intro nothing
      exact written ((deedsFor_deedsAfter_of_ne met same).trans nothing)

omit [DecidableEq Hash] in
theorem mem_replacePoll {polls : List (Poll Hash)} {replacement : Option (Poll Hash)}
    (member : poll ∈ replacePoll polls index replacement) :
    poll ∈ polls ∨ replacement = some poll := by
  cases replacement with
  | none =>
    exact Or.inl (mem_of_mem_eraseIdx member)
  | some other =>
    rcases mem_or_eq_of_mem_set member with old | rfl
    · exact Or.inl old
    · exact Or.inr rfl

theorem consistent_save (consistent : Consistent keccak256 settings system)
    (found : system.polls[index]? = some poll) (shape : poll.chunk = some []) :
    Consistent keccak256 settings { system with
      lastBlock := poll.chunkEnd settings
      polls := replacePoll system.polls index (poll.advanced settings) } := by
  have sound := consistent.polls poll (mem_of_getElem? found)
  refine ⟨?_, ?_, consistent.written⟩
  · intro _ log member passed
    exact sound.upTo_chunkEnd shape member passed
  · intro other member
    rcases mem_replacePoll member with old | advanced
    · exact consistent.polls other old
    · unfold Poll.advanced at advanced
      dsimp only at advanced
      split at advanced
      · obtain rfl := Option.some.inj advanced
        refine ⟨?_, fun rest same => nomatch same⟩
        intro log logMember earlier
        exact sound.upTo_chunkEnd shape logMember (Nat.le_of_lt_succ earlier)
      · cases advanced

theorem consistent_step {system after : System Hash} {action : PollAction}
    (consistent : Consistent keccak256 settings system)
    (taken : guarded (Fires (nextPoll keccak256 settings))
      (Careful keccak256 settings) system action after) :
    Consistent keccak256 settings after := by
  obtain ⟨careful, step⟩ := taken
  cases action with
  | poll latestBlock =>
    simp only [Fires, nextPoll] at step
    split at step
    · obtain rfl := Option.some.inj step
      exact consistent
    · obtain rfl := Option.some.inj step
      exact consistent_poll consistent careful
  | fetch index =>
    simp only [Fires, nextPoll] at step
    split at step
    · rename_i poll found
      split at step
      · obtain rfl := Option.some.inj step
        exact consistent_fetch consistent found
      · cases step
    · cases step
  | handle index met =>
    simp only [Fires, nextPoll] at step
    split at step
    · rename_i poll found
      split at step
      · rename_i log rest shape
        obtain rfl := Option.some.inj step
        simp only [Careful, found, shape] at careful
        exact consistent_handle consistent found shape careful
      · cases step
    · cases step
  | save index =>
    simp only [Fires, nextPoll] at step
    split at step
    · rename_i poll found
      split at step
      · rename_i shape
        obtain rfl := Option.some.inj step
        exact consistent_save consistent found shape
      · cases step
    · cases step
  | abort index =>
    obtain rfl := Option.some.inj step
    refine ⟨consistent.passed, ?_, consistent.written⟩
    intro poll member
    exact consistent.polls poll (mem_of_mem_eraseIdx member)
  | crash =>
    obtain rfl := Option.some.inj step
    refine ⟨consistent.passed, ?_, consistent.written⟩
    intro poll member
    cases member

/-- The listener before its first poll, with any database. -/
structure System.Opening (system : System Hash) : Prop where
  lastBlock : system.lastBlock = 0
  polls : system.polls = []
  deeds : system.deeds = []

theorem consistent_opening (opening : system.Opening) :
    Consistent keccak256 settings system where
  passed := fun begun => absurd opening.lastBlock begun
  polls := by
    intro poll member
    rw [opening.polls] at member
    cases member
  written := by
    intro log written
    rw [opening.deeds] at written
    exact absurd rfl written

end Runs

def sampleLogs (claimant : String) : List (Log String) :=
  [{ blockNumber := 4
     logIndex := 0
     transactionHash := 41
     event := .claimed "job" claimant 9000000 1000000 },
    { blockNumber := 6
      logIndex := 0
      transactionHash := 61
      event := .paymentReleased "job" "0xAB" 10000000 }]

def sampleSettings (claimant : String) : Settings String :=
  Settings.standard (sampleLogs claimant) (some 1)

def sampleDatabase (events : Table PaymentEvent PaymentEvent.id) : Database where
  payouts :=
    { providers := fun providerId =>
      if providerId = 1 then some ⟨0, false, none, none⟩ else none
      payoutRequests := Table.empty }
  records :=
    { paymentEvents := events
      jobs := Table.empty.insert { id := 8, jobId := "job", status := .other } rfl
      ethAccounts := Table.empty.insert { providerId := 1, ethAddress := "0xab" } rfl
      payoutTxHash := fun _ => none
      alerts := [] }

def sampleEvent (id : Nat) (jobId : String) : PaymentEvent :=
  { id := id, jobId := jobId, escrowTxHash := none, settledAt := none }

def samplePolling (events : Table PaymentEvent PaymentEvent.id) :
    System String :=
  { db := sampleDatabase events, lastBlock := 0, polls := [], deeds := [] }

theorem samplePolling_opening (events : Table PaymentEvent PaymentEvent.id) :
    (samplePolling events).Opening where
  lastBlock := rfl
  polls := rfl
  deeds := rfl

def oneEvent : Table PaymentEvent PaymentEvent.id :=
  Table.empty.insert (sampleEvent 0 "job") rfl

def sampleMoment (payoutId : PayoutId) (fails : Option Statement) :
    Circumstances :=
  { payoutId := payoutId, now := 1, fails := fails }

def sampleOverlap : List PollAction :=
  [.poll 9, .poll 9, .fetch 0, .handle 0 (sampleMoment 5 none),
    .handle 0 (sampleMoment 5 none), .save 0, .fetch 0,
    .handle 0 (sampleMoment 6 none), .handle 0 (sampleMoment 6 none),
    .crash, .poll 20]

def manyEvents : Table PaymentEvent PaymentEvent.id where
  rows := (List.range 201).map (fun id =>
    sampleEvent id (if id = 200 then "job" else "other"))
  keysNodup := by
    have ids : ((List.range 201).map (fun id =>
        sampleEvent id (if id = 200 then "job" else "other"))).map
          PaymentEvent.id = List.range 201 := by
      rw [List.map_map]
      exact List.map_id _
    rw [ids]
    exact List.nodup_range

section Stay

variable {Hash : Type} [DecidableEq Hash] {keccak256 : String → Hash} {settings : Settings Hash}

theorem keeps_of_fires {system after : System Hash} {action : PollAction}
    (fires : Fires (nextPoll keccak256 settings) system action after) :
    system.db.records.Keeps after.db.records := by
  have same := Records.Keeps.refl system.db.records
  cases action with
  | handle index met =>
    simp only [Fires, nextPoll] at fires
    split at fires
    · split at fires
      · cases fires
        exact handleLog_keeps keccak256 system.db _ met
      · cases fires
    · cases fires
  | poll | fetch | save | abort | crash =>
    simp only [Fires, nextPoll] at fires
    repeat' split at fires
    all_goals cases fires
    all_goals exact same

/-- However the polls overlap, no payment event is lost, and one that is
settled is not written again. -/
theorem settled_events_stay {start finish : System Hash} {actions : List PollAction}
    (run : Run (Fires (nextPoll keccak256 settings)) start actions finish) :
    ∀ row ∈ start.db.records.paymentEvents.rows, ∃ later ∈ finish.db.records.paymentEvents.rows,
      later.id = row.id ∧ later.jobId = row.jobId ∧ (row.escrowTxHash ≠ none → later = row) := by
  intro row member
  refine run.invariant (fun system => ∃ later ∈ system.db.records.paymentEvents.rows,
    later.id = row.id ∧ later.jobId = row.jobId ∧ (row.escrowTxHash ≠ none → later = row))
    ?_ ⟨row, member, rfl, rfl, fun _ => rfl⟩
  rintro source target action ⟨later, there, id, job, kept⟩ fires
  obtain ⟨after, here, afterId, afterJob, stays⟩ := (keeps_of_fires fires).events later there
  refine ⟨after, here, afterId.trans id, afterJob.trans job, ?_⟩
  intro settled
  have unchanged := kept settled
  exact (stays (unchanged ▸ settled)).trans unchanged

end Stay

theorem settled_events_stay_sample :
    ∃ finish, Run (Fires (nextPoll id (sampleSettings "0xAB"))) (samplePolling oneEvent)
        sampleOverlap finish ∧ ∃ later ∈ finish.db.records.paymentEvents.rows, later.id = 0 := by
  refine exists_run (fun _ => True) (by decide +kernel) ?_
  intro finish run _
  obtain ⟨later, here, same, _⟩ := settled_events_stay run _ mem_cons_self
  exact ⟨later, here, same⟩

end DcpPlatform.EscrowListener
