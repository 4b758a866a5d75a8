import DcpPlatform.EscrowListener.Handlers
import DcpPlatform.Payouts.Conservation

/-!
# What the handlers do

A handler keeps every payout request with its money, inserts at most one and
moves pending ones to processing. It keeps the ids of payment events and
jobs and every payment event that is settled.
-/

namespace DcpPlatform.EscrowListener

open Foundation Table List Option
open Payouts (PayoutId ProviderId PayoutRequest claimable SameMoney Sound)

/-! ## What a handler does to the requests -/

section Handlers

variable {Hash : Type} [DecidableEq Hash] (keccak256 : String → Hash)

def MovesRequests (db : Database) (jobId32 : Hash) (provider : String)
    (txHash : TxHash) (fails : Option Statement) : Prop :=
  fails ≠ some .selectCandidates ∧ fails ≠ some .updatePayouts ∧
    (fails = some .updateMatch → db.records.unsettledEvent keccak256 jobId32 = none) ∧
    ¬ db.violatesIndex provider txHash
deriving Decidable

theorem payouts_claimRequests (db : Database) (provider : String)
    (txHash : TxHash) (fails : Option Statement) :
    (db.claimRequests provider txHash fails).payouts =
      if fails ≠ some .updatePayouts ∧ ¬ db.violatesIndex provider txHash then
        { db.payouts with
          payoutRequests := db.payouts.payoutRequests.updateAll
            (db.processRow provider) (db.processRow_id provider) }
      else
        db.payouts := by
  unfold Database.claimRequests Database.processRequests
  by_cases updates : fails = some .updatePayouts
  · simp [updates]
  · by_cases violates : db.violatesIndex provider txHash
    · simp [violates]
    · simp [updates, violates]

theorem payouts_claimRequests_settleEvent (db : Database)
    (paymentEventId : Nat) (provider : String) (txHash : TxHash)
    (now : Payouts.Timestamp) (fails : Option Statement) :
    ((db.settleEvent paymentEventId txHash now).claimRequests provider txHash fails).payouts =
      (db.claimRequests provider txHash fails).payouts := by
  rw [payouts_claimRequests, payouts_claimRequests]
  rfl

theorem handleClaimed_payouts (db : Database) (jobId32 : Hash)
    (provider : String) (txHash : TxHash) (now : Payouts.Timestamp)
    (fails : Option Statement) :
    (handleClaimed keccak256 db jobId32 provider txHash now fails).1.payouts =
      if MovesRequests keccak256 db jobId32 provider txHash fails then
        { db.payouts with
          payoutRequests := db.payouts.payoutRequests.updateAll
            (db.processRow provider) (db.processRow_id provider) }
      else
        db.payouts := by
  have reached (moves : MovesRequests keccak256 db jobId32 provider txHash fails ↔
      fails ≠ some .updatePayouts ∧ ¬ db.violatesIndex provider txHash) :
      (db.claimRequests provider txHash fails).payouts =
        if MovesRequests keccak256 db jobId32 provider txHash fails then
          { db.payouts with
            payoutRequests := db.payouts.payoutRequests.updateAll
              (db.processRow provider) (db.processRow_id provider) }
        else
          db.payouts := by
    rw [payouts_claimRequests]
    exact if_congr moves.symm rfl rfl
  unfold handleClaimed
  by_cases selects : fails = some .selectCandidates
  · rw [if_pos selects, if_neg (·.1 selects)]
  · rw [if_neg selects]
    cases found : db.records.unsettledEvent keccak256 jobId32 with
    | none =>
      refine reached ⟨fun moves => moves.2.imp_right And.right, ?_⟩
      rintro ⟨updates, unique⟩
      exact ⟨selects, updates, fun _ => found, unique⟩
    | some row =>
      by_cases fails_ : fails = some .updateMatch
      · have stays : ¬ MovesRequests keccak256 db jobId32 provider txHash
            fails := by
          intro moves
          have absent := moves.2.2.1 fails_
          rw [found] at absent
          cases absent
        rw [if_neg stays]
        simp [if_pos fails_]
      · simp only [if_neg fails_, payouts_claimRequests_settleEvent]
        refine reached ⟨fun moves => moves.2.imp_right And.right, ?_⟩
        rintro ⟨updates, unique⟩
        exact ⟨selects, updates, fun failed => absurd failed fails_, unique⟩

theorem lookup_updateAll_processRow (db : Database) (provider : String) (payoutId : PayoutId) :
    (db.payouts.payoutRequests.updateAll (db.processRow provider)
      (db.processRow_id provider)).lookup payoutId =
      (db.payouts.payoutRequests.lookup payoutId).map (db.processRow provider) :=
  lookup_updateAll _ _ (db.processRow_id provider) _

/-- What a handler does to the requests, with the requests it inserts.
`Moves` says which updates of the requests of a provider it may make. -/
inductive Handled (Moves : Database → String → Prop)
    (db : Payouts.Database) : Payouts.Database → List PayoutId → Prop
  | kept : Handled Moves db db []
  | processed {listened : Database} {provider : String} :
      Moves listened provider →
      Handled Moves db { db with
        payoutRequests := db.payoutRequests.updateAll (listened.processRow provider)
          (listened.processRow_id provider) }
        []
  | inserted {row : PayoutRequest} (fresh : db.payoutRequests.lookup row.id = none) :
      Sound db row →
      Handled Moves db { db with payoutRequests := db.payoutRequests.insert row fresh } [row.id]

theorem amountHalala_nonneg (amount : Nat) : 0 ≤ amountHalala amount := by
  apply mathRound_nonneg
  unfold amountSar amountUsd Payouts.usdToSar Payouts.halalaPerSar
  positivity

variable {db : Database}

theorem isSome_of_providerAt {address : String} {providerId : ProviderId}
    (found : db.providerAt address = some providerId) :
    (db.payouts.providers providerId).isSome = true := by
  obtain ⟨account, selected, rfl⟩ := map_eq_some_iff.mp found
  have met := find?_some selected
  obtain ⟨provider, active⟩ := isSome_iff_exists.mp (of_decide_eq_true met).2
  rw [Payouts.Database.activeProvider_eq_some active]
  rfl

theorem requestRelease_handled (Moves : Database → String → Prop)
    (db : Database) (provider : String)
    (amount : Nat) (txHash : TxHash) (payoutId : PayoutId)
    (now : Payouts.Timestamp) (fails : Option Statement) :
    Handled Moves db.payouts (db.requestRelease provider amount txHash payoutId now fails).1.payouts
      ((db.requestRelease provider amount txHash payoutId now fails).2.filterMap Deed.request) := by
  unfold Database.requestRelease
  split
  · exact Handled.kept
  · cases found : db.providerAt provider with
    | none =>
      exact Handled.kept
    | some providerId =>
      dsimp only
      split
      · exact Handled.kept
      · unfold Database.insertRelease
        split
        · exact Handled.kept
        · rename_i inserts
          have fresh : db.payouts.payoutRequests.lookup
              (releaseRequest payoutId providerId amount now).id =
                none := by
            by_contra taken
            exact inserts (Or.inr taken)
          rw [insertIfNew_of_fresh fresh]
          exact Handled.inserted fresh ⟨amountHalala_nonneg amount, isSome_of_providerAt found⟩

theorem payouts_raiseAlert (db : Database) (jobId : Option String)
    (txHash : TxHash) (fails : Option Statement) :
    (db.raiseAlert jobId txHash fails).payouts = db.payouts := by
  unfold Database.raiseAlert Database.insertAlert
  split
  · rfl
  · split <;> rfl

theorem handleDisputeRaised_payouts (db : Database) (jobId32 : Hash)
    (txHash : TxHash) (fails : Option Statement) :
    (handleDisputeRaised keccak256 db jobId32 txHash fails).payouts =
      db.payouts := by
  unfold handleDisputeRaised
  split
  · rfl
  · split
    · exact payouts_raiseAlert _ _ _ _
    · split
      · rfl
      · exact payouts_raiseAlert _ _ _ _

theorem handleClaimed_requests (db : Database) (jobId32 : Hash)
    (provider : String) (txHash : TxHash) (now : Payouts.Timestamp)
    (fails : Option Statement) :
    (handleClaimed keccak256 db jobId32 provider txHash now
      fails).2.filterMap Deed.request = [] := by
  unfold handleClaimed
  split
  · rfl
  · split
    · rfl
    · split <;> rfl

/-- A log moves requests when it is a claim whose handler comes that far. -/
def Log.Moves (log : Log Hash) (met : Circumstances) (db listened : Database)
    (provider : String) : Prop :=
  listened = db ∧ ∃ jobId32 providerAmount feeAmount,
    log.event = .claimed jobId32 provider providerAmount feeAmount ∧
      MovesRequests keccak256 db jobId32 provider log.transactionHash met.fails

theorem handleLog_handled (db : Database) (log : Log Hash) (met : Circumstances) :
    Handled (log.Moves keccak256 met db) db.payouts (handleLog keccak256 db log met).1.payouts
      ((handleLog keccak256 db log met).2.filterMap Deed.request) := by
  unfold handleLog
  cases event : log.event with
  | cancelled jobId32 renter amount | other =>
    exact Handled.kept
  | disputeRaised jobId32 renter =>
    rw [handleDisputeRaised_payouts]
    exact Handled.kept
  | claimed jobId32 provider providerAmount feeAmount =>
    rw [handleClaimed_payouts, handleClaimed_requests]
    split
    · rename_i moves
      exact Handled.processed ⟨rfl, _, _, _, event, moves⟩
    · exact Handled.kept
  | paymentReleased jobId32 provider amount =>
    dsimp only
    unfold handlePaymentReleased
    split
    · exact Handled.kept
    · split
      · exact requestRelease_handled _ _ _ _ _ _ _ _
      · split
        · exact Handled.kept
        · exact requestRelease_handled _ (db.setJob _ .paymentReleased) _ _ _ _ _ _

section Handled

variable {Moves : Database → String → Prop} {db after : Payouts.Database} {requests : List PayoutId}

theorem Handled.providers (handled : Handled Moves db after requests) :
    after.providers = db.providers := by
  cases handled with
  | kept | processed moves | inserted fresh sound => rfl

theorem Handled.claimable (handled : Handled Moves db after requests) (providerId : ProviderId) :
    claimable after providerId = Payouts.claimable db providerId := by
  unfold Payouts.claimable
  rw [handled.providers]

theorem sameMoney_processRow (listened : Database) (provider : String) (row : PayoutRequest) :
    SameMoney row (listened.processRow provider row) := by
  unfold Database.processRow
  split <;> exact ⟨rfl, rfl⟩

variable {payoutId : PayoutId} {row : PayoutRequest}

variable (handled : Handled Moves db after requests)

include handled

theorem Handled.kept_row (found : db.payoutRequests.lookup payoutId = some row) :
    ∃ later, after.payoutRequests.lookup payoutId = some later ∧ SameMoney row later := by
  cases handled with
  | kept =>
    exact ⟨row, found, rfl, rfl⟩
  | @processed listened provider moves =>
    refine ⟨listened.processRow provider row, ?_, sameMoney_processRow listened provider row⟩
    rw [lookup_updateAll _ _ (listened.processRow_id provider), found, map_some]
  | inserted fresh sound =>
    exact ⟨row, lookup_insert_of_some _ fresh found, rfl, rfl⟩

theorem Handled.row_of_after (found : after.payoutRequests.lookup row.id = some row) :
    (∃ earlier, db.payoutRequests.lookup row.id = some earlier ∧
      SameMoney earlier row ∧ row.id ∉ requests) ∨
      (db.payoutRequests.lookup row.id = none ∧ requests = [row.id] ∧ Sound db row) := by
  cases handled with
  | kept =>
    exact Or.inl ⟨row, found, ⟨rfl, rfl⟩, not_mem_nil⟩
  | @processed listened provider moves =>
    rw [lookup_updateAll _ _ (listened.processRow_id provider)] at found
    obtain ⟨earlier, stored, changed⟩ := map_eq_some_iff.mp found
    refine Or.inl ⟨earlier, stored, ?_, not_mem_nil⟩
    exact changed ▸ sameMoney_processRow listened provider earlier
  | @inserted new fresh sound =>
    rw [lookup_insert] at found
    by_cases same : new.id = row.id
    · rw [if_pos same] at found
      obtain rfl := some.inj found
      exact Or.inr ⟨fresh, rfl, sound⟩
    · rw [if_neg same] at found
      refine Or.inl ⟨row, found, ⟨rfl, rfl⟩, ?_⟩
      intro member
      exact same (mem_singleton.mp member).symm

theorem Handled.moved {payoutId : PayoutId} {row moved : PayoutRequest}
    (found : db.payoutRequests.lookup payoutId = some row)
    (pending : row.status = .pending)
    (movedFound : after.payoutRequests.lookup payoutId = some moved)
    (processing : moved.status = .processing) :
    ∃ listened provider, Moves listened provider ∧ listened.isClaimedBy provider row := by
  have different : some row ≠ some moved := by
    intro same
    rw [← some.inj same, pending] at processing
    cases processing
  cases handled with
  | kept =>
    exact absurd (found.symm.trans movedFound) different
  | @processed listened provider moves =>
    refine ⟨listened, provider, moves, ?_⟩
    by_contra unclaimed
    rw [lookup_updateAll _ _ (listened.processRow_id provider),
      found, map_some, Database.processRow,
      if_neg unclaimed] at movedFound
    exact different movedFound
  | inserted fresh sound =>
    have kept := lookup_insert_of_some _ fresh found
    exact absurd (kept.symm.trans movedFound) different

theorem Handled.fresh (member : payoutId ∈ requests) :
    db.payoutRequests.lookup payoutId = none ∧ after.payoutRequests.lookup payoutId ≠ none := by
  cases handled with
  | kept | processed moves => cases member
  | @inserted row fresh sound =>
    obtain rfl := mem_singleton.mp member
    refine ⟨fresh, ?_⟩
    rw [lookup_insert_self]
    exact some_ne_none row

end Handled

/-- The jobs of the payment events and of the jobs are as they were, what is
settled stays as it is, and the addresses of the providers stay. -/
structure Records.Keeps (before after : Records) : Prop where
  events : ∀ row ∈ before.paymentEvents.rows, ∃ later ∈ after.paymentEvents.rows,
    later.id = row.id ∧ later.jobId = row.jobId ∧ (row.escrowTxHash ≠ none → later = row)
  eventsBefore : ∀ row ∈ after.paymentEvents.rows,
    ∃ earlier ∈ before.paymentEvents.rows, earlier.id = row.id ∧ earlier.jobId = row.jobId
  jobs :
    ∀ row ∈ before.jobs.rows, ∃ later ∈ after.jobs.rows, later.id = row.id ∧ later.jobId = row.jobId
  jobsBefore : ∀ row ∈ after.jobs.rows,
    ∃ earlier ∈ before.jobs.rows, earlier.id = row.id ∧ earlier.jobId = row.jobId
  accounts : after.ethAccounts = before.ethAccounts

theorem Records.Keeps.refl (records : Records) : records.Keeps records where
  events := fun row member => ⟨row, member, rfl, rfl, fun _ => rfl⟩
  eventsBefore := fun row member => ⟨row, member, rfl, rfl⟩
  jobs := fun row member => ⟨row, member, rfl, rfl⟩
  jobsBefore := fun row member => ⟨row, member, rfl, rfl⟩
  accounts := rfl

theorem Records.Keeps.congr {before after other : Records} (keeps : before.Keeps after)
    (events : other.paymentEvents = after.paymentEvents)
    (jobs : other.jobs = after.jobs)
    (accounts : other.ethAccounts = after.ethAccounts) :
    before.Keeps other where
  events := events ▸ keeps.events
  eventsBefore := events ▸ keeps.eventsBefore
  jobs := jobs ▸ keeps.jobs
  jobsBefore := jobs ▸ keeps.jobsBefore
  accounts := accounts.trans keeps.accounts

variable {row : PaymentEvent}

theorem keeps_settleEvent (member : row ∈ db.records.paymentEvents.rows)
    (unsettled : row.escrowTxHash = none) (txHash : TxHash)
    (now : Payouts.Timestamp) :
    db.records.Keeps (db.settleEvent row.id txHash now).records where
  events := by
    intro other otherMember
    by_cases same : other.id = row.id
    · refine ⟨other.settle txHash now, ?_, rfl, rfl, ?_⟩
      · refine mem_map.mpr ⟨other, otherMember, ?_⟩
        rw [if_pos same]
      · intro settled
        have rows := lookup_of_mem otherMember
        rw [same, lookup_of_mem member] at rows
        rw [← some.inj rows] at settled
        exact absurd unsettled settled
    · refine ⟨other, ?_, rfl, rfl, fun _ => rfl⟩
      refine mem_map.mpr ⟨other, otherMember, ?_⟩
      rw [if_neg same]
  eventsBefore := by
    intro other otherMember
    obtain ⟨earlier, stored, rfl⟩ := mem_map.mp otherMember
    refine ⟨earlier, stored, ?_⟩
    split <;> exact ⟨rfl, rfl⟩
  jobs := fun other otherMember => ⟨other, otherMember, rfl, rfl⟩
  jobsBefore := fun other otherMember => ⟨other, otherMember, rfl, rfl⟩
  accounts := rfl

theorem keeps_setJob (db : Database) (jobId : Nat) (status : JobStatus) :
    db.records.Keeps (db.setJob jobId status).records where
  events := fun row member => ⟨row, member, rfl, rfl, fun _ => rfl⟩
  eventsBefore := fun row member => ⟨row, member, rfl, rfl⟩
  jobs := by
    intro row member
    refine ⟨if row.id = jobId then row.withStatus status else row, mem_map_of_mem member, ?_⟩
    split <;> exact ⟨rfl, rfl⟩
  jobsBefore := by
    intro row member
    obtain ⟨earlier, stored, rfl⟩ := mem_map.mp member
    refine ⟨earlier, stored, ?_⟩
    split <;> exact ⟨rfl, rfl⟩
  accounts := rfl

def Records.SameTables (first second : Records) : Prop :=
  second.paymentEvents = first.paymentEvents ∧ second.jobs = first.jobs ∧
    second.ethAccounts = first.ethAccounts

theorem Records.Keeps.of_same {before after other : Records}
    (keeps : before.Keeps after) (same : after.SameTables other) :
    before.Keeps other :=
  keeps.congr same.1 same.2.1 same.2.2

theorem sameTables_claimRequests (db : Database) (provider : String)
    (txHash : TxHash) (fails : Option Statement) :
    db.records.SameTables (db.claimRequests provider txHash fails).records := by
  unfold Database.claimRequests Database.processRequests
  split
  · exact ⟨rfl, rfl, rfl⟩
  · split <;> exact ⟨rfl, rfl, rfl⟩

theorem sameTables_requestRelease (db : Database) (provider : String)
    (amount : Nat) (txHash : TxHash) (payoutId : PayoutId)
    (now : Payouts.Timestamp) (fails : Option Statement) :
    db.records.SameTables
      (db.requestRelease provider amount txHash payoutId now fails).1.records := by
  unfold Database.requestRelease
  split
  · exact ⟨rfl, rfl, rfl⟩
  · split
    · exact ⟨rfl, rfl, rfl⟩
    · split
      · exact ⟨rfl, rfl, rfl⟩
      · unfold Database.insertRelease
        split <;> exact ⟨rfl, rfl, rfl⟩

theorem sameTables_raiseAlert (db : Database) (jobId : Option String)
    (txHash : TxHash) (fails : Option Statement) :
    db.records.SameTables (db.raiseAlert jobId txHash fails).records := by
  unfold Database.raiseAlert Database.insertAlert
  split
  · exact ⟨rfl, rfl, rfl⟩
  · split <;> exact ⟨rfl, rfl, rfl⟩

variable {records : Records} {jobId32 : Hash}

theorem unsettledEvent_eq_some (found : records.unsettledEvent keccak256 jobId32 = some row) :
    row ∈ records.paymentEvents.rows ∧ row.isUnsettled ∧ keccak256 row.jobId = jobId32 := by
  have hashed := find?_some found
  have scanned := mem_of_mem_take (mem_of_find?_eq_some found)
  obtain ⟨stored, unsettled⟩ := mem_filter.mp scanned
  exact ⟨stored, of_decide_eq_true unsettled, of_decide_eq_true hashed⟩

theorem candidateJob_eq_some {excluded : List JobStatus} {job : Job}
    (found : records.candidateJob keccak256 excluded jobId32 = some job) :
    job ∈ records.jobs.rows ∧ keccak256 job.jobId = jobId32 := by
  have hashed := find?_some found
  have scanned := mem_of_mem_take (mem_of_find?_eq_some found)
  exact ⟨(mem_filter.mp scanned).1, of_decide_eq_true hashed⟩

theorem handleLog_keeps (db : Database) (log : Log Hash) (met : Circumstances) :
    db.records.Keeps (handleLog keccak256 db log met).1.records := by
  have refl := Records.Keeps.refl db.records
  unfold handleLog
  cases log.event with
  | cancelled jobId32 renter amount | other =>
    exact refl
  | claimed jobId32 provider providerAmount feeAmount =>
    dsimp only
    unfold handleClaimed
    split
    · exact refl
    · split
      · exact refl.of_same (sameTables_claimRequests _ _ _ _)
      · rename_i row found
        obtain ⟨stored, unsettled, _⟩ := unsettledEvent_eq_some keccak256 found
        split
        · exact refl
        · exact (keeps_settleEvent stored unsettled.1 _ _).of_same
            (sameTables_claimRequests _ _ _ _)
  | paymentReleased jobId32 provider amount =>
    dsimp only
    unfold handlePaymentReleased
    split
    · exact refl
    · split
      · exact refl.of_same (sameTables_requestRelease _ _ _ _ _ _ _)
      · split
        · exact refl
        · exact (keeps_setJob db _ _).of_same (sameTables_requestRelease _ _ _ _ _ _ _)
  | disputeRaised jobId32 renter =>
    dsimp only
    unfold handleDisputeRaised
    split
    · exact refl
    · split
      · exact refl.of_same (sameTables_raiseAlert _ _ _ _)
      · split
        · exact refl
        · exact (keeps_setJob db _ _).of_same (sameTables_raiseAlert _ _ _ _)

end Handlers

end DcpPlatform.EscrowListener
