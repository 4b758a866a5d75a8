import DcpPlatform.Foundation.Transition
import DcpPlatform.Payouts.Service

/-!
# Interleavings of payout operations

An action is one uninterrupted piece of an operation or an event at the
gateway. A create call that failed has disbursed nothing, an accepted one the
requested amount, and a fetched failure status means that the disbursement has
failed.
-/

namespace DcpPlatform.Payouts

open Foundation

structure Disbursement where
  id : DisbursementId
  payoutRequestId : PayoutId
  amountHalala : Int
  failed : Bool

/-- A suspended `createPayout` call and the disbursement it has led to. -/
structure CreateCall where
  request : CreatePayout
  accepted : Option DisbursementId

structure FetchCall where
  row : PayoutRequest
  disbursement : DisbursementId

structure System where
  db : Database
  creating : List CreateCall
  fetching : List FetchCall
  disbursements : Table Disbursement Disbursement.id
  earned : ProviderId → Int
  returned : List PayoutId

inductive Action where
  | requestPayout (id : PayoutId) (now : Timestamp) (providerId : ProviderId) (amountUsd : Option ℚ)
  | markPayoutPaid (id : PayoutId) (now : Timestamp) (paymentRef : Option String)
  | rejectPayout (id : PayoutId) (now : Timestamp) (reason : Option String)
  | processPayout (id : PayoutId) (now : Timestamp)
  | gatewayAccepts (call : Nat) (disbursement : DisbursementId)
  | createReturns (call : Nat) (response : MoyasarPayout)
  | createFails (call : Nat)
  | syncPayout (id : PayoutId)
  | fetchReturns (call : Nat) (now : Timestamp) (response : MoyasarPayout)
  | fetchFails (call : Nat)
  | disbursementFails (id : DisbursementId)
  | earn (providerId : ProviderId) (amount : Nat)

namespace System

/-- No requests, no calls under way, nothing disbursed; what a provider can
claim is what it has earned. -/
structure Initial (system : System) : Prop where
  noRequests : system.db.payoutRequests = Table.empty
  noCreating : system.creating = []
  noFetching : system.fetching = []
  noDisbursements : system.disbursements = Table.empty
  noneReturned : system.returned = []
  claimable : ∀ providerId provider, system.db.providers providerId = some provider →
    0 ≤ provider.claimableEarningsHalala ∧
      system.earned providerId = provider.claimableEarningsHalala
  noProvider : ∀ providerId, system.db.providers providerId = none → system.earned providerId = 0

def hasFailed (system : System) (id : DisbursementId) : Prop :=
  ∃ disbursement, system.disbursements.lookup id = some disbursement ∧ disbursement.failed = true

instance (system : System) (id : DisbursementId) :
    Decidable (system.hasFailed id) :=
  match found : system.disbursements.lookup id with
  | none => isFalse (by simp [hasFailed, found])
  | some disbursement =>
    decidable_of_iff (disbursement.failed = true) (by simp [hasFailed, found])

end System

def onSuccess {Value : Type} (system : System)
    (outcome : Except PayoutError Value) (after : Value → System) :
    System :=
  match outcome with
  | .ok value => after value
  | .error _ => system

def returnsHold (result : SyncResult) : Prop :=
  result.transitioned ∧ result.status = some .rejected
deriving Decidable

def System.finishCreate (system : System) (call : Nat) : System :=
  { system with creating := system.creating.eraseIdx call }

def System.finishFetch (system : System) (call : Nat) : System :=
  { system with fetching := system.fetching.eraseIdx call }

/-- The system after an action; `none` when the action cannot happen. -/
def next (system : System) : Action → Option System
  | .requestPayout id now providerId amountUsd =>
    -- request ids are fresh random ids
    if system.db.payoutRequests.lookup id = none then
      some (onSuccess system (requestPayout system.db id now providerId amountUsd)
        (fun (db, _) => { system with db := db }))
    else
      none
  | .markPayoutPaid id now paymentRef =>
    some (onSuccess system (markPayoutPaid system.db id now paymentRef)
      (fun (db, _) => { system with db := db }))
  | .rejectPayout id now reason =>
    some (onSuccess system (rejectPayout system.db id now reason) (fun (db, _) => { system with
      db := db
      returned := system.returned ++ [id] }))
  | .processPayout id now =>
    some (onSuccess system (processPayoutViaMoyasar system.db id now)
      (fun (db, request) => { system with
        db := db
        creating := system.creating ++ [⟨request, none⟩] }))
  | .gatewayAccepts call disbursement =>
    match system.creating[call]? with
    | some ⟨request, none⟩ =>
      if system.disbursements.lookup disbursement = none then
        some { system with
          creating := system.creating.set call ⟨request, some disbursement⟩
          disbursements := system.disbursements.insertIfNew
            ⟨disbursement, request.payoutId, request.amountHalala, false⟩ }
      else
        none
    | _ => none
  | .createReturns call response =>
    match system.creating[call]? with
    | some ⟨request, some disbursement⟩ =>
      if response.id = disbursement then
        some { system.finishCreate call with
          db := createPayoutReturned system.db request.payoutId response }
      else
        none
    | _ => none
  | .createFails call =>
    match system.creating[call]? with
    | some ⟨request, none⟩ =>
      some { system.finishCreate call with
        db := createPayoutFailed system.db request.payoutId }
    | _ => none
  | .syncPayout id =>
    some (onSuccess system (syncPayoutStatus system.db id) (fun start =>
      match start with
      | .settled _ => system
      | .fetching row disbursement => { system with
        fetching := system.fetching ++ [⟨row, disbursement⟩] }))
  | .fetchReturns call now response =>
    match system.fetching[call]? with
    | some ⟨row, disbursement⟩ =>
      if isTerminalFailure response.status → system.hasFailed disbursement then
        let (db, result) := fetchPayoutReturned system.db row now response
        some { system.finishFetch call with
          db := db
          returned :=
            if returnsHold result then
              system.returned ++ [row.id]
            else
              system.returned }
      else
        none
    | none => none
  | .fetchFails call =>
    match system.fetching[call]? with
    | some _ => some (system.finishFetch call)
    | none => none
  | .disbursementFails id =>
    some { system with
      disbursements := system.disbursements.update id
        (fun disbursement => { disbursement with failed := true })
        (fun _ => rfl) }
  | .earn providerId amount =>
    if (system.db.providers providerId).isSome then
      some { system with
        db := system.db.addClaimable providerId amount
        earned := fun other =>
          if other = providerId then
            system.earned other + amount
          else
            system.earned other }
    else
      none

def Action.starts : Action → Bool
  | .requestPayout _ _ _ _ | .markPayoutPaid _ _ _
  | .rejectPayout _ _ _ | .processPayout _ _ | .syncPayout _ => true
  | _ => false

inductive Outcome (system : System) : Action → System → Prop
  | idle {action : Action} :
      action.starts → Outcome system action system
  | requested {id : PayoutId} {now : Timestamp}
      {providerId : ProviderId} {amountUsd : Option ℚ} {db : Database}
      {row : PayoutRequest} :
      system.db.payoutRequests.lookup id = none →
      requestPayout system.db id now providerId amountUsd = Except.ok (db, row) →
      Outcome system (.requestPayout id now providerId amountUsd) { system with db := db }
  | markedPaid {id : PayoutId} {now : Timestamp} {paymentRef : Option String} {db : Database}
      {stored : Option PayoutRequest} :
      markPayoutPaid system.db id now paymentRef = Except.ok (db, stored) →
      Outcome system (.markPayoutPaid id now paymentRef) { system with db := db }
  | rejected {id : PayoutId} {now : Timestamp} {reason : Option String}
      {db : Database} {stored : Option PayoutRequest} :
      rejectPayout system.db id now reason = Except.ok (db, stored) →
      Outcome system (.rejectPayout id now reason) { system with
        db := db
        returned := system.returned ++ [id] }
  | claimed {id : PayoutId} {now : Timestamp} {db : Database} {request : CreatePayout} :
      processPayoutViaMoyasar system.db id now = Except.ok (db, request) →
      Outcome system (.processPayout id now) { system with
        db := db
        creating := system.creating ++ [⟨request, none⟩] }
  | accepted {call : Nat} {id : DisbursementId} {request : CreatePayout}
      (fresh : system.disbursements.lookup id = none) :
      system.creating[call]? = some ⟨request, none⟩ →
      Outcome system (.gatewayAccepts call id) { system with
        creating := system.creating.set call ⟨request, some id⟩
        disbursements := system.disbursements.insert
          ⟨id, request.payoutId, request.amountHalala, false⟩ fresh }
  | created {call : Nat} {request : CreatePayout} {response : MoyasarPayout} :
      system.creating[call]? = some ⟨request, some response.id⟩ →
      Outcome system (.createReturns call response) { system.finishCreate call with
        db := createPayoutReturned system.db request.payoutId response }
  | createFailed {call : Nat} {request : CreatePayout} :
      system.creating[call]? = some ⟨request, none⟩ →
      Outcome system (.createFails call) { system.finishCreate call with
        db := createPayoutFailed system.db request.payoutId }
  | fetching {id : PayoutId} {row : PayoutRequest} {disbursement : DisbursementId} :
      syncPayoutStatus system.db id = Except.ok (.fetching row disbursement) →
      Outcome system (.syncPayout id) { system with
        fetching := system.fetching ++ [⟨row, disbursement⟩] }
  | fetched {call : Nat} {now : Timestamp} {response : MoyasarPayout}
      {row : PayoutRequest} {disbursement : DisbursementId} :
      system.fetching[call]? = some ⟨row, disbursement⟩ →
      (isTerminalFailure response.status → system.hasFailed disbursement) →
      Outcome system (.fetchReturns call now response) { system.finishFetch call with
        db := (fetchPayoutReturned system.db row now response).1
        returned :=
          if returnsHold (fetchPayoutReturned system.db row now response).2 then
            system.returned ++ [row.id]
          else
            system.returned }
  | fetchFailed {call : Nat} :
      Outcome system (.fetchFails call) (system.finishFetch call)
  | disbursementFailed {id : DisbursementId} :
      Outcome system (.disbursementFails id) { system with
        disbursements := system.disbursements.update id
          (fun disbursement => { disbursement with failed := true })
          (fun _ => rfl) }
  | earned {providerId : ProviderId} {amount : Nat} :
      (system.db.providers providerId).isSome →
      Outcome system (.earn providerId amount) { system with
        db := system.db.addClaimable providerId amount
        earned := fun other =>
          if other = providerId then
            system.earned other + amount
          else
            system.earned other }

variable {system after : System} {action : Action}

private theorem onSuccess_outcome {Value : Type}
    {outcome : Except PayoutError Value} {continuation : Value → System}
    (starts : action.starts)
    (reached : some (onSuccess system outcome continuation) = some after)
    (successful : ∀ value, outcome = Except.ok value → Outcome system action (continuation value)) :
    Outcome system action after := by
  cases reached
  cases outcome with
  | error failure =>
    exact Outcome.idle starts
  | ok value =>
    exact successful value rfl

theorem step_outcome (step : Fires next system action after) :
    Outcome system action after := by
  cases action with
  | requestPayout id now providerId amountUsd =>
    simp only [Fires, next] at step
    split at step
    · rename_i fresh
      exact onSuccess_outcome rfl step (fun _ done => Outcome.requested fresh done)
    · cases step
  | markPayoutPaid id now paymentRef =>
    exact onSuccess_outcome rfl step (fun _ done => Outcome.markedPaid done)
  | rejectPayout id now reason =>
    exact onSuccess_outcome rfl step (fun _ done => Outcome.rejected done)
  | processPayout id now =>
    exact onSuccess_outcome rfl step (fun _ done => Outcome.claimed done)
  | gatewayAccepts call disbursement =>
    simp only [Fires, next] at step
    split at step
    · rename_i request found
      split at step
      · rename_i fresh
        rw [Table.insertIfNew_of_fresh fresh] at step
        injection step with reached
        exact reached ▸ Outcome.accepted fresh found
      · cases step
    · cases step
  | createReturns call response =>
    simp only [Fires, next] at step
    split at step
    · rename_i request disbursement found
      split at step
      · rename_i same
        subst same
        injection step with reached
        exact reached ▸ Outcome.created found
      · cases step
    · cases step
  | createFails call =>
    simp only [Fires, next] at step
    split at step
    · rename_i request found
      injection step with reached
      exact reached ▸ Outcome.createFailed found
    · cases step
  | syncPayout id =>
    refine onSuccess_outcome rfl step (fun start started => ?_)
    cases start with
    | settled result =>
      exact Outcome.idle rfl
    | fetching row disbursement =>
      exact Outcome.fetching started
  | fetchReturns call now response =>
    simp only [Fires, next] at step
    split at step
    · rename_i row disbursement found
      obtain ⟨truthful, reached⟩ := of_ite_eq_some step
      exact reached ▸ Outcome.fetched found truthful
    · cases step
  | fetchFails call =>
    simp only [Fires, next] at step
    split at step
    · injection step with reached
      exact reached ▸ Outcome.fetchFailed
    · cases step
  | disbursementFails id =>
    injection step with reached
    exact reached ▸ Outcome.disbursementFailed
  | earn providerId amount =>
    obtain ⟨known, reached⟩ := of_ite_eq_some step
    exact reached ▸ Outcome.earned known

end DcpPlatform.Payouts
