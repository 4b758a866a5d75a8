import DcpPlatform.SignIn.Otp

/-!
# Renter accounts

An account is staged by a registration and activated by the first sign-in with
a link, or created active. Every route runs without an interruption between
its reads and its writes, apart from the mail. Emails are what
`normalizeEmail` returns.
-/

namespace DcpPlatform.SignUp

open Foundation
open SignIn (Role Mail OtpRow)

inductive RenterStatus where
  | pending | active | suspended | deleted
  deriving DecidableEq

inductive RenterKey where
  | placeholder (secret : String)
  | renter (secret : String)
  | tombstone (secret : String)
  deriving DecidableEq

def looksLikeRenterKey : RenterKey → Bool
  | .renter _ => true
  | _ => false

structure Renter where
  id : Nat
  email : String
  status : RenterStatus
  apiKey : RenterKey
  balanceHalala : Int

structure Provider where
  id : Nat
  email : String
  deleted : Bool

structure Grant where
  email : String
  renterId : Nat
  amountHalala : Int

structure Rotation where
  renterId : Nat
  rotatedAt : Nat

structure Accounts where
  otp : SignIn.Database
  renters : Table Renter Renter.id
  providers : Table Provider Provider.id
  rotations : List Rotation
  grants : List Grant
  erased : List String

/-- What lies outside: the list of disposable domains, the digest of an email
and the time zone. -/
structure Settings where
  isDisposableEmail : String → Bool
  digest : String → String
  localOffset : Nat → Int

/-- The number and the random text of a new row. -/
structure Fresh where
  id : Nat
  secret : String

structure Credential where
  code : String
  magicToken : String
  mail : Mail

/-- A user of the mirror, as its fields are read. -/
structure SupabaseUser where
  email : String
  apiKey : Option RenterKey
  status : RenterStatus
  balanceHalala : Nat

def renterStarterBalanceHalala : Int := 10000

def agentTrialHalala : Int := 2000

def maxRotationsPerWindow : Nat := 3

def rotationWindowMs : Nat := 24 * 60 * 60 * 1000

def hashedDeletedEmail (settings : Settings) (email : String) : String :=
  "deleted_" ++ settings.digest email ++ "@deleted.dcp.sa"

def Renter.activated (secret : String) (row : Renter) : Renter :=
  { row with
    apiKey := .renter secret
    status := .active
    balanceHalala := row.balanceHalala + renterStarterBalanceHalala }

def Renter.rotated (secret : String) (row : Renter) : Renter :=
  { row with apiKey := .renter secret }

def Renter.anonymized (email secret : String) (row : Renter) : Renter :=
  { row with email, status := .deleted, apiKey := .tombstone secret }

section Writes

variable (email secret : String) (row : Renter)

theorem Renter.activated_id : (row.activated secret).id = row.id := rfl

theorem Renter.rotated_id : (row.rotated secret).id = row.id := rfl

theorem Renter.anonymized_id : (row.anonymized email secret).id = row.id := rfl

end Writes

namespace Accounts

variable (settings : Settings) (accounts : Accounts) (fresh : Fresh) (email : String)

def renterUnder : Option Renter :=
  accounts.renters.rows.find? (fun row => row.email = email)

def activeUnder : Option Renter :=
  accounts.renters.rows.find? (fun row => row.email = email ∧ row.status = .active)

def isProvider : Bool :=
  accounts.providers.rows.any (fun provider => provider.email = email)

def isLiveProvider : Bool :=
  accounts.providers.rows.any (fun provider => provider.email = email ∧ provider.deleted = false)

/-! ## Routes -/

def sendOtp (role : Role) (credential : Credential) (now : Nat) : Accounts :=
  { accounts with
    otp := (SignIn.sendOtp id accounts.otp email credential.code credential.magicToken
      (some role) credential.mail now).1 }

def insertRenter (status : RenterStatus) (apiKey : RenterKey) (balanceHalala : Int) : Accounts :=
  { accounts with
    renters := accounts.renters.insertIfNew ⟨fresh.id, email, status, apiKey, balanceHalala⟩ }

def insertGranted (amountHalala : Int) : Accounts :=
  { accounts.insertRenter fresh email .active (.renter fresh.secret) amountHalala with
    grants := ⟨email, fresh.id, amountHalala⟩ :: accounts.grants }

def register (credential : Credential) (now : Nat) : Accounts :=
  if settings.isDisposableEmail email then accounts else
  match accounts.renterUnder email with
  | some row =>
    if row.status = .active ∨ row.status = .pending then
      accounts.sendOtp email .renter credential now
    else accounts
  | none =>
    (accounts.insertRenter fresh email .pending (.placeholder fresh.secret) 0).sendOtp email
      .renter credential now

/-- The accounts after the call and the row whose key is in its answer. An
active row is returned at once, any other one after the insert has failed. -/
def agentRegister (given : Option String) (agentEmail : String) : Accounts × Option Renter :=
  if given.any settings.isDisposableEmail then (accounts, none)
  else if given.any accounts.isLiveProvider then (accounts, none)
  else
    match accounts.renterUnder (given.getD agentEmail) with
    | some row => (accounts, if given.isSome ∧ looksLikeRenterKey row.apiKey then some row else none)
    | none =>
      let email := given.getD agentEmail
      (accounts.insertGranted fresh email agentTrialHalala,
        some ⟨fresh.id, email, .active, .renter fresh.secret, agentTrialHalala⟩)

def upsertSqliteRenterFromSupabase (user : SupabaseUser) : Accounts × Renter :=
  match accounts.renterUnder user.email with
  | some row => (accounts, row)
  | none =>
    let apiKey := match user.apiKey with
      | none => .renter fresh.secret
      | some preferred =>
        if accounts.renters.rows.any (fun row => row.apiKey = preferred) then
          .renter fresh.secret
        else preferred
    (accounts.insertRenter fresh user.email user.status apiKey user.balanceHalala,
      ⟨fresh.id, user.email, user.status, apiKey, user.balanceHalala⟩)

def verifyOtp (token : Option String) (now : Nat) (user : Option SupabaseUser) :
    Accounts × Option Renter :=
  let (otp, verified) := SignIn.verifyOtp id accounts.otp email token now
  let marked := { accounts with otp }
  match verified with
  | .error _ => (marked, none)
  | .ok _ =>
    match accounts.activeUnder email with
    | some row => (marked, some row)
    | none =>
      match user with
      | none => (marked, none)
      | some user =>
        let (upserted, row) := marked.upsertSqliteRenterFromSupabase fresh user
        (upserted, if row.status = .active then some row else none)

def finalizePendingRenter : Accounts × Option Renter :=
  match accounts.renterUnder email with
  | none => (accounts, none)
  | some row =>
    if row.status = .pending then
      ({ accounts with
        renters := accounts.renters.update row.id (Renter.activated fresh.secret)
          (Renter.activated_id fresh.secret)
        grants := ⟨email, row.id, renterStarterBalanceHalala⟩ :: accounts.grants },
        some (row.activated fresh.secret))
    else (accounts, some row)

def createActiveRenterFromMagicLink : Accounts × Option Renter :=
  match accounts.renterUnder email with
  | some row => (accounts, some row)
  | none =>
    (accounts.insertGranted fresh email renterStarterBalanceHalala,
      some ⟨fresh.id, email, .active, .renter fresh.secret, renterStarterBalanceHalala⟩)

def finalizePendingProvider (providerId : Nat) : Accounts :=
  { accounts with providers := accounts.providers.insertIfNew ⟨providerId, email, false⟩ }

/-- A provider's own key may be shown in place of the renter's. -/
def magicLink (token : Option String) (clientPrefer : Option Role) (providerId now : Nat) :
    Accounts × Option Renter :=
  let (otp, verified) := SignIn.verifyMagicToken settings.localOffset accounts.otp token now
  let marked := { accounts with otp }
  match verified with
  | .error _ => (marked, none)
  | .ok { row, .. } =>
    let email := row.email
    let prefer := (row.requestedRole <|> clientPrefer).getD .provider
    let isProvider := accounts.isProvider email
    let (finalized, found) := marked.finalizePendingRenter fresh email
    match found.filter (fun row => row.status = .active) with
    | some renter =>
      (finalized, if prefer = .provider ∧ isProvider = true then none else some renter)
    | none =>
      if isProvider = true then (finalized, none)
      else if prefer = .provider then (finalized.finalizePendingProvider email providerId, none)
      else finalized.createActiveRenterFromMagicLink fresh email

def isRotationRateLimited (renterId now : Nat) : Bool :=
  maxRotationsPerWindow ≤ (accounts.rotations.filter (fun rotation =>
    rotation.renterId = renterId ∧ now ≤ rotation.rotatedAt + rotationWindowMs)).length

def rotateKey (key : RenterKey) (now : Nat) : Accounts × Option Renter :=
  match accounts.renters.rows.find? (fun row => row.apiKey = key ∧ row.status = .active) with
  | none => (accounts, none)
  | some row =>
    if accounts.isRotationRateLimited row.id now then (accounts, none) else
    ({ accounts with
      renters := accounts.renters.update row.id (Renter.rotated fresh.secret)
        (Renter.rotated_id fresh.secret)
      rotations := ⟨row.id, now⟩ :: accounts.rotations },
      some (row.rotated fresh.secret))

def deleteMe (key : RenterKey) : Accounts :=
  match accounts.renters.rows.find? (fun row => row.apiKey = key) with
  | none => accounts
  | some row =>
    let anonymous := hashedDeletedEmail settings row.email
    if row.status = .deleted ∨ accounts.renterUnder anonymous ≠ none then accounts else
    { accounts with
      renters := accounts.renters.update row.id (Renter.anonymized anonymous fresh.secret)
        (Renter.anonymized_id anonymous fresh.secret)
      erased := row.email :: accounts.erased }

end Accounts

inductive Action where
  | register (email : String) (credential : Credential) (now : Nat)
  | agentRegister (given : Option String) (agentEmail : String)
  | sendOtp (email : String) (role : Role) (credential : Credential) (now : Nat)
  | verifyOtp (email : String) (token : Option String) (now : Nat) (user : Option SupabaseUser)
  | magicLink (token : Option String) (clientPrefer : Option Role) (providerId now : Nat)
  | rotateKey (key : RenterKey) (now : Nat)
  | deleteMe (key : RenterKey)

/-- The accounts after a request, and the renter whose key its answer shows. -/
def respond (settings : Settings) (accounts : Accounts) (fresh : Fresh) :
    Action → Accounts × Option Renter
  | .register email credential now =>
    (accounts.register settings fresh email credential now, none)
  | .agentRegister given agentEmail => accounts.agentRegister settings fresh given agentEmail
  | .sendOtp email role credential now => (accounts.sendOtp email role credential now, none)
  | .verifyOtp email token now user => accounts.verifyOtp fresh email token now user
  | .magicLink token clientPrefer providerId now =>
    accounts.magicLink settings fresh token clientPrefer providerId now
  | .rotateKey key now => accounts.rotateKey fresh key now
  | .deleteMe key => (accounts.deleteMe settings fresh key, none)

/-- New rows get numbers that are not in use. -/
def next (settings : Settings) (accounts : Accounts) (request : Fresh × Action) :
    Option Accounts :=
  if accounts.renters.lookup request.1.id = none then
    some (respond settings accounts request.1 request.2).1
  else none

def Accounts.opening (otp : SignIn.Database) (providers : Table Provider Provider.id) : Accounts where
  otp := otp
  renters := Table.empty
  providers := providers
  rotations := []
  grants := []
  erased := []

def testSettings : Settings where
  isDisposableEmail := fun _ => false
  digest := fun email => email
  localOffset := fun _ => 0

end DcpPlatform.SignUp
