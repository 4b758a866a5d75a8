import Mathlib.Data.Rat.Floor
import DcpPlatform.Foundation.Table
import DcpPlatform.Foundation.Transition

/-!
# Scoped keys

A renter has one key of its own and any number of scoped keys, minted by two
interfaces and by the device login. A text is found in one table at most. A
list of scopes that cannot be read is empty. Labels and the audit log are left
out.
-/

namespace DcpPlatform.Keys

open Foundation

inductive ApiKey where
  | master (secret : String)
  | scoped (dcp : Bool) (secret : String)
  deriving DecidableEq

inductive OrgRole where
  | owner | admin | member | readOnly
  deriving DecidableEq

def OrgRole.rank : OrgRole → Nat
  | .owner => 0
  | .admin => 1
  | .member => 2
  | .readOnly => 3

structure Renter where
  id : Nat
  apiKey : String
  active : Bool

structure ScopedKey where
  id : String
  dcp : Bool
  secret : String
  renterId : Nat
  scopes : List String
  orgRole : OrgRole
  monthlySpendCapHalala : Nat
  expiresAt : Option Nat
  revokedAt : Option Nat
  deriving DecidableEq

def ScopedKey.key (row : ScopedKey) : ApiKey :=
  .scoped row.dcp row.secret

structure DeviceCode where
  userCode : String
  approved : Bool
  expiresAt : Nat

structure Store where
  renters : Table Renter Renter.id
  keys : Table ScopedKey ScopedKey.key
  deviceCodes : Table DeviceCode DeviceCode.userCode

structure AuthContext where
  renterId : Nat
  scopedKey : Option String
  role : OrgRole
  scopes : List String

inductive Refusal where
  | invalidKey | keyExpired | scopeMissing | forbidden | badRequest | notFound | tooMany

def inferRoleFromScopes (scopes : List String) : OrgRole :=
  if "admin" ∈ scopes then .admin
  else if scopes ≠ [] ∧ ∀ scope ∈ scopes, scope ∈ ["billing", "balance.read", "jobs.read"] then
    .readOnly
  else .member

namespace Store

variable (store : Store) (now : Nat) (key : ApiKey)

def isActive (renterId : Nat) : Bool :=
  (store.renters.lookup renterId).any Renter.active

def masterRenter : Option Renter :=
  store.renters.rows.find? (fun renter => key = .master renter.apiKey ∧ renter.active = true)

def unrevokedKey : Option ScopedKey :=
  (store.keys.lookup key).filter (fun row => row.revokedAt.isNone && store.isActive row.renterId)

def getRenterAuthContext : Option AuthContext :=
  match store.masterRenter key with
  | some renter => some ⟨renter.id, none, .owner, ["admin"]⟩
  | none => ((store.unrevokedKey key).filter (fun row => row.expiresAt.all (now < ·))).map
      (fun row => ⟨row.renterId, some row.id, row.orgRole, row.scopes⟩)

def resolveRenterIdByKey : Option Nat :=
  match store.masterRenter key with
  | some renter => some renter.id
  | none => (store.unrevokedKey key).map ScopedKey.renterId

def requireAuth : Except Refusal Nat :=
  match store.unrevokedKey key with
  | some row =>
    if row.expiresAt.any (· < now) then .error .keyExpired
    else if "inference" ∉ row.scopes ∧ "admin" ∉ row.scopes then .error .scopeMissing
    else .ok row.renterId
  | none => ((store.masterRenter key).map Renter.id).elim (.error .invalidKey) .ok

end Store

def hasReadScope (auth : AuthContext) (allowed : List String) : Bool :=
  auth.scopedKey.isNone || auth.scopes.contains "admin" || auth.scopes.any allowed.contains

def requireRenterRole (minRole : OrgRole) (store : Store) (now : Nat) (key : ApiKey)
    (paramId : Nat) : Except Refusal AuthContext :=
  match store.getRenterAuthContext now key with
  | none => .error .invalidKey
  | some auth =>
    if auth.renterId ≠ paramId then .error .forbidden
    else if minRole.rank < auth.role.rank then .error .forbidden
    else .ok auth

/-- The guard of the interface under `/me`. -/
def requireAdminScope (store : Store) (now : Nat) (key : ApiKey) : Except Refusal AuthContext :=
  match store.getRenterAuthContext now key with
  | none => .error .invalidKey
  | some auth =>
    if auth.scopedKey.isSome ∧ "admin" ∉ auth.scopes then .error .forbidden else .ok auth

/-! ## Key management -/

def validKeyScopes : List String := ["inference", "billing", "admin", "compute"]

def renterKeyPermissions : List String := ["inference", "jobs.read", "balance.read"]

def maxScopedKeysPerRenter : Nat := 20

def maxDcpKeysPerRenter : Nat := 20

def maxMonthlySpendCapHalala : ℕ := 100000000

structure CapInput where
  halala : Option ℚ
  sar : Option ℚ

def normalizeMonthlySpendCapInput (body : CapInput) (required : Bool) : Except Refusal Nat :=
  match body.halala <|> body.sar.map (fun sar => (⌊sar * 100 + 1 / 2⌋ : ℚ)) with
  | none => if required then .error .badRequest else .ok 0
  | some cap =>
    if cap < 0 ∨ cap.den ≠ 1 then .error .badRequest
    else if (maxMonthlySpendCapHalala : ℚ) < cap then .error .badRequest
    else .ok cap.num.toNat

structure Minted where
  id : String
  secret : String

namespace Store

variable (store : Store) (now : Nat) (key : ApiKey) (keyId : String)

def activeKeys (renterId : Nat) (counted : ScopedKey → Bool) : Nat :=
  (store.keys.rows.filter (fun row =>
    row.renterId = renterId ∧ row.revokedAt = none ∧ counted row = true)).length

def rewriteKey (renterId : Nat) (counted : ScopedKey → Bool) (change : ScopedKey → ScopedKey)
    (keeps : ∀ row, (change row).key = row.key) : Except Refusal Store :=
  let meets row :=
    row.id = keyId ∧ row.renterId = renterId ∧ row.revokedAt = none ∧ counted row = true
  if store.keys.rows.any (fun row => meets row) then
    .ok { store with
      keys := store.keys.updateAll (fun row => if meets row then change row else row)
        (fun row => by split <;> simp [keeps]) }
  else .error .notFound

def createKey (rawScopes : Option (List String)) (orgRole : Option OrgRole)
    (expiresAt : Option Nat) (cap : CapInput) (minted : Minted) : Except Refusal Store := do
  let auth ← requireAdminScope store now key
  let scopes := match rawScopes with
    | none => ["inference"]
    | some raw => raw.filter validKeyScopes.contains
  if scopes = [] then .error .badRequest else
  let capHalala ← normalizeMonthlySpendCapInput cap false
  if maxScopedKeysPerRenter ≤ store.activeKeys auth.renterId (fun _ => true) then
    .error .tooMany
  else .ok { store with
    keys := store.keys.insertIfNew
      { id := minted.id
        dcp := false
        secret := minted.secret
        renterId := auth.renterId
        scopes := scopes
        orgRole := orgRole.getD (inferRoleFromScopes scopes)
        monthlySpendCapHalala := capHalala
        expiresAt := expiresAt
        revokedAt := none } }

def setBudget (cap : CapInput) : Except Refusal Store := do
  let auth ← requireAdminScope store now key
  let capHalala ← normalizeMonthlySpendCapInput cap true
  store.rewriteKey keyId auth.renterId (fun _ => true)
    (fun row => { row with monthlySpendCapHalala := capHalala }) (fun _ => rfl)

def revokeKey : Except Refusal Store := do
  let auth ← requireAdminScope store now key
  store.rewriteKey keyId auth.renterId (fun _ => true)
    (fun row => { row with revokedAt := some now }) (fun _ => rfl)

def createDcpKey (paramId : Nat) (rawPermissions : Option (List String))
    (orgRole : Option OrgRole) (minted : Minted) : Except Refusal Store := do
  let auth ← requireRenterRole .admin store now key paramId
  let permissions := match rawPermissions with
    | none => ["inference"]
    | some raw => raw.filter renterKeyPermissions.contains
  if permissions = [] then .error .badRequest
  else if maxDcpKeysPerRenter ≤ store.activeKeys auth.renterId ScopedKey.dcp then
    .error .tooMany
  else .ok { store with
    keys := store.keys.insertIfNew
      { id := minted.id
        dcp := true
        secret := minted.secret
        renterId := auth.renterId
        scopes := permissions
        orgRole := orgRole.getD (inferRoleFromScopes permissions)
        monthlySpendCapHalala := 0
        expiresAt := none
        revokedAt := none } }

def revokeDcpKey (paramId : Nat) : Except Refusal Store := do
  let auth ← requireRenterRole .admin store now key paramId
  store.rewriteKey keyId auth.renterId ScopedKey.dcp
    (fun row => { row with revokedAt := some now }) (fun _ => rfl)

def approveDevice (userCode : String) (minted : Minted) : Except Refusal Store := do
  let renterId ← store.requireAuth now key
  match store.deviceCodes.lookup userCode with
  | none => .error .badRequest
  | some code =>
    if code.approved = true ∨ code.expiresAt < now then .error .badRequest
    else .ok { store with
      keys := store.keys.insertIfNew
        { id := minted.id
          dcp := false
          secret := minted.secret
          renterId := renterId
          scopes := ["inference"]
          orgRole := .member
          monthlySpendCapHalala := 0
          expiresAt := none
          revokedAt := none }
      deviceCodes := store.deviceCodes.update userCode
        (fun row => { row with approved := true }) (fun _ => rfl) }

end Store

inductive Operation where
  | read (allowed : List String)
  | infer
  | createKey (scopes : Option (List String)) (orgRole : Option OrgRole)
      (expiresAt : Option Nat) (cap : CapInput) (minted : Minted)
  | setBudget (keyId : String) (cap : CapInput)
  | revokeKey (keyId : String)
  | createDcpKey (paramId : Nat) (permissions : Option (List String))
      (orgRole : Option OrgRole) (minted : Minted)
  | revokeDcpKey (paramId : Nat) (keyId : String)
  | approveDevice (userCode : String) (minted : Minted)

structure Request where
  now : Nat
  key : ApiKey
  operation : Operation

def perform (store : Store) (request : Request) : Except Refusal Store :=
  let { now, key, operation } := request
  match operation with
  | .read allowed =>
    match store.getRenterAuthContext now key with
    | none => .error .invalidKey
    | some auth => if hasReadScope auth allowed then .ok store else .error .forbidden
  | .infer => (store.requireAuth now key).map (fun _ => store)
  | .createKey scopes orgRole expiresAt cap minted =>
    store.createKey now key scopes orgRole expiresAt cap minted
  | .setBudget keyId cap => store.setBudget now key keyId cap
  | .revokeKey keyId => store.revokeKey now key keyId
  | .createDcpKey paramId permissions orgRole minted =>
    store.createDcpKey now key paramId permissions orgRole minted
  | .revokeDcpKey paramId keyId => store.revokeDcpKey now key keyId paramId
  | .approveDevice userCode minted => store.approveDevice now key userCode minted

def Operation.shows : Operation → List ApiKey
  | .createKey _ _ _ _ minted => [.scoped false minted.secret]
  | .createDcpKey _ _ _ minted => [.scoped true minted.secret]
  | .approveDevice _ minted => [.scoped false minted.secret]
  | _ => []

structure Client where
  store : Store
  held : List ApiKey
  allowed : List Request

/-- A client sends a request with a key that it knows. -/
def next (client : Client) (request : Request) : Option Client :=
  if request.key ∈ client.held then
    match perform client.store request with
    | .error _ => some client
    | .ok store => some ⟨store, request.operation.shows ++ client.held, request :: client.allowed⟩
  else none

end DcpPlatform.Keys
