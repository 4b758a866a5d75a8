import DcpPlatform.Foundation.Outcome
import DcpPlatform.Keys.Service

/-!
# A scoped key carries its own authority

The dashboard's resolver overlooks the expiry, a role of the organisation
opens the second interface to a key without the admin scope, and the device
login mints a key for every key that may run inference.
-/

namespace DcpPlatform.Keys

open Foundation Option

variable {store start after : Store} {now : Nat} {row : ScopedKey} {auth : AuthContext}

inductive Surface where
  | renter | dashboard | inference

/-- Whether a surface takes a key for valid. -/
def Accepts (store : Store) (now : Nat) (key : ApiKey) : Surface → Prop
  | .renter => (store.getRenterAuthContext now key).isSome = true
  | .dashboard => (store.resolveRenterIdByKey key).isSome = true
  | .inference =>
    store.requireAuth now key ≠ .error .invalidKey ∧ store.requireAuth now key ≠ .error .keyExpired

def Live (store : Store) (now : Nat) (row : ScopedKey) : Prop :=
  row.revokedAt = none ∧ store.isActive row.renterId = true ∧ ∀ expiry ∈ row.expiresAt, now < expiry

def Overlooks (now : Nat) (row : ScopedKey) : Surface → Prop
  | .renter => False
  | .dashboard => ∃ expiry ∈ row.expiresAt, expiry ≤ now
  | .inference => row.expiresAt = some now

def Holds (row : ScopedKey) : Operation → Prop
  | .read allowed => "admin" ∈ row.scopes ∨ ∃ scope ∈ row.scopes, scope ∈ allowed
  | .infer => "inference" ∈ row.scopes ∨ "admin" ∈ row.scopes
  | _ => "admin" ∈ row.scopes

/-- The client knows its first key only, no key has changed, and what it was
allowed its scopes cover. -/
structure OwnAuthority (start : Store) (row : ScopedKey) (client : Client) : Prop where
  keys : client.store.keys = start.keys
  held : client.held = [row.key]
  allowed : ∀ request ∈ client.allowed, Holds row request.operation

/-- A role that opens the second interface comes with the admin scope, and a
key that approves a device has it. -/
def RoleInScopes (client : Client) (request : Request) : Prop :=
  match request.operation with
  | .createDcpKey .. | .revokeDcpKey .. =>
    ∀ row ∈ client.store.keys.lookup request.key,
      row.orgRole.rank ≤ OrgRole.admin.rank → "admin" ∈ row.scopes
  | .approveDevice .. => ∀ row ∈ client.store.keys.lookup request.key, "admin" ∈ row.scopes
  | _ => True

instance (client : Client) : DecidablePred (RoleInScopes client) := by
  intro request
  unfold RoleInScopes
  split
  · exact inferInstanceAs (Decidable (∀ _ ∈ _, _ → _))
  · exact inferInstanceAs (Decidable (∀ _ ∈ _, _ → _))
  · exact inferInstanceAs (Decidable (∀ _ ∈ _, _))
  · exact instDecidableTrue

@[simp]
theorem masterRenter_scoped (store : Store) (row : ScopedKey) :
    store.masterRenter row.key = none := by
  simp [Store.masterRenter, ScopedKey.key]

variable (stored : store.keys.lookup row.key = some row)

include stored

theorem unrevokedKey_of_stored :
    store.unrevokedKey row.key =
      if row.revokedAt = none ∧ store.isActive row.renterId = true then some row else none := by
  simp [Store.unrevokedKey, stored, filter_some]

theorem accepts_iff_live_iff (surface : Surface) :
    (Accepts store now row.key surface ↔ Live store now row) ↔
      (row.revokedAt = none → store.isActive row.renterId = true →
        ¬ Overlooks now row surface) := by
  have found := unrevokedKey_of_stored stored
  by_cases current : row.revokedAt = none ∧ store.isActive row.renterId = true
  · obtain ⟨unrevoked, active⟩ := current
    rw [if_pos ⟨unrevoked, active⟩] at found
    cases surface with
    | renter =>
      cases expiry : row.expiresAt with
      | none | some time => simp [Accepts, Live, Overlooks, Store.getRenterAuthContext, *]
    | dashboard =>
      cases expiry : row.expiresAt with
      | none | some time => simp [Accepts, Live, Overlooks, Store.resolveRenterIdByKey, *]
    | inference =>
      have known :
          Accepts store now row.key .inference ↔ ∀ expiry ∈ row.expiresAt, now ≤ expiry := by
        simp only [Accepts, Store.requireAuth, found]
        cases expiry : row.expiresAt with
        | none => simp; split <;> simp
        | some time =>
          by_cases late : time < now
          · simp [Nat.not_le_of_lt late]
          · simp [late, Nat.le_of_not_lt late]
            split <;> simp
      rw [known]
      cases expiry : row.expiresAt with
      | none => simp [Live, Overlooks, *]
      | some time =>
        simp only [Live, Overlooks, unrevoked, active, expiry, mem_def,
          some.injEq, forall_eq', true_and, true_implies]
        omega
  · rw [if_neg current] at found
    have dead : ¬ Live store now row := fun live => current ⟨live.1, live.2.1⟩
    have refused : ¬ Accepts store now row.key surface := by
      cases surface with
      | renter => simp [Accepts, Store.getRenterAuthContext, found]
      | dashboard => simp [Accepts, Store.resolveRenterIdByKey, found]
      | inference => simp [Accepts, Store.requireAuth, found]
    refine iff_of_true (iff_of_false refused dead) ?_
    intro unrevoked active
    exact absurd ⟨unrevoked, active⟩ current

theorem context_of_stored (resolved : store.getRenterAuthContext now row.key = some auth) :
    auth = ⟨row.renterId, some row.id, row.orgRole, row.scopes⟩ := by
  rw [Store.getRenterAuthContext, masterRenter_scoped, unrevokedKey_of_stored stored] at resolved
  obtain ⟨other, found, rfl⟩ := map_eq_some_iff.mp resolved
  have kept := (filter_eq_some_iff.mp found).1
  obtain ⟨_, rfl⟩ := of_ite_eq_some kept
  rfl

theorem admin_of_requireAdminScope
    (passed : requireAdminScope store now row.key = .ok auth) : "admin" ∈ row.scopes := by
  simp only [requireAdminScope] at passed
  split at passed
  · cases passed
  · rename_i context resolved
    have same := context_of_stored stored resolved
    split at passed
    · cases passed
    · rename_i admitted
      subst same
      simpa using admitted

theorem role_of_requireRenterRole {minRole : OrgRole} {paramId : Nat}
    (passed : requireRenterRole minRole store now row.key paramId = .ok auth) :
    row.orgRole.rank ≤ minRole.rank := by
  simp only [requireRenterRole] at passed
  split at passed
  · cases passed
  · rename_i context resolved
    have same := context_of_stored stored resolved
    split at passed
    · cases passed
    · split at passed
      · cases passed
      · rename_i admitted
        subst same
        exact Nat.le_of_not_lt admitted

theorem scope_of_requireAuth {renterId : Nat}
    (passed : store.requireAuth now row.key = .ok renterId) :
    "inference" ∈ row.scopes ∨ "admin" ∈ row.scopes := by
  rw [Store.requireAuth, unrevokedKey_of_stored stored] at passed
  by_cases current : row.revokedAt = none ∧ store.isActive row.renterId = true
  · simp only [if_pos current] at passed
    split at passed
    · cases passed
    · split at passed
      · cases passed
      · rename_i missing
        by_contra neither
        exact missing (not_or.mp neither)
  · simp [if_neg current] at passed

omit stored

theorem holds_of_perform {request : Request} {client : Client} (here : client.store = store)
    (stored : store.keys.lookup request.key = some row) (same : request.key = row.key)
    (inScopes : RoleInScopes client request) (allowed : perform store request = .ok after) :
    Holds row request.operation ∧
      ("admin" ∈ row.scopes ∨ after.keys = store.keys ∧ request.operation.shows = []) := by
  obtain ⟨now, key, operation⟩ := request
  subst same here
  simp only [perform] at allowed
  cases operation with
  | read scopes =>
    dsimp only at allowed
    split at allowed
    · cases allowed
    · rename_i context resolved
      have known := context_of_stored stored resolved
      split at allowed
      · rename_i readable
        subst known
        cases allowed
        have covered : "admin" ∈ row.scopes ∨ ∃ scope ∈ row.scopes, scope ∈ scopes := by
          simpa [hasReadScope] using readable
        exact ⟨covered, Or.inr ⟨rfl, rfl⟩⟩
      · cases allowed
  | infer =>
    cases passed : client.store.requireAuth now row.key with
    | error refusal => simp [passed, Except.map] at allowed
    | ok renterId =>
      simp only [passed, Except.map, Except.ok.injEq] at allowed
      subst allowed
      exact ⟨scope_of_requireAuth stored passed, Or.inr ⟨rfl, rfl⟩⟩
  | createKey scopes orgRole expiresAt cap minted | setBudget keyId cap | revokeKey keyId =>
    obtain ⟨auth, passed, _⟩ := bind_eq_ok_iff.mp allowed
    have admin := admin_of_requireAdminScope stored passed
    exact ⟨admin, Or.inl admin⟩
  | createDcpKey paramId permissions orgRole minted | revokeDcpKey paramId keyId =>
    obtain ⟨auth, passed, _⟩ := bind_eq_ok_iff.mp allowed
    have admin := inScopes row stored (role_of_requireRenterRole stored passed)
    exact ⟨admin, Or.inl admin⟩
  | approveDevice userCode minted =>
    have admin := inScopes row stored
    exact ⟨admin, Or.inl admin⟩

theorem ownAuthority_next {client later : Client} {request : Request}
    (stored : start.keys.lookup row.key = some row) (limited : "admin" ∉ row.scopes)
    (own : OwnAuthority start row client) (inScopes : RoleInScopes client request)
    (fires : Fires next client request later) : OwnAuthority start row later := by
  simp only [Fires, next] at fires
  split at fires
  · rename_i known
    have same : request.key = row.key := by simpa [own.held] using known
    split at fires
    · obtain rfl := some.inj fires
      exact own
    · rename_i changed allowed
      obtain rfl := some.inj fires
      have here : client.store.keys.lookup request.key = some row := by rw [own.keys, same, stored]
      obtain ⟨holds, admin | ⟨keys, shows⟩⟩ := holds_of_perform rfl here same inScopes allowed
      · exact absurd admin limited
      · refine ⟨keys.trans own.keys, by simp [shows, own.held], ?_⟩
        intro other member
        rcases List.mem_cons.mp member with rfl | earlier
        · exact holds
        · exact own.allowed other earlier
  · cases fires

def sampleKey : ScopedKey where
  id := "k1"
  dcp := false
  secret := "1"
  renterId := 1
  scopes := ["billing"]
  orgRole := .admin
  monthlySpendCapHalala := 500
  expiresAt := some 10
  revokedAt := none

def sampleStore : Store where
  renters := Table.empty.insert ⟨1, "m", true⟩ rfl
  keys := Table.empty.insert sampleKey rfl
  deviceCodes := Table.empty

end DcpPlatform.Keys
