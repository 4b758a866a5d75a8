import DcpPlatform.SignIn.SingleUse
import DcpPlatform.SignUp.Accounts

/-!
# A key is shown to its proven owner

The registration of an agent answers with the key of whoever has the email,
and a verified code opens the account that the mirror finds for the email,
which is looked up as a pattern. All other answers show a key to its owner.
-/

namespace DcpPlatform.SignUp

open Foundation Option
open SignIn (OtpRow)

variable {settings : Settings} {before : Accounts} {fresh : Fresh} {action : Action}
  {email : String} {renter : Renter}

def Proven (settings : Settings) (before : Accounts) (action : Action) (renter : Renter) : Prop :=
  before.renters.lookup renter.id = none ∨
  match action with
  | .verifyOtp email token now _ => ∃ row,
    (SignIn.verifyOtp id before.otp email token now).2 = .ok row ∧ row.email = renter.email
  | .magicLink token _ _ now => ∃ verified,
    (SignIn.verifyMagicToken settings.localOffset before.otp token now).2 = .ok verified ∧
      verified.row.email = renter.email
  | .rotateKey key _ => ∃ row ∈ before.renters.lookup renter.id, row.apiKey = key
  | _ => False

/-- A key in the answer belongs to the one who asked. -/
def Discreet (settings : Settings) (before : Accounts) (request : Fresh × Action) : Prop :=
  ∀ renter ∈ (respond settings before request.1 request.2).2,
    Proven settings before request.2 renter

def IsVerified (before : Accounts) (email : String) (token : Option String) (now : Nat) : Prop :=
  match (SignIn.verifyOtp id before.otp email token now).2 with
  | .ok _ => True
  | .error _ => False

instance (before : Accounts) (email : String) (token : Option String) (now : Nat) :
    Decidable (IsVerified before email token now) := by
  unfold IsVerified
  split <;> infer_instance

/-- An agent names no email with an account that has a key, and where a code
is verified for an email without an active account, the mirror does not find
the active account of another email. -/
def NamesNoOther (settings : Settings) (before : Accounts) (request : Fresh × Action) : Prop :=
  match request.2 with
  | .agentRegister (some email) _ =>
    settings.isDisposableEmail email = false → before.isLiveProvider email = false →
      ∀ row ∈ before.renterUnder email, looksLikeRenterKey row.apiKey = false
  | .verifyOtp email token now (some user) =>
    IsVerified before email token now → before.activeUnder email = none →
      ∀ row ∈ before.renterUnder user.email, row.status = .active → user.email = email
  | _ => True

instance (settings : Settings) (before : Accounts) :
    DecidablePred (NamesNoOther settings before) := by
  intro request
  unfold NamesNoOther
  split
  · exact inferInstanceAs (Decidable (_ → _ → ∀ _ ∈ _, _))
  · exact inferInstanceAs (Decidable (_ → _ → ∀ _ ∈ _, _ → _))
  · exact instDecidableTrue

theorem email_of_renterUnder (found : before.renterUnder email = some renter) :
    renter.email = email ∧ before.renters.lookup renter.id = some renter := by
  have member := List.mem_of_find?_eq_some found
  have same := List.find?_some found
  exact ⟨by simpa using same, Table.lookup_of_mem member⟩

@[simp]
theorem renterUnder_otp (otp : SignIn.Database) :
    { before with otp }.renterUnder email = before.renterUnder email :=
  rfl

theorem email_of_verifyOtp {db : SignIn.Database} {token : Option String} {now : Nat} {row : OtpRow}
    (verified : (SignIn.verifyOtp id db email token now).2 = .ok row) : row.email = email := by
  simp only [SignIn.verifyOtp] at verified
  split at verified
  · cases verified
  · split at verified
    · cases verified
    · split at verified
      · cases verified
      · rename_i found
        have same := (SignIn.latestUnused_eq_some found).2.1
        split at verified
        · cases verified
        · split at verified
          · cases verified
          · cases verified
            exact same

theorem discreet_agentRegister_iff (unused : before.renters.lookup fresh.id = none)
    (given : Option String) (agentEmail : String) :
    Discreet settings before (fresh, .agentRegister given agentEmail) ↔
      NamesNoOther settings before (fresh, .agentRegister given agentEmail) := by
  cases given with
  | none =>
    refine iff_of_true ?_ trivial
    intro renter shown
    simp only [respond, Accounts.agentRegister] at shown
    cases found : before.renterUnder agentEmail with
    | some row => simp [found] at shown
    | none =>
      simp only [any_none, Bool.false_eq_true, if_false, getD_none, found,
        mem_def, some.injEq] at shown
      subst shown
      exact Or.inl unused
  | some email =>
    by_cases disposable : settings.isDisposableEmail email = true
    · simp [Discreet, NamesNoOther, respond, Accounts.agentRegister, disposable]
    · cases provides : before.isLiveProvider email with
      | true => simp [Discreet, NamesNoOther, respond, Accounts.agentRegister, *]
      | false =>
        cases found : before.renterUnder email with
        | none => simp [Discreet, NamesNoOther, respond, Accounts.agentRegister, Proven, *]
        | some row =>
          have known := (email_of_renterUnder found).2
          by_cases keyed : looksLikeRenterKey row.apiKey = true
          · simp [Discreet, NamesNoOther, respond, Accounts.agentRegister, Proven, *]
          · simp [Discreet, NamesNoOther, respond, Accounts.agentRegister, *]

theorem discreet_verifyOtp_iff (unused : before.renters.lookup fresh.id = none)
    (token : Option String) (now : Nat) (user : Option SupabaseUser) :
    Discreet settings before (fresh, .verifyOtp email token now user) ↔
      NamesNoOther settings before (fresh, .verifyOtp email token now user) := by
  cases outcome : SignIn.verifyOtp id before.otp email token now with
  | mk otp verified =>
  cases verified with
  | error failure =>
    refine iff_of_true ?_ ?_
    · simp [Discreet, respond, Accounts.verifyOtp, outcome]
    · cases user with
      | none => trivial
      | some user => simp [NamesNoOther, IsVerified, outcome]
  | ok row =>
    have same : row.email = email := email_of_verifyOtp (congrArg Prod.snd outcome)
    have proven (renter : Renter) (under : renter.email = email) :
        Proven settings before (.verifyOtp email token now user) renter :=
      Or.inr ⟨row, congrArg Prod.snd outcome, same.trans under.symm⟩
    have verified : IsVerified before email token now := by simp [IsVerified, outcome]
    cases active : before.activeUnder email with
    | some found =>
      have under : found.email = email ∧ found.status = .active := by
        simpa using List.find?_some active
      refine iff_of_true ?_ ?_
      · intro renter shown
        simp only [respond, Accounts.verifyOtp, outcome, active, mem_def, some.injEq] at shown
        subst shown
        exact proven _ under.1
      · cases user with
        | none => trivial
        | some user => simp [NamesNoOther, active]
    | none =>
      cases user with
      | none => simp [Discreet, NamesNoOther, respond, Accounts.verifyOtp, outcome, active]
      | some user =>
        simp only [NamesNoOther, verified, active, true_implies, mem_def]
        cases found : before.renterUnder user.email with
        | none =>
          refine iff_of_true ?_ (by simp)
          intro renter shown
          have here : renter.id = fresh.id := by
            simp only [respond, Accounts.verifyOtp, outcome, active,
              Accounts.upsertSqliteRenterFromSupabase, renterUnder_otp, found,
              mem_def] at shown
            split at shown
            · obtain rfl := some.inj shown
              rfl
            · cases shown
          exact Or.inl (by rw [here, unused])
        | some other =>
          obtain ⟨under, known⟩ := email_of_renterUnder found
          have shows : (respond settings before fresh (.verifyOtp email token now (some user))).2 =
              if other.status = .active then some other else none := by
            simp [respond, Accounts.verifyOtp, outcome, active,
              Accounts.upsertSqliteRenterFromSupabase, found]
          simp only [Discreet, shows, some.injEq, forall_eq']
          by_cases isActive : other.status = .active
          · have sole : Proven settings before
                (.verifyOtp email token now (some user)) other ↔ user.email = email := by
              simp [Proven, known, outcome, same, under, eq_comm]
            simp [sole]
          · simp [isActive]

theorem email_of_finalized {accounts : Accounts}
    (found : (accounts.finalizePendingRenter fresh email).2 = some renter) :
    renter.email = email := by
  simp only [Accounts.finalizePendingRenter] at found
  split at found
  · cases found
  · rename_i row under
    have same := (email_of_renterUnder under).1
    split at found
    · cases found
      exact same
    · cases found
      exact same

theorem discreet_magicLink (token : Option String) (clientPrefer : Option SignIn.Role)
    (providerId now : Nat) :
    Discreet settings before (fresh, .magicLink token clientPrefer providerId now) := by
  intro renter shown
  cases outcome : SignIn.verifyMagicToken settings.localOffset before.otp token now with
  | mk otp verified =>
  cases verified with
  | error failure => simp [respond, Accounts.magicLink, outcome] at shown
  | ok verified =>
    refine Or.inr ⟨verified, congrArg Prod.snd outcome, ?_⟩
    simp only [respond, Accounts.magicLink, outcome, mem_def] at shown
    split at shown
    · rename_i chosen found
      have finalized := (filter_eq_some_iff.mp found).1
      split at shown
      · cases shown
      · cases shown
        exact (email_of_finalized finalized).symm
    · split at shown
      · cases shown
      · split at shown
        · cases shown
        · simp only [Accounts.createActiveRenterFromMagicLink] at shown
          split at shown
          · rename_i row under
            cases shown
            exact (email_of_renterUnder under).1.symm
          · cases shown
            rfl

theorem discreet_rotateKey (key : RenterKey) (now : Nat) :
    Discreet settings before (fresh, .rotateKey key now) := by
  intro renter shown
  simp only [respond, Accounts.rotateKey, mem_def] at shown
  split at shown
  · cases shown
  · rename_i row found
    split at shown
    · cases shown
    · cases shown
      have matched := List.find?_some found
      exact Or.inr ⟨row, Table.lookup_of_mem (List.mem_of_find?_eq_some found),
        (of_decide_eq_true matched).1⟩

theorem discreet_iff (unused : before.renters.lookup fresh.id = none) (action : Action) :
    Discreet settings before (fresh, action) ↔ NamesNoOther settings before (fresh, action) := by
  cases action with
  | agentRegister given agentEmail => exact discreet_agentRegister_iff unused given agentEmail
  | verifyOtp email token now user => exact discreet_verifyOtp_iff unused token now user
  | magicLink token clientPrefer providerId now =>
    exact iff_of_true (discreet_magicLink token clientPrefer providerId now) trivial
  | rotateKey key now => exact iff_of_true (discreet_rotateKey key now) trivial
  | register email credential now | sendOtp email role credential now | deleteMe key =>
    simp [Discreet, NamesNoOther, respond]

/-- The runs in which every key goes to its owner are those in which nobody
names the account of another. -/
theorem key_shown_to_owner_iff (settings : Settings) (start finish : Accounts)
    (requests : List (Fresh × Action)) :
    Run (guarded (Fires (next settings)) (Discreet settings)) start requests finish ↔
      Run (guarded (Fires (next settings)) (NamesNoOther settings)) start requests finish := by
  refine Run.congr_of_invariant (fun _ => True) (fun _ _ => trivial) ?_ trivial
  intro source target request _
  refine and_congr_left ?_
  intro fires
  exact discreet_iff (of_ite_eq_some fires).1 request.2

theorem key_shown_for_email :
    ∃ finish, Run (Fires (next testSettings)) (Accounts.opening Table.empty Table.empty)
      [(⟨1, "s"⟩, .register "a@b.co" ⟨"123456", "t", .delivered⟩ 0),
        (⟨2, "k"⟩, .magicLink (some "t") none 1 1)] finish ∧
      (respond testSettings finish ⟨3, "x"⟩ (.agentRegister (some "a@b.co") "")).2.map
        Renter.apiKey = some (.renter "k") ∧
      ¬ Discreet testSettings finish (⟨3, "x"⟩, .agentRegister (some "a@b.co") "") := by
  refine exists_run (fun finish => finish.renters.lookup 3 = none ∧
    (respond testSettings finish ⟨3, "x"⟩ (.agentRegister (some "a@b.co") "")).2.map
      Renter.apiKey = some (.renter "k") ∧
      ¬ NamesNoOther testSettings finish (⟨3, "x"⟩, .agentRegister (some "a@b.co") ""))
    (by decide +kernel) ?_
  rintro finish _ ⟨unused, shown, named⟩
  exact ⟨shown, fun discreet => named ((discreet_iff unused _).mp discreet)⟩

end DcpPlatform.SignUp
