import DcpPlatform.SignUp.Accounts

/-!
# The starter credit

An email has one account at a time, and an account is credited when it is
activated. An erasure frees the email for one more account with one more
credit; its anonymous email depends on the email only, so that a second
erasure fails on the unique column.
-/

namespace DcpPlatform.SignUp

open Foundation Table Option
open SignIn (OtpRow)

variable {settings : Settings} {before after : Accounts} {fresh : Fresh} {email : String}

def grantsFor (accounts : Accounts) (email : String) : Nat :=
  (accounts.grants.filter (fun grant => grant.email = email)).length

def erasuresOf (accounts : Accounts) (email : String) : Nat :=
  accounts.erased.count email

/-- One credit for an email and one more after its erasure, which happens
once. -/
def CreditedPerErasure (accounts : Accounts) : Prop :=
  ∀ email, grantsFor accounts email ≤ erasuresOf accounts email + 1 ∧ erasuresOf accounts email ≤ 1

structure Activates (before after : Accounts) (grant : Grant) : Prop where
  inactive : ∀ row ∈ before.renters.lookup grant.renterId, row.status = .pending
  active : ∃ row ∈ after.renters.lookup grant.renterId, row.status = .active ∧
    row.email = grant.email ∧ row.balanceHalala = grant.amountHalala +
      ((before.renters.lookup grant.renterId).map Renter.balanceHalala).getD 0
  others : ∀ id ≠ grant.renterId, after.renters.lookup id = before.renters.lookup id

structure CreditsActivation (before after : Accounts) : Prop where
  grants : after.grants = before.grants ∨
    ∃ grant, after.grants = grant :: before.grants ∧ Activates before after grant
  balances : ∀ id, ∀ row ∈ before.renters.lookup id, row.status = .active →
    ∃ later ∈ after.renters.lookup id, later.balanceHalala = row.balanceHalala

inductive Effect (settings : Settings) (before : Accounts) (renters : Table Renter Renter.id)
    (grants : List Grant) (erased : List String) : Prop
  | none (same : renters = before.renters) (uncredited : grants = before.grants)
      (unerased : erased = before.erased)
  | inserted (row : Renter) (unused : before.renters.lookup row.id = none)
      (untaken : before.renterUnder row.email = none)
      (inserts : renters = before.renters.insert row unused)
      (credits : grants = before.grants ∨ row.status = .active ∧
        grants = ⟨row.email, row.id, row.balanceHalala⟩ :: before.grants)
      (unerased : erased = before.erased)
  | activated (row : Renter) (secret : String)
      (found : before.renterUnder row.email = some row) (pending : row.status = .pending)
      (updates : renters = before.renters.update row.id (Renter.activated secret)
        (Renter.activated_id secret))
      (credits : grants = ⟨row.email, row.id, renterStarterBalanceHalala⟩ :: before.grants)
      (unerased : erased = before.erased)
  | rotated (row : Renter) (secret : String) (found : before.renters.lookup row.id = some row)
      (updates : renters = before.renters.update row.id (Renter.rotated secret)
        (Renter.rotated_id secret))
      (uncredited : grants = before.grants) (unerased : erased = before.erased)
  | erased (row : Renter) (secret : String) (found : before.renters.lookup row.id = some row)
      (undeleted : row.status ≠ .deleted)
      (untaken : before.renterUnder (hashedDeletedEmail settings row.email) = .none)
      (updates : renters = before.renters.update row.id
        (Renter.anonymized (hashedDeletedEmail settings row.email) secret)
        (Renter.anonymized_id _ secret))
      (uncredited : grants = before.grants) (erases : erased = row.email :: before.erased)

def Affects (settings : Settings) (before after : Accounts) : Prop :=
  Effect settings before after.renters after.grants after.erased

theorem renterUnder_eq_none_iff :
    before.renterUnder email = none ↔
      ∀ id, ∀ row ∈ before.renters.lookup id, row.email ≠ email := by
  simp only [Accounts.renterUnder, List.find?_eq_none, decide_eq_true_eq]
  constructor
  · intro absent id row found
    exact absent row (lookup_mem found)
  · intro absent row member
    exact absent row.id row (lookup_of_mem member)

theorem renterUnder_of_finalized
    (missing : (before.finalizePendingRenter fresh email).1.renterUnder email = none) :
    before.renterUnder email = none := by
  cases found : before.renterUnder email with
  | none => rfl
  | some row =>
    have same : row.email = email := by simpa using List.find?_some found
    have stored := lookup_of_mem (List.mem_of_find?_eq_some found)
    simp only [Accounts.finalizePendingRenter, found] at missing
    split at missing
    · have kept := renterUnder_eq_none_iff.mp missing row.id (row.activated fresh.secret)
        (lookup_update_of_some _ _ (Renter.activated_id fresh.secret) stored)
      exact absurd same kept
    · rw [found] at missing
      cases missing

theorem affects_inserted {status : RenterStatus} {apiKey : RenterKey} {balance : Int}
    {grants : List Grant} (unused : before.renters.lookup fresh.id = none)
    (untaken : before.renterUnder email = none)
    (credits : grants = before.grants ∨ status = .active ∧
      grants = ⟨email, fresh.id, balance⟩ :: before.grants) :
    Effect settings before (before.insertRenter fresh email status apiKey balance).renters grants
      before.erased :=
  .inserted ⟨fresh.id, email, status, apiKey, balance⟩ unused untaken
    (insertIfNew_of_fresh unused) credits rfl

theorem affects_finalized (before : Accounts) (otp : SignIn.Database) (fresh : Fresh)
    (email : String) :
    Affects settings before (Accounts.finalizePendingRenter { before with otp } fresh email).1 := by
  have under : Accounts.renterUnder { before with otp } email = before.renterUnder email := rfl
  simp only [Accounts.finalizePendingRenter, under]
  cases found : before.renterUnder email with
  | none => exact .none rfl rfl rfl
  | some row =>
    have same : row.email = email := by simpa using List.find?_some found
    subst same
    by_cases pending : row.status = .pending
    · simp only [pending, if_true]
      exact .activated row fresh.secret found pending rfl rfl rfl
    · simp only [pending, if_false]
      exact .none rfl rfl rfl

theorem affects_magicLink (unused : before.renters.lookup fresh.id = none) (token : Option String)
    (clientPrefer : Option SignIn.Role) (providerId now : Nat) :
    Affects settings before
      (before.magicLink settings fresh token clientPrefer providerId now).1 := by
  simp only [Accounts.magicLink]
  split
  · exact .none rfl rfl rfl
  · rename_i row replayed _
    generalize (SignIn.verifyMagicToken settings.localOffset before.otp token now).1 = otp
    have finalized : Affects settings before
        (Accounts.finalizePendingRenter { before with otp } fresh row.email).1 :=
      affects_finalized before otp fresh row.email
    split
    · exact finalized
    · split
      · exact finalized
      · split
        · exact finalized
        · simp only [Accounts.createActiveRenterFromMagicLink]
          split
          · exact finalized
          · rename_i missing
            have untaken := renterUnder_of_finalized missing
            have same : (Accounts.finalizePendingRenter { before with otp } fresh row.email).1 =
                { before with otp } := by
              simp [Accounts.finalizePendingRenter, untaken]
            rw [same]
            exact affects_inserted unused untaken (Or.inr ⟨rfl, rfl⟩)

theorem affects_next {request : Fresh × Action} (fires : Fires (next settings) before request after) :
    Affects settings before after := by
  obtain ⟨unused, rfl⟩ := of_ite_eq_some fires
  obtain ⟨fresh, action⟩ := request
  cases action with
  | sendOtp email role credential now => exact .none rfl rfl rfl
  | register email credential now =>
    simp only [respond, Accounts.register]
    split
    · exact .none rfl rfl rfl
    · split
      · split <;> exact .none rfl rfl rfl
      · rename_i untaken
        exact affects_inserted unused untaken (Or.inl rfl)
  | agentRegister given agentEmail =>
    simp only [respond, Accounts.agentRegister]
    split
    · exact .none rfl rfl rfl
    · split
      · exact .none rfl rfl rfl
      · split
        · exact .none rfl rfl rfl
        · rename_i untaken
          exact affects_inserted unused untaken (Or.inr ⟨rfl, rfl⟩)
  | verifyOtp email token now user =>
    simp only [respond, Accounts.verifyOtp]
    split
    · exact .none rfl rfl rfl
    · split
      · exact .none rfl rfl rfl
      · split
        · exact .none rfl rfl rfl
        · simp only [Accounts.upsertSqliteRenterFromSupabase]
          split
          · exact .none rfl rfl rfl
          · rename_i untaken
            exact affects_inserted unused untaken (Or.inl rfl)
  | magicLink token clientPrefer providerId now =>
    exact affects_magicLink unused token clientPrefer providerId now
  | rotateKey key now =>
    simp only [respond, Accounts.rotateKey]
    split
    · exact .none rfl rfl rfl
    · rename_i row found
      have stored := lookup_of_mem (List.mem_of_find?_eq_some found)
      split
      · exact .none rfl rfl rfl
      · exact .rotated row fresh.secret stored rfl rfl rfl
  | deleteMe key =>
    simp only [respond, Accounts.deleteMe]
    split
    · exact .none rfl rfl rfl
    · rename_i row found
      split
      · exact .none rfl rfl rfl
      · rename_i allowed
        obtain ⟨undeleted, untaken⟩ := not_or.mp allowed
        have stored := lookup_of_mem (List.mem_of_find?_eq_some found)
        exact .erased row fresh.secret stored undeleted (not_not.mp untaken) rfl rfl rfl

theorem balance_of_update {table : Table Renter Renter.id} {id sought : Nat} {row : Renter}
    {change : Renter → Renter} (keeps : ∀ row, (change row).id = row.id)
    (column : ∀ row, (change row).balanceHalala = row.balanceHalala)
    (found : table.lookup id = some row) :
    ∃ later ∈ (table.update sought change keeps).lookup id,
      later.balanceHalala = row.balanceHalala := by
  rw [lookup_update]
  by_cases same : id = sought
  · rw [if_pos same, found]
    exact ⟨change row, rfl, column row⟩
  · rw [if_neg same, found]
    exact ⟨row, rfl, rfl⟩

theorem creditsActivation_of_affects (affects : Affects settings before after) :
    CreditsActivation before after := by
  cases affects with
  | none same uncredited _ =>
    refine ⟨Or.inl uncredited, ?_⟩
    intro id row found _
    exact ⟨row, by rw [same]; exact found, rfl⟩
  | inserted row unused untaken inserts credits _ =>
    refine ⟨?_, ?_⟩
    · refine credits.imp_right ?_
      rintro ⟨active, credited⟩
      refine ⟨_, credited, by simp [unused], ⟨row, ?_, active, rfl, by simp [unused]⟩, ?_⟩
      · rw [inserts]
        exact lookup_insert_self _ _ unused
      · intro id different
        rw [inserts]
        exact lookup_insert_of_ne _ unused (Ne.symm different)
    · intro id other found _
      exact ⟨other, by rw [inserts]; exact lookup_insert_of_some _ unused found, rfl⟩
  | activated row secret found pending updates credits _ =>
    have stored := lookup_of_mem (List.mem_of_find?_eq_some found)
    refine ⟨Or.inr ⟨_, credits, ?_, ?_, ?_⟩, ?_⟩
    · intro other otherFound
      rw [stored] at otherFound
      cases otherFound
      exact pending
    · refine ⟨row.activated secret, ?_, rfl, rfl, ?_⟩
      · rw [updates]
        exact lookup_update_of_some _ _ _ stored
      · simp [stored, Renter.activated, add_comm]
    · intro id different
      rw [updates]
      exact lookup_update_of_ne _ _ different
    · intro id other otherFound active
      have different : id ≠ row.id := by
        rintro rfl
        rw [stored] at otherFound
        cases otherFound
        rw [pending] at active
        cases active
      exact ⟨other, by rw [updates, lookup_update_of_ne _ _ different]; exact otherFound, rfl⟩
  | rotated row secret _ updates uncredited _ | erased row secret _ _ _ updates uncredited _ =>
    refine ⟨Or.inl uncredited, ?_⟩
    intro other otherRow found _
    rw [updates]
    exact balance_of_update _ (fun _ => rfl) found

def AllPending (accounts : Accounts) (email : String) : Prop :=
  ∀ id, ∀ row ∈ accounts.renters.lookup id, row.email = email → row.status = .pending

/-- An email has one row, a credit more than its erasures only while its row
is activated, and the row of its one erasure stays. -/
structure Kept (settings : Settings) (accounts : Accounts) : Prop where
  sole : ∀ first second, ∀ row ∈ accounts.renters.lookup first,
    ∀ other ∈ accounts.renters.lookup second, row.email = other.email → first = second
  credited : ∀ email, grantsFor accounts email ≤ erasuresOf accounts email + 1
  uncredited : ∀ email, AllPending accounts email →
    grantsFor accounts email ≤ erasuresOf accounts email
  once : ∀ email, erasuresOf accounts email ≤ 1
  stays : ∀ email, 0 < erasuresOf accounts email → ∃ id, ∃ row ∈ accounts.renters.lookup id,
    row.email = hashedDeletedEmail settings email ∧ row.status = .deleted

section OneRow

variable {id : Nat} {later : Renter} (kept : Kept settings before)
  (here : after.renters.lookup id = some later)
  (others : ∀ other ≠ id, after.renters.lookup other = before.renters.lookup other)

include kept here others

theorem Kept.of_row
    (untaken : ∀ other ≠ id, ∀ row ∈ before.renters.lookup other, row.email ≠ later.email)
    (remains : ∀ row ∈ before.renters.lookup id, row.status = .deleted →
      later.email = row.email ∧ later.status = .deleted)
    (counts : ∀ email, grantsFor after email ≤ erasuresOf after email + 1 ∧
      (AllPending after email → grantsFor after email ≤ erasuresOf after email))
    (erasures : ∀ email, erasuresOf after email = erasuresOf before email ∨
      erasuresOf after email = 1 ∧ later.email = hashedDeletedEmail settings email ∧
        later.status = .deleted) : Kept settings after := by
  have alone {other : Nat} {row : Renter} (different : other ≠ id)
      (found : after.renters.lookup other = some row) : row.email ≠ later.email := by
    rw [others other different] at found
    exact untaken other different row found
  refine ⟨?_, fun email => (counts email).1, fun email => (counts email).2, ?_, ?_⟩
  · intro first second row rowFound other otherFound same
    by_cases isFirst : first = id
    · by_contra different
      subst isFirst
      rw [here] at rowFound
      cases rowFound
      exact alone (Ne.symm different) otherFound same.symm
    · by_cases isSecond : second = id
      · subst isSecond
        rw [here] at otherFound
        cases otherFound
        exact absurd same (alone isFirst rowFound)
      · rw [others first isFirst] at rowFound
        rw [others second isSecond] at otherFound
        exact kept.sole first second row rowFound other otherFound same
  · intro email
    rcases erasures email with same | ⟨one, _⟩
    · rw [same]
      exact kept.once email
    · exact one.le
  · intro email erased
    rcases erasures email with same | ⟨_, anonymous⟩
    · rw [same] at erased
      obtain ⟨other, row, found, under, deleted⟩ := kept.stays email erased
      by_cases isId : other = id
      · subst isId
        obtain ⟨same, stays⟩ := remains row found deleted
        exact ⟨other, later, here, same.trans under, stays⟩
      · exact ⟨other, row, by rw [others other isId]; exact found, under, deleted⟩
    · exact ⟨id, later, here, anonymous⟩

theorem Kept.of_activation
    (untaken : ∀ other ≠ id, ∀ row ∈ before.renters.lookup other, row.email ≠ later.email)
    (same : ∀ row ∈ before.renters.lookup id, row.email = later.email ∧
      (later.status = row.status ∨ row.status = .pending))
    (credits : after.grants = before.grants ∨ ∃ grant, after.grants = grant :: before.grants ∧
      grant.email = later.email ∧ later.status = .active ∧ AllPending before later.email)
    (unerased : after.erased = before.erased) : Kept settings after := by
  have erasures (email : String) : erasuresOf after email = erasuresOf before email := by
    rw [erasuresOf, unerased, erasuresOf]
  refine kept.of_row here others untaken ?_ ?_ (fun email => Or.inl (erasures email))
  · intro row found deleted
    obtain ⟨under, status | pending⟩ := same row found
    · exact ⟨under.symm, status.trans deleted⟩
    · rw [deleted] at pending
      cases pending
  · intro email
    rw [erasures]
    have pendingBefore (allPending : AllPending after email) : AllPending before email := by
      intro other row found under
      by_cases isId : other = id
      · subst isId
        obtain ⟨sameEmail, status | pending⟩ := same row found
        · exact status ▸ allPending other later here (sameEmail.symm.trans under)
        · exact pending
      · exact allPending other row (by rw [others other isId]; exact found) under
    rcases credits with uncredited | ⟨grant, credited, under, active, allPending⟩
    · rw [grantsFor, uncredited]
      exact ⟨kept.credited email, fun all => kept.uncredited email (pendingBefore all)⟩
    · by_cases credits : grant.email = email
      · have counted : grantsFor after email = grantsFor before email + 1 := by
          simp [grantsFor, credited, credits]
        have enough := kept.uncredited later.email allPending
        rw [← under, credits] at enough
        refine ⟨by omega, ?_⟩
        intro all
        have pending := all id later here (under.symm.trans credits)
        rw [active] at pending
        cases pending
      · have counted : grantsFor after email = grantsFor before email := by
          simp [grantsFor, credited, credits]
        rw [counted]
        exact ⟨kept.credited email, fun all => kept.uncredited email (pendingBefore all)⟩

theorem Kept.of_erasure {row : Renter} (found : before.renters.lookup id = some row)
    (undeleted : row.status ≠ .deleted)
    (untaken : ∀ other, ∀ row_ ∈ before.renters.lookup other, row_.email ≠ later.email)
    (anonymous : later.email = hashedDeletedEmail settings row.email)
    (deleted : later.status = .deleted) (uncredited : after.grants = before.grants)
    (erases : after.erased = row.email :: before.erased) : Kept settings after := by
  have never : erasuresOf before row.email = 0 := by
    by_contra erased
    obtain ⟨other, old, oldFound, under, _⟩ := kept.stays row.email (Nat.pos_of_ne_zero erased)
    exact untaken other old oldFound (under.trans anonymous.symm)
  have counted (email : String) : erasuresOf after email =
      erasuresOf before email + if row.email = email then 1 else 0 := by
    simp [erasuresOf, erases, List.count_cons]
  refine kept.of_row here others (fun other _ => untaken other) ?_ ?_ ?_
  · intro old oldFound isDeleted
    rw [mem_def, found] at oldFound
    cases oldFound
    exact absurd isDeleted undeleted
  · intro email
    have enough := kept.credited email
    rw [grantsFor, uncredited, ← grantsFor, counted]
    refine ⟨by omega, ?_⟩
    intro all
    by_cases same : row.email = email
    · simpa [same] using enough
    · have allBefore : AllPending before email := by
        intro other old oldFound under
        have different : other ≠ id := by
          rintro rfl
          rw [mem_def, found] at oldFound
          cases oldFound
          exact same under
        exact all other old (by rw [others other different]; exact oldFound) under
      simpa [same] using kept.uncredited email allBefore
  · intro email
    rw [counted]
    by_cases same : row.email = email
    · subst same
      exact Or.inr ⟨by simp [never], anonymous, deleted⟩
    · exact Or.inl (by simp [same])

end OneRow

theorem lookups_of_update {id : Nat} {row : Renter} {change : Renter → Renter}
    {keeps : ∀ row, (change row).id = row.id} (found : before.renters.lookup id = some row)
    (updates : after.renters = before.renters.update id change keeps) :
    after.renters.lookup id = some (change row) ∧
      ∀ other ≠ id, after.renters.lookup other = before.renters.lookup other := by
  rw [updates]
  exact ⟨lookup_update_of_some _ _ keeps found,
    fun other different => lookup_update_of_ne _ keeps different⟩

theorem kept_of_affects (kept : Kept settings before) (affects : Affects settings before after) :
    Kept settings after := by
  have alone {id : Nat} {row : Renter} (found : before.renters.lookup id = some row)
      (other : Nat) (different : other ≠ id) (otherRow : Renter)
      (otherFound : otherRow ∈ before.renters.lookup other) : otherRow.email ≠ row.email :=
    fun same => different (kept.sole other id otherRow otherFound row found same)
  cases affects with
  | none same uncredited unerased =>
    obtain ⟨sole, credited, uncredited_, once, stays⟩ := kept
    constructor
    all_goals simpa only [AllPending, grantsFor, erasuresOf, same, uncredited, unerased]
  | inserted row unused untaken inserts credits unerased =>
    have free := renterUnder_eq_none_iff.mp untaken
    have here : after.renters.lookup row.id = some row := by
      rw [inserts]
      exact lookup_insert_self _ _ unused
    refine kept.of_activation here ?_ (fun other _ => free other) ?_ ?_ unerased
    · intro other different
      rw [inserts]
      exact lookup_insert_of_ne _ unused (Ne.symm different)
    · intro old found
      rw [mem_def, unused] at found
      cases found
    · refine credits.imp_right ?_
      rintro ⟨active, credited⟩
      exact ⟨_, credited, rfl, active, fun id old found under => absurd under (free id old found)⟩
  | activated row secret found pending updates credits unerased =>
    have stored := lookup_of_mem (List.mem_of_find?_eq_some found)
    obtain ⟨here, others⟩ := lookups_of_update stored updates
    refine kept.of_activation here others (fun other apart => alone stored other apart) ?_
      (Or.inr ⟨_, credits, rfl, rfl, ?_⟩) unerased
    · intro old oldFound
      rw [mem_def, stored] at oldFound
      cases oldFound
      exact ⟨rfl, Or.inr pending⟩
    · intro other old oldFound under
      by_cases same : other = row.id
      · rw [mem_def, same, stored] at oldFound
        cases oldFound
        exact pending
      · exact absurd under (alone stored other same old oldFound)
  | rotated row secret found updates uncredited unerased =>
    obtain ⟨here, others⟩ := lookups_of_update found updates
    refine kept.of_activation here others (fun other apart => alone found other apart) ?_
      (Or.inl uncredited) unerased
    intro old oldFound
    rw [mem_def, found] at oldFound
    cases oldFound
    exact ⟨rfl, Or.inl rfl⟩
  | erased row secret found undeleted untaken updates uncredited erases =>
    obtain ⟨here, others⟩ := lookups_of_update found updates
    exact kept.of_erasure here others found undeleted (renterUnder_eq_none_iff.mp untaken) rfl rfl
      uncredited erases

def returningRenter : List (Fresh × Action) :=
  [(⟨1, "s"⟩, .register "a@b.co" ⟨"123456", "t", .delivered⟩ 0),
    (⟨2, "k"⟩, .magicLink (some "t") none 1 1), (⟨3, "d"⟩, .deleteMe (.renter "k")),
    (⟨4, "l"⟩, .agentRegister (some "a@b.co") "")]

end DcpPlatform.SignUp
