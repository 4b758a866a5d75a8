import DcpPlatform.SignIn.Otp

/-!
# Sign-in credentials are single use

`Proper` says when a success is justified by the events before it. The time of
the first use is read back as local time, so every success is justified
exactly when local time is never behind UTC.
-/

namespace DcpPlatform.SignIn

open Foundation Table List

def Event.isSuccessOf (token : String) : Event → Bool
  | .issued _ _ _ => false
  | .success other _ _ _ _ => other = token

def Event.isIssueFor (email : String) : Event → Bool
  | .issued _ other _ => other = email
  | .success _ _ _ _ _ => false

def IsValid (before : List Event) (token email : String) (replayed : Bool) (instant : Nat) : Prop :=
  ∃ old young issuedAt, before = old ++ .issued token email issuedAt :: young ∧
    instant ≤ issuedAt + otpTtl ∧
    (replayed = false → ∀ event ∈ young, event.isIssueFor email = false)

def Proper (before : List Event) : Event → Prop
  | .issued _ _ _ => True
  | .success token email method replayed instant =>
    IsValid before token email replayed instant ∧
      (replayed = false → ∀ event ∈ before, event.isSuccessOf token = false) ∧
      (replayed = true → method = .magic ∧ ∃ firstAt : Nat,
        .success token email .magic false firstAt ∈ before ∧
          (instant : Int) < firstAt + magicReuseWindowMs)

def SingleUse (log : List Event) : Prop :=
  ∀ before event after, log = before ++ event :: after → Proper before event

theorem SingleUse.append {log : List Event} (single : SingleUse log)
    {event : Event} (proper : Proper log event) :
    SingleUse (log ++ [event]) := by
  intro before other after split
  rcases eq_nil_or_concat after with empty | ⟨rest, last, same⟩
  · rw [empty] at split
    obtain ⟨same, equal⟩ := append_inj' split rfl
    injection equal with equal
    rw [← same, ← equal]
    exact proper
  · rw [same, concat_eq_append, ← cons_append, ← append_assoc] at split
    obtain ⟨same, _⟩ := append_inj' split rfl
    exact single before other rest same

structure Tracked (log : List Event) (row : OtpRow) : Prop where
  issued : ∃ old young issuedAt, log = old ++ .issued row.magicToken row.email issuedAt :: young ∧
    row.expiresAt = issuedAt + otpTtl ∧
    (row.used = false → ∀ event ∈ young, event.isIssueFor row.email = false)
  unused : row.used = false → ∀ event ∈ log, event.isSuccessOf row.magicToken = false
  first : ∀ seconds, row.usedAt = some seconds → ∃ instant,
    .success row.magicToken row.email .magic false instant ∈ log ∧ seconds = instant / 1000

structure Sound (system : System) : Prop where
  single : SingleUse system.log
  tracked : ∀ row ∈ system.db.rows, Tracked system.log row
  known :
    ∀ event ∈ system.log, ∀ token, event.isSuccessOf token = true → (system.db.lookup token).isSome

theorem sound_empty : Sound System.empty where
  single := by
    intro before event after split
    have length := congrArg length split
    rw [length_append, length_cons] at length
    exact absurd length (by simp [System.empty])
  tracked := fun _ member => absurd member not_mem_nil
  known := fun _ member => absurd member not_mem_nil

section Tracked

variable {log : List Event} {row : OtpRow}

theorem Tracked.append (tracked : Tracked log row) {event : Event}
    (email : row.used = false → event.isIssueFor row.email = false)
    (token : row.used = false → event.isSuccessOf row.magicToken = false) :
    Tracked (log ++ [event]) row where
  issued := by
    obtain ⟨old, young, issuedAt, split, expires, latest⟩ := tracked.issued
    refine ⟨old, young ++ [event], issuedAt, ?_, expires, ?_⟩
    · rw [split, append_assoc, cons_append]
    · intro unused other member
      rcases mem_append.mp member with earlier | last
      · exact latest unused other earlier
      · rw [mem_singleton.mp last]
        exact email unused
  unused := by
    intro unused other member
    rcases mem_append.mp member with earlier | last
    · exact tracked.unused unused other earlier
    · rw [mem_singleton.mp last]
      exact token unused
  first := by
    intro seconds usedAt
    obtain ⟨instant, member, same⟩ := tracked.first seconds usedAt
    exact ⟨instant, mem_append_left _ member, same⟩

theorem Tracked.markUsed (tracked : Tracked log row) :
    Tracked log row.markUsed where
  issued := by
    obtain ⟨old, young, issuedAt, split, expires, _⟩ := tracked.issued
    refine ⟨old, young, issuedAt, split, expires, ?_⟩
    intro unused
    cases unused
  unused := by
    intro unused
    cases unused
  first := tracked.first

variable {now : Nat}

theorem Tracked.proper (tracked : Tracked log row)
    (unused : row.used = false) (live : ¬ row.expiresAt < now) (method : Method) :
    Proper log (.success row.magicToken row.email method false now) := by
  obtain ⟨old, young, issuedAt, split, expires, latest⟩ := tracked.issued
  refine ⟨⟨old, young, issuedAt, split, by omega,
    fun _ => latest unused⟩, fun _ => tracked.unused unused, ?_⟩
  intro replayed
  cases replayed

theorem Tracked.proper_replay (tracked : Tracked log row) {localOffset : Nat → Int}
    (ahead : ∀ seconds, 0 ≤ localOffset seconds) (live : ¬ row.expiresAt < now)
    (positive : 0 < usedAtMs localOffset row.usedAt)
    (soon : (now : Int) - usedAtMs localOffset row.usedAt < magicReuseWindowMs) :
    Proper log (.success row.magicToken row.email .magic true now) := by
  obtain ⟨old, young, issuedAt, split, expires, _⟩ := tracked.issued
  refine ⟨⟨old, young, issuedAt, split, by omega, ?_⟩, ?_, ?_⟩
  · intro replayed
    cases replayed
  · intro replayed
    cases replayed
  · intro _
    cases usedAt : row.usedAt with
    | none =>
      rw [usedAt, usedAtMs] at positive
      omega
    | some seconds =>
      obtain ⟨instant, member, same⟩ := tracked.first seconds usedAt
      refine ⟨rfl, instant, member, ?_⟩
      have offset := ahead seconds
      rw [usedAt, usedAtMs] at soon
      rw [same] at soon offset
      omega

end Tracked

variable {db : Database} {change : OtpRow → OtpRow} {row : OtpRow}

theorem mem_update {token : String} (keeps : ∀ row, (change row).magicToken = row.magicToken)
    (member : row ∈ (db.update token change keeps).rows) :
    ∃ earlier ∈ db.rows, (earlier.magicToken = token ∧ row = change earlier) ∨
      (earlier.magicToken ≠ token ∧ row = earlier) := by
  obtain ⟨earlier, stored, same⟩ := mem_map.mp member
  refine ⟨earlier, stored, ?_⟩
  by_cases here : earlier.magicToken = token
  · rw [if_pos here] at same
    exact Or.inl ⟨here, same.symm⟩
  · rw [if_neg here] at same
    exact Or.inr ⟨here, same.symm⟩

theorem lookup_isSome_update (token sought : String)
    (keeps : ∀ row, (change row).magicToken = row.magicToken) :
    ((db.update token change keeps).lookup sought).isSome = (db.lookup sought).isSome := by
  rw [lookup_update]
  split
  · rw [Option.isSome_map]
  · rfl

section Calls

variable {system : System}

theorem Sound.markUsed (sound : Sound system) (token : String) :
    Sound { system with
      db := system.db.update token OtpRow.markUsed OtpRow.markUsed_magicToken } where
  single := sound.single
  tracked := by
    intro row member
    obtain ⟨earlier, stored, ⟨_, same⟩ | ⟨_, same⟩⟩ := mem_update OtpRow.markUsed_magicToken member
    · rw [same]
      exact (sound.tracked earlier stored).markUsed
    · rw [same]
      exact sound.tracked earlier stored
  known := by
    intro event member token success
    rw [lookup_isSome_update]
    exact sound.known event member token success

variable {row : OtpRow} {now : Nat}

theorem Sound.succeed (sound : Sound system)
    (stored : system.db.lookup row.magicToken = some row) {change : OtpRow → OtpRow}
    (keeps : ∀ row, (change row).magicToken = row.magicToken)
    {method : Method} {replayed : Bool}
    (proper : Proper system.log (.success row.magicToken row.email method replayed now))
    (tracked : Tracked (system.log ++ [.success row.magicToken row.email method replayed now])
      (change row)) :
    Sound (system.record (system.db.update row.magicToken change keeps)
      (.success row.magicToken row.email method replayed now)) where
  single := sound.single.append proper
  tracked := by
    intro other member
    obtain ⟨earlier, known, ⟨here, same⟩ | ⟨there, same⟩⟩ := mem_update keeps member
    · have equal : earlier = row := by
        have found := lookup_of_mem known
        rw [here, stored] at found
        injection found with equal
        exact equal.symm
      rw [same, equal]
      exact tracked
    · rw [same]
      refine (sound.tracked earlier known).append (fun _ => rfl) ?_
      intro _
      exact decide_eq_false (there ·.symm)
  known := by
    intro event member token success
    change ((system.db.update row.magicToken change keeps).lookup token).isSome = true
    rw [lookup_isSome_update]
    rcases mem_append.mp member with earlier | last
    · exact sound.known event earlier token success
    · rw [mem_singleton.mp last] at success
      have same : row.magicToken = token := of_decide_eq_true success
      rw [← same, stored]
      rfl

theorem Sound.replay (sound : Sound system)
    (stored : system.db.lookup row.magicToken = some row) (used : row.used = true)
    (proper : Proper system.log (.success row.magicToken row.email .magic true now)) :
    Sound (system.record system.db (.success row.magicToken row.email .magic true now)) where
  single := sound.single.append proper
  tracked := by
    intro other member
    change other ∈ system.db.rows at member
    refine (sound.tracked other member).append (fun _ => rfl) ?_
    intro unused
    apply decide_eq_false
    intro same
    have found := lookup_of_mem member
    rw [← same, stored] at found
    injection found with equal
    rw [← equal, used] at unused
    cases unused
  known := by
    intro event member token success
    rcases mem_append.mp member with earlier | last
    · exact sound.known event earlier token success
    · rw [mem_singleton.mp last] at success
      have same : row.magicToken = token := of_decide_eq_true success
      rw [← same]
      change (system.db.lookup row.magicToken).isSome = true
      rw [stored]
      rfl

theorem lookup_invalidate (db : Database) (email token : String) :
    (invalidate db email).lookup token = (db.lookup token).map (fun row =>
      if row.email = email ∧ row.used = false then row.markUsed
      else row) :=
  lookup_updateAll _ _ _ _

theorem Sound.issued (sound : Sound system) {email code magicToken : String}
    (fresh : system.db.lookup magicToken = none)
    (requestedRole : Option Role) (now : Nat) :
    Sound (system.record (issue system.db email code magicToken requestedRole now)
      (.issued magicToken email now)) := by
  have absent : (invalidate system.db email).lookup
      (otpRow email code magicToken requestedRole now).magicToken =
        none := by
    change (invalidate system.db email).lookup magicToken = none
    rw [lookup_invalidate, fresh]
    rfl
  have inserted : issue system.db email code magicToken requestedRole now =
      (invalidate system.db email).insert (otpRow email code magicToken requestedRole now) absent :=
    insertIfNew_of_fresh absent
  rw [inserted]
  constructor
  · exact sound.single.append trivial
  · intro row member
    rcases mem_append.mp member with old | new
    · obtain ⟨earlier, stored, same⟩ := mem_map.mp old
      have tracked := sound.tracked earlier stored
      by_cases matched : earlier.email = email ∧ earlier.used = false
      · rw [if_pos matched] at same
        rw [← same]
        refine tracked.markUsed.append ?_ (fun _ => rfl)
        intro unused
        cases unused
      · rw [if_neg matched] at same
        rw [← same]
        refine tracked.append ?_ (fun _ => rfl)
        intro unused
        exact decide_eq_false (fun equal => matched ⟨equal.symm, unused⟩)
    · rw [mem_singleton.mp new]
      refine ⟨⟨system.log, [], now, rfl, rfl, ?_⟩, ?_, ?_⟩
      · intro _ event member
        cases member
      · intro _ event member
        rcases mem_append.mp member with earlier | last
        · by_contra success
          have there := sound.known event earlier magicToken (Bool.not_eq_false _ ▸ success)
          rw [fresh] at there
          cases there
        · rw [mem_singleton.mp last]
          rfl
      · intro seconds usedAt
        cases usedAt
  · intro event member token success
    change (((invalidate system.db email).insert _ absent).lookup token).isSome = true
    rw [lookup_insert]
    split
    · rfl
    · rw [lookup_invalidate, Option.isSome_map]
      rcases mem_append.mp member with earlier | last
      · exact sound.known event earlier token success
      · rw [mem_singleton.mp last] at success
        cases success

end Calls

theorem latestUnused_eq_some {email : String} (found : latestUnused db email = some row) :
    db.lookup row.magicToken = some row ∧ row.email = email ∧ row.used = false := by
  have member := firstBy_mem found
  obtain ⟨stored, matched⟩ := mem_filter.mp member
  exact ⟨lookup_of_mem stored, of_decide_eq_true matched⟩

theorem verifyOtp_cases (lower : String → String) (db : Database)
    (email : String) (token : Option String) (now : Nat) :
    (∃ failure, verifyOtp lower db email token now = (db, .error failure)) ∨
    (∃ used failure, verifyOtp lower db email token now =
      (db.update used OtpRow.markUsed OtpRow.markUsed_magicToken, .error failure)) ∨
    ∃ row, db.lookup row.magicToken = some row ∧ row.used = false ∧ ¬ row.expiresAt < now ∧
      verifyOtp lower db email token now =
        (db.update row.magicToken OtpRow.markUsed OtpRow.markUsed_magicToken, .ok row) := by
  rw [verifyOtp]
  by_cases empty : cleanToken token = ""
  · rw [if_pos empty]
    exact Or.inl ⟨_, rfl⟩
  · rw [if_neg empty]
    by_cases digits : isSixDigits (cleanToken token) = false
    · rw [if_pos digits]
      exact Or.inl ⟨_, rfl⟩
    · rw [if_neg digits]
      cases found : latestUnused db (lower email) with
      | none => exact Or.inl ⟨_, rfl⟩
      | some row =>
        obtain ⟨stored, _, unused⟩ := latestUnused_eq_some found
        by_cases expired : row.expiresAt < now
        · refine Or.inr (Or.inl ⟨row.magicToken, .codeExpired, ?_⟩)
          exact if_pos expired
        · by_cases wrong : cleanToken token ≠ row.code
          · refine Or.inl ⟨.wrongCode, ?_⟩
            exact (if_neg expired).trans (if_pos wrong)
          · refine Or.inr (Or.inr ⟨row, stored, unused, expired, ?_⟩)
            exact (if_neg expired).trans (if_neg wrong)

theorem verifyMagicToken_cases (localOffset : Nat → Int) (db : Database)
    (token : Option String) (now : Nat) :
    (∃ failure, verifyMagicToken localOffset db token now = (db, .error failure)) ∨
    (∃ used failure, verifyMagicToken localOffset db token now =
      (db.update used OtpRow.markUsed OtpRow.markUsed_magicToken, .error failure)) ∨
    (∃ row, db.lookup row.magicToken = some row ∧ row.used = true ∧ ¬ row.expiresAt < now ∧
      0 < usedAtMs localOffset row.usedAt ∧
      (now : Int) - usedAtMs localOffset row.usedAt < magicReuseWindowMs ∧
      verifyMagicToken localOffset db token now = (db, .ok ⟨row, true⟩)) ∨
    ∃ row, db.lookup row.magicToken = some row ∧ row.used = false ∧ ¬ row.expiresAt < now ∧
      verifyMagicToken localOffset db token now = (db.update row.magicToken (OtpRow.markUsedAt now)
        (OtpRow.markUsedAt_magicToken now), .ok ⟨row, false⟩) := by
  rw [verifyMagicToken]
  by_cases empty : token.getD "" = ""
  · rw [if_pos empty]
    exact Or.inl ⟨_, rfl⟩
  · rw [if_neg empty]
    cases found : db.lookup (trim (token.getD "")) with
    | none => exact Or.inl ⟨_, rfl⟩
    | some row =>
      have stored : db.lookup row.magicToken = some row := by
        rw [lookup_key found]
        exact found
      dsimp only
      by_cases expired : row.expiresAt < now
      · rw [if_pos expired]
        by_cases used : row.used = true
        · rw [if_pos used]
          exact Or.inl ⟨_, rfl⟩
        · rw [if_neg used]
          exact Or.inr (Or.inl ⟨_, _, rfl⟩)
      · rw [if_neg expired]
        by_cases used : row.used = true
        · rw [if_pos used]
          by_cases soon : 0 < usedAtMs localOffset row.usedAt ∧
            now - usedAtMs localOffset row.usedAt < magicReuseWindowMs
          · rw [if_pos soon]
            exact Or.inr (Or.inr (Or.inl ⟨row, stored, used, expired, soon.1, soon.2, rfl⟩))
          · rw [if_neg soon]
            exact Or.inl ⟨_, rfl⟩
        · rw [if_neg used]
          exact Or.inr (Or.inr (Or.inr
            ⟨row, stored, Bool.eq_false_of_not_eq_true used, expired, rfl⟩))

section Runs

variable {lower : String → String} {localOffset : Nat → Int}

theorem Tracked.markUsedAt {log : List Event} {row : OtpRow}
    (tracked : Tracked log row) (now : Nat) :
    Tracked (log ++ [.success row.magicToken row.email .magic false now]) (row.markUsedAt now) where
  issued := by
    obtain ⟨old, young, issuedAt, split, expires, _⟩ := tracked.issued
    refine ⟨old, young ++ [.success row.magicToken row.email .magic false now], issuedAt, ?_,
      expires, ?_⟩
    · rw [split, append_assoc, cons_append]
      rfl
    · intro unused
      cases unused
  unused := by
    intro unused
    cases unused
  first := by
    intro seconds usedAt
    injection usedAt with same
    exact ⟨now, mem_append_right _ mem_cons_self, same.symm⟩

theorem sound_next (ahead : ∀ seconds, 0 ≤ localOffset seconds)
    {before after : System} {action : Action} (sound : Sound before)
    (fires : Fires (next lower localOffset) before action after) :
    Sound after := by
  cases action with
  | sendOtp email code magicToken requestedRole mail now =>
    obtain ⟨fresh, same⟩ := of_ite_eq_some fires
    rw [← same]
    exact sound.issued fresh requestedRole now
  | verifyOtp email token now =>
    rw [Fires, next] at fires
    rcases verifyOtp_cases lower before.db email token now with
      ⟨failure, outcome⟩ | ⟨used, failure, outcome⟩ | ⟨row, stored, unused, live, outcome⟩
    · rw [outcome] at fires
      cases fires
      exact sound
    · rw [outcome] at fires
      cases fires
      exact sound.markUsed used
    · rw [outcome] at fires
      cases fires
      have tracked := sound.tracked row (lookup_mem stored)
      refine sound.succeed stored OtpRow.markUsed_magicToken (tracked.proper unused live .otp) ?_
      refine tracked.markUsed.append (fun _ => rfl) ?_
      intro unused
      cases unused
  | verifyMagicToken token now =>
    rw [Fires, next] at fires
    rcases verifyMagicToken_cases localOffset before.db token now with
      ⟨failure, outcome⟩ | ⟨used, failure, outcome⟩ |
        ⟨row, stored, used, live, positive, soon, outcome⟩ |
        ⟨row, stored, unused, live, outcome⟩
    · rw [outcome] at fires
      cases fires
      exact sound
    · rw [outcome] at fires
      cases fires
      exact sound.markUsed used
    · rw [outcome] at fires
      cases fires
      have tracked := sound.tracked row (lookup_mem stored)
      exact sound.replay stored used (tracked.proper_replay ahead live positive soon)
    · rw [outcome] at fires
      cases fires
      have tracked := sound.tracked row (lookup_mem stored)
      exact sound.succeed stored (OtpRow.markUsedAt_magicToken now)
        (tracked.proper unused live .magic) (tracked.markUsedAt now)

theorem singleUse_of_run (ahead : ∀ seconds, 0 ≤ localOffset seconds)
    {finish : System} {actions : List Action}
    (run : Run (Fires (next lower localOffset)) System.empty actions finish) :
    SingleUse finish.log :=
  (run.invariant Sound (fun sound fires => sound_next ahead sound fires) sound_empty).single

/-- A link is issued and followed in the same second, and followed again
after a minute. -/
def lateReplay (seconds : Nat) : List Action :=
  [.sendOtp "email" "123456" "token" none .delivered (seconds * 1000),
    .verifyMagicToken (some "token") (seconds * 1000),
    .verifyMagicToken (some "token") (seconds * 1000 + 60000)]

theorem verifyMagicToken_of_lookup {db : Database} {token : String}
    (visible : token ≠ "") {row : OtpRow}
    (found : db.lookup (trim token) = some row) {now : Nat}
    (live : ¬ row.expiresAt < now) :
    verifyMagicToken localOffset db (some token) now =
      if row.used then
        if 0 < usedAtMs localOffset row.usedAt ∧
          now - usedAtMs localOffset row.usedAt < magicReuseWindowMs then
          (db, .ok ⟨row, true⟩)
        else
          (db, .error .linkUsed)
      else
        (db.update row.magicToken (OtpRow.markUsedAt now)
          (OtpRow.markUsedAt_magicToken now), .ok ⟨row, false⟩) := by
  rw [verifyMagicToken, Option.getD_some, if_neg visible, found]
  exact if_neg live

theorem lateReplay_succeeds {seconds : Nat} (behind : localOffset seconds < 0) :
    ∃ finish, Run (Fires (next lower localOffset)) System.empty (lateReplay seconds) finish ∧
      finish.log = [.issued "token" (lower "email") (seconds * 1000),
          .success "token" (lower "email") .magic false (seconds * 1000),
          .success "token" (lower "email") .magic true (seconds * 1000 + 60000)] := by
  let row := otpRow (lower "email") "123456" "token" none (seconds * 1000)
  have trimmed : trim "token" = "token" := by decide
  have visible : "token" ≠ "" := by decide
  have ttl : otpTtl = 900000 := rfl
  have issued : row.expiresAt = seconds * 1000 + otpTtl := rfl
  let stored : Database := issue empty (lower "email") "123456" "token" none (seconds * 1000)
  have found : stored.lookup (trim "token") = some row := by
    rw [trimmed]
    have absent : (invalidate empty (lower "email")).lookup row.magicToken =
        none := rfl
    have inserted : stored = (invalidate empty (lower "email")).insert row absent :=
      insertIfNew_of_fresh absent
    rw [inserted]
    exact lookup_insert_self _ row absent
  have foundUsed : (stored.update "token" (OtpRow.markUsedAt (seconds * 1000))
      (OtpRow.markUsedAt_magicToken (seconds * 1000))).lookup
        (trim "token") = some (row.markUsedAt (seconds * 1000)) := by
    rw [trimmed] at found ⊢
    exact lookup_update_of_some _ _ _ found
  have usedAt : seconds * 1000 / 1000 = seconds := Nat.mul_div_cancel seconds (by decide)
  have soon : 0 < usedAtMs localOffset (row.markUsedAt (seconds * 1000)).usedAt ∧
      ((seconds * 1000 + 60000 : Nat) : Int) -
        usedAtMs localOffset (row.markUsedAt (seconds * 1000)).usedAt <
        magicReuseWindowMs := by
    rw [OtpRow.markUsedAt, usedAt]
    simp only [usedAtMs, magicReuseWindowMs]
    push_cast
    omega
  let first : System :=
    System.empty.record stored (.issued "token" (lower "email") (seconds * 1000))
  let second : System :=
    first.record (stored.update "token" (OtpRow.markUsedAt (seconds * 1000))
      (OtpRow.markUsedAt_magicToken (seconds * 1000)))
      (.success "token" (lower "email") .magic false (seconds * 1000))
  let third : System :=
    second.record second.db (.success "token" (lower "email") .magic true (seconds * 1000 + 60000))
  have sends : Fires (next lower localOffset) System.empty
      (.sendOtp "email" "123456" "token" none .delivered (seconds * 1000))
      first := by
    have fresh : System.empty.db.lookup "token" = none := rfl
    rw [Fires, next, if_pos fresh]
    rfl
  have uses : Fires (next lower localOffset) first
      (.verifyMagicToken (some "token") (seconds * 1000)) second := by
    have outcome := @verifyMagicToken_of_lookup localOffset first.db "token" visible row
        found (seconds * 1000) (by omega)
    rw [Fires, next, outcome]
    rfl
  have replays : Fires (next lower localOffset) second
      (.verifyMagicToken (some "token") (seconds * 1000 + 60000))
      third := by
    have live : ¬ (row.markUsedAt (seconds * 1000)).expiresAt < seconds * 1000 + 60000 := by
      change ¬ row.expiresAt < _
      omega
    have outcome := @verifyMagicToken_of_lookup localOffset second.db "token" visible
        (row.markUsedAt (seconds * 1000)) foundUsed
        (seconds * 1000 + 60000) live
    have used : (row.markUsedAt (seconds * 1000)).used = true := rfl
    rw [if_pos used, if_pos soon] at outcome
    rw [Fires, next, outcome]
    rfl
  exact ⟨third, Run.cons sends (Run.cons uses (Run.single replays)), rfl⟩

theorem lateReplay_not_singleUse {seconds : Nat} (behind : localOffset seconds < 0) :
    ∃ finish, Run (Fires (next lower localOffset)) System.empty (lateReplay seconds) finish ∧
      ¬ SingleUse finish.log := by
  obtain ⟨finish, run, log⟩ := @lateReplay_succeeds lower localOffset seconds behind
  refine ⟨finish, run, ?_⟩
  intro single
  have proper := single [.issued "token" (lower "email") (seconds * 1000),
      .success "token" (lower "email") .magic false (seconds * 1000)]
    (.success "token" (lower "email") .magic true (seconds * 1000 + 60000)) [] log
  obtain ⟨_, firstAt, member, soon⟩ := proper.2.2 rfl
  rcases mem_cons.mp member with issued | later
  · cases issued
  · have same := mem_singleton.mp later
    injection same with _ _ _ _ instant
    rw [instant, magicReuseWindowMs] at soon
    push_cast at soon
    omega

/-- Every run uses credentials once exactly when local time is never behind
UTC. -/
theorem sign_in_single_use_iff (lower : String → String) (localOffset : Nat → Int) :
    (∀ actions finish,
      Run (Fires (next lower localOffset)) System.empty actions finish → SingleUse finish.log) ↔
      ∀ seconds, 0 ≤ localOffset seconds := by
  constructor
  · intro single seconds
    by_contra behind
    obtain ⟨finish, run, late⟩ := @lateReplay_not_singleUse lower localOffset seconds (by omega)
    exact late (single _ _ run)
  · intro ahead actions finish run
    exact singleUse_of_run ahead run

/-- With local time five hours behind UTC, a link is followed again a minute
after its first use. -/
theorem link_replayed_late :
    ∃ finish, Run (Fires (next id (fun _ => -18000000))) System.empty
      (lateReplay 1700000000) finish ∧ ¬ SingleUse finish.log :=
  lateReplay_not_singleUse (by decide)

end Runs

end DcpPlatform.SignIn
