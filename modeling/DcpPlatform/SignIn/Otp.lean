import DcpPlatform.Foundation.Query
import DcpPlatform.Foundation.Text
import DcpPlatform.Foundation.Transition

/-!
# One-time codes and magic links

A sign-in credential is a row of `otp_codes` with a code and a random token,
which does not repeat. Issuing one uses up the unused ones of the email. A
link may be followed again for 60 seconds. `datetime('now')` is read back as
local time, `localOffset` ahead of UTC.
-/

namespace DcpPlatform.SignIn

open Foundation

inductive Role where
  | provider | renter
  deriving DecidableEq

/-- A row of `otp_codes`; `expires_at` in milliseconds, the instants of the
database in seconds. -/
structure OtpRow where
  magicToken : String
  email : String
  code : String
  expiresAt : Nat
  used : Bool
  usedAt : Option Nat
  createdAt : Nat
  requestedRole : Option Role

abbrev Database := Table OtpRow OtpRow.magicToken

def otpTtl : Nat := 15 * 60 * 1000

def magicReuseWindowMs : Int := 60 * 1000

def OtpRow.markUsed (row : OtpRow) : OtpRow :=
  { row with used := true }

@[simp]
theorem OtpRow.markUsed_magicToken (row : OtpRow) :
    row.markUsed.magicToken = row.magicToken :=
  rfl

def OtpRow.markUsedAt (now : Nat) (row : OtpRow) : OtpRow :=
  { row with used := true, usedAt := some (now / 1000) }

@[simp]
theorem OtpRow.markUsedAt_magicToken (now : Nat) (row : OtpRow) :
    (row.markUsedAt now).magicToken = row.magicToken :=
  rfl

inductive Mail where
  | unconfigured | refused | thrown | delivered

def Mail.error : Mail → Option String
  | .unconfigured =>
    some "Email service not configured. Contact support."
  | .refused => some "Failed to send sign-in email. Please try again."
  | .thrown => some "Failed to send sign-in link. Please try again."
  | .delivered => none

def invalidate (db : Database) (email : String) : Database :=
  db.updateAll (fun row =>
    if row.email = email ∧ row.used = false then row.markUsed else row)
    (by
      intro row
      split
      · rfl
      · rfl)

def otpRow (email code magicToken : String) (requestedRole : Option Role) (now : Nat) : OtpRow :=
  { magicToken := magicToken
    email := email
    code := code
    expiresAt := now + otpTtl
    used := false
    usedAt := none
    createdAt := now / 1000
    requestedRole := requestedRole }

def issue (db : Database) (email code magicToken : String)
    (requestedRole : Option Role) (now : Nat) : Database :=
  (invalidate db email).insertIfNew (otpRow email code magicToken requestedRole now)

/-- The row is stored whatever becomes of the email. -/
def sendOtp (lower : String → String) (db : Database)
    (email code magicToken : String) (requestedRole : Option Role)
    (mail : Mail) (now : Nat) : Database × Option String :=
  (issue db (lower email) code magicToken requestedRole now, mail.error)

inductive VerifyError where
  | noCode
  | notSixDigits (clean : String)
  | noRow
  | codeExpired
  | wrongCode
  | invalidLink
  | unknownLink
  | linkExpired
  | linkUsed

def VerifyError.message : VerifyError → String
  | .noCode => "Please enter the 6-digit code from your email."
  | .notSixDigits clean =>
    "Enter exactly 6 digits. You entered: \"" ++ clean ++ "\" (" ++
      toString (clean.toList.map (fun character =>
        if character.toNat < 0x10000 then 1 else 2)).sum ++ " chars)."
  | .noRow =>
    "No verification code found. Click \"Send Code\" to get a new one."
  | .codeExpired =>
    "Code expired. Codes are valid for 15 minutes. Click \"Resend\" to " ++ "get a new one."
  | .wrongCode =>
    "Wrong code. Check your email for the latest 6-digit code and try " ++ "again."
  | .invalidLink => "Invalid link."
  | .unknownLink => "This link is invalid."
  | .linkExpired => "This link has expired. Please request a new one."
  | .linkUsed =>
    "This link has already been used. Please request a new one."

/-- `raw.replace(/[\s\-]/g, '').trim()`; a value that is not a text is
empty. -/
def cleanToken (raw : Option String) : String :=
  String.ofList (((raw.getD "").toList).filter (fun character =>
    !isSpace character && character ≠ '-'))

def isSixDigits (clean : String) : Bool :=
  clean.toList.length = 6 && clean.toList.all Char.isDigit

def latestUnused (db : Database) (email : String) : Option OtpRow :=
  firstBy (fun row other => decide (other.createdAt < row.createdAt))
    (db.select (fun row => row.email = email ∧ row.used = false))

def verifyOtp (lower : String → String) (db : Database) (email : String)
    (token : Option String) (now : Nat) :
    Database × Except VerifyError OtpRow :=
  let clean := cleanToken token
  if clean = "" then
    (db, .error .noCode)
  else if isSixDigits clean = false then
    (db, .error (.notSixDigits clean))
  else
    match latestUnused db (lower email) with
    | none => (db, .error .noRow)
    | some row =>
      let marked := db.update row.magicToken OtpRow.markUsed OtpRow.markUsed_magicToken
      if row.expiresAt < now then
        (marked, .error .codeExpired)
      else if clean ≠ row.code then
        (db, .error .wrongCode)
      else
        (marked, .ok row)

/-- `new Date(used_at).getTime()`: the text is taken for local time. -/
def usedAtMs (localOffset : Nat → Int) (usedAt : Option Nat) : Int :=
  match usedAt with
  | none => 0
  | some seconds => (seconds : Int) * 1000 - localOffset seconds

structure Verified where
  row : OtpRow
  replayed : Bool

def verifyMagicToken (localOffset : Nat → Int) (db : Database) (token : Option String) (now : Nat) :
    Database × Except VerifyError Verified :=
  if token.getD "" = "" then
    (db, .error .invalidLink)
  else
    match db.lookup (trim (token.getD "")) with
    | none => (db, .error .unknownLink)
    | some row =>
      if row.expiresAt < now then
        (if row.used then db
          else db.update row.magicToken OtpRow.markUsed OtpRow.markUsed_magicToken,
          .error .linkExpired)
      else if row.used then
        if 0 < usedAtMs localOffset row.usedAt ∧
          now - usedAtMs localOffset row.usedAt < magicReuseWindowMs then
          (db, .ok ⟨row, true⟩)
        else
          (db, .error .linkUsed)
      else
        (db.update row.magicToken (OtpRow.markUsedAt now)
          (OtpRow.markUsedAt_magicToken now), .ok ⟨row, false⟩)

inductive Method where
  | otp | magic

/-- What has happened with a credential, which its token names. -/
inductive Event where
  | issued (token email : String) (instant : Nat)
  | success (token email : String) (method : Method) (replayed : Bool) (instant : Nat)

structure System where
  db : Database
  log : List Event

def System.empty : System :=
  { db := Table.empty, log := [] }

inductive Action where
  | sendOtp (email code magicToken : String) (requestedRole : Option Role) (mail : Mail) (now : Nat)
  | verifyOtp (email : String) (token : Option String) (now : Nat)
  | verifyMagicToken (token : Option String) (now : Nat)

def System.record (system : System) (db : Database) (event : Event) :
    System :=
  { db := db, log := system.log ++ [event] }

/-- A token that has been issued before is not issued again. -/
def next (lower : String → String) (localOffset : Nat → Int)
    (system : System) : Action → Option System
  | .sendOtp email code magicToken requestedRole mail now =>
    if system.db.lookup magicToken = none then
      some (system.record (sendOtp lower system.db email code magicToken requestedRole mail now).1
        (.issued magicToken (lower email) now))
    else
      none
  | .verifyOtp email token now =>
    match verifyOtp lower system.db email token now with
    | (db, .ok row) =>
      some (system.record db (.success row.magicToken row.email .otp false now))
    | (db, .error _) => some { system with db := db }
  | .verifyMagicToken token now =>
    match verifyMagicToken localOffset system.db token now with
    | (db, .ok verified) =>
      some (system.record db
        (.success verified.row.magicToken verified.row.email .magic verified.replayed now))
    | (db, .error _) => some { system with db := db }

end DcpPlatform.SignIn
