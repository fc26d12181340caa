import Mathlib.Data.Rat.Floor
import Mathlib.Logic.Function.Basic
import Meshpoint.PyText

/-!
# The sessions of the dashboard

`AuthService` glues a password hasher, a lockout tracker and the service that signs session
tokens; `require_auth` accepts the tokens that service verifies.  The hasher and the token
library are parameters.  Clock readings are in microseconds of the epoch, those of the
lockout's monotonic clock in seconds.
-/

namespace Meshpoint.AuthService

/-! ### Passwords -/

/-- The library that hashes passwords: `hashpw` raises on the passwords it does not take. -/
structure Bcrypt where
  hashpw : (plaintext salt : String) → Option String
  checkpw : (candidate digest : String) → Bool

/-- A digest starts with the scheme and the cost it was made with. -/
def Bcrypt.DigestsNonempty (bcrypt : Bcrypt) : Prop :=
  ∀ {plaintext salt digest : String}, bcrypt.hashpw plaintext salt = some digest → digest ≠ ""

/-- `PasswordHasher.hash`. -/
def Bcrypt.hash (bcrypt : Bcrypt) (plaintext salt : String) : Option String :=
  if plaintext = "" then none else bcrypt.hashpw plaintext salt

/-- `PasswordHasher.verify`. -/
def Bcrypt.verify (bcrypt : Bcrypt) (candidate storedHash : String) : Bool :=
  if candidate = "" ∨ storedHash = "" then false else bcrypt.checkpw candidate storedHash

theorem Bcrypt.hash_ne_empty {bcrypt : Bcrypt} (hdigest : bcrypt.DigestsNonempty)
    {plaintext salt digest : String} (h : bcrypt.hash plaintext salt = some digest) :
    digest ≠ "" := by
  unfold Bcrypt.hash at h
  split at h
  · cases h
  · exact hdigest h

/-- `_validate_password`. -/
def validatePassword (password : String) : Option String :=
  if password.length < 8 then some "password_too_short"
  else if password.length > 256 then some "password_too_long"
  else none

/-! ### Lockout -/

structure AttemptState where
  failures : Int := 0
  lockedUntil : ℚ := 0

structure LockoutTracker where
  maxAttempts : Int
  cooldownSeconds : Int
  states : String → Option AttemptState := fun _ => none

namespace LockoutTracker

def make (maxAttempts cooldownMinutes : Int) : Option LockoutTracker :=
  if maxAttempts < 1 then none
  else if cooldownMinutes < 1 then none
  else some { maxAttempts := maxAttempts, cooldownSeconds := cooldownMinutes * 60 }

/-- `reconfigure`; `none` when it raises. -/
def reconfigure (t : LockoutTracker) (maxAttempts cooldownMinutes : Int) : Option LockoutTracker :=
  if maxAttempts < 1 then none
  else if cooldownMinutes < 1 then none
  else some { t with maxAttempts := maxAttempts, cooldownSeconds := cooldownMinutes * 60 }

/-- `remaining_seconds`. -/
def remainingSeconds (t : LockoutTracker) (key : String) (now : ℚ) : Option Int × LockoutTracker :=
  if key = "" then (none, t)
  else
    match t.states key with
    | none => (none, t)
    | some state =>
      if state.lockedUntil = 0 then (none, t)
      else if state.lockedUntil ≤ now then
        (none, { t with states := Function.update t.states key none })
      else (some (⌊state.lockedUntil - now⌋ + 1), t)

/-- `register_failure`. -/
def registerFailure (t : LockoutTracker) (key : String) (now : ℚ) : Option Int × LockoutTracker :=
  if key = "" then (none, t)
  else
    let state := (t.states key).getD {}
    if now < state.lockedUntil then
      (some (⌊state.lockedUntil - now⌋ + 1),
        { t with states := Function.update t.states key (some state) })
    else
      let failures := state.failures + 1
      if t.maxAttempts ≤ failures then
        let locked : AttemptState := ⟨failures, now + t.cooldownSeconds⟩
        (some t.cooldownSeconds, { t with states := Function.update t.states key (some locked) })
      else
        let counted : AttemptState := { state with failures := failures }
        (none, { t with states := Function.update t.states key (some counted) })

/-- `register_success`. -/
def registerSuccess (t : LockoutTracker) (key : String) : LockoutTracker :=
  if key = "" then t else { t with states := Function.update t.states key none }

end LockoutTracker

/-! ### Session tokens -/

/-- A claim of a token, as far as `verify` tells claims apart. -/
inductive ClaimValue
  | text (s : String)
  | number (n : Int)
  | flag (b : Bool)
  | other
deriving DecidableEq

/-- The claims of a token.  The library has checked that all are there and that both times are
    numbers. -/
structure Payload where
  sub : ClaimValue
  role : ClaimValue
  sv : ClaimValue
  iat : Int
  exp : Int
deriving DecidableEq

/-- The token library: `decode` is given the secret and the time, and raises on a token whose
    signature, times or claims it does not accept. -/
structure JwtLibrary where
  encode : Payload → (secret : String) → String
  decode : (token secret : String) → (now : Int) → Option Payload

/-- What the service signs. -/
structure SessionToken where
  subject : String
  role : String
  sessionVersion : Int
  iat : Int
  exp : Int
  secret : String
deriving DecidableEq

def SessionToken.payload (session : SessionToken) : Payload where
  sub := .text session.subject
  role := .text session.role
  sv := .number session.sessionVersion
  iat := session.iat
  exp := session.exp

def SessionToken.token (jwt : JwtLibrary) (session : SessionToken) : String :=
  jwt.encode session.payload session.secret

/-- A token decodes, under the secret it was signed with, to what was signed, from the second it
    was issued until the second it expires. -/
structure JwtLibrary.Decodes (jwt : JwtLibrary) : Prop where
  nonempty : ∀ session : SessionToken, session.token jwt ≠ ""
  signed : ∀ {session : SessionToken} {now payload},
    jwt.decode (session.token jwt) session.secret now = some payload →
      payload = session.payload ∧ now < session.exp * 1000000
  inTime : ∀ {session : SessionToken} {now}, session.iat * 1000000 ≤ now →
    now < session.exp * 1000000 →
      jwt.decode (session.token jwt) session.secret now = some session.payload

def ROLE_ADMIN : String := "admin"
def ROLE_VIEWER : String := "viewer"
def validRoles : List String := [ROLE_ADMIN, ROLE_VIEWER]

structure SessionClaims where
  subject : String
  role : String
  sessionVersion : Int
deriving DecidableEq

structure JwtSessionService where
  secret : String
  /-- in minutes -/
  expiry : Int
  sessionVersion : Int

namespace JwtSessionService

/-- The longest span of the clock's type, in minutes. -/
def maxMinutes : Int := 1439999999999

def maxDatetime : Int := 253402300799999999

def make (secret : String) (expiryMinutes sessionVersion : Int) : Option JwtSessionService :=
  if secret = "" then none
  else if expiryMinutes ≤ 0 then none
  else if sessionVersion < 1 then none
  else if maxMinutes < expiryMinutes then none
  else some ⟨secret, expiryMinutes, sessionVersion⟩

/-- `set_expiry_minutes`; `none` when it raises. -/
def setExpiryMinutes (s : JwtSessionService) (minutes : Int) : Option JwtSessionService :=
  if minutes ≤ 0 then none
  else if maxMinutes < minutes then none
  else some { s with expiry := minutes }

/-- `rotate_secret`; `none` when it raises. -/
def rotateSecret (s : JwtSessionService) (newSecret : String) : Option JwtSessionService :=
  if newSecret = "" then none else some { s with secret := newSecret }

/-- `bump_session_version`. -/
def bumpSessionVersion (s : JwtSessionService) : JwtSessionService :=
  { s with sessionVersion := s.sessionVersion + 1 }

/-- `issue`; `none` when it raises. -/
def issue (s : JwtSessionService) (subject role : String) (now : Int) : Option SessionToken :=
  if subject = "" then none
  else if role ∉ validRoles then none
  else if maxDatetime < now + s.expiry * 60000000 then none
  else some {
    subject := subject
    role := role
    sessionVersion := s.sessionVersion
    iat := now.tdiv 1000000
    exp := (now + s.expiry * 60000000).tdiv 1000000
    secret := s.secret }

/-- `verify`. -/
def verify (jwt : JwtLibrary) (s : JwtSessionService) (token : String) (now : Int) :
    Option SessionClaims :=
  if token = "" then none
  else
    match jwt.decode token s.secret now with
    | none => none
    | some payload =>
      match payload.sub, payload.role with
      -- a role that no set can hold raises, and the request fails all the same
      | .text subject, .text role =>
        if subject = "" then none
        else if role ∉ validRoles then none
        else
          match payload.sv with
          | .number version =>
            if version = s.sessionVersion then some ⟨subject, role, version⟩ else none
          -- `True` is an `int`, and equals 1
          | .flag b =>
            if b.toNat = s.sessionVersion then some ⟨subject, role, b.toNat⟩ else none
          | _ => none
      | _, _ => none

end JwtSessionService

/-! ### Requests -/

/-- What a request carries of the session. -/
structure Request where
  cookie : Option String := none
  authorization : Option String := none

/-- `_extract_token`. -/
def extractToken (request : Request) : String :=
  match request.cookie with
  | some cookie => if cookie = "" then fromHeader else cookie
  | none => fromHeader
where
  fromHeader : String :=
    match request.authorization with
    | some authorization =>
      if "Bearer ".toList <+: authorization.toList then
        PyText.strip (String.ofList (authorization.toList.drop 7))
      else ""
    | none => ""

structure HTTPException where
  statusCode : Nat
  detail : String
  headers : List (String × String) := []
deriving DecidableEq

def unauthorized : HTTPException := ⟨401, "authentication required", [("WWW-Authenticate", "Bearer")]⟩
def forbidden : HTTPException := ⟨403, "admin role required", []⟩

/-- `require_auth`. -/
def requireAuth (jwt : JwtLibrary) (s : JwtSessionService) (request : Request) (now : Int) :
    Except HTTPException SessionClaims :=
  match s.verify jwt (extractToken request) now with
  | none => .error unauthorized
  | some claims => .ok claims

/-- `require_admin`. -/
def requireAdmin (jwt : JwtLibrary) (s : JwtSessionService) (request : Request) (now : Int) :
    Except HTTPException SessionClaims := do
  let claims ← requireAuth jwt s request now
  if claims.role ≠ ROLE_ADMIN then throw forbidden
  return claims

/-! ### The service -/

/-- `WebAuthConfig`. -/
structure WebAuthConfig where
  adminPasswordHash : String := ""
  viewerPasswordHash : String := ""
  jwtSecret : String := ""
  jwtExpiryMinutes : Int := 480
  allowReadOnly : Bool := false
  lockoutAttempts : Int := 5
  lockoutCooldownMinutes : Int := 5
  sessionVersion : Int := 1

/-- The service with the part of `local.yaml` it writes. -/
structure Service where
  config : WebAuthConfig
  disk : WebAuthConfig
  lockout : LockoutTracker
  jwt : JwtSessionService

/-- What an operation answers: the session it opens, a reason, or an exception. -/
inductive Reply
  | success (session : SessionToken)
  | done
  | refused (reason : String) (retryAfterSeconds : Option Int)
  | raised

def Reply.sessions : Reply → List SessionToken
  | .success session => [session]
  | _ => []

namespace Service

/-- `build_auth_subsystem` on what `local.yaml` holds; `newSecret` is what `generate_secret`
    returns when none is configured. -/
def build (disk : WebAuthConfig) (newSecret : String) : Option Service := do
  let config := if disk.jwtSecret = "" then { disk with jwtSecret := newSecret } else disk
  let jwt ← JwtSessionService.make config.jwtSecret config.jwtExpiryMinutes config.sessionVersion
  let lockout ← LockoutTracker.make config.lockoutAttempts config.lockoutCooldownMinutes
  return ⟨config, disk, lockout, jwt⟩

/-- `is_setup_complete`. -/
def isSetupComplete (s : Service) : Bool := s.config.adminPasswordHash ≠ ""

/-- `_hash_for`. -/
def hashFor (s : Service) (normalizedUsername : String) : Option String :=
  if normalizedUsername = "admin" then
    if s.config.adminPasswordHash = "" then none else some s.config.adminPasswordHash
  else if normalizedUsername = "viewer" then
    if s.config.viewerPasswordHash = "" then none else some s.config.viewerPasswordHash
  else none

/-- Issue a session for `subject` and answer with it. -/
def openSession (s : Service) (subject : String) (now : Int) : Reply :=
  match s.jwt.issue subject (if subject = "admin" then ROLE_ADMIN else ROLE_VIEWER) now with
  | some session => .success session
  | none => .raised

/-- `complete_setup`. -/
def completeSetup (bcrypt : Bcrypt) (s : Service) (password salt : String) (now : Int) :
    Service × Reply :=
  if s.isSetupComplete then (s, .refused "already_set" none)
  else
    match validatePassword password with
    | some rejection => (s, .refused rejection none)
    | none =>
      match bcrypt.hash password salt with
      | none => (s, .raised)
      | some hashed =>
        let s := { s with
          config := { s.config with adminPasswordHash := hashed }
          disk := { s.disk with adminPasswordHash := hashed, jwtSecret := s.config.jwtSecret } }
        (s, s.openSession "admin" now)

/-- `login`; the lockout tracker reads its clock at `asked` and at `failed`. -/
def login (bcrypt : Bcrypt) (casing : PyText.Casing) (s : Service) (username password : String)
    (now : Int) (asked failed : ℚ) : Service × Reply :=
  if s.isSetupComplete = false then (s, .refused "setup_required" none)
  else
    let normalized := casing.lower (PyText.strip username)
    match s.lockout.remainingSeconds normalized asked with
    | (some cooldown, lockout) =>
      ({ s with lockout := lockout }, .refused "locked_out" (some cooldown))
    | (none, lockout) =>
      match s.hashFor normalized with
      | none =>
        let (triggered, lockout) := lockout.registerFailure normalized failed
        ({ s with lockout := lockout }, .refused "invalid_credentials" triggered)
      | some storedHash =>
        if bcrypt.verify password storedHash then
          let s := { s with lockout := lockout.registerSuccess normalized }
          (s, s.openSession normalized now)
        else
          let (triggered, lockout) := lockout.registerFailure normalized failed
          ({ s with lockout := lockout }, .refused "invalid_credentials" triggered)

/-- `change_password`; `newSecret` is what `generate_secret` returns. -/
def changePassword (bcrypt : Bcrypt) (casing : PyText.Casing) (s : Service)
    (subject currentPassword newPassword salt newSecret : String) (now : Int) : Service × Reply :=
  let normalized := casing.lower (PyText.strip subject)
  if normalized ≠ "admin" ∧ normalized ≠ "viewer" then (s, .refused "invalid_subject" none)
  else
    match s.hashFor normalized with
    | none => (s, .refused "invalid_current_password" none)
    | some stored =>
      if bcrypt.verify currentPassword stored = false then
        (s, .refused "invalid_current_password" none)
      else
        match validatePassword newPassword with
        | some rejection => (s, .refused rejection none)
        | none =>
          match bcrypt.hash newPassword salt with
          | none => (s, .raised)
          | some newHash =>
            match s.jwt.rotateSecret newSecret with
            -- no secret of `generate_secret` is empty
            | none => (s, .raised)
            | some jwt =>
              let withHash (config : WebAuthConfig) : WebAuthConfig :=
                if normalized = "admin" then
                  { config with adminPasswordHash := newHash, jwtSecret := newSecret }
                else { config with viewerPasswordHash := newHash, jwtSecret := newSecret }
              let s := { s with config := withHash s.config, disk := withHash s.disk, jwt := jwt }
              (s, s.openSession normalized now)

/-- `logout_all_sessions`. -/
def logoutAllSessions (s : Service) : Service × Reply :=
  let jwt := s.jwt.bumpSessionVersion
  ({ s with
    jwt := jwt
    config := { s.config with sessionVersion := jwt.sessionVersion }
    disk := { s.disk with sessionVersion := jwt.sessionVersion } }, .done)

/-- `update_lockout_config`. -/
def updateLockoutConfig (s : Service) (maxAttempts cooldownMinutes : Int) : Service × Reply :=
  match s.lockout.reconfigure maxAttempts cooldownMinutes with
  | none => (s, .raised)
  | some lockout =>
    let withKnobs (config : WebAuthConfig) : WebAuthConfig :=
      { config with lockoutAttempts := maxAttempts, lockoutCooldownMinutes := cooldownMinutes }
    ({ s with lockout := lockout, config := withKnobs s.config, disk := withKnobs s.disk }, .done)

/-- `update_session_lifetime`. -/
def updateSessionLifetime (s : Service) (minutes : Int) : Service × Reply :=
  match s.jwt.setExpiryMinutes minutes with
  | none => (s, .raised)
  | some jwt =>
    ({ s with
      jwt := jwt
      config := { s.config with jwtExpiryMinutes := minutes }
      disk := { s.disk with jwtExpiryMinutes := minutes } }, .done)

/-- `setup_viewer`. -/
def setupViewer (bcrypt : Bcrypt) (s : Service) (password salt : String) : Service × Reply :=
  match validatePassword password with
  | some rejection => (s, .refused rejection none)
  | none =>
    match bcrypt.hash password salt with
    | none => (s, .raised)
    | some newHash =>
      let withViewer (config : WebAuthConfig) : WebAuthConfig :=
        { config with viewerPasswordHash := newHash, allowReadOnly := true }
      ({ s with config := withViewer s.config, disk := withViewer s.disk }, .done)

/-- `clear_viewer`. -/
def clearViewer (s : Service) : Service × Reply :=
  let withoutViewer (config : WebAuthConfig) : WebAuthConfig :=
    { config with viewerPasswordHash := "", allowReadOnly := false }
  ({ s with config := withoutViewer s.config, disk := withoutViewer s.disk }, .done)

end Service

end Meshpoint.AuthService
