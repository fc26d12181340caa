import Meshpoint.AuthService
import Meshpoint.GuardedRun
import Meshpoint.JsonText

/-!
# Which sessions a revocation ends

The service runs with a ledger of the sessions it opened, each stamped with the number of
password changes and sign-outs, and of removals of the viewer account, that came before it.
A password change signs with a new secret and a sign-out with a new version, so they end every
session; the removal of the viewer account changes neither.  `endsSessions_iff` says of every
run that the removal is the only way for an ended session to be accepted: none ever is exactly
when the viewer account is removed only while no viewer holds a session.
-/

namespace Meshpoint.AuthService

/-! ### The service with its ledger -/

/-- An opened session with the revocations and removals that came before it. -/
structure Issued extends SessionToken where
  revocations : Nat
  clears : Nat

structure State extends Service where
  /-- every secret drawn so far -/
  secrets : List String
  issued : List Issued := []
  /-- password changes and sign-outs -/
  revocations : Nat := 0
  /-- removals of the viewer account -/
  clears : Nat := 0

def start (service : Service) : State := { toService := service, secrets := [service.jwt.secret] }

/-- What an operation leaves, with the sessions it opened in the ledger. -/
def State.record (s : State) (outcome : Service × Reply) : State :=
  { s with
    toService := outcome.1
    issued := s.issued ++ outcome.2.sessions.map fun session =>
      ⟨session, s.revocations, s.clears⟩ }

inductive Event
  | completeSetup (password salt : String) (now : Int)
  | login (username password : String) (now : Int) (asked failed : ℚ)
  | changePassword (subject currentPassword newPassword salt newSecret : String) (now : Int)
  | logoutAllSessions
  | updateLockoutConfig (maxAttempts cooldownMinutes : Int)
  | updateSessionLifetime (minutes : Int)
  | setupViewer (password salt : String)
  | clearViewer
  | restart (newSecret : String)

/-- A generated secret is not empty and was not drawn before. -/
def State.Fresh (s : State) (newSecret : String) : Prop := newSecret ≠ "" ∧ newSecret ∉ s.secrets

instance (s : State) (newSecret : String) : Decidable (s.Fresh newSecret) :=
  inferInstanceAs (Decidable (_ ∧ _))

/-- One event; `none` when a generated secret is not fresh or the start fails. -/
def step (bcrypt : Bcrypt) (casing : PyText.Casing) (s : State) : Event → Option State
  | .completeSetup password salt now =>
    some (s.record (s.toService.completeSetup bcrypt password salt now))
  | .login username password now asked failed =>
    some (s.record (s.toService.login bcrypt casing username password now asked failed))
  | .changePassword subject currentPassword newPassword salt newSecret now =>
    if s.Fresh newSecret then
      let outcome := s.toService.changePassword bcrypt casing subject currentPassword newPassword
        salt newSecret now
      let rotated := if outcome.1.jwt.secret = s.jwt.secret then 0 else 1
      some (State.record { s with
        secrets := newSecret :: s.secrets
        revocations := s.revocations + rotated } outcome)
    else none
  | .logoutAllSessions =>
    some (State.record { s with revocations := s.revocations + 1 } s.toService.logoutAllSessions)
  | .updateLockoutConfig maxAttempts cooldownMinutes =>
    some (s.record (s.toService.updateLockoutConfig maxAttempts cooldownMinutes))
  | .updateSessionLifetime minutes => some (s.record (s.toService.updateSessionLifetime minutes))
  | .setupViewer password salt => some (s.record (s.toService.setupViewer bcrypt password salt))
  | .clearViewer => some (State.record { s with clears := s.clears + 1 } s.toService.clearViewer)
  | .restart newSecret =>
    if s.Fresh newSecret then
      (Service.build s.disk newSecret).map fun service =>
        { s with toService := service, secrets := newSecret :: s.secrets }
    else none

/-- Clients have no token that decodes under the secret in use but those signed with it. -/
def Unforged (jwt : JwtLibrary) (s : State) (token : String) : Prop :=
  ∀ now payload, jwt.decode token s.jwt.secret now = some payload →
    ∃ i ∈ s.issued, i.secret = s.jwt.secret ∧ i.token jwt = token

def SessionToken.claims (session : SessionToken) : SessionClaims :=
  ⟨session.subject, session.role, session.sessionVersion⟩

/-- A session is accepted only before it expires, when no password was changed and nobody was
    signed out since it was opened, and its account is there, for a viewer without a removal in
    between. -/
def EndsSessions (jwt : JwtLibrary) (s : State) : Prop :=
  ∀ request now claims, Unforged jwt s (extractToken request) →
    requireAuth jwt s.jwt request now = .ok claims →
    ∃ i ∈ s.issued, i.token jwt = extractToken request ∧ claims = i.claims ∧
      now < i.exp * 1000000 ∧ i.revocations = s.revocations ∧
      (s.toService.hashFor claims.subject).isSome ∧
      (claims.subject = "viewer" → i.clears = s.clears)

/-- The session is signed as the service now signs. -/
def Live (s : State) (i : Issued) : Prop :=
  i.secret = s.jwt.secret ∧ i.sessionVersion = s.jwt.sessionVersion

instance (s : State) (i : Issued) : Decidable (Live s i) := inferInstanceAs (Decidable (_ ∧ _))

def Event.removesViewer : Event → Bool
  | .clearViewer => true
  | _ => false

/-- The viewer account is removed only while no viewer holds a session that is signed as the
    service now signs. -/
def NoViewerLeft (s : State) (e : Event) : Prop :=
  e.removesViewer = true → ∀ i ∈ s.issued, Live s i → i.subject ≠ "viewer"

instance (s : State) (e : Event) : Decidable (NoViewerLeft s e) :=
  inferInstanceAs (Decidable (_ → _))

/-! ### The operations -/

/-- What the service keeps in step: configuration, file and signing. -/
structure Settled (s : Service) : Prop where
  secret : s.config.jwtSecret = s.jwt.secret
  version : s.config.sessionVersion = s.jwt.sessionVersion
  diskSecret : s.disk.jwtSecret = "" ∨ s.disk.jwtSecret = s.jwt.secret
  diskVersion : s.disk.sessionVersion = s.jwt.sessionVersion
  diskAdmin : s.disk.adminPasswordHash = s.config.adminPasswordHash
  diskViewer : s.disk.viewerPasswordHash = s.config.viewerPasswordHash
  expiry : 0 < s.jwt.expiry

/-- A session opened by the service as it now is, for an account that is there. -/
structure Opened (s : Service) (session : SessionToken) : Prop where
  secret : session.secret = s.jwt.secret
  version : session.sessionVersion = s.jwt.sessionVersion
  lasting : session.iat < session.exp
  account : session.subject = "admin" ∧ session.role = ROLE_ADMIN ∧
      s.config.adminPasswordHash ≠ "" ∨
    session.subject = "viewer" ∧ session.role = ROLE_VIEWER ∧ s.config.viewerPasswordHash ≠ ""

theorem tdiv_lt_tdiv_of_add_le {m n : Int} (h : m + 60000000 ≤ n) :
    m.tdiv 1000000 < n.tdiv 1000000 := by
  have hm := Int.mul_tdiv_add_tmod m 1000000
  have hn := Int.mul_tdiv_add_tmod n 1000000
  have hm' := Int.lt_tmod_of_pos m (show (0 : Int) < 1000000 by decide)
  have hn' := Int.tmod_lt_of_pos n (show (0 : Int) < 1000000 by decide)
  omega

theorem JwtSessionService.issue_eq_some {s : JwtSessionService} {subject role : String} {now : Int}
    {session : SessionToken} (h : s.issue subject role now = some session)
    (hexpiry : 0 < s.expiry) :
    session.subject = subject ∧ session.role = role ∧ session.secret = s.secret ∧
      session.sessionVersion = s.sessionVersion ∧ session.iat < session.exp := by
  unfold JwtSessionService.issue at h
  split at h
  · cases h
  · split at h
    · cases h
    · split at h
      · cases h
      · cases h
        refine ⟨rfl, rfl, rfl, rfl, ?_⟩
        apply tdiv_lt_tdiv_of_add_le
        omega

theorem Service.hashFor_isSome {s : Service} {subject : String} :
    (s.hashFor subject).isSome ↔ subject = "admin" ∧ s.config.adminPasswordHash ≠ "" ∨
      subject = "viewer" ∧ s.config.viewerPasswordHash ≠ "" := by
  unfold Service.hashFor
  by_cases hadmin : subject = "admin"
  · subst hadmin
    by_cases hhash : s.config.adminPasswordHash = "" <;> simp [hhash]
  · by_cases hviewer : subject = "viewer"
    · subst hviewer
      by_cases hhash : s.config.viewerPasswordHash = "" <;> simp [hhash]
    · simp [hadmin, hviewer]

theorem Service.opened_of_openSession {s : Service} (hexpiry : 0 < s.jwt.expiry) {subject : String}
    (haccount : (s.hashFor subject).isSome) {now : Int} {session : SessionToken}
    (h : session ∈ (s.openSession subject now).sessions) : Opened s session := by
  unfold Service.openSession at h
  split at h
  · rename_i signed hissue
    obtain rfl : session = signed := by simpa [Reply.sessions] using h
    obtain ⟨hsubject, hrole, hsecret, hversion, hlasting⟩ :=
      JwtSessionService.issue_eq_some hissue hexpiry
    refine ⟨hsecret, hversion, hlasting, ?_⟩
    rcases hashFor_isSome.mp haccount with ⟨hadmin, hhash⟩ | ⟨hviewer, hhash⟩
    · left
      exact ⟨hsubject.trans hadmin, by rw [hrole, if_pos hadmin], hhash⟩
    · right
      refine ⟨hsubject.trans hviewer, ?_, hhash⟩
      rw [hrole, hviewer]
      rfl
  · cases h

/-- The outcome of an operation that leaves the signing and the accounts as they are. -/
structure Keeps (s : Service) (outcome : Service × Reply) : Prop where
  settled : Settled outcome.1
  secret : outcome.1.jwt.secret = s.jwt.secret
  version : outcome.1.jwt.sessionVersion = s.jwt.sessionVersion
  admin : s.config.adminPasswordHash ≠ "" → outcome.1.config.adminPasswordHash ≠ ""
  viewer : s.config.viewerPasswordHash ≠ "" → outcome.1.config.viewerPasswordHash ≠ ""
  opened : ∀ session ∈ outcome.2.sessions, Opened outcome.1 session

theorem Keeps.of_lockout {s : Service} (h : Settled s) (lockout : LockoutTracker) {reply : Reply}
    (hreply : reply.sessions = []) : Keeps s ({ s with lockout := lockout }, reply) where
  settled := ⟨h.secret, h.version, h.diskSecret, h.diskVersion, h.diskAdmin, h.diskViewer, h.expiry⟩
  secret := rfl
  version := rfl
  admin := id
  viewer := id
  opened := by
    intro session hmem
    rw [hreply] at hmem
    cases hmem

theorem keeps_completeSetup {bcrypt : Bcrypt} (hdigest : bcrypt.DigestsNonempty) {s : Service}
    (h : Settled s) (password salt : String) (now : Int) :
    Keeps s (s.completeSetup bcrypt password salt now) := by
  unfold Service.completeSetup
  split
  · exact .of_lockout h s.lockout rfl
  · split
    · exact .of_lockout h s.lockout rfl
    · split
      · exact .of_lockout h s.lockout rfl
      · rename_i hashed hhash
        have hne : hashed ≠ "" := Bcrypt.hash_ne_empty hdigest hhash
        refine ⟨⟨h.secret, h.version, .inr h.secret, h.diskVersion, rfl, h.diskViewer, h.expiry⟩,
          rfl, rfl, fun _ => hne, id, ?_⟩
        intro session hmem
        apply Service.opened_of_openSession _ _ hmem
        · exact h.expiry
        · exact Service.hashFor_isSome.mpr (.inl ⟨rfl, hne⟩)

theorem keeps_login {bcrypt : Bcrypt} {casing : PyText.Casing} {s : Service} (h : Settled s)
    (username password : String) (now : Int) (asked failed : ℚ) :
    Keeps s (s.login bcrypt casing username password now asked failed) := by
  unfold Service.login
  split
  · exact .of_lockout h s.lockout rfl
  · simp only
    split
    · exact .of_lockout h _ rfl
    · split
      · exact .of_lockout h _ rfl
      · rename_i storedHash hhash
        split
        · refine ⟨⟨h.secret, h.version, h.diskSecret, h.diskVersion, h.diskAdmin, h.diskViewer,
            h.expiry⟩, rfl, rfl, id, id, ?_⟩
          intro session hmem
          apply Service.opened_of_openSession _ _ hmem
          · exact h.expiry
          · exact Option.isSome_iff_exists.mpr ⟨storedHash, hhash⟩
        · exact .of_lockout h _ rfl

theorem keeps_updateLockoutConfig {s : Service} (h : Settled s)
    (maxAttempts cooldownMinutes : Int) :
    Keeps s (s.updateLockoutConfig maxAttempts cooldownMinutes) := by
  unfold Service.updateLockoutConfig
  split
  · exact .of_lockout h s.lockout rfl
  · refine ⟨⟨h.secret, h.version, h.diskSecret, h.diskVersion, h.diskAdmin, h.diskViewer,
      h.expiry⟩, rfl, rfl, id, id, ?_⟩
    intro session hmem
    cases hmem

theorem keeps_updateSessionLifetime {s : Service} (h : Settled s) (minutes : Int) :
    Keeps s (s.updateSessionLifetime minutes) := by
  unfold Service.updateSessionLifetime JwtSessionService.setExpiryMinutes
  by_cases hpos : minutes ≤ 0
  · rw [if_pos hpos]
    exact .of_lockout h s.lockout rfl
  · rw [if_neg hpos]
    by_cases hmax : JwtSessionService.maxMinutes < minutes
    · rw [if_pos hmax]
      exact .of_lockout h s.lockout rfl
    · rw [if_neg hmax]
      refine ⟨⟨h.secret, h.version, h.diskSecret, h.diskVersion, h.diskAdmin, h.diskViewer, ?_⟩,
        rfl, rfl, id, id, ?_⟩
      · exact not_le.mp hpos
      · intro session hmem
        cases hmem

theorem keeps_setupViewer {bcrypt : Bcrypt} (hdigest : bcrypt.DigestsNonempty) {s : Service}
    (h : Settled s) (password salt : String) : Keeps s (s.setupViewer bcrypt password salt) := by
  unfold Service.setupViewer
  split
  · exact .of_lockout h s.lockout rfl
  · split
    · exact .of_lockout h s.lockout rfl
    · rename_i newHash hhash
      refine ⟨⟨h.secret, h.version, h.diskSecret, h.diskVersion, h.diskAdmin, rfl, h.expiry⟩,
        rfl, rfl, id, fun _ => Bcrypt.hash_ne_empty hdigest hhash, ?_⟩
      intro session hmem
      cases hmem

theorem changePassword_cases {bcrypt : Bcrypt} (hdigest : bcrypt.DigestsNonempty)
    (casing : PyText.Casing) {s : Service} (h : Settled s)
    (subject currentPassword newPassword salt newSecret : String) (now : Int) :
    let outcome := s.changePassword bcrypt casing subject currentPassword newPassword salt
      newSecret now
    Keeps s outcome ∨
      Settled outcome.1 ∧ outcome.1.jwt.secret = newSecret ∧
        (s.config.adminPasswordHash ≠ "" → outcome.1.config.adminPasswordHash ≠ "") ∧
        (s.config.viewerPasswordHash ≠ "" → outcome.1.config.viewerPasswordHash ≠ "") ∧
        ∀ session ∈ outcome.2.sessions, Opened outcome.1 session := by
  intro outcome
  have hrefused : ∀ reply : Reply, reply.sessions = [] → Keeps s (s, reply) :=
    fun reply hreply => .of_lockout h s.lockout hreply
  simp only [outcome, Service.changePassword]
  split
  · exact .inl (hrefused _ rfl)
  · rename_i hsubject
    split
    · exact .inl (hrefused _ rfl)
    · split
      · exact .inl (hrefused _ rfl)
      · split
        · exact .inl (hrefused _ rfl)
        · split
          · exact .inl (hrefused _ rfl)
          · rename_i newHash hhash
            have hne : newHash ≠ "" := Bcrypt.hash_ne_empty hdigest hhash
            split
            · exact .inl (hrefused _ rfl)
            · rename_i jwt hrotate
              unfold JwtSessionService.rotateSecret at hrotate
              split at hrotate
              · cases hrotate
              · cases hrotate
                right
                by_cases hadmin : casing.lower (PyText.strip subject) = "admin"
                · simp only [hadmin, if_true]
                  refine ⟨⟨rfl, h.version, .inr rfl, h.diskVersion, rfl, h.diskViewer, h.expiry⟩,
                    trivial, fun _ => hne, id, ?_⟩
                  intro session hmem
                  apply Service.opened_of_openSession _ _ hmem
                  · exact h.expiry
                  · exact Service.hashFor_isSome.mpr (.inl ⟨rfl, hne⟩)
                · have hviewer : casing.lower (PyText.strip subject) = "viewer" := by tauto
                  simp only [hviewer, if_neg (show ¬"viewer" = "admin" by decide)]
                  refine ⟨⟨rfl, h.version, .inr rfl, h.diskVersion, h.diskAdmin, rfl, h.expiry⟩,
                    trivial, id, fun _ => hne, ?_⟩
                  intro session hmem
                  apply Service.opened_of_openSession _ _ hmem
                  · exact h.expiry
                  · exact Service.hashFor_isSome.mpr (.inr ⟨rfl, hne⟩)

theorem JwtSessionService.make_eq_some {secret : String} {expiryMinutes sessionVersion : Int}
    {s : JwtSessionService} (h : make secret expiryMinutes sessionVersion = some s) :
    s = ⟨secret, expiryMinutes, sessionVersion⟩ ∧ 0 < expiryMinutes := by
  unfold make at h
  split at h
  · cases h
  · split at h
    · cases h
    · rename_i hpos
      split at h
      · cases h
      · split at h
        · cases h
        · cases h
          exact ⟨rfl, not_le.mp hpos⟩

theorem Service.build_eq_some {disk : WebAuthConfig} {newSecret : String} {service : Service}
    (h : Service.build disk newSecret = some service) :
    service.disk = disk ∧
      service.config =
        (if disk.jwtSecret = "" then { disk with jwtSecret := newSecret } else disk) ∧
      service.jwt.secret = service.config.jwtSecret ∧
      service.jwt.sessionVersion = disk.sessionVersion ∧ 0 < service.jwt.expiry := by
  unfold Service.build at h
  obtain ⟨jwt, hjwt, h⟩ := Option.bind_eq_some_iff.mp h
  obtain ⟨lockout, _, h⟩ := Option.bind_eq_some_iff.mp h
  obtain ⟨rfl, hexpiry⟩ := JwtSessionService.make_eq_some hjwt
  cases h
  refine ⟨rfl, rfl, rfl, ?_, hexpiry⟩
  by_cases hsecret : disk.jwtSecret = ""
  · simp only [if_pos hsecret]
  · simp only [if_neg hsecret]

theorem settled_build {disk : WebAuthConfig} {newSecret : String} {service : Service}
    (h : Service.build disk newSecret = some service) : Settled service := by
  obtain ⟨hdisk, hconfig, hsecret, hversion, hexpiry⟩ := Service.build_eq_some h
  by_cases hnone : disk.jwtSecret = ""
  · rw [if_pos hnone] at hconfig
    exact ⟨hsecret.symm, by rw [hconfig, hversion], .inl (by rw [hdisk, hnone]),
      by rw [hdisk, hversion], by rw [hdisk, hconfig], by rw [hdisk, hconfig], hexpiry⟩
  · rw [if_neg hnone] at hconfig
    exact ⟨hsecret.symm, by rw [hconfig, hversion], .inr (by rw [hdisk, hsecret, hconfig]),
      by rw [hdisk, hversion], by rw [hdisk, hconfig], by rw [hdisk, hconfig], hexpiry⟩

/-- A settled service that is started again signs as before, or with the new secret where the
    file has none, and has the same accounts. -/
theorem restart_cases {s : Service} (h : Settled s) {newSecret : String} {service : Service}
    (hbuild : Service.build s.disk newSecret = some service) :
    service.jwt.sessionVersion = s.jwt.sessionVersion ∧
      (service.jwt.secret = s.jwt.secret ∨ service.jwt.secret = newSecret) ∧
      service.config.adminPasswordHash = s.config.adminPasswordHash ∧
      service.config.viewerPasswordHash = s.config.viewerPasswordHash := by
  obtain ⟨_, hconfig, hsecret, hversion, _⟩ := Service.build_eq_some hbuild
  refine ⟨hversion.trans h.diskVersion, ?_, ?_, ?_⟩
  · by_cases hnone : s.disk.jwtSecret = ""
    · right
      rw [hsecret, hconfig, if_pos hnone]
    · left
      rw [hsecret, hconfig, if_neg hnone]
      exact h.diskSecret.resolve_left hnone
  · rw [hconfig, ← h.diskAdmin]
    split <;> rfl
  · rw [hconfig, ← h.diskViewer]
    split <;> rfl

/-! ### What an event can do -/

/-- The signing and the accounts after an event, and the sessions it opened. -/
structure Advances (s s' : State) : Prop where
  settled : Settled s'.toService
  current : s'.jwt.secret ∈ s'.secrets
  secrets : ∀ x ∈ s.secrets, x ∈ s'.secrets
  signing : s'.jwt.secret = s.jwt.secret ∧ s'.jwt.sessionVersion = s.jwt.sessionVersion ∧
      s'.revocations = s.revocations ∨
    s'.jwt.secret ∉ s.secrets ∨
    s'.jwt.secret = s.jwt.secret ∧ s.jwt.sessionVersion < s'.jwt.sessionVersion
  admin : s.config.adminPasswordHash ≠ "" → s'.config.adminPasswordHash ≠ ""
  viewer : s'.clears = s.clears ∧
      (s.config.viewerPasswordHash ≠ "" → s'.config.viewerPasswordHash ≠ "") ∨
    s'.clears = s.clears + 1
  issued : ∃ opened, s'.issued = s.issued ++ opened ∧ ∀ i ∈ opened,
    Opened s'.toService i.toSessionToken ∧ i.revocations = s'.revocations ∧ i.clears = s'.clears

theorem advances_record {s : State} (hcurrent : s.jwt.secret ∈ s.secrets)
    {outcome : Service × Reply} (h : Keeps s.toService outcome) : Advances s (s.record outcome) where
  settled := h.settled
  current := by
    have hsecret : (s.record outcome).jwt.secret = s.jwt.secret := h.secret
    rw [hsecret]
    exact hcurrent
  secrets := fun _ hx => hx
  signing := .inl ⟨h.secret, h.version, rfl⟩
  admin := h.admin
  viewer := .inl ⟨rfl, h.viewer⟩
  issued := by
    refine ⟨_, rfl, ?_⟩
    intro i hi
    obtain ⟨session, hsession, rfl⟩ := List.mem_map.mp hi
    exact ⟨h.opened session hsession, rfl, rfl⟩

/-- **One event.**  It advances the service, and the removals count it exactly when it removes
    the viewer account; then nothing is opened and the signing is as before. -/
theorem advances_step {bcrypt : Bcrypt} (hdigest : bcrypt.DigestsNonempty) {casing : PyText.Casing}
    {s s' : State} {e : Event} (hsettled : Settled s.toService) (hcurrent : s.jwt.secret ∈ s.secrets)
    (h : step bcrypt casing s e = some s') :
    Advances s s' ∧ (e.removesViewer = false → s'.clears = s.clears) ∧
      (e.removesViewer = true → s'.clears = s.clears + 1 ∧ s'.issued = s.issued ∧ s'.jwt = s.jwt ∧
        s'.revocations = s.revocations ∧
        s'.config.adminPasswordHash = s.config.adminPasswordHash) := by
  cases e with
  | completeSetup password salt now =>
    cases h
    exact ⟨advances_record hcurrent (keeps_completeSetup hdigest hsettled password salt now),
      fun _ => rfl, nofun⟩
  | login username password now asked failed =>
    cases h
    exact ⟨advances_record hcurrent (keeps_login hsettled username password now asked failed),
      fun _ => rfl, nofun⟩
  | changePassword subject currentPassword newPassword salt newSecret now =>
    simp only [step] at h
    split at h
    · rename_i hfresh
      cases h
      refine ⟨?_, fun _ => rfl, nofun⟩
      have hkept : ∀ x ∈ s.secrets, x ∈ newSecret :: s.secrets :=
        fun x hx => List.mem_cons_of_mem newSecret hx
      rcases changePassword_cases hdigest casing hsettled subject currentPassword newPassword
        salt newSecret now with hkeeps | ⟨hsettled', hsecret, hadmin, hviewer, hopened⟩
      · have hsame := hkeeps.secret
        refine ⟨hkeeps.settled, ?_, hkept, .inl ⟨hkeeps.secret, hkeeps.version, ?_⟩, hkeeps.admin,
          .inl ⟨rfl, hkeeps.viewer⟩, _, rfl, ?_⟩
        · exact hkept _ (by rw [← hsame] at hcurrent; exact hcurrent)
        · simp only [State.record, hsame, if_true, Nat.add_zero]
        · intro i hi
          obtain ⟨session, hsession, rfl⟩ := List.mem_map.mp hi
          exact ⟨hkeeps.opened session hsession, rfl, rfl⟩
      · refine ⟨hsettled', ?_, hkept, .inr (.inl ?_), hadmin, .inl ⟨rfl, hviewer⟩, _, rfl, ?_⟩
        · exact List.mem_cons.mpr (.inl hsecret)
        · intro hmem
          exact hfresh.2 (hsecret ▸ hmem)
        · intro i hi
          obtain ⟨session, hsession, rfl⟩ := List.mem_map.mp hi
          exact ⟨hopened session hsession, rfl, rfl⟩
    · cases h
  | logoutAllSessions =>
    cases h
    refine ⟨⟨⟨hsettled.secret, rfl, hsettled.diskSecret, rfl, hsettled.diskAdmin,
      hsettled.diskViewer, hsettled.expiry⟩, hcurrent, fun _ hx => hx, .inr (.inr ⟨rfl, ?_⟩), id,
      .inl ⟨rfl, id⟩, _, rfl, nofun⟩, fun _ => rfl, nofun⟩
    exact Int.lt_succ _
  | updateLockoutConfig maxAttempts cooldownMinutes =>
    cases h
    exact ⟨advances_record hcurrent (keeps_updateLockoutConfig hsettled maxAttempts cooldownMinutes),
      fun _ => rfl, nofun⟩
  | updateSessionLifetime minutes =>
    cases h
    exact ⟨advances_record hcurrent (keeps_updateSessionLifetime hsettled minutes), fun _ => rfl,
      nofun⟩
  | setupViewer password salt =>
    cases h
    exact ⟨advances_record hcurrent (keeps_setupViewer hdigest hsettled password salt),
      fun _ => rfl, nofun⟩
  | clearViewer =>
    cases h
    refine ⟨⟨⟨hsettled.secret, hsettled.version, hsettled.diskSecret, hsettled.diskVersion,
      hsettled.diskAdmin, rfl, hsettled.expiry⟩, hcurrent, fun _ hx => hx, .inl ⟨rfl, rfl, rfl⟩, id,
      .inr rfl, _, rfl, nofun⟩, nofun, fun _ => ⟨rfl, List.append_nil _, rfl, rfl, rfl⟩⟩
  | restart newSecret =>
    simp only [step] at h
    split at h
    · rename_i hfresh
      obtain ⟨service, hbuild, rfl⟩ := Option.map_eq_some_iff.mp h
      obtain ⟨hversion, hsecret, hadmin, hviewer⟩ := restart_cases hsettled hbuild
      refine ⟨⟨settled_build hbuild, ?_, fun x hx => List.mem_cons_of_mem _ hx, ?_,
        fun hne => hadmin ▸ hne, .inl ⟨rfl, fun hne => hviewer ▸ hne⟩, [], ?_, nofun⟩,
        fun _ => rfl, nofun⟩
      · rcases hsecret with hsame | hnew
        · exact List.mem_cons_of_mem _ (hsame ▸ hcurrent)
        · exact List.mem_cons.mpr (.inl hnew)
      · rcases hsecret with hsame | hnew
        · exact .inl ⟨hsame, hversion, rfl⟩
        · right
          left
          intro hmem
          exact hfresh.2 (hnew ▸ hmem)
      · exact (List.append_nil _).symm
    · cases h

/-! ### The ledger -/

/-- What the ledger says of a session, in every state. -/
structure Fits (s : State) (i : Issued) : Prop where
  known : i.secret ∈ s.secrets
  version : i.secret = s.jwt.secret → i.sessionVersion ≤ s.jwt.sessionVersion
  lasting : i.iat < i.exp
  account : i.subject = "admin" ∧ i.role = ROLE_ADMIN ∧ s.config.adminPasswordHash ≠ "" ∨
    i.subject = "viewer" ∧ i.role = ROLE_VIEWER ∧
      (i.clears = s.clears → s.config.viewerPasswordHash ≠ "")
  revocations : Live s i → i.revocations = s.revocations
  clears : i.clears ≤ s.clears

structure Invariant (s : State) : Prop where
  settled : Settled s.toService
  current : s.jwt.secret ∈ s.secrets
  fits : ∀ i ∈ s.issued, Fits s i

theorem Invariant.start {disk : WebAuthConfig} {newSecret : String} {service : Service}
    (h : Service.build disk newSecret = some service) : Invariant (start service) where
  settled := settled_build h
  current := List.mem_singleton.mpr rfl
  fits := nofun

/-- A session that was there before is signed as the service now signs only if it was before and
    the signing is as it was. -/
theorem Advances.live {s s' : State} (h : Advances s s') {i : Issued} (hfits : Fits s i)
    (hlive : Live s' i) : Live s i ∧ s'.jwt.secret = s.jwt.secret ∧
      s'.jwt.sessionVersion = s.jwt.sessionVersion ∧ s'.revocations = s.revocations := by
  obtain ⟨hsecret, hversion⟩ := hlive
  rcases h.signing with ⟨hsame, hsame', hrev⟩ | hnew | ⟨hsame, hlater⟩
  · exact ⟨⟨hsecret.trans hsame, hversion.trans hsame'⟩, hsame, hsame', hrev⟩
  · exact absurd (hsecret ▸ hfits.known) hnew
  · have hle := hfits.version (hsecret.trans hsame)
    omega

theorem Advances.fits_old {s s' : State} (h : Advances s s') {i : Issued} (hfits : Fits s i) :
    Fits s' i where
  known := h.secrets _ hfits.known
  version := by
    intro hsecret
    rcases h.signing with ⟨hsame, hsame', _⟩ | hnew | ⟨hsame, hlater⟩
    · rw [hsame']
      exact hfits.version (hsecret.trans hsame)
    · exact absurd (hsecret ▸ hfits.known) hnew
    · exact (hfits.version (hsecret.trans hsame)).trans hlater.le
  lasting := hfits.lasting
  account := by
    rcases hfits.account with ⟨hsubject, hrole, hhash⟩ | ⟨hsubject, hrole, hhash⟩
    · exact .inl ⟨hsubject, hrole, h.admin hhash⟩
    · refine .inr ⟨hsubject, hrole, ?_⟩
      intro hclears
      rcases h.viewer with ⟨hsame, hkeep⟩ | hlater
      · exact hkeep (hhash (hclears.trans hsame))
      · have hle := hfits.clears
        omega
  revocations := by
    intro hlive
    obtain ⟨hbefore, _, _, hrev⟩ := h.live hfits hlive
    rw [hrev]
    exact hfits.revocations hbefore
  clears := by
    have hle := hfits.clears
    rcases h.viewer with ⟨hsame, _⟩ | hlater
    · omega
    · omega

theorem Advances.fits_new {s s' : State} (h : Advances s s') {i : Issued}
    (hopened : Opened s'.toService i.toSessionToken) (hrev : i.revocations = s'.revocations)
    (hclears : i.clears = s'.clears) : Fits s' i where
  known := hopened.secret ▸ h.current
  version := fun _ => hopened.version.le
  lasting := hopened.lasting
  account := by
    rcases hopened.account with hadmin | ⟨hsubject, hrole, hhash⟩
    · exact .inl hadmin
    · exact .inr ⟨hsubject, hrole, fun _ => hhash⟩
  revocations := fun _ => hrev
  clears := hclears.le

theorem Advances.invariant {s s' : State} (h : Advances s s') (hinv : Invariant s) :
    Invariant s' where
  settled := h.settled
  current := h.current
  fits := by
    intro i hi
    obtain ⟨opened, hissued, hnew⟩ := h.issued
    rw [hissued] at hi
    rcases List.mem_append.mp hi with hold | hopened
    · exact h.fits_old (hinv.fits i hold)
    · obtain ⟨hservice, hrev, hclears⟩ := hnew i hopened
      exact h.fits_new hservice hrev hclears

/-! ### What is accepted -/

section

variable {jwt : JwtLibrary}

theorem requireAuth_eq_ok {s : JwtSessionService} {request : Request} {now : Int}
    {claims : SessionClaims} : requireAuth jwt s request now = .ok claims ↔
      s.verify jwt (extractToken request) now = some claims := by
  unfold requireAuth
  cases s.verify jwt (extractToken request) now with
  | none => simp
  | some accepted => simp

theorem requireAdmin_eq_ok {s : JwtSessionService} {request : Request} {now : Int}
    {claims : SessionClaims} : requireAdmin jwt s request now = .ok claims ↔
      requireAuth jwt s request now = .ok claims ∧ claims.role = ROLE_ADMIN := by
  unfold requireAdmin
  cases requireAuth jwt s request now with
  | error e => simp [bind, Except.bind]
  | ok accepted =>
    by_cases hadmin : accepted.role = ROLE_ADMIN
    · simp only [bind, Except.bind, pure, Except.pure, hadmin, ne_eq, not_true, if_false,
        Except.ok.injEq]
      constructor
      · rintro rfl
        exact ⟨rfl, hadmin⟩
      · exact And.left
    · simp only [bind, Except.bind, ne_eq, hadmin, not_false_eq_true, if_true, throw,
        throwThe, MonadExceptOf.throw, reduceCtorEq, Except.ok.injEq, false_iff, not_and]
      rintro rfl
      exact hadmin

/-- A token of the ledger is accepted only as the session it opened, while the version is the
    current one and before it expires. -/
theorem claims_of_verify (hjwt : jwt.Decodes) {s : JwtSessionService} {session : SessionToken}
    (hsecret : session.secret = s.secret) {now : Int} {claims : SessionClaims}
    (h : s.verify jwt (session.token jwt) now = some claims) :
    claims = session.claims ∧ session.sessionVersion = s.sessionVersion ∧
      now < session.exp * 1000000 := by
  unfold JwtSessionService.verify at h
  rw [if_neg (hjwt.nonempty session)] at h
  cases hdecode : jwt.decode (session.token jwt) s.secret now with
  | none =>
    rw [hdecode] at h
    cases h
  | some payload =>
    rw [hdecode] at h
    obtain ⟨rfl, hbefore⟩ := hjwt.signed (hsecret ▸ hdecode)
    simp only [SessionToken.payload] at h
    split at h
    · cases h
    · split at h
      · cases h
      · split at h
        · rename_i hversion
          cases h
          exact ⟨rfl, hversion, hbefore⟩
        · cases h

/-- A session of the ledger that is signed as the service now signs is accepted when it was
    issued. -/
theorem verify_of_live (hjwt : jwt.Decodes) {s : State} {i : Issued} (hfits : Fits s i)
    (hlive : Live s i) :
    s.jwt.verify jwt (i.token jwt) (i.iat * 1000000) = some i.claims := by
  have hdecode : jwt.decode (i.token jwt) s.jwt.secret (i.iat * 1000000) = some i.payload := by
    rw [← hlive.1]
    apply hjwt.inTime le_rfl
    have hlasting := hfits.lasting
    omega
  have hsubject : i.subject ≠ "" := by
    rcases hfits.account with ⟨hadmin, _⟩ | ⟨hviewer, _⟩
    · rw [hadmin]
      decide
    · rw [hviewer]
      decide
  have hrole : i.role ∈ validRoles := by
    rcases hfits.account with ⟨_, hadmin, _⟩ | ⟨_, hviewer, _⟩
    · rw [hadmin]
      decide
    · rw [hviewer]
      decide
  unfold JwtSessionService.verify
  rw [if_neg (hjwt.nonempty _), hdecode]
  simp only [SessionToken.payload]
  rw [if_neg hsubject, if_neg (not_not.mpr hrole), if_pos hlive.2]
  rfl

/-- A session that fits the ledger and was not overtaken is accepted as the property asks. -/
theorem endsSessions_of_issued (hjwt : jwt.Decodes) {s : State} {i : Issued} (hi : i ∈ s.issued)
    (hfits : Fits s i) (hsecret : i.secret = s.jwt.secret)
    (hclears : i.subject = "viewer" → i.clears = s.clears) {request : Request}
    (htoken : i.token jwt = extractToken request) {now : Int} {claims : SessionClaims}
    (h : s.jwt.verify jwt (extractToken request) now = some claims) :
    ∃ i ∈ s.issued, i.token jwt = extractToken request ∧ claims = i.claims ∧
      now < i.exp * 1000000 ∧ i.revocations = s.revocations ∧
      (s.toService.hashFor claims.subject).isSome ∧
      (claims.subject = "viewer" → i.clears = s.clears) := by
  rw [← htoken] at h
  obtain ⟨rfl, hversion, hbefore⟩ := claims_of_verify hjwt hsecret h
  refine ⟨i, hi, htoken, rfl, hbefore, hfits.revocations ⟨hsecret, hversion⟩, ?_, hclears⟩
  apply Service.hashFor_isSome.mpr
  rcases hfits.account with ⟨hadmin, _, hhash⟩ | ⟨hviewer, _, hhash⟩
  · exact .inl ⟨hadmin, hhash⟩
  · exact .inr ⟨hviewer, hhash (hclears hviewer)⟩

theorem endsSessions_start (service : Service) : EndsSessions jwt (start service) := by
  intro request now claims hunforged haccepted
  rw [requireAuth_eq_ok] at haccepted
  unfold JwtSessionService.verify at haccepted
  split at haccepted
  · cases haccepted
  · split at haccepted
    · cases haccepted
    · rename_i payload hdecode
      obtain ⟨i, hi, _⟩ := hunforged now payload hdecode
      cases hi

theorem verify_congr {s s' : JwtSessionService} (hsecret : s'.secret = s.secret)
    (hversion : s'.sessionVersion = s.sessionVersion) (token : String) (now : Int) :
    s'.verify jwt token now = s.verify jwt token now := by
  unfold JwtSessionService.verify
  rw [hsecret, hversion]

theorem exists_issued_of_verify {s : State} {token : String} (hunforged : Unforged jwt s token)
    {now : Int} {claims : SessionClaims} (h : s.jwt.verify jwt token now = some claims) :
    ∃ i ∈ s.issued, i.secret = s.jwt.secret ∧ i.token jwt = token := by
  unfold JwtSessionService.verify at h
  split at h
  · cases h
  · split at h
    · cases h
    · rename_i payload hdecode
      exact hunforged now payload hdecode

/-- **One event.**  The ledger stays in order; from a state that ends its sessions the event leads
    to one that does exactly when it leaves no viewer with a removed account. -/
theorem endsSessions_step (hjwt : jwt.Decodes) {bcrypt : Bcrypt} (hdigest : bcrypt.DigestsNonempty)
    {casing : PyText.Casing} {s s' : State} {e : Event} (hinv : Invariant s)
    (hends : EndsSessions jwt s) (h : step bcrypt casing s e = some s') :
    Invariant s' ∧ (EndsSessions jwt s' ↔ NoViewerLeft s e) := by
  obtain ⟨hadvances, hkept, hremoved⟩ := advances_step hdigest hinv.settled hinv.current h
  have hinv' : Invariant s' := hadvances.invariant hinv
  refine ⟨hinv', ?_, ?_⟩
  · intro hends' hremoves i hi hlive hviewer
    obtain ⟨hclears, hissued, hsigning, _⟩ := hremoved hremoves
    have htoken : extractToken { cookie := some (i.token jwt) } = i.token jwt := by
      simp only [extractToken, if_neg (hjwt.nonempty _)]
    have haccepted : requireAuth jwt s'.jwt { cookie := some (i.token jwt) } (i.iat * 1000000) =
        .ok i.claims := by
      rw [requireAuth_eq_ok, htoken, hsigning]
      exact verify_of_live hjwt (hinv.fits i hi) hlive
    obtain ⟨j, hj, _, _, _, _, _, hjclears⟩ := hends' _ _ _
      (fun _ _ _ => ⟨i, hissued ▸ hi, hsigning ▸ hlive.1, htoken.symm⟩) haccepted
    -- every session in the ledger was opened before the removal
    have hbefore := (hinv.fits j (hissued ▸ hj)).clears
    have hafter := hjclears hviewer
    omega
  · intro hguard request now claims hunforged haccepted
    rw [requireAuth_eq_ok] at haccepted
    obtain ⟨i, hi, hsecret, htoken⟩ := exists_issued_of_verify hunforged haccepted
    obtain ⟨opened, hissued, hnew⟩ := hadvances.issued
    have hmem := hi
    rw [hissued] at hmem
    rcases List.mem_append.mp hmem with hold | hopened
    · have hclaims := claims_of_verify hjwt hsecret (htoken ▸ haccepted)
      obtain ⟨hlive, hsecret', hversion', hrev⟩ :=
        hadvances.live (hinv.fits i hold) ⟨hsecret, hclaims.2.1⟩
      have hviewer : claims.subject = "viewer" → s'.clears = s.clears := by
        intro hsubject
        cases hremoves : e.removesViewer with
        | false => exact hkept hremoves
        | true =>
          rw [hclaims.1] at hsubject
          exact absurd hsubject (hguard hremoves i hold hlive)
      have hbefore : requireAuth jwt s.jwt request now = .ok claims := by
        rw [requireAuth_eq_ok, ← verify_congr hsecret' hversion']
        exact haccepted
      obtain ⟨j, hj, hjtoken, hjclaims, hjbefore, hjrev, haccount, hjclears⟩ :=
        hends _ _ _ (fun _ _ _ => ⟨i, hold, hlive.1, htoken⟩) hbefore
      refine ⟨j, ?_, hjtoken, hjclaims, hjbefore, hjrev.trans hrev.symm, ?_, ?_⟩
      · rw [hissued]
        exact List.mem_append_left _ hj
      · apply Service.hashFor_isSome.mpr
        rcases Service.hashFor_isSome.mp haccount with ⟨hadmin, hhash⟩ | ⟨hsubject, hhash⟩
        · exact .inl ⟨hadmin, hadvances.admin hhash⟩
        · refine .inr ⟨hsubject, ?_⟩
          have hsame := hviewer hsubject
          rcases hadvances.viewer with ⟨_, hkeep⟩ | hlater
          · exact hkeep hhash
          · omega
      · intro hsubject
        exact (hjclears hsubject).trans (hviewer hsubject).symm
    · obtain ⟨hservice, hrev, hclears⟩ := hnew i hopened
      exact endsSessions_of_issued hjwt hi (hinv'.fits i hi) hsecret (fun _ => hclears) htoken
        haccepted

end

/-- **Session revocation.**  In every run from the first start, the accepted sessions are the
    unexpired ones whose account is there and that were opened after the last password change,
    the last sign-out and, for a viewer, the last removal of the viewer account, exactly when the
    viewer account is removed only while no viewer session is signed with the secret and the
    version then in use. -/
theorem endsSessions_iff {jwt : JwtLibrary} (hjwt : jwt.Decodes) {bcrypt : Bcrypt}
    (hdigest : bcrypt.DigestsNonempty) {casing : PyText.Casing} {disk : WebAuthConfig}
    {newSecret : String} {service : Service}
    (hbuild : Service.build disk newSecret = some service) {events : List Event} {s : State}
    (hrun : GuardedRun.replay (step bcrypt casing) GuardedRun.Always (start service) events =
      some s) :
    GuardedRun.Throughout (step bcrypt casing) (EndsSessions jwt) (start service) events ↔
      GuardedRun.replay (step bcrypt casing) NoViewerLeft (start service) events = some s :=
  GuardedRun.throughout_iff_replay (I := Invariant)
    (fun hI hP h => endsSessions_step hjwt hdigest hI hP h) (Invariant.start hbuild)
    (endsSessions_start service) hrun

/-! ### A viewer account and its removal -/

def ClaimValue.json : ClaimValue → JsonText.Value Empty
  | .text s => .str s
  | .number n => .int n
  | .flag b => .bool b
  | .other => .null

theorem ClaimValue.json_injective {v w : ClaimValue} (h : v.json = w.json) : v = w := by
  cases v <;> cases w <;> simp_all [ClaimValue.json]

def signedJson (payload : Payload) (secret : String) : JsonText.Value Empty :=
  .dict (.ofList [("sub", payload.sub.json), ("role", payload.role.json), ("sv", payload.sv.json),
    ("iat", .int payload.iat), ("exp", .int payload.exp), ("key", .str secret)])

theorem signedJson_injective {payload payload' : Payload} {secret : String}
    (h : signedJson payload secret = signedJson payload' secret) : payload = payload' := by
  simp only [signedJson, JsonText.Entries.ofList, JsonText.Value.dict.injEq,
    JsonText.Entries.cons.injEq, JsonText.Value.int.injEq, true_and, and_true] at h
  obtain ⟨hsub, hrole, hsv, hiat, hexp⟩ := h
  cases payload
  cases payload'
  simp only [Payload.mk.injEq]
  exact ⟨ClaimValue.json_injective hsub, ClaimValue.json_injective hrole,
    ClaimValue.json_injective hsv, hiat, hexp⟩

/-- A library whose tokens are the claims themselves. -/
noncomputable def plainJwt : JwtLibrary where
  encode payload secret := String.ofList (JsonText.dumps (signedJson payload secret))
  decode token secret now := by
    classical exact
    if h : ∃ payload : Payload, token = String.ofList (JsonText.dumps (signedJson payload secret)) ∧
        payload.iat * 1000000 ≤ now ∧ now < payload.exp * 1000000 then some h.choose else none

theorem plainJwt_decodes : plainJwt.Decodes where
  nonempty := by
    intro session h
    obtain ⟨c, rest, htext, _⟩ :=
      JsonText.headKind_dumps (signedJson session.payload session.secret)
    have hlist := congrArg String.toList h
    simp only [SessionToken.token, plainJwt, htext, String.toList_ofList] at hlist
    cases hlist
  signed := by
    intro session now payload h
    simp only [plainJwt, SessionToken.token] at h
    split at h
    · rename_i hex
      obtain ⟨htext, _, hbefore⟩ := hex.choose_spec
      have hpayload : session.payload = hex.choose :=
        signedJson_injective (JsonText.dumps_injective (String.ofList_injective htext))
      cases h
      exact ⟨hpayload.symm, by rw [← hpayload] at hbefore; exact hbefore⟩
    · cases h
  inTime := by
    intro session now hfrom hbefore
    simp only [plainJwt, SessionToken.token]
    have hex : ∃ payload : Payload,
        String.ofList (JsonText.dumps (signedJson session.payload session.secret)) =
          String.ofList (JsonText.dumps (signedJson payload session.secret)) ∧
        payload.iat * 1000000 ≤ now ∧ now < payload.exp * 1000000 :=
      ⟨session.payload, rfl, hfrom, hbefore⟩
    rw [dif_pos hex]
    have hpayload := signedJson_injective
      (JsonText.dumps_injective (String.ofList_injective hex.choose_spec.1))
    rw [← hpayload]

def plainBcrypt : Bcrypt where
  hashpw plaintext _ := some ("$2b$12$" ++ plaintext)
  checkpw candidate digest := digest = "$2b$12$" ++ candidate

theorem plainBcrypt_digestsNonempty : plainBcrypt.DigestsNonempty := by
  intro plaintext salt digest h hempty
  cases h
  have hlist := congrArg String.toList hempty
  simp at hlist

def freshInstall : Service where
  config := { jwtSecret := "first" }
  disk := {}
  lockout := { maxAttempts := 5, cooldownSeconds := 300 }
  jwt := { secret := "first", expiry := 480, sessionVersion := 1 }

/-- The admin sets up the dashboard and a viewer account, and a viewer logs in. -/
def viewerLogsIn : List Event :=
  [.completeSetup "admin-password" "" 1700000000000000, .setupViewer "viewer-password" "",
    .login "Viewer " "viewer-password" 1700000060000000 60 60]

/-- After a sign-out of everybody the viewer account is removed, and no viewer is left. -/
theorem endsSessions_iff_signedOut :
    GuardedRun.Throughout (step plainBcrypt .ascii) (EndsSessions plainJwt) (start freshInstall)
      (viewerLogsIn ++ [.logoutAllSessions, .clearViewer, .restart "second"]) := by
  have hguarded : (GuardedRun.replay (step plainBcrypt .ascii) NoViewerLeft (start freshInstall)
      (viewerLogsIn ++ [.logoutAllSessions, .clearViewer, .restart "second"])).isSome := by
    decide +kernel
  obtain ⟨s, hs⟩ := Option.isSome_iff_exists.mp hguarded
  exact (endsSessions_iff plainJwt_decodes plainBcrypt_digestsNonempty
    (show Service.build {} "first" = some freshInstall from rfl)
    (GuardedRun.replay_mono (fun _ _ _ => trivial) hs)).mpr hs

/-- The viewer account is removed while the viewer is logged in, whose session goes on. -/
theorem removed_viewer_accepted :
    (GuardedRun.replay (step plainBcrypt .ascii) GuardedRun.Always (start freshInstall)
      (viewerLogsIn ++ [.clearViewer])).isSome ∧
    ¬ GuardedRun.Throughout (step plainBcrypt .ascii) (EndsSessions plainJwt) (start freshInstall)
      (viewerLogsIn ++ [.clearViewer]) := by
  have hruns : (GuardedRun.replay (step plainBcrypt .ascii) GuardedRun.Always (start freshInstall)
      (viewerLogsIn ++ [.clearViewer])).isSome := by
    decide +kernel
  refine ⟨hruns, ?_⟩
  intro hends
  obtain ⟨s, hs⟩ := Option.isSome_iff_exists.mp hruns
  have hbuild : Service.build {} "first" = some freshInstall := rfl
  have hguarded := (GuardedRun.throughout_iff_replay (I := Invariant)
    (fun hI hP h => endsSessions_step plainJwt_decodes plainBcrypt_digestsNonempty hI hP h)
    (Invariant.start hbuild) (endsSessions_start freshInstall) hs).mp hends
  have hnone : (GuardedRun.replay (step plainBcrypt .ascii) NoViewerLeft (start freshInstall)
      (viewerLogsIn ++ [.clearViewer])).isSome = false := by
    decide +kernel
  rw [hguarded] at hnone
  cases hnone

end Meshpoint.AuthService
