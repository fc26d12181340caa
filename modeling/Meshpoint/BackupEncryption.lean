import Meshpoint.BackupArchive

/-!
# Encrypted backups

An encrypted backup is a header of 40 bytes and the ciphertext of the archive. The header says
which cost parameters the key is derived with, so whoever uploads a file chooses them. The
libraries are parameters, with what they raise: the constructor and the derivation of Scrypt for
cost parameters they do not take, AES-GCM for data that is too long.

`decoding_iff` says when a backup comes back as it was, and when an upload is answered with
bytes or a validation error and nothing else.
-/

namespace Meshpoint.BackupEncryption

open BackupArchive (Fresh HEADER_SIZE MAGIC MAX_PASSWORD_LENGTH MIN_PASSWORD_LENGTH isEncrypted)
open ByteCodec

/-! ### Passwords -/

/-- A code point of a Python string: a character, or half of a surrogate pair on its own. -/
inductive CodePoint where
  | scalar (c : Char)
  | surrogate (n : Fin 2048)
deriving DecidableEq, Repr

abbrev Password := List CodePoint

/-- `password.encode("utf-8")`; `none` where it raises. -/
def encode : Password → Option Bytes
  | [] => some []
  | .scalar c :: rest => (encode rest).map (String.utf8EncodeChar c ++ ·)
  | .surrogate _ :: _ => none

def Encodes (password : Password) : Prop := ∀ point ∈ password, ∃ c, point = .scalar c

def ofString (s : String) : Password := s.toList.map .scalar

theorem encode_eq_none_iff {password : Password} :
    encode password = none ↔ ¬ Encodes password := by
  induction password with
  | nil => simp [encode, Encodes]
  | cons point rest ih =>
    cases point with
    | scalar c =>
      rw [encode, Option.map_eq_none_iff, ih, Encodes, Encodes, List.forall_mem_cons]
      simp
    | surrogate n => simp [encode, Encodes]

theorem encode_ofString (s : String) : encode (ofString s) = some (utf8 s) := by
  have hchars : ∀ cs : List Char, encode (cs.map .scalar) = some (utf8Chars cs) := by
    intro cs
    induction cs with
    | nil => rfl
    | cons c rest ih => rw [List.map_cons, encode, ih]; rfl
  exact hchars s.toList

theorem encodes_ofString (s : String) : Encodes (ofString s) := by
  intro point hpoint
  obtain ⟨c, -, rfl⟩ := List.mem_map.mp hpoint
  exact ⟨c, rfl⟩

/-! ### Libraries -/

/-- What is used of `cryptography`. `ε` are the exceptions of Scrypt. -/
structure Libraries (ε : Type) where
  /-- What `Scrypt(n=2**n_log2, r=r, p=p)` raises. -/
  initError : (nLog2 r p : Nat) → Option ε
  /-- What `derive` raises. -/
  deriveError : (nLog2 r p : Nat) → Option ε
  scrypt : (password salt : Bytes) → (nLog2 r p : Nat) → Bytes
  /-- Data of this length is too long for `AESGCM.encrypt`. -/
  encryptOverflows : Nat → Bool
  /-- Data of this length is too long for `AESGCM.decrypt`. -/
  decryptOverflows : Nat → Bool
  encrypt : (key nonce plaintext header : Bytes) → Bytes
  /-- `AESGCM(key).decrypt`; `none` is `InvalidTag`. -/
  decrypt : (key nonce ciphertext header : Bytes) → Option Bytes

def KEY_SIZE : Nat := 32

/-- Scrypt gives keys of the asked size and takes the parameters of a new backup, but no cost
    of 1 and no parameter 0; what AES-GCM encrypts it decrypts again, and its tag has 16 bytes. -/
structure Libraries.Correct {ε : Type} (libs : Libraries ε) : Prop where
  length_scrypt : ∀ password salt nLog2 r p,
    (libs.scrypt password salt nLog2 r p).length = KEY_SIZE
  default_init : libs.initError 14 8 1 = none
  default_derive : libs.deriveError 14 8 1 = none
  init_zero : ∀ nLog2 r p, nLog2 = 0 ∨ r = 0 ∨ p = 0 → (libs.initError nLog2 r p).isSome
  decrypt_encrypt : ∀ key nonce plaintext header, key.length = KEY_SIZE → nonce.length = 12 →
    libs.decrypt key nonce (libs.encrypt key nonce plaintext header) header = some plaintext
  length_encrypt : ∀ key nonce plaintext header, key.length = KEY_SIZE → nonce.length = 12 →
    (libs.encrypt key nonce plaintext header).length = plaintext.length + 16

/-- What a call raises. -/
inductive Raised (ε : Type) where
  /-- `BackupDecryptionError` -/
  | decryption (text : String)
  /-- `RestoreValidationError` -/
  | validation (text : String)
  /-- `ValueError` of `validate_password` -/
  | password (text : String)
  /-- `UnicodeEncodeError` -/
  | unencodable
  | overflow
  | scrypt (e : ε)
deriving DecidableEq

/-! ### Headers and archives -/

structure Header where
  version : UInt8
  nLog2 : UInt8
  r : UInt8
  p : UInt8
  salt : Bytes
  nonce : Bytes

def packHeader (header : Header) : Bytes :=
  MAGIC ++ [header.version, header.nLog2, header.r, header.p] ++ header.salt ++ header.nonce

section

variable {ε : Type} (libs : Libraries ε)

def headerOf (payload : Bytes) : Header :=
  { version := payload.getD 8 0, nLog2 := payload.getD 9 0, r := payload.getD 10 0,
    p := payload.getD 11 0, salt := (payload.drop 12).take 16,
    nonce := (payload.drop 28).take 12 }

def unpackHeader (payload : Bytes) : Except (Raised ε) Header :=
  if payload.length < HEADER_SIZE then
    .error (.decryption "archive is too small to be an encrypted backup")
  else if payload.take 8 ≠ MAGIC then
    .error (.decryption "not an encrypted backup archive")
  else if payload.getD 8 0 ≠ 1 then
    .error (.decryption
      ("unsupported encrypted-backup version " ++ toString (payload.getD 8 0).toNat))
  else .ok (headerOf payload)

/-- `_derive_key`: the parameters are checked, the password is encoded, the key derived. -/
def deriveKey (password : Password) (salt : Bytes) (nLog2 r p : Nat) :
    Except (Raised ε) Bytes :=
  match libs.initError nLog2 r p with
  | some e => .error (.scrypt e)
  | none =>
    match encode password with
    | none => .error .unencodable
    | some bytes =>
      match libs.deriveError nLog2 r p with
      | some e => .error (.scrypt e)
      | none => .ok (libs.scrypt bytes salt nLog2 r p)

def validatePassword (password : Password) : Except (Raised ε) Unit :=
  if MIN_PASSWORD_LENGTH ≤ password.length ∧ password.length ≤ MAX_PASSWORD_LENGTH then .ok ()
  else .error (.password "password must be 8-256 characters")

def newHeader (fresh : Fresh) : Header :=
  ⟨1, 14, 8, 1, fresh.salt, fresh.nonce⟩

def encryptArchive (fresh : Fresh) (plaintext : Bytes) (password : Password) :
    Except (Raised ε) Bytes := do
  validatePassword password
  let headerBytes := packHeader (newHeader fresh)
  let key ← deriveKey libs password fresh.salt 14 8 1
  if libs.encryptOverflows plaintext.length then .error .overflow
  else .ok (headerBytes ++ libs.encrypt key fresh.nonce plaintext headerBytes)

def decryptArchive (payload : Bytes) (password : Password) : Except (Raised ε) Bytes := do
  let header ← unpackHeader payload
  let headerBytes := payload.take HEADER_SIZE
  let ciphertext := payload.drop HEADER_SIZE
  let key ← deriveKey libs password header.salt header.nLog2.toNat header.r.toNat header.p.toNat
  if libs.decryptOverflows ciphertext.length then .error .overflow
  else
    match libs.decrypt key header.nonce ciphertext headerBytes with
    | some plaintext => .ok plaintext
    | none => .error (.decryption "incorrect password or corrupted archive")

/-- `except BackupDecryptionError as exc: raise RestoreValidationError(str(exc))`. -/
def asValidation : Raised ε → Raised ε
  | .decryption text => .validation text
  | raised => raised

/-- `BackupRestoreService.decrypt_upload`. -/
def decryptUpload (payload : Bytes) (password : Option Password) : Except (Raised ε) Bytes :=
  if isEncrypted payload then
    match password with
    | none => .error (.validation "archive is password-encrypted; password required")
    | some [] => .error (.validation "archive is password-encrypted; password required")
    | some password => (decryptArchive libs payload password).mapError asValidation
  else .ok payload

/-! ### The key -/

def Derivable (nLog2 r p : Nat) : Prop :=
  libs.initError nLog2 r p = none ∧ libs.deriveError nLog2 r p = none

theorem deriveKey_cases (password : Password) (salt : Bytes) (nLog2 r p : Nat) :
    (Encodes password ∧ Derivable libs nLog2 r p ∧ ∃ bytes, encode password = some bytes ∧
      deriveKey libs password salt nLog2 r p = .ok (libs.scrypt bytes salt nLog2 r p)) ∨
    ¬ (Encodes password ∧ Derivable libs nLog2 r p) ∧
      ∃ raised, deriveKey libs password salt nLog2 r p = .error raised ∧
        (raised = .unencodable ∨ ∃ e, raised = .scrypt e) := by
  simp only [deriveKey, Derivable]
  cases hinit : libs.initError nLog2 r p with
  | some e => exact Or.inr ⟨by simp, _, rfl, Or.inr ⟨e, rfl⟩⟩
  | none =>
    cases hencode : encode password with
    | none =>
      exact Or.inr ⟨fun h => encode_eq_none_iff.mp hencode h.1, _, rfl, Or.inl rfl⟩
    | some bytes =>
      have hencodes : Encodes password := by
        by_contra hnot
        rw [encode_eq_none_iff.mpr hnot] at hencode
        cases hencode
      cases hderive : libs.deriveError nLog2 r p with
      | some e => exact Or.inr ⟨by simp, _, rfl, Or.inr ⟨e, rfl⟩⟩
      | none => exact Or.inl ⟨hencodes, ⟨rfl, rfl⟩, bytes, rfl, rfl⟩

variable {libs}

/-! ### A backup of one's own -/

theorem magic_eq : MAGIC = [77, 80, 66, 75, 69, 78, 67, 49] := by decide

theorem length_packHeader (fresh : Fresh) :
    (packHeader (newHeader fresh)).length = HEADER_SIZE := by
  simp [packHeader, newHeader, magic_eq, fresh.salt_length, fresh.nonce_length, HEADER_SIZE]

theorem unpackHeader_packHeader (fresh : Fresh) (ciphertext : Bytes) :
    (unpackHeader (packHeader (newHeader fresh) ++ ciphertext) : Except (Raised ε) Header) =
      .ok (newHeader fresh) := by
  have hlength : ¬ (packHeader (newHeader fresh) ++ ciphertext).length < HEADER_SIZE := by
    rw [List.length_append, length_packHeader]
    omega
  have hsalt : (fresh.salt ++ (fresh.nonce ++ ciphertext)).take 16 = fresh.salt :=
    List.take_left' fresh.salt_length
  have hnonce : ((fresh.salt ++ (fresh.nonce ++ ciphertext)).drop 16).take 12 = fresh.nonce := by
    rw [List.drop_left' fresh.salt_length, List.take_left' fresh.nonce_length]
  rw [unpackHeader, if_neg hlength]
  simp only [headerOf, packHeader, newHeader, magic_eq, List.cons_append, List.nil_append,
    List.append_assoc]
  simp only [List.take_succ_cons, List.take_zero, ne_eq, not_true_eq_false, if_false,
    List.getD_cons_succ, List.getD_cons_zero, List.drop_succ_cons, List.drop_zero, hsalt]
  rw [hnonce]

def RoundTrips (libs : Libraries ε) (fresh : Fresh) (plaintext : Bytes) (password : Password) :
    Prop :=
  ∃ archive, encryptArchive libs fresh plaintext password = .ok archive ∧
    decryptArchive libs archive password = .ok plaintext

/-- AES-GCM takes the plaintext, and the ciphertext it makes of it. -/
def Fits (libs : Libraries ε) (plaintext : Bytes) : Prop :=
  libs.encryptOverflows plaintext.length = false ∧
    libs.decryptOverflows (plaintext.length + 16) = false

/-- `validate_password` lets the password pass. -/
def Admitted (password : Password) : Prop :=
  MIN_PASSWORD_LENGTH ≤ password.length ∧ password.length ≤ MAX_PASSWORD_LENGTH

theorem decryptArchive_of_header {payload : Bytes} {password : Password} {header : Header}
    (hheader : unpackHeader payload = (.ok header : Except (Raised ε) Header)) :
    decryptArchive libs payload password =
      deriveKey libs password header.salt header.nLog2.toNat header.r.toNat header.p.toNat >>=
        fun key =>
          if libs.decryptOverflows (payload.drop HEADER_SIZE).length then .error .overflow
          else
            match libs.decrypt key header.nonce (payload.drop HEADER_SIZE)
              (payload.take HEADER_SIZE) with
            | some plaintext => .ok plaintext
            | none => .error (.decryption "incorrect password or corrupted archive") := by
  rw [decryptArchive, hheader]
  rfl

theorem decryptArchive_of_key {payload : Bytes} {password : Password} {header : Header}
    {key : Bytes} (hheader : unpackHeader payload = (.ok header : Except (Raised ε) Header))
    (hkey : deriveKey libs password header.salt header.nLog2.toNat header.r.toNat
      header.p.toNat = .ok key) :
    decryptArchive libs payload password =
      if libs.decryptOverflows (payload.drop HEADER_SIZE).length then .error .overflow
      else
        match libs.decrypt key header.nonce (payload.drop HEADER_SIZE)
          (payload.take HEADER_SIZE) with
        | some plaintext => .ok plaintext
        | none => .error (.decryption "incorrect password or corrupted archive") := by
  rw [decryptArchive_of_header hheader, hkey]
  rfl

theorem decryptArchive_of_error {payload : Bytes} {password : Password} {header : Header}
    {raised : Raised ε} (hheader : unpackHeader payload = (.ok header : Except (Raised ε) Header))
    (hkey : deriveKey libs password header.salt header.nLog2.toNat header.r.toNat
      header.p.toNat = .error raised) :
    decryptArchive libs payload password = .error raised := by
  rw [decryptArchive_of_header hheader, hkey]
  rfl

theorem decrypts_own_iff (hlibs : libs.Correct) (fresh : Fresh) (plaintext : Bytes)
    {password : Password} (hadmitted : Admitted password) :
    RoundTrips libs fresh plaintext password ↔ Encodes password ∧ Fits libs plaintext := by
  have hvalid : (validatePassword password : Except (Raised ε) Unit) = .ok () :=
    if_pos hadmitted
  have hderivable : Derivable libs 14 8 1 := ⟨hlibs.default_init, hlibs.default_derive⟩
  rcases deriveKey_cases libs password fresh.salt 14 8 1 with
    ⟨hencodes, -, bytes, -, hkey⟩ | ⟨hnot, raised, hkey, -⟩
  · have hlength := hlibs.length_scrypt bytes fresh.salt 14 8 1
    have hencrypt : encryptArchive libs fresh plaintext password =
        if libs.encryptOverflows plaintext.length then .error .overflow
        else .ok (packHeader (newHeader fresh) ++ libs.encrypt
          (libs.scrypt bytes fresh.salt 14 8 1) fresh.nonce plaintext
          (packHeader (newHeader fresh))) := by
      rw [encryptArchive, hvalid, hkey]
      rfl
    rw [RoundTrips, hencrypt, Fits]
    cases hlong : libs.encryptOverflows plaintext.length with
    | true => simp
    | false =>
      rw [if_neg Bool.false_ne_true]
      have hdecrypt := decryptArchive_of_key (unpackHeader_packHeader fresh (libs.encrypt
        (libs.scrypt bytes fresh.salt 14 8 1) fresh.nonce plaintext
        (packHeader (newHeader fresh)))) hkey
      have hheader := length_packHeader fresh
      rw [List.take_left' hheader, List.drop_left' hheader,
        hlibs.length_encrypt _ _ _ _ hlength fresh.nonce_length] at hdecrypt
      change _ = if _ then _ else match libs.decrypt _ fresh.nonce _ _ with
        | some plaintext => _
        | none => _ at hdecrypt
      rw [hlibs.decrypt_encrypt _ _ _ _ hlength fresh.nonce_length] at hdecrypt
      cases hoverflow : libs.decryptOverflows (plaintext.length + 16) with
      | true =>
        rw [hoverflow, if_pos rfl] at hdecrypt
        constructor
        · rintro ⟨archive, harchive, hback⟩
          cases harchive
          rw [hdecrypt] at hback
          cases hback
        · rintro ⟨-, -, h⟩
          cases h
      | false =>
        rw [hoverflow, if_neg Bool.false_ne_true] at hdecrypt
        exact iff_of_true ⟨_, rfl, hdecrypt⟩ ⟨hencodes, rfl, rfl⟩
  · constructor
    · rintro ⟨archive, harchive, -⟩
      rw [encryptArchive, hvalid, hkey] at harchive
      cases harchive
    · rintro ⟨hencodes, -⟩
      exact absurd ⟨hencodes, hderivable⟩ hnot

/-! ### Any upload -/

/-- The answer to an upload is bytes or a validation error. -/
def Contained (libs : Libraries ε) (payload : Bytes) (password : Option Password) : Prop :=
  ∀ raised, decryptUpload libs payload password = .error raised →
    ∃ text, raised = .validation text

/-- Where a key is derived at all, from a whole header of the current version, the password
    can be encoded, Scrypt takes the parameters of the header and AES-GCM the length of the
    ciphertext. -/
def Harmless (libs : Libraries ε) (payload : Bytes) (password : Option Password) : Prop :=
  isEncrypted payload = true → HEADER_SIZE ≤ payload.length → payload.getD 8 0 = 1 →
    ∀ secret, password = some secret → secret ≠ [] →
      Encodes secret ∧
        Derivable libs (payload.getD 9 0).toNat (payload.getD 10 0).toNat
          (payload.getD 11 0).toNat ∧
        libs.decryptOverflows (payload.length - HEADER_SIZE) = false

/-- What `decrypt_archive` raises besides decryption errors, once the header is read. -/
theorem decryptArchive_contained_of_header {payload : Bytes} {header : Header}
    (hheader : unpackHeader payload = (.ok header : Except (Raised ε) Header))
    (secret : Password) :
    (∀ raised, decryptArchive libs payload secret = .error raised →
      ∃ text, raised = .decryption text) ↔
    Encodes secret ∧ Derivable libs header.nLog2.toNat header.r.toNat header.p.toNat ∧
      libs.decryptOverflows (payload.length - HEADER_SIZE) = false := by
  have hlength : (payload.drop HEADER_SIZE).length = payload.length - HEADER_SIZE :=
    List.length_drop
  rcases deriveKey_cases libs secret header.salt header.nLog2.toNat header.r.toNat
    header.p.toNat with
    ⟨hencodes, hderivable, bytes, -, hkey⟩ | ⟨hnot, raised, hkey, hraised⟩
  · rw [decryptArchive_of_key hheader hkey, hlength]
    cases hoverflow : libs.decryptOverflows (payload.length - HEADER_SIZE) with
    | true =>
      rw [if_pos rfl]
      constructor
      · intro h
        obtain ⟨text, htext⟩ := h _ rfl
        cases htext
      · intro h
        cases h.2.2
    | false =>
      rw [if_neg Bool.false_ne_true]
      apply iff_of_true
      · intro raised h
        split at h
        · cases h
        · cases h
          exact ⟨_, rfl⟩
      · exact ⟨hencodes, hderivable, rfl⟩
  · rw [decryptArchive_of_error hheader hkey]
    constructor
    · intro h
      obtain ⟨text, rfl⟩ := h _ rfl
      rcases hraised with hraised | ⟨e, hraised⟩ <;> cases hraised
    · rintro ⟨hencodes, hderivable, -⟩
      exact absurd ⟨hencodes, hderivable⟩ hnot

theorem decryptArchive_contained_iff {payload : Bytes} (hmagic : isEncrypted payload = true)
    (secret : Password) :
    (∀ raised, decryptArchive libs payload secret = .error raised →
      ∃ text, raised = .decryption text) ↔
    (HEADER_SIZE ≤ payload.length → payload.getD 8 0 = 1 →
      Encodes secret ∧
        Derivable libs (payload.getD 9 0).toNat (payload.getD 10 0).toNat
          (payload.getD 11 0).toNat ∧
        libs.decryptOverflows (payload.length - HEADER_SIZE) = false) := by
  have htake : payload.take 8 = MAGIC := by
    have hlength : MAGIC.length = 8 := by decide
    rw [isEncrypted, decide_eq_true_iff, hlength] at hmagic
    exact hmagic
  by_cases hshort : payload.length < HEADER_SIZE
  · apply iff_of_true
    · intro raised h
      rw [decryptArchive, unpackHeader, if_pos hshort] at h
      cases h
      exact ⟨_, rfl⟩
    · intro hlong
      omega
  by_cases hversion : payload.getD 8 0 = 1
  · have hheader : (unpackHeader payload : Except (Raised ε) Header) =
        .ok (headerOf payload) := by
      rw [unpackHeader, if_neg hshort, if_neg (not_not_intro htake),
        if_neg (not_not_intro hversion)]
    rw [decryptArchive_contained_of_header hheader, imp_iff_right (Nat.le_of_not_lt hshort),
      imp_iff_right hversion]
    rfl
  · apply iff_of_true
    · intro raised h
      rw [decryptArchive, unpackHeader, if_neg hshort, if_neg (not_not_intro htake),
        if_pos hversion] at h
      cases h
      exact ⟨_, rfl⟩
    · intro _ h
      exact absurd h hversion

theorem decryptArchive_ne_validation (payload : Bytes) (secret : Password) (text : String) :
    decryptArchive libs payload secret ≠ .error (.validation text) := by
  intro h
  cases hheader : (unpackHeader payload : Except (Raised ε) Header) with
  | error raised =>
    rw [decryptArchive, hheader] at h
    cases h
    unfold unpackHeader at hheader
    split at hheader
    · cases hheader
    · split at hheader
      · cases hheader
      · split at hheader <;> cases hheader
  | ok header =>
    rcases deriveKey_cases libs secret header.salt header.nLog2.toNat header.r.toNat
      header.p.toNat with ⟨-, -, bytes, -, hkey⟩ | ⟨-, raised, hkey, hraised⟩
    · rw [decryptArchive_of_key hheader hkey] at h
      split at h
      · cases h
      · split at h <;> cases h
    · rw [decryptArchive_of_error hheader hkey] at h
      cases h
      rcases hraised with hraised | ⟨e, hraised⟩ <;> cases hraised

theorem contained_iff (payload : Bytes) (password : Option Password) :
    Contained libs payload password ↔ Harmless libs payload password := by
  unfold Contained Harmless decryptUpload
  by_cases hmagic : isEncrypted payload = true
  · rw [if_pos hmagic]
    rcases password with _ | _ | ⟨point, rest⟩
    · apply iff_of_true
      · intro raised h
        cases h
        exact ⟨_, rfl⟩
      · intro _ _ _ secret h
        cases h
    · apply iff_of_true
      · intro raised h
        cases h
        exact ⟨_, rfl⟩
      · intro _ _ _ secret h hne
        cases h
        exact absurd rfl hne
    · have harchive := @decryptArchive_contained_iff ε libs payload hmagic (point :: rest)
      have hmap : (∀ raised, (decryptArchive libs payload (point :: rest)).mapError asValidation =
          .error raised → ∃ text, raised = .validation text) ↔
          ∀ raised, decryptArchive libs payload (point :: rest) = .error raised →
            ∃ text, raised = .decryption text := by
        have hno := @decryptArchive_ne_validation ε libs payload (point :: rest)
        cases hopen : decryptArchive libs payload (point :: rest) with
        | ok plaintext => simp [Except.mapError]
        | error raised =>
          cases raised with
          | validation text => exact absurd hopen (hno text)
          | _ => simp [Except.mapError, asValidation]
      rw [hmap, harchive]
      constructor
      · rintro h - hlong hversion secret hsecret -
        cases hsecret
        exact h hlong hversion
      · intro h hlong hversion
        exact h hmagic hlong hversion _ rfl (List.cons_ne_nil _ _)
  · rw [if_neg hmagic]
    apply iff_of_true
    · intro raised h
      cases h
    · intro h
      exact absurd h hmagic

/-- A backup comes back and an upload stays contained exactly when the password of the backup
    can be encoded, the cipher takes its size, and the upload is harmless. -/
theorem decoding_iff (hlibs : libs.Correct) (fresh : Fresh) (plaintext payload : Bytes)
    {own : Password} (hadmitted : Admitted own) (password : Option Password) :
    RoundTrips libs fresh plaintext own ∧ Contained libs payload password ↔
      (Encodes own ∧ Fits libs plaintext) ∧ Harmless libs payload password := by
  rw [decrypts_own_iff hlibs fresh plaintext hadmitted, contained_iff]

/-- A cost of 1 or a parameter 0 in the header, of whatever upload, gets out as what Scrypt
    raises. -/
theorem not_contained_of_zero (hlibs : libs.Correct) {payload : Bytes} {secret : Password}
    (hmagic : isEncrypted payload = true) (hlong : HEADER_SIZE ≤ payload.length)
    (hversion : payload.getD 8 0 = 1) (hsecret : secret ≠ [])
    (hzero : payload.getD 9 0 = 0 ∨ payload.getD 10 0 = 0 ∨ payload.getD 11 0 = 0) :
    ¬ Contained libs payload (some secret) := by
  rw [contained_iff]
  intro h
  obtain ⟨-, ⟨hinit, -⟩, -⟩ := h hmagic hlong hversion secret rfl hsecret
  have hraises := hlibs.init_zero (payload.getD 9 0).toNat (payload.getD 10 0).toNat
    (payload.getD 11 0).toNat ?_
  · rw [hinit] at hraises
    cases hraises
  · rcases hzero with h0 | h0 | h0
    · exact Or.inl (by rw [h0]; rfl)
    · exact Or.inr (Or.inl (by rw [h0]; rfl))
    · exact Or.inr (Or.inr (by rw [h0]; rfl))

end

/-! ### The libraries of a restore -/

section

open BackupArchive (Runtime)

variable {B : Type}

/-- The libraries of a restore, which take everything. -/
def ofRuntime (R : Runtime B) : Libraries Empty where
  initError _ _ _ := none
  deriveError _ _ _ := none
  scrypt password salt nLog2 r p :=
    R.scrypt password salt (UInt8.ofNat nLog2) (UInt8.ofNat r) (UInt8.ofNat p)
  encryptOverflows _ := false
  decryptOverflows _ := false
  encrypt key nonce plaintext header := (R.encrypt key nonce plaintext header).getD []
  decrypt := R.decrypt

theorem header_cells {payload : Bytes} (h : HEADER_SIZE ≤ payload.length) :
    payload.drop 8 = payload.getD 8 0 :: payload.getD 9 0 :: payload.getD 10 0 ::
      payload.getD 11 0 :: payload.drop 12 := by
  rw [HEADER_SIZE] at h
  have hcell : ∀ i, i < 40 → payload.drop i = payload.getD i 0 :: payload.drop (i + 1) := by
    intro i hi
    have hlt : i < payload.length := by omega
    rw [List.drop_eq_getElem_cons hlt, List.getD_eq_getElem?_getD, List.getElem?_eq_getElem hlt,
      Option.getD_some]
  rw [hcell 8 (by omega), hcell 9 (by omega), hcell 10 (by omega), hcell 11 (by omega)]

theorem deriveKey_ofRuntime (R : Runtime B) (password : String) (salt : Bytes)
    (nLog2 r p : UInt8) :
    deriveKey (ofRuntime R) (ofString password) salt nLog2.toNat r.toNat p.toNat =
      .ok (R.scrypt (utf8 password) salt nLog2 r p) := by
  simp [deriveKey, ofRuntime, encode_ofString]

theorem decryptArchive_ofRuntime (R : Runtime B) (payload : Bytes) (password : String) :
    decryptArchive (ofRuntime R) payload (ofString password) =
      (BackupArchive.decryptArchive R payload password).mapError .decryption := by
  unfold BackupArchive.decryptArchive
  by_cases hshort : payload.length < HEADER_SIZE
  · rw [decryptArchive, unpackHeader, if_pos hshort, if_pos hshort]
    rfl
  by_cases hmagic : payload.take 8 = MAGIC
  · rw [if_neg hshort, if_neg (not_not_intro hmagic), header_cells (Nat.le_of_not_lt hshort)]
    dsimp only
    by_cases hversion : payload.getD 8 0 = 1
    · have hheader : (unpackHeader payload : Except (Raised Empty) Header) =
          .ok (headerOf payload) := by
        rw [unpackHeader, if_neg hshort, if_neg (not_not_intro hmagic),
          if_neg (not_not_intro hversion)]
      rw [decryptArchive_of_key hheader (deriveKey_ofRuntime R password _ _ _ _),
        if_neg (not_not_intro hversion)]
      simp only [ofRuntime, headerOf, List.drop_drop]
      cases R.decrypt (R.scrypt (utf8 password) ((payload.drop 12).take 16) (payload.getD 9 0)
        (payload.getD 10 0) (payload.getD 11 0)) ((payload.drop 28).take 12)
        (payload.drop HEADER_SIZE) (payload.take HEADER_SIZE) <;> rfl
    · rw [decryptArchive, unpackHeader, if_neg hshort, if_neg (not_not_intro hmagic),
        if_pos hversion, if_pos hversion]
      rfl
  · rw [decryptArchive, unpackHeader, if_neg hshort, if_neg hshort, if_pos hmagic,
      if_pos hmagic]
    rfl

/-- With libraries that take everything, an upload is decrypted as a restore does it. -/
theorem decryptUpload_ofRuntime (R : Runtime B) (payload : Bytes) (password : Option String) :
    decryptUpload (ofRuntime R) payload (password.map ofString) =
      (BackupArchive.decryptUpload R payload password).mapError .validation := by
  unfold decryptUpload BackupArchive.decryptUpload
  by_cases hmagic : isEncrypted payload = true
  · rw [if_pos hmagic, if_pos hmagic]
    cases password with
    | none => rfl
    | some password =>
      have harchive := decryptArchive_ofRuntime R payload password
      rw [ofString] at harchive
      rw [Option.map_some, ofString]
      cases hchars : password.toList with
      | nil =>
        have hblank : password = "" := String.toList_inj.mp hchars
        subst hblank
        rfl
      | cons c rest =>
        have hne : password ≠ "" := by
          rintro rfl
          cases hchars
        rw [hchars] at harchive
        change (decryptArchive (ofRuntime R) payload ((c :: rest).map .scalar)).mapError
          asValidation = _
        rw [harchive]
        dsimp only
        rw [if_neg hne]
        cases BackupArchive.decryptArchive R payload password <;> rfl
  · rw [if_neg hmagic, if_neg hmagic]
    rfl

end

/-! ### An upload that gets out -/

def plainLibraries : Libraries String where
  initError nLog2 r p :=
    if nLog2 = 0 ∨ r = 0 ∨ p = 0 then some "ValueError" else none
  deriveError nLog2 _ _ := if 24 < nLog2 then some "MemoryError" else none
  scrypt _ _ _ _ _ := List.replicate KEY_SIZE 0
  encryptOverflows n := 2147483647 < n
  decryptOverflows n := 2147483647 < n
  encrypt _ _ plaintext _ := plaintext ++ List.replicate 16 0
  decrypt _ _ ciphertext _ :=
    if 16 ≤ ciphertext.length ∧
        ciphertext.drop (ciphertext.length - 16) = List.replicate 16 0 then
      some (ciphertext.take (ciphertext.length - 16))
    else none

theorem correct_plainLibraries : plainLibraries.Correct where
  length_scrypt _ _ _ _ _ := List.length_replicate
  default_init := rfl
  default_derive := rfl
  init_zero nLog2 r p h := by simp [plainLibraries, h]
  decrypt_encrypt key nonce plaintext header _ _ := by
    simp [plainLibraries]
  length_encrypt key nonce plaintext header _ _ := by
    simp [plainLibraries]

/-- A header of version 1 with a cost of 1, and nothing behind it. -/
def zeroCost : Bytes := MAGIC ++ [1, 0, 8, 1] ++ List.replicate 28 0

def hilltopFresh : Fresh := ⟨List.replicate 16 7, List.replicate 12 9, rfl, rfl⟩

theorem decoding_hilltop :
    RoundTrips plainLibraries hilltopFresh [1, 2, 3] (ofString "hilltop-station") ∧
      Contained plainLibraries [1, 2, 3] none :=
  (decoding_iff correct_plainLibraries hilltopFresh [1, 2, 3] [1, 2, 3]
    ⟨by decide, by decide⟩ none).mpr
    ⟨⟨encodes_ofString _, by decide, by decide⟩, fun _ _ _ _ h => nomatch h⟩

/-- The upload of 40 bytes leaves `decrypt_upload` with the `ValueError` of Scrypt. -/
theorem zeroCost_gets_out :
    decryptUpload plainLibraries zeroCost (some (ofString "x")) =
        .error (.scrypt "ValueError") ∧
      ¬ Contained plainLibraries zeroCost (some (ofString "x")) := by
  have hraises : decryptUpload plainLibraries zeroCost (some (ofString "x")) =
      .error (.scrypt "ValueError") := by decide
  refine ⟨hraises, ?_⟩
  intro h
  obtain ⟨text, htext⟩ := h _ hraises
  cases htext

end Meshpoint.BackupEncryption
