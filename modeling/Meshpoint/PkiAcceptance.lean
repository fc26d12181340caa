import Meshpoint.MeshtasticBuilder

/-!
# Accepting direct messages

What `MeshtasticDecoder.decode` accepts of a frame with the marker of a direct message
to this node.  The PKI branch and the search through the channel keys are tried in that
order, and the search is open to every frame that nothing has decrypted yet: a shared
channel may have the hash 0 as well.

`decode_pki_accepted` says which frames are accepted, and that the position of the channel
key in the packet tells the two ways apart.
-/

namespace Meshpoint.PkiAcceptance

open MeshtasticHeader MeshtasticDecoder PortnumHandlers

section

variable {F : Type} [PyFloat F] (prim : CryptoPrimitives) (pb : AppProtobuf F)

/-- A message that `_decode_payload` reads. -/
def Readable (plaintext : Bytes) : Prop := (decodePayload pb plaintext).decodedPayload.isSome = true

def channelPlaintext (header : Header) (body : Bytes) (key : AesKey) : Bytes :=
  CounterMode.ctr (prim.aesBlock key)
    (CryptoService.buildMeshtasticNonce header.packetId header.sourceId) body

/-- The body passes the tag check under a public key, with this plaintext. -/
def PassesUnder (crypto : CryptoService) (header : Header) (body publicKey plaintext : Bytes) :
    Prop :=
  crypto.decryptMeshtasticPki prim body header.packetId header.sourceId publicKey = some plaintext

/-- The body passes the tag check under the public key of the sender: the one looked up, or
    a different one that is found when the first has failed and the cache is refreshed. -/
inductive Authenticates (crypto : CryptoService) (header : Header) (body plaintext : Bytes) : Prop
  | lookedUp (key : Bytes)
      (hpki : crypto.hasPki = true)
      (hkey : (crypto.lookupPublicKey header.sourceId).1 = some key)
      (hpasses : PassesUnder prim crypto header body key plaintext)
  | refreshed (old key : Bytes)
      (hpki : crypto.hasPki = true)
      (hold : (crypto.lookupPublicKey header.sourceId).1 = some old)
      (hfails : ∀ plaintext', ¬ PassesUnder prim crypto header body old plaintext')
      (hkey : ((crypto.lookupPublicKey header.sourceId).2.refreshPublicKeyFromDb
        header.sourceId).1 = some key)
      (hne : key ≠ old)
      (hpasses : PassesUnder prim crypto header body key plaintext)

end

/-! ### The key pair is left alone by lookups -/

theorem lookupPublicKey_pair (crypto : CryptoService) (nodeId : Nat) :
    (crypto.lookupPublicKey nodeId).2.privateKey = crypto.privateKey ∧
      (crypto.lookupPublicKey nodeId).2.publicKey = crypto.publicKey := by
  unfold CryptoService.lookupPublicKey
  split
  · exact ⟨rfl, rfl⟩
  · split <;> exact ⟨rfl, rfl⟩

theorem refreshPublicKeyFromDb_pair (crypto : CryptoService) (nodeId : Nat) :
    (crypto.refreshPublicKeyFromDb nodeId).2.privateKey = crypto.privateKey ∧
      (crypto.refreshPublicKeyFromDb nodeId).2.publicKey = crypto.publicKey :=
  lookupPublicKey_pair _ _

section

variable {F : Type} [PyFloat F] (prim : CryptoPrimitives) (pb : AppProtobuf F)

theorem decryptMeshtasticPki_congr {crypto crypto' : CryptoService}
    (h : crypto'.privateKey = crypto.privateKey) (body : Bytes) (packetId sourceId : Nat)
    (key : Bytes) :
    crypto'.decryptMeshtasticPki prim body packetId sourceId key =
      crypto.decryptMeshtasticPki prim body packetId sourceId key := by
  unfold CryptoService.decryptMeshtasticPki
  rw [h]

theorem hasPki_congr {crypto crypto' : CryptoService}
    (h : crypto'.privateKey = crypto.privateKey ∧ crypto'.publicKey = crypto.publicKey) :
    crypto'.hasPki = crypto.hasPki := by
  unfold CryptoService.hasPki
  rw [h.1, h.2]

/-- What authenticates is the looked-up key's plaintext or, once that key has failed, the
    refreshed key's. -/
theorem authenticates_cases {crypto : CryptoService} {header : Header} {body plaintext : Bytes}
    {senderKey : Bytes} (hkey : (crypto.lookupPublicKey header.sourceId).1 = some senderKey)
    (h : Authenticates prim crypto header body plaintext) :
    PassesUnder prim crypto header body senderKey plaintext ∨
      (∀ plaintext', ¬ PassesUnder prim crypto header body senderKey plaintext') ∧
        ∃ key, ((crypto.lookupPublicKey header.sourceId).2.refreshPublicKeyFromDb
            header.sourceId).1 = some key ∧ key ≠ senderKey ∧
          PassesUnder prim crypto header body key plaintext := by
  cases h with
  | lookedUp key _ hkey' hpasses =>
    rw [hkey] at hkey'
    cases hkey'
    exact Or.inl hpasses
  | refreshed old key _ hold hfails hkey' hne hpasses =>
    rw [hkey] at hold
    cases hold
    exact Or.inr ⟨hfails, key, hkey', hne, hpasses⟩

/-- The PKI branch reads the plaintext of a body that authenticates, and nothing else. -/
theorem tryPki_spec (crypto : CryptoService) (header : Header) (body : Bytes) :
    (∃ plaintext, Authenticates prim crypto header body plaintext ∧
        (tryPki prim pb crypto header body).1 = decodePayload pb plaintext) ∨
      (¬ ∃ plaintext, Authenticates prim crypto header body plaintext) ∧
        (tryPki prim pb crypto header body).1 = {} := by
  have hpair := lookupPublicKey_pair crypto header.sourceId
  unfold tryPki
  split
  · -- no key is known for the sender
    rename_i crypto₁ hlookup
    right
    refine ⟨?_, rfl⟩
    rintro ⟨plaintext, h⟩
    cases h with
    | lookedUp key _ hkey _ =>
      rw [hlookup] at hkey
      cases hkey
    | refreshed old key _ hold _ _ _ _ =>
      rw [hlookup] at hold
      cases hold
  · rename_i senderKey crypto₁ hlookup
    have hkey : (crypto.lookupPublicKey header.sourceId).1 = some senderKey := by rw [hlookup]
    rw [hlookup] at hpair
    rw [hasPki_congr hpair, decryptMeshtasticPki_congr prim hpair.1]
    split
    · -- no key pair of our own
      rename_i hno
      right
      refine ⟨?_, rfl⟩
      rintro ⟨plaintext, h⟩
      cases h with
      | lookedUp key hpki _ _ =>
        rw [hno] at hpki
        cases hpki
      | refreshed old key hpki _ _ _ _ _ =>
        rw [hno] at hpki
        cases hpki
    · rename_i hpki
      rw [Bool.not_eq_false] at hpki
      split
      · rename_i plaintext hpasses
        exact Or.inl ⟨plaintext, .lookedUp senderKey hpki hkey hpasses, rfl⟩
      · rename_i hfails
        have hfails' : ∀ plaintext', ¬ PassesUnder prim crypto header body senderKey plaintext' := by
          intro plaintext' h
          rw [PassesUnder, hfails] at h
          cases h
        have hpair' := refreshPublicKeyFromDb_pair crypto₁ header.sourceId
        split
        · rename_i refreshedKey crypto₂ hrefresh
          have hkey' : ((crypto.lookupPublicKey header.sourceId).2.refreshPublicKeyFromDb
              header.sourceId).1 = some refreshedKey := by
            rw [hlookup, hrefresh]
          rw [hrefresh] at hpair'
          rw [decryptMeshtasticPki_congr prim (hpair'.1.trans hpair.1)]
          -- only a different key is tried
          have honly : ∀ plaintext, Authenticates prim crypto header body plaintext →
              refreshedKey ≠ senderKey ∧
                PassesUnder prim crypto header body refreshedKey plaintext := by
            intro plaintext h
            rcases authenticates_cases prim hkey h with h | ⟨-, key, hkey'', hne, hpasses⟩
            · exact absurd h (hfails' _)
            · rw [hkey'] at hkey''
              cases hkey''
              exact ⟨hne, hpasses⟩
          split
          · rename_i hsame
            exact Or.inr ⟨fun ⟨_, h⟩ => (honly _ h).1 hsame, rfl⟩
          · rename_i hne
            split
            · rename_i plaintext hpasses
              exact Or.inl ⟨plaintext,
                .refreshed senderKey refreshedKey hpki hkey hfails' hkey' hne hpasses, rfl⟩
            · rename_i hfailsToo
              refine Or.inr ⟨?_, rfl⟩
              rintro ⟨plaintext, h⟩
              have hpasses := (honly _ h).2
              rw [PassesUnder, hfailsToo] at hpasses
              cases hpasses
        · rename_i crypto₂ hrefresh
          refine Or.inr ⟨?_, rfl⟩
          rintro ⟨plaintext, h⟩
          rcases authenticates_cases prim hkey h with h | ⟨-, key, hkey', -⟩
          · exact hfails' _ h
          · rw [hlookup, hrefresh] at hkey'
            cases hkey'

/-! ### The search through the channel keys -/

theorem tryKeys_isSome_iff (decrypt : AesKey → Bytes) (keys : List AesKey) (start : Nat)
    (last : Attempt F) :
    (tryKeys pb decrypt keys start last).2.isSome = true ↔
      ∃ key ∈ keys, Readable pb (decrypt key) := by
  induction keys generalizing start last with
  | nil => simp [tryKeys]
  | cons key rest ih =>
    rw [tryKeys]
    by_cases hread : (decodePayload pb (decrypt key)).decodedPayload.isSome = true
    · rw [if_pos hread]
      exact iff_of_true rfl ⟨key, List.mem_cons_self, hread⟩
    · rw [if_neg hread, ih]
      constructor
      · rintro ⟨other, hother, h⟩
        exact ⟨other, List.mem_cons_of_mem _ hother, h⟩
      · rintro ⟨other, hother, h⟩
        rcases List.mem_cons.mp hother with rfl | hother
        · exact absurd h hread
        · exact ⟨other, hother, h⟩

/-! ### What is accepted -/

/-- A plaintext of the body that authenticates and is read. -/
def AcceptedByPki (crypto : CryptoService) (header : Header) (body : Bytes) : Prop :=
  ∃ plaintext, Authenticates prim crypto header body plaintext ∧ Readable pb plaintext

def AcceptedByChannel (crypto : CryptoService) (header : Header) (body : Bytes) : Prop :=
  ∃ key ∈ crypto.getAllKeys, Readable pb (channelPlaintext prim header body key)

variable {prim}

theorem Authenticates.unique {crypto : CryptoService} {header : Header} {body p q : Bytes}
    (hp : Authenticates prim crypto header body p) (hq : Authenticates prim crypto header body q) :
    p = q := by
  have hsame : ∀ {key : Bytes}, PassesUnder prim crypto header body key p →
      PassesUnder prim crypto header body key q → p = q := fun h h' => Option.some.inj (h.symm.trans h')
  cases hp with
  | lookedUp key _ hkey hpasses =>
    rcases authenticates_cases prim hkey hq with h | ⟨hfails, -⟩
    · exact hsame hpasses h
    · exact absurd hpasses (hfails _)
  | refreshed old key _ hold hfails hkey _ hpasses =>
    rcases authenticates_cases prim hold hq with h | ⟨-, key', hkey', -, h⟩
    · exact absurd h (hfails _)
    · rw [hkey] at hkey'
      cases hkey'
      exact hsame hpasses h

/-- The PKI branch yields a payload exactly when the body authenticates as a message that
    is read. -/
theorem tryPki_isSome_iff (crypto : CryptoService) (header : Header) (body : Bytes) :
    (tryPki prim pb crypto header body).1.decodedPayload.isSome = true ↔
      AcceptedByPki prim pb crypto header body := by
  rcases tryPki_spec prim pb crypto header body with ⟨plaintext, hauth, hattempt⟩ | ⟨hno, hattempt⟩
  · rw [hattempt]
    constructor
    · intro h
      exact ⟨plaintext, hauth, h⟩
    · rintro ⟨plaintext', hauth', hread⟩
      rw [hauth.unique hauth']
      exact hread
  · rw [hattempt]
    constructor
    · intro h
      cases h
    · rintro ⟨plaintext, hauth, -⟩
      exact absurd ⟨plaintext, hauth⟩ hno

/-- What a packet says about the way its frame was accepted. -/
structure Accepted (prim : CryptoPrimitives) (crypto : CryptoService) (header : Header)
    (body : Bytes) (packet : Packet F) : Prop where
  decrypted : packet.decrypted = true ↔
    AcceptedByPki prim pb crypto header body ∨ AcceptedByChannel prim pb crypto header body
  byPki : packet.decrypted = true → packet.matchedChannelIndex = none →
    AcceptedByPki prim pb crypto header body
  byChannel : ∀ i, packet.matchedChannelIndex = some i →
    ¬ AcceptedByPki prim pb crypto header body ∧ ∃ key, crypto.getAllKeys[i]? = some key ∧
      Readable pb (channelPlaintext prim header body key)

theorem tryKeys_getElem? {decrypt : AesKey → Bytes} {keys : List AesKey} {start index : Nat}
    {last attempt : Attempt F} (h : tryKeys pb decrypt keys start last = (attempt, some index)) :
    ∃ key, keys[index - start]? = some key ∧ Readable pb (decrypt key) := by
  induction keys generalizing start last with
  | nil => cases h
  | cons key rest ih =>
    rw [tryKeys] at h
    by_cases hread : (decodePayload pb (decrypt key)).decodedPayload.isSome = true
    · rw [if_pos hread] at h
      cases h
      exact ⟨key, by simp, hread⟩
    · rw [if_neg hread] at h
      have hlater := (tryKeys_matched pb h).1
      obtain ⟨other, hother, hread⟩ := ih h
      refine ⟨other, ?_, hread⟩
      rw [show index - start = (index - (start + 1)) + 1 by omega]
      exact hother

/-- **Acceptance of direct messages.**  A frame with the marker of a direct message to this
    node is decrypted exactly when it authenticates as a message that is read, or a channel
    key reads it; the first is tried first, and the position of the key in the packet tells
    which of the two it was.  What a capture source has decoded itself is not decrypted
    here. -/
theorem decode_pki_accepted (crypto : CryptoService) (ourNodeId : Option Nat) (raw : Bytes)
    (header : Header) (signal : Option (SignalMetrics F)) (now : Int)
    (hlen : MESHTASTIC_HEADER_SIZE ≤ raw.length)
    (hheader : parseHeader (raw.take MESHTASTIC_HEADER_SIZE) = some header)
    (hpki : CryptoService.isPkiPacket header.channelHash header.destId ourNodeId
      (raw.drop MESHTASTIC_HEADER_SIZE).length = true) :
    (∃ packet, (decode prim pb crypto ourNodeId raw signal none now).1 = some packet ∧
      Accepted pb prim crypto header (raw.drop MESHTASTIC_HEADER_SIZE) packet) ∧
      ∀ pre, ∃ packet, (decode prim pb crypto ourNodeId raw signal (some pre) now).1 = some packet ∧
        (packet.decrypted = true ↔ (preDecodedAttempt pb pre).decodedPayload.isSome = true) := by
  refine ⟨?_, fun pre => ?_⟩
  swap
  · unfold decode
    rw [if_neg (Nat.not_lt.mpr hlen), hheader]
    exact ⟨_, rfl, Iff.rfl⟩
  have hattempt : pkiAttempt prim pb crypto ourNodeId header (raw.drop MESHTASTIC_HEADER_SIZE) =
      tryPki prim pb crypto header (raw.drop MESHTASTIC_HEADER_SIZE) := if_pos hpki
  have hiff : (tryPki prim pb crypto header
        (raw.drop MESHTASTIC_HEADER_SIZE)).1.decodedPayload.isSome = true ↔
      AcceptedByPki prim pb crypto header (raw.drop MESHTASTIC_HEADER_SIZE) :=
    tryPki_isSome_iff pb crypto header (raw.drop MESHTASTIC_HEADER_SIZE)
  by_cases hyes : AcceptedByPki prim pb crypto header (raw.drop MESHTASTIC_HEADER_SIZE)
  · -- the PKI branch has read it
    have hsome := hiff.mpr hyes
    have hdecode : (decode prim pb crypto ourNodeId raw signal none now).1 =
        some (assemble raw header (tryPki prim pb crypto header
          (raw.drop MESHTASTIC_HEADER_SIZE)).1 true none none signal now) := by
      unfold decode
      rw [if_neg (Nat.not_lt.mpr hlen), hheader]
      simp only [hattempt, hsome, if_true]
    refine ⟨_, hdecode, iff_of_true rfl (Or.inl hyes), fun _ _ => hyes, ?_⟩
    intro i hi
    cases hi
  · have hnone : (tryPki prim pb crypto header
        (raw.drop MESHTASTIC_HEADER_SIZE)).1.decodedPayload = none := by
      rw [← Option.not_isSome_iff_eq_none]
      exact fun h => hyes (hiff.mp h)
    cases htry : tryKeys pb (channelPlaintext prim header (raw.drop MESHTASTIC_HEADER_SIZE))
        crypto.getAllKeys 0 (tryPki prim pb crypto header (raw.drop MESHTASTIC_HEADER_SIZE)).1 with
    | mk attempt matched =>
      have hchannel := tryKeys_isSome_iff pb
        (channelPlaintext prim header (raw.drop MESHTASTIC_HEADER_SIZE)) crypto.getAllKeys 0
        (tryPki prim pb crypto header (raw.drop MESHTASTIC_HEADER_SIZE)).1
      rw [htry] at hchannel
      refine ⟨_, decode_eq_of_tryKeys prim pb signal now hlen hheader (hattempt ▸ hnone)
        (hattempt ▸ htry), ?_, ?_, ?_⟩
      · exact hchannel.trans (or_iff_right hyes).symm
      · intro hdecrypted hmatched
        change matched.isSome = true at hdecrypted
        change matched = none at hmatched
        rw [hmatched] at hdecrypted
        cases hdecrypted
      · intro i hi
        change matched = some i at hi
        rw [hi] at htry
        exact ⟨hyes, tryKeys_getElem? pb htry⟩

end

/-! ### A frame of an unknown sender -/

open MeshtasticBuilder

/-- The station with the default channel key only: it knows no sender's public key. -/
def strangerCrypto : CryptoService := { stationCrypto with publicKeys := .empty }

/-- A text on the default channel, sent with the hash 0 to this node. -/
def strangerFrame : Bytes :=
  (buildTextMessage stationPrimitives strangerCrypto "meet at nine" 0xbbbb0002 0xaaaa0001 42
    none 0 3 3 false none 0).get (by decide +kernel)

def strangerHeader : Header := ⟨0xbbbb0002, 0xaaaa0001, 42, 3, 3, false, false, 0, 0⟩

theorem decode_pki_accepted_stranger :
    ∃ packet, (decode stationPrimitives (default : AppProtobuf WholeFloat) strangerCrypto
        (some 0xbbbb0002) strangerFrame none none 0).1 = some packet ∧
      Accepted default stationPrimitives strangerCrypto strangerHeader (strangerFrame.drop 16)
        packet :=
  (decode_pki_accepted default strangerCrypto (some 0xbbbb0002) strangerFrame strangerHeader none 0
    (by decide +kernel) (by decide +kernel) (by decide +kernel)).1

/-- The frame has the marker and its sender's key is unknown, so it authenticates under no
    key; the default channel key reads it, and it is returned as decrypted. -/
theorem stranger_accepted_by_channel :
    CryptoService.isPkiPacket strangerHeader.channelHash strangerHeader.destId (some 0xbbbb0002)
        (strangerFrame.drop 16).length = true ∧
      (¬ ∃ plaintext, Authenticates stationPrimitives strangerCrypto strangerHeader
        (strangerFrame.drop 16) plaintext) ∧
      ((decode stationPrimitives (default : AppProtobuf WholeFloat) strangerCrypto
        (some 0xbbbb0002) strangerFrame none none 0).1.map
          fun packet => (packet.packetType, packet.decrypted, packet.matchedChannelIndex)) =
        some (.text, true, some 0) := by
  refine ⟨by decide +kernel, ?_, by decide +kernel⟩
  rintro ⟨plaintext, h⟩
  have hunknown : (strangerCrypto.lookupPublicKey strangerHeader.sourceId).1 = none := by
    decide +kernel
  cases h with
  | lookedUp key _ hkey _ =>
    rw [hunknown] at hkey
    cases hkey
  | refreshed old key _ hold _ _ _ _ =>
    rw [hunknown] at hold
    cases hold

end Meshpoint.PkiAcceptance
