import Meshpoint.CryptoService
import Meshpoint.MeshtasticHeader
import Meshpoint.PortnumHandlers
import Meshpoint.ProtoWire

/-!
# The Meshtastic decoder

Model of `MeshtasticDecoder.decode` (`src/decode/meshtastic_decoder.py`): header
parsing, the branch for packets a capture source decoded itself, the PKI branch
for direct messages to this node, and the search through all channel keys.  A
failed attempt leaves its packet type, application bytes and request id behind,
as the local variables of the source do, so an `Attempt` is threaded through.

Decoding may fill or refresh the public-key cache; the new service is returned.
-/

namespace Meshpoint.MeshtasticDecoder

open JsonText ByteCodec ProtoWire PortnumHandlers MeshtasticHeader

/-! ### The inner message -/

/-- The fields of `mesh_pb2.Data` the decoder reads. -/
structure DataMessage where
  portnum : Int
  payload : Bytes
  requestId : Nat
deriving DecidableEq, Repr

/-- An open enumeration value: the low 32 bits, as a signed number. -/
def enumValue (n : Nat) : Int :=
  if n % 2 ^ 32 < 2 ^ 31 then (n % 2 ^ 32 : Nat) else (n % 2 ^ 32 : Nat) - 2 ^ 32

/-- `Data.ParseFromString`: portnum is field 1, payload field 2 and request_id the
    fixed32 field 6. -/
def parseData (bytes : Bytes) : Option DataMessage :=
  (parseFields bytes).map fun fields =>
    { portnum := enumValue (lastOf WireValue.varint? 1 0 fields)
      payload := lastOf WireValue.bytes? 2 [] fields
      requestId := lastOf WireValue.fixed32? 6 0 fields }

/-- What one attempt to read a payload leaves in the local variables. -/
structure Attempt (F : Type) where
  decodedPayload : Option (Entries F) := none
  packetType : PacketType := .unknown
  rawAppPayload : Option Bytes := none
  requestId : Nat := 0

/-- `payload or None`. -/
def bytesOrNone (payload : Bytes) : Option Bytes := if payload = [] then none else some payload

section

variable {F : Type} [PyFloat F] (prim : CryptoPrimitives) (pb : AppProtobuf F)

/-- `_decode_payload`. -/
def decodePayload (decrypted : Bytes) : Attempt F :=
  if decrypted.length < 2 then {}
  else
    match parseData decrypted with
    | none => {}
    | some data =>
      { decodedPayload := (dispatchPortnum pb data.portnum data.payload).1
        packetType := (dispatchPortnum pb data.portnum data.payload).2
        rawAppPayload := bytesOrNone data.payload
        requestId := data.requestId }

/-! ### The branches of `decode` -/

/-- The search through the keys: the last attempt and the index of the key that
    decrypted. -/
def tryKeys (decrypt : AesKey → Bytes) :
    List AesKey → (keyIndex : Nat) → Attempt F → Attempt F × Option Nat
  | [], _, last => (last, none)
  | key :: rest, keyIndex, _ =>
    let attempt := decodePayload pb (decrypt key)
    if attempt.decodedPayload.isSome then (attempt, some keyIndex)
    else tryKeys decrypt rest (keyIndex + 1) attempt

/-- The PKI branch: decrypt with the sender's key, once more with a refreshed one. -/
def tryPki (crypto : CryptoService) (header : Header) (body : Bytes) :
    Attempt F × CryptoService :=
  match crypto.lookupPublicKey header.sourceId with
  | (none, crypto) => ({}, crypto)
  | (some senderKey, crypto) =>
    if crypto.hasPki = false then ({}, crypto)
    else
      match crypto.decryptMeshtasticPki prim body header.packetId header.sourceId senderKey with
      | some decrypted => (decodePayload pb decrypted, crypto)
      | none =>
        match crypto.refreshPublicKeyFromDb header.sourceId with
        | (some refreshedKey, crypto) =>
          if refreshedKey = senderKey then ({}, crypto)
          else
            match crypto.decryptMeshtasticPki prim body header.packetId header.sourceId
                refreshedKey with
            | some decrypted => (decodePayload pb decrypted, crypto)
            | none => ({}, crypto)
        | (none, crypto) => ({}, crypto)

/-- The dictionary of a packet that nothing decrypted. -/
def encryptedPayloadDict (header : Header) (body : Bytes) : Entries F :=
  Entries.ofList [("encrypted", .bool true), ("payload_size", .int body.length),
    ("channel_hash", .int header.channelHash)]

/-- The packet built from a header and the final attempt. -/
def assemble (raw : Bytes) (header : Header) (attempt : Attempt F) (decrypted : Bool)
    (matchedChannelIndex : Option Nat) (remoteChannelName : Option String)
    (signal : Option (SignalMetrics F)) (now : Int) : Packet F :=
  let body := raw.drop MESHTASTIC_HEADER_SIZE
  let isEncrypted := !decrypted && !body.isEmpty
  let decoded := if isEncrypted then some (encryptedPayloadDict header body)
    else attempt.decodedPayload
  { packetId := hex8 header.packetId
    sourceId := hex8 header.sourceId
    destinationId := hex8 header.destId
    protocol := .meshtastic
    packetType := if isEncrypted then .encrypted else attempt.packetType
    hopLimit := header.hopLimit
    hopStart := header.hopStart
    channelHash := header.channelHash
    wantAck := header.wantAck
    viaMqtt := header.viaMqtt
    relayNode := header.relayNode
    decodedPayload :=
      if attempt.requestId = 0 then decoded
      else decoded.map fun entries => entries.set "request_id" (.int attempt.requestId)
    encryptedPayload := if decrypted then none else some body
    rawAppPayload := attempt.rawAppPayload
    rawRadioPacket := some raw
    decrypted := decrypted
    matchedChannelIndex := matchedChannelIndex
    remoteChannelName := remoteChannelName
    signal := signal
    timestamp := now }

/-- The attempt a capture source's own decoding makes. -/
def preDecodedAttempt (pre : PreDecoded) : Attempt F where
  decodedPayload := (dispatchPortnum pb pre.portnum pre.payload).1
  packetType := (dispatchPortnum pb pre.portnum pre.payload).2
  rawAppPayload := bytesOrNone pre.payload
  requestId := pre.requestId

/-- The PKI branch where the header selects it, nothing otherwise. -/
def pkiAttempt (crypto : CryptoService) (ourNodeId : Option Nat) (header : Header) (body : Bytes) :
    Attempt F × CryptoService :=
  if CryptoService.isPkiPacket header.channelHash header.destId ourNodeId body.length then
    tryPki prim pb crypto header body
  else ({}, crypto)

/-- `MeshtasticDecoder.decode`. -/
def decode (crypto : CryptoService) (ourNodeId : Option Nat) (raw : Bytes)
    (signal : Option (SignalMetrics F)) (preDecoded : Option PreDecoded) (now : Int) :
    Option (Packet F) × CryptoService :=
  if raw.length < MESHTASTIC_HEADER_SIZE then (none, crypto)
  else
    match parseHeader (raw.take MESHTASTIC_HEADER_SIZE) with
    | none => (none, crypto)
    | some header =>
      let body := raw.drop MESHTASTIC_HEADER_SIZE
      match preDecoded with
      | some pre =>
        let attempt := preDecodedAttempt pb pre
        (some (assemble raw header attempt attempt.decodedPayload.isSome none pre.channelName
          signal now), crypto)
      | none =>
        let (pki, crypto) := pkiAttempt prim pb crypto ourNodeId header body
        if pki.decodedPayload.isSome then
          (some (assemble raw header pki true none none signal now), crypto)
        else
          let (attempt, matched) := tryKeys pb
            (fun key => CounterMode.ctr (prim.aesBlock key)
              (CryptoService.buildMeshtasticNonce header.packetId header.sourceId) body)
            crypto.getAllKeys 0 pki
          (some (assemble raw header attempt matched.isSome matched none signal now), crypto)

/-! ### What decoding keeps -/

theorem tryPki_toKeyTable (crypto : CryptoService) (header : Header) (body : Bytes) :
    (tryPki prim pb crypto header body).2.toKeyTable = crypto.toKeyTable := by
  have hlookup := crypto.lookupPublicKey_toKeyTable header.sourceId
  unfold tryPki
  split
  · rename_i c h
    rw [h] at hlookup
    exact hlookup
  · rename_i key c h
    rw [h] at hlookup
    have hrefresh := c.refreshPublicKeyFromDb_toKeyTable header.sourceId
    split
    · exact hlookup
    · split
      · exact hlookup
      · split
        · rename_i key' c' h'
          rw [h'] at hrefresh
          split
          · exact hrefresh.trans hlookup
          · split <;> exact hrefresh.trans hlookup
        · rename_i c' h'
          rw [h'] at hrefresh
          exact hrefresh.trans hlookup

theorem pkiAttempt_toKeyTable (crypto : CryptoService) (ourNodeId : Option Nat) (header : Header)
    (body : Bytes) :
    (pkiAttempt prim pb crypto ourNodeId header body).2.toKeyTable = crypto.toKeyTable := by
  unfold pkiAttempt
  split
  · exact tryPki_toKeyTable prim pb crypto header body
  · rfl

/-- Decoding a frame that the PKI branch does not read: the search through the keys
    decides. -/
theorem decode_eq_of_tryKeys {crypto : CryptoService} {ourNodeId : Option Nat} {raw : Bytes}
    {header : Header} {attempt : Attempt F} {matched : Option Nat}
    (signal : Option (SignalMetrics F)) (now : Int) (hlen : MESHTASTIC_HEADER_SIZE ≤ raw.length)
    (hheader : parseHeader (raw.take MESHTASTIC_HEADER_SIZE) = some header)
    (hpki : (pkiAttempt prim pb crypto ourNodeId header
      (raw.drop MESHTASTIC_HEADER_SIZE)).1.decodedPayload = none)
    (htry : tryKeys pb (fun key => CounterMode.ctr (prim.aesBlock key)
        (CryptoService.buildMeshtasticNonce header.packetId header.sourceId)
        (raw.drop MESHTASTIC_HEADER_SIZE)) crypto.getAllKeys 0
      (pkiAttempt prim pb crypto ourNodeId header (raw.drop MESHTASTIC_HEADER_SIZE)).1 =
      (attempt, matched)) :
    (decode prim pb crypto ourNodeId raw signal none now).1 =
      some (assemble raw header attempt matched.isSome matched none signal now) := by
  have hkeys : (pkiAttempt prim pb crypto ourNodeId header
      (raw.drop MESHTASTIC_HEADER_SIZE)).2.getAllKeys = crypto.getAllKeys := by
    rw [KeyTable.getAllKeys, pkiAttempt_toKeyTable]
    rfl
  unfold decode
  rw [if_neg (by omega), hheader]
  simp only [hpki, Option.isSome_none, Bool.false_eq_true, if_false, hkeys, htry]

theorem decode_eq_assemble {crypto : CryptoService} {ourNodeId : Option Nat} {raw : Bytes}
    {signal : Option (SignalMetrics F)} {preDecoded : Option PreDecoded} {now : Int}
    {packet : Packet F}
    (h : (decode prim pb crypto ourNodeId raw signal preDecoded now).1 = some packet) :
    ∃ header attempt decrypted matched name,
      parseHeader (raw.take MESHTASTIC_HEADER_SIZE) = some header ∧
      packet = assemble raw header attempt decrypted matched name signal now := by
  unfold decode at h
  split at h
  · cases h
  · split at h
    · cases h
    · rename_i header hheader
      split at h
      · exact ⟨header, _, _, _, _, hheader, (Option.some.inj h).symm⟩
      · simp only at h
        split at h
        · exact ⟨header, _, _, _, _, hheader, (Option.some.inj h).symm⟩
        · exact ⟨header, _, _, _, _, hheader, (Option.some.inj h).symm⟩

theorem decode_channelHash {crypto : CryptoService} {ourNodeId : Option Nat} {raw : Bytes}
    {signal : Option (SignalMetrics F)} {preDecoded : Option PreDecoded} {now : Int}
    {packet : Packet F}
    (h : (decode prim pb crypto ourNodeId raw signal preDecoded now).1 = some packet) :
    packet.protocol = .meshtastic ∧ packet.channelHash = (raw.getD 13 0).toNat := by
  obtain ⟨header, attempt, decrypted, matched, name, hheader, rfl⟩ := decode_eq_assemble prim pb h
  refine ⟨rfl, ?_⟩
  change header.channelHash = _
  rw [parseHeader_channelHash hheader]
  simp [MESHTASTIC_HEADER_SIZE]

theorem tryKeys_matched {decrypt : AesKey → Bytes} {keys : List AesKey} {start : Nat}
    {last attempt : Attempt F} {index : Nat}
    (h : tryKeys pb decrypt keys start last = (attempt, some index)) :
    start ≤ index ∧ index < start + keys.length ∧ attempt.decodedPayload.isSome = true := by
  induction keys generalizing start last with
  | nil => cases h
  | cons key rest ih =>
    simp only [tryKeys] at h
    split at h
    · rename_i hsome
      cases h
      exact ⟨Nat.le_refl _, by simp, hsome⟩
    · obtain ⟨hle, hlt, hsome⟩ := ih h
      exact ⟨by omega, by simp only [List.length_cons]; omega, hsome⟩

theorem tryKeys_eq_of_getElem? {decrypt : AesKey → Bytes} {keys : List AesKey} {key : AesKey}
    {index : Nat} (start : Nat) (last : Attempt F) (hkey : keys[index]? = some key)
    (hearlier : ∀ j < index, ∀ other, keys[j]? = some other →
      (decodePayload pb (decrypt other)).decodedPayload = none)
    (hread : (decodePayload pb (decrypt key)).decodedPayload.isSome = true) :
    tryKeys pb decrypt keys start last = (decodePayload pb (decrypt key), some (start + index)) := by
  induction keys generalizing index start last with
  | nil => simp at hkey
  | cons first rest ih =>
    cases index with
    | zero =>
      obtain rfl : first = key := by simpa using hkey
      simp [tryKeys, hread]
    | succ index =>
      have hfirst := hearlier 0 (by omega) first rfl
      have hrest := ih (start + 1) (decodePayload pb (decrypt first)) (by simpa using hkey)
        fun j hj other hother => hearlier (j + 1) (by omega) other (by simpa using hother)
      simp only [tryKeys, hfirst, Option.isSome_none, Bool.false_eq_true, if_false, hrest]
      congr 2
      omega

end

end Meshpoint.MeshtasticDecoder
