import Mathlib.Data.List.Induction
import Mathlib.Data.Rat.Defs
import Mathlib.Algebra.Order.Ring.Rat
import Meshpoint.PacketModel
import Meshpoint.PkiCrypto

/-!
# LoRaWAN joins heard by the station

Models of the Join-Request and Join-Accept handling of
`src/decode/lorawan_decoder.py`, of the key store
(`src/decode/lorawan_keystore.py`) and of the join part of
`src/decode/lorawan_crypto.py`.

A Join-Accept names no device.  The decoder pairs it with the Join-Request it heard
last, if that is at most ten seconds old, and decrypts it with that device's keys
without checking the MIC, so the pairing is a best effort.  What holds over every
sequence of frames is stated by `sessionKey_of_run`: each installed session key is
the one of the last Join-Request before the Join-Accept that installed it.
-/

namespace Meshpoint.LorawanJoin

open JsonText ByteCodec

/-! ### Texts -/

def upperDigit (n : Nat) : Char := (Nat.digitChar n).toUpper

/-- `_hex`. -/
def hexUpper (raw : Bytes) : String :=
  String.ofList (raw.flatMap fun b => [upperDigit (b.toNat / 16), upperDigit (b.toNat % 16)])

/-- `_eui_str`. -/
def euiStr (raw : Bytes) : String :=
  ":".intercalate (raw.reverse.map fun b => hexUpper [b])

/-- `f"{n:04X}"` and `f"{n:08X}"` of a number with that many digits. -/
def hexDigits (w n : Nat) : String := String.ofList ((hexFixed w n).map Char.toUpper)

/-! ### Join cryptography -/

structure JoinAcceptFields where
  joinNonce : Bytes
  netId : Bytes
  devAddr : Nat
  dlSettings : Nat
  rxDelay : Nat
  cflist : Option Bytes
  mic : Bytes
deriving DecidableEq, Repr

variable (prim : CryptoPrimitives)

/-- `decrypt_join_accept`. -/
def decryptJoinAccept (nwkKey : AesKey) (encrypted : Bytes) : Option JoinAcceptFields :=
  if encrypted.length = 16 ∨ encrypted.length = 32 then
    let plaintext := AesCcm.encryptBlocks (prim.aesBlock nwkKey) encrypted
    some
      { joinNonce := plaintext.take 3
        netId := (plaintext.drop 3).take 3
        devAddr := leValue ((plaintext.drop 6).take 4)
        dlSettings := (plaintext.getD 10 0).toNat
        rxDelay := (plaintext.getD 11 0).toNat
        cflist := if plaintext.length = 32 then some ((plaintext.drop 12).take 16) else none
        mic := plaintext.drop (plaintext.length - 4) }
  else none

/-- `derive_app_skey`. -/
def deriveAppSkey (appKey : AesKey) (joinNonce joinEui : Bytes) (devNonce : Nat) : Bytes :=
  let block := [0x02] ++ joinNonce ++ joinEui ++ leBytes 2 devNonce
  prim.aesBlock appKey (block ++ List.replicate (16 - block.length) 0)

/-! ### The key store -/

structure Keystore where
  rootKeys : OrderedDict String (AesKey × AesKey) := .empty
  sessionKeys : OrderedDict Nat Bytes := .empty
  devAddrEui : OrderedDict Nat String := .empty

/-- `root_keys_for`; the texts of `_eui_str` are upper-case already. -/
def Keystore.rootKeysFor (store : Keystore) (devEui : String) : Option (AesKey × AesKey) :=
  store.rootKeys.get? devEui

/-- `set_session_key`. -/
def Keystore.setSessionKey (store : Keystore) (devAddr : Nat) (appSkey : Bytes)
    (devEui : String) : Keystore :=
  { store with
    sessionKeys := store.sessionKeys.set devAddr appSkey
    devAddrEui := store.devAddrEui.set devAddr devEui }

/-! ### The decoder -/

def MIN_JOIN_REQUEST : Nat := 23
def JOIN_ACCEPT_LEN_NO_CFLIST : Nat := 17
def JOIN_ACCEPT_LEN_WITH_CFLIST : Nat := 33

/-- `_JOIN_ACCEPT_CORRELATE_WINDOW_S`. -/
def JOIN_ACCEPT_CORRELATE_WINDOW : ℚ := 10

/-- `_last_join_request`. -/
structure JoinRequest where
  devEui : String
  appEui : String
  appEuiRaw : Bytes
  devNonce : Nat
  receivedAt : ℚ
deriving DecidableEq

structure Decoder where
  lastJoinRequest : Option JoinRequest := none
  keystore : Option Keystore := none

/-- The fields of a Join-Request; `none` when it is too short. -/
def parseJoinRequest (raw : Bytes) (now : ℚ) : Option JoinRequest :=
  if raw.length < MIN_JOIN_REQUEST then none
  else some
    { devEui := euiStr ((raw.drop 9).take 8)
      appEui := euiStr ((raw.drop 1).take 8)
      appEuiRaw := (raw.drop 1).take 8
      devNonce := leValue ((raw.drop 17).take 2)
      receivedAt := now }

/-- What a Join-Accept yields under the keys of the device it is paired with. -/
structure Session where
  devEui : String
  fields : JoinAcceptFields
  appSkey : Bytes

/-- The session of a Join-Accept that answers this request, under these root keys. -/
def sessionOf (rootKeys : OrderedDict String (AesKey × AesKey)) (request : JoinRequest)
    (accept : Bytes) : Option Session := do
  let (appKey, nwkKey) ← rootKeys.get? request.devEui
  let fields ← decryptJoinAccept prim nwkKey (accept.drop 1)
  return ⟨request.devEui, fields,
    deriveAppSkey prim appKey fields.joinNonce request.appEuiRaw request.devNonce⟩

def Decoder.correlated (d : Decoder) (now : ℚ) : Option JoinRequest :=
  d.lastJoinRequest.filter fun request =>
    decide (now - request.receivedAt ≤ JOIN_ACCEPT_CORRELATE_WINDOW)

def isJoinAcceptLength (raw : Bytes) : Bool :=
  raw.length = JOIN_ACCEPT_LEN_NO_CFLIST || raw.length = JOIN_ACCEPT_LEN_WITH_CFLIST

def Decoder.acceptedSession (d : Decoder) (raw : Bytes) (now : ℚ) : Option Session := do
  let store ← d.keystore
  let request ← d.correlated now
  sessionOf prim store.rootKeys request raw

/-- The decoder after a Join-Accept: the session's key is installed. -/
def Decoder.install (d : Decoder) : Option Session → Decoder
  | some session =>
    { d with keystore := d.keystore.map fun store =>
        store.setSessionKey session.fields.devAddr session.appSkey session.devEui }
  | none => d

section Packets

variable {F : Type}

/-- `_decode_join_request`. -/
def decodeJoinRequest (d : Decoder) (raw : Bytes) (signal : Option (SignalMetrics F)) (now : ℚ)
    (timestamp : Int) : Decoder × Option (Packet F) :=
  match parseJoinRequest raw now with
  | none => (d, none)
  | some request =>
    ({ d with lastJoinRequest := some request }, some
      { packetId := "join:" ++ hexDigits 4 request.devNonce ++ ":" ++
          hexUpper ((raw.drop 9).take 8)
        sourceId := request.devEui
        destinationId := "network-server"
        protocol := .lorawan
        packetType := .lorawanJoin
        decodedPayload := some (Entries.ofList
          [("mtype", .str "JoinRequest"), ("app_eui", .str request.appEui),
            ("dev_eui", .str request.devEui), ("dev_nonce", .int request.devNonce),
            ("mic", .str (hexUpper ((raw.drop 19).take 4)))])
        decrypted := true
        signal := signal
        captureSource := "concentrator"
        timestamp := timestamp })

/-- The entries a decrypted Join-Accept adds to its dictionary. -/
def sessionEntries (fields : JoinAcceptFields) : List (String × Value F) :=
  [("dev_addr", .str (hexDigits 8 fields.devAddr)), ("net_id", .str (hexUpper fields.netId)),
    ("dl_settings", .int fields.dlSettings), ("rx_delay", .int fields.rxDelay),
    ("cflist", match fields.cflist with
      | some list => .str (hexUpper list)
      | none => .null)]

/-- `_decode_join_accept`. -/
def decodeJoinAccept (d : Decoder) (raw : Bytes) (signal : Option (SignalMetrics F)) (now : ℚ)
    (timestamp : Int) : Decoder × Option (Packet F) :=
  if isJoinAcceptLength raw = false then (d, none)
  else
    let encrypted := raw.drop 1
    let likelyDevEui := (d.correlated now).map JoinRequest.devEui
    let session := d.acceptedSession prim raw now
    (d.install session, some
      { packetId := "joinaccept:" ++ hexUpper (encrypted.take 4)
        sourceId := "network-server"
        destinationId := likelyDevEui.getD "unknown"
        protocol := .lorawan
        packetType := .lorawanJoinAccept
        decodedPayload := some (Entries.ofList
          ([("mtype", .str "JoinAccept"),
            ("likely_dev_eui", match likelyDevEui with
              | some eui => .str eui
              | none => .null),
            ("has_cflist", .bool (raw.length = JOIN_ACCEPT_LEN_WITH_CFLIST)),
            ("encrypted_payload", .str (hexUpper encrypted))] ++
            (session.map fun session => sessionEntries session.fields).getD []))
        decrypted := session.isSome
        signal := signal
        captureSource := "concentrator"
        timestamp := timestamp })

end Packets

/-! ### Runs -/

/-- A frame the concentrator received, the time at which it is decoded and, for a
    Join-Accept, the Join-Request frame that the network server answered with it,
    which only the server knows. -/
structure Reception where
  raw : Bytes
  now : ℚ
  answers : Option Bytes := none

/-- `mtype` and `major` of a frame; `none` for the empty frame. -/
def frameKind (raw : Bytes) : Option (Nat × Nat) :=
  raw.head?.map fun mhdr => (mhdr.toNat / 32 % 8, mhdr.toNat % 4)

/-- What `decode` does to the decoder's state: only joins change it, data frames and
    rejoins read the session keys at most. -/
def receive (d : Decoder) (e : Reception) : Decoder :=
  match frameKind e.raw with
  | some (0, 0) => (decodeJoinRequest (F := Empty) d e.raw none e.now 0).1
  | some (1, 0) => (decodeJoinAccept prim (F := Empty) d e.raw none e.now 0).1
  | _ => d

def run (d : Decoder) (events : List Reception) : Decoder := events.foldl (receive prim) d

/-- A decoder at start, with the configured root keys. -/
def Decoder.fresh (rootKeys : OrderedDict String (AesKey × AesKey)) : Decoder :=
  { keystore := some { rootKeys := rootKeys } }

def joinRequestOf (e : Reception) : Option JoinRequest :=
  if frameKind e.raw = some (0, 0) then parseJoinRequest e.raw e.now else none

def lastRequest (events : List Reception) : Option JoinRequest :=
  events.foldl (fun last e => (joinRequestOf e).or last) none

def isJoinAccept (e : Reception) : Prop :=
  frameKind e.raw = some (1, 0) ∧ isJoinAcceptLength e.raw = true

theorem receive_lastJoinRequest (d : Decoder) (e : Reception) :
    (receive prim d e).lastJoinRequest = (joinRequestOf e).or d.lastJoinRequest := by
  unfold receive joinRequestOf
  split
  · rename_i hkind
    rw [if_pos hkind]
    unfold decodeJoinRequest
    cases parseJoinRequest e.raw e.now <;> rfl
  · rename_i hkind
    rw [if_neg (by rw [hkind]; decide), Option.none_or]
    unfold decodeJoinAccept
    split
    · rfl
    · cases d.acceptedSession prim e.raw e.now <;> rfl
  · rename_i hnot _
    rw [if_neg (fun hkind => hnot hkind), Option.none_or]

/-- What one frame does to the key store: a paired Join-Accept of a configured device
    installs its session, nothing else changes it. -/
theorem receive_keystore (d : Decoder) (e : Reception) :
    (receive prim d e).keystore = d.keystore ∨
      ∃ store request session, d.keystore = some store ∧ isJoinAccept e ∧
        d.correlated e.now = some request ∧
        sessionOf prim store.rootKeys request e.raw = some session ∧
        (receive prim d e).keystore = some
          (store.setSessionKey session.fields.devAddr session.appSkey session.devEui) := by
  unfold receive
  split
  · left
    unfold decodeJoinRequest
    cases parseJoinRequest e.raw e.now <;> rfl
  · rename_i hkind
    unfold decodeJoinAccept
    cases hlength : isJoinAcceptLength e.raw with
    | false => exact Or.inl (by simp)
    | true =>
      rw [if_neg (by simp)]
      cases hsession : d.acceptedSession prim e.raw e.now with
      | none => exact Or.inl rfl
      | some session =>
        right
        simp only [Decoder.acceptedSession, Option.bind_eq_bind, Option.bind_eq_some_iff]
          at hsession
        obtain ⟨store, hstore, request, hrequest, hof⟩ := hsession
        exact ⟨store, request, session, hstore, ⟨hkind, hlength⟩, hrequest, hof,
          by simp [Decoder.install, hstore]⟩
  · exact Or.inl rfl

theorem run_append (d : Decoder) (events : List Reception) (e : Reception) :
    run prim d (events ++ [e]) = receive prim (run prim d events) e := by
  simp [run]

theorem lastRequest_append (events : List Reception) (e : Reception) :
    lastRequest (events ++ [e]) = (joinRequestOf e).or (lastRequest events) := by
  simp [lastRequest]

theorem run_lastJoinRequest (rootKeys : OrderedDict String (AesKey × AesKey))
    (events : List Reception) :
    (run prim (.fresh rootKeys) events).lastJoinRequest = lastRequest events := by
  induction events using List.reverseRecOn with
  | nil => rfl
  | append_singleton events e ih =>
    rw [run_append, receive_lastJoinRequest, lastRequest_append, ih]

theorem lastRequest_eq_some {events : List Reception} {request : JoinRequest}
    (h : lastRequest events = some request) :
    ∃ earlier r later, events = earlier ++ r :: later ∧ joinRequestOf r = some request ∧
      ∀ e ∈ later, joinRequestOf e = none := by
  induction events using List.reverseRecOn with
  | nil => cases h
  | append_singleton events e ih =>
    rw [lastRequest_append] at h
    cases hrequest : joinRequestOf e with
    | some found =>
      rw [hrequest, Option.some_or, Option.some.injEq] at h
      exact ⟨events, e, [], rfl, h ▸ hrequest, by simp⟩
    | none =>
      rw [hrequest, Option.none_or] at h
      obtain ⟨earlier, r, later, rfl, hr, hlater⟩ := ih h
      refine ⟨earlier, r, later ++ [e], by simp, hr, ?_⟩
      intro x hx
      rcases List.mem_append.mp hx with hx | hx
      · exact hlater x hx
      · rw [List.mem_singleton.mp hx]
        exact hrequest

/-! ### Ownership of the session keys -/

/-- The session that the server opened with a Join-Accept: that of the device whose
    request it answers. -/
def trueSession (rootKeys : OrderedDict String (AesKey × AesKey)) (accept : Reception) :
    Option Session := do
  let frame ← accept.answers
  let request ← parseJoinRequest frame 0
  sessionOf prim rootKeys request accept.raw

/-- The key of `devAddr` comes from the Join-Accept `accept` and the Join-Request `r`, the
    last one before it and at most ten seconds older. -/
structure Installed (rootKeys : OrderedDict String (AesKey × AesKey)) (events : List Reception)
    (devAddr : Nat) (appSkey : Bytes) (r accept : Reception) : Prop where
  order : ∃ earlier between after, events = earlier ++ r :: (between ++ accept :: after) ∧
    ∀ e ∈ between, joinRequestOf e = none
  isAccept : isJoinAccept accept
  recent : accept.now - r.now ≤ JOIN_ACCEPT_CORRELATE_WINDOW
  session : ∃ request session, joinRequestOf r = some request ∧
    sessionOf prim rootKeys request accept.raw = some session ∧
    session.fields.devAddr = devAddr ∧ session.appSkey = appSkey

theorem Installed.append {rootKeys : OrderedDict String (AesKey × AesKey)}
    {events : List Reception} {devAddr : Nat} {appSkey : Bytes} {r accept : Reception}
    (h : Installed prim rootKeys events devAddr appSkey r accept) (e : Reception) :
    Installed prim rootKeys (events ++ [e]) devAddr appSkey r accept := by
  obtain ⟨⟨earlier, between, after, hevents, hbetween⟩, haccept, hrecent, hsession⟩ := h
  exact ⟨⟨earlier, between, after ++ [e], by simp [hevents], hbetween⟩, haccept, hrecent, hsession⟩

theorem joinRequestOf_eq_some {r : Reception} {request : JoinRequest}
    (h : joinRequestOf r = some request) :
    parseJoinRequest r.raw r.now = some request ∧ request.receivedAt = r.now := by
  unfold joinRequestOf at h
  split at h
  · refine ⟨h, ?_⟩
    unfold parseJoinRequest at h
    split at h
    · cases h
    · cases h
      rfl
  · cases h

theorem sessionOf_parseJoinRequest (rootKeys : OrderedDict String (AesKey × AesKey)) {raw : Bytes}
    {now : ℚ} {request : JoinRequest} (h : parseJoinRequest raw now = some request)
    (accept : Bytes) :
    (parseJoinRequest raw 0).bind (fun other => sessionOf prim rootKeys other accept) =
      sessionOf prim rootKeys request accept := by
  unfold parseJoinRequest at h ⊢
  split at h
  · cases h
  · cases h
    rename_i hlen
    rw [if_neg hlen]
    rfl

theorem installed_of_run (rootKeys : OrderedDict String (AesKey × AesKey))
    (events : List Reception) :
    ∃ store, (run prim (.fresh rootKeys) events).keystore = some store ∧
      store.rootKeys = rootKeys ∧
      ∀ devAddr appSkey, store.sessionKeys.get? devAddr = some appSkey →
        ∃ r accept, Installed prim rootKeys events devAddr appSkey r accept := by
  induction events using List.reverseRecOn with
  | nil =>
    refine ⟨_, rfl, rfl, ?_⟩
    intro devAddr appSkey h
    cases h
  | append_singleton events e ih =>
    obtain ⟨store, hstore, hroot, hkeys⟩ := ih
    have hold : ∀ devAddr appSkey, store.sessionKeys.get? devAddr = some appSkey →
        ∃ r accept, Installed prim rootKeys (events ++ [e]) devAddr appSkey r accept := by
      intro devAddr appSkey h
      obtain ⟨r, accept, hinstalled⟩ := hkeys devAddr appSkey h
      exact ⟨r, accept, hinstalled.append prim e⟩
    rw [run_append]
    rcases receive_keystore prim (run prim (.fresh rootKeys) events) e with hsame |
      ⟨store', request, session, hstore', haccept, hrequest, hsession, hinstall⟩
    · exact ⟨store, hsame.trans hstore, hroot, hold⟩
    · -- the new entry is that of the pending request, the others are old
      rw [hstore, Option.some.injEq] at hstore'
      subst hstore'
      refine ⟨_, hinstall, hroot, ?_⟩
      intro devAddr appSkey h
      rw [Keystore.setSessionKey, OrderedDict.get?_set] at h
      split at h
      · rename_i haddr
        rw [Option.some.injEq] at h
        rw [Decoder.correlated, run_lastJoinRequest, Option.filter_eq_some_iff,
          decide_eq_true_eq] at hrequest
        obtain ⟨earlier, r, later, hevents, hr, hlater⟩ := lastRequest_eq_some hrequest.1
        refine ⟨r, e, ⟨earlier, later, [], by simp [hevents], hlater⟩, haccept, ?_,
          request, session, hr, hroot ▸ hsession, haddr, h⟩
        rw [← (joinRequestOf_eq_some hr).2]
        exact hrequest.2
      · exact hold devAddr appSkey h

/-- **Session ownership.**  After any sequence of frames, each session key was installed by
    a Join-Accept with the root keys, JoinEUI and DevNonce of the last Join-Request
    before it, at most ten seconds older; it is the key of the session the server
    opened whenever the Join-Accept answers that request. -/
theorem sessionKey_of_run (rootKeys : OrderedDict String (AesKey × AesKey))
    (events : List Reception) {store : Keystore} {devAddr : Nat} {appSkey : Bytes}
    (hstore : (run prim (.fresh rootKeys) events).keystore = some store)
    (hkey : store.sessionKeys.get? devAddr = some appSkey) :
    ∃ r accept, Installed prim rootKeys events devAddr appSkey r accept ∧
      (accept.answers = some r.raw → ∃ session, trueSession prim rootKeys accept = some session ∧
        session.fields.devAddr = devAddr ∧ session.appSkey = appSkey) := by
  obtain ⟨store', hstore', -, hkeys⟩ := installed_of_run prim rootKeys events
  rw [hstore, Option.some.injEq] at hstore'
  subst hstore'
  obtain ⟨r, accept, hinstalled⟩ := hkeys devAddr appSkey hkey
  refine ⟨r, accept, hinstalled, ?_⟩
  intro hanswers
  obtain ⟨request, session, hr, hsession, haddr, hskey⟩ := hinstalled.session
  refine ⟨session, ?_, haddr, hskey⟩
  rw [trueSession, hanswers, ← hsession]
  exact sessionOf_parseJoinRequest prim rootKeys (joinRequestOf_eq_some hr).1 accept.raw

/-! ### Two devices joining together -/

def joinPrimitives : CryptoPrimitives :=
  .ofTable
    [(List.replicate 16 0xA2, ofHex "47baec51bf96c12cd15c6b29d617d58a",
        ofHex "010000130000030201260005deadbeef"),
      (List.replicate 16 0xB2, ofHex "47baec51bf96c12cd15c6b29d617d58a",
        ofHex "b0aa8afd1da351090ead91e3badf33b2"),
      (List.replicate 16 0xA1, ofHex "02010000000000000000000001000000",
        ofHex "ccf917486018e88dabf920e8817a57aa"),
      (List.replicate 16 0xB1, ofHex "02b0aa8a000000000000000002000000",
        ofHex "abfba37aa44d140b6c2b2c1f8e12c882")] [] []

def repeatedKey (b : UInt8) : AesKey := ⟨List.replicate 16 b, by simp⟩

def twoDevices : OrderedDict String (AesKey × AesKey) := OrderedDict.ofList
  [("70:B3:D5:7E:D0:00:00:0A", (repeatedKey 0xA1, repeatedKey 0xA2)),
    ("70:B3:D5:7E:D0:00:00:0B", (repeatedKey 0xB1, repeatedKey 0xB2))]

def requestA : Reception := ⟨ofHex "0000000000000000000a0000d07ed5b370010001020304", 0, none⟩

def requestB : Reception := ⟨ofHex "0000000000000000000b0000d07ed5b370020005060708", 1, none⟩

/-- The answer to device A, encrypted with its network key. -/
def acceptA : Reception := ⟨ofHex "2047baec51bf96c12cd15c6b29d617d58a", 5, some requestA.raw⟩

def storeAfter (events : List Reception) : Keystore :=
  ((run joinPrimitives (.fresh twoDevices) events).keystore).getD {}

theorem run_eq_some_storeAfter (events : List Reception) :
    (run joinPrimitives (.fresh twoDevices) events).keystore = some (storeAfter events) := by
  obtain ⟨store, hstore, -⟩ := installed_of_run joinPrimitives twoDevices events
  rw [storeAfter, hstore]
  rfl

/-- Device A alone: its own session key is installed. -/
theorem sessionKey_of_run_single :
    ∃ r accept, Installed joinPrimitives twoDevices [requestA, acceptA] 0x26010203
        (ofHex "ccf917486018e88dabf920e8817a57aa") r accept ∧
      (accept.answers = some r.raw →
        ∃ session, trueSession joinPrimitives twoDevices accept = some session ∧
          session.fields.devAddr = 0x26010203 ∧
          session.appSkey = ofHex "ccf917486018e88dabf920e8817a57aa") :=
  sessionKey_of_run joinPrimitives twoDevices [requestA, acceptA]
    (run_eq_some_storeAfter [requestA, acceptA]) (by decide +kernel)

/-- Device B asks to join between A's request and the answer to A: the answer is
    attributed to B, and B's key is installed under an address that neither has. -/
theorem accept_attributed_to_later_request :
    (storeAfter [requestA, requestB, acceptA]).sessionKeys.items =
        [(0xAD0E0951, ofHex "abfba37aa44d140b6c2b2c1f8e12c882")] ∧
      (trueSession joinPrimitives twoDevices acceptA).map
          (fun session => (session.devEui, session.fields.devAddr, session.appSkey)) =
        some ("70:B3:D5:7E:D0:00:00:0A", 0x26010203, ofHex "ccf917486018e88dabf920e8817a57aa") ∧
      ((decodeJoinAccept joinPrimitives (F := WholeFloat)
          (run joinPrimitives (.fresh twoDevices) [requestA, requestB]) acceptA.raw none
          acceptA.now 0).2.map Packet.destinationId) = some "70:B3:D5:7E:D0:00:00:0B" := by
  refine ⟨?_, ?_, ?_⟩
  · decide +kernel
  · decide +kernel
  · decide +kernel

end Meshpoint.LorawanJoin
