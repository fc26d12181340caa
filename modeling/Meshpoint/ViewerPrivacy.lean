import Meshpoint.ConfigResponse

/-!
# What a viewer learns of the keys

Two configurations that differ in secrets only, and the responses of `ConfigResponse` to a
session with the viewer role.  `veiled` replaces every secret by a mark that says whether it is
set.

The response of `get_config` is one of the veiled configuration, the hashes of the Meshtastic
channels aside: a hash is the checksum of the name and the key, and the redaction leaves it.
`get_lorawan_config` is not redacted.  `sameResponses_iff` puts both together.
-/

namespace Meshpoint.ViewerPrivacy

open ByteCodec ChannelKeys ConfigResponse

/-! ### Secrets -/

def veil (secret : String) : String := if PyText.strip secret = "" then "" else "*"

def veilOption (secret : Option String) : Option String := if isSet secret then some "*" else none

def veilEntries (keys : List (String × String)) : List (String × String) :=
  keys.map fun entry => (entry.1, veil entry.2)

section

variable {F : Type}

def veilDevice (device : LorawanDevice F) : LorawanDevice F :=
  { device with appKey := veilOption device.appKey, nwkKey := veilOption device.nwkKey }

def veiled (cfg : AppConfig F) : AppConfig F :=
  { cfg with
    lorawan := cfg.lorawan.map fun entry => (entry.1, veilDevice entry.2)
    meshtastic :=
      { cfg.meshtastic with
        defaultKeyB64 := veil cfg.meshtastic.defaultKeyB64
        channelKeys := veilEntries cfg.meshtastic.channelKeys }
    meshcore := { cfg.meshcore with channelKeys := veilEntries cfg.meshcore.channelKeys }
    upstream := { cfg.upstream with authToken := veilOption cfg.upstream.authToken }
    mqtt := { cfg.mqtt with password := veilOption cfg.mqtt.password }
    metrics :=
      { cfg.metrics with
        apiKeys := cfg.metrics.apiKeys.map fun k => { k with keyHash := veil k.keyHash } }
    repeaterPoll :=
      { cfg.repeaterPoll with
        repeaters := cfg.repeaterPoll.repeaters.map fun r =>
          { r with password := veilOption r.password } } }

/-- The configurations differ in the values of secrets only, and the same ones are set. -/
def SameButSecrets (cfg cfg' : AppConfig F) : Prop := veiled cfg = veiled cfg'

/-- The checksum of a channel key: the xor of the bytes it expands to, if it decodes. -/
def checksum (keyB64 : String) : Option UInt8 :=
  (b64decode keyB64).map fun raw => xorAll (expandKey raw).bytes

def checksums (mt : MeshtasticConfig) : List (Option UInt8) :=
  checksum mt.defaultKeyB64 :: mt.channelKeys.map fun entry => checksum entry.2

def lorawanKeys (cfg : AppConfig F) : List (String × String) :=
  cfg.lorawan.map fun entry => (entry.2.appKey.getD "", entry.2.nwkKey.getD "")

/-- The two responses to every session of a viewer are the same. -/
def SameResponses [ResponseFloat F] (platform : Platform) (live : Live F)
    (cfg cfg' : AppConfig F) : Prop :=
  ∀ claims : AuthService.SessionClaims, claims.role = AuthService.ROLE_VIEWER →
    getConfig platform cfg live claims = getConfig platform cfg' live claims ∧
      getLorawanConfig cfg claims = getLorawanConfig cfg' claims

/-! ### Set or not -/

theorem isSet_veilOption (secret : Option String) : isSet (veilOption secret) = isSet secret := by
  unfold veilOption
  cases h : isSet secret with
  | true => decide
  | false => decide

theorem veilEntries_names (keys : List (String × String)) :
    (veilEntries keys).map Prod.fst = keys.map Prod.fst := by
  unfold veilEntries
  rw [List.map_map]
  rfl

theorem veiled_radio (cfg : AppConfig F) : (veiled cfg).radio = cfg.radio := by
  simp only [veiled]

theorem veiled_primaryChannelName (cfg : AppConfig F) :
    (veiled cfg).meshtastic.primaryChannelName = cfg.meshtastic.primaryChannelName := by
  simp only [veiled]

theorem veiled_channelNames (cfg : AppConfig F) :
    (veiled cfg).meshtastic.channelKeys.map Prod.fst =
      cfg.meshtastic.channelKeys.map Prod.fst := by
  simp only [veiled, veilEntries_names]

/-! ### The hash of a channel -/

theorem readHexUpper :
    ∀ n : Nat, n < 256 → PyText.intOfText 16 (formatHexUpper 2 n) = some (n : Int) := by
  decide +kernel

theorem formatHexUpper_injective {a b : UInt8}
    (h : formatHexUpper 2 a.toNat = formatHexUpper 2 b.toNat) : a = b := by
  have hread := congrArg (PyText.intOfText 16) h
  rw [readHexUpper _ a.toNat_lt, readHexUpper _ b.toNat_lt] at hread
  exact UInt8.toNat_inj.mp (Int.ofNat.inj (Option.some.inj hread))

theorem computeHashSafe_eq_iff (hasCrypto : Bool) (name key key' : String) :
    computeHashSafe hasCrypto name key = computeHashSafe hasCrypto name key' ↔
      (hasCrypto = true → checksum key = checksum key') := by
  unfold computeHashSafe checksum
  cases hasCrypto with
  | false => simp only [Bool.false_eq_true, if_false, false_implies]
  | true =>
    simp only [if_true, forall_const]
    have hbegins : ∀ s : String, "0x" ++ s ≠ "--" := by
      intro s h
      have hlist := congrArg String.toList h
      rw [String.toList_append] at hlist
      cases hlist
    cases b64decode key with
    | none =>
      cases b64decode key' with
      | none => exact iff_of_true rfl rfl
      | some raw' => exact iff_of_false (fun h => hbegins _ h.symm) (fun h => nomatch h)
    | some raw =>
      cases b64decode key' with
      | none => exact iff_of_false (hbegins _) (fun h => nomatch h)
      | some raw' =>
        simp only [Option.map_some, Option.some.injEq]
        constructor
        · intro h
          have hlist := congrArg String.toList h
          rw [String.toList_append, String.toList_append] at hlist
          have htext := String.toList_inj.mp (List.append_cancel_left hlist)
          have hhash := formatHexUpper_injective htext
          rw [computeChannelHash_eq, computeChannelHash_eq] at hhash
          exact (UInt8.xor_right_inj _).mp hhash
        · intro h
          rw [computeChannelHash_eq, computeChannelHash_eq, h]

/-! ### The channel list of a viewer -/

def viewerChannels (hasCrypto : Bool) (mt : MeshtasticConfig) (spreadingFactor bandwidth : Int) :
    List ChannelBlock :=
  (buildChannelList hasCrypto mt spreadingFactor bandwidth).map fun ch => { ch with pskB64 := "" }

def viewerEntry (hasCrypto : Bool) (entry : (String × String) × Nat) : ChannelBlock where
  index := entry.2
  name := entry.1.1
  hashName := none
  pskB64 := ""
  hash := computeHashSafe hasCrypto entry.1.1 entry.1.2
  enabled := true

theorem viewerChannels_eq (hasCrypto : Bool) (mt : MeshtasticConfig)
    (spreadingFactor bandwidth : Int) :
    viewerChannels hasCrypto mt spreadingFactor bandwidth =
      ⟨0, primaryName mt spreadingFactor bandwidth,
        some (primaryName mt spreadingFactor bandwidth), "",
        computeHashSafe hasCrypto (primaryName mt spreadingFactor bandwidth) mt.defaultKeyB64,
        true⟩ :: (mt.channelKeys.zipIdx 1).map (viewerEntry hasCrypto) := by
  unfold viewerChannels buildChannelList
  rw [List.map_cons, List.map_map]
  rfl

theorem viewerEntries_eq_iff {hasCrypto : Bool} {keys keys' : List (String × String)}
    (hnames : keys.map Prod.fst = keys'.map Prod.fst) (n : Nat) :
    (keys.zipIdx n).map (viewerEntry hasCrypto) = (keys'.zipIdx n).map (viewerEntry hasCrypto) ↔
      (hasCrypto = true →
        keys.map (fun entry => checksum entry.2) = keys'.map fun entry => checksum entry.2) := by
  induction keys generalizing keys' n with
  | nil =>
    cases keys' with
    | nil => exact iff_of_true rfl (fun _ => rfl)
    | cons entry' keys' => cases hnames
  | cons entry keys ih =>
    cases keys' with
    | nil => cases hnames
    | cons entry' keys' =>
      obtain ⟨hname, hnames⟩ := List.cons.inj hnames
      have hhead : viewerEntry hasCrypto (entry, n) = viewerEntry hasCrypto (entry', n) ↔
          (hasCrypto = true → checksum entry.2 = checksum entry'.2) := by
        rw [← computeHashSafe_eq_iff hasCrypto entry.1, viewerEntry, viewerEntry]
        simp only [hname, ChannelBlock.mk.injEq, true_and, and_true]
      simp only [List.zipIdx_cons, List.map_cons, List.cons.injEq]
      rw [hhead, ih hnames (n + 1), imp_and]

theorem viewerChannels_eq_iff {hasCrypto : Bool} {mt mt' : MeshtasticConfig}
    (hprimary : mt.primaryChannelName = mt'.primaryChannelName)
    (hnames : mt.channelKeys.map Prod.fst = mt'.channelKeys.map Prod.fst)
    (spreadingFactor bandwidth : Int) :
    viewerChannels hasCrypto mt spreadingFactor bandwidth =
        viewerChannels hasCrypto mt' spreadingFactor bandwidth ↔
      (hasCrypto = true → checksums mt = checksums mt') := by
  have hname : primaryName mt spreadingFactor bandwidth =
      primaryName mt' spreadingFactor bandwidth := by
    unfold primaryName
    rw [hprimary]
  rw [viewerChannels_eq, viewerChannels_eq, hname]
  simp only [List.cons.injEq, ChannelBlock.mk.injEq, true_and, and_true, checksums]
  rw [viewerEntries_eq_iff hnames, computeHashSafe_eq_iff, imp_and]

/-! ### The rest of the response -/

theorem enrich_veiled (cfg : AppConfig F) : enrich (veiled cfg) = enrich cfg := by
  have hrepeaters : ((veiled cfg).repeaterPoll.repeaters.map fun r =>
      (⟨r.key, r.name, isSet r.password⟩ : RepeaterBlock)) =
        cfg.repeaterPoll.repeaters.map fun r => ⟨r.key, r.name, isSet r.password⟩ := by
    simp only [veiled, List.map_map]
    apply List.map_congr_left
    intro r _
    simp only [Function.comp_apply, isSet_veilOption]
  have hkeys : ((veiled cfg).metrics.apiKeys.map fun k =>
      (⟨k.id, k.label, k.createdAt, k.lastUsedAt⟩ : ApiKeyBlock)) =
        cfg.metrics.apiKeys.map fun k => ⟨k.id, k.label, k.createdAt, k.lastUsedAt⟩ := by
    simp only [veiled, List.map_map]
    rfl
  have htoken : isSet (veiled cfg).upstream.authToken = isSet cfg.upstream.authToken := by
    simp only [veiled, isSet_veilOption]
  unfold enrich
  rw [hrepeaters, hkeys, htoken]
  simp only [veiled]
  rfl

theorem buildMqttStatus_veiled (platform : Platform) (cfg : AppConfig F) (deviceName : String) :
    buildMqttStatus platform (veiled cfg).mqtt deviceName =
      buildMqttStatus platform cfg.mqtt deviceName := by
  have hpassword : isSet (veiled cfg).mqtt.password = isSet cfg.mqtt.password := by
    simp only [veiled, isSet_veilOption]
  unfold buildMqttStatus
  rw [hpassword]
  simp only [veiled]

theorem meshcoreKeys_veiled (platform : Platform) (cfg : AppConfig F) (live : Live F) :
    (meshcoreStatus platform (veiled cfg) live).channelKeys.map
        (fun ck => { ck with keyHex := "" }) =
      (meshcoreStatus platform cfg live).channelKeys.map fun ck => { ck with keyHex := "" } := by
  simp only [meshcoreStatus, veiled, veilEntries, List.map_map]
  rfl

theorem lorawanBlocks_eq_iff {devices devices' : List (String × LorawanDevice F)}
    (hsame : devices.map (fun entry => (entry.1, veilDevice entry.2)) =
      devices'.map fun entry => (entry.1, veilDevice entry.2)) :
    devices.map lorawanBlock = devices'.map lorawanBlock ↔
      devices.map (fun entry => (entry.2.appKey.getD "", entry.2.nwkKey.getD "")) =
        devices'.map fun entry => (entry.2.appKey.getD "", entry.2.nwkKey.getD "") := by
  induction devices generalizing devices' with
  | nil =>
    cases devices' with
    | nil => exact iff_of_true rfl rfl
    | cons entry' devices' => cases hsame
  | cons entry devices ih =>
    cases devices' with
    | nil => cases hsame
    | cons entry' devices' =>
      obtain ⟨hhead, htail⟩ := List.cons.inj hsame
      obtain ⟨heui, hdevice⟩ := Prod.mk.inj hhead
      have hfields := congrArg LorawanDevice.payloadFields hdevice
      simp only [veilDevice] at hfields
      simp only [List.map_cons, List.cons.injEq, lorawanBlock, LorawanDeviceBlock.mk.injEq,
        Prod.mk.injEq, heui, hfields, true_and, and_true]
      rw [← ih htail]

theorem getLorawanConfig_eq_iff {cfg cfg' : AppConfig F} (hsame : SameButSecrets cfg cfg')
    (claims : AuthService.SessionClaims) :
    getLorawanConfig cfg claims = getLorawanConfig cfg' claims ↔
      lorawanKeys cfg = lorawanKeys cfg' :=
  lorawanBlocks_eq_iff (congrArg AppConfig.lorawan hsame)

variable [ResponseFloat F]

/-- What a viewer is sent: the response of the veiled configuration with the channels of the
    real one. -/
theorem getConfig_viewer (platform : Platform) (cfg : AppConfig F) (live : Live F)
    {claims : AuthService.SessionClaims} (hrole : claims.role = AuthService.ROLE_VIEWER) :
    getConfig platform cfg live claims =
      (RadioFloat.kilohertz cfg.radio.bandwidthKhz).bind fun bandwidth =>
        (getConfig platform (veiled cfg) live claims).map fun payload =>
          { payload with
            channels := viewerChannels live.hasCrypto cfg.meshtastic cfg.radio.spreadingFactor
              bandwidth } := by
  have hviewer : claims.role ≠ AuthService.ROLE_ADMIN := by
    rw [hrole]
    decide
  unfold getConfig buildPayload
  cases hbandwidth : RadioFloat.kilohertz cfg.radio.bandwidthKhz with
  | none => rfl
  | some bandwidth =>
    have hveiled : RadioFloat.kilohertz (veiled cfg).radio.bandwidthKhz = some bandwidth := by
      rw [veiled_radio, hbandwidth]
    simp only [hveiled, Option.bind_eq_bind, Option.bind_some, Option.pure_def,
      Option.map_some, if_pos hviewer]
    unfold redactChannelSecrets
    rw [enrich_veiled, buildMqttStatus_veiled, meshcoreKeys_veiled]
    rfl

/-- The redacted responses agree exactly when the checksums do, or the request fails. -/
theorem getConfig_eq_iff {platform : Platform} {live : Live F} {cfg cfg' : AppConfig F}
    (hsame : SameButSecrets cfg cfg') {claims : AuthService.SessionClaims}
    (hrole : claims.role = AuthService.ROLE_VIEWER) :
    getConfig platform cfg live claims = getConfig platform cfg' live claims ↔
      (live.hasCrypto = true → (RadioFloat.kilohertz cfg.radio.bandwidthKhz).isSome = true →
        checksums cfg.meshtastic = checksums cfg'.meshtastic) := by
  have hveiled : veiled cfg = veiled cfg' := hsame
  have hradio : cfg.radio = cfg'.radio := by
    rw [← veiled_radio cfg, ← veiled_radio cfg', hveiled]
  have hprimary : cfg.meshtastic.primaryChannelName = cfg'.meshtastic.primaryChannelName := by
    rw [← veiled_primaryChannelName cfg, ← veiled_primaryChannelName cfg', hveiled]
  have hnames : cfg.meshtastic.channelKeys.map Prod.fst =
      cfg'.meshtastic.channelKeys.map Prod.fst := by
    rw [← veiled_channelNames cfg, ← veiled_channelNames cfg', hveiled]
  rw [getConfig_viewer platform cfg live hrole, getConfig_viewer platform cfg' live hrole,
    ← hradio, ← hveiled]
  cases hbandwidth : RadioFloat.kilohertz cfg.radio.bandwidthKhz with
  | none => exact iff_of_true rfl (fun _ h => nomatch h)
  | some bandwidth =>
    have hpayload : ∃ payload, getConfig platform (veiled cfg) live claims = some payload := by
      have hveiled : RadioFloat.kilohertz (veiled cfg).radio.bandwidthKhz = some bandwidth := by
        rw [veiled_radio, hbandwidth]
      unfold getConfig buildPayload
      simp only [hveiled]
      exact ⟨_, rfl⟩
    obtain ⟨payload, hpayload⟩ := hpayload
    simp only [hpayload, Option.bind_some, Option.map_some, Option.some.injEq, Option.isSome_some,
      forall_const]
    rw [← viewerChannels_eq_iff hprimary hnames cfg.radio.spreadingFactor bandwidth]
    constructor
    · intro h
      exact congrArg Payload.channels h
    · intro h
      rw [h]

/-- **Viewers and keys.**  The responses of two configurations that differ in secrets only are
    the same exactly when the checksums of the Meshtastic keys are, or are not computed, and
    the LoRaWAN keys are. -/
theorem sameResponses_iff (platform : Platform) (live : Live F) (cfg cfg' : AppConfig F)
    (hsame : SameButSecrets cfg cfg') :
    SameResponses platform live cfg cfg' ↔
      (live.hasCrypto = true → (RadioFloat.kilohertz cfg.radio.bandwidthKhz).isSome = true →
        checksums cfg.meshtastic = checksums cfg'.meshtastic) ∧
        lorawanKeys cfg = lorawanKeys cfg' := by
  constructor
  · intro h
    have hrole : AuthService.SessionClaims.role ⟨"viewer", AuthService.ROLE_VIEWER, 1⟩ =
        AuthService.ROLE_VIEWER := rfl
    obtain ⟨hconfig, hlorawan⟩ := h _ hrole
    exact ⟨(getConfig_eq_iff hsame hrole).mp hconfig,
      (getLorawanConfig_eq_iff hsame _).mp hlorawan⟩
  · rintro ⟨hconfig, hlorawan⟩ claims hrole
    exact ⟨(getConfig_eq_iff hsame hrole).mpr hconfig,
      (getLorawanConfig_eq_iff hsame claims).mpr hlorawan⟩

end

/-! ### Two configurations of one station -/

open AcceptedSettings (roundHalfEven eu868Config)

instance : ResponseFloat ℚ where
  megahertz hz := roundHalfEven ((hz : ℚ) / 100) / 10000
  round4 x := roundHalfEven (x * 10000) / 10000

/-- The EU868 station with one LoRaWAN device and the other settings as they are by default. -/
def eu868Station (psk mqttPassword appKey : String) : AppConfig ℚ where
  radio :=
    { eu868Config.radio with
      syncWord := 0x2B
      preambleLength := 16
      spectralScanIntervalSeconds := 60
      sx1261SpiPath := ""
      captureRamSpectrum := false
      pager := eu868Config.pager }
  lorawan := [("70:B3:D5:7E:D0:07:8B:FD", ⟨some appKey, none, none⟩)]
  meshtastic := ⟨psk, "LongFast", []⟩
  meshcore := ⟨[], some []⟩
  capture := ⟨["mock"], "/dev/spidev0.0", [{}], []⟩
  storage := ⟨"data/concentrator.db", 100000, 100000, 3600⟩
  dashboard := ⟨false, false, "https://tile.openstreetmap.org/{z}/{x}/{y}.png", "dashboard"⟩
  upstream := ⟨"wss://api.meshradar.io", 10, 5000, none⟩
  device := ⟨"Meshpoint", none, none, none, "RAK2287 + Raspberry Pi 4"⟩
  relay := eu868Config.relay
  mqtt := ⟨false, "mqtt.meshtastic.org", 1883, "meshdev", some mqttPassword, "msh", "US", false, "",
    none, ["LongFast", "MeshCore"], false, "exact", false, false, 3600, 14⟩
  transmit := ⟨false, none, 14, none, "Meshpoint", "MPNT", 3, ⟨180, 60⟩, ⟨30, 120⟩,
    ⟨⟨15, 180⟩, "static", "approximate"⟩⟩
  location := ⟨"static", "127.0.0.1", 2947, 5, 1⟩
  metrics := ⟨false, true, []⟩
  fan := ⟨false, 13, 45, 65, 35 / 100, 5, 10⟩
  led := ⟨false, 22, true⟩
  button := ⟨false, 27, 3, 30⟩
  updateCheck := ⟨true, 60⟩
  repeaterPoll := ⟨false, 30, []⟩

def receiving : Live ℚ := ⟨true, none, none, [], [], none, none, none⟩

def plainPlatform : Platform := ⟨.ascii, id⟩

theorem sameButSecrets_eu868Station {psk psk' password password' appKey appKey' : String}
    (hpsk : veil psk = veil psk')
    (hpassword : veilOption (some password) = veilOption (some password'))
    (happKey : veilOption (some appKey) = veilOption (some appKey')) :
    SameButSecrets (eu868Station psk password appKey) (eu868Station psk' password' appKey') := by
  unfold SameButSecrets
  simp only [veiled, eu868Station, List.map_cons, List.map_nil, veilDevice, hpsk, hpassword,
    happKey]

/-- Two channel keys of the same checksum and two MQTT passwords are not told apart. -/
theorem sameResponses_eu868 :
    SameResponses plainPlatform receiving (eu868Station "AQI=" "large4cats" "00112233")
      (eu868Station "AgE=" "small2dogs" "00112233") := by
  have hsame : SameButSecrets (eu868Station "AQI=" "large4cats" "00112233")
      (eu868Station "AgE=" "small2dogs" "00112233") :=
    sameButSecrets_eu868Station (by decide) (by decide) rfl
  have hchecksum : checksum "AQI=" = checksum "AgE=" := by decide
  apply (sameResponses_iff plainPlatform receiving _ _ hsame).mpr
  refine ⟨fun _ _ => ?_, rfl⟩
  exact congrArg (fun sum => [sum]) hchecksum

/-- A viewer reads the key of a LoRaWAN device, and tells two channel keys apart. -/
theorem responses_differ :
    (SameButSecrets (eu868Station "AQ==" "large4cats" "00112233")
        (eu868Station "AQ==" "large4cats" "44556677") ∧
      ¬ SameResponses plainPlatform receiving (eu868Station "AQ==" "large4cats" "00112233")
        (eu868Station "AQ==" "large4cats" "44556677")) ∧
    (SameButSecrets (eu868Station "AQ==" "large4cats" "00112233")
        (eu868Station "Ag==" "large4cats" "00112233") ∧
      ¬ SameResponses plainPlatform receiving (eu868Station "AQ==" "large4cats" "00112233")
        (eu868Station "Ag==" "large4cats" "00112233")) := by
  have hlorawan : SameButSecrets (eu868Station "AQ==" "large4cats" "00112233")
      (eu868Station "AQ==" "large4cats" "44556677") :=
    sameButSecrets_eu868Station rfl rfl (by decide)
  have hchannel : SameButSecrets (eu868Station "AQ==" "large4cats" "00112233")
      (eu868Station "Ag==" "large4cats" "00112233") :=
    sameButSecrets_eu868Station (by decide) rfl rfl
  let viewer : AuthService.SessionClaims := ⟨"viewer", AuthService.ROLE_VIEWER, 1⟩
  have hviewer : viewer.role = AuthService.ROLE_VIEWER := rfl
  refine ⟨⟨hlorawan, ?_⟩, hchannel, ?_⟩
  · intro h
    have hkeys := (getLorawanConfig_eq_iff hlorawan viewer).mp (h viewer hviewer).2
    revert hkeys
    decide
  · intro h
    have hsums := (getConfig_eq_iff hchannel hviewer).mp (h viewer hviewer).1 rfl rfl
    revert hsums
    decide

end Meshpoint.ViewerPrivacy
