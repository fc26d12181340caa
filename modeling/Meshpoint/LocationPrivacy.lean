import Meshpoint.MqttPublisher
import Meshpoint.MeshcoreEventAdapter

/-!
# What MQTT reveals about coordinates

Two packets that differ only in the coordinates they report are compared through
everything the publisher writes.  `names` is the vocabulary of a packet producer:
the keys under which it reports coordinates, at any depth (`latitude`, `adv_lat`,
a nested copy of a companion event, ...).

The outputs depend on a packet only through `prepare_packet`, so they cannot
differ where the location filter makes the two payloads the same; and wherever
the payload is written as JSON they agree only then.
-/

namespace Meshpoint.LocationPrivacy

open JsonText ByteCodec MqttPrivacy MqttFormatter MqttPublisher

variable {F : Type}

section

variable [PyFloat F]

/-! ### Pairs of packets -/

/-- Payloads that differ only under the keys of `names`; under `approximate` the
    rounded coordinates of each pair of dictionaries are the same as well. -/
def PayloadsDifferIn (names : String → Bool) (policy : LocationPolicy) :
    Option (Entries F) → Option (Entries F) → Prop
  | none, none => True
  | some es, some fs => Agree names (reported policy) (.dict es) (.dict fs)
  | _, _ => False

/-- Packets that differ only in the coordinates they report: in the decoded
    payload under `names`, and in the raw bytes these were decoded from. -/
structure DifferIn (names : String → Bool) (policy : LocationPolicy) (p q : Packet F) : Prop where
  fields : ∃ payload rawApp rawRadio, q =
    { p with decodedPayload := payload, rawAppPayload := rawApp, rawRadioPacket := rawRadio }
  payloads : PayloadsDifferIn names policy p.decodedPayload q.decodedPayload

def filterRaises (policy : LocationPolicy) (packet : Packet F) : Bool :=
  packet.decodedPayload.any fun entries => overflows policy (.dict entries)

/-- The condition on the two payloads: whatever is not named in the location
    fields agrees, and an integer coordinate too large for a float occurs in both
    or in neither. -/
structure AgreeOutsideLocationFields (policy : LocationPolicy) (p q : Packet F) : Prop where
  agree : PayloadsDifferIn isLocationField policy p.decodedPayload q.decodedPayload
  raises : filterRaises policy p = filterRaises policy q

/-! ### Outputs factor through the filter -/

theorem filteredPayload_eq_iff {policy : LocationPolicy} (hp : policy ≠ .exact)
    {x y : Option (Entries F)} (hshape : x.isSome = y.isSome) :
    filteredPayload policy x = filteredPayload policy y ↔
      PayloadsDifferIn isLocationField policy x y := by
  cases x with
  | none =>
    cases y with
    | none => simp [filteredPayload, PayloadsDifferIn]
    | some fs => cases hshape
  | some es =>
    cases y with
    | none => cases hshape
    | some fs =>
      have h := filtered_eq_iff hp (.dict es) (.dict fs)
      simp only [filtered, Value.dict.injEq] at h
      simpa [filteredPayload, PayloadsDifferIn, SameView] using h

variable {names : String → Bool} {policy : LocationPolicy} {p q : Packet F}

theorem DifferIn.shape (h : DifferIn names policy p q) :
    p.decodedPayload.isSome = q.decodedPayload.isSome := by
  have := h.payloads
  cases hp : p.decodedPayload <;> cases hq : q.decodedPayload <;>
    simp_all [PayloadsDifferIn]

/-- The packet `prepare_packet` returns when it does not raise. -/
def prepared (policy : LocationPolicy) (packet : Packet F) : Packet F :=
  { packet with
    decodedPayload := filteredPayload policy packet.decodedPayload
    encryptedPayload := none
    rawAppPayload := none
    rawRadioPacket := none }

theorem preparePacket_eq (packet : Packet F) (precision : String) :
    preparePacket packet precision =
      if filterRaises (locationPolicy precision) packet then none
      else some (prepared (locationPolicy precision) packet) := rfl

theorem prepared_eq_of_agree (hp : policy ≠ .exact) (h : DifferIn names policy p q)
    (hc : AgreeOutsideLocationFields policy p q) : prepared policy p = prepared policy q := by
  have hpay := (filteredPayload_eq_iff hp h.shape).mpr hc.agree
  obtain ⟨payload, rawApp, rawRadio, rfl⟩ := h.fields
  simp only [prepared] at hpay ⊢
  rw [hpay]

variable (rt : Runtime F) (delivered : PublishCall → Bool) (pub : Publisher)

theorem passesSafetyGates_eq (h : DifferIn names policy p q) :
    passesSafetyGates rt pub p = passesSafetyGates rt pub q := by
  obtain ⟨payload, rawApp, rawRadio, rfl⟩ := h.fields
  rfl

theorem isBroadcast_eq (h : DifferIn names policy p q) (lower : String → String) :
    isBroadcast lower p = isBroadcast lower q := by
  obtain ⟨payload, rawApp, rawRadio, rfl⟩ := h.fields
  rfl

theorem publish_eq_of_agree (hpolicy : locationPolicy pub.config.locationPrecision = policy)
    (hp : policy ≠ .exact) (h : DifferIn names policy p q)
    (hc : AgreeOutsideLocationFields policy p q) :
    publish rt delivered pub p = publish rt delivered pub q := by
  unfold publish
  rw [passesSafetyGates_eq rt pub h, isBroadcast_eq h, preparePacket_eq, preparePacket_eq,
    hpolicy, hc.raises, prepared_eq_of_agree hp h hc]

/-! ### The JSON outputs -/

theorem isNull_roundTwo_of_valid {es : Entries F} {lat lon : Value F}
    (h : coordinates es = .valid lat lon) : isNull (roundTwo lat) = false := by
  unfold coordinates at h
  split at h
  · split at h
    · rename_i hnum
      obtain ⟨⟨rfl, rfl⟩, -⟩ := checkNumbers_valid h
      rw [Bool.and_eq_true] at hnum
      cases lat <;> simp_all [isNumber, roundTwo, isNull]
    · cases h
  · cases h

theorem jsonPayloadCopy_filterDict (hp : policy ≠ .exact) (es : Entries F) :
    jsonPayloadCopy (filterDict policy (filteredEntries policy es)) =
      filterDict policy (filteredEntries policy es) := by
  have hnone : ∀ key, isLocationField key = true →
      ((filteredEntries policy es).filterKeys fun key => !isLocationField key).get? key = none := by
    intro key hkey
    exact get?_filterKeys_of_not (by rw [hkey, Bool.not_true]) (filteredEntries policy es)
  have hlat := hnone "latitude" (by decide)
  have hlon := hnone "longitude" (by decide)
  rw [filterDict_filteredEntries hp]
  generalize (filteredEntries policy es).filterKeys (fun key => !isLocationField key) = visible
    at hlat hlon
  by_cases hrep : ∃ lat lon, coordinates es = .valid lat lon ∧ policy = .approximate
  · obtain ⟨lat, lon, hcoord, rfl⟩ := hrep
    have hreported : reported .approximate es =
        Entries.ofList [("latitude", roundTwo lat), ("longitude", roundTwo lon)] := by
      simp only [reported, hcoord]
    have hgetlat : (visible.append (reported .approximate es)).get? "latitude" =
        some (roundTwo lat) := by
      rw [get?_append_of_none hlat, hreported]
      rfl
    have hgetlon : (visible.append (reported .approximate es)).get? "longitude" =
        some (roundTwo lon) := by
      rw [get?_append_of_none hlon, hreported]
      rfl
    unfold jsonPayloadCopy getValue
    rw [hgetlat, hgetlon]
    simp only [Option.getD_some]
    rw [if_pos (isNull_roundTwo_of_valid hcoord), set_of_get? hgetlat, set_of_get? hgetlon]
  · have hreported : reported policy es = .nil := by
      unfold reported
      split
      · rename_i lat lon hcoord
        exact absurd ⟨lat, lon, hcoord, rfl⟩ hrep
      · rfl
    rw [hreported, Entries.append_nil]
    unfold jsonPayloadCopy getValue
    rw [hlat]
    simp [isNull]

theorem filteredPayload_eq_of_jsonObject (hp : policy ≠ .exact) (h : DifferIn names policy p q)
    (topics : Topics) (hops : List (String × Value F))
    (hjson : jsonObject topics (prepared policy p) hops =
      jsonObject topics (prepared policy q) hops) :
    filteredPayload policy p.decodedPayload = filteredPayload policy q.decodedPayload := by
  have hshape := h.shape
  obtain ⟨payload, rawApp, rawRadio, rfl⟩ := h.fields
  simp only [jsonObject, prepared, Value.dict.injEq] at hjson
  have hlist := List.append_cancel_left (Entries.ofList_injective hjson)
  simp only at hshape
  cases hx : p.decodedPayload with
  | none =>
    rw [hx] at hshape
    cases payload with
    | none => rfl
    | some fs => cases hshape
  | some es =>
    rw [hx] at hshape hlist
    cases payload with
    | none => cases hshape
    | some fs =>
      simp only [filteredPayload, Option.map_some, jsonPayloadCopy_filterDict hp] at hlist ⊢
      congr 1
      revert hlist
      generalize filterDict policy (filteredEntries policy es) = x
      generalize filterDict policy (filteredEntries policy fs) = y
      intro hlist
      cases x <;> cases y <;> simp_all [Entries.isEmpty]

/-- A packet whose payload is written as JSON: it passes the gates, the filter
    does not raise, and it is a MeshCore packet or the JSON mirror is on and the
    protobuf formatter does not raise. -/
structure WrittenAsJson (policy : LocationPolicy) (packet : Packet F) : Prop where
  connected : pub.connected = true
  passes : passesSafetyGates rt pub packet = true
  filters : filterRaises policy packet = false
  mirrored : packet.protocol = .meshcore ∨ packet.protocol = .meshtastic ∧
    pub.config.publishJson = true ∧ (format rt pub.topics (prepared policy packet)).isSome = true

def jsonMessage (packet : Packet F) : MqttMessage :=
  if packet.protocol = .meshcore then formatMeshCore pub.topics packet
  else formatJson pub.topics packet

theorem format_topic_ne {packet : Packet F} {m : MqttMessage}
    (h : format rt pub.topics packet = some (some m)) :
    m.topic ≠ (formatJson pub.topics packet).topic := by
  have henvelope : ∀ channel withSignal variant,
      envelope rt pub.topics packet channel withSignal variant = some m →
        m.topic ≠ (formatJson pub.topics packet).topic := by
    intro channel withSignal variant henv htopic
    simp only [envelope, Option.bind_eq_bind, Option.bind_eq_some_iff] at henv
    obtain ⟨_, -, _, -, _, -, _, -, _, -, hm⟩ := henv
    simp only [Option.pure_def, Option.some.injEq] at hm
    rw [← hm] at htopic
    have hchars := congrArg String.toList htopic
    simp [formatJson] at hchars
  unfold format at h
  split at h
  · cases h
  · split at h
    · cases h
    · split at h
      · obtain ⟨m', henv, hm⟩ := Option.map_eq_some_iff.mp h
        cases hm
        exact henvelope _ _ _ henv
      · split at h
        · obtain ⟨m', henv, hm⟩ := Option.map_eq_some_iff.mp h
          cases hm
          exact henvelope _ _ _ henv
        · cases h

theorem find?_json_formatPacket (packet : Packet F) {messages : List MqttMessage}
    (hmirrored : packet.protocol = .meshcore ∨
      packet.protocol = .meshtastic ∧ pub.config.publishJson = true)
    (h : formatPacket rt pub packet = some messages) :
    messages.find? (fun m => decide (m.topic = (jsonMessage pub packet).topic)) =
      some (jsonMessage pub packet) := by
  unfold formatPacket at h
  rcases hmirrored with hproto | ⟨hproto, hjson⟩
  · rw [hproto] at h
    cases h
    simp [jsonMessage, hproto]
  · rw [hproto] at h
    simp only [Option.bind_eq_bind, Option.bind_eq_some_iff] at h
    obtain ⟨message, hformat, hmessages⟩ := h
    simp only [hjson, if_true, Option.pure_def, Option.some.injEq] at hmessages
    have hjm : jsonMessage pub packet = formatJson pub.topics packet := by
      simp [jsonMessage, hproto]
    rw [← hmessages, hjm]
    cases message with
    | none => simp
    | some m =>
      have hne := format_topic_ne rt pub hformat
      simp [hne]

theorem formatPacket_isSome {packet : Packet F} (hw : WrittenAsJson rt pub policy packet) :
    ∃ messages, formatPacket rt pub (prepared policy packet) = some messages := by
  rcases hw.mirrored with hproto | ⟨hproto, -, hformat⟩
  · refine ⟨[formatMeshCore pub.topics (prepared policy packet)], ?_⟩
    unfold formatPacket
    rw [show (prepared policy packet).protocol = .meshcore from hproto]
  · obtain ⟨message, hmessage⟩ := Option.isSome_iff_exists.mp hformat
    refine ⟨message.toList ++ if pub.config.publishJson then
      [formatJson pub.topics (prepared policy packet)] else [], ?_⟩
    unfold formatPacket
    simp only [show (prepared policy packet).protocol = .meshtastic from hproto, hmessage]
    rfl

theorem publish_calls (hpolicy : locationPolicy pub.config.locationPrecision = policy)
    {packet : Packet F} (hconn : pub.connected = true)
    (hpass : passesSafetyGates rt pub packet = true) (hfilter : filterRaises policy packet = false) :
    publish rt delivered pub packet = publishPrepared rt delivered pub (prepared policy packet) := by
  simp [publish, hconn, hpass, preparePacket_eq, hpolicy, hfilter]

theorem find?_json_publish (hpolicy : locationPolicy pub.config.locationPrecision = policy)
    {packet : Packet F} (hw : WrittenAsJson rt pub policy packet) :
    (publish rt delivered pub packet).2.1.find?
        (fun c => decide (c.topic = (jsonMessage pub (prepared policy packet)).topic)) =
      some ⟨(jsonMessage pub (prepared policy packet)).topic,
        (jsonMessage pub (prepared policy packet)).payload, false⟩ := by
  obtain ⟨messages, hmessages⟩ := formatPacket_isSome rt pub hw
  have hfind := find?_json_formatPacket rt pub (prepared policy packet)
    (hw.mirrored.imp id fun h => ⟨h.1, h.2.1⟩) hmessages
  rw [publish_calls rt delivered pub hpolicy hw.connected hw.passes hw.filters]
  simp only [publishPrepared, hmessages, List.find?_append, List.find?_map, Function.comp_def]
  rw [hfind]
  rfl

/-- A packet that writes nothing is not one written as JSON, so the partner of a
    written packet with the same calls is written too. -/
theorem writtenAsJson_of_calls_eq (hpolicy : locationPolicy pub.config.locationPrecision = policy)
    (h : DifferIn names policy p q) (hw : WrittenAsJson rt pub policy p)
    (hcalls : (publish rt delivered pub p).2.1 = (publish rt delivered pub q).2.1) :
    WrittenAsJson rt pub policy q := by
  have hne : (publish rt delivered pub q).2.1 ≠ [] := by
    intro hnil
    have hfind := find?_json_publish rt delivered pub hpolicy hw
    rw [hcalls, hnil] at hfind
    cases hfind
  have hpass : passesSafetyGates rt pub q = true := passesSafetyGates_eq rt pub h ▸ hw.passes
  have hfilter : filterRaises policy q = false := by
    cases hraise : filterRaises policy q with
    | false => rfl
    | true =>
      refine absurd ?_ hne
      simp [publish, hw.connected, hpass, preparePacket_eq, hpolicy, hraise]
  have hproto : q.protocol = p.protocol := by
    obtain ⟨payload, rawApp, rawRadio, rfl⟩ := h.fields
    rfl
  refine ⟨hw.connected, hpass, hfilter, ?_⟩
  rcases hw.mirrored with hmc | ⟨hmt, hjson, -⟩
  · exact Or.inl (hproto.trans hmc)
  · refine Or.inr ⟨hproto.trans hmt, hjson, ?_⟩
    cases hformat : format rt pub.topics (prepared policy q) with
    | some m => rfl
    | none =>
      refine absurd ?_ hne
      rw [publish_calls rt delivered pub hpolicy hw.connected hpass hfilter]
      simp [publishPrepared, formatPacket,
        show (prepared policy q).protocol = .meshtastic from hproto.trans hmt, hformat]

theorem jsonMessage_topic (h : DifferIn names policy p q) :
    (jsonMessage pub (prepared policy p)).topic = (jsonMessage pub (prepared policy q)).topic := by
  obtain ⟨payload, rawApp, rawRadio, rfl⟩ := h.fields
  by_cases hproto : p.protocol = .meshcore
  · simp [jsonMessage, prepared, hproto, formatMeshCore]
  · simp [jsonMessage, prepared, hproto, formatJson]

theorem filteredPayload_eq_of_jsonMessage (hp : policy ≠ .exact) (h : DifferIn names policy p q)
    (hpayload : (jsonMessage pub (prepared policy p)).payload =
      (jsonMessage pub (prepared policy q)).payload) :
    filteredPayload policy p.decodedPayload = filteredPayload policy q.decodedPayload := by
  have hfields : q.protocol = p.protocol ∧ q.hopLimit = p.hopLimit ∧ q.hopStart = p.hopStart := by
    obtain ⟨payload, rawApp, rawRadio, rfl⟩ := h.fields
    exact ⟨rfl, rfl, rfl⟩
  by_cases hproto : p.protocol = .meshcore
  · have hq : q.protocol = .meshcore := hfields.1.trans hproto
    rw [jsonMessage, jsonMessage, if_pos (show (prepared policy p).protocol = _ from hproto),
      if_pos (show (prepared policy q).protocol = _ from hq)] at hpayload
    exact filteredPayload_eq_of_jsonObject hp h pub.topics []
      (dumps_injective (utf8Chars_injective hpayload))
  · have hq : ¬ q.protocol = .meshcore := hfields.1 ▸ hproto
    rw [jsonMessage, jsonMessage, if_neg (show ¬ (prepared policy p).protocol = _ from hproto),
      if_neg (show ¬ (prepared policy q).protocol = _ from hq)] at hpayload
    refine filteredPayload_eq_of_jsonObject hp h pub.topics
      [("hop_limit", .int p.hopLimit), ("hop_start", .int p.hopStart)]
      (dumps_injective (utf8Chars_injective ?_))
    rw [← hfields.2.1, ← hfields.2.2]
    simpa only [formatJson, prepared, hfields.2.1, hfields.2.2] using hpayload

end

/-! ### Two advertisements -/

/-- A connected publisher for MeshCore with all coordinates suppressed. -/
def closedPublisher : Publisher where
  config := ⟨true, ["MeshCore"], false, "none"⟩
  topics := ⟨"msh/EU", "!a1b2c3d4", .empty⟩
  connected := true
  announced := none

/-- Keys under which advertisements report coordinates. -/
def coordinateNames (key : String) : Bool :=
  isLocationField key || ["adv_lat", "adv_lon", "lat", "lon"].contains key

def advertisementEvent (lat lon : Int) : Entries WholeFloat :=
  Entries.ofList [("public_key", .str "a1b2c3d4e5f60718"), ("adv_name", .str "Ridge"),
    ("adv_lat", .float ⟨lat⟩), ("adv_lon", .float ⟨lon⟩)]

/-- A packet that reports its position under `latitude` and `longitude`. -/
def positionPacket (lat lon : Int) : Packet WholeFloat where
  packetId := "0123456789abcdef"
  sourceId := "a1b2c3d4e5f6"
  destinationId := "broadcast"
  protocol := .meshcore
  packetType := .nodeinfo
  decodedPayload := some (Entries.ofList [("long_name", .str "Ridge"),
    ("latitude", .float ⟨lat⟩), ("longitude", .float ⟨lon⟩)])
  timestamp := 1700000000000000

theorem reported_none_writesHidden (names : String → Bool) :
    WritesHidden names (reported (F := WholeFloat) .none) := by
  intro es
  trivial

theorem positionPacket_differIn (lat lon lat' lon' : Int) :
    DifferIn isLocationField .none (positionPacket lat lon) (positionPacket lat' lon') :=
  ⟨⟨_, _, _, rfl⟩, agree_of_scrub_eq (reported_none_writesHidden _) _ _ rfl⟩

end Meshpoint.LocationPrivacy
