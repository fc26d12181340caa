import Meshpoint.NativeRelay
import Meshpoint.RelayOnce

/-!
# What the native relay sends

Runs of the whole way of a frame: a capture source receives it or makes it up, a decoder or
an adapter turns it into a packet, the relay manager decides, and the onboard radio sends the
bytes the packet holds with one hop less.  `Faithful` says of a run that every frame sent is
one that was received before.
-/

namespace Meshpoint.RelayFidelity

open ByteCodec JsonText PyText MeshtasticHeader MeshtasticBuilder SerialSource TextSending
  CapturePipeline NativeRelay GuardedRun RelayOnce

/-! ### Relays of a frame -/

theorem isRelayOf_unique {frame a b : Bytes} (ha : IsRelayOf frame a) (hb : IsRelayOf frame b) :
    a = b := by
  have hlength : a.length = b.length := ha.length.symm.trans hb.length
  have hbyte : (a.getD 12 0).toNat = (b.getD 12 0).toNat := by
    have hflags := ha.flags.symm.trans hb.flags
    have hhops := ha.hops.symm.trans hb.hops
    omega
  apply List.ext_getElem?
  intro i
  by_cases hi : i = 12
  · have h12 : 12 < a.length := by
      have := ha.header
      unfold MESHTASTIC_HEADER_SIZE at this
      omega
    have h12' : 12 < b.length := by
      rw [← hlength]
      exact h12
    rw [List.getD_eq_getElem?_getD, List.getD_eq_getElem?_getD, List.getElem?_eq_getElem h12,
      List.getElem?_eq_getElem h12'] at hbyte
    rw [hi, List.getElem?_eq_getElem h12, List.getElem?_eq_getElem h12']
    exact congrArg some (UInt8.toNat_inj.mp hbyte)
  · rw [← ha.bytes i hi, hb.bytes i hi]

theorem sendRawRelay_take (tx : TxService) (withinBudget : Bool) (raw : Bytes) :
    sendRawRelay tx withinBudget (raw.take HAL_PAYLOAD_SIZE) = sendRawRelay tx withinBudget raw := by
  have hshort : (raw.take HAL_PAYLOAD_SIZE).length < MESHTASTIC_HEADER_SIZE ↔
      raw.length < MESHTASTIC_HEADER_SIZE := by
    unfold HAL_PAYLOAD_SIZE MESHTASTIC_HEADER_SIZE
    rw [List.length_take]
    omega
  have hflags : (raw.take HAL_PAYLOAD_SIZE).getD 12 0 = raw.getD 12 0 := by
    unfold HAL_PAYLOAD_SIZE
    rw [List.getD_eq_getElem?_getD, List.getD_eq_getElem?_getD, List.getElem?_take]
    rfl
  unfold sendRawRelay
  rw [hflags]
  simp only [hshort]
  have hset : ∀ byte, ((raw.take HAL_PAYLOAD_SIZE).set 12 byte).take HAL_PAYLOAD_SIZE =
      (raw.set 12 byte).take HAL_PAYLOAD_SIZE := by
    intro byte
    rw [List.take_set, List.take_set, List.take_take, Nat.min_self]
  rw [hset]

theorem isRelayOf_iff {tx : TxService} {withinBudget : Bool} {raw frame air : Bytes}
    (h : sendRawRelay tx withinBudget raw = .ok frame) :
    IsRelayOf frame air ↔ air = raw.take HAL_PAYLOAD_SIZE := by
  rw [← sendRawRelay_take] at h
  have hrelay := isRelayOf_sendRawRelay (List.length_take_le _ _) h
  constructor
  · intro hair
    exact isRelayOf_unique hair hrelay
  · rintro rfl
    exact hrelay

/-! ### Runs -/

/-- A frame on the air: no radio receives more than its buffer holds. -/
structure AirFrame where
  bytes : Bytes
  length_le : bytes.length ≤ HAL_PAYLOAD_SIZE

/-- Where a capture comes from: the concentrator or a stick that has received a frame, a stick
    that passes on what its own user sends, or a companion or plugin. -/
inductive Source (F : Type) where
  | concentrator (air : AirFrame) (signal : SignalMetrics F) (protocolHint : Option Protocol)
  | stick (name : String) (radio : RadioInfo) (air : AirFrame) (packet : StickPacket F)
      (delivers : Delivers air.bytes packet)
  | stickUser (name : String) (radio : RadioInfo) (packet : StickPacket F)
  | other (raw : RawCapture F)

/-- The surroundings of one capture: the decoders, the sending service and the budget as they
    stand, and the clocks. -/
structure Surroundings (F : Type) where
  decoders : Decoders F
  tx : TxService
  withinBudget : Bool
  clock : RelayClock
  now : Int

inductive Event (F : Type) where
  | capture (source : Source F) (env : Surroundings F)
  | setEnabled (enabled : Bool)
  | setLocalNodeId (nodeHex : String)

inductive Item where
  | received (frame : Bytes)
  | transmitted (frame : Bytes)
deriving DecidableEq

/-- The relay manager and what went over the air, newest first. -/
structure State (F : Type) where
  manager : RelayManager F
  air : List Item := []

section

variable {F : Type} [PyFloat F] (py : Casing) (portNumValue : String → Option Int)
  (reachesRelay : Packet F → Bool)

def Source.received : Source F → List Item
  | .concentrator air _ _ => [.received air.bytes]
  | .stick _ _ air _ _ => [.received air.bytes]
  | .stickUser _ _ _ => []
  | .other _ => []

/-- The capture; the concentrator passes the bytes on as they are. -/
def Source.raw : Source F → Option (RawCapture F)
  | .concentrator air signal protocolHint =>
    some { payload := air.bytes, signal := signal, captureSource := "concentrator"
           protocolHint := protocolHint }
  | .stick name radio _ packet _ => packetToRawCapture portNumValue radio name packet
  | .stickUser name radio packet => packetToRawCapture portNumValue radio name packet
  | .other raw => some raw

def isOwned (d : Decoders F) (raw : RawCapture F) : Bool :=
  startsWith raw.captureSource "meshcore_usb" ||
    (forCaptureSource d.plugins raw.captureSource).isSome

/-- A capture of no other source is that of a companion or a plugin. -/
def Source.admitted (d : Decoders F) : Source F → Bool
  | .other raw => isOwned d raw
  | _ => true

/-- The packet of a capture that gets as far as the relay: the tiers of plugins and the pager
    branches stop others. -/
def packetOf (source : Source F) (env : Surroundings F) : Option (Packet F) :=
  ((source.raw portNumValue).bind fun raw => env.decoders.adapt raw env.now).filter reachesRelay

def step (s : State F) : Event F → Option (State F)
  | .capture source env =>
    if source.admitted env.decoders then
      let air := source.received ++ s.air
      match packetOf portNumValue reachesRelay source env with
      | some packet =>
        let (relayed, manager) := s.manager.processPacket py env.clock packet
        let frame := if relayed && s.manager.native then nativeRelay env.tx env.withinBudget packet
          else none
        some { manager := manager, air := (frame.map Item.transmitted).toList ++ air }
      | none => some { s with air := air }
    else none
  | .setEnabled enabled => some { s with manager := { s.manager with enabled := enabled } }
  | .setLocalNodeId nodeHex => some { s with manager := s.manager.setLocalNodeId py nodeHex }

/-- Every frame sent is the relay of a frame received before. -/
def Faithful : List Item → Prop
  | [] => True
  | .received _ :: air => Faithful air
  | .transmitted frame :: air =>
    (∃ source, .received source ∈ air ∧ IsRelayOf frame source) ∧ Faithful air

/-- The packet of a capture gets through the filters of the relay and to the radio. -/
def Relays (s : State F) (source : Source F) (env : Surroundings F) : Prop :=
  ∃ packet ∈ packetOf portNumValue reachesRelay source env,
    ¬ Stopped py s.manager env.clock packet ∧ s.manager.native = true ∧
      (nativeRelay env.tx env.withinBudget packet).isSome = true

instance (s : State F) (source : Source F) (env : Surroundings F) :
    Decidable (Relays py portNumValue reachesRelay s source env) :=
  inferInstanceAs (Decidable (∃ packet ∈ packetOf portNumValue reachesRelay source env, _))

instance (air : Bytes) : Decidable (Reproducible air) :=
  decidable_of_iff (wordAt air 0 ≠ 0 ∧ flagsOf air % 8 ≠ 0 ∧ flagsOf air / 32 ≠ 0 ∧
      flagsOf air / 16 % 2 = 0 ∧ air.getD 14 0 = 0 ∧ air.getD 15 0 = 0)
    ⟨fun ⟨h₁, h₂, h₃, h₄, h₅, h₆⟩ => ⟨h₁, h₂, h₃, h₄, h₅, h₆⟩,
      fun h => ⟨h.dest, h.hopLimit, h.hopStart, h.viaMqtt, h.nextHop, h.relayNode⟩⟩

/-- The frame rebuilt from a dictionary is one that was received before. -/
def HeardBefore (s : State F) (packet : StickPacket F) : Prop :=
  ∃ raw ∈ rawBytes packet, .received (raw.take HAL_PAYLOAD_SIZE) ∈ s.air

instance (s : State F) (packet : StickPacket F) : Decidable (HeardBefore s packet) :=
  inferInstanceAs (Decidable (∃ raw ∈ rawBytes packet, _))

/-- What a stick hands over is a frame that it has not decoded and whose header its dictionary
    determines, or happens to be a frame heard before. -/
def Rebuilt (s : State F) : Source F → Prop
  | .stick _ _ air packet _ =>
    (packet.decoded = none ∧ Reproducible air.bytes) ∨ HeardBefore s packet
  | .stickUser _ _ packet => HeardBefore s packet
  | _ => True

instance : ∀ (s : State F) (source : Source F), Decidable (Rebuilt s source)
  | s, .stick _ _ air packet _ =>
    inferInstanceAs (Decidable ((packet.decoded = none ∧ Reproducible air.bytes) ∨
      HeardBefore s packet))
  | s, .stickUser _ _ packet => inferInstanceAs (Decidable (HeardBefore s packet))
  | _, .concentrator _ _ _ => inferInstanceAs (Decidable True)
  | _, .other _ => inferInstanceAs (Decidable True)

/-- What is relayed of a stick was rebuilt as it was on the air. -/
def RelaysRebuilt (s : State F) : Event F → Prop
  | .capture source env => Relays py portNumValue reachesRelay s source env → Rebuilt s source
  | _ => True

instance : ∀ (s : State F) (e : Event F),
    Decidable (RelaysRebuilt py portNumValue reachesRelay s e)
  | s, .capture source env =>
    inferInstanceAs (Decidable (Relays py portNumValue reachesRelay s source env →
      Rebuilt s source))
  | _, .setEnabled _ => inferInstanceAs (Decidable True)
  | _, .setLocalNodeId _ => inferInstanceAs (Decidable True)

/-! ### One capture -/

variable {py portNumValue reachesRelay}

omit [PyFloat F] in
theorem payload_of_packetToRawCapture {radio : RadioInfo} {name : String} {packet : StickPacket F}
    {raw : RawCapture F} (h : packetToRawCapture portNumValue radio name packet = some raw) :
    rawBytes packet = some raw.payload := by
  unfold packetToRawCapture at h
  split at h
  · cases h
  · obtain ⟨bytes, hbytes, h⟩ := Option.bind_eq_some_iff.mp h
    split at h
    · cases h
    · cases h
      exact hbytes

omit [PyFloat F] in
theorem length_reconstructRaw_le {air raw : Bytes} {packet : StickPacket F}
    (hdelivers : Delivers air packet) (h : reconstructRaw packet = some raw) :
    raw.length ≤ air.length := by
  obtain ⟨header, encoded, hheader, hencoded, rfl⟩ := reconstructRaw_eq_some h
  have hlength := hdelivers.length
  rw [List.length_append, length_of_packHeader hheader]
  unfold encryptedBytes at hencoded
  cases hdecoded : packet.decoded with
  | none =>
    rw [(hdelivers.undecoded hdecoded).2] at hencoded
    simp only [b64decode_b64encode, Option.some.injEq] at hencoded
    rw [← hencoded, List.length_drop]
    omega
  | some decoded =>
    have hsome : packet.decoded ≠ none := by
      rw [hdecoded]
      exact Option.some_ne_none decoded
    rw [hdelivers.decoded hsome] at hencoded
    cases hencoded
    rw [List.length_nil]
    omega

omit [PyFloat F] in
theorem heardBefore_iff {s : State F} {packet : StickPacket F} {raw : Bytes}
    (h : rawBytes packet = some raw) :
    HeardBefore s packet ↔ .received (raw.take HAL_PAYLOAD_SIZE) ∈ s.air := by
  unfold HeardBefore
  rw [h]
  constructor
  · rintro ⟨raw', hraw', hmem⟩
    cases hraw'
    exact hmem
  · intro hmem
    exact ⟨raw, rfl, hmem⟩

omit [PyFloat F] in
theorem received_iff_rebuilt {s : State F} {source : Source F} {raw : RawCapture F}
    (hraw : source.raw portNumValue = some raw) (hother : ∀ raw', source ≠ .other raw') :
    .received (raw.payload.take HAL_PAYLOAD_SIZE) ∈ source.received ++ s.air ↔
      Rebuilt s source := by
  cases source with
  | concentrator air signal protocolHint =>
    cases hraw
    rw [List.take_of_length_le air.length_le]
    exact iff_of_true List.mem_cons_self trivial
  | stick name radio air packet delivers =>
    have hbytes := payload_of_packetToRawCapture hraw
    have hrebuilt : reconstructRaw packet = some raw.payload := by
      unfold rawBytes at hbytes
      rw [delivers.raw] at hbytes
      exact hbytes
    have hlength := (length_reconstructRaw_le delivers hrebuilt).trans air.length_le
    have hair : .received (raw.payload.take HAL_PAYLOAD_SIZE) =
        (.received air.bytes : Item) ↔ packet.decoded = none ∧ Reproducible air.bytes := by
      rw [← reconstructRaw_eq_iff delivers, hrebuilt, List.take_of_length_le hlength,
        Item.received.injEq, Option.some.injEq]
    change _ ∈ Item.received air.bytes :: s.air ↔ _ ∨ _
    rw [List.mem_cons, hair, heardBefore_iff hbytes]
  | stickUser name radio packet =>
    exact (heardBefore_iff (payload_of_packetToRawCapture hraw)).symm
  | other raw' => exact absurd rfl (hother raw')

omit [PyFloat F] in
theorem sendRawRelay_of_nativeRelay {tx : TxService} {withinBudget : Bool} {packet : Packet F}
    {frame : Bytes} (h : nativeRelay tx withinBudget packet = some frame) :
    packet.protocol = .meshtastic ∧ ∃ raw, packet.rawRadioPacket = some raw ∧
      sendRawRelay tx withinBudget raw = .ok frame := by
  unfold nativeRelay at h
  split at h
  · cases h
  · rename_i hprotocol
    refine ⟨not_not.mp hprotocol, ?_⟩
    split at h
    · cases h
    · cases h
    · rename_i raw _ hraw
      refine ⟨raw, hraw, ?_⟩
      cases hsend : sendRawRelay tx withinBudget raw with
      | error reason =>
        rw [hsend] at h
        cases h
      | ok frame' =>
        rw [hsend] at h
        cases h
        rfl

theorem sendRawRelay_of_packetOf {source : Source F} {env : Surroundings F} {packet : Packet F}
    {frame : Bytes} (hpacket : packetOf portNumValue reachesRelay source env = some packet)
    (h : nativeRelay env.tx env.withinBudget packet = some frame) :
    ∃ raw, source.raw portNumValue = some raw ∧
      sendRawRelay env.tx env.withinBudget raw.payload = .ok frame ∧
      isOwned env.decoders raw = false := by
  obtain ⟨hadapt, -⟩ := Option.filter_eq_some_iff.mp hpacket
  obtain ⟨raw, hraw, hadapt⟩ := Option.bind_eq_some_iff.mp hadapt
  obtain ⟨hprotocol, bytes, hbytes, hsend⟩ := sendRawRelay_of_nativeRelay h
  refine ⟨raw, hraw, ?_, ?_⟩
  · rw [keepsFrame_adapt hadapt hprotocol] at hbytes
    cases hbytes
    exact hsend
  · by_contra howned
    rw [Bool.not_eq_false, isOwned, Bool.or_eq_true] at howned
    exact protocol_ne_of_owned howned hadapt hprotocol

omit [PyFloat F] in
theorem faithful_received (source : Source F) (air : List Item) :
    Faithful (source.received ++ air) ↔ Faithful air := by
  cases source with
  | concentrator frame signal protocolHint => exact Iff.rfl
  | stick name radio frame packet delivers => exact Iff.rfl
  | stickUser name radio packet => exact Iff.rfl
  | other raw => exact Iff.rfl

/-- **One event.**  A run stays faithful exactly when what is relayed of a stick was rebuilt as
    it was on the air. -/
theorem step_spec {s s' : State F} {e : Event F}
    (h : step py portNumValue reachesRelay s e = some s') :
    Faithful s'.air ↔ Faithful s.air ∧ RelaysRebuilt py portNumValue reachesRelay s e := by
  cases e with
  | setEnabled enabled =>
    cases h
    exact (and_iff_left trivial).symm
  | setLocalNodeId nodeHex =>
    cases h
    exact (and_iff_left trivial).symm
  | capture source env =>
    simp only [step] at h
    split at h
    · rename_i howned
      split at h
      · rename_i packet hpacket
        cases h
        change Faithful (_ ++ (source.received ++ s.air)) ↔
          _ ∧ (Relays py portNumValue reachesRelay s source env → Rebuilt s source)
        cases hframe : if (s.manager.processPacket py env.clock packet).1 && s.manager.native then
            nativeRelay env.tx env.withinBudget packet else none with
        | none =>
          have hno : ¬ Relays py portNumValue reachesRelay s source env := by
            rintro ⟨packet', hpacket', hpass, hnative, hsome⟩
            rw [Option.mem_def, hpacket] at hpacket'
            cases hpacket'
            rw [processPacket_relayed_iff.mpr hpass, hnative] at hframe
            change nativeRelay env.tx env.withinBudget packet = none at hframe
            rw [hframe] at hsome
            cases hsome
          rw [Option.map_none, Option.toList_none, List.nil_append, faithful_received]
          exact (and_iff_left fun hrelays => absurd hrelays hno).symm
        | some frame =>
          split at hframe
          · rename_i hgo
            rw [Bool.and_eq_true] at hgo
            obtain ⟨raw, hraw, hsend, hnotOwned⟩ := sendRawRelay_of_packetOf hpacket hframe
            have hrelays : Relays py portNumValue reachesRelay s source env := by
              refine ⟨packet, hpacket, processPacket_relayed_iff.mp hgo.1, hgo.2, ?_⟩
              rw [hframe]
              rfl
            have hother : ∀ raw', source ≠ .other raw' := by
              rintro raw' rfl
              cases hraw
              rw [Source.admitted, hnotOwned] at howned
              cases howned
            rw [Option.map_some, Option.toList_some, List.singleton_append, Faithful,
              faithful_received, and_comm, imp_iff_right hrelays,
              ← received_iff_rebuilt hraw hother]
            simp only [isRelayOf_iff hsend, exists_eq_right]
          · cases hframe
      · rename_i hpacket
        cases h
        have hno : ¬ Relays py portNumValue reachesRelay s source env := by
          rintro ⟨packet', hpacket', -⟩
          rw [Option.mem_def, hpacket] at hpacket'
          cases hpacket'
        exact (faithful_received source s.air).trans
          (and_iff_left fun hrelays => absurd hrelays hno).symm
    · cases h

/-- **Relay fidelity over all runs.**  Whatever the capture sources hand over, every frame the
    native relay sends is a frame received before with one hop less, exactly when what is
    relayed of a stick was rebuilt as it was on the air. -/
theorem faithful_replay_iff {m : RelayManager F} {events : List (Event F)} {s : State F}
    (h : replay (step py portNumValue reachesRelay) Always { manager := m } events = some s) :
    Faithful s.air ↔ replay (step py portNumValue reachesRelay)
      (RelaysRebuilt py portNumValue reachesRelay) { manager := m } events = some s := by
  obtain ⟨-, hiff⟩ : True ∧ (Faithful s.air ↔ Faithful _ ∧
      replay (step py portNumValue reachesRelay) (RelaysRebuilt py portNumValue reachesRelay)
        { manager := m } events = some s) :=
    replay_guard_iff (fun _ hstep => ⟨trivial, step_spec hstep⟩) trivial h
  have hstart : Faithful ({ manager := m } : State F).air := trivial
  exact hiff.trans (and_iff_right hstart)

end

/-! ### Two packets of a stick -/

/-- Node bbbb0002 relaying through its onboard radio. -/
def relaySurroundings : Surroundings WholeFloat where
  decoders :=
    { prim := stationPrimitives, pb := default, crypto := stationCrypto, ourNodeId := some 0xbbbb0002
      meshcore := .silent _ _, lorawan := .silent _ _, meshcoreUsb := .silent _ _
      pager := .silent _ _, plugins := [] }
  tx :=
    { crypto := stationCrypto, primaryChannelName := "LongFast", presetName := "LongFast"
      sourceNodeId := 0xbbbb0002, hopLimit := 3, enabled := true, hasWrapper := true
      meshcoreEnabled := false, companions := [], sticks := [], latestCaptureSource := fun _ => none }
  withinBudget := true
  clock := ⟨1, 1⟩
  now := 0

def relayManager : RelayManager WholeFloat := { relayStation with native := true }

def hikingAir : AirFrame where
  bytes := hikingFrame
  length_le := by decide +kernel

/-- The dictionary of a stick that has received it; `decoded` is what the stick could read. -/
def hikingPacket (channel : Nat) (encrypted : Option EncryptedField)
    (decoded : Option DecodedField) : StickPacket WholeFloat where
  source := some 0xaaaa0001
  dest := some 0xffffffff
  id := some 42
  hopLimit := some 3
  hopStart := some 3
  wantAck := some true
  channel := some channel
  encrypted := encrypted
  decoded := decoded
  rxRssi := ⟨-80⟩
  rxSnr := ⟨5⟩

def unreadPacket : StickPacket WholeFloat :=
  hikingPacket 0x55 (some (.base64 (b64encode (hikingFrame.drop 16)))) none

/-- A stick that has the channel as its first secondary one. -/
def readPacket : StickPacket WholeFloat :=
  hikingPacket 1 none (some
    { portnum := some "TEXT_MESSAGE_APP", payload := some (b64encode (utf8 "meet at nine")) })

theorem delivers_unreadPacket : Delivers hikingAir.bytes unreadPacket where
  length := by decide +kernel
  raw := rfl
  dest := by decide +kernel
  source := by decide +kernel
  id := by decide +kernel
  hopLimit := by decide +kernel
  hopStart := by decide +kernel
  wantAck := by decide +kernel
  undecoded _ := ⟨by decide +kernel, rfl⟩
  decoded h := absurd rfl h

theorem delivers_readPacket : Delivers hikingAir.bytes readPacket where
  length := by decide +kernel
  raw := rfl
  dest := by decide +kernel
  source := by decide +kernel
  id := by decide +kernel
  hopLimit := by decide +kernel
  hopStart := by decide +kernel
  wantAck := by decide +kernel
  undecoded h := nomatch h
  decoded _ := rfl

/-- `portnums_pb2.PortNum.Value` of the one name here. -/
def textPortNum (name : String) : Option Int := if name = "TEXT_MESSAGE_APP" then some 1 else none

def stickRadio : RadioInfo := ⟨some 0xcccc0003, (OrderedDict.empty.set 0 "LongFast").set 1 "Hiking"⟩

def relayStep : State WholeFloat → Event WholeFloat → Option (State WholeFloat) :=
  step Casing.ascii textPortNum fun _ => true

def unreadEvents : List (Event WholeFloat) :=
  [.capture (.stick "usb0" stickRadio hikingAir unreadPacket delivers_unreadPacket)
    relaySurroundings]

def unreadEnd : State WholeFloat :=
  (replay relayStep (RelaysRebuilt Casing.ascii textPortNum fun _ => true)
    { manager := relayManager } unreadEvents).get (by decide +kernel)

/-- What the stick could not read goes on as it was received. -/
theorem faithful_unreadEnd :
    unreadEnd.air.length = 2 ∧ Faithful unreadEnd.air := by
  have hrebuilt : replay relayStep (RelaysRebuilt Casing.ascii textPortNum fun _ => true)
      { manager := relayManager } unreadEvents = some unreadEnd := (Option.some_get _).symm
  refine ⟨by decide +kernel, ?_⟩
  exact (faithful_replay_iff (replay_mono (fun _ _ _ => trivial) hrebuilt)).mpr hrebuilt

def readEvents : List (Event WholeFloat) :=
  [.capture (.stick "usb0" stickRadio hikingAir readPacket delivers_readPacket) relaySurroundings]

/-- Of what the stick has read, a bare header with the stick's channel index goes on the air. -/
theorem bare_header_relayed :
    (replay relayStep Always { manager := relayManager } readEvents).map State.air =
      some [.transmitted (ofHex "ffffffff0100aaaa2a0000006a010000"), .received hikingFrame] ∧
    ∀ s, replay relayStep Always { manager := relayManager } readEvents = some s →
      ¬ Faithful s.air := by
  have hends : (replay relayStep Always { manager := relayManager } readEvents).map State.air =
      some [.transmitted (ofHex "ffffffff0100aaaa2a0000006a010000"), .received hikingFrame] := by
    decide +kernel
  refine ⟨hends, ?_⟩
  intro s hs hfaithful
  rw [hs, Option.map_some, Option.some.injEq] at hends
  rw [hends] at hfaithful
  obtain ⟨⟨source, hsource, hrelay⟩, -⟩ := hfaithful
  rw [List.mem_singleton, Item.received.injEq] at hsource
  have hlength := hrelay.length
  rw [hsource] at hlength
  revert hlength
  decide +kernel

end Meshpoint.RelayFidelity
