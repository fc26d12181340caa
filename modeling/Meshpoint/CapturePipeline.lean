import Meshpoint.MeshtasticDecoder

/-!
# From a capture to a packet

Model of `PacketRouter.decode` (`src/decode/packet_router.py`) and of the dispatch
in `PipelineCoordinator._process_capture` (`src/coordinator.py`): which decoder or
adapter a raw capture goes to.

The decoders of the other protocols and the adapters of plugins are parameters;
each carries the protocol its packets have.
-/

namespace Meshpoint.CapturePipeline

variable {F : Type}

/-- A decoder or adapter all of whose packets have one protocol. -/
structure ProtocolDecoder (F : Type) (protocol : Protocol) where
  decode : Bytes → SignalMetrics F → Option (Packet F)
  decode_protocol : ∀ {raw signal packet}, decode raw signal = some packet →
    packet.protocol = protocol

def ProtocolDecoder.silent (F : Type) (protocol : Protocol) : ProtocolDecoder F protocol where
  decode _ _ := none
  decode_protocol h := nomatch h

/-- `ProtocolSpec`: a plugin's protocol and the capture sources it owns. -/
structure ProtocolSpec (F : Type) where
  protocol : String
  capturePrefix : String
  adapt : RawCapture F → Option (Packet F)
  adapt_protocol : ∀ {raw packet}, adapt raw = some packet → packet.protocol = .plugin protocol

/-- The decoders as they stand when a capture is processed. -/
structure Decoders (F : Type) where
  prim : CryptoPrimitives
  pb : PortnumHandlers.AppProtobuf F
  crypto : CryptoService
  ourNodeId : Option Nat
  meshcore : ProtocolDecoder F .meshcore
  lorawan : ProtocolDecoder F .lorawan
  meshcoreUsb : ProtocolDecoder F .meshcore
  pager : ProtocolDecoder F .pager
  plugins : List (ProtocolSpec F)

def startsWith (s start : String) : Bool := start.toList.isPrefixOf s.toList

/-- `for_capture_source`. -/
def forCaptureSource (plugins : List (ProtocolSpec F)) (source : String) :
    Option (ProtocolSpec F) :=
  plugins.find? fun spec => startsWith source spec.capturePrefix

/-- A packet that claims to be a Meshtastic one holds the captured bytes. -/
def KeepsFrame (raw : RawCapture F) (packet : Packet F) : Prop :=
  packet.protocol = .meshtastic → packet.rawRadioPacket = some raw.payload

theorem keepsFrame_of_protocol {raw : RawCapture F} {packet : Packet F} {protocol : Protocol}
    (h : packet.protocol = protocol) (hne : protocol ≠ .meshtastic) : KeepsFrame raw packet := by
  intro hmt
  exact absurd (h.symm.trans hmt) hne

section

variable [PyFloat F]

def Decoders.meshtastic (d : Decoders F) (raw : RawCapture F) (now : Int) : Option (Packet F) :=
  (MeshtasticDecoder.decode d.prim d.pb d.crypto d.ourNodeId raw.payload (some raw.signal)
    raw.preDecoded now).1

/-- `PacketRouter.decode`: the hinted decoder, else whichever decrypts, Meshtastic first. -/
def Decoders.route (d : Decoders F) (raw : RawCapture F) (now : Int) : Option (Packet F) :=
  match raw.protocolHint with
  | some .lorawan => d.lorawan.decode raw.payload raw.signal
  | some .meshtastic => d.meshtastic raw now
  | some .meshcore => d.meshcore.decode raw.payload raw.signal
  | _ =>
    let packet := d.meshtastic raw now
    if packet.any Packet.decrypted then packet
    else
      let meshcorePacket := d.meshcore.decode raw.payload raw.signal
      if meshcorePacket.any Packet.decrypted then meshcorePacket else packet.or meshcorePacket

/-- The packet of a capture, before its source is written into it. -/
def Decoders.dispatch (d : Decoders F) (raw : RawCapture F) (now : Int) : Option (Packet F) :=
  if startsWith raw.captureSource "meshcore_usb" then d.meshcoreUsb.decode raw.payload raw.signal
  else
    match forCaptureSource d.plugins raw.captureSource with
    | some spec => spec.adapt raw
    | none =>
      if raw.protocolHint = some .pager then d.pager.decode raw.payload raw.signal
      else d.route raw now

/-- The packet `_process_capture` works on. -/
def Decoders.adapt (d : Decoders F) (raw : RawCapture F) (now : Int) : Option (Packet F) :=
  (d.dispatch raw now).map fun packet => { packet with captureSource := raw.captureSource }

/-! ### Meshtastic packets keep their frame -/

variable {d : Decoders F} {raw : RawCapture F} {now : Int} {packet : Packet F}

theorem keepsFrame_meshtastic (h : d.meshtastic raw now = some packet) : KeepsFrame raw packet := by
  obtain ⟨header, attempt, decrypted, matched, name, -, rfl⟩ :=
    MeshtasticDecoder.decode_eq_assemble d.prim d.pb h
  intro _
  rfl

theorem keepsFrame_route (h : d.route raw now = some packet) : KeepsFrame raw packet := by
  unfold Decoders.route at h
  split at h
  · exact keepsFrame_of_protocol (d.lorawan.decode_protocol h) (by decide)
  · exact keepsFrame_meshtastic h
  · exact keepsFrame_of_protocol (d.meshcore.decode_protocol h) (by decide)
  · simp only at h
    split at h
    · exact keepsFrame_meshtastic h
    · split at h
      · exact keepsFrame_of_protocol (d.meshcore.decode_protocol h) (by decide)
      · rcases Option.or_eq_some_iff.mp h with h | ⟨-, h⟩
        · exact keepsFrame_meshtastic h
        · exact keepsFrame_of_protocol (d.meshcore.decode_protocol h) (by decide)

/-- **Frames are kept.**  Whatever decoder or adapter a capture goes to, a Meshtastic
    packet that comes out of it holds exactly the captured bytes. -/
theorem keepsFrame_adapt (h : d.adapt raw now = some packet) : KeepsFrame raw packet := by
  obtain ⟨inner, hinner, rfl⟩ := Option.map_eq_some_iff.mp h
  change KeepsFrame raw inner
  unfold Decoders.dispatch at hinner
  split at hinner
  · exact keepsFrame_of_protocol (d.meshcoreUsb.decode_protocol hinner) (by decide)
  · split at hinner
    · rename_i spec _
      exact keepsFrame_of_protocol (spec.adapt_protocol hinner) (by simp)
    · split at hinner
      · exact keepsFrame_of_protocol (d.pager.decode_protocol hinner) (by decide)
      · exact keepsFrame_route hinner

theorem protocol_ne_of_owned
    (howned : startsWith raw.captureSource "meshcore_usb" = true ∨
      (forCaptureSource d.plugins raw.captureSource).isSome = true)
    (h : d.adapt raw now = some packet) : packet.protocol ≠ .meshtastic := by
  obtain ⟨inner, hinner, rfl⟩ := Option.map_eq_some_iff.mp h
  change inner.protocol ≠ .meshtastic
  unfold Decoders.dispatch at hinner
  split at hinner
  · rw [d.meshcoreUsb.decode_protocol hinner]
    decide
  · rename_i hname
    obtain ⟨spec, hspec⟩ := Option.isSome_iff_exists.mp (howned.resolve_left hname)
    rw [hspec] at hinner
    rw [spec.adapt_protocol hinner]
    simp

end

end Meshpoint.CapturePipeline
