import Meshpoint.ChannelAgreement
import Meshpoint.MeshtasticBuilder
import Meshpoint.SerialSource

/-!
# Sending a text message

Model of `send_text` of `src/transmit/tx_service.py`: what a text message to a
destination string hands to which radio.  A Meshtastic message is one frame for
the concentrator, or one call of the USB stick that last heard the recipient; a
MeshCore message is a channel message on every connected companion, or a direct
message through one of them.

`_resolve_destination` and the test for a MeshCore broadcast read the same string
with two lists of broadcast words.
-/

namespace Meshpoint.TextSending

open ByteCodec PyText MeshtasticHeader ChannelAgreement SerialSource

def BROADCAST_ADDR_MT : Int := 0xFFFFFFFF
def BROADCAST_ADDR_MC : Int := 0xFFFF

/-- `destination: int | str`. -/
inductive Destination where
  | node (id : Int)
  | text (s : String)
deriving DecidableEq, Repr

/-- `str(destination)`. -/
def Destination.str : Destination → String
  | .node id => toString id
  | .text s => s

/-- The words `_resolve_destination` reads as the broadcast address. -/
def BROADCAST_WORDS : List String := ["broadcast", "all", "ffff", "ffffffff", "0"]

/-- The words the MeshCore path reads as a broadcast. -/
def MESHCORE_BROADCAST_WORDS : List String := ["broadcast", "ffff", "0"]

section

variable (py : Casing)

def isBroadcastWord (s : String) : Bool := BROADCAST_WORDS.contains (py.lower s)

/-- `int(destination.lstrip("!"), 16)`; `none` when it raises. -/
def nodeNumber (s : String) : Option Int := intOfText 16 (lstripWhere (· = '!') s)

/-- `_resolve_destination`. -/
def resolveDestination : Destination → Int
  | .text s => if isBroadcastWord py s then BROADCAST_ADDR_MT else (nodeNumber s).getD BROADCAST_ADDR_MT
  | .node id => if id = 0 then BROADCAST_ADDR_MT else id

/-- `is_broadcast` of `_send_meshcore`. -/
def isMeshcoreBroadcast (destination : Destination) : Bool :=
  destination = .node 0 || destination = .node BROADCAST_ADDR_MC ||
    MESHCORE_BROADCAST_WORDS.contains (py.lower destination.str)

end

/-! ### The service -/

/-- A MeshCore companion radio. -/
structure Companion where
  name : String
  connected : Bool

/-- A Meshtastic USB stick. -/
structure Stick where
  name : String
  connected : Bool
  radio : RadioInfo

/-- The parts of the service a text message uses.  `latestCaptureSource` is the node
    repository: the source that last heard a node. -/
structure TxService where
  crypto : CryptoService
  primaryChannelName : String
  presetName : String
  sourceNodeId : Nat
  hopLimit : Nat
  enabled : Bool
  hasWrapper : Bool
  meshcoreEnabled : Bool
  companions : List Companion
  sticks : List Stick
  latestCaptureSource : String → Option String

/-- What one send draws from its surroundings: the packet id, the nonce of the PKI
    encryption and the answer of the duty-cycle budget. -/
structure Draws where
  packetId : Nat
  extraNonce : Nat
  withinBudget : Bool

/-- What a radio is given to send. -/
inductive Outgoing where
  | frame (bytes : Bytes)
  | stick (name : String) (dest : Int) (channelIndex : Nat) (wantAck : Bool) (text : String)
  | meshcoreChannel (companion : Option String) (channel : Int) (text : String)
  | meshcoreDirect (companion : Option String) (destination : Destination) (text : String)
deriving DecidableEq, Repr

def Outgoing.address : Outgoing → Option Int
  | .frame bytes =>
    (parseHeader (bytes.take MESHTASTIC_HEADER_SIZE)).map fun header => (header.destId : Int)
  | .stick _ dest _ _ _ => some dest
  | .meshcoreChannel _ _ _ => none
  | .meshcoreDirect _ _ _ => none

/-- `items[i]`, negative indices counting from the end; `none` when it raises. -/
def itemAt {α : Type} (items : List α) (i : Int) : Option α :=
  if 0 ≤ i then items[i.toNat]?
  else if 0 ≤ i + items.length then items[(i + items.length).toNat]?
  else none

namespace TxService

/-- `_channel_name_for_index`; `none` when a negative index raises. -/
def channelNameForIndex (tx : TxService) (channel : Int) : Option String :=
  if channel ≠ 0 ∧ channel - 1 < tx.crypto.keys.items.length then
    (itemAt tx.crypto.keys.items (channel - 1)).map Prod.fst
  else some (if tx.primaryChannelName = "" then tx.presetName else tx.primaryChannelName)

/-- `_resolve_channel` of any integer: a negative index counts from the end of the named
    keys, and raising gives the fallback hash without a key. -/
def resolveChannelIndex (tx : TxService) (channel : Int) : UInt8 × Option AesKey :=
  match channel with
  | .ofNat n => resolveChannel tx.crypto.toKeyTable tx.primaryChannelName n
  | .negSucc _ =>
    match itemAt tx.crypto.keys.items (channel - 1) with
    | some entry => (ChannelKeys.computeChannelHash entry.1 entry.2, some entry.2)
    | none => (0x08, none)

/-- `_resolve_serial_send_source`. -/
def resolveSerialSendSource (tx : TxService) (dest : Int) : Option Stick :=
  match (tx.latestCaptureSource (formatHex 8 dest)).filter (· ≠ "") with
  | none => none
  | some source => tx.sticks.find? fun stick => stick.name = source && stick.connected

/-- `_resolve_meshcore_send_source`. -/
def resolveMeshcoreSendSource (py : Casing) (tx : TxService) (destination : Destination) :
    Option Companion :=
  match (tx.latestCaptureSource (lstripWhere (· = '!') (py.lower destination.str))).filter
      (· ≠ "") with
  | none => none
  | some source => tx.companions.find? fun c => c.name = source && c.connected

/-- The hash byte of a message: the channel's, or the one to echo.  A negative one
    cannot be packed, like any beyond a byte. -/
def stampedHash (channelHash : UInt8) : Option Int → Nat
  | none => channelHash.toNat
  | some (.ofNat hash) => hash
  | some (.negSucc _) => 256

/-- The frame for the concentrator; `none` when building returns none or raises. -/
def buildFrame (prim : CryptoPrimitives) (tx : TxService) (text : String) (dest channel : Int)
    (wantAck : Bool) (echoHash : Option Int) (draws : Draws) : Option Bytes :=
  match dest with
  | .negSucc _ => none
  | .ofNat node =>
    let (channelHash, channelKey) := tx.resolveChannelIndex channel
    let recipient := if node = BROADCAST_ADDR then none else (tx.crypto.lookupPublicKey node).1
    MeshtasticBuilder.buildTextMessage prim tx.crypto text node tx.sourceNodeId draws.packetId
      channelKey (stampedHash channelHash echoHash) tx.hopLimit tx.hopLimit wantAck recipient
      draws.extraNonce

/-- `_send_meshtastic`. -/
def sendMeshtastic (py : Casing) (prim : CryptoPrimitives) (tx : TxService) (text : String)
    (destination : Destination) (channel : Int) (wantAck : Bool) (echoHash : Option Int)
    (draws : Draws) : List Outgoing :=
  let dest := resolveDestination py destination
  match if tx.enabled ∧ dest ≠ BROADCAST_ADDR_MT then tx.resolveSerialSendSource dest else none with
  | some stick =>
    match (tx.channelNameForIndex channel).bind stick.radio.resolveChannelIndex with
    | some index => [.stick stick.name dest index wantAck text]
    | none => []
  | none =>
    if tx.enabled ∧ tx.hasWrapper ∧ draws.withinBudget then
      ((tx.buildFrame prim text dest channel wantAck echoHash draws).map Outgoing.frame).toList
    else []

/-- `_send_meshcore`. -/
def sendMeshcore (py : Casing) (tx : TxService) (text : String) (destination : Destination)
    (channel : Int) : List Outgoing :=
  if tx.meshcoreEnabled = false then []
  else if isMeshcoreBroadcast py destination then
    match tx.companions.filter Companion.connected with
    | [] => [.meshcoreChannel none channel text]
    | connected => connected.map fun c => .meshcoreChannel (some c.name) channel text
  else
    [.meshcoreDirect ((tx.resolveMeshcoreSendSource py destination).map Companion.name) destination
      text]

/-- `send_text`. -/
def sendText (py : Casing) (prim : CryptoPrimitives) (tx : TxService) (text : String)
    (destination : Destination) (protocol : String) (channel : Int) (wantAck : Bool)
    (echoHash : Option Int) (draws : Draws) : List Outgoing :=
  if ["meshtastic", "mt"].contains (py.lower protocol) then
    tx.sendMeshtastic py prim text destination channel wantAck echoHash draws
  else if ["meshcore", "mc"].contains (py.lower protocol) then
    tx.sendMeshcore py text destination channel
  else []

end TxService

/-! ### Where a message goes -/

section

variable {py : Casing} {prim : CryptoPrimitives} {tx : TxService}

theorem resolveDestination_text_eq_broadcast_iff (s : String) :
    resolveDestination py (.text s) = BROADCAST_ADDR_MT ↔
      isBroadcastWord py s = true ∨ nodeNumber s = none ∨ nodeNumber s = some BROADCAST_ADDR_MT := by
  unfold resolveDestination
  cases hword : isBroadcastWord py s with
  | true => simp [hword]
  | false =>
    cases hvalue : nodeNumber s with
    | none => simp [hword, hvalue]
    | some n => simp [hword, hvalue]

theorem resolveDestination_of_number {s : String} {n : Int} (hword : isBroadcastWord py s = false)
    (hn : nodeNumber s = some n) : resolveDestination py (.text s) = n := by
  simp [resolveDestination, hword, hn]

theorem buildFrame_address {text : String} {dest channel : Int} {wantAck : Bool}
    {echoHash : Option Int} {draws : Draws} {frame : Bytes}
    (h : tx.buildFrame prim text dest channel wantAck echoHash draws = some frame) :
    (Outgoing.frame frame).address = some dest := by
  unfold TxService.buildFrame at h
  cases dest with
  | negSucc n => cases h
  | ofNat node =>
    obtain ⟨header, hheader, rfl⟩ := MeshtasticBuilder.parseHeader_buildTextMessage prim h
    simp [Outgoing.address, hheader]

theorem sendMeshtastic_address {text : String} {destination : Destination} {channel : Int}
    {wantAck : Bool} {echoHash : Option Int} {draws : Draws} {out : Outgoing}
    (h : out ∈ tx.sendMeshtastic py prim text destination channel wantAck echoHash draws) :
    out.address = some (resolveDestination py destination) := by
  unfold TxService.sendMeshtastic at h
  simp only at h
  split at h
  · split at h
    · rw [List.mem_singleton] at h
      rw [h]
      rfl
    · cases h
  · split at h
    · rw [Option.mem_toList, Option.map_eq_some_iff] at h
      obtain ⟨frame, hframe, rfl⟩ := h
      exact buildFrame_address hframe
    · cases h

theorem sendMeshcore_address {text : String} {destination : Destination} {channel : Int}
    {out : Outgoing} (h : out ∈ tx.sendMeshcore py text destination channel) :
    out.address = none := by
  unfold TxService.sendMeshcore at h
  split at h
  · cases h
  · split at h
    · split at h
      · rw [List.mem_singleton.mp h]
        rfl
      · obtain ⟨c, -, rfl⟩ := List.mem_map.mp h
        rfl
    · rw [List.mem_singleton.mp h]
      rfl

theorem sendText_address {text protocol : String} {destination : Destination} {channel : Int}
    {wantAck : Bool} {echoHash : Option Int} {draws : Draws} {out : Outgoing} {address : Int}
    (h : out ∈ tx.sendText py prim text destination protocol channel wantAck echoHash draws)
    (haddress : out.address = some address) : address = resolveDestination py destination := by
  unfold TxService.sendText at h
  split at h
  · rw [sendMeshtastic_address h] at haddress
    exact (Option.some.inj haddress).symm
  · split at h
    · rw [sendMeshcore_address h] at haddress
      cases haddress
    · cases h

end

end Meshpoint.TextSending
