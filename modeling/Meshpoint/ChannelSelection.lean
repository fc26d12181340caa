import Meshpoint.TextCapacity

/-!
# The channel a text is sent on

`_resolve_channel` of `src/transmit/tx_service.py` takes any integer for a channel.  The key table
that it reads holds the Meshtastic channels, in their order, and after them those of MeshCore,
which may replace the key of a Meshtastic channel with the same name.  `noLeak_iff` says when a text
is sent on the channel that was asked for, or not at all.
-/

namespace Meshpoint.ChannelSelection

open ByteCodec ChannelKeys ChannelAgreement MeshtasticHeader InboundReplies PkiMarker TextSending
  MessageFiling TextCapacity

/-! ### The configured channels -/

/-- The keys of a configuration, expanded. -/
structure ConfiguredKeys where
  defaultKey : Option AesKey
  meshtastic : OrderedDict String AesKey
  meshcore : OrderedDict String AesKey

namespace ConfiguredKeys

def table (keys : ConfiguredKeys) : KeyTable :=
  ⟨keys.defaultKey, keys.meshtastic.update keys.meshcore.items⟩

/-- The index is the primary channel or a configured Meshtastic channel. -/
def Configured (keys : ConfiguredKeys) (channel : Int) : Prop :=
  0 ≤ channel ∧ channel ≤ keys.meshtastic.items.length

def nameAt (keys : ConfiguredKeys) (primaryName : String) (channel : Int) : Option String :=
  if channel = 0 then some primaryName
  else (keys.meshtastic.items[channel.toNat - 1]?).map Prod.fst

def keyAt (keys : ConfiguredKeys) (channel : Int) : Option AesKey :=
  if channel = 0 then keys.defaultKey
  else (keys.meshtastic.items[channel.toNat - 1]?).map Prod.snd

end ConfiguredKeys

theorem exists_configuredKeys (table : KeyTable) :
    ∃ keys : ConfiguredKeys, keys.table = table :=
  ⟨⟨table.defaultKey, table.keys, .empty⟩, rfl⟩

theorem table_of_setup {config : ChannelConfig} {table : KeyTable}
    (h : config.setupChannelKeys = some table) :
    ∃ keys : ConfiguredKeys, keys.table = table ∧
      keys.meshtastic.keys = config.meshtasticKeys.keys ∧
      keys.meshcore.keys = config.meshcoreKeys.keys := by
  obtain ⟨created, first, second, _, _, hfirst, hsecond, rfl⟩ :=
    ChannelConfig.setupChannelKeys_eq_some h
  have hdict : ∀ {decode : String → Option Bytes} {entries : OrderedDict String String}
      {expanded : List (String × AesKey)},
      ChannelConfig.expandWith decode entries.items = some expanded →
        ∃ dict : OrderedDict String AesKey, dict.items = expanded ∧ dict.keys = entries.keys := by
    intro decode entries expanded hexpanded
    have hnames := ChannelConfig.expandWith_names hexpanded
    exact ⟨⟨expanded, hnames ▸ entries.nodupKeys⟩, rfl, hnames⟩
  obtain ⟨meshtastic, rfl, hmeshtastic⟩ := hdict hfirst
  obtain ⟨meshcore, rfl, hmeshcore⟩ := hdict hsecond
  refine ⟨⟨created.defaultKey, meshtastic, meshcore⟩, ?_, hmeshtastic, hmeshcore⟩
  have hempty : OrderedDict.empty.update meshtastic.items = meshtastic := by
    apply OrderedDict.ext_items
    exact OrderedDict.items_update_of_nodup _ meshtastic.nodupKeys
  rw [ConfiguredKeys.table, hempty]

/-! ### The property -/

section

variable (py : PyText.Casing) (prim : CryptoPrimitives) (tx : TxService) (keys : ConfiguredKeys)
  (req : SendRequest) (destination : Destination) (draws : Draws)

def sent : List Outgoing :=
  tx.sendMeshtastic py prim req.text destination req.channel req.wantAck req.echoHash draws

def EncryptedWith (key : AesKey) (frame : Bytes) : Prop :=
  ∃ node inner, resolveDestination py destination = Int.ofNat node ∧
    (textArgs tx req draws node).encryption tx.crypto = some (.channel key) ∧
    (Encryption.channel key).encrypt prim tx.crypto (textArgs tx req draws node) inner
      draws.extraNonce = some (frame.drop MESHTASTIC_HEADER_SIZE)

def primaryName : String :=
  if tx.primaryChannelName = "" then tx.presetName else tx.primaryChannelName

/-- What a radio is given is for the channel that was asked for: a frame is encrypted with its key,
    and a stick is told its index of that name. -/
def OnChannel : Outgoing → Prop
  | .frame bytes => ∃ key, keys.keyAt req.channel = some key ∧
    EncryptedWith py prim tx req destination draws key bytes
  | .stick stickName _ index _ _ => ∃ name, keys.nameAt (primaryName tx) req.channel = some name ∧
    ∃ stick ∈ tx.sticks, stick.name = stickName ∧
      stick.radio.resolveChannelIndex name = some index
  | _ => False

/-- Nothing is sent for an index that is not configured, and on that channel for one that is. -/
structure NoLeak : Prop where
  unconfigured : ¬ keys.Configured req.channel → sent py prim tx req destination draws = []
  configured : keys.Configured req.channel →
    ∀ out ∈ sent py prim tx req destination draws,
      OnChannel py prim tx keys req destination draws out

/-! ### When something is sent -/

/-- The stick a message to this destination goes through. -/
def sendStick : Option Stick :=
  if tx.enabled ∧ resolveDestination py destination ≠ BROADCAST_ADDR_MT then
    tx.resolveSerialSendSource (resolveDestination py destination)
  else none

def Exchanges : Encryption → Prop
  | .channel _ => True
  | .pki recipientKey => ∃ privateKey, tx.crypto.privateKey = some privateKey ∧
    (PkiCrypto.deriveSharedKey prim privateKey recipientKey).isSome

/-- There are a key and numbers that fit into the header. -/
def Buildable : Prop :=
  ∃ node : Nat, resolveDestination py destination = Int.ofNat node ∧
    (node < 2 ^ 32 ∧ tx.sourceNodeId < 2 ^ 32 ∧ draws.packetId < 2 ^ 32) ∧
    (HasRecipient (textArgs tx req draws node) ∨
      (textArgs tx req draws node).channelHash < 256) ∧
    ∃ scheme, (textArgs tx req draws node).encryption tx.crypto = some scheme ∧
      Exchanges prim tx scheme

def Sends : Prop :=
  match sendStick py tx destination with
  | some stick => ∃ name, tx.channelNameForIndex req.channel = some name ∧
    (stick.radio.resolveChannelIndex name).isSome
  | none => (tx.enabled ∧ tx.hasWrapper ∧ draws.withinBudget) ∧
    Buildable py prim tx req destination draws

/-- The key of a configured channel is in its place. -/
def KeyInPlace (channel : Int) : Prop :=
  if channel = 0 then keys.defaultKey ≠ none
  else ∀ name key, keys.meshtastic.items[channel.toNat - 1]? = some (name, key) →
    ∀ other, keys.meshcore.get? name = some other → other = key

/-- The channel is configured; and where the frame is built here, its key is in place and the
    message is no direct message. -/
structure Selected : Prop where
  configured : keys.Configured req.channel
  frame : sendStick py tx destination = none →
    KeyInPlace keys req.channel ∧
      ∀ node : Nat, resolveDestination py destination = Int.ofNat node → ¬ IsDirect tx node

/-! ### Sending -/

variable {py prim tx keys req destination draws}

theorem mem_sticks_of_sendStick {stick : Stick} (h : sendStick py tx destination = some stick) :
    stick ∈ tx.sticks := by
  unfold sendStick at h
  split at h
  · unfold TxService.resolveSerialSendSource at h
    split at h
    · cases h
    · exact List.mem_of_find?_eq_some h
  · cases h

theorem mem_sent_of_stick {stick : Stick} (h : sendStick py tx destination = some stick)
    {out : Outgoing} :
    out ∈ sent py prim tx req destination draws ↔ ∃ name index,
      tx.channelNameForIndex req.channel = some name ∧
      stick.radio.resolveChannelIndex name = some index ∧
      out = .stick stick.name (resolveDestination py destination) index req.wantAck req.text := by
  unfold sendStick at h
  unfold sent TxService.sendMeshtastic
  simp only [h]
  cases hname : tx.channelNameForIndex req.channel with
  | none => simp
  | some name =>
    rw [Option.bind_some]
    cases hindex : stick.radio.resolveChannelIndex name with
    | none => simp [hindex]
    | some index => simp [hindex]

theorem mem_sent_of_frame (h : sendStick py tx destination = none) {out : Outgoing} :
    out ∈ sent py prim tx req destination draws ↔
      (tx.enabled ∧ tx.hasWrapper ∧ draws.withinBudget) ∧ ∃ frame,
        tx.buildFrame prim req.text (resolveDestination py destination) req.channel req.wantAck
          req.echoHash draws = some frame ∧ out = .frame frame := by
  unfold sendStick at h
  unfold sent TxService.sendMeshtastic
  simp only [h]
  split
  · rename_i hready
    rw [Option.mem_toList, Option.map_eq_some_iff]
    simp only [hready, and_self, true_and, eq_comm]
  · rename_i hready
    simp only [hready, List.not_mem_nil, false_and]

theorem encrypt_isSome_iff {scheme : Encryption} (args : FrameArgs) (inner : Bytes)
    (extraNonce : Nat) :
    (scheme.encrypt prim tx.crypto args inner extraNonce).isSome = true ↔
      Exchanges prim tx scheme := by
  cases scheme with
  | channel key => exact iff_of_true rfl trivial
  | pki recipientKey =>
    simp only [Encryption.encrypt, CryptoService.encryptMeshtasticPki, Exchanges,
      Option.isSome_bind, Option.any_eq_true]
    apply exists_congr
    intro privateKey
    apply and_congr_right
    intro _
    unfold PkiCrypto.encryptPkiPayload
    cases PkiCrypto.deriveSharedKey prim privateKey recipientKey with
    | none => rfl
    | some sharedKey => rfl

theorem any_ne_nil_iff {args : FrameArgs} :
    (args.recipientPublicKey.any fun key => key ≠ []) = true ↔ HasRecipient args := by
  unfold HasRecipient
  cases args.recipientPublicKey with
  | none => simp
  | some key => simp

theorem isSome_of_frame {args : FrameArgs} {inner : Bytes} {extraNonce : Nat} :
    (InboundReplies.buildFrame prim tx.crypto args inner extraNonce).isSome = true ↔
      (args.dest < 2 ^ 32 ∧ args.sourceId < 2 ^ 32 ∧ args.packetId < 2 ^ 32) ∧
        (HasRecipient args ∨ args.channelHash < 256) ∧
        ∃ scheme, args.encryption tx.crypto = some scheme ∧ Exchanges prim tx scheme := by
  have hhash : (if args.recipientPublicKey.any fun key => key ≠ [] then 0 else args.channelHash) <
      256 ↔ HasRecipient args ∨ args.channelHash < 256 := by
    rw [← any_ne_nil_iff]
    split
    · rename_i hany
      exact iff_of_true (by decide) (.inl hany)
    · rename_i hany
      rw [or_iff_right hany]
  unfold InboundReplies.buildFrame
  rw [encryptPayload_eq]
  constructor
  · intro h
    obtain ⟨frame, hframe⟩ := Option.isSome_iff_exists.mp h
    simp only [Option.bind_eq_bind, Option.bind_eq_some_iff] at hframe
    obtain ⟨ciphertext, ⟨scheme, hscheme, hcipher⟩, header, hheader, _⟩ := hframe
    obtain ⟨hids, hlt, _⟩ := packHeader_eq_some hheader
    exact ⟨hids, hhash.mp hlt, scheme, hscheme,
      (encrypt_isSome_iff _ _ _).mp (Option.isSome_iff_exists.mpr ⟨ciphertext, hcipher⟩)⟩
  · rintro ⟨⟨hdest, hsource, hid⟩, hlt, scheme, hscheme, hexchanges⟩
    obtain ⟨header, hheader⟩ := packHeader_of_lt hdest hsource hid (hhash.mpr hlt) args.hopLimit
      args.hopStart args.wantAck false
    obtain ⟨ciphertext, hcipher⟩ := Option.isSome_iff_exists.mp
      ((encrypt_isSome_iff args inner extraNonce).mpr hexchanges)
    simp only [hscheme, Option.bind_some, hcipher, MeshtasticBuilder.buildHeader, hheader,
      Option.bind_eq_bind, Option.pure_def, Option.isSome_some]

theorem buildFrame_isSome_iff :
    (tx.buildFrame prim req.text (resolveDestination py destination) req.channel req.wantAck
      req.echoHash draws).isSome = true ↔ Buildable py prim tx req destination draws := by
  unfold Buildable
  cases resolveDestination py destination with
  | negSucc n =>
    refine iff_of_false (fun h => nomatch h) ?_
    rintro ⟨node, hnode, _⟩
    cases hnode
  | ofNat node =>
    have hframe : tx.buildFrame prim req.text (Int.ofNat node) req.channel req.wantAck req.echoHash
        draws = InboundReplies.buildFrame prim tx.crypto (textArgs tx req draws node)
          (MeshtasticBuilder.serializeData MeshtasticBuilder.PORTNUM_TEXT_MESSAGE (utf8 req.text) 0)
          draws.extraNonce := rfl
    rw [hframe, isSome_of_frame]
    constructor
    · rintro ⟨hids, hhash, hscheme⟩
      exact ⟨node, rfl, hids, hhash, hscheme⟩
    · rintro ⟨node', hnode, hids, hhash, hscheme⟩
      obtain rfl := Int.ofNat.inj hnode
      exact ⟨hids, hhash, hscheme⟩

/-! ### The key of a channel -/

/-- The entry of a configured channel in the table, with the key that MeshCore gave its name. -/
theorem getElem?_table {name : String} {key : AesKey} {i : Nat}
    (h : keys.meshtastic.items[i]? = some (name, key)) :
    keys.table.keys.items[i]? = some (name, (keys.meshcore.get? name).getD key) := by
  have hname : keys.table.keys.keys[i]? = some name := by
    obtain ⟨rest, hrest⟩ := keys.meshtastic.keys_prefix_update keys.meshcore.items
    have hfirst : keys.meshtastic.keys[i]? = some name := by
      rw [OrderedDict.keys, List.getElem?_map, h]
      rfl
    rw [ConfiguredKeys.table, ← hrest]
    exact List.getElem?_append_left (List.getElem?_eq_some_iff.mp hfirst).1 ▸ hfirst
  rw [OrderedDict.keys, List.getElem?_map, Option.map_eq_some_iff] at hname
  obtain ⟨⟨name', key'⟩, hentry, rfl⟩ := hname
  have hget := OrderedDict.get?_of_getElem? _ hentry
  rw [ConfiguredKeys.table, OrderedDict.get?_update_items,
    OrderedDict.get?_of_getElem? _ h] at hget
  rw [hentry]
  cases hother : keys.meshcore.get? name' with
  | none =>
    rw [hother] at hget
    simpa using hget.symm
  | some other =>
    rw [hother] at hget
    simpa using hget.symm

/-- The key that a configured channel resolves to is its own exactly when that is in place. -/
theorem resolved_iff (htable : tx.crypto.toKeyTable = keys.table)
    (hconfigured : keys.Configured req.channel) :
    KeyInPlace keys req.channel ↔ ∃ key, keys.keyAt req.channel = some key ∧
      (tx.resolveChannelIndex req.channel).2.or tx.crypto.defaultKey = some key := by
  have hdefault : tx.crypto.defaultKey = keys.defaultKey := congrArg KeyTable.defaultKey htable
  obtain ⟨hnonneg, hle⟩ := hconfigured
  obtain ⟨n, hn⟩ := Int.eq_ofNat_of_zero_le hnonneg
  rw [hn] at hle ⊢
  have hresolve : tx.resolveChannelIndex n =
    resolveChannel keys.table tx.primaryChannelName n := by
      rw [← htable]
      rfl
  rw [hresolve, hdefault]
  unfold KeyInPlace ConfiguredKeys.keyAt resolveChannel
  by_cases hzero : n = 0
  · subst hzero
    simp only [Nat.cast_zero, if_true, primaryChannel, KeyTable.getAllKeys, ConfiguredKeys.table]
    cases keys.defaultKey with
    | none => simp
    | some key => simp
  · have hne : (n : Int) ≠ 0 := by omega
    rw [if_neg hne, if_neg hne, if_neg hzero, Int.toNat_natCast]
    obtain ⟨⟨name, key⟩, hentry⟩ : ∃ entry, keys.meshtastic.items[n - 1]? = some entry :=
      ⟨_, List.getElem?_eq_getElem (by omega)⟩
    rw [hentry, getElem?_table hentry]
    cases hother : keys.meshcore.get? name with
    | none => simp [hother]
    | some other => simp [hother]

theorem nameAt_eq (htable : tx.crypto.toKeyTable = keys.table)
    (hconfigured : keys.Configured req.channel) {name : String}
    (h : tx.channelNameForIndex req.channel = some name) :
    keys.nameAt (primaryName tx) req.channel = some name := by
  have hitems : tx.crypto.keys.items = keys.table.keys.items :=
    congrArg (fun table => table.keys.items) htable
  obtain ⟨hnonneg, hle⟩ := hconfigured
  unfold ConfiguredKeys.nameAt
  unfold TxService.channelNameForIndex at h
  by_cases hzero : req.channel = 0
  · rw [if_neg (fun hcond => hcond.1 hzero)] at h
    rw [if_pos hzero]
    exact h
  · obtain ⟨⟨name', key⟩, hentry⟩ :
        ∃ entry, keys.meshtastic.items[req.channel.toNat - 1]? = some entry :=
      ⟨_, List.getElem?_eq_getElem (by omega)⟩
    have htableEntry := getElem?_table hentry
    have hbound := (List.getElem?_eq_some_iff.mp htableEntry).1
    have hindex : (req.channel - 1).toNat = req.channel.toNat - 1 := by omega
    rw [if_pos ⟨hzero, by rw [hitems]; omega⟩, itemAt, if_pos (by omega), hitems, hindex,
      htableEntry] at h
    rw [if_neg hzero, hentry]
    exact h

/-! ### The channel that was asked for -/

theorem sends_iff : Sends py prim tx req destination draws ↔
    ∃ out, out ∈ sent py prim tx req destination draws := by
  unfold Sends
  cases hstick : sendStick py tx destination with
  | some stick =>
    simp only [mem_sent_of_stick hstick]
    constructor
    · rintro ⟨name, hname, hsome⟩
      obtain ⟨index, hindex⟩ := Option.isSome_iff_exists.mp hsome
      exact ⟨_, name, index, hname, hindex, rfl⟩
    · rintro ⟨out, name, index, hname, hindex, _⟩
      exact ⟨name, hname, Option.isSome_iff_exists.mpr ⟨index, hindex⟩⟩
  | none =>
    simp only [mem_sent_of_frame hstick, ← buildFrame_isSome_iff]
    constructor
    · rintro ⟨hready, hsome⟩
      obtain ⟨frame, hframe⟩ := Option.isSome_iff_exists.mp hsome
      exact ⟨_, hready, frame, hframe, rfl⟩
    · rintro ⟨out, hready, frame, hframe, _⟩
      exact ⟨hready, Option.isSome_iff_exists.mpr ⟨frame, hframe⟩⟩

theorem key_of_channel {crypto : CryptoService} {args : FrameArgs} {key : AesKey}
    (h : args.encryption crypto = some (.channel key)) :
    args.channelKey.or crypto.defaultKey = some key := by
  have hmap : (args.channelKey.or crypto.defaultKey).map Encryption.channel = some (.channel key) →
      args.channelKey.or crypto.defaultKey = some key := by
    intro hsome
    obtain ⟨key', hkey', heq⟩ := Option.map_eq_some_iff.mp hsome
    cases heq
    exact hkey'
  unfold FrameArgs.encryption at h
  split at h
  · split at h
    · cases h
    · exact hmap h
  · exact hmap h

/-- **No other channel.**  Nothing is sent for an index that is not configured, and on its channel
    for one that is, exactly when `Selected` holds of what some radio takes. -/
theorem noLeak_iff (htable : tx.crypto.toKeyTable = keys.table) :
    NoLeak py prim tx keys req destination draws ↔
      (Sends py prim tx req destination draws → Selected py tx keys req destination) := by
  constructor
  · intro hleak hsends
    obtain ⟨out, hout⟩ := sends_iff.mp hsends
    have hconfigured : keys.Configured req.channel := by
      by_contra hnot
      rw [hleak.unconfigured hnot] at hout
      cases hout
    refine ⟨hconfigured, fun hstick => ?_⟩
    obtain ⟨_, frame, _, rfl⟩ := (mem_sent_of_frame hstick).mp hout
    obtain ⟨key, hkey, node, inner, hnode, hencryption, _⟩ := hleak.configured hconfigured _ hout
    refine ⟨(resolved_iff htable hconfigured).mpr ⟨key, hkey, key_of_channel hencryption⟩, ?_⟩
    intro node' hnode' hdirect
    obtain rfl : node = node' := Int.ofNat.inj (hnode.symm.trans hnode')
    obtain ⟨recipientKey, heq⟩ := (isPki_iff_isDirect hencryption).mpr hdirect
    cases heq
  · intro h
    constructor
    · intro hnot
      by_contra hne
      obtain ⟨out, hout⟩ := List.exists_mem_of_ne_nil _ hne
      exact hnot (h (sends_iff.mpr ⟨out, hout⟩)).configured
    · intro hconfigured out hout
      have hselected := h (sends_iff.mpr ⟨out, hout⟩)
      cases hstick : sendStick py tx destination with
      | some stick =>
        obtain ⟨name, index, hname, hindex, rfl⟩ := (mem_sent_of_stick hstick).mp hout
        exact ⟨name, nameAt_eq htable hconfigured hname, stick, mem_sticks_of_sendStick hstick,
          rfl, hindex⟩
      | none =>
        obtain ⟨_, frame, hframe, rfl⟩ := (mem_sent_of_frame hstick).mp hout
        obtain ⟨hinPlace, hnotDirect⟩ := hselected.frame hstick
        obtain ⟨key, hkey, hresolved⟩ := (resolved_iff htable hconfigured).mp hinPlace
        obtain ⟨node, hnode, scheme, hframed⟩ := exists_framed_of_request hframe
        cases scheme with
        | channel used =>
          obtain rfl : used = key :=
            Option.some.inj ((key_of_channel hframed.encryption).symm.trans hresolved)
          exact ⟨used, hkey, node, _, hnode, hframed.encryption, hframed.body⟩
        | pki recipientKey =>
          exact absurd ((isPki_iff_isDirect hframed.encryption).mp ⟨recipientKey, rfl⟩)
            (hnotDirect node hnode)

end

/-! ### A station with the primary channel only -/

def deskKeys : ConfiguredKeys where
  defaultKey := some (expandKey [1])
  meshtastic := .empty
  meshcore := .empty

def onPrimary : SendRequest := { text := "meet at nine" }

def onChannelFive : SendRequest := { onPrimary with channel := 5 }

theorem noLeak_primary :
    NoLeak .ascii deskPrimitives desk deskKeys onPrimary (.text "broadcast") deskDraws ∧
      sent .ascii deskPrimitives desk onPrimary (.text "broadcast") deskDraws =
        [.frame deskBroadcast] := by
  refine ⟨(noLeak_iff rfl).mpr ?_, by decide +kernel⟩
  intro _
  refine ⟨⟨by decide, by decide⟩, fun _ => ⟨?_, ?_⟩⟩
  · exact fun hnone => nomatch hnone
  · rintro node hnode ⟨hdest, _⟩
    exact hdest (Int.ofNat.inj hnode).symm

/-- **An index that is not configured** sends on the primary channel: the frame is the one of
    index 0. -/
theorem channel_five_sent :
    desk.crypto.toKeyTable = deskKeys.table ∧ ¬ deskKeys.Configured onChannelFive.channel ∧
      sent .ascii deskPrimitives desk onChannelFive (.text "broadcast") deskDraws =
        [.frame deskBroadcast] ∧
      ¬ NoLeak .ascii deskPrimitives desk deskKeys onChannelFive (.text "broadcast") deskDraws := by
  have hnot : ¬ deskKeys.Configured onChannelFive.channel := by
    rintro ⟨_, hle⟩
    exact absurd hle (by decide)
  have hsent : sent .ascii deskPrimitives desk onChannelFive (.text "broadcast") deskDraws =
      [.frame deskBroadcast] := by decide +kernel
  refine ⟨rfl, hnot, hsent, ?_⟩
  intro hleak
  have hnone := hleak.unconfigured hnot
  rw [hsent] at hnone
  cases hnone

end Meshpoint.ChannelSelection
