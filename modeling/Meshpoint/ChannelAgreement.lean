import Meshpoint.ChannelHashResolver

/-!
# The sender, the hash map and the decoder on one channel index

Model of `TxService._resolve_channel` and `_resolve_channel_by_hash`
(`src/transmit/tx_service.py`).  A channel index is resolved three times: by the
sender to a hash and a key, by the hash map of the receiving side to an index,
and by the decoder to a position in the list of all keys.  `AgreesAt` says that
they name the same channel.

The sender hashes the primary name as configured, the hash map its stripped form
with LongFast for a blank one; and without a default key the list of all keys is
shifted against the indices.  `agreesAt_all_iff` shows that these are the only two
ways in which they part.
-/

namespace Meshpoint.ChannelAgreement

open ByteCodec ChannelKeys ChannelHashResolver

/-! ### The sender -/

/-- The primary channel: the first key, or the fallback hash without any key. -/
def primaryChannel (table : KeyTable) (primaryChannelName : String) : UInt8 × Option AesKey :=
  match table.getAllKeys with
  | [] => (0x08, none)
  | key :: _ => (computeChannelHash primaryChannelName key, some key)

/-- `_resolve_channel`: an index beyond the named keys is the primary channel. -/
def resolveChannel (table : KeyTable) (primaryChannelName : String) (channel : Nat) :
    UInt8 × Option AesKey :=
  if channel = 0 then primaryChannel table primaryChannelName
  else
    match table.keys.items[channel - 1]? with
    | some entry => (computeChannelHash entry.1 entry.2, some entry.2)
    | none => primaryChannel table primaryChannelName

/-- `_resolve_channel_by_hash`: each name is paired with the key at its index. -/
def resolveChannelByHash (table : KeyTable) (primaryChannelName : String) (channelHash : UInt8) :
    UInt8 × Option AesKey :=
  match table.getAllKeys with
  | [] => (channelHash, none)
  | primaryKey :: _ =>
    if computeChannelHash primaryChannelName primaryKey = channelHash then
      (channelHash, some primaryKey)
    else
      (channelHash, some (((table.keys.items.zipIdx 1).findSome? fun p =>
        (table.getAllKeys[p.2]?).filter fun key =>
          computeChannelHash p.1.1 key = channelHash).getD primaryKey))

/-! ### Agreement -/

/-- Sender, hash map, decoder and reply key agree on the channel with this index. -/
structure AgreesAt (config : ChannelConfig) (table : KeyTable) (index : Nat) : Prop where
  hash : lookup (rebuild table config.primaryChannelName config.meshtasticKeys.keys)
    (resolveChannel table config.primaryChannelName index).1 = some index
  key : (resolveChannel table config.primaryChannelName index).2 = table.getAllKeys[index]?
  reply : (resolveChannelByHash table config.primaryChannelName
    (resolveChannel table config.primaryChannelName index).1).2 = table.getAllKeys[index]?

/-- The hashes of the primary channel and of all named keys. -/
def channelHashes (config : ChannelConfig) (table : KeyTable) : List UInt8 :=
  (table.getAllKeys.head?.map
    (computeChannelHash (effectivePrimary config.primaryChannelName))).toList ++
    table.keys.items.map entryHash

/-- The configured primary name and its effective form have the same checksum. -/
def SameChecksum (config : ChannelConfig) : Prop :=
  xorAll (utf8 config.primaryChannelName) =
    xorAll (utf8 (effectivePrimary config.primaryChannelName))

instance (config : ChannelConfig) : Decidable (SameChecksum config) :=
  inferInstanceAs (Decidable (_ = _))

/-- Every index has its key at its position: there is a default key, or the first keys
    of the table are all the same. -/
def KeysAligned (config : ChannelConfig) (table : KeyTable) : Prop :=
  config.defaultKeyB64 ≠ "" ∨
    ∃ key, ∀ i ≤ config.meshtasticKeys.items.length, table.keys.values[i]? = some key

theorem computeChannelHash_eq_iff (name name' : String) (key : AesKey) :
    computeChannelHash name key = computeChannelHash name' key ↔
      xorAll (utf8 name) = xorAll (utf8 name') := by
  rw [computeChannelHash_eq, computeChannelHash_eq]
  exact UInt8.xor_left_inj ..

/-! ### The positions of the keys -/

section

variable {config : ChannelConfig} {table : KeyTable}

theorem values_getElem? (i : Nat) :
    table.keys.values[i]? = (table.keys.items[i]?).map Prod.snd := by
  simp [OrderedDict.values]

theorem getAllKeys_of_none (h : table.defaultKey = none) :
    table.getAllKeys = table.keys.values := by
  simp [KeyTable.getAllKeys, h]

theorem getAllKeys_of_some {key : AesKey} (h : table.defaultKey = some key) :
    table.getAllKeys = key :: table.keys.values := by
  simp [KeyTable.getAllKeys, h]

theorem exists_entry (hsetup : config.setupChannelKeys = some table) {i : Nat} (hpos : 1 ≤ i)
    (hi : i ≤ config.meshtasticKeys.items.length) :
    ∃ entry, table.keys.items[i - 1]? = some entry := by
  have hstart := (ChannelConfig.setupChannelKeys_keys hsetup).length_le
  simp only [OrderedDict.keys, List.length_map] at hstart
  exact ⟨_, List.getElem?_eq_getElem (by omega)⟩

/-- Each configured index finds its own key in the list of all keys, and there is a
    primary key, exactly when the keys are aligned. -/
theorem keysAligned_iff (hsetup : config.setupChannelKeys = some table) :
    KeysAligned config table ↔ table.getAllKeys ≠ [] ∧
      ∀ i, 1 ≤ i → i ≤ config.meshtasticKeys.items.length →
        table.getAllKeys[i]? = table.keys.values[i - 1]? := by
  have hdefault := ChannelConfig.setupChannelKeys_defaultKey hsetup
  cases hkey : table.defaultKey with
  | some key =>
    rw [hkey] at hdefault
    have hne : config.defaultKeyB64 ≠ "" := hdefault.mp rfl
    rw [getAllKeys_of_some hkey]
    constructor
    · intro _
      refine ⟨by simp, ?_⟩
      intro i hpos _
      obtain ⟨j, rfl⟩ : ∃ j, i = j + 1 := ⟨i - 1, by omega⟩
      simp
    · intro _
      exact Or.inl hne
  | none =>
    rw [hkey] at hdefault
    have heq : config.defaultKeyB64 = "" := by simpa using hdefault
    rw [getAllKeys_of_none hkey]
    constructor
    · rintro (hne | ⟨key, hall⟩)
      · exact absurd heq hne
      · refine ⟨?_, ?_⟩
        · intro hnil
          have hzero := hall 0 (Nat.zero_le _)
          rw [hnil] at hzero
          cases hzero
        · intro i hpos hi
          rw [hall i hi, hall (i - 1) (by omega)]
    · rintro ⟨hne, hshift⟩
      obtain ⟨key, rest, hvalues⟩ := List.exists_cons_of_ne_nil hne
      -- each key equals the one before it, so all equal the first
      refine Or.inr ⟨key, ?_⟩
      intro i
      induction i with
      | zero => simp [hvalues]
      | succ i ih =>
        intro hi
        rw [hshift (i + 1) (by omega) hi]
        exact ih (by omega)

/-! ### The hash map -/

theorem meshtasticKeys_keys_eq (hsetup : config.setupChannelKeys = some table) :
    config.meshtasticKeys.keys =
      (table.keys.items.take config.meshtasticKeys.items.length).map Prod.fst := by
  have hstart := List.prefix_iff_eq_take.mp (ChannelConfig.setupChannelKeys_keys hsetup)
  rw [hstart, OrderedDict.keys, OrderedDict.keys, List.map_take, List.length_map]

theorem lookup_eq_some_iff (hsetup : config.setupChannelKeys = some table) {primaryKey : AesKey}
    {otherKeys : List AesKey} (hkeys : table.getAllKeys = primaryKey :: otherKeys)
    (hdistinct : (channelHashes config table).Nodup) (channelHash : UInt8) (index : Nat) :
    lookup (rebuild table config.primaryChannelName config.meshtasticKeys.keys) channelHash =
        some index ↔
      (index = 0 ∧ channelHash =
        computeChannelHash (effectivePrimary config.primaryChannelName) primaryKey) ∨
      (1 ≤ index ∧ index ≤ config.meshtasticKeys.items.length ∧
        ∃ entry, table.keys.items[index - 1]? = some entry ∧ channelHash = entryHash entry) := by
  have hnodup : (computeChannelHash (effectivePrimary config.primaryChannelName) primaryKey ::
      (table.keys.items.take config.meshtasticKeys.items.length).map entryHash).Nodup := by
    rw [channelHashes, hkeys] at hdistinct
    refine List.Nodup.sublist ?_ hdistinct
    exact List.Sublist.cons_cons _ ((List.take_sublist _ _).map _)
  rw [meshtasticKeys_keys_eq hsetup, lookup_rebuild_eq_some_iff hkeys
    (fun entry hentry => List.mem_of_mem_take hentry) hnodup]
  refine or_congr Iff.rfl ⟨?_, ?_⟩
  · rintro ⟨hpos, entry, hget, hhash⟩
    have hlt := (List.getElem?_eq_some_iff.mp hget).1
    rw [List.length_take] at hlt
    rw [List.getElem?_take_of_lt (by omega)] at hget
    exact ⟨hpos, by omega, entry, hget, hhash⟩
  · rintro ⟨hpos, hle, entry, hget, hhash⟩
    exact ⟨hpos, entry, by rw [List.getElem?_take_of_lt (by omega)]; exact hget, hhash⟩

/-! ### The reply key -/

theorem findSome?_byHash {index : Nat} {entry : String × AesKey}
    (hdistinct : (table.keys.items.map entryHash).Nodup) (hpos : 1 ≤ index)
    (hentry : table.keys.items[index - 1]? = some entry)
    (haligned : ∀ i, 1 ≤ i → i ≤ index → table.getAllKeys[i]? = table.keys.values[i - 1]?) :
    ((table.keys.items.zipIdx 1).findSome? fun p =>
      (table.getAllKeys[p.2]?).filter fun key =>
        computeChannelHash p.1.1 key = entryHash entry) = some entry.2 := by
  have hlt := (List.getElem?_eq_some_iff.mp hentry).1
  have hsplit : table.keys.items = table.keys.items.take (index - 1) ++ entry ::
      table.keys.items.drop (index - 1 + 1) := by
    conv_lhs => rw [← List.take_append_drop (index - 1) table.keys.items]
    rw [List.drop_eq_getElem_cons hlt, (List.getElem?_eq_some_iff.mp hentry).2]
  have hlength : (table.keys.items.take (index - 1)).length = index - 1 := by
    rw [List.length_take]
    omega
  have hkeyAt : ∀ i e, 1 ≤ i → i ≤ index → table.keys.items[i - 1]? = some e →
      table.getAllKeys[i]? = some e.2 := by
    intro i e hi hle hget
    rw [haligned i hi hle, values_getElem?, hget]
    rfl
  rw [List.findSome?_eq_some_iff]
  refine ⟨(table.keys.items.take (index - 1)).zipIdx 1, (entry, index),
    (table.keys.items.drop (index - 1 + 1)).zipIdx (index + 1), ?_, ?_, ?_⟩
  · conv_lhs => rw [hsplit]
    rw [List.zipIdx_append, List.zipIdx_cons, hlength]
    congr 2
    · congr 1
      omega
    · congr 1
      omega
  · rw [hkeyAt index entry hpos (Nat.le_refl _) hentry]
    simp [entryHash]
  · rintro ⟨other, i⟩ hmem
    obtain ⟨hi, hget⟩ := List.mk_mem_zipIdx_iff_le_and_getElem?_sub.mp hmem
    have hbound := (List.getElem?_eq_some_iff.mp hget).1
    rw [hlength] at hbound
    have hother := hget
    rw [List.getElem?_take_of_lt (by omega)] at hother
    rw [hkeyAt i other hi (by omega) hother]
    -- an earlier entry has another hash
    have hne : entryHash other ≠ entryHash entry := by
      rw [hsplit, List.map_append, List.map_cons, List.nodup_append] at hdistinct
      exact hdistinct.2.2 _ (List.mem_map_of_mem (List.mem_of_getElem? hget)) _
        (List.mem_cons_self ..)
    rw [Option.filter_some, if_neg]
    rw [decide_eq_true_eq]
    exact hne

/-! ### The theorem -/

theorem agreesAt_zero_iff (hsetup : config.setupChannelKeys = some table)
    (hdistinct : (channelHashes config table).Nodup) :
    AgreesAt config table 0 ↔ table.getAllKeys ≠ [] ∧ SameChecksum config := by
  cases hkeys : table.getAllKeys with
  | nil =>
    constructor
    · intro h
      have hhash := h.hash
      rw [rebuild, hkeys] at hhash
      cases hhash
    · rintro ⟨hne, -⟩
      exact absurd rfl hne
  | cons primaryKey otherKeys =>
    have hresolve : resolveChannel table config.primaryChannelName 0 =
        (computeChannelHash config.primaryChannelName primaryKey, some primaryKey) := by
      simp [resolveChannel, primaryChannel, hkeys]
    constructor
    · intro h
      refine ⟨by simp, ?_⟩
      have hhash := h.hash
      rw [hresolve, lookup_eq_some_iff hsetup hkeys hdistinct] at hhash
      rcases hhash with ⟨-, heq⟩ | ⟨hpos, -⟩
      · exact (computeChannelHash_eq_iff ..).mp heq
      · omega
    · rintro ⟨-, hsame⟩
      refine ⟨?_, ?_, ?_⟩
      · rw [hresolve, lookup_eq_some_iff hsetup hkeys hdistinct]
        exact Or.inl ⟨rfl, (computeChannelHash_eq_iff ..).mpr hsame⟩
      · rw [hresolve, hkeys]
        rfl
      · rw [hresolve, resolveChannelByHash, hkeys]
        simp

theorem agreesAt_named (hsetup : config.setupChannelKeys = some table)
    (hdistinct : (channelHashes config table).Nodup) (hsame : SameChecksum config)
    (haligned : KeysAligned config table) {index : Nat} (hpos : 1 ≤ index)
    (hle : index ≤ config.meshtasticKeys.items.length) : AgreesAt config table index := by
  obtain ⟨hne, halign⟩ := (keysAligned_iff hsetup).mp haligned
  obtain ⟨primaryKey, otherKeys, hkeys⟩ := List.exists_cons_of_ne_nil hne
  obtain ⟨entry, hentry⟩ := exists_entry hsetup hpos hle
  have hresolve : resolveChannel table config.primaryChannelName index =
      (entryHash entry, some entry.2) := by
    rw [resolveChannel, if_neg (by omega), hentry]
    rfl
  have hkey : table.getAllKeys[index]? = some entry.2 := by
    rw [halign index hpos hle, values_getElem?, hentry]
    rfl
  have hhashes : (computeChannelHash (effectivePrimary config.primaryChannelName) primaryKey ::
      table.keys.items.map entryHash).Nodup := by
    rw [channelHashes, hkeys] at hdistinct
    exact hdistinct
  have hprimary : computeChannelHash config.primaryChannelName primaryKey ≠ entryHash entry := by
    rw [(computeChannelHash_eq_iff ..).mpr hsame]
    exact fun heq => (List.nodup_cons.mp hhashes).1
      (heq ▸ List.mem_map_of_mem (List.mem_of_getElem? hentry))
  refine ⟨?_, ?_, ?_⟩
  · rw [hresolve, lookup_eq_some_iff hsetup hkeys hdistinct]
    exact Or.inr ⟨hpos, hle, entry, hentry, rfl⟩
  · rw [hresolve, hkey]
  · have hfind := findSome?_byHash (List.nodup_cons.mp hhashes).2 hpos hentry
      fun i hi hi' => halign i hi (by omega)
    rw [hresolve, hkey, resolveChannelByHash, hkeys]
    rw [hkeys] at hfind
    simp only [if_neg hprimary, hfind, Option.getD_some]

/-- **Sender and receiver agree on every configured channel** exactly when the primary
    name and its effective form have one checksum and every index has its key at its
    position. -/
theorem agreesAt_all_iff (config : ChannelConfig) (table : KeyTable)
    (hsetup : config.setupChannelKeys = some table)
    (hdistinct : (channelHashes config table).Nodup) :
    (∀ index ≤ config.meshtasticKeys.items.length, AgreesAt config table index) ↔
      SameChecksum config ∧ KeysAligned config table := by
  constructor
  · intro h
    obtain ⟨hne, hsame⟩ := (agreesAt_zero_iff hsetup hdistinct).mp (h 0 (Nat.zero_le _))
    refine ⟨hsame, (keysAligned_iff hsetup).mpr ⟨hne, ?_⟩⟩
    intro i hpos hi
    obtain ⟨entry, hentry⟩ := exists_entry hsetup hpos hi
    rw [← (h i hi).key, values_getElem?, hentry, resolveChannel, if_neg (by omega), hentry]
    rfl
  · rintro ⟨hsame, haligned⟩ index hle
    rcases Nat.eq_zero_or_pos index with rfl | hpos
    · exact (agreesAt_zero_iff hsetup hdistinct).mpr
        ⟨((keysAligned_iff hsetup).mp haligned).1, hsame⟩
    · exact agreesAt_named hsetup hdistinct hsame haligned hpos hle

end

/-! ### Two configurations -/

/-- Two Meshtastic channels and a MeshCore one beside the default primary channel. -/
def hikingConfig : ChannelConfig where
  defaultKeyB64 := "AQ=="
  primaryChannelName := "LongFast"
  meshtasticKeys := OrderedDict.ofList
    [("Hiking", "EBESExQVFhcYGRobHB0eHw=="), ("Base", "AQIDBAUGBwgJCgsMDQ4PEA==")]
  meshcoreKeys := OrderedDict.ofList [("Public", "8b3387e9c5cdea6ac9e5edbaa115cd72")]

def hikingTable : KeyTable := hikingConfig.setupChannelKeys.get (by decide +kernel)

/-- All three indices of that configuration agree. -/
theorem agreesAt_all_iff_hiking : AgreesAt hikingConfig hikingTable 0 ∧
    AgreesAt hikingConfig hikingTable 1 ∧ AgreesAt hikingConfig hikingTable 2 := by
  have hall := (agreesAt_all_iff hikingConfig hikingTable (Option.some_get _).symm
    (by decide +kernel)).mpr ⟨by decide +kernel, Or.inl (by decide)⟩
  exact ⟨hall 0 (by decide), hall 1 (by decide), hall 2 (by decide)⟩

def blankPrimaryConfig : ChannelConfig := ⟨"AQ==", "", .empty, .empty⟩

/-- The sender hashes the blank name, the hash map LongFast: the primary channel's own
    hash is unknown to the map. -/
theorem blank_primary_disagrees :
    ∃ table, blankPrimaryConfig.setupChannelKeys = some table ∧
      (channelHashes blankPrimaryConfig table).Nodup ∧
      ¬ AgreesAt blankPrimaryConfig table 0 := by
  refine ⟨blankPrimaryConfig.setupChannelKeys.get (by decide +kernel), (Option.some_get _).symm,
    by decide +kernel, ?_⟩
  intro h
  exact absurd h.hash (by decide +kernel)

end Meshpoint.ChannelAgreement
