import Meshpoint.ChannelKeys
import Meshpoint.PacketModel

/-!
# Channel names for MQTT

Model of `src/relay/channel_resolver.py`: the table from channel hashes to
channel names, seeded with the standard presets under the default key and
extended by the configured channel keys, and its lookup.

`resolve_eq` says which name a hash byte stands for without the table: 0 is
always LongFast, otherwise the last preset or configured channel whose name and
key xor to the byte, otherwise `ch<byte>`.
-/

namespace Meshpoint.ChannelResolver

open ByteCodec ChannelKeys

def STANDARD_PRESETS : List String :=
  ["LongFast", "LongSlow", "LongModerate", "MediumFast", "MediumSlow", "ShortFast", "ShortSlow",
    "ShortTurbo"]

/-- `_xor_hash`, the same computation as `compute_channel_hash`. -/
def xorHash (channelName : String) (expandedKey : AesKey) : Nat :=
  (computeChannelHash channelName expandedKey).toNat

/-- `_build_default_presets`. -/
def buildDefaultPresets (defaultKey : AesKey) : OrderedDict Nat String :=
  OrderedDict.empty.update (STANDARD_PRESETS.map fun name => (xorHash name defaultKey, name))

/-- The channels whose key decodes, with their expanded keys. -/
def decodedChannels (channelKeys : List (String × String)) : List (String × AesKey) :=
  channelKeys.filterMap fun entry =>
    (b64decode entry.2).map fun raw => (entry.1, expandKey raw)

/-- `_build_user_channels`: a key that does not decode is skipped. -/
def buildUserChannels (table : OrderedDict Nat String) (channelKeys : List (String × String)) :
    OrderedDict Nat String :=
  channelKeys.foldl (fun acc entry =>
    match b64decode entry.2 with
    | some raw => acc.set (xorHash entry.1 (expandKey raw)) entry.1
    | none => acc) table

/-- The default key of the resolver is the well-known key 1. -/
def defaultKey : AesKey := expandKey ((b64decode MESHTASTIC_DEFAULT_KEY_B64).getD [])

/-- `ChannelResolver(channel_keys)`: the table `_hash_to_name`. -/
def create (channelKeys : List (String × String)) : OrderedDict Nat String :=
  buildUserChannels (buildDefaultPresets defaultKey) channelKeys

/-- `resolve`. -/
def resolve (hashToName : OrderedDict Nat String) (channelHash : Nat) (protocol : Protocol) :
    String :=
  if protocol = .meshcore then "MeshCore"
  else if channelHash = 0 then "LongFast"
  else (hashToName.get? channelHash).getD ("ch" ++ toString channelHash)

/-! ### The name of a hash byte -/

/-- The channels the resolver knows, in the order it registers them. -/
def knownChannels (channelKeys : List (String × String)) : List (String × AesKey) :=
  STANDARD_PRESETS.map (fun name => (name, defaultKey)) ++ decodedChannels channelKeys

def nameOfHash (channelKeys : List (String × String)) (channelHash : Nat) : String :=
  if channelHash = 0 then "LongFast"
  else
    match (knownChannels channelKeys).reverse.find? fun ch =>
        decide (xorHash ch.1 ch.2 = channelHash) with
    | some ch => ch.1
    | none => "ch" ++ toString channelHash

theorem buildUserChannels_eq (table : OrderedDict Nat String)
    (channelKeys : List (String × String)) : buildUserChannels table channelKeys =
      table.update ((decodedChannels channelKeys).map fun ch => (xorHash ch.1 ch.2, ch.1)) := by
  induction channelKeys generalizing table with
  | nil => rfl
  | cons entry rest ih =>
    cases hkey : b64decode entry.2 with
    | none =>
      have hdec : decodedChannels (entry :: rest) = decodedChannels rest := by
        simp [decodedChannels, hkey]
      rw [hdec, ← ih]
      simp [buildUserChannels, hkey]
    | some raw =>
      have hdec : decodedChannels (entry :: rest) =
          (entry.1, expandKey raw) :: decodedChannels rest := by
        simp [decodedChannels, hkey]
      rw [hdec, List.map_cons, OrderedDict.update_cons, ← ih]
      simp [buildUserChannels, hkey]

theorem create_eq (channelKeys : List (String × String)) : create channelKeys =
    OrderedDict.empty.update
      ((knownChannels channelKeys).map fun ch => (xorHash ch.1 ch.2, ch.1)) := by
  rw [create, buildUserChannels_eq, buildDefaultPresets, ← OrderedDict.update_append,
    knownChannels, List.map_append]
  simp only [List.map_map]
  rfl

/-- **The resolver's answer for a Meshtastic hash byte.** -/
theorem resolve_eq (channelKeys : List (String × String)) (channelHash : Nat) :
    resolve (create channelKeys) channelHash .meshtastic = nameOfHash channelKeys channelHash := by
  unfold resolve nameOfHash
  rw [if_neg (by decide)]
  split
  · rfl
  · rw [create_eq, OrderedDict.get?_update, ← List.map_reverse, List.find?_map]
    simp only [Function.comp_def, OrderedDict.get?_empty, Option.or_none, Option.map_map]
    cases (knownChannels channelKeys).reverse.find? fun ch =>
        decide (xorHash ch.1 ch.2 = channelHash) <;> rfl

end Meshpoint.ChannelResolver
