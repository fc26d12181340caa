import Meshpoint.ChannelConfig
import Meshpoint.PyText

/-!
# From channel hashes to channel indices

Model of `ChannelHashResolver` (`src/api/channel_hash_resolver.py`): the map from
the hash byte of a received packet to the index of a conversation, 0 for the
primary channel and 1, 2, ... for the configured Meshtastic channels.
-/

namespace Meshpoint.ChannelHashResolver

open ByteCodec ChannelKeys PyText

/-- `(primary_channel_name or "LongFast").strip() or "LongFast"`. -/
def effectivePrimary (primaryChannelName : String) : String :=
  let name := strip (if primaryChannelName = "" then "LongFast" else primaryChannelName)
  if name = "" then "LongFast" else name

/-- `rebuild`: the map `_hash_to_index`. -/
def rebuild (table : KeyTable) (primaryChannelName : String) (channelNames : List String) :
    OrderedDict UInt8 Nat :=
  match table.getAllKeys with
  | [] => .empty
  | primaryKey :: _ =>
    (channelNames.zipIdx 1).foldl (fun acc entry =>
      match table.keys.get? entry.1 with
      | none => acc
      | some key => acc.set (computeChannelHash entry.1 key) entry.2)
      (OrderedDict.empty.set
        (computeChannelHash (effectivePrimary primaryChannelName) primaryKey) 0)

/-- `lookup`. -/
def lookup (hashToIndex : OrderedDict UInt8 Nat) (channelHash : UInt8) : Option Nat :=
  hashToIndex.get? channelHash

def entryHash (entry : String × AesKey) : UInt8 := computeChannelHash entry.1 entry.2

theorem foldl_names_eq_update {table : KeyTable} {entries : List (String × AesKey)}
    (h : ∀ entry ∈ entries, entry ∈ table.keys.items) (start : Nat) (acc : OrderedDict UInt8 Nat) :
    ((entries.map Prod.fst).zipIdx start).foldl (fun acc entry =>
      match table.keys.get? entry.1 with
      | none => acc
      | some key => acc.set (computeChannelHash entry.1 key) entry.2) acc =
    acc.update ((entries.zipIdx start).map fun p => (entryHash p.1, p.2)) := by
  induction entries generalizing start acc with
  | nil => rfl
  | cons entry rest ih =>
    have hget : table.keys.get? entry.1 = some entry.2 :=
      table.keys.get?_eq_some_iff.mpr (h entry (List.mem_cons_self ..))
    simp only [List.map_cons, List.zipIdx_cons, List.foldl_cons, hget, OrderedDict.update_cons]
    exact ih (fun e he => h e (List.mem_cons_of_mem _ he)) (start + 1) _

/-- With distinct hashes the map holds exactly the primary channel and the named ones,
    each at its index. -/
theorem lookup_rebuild_eq_some_iff {table : KeyTable} {primaryChannelName : String}
    {entries : List (String × AesKey)} {primaryKey : AesKey} {otherKeys : List AesKey}
    (hkeys : table.getAllKeys = primaryKey :: otherKeys)
    (hentries : ∀ entry ∈ entries, entry ∈ table.keys.items)
    (hdistinct : (computeChannelHash (effectivePrimary primaryChannelName) primaryKey ::
      entries.map entryHash).Nodup) (channelHash : UInt8) (index : Nat) :
    lookup (rebuild table primaryChannelName (entries.map Prod.fst)) channelHash = some index ↔
      (index = 0 ∧
        channelHash = computeChannelHash (effectivePrimary primaryChannelName) primaryKey) ∨
      (1 ≤ index ∧ ∃ entry, entries[index - 1]? = some entry ∧ channelHash = entryHash entry) := by
  have hhashes : ((entries.zipIdx 1).map fun p => (entryHash p.1, p.2)).map Prod.fst =
      entries.map entryHash := by
    rw [List.map_map]
    calc (entries.zipIdx 1).map (Prod.fst ∘ fun p => (entryHash p.1, p.2))
        = ((entries.zipIdx 1).map Prod.fst).map entryHash := by rw [List.map_map]; rfl
      _ = entries.map entryHash := by rw [List.zipIdx_map_fst]
  have hitems : (rebuild table primaryChannelName (entries.map Prod.fst)).items =
      (computeChannelHash (effectivePrimary primaryChannelName) primaryKey, 0) ::
        (entries.zipIdx 1).map fun p => (entryHash p.1, p.2) := by
    unfold rebuild
    rw [hkeys]
    simp only
    rw [foldl_names_eq_update hentries, OrderedDict.items_update_of_nodup]
    · rfl
    · rw [hhashes]
      exact hdistinct
  rw [lookup, OrderedDict.get?_eq_some_iff, hitems, List.mem_cons]
  constructor
  · rintro (h | h)
    · exact Or.inl ⟨(Prod.mk.inj h).2, (Prod.mk.inj h).1⟩
    · obtain ⟨⟨entry, i⟩, hmem, hpair⟩ := List.mem_map.mp h
      obtain ⟨hhash, hi⟩ := Prod.mk.inj hpair
      obtain ⟨hle, hget⟩ := List.mk_mem_zipIdx_iff_le_and_getElem?_sub.mp hmem
      subst hi
      exact Or.inr ⟨hle, entry, hget, hhash.symm⟩
  · rintro (⟨rfl, rfl⟩ | ⟨hle, entry, hget, rfl⟩)
    · exact Or.inl rfl
    · refine Or.inr (List.mem_map.mpr ⟨(entry, index), ?_, rfl⟩)
      exact List.mk_mem_zipIdx_iff_le_and_getElem?_sub.mpr ⟨hle, hget⟩

end Meshpoint.ChannelHashResolver
