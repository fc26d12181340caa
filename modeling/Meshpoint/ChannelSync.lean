import Meshpoint.ByteCodec
import Mathlib.Data.List.Range
import Mathlib.Data.List.Nodup

/-!
# Channel sync to the MeshCore companion

`sync_channels` reads the slots of the companion, writes the configured channels to the
slots from 1 on, each one only where the device has something else, and clears the named
slots behind them. The companion is a parameter: which commands fail, and what it gives
back for a slot that was written.
-/

namespace Meshpoint.ChannelSync

open ByteCodec

/-! ### The companion -/

structure Slot where
  name : String
  secret : Bytes
deriving DecidableEq, Repr

def MESHCORE_MAX_DEVICE_SLOTS : Nat := 41

def MESHCORE_MAX_USER_CHANNELS : Nat := MESHCORE_MAX_DEVICE_SLOTS - 1

def clearedSlot : Slot := ⟨"", List.replicate 16 0⟩

/-- The connection to a companion. `store` is what a written slot reads back as: the
    firmware has the last word on names, but an empty slot stays empty. -/
structure Link where
  connected : Bool
  readFails : Nat → Bool
  writeFails : Nat → Bool
  store : Slot → Slot
  store_cleared : store clearedSlot = clearedSlot

def Link.AllSucceed (link : Link) : Prop :=
  link.connected = true ∧ (∀ i, link.readFails i = false) ∧ ∀ i, link.writeFails i = false

/-- The slots of the device, and the `set_channel` commands sent so far. -/
structure Session where
  device : List Slot
  writes : List (Nat × Slot)

def Link.applyWrite (link : Link) (device : List Slot) (write : Nat × Slot) : List Slot :=
  if link.writeFails write.1 then device else device.set write.1 (link.store write.2)

def setChannel (link : Link) (idx : Nat) (slot : Slot) (s : Session) : Session :=
  ⟨link.applyWrite s.device (idx, slot), s.writes ++ [(idx, slot)]⟩

/-! ### The three loops -/

/-- The probe stops at the first slot that cannot be read or that the device lacks. -/
def probe (link : Link) (device : List Slot) : List Nat → List Slot
  | [] => []
  | i :: rest =>
    if link.readFails i then []
    else match device[i]? with
      | none => []
      | some slot => slot :: probe link device rest

/-- The slot a configured channel asks for; entries without a 16-byte key are skipped. -/
def wanted (channel : String × String) : Option Slot :=
  match fromHexChars channel.2.toList with
  | none => none
  | some secret => if secret.length = 16 then some ⟨channel.1, secret⟩ else none

def writeChannel (link : Link) (deviceSlots : List Slot) (slot : Nat)
    (channel : String × String) (s : Session) : Session :=
  match wanted channel with
  | none => s
  | some want =>
    if deviceSlots.getD slot ⟨"", []⟩ = want then s else setChannel link slot want s

def writeChannels (link : Link) (deviceSlots : List Slot) :
    Nat → List (String × String) → Session → Session
  | _, [], s => s
  | slot, channel :: rest, s =>
    writeChannels link deviceSlots (slot + 1) rest
      (writeChannel link deviceSlots slot channel s)

def clearSlots (link : Link) (deviceSlots : List Slot) : List Nat → Session → Session
  | [], s => s
  | idx :: rest, s =>
    match deviceSlots[idx]? with
    | none => s
    | some dev =>
      clearSlots link deviceSlots rest
        (if dev.name = "" then s else setChannel link idx clearedSlot s)

def syncChannels (link : Link) (channelKeys : List (String × String)) (device : List Slot) :
    Session :=
  if link.connected = false then ⟨device, []⟩
  else
    let deviceSlots := probe link device (List.range MESHCORE_MAX_DEVICE_SLOTS)
    let desired := channelKeys.take MESHCORE_MAX_USER_CHANNELS
    let firstClear := 1 + desired.length
    clearSlots link deviceSlots
      (List.range' firstClear (MESHCORE_MAX_DEVICE_SLOTS - firstClear))
      (writeChannels link deviceSlots 1 desired ⟨device, []⟩)

/-! ### The commands decide the device -/

/-- The device is the initial one with the session's commands applied in order. -/
def Session.Follows (link : Link) (device : List Slot) (s : Session) : Prop :=
  s.device = s.writes.foldl link.applyWrite device

variable {link : Link} {device deviceSlots : List Slot} {s : Session}

theorem follows_setChannel (h : s.Follows link device) (idx : Nat) (slot : Slot) :
    (setChannel link idx slot s).Follows link device := by
  simp only [Session.Follows, setChannel, List.foldl_append, List.foldl_cons, List.foldl_nil]
  rw [← h]

theorem follows_writeChannel (h : s.Follows link device) (slot : Nat)
    (channel : String × String) :
    (writeChannel link deviceSlots slot channel s).Follows link device := by
  simp only [writeChannel]
  split
  · exact h
  · split
    · exact h
    · exact follows_setChannel h _ _

theorem follows_writeChannels (channels : List (String × String)) :
    ∀ (slot : Nat) {s : Session}, s.Follows link device →
      (writeChannels link deviceSlots slot channels s).Follows link device := by
  induction channels with
  | nil => intro _ _ h; exact h
  | cons channel rest ih =>
    intro slot s h
    exact ih (slot + 1) (follows_writeChannel h slot channel)

theorem follows_clearSlots (idxs : List Nat) : ∀ {s : Session}, s.Follows link device →
    (clearSlots link deviceSlots idxs s).Follows link device := by
  induction idxs with
  | nil => intro _ h; exact h
  | cons idx rest ih =>
    intro s h
    simp only [clearSlots]
    split
    · exact h
    · apply ih
      split
      · exact h
      · exact follows_setChannel h _ _

theorem follows_syncChannels (link : Link) (channelKeys : List (String × String))
    (device : List Slot) : (syncChannels link channelKeys device).Follows link device := by
  simp only [syncChannels]
  split
  · exact rfl
  · exact follows_clearSlots _ (follows_writeChannels _ _ rfl)

/-! ### Applying commands to slots -/

theorem length_applyWrite (device : List Slot) (write : Nat × Slot) :
    (link.applyWrite device write).length = device.length := by
  simp only [Link.applyWrite]
  split
  · rfl
  · exact List.length_set

theorem getElem?_applyWrite_ne (device : List Slot) {write : Nat × Slot} {i : Nat}
    (h : write.1 ≠ i) : (link.applyWrite device write)[i]? = device[i]? := by
  simp only [Link.applyWrite]
  split
  · rfl
  · exact List.getElem?_set_ne h

theorem length_foldl_applyWrite (writes : List (Nat × Slot)) (device : List Slot) :
    (writes.foldl link.applyWrite device).length = device.length := by
  induction writes generalizing device with
  | nil => rfl
  | cons write rest ih => rw [List.foldl_cons, ih, length_applyWrite]

theorem getElem?_foldl_applyWrite_of_notMem {writes : List (Nat × Slot)} {i : Nat}
    (h : ∀ write ∈ writes, write.1 ≠ i) (device : List Slot) :
    (writes.foldl link.applyWrite device)[i]? = device[i]? := by
  induction writes generalizing device with
  | nil => rfl
  | cons write rest ih =>
    rw [List.foldl_cons, ih fun w hw => h w (List.mem_cons_of_mem _ hw)]
    exact getElem?_applyWrite_ne device (h write List.mem_cons_self)

theorem getElem?_foldl_applyWrite_of_mem {writes : List (Nat × Slot)} {i : Nat} {slot : Slot}
    (hfails : link.writeFails i = false)
    (hdistinct : writes.Pairwise fun a b => a.1 < b.1) (hmem : (i, slot) ∈ writes)
    (device : List Slot) :
    (writes.foldl link.applyWrite device)[i]? = device[i]?.map fun _ => link.store slot := by
  induction writes generalizing device with
  | nil => exact absurd hmem List.not_mem_nil
  | cons write rest ih =>
    obtain ⟨hlt, hrest⟩ := List.pairwise_cons.mp hdistinct
    rw [List.foldl_cons]
    rcases List.mem_cons.mp hmem with rfl | hmem
    · rw [getElem?_foldl_applyWrite_of_notMem fun w hw => (hlt w hw).ne']
      simp only [Link.applyWrite, hfails, Bool.false_eq_true, if_false, List.getElem?_set_self']
      rfl
    · rw [ih hrest hmem, getElem?_applyWrite_ne device (hlt _ hmem).ne]

/-! ### Which commands are sent -/

/-- The command for a configured channel, given what the probe read. -/
def pendingWrite (deviceSlots : List Slot) (entry : (String × String) × Nat) :
    Option (Nat × Slot) :=
  (wanted entry.1).bind fun want =>
    if deviceSlots.getD entry.2 ⟨"", []⟩ = want then none else some (entry.2, want)

def pendingClear (deviceSlots : List Slot) (idx : Nat) : Option (Nat × Slot) :=
  deviceSlots[idx]?.bind fun dev => if dev.name = "" then none else some (idx, clearedSlot)

theorem writes_writeChannel (slot : Nat) (channel : String × String) (s : Session) :
    (writeChannel link deviceSlots slot channel s).writes =
      s.writes ++ (pendingWrite deviceSlots (channel, slot)).toList := by
  simp only [writeChannel, pendingWrite]
  cases wanted channel with
  | none => simp
  | some want =>
    simp only [Option.bind_some]
    split
    · simp
    · rfl

theorem writes_writeChannels (channels : List (String × String)) :
    ∀ (slot : Nat) (s : Session),
      (writeChannels link deviceSlots slot channels s).writes =
        s.writes ++ (channels.zipIdx slot).filterMap (pendingWrite deviceSlots) := by
  induction channels with
  | nil => intro _ s; simp [writeChannels]
  | cons channel rest ih =>
    intro slot s
    rw [writeChannels, ih, writes_writeChannel, List.zipIdx_cons, List.filterMap_cons]
    cases pendingWrite deviceSlots (channel, slot) <;> simp

theorem writes_clearSlots (n : Nat) : ∀ (first : Nat) (s : Session),
    (clearSlots link deviceSlots (List.range' first n) s).writes =
      s.writes ++ (List.range' first n).filterMap (pendingClear deviceSlots) := by
  induction n with
  | zero => intro _ s; simp [clearSlots]
  | succ n ih =>
    intro first s
    rw [List.range'_succ, clearSlots, List.filterMap_cons]
    cases hdev : deviceSlots[first]? with
    | none =>
      have hnone : (List.range' (first + 1) n).filterMap (pendingClear deviceSlots) = [] := by
        apply List.filterMap_eq_nil_iff.mpr
        intro idx hidx
        have hlen := List.getElem?_eq_none_iff.mp hdev
        have hle := (List.mem_range'_1.mp hidx).1
        simp only [pendingClear, Option.bind_eq_none_iff]
        intro dev hdev'
        have := (List.getElem?_eq_some_iff.mp hdev').1
        omega
      simp [pendingClear, hdev, hnone]
    | some dev =>
      simp only [pendingClear, hdev, Option.bind_some]
      by_cases hname : dev.name = ""
      · simp only [hname, if_true]
        exact ih (first + 1) s
      · simp only [hname, if_false]
        rw [ih]
        simp only [setChannel, List.append_assoc]
        rfl

theorem probe_range' (h : ∀ i, link.readFails i = false) (device : List Slot) (n : Nat) :
    ∀ first : Nat, probe link device (List.range' first n) = (device.drop first).take n := by
  induction n with
  | zero => intro _; simp [probe]
  | succ n ih =>
    intro first
    rw [List.range'_succ, probe, h first, if_neg Bool.false_ne_true]
    cases hdev : device[first]? with
    | none =>
      rw [List.drop_of_length_le (List.getElem?_eq_none_iff.mp hdev)]
      simp
    | some slot =>
      obtain ⟨hlt, hslot⟩ := List.getElem?_eq_some_iff.mp hdev
      rw [List.drop_eq_getElem_cons hlt, hslot, List.take_succ_cons]
      simp only [ih]

theorem probe_eq_take (h : ∀ i, link.readFails i = false) (device : List Slot) :
    probe link device (List.range MESHCORE_MAX_DEVICE_SLOTS) =
      device.take MESHCORE_MAX_DEVICE_SLOTS := by
  rw [List.range_eq_range', probe_range' h, List.drop_zero]

theorem fst_of_pendingWrite {entry : (String × String) × Nat} {write : Nat × Slot}
    (h : pendingWrite deviceSlots entry = some write) : write.1 = entry.2 := by
  obtain ⟨want, -, h⟩ := Option.bind_eq_some_iff.mp h
  split at h
  · cases h
  · cases h
    rfl

theorem fst_of_pendingClear {idx : Nat} {write : Nat × Slot}
    (h : pendingClear deviceSlots idx = some write) : write.1 = idx := by
  obtain ⟨dev, -, h⟩ := Option.bind_eq_some_iff.mp h
  split at h
  · cases h
  · cases h
    rfl

/-! ### One run of the sync -/

/-- The configured channels that are written at all. -/
def userChannels (channelKeys : List (String × String)) : List (String × String) :=
  channelKeys.take MESHCORE_MAX_USER_CHANNELS

/-- The commands of a run over the slots the probe read. -/
def commands (deviceSlots : List Slot) (desired : List (String × String)) :
    List (Nat × Slot) :=
  (desired.zipIdx 1).filterMap (pendingWrite deviceSlots) ++
    (List.range' (1 + desired.length) (MESHCORE_MAX_DEVICE_SLOTS - (1 + desired.length))).filterMap
      (pendingClear deviceSlots)

theorem mem_commands {desired : List (String × String)} {write : Nat × Slot} :
    write ∈ commands deviceSlots desired ↔
      (∃ i channel, desired[i]? = some channel ∧
        pendingWrite deviceSlots (channel, i + 1) = some write) ∨
      ∃ i, desired.length < i ∧ i < MESHCORE_MAX_DEVICE_SLOTS ∧
        pendingClear deviceSlots i = some write := by
  rw [commands, List.mem_append, List.mem_filterMap, List.mem_filterMap]
  apply or_congr
  · constructor
    · rintro ⟨⟨channel, k⟩, hmem, hwrite⟩
      obtain ⟨hle, hget⟩ := List.mk_mem_zipIdx_iff_le_and_getElem?_sub.mp hmem
      refine ⟨k - 1, channel, hget, ?_⟩
      rwa [Nat.sub_add_cancel hle]
    · rintro ⟨i, channel, hget, hwrite⟩
      refine ⟨(channel, i + 1), ?_, hwrite⟩
      exact List.mk_mem_zipIdx_iff_le_and_getElem?_sub.mpr ⟨by omega, by simpa using hget⟩
  · constructor
    · rintro ⟨i, hmem, hwrite⟩
      have := List.mem_range'_1.mp hmem
      exact ⟨i, by omega, by omega, hwrite⟩
    · rintro ⟨i, hlt, hmax, hwrite⟩
      exact ⟨i, List.mem_range'_1.mpr (by omega), hwrite⟩

theorem fst_pos_of_mem_commands {desired : List (String × String)} {write : Nat × Slot}
    (h : write ∈ commands deviceSlots desired) : 0 < write.1 := by
  rcases mem_commands.mp h with ⟨i, channel, -, hwrite⟩ | ⟨i, hlt, -, hwrite⟩
  · rw [fst_of_pendingWrite hwrite]
    exact Nat.succ_pos i
  · rw [fst_of_pendingClear hwrite]
    omega

theorem pairwise_commands (deviceSlots : List Slot) (desired : List (String × String)) :
    (commands deviceSlots desired).Pairwise fun a b => a.1 < b.1 := by
  rw [commands, List.pairwise_append, List.pairwise_filterMap, List.pairwise_filterMap]
  refine ⟨?_, ?_, ?_⟩
  · have hidx : ((desired.zipIdx 1).map Prod.snd).Pairwise (· < ·) := by
      rw [List.zipIdx_map_snd]
      exact List.pairwise_lt_range'
    refine (List.pairwise_map.mp hidx).imp ?_
    intro a b hlt w hw w' hw'
    rwa [fst_of_pendingWrite hw, fst_of_pendingWrite hw']
  · have hidx := @List.pairwise_lt_range' (1 + desired.length)
      (MESHCORE_MAX_DEVICE_SLOTS - (1 + desired.length)) 1 Nat.one_pos
    refine hidx.imp ?_
    intro a b hlt w hw w' hw'
    rwa [fst_of_pendingClear hw, fst_of_pendingClear hw']
  · intro w hw w' hw'
    obtain ⟨⟨channel, k⟩, hmem, hw⟩ := List.mem_filterMap.mp hw
    obtain ⟨i, hmem', hw'⟩ := List.mem_filterMap.mp hw'
    have hlt := List.snd_lt_add_of_mem_zipIdx hmem
    have hle := (List.mem_range'_1.mp hmem').1
    rw [fst_of_pendingWrite hw, fst_of_pendingClear hw']
    omega

section Run

variable (channelKeys : List (String × String)) (device : List Slot)

theorem writes_syncChannels (hconn : link.connected = true) :
    (syncChannels link channelKeys device).writes =
      commands (probe link device (List.range MESHCORE_MAX_DEVICE_SLOTS))
        (userChannels channelKeys) := by
  simp only [syncChannels, hconn, Bool.true_eq_false, if_false]
  rw [writes_clearSlots, writes_writeChannels, List.nil_append]
  rfl

theorem pairwise_writes (link : Link) :
    (syncChannels link channelKeys device).writes.Pairwise fun a b => a.1 < b.1 := by
  by_cases hconn : link.connected = true
  · rw [writes_syncChannels channelKeys device hconn]
    exact pairwise_commands _ _
  · simp [syncChannels, hconn]

theorem length_syncChannels (link : Link) :
    (syncChannels link channelKeys device).device.length = device.length := by
  rw [follows_syncChannels link channelKeys device, length_foldl_applyWrite]

theorem getElem?_zero_syncChannels (link : Link) :
    (syncChannels link channelKeys device).device[0]? = device[0]? := by
  by_cases hconn : link.connected = true
  · rw [follows_syncChannels link channelKeys device]
    apply getElem?_foldl_applyWrite_of_notMem
    rw [writes_syncChannels channelKeys device hconn]
    intro write hmem
    exact (fst_pos_of_mem_commands hmem).ne'
  · simp [syncChannels, hconn]

end Run

/-! ### What the sync leaves behind -/

section Spec

variable {channelKeys : List (String × String)} {device : List Slot}

theorem pendingWrite_eq_some_iff {k : Nat} (hmax : k < MESHCORE_MAX_DEVICE_SLOTS)
    (hlen : k < device.length) {channel : String × String} {write : Nat × Slot} :
    pendingWrite (device.take MESHCORE_MAX_DEVICE_SLOTS) (channel, k) = some write ↔
      ∃ want, wanted channel = some want ∧ device[k]? ≠ some want ∧ write = (k, want) := by
  have hget : ∀ want, (device.take MESHCORE_MAX_DEVICE_SLOTS).getD k ⟨"", []⟩ = want ↔
      device[k]? = some want := by
    intro want
    rw [List.getD_eq_getElem?_getD, List.getElem?_take_of_lt hmax,
      List.getElem?_eq_getElem hlen]
    simp
  rw [pendingWrite, Option.bind_eq_some_iff]
  apply exists_congr
  intro want
  simp only [hget, Option.ite_none_left_eq_some, Option.some.injEq]
  rw [eq_comm (a := (k, want))]

theorem pendingClear_eq_some_iff {k : Nat} (hmax : k < MESHCORE_MAX_DEVICE_SLOTS)
    {write : Nat × Slot} :
    pendingClear (device.take MESHCORE_MAX_DEVICE_SLOTS) k = some write ↔
      ∃ dev, device[k]? = some dev ∧ dev.name ≠ "" ∧ write = (k, clearedSlot) := by
  rw [pendingClear, List.getElem?_take_of_lt hmax, Option.bind_eq_some_iff]
  apply exists_congr
  intro dev
  rw [Option.ite_none_left_eq_some, Option.some.injEq, eq_comm (a := (k, clearedSlot))]

theorem mem_writes_syncChannels (h : link.AllSucceed)
    (hfit : min MESHCORE_MAX_USER_CHANNELS channelKeys.length < device.length)
    {write : Nat × Slot} :
    write ∈ (syncChannels link channelKeys device).writes ↔
      (∃ i channel want, (userChannels channelKeys)[i]? = some channel ∧
        wanted channel = some want ∧ device[i + 1]? ≠ some want ∧ write = (i + 1, want)) ∨
      ∃ i dev, (userChannels channelKeys).length < i ∧ i < MESHCORE_MAX_DEVICE_SLOTS ∧
        device[i]? = some dev ∧ dev.name ≠ "" ∧ write = (i, clearedSlot) := by
  have hlen : (userChannels channelKeys).length =
      min MESHCORE_MAX_USER_CHANNELS channelKeys.length := List.length_take
  rw [writes_syncChannels channelKeys device h.1, probe_eq_take h.2.1, mem_commands]
  apply or_congr
  · apply exists_congr
    intro i
    apply exists_congr
    intro channel
    constructor
    · rintro ⟨hget, hwrite⟩
      have hi := (List.getElem?_eq_some_iff.mp hget).1
      have hmax : i + 1 < MESHCORE_MAX_DEVICE_SLOTS := by
        rw [hlen, MESHCORE_MAX_USER_CHANNELS] at hi
        omega
      obtain ⟨want, hwant⟩ := (pendingWrite_eq_some_iff hmax (by omega)).mp hwrite
      exact ⟨want, hget, hwant⟩
    · rintro ⟨want, hget, hwant⟩
      have hi := (List.getElem?_eq_some_iff.mp hget).1
      have hmax : i + 1 < MESHCORE_MAX_DEVICE_SLOTS := by
        rw [hlen, MESHCORE_MAX_USER_CHANNELS] at hi
        omega
      exact ⟨hget, (pendingWrite_eq_some_iff hmax (by omega)).mpr ⟨want, hwant⟩⟩
  · apply exists_congr
    intro i
    constructor
    · rintro ⟨hlt, hmax, hwrite⟩
      obtain ⟨dev, hdev⟩ := (pendingClear_eq_some_iff hmax).mp hwrite
      exact ⟨dev, hlt, hmax, hdev⟩
    · rintro ⟨dev, hlt, hmax, hdev⟩
      exact ⟨hlt, hmax, (pendingClear_eq_some_iff hmax).mpr ⟨dev, hdev⟩⟩

theorem getElem?_syncChannels_channel (h : link.AllSucceed)
    (hfit : min MESHCORE_MAX_USER_CHANNELS channelKeys.length < device.length) {i : Nat}
    {channel : String × String} {want : Slot}
    (hget : (userChannels channelKeys)[i]? = some channel) (hwant : wanted channel = some want) :
    (syncChannels link channelKeys device).device[i + 1]? =
      some (if device[i + 1]? = some want then want else link.store want) := by
  have hmem := fun write => @mem_writes_syncChannels link channelKeys device h hfit write
  have hi : i < (userChannels channelKeys).length := (List.getElem?_eq_some_iff.mp hget).1
  rw [follows_syncChannels link channelKeys device]
  by_cases hold : device[i + 1]? = some want
  · rw [getElem?_foldl_applyWrite_of_notMem, if_pos hold, hold]
    intro write hwrite hidx
    rcases (hmem write).mp hwrite with ⟨j, channel', want', hget', hwant', hne, rfl⟩ |
      ⟨j, dev, hlt, -, -, -, rfl⟩
    · cases hidx
      rw [hget] at hget'
      cases hget'
      rw [hwant] at hwant'
      cases hwant'
      exact hne hold
    · dsimp only at hidx
      omega
  · have hwrite := (hmem (i + 1, want)).mpr (.inl ⟨i, channel, want, hget, hwant, hold, rfl⟩)
    have hlen : i + 1 < device.length := by
      rw [userChannels, List.length_take] at hi
      omega
    rw [getElem?_foldl_applyWrite_of_mem (h.2.2 _) (pairwise_writes channelKeys device link) hwrite,
      if_neg hold, List.getElem?_eq_getElem hlen]
    rfl

theorem getElem?_syncChannels_skipped (h : link.AllSucceed)
    (hfit : min MESHCORE_MAX_USER_CHANNELS channelKeys.length < device.length) {i : Nat}
    {channel : String × String} (hget : (userChannels channelKeys)[i]? = some channel)
    (hskip : wanted channel = none) :
    (syncChannels link channelKeys device).device[i + 1]? = device[i + 1]? := by
  have hi : i < (userChannels channelKeys).length := (List.getElem?_eq_some_iff.mp hget).1
  rw [follows_syncChannels link channelKeys device]
  apply getElem?_foldl_applyWrite_of_notMem
  intro write hwrite hidx
  rcases (mem_writes_syncChannels h hfit).mp hwrite with ⟨j, channel', want, hget', hwant, -, rfl⟩ |
    ⟨j, dev, hlt, -, -, -, rfl⟩
  · cases hidx
    rw [hget] at hget'
    cases hget'
    rw [hskip] at hwant
    cases hwant
  · dsimp only at hidx
    omega

theorem getElem?_syncChannels_extra (h : link.AllSucceed)
    (hfit : min MESHCORE_MAX_USER_CHANNELS channelKeys.length < device.length) {i : Nat}
    {slot : Slot} (hi : (userChannels channelKeys).length < i) (hslot : device[i]? = some slot) :
    (syncChannels link channelKeys device).device[i]? =
      some (if i < MESHCORE_MAX_DEVICE_SLOTS ∧ slot.name ≠ "" then clearedSlot else slot) := by
  have hmem := fun write => @mem_writes_syncChannels link channelKeys device h hfit write
  rw [follows_syncChannels link channelKeys device]
  by_cases hclear : i < MESHCORE_MAX_DEVICE_SLOTS ∧ slot.name ≠ ""
  · have hwrite := (hmem (i, clearedSlot)).mpr
      (.inr ⟨i, slot, hi, hclear.1, hslot, hclear.2, rfl⟩)
    rw [getElem?_foldl_applyWrite_of_mem (h.2.2 _) (pairwise_writes channelKeys device link) hwrite,
      if_pos hclear, hslot, link.store_cleared]
    rfl
  · rw [getElem?_foldl_applyWrite_of_notMem, if_neg hclear, hslot]
    intro write hwrite hidx
    rcases (hmem write).mp hwrite with ⟨j, channel, want, hget, -, -, rfl⟩ |
      ⟨j, dev, -, hmax, hdev, hname, rfl⟩
    · have := (List.getElem?_eq_some_iff.mp hget).1
      dsimp only at hidx
      omega
    · cases hidx
      rw [hslot] at hdev
      cases hdev
      exact hclear ⟨hmax, hname⟩

/-- A second run writes the channels again that the device does not give back as written,
    and nothing else. -/
theorem mem_writes_syncChannels_again (h : link.AllSucceed)
    (hfit : min MESHCORE_MAX_USER_CHANNELS channelKeys.length < device.length)
    {write : Nat × Slot} :
    write ∈ (syncChannels link channelKeys (syncChannels link channelKeys device).device).writes ↔
      ∃ i channel want, (userChannels channelKeys)[i]? = some channel ∧
        wanted channel = some want ∧ device[i + 1]? ≠ some want ∧ link.store want ≠ want ∧
        write = (i + 1, want) := by
  have hfit' := hfit
  rw [← length_syncChannels channelKeys device link] at hfit'
  rw [mem_writes_syncChannels h hfit']
  constructor
  · rintro (⟨i, channel, want, hget, hwant, hne, rfl⟩ | ⟨i, dev, hi, hmax, hdev, hname, rfl⟩)
    · refine ⟨i, channel, want, hget, hwant, ?_⟩
      rw [getElem?_syncChannels_channel h hfit hget hwant] at hne
      split at hne
      · exact absurd rfl hne
      · exact ⟨‹_›, fun hstore => hne (congrArg some hstore), rfl⟩
    · have hlen := (List.getElem?_eq_some_iff.mp hdev).1
      rw [length_syncChannels] at hlen
      have hafter := getElem?_syncChannels_extra h hfit hi (List.getElem?_eq_getElem hlen)
      rw [hdev, Option.some.injEq] at hafter
      subst hafter
      split at hname
      · exact absurd rfl hname
      · rename_i hkept
        exact absurd ⟨hmax, hname⟩ hkept
  · rintro ⟨i, channel, want, hget, hwant, hold, hstore, rfl⟩
    refine .inl ⟨i, channel, want, hget, hwant, ?_, rfl⟩
    rw [getElem?_syncChannels_channel h hfit hget hwant, if_neg hold]
    exact fun heq => hstore (Option.some.inj heq)

/-- The sync, slot by slot: the Public slot and the slots past the last one are left alone,
    a configured channel is in its slot as the device stores it, an entry without a 16-byte
    key leaves its slot as it is, the named slots behind the channels are cleared; and a
    second run has nothing to write except where the device changed what was written. -/
theorem syncChannels_spec (link : Link) (channelKeys : List (String × String))
    (device : List Slot) (h : link.AllSucceed)
    (hfit : min MESHCORE_MAX_USER_CHANNELS channelKeys.length < device.length) :
    let after := (syncChannels link channelKeys device).device
    after.length = device.length ∧ after[0]? = device[0]? ∧
    (∀ i channel, i < MESHCORE_MAX_USER_CHANNELS → channelKeys[i]? = some channel →
      after[i + 1]? = match wanted channel with
        | none => device[i + 1]?
        | some want => some (if device[i + 1]? = some want then want else link.store want)) ∧
    (∀ i slot, min MESHCORE_MAX_USER_CHANNELS channelKeys.length < i → device[i]? = some slot →
      after[i]? =
        some (if i < MESHCORE_MAX_DEVICE_SLOTS ∧ slot.name ≠ "" then clearedSlot else slot)) ∧
    ∀ write, write ∈ (syncChannels link channelKeys after).writes ↔
      ∃ i channel want, i < MESHCORE_MAX_USER_CHANNELS ∧ channelKeys[i]? = some channel ∧
        wanted channel = some want ∧ device[i + 1]? ≠ some want ∧ link.store want ≠ want ∧
        write = (i + 1, want) := by
  intro after
  have hget : ∀ i channel, (userChannels channelKeys)[i]? = some channel ↔
      i < MESHCORE_MAX_USER_CHANNELS ∧ channelKeys[i]? = some channel := by
    intro i channel
    rw [userChannels, List.getElem?_take, Option.ite_none_right_eq_some]
  refine ⟨length_syncChannels channelKeys device link,
    getElem?_zero_syncChannels channelKeys device link, ?_, ?_, ?_⟩
  · intro i channel hi hchannel
    have hkept := (hget i channel).mpr ⟨hi, hchannel⟩
    cases hwant : wanted channel with
    | none => exact getElem?_syncChannels_skipped h hfit hkept hwant
    | some want => exact getElem?_syncChannels_channel h hfit hkept hwant
  · intro i slot hi hslot
    apply getElem?_syncChannels_extra h hfit _ hslot
    rwa [userChannels, List.length_take]
  · intro write
    rw [mem_writes_syncChannels_again h hfit]
    simp only [hget, and_assoc]

end Spec

/-- A companion that gives back every slot as it was written. -/
def exactLink : Link := ⟨true, fun _ => false, fun _ => false, id, rfl⟩

theorem allSucceed_exactLink : exactLink.AllSucceed := ⟨rfl, fun _ => rfl, fun _ => rfl⟩

theorem syncChannels_spec_exact :
    ((syncChannels exactLink [("ops", "000102030405060708090a0b0c0d0e0f")]
      [⟨"Public", [1]⟩, ⟨"", []⟩, ⟨"old", [2]⟩]).device)[2]? = some clearedSlot :=
  (syncChannels_spec exactLink [("ops", "000102030405060708090a0b0c0d0e0f")]
    [⟨"Public", [1]⟩, ⟨"", []⟩, ⟨"old", [2]⟩] allSucceed_exactLink (by decide)).2.2.2.1
    2 ⟨"old", [2]⟩ (by decide) rfl

/-! ### Where exact convergence fails -/

/-- The slots hold exactly the channels, everything behind them is cleared, the Public slot
    is as before and a second run writes nothing. -/
def Converges (link : Link) (channelKeys : List (String × String)) (device : List Slot) : Prop :=
  let after := (syncChannels link channelKeys device).device
  (∀ i channel, channelKeys[i]? = some channel → after[i + 1]? = wanted channel) ∧
  (∀ i slot, channelKeys.length < i → after[i]? = some slot → slot = clearedSlot) ∧
  after[0]? = device[0]? ∧ (syncChannels link channelKeys after).writes = []

/-- Every command succeeds, every key has 16 bytes and the device has the slots. -/
def Admitted (link : Link) (channelKeys : List (String × String)) (device : List Slot) : Prop :=
  link.AllSucceed ∧ (∀ channel ∈ channelKeys, (wanted channel).isSome) ∧
    channelKeys.length < device.length

/-- The name field of the firmware has room for 31 characters and the final zero. -/
def firmwareLink : Link :=
  ⟨true, fun _ => false, fun _ => false,
    fun slot => ⟨String.ofList (slot.name.toList.take 31), slot.secret⟩, rfl⟩

def longChannel (n : Nat) : String × String :=
  (String.ofList (List.replicate n 'c'), "000102030405060708090a0b0c0d0e0f")

theorem wanted_longChannel (n : Nat) : wanted (longChannel n) =
    some ⟨(longChannel n).1, [0, 1, 2, 3, 4, 5, 6, 7, 8, 9, 10, 11, 12, 13, 14, 15]⟩ := by
  have hkey : fromHexChars "000102030405060708090a0b0c0d0e0f".toList =
      some [0, 1, 2, 3, 4, 5, 6, 7, 8, 9, 10, 11, 12, 13, 14, 15] := by decide
  simp only [wanted, longChannel, hkey]
  rfl

theorem leftoverKey_not_converges :
    ¬ Converges exactLink [] [⟨"Public", [1]⟩, ⟨"", [1]⟩] := by
  rintro ⟨-, hextra, -⟩
  have hkept := @getElem?_syncChannels_extra exactLink [] [⟨"Public", [1]⟩, ⟨"", [1]⟩]
    allSucceed_exactLink (by decide) 1 ⟨"", [1]⟩ (by decide) rfl
  have := hextra 1 _ Nat.one_pos hkept
  revert this
  decide

theorem excess_not_converges :
    ¬ Converges exactLink ((List.range 41).map longChannel) (List.replicate 42 ⟨"", []⟩) := by
  rintro ⟨hchannel, -, -⟩
  have hkept := @getElem?_syncChannels_extra exactLink ((List.range 41).map longChannel)
    (List.replicate 42 ⟨"", []⟩) allSucceed_exactLink (by simp [MESHCORE_MAX_USER_CHANNELS,
      MESHCORE_MAX_DEVICE_SLOTS]) 41 ⟨"", []⟩ (by simp [userChannels, MESHCORE_MAX_USER_CHANNELS,
      MESHCORE_MAX_DEVICE_SLOTS]) (by simp)
  have hfull := hchannel 40 (longChannel 40) (by simp)
  rw [hkept, wanted_longChannel] at hfull
  revert hfull
  decide

theorem longName_not_converges :
    ¬ Converges firmwareLink [longChannel 32] (List.replicate 2 ⟨"", []⟩) := by
  rintro ⟨-, -, -, hwrites⟩
  have hagain := (@mem_writes_syncChannels_again firmwareLink [longChannel 32]
    (List.replicate 2 ⟨"", []⟩) ⟨rfl, fun _ => rfl, fun _ => rfl⟩ (by decide) (1, _)).mpr
    ⟨0, longChannel 32, _, rfl, wanted_longChannel 32, by decide, by decide, rfl⟩
  rw [hwrites] at hagain
  exact List.not_mem_nil hagain

theorem converges_fails :
    (Admitted exactLink [] [⟨"Public", [1]⟩, ⟨"", [1]⟩] ∧
      ¬ Converges exactLink [] [⟨"Public", [1]⟩, ⟨"", [1]⟩]) ∧
    (Admitted exactLink ((List.range 41).map longChannel) (List.replicate 42 ⟨"", []⟩) ∧
      ¬ Converges exactLink ((List.range 41).map longChannel) (List.replicate 42 ⟨"", []⟩)) ∧
    Admitted firmwareLink [longChannel 32] (List.replicate 2 ⟨"", []⟩) ∧
      ¬ Converges firmwareLink [longChannel 32] (List.replicate 2 ⟨"", []⟩) := by
  have hvalid : ∀ n, (wanted (longChannel n)).isSome := by
    intro n
    rw [wanted_longChannel]
    rfl
  refine ⟨⟨⟨allSucceed_exactLink, by simp, by decide⟩, leftoverKey_not_converges⟩,
    ⟨⟨allSucceed_exactLink, ?_, by simp⟩, excess_not_converges⟩,
    ⟨⟨rfl, fun _ => rfl, fun _ => rfl⟩, ?_, by decide⟩, longName_not_converges⟩
  · intro channel hmem
    obtain ⟨n, -, rfl⟩ := List.mem_map.mp hmem
    exact hvalid n
  · intro channel hmem
    rw [List.mem_singleton.mp hmem]
    exact hvalid 32

end Meshpoint.ChannelSync
