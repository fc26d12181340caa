import Meshpoint.CounterMode
import Meshpoint.JsonAgreement
import Meshpoint.LorawanFrames

/-!
# LoRaWAN uplinks as the format lays them out

`Uplink` is a data frame given by its fields and `layout` the bytes of it.  Decoding the layout
gives the fields back (`dataFrame_layout`), every frame that is long enough is the layout of one
(`exists_layout`), and what a session key decrypts is xored with the keystream of the
specification's A-blocks (`decryptFrmPayload_eq`), whatever function of a block AES is.
-/

namespace Meshpoint.LorawanUplink

open JsonText ByteCodec CounterMode Raising LorawanJoin LorawanFrames

/-! ### The format -/

/-- An uplink data frame.  The low bits of FCtrl are the length of FOpts. -/
structure Uplink where
  confirmed : Bool
  rfu : Fin 8
  devAddr : UInt32
  fctrl : UInt8
  fcnt : UInt16
  fopts : Bytes
  port : Option (UInt8 × Bytes)
  mic : Bytes
  length_fopts : fopts.length = fctrl.toNat % 16
  length_mic : mic.length = 4

namespace Uplink

def mhdr (u : Uplink) : UInt8 := UInt8.ofNat ((if u.confirmed then 4 else 2) * 32 + u.rfu * 4)

def portBytes (u : Uplink) : Bytes :=
  match u.port with
  | none => []
  | some (port, payload) => port :: payload

def layout (u : Uplink) : Bytes :=
  u.mhdr :: leBytes 4 u.devAddr.toNat ++ [u.fctrl] ++ leBytes 2 u.fcnt.toNat ++
    (u.fopts ++ u.portBytes ++ u.mic)

/-- The fields that decoding gives: of FCtrl the ADR and the ACK bit. -/
def frame (u : Uplink) : DataFrame where
  devAddr := u.devAddr.toNat
  fcnt := u.fcnt.toNat
  adr := decide (u.fctrl.toNat / 128 % 2 = 1)
  ack := decide (u.fctrl.toNat / 32 % 2 = 1)
  fopts := u.fopts
  fport := u.port.map fun port => port.1.toNat
  frmPayload := (u.port.map Prod.snd).getD []
  mic := u.mic

end Uplink

def TooShort (raw : Bytes) : Prop :=
  raw.length < MIN_DATA_FRAME ∨ raw.length < 8 + (raw.getD 5 0).toNat % 16 + 4

instance (raw : Bytes) : Decidable (TooShort raw) := inferInstanceAs (Decidable (_ ∨ _))

/-- The A-block `i` of the specification for an uplink: `01`, four zero bytes, the direction,
    DevAddr, FCnt, a zero byte and `i`. -/
def aBlock (devAddr fcnt i : Nat) : Bytes :=
  [0x01, 0, 0, 0, 0, 0] ++ leBytes 4 devAddr ++ leBytes 4 fcnt ++ [0, UInt8.ofNat i]

/-- The keystream S of the specification: AES of the A-blocks from 1 on. -/
def keystream (prim : CryptoPrimitives) (key : AesKey) (devAddr fcnt : Nat) : Nat → UInt8 :=
  blockByte fun i => prim.aesBlock key (aBlock devAddr fcnt (i + 1))

/-! ### Decoding a layout -/

section

variable (u : Uplink)

theorem drop_layout : u.layout.drop 8 = u.fopts ++ u.portBytes ++ u.mic := rfl

theorem length_layout : u.layout.length = 12 + u.fopts.length + u.portBytes.length := by
  have hlength : u.layout.length = 8 + (u.fopts ++ u.portBytes ++ u.mic).length := by
    unfold Uplink.layout
    rw [List.length_append]
    rfl
  rw [hlength, List.length_append, List.length_append, u.length_mic]
  omega

theorem frameKind_layout :
    frameKind u.layout = some (if u.confirmed then 4 else 2, 0) := by
  have hhead : u.layout.head? = some u.mhdr := rfl
  have hrfu := u.rfu.isLt
  have hmhdr : u.mhdr.toNat = (if u.confirmed then 4 else 2) * 32 + u.rfu * 4 := by
    unfold Uplink.mhdr
    apply toNat_ofNat_of_lt
    split <;> omega
  unfold frameKind
  rw [hhead, Option.map_some, hmhdr]
  split
  · simp only [Option.some.injEq, Prod.mk.injEq]
    omega
  · simp only [Option.some.injEq, Prod.mk.injEq]
    omega

theorem not_tooShort_layout : ¬ TooShort u.layout := by
  have hfctrl : u.layout.getD 5 0 = u.fctrl := rfl
  have hlength := length_layout u
  unfold TooShort MIN_DATA_FRAME
  rw [hfctrl, ← u.length_fopts]
  omega

theorem drop_add_layout (n : Nat) :
    u.layout.drop (8 + n) = (u.fopts ++ u.portBytes ++ u.mic).drop n := by
  rw [← List.drop_drop, drop_layout]

/-- **Decoding a layout** gives the fields back. -/
theorem dataFrame_layout : dataFrame u.layout = some u.frame := by
  have hlength := length_layout u
  have hshort := not_tooShort_layout u
  unfold TooShort at hshort
  rw [not_or] at hshort
  have hfctrl : u.layout.getD 5 0 = u.fctrl := rfl
  have haddr : (u.layout.drop 1).take 4 = leBytes 4 u.devAddr.toNat := rfl
  have hcnt : (u.layout.drop 6).take 2 = leBytes 2 u.fcnt.toNat := rfl
  have haddrValue : leValue (leBytes 4 u.devAddr.toNat) = u.devAddr.toNat :=
    leValue_leBytes u.devAddr.toNat_lt
  have hcntValue : leValue (leBytes 2 u.fcnt.toNat) = u.fcnt.toNat :=
    leValue_leBytes u.fcnt.toNat_lt
  have hfopts : (u.layout.drop 8).take u.fopts.length = u.fopts := by
    rw [drop_layout, List.append_assoc]
    exact List.take_left' rfl
  have hmic : u.layout.drop (u.layout.length - 4) = u.mic := by
    have hoffset : u.layout.length - 4 = 8 + (u.fopts ++ u.portBytes).length := by
      rw [List.length_append]
      omega
    rw [hoffset, drop_add_layout]
    exact List.drop_left' rfl
  unfold dataFrame
  simp only
  rw [if_neg hshort.1, if_neg hshort.2, hfctrl, ← u.length_fopts, haddr, hcnt, haddrValue,
    hcntValue, hfopts, hmic]
  cases hport : u.port with
  | none =>
    have hnone : u.portBytes = [] := by
      unfold Uplink.portBytes
      rw [hport]
    rw [hnone, List.length_nil] at hlength
    have hend : ¬ 8 + u.fopts.length < u.layout.length - 4 := by omega
    rw [if_neg hend, if_neg hend, Uplink.frame, hport]
    rfl
  | some port =>
    obtain ⟨port, payload⟩ := port
    have hsome : u.portBytes = port :: payload := by
      unfold Uplink.portBytes
      rw [hport]
    rw [hsome, List.length_cons] at hlength
    have hend : 8 + u.fopts.length < u.layout.length - 4 := by omega
    have hfport : u.layout.getD (8 + u.fopts.length) 0 = port := by
      have hfirst : (u.layout.drop (8 + u.fopts.length)).head? = some port := by
        rw [drop_add_layout, List.append_assoc, List.drop_left' rfl, hsome]
        rfl
      rw [List.head?_drop] at hfirst
      rw [List.getD_eq_getElem?_getD, hfirst]
      rfl
    have hpayload : (u.layout.take (u.layout.length - 4)).drop (8 + u.fopts.length + 1) =
        payload := by
      have hcount : u.layout.length - 4 - (8 + u.fopts.length + 1) = payload.length := by omega
      have hsplit : u.fopts ++ u.portBytes ++ u.mic =
          (u.fopts ++ [port]) ++ (payload ++ u.mic) := by
        rw [hsome]
        simp
      rw [List.drop_take, hcount, Nat.add_assoc, drop_add_layout, hsplit,
        List.drop_left' (by simp)]
      exact List.take_left' rfl
    rw [if_pos hend, if_pos hend, hfport, hpayload, Uplink.frame, hport]
    rfl

end

/-! ### Every frame that is long enough is a layout -/

theorem leBytes_of_length {bs : Bytes} {w : Nat} (h : bs.length = w) :
    leBytes w (leValue bs) = bs := by
  rw [← h]
  exact leBytes_leValue bs

theorem exists_mhdr {raw : Bytes} (hdata : IsDataUp raw) :
    ∃ confirmed : Bool, ∃ rfu : Fin 8,
      raw.getD 0 0 = UInt8.ofNat ((if confirmed then 4 else 2) * 32 + rfu * 4) := by
  cases raw with
  | nil => rcases hdata with h | h <;> cases h
  | cons mhdr rest =>
    have hlt := mhdr.toNat_lt
    have hkind : frameKind (mhdr :: rest) = some (mhdr.toNat / 32 % 8, mhdr.toNat % 4) := rfl
    unfold IsDataUp at hdata
    simp only [hkind, Option.some.injEq, Prod.mk.injEq] at hdata
    refine ⟨decide (mhdr.toNat / 32 % 8 = 4), ⟨mhdr.toNat / 4 % 8, by omega⟩, ?_⟩
    apply (ofNat_toNat_of_eq _).symm
    rcases hdata with ⟨htype, hmajor⟩ | ⟨htype, hmajor⟩
    · rw [htype]
      change 2 * 32 + mhdr.toNat / 4 % 8 * 4 = mhdr.toNat
      omega
    · rw [htype]
      change 4 * 32 + mhdr.toNat / 4 % 8 * 4 = mhdr.toNat
      omega

theorem take_one_drop {raw : Bytes} {i : Nat} (h : i < raw.length) :
    (raw.drop i).take 1 = [raw.getD i 0] := by
  rw [List.drop_eq_getElem_cons h, List.getD_eq_getElem?_getD, List.getElem?_eq_getElem h]
  rfl

/-- A data frame that is not too short has the fields of an uplink, each in its place. -/
theorem exists_layout {raw : Bytes} (hdata : IsDataUp raw) (hlong : ¬ TooShort raw) :
    ∃ u : Uplink, u.layout = raw := by
  unfold TooShort MIN_DATA_FRAME at hlong
  rw [not_or, Nat.not_lt, Nat.not_lt] at hlong
  obtain ⟨hmin, hfits⟩ := hlong
  let n := (raw.getD 5 0).toNat % 16
  let rest := (raw.drop (8 + n)).take (raw.length - 4 - (8 + n))
  have hkind : ∃ confirmed : Bool, ∃ rfu : Fin 8,
      raw.getD 0 0 = UInt8.ofNat ((if confirmed then 4 else 2) * 32 + rfu * 4) :=
    exists_mhdr hdata
  obtain ⟨confirmed, rfu, hmhdr⟩ := hkind
  let u : Uplink :=
    { confirmed := confirmed
      rfu := rfu
      devAddr := UInt32.ofNat (leValue ((raw.drop 1).take 4))
      fctrl := raw.getD 5 0
      fcnt := UInt16.ofNat (leValue ((raw.drop 6).take 2))
      fopts := (raw.drop 8).take n
      port := match rest with
        | [] => none
        | port :: payload => some (port, payload)
      mic := raw.drop (raw.length - 4)
      length_fopts := by
        rw [List.length_take, List.length_drop]
        omega
      length_mic := by
        rw [List.length_drop]
        omega }
  refine ⟨u, ?_⟩
  have hport : u.portBytes = rest := by
    unfold Uplink.portBytes
    change (match (match rest with
      | [] => none
      | port :: payload => some (port, payload) : Option (UInt8 × Bytes)) with
      | none => []
      | some (port, payload) => port :: payload) = rest
    cases rest with
    | nil => rfl
    | cons port payload => rfl
  have haddr : leBytes 4 u.devAddr.toNat = (raw.drop 1).take 4 := by
    have hlt := leValue_take_lt (raw.drop 1) 4
    change leBytes 4 (UInt32.ofNat (leValue ((raw.drop 1).take 4))).toNat = _
    rw [UInt32.toNat_ofNat_of_lt' hlt]
    apply leBytes_of_length
    rw [List.length_take, List.length_drop]
    omega
  have hcnt : leBytes 2 u.fcnt.toNat = (raw.drop 6).take 2 := by
    have hlt := leValue_take_lt (raw.drop 6) 2
    change leBytes 2 (UInt16.ofNat (leValue ((raw.drop 6).take 2))).toNat = _
    rw [UInt16.toNat_ofNat_of_lt' hlt]
    apply leBytes_of_length
    rw [List.length_take, List.length_drop]
    omega
  have hhead : u.mhdr :: leBytes 4 u.devAddr.toNat ++ [u.fctrl] ++ leBytes 2 u.fcnt.toNat =
      raw.take 8 := by
    have hfirst : [u.mhdr] = (raw.drop 0).take 1 := by
      rw [take_one_drop (by omega), hmhdr]
      rfl
    have hfctrl : [u.fctrl] = (raw.drop 5).take 1 := (take_one_drop (by omega)).symm
    rw [haddr, hcnt, hfctrl, ← List.singleton_append, hfirst, List.drop_zero, ← List.take_add,
      ← List.take_add, ← List.take_add]
  have htail : u.fopts ++ u.portBytes ++ u.mic = raw.drop 8 := by
    have hend : raw.drop (raw.length - 4) =
        (raw.drop 8).drop (n + (raw.length - 4 - (8 + n))) := by
      rw [List.drop_drop]
      congr 1
      omega
    rw [hport]
    change (raw.drop 8).take n ++ (raw.drop (8 + n)).take (raw.length - 4 - (8 + n)) ++
      raw.drop (raw.length - 4) = _
    rw [hend, ← List.drop_drop, ← List.take_add, List.take_append_drop]
  unfold Uplink.layout
  rw [hhead, htail, List.take_append_drop]

/-! ### The keystream -/

section

variable (prim : CryptoPrimitives)

theorem length_keystreamBlocks (key : AesKey) (devAddr fcnt i : Nat) :
    (prim.aesBlock key (aBlock devAddr fcnt (i + 1))).length = 16 :=
  prim.length_aesBlock _ _

/-- **The payload is xored with the keystream** of the A-blocks. -/
theorem decryptFrmPayload_eq (key : AesKey) {payload : Bytes} (devAddr fcnt : Nat)
    (hblocks : payload.length ≤ 4080) :
    decryptFrmPayload prim key.bytes payload devAddr fcnt true =
      .ok (xorWith (keystream prim key devAddr fcnt) payload) := by
  have hnew : newAes key.bytes = .ok key := dif_pos key.lengthOk
  have hnot : ¬ 255 < (payload.length + 15) / 16 := by omega
  unfold decryptFrmPayload
  rw [hnew]
  refine (if_neg hnot).trans ?_
  exact congrArg Except.ok (zipWith_flatMap_blocks
    (length_keystreamBlocks prim key devAddr fcnt) (by omega))

theorem decryptFrmPayload_twice (key : AesKey) {payload : Bytes} (devAddr fcnt : Nat)
    (hblocks : payload.length ≤ 4080) :
    (decryptFrmPayload prim key.bytes payload devAddr fcnt true >>= fun plaintext =>
      decryptFrmPayload prim key.bytes plaintext devAddr fcnt true) = .ok payload := by
  have hlength : (xorWith (keystream prim key devAddr fcnt) payload).length ≤ 4080 := by
    rw [length_xorWith]
    exact hblocks
  rw [decryptFrmPayload_eq prim key devAddr fcnt hblocks]
  refine (decryptFrmPayload_eq prim key devAddr fcnt hlength).trans ?_
  rw [xorWith_xorWith]

end

/-! ### Entries -/

section

variable {F : Type}

theorem get?_updateEntries {key : String} : ∀ (added entries : Entries F),
    added.get? key = none → (updateEntries entries added).get? key = entries.get? key
  | .nil, _, _ => rfl
  | .cons k v rest, entries, h => by
    simp only [Entries.get?] at h
    split at h
    · cases h
    · rename_i hk
      rw [updateEntries, get?_updateEntries rest _ h, get?_set_ne hk]

end

/-! ### Sensor fields -/

section

variable {F : Type} [StationFloat F]

theorem get?_decodeFields {payload : Bytes} {key : String} (fields : List (PayloadField F))
    (hkey : ∀ field ∈ fields, field.name ≠ some key) (cursor : Int) (result out : Entries F)
    (h : decodeFields payload fields cursor result = .ok out) : out.get? key = result.get? key := by
  induction fields generalizing cursor result with
  | nil =>
    cases h
    rfl
  | cons field rest ih =>
    rw [List.forall_mem_cons] at hkey
    simp only [decodeFields] at h
    split at h
    · exact ih hkey.2 _ _ h
    · split at h
      · exact ih hkey.2 _ _ h
      · rename_i hnamed
        have hname : field.name.getD "" ≠ key := by
          cases hfield : field.name with
          | none =>
            rw [hfield] at hnamed
            exact absurd rfl hnamed
          | some name =>
            intro hsame
            exact hkey.1 (hfield.trans (congrArg some hsame))
        split at h
        · cases h
        · split at h
          · exact ih hkey.2 _ _ h
          · cases hraw : unpackFrom _ payload _ with
            | error e =>
              rw [hraw] at h
              cases h
            | ok raw =>
              rw [hraw] at h
              rw [ih hkey.2 _ _ h, get?_set_ne hname]

/-- The names of the fields of the device that has an address. -/
def sensorNames (d : Decoder) (tables : FieldTables F) (devAddr : Nat) : List String :=
  ((d.keystore.bind fun store => payloadFieldsForAddr store tables devAddr).getD []).map
    PayloadFieldEntry.name

variable (prim : CryptoPrimitives)

def plaintext (key : Bytes) (frame : DataFrame) : Bytes :=
  if h : key.length = 16 ∨ key.length = 32 then
    xorWith (keystream prim ⟨key, h⟩ frame.devAddr frame.fcnt) frame.frmPayload
  else []

/-- The entries of an uplink: its fields, and the plaintext where there is a session key. -/
def uplinkEntries (d : Decoder) (u : Uplink) : Entries F :=
  match sessionFor d u.frame with
  | none => frameEntries u.frame u.confirmed
  | some (_, key) =>
    (frameEntries u.frame u.confirmed).set "frm_payload_decrypted"
      (.str (hexUpper (plaintext prim key u.frame)))

variable {d : Decoder} {tables : FieldTables F}

/-- A session key is one of the key store, and the frame has a payload on its own port. -/
theorem sessionFor_eq_some {frame : DataFrame} {store : Keystore} {key : Bytes}
    (h : sessionFor d frame = some (store, key)) :
    d.keystore = some store ∧ store.sessionKeys.get? frame.devAddr = some key := by
  obtain ⟨store', hstore, hfor⟩ := Option.bind_eq_some_iff.mp h
  split at hfor
  · obtain ⟨key', hkey, hpair⟩ := Option.map_eq_some_iff.mp hfor
    cases hpair
    exact ⟨hstore, hkey⟩
  · cases hfor

theorem decryptedEntries_eq (hkeys : SessionKeysFit d) {u : Uplink}
    (hdecodes : FrameDecodes d tables u.frame) :
    ∃ added, decryptedEntries prim d tables u.frame = .ok added ∧
      added.isSome = (sessionFor d u.frame).isSome ∧
      ∀ key ∉ sensorNames d tables u.frame.devAddr,
        (updateEntries (frameEntries u.frame u.confirmed) (added.getD .nil)).get? key =
          (uplinkEntries prim d u : Entries F).get? key := by
  obtain ⟨added, hadded⟩ := (decryptedEntries_returns_iff prim hkeys u.frame).mpr hdecodes
  refine ⟨added, hadded, ?_⟩
  unfold decryptedEntries at hadded
  unfold uplinkEntries
  cases hsession : sessionFor d u.frame with
  | none =>
    rw [hsession] at hadded
    cases hadded
    exact ⟨rfl, fun _ _ => rfl⟩
  | some session =>
    obtain ⟨store, key⟩ := session
    obtain ⟨hstore, hkey⟩ := sessionFor_eq_some hsession
    have hlength : key.length = 16 := hkeys store _ key hstore hkey
    have hplain : decryptFrmPayload prim key u.frame.frmPayload u.frame.devAddr u.frame.fcnt true =
        .ok (plaintext prim key u.frame) := by
      rw [plaintext, dif_pos (Or.inl hlength)]
      exact decryptFrmPayload_eq prim ⟨key, Or.inl hlength⟩ _ _ (hdecodes store key hsession).1
    rw [hsession] at hadded
    simp only [hplain] at hadded
    cases hfields : decodePayload (((payloadFieldsForAddr store tables u.frame.devAddr).getD []).map
        PayloadFieldEntry.modelDump) (plaintext prim key u.frame) with
    | error e =>
      change (decodePayload _ _ >>= _) = _ at hadded
      rw [hfields] at hadded
      cases hadded
    | ok appFields =>
      change (decodePayload _ _ >>= _) = _ at hadded
      rw [hfields] at hadded
      cases hadded
      refine ⟨rfl, ?_⟩
      intro key' hnot
      have hnames : ∀ field ∈ ((payloadFieldsForAddr store tables u.frame.devAddr).getD []).map
          PayloadFieldEntry.modelDump, field.name ≠ some key' := by
        intro field hfield hname
        obtain ⟨entry, hentry, rfl⟩ := List.mem_map.mp hfield
        apply hnot
        unfold sensorNames
        rw [hstore, Option.bind_some]
        exact List.mem_map.mpr ⟨entry, hentry, Option.some.inj hname⟩
      have hnone := get?_decodeFields _ hnames 0 .nil appFields hfields
      exact get?_updateEntries appFields _ hnone

theorem decode_of_isDataUp {raw : Bytes} (h : IsDataUp raw) (signal : Option (SignalMetrics F))
    (now : ℚ) (timestamp : Int) :
    ∃ confirmed, frameKind raw = some (if confirmed then 4 else 2, 0) ∧
      decode prim d tables raw signal now timestamp =
        (decodeDataUp prim d tables raw confirmed signal timestamp >>= fun packet =>
          .ok (d, packet)) := by
  unfold decode
  rcases h with h | h
  · rw [h]
    exact ⟨false, rfl, rfl⟩
  · rw [h]
    exact ⟨true, rfl, rfl⟩

theorem dataFrame_of_tooShort {raw : Bytes} (h : TooShort raw) : dataFrame raw = none := by
  unfold dataFrame
  simp only
  split
  · rfl
  · rename_i hmin
    rw [if_pos (h.resolve_left hmin)]

theorem decode_of_tooShort {raw : Bytes} (hdata : IsDataUp raw) (hshort : TooShort raw)
    (signal : Option (SignalMetrics F)) (now : ℚ) (timestamp : Int) :
    decode prim d tables raw signal now timestamp = .ok (d, none) := by
  obtain ⟨confirmed, -, hdecode⟩ := decode_of_isDataUp prim hdata signal now timestamp
  rw [hdecode]
  unfold decodeDataUp
  rw [dataFrame_of_tooShort hshort]
  rfl

theorem dataType_injective : ∀ a b : Bool,
    (if a then 4 else 2) = (if b then 4 else 2 : Nat) → b = a := by
  decide

theorem decode_layout (hkeys : SessionKeysFit d) {u : Uplink}
    (hdecodes : FrameDecodes d tables u.frame) (signal : Option (SignalMetrics F)) (now : ℚ)
    (timestamp : Int) :
    ∃ packet entries, decode prim d tables u.layout signal now timestamp = .ok (d, some packet) ∧
      packet.decodedPayload = some entries ∧
      packet.decrypted = (sessionFor d u.frame).isSome ∧
      ∀ key ∉ sensorNames d tables u.frame.devAddr,
        entries.get? key = (uplinkEntries prim d u).get? key := by
  have hkind := frameKind_layout u
  have hdata : IsDataUp u.layout := by
    unfold IsDataUp
    rw [hkind]
    cases u.confirmed with
    | true => exact Or.inr rfl
    | false => exact Or.inl rfl
  obtain ⟨confirmed, hconfirmed, hdecode⟩ := decode_of_isDataUp prim hdata signal now timestamp
  obtain rfl : confirmed = u.confirmed := by
    rw [hkind, Option.some.injEq, Prod.mk.injEq] at hconfirmed
    exact dataType_injective _ _ hconfirmed.1
  obtain ⟨added, hadded, hsome, hentries⟩ := decryptedEntries_eq prim hkeys hdecodes
  rw [hdecode]
  unfold decodeDataUp
  rw [dataFrame_layout]
  simp only [hadded]
  exact ⟨_, _, rfl, rfl, hsome, hentries⟩

end

/-! ### Uplinks of a device -/

/-- A decoder that has the session key of DevAddr 26010203. -/
def sessionDecoder : Decoder where
  keystore := some
    { sessionKeys := OrderedDict.empty.set 0x26010203 (List.replicate 16 0xA1)
      devAddrEui := OrderedDict.empty.set 0x26010203 "70:B3:D5:7E:D0:00:00:0A" }

theorem sessionKeysFit_sessionDecoder : SessionKeysFit sessionDecoder := by
  intro store devAddr key hstore hkey
  cases hstore
  rw [OrderedDict.get?_set] at hkey
  split at hkey
  · cases hkey
    rfl
  · rw [OrderedDict.get?_empty] at hkey
    cases hkey

/-- An uplink of the device with the given FCtrl, on port 2. -/
def uplink (fctrl : UInt8) (hfctrl : 0 = fctrl.toNat % 16) (payload : Bytes) : Uplink where
  confirmed := false
  rfu := 0
  devAddr := 0x26010203
  fctrl := fctrl
  fcnt := 7
  fopts := []
  port := some (2, payload)
  mic := [1, 2, 3, 4]
  length_fopts := hfctrl
  length_mic := rfl

/-- A payload of seventeen bytes, one more than a block. -/
def reading : Uplink := uplink 0x80 rfl (List.replicate 17 0x55)

/-- A table that reads the first byte of the payload as a field called like the frame counter. -/
def counterTable : FieldTables WholeFloat :=
  OrderedDict.empty.set "70:B3:D5:7E:D0:00:00:0A" [⟨"fcnt", "uint8", by decide, some 0, ⟨1⟩⟩]

end Meshpoint.LorawanUplink
