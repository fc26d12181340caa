import Meshpoint.LorawanJoin
import Meshpoint.Raising

/-!
# LoRaWAN data frames

Models of the rest of `src/decode/lorawan_decoder.py` (data and rejoin frames), of
`decrypt_frm_payload` (`src/decode/lorawan_crypto.py`), of the sensor fields of
`src/decode/lorawan_payload_formats.py` and of the table of fields that
`PUT /config/lorawan` (`src/api/routes/lorawan_config_routes.py`) stores.

Decoding a data frame may raise.  `decode_returns_iff` says when it does not: the payload
has at most 255 cipher blocks and every named field of its device has an offset that is
read or lies past the end.
-/

namespace Meshpoint.LorawanFrames

open JsonText ByteCodec LorawanJoin Raising

/-! ### Sensor fields -/

/-- An entry of `_FIELD_TYPES`: the struct format and its size. -/
structure FieldSpec where
  signed : Bool
  bigEndian : Bool
  size : Nat
deriving DecidableEq

def FIELD_TYPES : List (String × FieldSpec) :=
  [("int8", ⟨true, true, 1⟩), ("uint8", ⟨false, true, 1⟩),
    ("int16_be", ⟨true, true, 2⟩), ("int16_le", ⟨true, false, 2⟩),
    ("uint16_be", ⟨false, true, 2⟩), ("uint16_le", ⟨false, false, 2⟩),
    ("int32_be", ⟨true, true, 4⟩), ("int32_le", ⟨true, false, 4⟩),
    ("uint32_be", ⟨false, true, 4⟩), ("uint32_le", ⟨false, false, 4⟩)]

/-- `_FIELD_TYPES.get(type)`. -/
def fieldSpec (type : String) : Option FieldSpec :=
  (FIELD_TYPES.find? fun entry => decide (entry.1 = type)).map Prod.snd

def FieldSpec.number (spec : FieldSpec) (bytes : Bytes) : Int :=
  let n := leValue (if spec.bigEndian then bytes.reverse else bytes)
  if spec.signed ∧ 2 ^ (8 * spec.size - 1) ≤ n then (n : Int) - 2 ^ (8 * spec.size) else n

/-- `struct.unpack_from(fmt, payload, offset)[0]`: a negative offset counts from the end. -/
def unpackFrom (spec : FieldSpec) (payload : Bytes) (offset : Int) : Except PyException Int :=
  if offset < 0 ∧ (0 < offset + spec.size ∨ offset + payload.length < 0) then .error .structError
  else
    let start := if offset < 0 then offset + payload.length else offset
    if payload.length < start + spec.size then .error .structError
    else .ok (spec.number ((payload.drop start.toNat).take spec.size))

/-- `PayloadField`: a dictionary of which every key may be missing.  An offset may also be
    there and be `None`. -/
structure PayloadField (F : Type) where
  name : Option String := none
  type : Option String := none
  offset : Option (Option Int) := none
  scale : Option F := none

section Fields

variable {F : Type} [StationFloat F]

/-- `round(raw * scale, 6) if scale != 1.0 else raw`. -/
def scaledValue (scale : Option F) (raw : Int) : Value F :=
  match scale with
  | none => .int raw
  | some scale => if StationFloat.isOne scale then .int raw else .float (StationFloat.scaled raw scale)

/-- The loop of `decode_payload`, from a cursor on. -/
def decodeFields (payload : Bytes) :
    List (PayloadField F) → (cursor : Int) → Entries F → Except PyException (Entries F)
  | [], _, result => .ok result
  | field :: rest, cursor, result =>
    let name := field.name.getD ""
    match fieldSpec (field.type.getD "") with
    | none => decodeFields payload rest cursor result
    | some spec =>
      if name = "" then decodeFields payload rest cursor result
      else
        match field.offset.getD (some cursor) with
        | none => .error .typeError -- None + size
        | some offset =>
          if payload.length < offset + spec.size then
            decodeFields payload rest (offset + spec.size) result
          else
            unpackFrom spec payload offset >>= fun raw =>
              decodeFields payload rest (offset + spec.size)
                (result.set name (scaledValue field.scale raw))

/-- `decode_payload`. -/
def decodePayload (fields : List (PayloadField F)) (payload : Bytes) :
    Except PyException (Entries F) :=
  decodeFields payload fields 0 .nil

/-- `PayloadFieldEntry`: a field as the request validator lets it through. -/
structure PayloadFieldEntry (F : Type) where
  name : String
  type : String
  type_known : (fieldSpec type).isSome = true
  offset : Option Int := none
  scale : F

/-- `entry.model_dump()`: every key is there. -/
def PayloadFieldEntry.modelDump (entry : PayloadFieldEntry F) : PayloadField F where
  name := some entry.name
  type := some entry.type
  offset := some entry.offset
  scale := some entry.scale

def PayloadFieldEntry.size (entry : PayloadFieldEntry F) : Nat :=
  ((fieldSpec entry.type).get entry.type_known).size

/-- The field has no name, or an offset that is read in a payload of this length or lies
    past its end. -/
def PayloadFieldEntry.ReadableIn (length : Nat) (entry : PayloadFieldEntry F) : Prop :=
  entry.name = "" ∨ ∃ offset ∈ entry.offset, 0 ≤ offset ∨ length < offset + entry.size ∨
    (offset + entry.size ≤ 0 ∧ 0 ≤ offset + length)

theorem unpackFrom_returns_iff {spec : FieldSpec} {payload : Bytes} {offset : Int}
    (hfits : offset + spec.size ≤ payload.length) :
    Returns (unpackFrom spec payload offset) ↔
      0 ≤ offset ∨ (offset + spec.size ≤ 0 ∧ 0 ≤ offset + payload.length) := by
  unfold unpackFrom
  rw [returns_ite_error, returns_ite_error]
  constructor
  · rintro ⟨hsign, -, -⟩
    omega
  · intro h
    refine ⟨by omega, ?_, returns_ok _⟩
    split <;> omega

theorem decodeFields_modelDump (payload : Bytes) (entry : PayloadFieldEntry F)
    (rest : List (PayloadField F)) (cursor : Int) (result : Entries F) {spec : FieldSpec}
    (hspec : fieldSpec entry.type = some spec) :
    decodeFields payload (entry.modelDump :: rest) cursor result =
      if entry.name = "" then decodeFields payload rest cursor result
      else match entry.offset with
        | none => .error .typeError
        | some offset =>
          if (payload.length : Int) < offset + spec.size then
            decodeFields payload rest (offset + spec.size) result
          else
            unpackFrom spec payload offset >>= fun raw =>
              decodeFields payload rest (offset + spec.size)
                (result.set entry.name (scaledValue (some entry.scale) raw)) := by
  have htype : fieldSpec (entry.modelDump.type.getD "") = some spec := hspec
  rw [decodeFields, htype]
  rfl

theorem decodeFields_cons_returns_iff (payload : Bytes) (entry : PayloadFieldEntry F)
    (rest : List (PayloadField F)) (cursor : Int) (result : Entries F)
    {rest_returns : Prop}
    (hrest : ∀ cursor result, Returns (decodeFields payload rest cursor result) ↔ rest_returns) :
    Returns (decodeFields payload (entry.modelDump :: rest) cursor result) ↔
      entry.ReadableIn payload.length ∧ rest_returns := by
  obtain ⟨spec, hspec⟩ := Option.isSome_iff_exists.mp entry.type_known
  have hsize : entry.size = spec.size := by
    rw [PayloadFieldEntry.size, Option.get_of_eq_some _ hspec]
  rw [decodeFields_modelDump payload entry rest cursor result hspec,
    PayloadFieldEntry.ReadableIn, hsize]
  by_cases hname : entry.name = ""
  · rw [if_pos hname, hrest]
    exact (and_iff_right (Or.inl hname)).symm
  · rw [if_neg hname]
    cases hoffset : entry.offset with
    | none =>
      constructor
      · intro h
        exact absurd h (not_returns_error _)
      · rintro ⟨hnamed | ⟨offset, hmem, -⟩, -⟩
        · exact absurd hnamed hname
        · cases hmem
    | some offset =>
      simp only [Option.mem_def, Option.some.injEq, exists_eq_left', or_iff_right hname]
      by_cases hpast : (payload.length : Int) < offset + spec.size
      · rw [if_pos hpast, hrest]
        exact (and_iff_right (Or.inr (Or.inl hpast))).symm
      · rw [if_neg hpast, returns_bind_iff]
        have hread := unpackFrom_returns_iff (Int.not_lt.mp hpast)
        constructor
        · rintro ⟨raw, hraw, h⟩
          refine ⟨?_, (hrest _ _).mp h⟩
          rcases hread.mp ⟨raw, hraw⟩ with hnat | hneg
          · exact Or.inl hnat
          · exact Or.inr (Or.inr hneg)
        · rintro ⟨hoff, h⟩
          obtain ⟨raw, hraw⟩ := hread.mpr (hoff.imp_right fun h => h.resolve_left hpast)
          exact ⟨raw, hraw, (hrest _ _).mpr h⟩

/-- **Accepted fields.**  A table that the request validator lets through is decoded exactly
    when each of its fields is readable in a payload of that length. -/
theorem decodePayload_returns_iff (entries : List (PayloadFieldEntry F)) (payload : Bytes) :
    Returns (decodePayload (entries.map PayloadFieldEntry.modelDump) payload) ↔
      ∀ entry ∈ entries, entry.ReadableIn payload.length := by
  have hloop : ∀ cursor result, Returns (decodeFields payload
      (entries.map PayloadFieldEntry.modelDump) cursor result) ↔
      ∀ entry ∈ entries, entry.ReadableIn payload.length := by
    induction entries with
    | nil =>
      intro cursor result
      refine iff_of_true (returns_ok _) ?_
      intro entry h
      cases h
    | cons entry rest ih =>
      intro cursor result
      rw [List.map_cons, decodeFields_cons_returns_iff payload entry _ cursor result ih,
        List.forall_mem_cons]
  exact hloop 0 .nil

end Fields

/-! ### Data frames -/

def MIN_DATA_FRAME : Nat := 12
def MIN_REJOIN_0_2 : Nat := 19
def MIN_REJOIN_1 : Nat := 23

/-- The parts of a data frame. -/
structure DataFrame where
  devAddr : Nat
  fcnt : Nat
  adr : Bool
  ack : Bool
  fopts : Bytes
  fport : Option Nat
  frmPayload : Bytes
  mic : Bytes
deriving DecidableEq

/-- The parts of an uplink data frame; `none` when it is too short. -/
def dataFrame (raw : Bytes) : Option DataFrame :=
  let fctrl := (raw.getD 5 0).toNat
  let foptsLen := fctrl % 16
  let fhdrEnd := 8 + foptsLen
  let micOffset := raw.length - 4
  if raw.length < MIN_DATA_FRAME then none
  else if raw.length < fhdrEnd + 4 then none
  else some
    { devAddr := leValue ((raw.drop 1).take 4)
      fcnt := leValue ((raw.drop 6).take 2)
      adr := decide (fctrl / 128 % 2 = 1)
      ack := decide (fctrl / 32 % 2 = 1)
      fopts := (raw.drop 8).take foptsLen
      fport := if fhdrEnd < micOffset then some (raw.getD fhdrEnd 0).toNat else none
      frmPayload := if fhdrEnd < micOffset then (raw.take micOffset).drop (fhdrEnd + 1) else []
      mic := raw.drop micOffset }

/-- `AES.new(key, AES.MODE_ECB)` of a session key.  The 24 bytes that AES also takes are not
    the length of any. -/
def newAes (key : Bytes) : Except PyException AesKey :=
  if h : key.length = 16 ∨ key.length = 32 then .ok ⟨key, h⟩ else .error .valueError

/-- The counter block `i`. -/
def frmBlock (devAddr fcnt : Nat) (uplink : Bool) (i : Nat) : Bytes :=
  [0x01, 0x00, 0x00, 0x00, 0x00, if uplink then 0 else 1] ++ leBytes 4 devAddr ++
    leBytes 4 fcnt ++ [0x00, UInt8.ofNat i]

section Decoding

variable (prim : CryptoPrimitives)

/-- `decrypt_frm_payload`: block 256 has no number of one byte. -/
def decryptFrmPayload (appSkey frmPayload : Bytes) (devAddr fcnt : Nat) (uplink : Bool) :
    Except PyException Bytes :=
  newAes appSkey >>= fun key =>
    let numBlocks := (frmPayload.length + 15) / 16
    if 255 < numBlocks then .error .valueError
    else .ok (List.zipWith (· ^^^ ·) frmPayload ((List.range numBlocks).flatMap fun i =>
      prim.aesBlock key (frmBlock devAddr fcnt uplink (i + 1))))

/-- `_payload_fields`: the sensor fields of each device, by its EUI. -/
abbrev FieldTables (F : Type) := OrderedDict String (List (PayloadFieldEntry F))

variable {F : Type}

/-- `payload_fields_for_addr`. -/
def payloadFieldsForAddr (store : Keystore) (tables : FieldTables F) (devAddr : Nat) :
    Option (List (PayloadFieldEntry F)) :=
  (store.devAddrEui.get? devAddr).bind tables.get?

/-- The key store and the session key that decrypt a frame: it has a payload on a port other
    than that of the MAC commands. -/
def sessionFor (d : Decoder) (frame : DataFrame) : Option (Keystore × Bytes) :=
  d.keystore.bind fun store =>
    if frame.fport.any (0 < ·) && !frame.frmPayload.isEmpty then
      (store.sessionKeys.get? frame.devAddr).map fun key => (store, key)
    else none

/-- `d.update(e)`. -/
def updateEntries (d : Entries F) : Entries F → Entries F
  | .nil => d
  | .cons key value rest => updateEntries (d.set key value) rest

variable [StationFloat F]

/-- The entries that decrypting adds; `none` for a frame that is not decrypted. -/
def decryptedEntries (d : Decoder) (tables : FieldTables F) (frame : DataFrame) :
    Except PyException (Option (Entries F)) :=
  match sessionFor d frame with
  | none => .ok none
  | some (store, key) =>
    decryptFrmPayload prim key frame.frmPayload frame.devAddr frame.fcnt true >>= fun plaintext =>
      let fields := (payloadFieldsForAddr store tables frame.devAddr).getD []
      decodePayload (fields.map PayloadFieldEntry.modelDump) plaintext >>= fun appFields =>
        .ok (some (.cons "frm_payload_decrypted" (.str (hexUpper plaintext)) appFields))

/-- `s or None` of a hexadecimal text. -/
def hexOrNone (bytes : Bytes) : Value F := if bytes = [] then .null else .str (hexUpper bytes)

/-- The entries of a data frame before it is decrypted. -/
def frameEntries (frame : DataFrame) (confirmed : Bool) : Entries F :=
  Entries.ofList
    [("mtype", .str (if confirmed then "ConfirmedDataUp" else "UnconfirmedDataUp")),
      ("dev_addr", .str (hexDigits 8 frame.devAddr)), ("fcnt", .int frame.fcnt),
      ("adr", .bool frame.adr), ("ack", .bool frame.ack),
      ("fport", match frame.fport with
        | some port => .int port
        | none => .null),
      ("fopts", hexOrNone frame.fopts), ("frm_payload", hexOrNone frame.frmPayload),
      ("mic", .str (hexUpper frame.mic))]

/-- `_decode_data_up`. -/
def decodeDataUp (d : Decoder) (tables : FieldTables F) (raw : Bytes) (confirmed : Bool)
    (signal : Option (SignalMetrics F)) (timestamp : Int) :
    Except PyException (Option (Packet F)) :=
  match dataFrame raw with
  | none => .ok none
  | some frame =>
    decryptedEntries prim d tables frame >>= fun added =>
      .ok (some
        { packetId := "lora:" ++ hexDigits 8 frame.devAddr ++ ":" ++ toString frame.fcnt
          sourceId := hexDigits 8 frame.devAddr
          destinationId := "network-server"
          protocol := .lorawan
          packetType := .lorawanData
          decodedPayload := some (updateEntries (frameEntries frame confirmed) (added.getD .nil))
          decrypted := added.isSome
          signal := signal
          captureSource := "concentrator"
          timestamp := timestamp })

def rejoinPacket (rejoinType : Nat) (devEui : String) (entries : List (String × Value F))
    (signal : Option (SignalMetrics F)) (timestamp : Int) : Packet F where
  packetId := "rejoin:" ++ toString rejoinType ++ ":" ++ devEui
  sourceId := devEui
  destinationId := "network-server"
  protocol := .lorawan
  packetType := .lorawanRejoin
  decodedPayload := some (Entries.ofList
    ([("mtype", .str ("RejoinRequest" ++ toString rejoinType)),
      ("rejoin_type", .int rejoinType)] ++ entries))
  decrypted := true
  signal := signal
  captureSource := "concentrator"
  timestamp := timestamp

/-- `_decode_rejoin`. -/
def decodeRejoin (raw : Bytes) (signal : Option (SignalMetrics F)) (timestamp : Int) :
    Option (Packet F) :=
  let mic := hexUpper (raw.drop (raw.length - 4))
  match raw[1]?.map UInt8.toNat with
  | none => none
  | some 1 =>
    if raw.length < MIN_REJOIN_1 then none
    else
      let devEui := euiStr ((raw.drop 10).take 8)
      some (rejoinPacket 1 devEui
        [("join_eui", .str (euiStr ((raw.drop 2).take 8))), ("dev_eui", .str devEui),
          ("rjcount", .int (leValue ((raw.drop 18).take 2))), ("mic", .str mic)] signal timestamp)
  | some rejoinType =>
    if rejoinType ≠ 0 ∧ rejoinType ≠ 2 then none
    else if raw.length < MIN_REJOIN_0_2 then none
    else
      let devEui := euiStr ((raw.drop 5).take 8)
      some (rejoinPacket rejoinType devEui
        [("net_id", .str (hexUpper ((raw.drop 2).take 3))), ("dev_eui", .str devEui),
          ("rjcount", .int (leValue ((raw.drop 13).take 2))), ("mic", .str mic)] signal timestamp)

/-- `LoRaWANDecoder.decode`. -/
def decode (d : Decoder) (tables : FieldTables F) (raw : Bytes)
    (signal : Option (SignalMetrics F)) (now : ℚ) (timestamp : Int) :
    Except PyException (Decoder × Option (Packet F)) :=
  match frameKind raw with
  | some (0, 0) => .ok (decodeJoinRequest d raw signal now timestamp)
  | some (1, 0) => .ok (decodeJoinAccept prim d raw signal now timestamp)
  | some (2, 0) =>
    decodeDataUp prim d tables raw false signal timestamp >>= fun packet => .ok (d, packet)
  | some (4, 0) =>
    decodeDataUp prim d tables raw true signal timestamp >>= fun packet => .ok (d, packet)
  | some (6, 0) => .ok (d, decodeRejoin raw signal timestamp)
  | _ => .ok (d, none)

/-! ### When decoding returns -/

/-- A frame that is decrypted has at most 255 blocks, and its device readable fields. -/
def FrameDecodes (d : Decoder) (tables : FieldTables F) (frame : DataFrame) : Prop :=
  ∀ store key, sessionFor d frame = some (store, key) →
    frame.frmPayload.length ≤ 4080 ∧
      ∀ fields, payloadFieldsForAddr store tables frame.devAddr = some fields →
        ∀ entry ∈ fields, entry.ReadableIn frame.frmPayload.length

/-- The session keys of the decoder have the length of an AES block. -/
def SessionKeysFit (d : Decoder) : Prop :=
  ∀ store devAddr key, d.keystore = some store → store.sessionKeys.get? devAddr = some key →
    key.length = 16

variable {d : Decoder} {tables : FieldTables F}

theorem decryptFrmPayload_returns {appSkey frmPayload : Bytes} (devAddr fcnt : Nat) (uplink : Bool)
    (hkey : appSkey.length = 16) (hblocks : frmPayload.length ≤ 4080) :
    ∃ plaintext, decryptFrmPayload prim appSkey frmPayload devAddr fcnt uplink = .ok plaintext ∧
      plaintext.length = frmPayload.length := by
  have hnew : newAes appSkey = .ok ⟨appSkey, Or.inl hkey⟩ := dif_pos (Or.inl hkey)
  have hnot : ¬ 255 < (frmPayload.length + 15) / 16 := by omega
  refine ⟨_, by rw [decryptFrmPayload, hnew]; exact if_neg hnot, ?_⟩
  have hstream : ((List.range ((frmPayload.length + 15) / 16)).flatMap fun i =>
      prim.aesBlock ⟨appSkey, Or.inl hkey⟩ (frmBlock devAddr fcnt uplink (i + 1))).length =
      (frmPayload.length + 15) / 16 * 16 := by
    rw [List.length_flatMap, List.map_congr_left (fun _ _ => prim.length_aesBlock _ _)]
    simp
  rw [List.length_zipWith, hstream]
  omega

theorem decryptFrmPayload_raises {appSkey frmPayload : Bytes} (devAddr fcnt : Nat) (uplink : Bool)
    (hblocks : 4080 < frmPayload.length) :
    ¬ Returns (decryptFrmPayload prim appSkey frmPayload devAddr fcnt uplink) := by
  intro h
  obtain ⟨key, -, hrest⟩ := returns_bind_iff.mp h
  rw [if_pos (by omega)] at hrest
  exact not_returns_error _ hrest

theorem decryptedEntries_returns_iff (hkeys : SessionKeysFit d) (frame : DataFrame) :
    Returns (decryptedEntries prim d tables frame) ↔ FrameDecodes d tables frame := by
  unfold decryptedEntries FrameDecodes
  cases hsession : sessionFor d frame with
  | none =>
    refine iff_of_true (returns_ok _) ?_
    intro store key h
    cases h
  | some session =>
    obtain ⟨store, key⟩ := session
    have hlength : key.length = 16 := by
      obtain ⟨store', hstore, hfor⟩ := Option.bind_eq_some_iff.mp hsession
      split at hfor
      · obtain ⟨key', hkey, hpair⟩ := Option.map_eq_some_iff.mp hfor
        cases hpair
        exact hkeys _ frame.devAddr _ hstore hkey
      · cases hfor
    have hfields : (∀ entry ∈ (payloadFieldsForAddr store tables frame.devAddr).getD [],
        entry.ReadableIn frame.frmPayload.length) ↔
        ∀ fields, payloadFieldsForAddr store tables frame.devAddr = some fields →
          ∀ entry ∈ fields, entry.ReadableIn frame.frmPayload.length := by
      cases payloadFieldsForAddr store tables frame.devAddr with
      | none => simp
      | some fields => simp
    constructor
    · intro h store' key' hpair
      cases hpair
      obtain ⟨plaintext, hplain, hrest⟩ := returns_bind_iff.mp h
      have hblocks : frame.frmPayload.length ≤ 4080 := by
        by_contra hmany
        exact decryptFrmPayload_raises prim frame.devAddr frame.fcnt true (Nat.lt_of_not_le hmany)
          ⟨plaintext, hplain⟩
      obtain ⟨plaintext', hplain', hsame⟩ := decryptFrmPayload_returns prim frame.devAddr
        frame.fcnt true hlength hblocks
      obtain rfl := Except.ok.inj (hplain.symm.trans hplain')
      obtain ⟨appFields, happ, -⟩ := returns_bind_iff.mp hrest
      have hread := (decodePayload_returns_iff _ plaintext).mp ⟨appFields, happ⟩
      rw [hsame] at hread
      exact ⟨hblocks, hfields.mp hread⟩
    · intro h
      obtain ⟨hblocks, hread⟩ := h store key rfl
      obtain ⟨plaintext, hplain, hsame⟩ := decryptFrmPayload_returns prim frame.devAddr
        frame.fcnt true hlength hblocks
      refine returns_bind_iff.mpr ⟨plaintext, hplain, ?_⟩
      have happ := (decodePayload_returns_iff
        ((payloadFieldsForAddr store tables frame.devAddr).getD []) plaintext).mpr
          (hsame ▸ hfields.mpr hread)
      obtain ⟨appFields, happ⟩ := happ
      exact returns_bind_iff.mpr ⟨appFields, happ, returns_ok _⟩

def IsDataUp (raw : Bytes) : Prop := frameKind raw = some (2, 0) ∨ frameKind raw = some (4, 0)

theorem decodeDataUp_returns_iff (hkeys : SessionKeysFit d) (raw : Bytes) (confirmed : Bool)
    (signal : Option (SignalMetrics F)) (timestamp : Int) :
    Returns (decodeDataUp prim d tables raw confirmed signal timestamp) ↔
      ∀ frame ∈ dataFrame raw, FrameDecodes d tables frame := by
  unfold decodeDataUp
  cases hframe : dataFrame raw with
  | none =>
    refine iff_of_true (returns_ok _) ?_
    intro frame h
    cases h
  | some frame =>
    rw [returns_bind_iff]
    constructor
    · rintro ⟨added, hadded, -⟩ frame' hmem
      obtain rfl := Option.some.inj hmem
      exact (decryptedEntries_returns_iff prim hkeys frame).mp ⟨added, hadded⟩
    · intro h
      obtain ⟨added, hadded⟩ := (decryptedEntries_returns_iff prim hkeys frame).mpr (h frame rfl)
      exact ⟨added, hadded, returns_ok _⟩

/-- **Decoding a LoRaWAN frame returns** exactly when, if it is a data frame that a session key
    decrypts, it has at most 255 blocks and its device's fields are readable. -/
theorem decode_returns_iff (hkeys : SessionKeysFit d) (raw : Bytes)
    (signal : Option (SignalMetrics F)) (now : ℚ) (timestamp : Int) :
    Returns (decode prim d tables raw signal now timestamp) ↔
      (IsDataUp raw → ∀ frame ∈ dataFrame raw, FrameDecodes d tables frame) := by
  unfold decode IsDataUp
  have hdata : ∀ confirmed, Returns (decodeDataUp prim d tables raw confirmed signal timestamp >>=
      fun packet => .ok (d, packet)) ↔ ∀ frame ∈ dataFrame raw, FrameDecodes d tables frame := by
    intro confirmed
    rw [← decodeDataUp_returns_iff prim hkeys raw confirmed signal timestamp,
      returns_bind_iff]
    constructor
    · rintro ⟨packet, h, -⟩
      exact ⟨packet, h⟩
    · rintro ⟨packet, h⟩
      exact ⟨packet, h, returns_ok _⟩
  split
  · rename_i hkind
    exact iff_of_true (returns_ok _) (by rw [hkind]; simp)
  · rename_i hkind
    exact iff_of_true (returns_ok _) (by rw [hkind]; simp)
  · rename_i hkind
    rw [hdata, imp_iff_right (Or.inl hkind)]
  · rename_i hkind
    rw [hdata, imp_iff_right (Or.inr hkind)]
  · rename_i hkind
    exact iff_of_true (returns_ok _) (by rw [hkind]; simp)
  · rename_i h2 h4 _
    refine iff_of_true (returns_ok _) ?_
    rintro (hkind | hkind)
    · exact absurd hkind h2
    · exact absurd hkind h4

theorem decoder_of_decode {raw : Bytes} {signal : Option (SignalMetrics F)} {now : ℚ}
    {timestamp : Int} {d' : Decoder} {packet : Option (Packet F)}
    (h : decode prim d tables raw signal now timestamp = .ok (d', packet)) :
    d' = receive prim d ⟨raw, now, none⟩ := by
  have hkeep : ∀ confirmed, decodeDataUp prim d tables raw confirmed signal timestamp >>=
      (fun packet => .ok (d, packet)) = .ok (d', packet) → d' = d := by
    intro confirmed hbind
    cases hdata : decodeDataUp prim d tables raw confirmed signal timestamp with
    | error e =>
      rw [hdata] at hbind
      cases hbind
    | ok packet' =>
      rw [hdata] at hbind
      cases hbind
      rfl
  unfold decode at h
  unfold receive
  split at h
  · rename_i hkind
    simp only [hkind]
    refine (congrArg Prod.fst (Except.ok.inj h)).symm.trans ?_
    unfold decodeJoinRequest
    cases parseJoinRequest raw now <;> rfl
  · rename_i hkind
    simp only [hkind]
    refine (congrArg Prod.fst (Except.ok.inj h)).symm.trans ?_
    unfold decodeJoinAccept
    split <;> rfl
  · rename_i hkind
    simp only [hkind]
    exact hkeep false h
  · rename_i hkind
    simp only [hkind]
    exact hkeep true h
  · rename_i hkind
    simp only [hkind]
    cases h
    rfl
  · rename_i h0 h1 _ _ _
    cases h
    split
    · rename_i hkind
      exact absurd hkind h0
    · rename_i hkind
      exact absurd hkind h1
    · rfl

theorem sessionKeysFit_receive (hkeys : SessionKeysFit d) (e : Reception) :
    SessionKeysFit (receive prim d e) := by
  intro store devAddr key hstore hkey
  rcases receive_keystore prim d e with hsame |
    ⟨store', request, session, hstore', -, -, hsession, hinstall⟩
  · rw [hsame] at hstore
    exact hkeys store devAddr key hstore hkey
  · rw [hinstall, Option.some.injEq] at hstore
    subst hstore
    rw [Keystore.setSessionKey, OrderedDict.get?_set] at hkey
    split at hkey
    · obtain rfl := Option.some.inj hkey
      simp only [sessionOf, Option.bind_eq_bind, Option.bind_eq_some_iff] at hsession
      obtain ⟨roots, -, fields, -, hsession⟩ := hsession
      cases hsession
      exact prim.length_aesBlock _ _
    · exact hkeys store' devAddr key hstore' hkey

end Decoding

/-! ### Configured devices -/

section Configuration

variable {F : Type} (upper : String → String)

/-- `LoRaWANDeviceEntry`: a device as the request validator lets it through. -/
structure LoRaWANDeviceEntry (F : Type) where
  devEui : String
  appKey : AesKey
  nwkKey : AesKey
  keys_length : appKey.bytes.length = 16 ∧ nwkKey.bytes.length = 16
  payloadFields : List (PayloadFieldEntry F) := []

/-- `add_device`: a device without fields keeps those it had. -/
def addDevice (devEui : String) (entry : LoRaWANDeviceEntry F) (store : Keystore)
    (tables : FieldTables F) : Keystore × FieldTables F :=
  ({ store with rootKeys := store.rootKeys.set (upper devEui) (entry.appKey, entry.nwkKey) },
    if entry.payloadFields.isEmpty then tables
    else tables.set (upper devEui) entry.payloadFields)

/-- What `update_lorawan_config` does to the live key store. -/
def updateLorawanConfig (devices : List (LoRaWANDeviceEntry F)) (d : Decoder)
    (tables : FieldTables F) : Decoder × FieldTables F :=
  match d.keystore with
  | none => (d, tables)
  | some store =>
    let named : OrderedDict String (LoRaWANDeviceEntry F) :=
      OrderedDict.ofList (devices.map fun entry => (upper entry.devEui, entry))
    let (store, tables) := named.items.foldl
      (fun (kept : Keystore × FieldTables F) device =>
        addDevice upper device.1 device.2 kept.1 kept.2) (store, tables)
    ({ d with keystore := some store }, tables)

theorem sessionKeys_foldl_addDevice (named : List (String × LoRaWANDeviceEntry F))
    (kept : Keystore × FieldTables F) :
    (named.foldl (fun (kept : Keystore × FieldTables F) device =>
      addDevice upper device.1 device.2 kept.1 kept.2) kept).1.sessionKeys = kept.1.sessionKeys := by
  induction named generalizing kept with
  | nil => rfl
  | cons device rest ih => exact ih _

theorem sessionKeysFit_updateLorawanConfig {d : Decoder} (hkeys : SessionKeysFit d)
    (devices : List (LoRaWANDeviceEntry F)) (tables : FieldTables F) :
    SessionKeysFit (updateLorawanConfig upper devices d tables).1 := by
  unfold updateLorawanConfig
  split
  · exact hkeys
  · rename_i store hstore
    intro store' devAddr key hstore' hkey
    obtain rfl := Option.some.inj hstore'
    rw [sessionKeys_foldl_addDevice] at hkey
    exact hkeys store devAddr key hstore hkey

end Configuration

end Meshpoint.LorawanFrames
