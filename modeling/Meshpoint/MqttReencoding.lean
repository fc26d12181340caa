import Meshpoint.MqttFormatter
import Meshpoint.PortnumHandlers

/-!
# What a payload becomes on its way through the MQTT envelope

`mqtt_formatter` encodes a decoded payload again, from its own table of keys, and a
subscriber decodes the bytes with the handlers of `portnum_handlers`.  The protobuf
classes stay parameters; `Reencodes` says of them that the fields of a message that
was parsed, set on a new message, are read back.
-/

namespace Meshpoint.MqttReencoding

open JsonText ByteCodec PyText MqttFormatter PortnumHandlers

variable {F : Type}

/-- The telemetry values, under the keys of the handlers. -/
def TELEMETRY_FIELDS : List String :=
  ["battery_level", "voltage", "channel_utilization", "air_util_tx", "uptime_seconds",
    "temperature", "humidity", "barometric_pressure"]

def NODEINFO_FIELDS : List String := ["id", "long_name", "short_name", "hw_model", "role"]

def KeepsFields (data data' : Entries F) : Prop :=
  ∀ key ∈ TELEMETRY_FIELDS ++ NODEINFO_FIELDS, getValue data' key = getValue data key

/-! ### Fields set on a message -/

section Messages

variable [PyFloat F]

def setInt (n : Int) : Option Int := if n = 0 then none else some n
def setText (s : String) : Option String := if s = "" then none else some s
def setFloat (x : F) : Option F := if PyFloat.truthy x then some x else none

/-- The fields of a `User`, its key aside. -/
def userFields (user : User) : UserFields :=
  ⟨setText user.id, setText user.longName, setText user.shortName, setInt user.hwModel,
    setInt user.role⟩

/-- A field is not set, or set to the value the parsed message has. -/
def SetFrom {M α : Type} (field : Option α) (message : Option M) (value : M → Option α) : Prop :=
  field = none ∨ field = message.bind value

/-- The fields set on a `Telemetry` are fields of another one, and of its one variant. -/
structure PartOf (fields : TelemetryFields F) (telem : Telemetry F) : Prop where
  time : fields.time = none
  battery : SetFrom fields.batteryLevel telem.deviceMetrics fun dm => setInt dm.batteryLevel
  voltage : SetFrom fields.voltage telem.deviceMetrics fun dm => setFloat dm.voltage
  channel : SetFrom fields.channelUtilization telem.deviceMetrics fun dm =>
    setFloat dm.channelUtilization
  air : SetFrom fields.airUtilTx telem.deviceMetrics fun dm => setFloat dm.airUtilTx
  temperature : SetFrom fields.temperature telem.environmentMetrics fun em =>
    setFloat em.temperature
  humidity : SetFrom fields.relativeHumidity telem.environmentMetrics fun em =>
    setFloat em.relativeHumidity
  pressure : SetFrom fields.barometricPressure telem.environmentMetrics fun em =>
    setFloat em.barometricPressure

/-- What a message with these fields is read as; a variant is there when one of its fields
    was set, and a field that was not set reads as its default. -/
def readBack (zero : F) (fields : TelemetryFields F) : Telemetry F where
  deviceMetrics :=
    if fields.batteryLevel.isSome || fields.voltage.isSome || fields.channelUtilization.isSome ||
        fields.airUtilTx.isSome then
      some ⟨fields.batteryLevel.getD 0, fields.voltage.getD zero,
        fields.channelUtilization.getD zero, fields.airUtilTx.getD zero, 0⟩
    else none
  localStats := none
  environmentMetrics :=
    if fields.temperature.isSome || fields.relativeHumidity.isSome ||
        fields.barometricPressure.isSome then
      some ⟨fields.temperature.getD zero, fields.relativeHumidity.getD zero,
        fields.barometricPressure.getD zero⟩
    else none
  powerMetrics := none

/-- The protobuf classes read back the fields of a message they parsed; `zero` is the
    default of a float field. -/
structure Reencodes (zero : F) (rt : Runtime F) (pb : AppProtobuf F) : Prop where
  zero_falsy : PyFloat.truthy zero = false
  user : ∀ payload user, pb.user payload = some user → ∃ bytes,
    rt.user (userFields user) = some bytes ∧ pb.user bytes = some { user with publicKey := [] }
  telemetry : ∀ payload telem, pb.telemetry payload = some telem →
    ∀ fields, PartOf fields telem → ∃ bytes,
      rt.telemetry fields = some bytes ∧ pb.telemetry bytes = some (readBack zero fields)

end Messages

/-! ### What the handlers report -/

theorem get?_ofList_append (key : String) (l m : List (String × Value F)) :
    (Entries.ofList (l ++ m)).get? key =
      ((Entries.ofList l).get? key).or ((Entries.ofList m).get? key) := by
  induction l with
  | nil => rfl
  | cons entry l ih =>
    by_cases hk : entry.1 = key
    · simp only [List.cons_append, Entries.ofList, Entries.get?, if_pos hk, Option.some_or]
    · simp only [List.cons_append, Entries.ofList, Entries.get?, if_neg hk, ih]

def variantEntries {M : Type} (entries : M → List (String × Value F)) (variant : Option M) :
    List (String × Value F) :=
  (variant.map entries).getD []

theorem get?_variantEntries {M : Type} (key : String) (entries : M → List (String × Value F))
    (variant : Option M) : (Entries.ofList (variantEntries entries variant)).get? key =
      variant.bind fun m => (Entries.ofList (entries m)).get? key := by
  cases variant with
  | none => rfl
  | some m => rfl

theorem get?_ofList_of_notMem {key : String} {l : List (String × Value F)}
    (h : key ∉ l.map Prod.fst) : (Entries.ofList l).get? key = none := by
  induction l with
  | nil => rfl
  | cons entry l ih =>
    rw [List.map_cons, List.mem_cons, not_or] at h
    simp only [Entries.ofList, Entries.get?, if_neg (Ne.symm h.1), ih h.2]

theorem get?_variantEntries_of_notMem {M : Type} {key : String} {names : List String}
    {entries : M → List (String × Value F)} (hnames : ∀ m, (entries m).map Prod.fst = names)
    (h : key ∉ names) (variant : Option M) :
    (Entries.ofList (variantEntries entries variant)).get? key = none := by
  cases variant with
  | none => rfl
  | some m => exact get?_ofList_of_notMem (l := entries m) (by rwa [hnames])

/-- The values of a NodeInfo dictionary. -/
structure UserValues (user : User) (data : Entries F) : Prop where
  id : getValue data "id" = textOrNone user.id
  longName : getValue data "long_name" = textOrNone user.longName
  shortName : getValue data "short_name" = textOrNone user.shortName
  hwModel : getValue data "hw_model" = enumOrNone user.hwModel
  role : getValue data "role" = enumOrNone user.role
  telemetry : ∀ key ∈ TELEMETRY_FIELDS, getValue data key = .null

theorem exists_userValues (pb : AppProtobuf F) {payload : Bytes} {user : User}
    (huser : pb.user payload = some user) : ∃ data,
      decodeNodeinfo pb payload = (some data, .nodeinfo) ∧ data.isEmpty = false ∧
        UserValues user data := by
  refine ⟨_, by unfold decodeNodeinfo; rw [huser]; rfl, rfl, ⟨rfl, rfl, rfl, rfl, rfl, ?_⟩⟩
  intro key hkey
  simp only [TELEMETRY_FIELDS, List.mem_cons, List.not_mem_nil, or_false] at hkey
  rcases hkey with rfl | rfl | rfl | rfl | rfl | rfl | rfl | rfl <;> rfl

section Handlers

variable [PyFloat F]

def deviceEntries (dm : DeviceMetrics F) : List (String × Value F) :=
  [("battery_level", intOrNone dm.batteryLevel), ("voltage", floatOrNone dm.voltage),
    ("channel_utilization", floatOrNone dm.channelUtilization),
    ("air_util_tx", floatOrNone dm.airUtilTx), ("uptime_seconds", intOrNone dm.uptimeSeconds)]

def statsEntries (ls : LocalStats F) : List (String × Value F) :=
  [("local_uptime_seconds", intOrNone ls.uptimeSeconds),
    ("local_channel_utilization", floatOrNone ls.channelUtilization),
    ("local_air_util_tx", floatOrNone ls.airUtilTx), ("num_packets_tx", intOrNone ls.numPacketsTx),
    ("num_packets_rx", intOrNone ls.numPacketsRx)]

def environmentEntries (em : EnvironmentMetrics F) : List (String × Value F) :=
  [("temperature", floatOrNone em.temperature), ("humidity", floatOrNone em.relativeHumidity),
    ("barometric_pressure", floatOrNone em.barometricPressure)]

def powerEntries (pm : PowerMetrics F) : List (String × Value F) :=
  [("power_ch1_voltage", floatOrNone pm.ch1Voltage),
    ("power_ch1_current", floatOrNone pm.ch1Current),
    ("power_ch2_voltage", floatOrNone pm.ch2Voltage),
    ("power_ch2_current", floatOrNone pm.ch2Current)]

def telemetryEntries (payload : Bytes) (telem : Telemetry F) : Entries F :=
  Entries.ofList ([("telemetry_variant", .str (telemetryVariant payload telem))] ++
    variantEntries deviceEntries telem.deviceMetrics ++
    variantEntries statsEntries telem.localStats ++
    variantEntries environmentEntries telem.environmentMetrics ++
    variantEntries powerEntries telem.powerMetrics)

theorem decodeTelemetry_eq (pb : AppProtobuf F) (payload : Bytes) : decodeTelemetry pb payload =
    ((pb.telemetry payload).map (telemetryEntries payload), .telemetry) := by
  unfold decodeTelemetry
  cases pb.telemetry payload with
  | none => rfl
  | some telem =>
    obtain ⟨device, stats, environment, power⟩ := telem
    cases device <;> cases stats <;> cases environment <;> cases power <;> rfl

def STATS_NAMES : List String :=
  ["local_uptime_seconds", "local_channel_utilization", "local_air_util_tx", "num_packets_tx",
    "num_packets_rx"]

def POWER_NAMES : List String :=
  ["power_ch1_voltage", "power_ch1_current", "power_ch2_voltage", "power_ch2_current"]

/-- What the handler reports of the device and of its environment comes from these variants. -/
theorem getValue_telemetryEntries (payload : Bytes) (telem : Telemetry F) {key : String}
    (hkey : key ∉ ["telemetry_variant"] ++ STATS_NAMES ++ POWER_NAMES) :
    getValue (telemetryEntries payload telem) key =
      ((telem.deviceMetrics.bind fun dm => (Entries.ofList (deviceEntries dm)).get? key).or
        (telem.environmentMetrics.bind fun em =>
          (Entries.ofList (environmentEntries em)).get? key)).getD .null := by
  rw [List.mem_append, List.mem_append, not_or, not_or] at hkey
  obtain ⟨⟨hvariant, hstats⟩, hpower⟩ := hkey
  have hvariant : (Entries.ofList
      [("telemetry_variant", .str (telemetryVariant payload telem))] : Entries F).get? key = none :=
    get?_ofList_of_notMem hvariant
  have hstatsNames : ∀ ls : LocalStats F, (statsEntries ls).map Prod.fst = STATS_NAMES :=
    fun _ => rfl
  have hpowerNames : ∀ pm : PowerMetrics F, (powerEntries pm).map Prod.fst = POWER_NAMES :=
    fun _ => rfl
  have hstats := get?_variantEntries_of_notMem hstatsNames hstats telem.localStats
  have hpower := get?_variantEntries_of_notMem hpowerNames hpower telem.powerMetrics
  unfold getValue telemetryEntries
  rw [get?_ofList_append, get?_ofList_append, get?_ofList_append, get?_ofList_append, hstats,
    hpower, hvariant, get?_variantEntries, get?_variantEntries, Option.none_or, Option.or_none,
    Option.or_none]

/-- The values of a telemetry dictionary. -/
structure TelemetryValues (telem : Telemetry F) (data : Entries F) : Prop where
  time : getValue data "time" = .null
  battery : getValue data "battery_level" =
    (telem.deviceMetrics.map fun dm => intOrNone dm.batteryLevel).getD .null
  voltage : getValue data "voltage" =
    (telem.deviceMetrics.map fun dm => floatOrNone dm.voltage).getD .null
  channel : getValue data "channel_utilization" =
    (telem.deviceMetrics.map fun dm => floatOrNone dm.channelUtilization).getD .null
  air : getValue data "air_util_tx" =
    (telem.deviceMetrics.map fun dm => floatOrNone dm.airUtilTx).getD .null
  uptime : getValue data "uptime_seconds" =
    (telem.deviceMetrics.map fun dm => intOrNone dm.uptimeSeconds).getD .null
  temperature : getValue data "temperature" =
    (telem.environmentMetrics.map fun em => floatOrNone em.temperature).getD .null
  humidity : getValue data "humidity" =
    (telem.environmentMetrics.map fun em => floatOrNone em.relativeHumidity).getD .null
  encoderHumidity : getValue data "relative_humidity" = .null
  pressure : getValue data "barometric_pressure" =
    (telem.environmentMetrics.map fun em => floatOrNone em.barometricPressure).getD .null
  nodeinfo : ∀ key ∈ NODEINFO_FIELDS, getValue data key = .null

theorem telemetryValues (payload : Bytes) (telem : Telemetry F) :
    TelemetryValues telem (telemetryEntries payload telem) := by
  have hvalue := fun key hkey => @getValue_telemetryEntries F _ payload telem key hkey
  constructor
  case nodeinfo =>
    intro key hkey
    simp only [NODEINFO_FIELDS, List.mem_cons, List.not_mem_nil, or_false] at hkey
    rcases hkey with rfl | rfl | rfl | rfl | rfl
    all_goals
      rw [hvalue _ (by decide)]
      cases telem.deviceMetrics <;> cases telem.environmentMetrics <;> rfl
  all_goals
    rw [hvalue _ (by decide)]
    cases telem.deviceMetrics <;> cases telem.environmentMetrics <;> rfl

end Handlers

/-! ### What the encoder sets -/

theorem field_of_null {α : Type} {convert : Value F → Option α} {data : Entries F} {key : String}
    (h : getValue data key = .null) : field convert data key = some none := by
  unfold field
  rw [h]
  rfl

theorem field_of_variant {M α : Type} {convert : Value F → Option α} {data : Entries F}
    {key : String} {variant : Option M} {value : M → Value F} {set : M → Option α}
    (h : getValue data key = (variant.map value).getD .null)
    (hset : ∀ m, getValue data key = value m → field convert data key = some (set m)) :
    field convert data key = some (variant.bind set) := by
  cases variant with
  | none => exact field_of_null h
  | some m => exact hset m h

theorem intOrNone_getD {M : Type} (variant : Option M) (value : M → Int) :
    intOrNone ((variant.bind fun m => setInt (value m)).getD 0) =
      ((variant.map fun m => intOrNone (value m)).getD .null : Value F) := by
  cases variant with
  | none => rfl
  | some m =>
    simp only [Option.bind_some, Option.map_some, Option.getD_some, setInt]
    split
    · rename_i h
      rw [h]
      rfl
    · rfl

theorem keepsFields_user {user user' : User} {data data' : Entries F} (h : UserValues user data)
    (h' : UserValues user' data') (hsame : user' = { user with publicKey := user'.publicKey }) :
    KeepsFields data data' := by
  rw [hsame] at h'
  refine List.forall_mem_append.mpr ⟨fun key hkey => ?_, ?_⟩
  · rw [h.telemetry key hkey, h'.telemetry key hkey]
  · unfold NODEINFO_FIELDS
    simp only [List.forall_mem_cons, h'.id, h'.longName, h'.shortName, h'.hwModel, h'.role, h.id,
      h.longName, h.shortName, h.hwModel, h.role, List.not_mem_nil, true_and, false_imp_iff,
      implies_true]

section Encoders

variable [PyFloat F]

theorem field_of_int {data : Entries F} {key : String} {n : Int}
    (h : getValue data key = intOrNone n) : field toInt data key = some (setInt n) := by
  unfold field
  rw [h]
  unfold intOrNone setInt
  split <;> rfl

theorem field_of_enum {data : Entries F} {key : String} {n : Int}
    (h : getValue data key = enumOrNone n) : field toInt data key = some (setInt n) := by
  unfold field
  rw [h]
  unfold enumOrNone setInt
  split
  · rfl
  · change (intOfText 10 (toString n)).map some = _
    rw [intOfText_toString]
    rfl

theorem field_of_float {rt : Runtime F} {data : Entries F} {key : String} {x : F}
    (h : getValue data key = floatOrNone x) :
    field (toFloat rt) data key = some (setFloat x) := by
  unfold field
  rw [h]
  unfold floatOrNone setFloat
  split <;> rfl

theorem textField_of_text {rt : Runtime F} {data : Entries F} {key : String} {s : String}
    (h : getValue data key = textOrNone s) : textField rt data key = setText s := by
  unfold textField
  rw [h]
  unfold textOrNone setText
  split
  · rfl
  · rename_i hs
    simp [truthy, hs]

/-- The fields the encoder sets on a `Telemetry`; it looks for the humidity under another
    name and for no uptime at all. -/
def encodedFields (telem : Telemetry F) : TelemetryFields F where
  time := none
  batteryLevel := telem.deviceMetrics.bind fun dm => setInt dm.batteryLevel
  voltage := telem.deviceMetrics.bind fun dm => setFloat dm.voltage
  channelUtilization := telem.deviceMetrics.bind fun dm => setFloat dm.channelUtilization
  airUtilTx := telem.deviceMetrics.bind fun dm => setFloat dm.airUtilTx
  temperature := telem.environmentMetrics.bind fun em => setFloat em.temperature
  relativeHumidity := none
  barometricPressure := telem.environmentMetrics.bind fun em => setFloat em.barometricPressure

theorem partOf_encodedFields (telem : Telemetry F) : PartOf (encodedFields telem) telem :=
  ⟨rfl, Or.inr rfl, Or.inr rfl, Or.inr rfl, Or.inr rfl, Or.inr rfl, Or.inl rfl, Or.inr rfl⟩

theorem encodeTelemetry_eq (rt : Runtime F) {telem : Telemetry F} {data : Entries F}
    (h : TelemetryValues telem data) :
    encodeTelemetry rt data = rt.telemetry (encodedFields telem) := by
  unfold encodeTelemetry
  rw [field_of_null h.time, field_of_variant h.battery fun _ => field_of_int,
    field_of_variant h.voltage fun _ => field_of_float,
    field_of_variant h.channel fun _ => field_of_float,
    field_of_variant h.air fun _ => field_of_float,
    field_of_variant h.temperature fun _ => field_of_float, field_of_null h.encoderHumidity,
    field_of_variant h.pressure fun _ => field_of_float]
  rfl

theorem encodeNodeinfo_eq (rt : Runtime F) {user : User} {data : Entries F}
    (h : UserValues user data) : encodeNodeinfo rt data = rt.user (userFields user) := by
  unfold encodeNodeinfo
  rw [field_of_enum h.hwModel, field_of_enum h.role, textField_of_text h.id,
    textField_of_text h.longName, textField_of_text h.shortName]
  rfl

/-! ### What is read back -/

theorem floatOrNone_of_falsy {x : F} (h : PyFloat.truthy x = false) : floatOrNone x = .null := by
  unfold floatOrNone
  rw [h]
  rfl

theorem floatOrNone_getD {zero : F} (hzero : PyFloat.truthy zero = false) {M : Type}
    (variant : Option M) (value : M → F) :
    floatOrNone ((variant.bind fun m => setFloat (value m)).getD zero) =
      (variant.map fun m => floatOrNone (value m)).getD .null := by
  have hnull := floatOrNone_of_falsy hzero
  cases variant with
  | none => exact hnull
  | some m =>
    simp only [Option.bind_some, Option.map_some, Option.getD_some, setFloat]
    split
    · rfl
    · rename_i h
      rw [Option.getD_none, hnull, floatOrNone, if_neg h]

section ReadBack

variable {zero : F} (hzero : PyFloat.truthy zero = false) (fields : TelemetryFields F)

include hzero

/-- A field of the device reads back as it was set, whether or not the variant is there. -/
theorem device_readBack {data : Entries F} (h : TelemetryValues (readBack zero fields) data) :
    getValue data "battery_level" = intOrNone (fields.batteryLevel.getD 0) ∧
      getValue data "voltage" = floatOrNone (fields.voltage.getD zero) ∧
      getValue data "channel_utilization" = floatOrNone (fields.channelUtilization.getD zero) ∧
      getValue data "air_util_tx" = floatOrNone (fields.airUtilTx.getD zero) ∧
      getValue data "uptime_seconds" = .null := by
  have hnull := floatOrNone_of_falsy hzero
  rw [h.battery, h.voltage, h.channel, h.air, h.uptime]
  unfold readBack
  simp only
  split
  · exact ⟨rfl, rfl, rfl, rfl, rfl⟩
  · rename_i hunset
    simp only [Bool.not_eq_true, Bool.or_eq_false_iff, Option.isSome_eq_false_iff,
      Option.isNone_iff_eq_none] at hunset
    obtain ⟨⟨⟨hbattery, hvoltage⟩, hchannel⟩, hair⟩ := hunset
    rw [hbattery, hvoltage, hchannel, hair]
    simp only [Option.map_none, Option.getD_none, hnull]
    exact ⟨rfl, trivial, trivial, trivial, trivial⟩

theorem environment_readBack {data : Entries F}
    (h : TelemetryValues (readBack zero fields) data) :
    getValue data "temperature" = floatOrNone (fields.temperature.getD zero) ∧
      getValue data "humidity" = floatOrNone (fields.relativeHumidity.getD zero) ∧
      getValue data "barometric_pressure" =
        floatOrNone (fields.barometricPressure.getD zero) := by
  have hnull := floatOrNone_of_falsy hzero
  rw [h.temperature, h.humidity, h.pressure]
  unfold readBack
  simp only
  split
  · exact ⟨rfl, rfl, rfl⟩
  · rename_i hunset
    simp only [Bool.not_eq_true, Bool.or_eq_false_iff, Option.isSome_eq_false_iff,
      Option.isNone_iff_eq_none] at hunset
    obtain ⟨⟨htemperature, hhumidity⟩, hpressure⟩ := hunset
    rw [htemperature, hhumidity, hpressure]
    simp only [Option.map_none, Option.getD_none, hnull]
    exact ⟨trivial, trivial, trivial⟩

end ReadBack

/-! ### The round trip -/

theorem keepsFields_telemetry {zero : F} (hzero : PyFloat.truthy zero = false)
    {telem : Telemetry F} {data data' : Entries F} (h : TelemetryValues telem data)
    (h' : TelemetryValues (readBack zero (encodedFields telem)) data') :
    KeepsFields data data' ↔
      getValue data "uptime_seconds" = .null ∧ getValue data "humidity" = .null := by
  obtain ⟨hbattery, hvoltage, hchannel, hair, huptime⟩ := device_readBack hzero _ h'
  obtain ⟨htemperature, hhumidity, hpressure⟩ := environment_readBack hzero _ h'
  have hnames : ∀ key ∈ NODEINFO_FIELDS, getValue data' key = getValue data key :=
    fun key hkey => by rw [h.nodeinfo key hkey, h'.nodeinfo key hkey]
  unfold KeepsFields
  rw [List.forall_mem_append, and_iff_left hnames]
  -- what is set comes back; the humidity and the uptime are not set
  simp only [encodedFields] at hbattery hvoltage hchannel hair htemperature hhumidity hpressure
  rw [intOrNone_getD, ← h.battery] at hbattery
  rw [floatOrNone_getD hzero, ← h.voltage] at hvoltage
  rw [floatOrNone_getD hzero, ← h.channel] at hchannel
  rw [floatOrNone_getD hzero, ← h.air] at hair
  rw [floatOrNone_getD hzero, ← h.temperature] at htemperature
  rw [floatOrNone_getD hzero, ← h.pressure] at hpressure
  rw [Option.getD_none, floatOrNone_of_falsy hzero] at hhumidity
  unfold TELEMETRY_FIELDS
  simp only [List.forall_mem_cons, hbattery, hvoltage, hchannel, hair, huptime, htemperature,
    hhumidity, hpressure, List.not_mem_nil, true_and, and_true, false_imp_iff, implies_true,
    eq_comm (a := (Value.null : Value F))]

variable {zero : F} {rt : Runtime F} {pb : AppProtobuf F}

theorem dispatchPortnum_nodeinfo (pb : AppProtobuf F) (payload : Bytes) :
    dispatchPortnum pb 4 payload = decodeNodeinfo pb payload := rfl

theorem dispatchPortnum_telemetry (pb : AppProtobuf F) (payload : Bytes) :
    dispatchPortnum pb 67 payload = decodeTelemetry pb payload := rfl

/-- **What comes back.**  A NodeInfo or telemetry payload that the handlers report is encoded,
    and the handlers report the same values of the encoding exactly when the payload has
    neither an uptime nor a humidity. -/
theorem reencoded_iff (h : Reencodes zero rt pb) {portnum : Int}
    (hportnum : portnum = 4 ∨ portnum = 67) {payload : Bytes} {data : Entries F}
    (hdata : (dispatchPortnum pb portnum payload).1 = some data) {packet : Packet F}
    (hpayload : packet.decodedPayload = some data)
    (htype : packet.packetType = (dispatchPortnum pb portnum payload).2) :
    (∃ bytes data', encodePortnumPayload rt packet = some bytes ∧
        dispatchPortnum pb portnum bytes = (some data', packet.packetType) ∧
        KeepsFields data data') ↔
      getValue data "uptime_seconds" = .null ∧ getValue data "humidity" = .null := by
  rcases hportnum with rfl | rfl
  · simp only [dispatchPortnum_nodeinfo] at hdata htype ⊢
    obtain ⟨user, huser, -⟩ := Option.map_eq_some_iff.mp hdata
    obtain ⟨data₀, hdecode, hnonempty, hvalues⟩ := exists_userValues pb huser
    obtain rfl : data₀ = data := by
      rw [hdecode] at hdata
      exact Option.some.inj hdata
    rw [hdecode] at htype
    obtain ⟨bytes, hset, hback⟩ := h.user payload user huser
    obtain ⟨data', hdecode', -, hvalues'⟩ := exists_userValues pb hback
    refine iff_of_true ⟨bytes, data', ?_, ?_, keepsFields_user hvalues hvalues' rfl⟩
      ⟨hvalues.telemetry _ (by decide), hvalues.telemetry _ (by decide)⟩
    · rw [← hset, ← encodeNodeinfo_eq rt hvalues]
      simp only [encodePortnumPayload, hpayload, hnonempty, htype]
      rfl
    · rw [hdecode', htype]
  · simp only [dispatchPortnum_telemetry, decodeTelemetry_eq] at hdata htype ⊢
    obtain ⟨telem, htelem, rfl⟩ := Option.map_eq_some_iff.mp hdata
    have hvalues := telemetryValues payload telem
    obtain ⟨bytes, hset, hback⟩ :=
      h.telemetry payload telem htelem _ (partOf_encodedFields telem)
    have hencode : encodePortnumPayload rt packet = some bytes := by
      rw [← hset, ← encodeTelemetry_eq rt hvalues]
      simp only [encodePortnumPayload, hpayload, htype]
      rfl
    rw [← keepsFields_telemetry h.zero_falsy hvalues (telemetryValues bytes _), hencode, htype]
    constructor
    · rintro ⟨bytes', data', hbytes, hdecode, hkeeps⟩
      obtain rfl := Option.some.inj hbytes
      rw [hback, Option.map_some, Prod.mk.injEq, Option.some.injEq] at hdecode
      rwa [← hdecode.1] at hkeeps
    · intro hkeeps
      exact ⟨bytes, _, rfl, by rw [hback]; rfl, hkeeps⟩

end Encoders

/-! ### A device report -/

/-- A `Telemetry` with a battery level of 100, a voltage of 4.0 and an uptime of an hour. -/
def hourReport : Bytes := [0x12, 0x0a, 0x08, 0x64, 0x15, 0, 0, 0x80, 0x40, 0x28, 0x90, 0x1c]

/-- The serialised fields of `hourReport`; other values are left out. -/
def reportBytes (fields : TelemetryFields WholeFloat) : Bytes :=
  let battery := if fields.batteryLevel = some 100 then [0x08, 0x64] else []
  let voltage := if fields.voltage = some ⟨4⟩ then [0x15, 0, 0, 0x80, 0x40] else []
  match battery ++ voltage with
  | [] => []
  | inner => [0x12, UInt8.ofNat inner.length] ++ inner

def reportDevice (batteryLevel : Int) (voltage : Int) (uptime : Int) : Telemetry WholeFloat :=
  ⟨some ⟨batteryLevel, ⟨voltage⟩, ⟨0⟩, ⟨0⟩, uptime⟩, none, none, none⟩

/-- The parser of `hourReport` and of what `reportBytes` writes. -/
def parseReport (bytes : Bytes) : Option (Telemetry WholeFloat) :=
  if bytes = hourReport then some (reportDevice 100 4 3600)
  else if bytes = [0x12, 0x07, 0x08, 0x64, 0x15, 0, 0, 0x80, 0x40] then some (reportDevice 100 4 0)
  else if bytes = [0x12, 0x02, 0x08, 0x64] then some (reportDevice 100 0 0)
  else if bytes = [0x12, 0x05, 0x15, 0, 0, 0x80, 0x40] then some (reportDevice 0 4 0)
  else if bytes = [] then some ⟨none, none, none, none⟩
  else none

def reportRuntime : Runtime WholeFloat :=
  { asciiRuntime WholeFloat with telemetry := fun fields => some (reportBytes fields) }

def reportProtobuf : AppProtobuf WholeFloat :=
  { (default : AppProtobuf WholeFloat) with telemetry := parseReport }

theorem SetFrom.eq_none {M α : Type} {field : Option α} {message : Option M}
    {value : M → Option α} (h : SetFrom field message value) (hnone : message.bind value = none) :
    field = none :=
  h.elim id fun h => h.trans hnone

theorem parseReport_cases {bytes : Bytes} {telem : Telemetry WholeFloat}
    (h : parseReport bytes = some telem) :
    telem = ⟨none, none, none, none⟩ ∨ ∃ batteryLevel voltage uptime,
      (batteryLevel = 0 ∨ batteryLevel = 100) ∧ (voltage = 0 ∨ voltage = 4) ∧
        telem = reportDevice batteryLevel voltage uptime := by
  unfold parseReport at h
  split at h
  · exact Or.inr ⟨100, 4, 3600, Or.inr rfl, Or.inr rfl, (Option.some.inj h).symm⟩
  split at h
  · exact Or.inr ⟨100, 4, 0, Or.inr rfl, Or.inr rfl, (Option.some.inj h).symm⟩
  split at h
  · exact Or.inr ⟨100, 0, 0, Or.inr rfl, Or.inl rfl, (Option.some.inj h).symm⟩
  split at h
  · exact Or.inr ⟨0, 4, 0, Or.inl rfl, Or.inr rfl, (Option.some.inj h).symm⟩
  split at h
  · exact Or.inl (Option.some.inj h).symm
  · cases h

theorem readBack_reportBytes {batteryLevel : Option Int} {voltage : Option WholeFloat}
    (hbattery : batteryLevel = none ∨ batteryLevel = some 100)
    (hvoltage : voltage = none ∨ voltage = some ⟨4⟩) :
    parseReport (reportBytes ⟨none, batteryLevel, voltage, none, none, none, none, none⟩) =
      some (readBack ⟨0⟩ ⟨none, batteryLevel, voltage, none, none, none, none, none⟩) := by
  rcases hbattery with rfl | rfl <;> rcases hvoltage with rfl | rfl <;> rfl

theorem reencodes_report : Reencodes ⟨0⟩ reportRuntime reportProtobuf where
  zero_falsy := rfl
  user := nofun
  telemetry := by
    rintro payload telem htelem ⟨time, battery, voltage, channel, air, temperature, humidity,
      pressure⟩ hpart
    refine ⟨_, rfl, ?_⟩
    obtain rfl : time = none := hpart.time
    rcases parseReport_cases htelem with rfl | ⟨level, volts, uptime, hlevel, hvolts, rfl⟩
    · obtain rfl : battery = none := hpart.battery.eq_none rfl
      obtain rfl : voltage = none := hpart.voltage.eq_none rfl
      obtain rfl : channel = none := hpart.channel.eq_none rfl
      obtain rfl : air = none := hpart.air.eq_none rfl
      obtain rfl : temperature = none := hpart.temperature.eq_none rfl
      obtain rfl : humidity = none := hpart.humidity.eq_none rfl
      obtain rfl : pressure = none := hpart.pressure.eq_none rfl
      rfl
    · have hbattery : battery = none ∨ battery = some 100 := by
        rcases hlevel with rfl | rfl
        · exact Or.inl (hpart.battery.eq_none rfl)
        · exact hpart.battery
      have hvoltage : voltage = none ∨ voltage = some ⟨4⟩ := by
        rcases hvolts with rfl | rfl
        · exact Or.inl (hpart.voltage.eq_none rfl)
        · exact hpart.voltage
      obtain rfl : channel = none := hpart.channel.eq_none rfl
      obtain rfl : air = none := hpart.air.eq_none rfl
      obtain rfl : temperature = none := hpart.temperature.eq_none rfl
      obtain rfl : humidity = none := hpart.humidity.eq_none rfl
      obtain rfl : pressure = none := hpart.pressure.eq_none rfl
      exact readBack_reportBytes hbattery hvoltage

def telemetryPacket (payload : Option (Entries WholeFloat)) : Packet WholeFloat where
  packetId := "12345678"
  sourceId := "11223344"
  destinationId := "ffffffff"
  protocol := .meshtastic
  packetType := .telemetry
  decodedPayload := payload
  timestamp := 1700000000000000

def levelReport : Bytes := [0x12, 0x07, 0x08, 0x64, 0x15, 0, 0, 0x80, 0x40]

theorem reencoded_iff_report :
    ∃ data bytes data', dispatchPortnum reportProtobuf 67 levelReport = (some data, .telemetry) ∧
      encodePortnumPayload reportRuntime (telemetryPacket (some data)) = some bytes ∧
      dispatchPortnum reportProtobuf 67 bytes = (some data', .telemetry) ∧
      KeepsFields data data' := by
  have hdata : dispatchPortnum reportProtobuf 67 levelReport =
      (some (telemetryEntries levelReport (reportDevice 100 4 0)), .telemetry) := by
    rw [dispatchPortnum_telemetry, decodeTelemetry_eq]
    rfl
  have hvalues := telemetryValues levelReport (reportDevice 100 4 0)
  have hpayload : (telemetryPacket (some (telemetryEntries levelReport
      (reportDevice 100 4 0)))).decodedPayload = some _ := rfl
  obtain ⟨bytes, data', hencode, hdecode, hkeeps⟩ :=
    (reencoded_iff reencodes_report (Or.inr rfl) (congrArg Prod.fst hdata) hpayload
      (congrArg Prod.snd hdata).symm).mpr ⟨hvalues.uptime, hvalues.humidity⟩
  exact ⟨_, bytes, data', hdata, hencode, hdecode, hkeeps⟩

/-- The uptime of a device report does not come back. -/
theorem uptime_lost :
    Reencodes ⟨0⟩ reportRuntime reportProtobuf ∧
      ∃ data bytes data', dispatchPortnum reportProtobuf 67 hourReport = (some data, .telemetry) ∧
        encodePortnumPayload reportRuntime (telemetryPacket (some data)) = some bytes ∧
        dispatchPortnum reportProtobuf 67 bytes = (some data', .telemetry) ∧
        getValue data "uptime_seconds" = .int 3600 ∧ getValue data' "uptime_seconds" = .null := by
  refine ⟨reencodes_report, telemetryEntries hourReport (reportDevice 100 4 3600), levelReport,
    telemetryEntries levelReport (reportDevice 100 4 0), ?_, ?_, ?_, ?_, ?_⟩
  · rw [dispatchPortnum_telemetry, decodeTelemetry_eq]
    rfl
  · change encodeTelemetry reportRuntime _ = _
    rw [encodeTelemetry_eq reportRuntime (telemetryValues _ _)]
    rfl
  · rw [dispatchPortnum_telemetry, decodeTelemetry_eq]
    rfl
  · exact (telemetryValues _ _).uptime
  · exact (telemetryValues _ _).uptime

end Meshpoint.MqttReencoding
