import Meshpoint.HostSession
import Meshpoint.PythonValues

/-!
# The gpsd location source

`src/hal/location/gpsd_source.py` with the records of `models.py`: one line of gpsd's JSON
protocol at a time, into the latest fix, the latest satellites, the latest device and the
cached dilutions of precision.  Handling a line is a session on that state, since an exception
leaves what was stored before it.

`F` is the type of floats and `D` that of points in time.
-/

namespace Meshpoint.GpsdSource

open JsonText MqttFormatter Raising HostSession PythonValues

/-! ### Records -/

structure Satellite (F : Type) where
  prn : Int
  azimuth : Option F
  elevation : Option F
  snrDbhz : Option F
  used : Bool
  gnss : String

structure SatellitesView (F : Type) where
  inView : Nat
  used : Nat
  satellites : List (Satellite F)

def SatellitesView.fromSatellites {F : Type} (sats : List (Satellite F)) : SatellitesView F where
  inView := sats.length
  used := sats.countP Satellite.used
  satellites := sats

structure GpsDeviceInfo (F : Type) where
  driver : String
  path : String
  model : Option String
  subtype : Value F

/-- The three dilutions of precision. -/
inductive DopKey where
  | hdop
  | pdop
  | vdop
deriving DecidableEq, Repr

def DopKey.name : DopKey → String
  | .hdop => "hdop"
  | .pdop => "pdop"
  | .vdop => "vdop"

/-- `dict[str, float]` over the three keys. -/
def Dop (F : Type) := DopKey → Option F

def Dop.empty {F : Type} : Dop F := fun _ => none

def Dop.cached {F : Type} (dop : Dop F) : Bool :=
  (dop .hdop).isSome || (dop .pdop).isSome || (dop .vdop).isSome

structure LocationFix (F D : Type) where
  mode : Int
  latitude : Option F := none
  longitude : Option F := none
  altitudeM : Option F := none
  speedMps : Option F := none
  trackDeg : Option F := none
  time : Option D := none
  epxM : Option F := none
  epyM : Option F := none
  epvM : Option F := none
  hdop : Option F := none
  pdop : Option F := none
  vdop : Option F := none

/-- What the source keeps. -/
structure State (F D : Type) where
  latestFix : Option (LocationFix F D) := none
  latestSats : Option (SatellitesView F) := none
  latestDevice : Option (GpsDeviceInfo F) := none
  latestDop : Dop F := Dop.empty
  lastUpdate : Option D := none

/-- What the source uses of the Python runtime. -/
structure GpsdRuntime (F D : Type) where
  /-- `json.loads(text)`. -/
  loads : String → Loaded F
  /-- `float(text)`; `none` when it raises. -/
  floatOfText : String → Option F
  /-- `str.lower`. -/
  lower : String → String
  /-- `str.upper`. -/
  upper : String → String
  /-- `str(value)`. -/
  pyStr : Value F → String
  /-- `datetime.fromisoformat(text)`; `none` when it raises. -/
  fromIsoFormat : String → Option D

section

variable {F D : Type} [StationFloat F]

/-- `classify_gnss_id`: a dictionary takes no key without a hash. -/
def classifyGnssId (gnssid : Value F) : Except PyException String :=
  if hashable gnssid then
    .ok (if equalsInt 0 gnssid then "GPS"
      else if equalsInt 1 gnssid then "SBAS"
      else if equalsInt 2 gnssid then "Galileo"
      else if equalsInt 3 gnssid then "BeiDou"
      else if equalsInt 4 gnssid then "IMES"
      else if equalsInt 5 gnssid then "QZSS"
      else if equalsInt 6 gnssid then "GLONASS"
      else if equalsInt 7 gnssid then "IRNSS"
      else "UNKNOWN")
  else .error .typeError

/-! ### Python conversions -/

/-- The digits of a decimal text, which `int` takes at most 4300 of. -/
def digitCount (s : String) : Nat :=
  (s.toList.map PyText.foldNumeric).countP Char.isDigit

/-- `int(value)`. -/
def intOf : Value F → Except PyException Int
  | .bool b => .ok (if b then 1 else 0)
  | .int n => .ok n
  | .float x =>
    match PyFloat.toInt x with
    | some n => .ok n
    | none => .error (if PyFloat.isNaN x then .valueError else .overflowError)
  | .str s =>
    if 4300 < digitCount s then .error .valueError
    else
      match PyText.intOfText 10 s with
      | some n => .ok n
      | none => .error .valueError
  | _ => .error .typeError

variable (rt : GpsdRuntime F D)

/-- `float(value)`. -/
def floatOf : Value F → Except PyException F
  | .bool b => .ok (PyFloat.ofInt (if b then 1 else 0))
  | .int n =>
    match StationFloat.ofIntOrRaise n with
    | some x => .ok x
    | none => .error .overflowError
  | .float x => .ok x
  | .str s =>
    match rt.floatOfText s with
    | some x => .ok x
    | none => .error .valueError
  | _ => .error .typeError

/-! ### Reading a report -/

/-- `_optional_float`. -/
def optionalFloat (payload : Entries F) : List String → Except PyException (Option F)
  | [] => .ok none
  | key :: rest =>
    if isNull (getValue payload key) then optionalFloat payload rest
    else
      match floatOf rt (getValue payload key) with
      | .ok x => .ok (some x)
      | .error .typeError => optionalFloat payload rest
      | .error .valueError => optionalFloat payload rest
      | .error e => .error e

/-- `value.replace("Z", "+00:00")`. -/
def withOffset (s : String) : String :=
  String.ofList (s.toList.flatMap fun c => if c = 'Z' then "+00:00".toList else [c])

/-- `_parse_iso_time`. -/
def parseIsoTime : Value F → Option D
  | .str s => rt.fromIsoFormat (withOffset s)
  | _ => none

/-- The fix of a TPV report, but for the cached values. -/
def readFix (mode : Int) (payload : Entries F) : Except PyException (LocationFix F D) := do
  let latitude ← optionalFloat rt payload ["lat"]
  let longitude ← optionalFloat rt payload ["lon"]
  let altitudeM ← optionalFloat rt payload ["altMSL", "alt"]
  let speedMps ← optionalFloat rt payload ["speed"]
  let trackDeg ← optionalFloat rt payload ["track"]
  let epxM ← optionalFloat rt payload ["epx"]
  let epyM ← optionalFloat rt payload ["epy"]
  let epvM ← optionalFloat rt payload ["epv"]
  return {
    mode := mode
    latitude := latitude
    longitude := longitude
    altitudeM := altitudeM
    speedMps := speedMps
    trackDeg := trackDeg
    time := parseIsoTime rt (getValue payload "time")
    epxM := epxM
    epyM := epyM
    epvM := epvM }

def readSatellite : Value F → Except PyException (Satellite F)
  | .dict entry => do
    let prn ← intOf (getOr entry "PRN" (.int 0))
    let azimuth ← optionalFloat rt entry ["az"]
    let elevation ← optionalFloat rt entry ["el"]
    let snrDbhz ← optionalFloat rt entry ["ss"]
    let gnss ← classifyGnssId (getValue entry "gnssid")
    return {
      prn := prn
      azimuth := azimuth
      elevation := elevation
      snrDbhz := snrDbhz
      used := truthy (getOr entry "used" (.bool false))
      gnss := gnss }
  | _ => .error .attributeError

/-- The satellites of a SKY report; `none` for a report without a list of them. -/
def readSatellites (payload : Entries F) : Except PyException (Option (SatellitesView F)) :=
  match payload.get? "satellites" with
  | none => .ok none
  | some raw => do
    let entries ← iterate (valueOr raw (.list .nil))
    let sats ← entries.mapM (readSatellite rt)
    return some (SatellitesView.fromSatellites sats)

/-- `(value or "").lower()`. -/
def loweredText (value : Value F) : Except PyException String :=
  match valueOr value (.str "") with
  | .str s => .ok (rt.lower s)
  | _ => .error .attributeError

/-- The model of a u-blox receiver.  A list and a dictionary answer `in` as well, but only a
    text has `upper`. -/
def ubloxModel : (subtype : Value F) → Except PyException String
  | .str s =>
    .ok (if holds "PROTVER 18" s || holds "G80" (rt.upper s) || holds "M8" (rt.upper s) then
        "u-blox 8"
      else if holds "PROTVER 14" s || holds "G70" (rt.upper s) then "u-blox 7"
      else "u-blox")
  | .list vs =>
    if (items vs).any fun v => match v with | .str s => s = "PROTVER 18" | _ => false then
      .ok "u-blox 8"
    else .error .attributeError
  | .dict es =>
    if "PROTVER 18" ∈ keys es then .ok "u-blox 8" else .error .attributeError
  | _ => .error .typeError

/-- `_guess_device_model`. -/
def guessDeviceModel (device : Entries F) : Except PyException (Option String) := do
  let driver ← loweredText rt (getValue device "driver")
  if holds "u-blox" driver || holds "ublox" driver then
    some <$> ubloxModel rt (valueOr (getValue device "subtype") (.str ""))
  else return if driver = "" then none else some driver

/-- `GpsDeviceInfo(...)` of the first device. -/
def readDevice : Value F → Except PyException (GpsDeviceInfo F)
  | .dict first => do
    let model ← guessDeviceModel rt first
    return {
      driver := rt.pyStr (getOr first "driver" (.str "unknown"))
      path := rt.pyStr (getOr first "path" (.str ""))
      model := model
      subtype := valueOr (getValue first "subtype") (getValue first "subtype1") }
  | _ => .error .attributeError

/-- The device of a DEVICES report; `none` where it lists none. -/
def readDevices (payload : Entries F) : Except PyException (Option (GpsDeviceInfo F)) :=
  match valueOr (getValue payload "devices") (.list .nil) with
  | .list .nil => .ok none
  | .list (.cons first _) => some <$> readDevice rt first
  -- a character of a text is a text, and `0` is no key of a dictionary
  | .str _ => .error .attributeError
  | .dict _ => .error .other
  | _ => .error .typeError

/-! ### Handling a line -/

/-- A report below the required quality becomes the fix only where there is none. -/
def promote (mode : Int) (s : State F D) : State F D :=
  match s.latestFix with
  | none => { s with latestFix := some { mode := mode } }
  | some _ => s

/-- `self._latest_fix = LocationFix(...)` with the cached values. -/
def hold (fix : LocationFix F D) (s : State F D) : State F D :=
  { s with latestFix := some { fix with
      hdop := s.latestDop .hdop
      pdop := s.latestDop .pdop
      vdop := s.latestDop .vdop } }

/-- `_handle_tpv`. -/
def handleTpv (minFixQuality : Int) (payload : Entries F) : Session (State F D) Unit := do
  let mode ← lift (intOf (getOr payload "mode" (.int 0)))
  if mode < minFixQuality then act fun s => ((), promote mode s)
  else do
    let fix ← lift (readFix rt mode payload)
    act fun s => ((), hold fix s)

/-- `self._latest_sats = ...`, where the report carries a list. -/
def keepSatellites (view : Option (SatellitesView F)) (s : State F D) : State F D :=
  match view with
  | none => s
  | some view => { s with latestSats := some view }

/-- `self._latest_dop[key] = value`, where there is a value. -/
def cacheValue (key : DopKey) (value : Option F) (s : State F D) : State F D :=
  match value with
  | none => s
  | some x => { s with latestDop := Function.update s.latestDop key (some x) }

def cacheDop (payload : Entries F) (key : DopKey) : Session (State F D) Unit := do
  let value ← lift (optionalFloat rt payload [key.name])
  act fun s => ((), cacheValue key value s)

/-- The cached values go into the fix that is held. -/
def mergeDop (s : State F D) : State F D :=
  match s.latestFix with
  | none => s
  | some fix =>
    if s.latestDop.cached then
      { s with latestFix := some { fix with
          hdop := (s.latestDop .hdop).or fix.hdop
          pdop := (s.latestDop .pdop).or fix.pdop
          vdop := (s.latestDop .vdop).or fix.vdop } }
    else s

/-- `_handle_sky`. -/
def handleSky (payload : Entries F) : Session (State F D) Unit := do
  let view ← lift (readSatellites rt payload)
  act fun s => ((), keepSatellites view s)
  cacheDop rt payload .hdop
  cacheDop rt payload .pdop
  cacheDop rt payload .vdop
  act fun s => ((), mergeDop s)

/-- `_handle_devices`. -/
def handleDevices (payload : Entries F) : Session (State F D) Unit := do
  let device ← lift (readDevices rt payload)
  act fun s => ((), { s with latestDevice := device })

/-- `payload.get("class") == name`. -/
def isClass (name : String) (payload : Entries F) : Bool :=
  match getValue payload "class" with
  | .str kind => kind = name
  | _ => false

/-- The handler of the report's class; the other classes are noise. -/
def handleReport (minFixQuality : Int) (payload : Entries F) : Session (State F D) Unit :=
  if isClass "TPV" payload then handleTpv rt minFixQuality payload
  else if isClass "SKY" payload then handleSky rt payload
  else if isClass "DEVICES" payload then handleDevices rt payload
  else pure ()

/-- `json.loads(line.decode("utf-8", errors="replace"))`. -/
def parsed (line : Bytes) : Loaded F := rt.loads (ByteCodec.utf8DecodeReplace line)

/-- `_handle_line`, at the time `now`. -/
def handleLine (minFixQuality : Int) (now : D) (line : Bytes) : Session (State F D) Unit :=
  match parsed rt line with
  | .malformed => pure ()
  | .refused _ => raise
  | .value (.dict payload) => do
    handleReport rt minFixQuality payload
    act fun s => ((), { s with lastUpdate := some now })
  | .value _ => raise

end

end Meshpoint.GpsdSource
