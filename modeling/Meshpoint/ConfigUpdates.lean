import Mathlib.Data.List.Infix
import Meshpoint.AcceptedSettings
import Meshpoint.ChannelUpdates
import Meshpoint.ConfigFile
import Meshpoint.GuardedAssignments
import Meshpoint.ManifestFile

/-!
# Updates of the configuration

Model of `PUT /transmit`, `/identity`, `/dashboard` and `/channels`
(`src/api/routes/config_routes.py`), `/gps` (`src/api/routes/device_config_routes.py`) and `/relay`
(`src/api/routes/system_config_routes.py`) on what they share: the configuration in memory, the
key table, the registered identity and `local.yaml`.  Each checks and assigns one field after the
other and saves what it assigned at the end; `PUT /channels` assigns and saves in turns.

The configuration is a value for each attribute that a handler reads or assigns.  The audit log
is left out, and what a successful `PUT /channels` rebuilds from the keys is in `ChannelUpdates`.
-/

namespace Meshpoint.ConfigUpdates

open ConfigFile GuardedAssignments
open AcceptedSettings (RelayConfig RelayUpdate within withinFloat)
open ChannelUpdates (ChannelEntry requestedKeys requestedPrimary)
open ManifestFile (PluginManifest)
open PyText (strip)
open RadioSettings (HttpError)

/-! ### The configuration -/

/-- The attributes, section by section. -/
inductive Field where
  | txEnabled | nodeId | txPowerDbm | maxDutyCyclePercent | longName | shortName | hopLimit
  | intervalMinutes | startupDelaySeconds | coordinateSource | locationPrecision
  | relayEnabled | serialPort | serialBaud | maxRelayPerMinute | burstSize
  | minRelayRssi | maxRelayRssi
  | webTerminalEnabled | webTerminalToggle | mapTileUrl | landingPage
  | primaryChannelName | channelKeys
  | source | gpsdHost | gpsdPort | uartDevice | uartBaud | uartEnableGpios
  | updateIntervalSeconds | minFixQuality
  | latitude | longitude | altitude
deriving DecidableEq

namespace Field

def path : Field → String × String
  | txEnabled => ("transmit", "enabled")
  | nodeId => ("transmit", "node_id")
  | txPowerDbm => ("transmit", "tx_power_dbm")
  | maxDutyCyclePercent => ("transmit", "max_duty_cycle_percent")
  | longName => ("transmit", "long_name")
  | shortName => ("transmit", "short_name")
  | hopLimit => ("transmit", "hop_limit")
  | intervalMinutes => ("transmit.position", "interval_minutes")
  | startupDelaySeconds => ("transmit.position", "startup_delay_seconds")
  | coordinateSource => ("transmit.position", "coordinate_source")
  | locationPrecision => ("transmit.position", "location_precision")
  | relayEnabled => ("relay", "enabled")
  | serialPort => ("relay", "serial_port")
  | serialBaud => ("relay", "serial_baud")
  | maxRelayPerMinute => ("relay", "max_relay_per_minute")
  | burstSize => ("relay", "burst_size")
  | minRelayRssi => ("relay", "min_relay_rssi")
  | maxRelayRssi => ("relay", "max_relay_rssi")
  | webTerminalEnabled => ("dashboard", "web_terminal_enabled")
  | webTerminalToggle => ("dashboard", "web_terminal_toggle")
  | mapTileUrl => ("dashboard", "map_tile_url")
  | landingPage => ("dashboard", "landing_page")
  | primaryChannelName => ("meshtastic", "primary_channel_name")
  | channelKeys => ("meshtastic", "channel_keys")
  | source => ("location", "source")
  | gpsdHost => ("location", "gpsd_host")
  | gpsdPort => ("location", "gpsd_port")
  | uartDevice => ("location", "uart_device")
  | uartBaud => ("location", "uart_baud")
  | uartEnableGpios => ("location", "uart_enable_gpios")
  | updateIntervalSeconds => ("location", "update_interval_seconds")
  | minFixQuality => ("location", "min_fix_quality")
  | latitude => ("device", "latitude")
  | longitude => ("device", "longitude")
  | altitude => ("device", "altitude")

abbrev Value (F : Type) : Field → Type
  | txEnabled | relayEnabled | webTerminalEnabled | webTerminalToggle => Bool
  | txPowerDbm | hopLimit | intervalMinutes | startupDelaySeconds | serialBaud
  | maxRelayPerMinute | burstSize | gpsdPort | uartBaud | updateIntervalSeconds
  | minFixQuality => Int
  | longName | shortName | coordinateSource | locationPrecision | mapTileUrl | landingPage
  | primaryChannelName | source | gpsdHost | uartDevice => String
  | minRelayRssi | maxRelayRssi => F
  | maxDutyCyclePercent | latitude | longitude | altitude => Option F
  | nodeId => Option Int
  | serialPort => Option String
  | channelKeys => OrderedDict String String
  | uartEnableGpios => List Int

end Field

/-- A scalar of the file. -/
inductive Scalar (F : Type) where
  | null
  | bool (b : Bool)
  | int (n : Int)
  | float (x : F)
  | text (s : String)
deriving DecidableEq

section

variable {F : Type}

abbrev Config (F : Type) := (f : Field) → f.Value F

abbrev Write (F : Type) := GuardedAssignments.Write (Field.Value F)

/-- What the file says for `None` or a value. -/
def optional {α : Type} (scalar : α → Scalar F) : Option α → Yaml String (Scalar F)
  | none => .scalar .null
  | some a => .scalar (scalar a)

/-- A value as `yaml.dump` is given it. -/
def Field.toYaml : (f : Field) → f.Value F → Yaml String (Scalar F)
  | .txEnabled, b | .relayEnabled, b | .webTerminalEnabled, b | .webTerminalToggle, b =>
    .scalar (.bool b)
  | .txPowerDbm, n | .hopLimit, n | .intervalMinutes, n | .startupDelaySeconds, n
  | .serialBaud, n | .maxRelayPerMinute, n | .burstSize, n | .gpsdPort, n | .uartBaud, n
  | .updateIntervalSeconds, n | .minFixQuality, n => .scalar (.int n)
  | .longName, s | .shortName, s | .coordinateSource, s | .locationPrecision, s
  | .mapTileUrl, s | .landingPage, s | .primaryChannelName, s | .source, s | .gpsdHost, s
  | .uartDevice, s => .scalar (.text s)
  | .minRelayRssi, x | .maxRelayRssi, x => .scalar (.float x)
  | .maxDutyCyclePercent, x | .latitude, x | .longitude, x | .altitude, x => optional .float x
  | .nodeId, n => optional .int n
  | .serialPort, s => optional .text s
  | .channelKeys, keys => .dict (keys.items.map fun entry => (entry.1, .scalar (.text entry.2)))
  | .uartEnableGpios, gpios => .list (gpios.map fun n => .scalar (.int n))

/-- The `updates` of one section. -/
def updatesOf (sectionName : String) (writes : List (Write F)) : List (Write F) :=
  writes.filter fun write => write.1.path.1 = sectionName

def dictOf (writes : List (Write F)) : OrderedDict String (Yaml String (Scalar F)) :=
  OrderedDict.ofList (writes.map fun write => (write.1.path.2, write.1.toYaml write.2))

def current (config : Config F) (fields : List Field) : List (Write F) :=
  fields.map fun f => ⟨f, config f⟩

/-- The attributes of `LocationConfig`, in the order of `asdict`. -/
def locationFields : List Field :=
  [.source, .gpsdHost, .gpsdPort, .uartDevice, .uartBaud, .uartEnableGpios,
    .updateIntervalSeconds, .minFixQuality]

/-- The attributes of the `position` that is saved. -/
def positionFields : List Field :=
  [.intervalMinutes, .startupDelaySeconds, .coordinateSource, .locationPrecision]

/-! ### The server -/

/-- The part of `DeviceIdentity` that is kept in step. -/
structure Identity (F : Type) where
  longName : String
  shortName : String
  latitude : Option F
  longitude : Option F
  altitude : Option F

/-- `_config`, the keys of `_crypto`, `_identity` and `local.yaml`. -/
structure Server (F : Type) where
  config : Config F
  table : Option KeyTable
  identity : Option (Identity F)
  file : Option Text

/-- The error of a request. -/
inductive Failure where
  /-- 422: the body is outside its field constraints. -/
  | invalidField
  | http (e : HttpError)
  /-- A key is not base64. -/
  | binasciiError
  /-- 500: an exception that no handler expects. -/
  | raised
deriving DecidableEq

/-- HTTP 4xx, or the exception of a key that is not base64. -/
def Failure.rejects : Failure → Bool
  | .invalidField => true
  | .http e => 400 ≤ e.status && e.status < 500
  | .binasciiError => true
  | .raised => false

/-- `saved`, `restart_required`, the fields that are reported and `channel_count`. -/
structure Answer (F : Type) where
  saved : Bool
  restartRequired : Bool
  values : List (Write F) := []
  channelCount : Option Nat := none

/-- The libraries, and the plugins that are loaded. -/
structure Env (F : Type) where
  lib : YamlLib String (Scalar F)
  /-- `text.lower()`. -/
  lower : String → String
  /-- `repr(text)`. -/
  repr : String → String
  plugins : List PluginManifest

/-- What comes of a save: it is made, or `PermissionError` is raised, or another exception. -/
inductive SaveOutcome where
  | completed
  | denied (message : String)
  | raised (ending : Ending)

/-- `save_section_to_yaml` in its `try`: the file, and the failure. -/
def save (lib : YamlLib String (Scalar F)) (call : Call String (Scalar F)) (file : Option Text) :
    SaveOutcome → Option Text × Option Failure
  | .denied message => (file, some (.http ⟨403, message⟩))
  | .raised ending => (fileAfter lib call file ending, some .raised)
  | .completed =>
    match (call.document lib file).bind lib.dump with
    | none => (fileAfter lib call file .completed, some .raised)
    | some text => (some text, none)

/-- What is assigned, if anything, before a section is saved. -/
structure Store (F : Type) where
  write : Option (Write F)
  call : Call String (Scalar F)

def assign (write : Option (Write F)) (config : Config F) : Config F :=
  write.elim config fun w => Function.update config w.1 w.2

/-- The stores in turn; the next outcome is that of the next save, and those that are not given
    are made. -/
def storeAll (lib : YamlLib String (Scalar F)) :
    List (Store F) → List SaveOutcome → Server F → Server F × Option Failure
  | [], _, s => (s, none)
  | store :: rest, outcomes, s =>
    let config := assign store.write s.config
    match save lib store.call s.file (outcomes.headD .completed) with
    | (file, some e) => ({ s with config := config, file := file }, some e)
    | (file, none) =>
      storeAll lib rest outcomes.tail { s with config := config, file := file }

/-! ### Handlers that check and assign, then save -/

abbrev Rule (F : Type) := GuardedAssignments.Rule (Field.Value F) Failure

/-- `HTTPException(status, detail)`, unless `ok`. -/
def ensure (ok : Bool) (status : Nat) (detail : String) : Except Failure Unit :=
  if ok then .ok () else .error (.http ⟨status, detail⟩)

/-- `if value is not None: check; section.f = value; updates[f] = value`. -/
def setField (f : Field) (value : Option (f.Value F))
    (check : Config F → f.Value F → Except Failure Unit := fun _ _ => .ok ()) : Rule F where
  field := f
  ask config :=
    match value with
    | none => .ok none
    | some v => (check config v).map fun _ => some v

/-- `if value is not None and value != section.f: section.f = value; updates[f] = value`. -/
def setChanged (f : Field) [DecidableEq (f.Value F)] (value : Option (f.Value F)) : Rule F where
  field := f
  ask config := .ok (value.filter fun v => v ≠ config f)

def require (f : Field) (check : Except Failure Unit) : Rule F where
  field := f
  ask _ := check.map fun _ => none

/-- A handler: its rules, the sections it saves, what it copies to the identity with each field
    and at the end, and its answer. -/
structure Update (F : Type) where
  rules : List (Rule F)
  calls : Config F → List (Write F) → List (Call String (Scalar F))
  mirror : Write F → Identity F → Identity F := fun _ identity => identity
  sync : Config F → List (Write F) → Identity F → Identity F := fun _ _ identity => identity
  answer : Config F → List (Write F) → Answer F

def Update.handle (lib : YamlLib String (Scalar F)) (u : Update F) (outcomes : List SaveOutcome)
    (s : Server F) : Server F × Except Failure (Answer F) :=
  let assigned := assignAll u.rules s.config
  let s :=
    { s with
      config := assigned.state
      identity := s.identity.map fun identity =>
        assigned.writes.foldl (fun identity write => u.mirror write identity) identity }
  match assigned.refused with
  | some e => (s, .error e)
  | none =>
    let calls := u.calls s.config assigned.writes
    match storeAll lib (calls.map (Store.mk none)) outcomes s with
    | (s, some e) => (s, .error e)
    | (s, none) =>
      ({ s with identity := s.identity.map (u.sync s.config assigned.writes) },
        .ok (u.answer s.config assigned.writes))

/-- `if updates: save_section_to_yaml(section, updates)`. -/
def saveUpdates (sectionName : String) (writes : List (Write F)) :
    List (Call String (Scalar F)) :=
  let updates := updatesOf sectionName writes
  if updates.isEmpty then [] else [.saveSection sectionName (dictOf updates)]

def sets (fields : List Field) (writes : List (Write F)) : Bool :=
  writes.any fun write => fields.contains write.1

/-! ### What is assigned -/

/-- The configuration with a field set, if there is a value for it. -/
def put (f : Field) (value : Option (f.Value F)) (config : Config F) : Config F :=
  value.elim config (Function.update config f)

theorem put_self (f : Field) (value : Option (f.Value F)) (config : Config F) :
    put f value config f = value.getD (config f) := by
  cases value with
  | none => rfl
  | some v => exact Function.update_self f v config

theorem put_of_ne {f g : Field} (h : g ≠ f) (value : Option (f.Value F)) (config : Config F) :
    put f value config g = config g := by
  cases value with
  | none => rfl
  | some v => exact Function.update_of_ne h v config

theorem assignAll_setField (f : Field) (value : Option (f.Value F)) (rest : List (Rule F))
    (config : Config F) :
    (assignAll (setField f value :: rest) config).state =
      (assignAll rest (put f value config)).state := by
  cases value <;> rfl

theorem storeAll_config (lib : YamlLib String (Scalar F)) (calls : List (Call String (Scalar F)))
    (outcomes : List SaveOutcome) (s : Server F) :
    (storeAll lib (calls.map (Store.mk none)) outcomes s).1.config = s.config := by
  induction calls generalizing outcomes s with
  | nil => rfl
  | cons call rest ih =>
    simp only [List.map_cons, storeAll]
    split
    · rfl
    · exact ih _ _

theorem Update.handle_config (lib : YamlLib String (Scalar F)) (u : Update F)
    (outcomes : List SaveOutcome) (s : Server F) :
    (u.handle lib outcomes s).1.config = (assignAll u.rules s.config).state := by
  simp only [Update.handle]
  split
  · rfl
  · have hconfig := storeAll_config lib
      (u.calls (assignAll u.rules s.config).state (assignAll u.rules s.config).writes) outcomes
    split
    · rename_i hstore
      exact (congrArg (fun r => r.1.config) hstore).symm.trans (hconfig _)
    · rename_i hstore
      exact (congrArg (fun r => r.1.config) hstore).symm.trans (hconfig _)

/-! ### The requests -/

variable [SettingFloat F]

structure RelaySettingsUpdate where
  enabled : Option Bool := none
  maxRelayPerMinute : Option Int := none

structure TransmitUpdate (F : Type) where
  enabled : Option Bool := none
  txPowerDbm : Option Int := none
  maxDutyCyclePercent : Option F := none
  hopLimit : Option Int := none
  relay : Option RelaySettingsUpdate := none

/-- `update_transmit`. -/
def updateTransmit (req : TransmitUpdate F) : Update F where
  rules :=
    [setField .txEnabled req.enabled,
      setField .txPowerDbm req.txPowerDbm fun _ (n : Int) =>
        ensure (0 ≤ n ∧ n ≤ 30) 400 "TX power must be 0-30 dBm",
      setField .maxDutyCyclePercent (req.maxDutyCyclePercent.map some) fun _ (x : Option F) =>
        ensure (withinFloat (RadioFloat.decimal 1000) (RadioFloat.decimal 1000000) x) 400
          "Duty cycle must be 0.1-100%",
      setField .hopLimit req.hopLimit fun _ (n : Int) =>
        ensure (0 ≤ n ∧ n ≤ 7) 400 "Hop limit must be 0-7",
      setField .relayEnabled (req.relay.bind RelaySettingsUpdate.enabled),
      setField .maxRelayPerMinute (req.relay.bind RelaySettingsUpdate.maxRelayPerMinute)
        fun _ (n : Int) => ensure (0 ≤ n ∧ n ≤ 600) 400 "Relay rate must be 0-600 per minute"]
  calls _ writes := saveUpdates "transmit" writes ++ saveUpdates "relay" writes
  answer _ writes :=
    { saved := !writes.isEmpty
      restartRequired := sets [.txEnabled, .relayEnabled, .maxRelayPerMinute] writes
      values := writes }

structure IdentityUpdate where
  longName : Option String := none
  shortName : Option String := none
  nodeId : Option Int := none

/-- `update_identity`. -/
def updateIdentity (req : IdentityUpdate) : Update F where
  rules :=
    [setField .longName req.longName fun _ (s : String) =>
        ensure (s.length ≤ 36) 400 "Long name max 36 characters",
      setField .shortName req.shortName fun _ (s : String) =>
        ensure (s.length ≤ 4) 400 "Short name max 4 characters",
      setField .nodeId (req.nodeId.map some)]
  calls _ writes := saveUpdates "transmit" writes
  mirror
    | ⟨.longName, name⟩, identity => { identity with longName := name }
    | ⟨.shortName, name⟩, identity => { identity with shortName := name }
    | _, identity => identity
  answer _ writes :=
    { saved := true, restartRequired := sets [.nodeId] writes, values := writes }

structure DashboardUpdate where
  webTerminalEnabled : Option Bool := none
  mapTileUrl : Option String := none
  landingPage : Option String := none

/-- `landing_page_ids`. -/
def landingPageIds (manifests : List PluginManifest) : List String :=
  "dashboard" :: manifests.filterMap fun m =>
    (m.sidebar.filter fun sidebar => sidebar.category = "top").map fun sidebar => sidebar.route

/-- `placeholder in url` for each of the three. -/
def hasPlaceholders (url : String) : Bool :=
  ["\x7bz\x7d", "\x7bx\x7d", "\x7by\x7d"].all fun placeholder =>
    decide (placeholder.toList <:+: url.toList)

/-- `update_dashboard`. -/
def updateDashboard (env : Env F) (req : DashboardUpdate) : Update F where
  rules :=
    [setField .webTerminalEnabled req.webTerminalEnabled fun config _ =>
        ensure (config .webTerminalToggle) 403
          ("The web terminal is disabled on this device. Enable it by " ++
            "setting `web_terminal_toggle: true` under `dashboard:` in " ++
            "config/local.yaml and restarting the service."),
      setField .mapTileUrl (req.mapTileUrl.map strip) fun _ (url : String) => do
        ensure (url ≠ "") 400 "map_tile_url cannot be blank"
        ensure (hasPlaceholders url) 400
          "map_tile_url must contain \x7bz\x7d, \x7bx\x7d, and \x7by\x7d placeholders",
      setField .landingPage (req.landingPage.map strip) fun _ (page : String) =>
        ensure ((landingPageIds env.plugins).contains page) 400
          ("Unknown landing page " ++ env.repr page)]
  calls _ writes := saveUpdates "dashboard" writes
  answer _ writes :=
    { saved := true
      restartRequired := sets [.webTerminalEnabled] writes
      values := writes }

/-- `update_relay`. -/
def updateRelay (req : RelayUpdate F) : Update F where
  rules :=
    [setField .relayEnabled req.enabled,
      setField .serialPort (req.serialPort.map fun port =>
        if strip port = "" then none else some (strip port)),
      setField .serialBaud req.serialBaud,
      setField .maxRelayPerMinute req.maxRelayPerMinute,
      setField .burstSize req.burstSize,
      setField .minRelayRssi req.minRelayRssi,
      setField .maxRelayRssi req.maxRelayRssi fun config (x : F) =>
        ensure (!SettingFloat.le x (config .minRelayRssi)) 400
          "max_relay_rssi must be greater than min_relay_rssi"]
  calls _ writes := saveUpdates "relay" writes
  answer _ writes :=
    { saved := !writes.isEmpty
      restartRequired := sets [.relayEnabled, .serialPort] writes
      values := writes }

structure GpsUpdate (F : Type) where
  source : String := "static"
  latitude : Option F := none
  longitude : Option F := none
  altitude : Option F := none
  gpsdHost : Option String := none
  gpsdPort : Option Int := none
  updateIntervalSeconds : Option Int := none
  minFixQuality : Option Int := none
  uartDevice : Option String := none
  baud : Option Int := none
  timeoutSeconds : Option Int := none
  meshCoordinateSource : Option String := none
  meshLocationPrecision : Option String := none

/-- `Field(None, min_length=1, max_length=n)`. -/
def shorter (n : Nat) (field : Option String) : Bool :=
  field.all fun s => decide (1 ≤ s.length ∧ s.length ≤ n)

/-- The field constraints of `GpsUpdate`. -/
def GpsUpdate.valid (req : GpsUpdate F) : Bool :=
  withinFloat (RadioFloat.decimal (-900000)) (RadioFloat.decimal 900000) req.latitude &&
    withinFloat (RadioFloat.decimal (-1800000)) (RadioFloat.decimal 1800000) req.longitude &&
    withinFloat (RadioFloat.decimal (-5000000)) (RadioFloat.decimal 100000000) req.altitude &&
    shorter 253 req.gpsdHost && within 1 65535 req.gpsdPort &&
    within 1 300 req.updateIntervalSeconds && within 1 3 req.minFixQuality &&
    shorter 255 req.uartDevice && within 4800 921600 req.baud && within 1 3600 req.timeoutSeconds

def VALID_GPS_SOURCES : List String := ["static", "gpsd", "uart"]

def VALID_MESH_COORDINATE_SOURCES : List String := ["live", "static"]

def VALID_LOCATION_PRECISION : List String := ["approximate", "exact", "none"]

def pin (req : GpsUpdate F) : List (Rule F) :=
  [setField .latitude (req.latitude.map some), setField .longitude (req.longitude.map some),
    setField .altitude (req.altitude.map some)]

/-- The coordinates beside a live source, which are taken as a pair. -/
def pairedPin (req : GpsUpdate F) : List (Rule F) :=
  if req.latitude.isSome && req.longitude.isSome then pin req else []

def sourceRules (req : GpsUpdate F) : List (Rule F) :=
  if req.source = "static" then
    require .latitude (ensure (req.latitude.isSome && req.longitude.isSome) 400
      "latitude and longitude are required for source=static") ::
      (pin req ++ [setChanged .source (some "static")])
  else if req.source = "gpsd" then
    [setChanged .source (some "gpsd"), setChanged .gpsdHost req.gpsdHost,
      setChanged .gpsdPort req.gpsdPort,
      setChanged .updateIntervalSeconds req.updateIntervalSeconds,
      setChanged .minFixQuality req.minFixQuality] ++ pairedPin req
  else
    [setChanged .source (some "uart"), setChanged .uartDevice req.uartDevice,
      setChanged .uartBaud req.baud] ++ pairedPin req

def endLive (req : GpsUpdate F) : Rule F where
  field := .coordinateSource
  ask config :=
    .ok
      (if req.source = "static" ∧ config .coordinateSource = "live" then some "static" else none)

def meshCoordinateSource (env : Env F) (req : GpsUpdate F) : Rule F where
  field := .coordinateSource
  ask config := do
    match req.meshCoordinateSource.map env.lower with
    | none => .ok none
    | some meshSource =>
      ensure (VALID_MESH_COORDINATE_SOURCES.contains meshSource) 400
        "mesh_coordinate_source must be one of ['live', 'static']"
      ensure (!(meshSource = "live" && req.source = "static")) 400
        "Live mesh position requires gpsd or UART as the GPS source"
      .ok (if meshSource ≠ config .coordinateSource then some meshSource else none)

def meshLocationPrecision (env : Env F) (req : GpsUpdate F) : Rule F where
  field := .locationPrecision
  ask config := do
    match req.meshLocationPrecision.map env.lower with
    | none => .ok none
    | some precision =>
      ensure (VALID_LOCATION_PRECISION.contains precision) 400
        "mesh_location_precision must be one of ['approximate', 'exact', 'none']"
      .ok (if precision ≠ config .locationPrecision then some precision else none)

/-- `_sync_registered_identity`. -/
def syncRegisteredIdentity (config : Config F) (identity : Identity F) : Identity F :=
  { identity with
    latitude := config .latitude
    longitude := config .longitude
    altitude := config .altitude }

/-- The `gps` of an answer. -/
def gpsFields : List Field :=
  [.source, .latitude, .longitude, .altitude, .gpsdHost, .gpsdPort, .uartDevice, .uartBaud,
    .updateIntervalSeconds, .minFixQuality, .coordinateSource, .locationPrecision]

/-- `update_gps`: the whole `location` and `position` are saved where one of their fields is
    assigned, of the device what is assigned. -/
def updateGps (env : Env F) (req : GpsUpdate F) : Update F where
  rules :=
    require .source (ensure (VALID_GPS_SOURCES.contains req.source) 400
      "source must be one of ('static', 'gpsd', 'uart')") ::
      (sourceRules req ++
        [endLive req, meshCoordinateSource env req, meshLocationPrecision env req])
  calls config writes :=
    (if (updatesOf "location" writes).isEmpty then []
      else [.saveSection "location" (dictOf (current config locationFields))]) ++
      saveUpdates "device" writes ++
      (if (updatesOf "transmit.position" writes).isEmpty then []
        else [.saveSection "transmit" (.ofList [("position",
          .dict (dictOf (current config positionFields)).items)])])
  sync config writes identity :=
    if (updatesOf "device" writes).isEmpty then identity
    else syncRegisteredIdentity config identity
  answer config writes :=
    { saved := !writes.isEmpty
      restartRequired := sets [.source] writes
      values := current config gpsFields }

/-! ### `PUT /channels` -/

def primaryNames (channels : List ChannelEntry) : List String :=
  (channels.filter fun ch => ch.index = 0).map ChannelEntry.name

def store (write : Write F) : Store F :=
  ⟨some write, .saveSection write.1.path.1 (dictOf [write])⟩

/-- Each primary name is assigned and saved as it is met, the keys after the last entry. -/
def channelStores (channels : List ChannelEntry) : List (Store F) :=
  (primaryNames channels).map (fun name => store ⟨.primaryChannelName, name⟩) ++
    [store ⟨.channelKeys, requestedKeys channels⟩]

/-- `add_channel_key` for each entry: the table, and whether every key was added. -/
def addKeysUntil (table : KeyTable) : List (String × String) → KeyTable × Bool
  | [] => (table, true)
  | (name, keyB64) :: rest =>
    match table.addChannelKey name keyB64 with
    | none => (table, false)
    | some table => addKeysUntil table rest

/-- `update_channels`. -/
def updateChannels (lib : YamlLib String (Scalar F)) (channels : List ChannelEntry)
    (outcomes : List SaveOutcome) (s : Server F) : Server F × Except Failure (Answer F) :=
  match storeAll lib (channelStores channels) outcomes s with
  | (s, some e) => (s, .error e)
  | (s, none) =>
    let keys := requestedKeys channels
    let answer : Answer F :=
      { saved := true, restartRequired := false, channelCount := some (keys.items.length + 1) }
    match s.table with
    | none => (s, .ok answer)
    | some table =>
      match addKeysUntil table.clearChannelKeys keys.items with
      | (table, true) => ({ s with table := some table }, .ok answer)
      | (table, false) => ({ s with table := some table }, .error .binasciiError)

/-! ### All requests -/

inductive Request (F : Type) where
  | transmit (req : TransmitUpdate F)
  | identity (req : IdentityUpdate)
  | dashboard (req : DashboardUpdate)
  | channels (entries : List ChannelEntry)
  | gps (req : GpsUpdate F)
  | relay (req : RelayUpdate F)

/-- The server after a request, and the answer; the outcomes are those of its saves. -/
def handle (env : Env F) (s : Server F) (outcomes : List SaveOutcome) :
    Request F → Server F × Except Failure (Answer F)
  | .transmit req => (updateTransmit req).handle env.lib outcomes s
  | .identity req => (updateIdentity req).handle env.lib outcomes s
  | .dashboard req => (updateDashboard env req).handle env.lib outcomes s
  | .channels entries => updateChannels env.lib entries outcomes s
  | .gps req =>
    if req.valid then (updateGps env req).handle env.lib outcomes s
    else (s, .error .invalidField)
  | .relay req =>
    if req.valid then (updateRelay req).handle env.lib outcomes s
    else (s, .error .invalidField)

/-! ### The same handlers in other modules -/

def relayOf (config : Config F) : RelayConfig F :=
  ⟨config .relayEnabled, config .serialPort, config .serialBaud, config .maxRelayPerMinute,
    config .burstSize, config .minRelayRssi, config .maxRelayRssi⟩

theorem relayOf_updateRelay (lib : YamlLib String (Scalar F)) (req : RelayUpdate F)
    (outcomes : List SaveOutcome) (s : Server F) (writable : Bool) :
    relayOf ((updateRelay req).handle lib outcomes s).1.config =
      (AcceptedSettings.updateRelay (relayOf s.config) req writable).1 := by
  rw [Update.handle_config]
  simp only [updateRelay, assignAll_setField, AcceptedSettings.updateRelay]
  generalize hothers : put .minRelayRssi req.minRelayRssi _ = others
  have hrelay : relayOf others = (relayOf s.config).applyOthers req := by
    subst hothers
    simp (disch := decide) only [relayOf, RelayConfig.applyOthers, put_self, put_of_ne]
    cases req.serialPort <;> rfl
  rw [← hrelay]
  cases hmax : req.maxRelayRssi with
  | none => rfl
  | some x =>
    have hmin : (relayOf others).minRelayRssi = others .minRelayRssi := rfl
    simp only [assignAll, setField, ensure, hmin]
    cases SettingFloat.le x (others .minRelayRssi) <;> rfl

theorem addKeys_eq_some_iff {table table' : KeyTable} {entries : List (String × String)} :
    ChannelConfig.addKeys table entries = some table' ↔
      addKeysUntil table entries = (table', true) := by
  induction entries generalizing table with
  | nil => simp [ChannelConfig.addKeys, addKeysUntil]
  | cons entry rest ih =>
    obtain ⟨name, keyB64⟩ := entry
    simp only [ChannelConfig.addKeys, addKeysUntil]
    cases table.addChannelKey name keyB64 with
    | none => simp
    | some added => exact ih

theorem requestedPrimary_eq (channels : List ChannelEntry) (name : String) :
    requestedPrimary channels name = (primaryNames channels).getLast?.getD name := by
  rw [requestedPrimary]
  induction channels generalizing name with
  | nil => rfl
  | cons ch rest ih =>
    rw [List.foldl_cons, ih]
    by_cases hindex : ch.index = 0
    · simp [primaryNames, hindex, List.getLast?_cons]
    · simp [primaryNames, hindex]

end

end Meshpoint.ConfigUpdates
