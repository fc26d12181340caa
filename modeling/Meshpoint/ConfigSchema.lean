import Meshpoint.ConfigMerge
import Meshpoint.RadioSettings

/-!
# The configuration

`AppConfig` of `src/config.py` with the built-in value of every setting, and the functions that
read lists of devices (`_coerce_meshcore_usb` and its like). Documents and settings are trees of
`ConfigMerge`.
-/

namespace Meshpoint.ConfigSchema

open OrderedDict ConfigFile ConfigMerge RadioSettings

/-! ### Values -/

/-- A scalar; `other` is one of the other types of YAML, a date for instance. -/
inductive Scalar (O F : Type) where
  | null
  | bool (value : Bool)
  | int (value : Int)
  | float (value : F)
  | str (value : String)
  | other (value : O)

abbrev Doc (O F : Type) := Yaml (Key O) (Scalar O F)

/-- An instance of one of the classes of devices and keys, which hold what the document has. -/
structure Device (O F : Type) where
  cls : String
  values : List (String × Doc O F)

/-- The value of a setting: as it is in a document, or a list of devices. -/
inductive Setting (O F : Type) where
  | yaml (value : Doc O F)
  | devices (items : List (Device O F))

/-- What the code uses of Python. `setSpecial` and `specialUnknown` are those of `Objects`;
    `slotFrequency` is `round(freq_start + spacing / 2 + (radio.slot - 1) * spacing, 4)` with
    `spacing = radio.bandwidth_khz / 1000`, `none` where it raises. -/
structure Python (O F : Type) where
  floatTruthy : F → Bool
  otherTruthy : O → Bool
  otherHashable : O → Bool
  special : String → Bool
  special_dunder : ∀ name, special name = true → ∃ rest, name = "__" ++ rest
  setSpecial : String → Doc O F → Fields (Setting O F) → Option (Fields (Setting O F))
  specialUnknown : String → Doc O F → Option (List (String × Trail))
  slotFrequency : (freqStart : F) → (bandwidthKhz slot : Scalar O F) → Option F

def Scalar.truthy {O F : Type} (py : Python O F) : Scalar O F → Bool
  | .null => false
  | .bool value => value
  | .int value => value ≠ 0
  | .float value => py.floatTruthy value
  | .str value => value ≠ ""
  | .other value => py.otherTruthy value

def Python.objects {O F : Type} (py : Python O F) : Objects O (Scalar O F) (Setting O F) where
  truthy := Scalar.truthy py
  special := py.special
  special_dunder := py.special_dunder
  setSpecial := py.setSpecial
  specialUnknown := py.specialUnknown

section

variable {O F : Type} [DecidableEq O] (py : Python O F)

/-! ### Devices -/

/-- A dataclass with the default of each field, none for a field that must be given. -/
structure DeviceClass (O F : Type) where
  cls : String
  fields : List (String × Option (Doc O F))

/-- `_from_dict`: keys that name no field are dropped; a field that must be given and is not
    raises. -/
def fromDict (kind : DeviceClass O F) (d : Entries (Key O) (Scalar O F)) : Option (Device O F) :=
  (kind.fields.mapM fun field =>
    ((lookupItems (.str field.1) d).or field.2).map fun value => (field.1, value)).map
      (Device.mk kind.cls)

/-- `[_from_dict(d) for d in value if isinstance(d, dict)]`. -/
def fromDicts (kind : DeviceClass O F) (items : List (Doc O F)) : Option (List (Device O F)) :=
  (items.filterMap fun item =>
    match item with
    | .dict d => some d
    | _ => none).mapM (fromDict kind)

def Device.has (device : Device O F) (name : String) : Bool :=
  match lookupItems name device.values with
  | some value => py.objects.isTruthy value
  | none => false

def null : Doc O F := .scalar .null

def int (value : Int) : Doc O F := .scalar (.int value)

def str (value : String) : Doc O F := .scalar (.str value)

def bool (value : Bool) : Doc O F := .scalar (.bool value)

def meshcoreUsbConfig : DeviceClass O F where
  cls := "MeshcoreUsbConfig"
  fields := [("serial_port", some null), ("baud_rate", some (int 115200)),
    ("auto_detect", some (bool true)), ("label", some (str "")), ("companion_name", some null)]

def serialDeviceConfig : DeviceClass O F where
  cls := "SerialDeviceConfig"
  fields := [("serial_port", some null), ("serial_baud", some (int 115200)),
    ("label", some (str "")), ("long_name", some null), ("short_name", some null)]

def rfEnvCompanionDeviceConfig : DeviceClass O F where
  cls := "RfEnvCompanionDeviceConfig"
  fields := [("serial_port", some null), ("serial_baud", some (int 115200)),
    ("label", some (str "")), ("name", some (str "")), ("nb_scan", some (int 512))]

def repeaterConfig : DeviceClass O F where
  cls := "RepeaterConfig"
  fields := [("key", some (str "")), ("password", some (str "")), ("name", some (str ""))]

def metricsApiKey : DeviceClass O F where
  cls := "MetricsApiKey"
  fields := [("id", none), ("label", none), ("key_hash", none), ("created_at", none),
    ("last_used_at", some null)]

/-- `_coerce_meshcore_usb`: one mapping, or a list of them; for anything else the default. -/
def coerceMeshcoreUsb : Doc O F → Option (Setting O F)
  | .dict d => (fromDict meshcoreUsbConfig d).map fun device => .devices [device]
  | .list items => (fromDicts meshcoreUsbConfig items).map .devices
  | .scalar _ => (fromDict meshcoreUsbConfig []).map fun device => .devices [device]

/-- The other functions of this kind: the devices of a list that pass. -/
def coerceList (kind : DeviceClass O F) (passes : Device O F → Bool) :
    Doc O F → Option (Setting O F)
  | .list items => (fromDicts kind items).map fun devices => .devices (devices.filter passes)
  | _ => some (.devices [])

def coerceSerialDevices : Doc O F → Option (Setting O F) :=
  coerceList serialDeviceConfig fun _ => true

def coerceRfenvCompanionDevices : Doc O F → Option (Setting O F) :=
  coerceList rfEnvCompanionDeviceConfig fun _ => true

def coerceRepeaters : Doc O F → Option (Setting O F) :=
  coerceList repeaterConfig fun device => device.has py "key"

def coerceMetricsApiKeys : Doc O F → Option (Setting O F) :=
  coerceList metricsApiKey fun device => device.has py "id" && device.has py "key_hash"

/-- The keys that are taken out of a section, in the order of the source. -/
def coerced : List (String × List (String × (Doc O F → Option (Setting O F)))) :=
  [("capture", [("meshcore_usb", coerceMeshcoreUsb), ("serial", coerceSerialDevices),
      ("rfenv_companion", coerceRfenvCompanionDevices)]),
    ("repeater_poll", [("repeaters", coerceRepeaters py)]),
    ("metrics", [("api_keys", coerceMetricsApiKeys py)])]

end

/-! ### The configuration -/

section

variable {O F : Type}

/-- A section: a dataclass instance. -/
structure Section (O F : Type) where
  cls : String
  fields : Fields (Setting O F)

def Section.toAttribute (sec : Section O F) : Attribute (Setting O F) :=
  .dataclass sec.cls sec.fields

/-- `AppConfig`: its sections, and the settings beside them. -/
structure AppConfig (O F : Type) where
  sections : List (String × Section O F)
  plugins : OrderedDict (Key O) (Doc O F)
  pluginSources : List (Entries (Key O) (Scalar O F))
  pluginSourcesEnabled : Bool

def AppConfig.beside (cfg : AppConfig O F) : Fields (Setting O F) :=
  [("plugins", .setting (.yaml (.dict cfg.plugins.items))),
    ("plugin_sources", .setting (.yaml (.list (cfg.pluginSources.map .dict)))),
    ("plugin_sources_enabled", .setting (.yaml (bool cfg.pluginSourcesEnabled)))]

def AppConfig.root (cfg : AppConfig O F) : Attribute (Setting O F) :=
  .dataclass "AppConfig"
    (cfg.sections.map (fun sec => (sec.1, sec.2.toAttribute)) ++ cfg.beside)

end

/-! ### Built-in values -/

section

variable {O F : Type} [DecidableEq O] [RadioFloat F]

def float (tenThousandths : Int) : Doc O F := .scalar (.float (RadioFloat.decimal tenThousandths))

def settings (values : List (String × Doc O F)) : Fields (Setting O F) :=
  values.map fun value => (value.1, .setting (.yaml value.2))

def radioConfig : Section O F where
  cls := "RadioConfig"
  fields :=
    settings
      [("region", str "US"), ("frequency_mhz", null), ("slot", null),
       ("spreading_factor", int 11), ("bandwidth_khz", float 2500000), ("coding_rate", str "4/5"),
       ("sync_word", int 43), ("preamble_length", int 16), ("tx_power_dbm", int 22),
       ("spectral_scan_interval_seconds", float 600000),
       ("spectrum_sweep_interval_seconds", float 3000000), ("sx1261_spi_path", str ""),
       ("capture_ram_spectrum", bool false), ("pager_enabled", bool false),
       ("pager_frequency_mhz", float 8694625), ("pager_sync_word", int 9724983),
       ("pager_sync_word_size", int 3), ("pager_rf_chain", int 1), ("pager_capcode", int 0)]

def lorawanConfig : Section O F where
  cls := "LoRaWANConfig"
  fields := settings [("devices", .dict [])]

def meshtasticConfig : Section O F where
  cls := "MeshtasticConfig"
  fields :=
    settings
      [("default_key_b64", str "AQ=="), ("primary_channel_name", str "LongFast"),
       ("channel_keys", .dict [])]

def meshcoreConfig : Section O F where
  cls := "MeshcoreConfig"
  fields :=
    settings
      [("default_key_b64", str ""), ("channel_keys", .dict []), ("private_channels", .list []),
       ("companion_name", null)]

def captureConfig : Section O F where
  cls := "CaptureConfig"
  fields :=
    settings
      [("sources", .list [str "mock"]), ("serial_port", null), ("serial_baud", int 115200)] ++
    [("serial", .setting (.devices [])), ("rfenv_companion", .setting (.devices []))] ++
    settings [("concentrator_spi_device", str "/dev/spidev0.0")] ++
    [("meshcore_usb", .setting (.devices (fromDict meshcoreUsbConfig []).toList))]

def storageConfig : Section O F where
  cls := "StorageConfig"
  fields :=
    settings
      [("database_path", str "data/concentrator.db"), ("max_packets_retained", int 100000),
       ("max_telemetry_retained", int 100000), ("cleanup_interval_seconds", int 3600)]

def dashboardConfig : Section O F where
  cls := "DashboardConfig"
  fields :=
    settings
      [("host", str "0.0.0.0"), ("port", int 8080), ("static_dir", str "frontend"),
       ("plugins_dir", str "plugins"), ("theme", str "dark"), ("landing_page", str "dashboard"),
       ("tls_enabled", bool false), ("tls_cert_path", str "data/tls/cert.pem"),
       ("tls_key_path", str "data/tls/key.pem"), ("tls_port", int 8443),
       ("web_terminal_enabled", bool false), ("web_terminal_toggle", bool false),
       ("map_tile_url", str "https://tile.openstreetmap.org/\x7bz\x7d/\x7bx\x7d/\x7by\x7d.png")]

def upstreamConfig : Section O F where
  cls := "UpstreamConfig"
  fields :=
    settings
      [("enabled", bool false), ("url", str "wss://api.meshradar.io"),
       ("reconnect_interval_seconds", int 10), ("buffer_max_size", int 5000),
       ("auth_token", null)]

def deviceConfig : Section O F where
  cls := "DeviceConfig"
  fields :=
    settings
      [("device_id", null), ("device_name", str "Meshpoint"), ("latitude", null),
       ("longitude", null), ("altitude", null),
       ("hardware_description", str "RAK2287 + Raspberry Pi 4")]

def relayConfig : Section O F where
  cls := "RelayConfig"
  fields :=
    settings
      [("enabled", bool false), ("serial_port", null), ("serial_baud", int 115200),
       ("max_relay_per_minute", int 20), ("burst_size", int 5),
       ("min_relay_rssi", float (-1100000)), ("max_relay_rssi", float (-500000))]

def mqttConfig : Section O F where
  cls := "MqttConfig"
  fields :=
    settings
      [("enabled", bool false), ("broker", str "mqtt.meshtastic.org"), ("port", int 1883),
       ("username", str "meshdev"), ("password", str "large4cats"), ("topic_root", str "msh"),
       ("region", str "US"), ("tls_enabled", bool false), ("tls_ca_cert", str ""),
       ("gateway_id", null), ("publish_channels", .list [str "LongFast", str "MeshCore"]),
       ("publish_json", bool false), ("location_precision", str "exact"),
       ("homeassistant_discovery", bool false), ("map_reporting_enabled", bool false),
       ("map_report_interval_seconds", int 3600), ("map_report_position_precision", int 14)]

def nodeInfoConfig : Section O F where
  cls := "NodeInfoConfig"
  fields := settings [("interval_minutes", int 180), ("startup_delay_seconds", int 60)]

def telemetryConfig : Section O F where
  cls := "TelemetryConfig"
  fields := settings [("interval_minutes", int 30), ("startup_delay_seconds", int 120)]

def positionConfig : Section O F where
  cls := "PositionConfig"
  fields :=
    settings
      [("interval_minutes", int 15), ("startup_delay_seconds", int 180),
       ("coordinate_source", str "static"), ("location_precision", str "approximate")]

def transmitConfig : Section O F where
  cls := "TransmitConfig"
  fields :=
    settings
      [("enabled", bool false), ("node_id", null), ("tx_power_dbm", int 14),
       ("max_duty_cycle_percent", null), ("long_name", str "Meshpoint"),
       ("short_name", str "MPNT"), ("hop_limit", int 3)] ++
    [("nodeinfo", nodeInfoConfig.toAttribute), ("telemetry", telemetryConfig.toAttribute),
     ("position", positionConfig.toAttribute)]

def webAuthConfig : Section O F where
  cls := "WebAuthConfig"
  fields :=
    settings
      [("admin_password_hash", str ""), ("viewer_password_hash", str ""), ("jwt_secret", str ""),
       ("jwt_expiry_minutes", int 480), ("allow_read_only", bool false),
       ("lockout_attempts", int 5), ("lockout_cooldown_minutes", int 5),
       ("session_version", int 1)]

def locationConfig : Section O F where
  cls := "LocationConfig"
  fields :=
    settings
      [("source", str "static"), ("gpsd_host", str "127.0.0.1"), ("gpsd_port", int 2947),
       ("uart_device", str "/dev/ttyAMA0"), ("uart_baud", int 9600),
       ("uart_enable_gpios", .list []), ("update_interval_seconds", int 5),
       ("min_fix_quality", int 1)]

def metricsConfig : Section O F where
  cls := "MetricsConfig"
  fields :=
    settings [("enabled", bool false), ("require_auth", bool true)] ++
    [("api_keys", .setting (.devices []))]

def fanConfig : Section O F where
  cls := "FanConfig"
  fields :=
    settings
      [("enabled", bool false), ("gpio_pin", int 13), ("min_temp_c", float 450000),
       ("max_temp_c", float 650000), ("min_duty", float 3500), ("hysteresis_c", float 50000),
       ("poll_interval_s", float 100000)]

def ledConfig : Section O F where
  cls := "LedConfig"
  fields := settings [("enabled", bool false), ("gpio_pin", int 22), ("activity_blink", bool true)]

def buttonConfig : Section O F where
  cls := "ButtonConfig"
  fields :=
    settings
      [("enabled", bool false), ("gpio_pin", int 27), ("hold_time_s", float 30000),
       ("advert_cooldown_s", float 300000)]

def repeaterPollConfig : Section O F where
  cls := "RepeaterPollConfig"
  fields :=
    settings [("enabled", bool false), ("interval_minutes", int 30)] ++
    [("repeaters", .setting (.devices []))]

def updateCheckConfig : Section O F where
  cls := "UpdateCheckConfig"
  fields := settings [("enabled", bool true), ("interval_minutes", int 60)]


/-- `AppConfig()`. -/
def appConfig : AppConfig O F where
  sections :=
    [("radio", radioConfig), ("lorawan", lorawanConfig), ("meshtastic", meshtasticConfig),
     ("meshcore", meshcoreConfig), ("capture", captureConfig), ("storage", storageConfig),
     ("dashboard", dashboardConfig), ("upstream", upstreamConfig), ("device", deviceConfig),
     ("relay", relayConfig), ("mqtt", mqttConfig), ("transmit", transmitConfig),
     ("web_auth", webAuthConfig), ("location", locationConfig), ("metrics", metricsConfig),
     ("fan", fanConfig), ("led", ledConfig), ("button", buttonConfig),
     ("repeater_poll", repeaterPollConfig), ("update_check", updateCheckConfig)]
  plugins := .empty
  pluginSources := []
  pluginSourcesEnabled := false

end

end Meshpoint.ConfigSchema
