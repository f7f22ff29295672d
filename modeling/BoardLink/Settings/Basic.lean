import BoardLink.Text.Quoted
import BoardLink.Value.Battery

-- The client's settings: where the board is reached, how long to wait, and how its battery
-- status is read. Each may be left open.
namespace BoardLink

open Text

structure Settings where
  endpoint : Option String
  timeoutMs : Option UInt64
  battery : Option BatteryConvention
  deriving DecidableEq, Repr, Inhabited

inductive SettingsKey where
  | endpoint
  | timeoutMs
  | battery
  deriving DecidableEq, Repr

namespace SettingsKey

def all : List SettingsKey := [.endpoint, .timeoutMs, .battery]

def name : SettingsKey → String
  | .endpoint => "endpoint"
  | .timeoutMs => "timeout_ms"
  | .battery => "battery_convention"

def ofName? (name : String) : Option SettingsKey := all.find? (·.name = name)

end SettingsKey

inductive SettingsError where
  | unknownKey (key : String)
  | invalidTimeout (text : String) (fault : NumeralError)
  | zeroTimeout
  | invalidConvention (text : String)
  deriving DecidableEq, Repr

namespace SettingsError

-- The message and then its causes, the outermost first.
def messages : SettingsError → List String
  | .unknownKey key =>
    ["Unknown config key: " ++ key ++ " (expected one of " ++
      String.intercalate ", " (SettingsKey.all.map SettingsKey.name) ++ ")"]
  | .invalidTimeout text fault => ["Invalid timeout_ms: " ++ text, fault.message]
  | .zeroTimeout => ["timeout_ms must be non-zero"]
  | .invalidConvention text =>
    ["Invalid battery_convention: " ++ text ++
      " (expected payload_non_zero or status_positive)"]

end SettingsError

namespace Settings

-- The greatest number of milliseconds.
def maxTimeout : Nat := 0xffffffffffffffff

-- Change one setting from a text, and say whether the text will do. Any will do as an endpoint.
def set (settings : Settings) (key value : String) : Except SettingsError Unit × Settings :=
  match SettingsKey.ofName? key with
  | none => (.error (.unknownKey key), settings)
  | some .endpoint => (.ok (), { settings with endpoint := some value })
  | some .timeoutMs =>
    match Numeral.read 10 maxTimeout value.toList with
    | .error fault => (.error (.invalidTimeout value fault), settings)
    | .ok 0 => (.error .zeroTimeout, settings)
    | .ok ms => (.ok (), { settings with timeoutMs := some (UInt64.ofNat ms) })
  | some .battery =>
    match BatteryConvention.ofText value with
    | .error _ => (.error (.invalidConvention value), settings)
    | .ok convention => (.ok (), { settings with battery := some convention })

def getKey (settings : Settings) : SettingsKey → Option String
  | .endpoint => settings.endpoint
  | .timeoutMs => settings.timeoutMs.map fun ms => toString ms.toNat
  | .battery => settings.battery.map BatteryConvention.name

-- The text of one setting, or nothing if it is open.
def get (settings : Settings) (key : String) : Except SettingsError (Option String) :=
  match SettingsKey.ofName? key with
  | none => .error (.unknownKey key)
  | some key => .ok (settings.getKey key)

-- The environment variable that names another endpoint.
def endpointVariable : String := "MCTL_ENDPOINT"

-- An empty value of the variable counts as none.
def applyEnvironment (settings : Settings) : Option String → Settings
  | some value => if value = "" then settings else { settings with endpoint := some value }
  | none => settings

-- What lies over the settings wins.
def override (settings upper : Settings) : Settings where
  endpoint := upper.endpoint <|> settings.endpoint
  timeoutMs := upper.timeoutMs <|> settings.timeoutMs
  battery := upper.battery <|> settings.battery

-- The settings as they appear in log lines.
def describe (settings : Settings) : String :=
  let shown (value : Option String) := match value with
    | some text => "Some(" ++ text ++ ")"
    | none => "None"
  "ClientConfig \x7b endpoint: " ++ shown (settings.endpoint.map Quoted.render) ++
    ", timeout_ms: " ++ shown (settings.timeoutMs.map fun ms => toString ms.toNat) ++
    ", battery_convention: " ++ shown (settings.battery.map BatteryConvention.label) ++ " \x7d"

end Settings
end BoardLink
