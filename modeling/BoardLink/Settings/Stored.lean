import BoardLink.Host
import BoardLink.Settings.Basic
import BoardLink.Toml.Document

-- Settings in a file: their TOML form, and loading and saving them.
namespace BoardLink

open Text

namespace Settings

-- A name alone, or as the only key of a table with nothing below it.
def conventionOf? : Toml.Node → Option BatteryConvention
  | .text name => BatteryConvention.ofName? name
  | .table _ [(name, .emptyList)] => BatteryConvention.ofName? name
  | .table _ [(name, .table _ [])] => BatteryConvention.ofName? name
  | _ => none

-- Take over one entry. Keys come only once, so nothing is overwritten.
def ofEntry? (settings : Settings) (entry : String × Toml.Node) : Option Settings :=
  match SettingsKey.ofName? entry.1, entry.2 with
  | some .endpoint, .text endpoint => some { settings with endpoint := some endpoint }
  | some .timeoutMs, .integer ms => some { settings with timeoutMs := some (UInt64.ofNat ms) }
  | some .battery, node =>
    (conventionOf? node).map fun convention => { settings with battery := some convention }
  | _, _ => none

def parse? (document : String) : Option Settings :=
  match Toml.read document with
  | some entries => entries.foldlM ofEntry? ⟨none, none, none⟩
  | none => none

-- One line, if the setting is not open.
def line (key : SettingsKey) (value : Option (List Char)) : List Char :=
  match value with
  | some value => key.name.toList ++ [' ', '=', ' '] ++ value ++ ['\n']
  | none => []

-- The settings that are not open, each on a line, in a fixed order.
def document (settings : Settings) : String :=
  String.ofList (
    line .endpoint (settings.endpoint.map fun endpoint => Toml.writeText endpoint.toList) ++
    line .timeoutMs (settings.timeoutMs.map fun ms => Numeral.decimal ms.toNat) ++
    line .battery (settings.battery.map fun convention => Toml.writeText convention.name.toList))

inductive StoreError where
  | read (path : FilePath) (cause : FileError)
  | malformed (path : FilePath)
  | makeDirectory (cause : FileError)
  | write (path : FilePath) (cause : FileError)
  deriving DecidableEq, Repr

-- The message and then its causes.
def StoreError.messages : StoreError → List String
  | .read path cause => ["Failed to read config file " ++ path.text, cause.message]
  | .malformed path => ["Failed to parse config file " ++ path.text]
  | .makeDirectory cause => ["Failed to create config directory", cause.message]
  | .write path cause => ["Failed to write config file " ++ path.text, cause.message]

def target : String := "mctl_client::config"

-- The settings in a file. A file that does not exist leaves everything open.
def load (path : FilePath) (host : Host) : Except StoreError Settings × Host :=
  if host.files.exists? path then
    match host.files.readText path with
    | .error cause => (.error (.read path cause), host)
    | .ok content =>
      match parse? content with
      | none => (.error (.malformed path), host)
      | some settings =>
        (.ok settings, host.log ⟨.debug, target,
          "Loaded config from " ++ path.text ++ ": " ++ settings.describe⟩)
  else
    (.ok ⟨none, none, none⟩,
      host.log ⟨.debug, target, "No config at " ++ path.text ++ ", using defaults"⟩)

-- Write the settings to a file, after the directories above it.
def save (settings : Settings) (path : FilePath) (files : FileTree) :
    Except StoreError Unit × FileTree :=
  let (made, files) := match path.parent? with
    | some parent => files.makeDirectories parent
    | none => (.ok (), files)
  match made with
  | .error cause => (.error (.makeDirectory cause), files)
  | .ok () =>
    match files.writeText path settings.document with
    | .error cause => (.error (.write path cause), files)
    | .ok files => (.ok (), files)

-- Take over the endpoint that the environment names, and say so in the log.
def loadEnvironment (settings : Settings) (value : Option String) (host : Host) :
    Settings × Host :=
  match value.filter (· ≠ "") with
  | some endpoint =>
    (settings.applyEnvironment value, host.log ⟨.debug, target,
      endpointVariable ++ " overrides endpoint: " ++ endpoint⟩)
  | none => (settings.applyEnvironment value, host)

end Settings
end BoardLink
