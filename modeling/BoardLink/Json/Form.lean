import BoardLink.Json.Basic
import BoardLink.Operation
import BoardLink.Settings.Basic

-- The JSON forms of the values that are stored or handed on, and how they are read back.
-- A record is read from an object, where other keys do not matter, or from the list of its
-- fields in order. No key may come twice.
namespace BoardLink.Json

-- A whole number from zero to `bound`.
def natural? (bound : Nat) : JsonValue → Option Nat
  | .integer (.ofNat n) => if n ≤ bound then some n else none
  | _ => none

def byte? (value : JsonValue) : Option UInt8 := (natural? 0xff value).map UInt8.ofNat

def short? (value : JsonValue) : Option UInt16 := (natural? 0xffff value).map UInt16.ofNat

-- The value at a key that comes exactly once.
def field? (key : String) (fields : List (String × JsonValue)) : Option JsonValue :=
  match fields.filter (·.1 = key) with
  | [(_, value)] => some value
  | _ => none

-- The values of a record's fields in order.
def fields? (keys : List String) : JsonValue → Option (List JsonValue)
  | .list items => if items.length = keys.length then some items else none
  | .object fields => keys.mapM (field? · fields)
  | _ => none

-- One of several names, either alone or as the only key of an object whose value is null.
def named? {α : Type} (ofName? : String → Option α) : JsonValue → Option α
  | .text name => ofName? name
  | .object [(name, .null)] => ofName? name
  | _ => none

def ofByte (byte : UInt8) : JsonValue := .integer byte.toNat

def ofShort (short : UInt16) : JsonValue := .integer short.toNat

def ofOpcode (opcode : Opcode) : JsonValue := .text opcode.label

def opcode? : JsonValue → Option Opcode :=
  named? fun name => Opcode.all.find? (·.label = name)

def ofVersion (version : FirmwareVersion) : JsonValue := .list (version.toBytes.map ofByte)

def version? : JsonValue → Option FirmwareVersion
  | .list items => (items.mapM byte?).bind FirmwareVersion.ofBytes?
  | _ => none

def ofColor (color : RgbColor) : JsonValue :=
  .object [("red", ofByte color.red), ("green", ofByte color.green), ("blue", ofByte color.blue)]

def color? (value : JsonValue) : Option RgbColor :=
  match fields? ["red", "green", "blue"] value with
  | some [red, green, blue] => do return ⟨← byte? red, ← byte? green, ← byte? blue⟩
  | _ => none

def ofLed (status : LedStatus) : JsonValue :=
  .object [("brightness", ofByte status.brightness), ("color", ofColor status.color)]

def led? (value : JsonValue) : Option LedStatus :=
  match fields? ["brightness", "color"] value with
  | some [brightness, color] => do return ⟨← byte? brightness, ← color? color⟩
  | _ => none

def ofThreshold (threshold : PowerThreshold) : JsonValue :=
  .object [
    ("wiggle_count", ofShort threshold.wiggleCount),
    ("wiggle_count_sample_period_ms", ofShort threshold.samplePeriodMs),
    ("ignition_threshold_mv", ofShort threshold.ignitionMv)]

def threshold? (value : JsonValue) : Option PowerThreshold :=
  match fields? ["wiggle_count", "wiggle_count_sample_period_ms", "ignition_threshold_mv"] value with
  | some [count, period, ignition] => do
    return ⟨← short? count, ← short? period, ← short? ignition⟩
  | _ => none

def ofCalibration (registers : CalibrationRegisters) : JsonValue :=
  .object [("digital", ofByte registers.digital), ("analog", ofByte registers.analog)]

def calibration? (value : JsonValue) : Option CalibrationRegisters :=
  match fields? ["digital", "analog"] value with
  | some [digital, analog] => do return ⟨← byte? digital, ← byte? analog⟩
  | _ => none

def ofTimestamp (time : Timestamp) : JsonValue :=
  .object [
    ("year", ofShort time.year), ("month", ofByte time.month), ("day", ofByte time.day),
    ("hour", ofByte time.hour), ("minute", ofByte time.minute), ("second", ofByte time.second),
    ("fraction", ofByte time.fraction)]

def timestamp? (value : JsonValue) : Option Timestamp :=
  match fields? ["year", "month", "day", "hour", "minute", "second", "fraction"] value with
  | some [year, month, day, hour, minute, second, fraction] => do
    return ⟨← short? year, ← byte? month, ← byte? day, ← byte? hour, ← byte? minute,
      ← byte? second, ← byte? fraction⟩
  | _ => none

def ofHealth (health : BatteryHealth) : JsonValue := .text health.label

def health? : JsonValue → Option BatteryHealth :=
  named? fun name => [BatteryHealth.good, .lowOrAbsent].find? (·.label = name)

def ofConvention (convention : BatteryConvention) : JsonValue := .text convention.name

def convention? : JsonValue → Option BatteryConvention := named? BatteryConvention.ofName?

-- Only the settings that are not open are written.
def ofSettings (settings : Settings) : JsonValue :=
  .object (
    (settings.endpoint.map fun endpoint => ("endpoint", JsonValue.text endpoint)).toList ++
    (settings.timeoutMs.map fun ms => ("timeout_ms", .integer ms.toNat)).toList ++
    (settings.battery.map fun convention => ("battery_convention", ofConvention convention)).toList)

-- An absent value and null both leave a setting open.
def optional? {α : Type} (read? : JsonValue → Option α) : Option JsonValue → Option (Option α)
  | none => some none
  | some .null => some none
  | some value => (read? value).map some

def text? : JsonValue → Option String
  | .text s => some s
  | _ => none

def settingsOf? (endpoint timeoutMs battery : Option JsonValue) : Option Settings := do
  return ⟨← optional? text? endpoint,
    ← optional? (fun value => (natural? Settings.maxTimeout value).map UInt64.ofNat) timeoutMs,
    ← optional? convention? battery⟩

-- Settings refuse unknown keys. As a list they may be cut short.
def settings? : JsonValue → Option Settings
  | .list items =>
    if items.length ≤ 3 then settingsOf? items[0]? items[1]? items[2]? else none
  | .object fields =>
    let keys := fields.map (·.1)
    if keys.all (fun key => (SettingsKey.ofName? key).isSome) ∧ keys.Nodup then
      settingsOf? (fields.lookup "endpoint") (fields.lookup "timeout_ms")
        (fields.lookup "battery_convention")
    else none
  | _ => none

def ofReply : Reply → JsonValue
  | .mcuVersion version | .fpgaVersion version => ofVersion version
  | .voltage millivolts => .integer millivolts.toNat
  | .ledStatus status => ofLed status
  | .done => .null
  | .powerThreshold threshold => ofThreshold threshold
  | .powerOnReason reason => ofReason reason
  | .clock time => ofTimestamp time
  | .calibration registers => ofCalibration registers
  | .clockRegister value => ofByte value
  | .pinState high => .bool high
  | .battery health => ofHealth health
where
  ofReason (reason : PowerOnReason) : JsonValue :=
    .object [
      ("raw", ofByte reason.raw), ("ignition", .bool reason.ignition),
      ("wiggle", .bool reason.wiggle), ("arm_lockup", .bool reason.armLockup),
      ("watchdog", .bool reason.watchdog)]

end BoardLink.Json
