import BoardLink.Calendar
import BoardLink.CommandLine.Arguments
import BoardLink.CommandLine.Environment
import BoardLink.Hardware.Method
import BoardLink.Json.Form

-- Carrying out what the user asks for.
namespace BoardLink

open Text

-- A point in time as a clock on the spot shows it, `offset` seconds east of universal time.
structure LocalTime where
  instant : Instant
  offset : Int
  deriving DecidableEq, Repr

namespace Run

-- One result: an object with one key, or its plain text.
def line (options : Options) (key : String) (value : JsonValue) (plain : String) : List String :=
  [if options.json then (JsonValue.object [(key, value)]).render else plain]

def textLine (options : Options) (key text : String) : List String :=
  line options key (.text text) text

def numberLine (options : Options) (key : String) (n : Nat) (unit : String) : List String :=
  line options key (.integer n) (toString n ++ unit)

-- A byte with two upper-case hexadecimal digits.
def hexByte (byte : UInt8) : String :=
  "0x" ++ String.ofList (Numeral.padLeft 2 '0' (Numeral.hexUpper byte.toNat))

def bit (high : Bool) : Nat := if high then 1 else 0

def thresholdLines (threshold : PowerThreshold) : List String := [
  "wiggle count:             " ++ toString threshold.wiggleCount.toNat,
  "wiggle sample period:     " ++ toString threshold.samplePeriodMs.toNat ++ " ms",
  "ignition threshold:       " ++ toString threshold.ignitionMv.toNat ++ " mV"]

-- The reason as a number, and then the flags that are set.
def reasonLines (reason : PowerOnReason) : List String :=
  let flags := [
    (reason.ignition, "ignition trigger"),
    (reason.wiggle, "wiggle trigger"),
    (reason.armLockup, "arm lockup"),
    (reason.watchdog, "watchdog reset")]
  hexByte reason.raw :: (flags.filter (·.1)).map fun flag => "  " ++ flag.2

-- What a successful call prints. Calls that only write print nothing.
def answerLines (options : Options) : (command : Command) → command.Answer → List String
  | .mcuVersion => fun version => textLine options "mcu_version" version.dotted
  | .fpgaVersion => fun version => textLine options "fpga_version" version.compact
  | .voltage channel => fun millivolts =>
    numberLine options (((AdcChannel.ofByte? channel).map AdcChannel.name).getD "voltage")
      millivolts.toNat " mV"
  | .ledStatus _ => fun status =>
    [if options.json then (Json.ofLed status).render
     else "brightness " ++ toString status.brightness.toNat ++ " color " ++ status.color.text]
  | .powerThreshold => fun threshold =>
    if options.json then [(Json.ofThreshold threshold).render] else thresholdLines threshold
  | .powerOnReason => fun reason =>
    if options.json then numberLine options "power_on_reason" reason.raw.toNat ""
    else reasonLines reason
  | .clock => fun time => textLine options "rtc" time.text
  | .calibration => fun registers =>
    [if options.json then (Json.ofCalibration registers).render
     else "digital " ++ hexByte registers.digital ++ " analog " ++ hexByte registers.analog]
  | .clockRegister _ => fun value => numberLine options "value" value.toNat ""
  | .pinState _ => fun high => numberLine options "value" (bit high) ""
  | .battery _ => fun health => line options "rtc_battery_good" (.bool health.isGood) health.text
  | .setLed .. | .setPowerThreshold _ | .powerOff _ | .setClock _ | .setCalibration _
  | .setClockRegister .. | .setPin .. => fun _ => []

-- Calls that print nothing leave a line in the log.
def doneLine? : Operation → Option Log.Line
  | .setLed led brightness color =>
    some ⟨.info, "mctl_cli::commands::led", "LED " ++ toString led.toNat ++ " set to " ++
      color.text ++ " @ " ++ toString brightness.toNat⟩
  | .powerOff waitSeconds =>
    some ⟨.info, "mctl_cli::commands::system",
      "Power off requested in " ++ toString waitSeconds.toNat ++ " s"⟩
  | .setClock text => some ⟨.info, "mctl_cli::commands::rtc", "RTC set to " ++ text⟩
  | .setPin pin value =>
    some ⟨.info, "mctl_cli::commands::gpio",
      "GPIO " ++ toString pin.toNat ++ " set to " ++ toString value.toNat⟩
  | _ => none

-- Make one call and print its answer.
def call (reach : Reach) (operation : Operation)
    (shown : ((Hardware.Method.ofOperation operation).command reach.battery).Answer → List String)
    (host : Host) : Report × Host :=
  match (Hardware.Method.ofOperation operation).run reach.executor host with
  | (.crashed, host) => (.crash, host)
  | (.finished (.error error), host) => (.failure (.call operation error), host)
  | (.finished (.ok value), host) => (.success (shown value), host)

-- A call as the user asks for it by name.
def operate (options : Options) (reach : Reach) (operation : Operation) (host : Host) :
    Report × Host :=
  let command := (Hardware.Method.ofOperation operation).command reach.battery
  let (report, host) := call reach operation (answerLines options command) host
  match report.ending, doneLine? operation with
  | .success, some done => (report, host.log done)
  | _, _ => (report, host)

def nameField (channel : AdcChannel) : List Char := Numeral.padRight 12 ' ' channel.name.toList

def readingLine (channel : AdcChannel) (millivolts : UInt32) : String :=
  String.ofList (nameField channel ++
    ' ' :: Numeral.padLeft 6 ' ' (Numeral.decimal millivolts.toNat)) ++ " mV"

-- All voltages. Those that fail are complaints and make the whole run fail in the end.
-- The keys of an object are in alphabetical order.
def voltagesReport (options : Options)
    (readings : List (AdcChannel × Except CommandError UInt32)) : Report :=
  let good := readings.filterMap fun reading =>
    reading.2.toOption.map fun millivolts => (reading.1, millivolts)
  let complaints := readings.filterMap fun reading =>
    match reading.2 with
    | .error error => some (String.ofList (nameField reading.1) ++ " error: " ++ error.message)
    | .ok _ => none
  let fields := (good.map fun reading => (reading.1.name, JsonValue.integer reading.2.toNat))
  { output :=
      if options.json then [(JsonValue.object (fields.mergeSort fun a b => a.1 ≤ b.1)).render]
      else good.map fun reading => readingLine reading.1 reading.2
    complaints
    ending := if complaints = [] then .success else .failure (.channels complaints.length) }

def voltages (options : Options) (reach : Reach) (host : Host) : Report × Host :=
  match Hardware.allReadings reach.executor host with
  | (.crashed, host) => (.crash, host)
  | (.finished readings, host) => (voltagesReport options readings, host)

-- Set the board's clock by the local one.
def syncClock (options : Options) (now : LocalTime) (reach : Reach) (host : Host) :
    Report × Host :=
  let text := now.instant.clockText now.offset
  call reach (.setClock text)
    (fun _ => line options "rtc" (.text text) ("RTC synced to: " ++ text)) host

-- Inputs are listed in plain text only.
def inputsReport (outcomes : List (UInt32 × Except InputError Bool)) : Report :=
  let name (number : UInt32) := "input" ++ toString number.toNat
  let output := outcomes.filterMap fun outcome =>
    outcome.2.toOption.map fun high => name outcome.1 ++ " " ++ toString (bit high)
  let complaints := outcomes.filterMap fun outcome =>
    match outcome.2 with
    | .error error => some (name outcome.1 ++ " error: " ++ error.message)
    | .ok _ => none
  { output
    complaints
    ending := if complaints = [] then .success else .failure (.inputs complaints.length) }

def settingText (settings : Settings) (key : SettingsKey) : String :=
  (settings.getKey key).getD "(unset)"

-- One setting alone, or all of them with their names.
def settingLines (settings : Settings) (key : String) : Except SettingsError (List String) :=
  if key = Invocation.allSettings then
    .ok (SettingsKey.all.map fun key => key.name ++ " = " ++ settingText settings key)
  else
    (settings.get key).map fun value => [value.getD "(unset)"]

def getSetting (path : FilePath) (key : String) (host : Host) : Report × Host :=
  match Settings.load path host with
  | (.error error, host) => (.failure (.store error), host)
  | (.ok settings, host) =>
    match settingLines settings key with
    | .error error => (.failure (.settings error), host)
    | .ok lines => (.success lines, host)

-- The file is only touched when the new value is accepted.
def setSetting (path : FilePath) (key value : String) (host : Host) : Report × Host :=
  match Settings.load path host with
  | (.error error, host) => (.failure (.store error), host)
  | (.ok settings, host) =>
    match settings.set key value with
    | (.error error, _) => (.failure (.settings error), host)
    | (.ok (), settings) =>
      let (saved, files) := settings.save path host.files
      let host := { host with files }
      match saved with
      | .error error => (.failure (.store error), host)
      | .ok () => (.success ["✅ " ++ key ++ " = " ++ value], host)

-- Do something with the settings file of a run.
def withPath (environment : Environment) (options : Options)
    (use : FilePath → Host → Report × Host) (host : Host) : Report × Host :=
  match environment.settingsPath options with
  | .error failure => (.failure failure, host)
  | .ok path => use path host

-- Do something with the board.
def withReach (environment : Environment) (options : Options)
    (use : Reach → Host → Report × Host) (host : Host) : Report × Host :=
  match environment.reach options host with
  | (.error failure, host) => (.failure failure, host)
  | (.ok reach, host) => use reach host

-- Carry out one request.
def invocation (environment : Environment) (now : LocalTime) (options : Options) :
    Invocation → Host → Report × Host
  | .setSetting key value => withPath environment options fun path => setSetting path key value
  | .getSetting key => withPath environment options fun path => getSetting path key
  | .settingsPath => withPath environment options fun path host => (.success [path.text], host)
  | .call operation =>
    withReach environment options fun reach => operate options reach operation
  | .fpgaVersion dotted =>
    withReach environment options fun reach =>
      call reach .fpgaVersion fun version =>
        textLine options "fpga_version" (if dotted then version.dotted else version.compact)
  | .voltages => withReach environment options (voltages options)
  | .syncClock => withReach environment options (syncClock options now)
  | .inputs root => fun host =>
    let (outcomes, host) := DigitalInputs.allInputs root host
    (inputsReport outcomes, host)
  | .input root number => fun host =>
    match DigitalInputs.input root number host with
    | (.error error, host) => (.failure (.input error), host)
    | (.ok high, host) => (.success (numberLine options "input" (bit high) ""), host)

end Run
end BoardLink
