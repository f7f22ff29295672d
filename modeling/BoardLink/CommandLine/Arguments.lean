import BoardLink.Channel
import BoardLink.CommandLine.Invocation
import BoardLink.DigitalInputs

-- How the words of a command line are read: commands, options and arguments.
-- Words are read one after the other, and the first one that is wrong ends the reading.
namespace BoardLink.CommandLine

open BoardLink.Text

-- What can be asked for, apart from options and arguments.
inductive Verb where
  | setSetting
  | getSetting
  | settingsPath
  | mcuVersion
  | fpgaVersion
  | voltage
  | voltages
  | getLed
  | setLed
  | threshold
  | powerOnReason
  | powerOff
  | getClock
  | setClock
  | syncClock
  | calibration
  | getPin
  | setPin
  | battery
  | inputs
  deriving DecidableEq, Repr

namespace Verb

def all : List Verb := [
  .setSetting, .getSetting, .settingsPath, .mcuVersion, .fpgaVersion, .voltage, .voltages, .getLed,
  .setLed, .threshold, .powerOnReason, .powerOff, .getClock, .setClock, .syncClock, .calibration,
  .getPin, .setPin, .battery, .inputs]

-- The command words that lead to a verb.
def path : Verb → List String
  | .setSetting => ["config", "set"]
  | .getSetting => ["config", "get"]
  | .settingsPath => ["config", "path"]
  | .mcuVersion => ["mcu-version"]
  | .fpgaVersion => ["fpga-version"]
  | .voltage => ["voltage"]
  | .voltages => ["voltages"]
  | .getLed => ["led", "get"]
  | .setLed => ["led", "set"]
  | .threshold => ["threshold"]
  | .powerOnReason => ["power-on-reason"]
  | .powerOff => ["power-off"]
  | .getClock => ["rtc", "get"]
  | .setClock => ["rtc", "set"]
  | .syncClock => ["rtc", "sync"]
  | .calibration => ["rtc", "cal"]
  | .getPin => ["gpio", "get"]
  | .setPin => ["gpio", "set"]
  | .battery => ["battery"]
  | .inputs => ["inputs"]

def ofPath? (path : List String) : Option Verb := all.find? (·.path = path)

end Verb

-- Whether a path ends in front of some verb.
def isGroup (path : List String) : Bool :=
  Verb.all.any fun verb => path.isPrefixOf verb.path && path != verb.path

-- Whether a word leads on from a path to some verb.
def leadsOn (path : List String) (word : String) : Bool :=
  Verb.all.any fun verb => (path ++ [word]).isPrefixOf verb.path

-- Kinds of arguments.
inductive Kind where
  | text
  | channel
  | led
  | byte
  | word
  | color
  deriving DecidableEq, Repr

inductive Argument where
  | text (s : String)
  | channel (channel : AdcChannel)
  | led (led : UInt8)
  | byte (n : UInt8)
  | word (n : UInt32)
  | color (color : RgbColor)
  deriving DecidableEq, Repr

-- A whole number from zero to `bound`. A minus sign is allowed in front of zero only.
def number? (bound : Nat) (text : String) : Option Nat :=
  match Numeral.readSigned? 0x7fffffffffffffff text.toList with
  | some (.ofNat n) => if n ≤ bound then some n else none
  | _ => none

def Kind.read? (text : String) : Kind → Option Argument
  | .text => some (.text text)
  | .channel => (AdcChannel.ofText text).toOption.map .channel
  | .led => (ledOfText text).toOption.map .led
  | .byte => (number? 0xff text).map fun n => .byte (UInt8.ofNat n)
  | .word => (number? 0xffffffff text).map fun n => .word (UInt32.ofNat n)
  | .color => (RgbColor.ofText text).toOption.map .color

-- The arguments that a verb takes. The last one can be left out where it has a default.
def Verb.kinds : Verb → List Kind
  | .setSetting => [.text, .text]
  | .getSetting => [.text]
  | .voltage => [.channel]
  | .getLed => [.led]
  | .setLed => [.led, .byte, .color]
  | .powerOff => [.word]
  | .setClock => [.text]
  | .getPin => [.word]
  | .setPin => [.word, .word]
  | .inputs => [.word]
  | _ => []

-- An option with its value.
inductive Choice where
  | config (path : FilePath)
  | endpoint (path : String)
  | timeoutMs (ms : UInt64)
  | battery (convention : BatteryConvention)
  | inputRoot (path : FilePath)
  | json
  | dotted
  deriving DecidableEq, Repr

-- Options that take a value.
inductive Valued where
  | config
  | endpoint
  | timeoutMs
  | battery
  | inputRoot
  deriving DecidableEq, Repr

-- An empty path is no path.
def Valued.read? (value : String) : Valued → Option Choice
  | .config => if value = "" then none else some (.config ⟨value⟩)
  | .endpoint => if value = "" then none else some (.endpoint value)
  | .timeoutMs =>
    (Numeral.read? 10 Settings.maxTimeout value.toList).map fun ms => .timeoutMs (UInt64.ofNat ms)
  | .battery => (BatteryConvention.ofText value).toOption.map .battery
  | .inputRoot => if value = "" then none else some (.inputRoot ⟨value⟩)

-- What an option word asks for.
inductive Switch where
  | valued (name : Valued)
  | plain (choice : Choice)
  | help
  | version

-- The options that may stand after a path. Most of them may stand anywhere.
def switch? (path : List String) (name : String) : Option Switch :=
  if name = "config" then some (.valued .config)
  else if name = "endpoint" then some (.valued .endpoint)
  else if name = "timeout-ms" then some (.valued .timeoutMs)
  else if name = "battery-convention" then some (.valued .battery)
  else if name = "json" then some (.plain .json)
  else if name = "help" then some .help
  else if name = "version" ∧ path = [] then some .version
  else if name = "dotted" ∧ path = Verb.fpgaVersion.path then some (.plain .dotted)
  else if name = "sysfs-root" ∧ path = Verb.inputs.path then some (.valued .inputRoot)
  else none

-- Short options are letters for long ones.
def longName? (letter : Char) : Option String :=
  if letter = 'e' then some "endpoint"
  else if letter = 'h' then some "help"
  else if letter = 'V' then some "version"
  else none

-- What is expected of the next word.
inductive Mode where
  -- anything
  | open
  -- the value of an option
  | value (name : Valued)
  -- arguments only, whatever they look like
  | arguments
  -- the path of a command to be explained
  | explain
  deriving DecidableEq, Repr

-- The words read so far. `here` holds the options since the latest command word and `above`
-- those before it, the latest level first.
structure Reading where
  mode : Mode
  path : List String
  here : List Choice
  above : List Choice
  arguments : List Argument
  deriving Repr

def Reading.start : Reading := ⟨.open, [], [], [], []⟩

-- Why a reading came to an early end.
inductive Stop where
  | help
  | version
  | refused
  deriving DecidableEq, Repr

def orRefuse {α : Type} : Option α → Except Stop α
  | some value => .ok value
  | none => .error .refused

def Choice.sameOption : Choice → Choice → Bool
  | .config _, .config _ => true
  | .endpoint _, .endpoint _ => true
  | .timeoutMs _, .timeoutMs _ => true
  | .battery _, .battery _ => true
  | .inputRoot _, .inputRoot _ => true
  | .json, .json => true
  | .dotted, .dotted => true
  | _, _ => false

namespace Reading

-- An option may come once on every level.
def choose (reading : Reading) (choice : Choice) : Except Stop Reading :=
  if reading.here.any choice.sameOption then .error .refused
  else .ok { reading with mode := .open, here := choice :: reading.here }

def argument (reading : Reading) (word : String) : Except Stop Reading := do
  let verb ← orRefuse (Verb.ofPath? reading.path)
  let kind ← orRefuse verb.kinds[reading.arguments.length]?
  let argument ← orRefuse (kind.read? word)
  return { reading with arguments := reading.arguments ++ [argument] }

-- A command word opens a new level of options.
def enter (reading : Reading) (word : String) : Reading :=
  { reading with
    path := reading.path ++ [word]
    here := []
    above := reading.here ++ reading.above }

-- An option word and the value that is joined to it.
def option (reading : Reading) (name : String) (value : Option String) : Except Stop Reading :=
  match switch? reading.path name, value with
  | none, _ => .error .refused
  | some (.valued name), none => .ok { reading with mode := .value name }
  | some (.valued name), some value => do reading.choose (← orRefuse (name.read? value))
  | some (.plain choice), none => reading.choose choice
  | some .help, none => .error .help
  | some .version, none => .error .version
  | some _, some _ => .error .refused

-- A letter and what follows it in the same word. Letters that end the reading do not care about
-- the rest, and an equals sign in front of a value does not belong to it.
def letters (reading : Reading) (letter : Char) (rest : List Char) : Except Stop Reading := do
  let name ← orRefuse (longName? letter)
  match switch? reading.path name, rest with
  | some (.valued _), '=' :: value => reading.option name (some (String.ofList value))
  | some (.valued _), c :: value => reading.option name (some (String.ofList (c :: value)))
  | _, _ => reading.option name none

-- A word that begins with a dash and has more to it, at a place where options may stand.
def dashed (reading : Reading) : List Char → Except Stop Reading
  | ['-'] => .ok { reading with mode := .arguments }
  | '-' :: rest =>
    match pieces '=' rest with
    | [] => .error .refused
    | [name] => reading.option (String.ofList name) none
    | name :: value =>
      reading.option (String.ofList name) (some (String.ofList (List.intercalate ['='] value)))
  | letter :: rest => reading.letters letter rest
  | [] => .error .refused

-- A word without a dash, where a command or an argument may stand.
def bare (reading : Reading) (word : String) : Except Stop Reading :=
  if (Verb.ofPath? reading.path).isSome then reading.argument word
  else if word = "help" then .ok { reading with mode := .explain }
  else if leadsOn reading.path word then .ok (reading.enter word)
  else .error .refused

def step (reading : Reading) (word : String) : Except Stop Reading :=
  match reading.mode, word.toList with
  | .arguments, _ => reading.argument word
  | .explain, _ =>
    if leadsOn reading.path word ∨ (word = "help" ∧ isGroup reading.path) then
      .ok { reading with path := reading.path ++ [word] }
    else .error .refused
  | .value _, '-' :: _ :: _ => .error .refused
  | .value name, _ => do reading.choose (← orRefuse (name.read? word))
  | .open, '-' :: c :: rest => reading.dashed (c :: rest)
  | .open, _ => reading.bare word

-- The options of all levels. An inner level wins over the levels around it.
def choices (reading : Reading) : List Choice := reading.here ++ reading.above

end Reading

def options (choices : List Choice) : Options where
  config := choices.findSome? fun
    | .config path => some path
    | _ => none
  settings := {
    endpoint := choices.findSome? fun
      | .endpoint path => some path
      | _ => none
    timeoutMs := choices.findSome? fun
      | .timeoutMs ms => some ms
      | _ => none
    battery := choices.findSome? fun
      | .battery convention => some convention
      | _ => none }
  json := choices.contains .json

-- Arguments that are left out have their defaults here, and a missing one without a default
-- makes the command incomplete.
def Verb.invocation? (choices : List Choice) : Verb → List Argument → Option Invocation
  | .setSetting, [.text key, .text value] => some (.setSetting key value)
  | .getSetting, [.text key] => some (.getSetting key)
  | .getSetting, [] => some (.getSetting Invocation.allSettings)
  | .settingsPath, [] => some .settingsPath
  | .mcuVersion, [] => some (.call .mcuVersion)
  | .fpgaVersion, [] => some (.fpgaVersion (choices.contains .dotted))
  | .voltage, [.channel channel] => some (.call (.voltage channel.toByte))
  | .voltages, [] => some .voltages
  | .getLed, [.led led] => some (.call (.ledStatus led))
  | .setLed, [.led led, .byte brightness, .color color] =>
    some (.call (.setLed led brightness color))
  | .threshold, [] => some (.call .powerThreshold)
  | .powerOnReason, [] => some (.call .powerOnReason)
  | .powerOff, [.word waitSeconds] => some (.call (.powerOff waitSeconds))
  | .powerOff, [] => some (.call (.powerOff 0))
  | .getClock, [] => some (.call .clock)
  | .setClock, [.text text] => some (.call (.setClock text))
  | .syncClock, [] => some .syncClock
  | .calibration, [] => some (.call .calibration)
  | .getPin, [.word pin] => some (.call (.pinState pin))
  | .setPin, [.word pin, .word value] => some (.call (.setPin pin value))
  | .battery, [] => some (.call .battery)
  | .inputs, arguments =>
    let root := (choices.findSome? fun
      | .inputRoot path => some path
      | _ => none).getD ⟨DigitalInputs.defaultRoot⟩
    match arguments with
    | [] => some (.inputs root)
    | [.word number] => some (.input root number)
    | _ => none
  | _, _ => none

def Reading.finish (reading : Reading) : Except Stop (Options × Invocation) :=
  match reading.mode with
  | .explain => .error .help
  | .value _ => .error .refused
  | .open | .arguments => do
    let verb ← orRefuse (Verb.ofPath? reading.path)
    let invocation ← orRefuse (verb.invocation? reading.choices reading.arguments)
    return (options reading.choices, invocation)

-- The words after the name of the program.
def read (words : List String) : Except Stop (Options × Invocation) := do
  (← words.foldlM Reading.step .start).finish

end BoardLink.CommandLine
