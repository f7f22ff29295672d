import BoardLink.Host
import BoardLink.Settings.Basic

-- How the board is reached in the end: settings with every gap filled in.
namespace BoardLink

open Text

-- Without a time limit the client waits for ever.
structure Reach where
  endpoint : String
  timeoutMs : Option UInt64
  battery : BatteryConvention
  deriving DecidableEq, Repr

inductive ReachError where
  | emptyEndpoint
  | zeroTimeout
  deriving DecidableEq, Repr

def ReachError.message : ReachError → String
  | .emptyEndpoint => "Invalid endpoint: " ++ Quoted.render ""
  | .zeroTimeout => "Invalid configuration: timeout must be non-zero"

namespace Reach

def defaultEndpoint : String := "/dev/socket/iosocket"

def defaultTimeoutMs : UInt64 := 1000

def ofSettings (settings : Settings) : Reach where
  endpoint := settings.endpoint.getD defaultEndpoint
  timeoutMs := some (settings.timeoutMs.getD defaultTimeoutMs)
  battery := settings.battery.getD .payloadNonZero

def withoutTimeout (reach : Reach) : Reach := { reach with timeoutMs := none }

-- The endpoint is looked at before the time limit.
def check (reach : Reach) : Except ReachError Reach :=
  if reach.endpoint = "" then .error .emptyEndpoint
  else if reach.timeoutMs = some 0 then .error .zeroTimeout
  else .ok reach

-- A length of time in whole milliseconds below a second, and in seconds above.
-- A fraction loses its final zeros.
def durationText (ms : Nat) : List Char :=
  if ms < 1000 then Numeral.decimal ms ++ ['m', 's']
  else
    let digits := Numeral.padLeft 3 '0' (Numeral.decimal (ms % 1000))
    let fraction := (digits.reverse.dropWhile (· = '0')).reverse
    Numeral.decimal (ms / 1000) ++ (if fraction = [] then [] else '.' :: fraction) ++ ['s']

def timeoutText (reach : Reach) : String :=
  match reach.timeoutMs with
  | some ms => "Some(" ++ String.ofList (durationText ms.toNat) ++ ")"
  | none => "None"

-- Check the way to the board and say in the log what it is.
def build (reach : Reach) (host : Host) : Except ReachError Reach × Host :=
  match reach.check with
  | .error error => (.error error, host)
  | .ok reach =>
    (.ok reach, host.log ⟨.debug, "mctl_driver::builder",
      "Building executor: endpoint=" ++ reach.endpoint ++ ", timeout=" ++ reach.timeoutText ++
        ", battery=" ++ reach.battery.label⟩)

def executor (reach : Reach) : Executor Host Unit :=
  Host.executor ⟨reach.endpoint⟩ reach.timeoutMs reach.battery

end Reach
end BoardLink
