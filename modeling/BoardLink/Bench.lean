import BoardLink.Device
import BoardLink.Executor

-- A test bench: a link that records what happens on it, in front of a model of the board.
namespace BoardLink

inductive Event where
  | connect (connection : Nat)
  | exchange (connection : Nat) (opcode : UInt8)
  | disconnect (connection : Nat)
  deriving DecidableEq, Repr

namespace Event

@[simp] def isConnect : Event → Bool
  | .connect _ => true
  | _ => false

@[simp] def isExchange : Event → Bool
  | .exchange .. => true
  | _ => false

@[simp] def isDisconnect : Event → Bool
  | .disconnect _ => true
  | _ => false

end Event

-- How requests are answered. The board may change meanwhile.
abbrev Responder := Bytes → Device → Outcome (Except TransportError Bytes) × Device

namespace Responder

def device : Responder := fun body device =>
  let (response, device) := device.handle body
  (.finished response, device)

def always (response : Except TransportError Bytes) : Responder := fun _ device =>
  (.finished response, device)

def echo : Responder := fun body device => (.finished (.ok body), device)

def crash : Responder := fun _ device => (.crashed, device)

end Responder

-- Connections are numbered from one on and numbers are never used again.
-- `acquired` and `released` count the two ends of the lamp lock, and `releasedOpen` tells
-- whether the lock was ever let go while a connection was open.
structure Bench where
  device : Device
  responder : Responder
  events : List Event
  nextConnection : Nat
  refusing : Bool
  acquired : Nat
  released : Nat
  releasedOpen : Bool

namespace Bench

def new (device : Device) : Bench where
  device := device
  responder := Responder.device
  events := []
  nextConnection := 1
  refusing := false
  acquired := 0
  released := 0
  releasedOpen := false

def record (event : Event) (bench : Bench) : Bench :=
  { bench with events := bench.events ++ [event] }

def connectCount (bench : Bench) : Nat := bench.events.countP Event.isConnect

def exchangeCount (bench : Bench) : Nat := bench.events.countP Event.isExchange

def disconnectCount (bench : Bench) : Nat := bench.events.countP Event.isDisconnect

-- Connections opened and not yet closed, going by the recorded events.
-- There is no such number when more of them close than open.
def openConnections? (bench : Bench) : Option Nat :=
  if bench.disconnectCount ≤ bench.connectCount then
    some (bench.connectCount - bench.disconnectCount)
  else none

def clearEvents (bench : Bench) : Bench := { bench with events := [] }

def connect (bench : Bench) : Option Nat × Bench :=
  if bench.refusing then (none, bench)
  else
    (some bench.nextConnection,
      record (.connect bench.nextConnection)
        { bench with nextConnection := bench.nextConnection + 1 })

-- An exchange is recorded before it is answered. An empty request counts as opcode zero.
def exchange (connection : Nat) (request : Bytes) (bench : Bench) :
    Outcome (Except TransportError Bytes) × Bench :=
  let bench := bench.record (.exchange connection (request.headD 0))
  let (response, device) := bench.responder request bench.device
  (response, { bench with device })

def disconnect (connection : Nat) (bench : Bench) : Bench :=
  bench.record (.disconnect connection)

def acquire (bench : Bench) : Bench := { bench with acquired := bench.acquired + 1 }

-- The open connections are looked at first. Where they cannot be told, nothing is counted.
def release (bench : Bench) : Outcome Unit × Bench :=
  match bench.openConnections? with
  | none => (.crashed, bench)
  | some count =>
    (.finished (), { bench with
      released := bench.released + 1
      releasedOpen := bench.releasedOpen || 0 < count })

def executor (convention : BatteryConvention) : Executor Bench Nat where
  connect := connect
  exchange := exchange
  disconnect := disconnect
  acquire := acquire
  release := release
  log := fun _ bench => bench
  convention := convention

end Bench
end BoardLink
