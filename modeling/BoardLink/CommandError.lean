import BoardLink.Command
import BoardLink.Transport.Error

-- Why a command has no answer, and how the outcome of an exchange is judged.
namespace BoardLink

inductive CommandError where
  | unavailable
  | device (status : Int32)
  | decode (fault : ProtocolError)
  | unimplemented (opcode : Opcode)
  deriving DecidableEq, Repr

namespace CommandError

def message : CommandError → String
  | .unavailable => "Hardware control endpoint unavailable"
  | .device status => "Device error (status " ++ toString status.toInt ++ ")"
  | .decode fault => "Decode error: " ++ fault.message
  | .unimplemented opcode => "Operation not implemented: " ++ opcode.name

-- The status of the board, if it gave one.
def status? : CommandError → Option Int32
  | .device status => some status
  | _ => none

-- A reply of impossible length counts as unreadable. Other failures keep their own status.
def ofTransport : TransportError → CommandError
  | .malformed fault => .decode fault
  | error => .device error.status

end CommandError

-- The outcome of the latest call, without its value.
inductive LastStatus where
  | ok (status : Int32)
  | device (status : Int32)
  | unavailable
  | decode
  | unimplemented
  | none
  deriving DecidableEq, Repr, Inhabited

namespace LastStatus

def isOk : LastStatus → Bool
  | .ok _ => true
  | _ => false

-- One number for every outcome: below zero is a failure.
def code : LastStatus → Int32
  | .ok status | .device status => status
  | .unavailable => -1
  | .decode => -4
  | .unimplemented => -5
  | .none => 0

def ofError : CommandError → LastStatus
  | .unavailable => .unavailable
  | .device status => .device status
  | .decode _ => .decode
  | .unimplemented _ => .unimplemented

end LastStatus

-- An answer with the status that came with it.
structure Completed (α : Type) where
  status : Int32
  value : α
  deriving Repr

def Completed.map {α β : Type} (f : α → β) (completed : Completed α) : Completed β :=
  ⟨completed.status, f completed.value⟩

-- What a reply body says about a command.
-- The opcode is compared before the status, and a status below zero settles the matter
-- whatever the payload is.
def Command.judge (command : Command) (body : Bytes) :
    Except CommandError (Completed command.Answer) :=
  match Response.ofBytes body with
  | .error fault => .error (.decode fault)
  | .ok response =>
    match response.expectOpcode command.opcode with
    | .error fault => .error (.decode fault)
    | .ok () =>
      if response.status < 0 then .error (.device response.status)
      else
        match command.decode response.status response.payload with
        | .error fault => .error (.decode fault)
        | .ok value => .ok ⟨response.status, value⟩

def Command.normalize (command : Command) :
    Except TransportError Bytes → Except CommandError (Completed command.Answer)
  | .error error => .error (.ofTransport error)
  | .ok body => command.judge body

end BoardLink
