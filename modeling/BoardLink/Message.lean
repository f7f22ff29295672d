import BoardLink.Bytes
import BoardLink.ProtocolError

-- Message bodies: an opcode and a payload, with a status between them in replies.
namespace BoardLink

-- The longest payload either side accepts.
def maxPayload : Nat := 32

-- The opcode and the status of a reply.
def responseHeader : Nat := 5

structure Request where
  opcode : Opcode
  payload : Bytes
  deriving DecidableEq, Repr

namespace Request

def toBytes (request : Request) : Bytes := request.opcode.toByte :: request.payload

-- The opcode is looked at before the length of the payload.
def ofBytes : Bytes → Except ProtocolError Request
  | [] => .error (.tooShort 1 0)
  | byte :: payload =>
    match Opcode.ofByte? byte with
    | none => .error (.invalidOpcode byte)
    | some opcode =>
      if maxPayload < payload.length then .error (.payloadTooLarge payload.length maxPayload)
      else .ok ⟨opcode, payload⟩

end Request

-- A status below zero reports an error.
structure Response where
  opcode : Opcode
  status : Int32
  payload : Bytes
  deriving DecidableEq, Repr

namespace Response

def success (opcode : Opcode) (payload : Bytes) : Response := ⟨opcode, 0, payload⟩

def failure (opcode : Opcode) (status : Int32) : Response := ⟨opcode, status, []⟩

def statusBytes (status : Int32) : Bytes := BigEndian.encode 4 status.toUInt32.toNat

def statusOfBytes (bytes : Bytes) : Int32 := (UInt32.ofNat (BigEndian.decode bytes)).toInt32

def toBytes (response : Response) : Bytes :=
  response.opcode.toByte :: (statusBytes response.status ++ response.payload)

def ofBytes : Bytes → Except ProtocolError Response
  | byte :: s1 :: s2 :: s3 :: s4 :: payload =>
    match Opcode.ofByte? byte with
    | none => .error (.invalidOpcode byte)
    | some opcode =>
      if maxPayload < payload.length then .error (.payloadTooLarge payload.length maxPayload)
      else .ok ⟨opcode, statusOfBytes [s1, s2, s3, s4], payload⟩
  | short => .error (.tooShort responseHeader short.length)

def expectOpcode (response : Response) (expected : Opcode) : Except ProtocolError Unit :=
  if response.opcode = expected then .ok ()
  else .error (.unexpectedOpcode expected response.opcode)

end Response
end BoardLink
