import BoardLink.Device
import BoardLink.Transport.Frame

-- The other end of the socket: it takes one message per connection and answers with prepared
-- replies first and from the model of the board afterwards.
namespace BoardLink

-- What becomes of one connection: raw bytes and then its end, its end at once, or no sign of life at
-- all. It may also not come about, or lose the message or the reply.
inductive PreparedReply where
  | bytes (wire : Bytes)
  | hangUp
  | silence
  | refusal (reason : String)
  | lostMessage (fault : IoFault)
  | lostReply (fault : IoFault)
  deriving DecidableEq, Repr

structure Server where
  prepared : List PreparedReply
  device : Device
  requests : List Bytes
  deriving Repr

namespace Server

def new (device : Device) (prepared : List PreparedReply) : Server := ⟨prepared, device, []⟩

-- What the client reads when a connection ends without a whole reply.
def cutOff : Except TransportError Bytes := .error (.receive .shortRead)

-- What the board's answer looks like on the wire. An answer that fits in no frame is not sent.
def deliver (answer : Except TransportError Bytes) : Except TransportError Bytes :=
  match answer with
  | .error _ => cutOff
  | .ok body => if Frame.maxLength < body.length then cutOff else (Frame.read (Frame.encode body)).1

-- Whether the next connection comes about, or why it does not.
def accept (server : Server) : Except String Unit × Server :=
  match server.prepared with
  | .refusal reason :: rest => (.error reason, { server with prepared := rest })
  | _ => (.ok (), server)

-- One message in, one reply out. An empty message is no message.
def serve (server : Server) (body : Bytes) : Except TransportError Bytes × Server :=
  if body = [] then (cutOff, server)
  else
    let served := { server with requests := server.requests ++ [body] }
    match server.prepared with
    | .bytes wire :: rest => ((Frame.read wire).1, { served with prepared := rest })
    | .hangUp :: rest => (cutOff, { served with prepared := rest })
    | .silence :: rest => (.error (.receive .timedOut), { served with prepared := rest })
    | .refusal _ :: rest => (cutOff, { server with prepared := rest })
    | .lostMessage fault :: rest => (.error (.send fault), { server with prepared := rest })
    | .lostReply fault :: rest => (.error (.receive fault), { served with prepared := rest })
    | [] =>
      let (answer, device) := server.device.handle body
      (deliver answer, { served with device })

end Server
end BoardLink
