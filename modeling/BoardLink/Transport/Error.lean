import BoardLink.ProtocolError

-- What can go wrong between the client and the board.
namespace BoardLink

inductive IoFault where
  | timedOut
  | brokenPipe
  | endOfFile
  | reset
  | shortWrite
  | shortRead
  | other (text : String)
  deriving DecidableEq, Repr

def IoFault.message : IoFault → String
  | .timedOut => "timed out"
  | .brokenPipe => "broken pipe"
  | .endOfFile => "unexpected end of file"
  | .reset => "connection reset"
  | .shortWrite => "failed to write whole buffer"
  | .shortRead => "failed to fill whole buffer"
  | .other text => text

inductive TransportError where
  | send (fault : IoFault)
  | receive (fault : IoFault)
  | invalidResponse (text : String)
  | malformed (fault : ProtocolError)
  | frameTooLarge (length limit : Nat)
  deriving DecidableEq, Repr

namespace TransportError

def message : TransportError → String
  | .send fault => "Send failed: " ++ fault.message
  | .receive fault => "Receive failed: " ++ fault.message
  | .invalidResponse text => "Invalid response: " ++ text
  | .malformed fault => "Malformed response: " ++ fault.message
  | .frameTooLarge length limit =>
    "Frame too large: " ++ toString length ++ " bytes (max " ++ toString limit ++ ")"

-- The status that stands for an exchange which brought no usable reply.
def status : TransportError → Int32
  | .send _ | .frameTooLarge .. => -2
  | .receive _ => -3
  | .invalidResponse _ | .malformed _ => -4

end TransportError
end BoardLink
