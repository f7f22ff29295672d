import BoardLink.Message
import BoardLink.Transport.Error

-- Frames on a byte stream: the length of a body in two bytes, then the body.
namespace BoardLink.Frame

-- The longest body, which is a reply with a payload of the greatest length.
def maxLength : Nat := responseHeader + maxPayload

def encode (body : Bytes) : Bytes := BigEndian.encode 2 body.length ++ body

-- The first body of a stream and the bytes after it.
-- A length that no body can have is skipped alone: reading goes on behind it.
-- When the stream ends inside a frame, its bytes are lost.
def read : Bytes → Except TransportError Bytes × Bytes
  | high :: low :: rest =>
    let length := BigEndian.decode [high, low]
    if length = 0 then (.error (.malformed (.tooShort responseHeader 0)), rest)
    else if maxLength < length then (.error (.malformed (.responseTooLong length maxLength)), rest)
    else if rest.length < length then (.error (.receive .shortRead), [])
    else (.ok (rest.take length), rest.drop length)
  | _ => (.error (.receive .shortRead), [])

def isLost : Except TransportError Bytes → Bool
  | .error (.receive _) => true
  | _ => false

theorem length_read_lt {stream : Bytes} (h : isLost (read stream).1 = false) :
    (read stream).2.length < stream.length := by
  match stream with
  | [] | [_] => simp [read, isLost] at h
  | high :: low :: rest =>
    revert h
    simp only [read]
    split
    · simp only [List.length_cons]; omega
    · split
      · simp only [List.length_cons]; omega
      · split
        · simp [isLost]
        · simp; omega

-- All bodies of a stream in order, up to and with the first failure to receive one.
def readAll (stream : Bytes) : List (Except TransportError Bytes) :=
  match _ : isLost (read stream).1 with
  | true => [(read stream).1]
  | false => (read stream).1 :: readAll (read stream).2
termination_by stream.length
decreasing_by exact length_read_lt ‹_›

end BoardLink.Frame
