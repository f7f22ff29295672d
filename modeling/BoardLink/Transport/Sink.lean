import BoardLink.Transport.Frame

-- A receiver of bytes that may take only part of what it is given.
namespace BoardLink

inductive SinkFault where
  | write
  | flush
  deriving DecidableEq, Repr

-- `chunk n` bounds the bytes of the write that comes after `n` others, and `limit` those of all
-- writes together.
structure Sink where
  chunk : Nat → Option Nat
  limit : Option Nat
  fault : Option SinkFault
  written : Bytes
  writes : Nat

namespace Sink

-- A sink whose writes all have the same bound.
def empty (chunk limit : Option Nat) (fault : Option SinkFault) : Sink :=
  ⟨fun _ => chunk, limit, fault, [], 0⟩

-- How many of `count` bytes the next write takes.
def room (sink : Sink) (count : Nat) : Nat :=
  let count := match sink.chunk sink.writes with
    | some chunk => min count chunk
    | none => count
  match sink.limit with
  | some limit => min count (limit - sink.written.length)
  | none => count

def take (sink : Sink) (bytes : Bytes) : Sink :=
  { sink with
    written := sink.written ++ bytes.take (sink.room bytes.length)
    writes := sink.writes + 1 }

-- Write until nothing is left. A write that takes nothing ends it.
def writeAll (sink : Sink) (bytes : Bytes) : Except IoFault Unit × Sink :=
  if bytes = [] then (.ok (), sink)
  else if sink.fault = some .write then (.error .brokenPipe, sink)
  else if _ : sink.room bytes.length = 0 then (.error .shortWrite, sink.take bytes)
  else writeAll (sink.take bytes) (bytes.drop (sink.room bytes.length))
termination_by bytes.length
decreasing_by
  have : 0 < bytes.length := List.length_pos_iff.mpr ‹_›
  simp only [List.length_drop]
  omega

-- Length and body go out together, and a body that is too long not at all.
def writeFrame (sink : Sink) (body : Bytes) : Except TransportError Unit × Sink :=
  if Frame.maxLength < body.length then (.error (.frameTooLarge body.length Frame.maxLength), sink)
  else
    match sink.writeAll (Frame.encode body) with
    | (.error fault, sink) => (.error (.send fault), sink)
    | (.ok (), sink) =>
      if sink.fault = some .flush then (.error (.send .timedOut), sink) else (.ok (), sink)

-- The bodies in order, also after one that failed.
@[simp] def writeFrames (sink : Sink) : List Bytes → List (Except TransportError Unit) × Sink
  | [] => ([], sink)
  | body :: rest =>
    let (result, sink) := sink.writeFrame body
    let (results, sink) := sink.writeFrames rest
    (result :: results, sink)

end Sink
end BoardLink
