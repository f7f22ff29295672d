import BoardLink.CommandError

-- The outcomes that a reply, or the lack of one, can come to.
namespace BoardLink

theorem TransportError.status_neg (error : TransportError) : error.status < 0 := by
  cases error <;> simp only [status] <;> decide

-- Neither outcome tells that nothing was sent.
inductive CommandError.OfReply : CommandError → Prop where
  | decode (fault : ProtocolError) : OfReply (.decode fault)
  | device (status : Int32) (h : status < 0) : OfReply (.device status)

namespace CommandError

theorem OfReply.ne_unavailable {error : CommandError} (h : error.OfReply) :
    error ≠ .unavailable := by
  cases h <;> simp

theorem OfReply.ne_unimplemented {error : CommandError} (h : error.OfReply) (opcode : Opcode) :
    error ≠ .unimplemented opcode := by
  cases h <;> simp

theorem ofReply_ofTransport (error : TransportError) : (ofTransport error).OfReply := by
  cases error with
  | malformed fault => exact .decode fault
  | _ => exact .device _ (TransportError.status_neg _)

end CommandError

namespace Command

theorem ofReply_of_judge {command : Command} {body : Bytes} {error : CommandError}
    (h : command.judge body = .error error) : error.OfReply := by
  simp only [judge] at h
  split at h
  · cases h
    exact .decode _
  · split at h
    · cases h
      exact .decode _
    · split at h
      · rename_i hneg
        cases h
        exact .device _ hneg
      · split at h
        · cases h
          exact .decode _
        · cases h

theorem ofReply_of_normalize {command : Command} {response : Except TransportError Bytes}
    {error : CommandError} (h : command.normalize response = .error error) : error.OfReply := by
  cases response with
  | error fault =>
      cases h
      exact CommandError.ofReply_ofTransport fault
  | ok body => exact ofReply_of_judge h

theorem status_of_judge {command : Command} {body : Bytes} {completed : Completed command.Answer}
    (h : command.judge body = .ok completed) : 0 ≤ completed.status := by
  simp only [judge] at h
  split at h
  · cases h
  · split at h
    · cases h
    · split at h
      · cases h
      · rename_i hneg
        split at h
        · cases h
        · cases h
          exact Int32.not_lt.mp hneg

theorem status_of_normalize {command : Command} {response : Except TransportError Bytes}
    {completed : Completed command.Answer} (h : command.normalize response = .ok completed) :
    0 ≤ completed.status := by
  cases response with
  | error fault => cases h
  | ok body => exact status_of_judge h

end Command
end BoardLink
