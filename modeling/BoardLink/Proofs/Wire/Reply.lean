import BoardLink.Proofs.Wire.Verdict

-- What holds of every reply, whatever its bytes are.
namespace BoardLink

-- What can be wrong with a payload: its length, a value in it, or the time it spells.
inductive ProtocolError.OfPayload : ProtocolError → Prop where
  | invalidLength (opcode : Opcode) (expected actual : Nat) :
      OfPayload (.invalidLength opcode expected actual)
  | invalidValue (field : Field) (value : UInt32) : OfPayload (.invalidValue field value)
  | invalidTimestamp (text : String) (fault : TimestampFault) :
      OfPayload (.invalidTimestamp text fault)
  | unterminated : OfPayload .unterminated

namespace Timestamp

theorem ofPayload_of_ofText {text : String} {fault : ProtocolError}
    (h : ofText text = .error fault) : fault.OfPayload := by
  simp only [ofText] at h
  split at h
  · cases h
    exact .invalidTimestamp _ _
  · split at h
    · cases h
      exact .invalidTimestamp _ _
    · split at h
      · cases h
        exact .invalidTimestamp _ _
      · cases h

theorem ofPayload_of_ofWire {bytes : Bytes} {fault : ProtocolError}
    (h : ofWire bytes = .error fault) : fault.OfPayload := by
  simp only [ofWire] at h
  split at h
  · cases h
    exact .invalidTimestamp _ _
  · split at h
    · cases h
      exact .unterminated
    · split at h
      · cases h
        exact .invalidTimestamp _ _
      · exact ofPayload_of_ofText h

end Timestamp

namespace Command

theorem ofPayload_of_expecting {α : Type} {opcode : Opcode} {payload : Bytes} {value : Option α}
    {fault : ProtocolError} (h : expecting opcode payload value = .error fault) :
    fault.OfPayload := by
  cases value with
  | none =>
      cases h
      exact .invalidLength _ _ _
  | some value => cases h

theorem ofPayload_of_decode {command : Command} {status : Int32} {payload : Bytes}
    {fault : ProtocolError} (h : command.decode status payload = .error fault) :
    fault.OfPayload := by
  cases command with
  | clock =>
      simp only [decode] at h
      split at h
      · exact Timestamp.ofPayload_of_ofWire h
      · cases h
        exact .invalidLength _ _ _
  | pinState pin =>
      simp only [decode] at h
      split at h
      · cases h
      · cases h
      · cases h
        exact .invalidValue _ _
      · cases h
        exact .invalidLength _ _ _
  | _ => exact ofPayload_of_expecting h

end Command

variable {command : Command} {wire : Bytes}

theorem ProtocolError.OfPayload.ne_payloadTooLarge {fault : ProtocolError} (h : fault.OfPayload)
    (length limit : Nat) : fault ≠ .payloadTooLarge length limit := by
  cases h <;> simp

theorem Verdict.ne_payloadTooLarge {length limit : Nat} :
    ¬ Verdict command wire (.error (.decode (.payloadTooLarge length limit))) := by
  intro h
  cases h with
  | unreadable hb hp hs hn h =>
      exact (Command.ofPayload_of_decode h).ne_payloadTooLarge length limit rfl

-- A length that no body can have, or a length and all the bytes it announces.
inductive HoldsFrame : Bytes → Prop where
  | empty {high low rest} (h : announced high low = 0) : HoldsFrame (high :: low :: rest)
  | tooLong {high low rest} (h : 37 < announced high low) : HoldsFrame (high :: low :: rest)
  | body {high low rest} (h : announced high low ≤ rest.length) : HoldsFrame (high :: low :: rest)

theorem Frame.read_append (h : HoldsFrame wire) (more : Bytes) :
    (Frame.read (wire ++ more)).1 = (Frame.read wire).1 := by
  cases h with
  | empty h => simp [Frame.read_of_zero h]
  | tooLong h => simp [Frame.read_of_long h]
  | @body high low rest h =>
      have hrest : ¬ rest.length < announced high low := Nat.not_lt.mpr h
      have hmore : ¬ rest.length + more.length < announced high low := by omega
      simp only [List.cons_append, Frame.read, decode_pair, List.length_append, hrest, hmore,
        if_false, List.take_append_of_le_length h]
      split
      · rfl
      · split <;> rfl

theorem normalize_read (command : Command) (wire : Bytes) :
    (∀ result, command.normalize (Frame.read wire).1 = result ↔ Verdict command wire result) ∧
      (∀ length limit,
        command.normalize (Frame.read wire).1 ≠ .error (.decode (.payloadTooLarge length limit))) ∧
      (HoldsFrame wire → ∀ more,
        command.normalize (Frame.read (wire ++ more)).1 = command.normalize (Frame.read wire).1) ∧
      (∀ completed, command.normalize (Frame.read wire).1 = .ok completed →
        0 ≤ completed.status.toInt) ∧
      (∀ status, command.normalize (Frame.read wire).1 = .error (.device status) →
        status.toInt < 0) := by
  refine ⟨fun result => normalize_eq_iff, ?_, ?_, ?_, ?_⟩
  · intro length limit h
    exact Verdict.ne_payloadTooLarge (normalize_eq_iff.mp h)
  · intro h more
    rw [Frame.read_append h]
  · intro completed h
    exact Int32.le_iff_toInt_le.mp (Command.status_of_normalize h)
  · intro status h
    cases Command.ofReply_of_normalize h with
    | device _ hneg => exact Int32.lt_iff_toInt_lt.mp hneg

end BoardLink
