import BoardLink.Command
import Mathlib.Algebra.Group.Nat.Defs

-- Messages read back as they were written.
namespace BoardLink

namespace BigEndian

theorem decode_encode (width n : Nat) : decode (encode width n) = n % 256 ^ width := by
  induction width generalizing n with
  | zero => simp [encode, decode, Nat.mod_one]
  | succ width ih =>
      have hbyte : (UInt8.ofNat n).toNat = n % 256 := by simp
      rw [encode, decode_append_singleton, ih, hbyte, Nat.pow_succ, Nat.mul_comm (256 ^ width),
        Nat.mod_mul]
      omega

theorem encode_two (n : Nat) : encode 2 n = [UInt8.ofNat (n / 256), UInt8.ofNat n] := rfl

theorem encode_four (n : Nat) :
    encode 4 n = [UInt8.ofNat (n / 256 / 256 / 256), UInt8.ofNat (n / 256 / 256),
      UInt8.ofNat (n / 256), UInt8.ofNat n] := rfl

theorem ofNat_decode_encode_two (n : UInt16) :
    UInt16.ofNat (decode (encode 2 n.toNat)) = n := by
  apply UInt16.toNat_inj.mp
  have hn : n.toNat < 65536 := n.toNat_lt
  rw [decode_encode, UInt16.toNat_ofNat']
  omega

theorem ofNat_decode_encode_four (n : UInt32) :
    UInt32.ofNat (decode (encode 4 n.toNat)) = n := by
  apply UInt32.toNat_inj.mp
  have hn : n.toNat < 4294967296 := n.toNat_lt
  rw [decode_encode, UInt32.toNat_ofNat']
  omega

end BigEndian

namespace Request

theorem ofBytes_toBytes {request : Request} (h : request.payload.length ≤ maxPayload) :
    ofBytes request.toBytes = .ok request := by
  have hle : ¬ maxPayload < request.payload.length := Nat.not_lt.mpr h
  simp [ofBytes, toBytes, hle]

end Request

namespace Response

theorem statusOfBytes_statusBytes (status : Int32) :
    statusOfBytes (statusBytes status) = status := by
  rw [statusOfBytes, statusBytes, BigEndian.ofNat_decode_encode_four]
  rfl

theorem ofBytes_toBytes {response : Response} (h : response.payload.length ≤ maxPayload) :
    ofBytes response.toBytes = .ok response := by
  have hle : ¬ maxPayload < response.payload.length := Nat.not_lt.mpr h
  have hs := statusOfBytes_statusBytes response.status
  rw [statusBytes, BigEndian.encode_four] at hs
  simp only [toBytes, statusBytes, BigEndian.encode_four, List.cons_append, List.nil_append,
    ofBytes, Opcode.ofByte?_toByte, hle, if_false, hs]

end Response

namespace PowerThreshold

@[simp] theorem ofBytes?_toBytes (threshold : PowerThreshold) :
    ofBytes? threshold.toBytes = some threshold := by
  have hw := BigEndian.ofNat_decode_encode_two threshold.wiggleCount
  have hp := BigEndian.ofNat_decode_encode_two threshold.samplePeriodMs
  have hi := BigEndian.ofNat_decode_encode_two threshold.ignitionMv
  rw [BigEndian.encode_two] at hw hp hi
  simp only [toBytes, BigEndian.encode_two, List.cons_append, List.nil_append, ofBytes?, hw, hp, hi]

end PowerThreshold

theorem Timestamp.length_field (text : String) : (field text).length = fieldLength := by
  simp only [field, fieldLength, textLength, List.length_append, List.length_take,
    List.length_replicate]
  omega

-- Nothing that is sent is longer than a time.
theorem Command.length_payload_le_field (command : Command) :
    command.payload.length ≤ Timestamp.fieldLength := by
  cases command with
  | setClock text => exact Nat.le_of_eq (Timestamp.length_field text)
  | powerOff waitSeconds => simp [payload, Timestamp.fieldLength]
  | setPin pin high => simp [payload, Timestamp.fieldLength]
  | pinState pin => simp [payload, Timestamp.fieldLength]
  | setPowerThreshold threshold =>
      simp [payload, Timestamp.fieldLength]
  | setCalibration registers =>
      simp [payload, Timestamp.fieldLength]
  | _ => simp [payload, Timestamp.fieldLength]

-- No command comes near the limit on payloads.
theorem Command.length_payload_le (command : Command) : command.payload.length ≤ maxPayload :=
  Nat.le_trans command.length_payload_le_field (by decide)

end BoardLink
