import BoardLink.Proofs.Message.Codec
import Mathlib.Data.List.Induction

-- Which bodies are messages, and what is wrong with the others. Requests and responses differ in
-- what stands before the payload and in nothing else, so there is one law for both.
namespace BoardLink

namespace BigEndian

theorem decode_lt (bytes : Bytes) : decode bytes < 256 ^ bytes.length := by
  induction bytes using List.reverseRecOn with
  | nil => exact Nat.one_pos
  | append_singleton bytes byte ih =>
      have hbyte : byte.toNat < 256 := byte.toNat_lt
      rw [decode_append_singleton, List.length_append, List.length_singleton, Nat.pow_succ]
      omega

-- A number read from some bytes is written, in as many bytes, as these bytes.
theorem encode_decode (bytes : Bytes) : encode bytes.length (decode bytes) = bytes := by
  induction bytes using List.reverseRecOn with
  | nil => rfl
  | append_singleton bytes byte ih =>
      have hbyte : byte.toNat < 256 := byte.toNat_lt
      have hhigh : (decode bytes * 256 + byte.toNat) / 256 = decode bytes := by omega
      have hlow : UInt8.ofNat (decode bytes * 256 + byte.toNat) = byte := by
        apply UInt8.toNat_inj.mp
        rw [UInt8.toNat_ofNat']
        omega
      rw [decode_append_singleton, List.length_append, List.length_singleton, encode, hhigh, ih,
        hlow]

end BigEndian

namespace Opcode

-- The opcodes are the numbers from 1 to 18.
def Known (byte : UInt8) : Prop := 1 ≤ byte.toNat ∧ byte.toNat ≤ 18

instance (byte : UInt8) : Decidable (Known byte) :=
  inferInstanceAs (Decidable (1 ≤ byte.toNat ∧ byte.toNat ≤ 18))

theorem known_iff {byte : UInt8} : Known byte ↔ ∃ opcode : Opcode, opcode.toByte = byte := by
  constructor
  · rintro ⟨hl, hu⟩
    have hall : ∀ n : Fin 18, ∃ opcode ∈ all, opcode.toByte = UInt8.ofNat (n + 1) := by decide
    obtain ⟨opcode, -, hbyte⟩ := hall ⟨byte.toNat - 1, by omega⟩
    refine ⟨opcode, hbyte.trans ?_⟩
    have hn : byte.toNat - 1 + 1 = byte.toNat := by omega
    rw [hn, UInt8.ofNat_toNat]
  · rintro ⟨opcode, rfl⟩
    cases opcode <;> decide

theorem known_toByte (opcode : Opcode) : Known opcode.toByte := known_iff.mpr ⟨opcode, rfl⟩

theorem not_known_of_ofByte? {byte : UInt8} (h : ofByte? byte = none) : ¬ Known byte := by
  intro hknown
  obtain ⟨opcode, rfl⟩ := known_iff.mp hknown
  rw [ofByte?_toByte] at h
  cases h

end Opcode

namespace Message

-- What is wrong with a body when its header, which begins with the opcode, has `header` bytes.
-- A missing header counts first, then an unknown opcode, and a long payload last.
def fault? (header : Nat) (body : Bytes) : Option ProtocolError :=
  if body.length < header then some (.tooShort header body.length)
  else if ¬ Opcode.Known (body.headD 0) then some (.invalidOpcode (body.headD 0))
  else if header + 32 < body.length then some (.payloadTooLarge (body.length - header) 32)
  else none

-- Messages with a header of that size are read back as they were written, unless the payload is
-- too long, and whatever is read was written that way.
structure Codec {α : Type} (header : Nat) (toBytes : α → Bytes) (payload : α → Bytes)
    (ofBytes : Bytes → Except ProtocolError α) : Prop where
  written : ∀ message, ofBytes (toBytes message) =
    if (payload message).length ≤ 32 then .ok message
    else .error (.payloadTooLarge (payload message).length 32)
  read : ∀ body message, ofBytes body = .ok message → toBytes message = body
  accepted : ∀ body, (ofBytes body).isOk = true ↔
    header ≤ body.length ∧ body.length ≤ header + 32 ∧
      ∃ opcode : Opcode, body.head? = some opcode.toByte
  rejected : ∀ body fault, ofBytes body = .error fault ↔ fault? header body = some fault

section Faults

variable {header : Nat} {byte : UInt8} {rest : Bytes}

theorem fault?_of_unknown (hl : header ≤ rest.length + 1) (hk : ¬ Opcode.Known byte) :
    fault? header (byte :: rest) = some (.invalidOpcode byte) := by
  have hshort : ¬ (byte :: rest).length < header := Nat.not_lt.mpr hl
  rw [fault?, if_neg hshort, List.headD_cons, if_pos hk]

-- A header that is there and an opcode that is known leave only the payload to be wrong.
theorem fault?_of_known (hl : header ≤ rest.length + 1) (hk : Opcode.Known byte) :
    fault? header (byte :: rest) =
      if header + 32 < rest.length + 1 then some (.payloadTooLarge (rest.length + 1 - header) 32)
      else none := by
  have hshort : ¬ (byte :: rest).length < header := Nat.not_lt.mpr hl
  rw [fault?, if_neg hshort, List.headD_cons, if_neg (not_not.mpr hk), List.length_cons]

-- Behind a whole header, both kinds of message look at the opcode and then at the payload.
theorem read_eq_error_iff {α : Type} {payload : Bytes} {fault : ProtocolError}
    (hlen : rest.length + 1 = header + payload.length) (message : Opcode → α) :
    (match Opcode.ofByte? byte with
      | none => .error (ProtocolError.invalidOpcode byte)
      | some opcode =>
        if maxPayload < payload.length then .error (.payloadTooLarge payload.length maxPayload)
        else .ok (message opcode) : Except ProtocolError α) = .error fault ↔
      fault? header (byte :: rest) = some fault := by
  have hl : header ≤ rest.length + 1 := by omega
  cases hbyte : Opcode.ofByte? byte with
  | none =>
      rw [fault?_of_unknown hl (Opcode.not_known_of_ofByte? hbyte)]
      simp
  | some opcode =>
      have hk : Opcode.Known byte :=
        Opcode.known_iff.mpr ⟨opcode, Opcode.toByte_of_ofByte? hbyte⟩
      rw [fault?_of_known hl hk, hlen, Nat.add_sub_cancel_left]
      by_cases hlong : 32 < payload.length
      · simp [maxPayload, hlong]
      · simp [maxPayload, hlong]

theorem fault?_eq_none_iff {body : Bytes} (hp : 0 < header) :
    fault? header body = none ↔
      header ≤ body.length ∧ body.length ≤ header + 32 ∧
        ∃ opcode : Opcode, body.head? = some opcode.toByte := by
  cases body with
  | nil => simp [fault?, hp]
  | cons byte rest =>
      have hhead : (∃ opcode : Opcode, (byte :: rest).head? = some opcode.toByte) ↔
          Opcode.Known byte := by
        simp only [List.head?_cons, Option.some.injEq, Opcode.known_iff, eq_comm]
      rw [hhead, List.length_cons]
      by_cases hl : header ≤ rest.length + 1
      · by_cases hk : Opcode.Known byte
        · simp only [fault?_of_known hl hk, ite_eq_right_iff, reduceCtorEq, imp_false, Nat.not_lt,
            hl, hk, true_and, and_true]
        · simp only [fault?_of_unknown hl hk, reduceCtorEq, hk, and_false]
      · have hshort : (byte :: rest).length < header := Nat.not_le.mp hl
        simp only [fault?, if_pos hshort, reduceCtorEq, hl, false_and]

end Faults

-- It is enough to know the messages that bodies are read as, and the faults of the others.
theorem codec_of_iff {α : Type} {header : Nat} {toBytes : α → Bytes} {payload : α → Bytes}
    {ofBytes : Bytes → Except ProtocolError α} (hp : 0 < header)
    (hopcode : ∀ message, ∃ opcode : Opcode, (toBytes message).head? = some opcode.toByte)
    (hlength : ∀ message, (toBytes message).length = header + (payload message).length)
    (hok : ∀ body message, ofBytes body = .ok message ↔
      toBytes message = body ∧ (payload message).length ≤ 32)
    (hfault : ∀ body fault, ofBytes body = .error fault ↔ fault? header body = some fault) :
    Codec header toBytes payload ofBytes where
  written := by
    intro message
    split
    · rename_i hle
      exact (hok _ _).mpr ⟨rfl, hle⟩
    · rename_i hlong
      have hlen := hlength message
      obtain ⟨opcode, hhead⟩ := hopcode message
      obtain ⟨rest, hbody⟩ := List.head?_eq_some_iff.mp hhead
      rw [hbody, List.length_cons] at hlen
      apply (hfault _ _).mpr
      rw [hbody, fault?_of_known (by omega) opcode.known_toByte, if_pos (by omega), hlen,
        Nat.add_sub_cancel_left]
  read := fun body message h => ((hok body message).mp h).1
  accepted := by
    intro body
    rw [← fault?_eq_none_iff hp, Option.eq_none_iff_forall_ne_some]
    simp only [ne_eq, ← hfault body]
    cases ofBytes body <;> simp [Except.isOk, Except.toBool]
  rejected := hfault

end Message

namespace Request

theorem ofBytes_eq_ok_iff {body : Bytes} {request : Request} :
    ofBytes body = .ok request ↔ request.toBytes = body ∧ request.payload.length ≤ 32 := by
  constructor
  · intro h
    cases body with
    | nil => cases h
    | cons byte payload =>
        simp only [ofBytes] at h
        split at h
        · cases h
        · rename_i opcode hopcode
          split at h
          · cases h
          · rename_i hle
            cases h
            exact ⟨by rw [toBytes, Opcode.toByte_of_ofByte? hopcode], Nat.not_lt.mp hle⟩
  · rintro ⟨rfl, hle⟩
    exact ofBytes_toBytes hle

theorem ofBytes_eq_error_iff {body : Bytes} {fault : ProtocolError} :
    ofBytes body = .error fault ↔ Message.fault? 1 body = some fault := by
  cases body with
  | nil => simp [ofBytes, Message.fault?]
  | cons byte payload =>
      exact Message.read_eq_error_iff (Nat.add_comm ..) fun opcode => Request.mk opcode payload

end Request

namespace Response

theorem statusBytes_statusOfBytes (a b c d : UInt8) :
    statusBytes (statusOfBytes [a, b, c, d]) = [a, b, c, d] := by
  have hlt : BigEndian.decode [a, b, c, d] < UInt32.size := by
    simpa using BigEndian.decode_lt [a, b, c, d]
  have hstatus : (statusOfBytes [a, b, c, d]).toUInt32.toNat = BigEndian.decode [a, b, c, d] :=
    UInt32.toNat_ofNat_of_lt' hlt
  rw [statusBytes, hstatus]
  exact BigEndian.encode_decode [a, b, c, d]

theorem ofBytes_eq_ok_iff {body : Bytes} {response : Response} :
    ofBytes body = .ok response ↔ response.toBytes = body ∧ response.payload.length ≤ 32 := by
  constructor
  · intro h
    simp only [ofBytes] at h
    split at h
    · split at h
      · cases h
      · rename_i opcode hopcode
        split at h
        · cases h
        · rename_i hle
          cases h
          refine ⟨?_, Nat.not_lt.mp hle⟩
          rw [toBytes, Opcode.toByte_of_ofByte? hopcode, statusBytes_statusOfBytes]
          rfl
    · cases h
  · rintro ⟨rfl, hle⟩
    exact ofBytes_toBytes hle

theorem ofBytes_eq_error_iff {body : Bytes} {fault : ProtocolError} :
    ofBytes body = .error fault ↔ Message.fault? 5 body = some fault := by
  match body with
  | [] | [_] | [_, _] | [_, _, _] | [_, _, _, _] =>
      simp [ofBytes, Message.fault?, responseHeader]
  | byte :: a :: b :: c :: d :: payload =>
      have hlen : (a :: b :: c :: d :: payload).length + 1 = 5 + payload.length := by
        simp only [List.length_cons]
        omega
      exact Message.read_eq_error_iff hlen fun opcode =>
        Response.mk opcode (statusOfBytes [a, b, c, d]) payload

end Response

-- A response has five bytes in front of its payload and a request has one.
theorem messages_read_as_written :
    Message.Codec 5 Response.toBytes Response.payload Response.ofBytes ∧
      Message.Codec 1 Request.toBytes Request.payload Request.ofBytes := by
  constructor
  · refine Message.codec_of_iff (by decide) (fun response => ⟨response.opcode, rfl⟩) ?_
      (fun _ _ => Response.ofBytes_eq_ok_iff) (fun _ _ => Response.ofBytes_eq_error_iff)
    intro response
    simp only [Response.toBytes, Response.statusBytes, List.length_cons, List.length_append,
      BigEndian.length_encode]
    omega
  · refine Message.codec_of_iff (by decide) (fun request => ⟨request.opcode, rfl⟩) ?_
      (fun _ _ => Request.ofBytes_eq_ok_iff) (fun _ _ => Request.ofBytes_eq_error_iff)
    intro request
    exact Nat.add_comm ..

end BoardLink
