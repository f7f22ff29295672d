import BoardLink.Transport.Frame
import BoardLink.Proofs.Wire.Normalize

-- From the bytes of a reply to the outcome of the command that was sent.
-- Two layers judge these bytes, each with limits of its own: the frame, which goes by its
-- length, and the message in it. Here both are one table, in which every byte string has exactly
-- one place.
namespace BoardLink

-- The length that the first two bytes of a frame announce.
def announced (high low : UInt8) : Nat := high.toNat * 256 + low.toNat

-- The number that four bytes stand for, and the same with the highest bit as its sign.
def word (a b c d : UInt8) : Nat :=
  a.toNat * 16777216 + b.toNat * 65536 + c.toNat * 256 + d.toNat

def signed (a b c d : UInt8) : Int :=
  if word a b c d < 2147483648 then word a b c d else word a b c d - 4294967296

-- A message as the other side sends it: one byte for the opcode, four for the status.
def spell (opcode a b c d : UInt8) (payload : Bytes) : Bytes :=
  opcode :: a :: b :: c :: d :: payload

-- The outcome that each byte string stands for, when nothing follows it.
inductive Verdict (command : Command) :
    Bytes → Except CommandError (Completed command.Answer) → Prop where
  | noLength {wire} (h : wire.length < 2) : Verdict command wire (.error (.device (-3)))
  | empty {high low rest} (h : announced high low = 0) :
      Verdict command (high :: low :: rest) (.error (.decode (.tooShort 5 0)))
  | tooLong {high low rest} (h : 37 < announced high low) :
      Verdict command (high :: low :: rest)
        (.error (.decode (.responseTooLong (announced high low) 37)))
  | cutOff {high low rest} (hl : announced high low ≤ 37) (h : rest.length < announced high low) :
      Verdict command (high :: low :: rest) (.error (.device (-3)))
  | tooShort {high low body rest} (hb : announced high low = body.length) (hp : 0 < body.length)
      (h : body.length < 5) :
      Verdict command (high :: low :: (body ++ rest)) (.error (.decode (.tooShort 5 body.length)))
  | noOpcode {high low byte a b c d payload rest}
      (hb : announced high low = payload.length + 5) (hp : payload.length ≤ 32)
      (h : ∀ opcode : Opcode, opcode.toByte ≠ byte) :
      Verdict command (high :: low :: (spell byte a b c d payload ++ rest))
        (.error (.decode (.invalidOpcode byte)))
  | otherOpcode {high low opcode a b c d payload rest}
      (hb : announced high low = payload.length + 5) (hp : payload.length ≤ 32)
      (h : opcode ≠ command.opcode) :
      Verdict command (high :: low :: (spell opcode.toByte a b c d payload ++ rest))
        (.error (.decode (.unexpectedOpcode command.opcode opcode)))
  | failed {high low a b c d payload rest status}
      (hb : announced high low = payload.length + 5) (hp : payload.length ≤ 32)
      (hs : Int32.toInt status = signed a b c d) (h : signed a b c d < 0) :
      Verdict command (high :: low :: (spell command.opcode.toByte a b c d payload ++ rest))
        (.error (.device status))
  | unreadable {high low a b c d payload rest status fault}
      (hb : announced high low = payload.length + 5) (hp : payload.length ≤ 32)
      (hs : Int32.toInt status = signed a b c d) (hn : 0 ≤ signed a b c d)
      (h : command.decode status payload = .error fault) :
      Verdict command (high :: low :: (spell command.opcode.toByte a b c d payload ++ rest))
        (.error (.decode fault))
  | completed {high low a b c d payload rest status value}
      (hb : announced high low = payload.length + 5) (hp : payload.length ≤ 32)
      (hs : Int32.toInt status = signed a b c d) (hn : 0 ≤ signed a b c d)
      (h : command.decode status payload = .ok value) :
      Verdict command (high :: low :: (spell command.opcode.toByte a b c d payload ++ rest))
        (.ok ⟨status, value⟩)

theorem decode_pair (high low : UInt8) : BigEndian.decode [high, low] = announced high low := by
  simp [BigEndian.decode, announced]

theorem decode_word (a b c d : UInt8) : BigEndian.decode [a, b, c, d] = word a b c d := by
  simp only [BigEndian.decode, List.foldl_cons, List.foldl_nil, word]
  omega

theorem word_lt (a b c d : UInt8) : word a b c d < 4294967296 := by
  have ha : a.toNat < 256 := a.toNat_lt
  have hb : b.toNat < 256 := b.toNat_lt
  have hc : c.toNat < 256 := c.toNat_lt
  have hd : d.toNat < 256 := d.toNat_lt
  simp only [word]
  omega

theorem toInt_toInt32_ofNat {n : Nat} (h : n < 4294967296) :
    (UInt32.ofNat n).toInt32.toInt =
      if n < 2147483648 then (n : Int) else n - 4294967296 := by
  have hbits : (UInt32.ofNat n).toInt32.toInt = (BitVec.ofNat 32 n).toInt := rfl
  rw [hbits, BitVec.toInt_eq_toNat_cond, BitVec.toNat_ofNat, Nat.mod_eq_of_lt h]
  split <;> split <;> omega

theorem toInt_statusOfBytes (a b c d : UInt8) :
    (Response.statusOfBytes [a, b, c, d]).toInt = signed a b c d := by
  rw [Response.statusOfBytes, decode_word, toInt_toInt32_ofNat (word_lt a b c d), signed]

namespace Frame

variable {high low : UInt8} {rest body : Bytes}

theorem read_of_length_lt {wire : Bytes} (h : wire.length < 2) :
    (read wire).1 = .error (.receive .shortRead) := by
  match wire, h with
  | [], _ => rfl
  | [_], _ => rfl

theorem read_of_zero (h : announced high low = 0) :
    read (high :: low :: rest) = (.error (.malformed (.tooShort responseHeader 0)), rest) := by
  simp [read, decode_pair, h]

theorem read_of_long (h : 37 < announced high low) :
    read (high :: low :: rest) =
      (.error (.malformed (.responseTooLong (announced high low) maxLength)), rest) := by
  have hne : announced high low ≠ 0 := by omega
  have hlt : maxLength < announced high low := h
  simp [read, decode_pair, hne, hlt]

theorem read_of_cutOff (hl : announced high low ≤ 37) (h : rest.length < announced high low) :
    read (high :: low :: rest) = (.error (.receive .shortRead), []) := by
  have hne : announced high low ≠ 0 := by omega
  have hle : ¬ maxLength < announced high low := Nat.not_lt.mpr hl
  simp [read, decode_pair, hne, hle, h]

theorem read_body (hb : announced high low = body.length) (hp : 0 < body.length)
    (hl : body.length ≤ 37) : read (high :: low :: (body ++ rest)) = (.ok body, rest) := by
  have hne : body.length ≠ 0 := Nat.ne_of_gt hp
  have hle : ¬ maxLength < body.length := Nat.not_lt.mpr hl
  simp [read, decode_pair, hb, hne, hle]

end Frame

section

variable {opcode : Opcode} {a b c d high low : UInt8} {payload rest : Bytes}

@[simp]
theorem length_spell {byte : UInt8} : (spell byte a b c d payload).length = payload.length + 5 :=
  rfl

-- The longest frame holds the longest payload, so the second limit never comes to bear.
theorem read_spell {byte : UInt8} (hb : announced high low = payload.length + 5)
    (hp : payload.length ≤ 32) :
    Frame.read (high :: low :: (spell byte a b c d payload ++ rest)) =
      (.ok (spell byte a b c d payload), rest) := by
  apply Frame.read_body
  · rw [hb, length_spell]
  · rw [length_spell]
    omega
  · rw [length_spell]
    omega

theorem ofBytes_spell (hp : payload.length ≤ 32) :
    Response.ofBytes (spell opcode.toByte a b c d payload) =
      .ok ⟨opcode, Response.statusOfBytes [a, b, c, d], payload⟩ := by
  have hle : ¬ maxPayload < payload.length := Nat.not_lt.mpr hp
  simp [spell, Response.ofBytes, hle]

theorem status_lt_zero_iff : Response.statusOfBytes [a, b, c, d] < 0 ↔ signed a b c d < 0 := by
  rw [Int32.lt_iff_toInt_lt, toInt_statusOfBytes]
  rfl

theorem not_status_lt_zero (h : 0 ≤ signed a b c d) :
    ¬ Response.statusOfBytes [a, b, c, d] < 0 := by
  rw [status_lt_zero_iff]
  omega

-- A number has one form as a status.
theorem eq_statusOfBytes {status : Int32} (hs : status.toInt = signed a b c d) :
    status = Response.statusOfBytes [a, b, c, d] := by
  apply Int32.toInt_inj.mp
  rw [hs, toInt_statusOfBytes]

end

namespace Command

variable {command : Command} {a b c d : UInt8} {body payload : Bytes}

theorem judge_of_length_lt (h : body.length < 5) :
    command.judge body = .error (.decode (.tooShort 5 body.length)) := by
  match body, h with
  | [], _ => rfl
  | [_], _ => rfl
  | [_, _], _ => rfl
  | [_, _, _], _ => rfl
  | [_, _, _, _], _ => rfl

theorem judge_noOpcode {byte : UInt8} (h : ∀ opcode : Opcode, opcode.toByte ≠ byte) :
    command.judge (spell byte a b c d payload) = .error (.decode (.invalidOpcode byte)) := by
  have hnone : Opcode.ofByte? byte = none := by
    cases hbyte : Opcode.ofByte? byte with
    | none => rfl
    | some opcode => exact absurd (Opcode.toByte_of_ofByte? hbyte) (h opcode)
  simp [judge, spell, Response.ofBytes, hnone]

theorem judge_otherOpcode {opcode : Opcode} (hp : payload.length ≤ 32)
    (h : opcode ≠ command.opcode) :
    command.judge (spell opcode.toByte a b c d payload) =
      .error (.decode (.unexpectedOpcode command.opcode opcode)) := by
  simp [judge, ofBytes_spell hp, Response.expectOpcode, h]

theorem judge_failed (hp : payload.length ≤ 32) (h : signed a b c d < 0) :
    command.judge (spell command.opcode.toByte a b c d payload) =
      .error (.device (Response.statusOfBytes [a, b, c, d])) := by
  simp [judge, ofBytes_spell hp, Response.expectOpcode, status_lt_zero_iff.mpr h]

-- Behind the opcode and the sign, the payload decides.
theorem judge_unreadable {fault : ProtocolError} (hp : payload.length ≤ 32)
    (hn : 0 ≤ signed a b c d)
    (h : command.decode (Response.statusOfBytes [a, b, c, d]) payload = .error fault) :
    command.judge (spell command.opcode.toByte a b c d payload) = .error (.decode fault) := by
  simp [judge, ofBytes_spell hp, Response.expectOpcode, not_status_lt_zero hn, h]

theorem judge_completed {value : command.Answer} (hp : payload.length ≤ 32)
    (hn : 0 ≤ signed a b c d)
    (h : command.decode (Response.statusOfBytes [a, b, c, d]) payload = .ok value) :
    command.judge (spell command.opcode.toByte a b c d payload) =
      .ok ⟨Response.statusOfBytes [a, b, c, d], value⟩ := by
  simp [judge, ofBytes_spell hp, Response.expectOpcode, not_status_lt_zero hn, h]

end Command

variable {command : Command} {wire : Bytes}
  {result : Except CommandError (Completed command.Answer)}

theorem Verdict.normalize_eq (h : Verdict command wire result) :
    command.normalize (Frame.read wire).1 = result := by
  cases h with
  | noLength h =>
      rw [Frame.read_of_length_lt h]
      rfl
  | empty h =>
      rw [Frame.read_of_zero h]
      rfl
  | tooLong h =>
      rw [Frame.read_of_long h]
      rfl
  | cutOff hl h =>
      rw [Frame.read_of_cutOff hl h]
      rfl
  | tooShort hb hp h =>
      rw [Frame.read_body hb hp (by omega)]
      exact Command.judge_of_length_lt h
  | noOpcode hb hp h =>
      rw [read_spell hb hp]
      exact Command.judge_noOpcode h
  | otherOpcode hb hp h =>
      rw [read_spell hb hp]
      exact Command.judge_otherOpcode hp h
  | failed hb hp hs h =>
      rw [read_spell hb hp, eq_statusOfBytes hs]
      exact Command.judge_failed hp h
  | unreadable hb hp hs hn h =>
      rw [read_spell hb hp]
      exact Command.judge_unreadable hp hn (eq_statusOfBytes hs ▸ h)
  | completed hb hp hs hn h =>
      rw [read_spell hb hp]
      cases eq_statusOfBytes hs
      exact Command.judge_completed hp hn h

-- A whole message has a place: the opcode, the sign and the payload are looked at in turn.
theorem exists_verdict_spell (command : Command) {high low byte a b c d : UInt8}
    {payload rest : Bytes} (hb : announced high low = payload.length + 5)
    (hp : payload.length ≤ 32) :
    ∃ result, Verdict command (high :: low :: (spell byte a b c d payload ++ rest)) result := by
  cases hbyte : Opcode.ofByte? byte with
  | none =>
      refine ⟨_, .noOpcode hb hp fun opcode hopcode => ?_⟩
      rw [← hopcode, Opcode.ofByte?_toByte] at hbyte
      cases hbyte
  | some opcode =>
      cases Opcode.toByte_of_ofByte? hbyte
      by_cases hopcode : opcode = command.opcode
      · cases hopcode
        have hs := toInt_statusOfBytes a b c d
        by_cases hsign : signed a b c d < 0
        · exact ⟨_, .failed hb hp hs hsign⟩
        · have hn : 0 ≤ signed a b c d := Int.not_lt.mp hsign
          cases hd : command.decode (Response.statusOfBytes [a, b, c, d]) payload with
          | error fault => exact ⟨_, .unreadable hb hp hs hn hd⟩
          | ok value => exact ⟨_, .completed hb hp hs hn hd⟩
      · exact ⟨_, .otherOpcode hb hp hopcode⟩

theorem exists_verdict_body (command : Command) {high low : UInt8} {body rest : Bytes}
    (hb : announced high low = body.length) (hp : 0 < body.length) (hl : body.length ≤ 37) :
    ∃ result, Verdict command (high :: low :: (body ++ rest)) result := by
  match body with
  | byte :: a :: b :: c :: d :: payload =>
      have hle : payload.length ≤ 32 := by
        simp only [List.length_cons] at hl
        omega
      exact exists_verdict_spell command hb hle
  | [] => exact absurd hp (Nat.lt_irrefl 0)
  | [_] | [_, _] | [_, _, _] | [_, _, _, _] => exact ⟨_, .tooShort hb hp (by simp)⟩

theorem exists_verdict (command : Command) (wire : Bytes) :
    ∃ result, Verdict command wire result := by
  match wire with
  | [] | [_] => exact ⟨_, .noLength (by simp)⟩
  | high :: low :: rest =>
      by_cases hzero : announced high low = 0
      · exact ⟨_, .empty hzero⟩
      by_cases hlong : 37 < announced high low
      · exact ⟨_, .tooLong hlong⟩
      by_cases hcut : rest.length < announced high low
      · exact ⟨_, .cutOff (Nat.not_lt.mp hlong) hcut⟩
      · have hlen : (rest.take (announced high low)).length = announced high low := by
          rw [List.length_take]
          omega
        rw [← List.take_append_drop (announced high low) rest]
        exact exists_verdict_body command hlen.symm (by omega) (by omega)

theorem normalize_eq_iff :
    command.normalize (Frame.read wire).1 = result ↔ Verdict command wire result := by
  constructor
  · rintro rfl
    obtain ⟨result, h⟩ := exists_verdict command wire
    rwa [h.normalize_eq]
  · exact Verdict.normalize_eq

end BoardLink
