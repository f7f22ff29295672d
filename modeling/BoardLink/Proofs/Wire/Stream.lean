import BoardLink.Transport.Sink
import BoardLink.Proofs.Message.Codec
import BoardLink.Proofs.Wire.Verdict

-- Bodies written one after another and found again by the reader. A sink takes the bytes in pieces
-- of any size, so a frame can be cut anywhere on its way, and nothing but the lengths tells where
-- the next frame begins.
namespace BoardLink

namespace Sink

-- Every write takes something, as long as the limit leaves room for it.
structure Steady (sink : Sink) : Prop where
  takes : ∀ write, sink.chunk write ≠ some 0
  fault : sink.fault = none

-- Every write takes something.
structure Endless (sink : Sink) : Prop extends sink.Steady where
  limit : sink.limit = none

-- How many of `count` bytes are below the limit.
def space (sink : Sink) (count : Nat) : Nat :=
  match sink.limit with
  | some limit => min count (limit - sink.written.length)
  | none => count

variable {sink : Sink} {body bytes : Bytes}

theorem space_le (sink : Sink) (count : Nat) : sink.space count ≤ count := by
  unfold space
  split
  · exact Nat.min_le_left ..
  · exact Nat.le_refl _

theorem space_of_endless (h : sink.Endless) (count : Nat) : sink.space count = count := by
  simp only [space, h.limit]

theorem room_le_space (sink : Sink) (count : Nat) : sink.room count ≤ sink.space count := by
  unfold room space
  cases sink.chunk sink.writes <;> cases sink.limit <;> simp only <;> omega

-- A steady sink stops at its limit and nowhere else.
theorem Steady.space_eq_zero (h : sink.Steady) {count : Nat} (hroom : sink.room count = 0) :
    sink.space count = 0 := by
  have htakes := h.takes sink.writes
  unfold room at hroom
  unfold space
  cases hchunk : sink.chunk sink.writes with
  | none =>
      rw [hchunk] at hroom
      cases hlimit : sink.limit <;> simp only [hlimit] at hroom ⊢ <;> omega
  | some chunk =>
      have hpos : chunk ≠ 0 := fun hzero => htakes (hzero ▸ hchunk)
      rw [hchunk] at hroom
      cases hlimit : sink.limit <;> simp only [hlimit] at hroom ⊢ <;> omega

theorem Steady.take (h : sink.Steady) (bytes : Bytes) : (sink.take bytes).Steady :=
  ⟨h.takes, h.fault⟩

-- What one write takes and what is then below the limit add up to what was below it before.
theorem space_take (sink : Sink) (bytes : Bytes) :
    sink.room bytes.length + (sink.take bytes).space (bytes.drop (sink.room bytes.length)).length =
      sink.space bytes.length := by
  have hroom := sink.room_le_space bytes.length
  simp only [space, Sink.take, List.length_append, List.length_take, List.length_drop] at hroom ⊢
  cases hlimit : sink.limit <;> simp only [hlimit] at hroom ⊢ <;> omega

-- The bytes below the limit arrive, in however many writes, and the others do not.
theorem writeAll_of_steady (h : sink.Steady) (bytes : Bytes) :
    ∃ after, sink.writeAll bytes =
        (if sink.space bytes.length = bytes.length then .ok () else .error .shortWrite, after) ∧
      after.written = sink.written ++ bytes.take (sink.space bytes.length) ∧
      after.limit = sink.limit ∧ after.Steady := by
  fun_induction writeAll sink bytes with
  | case1 sink =>
      have hspace : sink.space ([] : Bytes).length = ([] : Bytes).length :=
        Nat.le_zero.mp (sink.space_le 0)
      refine ⟨sink, ?_, ?_, rfl, h⟩
      · rw [if_pos hspace]
      · rw [List.take_nil, List.append_nil]
  | case2 sink bytes hne hfault =>
      rw [h.fault] at hfault
      cases hfault
  | case3 sink bytes hne hfault hroom =>
      have hspace := h.space_eq_zero hroom
      have hpos : 0 < bytes.length := List.length_pos_iff.mpr hne
      refine ⟨sink.take bytes, ?_, ?_, rfl, h.take bytes⟩
      · rw [hspace, if_neg (by omega)]
      · simp only [Sink.take, hroom, hspace]
  | case4 sink bytes hne hfault hroom ih =>
      obtain ⟨after, hwrite, hwritten, hlimit, hsteady⟩ := ih (h.take bytes)
      have hsum := sink.space_take bytes
      refine ⟨after, ?_, ?_, hlimit, hsteady⟩
      · have hiff : (sink.take bytes).space (bytes.drop (sink.room bytes.length)).length =
            (bytes.drop (sink.room bytes.length)).length ↔
              sink.space bytes.length = bytes.length := by
          have hle := sink.space_le bytes.length
          have hroom := sink.room_le_space bytes.length
          rw [List.length_drop] at hsum ⊢
          omega
        rw [hwrite]
        simp only [hiff]
      · rw [hwritten, ← hsum, List.take_add, ← List.append_assoc]
        rfl

-- A body that is too long leaves no trace at all.
theorem writeFrame_of_long (sink : Sink) (h : 37 < body.length) :
    sink.writeFrame body = (.error (.frameTooLarge body.length 37), sink) := by
  have hlong : Frame.maxLength < body.length := h
  rw [writeFrame, if_pos hlong]
  rfl

theorem writeFrame_of_steady (h : sink.Steady) (hb : body.length ≤ 37) :
    ∃ after, sink.writeFrame body =
        (if sink.space (Frame.encode body).length = (Frame.encode body).length then .ok ()
          else .error (.send .shortWrite), after) ∧
      after.written =
        sink.written ++ (Frame.encode body).take (sink.space (Frame.encode body).length) ∧
      after.limit = sink.limit ∧ after.Steady := by
  obtain ⟨after, hwrite, hafter⟩ := writeAll_of_steady h (Frame.encode body)
  have hlong : ¬ Frame.maxLength < body.length := Nat.not_lt.mpr hb
  have hfault : ¬ after.fault = some .flush := by simp [hafter.2.2.fault]
  refine ⟨after, ?_, hafter⟩
  rw [writeFrame, if_neg hlong, hwrite]
  by_cases hspace : sink.space (Frame.encode body).length = (Frame.encode body).length
  · simp only [if_pos hspace, if_neg hfault]
  · simp only [if_neg hspace]

theorem writeFrame_of_endless (h : sink.Endless) (hb : body.length ≤ 37) :
    ∃ after, sink.writeFrame body = (.ok (), after) ∧
      after.written = sink.written ++ Frame.encode body ∧ after.Endless := by
  obtain ⟨after, hwrite, hwritten, hlimit, hsteady⟩ := writeFrame_of_steady h.toSteady hb
  rw [space_of_endless h] at hwrite hwritten
  rw [if_pos rfl] at hwrite
  rw [List.take_length] at hwritten
  exact ⟨after, hwrite, hwritten, hsteady, hlimit.trans h.limit⟩

end Sink

namespace Frame

-- The bodies that a frame can hold.
def fits (body : Bytes) : Bool := body.length ≤ 37

-- What the writer is told about a body.
def sent (body : Bytes) : Except TransportError Unit :=
  if fits body then .ok () else .error (.frameTooLarge body.length 37)

-- What the reader is told about a body. A frame without a body counts as a fault of the sender.
def received (body : Bytes) : Except TransportError Bytes :=
  if body = [] then .error (.malformed (.tooShort 5 0)) else .ok body

-- The frames of all bodies that have one.
def stream (bodies : List Bytes) : Bytes := (bodies.filter fits).flatMap encode

@[simp] theorem stream_nil : stream [] = [] := rfl

@[simp] theorem stream_cons (body : Bytes) (rest : List Bytes) :
    stream (body :: rest) = (if fits body then encode body else []) ++ stream rest := by
  cases hfits : fits body <;> simp [stream, hfits]

-- Read a number of bodies, one after another.
def readTimes : Nat → Bytes → List (Except TransportError Bytes) × Bytes
  | 0, stream => ([], stream)
  | count + 1, stream =>
    let (body, stream) := read stream
    let (bodies, stream) := readTimes count stream
    (body :: bodies, stream)

theorem exists_encode {body : Bytes} (hb : body.length ≤ 37) :
    ∃ high low, announced high low = body.length ∧ encode body = high :: low :: body := by
  refine ⟨UInt8.ofNat (body.length / 256), UInt8.ofNat body.length, ?_, ?_⟩
  · rw [← decode_pair, ← BigEndian.encode_two, BigEndian.decode_encode]
    omega
  · rw [encode, BigEndian.encode_two]
    rfl

-- The reader finds the end of a frame, whatever comes behind it.
theorem read_encode {body : Bytes} (hb : body.length ≤ 37) (rest : Bytes) :
    read (encode body ++ rest) = (received body, rest) := by
  obtain ⟨high, low, hlength, hbytes⟩ := exists_encode hb
  rw [hbytes]
  cases body with
  | nil => exact read_of_zero hlength
  | cons byte body => exact read_body hlength (Nat.succ_pos _) hb

theorem readTimes_flatMap_encode {bodies : List Bytes} (hb : ∀ body ∈ bodies, body.length ≤ 37)
    (rest : Bytes) :
    readTimes bodies.length (bodies.flatMap encode ++ rest) = (bodies.map received, rest) := by
  induction bodies with
  | nil => rfl
  | cons body bodies ih =>
      obtain ⟨hbody, hbodies⟩ := List.forall_mem_cons.mp hb
      rw [List.flatMap_cons, List.append_assoc, List.length_cons, readTimes,
        read_encode hbody]
      simp only [ih hbodies, List.map_cons]

end Frame

namespace Sink

theorem writeFrames_of_endless {sink : Sink} (h : sink.Endless) (bodies : List Bytes) :
    (sink.writeFrames bodies).1 = bodies.map Frame.sent ∧
      (sink.writeFrames bodies).2.written = sink.written ++ Frame.stream bodies := by
  induction bodies generalizing sink with
  | nil => simp
  | cons body bodies ih =>
      by_cases hb : body.length ≤ 37
      · have hfits : Frame.fits body = true := decide_eq_true hb
        obtain ⟨after, hwrite, hwritten, hendless⟩ := writeFrame_of_endless h hb
        obtain ⟨hresults, hstream⟩ := ih hendless
        constructor
        · simp [hwrite, hresults, Frame.sent, hfits]
        · simp [hwrite, hstream, hwritten, hfits]
      · have hfits : Frame.fits body = false := decide_eq_false hb
        obtain ⟨hresults, hstream⟩ := ih h
        have hwrite := writeFrame_of_long sink (Nat.not_le.mp hb)
        constructor
        · simp [hwrite, hresults, Frame.sent, hfits]
        · simp [hwrite, hstream, hfits]

-- Leaving out the bodies that are too long changes nothing about the sink, not even the number of
-- its writes.
theorem writeFrames_filter_fits (sink : Sink) (bodies : List Bytes) :
    (sink.writeFrames (bodies.filter Frame.fits)).2 = (sink.writeFrames bodies).2 := by
  induction bodies generalizing sink with
  | nil => rfl
  | cons body bodies ih =>
      by_cases hb : body.length ≤ 37
      · have hfits : Frame.fits body = true := decide_eq_true hb
        rw [List.filter_cons_of_pos hfits]
        exact ih (sink.writeFrame body).2
      · have hfits : ¬ Frame.fits body = true := by simpa [Frame.fits] using hb
        rw [List.filter_cons_of_neg hfits, ih sink]
        simp only [writeFrames, writeFrame_of_long sink (Nat.not_le.mp hb)]

end Sink

-- However the frames are cut into writes, each body that fits is read where it was written, and
-- the reader stops right behind the last one. The others are refused and leave no trace.
theorem bodies_read_as_written {sink : Sink} (h : sink.Endless) (bodies : List Bytes) :
    (sink.writeFrames bodies).1 = bodies.map Frame.sent ∧
      (sink.writeFrames (bodies.filter Frame.fits)).2 = (sink.writeFrames bodies).2 ∧
      (sink.writeFrames bodies).2.written = sink.written ++ Frame.stream bodies ∧
      ∀ rest, Frame.readTimes (bodies.filter Frame.fits).length (Frame.stream bodies ++ rest) =
        ((bodies.filter Frame.fits).map Frame.received, rest) := by
  obtain ⟨hresults, hwritten⟩ := Sink.writeFrames_of_endless h bodies
  refine ⟨hresults, sink.writeFrames_filter_fits bodies, hwritten, fun rest => ?_⟩
  apply Frame.readTimes_flatMap_encode
  intro body hbody
  exact of_decide_eq_true (List.mem_filter.mp hbody).2

-- A sink that takes one, two and three bytes in turn.
def Sink.uneven : Sink := ⟨fun write => some (write % 3 + 1), none, none, [], 0⟩

theorem uneven_writes_read_back :
    Sink.uneven.Endless ∧
      (Sink.uneven.writeFrames [[7], [], List.replicate 38 0, [1, 2]]).1 =
        [.ok (), .ok (), .error (.frameTooLarge 38 37), .ok ()] ∧
      (Sink.uneven.writeFrames [[7], [], List.replicate 38 0, [1, 2]]).2.written =
        [0, 1, 7, 0, 0, 0, 2, 1, 2] ∧
      Frame.readTimes 3 [0, 1, 7, 0, 0, 0, 2, 1, 2, 9] =
        ([.ok [7], .error (.malformed (.tooShort 5 0)), .ok [1, 2]], [9]) := by
  have h : Sink.uneven.Endless := ⟨⟨by simp [Sink.uneven], rfl⟩, rfl⟩
  obtain ⟨hresults, -, hwritten, hread⟩ :=
    bodies_read_as_written h [[7], [], List.replicate 38 0, [1, 2]]
  exact ⟨h, hresults, hwritten, hread [9]⟩

end BoardLink
