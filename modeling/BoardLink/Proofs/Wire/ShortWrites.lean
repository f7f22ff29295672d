import BoardLink.Proofs.Wire.Stream

-- Bodies written to a sink that is full at some point. The limit can fall anywhere, also inside a
-- frame, and then the beginning of that frame is the last that gets through. How the bytes are cut
-- into writes makes no difference.
namespace BoardLink

namespace Frame

-- What the writer is told about a body, if the frames in front of it have `used` bytes and there is
-- room for `limit` bytes in all.
def told (limit used : Nat) (body : Bytes) : Except TransportError Unit :=
  if 37 < body.length then .error (.frameTooLarge body.length 37)
  else if used + (encode body).length ≤ limit then .ok ()
  else .error (.send .shortWrite)

variable {limit used : Nat} {body : Bytes} {bodies : List Bytes}

theorem length_encode (body : Bytes) : (encode body).length = 2 + body.length := by
  rw [encode, List.length_append, BigEndian.length_encode]

theorem stream_append (front back : List Bytes) :
    stream (front ++ back) = stream front ++ stream back := by
  simp only [stream, List.filter_append, List.flatMap_append]

theorem stream_singleton (h : body.length ≤ 37) : stream [body] = encode body := by
  simp [stream, fits, h]

theorem stream_singleton_of_long (h : 37 < body.length) : stream [body] = [] := by
  simp [stream, fits, h]

theorem stream_take_succ {place : Nat} (h : bodies[place]? = some body) :
    stream (bodies.take (place + 1)) = stream (bodies.take place) ++ stream [body] := by
  rw [List.take_add_one, h, stream_append]
  rfl

theorem length_stream_take_le (bodies : List Bytes) {front place : Nat} (h : front ≤ place) :
    (stream (bodies.take front)).length ≤ (stream (bodies.take place)).length := by
  obtain ⟨more, rfl⟩ := Nat.exists_eq_add_of_le h
  rw [List.take_add, stream_append, List.length_append]
  exact Nat.le_add_right ..

theorem told_of_long (h : 37 < body.length) :
    told limit used body = .error (.frameTooLarge body.length 37) :=
  if_pos h

theorem told_of_le (h : body.length ≤ 37) : told limit used body =
    if used + (encode body).length ≤ limit then .ok () else .error (.send .shortWrite) :=
  if_neg (Nat.not_lt.mpr h)

theorem told_eq_send_iff {fault : IoFault} : told limit used body = .error (.send fault) ↔
    fault = .shortWrite ∧ body.length ≤ 37 ∧ limit < used + (encode body).length := by
  unfold told
  split
  · simp only [Except.error.injEq, reduceCtorEq, false_iff]
    omega
  · split
    · simp only [reduceCtorEq, false_iff]
      omega
    · rw [Except.error.injEq, TransportError.send.injEq, eq_comm]
      exact ⟨fun hfault => ⟨hfault, by omega, by omega⟩, fun h => h.1⟩

end Frame

namespace Sink

-- A sink with room for `limit` bytes in all, which has been given some bytes.
structure Given (sink : Sink) (limit : Nat) (given : Bytes) : Prop where
  steady : sink.Steady
  bounded : sink.limit = some limit
  written : sink.written = given.take limit

variable {sink : Sink} {limit : Nat} {given body : Bytes}

theorem given_empty {chunk : Nat} (h : 1 ≤ chunk) (limit : Nat) :
    (Sink.empty (some chunk) (some limit) none).Given limit [] where
  steady := ⟨fun _ hzero => by cases hzero; omega, rfl⟩
  bounded := rfl
  written := List.take_nil.symm

theorem Given.space_eq (h : sink.Given limit given) (count : Nat) :
    sink.space count = min count (limit - given.length) := by
  simp only [space, h.bounded, h.written, List.length_take]
  omega

-- A frame has a length, so none fits behind the limit.
theorem Given.space_eq_iff (h : sink.Given limit given) (body : Bytes) :
    sink.space (Frame.encode body).length = (Frame.encode body).length ↔
      given.length + (Frame.encode body).length ≤ limit := by
  rw [h.space_eq, Frame.length_encode]
  omega

theorem Given.writeFrame (h : sink.Given limit given) (body : Bytes) :
    ∃ after, sink.writeFrame body = (Frame.told limit given.length body, after) ∧
      after.Given limit (given ++ Frame.stream [body]) := by
  by_cases hb : body.length ≤ 37
  · obtain ⟨after, hwrite, hwritten, hlimit, hsteady⟩ := writeFrame_of_steady h.steady hb
    refine ⟨after, ?_, hsteady, hlimit.trans h.bounded, ?_⟩
    · rw [hwrite, Frame.told_of_le hb]
      simp only [h.space_eq_iff]
    · rw [hwritten, h.written, h.space_eq, Frame.stream_singleton hb, List.take_append,
        Nat.min_comm, ← List.take_eq_take_min]
  · have hlong : 37 < body.length := Nat.not_le.mp hb
    refine ⟨sink, ?_, ?_⟩
    · rw [writeFrame_of_long sink hlong, Frame.told_of_long hlong]
    · rw [Frame.stream_singleton_of_long hlong, List.append_nil]
      exact h

-- What the writer is told about a body depends on the frames in front of it alone.
theorem Given.writeFrames (h : sink.Given limit given) (bodies : List Bytes) :
    (sink.writeFrames bodies).2.Given limit (given ++ Frame.stream bodies) ∧
      ∀ place, (sink.writeFrames bodies).1[place]? = bodies[place]?.map
        (Frame.told limit (given.length + (Frame.stream (bodies.take place)).length)) := by
  induction bodies generalizing sink given with
  | nil =>
      refine ⟨?_, fun place => rfl⟩
      rw [show Frame.stream [] = [] from rfl, List.append_nil]
      exact h
  | cons body bodies ih =>
      obtain ⟨after, hwrite, hafter⟩ := h.writeFrame body
      obtain ⟨hgiven, htold⟩ := ih hafter
      have hsplit (rest : List Bytes) :
          Frame.stream (body :: rest) = Frame.stream [body] ++ Frame.stream rest :=
        Frame.stream_append [body] rest
      simp only [Sink.writeFrames, hwrite]
      constructor
      · rw [hsplit, ← List.append_assoc]
        exact hgiven
      · intro place
        cases place with
        | zero => rfl
        | succ place =>
            rw [List.getElem?_cons_succ, List.getElem?_cons_succ, htold place,
              List.take_succ_cons, hsplit (bodies.take place), List.length_append,
              List.length_append, Nat.add_assoc]

theorem length_writeFrames (sink : Sink) (bodies : List Bytes) :
    (sink.writeFrames bodies).1.length = bodies.length := by
  induction bodies generalizing sink with
  | nil => rfl
  | cons body bodies ih => exact congrArg Nat.succ (ih (sink.writeFrame body).2)

-- Up to the limit all frames arrive, whatever the size of a write. A body is written if and only if
-- its frame still ends before the limit, counting the frames of all bodies in front of it that are
-- not too long. From the first body that is not written to the end, the sink stays full.
theorem short_writes_deliver_up_to_limit {chunk : Nat} (hchunk : 1 ≤ chunk) (limit : Nat)
    (bodies : List Bytes) :
    ∃ results after,
      (Sink.empty (some chunk) (some limit) none).writeFrames bodies = (results, after) ∧
      results.length = bodies.length ∧
      after.written = (Frame.stream bodies).take limit ∧
      (∀ place body, bodies[place]? = some body → ∃ result, results[place]? = some result ∧
        (37 < body.length → result = .error (.frameTooLarge body.length 37)) ∧
        (body.length ≤ 37 →
          (result = .ok () ↔
            (Frame.stream (bodies.take place)).length + (Frame.encode body).length ≤ limit) ∧
          (result ≠ .ok () → ∃ fault, result = .error (.send fault)))) ∧
      ∀ place fault, results[place]? = some (.error (.send fault)) →
        (∀ later body, place < later → bodies[later]? = some body → body.length ≤ 37 →
          ∃ fault, results[later]? = some (.error (.send fault))) ∧
        ((Sink.empty (some chunk) (some limit) none).writeFrames
          (bodies.take (place + 1))).2.written = after.written ∧
        after.written.length = limit := by
  have hempty := given_empty hchunk limit
  have hlength := length_writeFrames (Sink.empty (some chunk) (some limit) none) bodies
  obtain ⟨hgiven, htold⟩ := hempty.writeFrames bodies
  generalize hwrite : (Sink.empty (some chunk) (some limit) none).writeFrames bodies = run
    at hlength hgiven htold
  obtain ⟨results, after⟩ := run
  simp only [List.length_nil, Nat.zero_add] at htold
  refine ⟨results, after, rfl, hlength, hgiven.written, ?_, ?_⟩
  · intro place body hbody
    refine ⟨_, by rw [htold, hbody]; rfl, Frame.told_of_long, fun hle => ?_⟩
    rw [Frame.told_of_le hle]
    split <;> simp [*]
  · intro place fault hresult
    rw [htold, Option.map_eq_some_iff] at hresult
    obtain ⟨body, hbody, hsend⟩ := hresult
    obtain ⟨-, hle, hlimit⟩ := Frame.told_eq_send_iff.mp hsend
    -- the frame of this body ends behind the limit
    have hfull : limit ≤ (Frame.stream (bodies.take (place + 1))).length := by
      rw [Frame.stream_take_succ hbody, Frame.stream_singleton hle, List.length_append]
      exact Nat.le_of_lt hlimit
    have hwritten : after.written = (Frame.stream (bodies.take (place + 1))).take limit := by
      rw [hgiven.written, List.nil_append, ← List.take_append_of_le_length hfull,
        ← Frame.stream_append, List.take_append_drop]
    refine ⟨?_, ?_, ?_⟩
    · intro later other hlater hother hle
      have hplace : place + 1 ≤ later := hlater
      have hused := Frame.length_stream_take_le bodies hplace
      have hlength := Frame.length_encode other
      refine ⟨.shortWrite, ?_⟩
      rw [htold, hother]
      exact congrArg some (Frame.told_eq_send_iff.mpr ⟨rfl, hle, by omega⟩)
    · rw [(hempty.writeFrames _).1.written, hwritten]
      rfl
    · rw [hwritten, List.length_take, Nat.min_eq_left hfull]

-- Seven bytes hold one frame of five and the beginning of the next. Another frame of two bytes would
-- have been small enough, had nothing of that beginning been sent.
theorem second_frame_is_cut_at_seven_bytes :
    1 ≤ 3 ∧ ∃ results after,
      (Sink.empty (some 3) (some 7) none).writeFrames
        [[1, 2, 3], List.replicate 38 0, [9, 9], []] = (results, after) ∧
      after.written = [0, 3, 1, 2, 3, 0, 2] ∧
      results[0]? = some (.ok ()) ∧
      results[1]? = some (.error (.frameTooLarge 38 37)) ∧
      (∃ fault, results[2]? = some (.error (.send fault))) ∧
      ∃ fault, results[3]? = some (.error (.send fault)) := by
  obtain ⟨results, after, hwrite, -, hwritten, hresults, hfull⟩ :=
    short_writes_deliver_up_to_limit (show 1 ≤ 3 by decide) 7
      [[1, 2, 3], List.replicate 38 0, [9, 9], []]
  obtain ⟨first, hfirst, -, hwhole⟩ := hresults 0 [1, 2, 3] rfl
  obtain ⟨second, hsecond, hlong, -⟩ := hresults 1 (List.replicate 38 0) rfl
  obtain ⟨third, hthird, -, hcut⟩ := hresults 2 [9, 9] rfl
  cases (hwhole (by decide)).1.mpr (by decide)
  cases hlong (by decide)
  obtain ⟨fault, rfl⟩ := (hcut (by decide)).2 fun hok =>
    absurd ((hcut (by decide)).1.mp hok) (by decide)
  have hlater := (hfull 2 fault hthird).1 3 [] (by decide) rfl (by decide)
  exact ⟨by decide, results, after, hwrite, hwritten, hfirst, hsecond, ⟨fault, hthird⟩, hlater⟩

end Sink
end BoardLink
