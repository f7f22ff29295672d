import BoardLink.Proofs.Wire.Stream
import Mathlib.Data.List.Forall2

-- Any byte string as the reader sees it. Whatever a hostile sender puts on the wire, it falls into
-- pieces in one way: whole frames, lengths that no body can have, and a rest that is too short.
namespace BoardLink.Frame

-- A piece that is taken at once, and what the reader makes of it.
inductive Piece : Except TransportError Bytes → Bytes → Prop where
  | body {high low : UInt8} {body : Bytes} (length : announced high low = body.length)
      (pos : 1 ≤ body.length) (le : body.length ≤ 37) : Piece (.ok body) (high :: low :: body)
  | empty {high low : UInt8} (length : announced high low = 0) :
      Piece (.error (.malformed (.tooShort 5 0))) [high, low]
  | tooLong {high low : UInt8} (length : 37 < announced high low) :
      Piece (.error (.malformed (.responseTooLong (announced high low) 37))) [high, low]

-- The bytes that a result stands for: what the writer sends for a body, and a malformed length.
inductive Consumed : Except TransportError Bytes → Bytes → Prop where
  | body {body : Bytes} :
      Consumed (.ok body) ((Sink.empty none none none).writeFrame body).2.written
  | malformed {fault : ProtocolError} {bytes : Bytes} (two : bytes.length = 2) :
      Consumed (.error (.malformed fault)) bytes

variable {result : Except TransportError Bytes} {piece stream rest body : Bytes}

theorem Piece.read_append (h : Piece result piece) (rest : Bytes) :
    read (piece ++ rest) = (result, rest) := by
  cases h with
  | body length pos le => exact read_body length pos le
  | empty length => exact read_of_zero length
  | tooLong length => exact read_of_long length

theorem Piece.two_le_length (h : Piece result piece) : 2 ≤ piece.length := by
  cases h <;> simp

-- A length is written in one way.
theorem encode_of_announced {high low : UInt8} (h : announced high low = body.length) :
    encode body = high :: low :: body := by
  have hhigh : high.toNat < 256 := high.toNat_lt
  have hlow : low.toNat < 256 := low.toNat_lt
  rw [announced] at h
  have hhigh : UInt8.ofNat (body.length / 256) = high := by
    apply UInt8.toNat_inj.mp
    rw [UInt8.toNat_ofNat']
    omega
  have hlow : UInt8.ofNat body.length = low := by
    apply UInt8.toNat_inj.mp
    rw [UInt8.toNat_ofNat']
    omega
  rw [encode, BigEndian.encode_two, hhigh, hlow]
  rfl

theorem written_of_le (hb : body.length ≤ 37) :
    ((Sink.empty none none none).writeFrame body).2.written = encode body := by
  have hendless : (Sink.empty none none none).Endless := ⟨⟨nofun, rfl⟩, rfl⟩
  obtain ⟨after, hwrite, hwritten, -⟩ := Sink.writeFrame_of_endless hendless hb
  rw [hwrite, hwritten]
  rfl

theorem Piece.consumed (h : Piece result piece) : Consumed result piece := by
  cases h with
  | body length pos le =>
      rw [← encode_of_announced length, ← written_of_le le]
      exact .body
  | empty => exact .malformed rfl
  | tooLong => exact .malformed rfl

-- The stream goes on behind a piece, or it is too short for one and nothing is left of it.
theorem read_cases (stream : Bytes) :
    (∃ result piece rest, Piece result piece ∧ stream = piece ++ rest) ∨
      read stream = (.error (.receive .shortRead), []) := by
  match stream with
  | [] | [_] => exact .inr rfl
  | high :: low :: rest =>
      by_cases hzero : announced high low = 0
      · exact .inl ⟨_, [high, low], rest, .empty hzero, rfl⟩
      by_cases hlong : 37 < announced high low
      · exact .inl ⟨_, [high, low], rest, .tooLong hlong, rfl⟩
      by_cases hcut : rest.length < announced high low
      · exact .inr (read_of_cutOff (Nat.not_lt.mp hlong) hcut)
      · have hlength : announced high low = (rest.take (announced high low)).length := by
          rw [List.length_take]
          omega
        refine .inl ⟨_, _, rest.drop (announced high low),
          .body hlength (by omega) (by omega), ?_⟩
        simp only [List.cons_append, List.take_append_drop]

-- Whatever is no shortage stands for a piece in front of what is left.
theorem exists_piece (h : read stream = (result, rest))
    (hresult : ∀ fault, result ≠ .error (.receive fault)) :
    ∃ piece, Piece result piece ∧ stream = piece ++ rest := by
  rcases read_cases stream with ⟨other, piece, behind, hpiece, rfl⟩ | hshort
  · rw [hpiece.read_append] at h
    cases h
    exact ⟨piece, hpiece, rfl⟩
  · rw [hshort] at h
    cases h
    exact absurd rfl (hresult .shortRead)

theorem read_eq_ok_iff : read stream = (.ok body, rest) ↔
    ∃ high low, stream = high :: low :: (body ++ rest) ∧ announced high low = body.length ∧
      1 ≤ body.length ∧ body.length ≤ 37 := by
  constructor
  · intro h
    obtain ⟨piece, hpiece, rfl⟩ := exists_piece h nofun
    cases hpiece with
    | body length pos le => exact ⟨_, _, rfl, length, pos, le⟩
  · rintro ⟨high, low, rfl, hlength, hpos, hle⟩
    exact read_body hlength hpos hle

theorem read_eq_malformed_iff {fault : ProtocolError} :
    read stream = (.error (.malformed fault), rest) ↔
      ∃ high low, stream = high :: low :: rest ∧
        (announced high low = 0 ∧ fault = .tooShort 5 0 ∨
          37 < announced high low ∧ fault = .responseTooLong (announced high low) 37) := by
  constructor
  · intro h
    obtain ⟨piece, hpiece, rfl⟩ := exists_piece h nofun
    cases hpiece with
    | empty length => exact ⟨_, _, rfl, .inl ⟨length, rfl⟩⟩
    | tooLong length => exact ⟨_, _, rfl, .inr ⟨length, rfl⟩⟩
  · rintro ⟨high, low, rfl, ⟨hlength, rfl⟩ | ⟨hlength, rfl⟩⟩
    · exact read_of_zero hlength
    · exact read_of_long hlength

-- A stream as pieces with their results, and a rest in which no piece begins.
inductive Segments : Bytes → List (Except TransportError Bytes) → List Bytes → Bytes → Prop where
  | short {rest : Bytes} (h : read rest = (.error (.receive .shortRead), [])) :
      Segments rest [] [] rest
  | next {stream rest piece : Bytes} {result : Except TransportError Bytes}
      {results : List (Except TransportError Bytes)} {pieces : List Bytes}
      (head : Piece result piece) (tail : Segments stream results pieces rest) :
      Segments (piece ++ stream) (result :: results) (piece :: pieces) rest

-- Every piece has at least the two bytes of a length, so the pieces come to an end.
theorem exists_segments (stream : Bytes) :
    ∃ results pieces rest, Segments stream results pieces rest := by
  rcases read_cases stream with ⟨result, piece, behind, hpiece, hstream⟩ | hshort
  · have hshorter : behind.length < stream.length := by
      have hlength := hpiece.two_le_length
      rw [hstream, List.length_append]
      omega
    obtain ⟨results, pieces, rest, htail⟩ := exists_segments behind
    exact ⟨result :: results, piece :: pieces, rest, hstream ▸ .next hpiece htail⟩
  · exact ⟨[], [], stream, .short hshort⟩
termination_by stream.length

variable {results : List (Except TransportError Bytes)} {pieces : List Bytes}

theorem Segments.eq_flatten (h : Segments stream results pieces rest) :
    stream = pieces.flatten ++ rest := by
  induction h with
  | short => rfl
  | next head tail ih => rw [List.flatten_cons, List.append_assoc, ← ih]

theorem Segments.forall_consumed (h : Segments stream results pieces rest) :
    List.Forall₂ Consumed results pieces := by
  induction h with
  | short => exact .nil
  | next head tail ih => exact .cons head.consumed ih

theorem Segments.length_le (h : Segments stream results pieces rest) :
    results.length ≤ stream.length / 2 := by
  induction h with
  | short => exact Nat.zero_le _
  | next head tail ih =>
      have hlength := head.two_le_length
      rw [List.length_cons, List.length_append]
      omega

theorem Segments.readAll_eq (h : Segments stream results pieces rest) :
    readAll stream = results ++ [.error (.receive .shortRead)] := by
  induction h with
  | short hshort =>
      unfold readAll
      split
      · rw [hshort]
        rfl
      · rename_i hlost
        rw [hshort] at hlost
        cases hlost
  | @next stream rest piece result results pieces head tail ih =>
      have hread := head.read_append stream
      unfold readAll
      split
      · rename_i hlost
        rw [hread] at hlost
        cases head <;> cases hlost
      · rw [hread, ih]
        rfl

-- Each call begins where the one before it has stopped.
theorem Segments.readTimes_eq (h : Segments stream results pieces rest) {count : Nat}
    (hcount : count ≤ results.length) :
    readTimes count stream = (results.take count, (pieces.drop count).flatten ++ rest) := by
  induction h generalizing count with
  | short hshort =>
      cases Nat.le_zero.mp hcount
      rfl
  | next head tail ih =>
      cases count with
      | zero =>
          rw [readTimes, tail.eq_flatten]
          simp
      | succ count =>
          rw [readTimes, head.read_append]
          simp only [ih (Nat.le_of_succ_le_succ hcount), List.take_succ_cons, List.drop_succ_cons]

-- One call tells a body, a malformed length or a shortage by the first bytes alone. Calls one after
-- another take all bytes in order, up to the first shortage, which comes soon.
theorem streams_fall_into_pieces (stream : Bytes) :
    (∀ body rest, read stream = (.ok body, rest) ↔
      ∃ high low, stream = high :: low :: (body ++ rest) ∧ announced high low = body.length ∧
        1 ≤ body.length ∧ body.length ≤ 37) ∧
      (∀ fault rest, read stream = (.error (.malformed fault), rest) ↔
        ∃ high low, stream = high :: low :: rest ∧
          (announced high low = 0 ∧ fault = .tooShort 5 0 ∨
            37 < announced high low ∧ fault = .responseTooLong (announced high low) 37)) ∧
      ((∃ body, (read stream).1 = .ok body) ∨
        (∃ fault, (read stream).1 = .error (.malformed fault)) ∨
        (read stream).1 = .error (.receive .shortRead)) ∧
      ∃ results pieces rest,
        readAll stream = results ++ [.error (.receive .shortRead)] ∧
        (readAll stream).length ≤ stream.length / 2 + 1 ∧
        stream = pieces.flatten ++ rest ∧
        List.Forall₂ Consumed results pieces ∧
        ∀ count, count ≤ results.length →
          readTimes count stream = (results.take count, (pieces.drop count).flatten ++ rest) := by
  refine ⟨fun body rest => read_eq_ok_iff, fun fault rest => read_eq_malformed_iff, ?_, ?_⟩
  · rcases read_cases stream with ⟨result, piece, rest, hpiece, rfl⟩ | hshort
    · rw [hpiece.read_append]
      cases hpiece with
      | body => exact .inl ⟨_, rfl⟩
      | empty => exact .inr (.inl ⟨_, rfl⟩)
      | tooLong => exact .inr (.inl ⟨_, rfl⟩)
    · rw [hshort]
      exact .inr (.inr rfl)
  · obtain ⟨results, pieces, rest, hsegments⟩ := exists_segments stream
    refine ⟨results, pieces, rest, hsegments.readAll_eq, ?_, hsegments.eq_flatten,
      hsegments.forall_consumed, fun count => hsegments.readTimes_eq⟩
    rw [hsegments.readAll_eq, List.length_append, List.length_singleton]
    exact Nat.succ_le_succ hsegments.length_le

end BoardLink.Frame
