import OpticalPathPlanner.WireImages

/-!
# Frames off a stream

The two ends of a connection read frames off a stream of bytes.  A header is
read before the rest of its frame, and it is checked before memory for that
rest is set aside; the reader's own limit on the payload is checked with it.
A stream that ends inside a frame was closed by the peer.
-/

namespace OpticalPathPlanner

open ByteReaders

section Streams

variable (sha256 : Bytes → Digest256)

/-- `ReadFrame` on all bytes that a peer sends before it closes the connection.
The second component is what was not read. -/
def readFrame (maxFrameBytes : UInt32) (stream : Bytes) :
    Except Status Frame × Bytes :=
  if stream.length < kFrameHeaderBytes then
    (.error (failure .ioFailure
      (text "connection closed while reading a frame header")), [])
  else
    let behind := stream.drop kFrameHeaderBytes
    match readFrameHeader (stream.take kFrameHeaderBytes) with
    | .error status => (.error status, behind)
    | .ok (header, _) =>
        if header.magic ≠ kFrameMagic then
          (.error (failure .malformedInput (text "frame magic is not recognised")),
            behind)
        else if header.version ≠ kProtocolVersion then
          (.error (failure .unsupported
            (text "transport revision is not supported by this runtime")), behind)
        else if header.length > maxFrameBytes then
          (.error (failure .limitExceeded
            (text "frame payload exceeds the permitted maximum size")), behind)
        else if behind.length < header.length.toNat + 32 then
          (.error (failure .ioFailure
            (text "connection closed while reading a frame body")), [])
        else
          let rest := behind.drop (header.length.toNat + 32)
          match decodeFrame sha256
              (stream.take (kFrameHeaderBytes + (header.length.toNat + 32))) with
          | .error status => (.error status, rest)
          | .ok (frame, _) => (.ok frame, rest)

variable {sha256}

/-- A payload within the limits of the reader and of the transport. -/
def Frame.Carried (frame : Frame) (maxFrameBytes : UInt32) : Prop :=
  frame.payload.length ≤ maxFrameBytes.toNat ∧ frame.Fits

instance (frame : Frame) (maxFrameBytes : UInt32) :
    Decidable (frame.Carried maxFrameBytes) :=
  inferInstanceAs (Decidable (_ ≤ _ ∧ _ ≤ _))

theorem readFrame_append {maxFrameBytes : UInt32} {frame : Frame}
    (carried : frame.Carried maxFrameBytes) (rest : Bytes) :
    readFrame sha256 maxFrameBytes (encodeFrame sha256 frame ++ rest) =
      (.ok frame, rest) := by
  obtain ⟨permitted, fits⟩ := carried
  have spelled : encodeFrame sha256 frame ++ rest = encodeFrameHeader frame ++
      (frame.payload ++ ((sha256 (encodeFrameBody frame)).bytes ++ rest)) := by
    simp [encodeFrame, encodeFrameBody]
  have long : ¬ (encodeFrame sha256 frame ++ rest).length < kFrameHeaderBytes := by
    rw [List.length_append, length_encodeFrame]
    omega
  have header : readFrameHeader
      ((encodeFrame sha256 frame ++ rest).take kFrameHeaderBytes) =
        .ok (frame.header, []) := by
    rw [spelled, readFrameHeader_take]
  have small : ¬ frame.header.length > maxFrameBytes := by
    rw [gt_iff_lt, UInt32.lt_iff_toNat_lt, fits.length_eq]
    exact not_lt.mpr permitted
  have total : kFrameHeaderBytes + (frame.payload.length + 32) =
      (encodeFrame sha256 frame).length := by
    rw [length_encodeFrame, add_assoc]
  have whole : ¬ ((encodeFrame sha256 frame ++ rest).drop kFrameHeaderBytes).length <
      frame.payload.length + 32 := by
    rw [List.length_drop, List.length_append, ← total]
    omega
  have decoded : decodeFrame sha256 (encodeFrame sha256 frame) =
      .ok (frame, (encodeFrame sha256 frame).length) := by
    have read := decodeFrame_append sha256 fits []
    rwa [List.append_nil] at read
  unfold readFrame
  rw [if_neg long, header]
  simp only [fits.length_eq, small, whole, total, List.take_left, decoded,
    List.drop_drop, List.drop_left, if_false]
  simp [Frame.header]

theorem readFrame_encodeFrame {maxFrameBytes : UInt32} {frame : Frame}
    (carried : frame.Carried maxFrameBytes) :
    readFrame sha256 maxFrameBytes (encodeFrame sha256 frame) = (.ok frame, []) := by
  have read := @readFrame_append sha256 _ _ carried []
  rwa [List.append_nil] at read

/-- The size of a frame that is read, the header it is read from, and the rest of
the stream. -/
theorem decodeFrame_of_readFrame {maxFrameBytes : UInt32} {frame : Frame}
    {stream rest : Bytes}
    (read : readFrame sha256 maxFrameBytes stream = (.ok frame, rest)) :
    ∃ header remainder total consumed,
      readFrameHeader (stream.take kFrameHeaderBytes) = .ok (header, remainder) ∧
      header.length.toNat ≤ maxFrameBytes.toNat ∧
      total = kFrameHeaderBytes + (header.length.toNat + 32) ∧
      total ≤ stream.length ∧
      decodeFrame sha256 (stream.take total) = .ok (frame, consumed) ∧
      rest = stream.drop total := by
  unfold readFrame at read
  by_cases short : stream.length < kFrameHeaderBytes
  · rw [if_pos short] at read
    cases read
  · rw [if_neg short] at read
    cases headed : readFrameHeader (stream.take kFrameHeaderBytes) with
    | error status =>
        rw [headed] at read
        cases read
    | ok pair =>
        obtain ⟨header, remainder⟩ := pair
        simp only [headed] at read
        split_ifs at read with magic version large incomplete
        · cases read
        · cases read
        · cases read
        · cases read
        · cases decoded : decodeFrame sha256
              (stream.take (kFrameHeaderBytes + (header.length.toNat + 32))) with
          | error status =>
              rw [decoded] at read
              cases read
          | ok result =>
              rw [decoded] at read
              cases read
              rw [gt_iff_lt, UInt32.lt_iff_toNat_lt, not_lt] at large
              rw [List.length_drop] at incomplete
              exact ⟨header, remainder, _, result.2, rfl, large, rfl, by omega,
                decoded, List.drop_drop⟩

theorem append_of_readFrame {maxFrameBytes : UInt32} {frame : Frame}
    {stream rest : Bytes}
    (read : readFrame sha256 maxFrameBytes stream = (.ok frame, rest)) :
    frame.Carried maxFrameBytes ∧ stream = encodeFrame sha256 frame ++ rest := by
  obtain ⟨header, remainder, total, consumed, headed, permitted, total_def, inside,
    decoded, rfl⟩ := decodeFrame_of_readFrame read
  obtain ⟨fits, length, front⟩ := append_of_decodeFrame decoded
  set trailer := (sha256 (encodeFrameBody frame)).bytes ++
    (stream.take total).drop consumed with trailer_def
  have spelled : stream.take total =
      encodeFrameHeader frame ++ (frame.payload ++ trailer) := by
    rw [front]
    simp [encodeFrame, encodeFrameBody, trailer_def]
  -- the header of the stream is the header of the decoded frame
  have same : header = frame.header := by
    have again := readFrameHeader_take frame (frame.payload ++ trailer)
    have taken : (stream.take total).take kFrameHeaderBytes =
        stream.take kFrameHeaderBytes := by
      rw [List.take_take, min_eq_left (by omega)]
    rw [← spelled, taken, headed, Except.ok.injEq, Prod.mk.injEq] at again
    exact again.1
  have payload : header.length.toNat = frame.payload.length := by
    rw [same, fits.length_eq]
  have used : consumed = total := by
    rw [length, length_encodeFrame, total_def, payload, add_assoc]
  have nothing : (stream.take total).drop consumed = [] := by
    rw [used]
    exact List.drop_of_length_le (List.length_take_le _ _)
  rw [nothing, List.append_nil] at front
  refine ⟨⟨payload ▸ permitted, fits⟩, ?_⟩
  rw [← front, List.take_append_drop]

/-- Reading a frame off a stream step by step agrees with decoding it off a
buffer, but for the reader's own limit. -/
theorem readFrame_agrees_decodeFrame (maxFrameBytes : UInt32) (stream : Bytes)
    (frame : Frame) (rest : Bytes) :
    readFrame sha256 maxFrameBytes stream = (.ok frame, rest) ↔
      ∃ consumed, decodeFrame sha256 stream = .ok (frame, consumed) ∧
        frame.payload.length ≤ maxFrameBytes.toNat ∧
        rest = stream.drop consumed := by
  constructor
  · intro read
    obtain ⟨⟨permitted, fits⟩, rfl⟩ := append_of_readFrame read
    exact ⟨_, decodeFrame_append sha256 fits rest, permitted, List.drop_left.symm⟩
  · rintro ⟨consumed, decoded, permitted, rfl⟩
    obtain ⟨fits, _, front⟩ := append_of_decodeFrame decoded
    have carried : frame.Carried maxFrameBytes := ⟨permitted, fits⟩
    have read := @readFrame_append sha256 _ _ carried (stream.drop consumed)
    rwa [← front] at read

end Streams

end OpticalPathPlanner
