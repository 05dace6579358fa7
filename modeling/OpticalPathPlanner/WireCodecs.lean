import OpticalPathPlanner.WireProtocol

/-!
# What the transport delivers

A buffer that holds whole frames decodes to exactly those frames, a frame
that is still incomplete asks for more bytes, and every payload decodes back
to its message while no part and no extension of it decodes at all.
-/

namespace OpticalPathPlanner

open ByteReaders

/-! ### Fields -/

theorem Digest256.ofBytes_bytes (digest : Digest256) :
    Digest256.ofBytes digest.bytes = digest := by
  cases digest with
  | mk value =>
      unfold Digest256.ofBytes Digest256.bytes
      rw [List.reverse_reverse, ofLittleEndian_littleEndian 32 value.toNat
        (lt_of_lt_of_eq value.isLt (by norm_num)), BitVec.ofNat_toNat,
        BitVec.setWidth_eq]

theorem IncarnationId.ofBytes_bytes (incarnation : IncarnationId) :
    IncarnationId.ofBytes incarnation.bytes = incarnation := by
  cases incarnation with
  | mk value =>
      unfold IncarnationId.ofBytes IncarnationId.bytes
      rw [List.reverse_reverse, ofLittleEndian_littleEndian 16 value.toNat
        (lt_of_lt_of_eq value.isLt (by norm_num)), BitVec.ofNat_toNat,
        BitVec.setWidth_eq]

@[simp]
theorem IncarnationId.length_bytes (incarnation : IncarnationId) :
    incarnation.bytes.length = 16 := by
  simp [IncarnationId.bytes]

namespace ByteWriter

@[simp]
theorem length_u32 (value : UInt32) : (u32 value).length = 4 := by
  simp [u32]

@[simp]
theorem length_u64 (value : UInt64) : (u64 value).length = 8 := by
  simp [u64]

@[simp]
theorem length_sized (content : Bytes) :
    (sized content).length = 4 + content.length := by
  simp [sized]

end ByteWriter

namespace ByteReader

theorem stable_take (count : Nat) : Stable (take count) :=
  ByteReaders.stable_take _ count

theorem stable_u8 : Stable u8 :=
  (stable_take 1).bind fun _ => Stable.pure _

theorem stable_u32 : Stable u32 :=
  (stable_take 4).bind fun _ => Stable.pure _

theorem stable_u64 : Stable u64 :=
  (stable_take 8).bind fun _ => Stable.pure _

theorem stable_bool : Stable bool :=
  stable_u8.bind fun _ => (Stable.throw _).ite (Stable.pure _)

theorem stable_sized : Stable sized :=
  stable_u32.bind fun _ => stable_take _

theorem stable_digest : Stable digest :=
  (stable_take 32).bind fun _ => Stable.pure _

theorem stable_incarnation : Stable incarnation :=
  (stable_take 16).bind fun _ => Stable.pure _

theorem reads_take {count : Nat} {bytes : Bytes} (full : bytes.length = count) :
    Reads (take count) bytes bytes :=
  ByteReaders.reads_take full

theorem reads_u32 (value : UInt32) : Reads u32 (ByteWriter.u32 value) value := by
  have number : ofLittleEndian (ByteWriter.u32 value) = value.toNat :=
    ofLittleEndian_littleEndian 4 _ (lt_of_lt_of_eq value.toNat_lt (by norm_num))
  have taken := (reads_take (ByteWriter.length_u32 value)).map
    fun slice => UInt32.ofNat (ofLittleEndian slice)
  rw [number, UInt32.ofNat_toNat] at taken
  exact taken

theorem reads_u64 (value : UInt64) : Reads u64 (ByteWriter.u64 value) value := by
  have number : ofLittleEndian (ByteWriter.u64 value) = value.toNat :=
    ofLittleEndian_littleEndian 8 _ (lt_of_lt_of_eq value.toNat_lt (by norm_num))
  have taken := (reads_take (ByteWriter.length_u64 value)).map
    fun slice => UInt64.ofNat (ofLittleEndian slice)
  rw [number, UInt64.ofNat_toNat] at taken
  exact taken

theorem reads_bool (value : Bool) : Reads bool (ByteWriter.bool value) value := by
  intro rest
  cases value <;> rfl

theorem reads_digest (value : Digest256) : Reads digest value.bytes value := by
  have taken := (reads_take value.length_bytes).map Digest256.ofBytes
  rw [value.ofBytes_bytes] at taken
  exact taken

theorem reads_incarnation (value : IncarnationId) :
    Reads incarnation value.bytes value := by
  have taken := (reads_take value.length_bytes).map IncarnationId.ofBytes
  rw [value.ofBytes_bytes] at taken
  exact taken

theorem reads_sized {content : Bytes} (short : content.length < 2 ^ 32) :
    Reads sized (ByteWriter.sized content) content := by
  refine Reads.bind (reads_u32 _) ?_
  have length : (UInt32.ofNat content.length).toNat = content.length :=
    UInt32.toNat_ofNat_of_lt' short
  exact reads_take length.symm

end ByteReader

/-! ### Frames -/

theorem length_encodeFrameHeader (frame : Frame) :
    (encodeFrameHeader frame).length = kFrameHeaderBytes := by
  simp [encodeFrameHeader, kFrameHeaderBytes]

/-- The header a frame is sent under. -/
def Frame.header (frame : Frame) : FrameHeader :=
  ⟨kFrameMagic, kProtocolVersion, frame.kind.number, frame.sequence,
    frame.epochPin, UInt32.ofNat frame.payload.length⟩

theorem reads_frameHeader (frame : Frame) :
    Reads readFrameHeader (encodeFrameHeader frame) frame.header := by
  refine Reads.bind (ByteReader.reads_u32 _) ?_
  refine Reads.bind (ByteReader.reads_u32 _) ?_
  refine Reads.bind (ByteReader.reads_u32 _) ?_
  refine Reads.bind (ByteReader.reads_u64 _) ?_
  refine Reads.bind (ByteReader.reads_u64 _) ?_
  exact Reads.bind (ByteReader.reads_u32 _) (Reads.pure _)

theorem take_header (frame : Frame) (rest : Bytes) :
    (encodeFrameHeader frame ++ rest).take kFrameHeaderBytes =
      encodeFrameHeader frame := by
  rw [← length_encodeFrameHeader frame, List.take_left]

theorem readFrameHeader_take (frame : Frame) (rest : Bytes) :
    readFrameHeader ((encodeFrameHeader frame ++ rest).take kFrameHeaderBytes) =
      .ok (frame.header, []) := by
  rw [take_header]
  have read := reads_frameHeader frame []
  rwa [List.append_nil] at read

/-- A frame whose payload the transport carries. -/
def Frame.Fits (frame : Frame) : Prop := frame.payload.length ≤ kMaxFrameBytes

theorem Frame.Fits.length_eq {frame : Frame} (fits : frame.Fits) :
    frame.header.length.toNat = frame.payload.length := by
  unfold Frame.Fits kMaxFrameBytes at fits
  exact UInt32.toNat_ofNat_of_lt' (by change _ < 2 ^ 32; omega)

/-- The size of a frame is known as soon as its header is there. -/
theorem frameSize_of_header {frame : Frame} (fits : frame.Fits) (rest : Bytes) :
    frameSize (encodeFrameHeader frame ++ rest) =
      if rest.length < frame.payload.length + 32 then
        .error (failure .notFound (text "frame body is incomplete"))
      else .ok (kFrameHeaderBytes + frame.payload.length + 32) := by
  have long : ¬ (encodeFrameHeader frame ++ rest).length < kFrameHeaderBytes := by
    rw [List.length_append, length_encodeFrameHeader]
    omega
  have total : (encodeFrameHeader frame ++ rest).length <
      kFrameHeaderBytes + frame.payload.length + 32 ↔
        rest.length < frame.payload.length + 32 := by
    rw [List.length_append, length_encodeFrameHeader]
    omega
  have bounded : ¬ frame.payload.length > kMaxFrameBytes := not_lt.mpr fits
  unfold frameSize
  rw [if_neg long, readFrameHeader_take]
  simp only [fits.length_eq, bounded, total, if_false]
  rw [if_neg (by simp [Frame.header])]

section Frames

variable (sha256 : Bytes → Digest256)

theorem length_encodeFrame (frame : Frame) :
    (encodeFrame sha256 frame).length =
      kFrameHeaderBytes + frame.payload.length + 32 := by
  simp [encodeFrame, encodeFrameBody, length_encodeFrameHeader, add_assoc]

/-- A whole frame decodes off the front of a buffer. -/
theorem decodeFrame_append {frame : Frame} (fits : frame.Fits) (rest : Bytes) :
    decodeFrame sha256 (encodeFrame sha256 frame ++ rest) =
      .ok (frame, (encodeFrame sha256 frame).length) := by
  set checksum := (sha256 (encodeFrameBody frame)).bytes with checksum_def
  have checksumLength : checksum.length = 32 := Digest256.length_bytes _
  have bodyLength : (encodeFrameBody frame).length =
      kFrameHeaderBytes + frame.payload.length := by
    simp [encodeFrameBody, length_encodeFrameHeader]
  have spelled : encodeFrame sha256 frame ++ rest =
      encodeFrameHeader frame ++ (frame.payload ++ (checksum ++ rest)) := by
    simp [encodeFrame, encodeFrameBody, checksum_def]
  have body : encodeFrameHeader frame ++ (frame.payload ++ (checksum ++ rest)) =
      encodeFrameBody frame ++ (checksum ++ rest) := by
    simp [encodeFrameBody]
  have size : frameSize (encodeFrame sha256 frame ++ rest) =
      .ok (kFrameHeaderBytes + frame.payload.length + 32) := by
    rw [spelled, frameSize_of_header fits, if_neg]
    simp [checksumLength]
  have signed : (encodeFrame sha256 frame ++ rest).take
      (kFrameHeaderBytes + frame.payload.length + 32 - 32) =
        encodeFrameBody frame := by
    rw [spelled, body, Nat.add_sub_cancel, ← bodyLength, List.take_left]
  have trailer : ((encodeFrame sha256 frame ++ rest).drop
      (kFrameHeaderBytes + frame.payload.length + 32 - 32)).take 32 = checksum := by
    rw [spelled, body, Nat.add_sub_cancel, ← bodyLength, List.drop_left,
      ← checksumLength, List.take_left]
  have payload : ((encodeFrame sha256 frame ++ rest).drop
      kFrameHeaderBytes).take frame.header.length.toNat = frame.payload := by
    rw [spelled, ← length_encodeFrameHeader frame, List.drop_left,
      fits.length_eq, List.take_left]
  have header : readFrameHeader
      ((encodeFrame sha256 frame ++ rest).take kFrameHeaderBytes) =
        .ok (frame.header, []) := by
    rw [spelled, readFrameHeader_take]
  unfold decodeFrame
  rw [size]
  simp only [signed, trailer, header, payload, length_encodeFrame]
  simp [checksum_def, Frame.header]

/-- A frame that is not complete asks for more bytes. -/
theorem decodeFrame_incomplete {frame : Frame} (fits : frame.Fits) {cut : Bytes}
    (cutOf : cut <+: encodeFrame sha256 frame)
    (proper : cut ≠ encodeFrame sha256 frame) :
    ∃ detail, decodeFrame sha256 cut = .error (failure .notFound detail) := by
  have shorter : cut.length < (encodeFrame sha256 frame).length := by
    rcases lt_or_eq_of_le cutOf.length_le with short | same
    · exact short
    · exact (proper (cutOf.eq_of_length same)).elim
  rw [length_encodeFrame] at shorter
  unfold decodeFrame
  by_cases headed : cut.length < kFrameHeaderBytes
  · refine ⟨text "frame header is incomplete", ?_⟩
    rw [frameSize, if_pos headed]
  · refine ⟨text "frame body is incomplete", ?_⟩
    have starts : encodeFrameHeader frame <+: cut := by
      have ofFrame : encodeFrameHeader frame <+: encodeFrame sha256 frame := by
        rw [encodeFrame, encodeFrameBody, List.append_assoc]
        exact List.prefix_append _ _
      apply List.prefix_of_prefix_length_le ofFrame cutOf
      rw [length_encodeFrameHeader]
      omega
    obtain ⟨rest, rfl⟩ := starts
    rw [List.length_append, length_encodeFrameHeader] at shorter
    rw [frameSize_of_header fits, if_pos (by omega)]

/-- A buffer of whole frames drains to those frames. -/
theorem drainFrames_flatMap {frames : List Frame}
    (fits : ∀ frame ∈ frames, frame.Fits) {fuel : Nat}
    (enough : frames.length ≤ fuel) :
    drainFrames sha256 fuel (frames.flatMap (encodeFrame sha256)) =
      (frames, []) := by
  induction frames generalizing fuel with
  | nil =>
      cases fuel with
      | zero => rfl
      | succ fuel =>
          have empty : decodeFrame sha256 [] =
              .error (failure .notFound (text "frame header is incomplete")) := rfl
          rw [List.flatMap_nil, drainFrames, empty]
  | cons frame rest ih =>
      cases fuel with
      | zero => cases enough
      | succ fuel =>
          have drained := ih (fun other member =>
            fits other (List.mem_cons_of_mem frame member))
            (Nat.le_of_succ_le_succ enough)
          rw [List.flatMap_cons, drainFrames,
            decodeFrame_append sha256 (fits frame List.mem_cons_self)]
          simp only [List.drop_left, drained]

theorem length_le_flatMap (frames : List Frame) :
    frames.length ≤ (frames.flatMap (encodeFrame sha256)).length := by
  induction frames with
  | nil => exact Nat.le_refl 0
  | cons frame rest ih =>
      rw [List.flatMap_cons, List.length_append, length_encodeFrame,
        List.length_cons]
      omega

end Frames

/-! ### Payloads -/

/-- Bytes that fit in the payload of a frame. -/
def FitsFrame (payload : Bytes) : Prop := payload.length ≤ kMaxFrameBytes

/-- A sized field of a payload that fits in a frame has a 32-bit length. -/
theorem FitsFrame.sized_lt {fields : List Bytes} {content : Bytes}
    (fits : FitsFrame fields.flatten)
    (field : ByteWriter.sized content ∈ fields) : content.length < 2 ^ 32 := by
  have part := (List.sublist_flatten_of_mem field).length_le
  rw [ByteWriter.length_sized] at part
  unfold FitsFrame kMaxFrameBytes at fits
  omega

theorem reads_snapshotId {id : SnapshotId} (valid : isValidIdText id.str = true)
    (short : id.str.length < 2 ^ 32) :
    Reads readSnapshotId (ByteWriter.sized id.str) id := by
  rw [← List.append_nil (ByteWriter.sized id.str)]
  refine Reads.bind (ByteReader.reads_sized short) ?_
  rw [StrongId.parse, if_pos valid]
  exact Reads.pure id

theorem stable_snapshotId : Stable readSnapshotId := by
  refine ByteReader.stable_sized.bind fun id => ?_
  cases StrongId.parse .snapshot id with
  | ok snapshotId => exact Stable.pure _
  | error status => exact Stable.throw _

theorem reads_optionalSnapshotId {id : SnapshotId}
    (valid : id.empty = true ∨ isValidIdText id.str = true)
    (short : id.str.length < 2 ^ 32) :
    Reads readOptionalSnapshotId (ByteWriter.sized id.str) id := by
  rw [← List.append_nil (ByteWriter.sized id.str)]
  refine Reads.bind (ByteReader.reads_sized short) ?_
  cases isEmpty : id.str.isEmpty with
  | true =>
      have none : id = ⟨[]⟩ :=
        StrongId.str_injective (List.isEmpty_iff.mp isEmpty)
      rw [none]
      exact Reads.pure _
  | false =>
      have named : isValidIdText id.str = true := by
        rcases valid with absent | named
        · rw [StrongId.empty, isEmpty] at absent
          cases absent
        · exact named
      rw [StrongId.parse, if_pos named]
      exact Reads.pure id

theorem stable_optionalSnapshotId : Stable readOptionalSnapshotId := by
  refine ByteReader.stable_sized.bind fun id => (Stable.pure _).ite ?_
  cases StrongId.parse .snapshot id with
  | ok snapshotId => exact Stable.pure _
  | error status => exact Stable.throw _

theorem reads_validity (validity : PlanValidity) :
    Reads readValidity (ByteWriter.u32 (UInt32.ofNat validity.number)) validity := by
  rw [← List.append_nil (ByteWriter.u32 _)]
  refine Reads.bind (ByteReader.reads_u32 _) ?_
  cases validity <;> exact Reads.pure _

theorem stable_validity : Stable readValidity := by
  refine ByteReader.stable_u32.bind fun number => ?_
  cases PlanValidity.all[number.toNat]? with
  | some validity => exact Stable.pure _
  | none => exact Stable.throw _

/-- A listed field takes its own bytes when it has at most the permitted
number of entries. -/
theorem reads_listed {α : Type} {reader : ByteReader α} {spell : α → Bytes}
    {what : String} {values : List α} (bounded : values.length ≤ kMaxStoredPlans)
    (reads : ∀ value ∈ values, Reads reader (spell value) value) :
    Reads (readListed reader what)
      (ByteWriter.u32 (UInt32.ofNat values.length) ++ values.flatMap spell)
      values := by
  have count : (UInt32.ofNat values.length).toNat = values.length := by
    unfold kMaxStoredPlans at bounded
    exact UInt32.toNat_ofNat_of_lt' (by change _ < 2 ^ 32; omega)
  refine Reads.bind (ByteReader.reads_u32 _) ?_
  rw [count, if_neg (not_lt.mpr bounded)]
  exact reads_many reads

theorem stable_listed {α : Type} {reader : ByteReader α} {what : String}
    (stable : Stable reader) : Stable (readListed reader what) :=
  ByteReader.stable_u32.bind fun _ =>
    (Stable.throw _).ite (stable_many stable _)

theorem hello_exact {message : HelloMessage}
    (fits : FitsFrame (encodeHello message)) :
    Exact decodeHello (encodeHello message) message := by
  refine Reads.exact_ ?_ ?_
  · refine Reads.bind (ByteReader.reads_u32 _) ?_
    exact Reads.bind (ByteReader.reads_sized (fits.sized_lt (by simp))) (Reads.pure _)
  · exact ByteReader.stable_u32.bind fun _ =>
      ByteReader.stable_sized.bind fun _ => Stable.pure _

theorem helloAck_exact {message : HelloAckMessage}
    (fits : FitsFrame (encodeHelloAck message))
    (id : message.snapshotId.empty = true ∨
      isValidIdText message.snapshotId.str = true) :
    Exact decodeHelloAck (encodeHelloAck message) message := by
  refine Reads.exact_ ?_ ?_
  · refine Reads.bind (ByteReader.reads_u32 _) ?_
    refine Reads.bind (ByteReader.reads_sized (fits.sized_lt (by simp))) ?_
    refine Reads.bind (ByteReader.reads_incarnation _) ?_
    refine Reads.bind (ByteReader.reads_u64 _) ?_
    refine Reads.bind (ByteReader.reads_bool _) ?_
    refine Reads.bind (ByteReader.reads_bool _) ?_
    refine Reads.bind (ByteReader.reads_bool _) ?_
    refine Reads.bind (reads_optionalSnapshotId id (fits.sized_lt (by simp))) ?_
    refine Reads.bind (ByteReader.reads_u64 _) ?_
    exact Reads.bind (ByteReader.reads_digest _) (Reads.pure _)
  · refine ByteReader.stable_u32.bind fun _ => ?_
    refine ByteReader.stable_sized.bind fun _ => ?_
    refine ByteReader.stable_incarnation.bind fun _ => ?_
    refine ByteReader.stable_u64.bind fun _ => ?_
    refine ByteReader.stable_bool.bind fun _ => ?_
    refine ByteReader.stable_bool.bind fun _ => ?_
    refine ByteReader.stable_bool.bind fun _ => ?_
    refine stable_optionalSnapshotId.bind fun _ => ?_
    refine ByteReader.stable_u64.bind fun _ => ?_
    exact ByteReader.stable_digest.bind fun _ => Stable.pure _

theorem ingest_exact {message : IngestMessage}
    (fits : FitsFrame (encodeIngest message)) :
    Exact decodeIngest (encodeIngest message) message := by
  refine Reads.exact_ ?_ ?_
  · refine Reads.bind (ByteReader.reads_digest _) ?_
    exact Reads.bind (ByteReader.reads_sized (fits.sized_lt (by simp))) (Reads.pure _)
  · exact ByteReader.stable_digest.bind fun _ =>
      ByteReader.stable_sized.bind fun _ => Stable.pure _

theorem ingestAck_exact {message : IngestAckMessage}
    (fits : FitsFrame (encodeIngestAck message))
    (id : isValidIdText message.snapshotId.str = true) :
    Exact decodeIngestAck (encodeIngestAck message) message := by
  refine Reads.exact_ ?_ ?_
  · refine Reads.bind (reads_snapshotId id (fits.sized_lt (by simp))) ?_
    refine Reads.bind (ByteReader.reads_u64 _) ?_
    exact Reads.bind (ByteReader.reads_digest _) (Reads.pure _)
  · refine stable_snapshotId.bind fun _ => ?_
    refine ByteReader.stable_u64.bind fun _ => ?_
    exact ByteReader.stable_digest.bind fun _ => Stable.pure _

theorem plan_exact {message : PlanMessage}
    (fits : FitsFrame (encodePlan message)) :
    Exact decodePlan (encodePlan message) message := by
  refine Reads.exact_ ?_ ?_
  · refine Reads.bind (ByteReader.reads_u64 _) ?_
    exact Reads.bind (ByteReader.reads_sized (fits.sized_lt (by simp))) (Reads.pure _)
  · exact ByteReader.stable_u64.bind fun _ =>
      ByteReader.stable_sized.bind fun _ => Stable.pure _

theorem planAck_exact {message : PlanAckMessage}
    (fits : FitsFrame (encodePlanAck message)) :
    Exact decodePlanAck (encodePlanAck message) message := by
  refine Reads.exact_ ?_ ?_
  · exact Reads.bind (ByteReader.reads_sized (fits.sized_lt (by simp))) (Reads.pure _)
  · exact ByteReader.stable_sized.bind fun _ => Stable.pure _

theorem validate_exact {message : ValidateMessage}
    (fits : FitsFrame (encodeValidate message)) :
    Exact decodeValidate (encodeValidate message) message := by
  refine Reads.exact_ ?_ ?_
  · refine Reads.bind (ByteReader.reads_bool _) ?_
    refine Reads.bind (ByteReader.reads_bool _) ?_
    exact Reads.bind (ByteReader.reads_sized (fits.sized_lt (by simp))) (Reads.pure _)
  · refine ByteReader.stable_bool.bind fun _ => ?_
    refine ByteReader.stable_bool.bind fun _ => ?_
    exact ByteReader.stable_sized.bind fun _ => Stable.pure _

theorem validateAck_exact {message : ValidateAckMessage}
    (fits : FitsFrame (encodeValidateAck message)) :
    Exact decodeValidateAck (encodeValidateAck message) message := by
  refine Reads.exact_ ?_ ?_
  · refine Reads.bind (reads_validity _) ?_
    exact Reads.bind (ByteReader.reads_sized (fits.sized_lt (by simp))) (Reads.pure _)
  · exact stable_validity.bind fun _ =>
      ByteReader.stable_sized.bind fun _ => Stable.pure _

theorem getPlan_exact (message : GetPlanMessage) :
    Exact decodeGetPlan (encodeGetPlan message) message := by
  refine Reads.exact_ ?_ ?_
  · exact Reads.bind (ByteReader.reads_digest _) (Reads.pure _)
  · exact ByteReader.stable_digest.bind fun _ => Stable.pure _

theorem getPlanAck_exact {message : GetPlanAckMessage}
    (fits : FitsFrame (encodeGetPlanAck message)) :
    Exact decodeGetPlanAck (encodeGetPlanAck message) message := by
  refine Reads.exact_ ?_ ?_
  · refine Reads.bind (ByteReader.reads_digest _) ?_
    exact Reads.bind (ByteReader.reads_sized (fits.sized_lt (by simp))) (Reads.pure _)
  · exact ByteReader.stable_digest.bind fun _ =>
      ByteReader.stable_sized.bind fun _ => Stable.pure _

theorem storeListAck_exact {message : StoreListAckMessage}
    (fits : FitsFrame (encodeStoreListAck message))
    (digests : message.digests.length ≤ kMaxStoredPlans)
    (rejected : message.rejectedFiles.length ≤ kMaxStoredPlans) :
    Exact decodeStoreListAck (encodeStoreListAck message) message := by
  have readsNames : ∀ name ∈ message.rejectedFiles,
      Reads ByteReader.sized (ByteWriter.sized name) name := by
    intro name member
    apply ByteReader.reads_sized
    have field := List.sublist_flatten_of_mem
      (List.mem_map_of_mem member : ByteWriter.sized name ∈
        message.rejectedFiles.map ByteWriter.sized)
    rw [← List.flatMap_def] at field
    have part := field.length_le.trans (List.sublist_flatten_of_mem
      (show message.rejectedFiles.flatMap ByteWriter.sized ∈
        [ByteWriter.u32 (UInt32.ofNat message.digests.length),
          message.digests.flatMap Digest256.bytes,
          ByteWriter.u32 (UInt32.ofNat message.rejectedFiles.length),
          message.rejectedFiles.flatMap ByteWriter.sized] by simp)).length_le
    rw [ByteWriter.length_sized] at part
    unfold FitsFrame kMaxFrameBytes at fits
    exact lt_of_lt_of_le (Nat.lt_succ_of_le (le_of_add_le_right part))
      (Nat.succ_le_of_lt (lt_of_le_of_lt fits (by norm_num)))
  have spelled : encodeStoreListAck message =
      (ByteWriter.u32 (UInt32.ofNat message.digests.length) ++
        message.digests.flatMap Digest256.bytes) ++
      ((ByteWriter.u32 (UInt32.ofNat message.rejectedFiles.length) ++
        message.rejectedFiles.flatMap ByteWriter.sized) ++ []) := by
    simp [encodeStoreListAck]
  refine Reads.exact_ ?_ ?_
  · rw [spelled]
    refine Reads.bind (reads_listed digests
      fun digest _ => ByteReader.reads_digest digest) ?_
    exact Reads.bind (reads_listed rejected readsNames) (Reads.pure _)
  · exact (stable_listed ByteReader.stable_digest).bind fun _ =>
      (stable_listed ByteReader.stable_sized).bind fun _ => Stable.pure _

theorem cancel_exact (message : CancelMessage) :
    Exact decodeCancel (encodeCancel message) message := by
  refine Reads.exact_ ?_ ?_
  · exact Reads.bind (ByteReader.reads_u64 _) (Reads.pure _)
  · exact ByteReader.stable_u64.bind fun _ => Stable.pure _

theorem cancelAck_exact (message : CancelAckMessage) :
    Exact decodeCancelAck (encodeCancelAck message) message := by
  refine Reads.exact_ ?_ ?_
  · exact Reads.bind (ByteReader.reads_bool _) (Reads.pure _)
  · exact ByteReader.stable_bool.bind fun _ => Stable.pure _

theorem statsAck_exact (message : StatsAckMessage) :
    Exact decodeStatsAck (encodeStatsAck message) message := by
  refine Reads.exact_ ?_ ?_
  · refine Reads.bind (ByteReader.reads_incarnation _) ?_
    refine Reads.bind (ByteReader.reads_u64 _) ?_
    refine Reads.bind (ByteReader.reads_u64 _) ?_
    refine Reads.bind (ByteReader.reads_u64 _) ?_
    refine Reads.bind (ByteReader.reads_u64 _) ?_
    refine Reads.bind (ByteReader.reads_u64 _) ?_
    refine Reads.bind (ByteReader.reads_u64 _) ?_
    refine Reads.bind (ByteReader.reads_u64 _) ?_
    refine Reads.bind (ByteReader.reads_u64 _) ?_
    refine Reads.bind (ByteReader.reads_u64 _) ?_
    refine Reads.bind (ByteReader.reads_u64 _) ?_
    exact Reads.bind (ByteReader.reads_u64 _) (Reads.pure _)
  · refine ByteReader.stable_incarnation.bind fun _ => ?_
    refine ByteReader.stable_u64.bind fun _ => ?_
    refine ByteReader.stable_u64.bind fun _ => ?_
    refine ByteReader.stable_u64.bind fun _ => ?_
    refine ByteReader.stable_u64.bind fun _ => ?_
    refine ByteReader.stable_u64.bind fun _ => ?_
    refine ByteReader.stable_u64.bind fun _ => ?_
    refine ByteReader.stable_u64.bind fun _ => ?_
    refine ByteReader.stable_u64.bind fun _ => ?_
    refine ByteReader.stable_u64.bind fun _ => ?_
    refine ByteReader.stable_u64.bind fun _ => ?_
    exact ByteReader.stable_u64.bind fun _ => Stable.pure _

theorem failure_exact {message : FailureMessage}
    (fits : FitsFrame (encodeFailure message)) :
    Exact decodeFailure (encodeFailure message) message := by
  refine Reads.exact_ ?_ ?_
  · refine Reads.bind (ByteReader.reads_u32 _) ?_
    exact Reads.bind (ByteReader.reads_sized (fits.sized_lt (by simp))) (Reads.pure _)
  · exact ByteReader.stable_u32.bind fun _ =>
      ByteReader.stable_sized.bind fun _ => Stable.pure _

/-! ### The transport as a whole -/

/-- Streams of frames drain to the frames that were sent, a frame that is cut
anywhere asks for more bytes, and the decoder of every payload is exact on
the messages within its bounds. -/
structure WireExact (sha256 : Bytes → Digest256) : Prop where
  stream : ∀ frames : List Frame, (∀ frame ∈ frames, frame.Fits) →
    drainFrames sha256 (frames.flatMap (encodeFrame sha256)).length
      (frames.flatMap (encodeFrame sha256)) = (frames, [])
  incomplete : ∀ frame : Frame, frame.Fits → ∀ cut,
    cut <+: encodeFrame sha256 frame → cut ≠ encodeFrame sha256 frame →
      ∃ detail, decodeFrame sha256 cut = .error (failure .notFound detail)
  hello : ∀ message, FitsFrame (encodeHello message) →
    Exact decodeHello (encodeHello message) message
  helloAck : ∀ message, FitsFrame (encodeHelloAck message) →
    (message.snapshotId.empty = true ∨
      isValidIdText message.snapshotId.str = true) →
    Exact decodeHelloAck (encodeHelloAck message) message
  ingest : ∀ message, FitsFrame (encodeIngest message) →
    Exact decodeIngest (encodeIngest message) message
  ingestAck : ∀ message, FitsFrame (encodeIngestAck message) →
    isValidIdText message.snapshotId.str = true →
    Exact decodeIngestAck (encodeIngestAck message) message
  plan : ∀ message, FitsFrame (encodePlan message) →
    Exact decodePlan (encodePlan message) message
  planAck : ∀ message, FitsFrame (encodePlanAck message) →
    Exact decodePlanAck (encodePlanAck message) message
  validate : ∀ message, FitsFrame (encodeValidate message) →
    Exact decodeValidate (encodeValidate message) message
  validateAck : ∀ message, FitsFrame (encodeValidateAck message) →
    Exact decodeValidateAck (encodeValidateAck message) message
  getPlan : ∀ message, Exact decodeGetPlan (encodeGetPlan message) message
  getPlanAck : ∀ message, FitsFrame (encodeGetPlanAck message) →
    Exact decodeGetPlanAck (encodeGetPlanAck message) message
  storeListAck : ∀ message, FitsFrame (encodeStoreListAck message) →
    message.digests.length ≤ kMaxStoredPlans →
    message.rejectedFiles.length ≤ kMaxStoredPlans →
    Exact decodeStoreListAck (encodeStoreListAck message) message
  cancel : ∀ message, Exact decodeCancel (encodeCancel message) message
  cancelAck : ∀ message, Exact decodeCancelAck (encodeCancelAck message) message
  statsAck : ∀ message, Exact decodeStatsAck (encodeStatsAck message) message
  failed : ∀ message, FitsFrame (encodeFailure message) →
    Exact decodeFailure (encodeFailure message) message

theorem wire_exact (sha256 : Bytes → Digest256) : WireExact sha256 where
  stream frames fits :=
    drainFrames_flatMap sha256 fits (length_le_flatMap sha256 frames)
  incomplete _ fits _ cutOf proper :=
    decodeFrame_incomplete sha256 fits cutOf proper
  hello _ fits := hello_exact fits
  helloAck _ fits id := helloAck_exact fits id
  ingest _ fits := ingest_exact fits
  ingestAck _ fits id := ingestAck_exact fits id
  plan _ fits := plan_exact fits
  planAck _ fits := planAck_exact fits
  validate _ fits := validate_exact fits
  validateAck _ fits := validateAck_exact fits
  getPlan := getPlan_exact
  getPlanAck _ fits := getPlanAck_exact fits
  storeListAck _ fits digests rejected :=
    storeListAck_exact fits digests rejected
  cancel := cancel_exact
  cancelAck := cancelAck_exact
  statsAck := statsAck_exact
  failed _ fits := failure_exact fits

end OpticalPathPlanner
