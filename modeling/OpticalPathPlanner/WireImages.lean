import OpticalPathPlanner.ByteSpellings
import OpticalPathPlanner.TokenCodecs
import OpticalPathPlanner.WireCodecs

/-!
# Bytes that the transport accepts

A frame or a payload that is accepted is the encoding of what was read off it.
No message therefore has a second spelling: bytes and messages determine each
other, and a buffer drains to the frames whose encodings it starts with.
-/

namespace OpticalPathPlanner

open ByteReaders

/-! ### Fields -/

theorem Digest256.bytes_ofBytes {bytes : Bytes} (full : bytes.length = 32) :
    (Digest256.ofBytes bytes).bytes = bytes := by
  have length : bytes.reverse.length = 32 := by rw [List.length_reverse, full]
  have small := ofLittleEndian_lt bytes.reverse
  rw [length] at small
  have number : (BitVec.ofNat 256 (ofLittleEndian bytes.reverse)).toNat =
      ofLittleEndian bytes.reverse := by
    rw [BitVec.toNat_ofNat]
    exact Nat.mod_eq_of_lt (lt_of_lt_of_eq small (by norm_num))
  have spelled := littleEndian_ofLittleEndian bytes.reverse
  rw [length] at spelled
  rw [Digest256.bytes, Digest256.ofBytes, number, spelled, List.reverse_reverse]

theorem IncarnationId.bytes_ofBytes {bytes : Bytes} (full : bytes.length = 16) :
    (IncarnationId.ofBytes bytes).bytes = bytes := by
  have length : bytes.reverse.length = 16 := by rw [List.length_reverse, full]
  have small := ofLittleEndian_lt bytes.reverse
  rw [length] at small
  have number : (BitVec.ofNat 128 (ofLittleEndian bytes.reverse)).toNat =
      ofLittleEndian bytes.reverse := by
    rw [BitVec.toNat_ofNat]
    exact Nat.mod_eq_of_lt (lt_of_lt_of_eq small (by norm_num))
  have spelled := littleEndian_ofLittleEndian bytes.reverse
  rw [length] at spelled
  rw [IncarnationId.bytes, IncarnationId.ofBytes, number, spelled,
    List.reverse_reverse]

namespace ByteReader

theorem take_spells {count : Nat} {bytes slice rest : Bytes}
    (read : take count bytes = .ok (slice, rest)) :
    slice.length = count ∧ bytes = slice ++ rest :=
  spells_take _ _ _ _ _ read

/-- A field of a fixed number of bytes, from which its value is made. -/
theorem spells_of_take {α : Type} {count : Nat} {make : Bytes → α}
    {spell : α → Bytes}
    (spelled : ∀ slice : Bytes, slice.length = count → spell (make slice) = slice) :
    Spells (take count >>= fun slice => Pure.pure (make slice)) spell := by
  intro bytes value rest read
  obtain ⟨slice, middle, taken, made⟩ := ByteReaders.bind_eq_ok_iff.mp read
  cases made
  obtain ⟨length, front⟩ := take_spells taken
  rw [List.nil_append, front, spelled slice length]

theorem spells_u32 : Spells u32 ByteWriter.u32 := by
  refine spells_of_take fun slice length => ?_
  have small := ofLittleEndian_lt slice
  rw [length] at small
  have spelled := littleEndian_ofLittleEndian slice
  rw [length] at spelled
  rw [ByteWriter.u32, UInt32.toNat_ofNat_of_lt' (lt_of_lt_of_eq small (by decide)),
    spelled]

theorem spells_u64 : Spells u64 ByteWriter.u64 := by
  refine spells_of_take fun slice length => ?_
  have small := ofLittleEndian_lt slice
  rw [length] at small
  have spelled := littleEndian_ofLittleEndian slice
  rw [length] at spelled
  rw [ByteWriter.u64, UInt64.toNat_ofNat_of_lt' (lt_of_lt_of_eq small (by decide)),
    spelled]

theorem spells_digest : Spells digest Digest256.bytes :=
  spells_of_take fun _ length => Digest256.bytes_ofBytes length

theorem spells_incarnation : Spells incarnation IncarnationId.bytes :=
  spells_of_take fun _ length => IncarnationId.bytes_ofBytes length

theorem spells_u8 : Spells u8 (fun value => [value]) := by
  refine spells_of_take fun slice length => ?_
  obtain ⟨byte, rfl⟩ := List.length_eq_one_iff.mp length
  simp [ofLittleEndian]

theorem spells_bool : Spells bool ByteWriter.bool := by
  refine spells_u8.bind fun value => ?_
  refine SpellsAfter.ite (fun _ => SpellsAfter.throw _) fun small => ?_
  refine SpellsAfter.pure ?_
  have binary : value = 0 ∨ value = 1 := by
    rw [gt_iff_lt, UInt8.lt_iff_toNat_lt, not_lt] at small
    rcases Nat.le_one_iff_eq_zero_or_eq_one.mp small with zero | one
    · exact .inl (UInt8.toNat_inj.mp zero)
    · exact .inr (UInt8.toNat_inj.mp one)
  rcases binary with rfl | rfl <;> rfl

theorem spells_sized : Spells sized ByteWriter.sized := by
  refine spells_u32.bind fun length => ?_
  intro bytes content rest read
  obtain ⟨full, front⟩ := take_spells read
  rw [front, ByteWriter.sized, full, UInt32.ofNat_toNat, List.append_assoc]

end ByteReader

theorem spells_snapshotId :
    Spells readSnapshotId (fun id => ByteWriter.sized id.str) := by
  refine ByteReader.spells_sized.bind fun content => ?_
  cases parsed : StrongId.parse .snapshot content with
  | error status => exact SpellsAfter.throw _
  | ok id =>
      refine SpellsAfter.pure ?_
      rw [(StrongId.parse_eq_ok_iff.mp parsed).1]

theorem spells_optionalSnapshotId :
    Spells readOptionalSnapshotId (fun id => ByteWriter.sized id.str) := by
  refine ByteReader.spells_sized.bind fun content => ?_
  refine SpellsAfter.ite (fun empty => SpellsAfter.pure ?_) fun _ => ?_
  · rw [List.isEmpty_iff.mp empty]
  · cases parsed : StrongId.parse .snapshot content with
    | error status => exact SpellsAfter.throw _
    | ok id =>
        refine SpellsAfter.pure ?_
        rw [(StrongId.parse_eq_ok_iff.mp parsed).1]

theorem spells_validity :
    Spells readValidity
      (fun validity => ByteWriter.u32 (UInt32.ofNat validity.number)) := by
  refine ByteReader.spells_u32.bind fun number => ?_
  cases found : PlanValidity.all[number.toNat]? with
  | none => exact SpellsAfter.throw _
  | some validity =>
      refine SpellsAfter.pure ?_
      have position : validity.number = number.toNat := by
        obtain ⟨inside, rfl⟩ := List.getElem?_eq_some_iff.mp found
        have nodup : PlanValidity.all.Nodup := by decide
        exact nodup.idxOf_getElem _ inside
      rw [position, UInt32.ofNat_toNat]

theorem spells_listed {α : Type} {reader : ByteReader α} {spell : α → Bytes}
    {what : String} (spells : Spells reader spell) :
    Spells (readListed reader what) (fun values =>
      ByteWriter.u32 (UInt32.ofNat values.length) ++ values.flatMap spell) := by
  refine ByteReader.spells_u32.bind fun count => ?_
  refine SpellsAfter.ite (fun _ => SpellsAfter.throw _) fun _ => ?_
  intro bytes values rest read
  obtain ⟨length, front⟩ := spells.many _ _ _ _ read
  rw [front]
  change _ = (ByteWriter.u32 (UInt32.ofNat values.length) ++
    values.flatMap spell) ++ rest
  rw [length, UInt32.ofNat_toNat, List.append_assoc]

/-! ### Payloads -/

theorem spells_hello : Spells readHello encodeHello := by
  refine ByteReader.spells_u32.bind fun _ => ?_
  exact ByteReader.spells_sized.map fun _ => by simp [encodeHello]

theorem spells_helloAck : Spells readHelloAck encodeHelloAck := by
  refine ByteReader.spells_u32.bind fun _ => ?_
  refine SpellsAfter.bind ByteReader.spells_sized fun _ => ?_
  refine SpellsAfter.bind ByteReader.spells_incarnation fun _ => ?_
  refine SpellsAfter.bind ByteReader.spells_u64 fun _ => ?_
  refine SpellsAfter.bind ByteReader.spells_bool fun _ => ?_
  refine SpellsAfter.bind ByteReader.spells_bool fun _ => ?_
  refine SpellsAfter.bind ByteReader.spells_bool fun _ => ?_
  refine SpellsAfter.bind spells_optionalSnapshotId fun _ => ?_
  refine SpellsAfter.bind ByteReader.spells_u64 fun _ => ?_
  exact ByteReader.spells_digest.map fun _ => by simp [encodeHelloAck]

theorem spells_ingest : Spells readIngest encodeIngest := by
  refine ByteReader.spells_digest.bind fun _ => ?_
  exact ByteReader.spells_sized.map fun _ => by simp [encodeIngest]

theorem spells_ingestAck : Spells readIngestAck encodeIngestAck := by
  refine spells_snapshotId.bind fun _ => ?_
  refine SpellsAfter.bind ByteReader.spells_u64 fun _ => ?_
  exact ByteReader.spells_digest.map fun _ => by simp [encodeIngestAck]

theorem spells_plan : Spells readPlan encodePlan := by
  refine ByteReader.spells_u64.bind fun _ => ?_
  exact ByteReader.spells_sized.map fun _ => by simp [encodePlan]

theorem spells_planAck : Spells readPlanAck encodePlanAck :=
  ByteReader.spells_sized.map fun _ => by simp [encodePlanAck]

theorem spells_validate : Spells readValidate encodeValidate := by
  refine ByteReader.spells_bool.bind fun _ => ?_
  refine SpellsAfter.bind ByteReader.spells_bool fun _ => ?_
  exact ByteReader.spells_sized.map fun _ => by simp [encodeValidate]

theorem spells_validateAck : Spells readValidateAck encodeValidateAck := by
  refine spells_validity.bind fun _ => ?_
  exact ByteReader.spells_sized.map fun _ => by simp [encodeValidateAck]

theorem spells_getPlan : Spells readGetPlan encodeGetPlan :=
  ByteReader.spells_digest.map fun _ => by simp [encodeGetPlan]

theorem spells_getPlanAck : Spells readGetPlanAck encodeGetPlanAck := by
  refine ByteReader.spells_digest.bind fun _ => ?_
  exact ByteReader.spells_sized.map fun _ => by simp [encodeGetPlanAck]

theorem spells_storeListAck : Spells readStoreListAck encodeStoreListAck := by
  refine (spells_listed ByteReader.spells_digest).bind fun _ => ?_
  exact (spells_listed ByteReader.spells_sized).map fun _ => by
    simp [encodeStoreListAck]

theorem spells_cancel : Spells readCancel encodeCancel :=
  ByteReader.spells_u64.map fun _ => by simp [encodeCancel]

theorem spells_cancelAck : Spells readCancelAck encodeCancelAck :=
  ByteReader.spells_bool.map fun _ => by simp [encodeCancelAck]

theorem spells_statsAck : Spells readStatsAck encodeStatsAck := by
  refine ByteReader.spells_incarnation.bind fun _ => ?_
  refine SpellsAfter.bind ByteReader.spells_u64 fun _ => ?_
  refine SpellsAfter.bind ByteReader.spells_u64 fun _ => ?_
  refine SpellsAfter.bind ByteReader.spells_u64 fun _ => ?_
  refine SpellsAfter.bind ByteReader.spells_u64 fun _ => ?_
  refine SpellsAfter.bind ByteReader.spells_u64 fun _ => ?_
  refine SpellsAfter.bind ByteReader.spells_u64 fun _ => ?_
  refine SpellsAfter.bind ByteReader.spells_u64 fun _ => ?_
  refine SpellsAfter.bind ByteReader.spells_u64 fun _ => ?_
  refine SpellsAfter.bind ByteReader.spells_u64 fun _ => ?_
  refine SpellsAfter.bind ByteReader.spells_u64 fun _ => ?_
  exact ByteReader.spells_u64.map fun _ => by simp [encodeStatsAck]

theorem spells_failure : Spells readFailure encodeFailure := by
  refine ByteReader.spells_u32.bind fun _ => ?_
  exact ByteReader.spells_sized.map fun _ => by simp [encodeFailure]

/-! ### Frames -/

/-- The bytes of a header. -/
def FrameHeader.bytes (header : FrameHeader) : Bytes :=
  [ByteWriter.u32 header.magic, ByteWriter.u32 header.version,
    ByteWriter.u32 header.kind, ByteWriter.u64 header.sequence,
    ByteWriter.u64 header.epoch, ByteWriter.u32 header.length].flatten

theorem spells_frameHeader : Spells readFrameHeader FrameHeader.bytes := by
  refine ByteReader.spells_u32.bind fun _ => ?_
  refine SpellsAfter.bind ByteReader.spells_u32 fun _ => ?_
  refine SpellsAfter.bind ByteReader.spells_u32 fun _ => ?_
  refine SpellsAfter.bind ByteReader.spells_u64 fun _ => ?_
  refine SpellsAfter.bind ByteReader.spells_u64 fun _ => ?_
  exact ByteReader.spells_u32.map fun _ => by simp [FrameHeader.bytes]

theorem FrameHeader.length_bytes (header : FrameHeader) :
    header.bytes.length = kFrameHeaderBytes := by
  simp [FrameHeader.bytes, kFrameHeaderBytes]

/-- The header at the front of a buffer is all of its first bytes. -/
theorem take_of_readFrameHeader {bytes rest : Bytes} {header : FrameHeader}
    (read : readFrameHeader (bytes.take kFrameHeaderBytes) = .ok (header, rest)) :
    bytes.take kFrameHeaderBytes = header.bytes := by
  have front : bytes.take kFrameHeaderBytes = header.bytes ++ rest :=
    spells_frameHeader _ _ _ read
  have short : (bytes.take kFrameHeaderBytes).length ≤ kFrameHeaderBytes :=
    List.length_take_le _ _
  rw [front, List.length_append, header.length_bytes] at short
  have nothing : rest = [] := List.eq_nil_of_length_eq_zero (by omega)
  rw [front, nothing, List.append_nil]

theorem frameSize_eq_ok {bytes : Bytes} {total : Nat}
    (sized : frameSize bytes = .ok total) :
    ∃ header rest, readFrameHeader (bytes.take kFrameHeaderBytes) =
        .ok (header, rest) ∧ header.magic = kFrameMagic ∧
      header.length.toNat ≤ kMaxFrameBytes ∧
      total = kFrameHeaderBytes + header.length.toNat + 32 ∧
      total ≤ bytes.length := by
  unfold frameSize at sized
  split_ifs at sized with short
  cases read : readFrameHeader (bytes.take kFrameHeaderBytes) with
  | error status =>
      rw [read] at sized
      cases sized
  | ok pair =>
      obtain ⟨header, rest⟩ := pair
      simp only [read] at sized
      split_ifs at sized with magic large incomplete
      cases sized
      exact ⟨header, rest, rfl, not_not.mp magic, not_lt.mp large, rfl,
        not_lt.mp incomplete⟩

section Frames

variable {sha256 : Bytes → Digest256}

/-- A buffer that a frame decodes off starts with the encoding of that frame. -/
theorem append_of_decodeFrame {bytes : Bytes} {frame : Frame} {consumed : Nat}
    (decoded : decodeFrame sha256 bytes = .ok (frame, consumed)) :
    frame.Fits ∧ consumed = (encodeFrame sha256 frame).length ∧
      bytes = encodeFrame sha256 frame ++ bytes.drop consumed := by
  unfold decodeFrame at decoded
  cases sized : frameSize bytes with
  | error status =>
      rw [sized] at decoded
      cases decoded
  | ok total =>
      obtain ⟨header, rest, read, magic, bounded, sum, inside⟩ := frameSize_eq_ok sized
      simp only [sized, read] at decoded
      split_ifs at decoded with checksum version
      cases decoded
      set length := header.length.toNat with length_def
      set payload := (bytes.drop kFrameHeaderBytes).take length with payload_def
      have payloadLength : payload.length = length := by
        rw [payload_def, List.length_take, List.length_drop]
        omega
      have front := take_of_readFrameHeader read
      have headed : encodeFrameHeader
          ⟨⟨header.kind⟩, header.sequence, header.epoch, payload⟩ =
            bytes.take kFrameHeaderBytes := by
        rw [front, encodeFrameHeader, FrameHeader.bytes, payloadLength, length_def,
          UInt32.ofNat_toNat, magic, not_not.mp version]
      have signed : encodeFrameBody
          ⟨⟨header.kind⟩, header.sequence, header.epoch, payload⟩ =
            bytes.take (consumed - 32) := by
        have split : consumed - 32 = kFrameHeaderBytes + length := by omega
        rw [encodeFrameBody, headed, split, List.take_add]
      have spelled : encodeFrame sha256
          ⟨⟨header.kind⟩, header.sequence, header.epoch, payload⟩ =
            bytes.take consumed := by
        have split : bytes.take consumed = bytes.take (consumed - 32 + 32) :=
          congrArg bytes.take (by omega)
        rw [encodeFrame, signed, not_not.mp checksum, split, List.take_add]
      refine ⟨?_, ?_, ?_⟩
      · exact payloadLength.le.trans bounded
      · rw [spelled, List.length_take]
        omega
      · rw [spelled, List.take_append_drop]

/-- Exactly the buffers that start with the encoding of a frame decode to it. -/
theorem decodeFrame_eq_ok_iff {bytes : Bytes} {frame : Frame} {consumed : Nat} :
    decodeFrame sha256 bytes = .ok (frame, consumed) ↔
      frame.Fits ∧ consumed = (encodeFrame sha256 frame).length ∧
        encodeFrame sha256 frame <+: bytes := by
  constructor
  · intro decoded
    obtain ⟨fits, length, front⟩ := append_of_decodeFrame decoded
    exact ⟨fits, length, ⟨_, front.symm⟩⟩
  · rintro ⟨fits, rfl, ⟨rest, rfl⟩⟩
    exact decodeFrame_append sha256 fits rest

/-- Draining takes the encodings of the frames off the front, and nothing else. -/
theorem append_of_drainFrames {fuel : Nat} {bytes rest : Bytes} {frames : List Frame}
    (drained : drainFrames sha256 fuel bytes = (frames, rest)) :
    (∀ frame ∈ frames, frame.Fits) ∧
      bytes = frames.flatMap (encodeFrame sha256) ++ rest := by
  induction fuel generalizing bytes frames with
  | zero =>
      cases drained
      exact ⟨by simp, rfl⟩
  | succ fuel ih =>
      unfold drainFrames at drained
      cases decoded : decodeFrame sha256 bytes with
      | error status =>
          rw [decoded] at drained
          cases drained
          exact ⟨by simp, rfl⟩
      | ok pair =>
          obtain ⟨frame, consumed⟩ := pair
          rw [decoded] at drained
          obtain ⟨fits, _, front⟩ := append_of_decodeFrame decoded
          cases later : drainFrames sha256 fuel (bytes.drop consumed) with
          | mk others behind =>
              simp only [later] at drained
              cases drained
              obtain ⟨othersFit, follows⟩ := ih later
              refine ⟨List.forall_mem_cons.mpr ⟨fits, othersFit⟩, ?_⟩
              rw [List.flatMap_cons, List.append_assoc, ← follows]
              exact front

end Frames

/-! ### The transport as a whole -/

/-- A buffer decodes to the frame whose encoding it starts with, it drains to
frames whose encodings it is made of, and a payload that is accepted is the
encoding of its message. -/
structure WireCanonical (sha256 : Bytes → Digest256) : Prop where
  frame : ∀ bytes frame consumed,
    decodeFrame sha256 bytes = .ok (frame, consumed) ↔
      frame.Fits ∧ consumed = (encodeFrame sha256 frame).length ∧
        encodeFrame sha256 frame <+: bytes
  stream : ∀ fuel bytes frames rest,
    drainFrames sha256 fuel bytes = (frames, rest) →
      bytes = frames.flatMap (encodeFrame sha256) ++ rest
  hello : ∀ payload message, decodeHello payload = .ok message →
    payload = encodeHello message
  helloAck : ∀ payload message, decodeHelloAck payload = .ok message →
    payload = encodeHelloAck message
  ingest : ∀ payload message, decodeIngest payload = .ok message →
    payload = encodeIngest message
  ingestAck : ∀ payload message, decodeIngestAck payload = .ok message →
    payload = encodeIngestAck message
  plan : ∀ payload message, decodePlan payload = .ok message →
    payload = encodePlan message
  planAck : ∀ payload message, decodePlanAck payload = .ok message →
    payload = encodePlanAck message
  validate : ∀ payload message, decodeValidate payload = .ok message →
    payload = encodeValidate message
  validateAck : ∀ payload message, decodeValidateAck payload = .ok message →
    payload = encodeValidateAck message
  getPlan : ∀ payload message, decodeGetPlan payload = .ok message →
    payload = encodeGetPlan message
  getPlanAck : ∀ payload message, decodeGetPlanAck payload = .ok message →
    payload = encodeGetPlanAck message
  storeListAck : ∀ payload message, decodeStoreListAck payload = .ok message →
    payload = encodeStoreListAck message
  cancel : ∀ payload message, decodeCancel payload = .ok message →
    payload = encodeCancel message
  cancelAck : ∀ payload message, decodeCancelAck payload = .ok message →
    payload = encodeCancelAck message
  statsAck : ∀ payload message, decodeStatsAck payload = .ok message →
    payload = encodeStatsAck message
  failed : ∀ payload message, decodeFailure payload = .ok message →
    payload = encodeFailure message

theorem wire_canonical (sha256 : Bytes → Digest256) : WireCanonical sha256 where
  frame _ _ _ := decodeFrame_eq_ok_iff
  stream _ _ _ _ drained := (append_of_drainFrames drained).2
  hello _ _ := spells_hello.whole
  helloAck _ _ := spells_helloAck.whole
  ingest _ _ := spells_ingest.whole
  ingestAck _ _ := spells_ingestAck.whole
  plan _ _ := spells_plan.whole
  planAck _ _ := spells_planAck.whole
  validate _ _ := spells_validate.whole
  validateAck _ _ := spells_validateAck.whole
  getPlan _ _ := spells_getPlan.whole
  getPlanAck _ _ := spells_getPlanAck.whole
  storeListAck _ _ := spells_storeListAck.whole
  cancel _ _ := spells_cancel.whole
  cancelAck _ _ := spells_cancelAck.whole
  statsAck _ _ := spells_statsAck.whole
  failed _ _ := spells_failure.whole

end OpticalPathPlanner
