import OpticalPathPlanner.ArtifactText
import OpticalPathPlanner.HashedMessages

/-!
# Runs of the hasher

However a message is cut into the pieces that a hasher is fed, and whenever
digests are asked for in between, a digest is the one of the standard for
everything fed so far.
-/

namespace OpticalPathPlanner

open SecureHash BlockHashing

variable {hasher : Sha256} {bytes message : List UInt8}

namespace Sha256

/-! ### What a hasher holds -/

/-- The bytes that wait in the buffer. -/
def live (hasher : Sha256) : List UInt8 :=
  hasher.buffer.toList.take hasher.buffered

/-- The chaining value and the bytes that wait. -/
def absorbed (hasher : Sha256) : Words × List UInt8 :=
  (stateWords hasher.state, hasher.live)

theorem length_live (room : hasher.buffered ≤ kBlockBytes) :
    hasher.live.length = hasher.buffered := by
  rw [live, List.length_take, Vector.length_toList, Nat.min_eq_left room]

theorem live_of_empty (empty : hasher.buffered = 0) : hasher.live = [] := by
  rw [live, empty, List.take_zero]

@[simp]
theorem buffered_store (hasher : Sha256) (byte : UInt8) :
    (hasher.store byte).buffered = hasher.buffered + 1 :=
  rfl

theorem live_store {byte : UInt8} (room : hasher.buffered < kBlockBytes) :
    (hasher.store byte).live = hasher.live ++ [byte] := by
  have written : hasher.buffered <
      (hasher.buffer.toList.set hasher.buffered byte).length := by
    rwa [List.length_set, Vector.length_toList]
  rw [live, live, store, Vector.toList_setIfInBounds,
    List.take_succ_eq_append_getElem written, List.getElem_set_self,
    List.take_set_of_le le_rfl]

/-! ### The loops -/

/-- Filling moves bytes into the buffer until it is full or they are used up. -/
theorem fill_spec (room : hasher.buffered ≤ kBlockBytes) :
    ∃ moved, bytes = moved ++ (hasher.fill bytes).2 ∧
      (hasher.fill bytes).1.state = hasher.state ∧
      (hasher.fill bytes).1.totalBytes = hasher.totalBytes ∧
      (hasher.fill bytes).1.live = hasher.live ++ moved ∧
      (hasher.fill bytes).1.buffered = hasher.buffered + moved.length ∧
      (hasher.fill bytes).1.buffered ≤ kBlockBytes ∧
      ((hasher.fill bytes).2 = [] ∨
        (hasher.fill bytes).1.buffered = kBlockBytes) := by
  induction bytes generalizing hasher with
  | nil =>
      exact ⟨[], rfl, rfl, rfl, (List.append_nil _).symm, rfl, room, .inl rfl⟩
  | cons byte rest ih =>
      rw [fill]
      split
      · next fits =>
          have within : (hasher.store byte).buffered ≤ kBlockBytes := fits
          obtain ⟨moved, spelled, state, total, held, length, bound, ended⟩ :=
            ih within
          refine ⟨byte :: moved, ?_, state, total, ?_, ?_, bound, ended⟩
          · rw [List.cons_append, ← spelled]
          · rw [held, live_store fits, ← List.append_cons]
          · rw [length, List.length_cons, buffered_store]
            omega
      · next full =>
          exact ⟨[], rfl, rfl, rfl, (List.append_nil _).symm, rfl, room,
            .inr (le_antisymm room (Nat.le_of_not_lt full))⟩

/-- Storing bytes that fit appends them. -/
theorem foldl_store_spec (room : hasher.buffered + bytes.length < kBlockBytes) :
    (bytes.foldl store hasher).absorbed =
        (stateWords hasher.state, hasher.live ++ bytes) ∧
      (bytes.foldl store hasher).totalBytes = hasher.totalBytes ∧
      (bytes.foldl store hasher).buffered = hasher.buffered + bytes.length := by
  induction bytes generalizing hasher with
  | nil => exact ⟨by rw [List.append_nil]; rfl, rfl, rfl⟩
  | cons byte rest ih =>
      rw [List.length_cons] at room
      have fits : hasher.buffered < kBlockBytes := by omega
      have later : (hasher.store byte).buffered + rest.length < kBlockBytes := by
        rw [buffered_store]
        omega
      obtain ⟨held, total, length⟩ := ih later
      rw [List.foldl_cons, held, live_store fits, ← List.append_cons]
      refine ⟨rfl, total, ?_⟩
      rw [length, buffered_store, List.length_cons]
      omega

/-- Compressing a block when none is begun absorbs it. -/
theorem absorb_block {block : List UInt8} (drained : hasher.buffered = 0)
    (full : block.length = kBlockBytes) :
    absorb kBlockBytes SecureHash.compress hasher.absorbed block =
      (hasher.compress block).absorbed := by
  have still : (hasher.compress block).buffered = 0 := drained
  rw [absorbed, absorbed, live_of_empty still, live_of_empty drained,
    absorb_of_eq (by decide) (by rw [List.length_nil, Nat.zero_add, full]),
    List.nil_append, compress, stateWords_compressState]

/-- Compressing straight from the input absorbs the whole blocks. -/
theorem compressWhole_spec {fuel : Nat} (enough : bytes.length ≤ fuel)
    (empty : hasher.buffered = 0 ∨ bytes = []) :
    absorb kBlockBytes SecureHash.compress (hasher.compressWhole fuel bytes).1.absorbed
        (hasher.compressWhole fuel bytes).2 =
      absorb kBlockBytes SecureHash.compress hasher.absorbed bytes ∧
    (hasher.compressWhole fuel bytes).1.buffered = hasher.buffered ∧
    (hasher.compressWhole fuel bytes).1.totalBytes = hasher.totalBytes ∧
    (hasher.compressWhole fuel bytes).2.length < kBlockBytes ∧
    (hasher.buffered = 0 ∨ (hasher.compressWhole fuel bytes).2 = []) := by
  induction fuel generalizing hasher bytes with
  | zero =>
      obtain rfl := List.length_eq_zero_iff.mp (Nat.le_zero.mp enough)
      exact ⟨rfl, rfl, rfl, Nat.zero_lt_succ _, .inr rfl⟩
  | succ fuel ih =>
      rw [compressWhole]
      split
      · next whole =>
          have drained : hasher.buffered = 0 := by
            rcases empty with drained | rfl
            · exact drained
            · cases whole
          have shorter : (bytes.drop kBlockBytes).length ≤ fuel := by
            rw [List.length_drop]
            have positive : 0 < kBlockBytes := by decide
            omega
          have still : (hasher.compress (bytes.take kBlockBytes)).buffered = 0 :=
            drained
          have full : (bytes.take kBlockBytes).length = kBlockBytes := by
            rw [List.length_take, Nat.min_eq_left whole]
          obtain ⟨held, buffered, total, short, done⟩ := ih shorter (.inl still)
          refine ⟨held.trans ?_, buffered, total, short, done⟩
          rw [← absorb_block drained full, ← absorb_append,
            List.take_append_drop]
      · next short =>
          exact ⟨rfl, rfl, rfl, Nat.lt_of_not_le short, empty⟩

variable (bytes) in
/-- Completing a begun block absorbs the bytes it takes. -/
theorem completeBlock_spec (room : hasher.buffered < kBlockBytes) :
    absorb kBlockBytes SecureHash.compress (hasher.completeBlock bytes).1.absorbed
        (hasher.completeBlock bytes).2 =
      absorb kBlockBytes SecureHash.compress hasher.absorbed bytes ∧
    (hasher.completeBlock bytes).1.totalBytes = hasher.totalBytes ∧
    (hasher.completeBlock bytes).1.buffered < kBlockBytes ∧
    ((hasher.completeBlock bytes).1.buffered = 0 ∨
      (hasher.completeBlock bytes).2 = []) := by
  by_cases begun : 0 < hasher.buffered
  · obtain ⟨moved, spelled, state, total, held, length, bound, ended⟩ :=
      fill_spec room.le
    have kept : hasher.live.length = hasher.buffered := length_live room.le
    by_cases full : (hasher.fill bytes).1.buffered = kBlockBytes
    · have whole : (hasher.fill bytes).1.buffer.toList = hasher.live ++ moved := by
        rw [← held, live, full, List.take_of_length_le]
        rw [Vector.length_toList]
      have block : absorb kBlockBytes SecureHash.compress hasher.absorbed moved =
          (stateWords (compressState hasher.state (hasher.live ++ moved)), []) := by
        rw [stateWords_compressState]
        exact absorb_of_eq (by omega) (by omega)
      rw [completeBlock, if_pos begun, if_pos full]
      refine ⟨?_, total, Nat.zero_lt_succ _, .inl rfl⟩
      conv_rhs => rw [spelled, absorb_append, block]
      rw [absorbed, compress, state, whole]
      rfl
    · have used := ended.resolve_right full
      rw [used, List.append_nil] at spelled
      have block : absorb kBlockBytes SecureHash.compress hasher.absorbed bytes =
          (stateWords hasher.state, hasher.live ++ moved) := by
        rw [spelled]
        exact absorb_of_lt (by omega)
      rw [completeBlock, if_pos begun, if_neg full]
      refine ⟨?_, total, lt_of_le_of_ne bound full, .inr used⟩
      rw [block, used, absorb_nil, absorbed, held, state]
  · rw [completeBlock, if_neg begun]
    exact ⟨rfl, rfl, room, .inl (Nat.eq_zero_of_not_pos begun)⟩

/-! ### The calls -/

variable (bytes) in
/-- An update absorbs the bytes behind everything absorbed before. -/
theorem update_spec (room : hasher.buffered < kBlockBytes) :
    (hasher.update bytes).absorbed =
        absorb kBlockBytes SecureHash.compress hasher.absorbed bytes ∧
      (hasher.update bytes).totalBytes =
        hasher.totalBytes + UInt64.ofNat bytes.length ∧
      (hasher.update bytes).buffered < kBlockBytes := by
  by_cases empty : bytes.length = 0
  · obtain rfl := List.length_eq_zero_iff.mp empty
    rw [update, if_pos empty]
    exact ⟨rfl, (UInt64.add_zero _).symm, room⟩
  · rw [update, if_neg empty]
    dsimp only
    generalize counted_def : { hasher with
      totalBytes := hasher.totalBytes + UInt64.ofNat bytes.length } = counted
    have countedRoom : counted.buffered < kBlockBytes := by rwa [← counted_def]
    obtain ⟨completes, total, begun, ended⟩ :=
      completeBlock_spec bytes countedRoom
    obtain ⟨compresses, buffered, sameTotal, short, drained⟩ :=
      compressWhole_spec le_rfl ended
    generalize counted.completeBlock bytes = completed at *
    generalize compressWhole completed.2.length completed.1 completed.2 =
      compressed at *
    have fits : compressed.1.buffered + compressed.2.length < kBlockBytes := by
      rcases drained with empty | used
      · omega
      · rw [used, List.length_nil]
        omega
    obtain ⟨held, stored, length⟩ := foldl_store_spec fits
    have waiting : compressed.1.live.length = compressed.1.buffered :=
      length_live (by omega)
    have kept : absorb kBlockBytes SecureHash.compress compressed.1.absorbed
        compressed.2 =
          (stateWords compressed.1.state, compressed.1.live ++ compressed.2) :=
      absorb_of_lt (by omega)
    refine ⟨?_, ?_, length.trans_lt fits⟩
    · rw [held, ← kept, compresses, completes, ← counted_def]
      rfl
    · rw [stored, sameTotal, total, ← counted_def]

/-- A hasher has read a message: it has absorbed it and counted its bytes. -/
structure HasRead (hasher : Sha256) (message : List UInt8) : Prop where
  absorbed : hasher.absorbed =
    absorb kBlockBytes SecureHash.compress (initialHash, []) message
  counted : hasher.totalBytes = UInt64.ofNat message.length
  room : hasher.buffered < kBlockBytes

theorem HasRead.fresh : HasRead {} [] where
  absorbed := by
    rw [absorb_nil, Sha256.absorbed, stateWords_initial, live_of_empty rfl]
  counted := rfl
  room := Nat.zero_lt_succ _

theorem HasRead.update (read : HasRead hasher message) (bytes : List UInt8) :
    HasRead (hasher.update bytes) (message ++ bytes) := by
  obtain ⟨absorbs, total, room⟩ := update_spec bytes read.room
  refine ⟨?_, ?_, room⟩
  · rw [absorbs, read.absorbed, absorb_append]
  · rw [total, read.counted, List.length_append, UInt64.ofNat_add]

/-- The buffer is filled up to the length of the message in its last block. -/
theorem HasRead.buffered_eq (read : HasRead hasher message) :
    hasher.buffered = message.length % kBlockBytes := by
  have waits := congrArg (fun held : Words × List UInt8 => held.2.length) read.absorbed
  simp only [Sha256.absorbed] at waits
  rw [length_live read.room.le, length_absorb _ (by decide), List.length_nil,
    Nat.zero_add] at waits
  exact waits

theorem HasRead.padZeros {fuel missing : Nat} (read : HasRead hasher message)
    (least : (message.length + missing) % kBlockBytes = 56)
    (below : missing < kBlockBytes) (enough : missing < fuel) :
    ∃ copy, hasher.padZeros fuel = some copy ∧
      HasRead copy (message ++ List.replicate missing 0) := by
  induction fuel generalizing hasher message missing with
  | zero => omega
  | succ fuel ih =>
      rw [Sha256.padZeros, read.buffered_eq]
      cases missing with
      | zero =>
          rw [Nat.add_zero] at least
          rw [if_pos least, List.replicate_zero, List.append_nil]
          exact ⟨hasher, rfl, read⟩
      | succ missing =>
          have early : message.length % kBlockBytes ≠ 56 := by
            rw [kBlockBytes] at *
            omega
          have still : ((message ++ [0]).length + missing) % kBlockBytes = 56 := by
            rw [List.length_append, List.length_singleton, ← least]
            congr 1
            omega
          obtain ⟨copy, padded, copied⟩ :=
            ih (read.update [0]) still (by omega) (by omega)
          rw [if_neg early, List.replicate_succ, List.append_cons]
          exact ⟨copy, padded, copied⟩

/-! ### Digests -/

theorem HasRead.finalize (read : HasRead hasher message)
    (bound : message.length < 2 ^ 61) :
    hasher.finalize = some ⟨digest message⟩ := by
  have marked := read.update [0x80]
  have fills : ((message ++ [0x80]).length + zeroBytes message.length) %
      kBlockBytes = 56 := by
    rw [List.length_append, List.length_singleton]
    exact zeroBytes_fill
  have few : zeroBytes message.length < kBlockBytes := Nat.mod_lt _ (by decide)
  obtain ⟨copy, pads, copied⟩ := marked.padZeros fills few few
  have bits : (hasher.totalBytes * 8).toNat = 8 * message.length := by
    rw [read.counted, UInt64.toNat_mul, UInt64.toNat_ofNat_of_lt' (bound.trans (by decide))]
    change message.length * 8 % 2 ^ 64 = _
    omega
  have ended := copied.update (lengthBytes (hasher.totalBytes * 8))
  have whole : message ++ [0x80] ++ List.replicate (zeroBytes message.length) 0 ++
      lengthBytes (hasher.totalBytes * 8) = padded message := by
    rw [lengthBytes_eq, bits, padded]
    simp
  rw [whole] at ended
  have hashed : stateWords (copy.update (lengthBytes (hasher.totalBytes * 8))).state =
      hashValue message :=
    congrArg Prod.fst (ended.absorbed.trans absorb_padded)
  rw [Sha256.finalize, pads, Option.map_some, ofBytes_flatMap_wordBytes, hashed]
  rfl

/-- What a caller asks of a hasher. -/
inductive Call
  | update (bytes : List UInt8)
  | finalize
  | reset

/-- The hasher after a call; a digest is computed on a copy. -/
def after (hasher : Sha256) : Call → Sha256
  | .update bytes => hasher.update bytes
  | .finalize => hasher
  | .reset => hasher.reset

/-- The message that the calls have fed since the last reset. -/
def Call.feed (message : List UInt8) : Call → List UInt8
  | .update bytes => message ++ bytes
  | .finalize => message
  | .reset => []

theorem HasRead.after (read : HasRead hasher message) (call : Call) :
    HasRead (hasher.after call) (call.feed message) := by
  cases call with
  | update bytes => exact read.update bytes
  | finalize => exact read
  | reset => exact .fresh

theorem HasRead.run (read : HasRead hasher message) (calls : List Call) :
    HasRead (calls.foldl Sha256.after hasher) (calls.foldl Call.feed message) := by
  induction calls generalizing hasher message with
  | nil => exact read
  | cons call calls ih => exact ih (read.after call)

end Sha256

/-- After any calls on a fresh hasher, a digest is the one that the standard
defines for the message fed since the last reset. -/
theorem finalize_after_calls (calls : List Sha256.Call)
    (bound : (calls.foldl Sha256.Call.feed []).length < 2 ^ 61) :
    (calls.foldl Sha256.after {}).finalize =
      some ⟨digest (calls.foldl Sha256.Call.feed [])⟩ :=
  (Sha256.HasRead.fresh.run calls).finalize bound

/-- A digest asked for between the pieces of a message does not disturb it. -/
theorem finalize_after_calls_abc :
    ([.update (text "ab"), .finalize, .update [], .update (text "c")].foldl
        Sha256.after {}).finalize = some ⟨digest (text "abc")⟩ :=
  finalize_after_calls [.update (text "ab"), .finalize, .update [],
    .update (text "c")] (by decide)

theorem Sha256.of_eq {bytes : Bytes} (bound : bytes.length < 2 ^ 61) :
    Sha256.of bytes = some ⟨digest bytes⟩ :=
  (HasRead.fresh.update bytes).finalize bound

example : (Sha256.of (text "abc")).map Digest256.toHex = some (text
    "ba7816bf8f01cfea414140de5dae2223b00361a396177a9cb410ff61f20015ad") := by
  decide +kernel

end OpticalPathPlanner
