import Mathlib.Data.List.Induction

/-!
# Hashing by blocks

A hash over blocks of a fixed size compresses a chaining value with one block
after the other.  A streaming hasher reads a message piece by piece: it keeps
the bytes of the block it has not filled yet.  Whatever the pieces, it ends
with the chaining value over the whole blocks and the bytes left over.
-/

namespace BlockHashing

variable {Chaining Byte : Type*} {size : Nat}
  {compress : Chaining → List Byte → Chaining}
  {value : Chaining} {kept bytes more : List Byte}

variable (size compress) in
/-- Read one byte behind the bytes kept: a full block is compressed. -/
def absorbByte (hasher : Chaining × List Byte) (byte : Byte) :
    Chaining × List Byte :=
  if hasher.2.length + 1 = size then
    (compress hasher.1 (hasher.2 ++ [byte]), [])
  else
    (hasher.1, hasher.2 ++ [byte])

variable (size compress) in
/-- The chaining value and the bytes kept after reading further bytes. -/
def absorb (hasher : Chaining × List Byte) (bytes : List Byte) :
    Chaining × List Byte :=
  bytes.foldl (absorbByte size compress) hasher

@[simp]
theorem absorb_nil (hasher : Chaining × List Byte) :
    absorb size compress hasher [] = hasher :=
  rfl

theorem absorb_append (hasher : Chaining × List Byte) :
    absorb size compress hasher (bytes ++ more) =
      absorb size compress (absorb size compress hasher bytes) more :=
  List.foldl_append ..

/-- Bytes that do not fill the block are kept. -/
theorem absorb_of_lt (short : kept.length + bytes.length < size) :
    absorb size compress (value, kept) bytes = (value, kept ++ bytes) := by
  induction bytes generalizing kept with
  | nil => rw [absorb_nil, List.append_nil]
  | cons byte bytes ih =>
      rw [List.length_cons] at short
      have room : kept.length + 1 ≠ size := by omega
      have next : (kept ++ [byte]).length + bytes.length < size := by
        rw [List.length_append, List.length_singleton]
        omega
      change absorb size compress
        (absorbByte size compress (value, kept) byte) bytes = _
      rw [absorbByte, if_neg room, ih next, ← List.append_cons]

/-- Bytes that fill the block are compressed with those kept. -/
theorem absorb_of_eq (room : kept.length < size)
    (full : kept.length + bytes.length = size) :
    absorb size compress (value, kept) bytes =
      (compress value (kept ++ bytes), []) := by
  obtain rfl | ⟨before, last, rfl⟩ := List.eq_nil_or_concat bytes
  · rw [List.length_nil] at full
    omega
  rw [List.concat_eq_append] at full ⊢
  rw [List.length_append, List.length_singleton] at full
  have early : kept.length + before.length < size := by omega
  rw [absorb_append, absorb_of_lt early]
  change absorbByte size compress (value, kept ++ before) last = _
  rw [absorbByte, if_pos, List.append_assoc]
  rw [List.length_append]
  omega

/-- What is kept never fills the block, and its length counts the bytes read. -/
theorem length_absorb (hasher : Chaining × List Byte)
    (room : hasher.2.length < size) :
    (absorb size compress hasher bytes).2.length =
      (hasher.2.length + bytes.length) % size := by
  induction bytes using List.reverseRecOn with
  | nil =>
      rw [absorb_nil, List.length_nil, Nat.add_zero, Nat.mod_eq_of_lt room]
  | append_singleton bytes byte ih =>
      rw [absorb_append]
      change (absorbByte size compress _ byte).2.length = _
      have bound : (hasher.2.length + bytes.length) % size < size :=
        Nat.mod_lt _ (by omega)
      rw [absorbByte, ih, List.length_append, List.length_singleton,
        ← Nat.add_assoc, ← Nat.mod_add_mod (hasher.2.length + bytes.length)]
      generalize (hasher.2.length + bytes.length) % size = length at bound ih ⊢
      by_cases full : length + 1 = size
      · rw [if_pos full, full, Nat.mod_self, List.length_nil]
      · rw [if_neg full, List.length_append, List.length_singleton, ih,
          Nat.mod_eq_of_lt (by omega)]

/-- Reading whole blocks chains their compressions. -/
theorem absorb_blocks (positive : 0 < size) (count : Nat)
    (fits : size * count ≤ bytes.length) :
    absorb size compress (value, []) (bytes.take (size * count)) =
      ((List.range count).foldl (fun value index =>
        compress value ((bytes.drop (size * index)).take size)) value, []) := by
  induction count with
  | zero => rw [Nat.mul_zero, List.take_zero, absorb_nil, List.range_zero,
      List.foldl_nil]
  | succ count ih =>
      rw [Nat.mul_succ] at fits ⊢
      rw [List.take_add, absorb_append, ih (by omega), absorb_of_eq,
        List.range_succ, List.foldl_append, List.nil_append]
      · rfl
      · exact positive
      · rw [List.length_nil, List.length_take, List.length_drop]
        omega

end BlockHashing
