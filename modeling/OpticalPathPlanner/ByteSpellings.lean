import OpticalPathPlanner.ByteReaders

/-!
# What a reader accepts

A reader is canonical when whatever it takes off the front of its input is the
spelling of the value it returns.  The fact is carried through a sequence of
reads with the bytes that were read before: at the end of the sequence these
have to be the spelling of the whole value.
-/

namespace ByteReaders

variable {ε α β : Type}

/-- Behind the bytes `before`, what the reader takes completes the spelling of
the value it returns. -/
def SpellsAfter (before : List UInt8) (reader : Reader ε α)
    (spell : α → List UInt8) : Prop :=
  ∀ bytes value rest, reader bytes = .ok (value, rest) →
    before ++ bytes = spell value ++ rest

/-- What the reader takes is the spelling of the value it returns. -/
def Spells (reader : Reader ε α) (spell : α → List UInt8) : Prop :=
  SpellsAfter [] reader spell

namespace SpellsAfter

variable {before : List UInt8} {spell : α → List UInt8}

theorem pure {value : α} (complete : spell value = before) :
    SpellsAfter before (Pure.pure value : Reader ε α) spell := by
  intro bytes result rest read
  cases read
  rw [complete]

theorem throw (status : ε) :
    SpellsAfter before (throw status : Reader ε α) spell := by
  intro bytes result rest impossible
  cases impossible

theorem bind {first : Reader ε β} {next : β → Reader ε α}
    {spellFirst : β → List UInt8} (spells : Spells first spellFirst)
    (spellsNext : ∀ value, SpellsAfter (before ++ spellFirst value) (next value) spell) :
    SpellsAfter before (first >>= next) spell := by
  intro bytes result rest read
  obtain ⟨value, middle, readFirst, readNext⟩ := bind_eq_ok_iff.mp read
  have front : bytes = spellFirst value ++ middle := spells _ _ _ readFirst
  rw [front, ← List.append_assoc]
  exact spellsNext value _ _ _ readNext

theorem ite {condition : Prop} [Decidable condition] {first second : Reader ε α}
    (spellsFirst : condition → SpellsAfter before first spell)
    (spellsSecond : ¬ condition → SpellsAfter before second spell) :
    SpellsAfter before (if condition then first else second) spell := by
  split_ifs with holds
  · exact spellsFirst holds
  · exact spellsSecond holds

end SpellsAfter

namespace Spells

variable {reader : Reader ε α} {spell : α → List UInt8}

theorem bind {first : Reader ε β} {next : β → Reader ε α}
    {spellFirst : β → List UInt8} (spells : Spells first spellFirst)
    (spellsNext : ∀ value, SpellsAfter (spellFirst value) (next value) spell) :
    Spells (first >>= next) spell :=
  SpellsAfter.bind spells spellsNext

/-- The last read of a sequence, with what is made of its value. -/
theorem map {make : α → β} {before : List UInt8} {spellMade : β → List UInt8}
    (spells : Spells reader spell)
    (complete : ∀ value, spellMade (make value) = before ++ spell value) :
    SpellsAfter before (reader >>= fun read => Pure.pure (make read)) spellMade :=
  SpellsAfter.bind spells fun value => SpellsAfter.pure (complete value)

/-- Values that are read one after another. -/
theorem many (spells : Spells reader spell) (count : Nat) :
    ∀ bytes values rest, readMany reader count bytes = .ok (values, rest) →
      values.length = count ∧ bytes = values.flatMap spell ++ rest := by
  induction count with
  | zero =>
      intro bytes values rest read
      cases read
      exact ⟨rfl, rfl⟩
  | succ count ih =>
      intro bytes values rest read
      obtain ⟨value, middle, readFirst, readTail⟩ := bind_eq_ok_iff.mp read
      obtain ⟨tail, behind, readMore, made⟩ := bind_eq_ok_iff.mp readTail
      cases made
      obtain ⟨length, follows⟩ := ih _ _ _ readMore
      have front : bytes = spell value ++ middle := spells _ _ _ readFirst
      constructor
      · rw [List.length_cons, length]
      · rw [front, follows, List.flatMap_cons, List.append_assoc]

/-- An input that is read as a whole is the spelling of its value. -/
theorem whole {trailing : ε} {bytes : List UInt8} {value : α}
    (spells : Spells reader spell)
    (read : readWhole trailing reader bytes = .ok value) : bytes = spell value := by
  have complete := spells _ _ _ (readWhole_eq_ok_iff.mp read)
  rwa [List.nil_append, List.append_nil] at complete

end Spells

/-! ### Bytes of a number -/

/-- A number of bytes, spelled by themselves. -/
theorem spells_take (truncated : ε) (count : Nat) :
    ∀ bytes slice rest, take truncated count bytes = .ok (slice, rest) →
      slice.length = count ∧ bytes = slice ++ rest := by
  intro bytes slice rest read
  unfold take at read
  split_ifs at read with short
  cases read
  constructor
  · rw [List.length_take]
    omega
  · rw [List.take_append_drop]

theorem ofLittleEndian_lt (bytes : List UInt8) :
    ofLittleEndian bytes < 256 ^ bytes.length := by
  induction bytes with
  | nil => simp [ofLittleEndian]
  | cons byte rest ih =>
      have small := byte.toNat_lt
      rw [ofLittleEndian, List.length_cons, Nat.pow_succ']
      omega

theorem littleEndian_ofLittleEndian (bytes : List UInt8) :
    littleEndian bytes.length (ofLittleEndian bytes) = bytes := by
  induction bytes with
  | nil => rfl
  | cons byte rest ih =>
      have small := byte.toNat_lt
      have low : UInt8.ofNat (byte.toNat + 256 * ofLittleEndian rest) = byte := by
        apply UInt8.toNat_inj.mp
        rw [UInt8.toNat_ofNat']
        omega
      have high : (byte.toNat + 256 * ofLittleEndian rest) / 256 =
          ofLittleEndian rest := by
        omega
      rw [ofLittleEndian, List.length_cons, littleEndian, low, high, ih]

end ByteReaders
