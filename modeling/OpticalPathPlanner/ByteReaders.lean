import Mathlib

/-!
# Reading bytes off the front of a list

A reader takes bytes off the front of its input or fails.  Two facts about a
reader carry every proof about a codec: which value it takes off a spelling,
whatever follows the spelling, and that more input never changes a read that
succeeded.  Together they say that a decoder which also asks for the end of
its input accepts a spelling, and neither a proper part nor an extension of
it.
-/

namespace ByteReaders

variable {ε α β : Type}

abbrev Reader (ε α : Type) := StateT (List UInt8) (Except ε) α

/-- The reader takes exactly these bytes for the value, whatever follows. -/
def Reads (reader : Reader ε α) (bytes : List UInt8) (value : α) : Prop :=
  ∀ rest, reader (bytes ++ rest) = .ok (value, rest)

/-- More input never changes a read that succeeded. -/
def Stable (reader : Reader ε α) : Prop :=
  ∀ bytes value rest more, reader bytes = .ok (value, rest) →
    reader (bytes ++ more) = .ok (value, rest ++ more)

theorem Reads.pure (value : α) : Reads (Pure.pure value : Reader ε α) [] value := by
  intro rest
  rfl

theorem bind_eq_ok_iff {first : Reader ε α} {next : α → Reader ε β}
    {bytes rest : List UInt8} {result : β} :
    (first >>= next) bytes = .ok (result, rest) ↔
      ∃ value middle, first bytes = .ok (value, middle) ∧
        next value middle = .ok (result, rest) := by
  change (first bytes >>= fun pair => next pair.1 pair.2) = _ ↔ _
  cases first bytes with
  | error status =>
      constructor
      · intro impossible
        cases impossible
      · rintro ⟨value, middle, impossible, _⟩
        cases impossible
  | ok pair =>
      constructor
      · intro after
        exact ⟨pair.1, pair.2, rfl, after⟩
      · rintro ⟨value, middle, same, after⟩
        cases same
        exact after

theorem Reads.bind {first : Reader ε α} {next : α → Reader ε β}
    {bytes more : List UInt8} {value : α} {result : β}
    (reads : Reads first bytes value) (readsNext : Reads (next value) more result) :
    Reads (first >>= next) (bytes ++ more) result := by
  intro rest
  rw [bind_eq_ok_iff, List.append_assoc]
  exact ⟨value, more ++ rest, reads _, readsNext rest⟩

/-- The last read of a sequence, with what is made of its value. -/
theorem Reads.map {reader : Reader ε α} {bytes : List UInt8} {value : α}
    (reads : Reads reader bytes value) (make : α → β) :
    Reads (reader >>= fun read => Pure.pure (make read)) bytes (make value) := by
  intro rest
  exact bind_eq_ok_iff.mpr ⟨value, rest, reads rest, rfl⟩

theorem Stable.pure (value : α) : Stable (Pure.pure value : Reader ε α) := by
  intro bytes result rest more same
  cases same
  rfl

theorem Stable.throw (status : ε) : Stable (throw status : Reader ε α) := by
  intro bytes result rest more impossible
  cases impossible

theorem Stable.bind {first : Reader ε α} {next : α → Reader ε β}
    (stable : Stable first) (stableNext : ∀ value, Stable (next value)) :
    Stable (first >>= next) := by
  intro bytes result rest more read
  obtain ⟨value, middle, readFirst, readNext⟩ := bind_eq_ok_iff.mp read
  exact bind_eq_ok_iff.mpr ⟨value, middle ++ more, stable _ _ _ _ readFirst,
    stableNext value _ _ _ _ readNext⟩

theorem Stable.ite {condition : Prop} [Decidable condition]
    {first second : Reader ε α} (stable : Stable first)
    (stableSecond : Stable second) :
    Stable (if condition then first else second) := by
  split_ifs
  · exact stable
  · exact stableSecond

/-! ### Taking a number of bytes -/

/-- The next `count` bytes. -/
def take (truncated : ε) (count : Nat) : Reader ε (List UInt8) := fun bytes =>
  if count > bytes.length then .error truncated
  else .ok (bytes.take count, bytes.drop count)

theorem reads_take {truncated : ε} {count : Nat} {bytes : List UInt8}
    (exact_ : bytes.length = count) : Reads (take truncated count) bytes bytes := by
  intro rest
  subst exact_
  simp [take]

theorem stable_take (truncated : ε) (count : Nat) :
    Stable (take truncated count) := by
  intro bytes value rest more read
  unfold take at read ⊢
  split_ifs at read with short
  cases read
  have long : ¬ count > (bytes ++ more).length := by
    rw [List.length_append]
    omega
  rw [if_neg long, List.take_append_of_le_length (by omega),
    List.drop_append_of_le_length (by omega)]

/-! ### Repeated reads -/

def readMany (reader : Reader ε α) : Nat → Reader ε (List α)
  | 0 => Pure.pure []
  | count + 1 => do
      let value ← reader
      let rest ← readMany reader count
      Pure.pure (value :: rest)

theorem reads_many {reader : Reader ε α} {spell : α → List UInt8}
    {values : List α}
    (reads : ∀ value ∈ values, Reads reader (spell value) value) :
    Reads (readMany reader values.length) (values.flatMap spell) values := by
  induction values with
  | nil => exact Reads.pure []
  | cons value rest ih =>
      have readsRest := ih fun other member =>
        reads other (List.mem_cons_of_mem value member)
      rw [List.flatMap_cons]
      exact (reads value List.mem_cons_self).bind
        (readsRest.map (fun tail => value :: tail))

theorem stable_many {reader : Reader ε α} (stable : Stable reader)
    (count : Nat) : Stable (readMany reader count) := by
  induction count with
  | zero => exact Stable.pure []
  | succ count ih =>
      exact stable.bind fun value => ih.bind fun rest => Stable.pure _

/-! ### Whole inputs -/

/-- Read a value and ask for the end of the input. -/
def readWhole (trailing : ε) (reader : Reader ε α) (bytes : List UInt8) :
    Except ε α :=
  match reader bytes with
  | .error status => .error status
  | .ok (value, rest) => if rest.isEmpty then .ok value else .error trailing

theorem readWhole_eq_ok_iff {trailing : ε} {reader : Reader ε α}
    {bytes : List UInt8} {value : α} :
    readWhole trailing reader bytes = .ok value ↔
      reader bytes = .ok (value, []) := by
  unfold readWhole
  cases reader bytes with
  | error status => simp
  | ok pair =>
      obtain ⟨result, rest⟩ := pair
      cases rest <;> simp

/-- A decoder takes back what was encoded and refuses every proper part and
every extension of it. -/
structure Exact (decode : List UInt8 → Except ε α) (bytes : List UInt8)
    (value : α) : Prop where
  accepts : decode bytes = .ok value
  part : ∀ cut, cut <+: bytes → cut ≠ bytes → ∃ status, decode cut = .error status
  extension : ∀ tail, tail ≠ [] → ∃ status, decode (bytes ++ tail) = .error status

theorem Reads.exact_ {trailing : ε} {reader : Reader ε α} {bytes : List UInt8}
    {value : α} (reads : Reads reader bytes value) (stable : Stable reader) :
    Exact (readWhole trailing reader) bytes value where
  accepts := by
    have read := reads []
    rw [List.append_nil] at read
    exact readWhole_eq_ok_iff.mpr read
  part := by
    rintro cut ⟨missing, rfl⟩ proper
    cases decoded : readWhole trailing reader cut with
    | error status => exact ⟨status, rfl⟩
    | ok other =>
        -- the reader would stop where the part ends, also on the whole input
        have stopped := stable _ _ _ missing (readWhole_eq_ok_iff.mp decoded)
        have read := reads []
        rw [List.append_nil, stopped] at read
        cases read
        exact (proper (List.append_nil cut).symm).elim
  extension := by
    intro tail nonempty
    unfold readWhole
    rw [reads tail]
    cases tail with
    | nil => exact (nonempty rfl).elim
    | cons byte rest => exact ⟨trailing, rfl⟩

/-! ### Little-endian numbers -/

/-- The low `width` bytes of a number, lowest first. -/
def littleEndian : Nat → Nat → List UInt8
  | 0, _ => []
  | width + 1, value => UInt8.ofNat value :: littleEndian width (value / 256)

def ofLittleEndian : List UInt8 → Nat
  | [] => 0
  | byte :: rest => byte.toNat + 256 * ofLittleEndian rest

@[simp]
theorem length_littleEndian (width value : Nat) :
    (littleEndian width value).length = width := by
  induction width generalizing value with
  | zero => rfl
  | succ width ih => simp [littleEndian, ih]

theorem ofLittleEndian_littleEndian (width value : Nat)
    (fits : value < 256 ^ width) :
    ofLittleEndian (littleEndian width value) = value := by
  induction width generalizing value with
  | zero =>
      have zero : value = 0 := by simpa using fits
      rw [zero]
      rfl
  | succ width ih =>
      have quotient : value / 256 < 256 ^ width := by
        apply Nat.div_lt_of_lt_mul
        rw [← Nat.pow_succ']
        exact fits
      have low : (UInt8.ofNat value).toNat = value % 256 := UInt8.toNat_ofNat'
      rw [littleEndian, ofLittleEndian, ih _ quotient, low]
      omega

theorem ofLittleEndian_append (low high : List UInt8) :
    ofLittleEndian (low ++ high) =
      ofLittleEndian low + 256 ^ low.length * ofLittleEndian high := by
  induction low with
  | nil => simp [ofLittleEndian]
  | cons byte low ih =>
      rw [List.cons_append, ofLittleEndian, ofLittleEndian, ih, List.length_cons,
        Nat.pow_succ']
      ring

end ByteReaders
