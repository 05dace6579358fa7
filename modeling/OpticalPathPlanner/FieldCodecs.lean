import OpticalPathPlanner.Runtime
import OpticalPathPlanner.TokenCodecs
import Mathlib

/-!
# Reading the fields of a record

A record is a line of positional tokens and `key=value` fields.  A field
holds a number, a tri-state fact, a list of failure domains or one of the
values of a token; each of them is read back from its spelling.  A record
whose tokens are short enough is split at the blanks it was joined with.
-/

namespace OpticalPathPlanner

/-! ### Keyed fields -/

/-- A key without separators and equals signs. -/
def plainKey (key : String) : Bool :=
  (text key).all fun byte => isTokenByte byte && byte != 61

theorem all_isTokenByte_of_plainKey {key : String} (plain : plainKey key = true) :
    (text key).all isTokenByte = true := by
  rw [plainKey, List.all_eq_true] at plain
  rw [List.all_eq_true]
  intro byte member
  have legal := plain byte member
  rw [Bool.and_eq_true] at legal
  exact legal.1

/-- A `key=value` token. -/
def keyedToken (field : String × Bytes) : Bytes :=
  text field.1 ++ [61] ++ field.2

/-- The value of a field that stands exactly once among the fields. -/
def findField (fields : List (String × Bytes)) (key : String) :
    Except Status Bytes :=
  match (fields.filter fun field => field.1 == key).map Prod.snd with
  | [] => .error (failure .notFound
      (text "missing field '" ++ text key ++ text "'"))
  | [value] => .ok value
  | _ => .error (failure .malformedInput
      (text "duplicate field '" ++ text key ++ text "'"))

theorem LineAssembler.addKeyRaw_joinTokens {record : String}
    (named : record ≠ "") (rest : List Bytes) (key : String) (value : Bytes) :
    addKeyRaw ⟨joinTokens (text record :: rest)⟩ key value =
      ⟨joinTokens (text record :: (rest ++ [keyedToken (key, value)]))⟩ :=
  append_joinTokens named rest _

theorem keyedValue?_eq_some_iff {key token value : Bytes} :
    keyedValue? key token = some value ↔ token = key ++ 61 :: value := by
  unfold keyedValue?
  constructor
  · intro found
    split_ifs at found with holds
    rw [Bool.and_eq_true, List.isPrefixOf_iff_prefix, beq_iff_eq] at holds
    obtain ⟨⟨rest, rfl⟩, atKey⟩ := holds
    rw [List.getElem?_append_right (le_refl _), Nat.sub_self] at atKey
    cases rest with
    | nil => cases atKey
    | cons byte rest =>
        cases atKey
        simpa using found
  · rintro rfl
    simp

/-- The first equals sign of a token ends its key, so that a token has its own
key and no other. -/
theorem keyedValue?_append {key other value : Bytes}
    (plain : ∀ byte ∈ key, byte ≠ 61) (plainOther : ∀ byte ∈ other, byte ≠ 61) :
    keyedValue? key (other ++ 61 :: value) =
      if other = key then some value else none := by
  split_ifs with same
  · rw [keyedValue?_eq_some_iff, same]
  · rw [Option.eq_none_iff_forall_ne_some]
    intro read found
    rw [keyedValue?_eq_some_iff] at found
    have ended {name rest : Bytes} (plain : ∀ byte ∈ name, byte ≠ 61) :
        (name ++ 61 :: rest).takeWhile (fun byte => byte != 61) = name := by
      rw [List.takeWhile_append_of_pos fun byte member => by simp [plain byte member]]
      simp
    have span := congrArg (List.takeWhile fun byte => byte != 61) found
    rw [ended plainOther, ended plain] at span
    exact same span

theorem ne_equals_of_plainKey {key : String} (plain : plainKey key = true) :
    ∀ byte ∈ text key, byte ≠ 61 := by
  intro byte member
  have legal := List.all_eq_true.mp plain byte member
  rw [Bool.and_eq_true] at legal
  simpa using legal.2

/-- A keyed token has its own key and no other. -/
theorem keyedValue?_keyedToken {key : String} {field : String × Bytes}
    (plain : plainKey key = true) (plainField : plainKey field.1 = true) :
    keyedValue? (text key) (keyedToken field) =
      if field.1 = key then some field.2 else none := by
  rw [keyedToken, List.append_assoc, List.singleton_append, keyedValue?_append
    (ne_equals_of_plainKey plain) (ne_equals_of_plainKey plainField)]
  simp only [text_injective.eq_iff]

/-- Looking a key up behind the positional tokens of a record. -/
theorem findKeyedField_append {positional : List Bytes}
    {fields : List (String × Bytes)} {first : Nat} {key : String}
    (counted : positional.length = first) (plain : plainKey key = true)
    (plainFields : (fields.all fun field => plainKey field.1) = true) :
    findKeyedField (positional ++ fields.map keyedToken) first key =
      findField fields key := by
  have values : (fields.map keyedToken).filterMap (keyedValue? (text key)) =
      (fields.filter fun field => field.1 == key).map Prod.snd := by
    clear counted
    induction fields with
    | nil => rfl
    | cons field rest ih =>
        rw [List.all_cons, Bool.and_eq_true] at plainFields
        rw [List.map_cons, List.filterMap_cons,
          keyedValue?_keyedToken plain plainFields.1, ih plainFields.2]
        by_cases same : field.1 = key <;> simp [same]
  subst counted
  rw [findKeyedField, List.drop_left, values]
  rfl

/-- The value of a field fits when its token does. -/
theorem FitsLine.field_length {positional : List Bytes}
    {fields : List (String × Bytes)} {field : String × Bytes}
    (fits : FitsLine (positional ++ fields.map keyedToken))
    (member : field ∈ fields) : field.2.length ≤ kMaxTokenBytes := by
  have token := fits.token (keyedToken field)
    (List.mem_append_right _ (List.mem_map_of_mem member))
  rw [keyedToken, List.length_append] at token
  omega

/-- A string that was written into a field is read back. -/
theorem FitsLine.decodeToken_field {positional : List Bytes}
    {fields : List (String × Bytes)} (key : String) {raw : Bytes}
    (fits : FitsLine (positional ++ fields.map keyedToken))
    (member : (key, encodeToken raw) ∈ fields) :
    decodeToken (encodeToken raw) = .ok raw := by
  have short := fits.field_length member
  apply decodeToken_encodeToken
  exact short.trans (by decide)

/-! ### Tokens of bounded length -/

/-- A token of bounded length that holds no separator. -/
structure Spelled (bound : Nat) (token : Bytes) : Prop where
  nonempty : token ≠ []
  plain : token.all isTokenByte = true
  short : token.length ≤ bound

namespace Spelled

theorem mono {small large : Nat} {token : Bytes} (spelled : Spelled small token)
    (order : small ≤ large) : Spelled large token :=
  ⟨spelled.nonempty, spelled.plain, spelled.short.trans order⟩

/-- A keyed token, its key checked by evaluation. -/
theorem keyed {bound total : Nat} (key : String) {value : Bytes}
    (spelled : Spelled bound value)
    (holds : (plainKey key &&
      decide ((text key).length + 1 + bound ≤ total)) = true) :
    Spelled total (keyedToken (key, value)) := by
  rw [Bool.and_eq_true, decide_eq_true_eq] at holds
  refine ⟨by simp [keyedToken], ?_, le_trans ?_ holds.2⟩
  · rw [keyedToken, List.all_append, List.all_append, spelled.plain,
      all_isTokenByte_of_plainKey holds.1]
    rfl
  · rw [keyedToken, List.length_append, List.length_append]
    exact Nat.add_le_add_left spelled.short _

theorem plainToken {bound : Nat} {token : Bytes} (spelled : Spelled bound token) :
    PlainToken token :=
  ⟨spelled.nonempty, spelled.plain⟩

/-- A text constant, checked by evaluation. -/
theorem constant {bytes : Bytes} {bound : Nat}
    (holds : (!bytes.isEmpty && bytes.all isTokenByte &&
      decide (bytes.length ≤ bound)) = true) : Spelled bound bytes := by
  simp only [Bool.and_eq_true, decide_eq_true_eq, Bool.not_eq_true',
    List.isEmpty_eq_false_iff] at holds
  exact ⟨holds.1.1, holds.1.2, holds.2⟩

end Spelled

theorem isTokenByte_of_isRawTokenCharacter {byte : UInt8}
    (raw : isRawTokenCharacter byte = true) : isTokenByte byte = true := by
  by_contra separator
  simp only [isTokenByte, isBlank, Bool.not_eq_true', Bool.not_eq_false,
    Bool.or_eq_true, beq_iff_eq] at separator
  rcases separator with ((rfl | rfl) | rfl) | rfl <;> exact absurd raw (by decide)

theorem all_isTokenByte_of_raw {bytes : Bytes}
    (raw : bytes.all isRawTokenCharacter = true) :
    bytes.all isTokenByte = true := by
  rw [List.all_eq_true] at raw ⊢
  intro byte member
  exact isTokenByte_of_isRawTokenCharacter (raw byte member)

theorem isTokenByte_escapeDigit {digit : Nat} (small : digit < 16) :
    isTokenByte (escapeDigit digit) = true := by
  interval_cases digit <;> rfl

theorem escapeByte_all_isTokenByte (byte : UInt8) :
    (escapeByte byte).all isTokenByte = true := by
  unfold escapeByte
  split_ifs with raw
  · simp [isTokenByte_of_isRawTokenCharacter raw]
  · have whole := byte.toNat_lt
    have upper : byte.toNat / 16 < 16 := by omega
    have lower : byte.toNat % 16 < 16 := by omega
    simp only [List.all_cons, isTokenByte_escapeDigit upper,
      isTokenByte_escapeDigit lower]
    rfl

/-- An escaped string is a token. -/
theorem spelled_encodeToken (raw : Bytes) :
    Spelled (encodeToken raw).length (encodeToken raw) := by
  rw [encodeToken_eq]
  split_ifs with empty
  · exact Spelled.constant (by decide)
  · refine ⟨?_, ?_, le_refl _⟩
    · rw [← List.length_pos_iff]
      exact Nat.lt_of_lt_of_le (List.length_pos_iff.mpr empty)
        (flatMap_escapeByte_length raw).1
    · rw [List.all_flatMap, List.all_eq_true]
      intro byte _
      exact escapeByte_all_isTokenByte byte

theorem encodeToken_length_le (raw : Bytes) :
    (encodeToken raw).length ≤ 3 * raw.length + 1 := by
  have longest := (flatMap_escapeByte_length raw).2
  rw [encodeToken_eq]
  split_ifs with empty
  · simp
  · omega

theorem plainToken_keyedToken {field : String × Bytes}
    (plain : field.2.all isTokenByte = true) (plainName : plainKey field.1 = true) :
    PlainToken (keyedToken field) := by
  refine ⟨by simp [keyedToken], ?_⟩
  rw [keyedToken, List.all_append, List.all_append, plain,
    all_isTokenByte_of_plainKey plainName]
  rfl

theorem PlainToken.keyed {field : String × Bytes} (plain : PlainToken field.2)
    (plainName : plainKey field.1 = true) : PlainToken (keyedToken field) :=
  plainToken_keyedToken plain.bytes plainName

theorem PlainToken.spelled {token : Bytes} {bound : Nat} (plain : PlainToken token)
    (short : token.length ≤ bound) : Spelled bound token :=
  ⟨plain.nonempty, plain.bytes, short⟩

theorem plainToken_encodeToken (raw : Bytes) : PlainToken (encodeToken raw) :=
  (spelled_encodeToken raw).plainToken

theorem StrongId.Valid.spelled {tag : IdentityTag} {id : StrongId tag}
    (valid : id.Valid) : Spelled kMaxIdLength id.str :=
  ⟨valid.ne_nil, all_isTokenByte_of_raw valid.all_raw, valid.length_le⟩

theorem isRawTokenCharacter_of_isDigit {byte : UInt8}
    (digit : isDigit byte = true) : isRawTokenCharacter byte = true := by
  unfold isDigit at digit
  unfold isRawTokenCharacter isAlnum
  simp [digit]

theorem isTokenByte_of_isDigit {byte : UInt8} (digit : isDigit byte = true) :
    isTokenByte byte = true :=
  isTokenByte_of_isRawTokenCharacter (isRawTokenCharacter_of_isDigit digit)

theorem plainToken_formatU64 (value : Nat) : PlainToken (formatU64 value) := by
  refine ⟨formatU64_ne_nil value, ?_⟩
  have digits := formatU64_all_isDigit value
  rw [List.all_eq_true] at digits ⊢
  intro byte member
  exact isTokenByte_of_isDigit (digits byte member)

theorem spelled_formatU64 {value : Nat} (bounded : value < 2 ^ 64) :
    Spelled 20 (formatU64 value) :=
  (plainToken_formatU64 value).spelled (formatU64_length_le bounded)

theorem isRawTokenCharacter_hexDigit {digit : Nat} (small : digit < 16) :
    isRawTokenCharacter (SlotMask.hexDigit digit) = true := by
  interval_cases digit <;> rfl

theorem Digest256.toHex_all_raw (digest : Digest256) :
    digest.toHex.all isRawTokenCharacter = true := by
  rw [Digest256.toHex, List.all_map, List.all_eq_true]
  intro position _
  exact isRawTokenCharacter_hexDigit (Nat.mod_lt _ (by decide))

theorem SlotMask.toHex_all_raw (mask : SlotMask) :
    mask.toHex.all isRawTokenCharacter = true := by
  rw [SlotMask.toHex, List.all_map, List.all_eq_true]
  intro position _
  exact isRawTokenCharacter_hexDigit (Nat.mod_lt _ (by decide))

theorem Digest256.toHex_ne_nil (digest : Digest256) : digest.toHex ≠ [] := by
  simp [Digest256.toHex]

theorem Digest256.spelled (digest : Digest256) : Spelled 64 digest.toHex :=
  ⟨digest.toHex_ne_nil, all_isTokenByte_of_raw digest.toHex_all_raw,
    by simp [Digest256.toHex]⟩

@[simp]
theorem Digest256.encodeToken_toHex (digest : Digest256) :
    encodeToken digest.toHex = digest.toHex :=
  encodeToken_of_raw digest.toHex_ne_nil digest.toHex_all_raw

theorem SlotMask.spelled (mask : SlotMask) : Spelled 64 mask.toHex :=
  ⟨by simp [SlotMask.toHex], all_isTokenByte_of_raw mask.toHex_all_raw,
    by simp [SlotMask.toHex]⟩

theorem joinTokens_length {tokens : List Bytes} (some_ : tokens ≠ []) :
    (joinTokens tokens).length + 1 =
      (tokens.map fun token => token.length + 1).sum := by
  cases tokens with
  | nil => exact (some_ rfl).elim
  | cons first rest =>
      have flattened : (rest.flatMap fun token => (32 : UInt8) :: token).length =
          (rest.map fun token => token.length + 1).sum := by
        rw [List.length_flatMap]
        rfl
      rw [joinTokens, List.length_append, flattened, List.map_cons, List.sum_cons]
      omega

theorem PlainRecord.of_spelled {bounds : List Nat} {tokens : List Bytes}
    (each : List.Forall₂ Spelled bounds tokens) (some_ : tokens ≠ []) :
    PlainRecord tokens := by
  refine ⟨some_, ?_⟩
  clear some_
  induction each with
  | nil => simp
  | cons spelled _ ih =>
      intro token member
      rcases List.mem_cons.mp member with rfl | inRest
      · exact spelled.plainToken
      · exact ih token inRest

/-- The line of a record whose tokens are bounded in length. -/
theorem joinTokens_length_le {bounds : List Nat} {tokens : List Bytes}
    (each : List.Forall₂ Spelled bounds tokens) (some_ : tokens ≠ [])
    (total : (bounds.map (· + 1)).sum ≤ kMaxTextLineBytes + 1) :
    (joinTokens tokens).length ≤ kMaxTextLineBytes := by
  have joined : (tokens.map fun token => token.length + 1).sum ≤
      (bounds.map (· + 1)).sum := by
    clear some_ total
    induction each with
    | nil => simp
    | cons spelled _ ih =>
        have := spelled.short
        simp only [List.map_cons, List.sum_cons]
        omega
  have length := joinTokens_length some_
  omega

/-- A record whose tokens are short enough is read back token by token. -/
theorem CleanRecord.of_spelled {bounds : List Nat} {tokens : List Bytes}
    (each : List.Forall₂ Spelled bounds tokens)
    (fits : (!bounds.isEmpty && bounds.all (· ≤ kMaxTokenBytes) &&
      decide ((bounds.map (· + 1)).sum ≤ kMaxTextLineBytes + 1)) = true) :
    CleanRecord tokens := by
  simp only [Bool.and_eq_true, decide_eq_true_eq, Bool.not_eq_true',
    List.isEmpty_eq_false_iff] at fits
  obtain ⟨⟨nonempty, short⟩, total⟩ := fits
  have some_ : tokens ≠ [] := by
    rintro rfl
    cases each
    exact nonempty rfl
  refine ⟨PlainRecord.of_spelled each some_, joinTokens_length_le each some_ total,
    ?_⟩
  clear total some_ nonempty
  induction each with
  | nil => simp
  | cons spelled _ ih =>
      rw [List.all_cons, Bool.and_eq_true, decide_eq_true_eq] at short
      intro token member
      rcases List.mem_cons.mp member with rfl | inRest
      · exact spelled.short.trans short.1
      · exact ih short.2 token inRest

/-! ### Published facts -/

section Evidence

variable {α : Type}

/-- The spelling of a tri-state field. -/
def spellEvidence (spell : α → Bytes) : Evidence α → Bytes
  | .known value => spell value
  | .unknown => text "unknown"
  | .conflicting => text "conflicting"

theorem LineAssembler.addEvidence_eq (line : LineAssembler) (key : String)
    (spell : α → Bytes) (evidence : Evidence α) :
    line.addEvidence key spell evidence =
      line.addKeyRaw key (spellEvidence spell evidence) := by
  cases evidence <;> rfl

/-- A tri-state field: the two reserved words, or a value. -/
def parseEvidence (parse : Bytes → Except Status α) (token : Bytes) :
    Except Status (Evidence α) :=
  if token = text "unknown" then .ok .unknown
  else if token = text "conflicting" then .ok .conflicting
  else Evidence.known <$> parse token

/-- A spelling that is neither of the reserved words. -/
def Unreserved (bytes : Bytes) : Prop :=
  bytes ≠ text "unknown" ∧ bytes ≠ text "conflicting"

theorem parseEvidence_spellEvidence {parse : Bytes → Except Status α}
    {spell : α → Bytes} {evidence : Evidence α}
    (reads : ∀ value, evidence = .known value →
      parse (spell value) = .ok value ∧ Unreserved (spell value)) :
    parseEvidence parse (spellEvidence spell evidence) = .ok evidence := by
  cases evidence with
  | known value =>
      obtain ⟨read, notUnknown, notConflicting⟩ := reads value rfl
      simp only [parseEvidence, spellEvidence, if_neg notUnknown,
        if_neg notConflicting, read]
      rfl
  | unknown => rfl
  | conflicting => rfl

theorem spelled_spellEvidence {spell : α → Bytes} {evidence : Evidence α}
    {bound : Nat} (fits : 11 ≤ bound)
    (spelled : ∀ value, evidence = .known value → Spelled bound (spell value)) :
    Spelled bound (spellEvidence spell evidence) := by
  cases evidence with
  | known value => exact spelled value rfl
  | unknown =>
      exact (Spelled.constant (by decide) : Spelled 11 (text "unknown")).mono fits
  | conflicting =>
      exact (Spelled.constant (by decide) :
        Spelled 11 (text "conflicting")).mono fits

end Evidence

/-! ### Numbers -/

/-- The bytes of the numeric grammar. -/
def isNumericByte (byte : UInt8) : Bool :=
  isDigit byte || byte == 46 || byte == 45 || byte == 43 || byte == 101 ||
    byte == 69

/-- `std::from_chars` beside the spelling that `std::to_chars` gives: which
numbers are doubles, and that a double is read back from its spelling. -/
structure DoubleText {K : Type} (formatDouble : K → Bytes) where
  IsDouble : K → Prop
  /-- The finite double that a text spells from its first byte to its last. -/
  fromChars : Bytes → Option K
  fromChars_formatDouble : ∀ value, IsDouble value →
    fromChars (formatDouble value) = some value
  isDouble_fromChars : ∀ bytes value, fromChars bytes = some value →
    IsDouble value
  formatDouble_ne_nil : ∀ value, IsDouble value → formatDouble value ≠ []
  formatDouble_numeric : ∀ value, IsDouble value →
    (formatDouble value).all isNumericByte = true
  /-- The buffer that `std::to_chars` writes to has this size. -/
  formatDouble_length : ∀ value, IsDouble value →
    (formatDouble value).length ≤ 64

namespace DoubleText

variable {K : Type} {formatDouble : K → Bytes} (numbers : DoubleText formatDouble)

def parseDouble (bytes : Bytes) : Except Status K :=
  if bytes.isEmpty then
    .error (failure .malformedInput (text "double must not be empty"))
  else if ¬ bytes.all isNumericByte then
    .error (failure .malformedInput
      (text "double contains characters outside the numeric grammar"))
  else
    match numbers.fromChars bytes with
    | some value => .ok value
    | none => .error (failure .malformedInput
        (text "double could not be parsed exactly"))

variable {numbers}

theorem parseDouble_formatDouble {value : K} (double : numbers.IsDouble value) :
    numbers.parseDouble (formatDouble value) = .ok value := by
  have nonempty : (formatDouble value).isEmpty = false :=
    List.isEmpty_eq_false_iff.mpr (numbers.formatDouble_ne_nil value double)
  simp [parseDouble, nonempty, numbers.formatDouble_numeric value double,
    numbers.fromChars_formatDouble value double]

theorem isDouble_of_parseDouble {bytes : Bytes} {value : K}
    (parsed : numbers.parseDouble bytes = .ok value) : numbers.IsDouble value := by
  unfold parseDouble at parsed
  split_ifs at parsed
  cases read : numbers.fromChars bytes with
  | none => simp [read] at parsed
  | some number =>
      simp only [read, Except.ok.injEq] at parsed
      rw [← parsed]
      exact numbers.isDouble_fromChars bytes number read

theorem spelled {value : K} (double : numbers.IsDouble value) :
    Spelled 64 (formatDouble value) := by
  refine ⟨numbers.formatDouble_ne_nil value double, ?_,
    numbers.formatDouble_length value double⟩
  have numeric := numbers.formatDouble_numeric value double
  rw [List.all_eq_true] at numeric ⊢
  intro byte member
  have isNumeric := numeric byte member
  by_contra separator
  simp only [isTokenByte, isBlank, Bool.not_eq_true', Bool.not_eq_false,
    Bool.or_eq_true, beq_iff_eq] at separator
  rcases separator with ((rfl | rfl) | rfl) | rfl <;>
    exact absurd isNumeric (by decide)

end DoubleText

/-! ### Whole numbers as doubles -/

/-- A rational that is a natural number is spelled as that number. -/
theorem rationalRuntime_formatDouble_natCast (whole : Nat) :
    rationalRuntime.formatDouble (whole : ℚ) = formatU64 whole := by
  have spelled : toString (whole : ℚ) = toString whole := by
    change (if (whole : ℚ).den = 1 then toString (whole : ℚ).num else _) = _
    rw [if_pos (Rat.den_natCast whole), Rat.num_natCast]
    rfl
  change text (toString (whole : ℚ)) = text (toString whole)
  rw [spelled]

/-- The small whole numbers among the rationals, which `std::to_chars` spells
as plain decimals. -/
def wholeNumbers : DoubleText rationalRuntime.formatDouble where
  IsDouble value := ∃ whole : Nat, whole < 100000 ∧ value = whole
  fromChars bytes :=
    if bytes.all isDigit ∧ decimalValue bytes < 100000 then
      some (decimalValue bytes)
    else
      none
  fromChars_formatDouble := by
    rintro value ⟨whole, small, rfl⟩
    rw [rationalRuntime_formatDouble_natCast, decimalValue_formatU64,
      if_pos ⟨formatU64_all_isDigit whole, small⟩]
  isDouble_fromChars := by
    intro bytes value read
    split_ifs at read with small
    cases read
    exact ⟨_, small.2, rfl⟩
  formatDouble_ne_nil := by
    rintro value ⟨whole, _, rfl⟩
    rw [rationalRuntime_formatDouble_natCast]
    exact formatU64_ne_nil whole
  formatDouble_numeric := by
    rintro value ⟨whole, _, rfl⟩
    rw [rationalRuntime_formatDouble_natCast, List.all_eq_true]
    intro byte member
    simp [isNumericByte,
      List.all_eq_true.mp (formatU64_all_isDigit whole) byte member]
  formatDouble_length := by
    rintro value ⟨whole, small, rfl⟩
    rw [rationalRuntime_formatDouble_natCast]
    exact (formatU64_length_le (by omega)).trans (by decide)

/-- Bytes of a class that has no letter `n` are no reserved word. -/
theorem unreserved_of_all {bytes : Bytes} {legal : UInt8 → Bool}
    (all : bytes.all legal = true) (noN : legal 110 = false) :
    Unreserved bytes := by
  rw [List.all_eq_true] at all
  constructor
  · rintro rfl
    exact absurd (all 110 (by decide)) (by simp [noN])
  · rintro rfl
    exact absurd (all 110 (by decide)) (by simp [noN])

theorem unreserved_formatU64 (value : Nat) : Unreserved (formatU64 value) :=
  unreserved_of_all (formatU64_all_isDigit value) (by decide)

theorem DoubleText.unreserved {K : Type} {formatDouble : K → Bytes}
    {numbers : DoubleText formatDouble} {value : K}
    (double : numbers.IsDouble value) : Unreserved (formatDouble value) :=
  unreserved_of_all (numbers.formatDouble_numeric value double) (by decide)

theorem SlotMask.unreserved (mask : SlotMask) : Unreserved mask.toHex := by
  have width : mask.toHex.length = 64 := by simp [SlotMask.toHex]
  constructor <;> intro reserved <;> rw [reserved] at width <;>
    exact absurd width (by decide)

theorem AdminState.unreserved (state : AdminState) : Unreserved state.name := by
  cases state <;> exact ⟨by decide, by decide⟩

/-! ### Failure domains -/

theorem joinCommas_eq (pieces : List Bytes) :
    joinCommas pieces = [44].intercalate pieces := by
  induction pieces with
  | nil => rfl
  | cons first rest ih =>
      cases rest with
      | nil => simp [joinCommas]
      | cons second rest =>
          rw [joinCommas, ih]
          · simp [List.intercalate, List.intersperse]
          · simp

/-- Pieces without a comma are told apart by the commas between them. -/
theorem splitOn_joinCommas_of_ne {pieces : List Bytes}
    (free : ∀ piece ∈ pieces, ∀ byte ∈ piece, byte ≠ 44) (some_ : pieces ≠ []) :
    (joinCommas pieces).splitOn 44 = pieces := by
  rw [joinCommas_eq]
  exact List.splitOn_intercalate 44
    (fun piece member comma => free piece member 44 comma rfl) some_

/-- Commas separate identifiers and stand in none of them. -/
theorem splitOn_joinCommas {domains : List FailureDomainId}
    (valid : ∀ domain ∈ domains, domain.Valid) (some_ : domains ≠ []) :
    (joinCommas (domains.map StrongId.str)).splitOn 44 =
      domains.map StrongId.str := by
  refine splitOn_joinCommas_of_ne ?_ (by simpa using some_)
  rw [List.forall_mem_map]
  rintro domain isDomain _ comma rfl
  have legal := List.all_eq_true.mp (valid domain isDomain).all_isIdByte 44 comma
  exact absurd legal (by decide)

theorem all_joinCommas {pieces : List Bytes}
    (plain : ∀ piece ∈ pieces, piece.all isTokenByte = true) :
    (joinCommas pieces).all isTokenByte = true := by
  induction pieces with
  | nil => rfl
  | cons first rest ih =>
      rw [List.forall_mem_cons] at plain
      cases rest with
      | nil => exact plain.1
      | cons second rest =>
          rw [joinCommas, List.all_append, List.all_append, plain.1, ih plain.2]
          · rfl
          · simp

theorem joinCommas_ne_nil {domains : List FailureDomainId}
    (valid : ∀ domain ∈ domains, domain.Valid) (some_ : domains ≠ []) :
    joinCommas (domains.map StrongId.str) ≠ [] := by
  cases domains with
  | nil => exact (some_ rfl).elim
  | cons first rest =>
      have named := (valid first List.mem_cons_self).ne_nil
      cases rest <;> simp [joinCommas, named]

theorem plainToken_joinCommas {domains : List FailureDomainId}
    (valid : ∀ domain ∈ domains, domain.Valid) (some_ : domains ≠ []) :
    PlainToken (joinCommas (domains.map StrongId.str)) := by
  refine ⟨joinCommas_ne_nil valid some_, all_joinCommas ?_⟩
  rw [List.forall_mem_map]
  exact fun domain member => (valid domain member).spelled.plain

/-! ### Keys that are split at a colon -/

/-- What stands before and behind the first separator. -/
def cutAt (separator : UInt8) : Bytes → Option (Bytes × Bytes)
  | [] => none
  | byte :: rest =>
      if byte = separator then some ([], rest)
      else (cutAt separator rest).map fun parts => (byte :: parts.1, parts.2)

theorem cutAt_append {separator : UInt8} {first : Bytes}
    (plain : separator ∉ first) (rest : Bytes) :
    cutAt separator (first ++ separator :: rest) = some (first, rest) := by
  induction first with
  | nil => simp [cutAt]
  | cons byte tail ih =>
      rw [List.mem_cons, not_or] at plain
      rw [List.cons_append, cutAt, if_neg (Ne.symm plain.1), ih plain.2]
      rfl

theorem eq_append_of_cutAt {separator : UInt8} {bytes first rest : Bytes}
    (cut : cutAt separator bytes = some (first, rest)) :
    bytes = first ++ separator :: rest ∧ separator ∉ first := by
  induction bytes generalizing first with
  | nil => cases cut
  | cons byte tail ih =>
      unfold cutAt at cut
      split_ifs at cut with found
      · cases cut
        simp [found]
      · obtain ⟨parts, cutTail, same⟩ := Option.map_eq_some_iff.mp cut
        cases same
        obtain ⟨rfl, plain⟩ := ih cutTail
        refine ⟨rfl, ?_⟩
        rw [List.mem_cons, not_or]
        exact ⟨Ne.symm found, plain⟩

def parseResourceKind : Bytes → Option ResourceKind :=
  findName [.node, .port, .span, .crossConnect, .failureDomain, .reachProfile,
    .channel, .source] ResourceKind.name

def resourceKeyFromString (bytes : Bytes) : Except Status ResourceKey :=
  match cutAt 58 bytes with
  | none => .error (failure .malformedInput
      (text "resource key must be spelled kind:text"))
  | some (kindText, body) =>
      if kindText.isEmpty then
        .error (failure .malformedInput
          (text "resource key must be spelled kind:text"))
      else if body.isEmpty then
        .error (failure .malformedInput
          (text "resource key body must not be empty"))
      else
        match parseResourceKind kindText with
        | some kind => .ok ⟨kind, body⟩
        | none => .error (failure .malformedInput
            (text "unrecognised resource kind '" ++ kindText ++ text "'"))

theorem parseResourceKind_name (kind : ResourceKind) :
    parseResourceKind kind.name = some kind := by
  cases kind <;> decide

theorem resourceKeyFromString_toBytes {key : ResourceKey} (named : key.text ≠ []) :
    resourceKeyFromString key.toBytes = .ok key := by
  have plain : (58 : UInt8) ∉ key.kind.name ∧ key.kind.name.isEmpty = false := by
    cases key.kind <;> decide
  have spelled : key.toBytes = key.kind.name ++ 58 :: key.text := by
    rw [ResourceKey.toBytes, List.append_assoc]
    rfl
  have body : key.text.isEmpty = false := List.isEmpty_eq_false_iff.mpr named
  rw [resourceKeyFromString, spelled, cutAt_append plain.1]
  simp [plain.2, body, parseResourceKind_name]

/-- The spelling of a key without text is refused. -/
theorem named_of_resourceKeyFromString_toBytes {key other : ResourceKey}
    (parsed : resourceKeyFromString key.toBytes = .ok other) : key.text ≠ [] := by
  intro unnamed
  have plain : (58 : UInt8) ∉ key.kind.name ∧ key.kind.name.isEmpty = false := by
    cases key.kind <;> decide
  have spelled : key.toBytes = key.kind.name ++ 58 :: [] := by
    rw [ResourceKey.toBytes, unnamed, List.append_nil]
    rfl
  rw [resourceKeyFromString, spelled, cutAt_append plain.1] at parsed
  simp [plain.2] at parsed

theorem named_of_resourceKeyFromString {bytes : Bytes} {key : ResourceKey}
    (parsed : resourceKeyFromString bytes = .ok key) : key.text ≠ [] := by
  unfold resourceKeyFromString at parsed
  cases cut : cutAt 58 bytes with
  | none => simp [cut] at parsed
  | some parts =>
      obtain ⟨kindText, body⟩ := parts
      simp only [cut] at parsed
      split_ifs at parsed with noKind noBody
      cases found : parseResourceKind kindText with
      | none => simp [found] at parsed
      | some kind =>
          simp only [found, Except.ok.injEq] at parsed
          subst parsed
          simpa using noBody

end OpticalPathPlanner
