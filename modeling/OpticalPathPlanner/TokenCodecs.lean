import OpticalPathPlanner.ArtifactText
import OpticalPathPlanner.TextRecords

/-!
# Reading single tokens

The readers for the values a token can hold: unsigned integers, booleans,
hex words, escaped strings, names of enumerators and identifiers.  Beside
each reader stands the law that it undoes the writer.
-/

namespace OpticalPathPlanner

/-- Failures met while decoding are reported as malformed input, unless their
code says more than that. -/
def normaliseDecodeStatus (status : Status) : Status :=
  match status.code with
  | .ok | .unsupported | .limitExceeded | .integrityFailure => status
  | code => failure .malformedInput (code.name ++ text ": " ++ status.detail)

/-- The failure of a record on a numbered line. -/
def failAtLine {α : Type} (number : Nat) : Except Status α → Except Status α
  | .ok value => .ok value
  | .error status => .error (atLine number (normaliseDecodeStatus status))

@[simp]
theorem ok_bind {ε α β : Type} (value : α) (next : α → Except ε β) :
    (Except.ok value >>= next) = next value :=
  rfl

@[simp]
theorem error_bind {ε α β : Type} (status : ε) (next : α → Except ε β) :
    ((Except.error status : Except ε α) >>= next) = .error status :=
  rfl

@[simp]
theorem pure_eq_ok {ε α : Type} (value : α) :
    (pure value : Except ε α) = .ok value :=
  rfl

@[simp]
theorem map_ok {ε α β : Type} (f : α → β) (value : α) :
    (f <$> (Except.ok value : Except ε α)) = .ok (f value) :=
  rfl

theorem toOption_eq_some_iff {ε α : Type} {result : Except ε α} {value : α} :
    result.toOption = some value ↔ result = .ok value := by
  cases result with
  | error status => simp [Except.toOption]
  | ok other => simp [Except.toOption]

@[simp]
theorem failAtLine_ok {α : Type} (number : Nat) (value : α) :
    failAtLine number (.ok value) = .ok value :=
  rfl

/-! ### Unsigned integers -/

def isDigit (byte : UInt8) : Bool := 48 ≤ byte && byte ≤ 57

def decimalValue (bytes : Bytes) : Nat :=
  bytes.foldl (fun value byte => 10 * value + (byte.toNat - 48)) 0

def parseUnsigned (maximum : Nat) (what : String) (bytes : Bytes) :
    Except Status Nat :=
  if bytes.isEmpty then
    .error (failure .malformedInput (text what ++ text " must not be empty"))
  else if ¬ bytes.all isDigit then
    .error (failure .malformedInput
      (text what ++ text " must be an unsigned decimal integer"))
  else if decimalValue bytes ≥ 2 ^ 64 ∨ decimalValue bytes > maximum then
    .error (failure .malformedInput (text what ++ text " is out of range"))
  else
    .ok (decimalValue bytes)

def parseU64 (bytes : Bytes) : Except Status UInt64 :=
  UInt64.ofNat <$> parseUnsigned (2 ^ 64 - 1) "u64" bytes

def parseU32 (bytes : Bytes) : Except Status UInt32 :=
  UInt32.ofNat <$> parseUnsigned (2 ^ 32 - 1) "u32" bytes

def parseU16 (bytes : Bytes) : Except Status UInt16 :=
  UInt16.ofNat <$> parseUnsigned (2 ^ 16 - 1) "u16" bytes

/-- The byte of an ASCII character. -/
def asciiByte (character : Char) : UInt8 := character.val.toUInt8

/-- A text constant of decimal digits, byte by byte. -/
theorem text_ofList_digits {digits : List Char}
    (decimal : ∀ digit ∈ digits, digit.isDigit = true) :
    text (String.ofList digits) = digits.map asciiByte := by
  unfold text String.toUTF8
  rw [String.toByteArray_ofList]
  induction digits with
  | nil => simp
  | cons digit rest ih =>
      have isDigit := decimal digit List.mem_cons_self
      have one : digit.utf8Size = 1 := by
        have range := (Char.isDigit_iff_toNat.mp isDigit).2
        have nine : '9'.toNat = 57 := rfl
        rw [Char.utf8Size, if_pos]
        rw [UInt32.le_iff_toNat_le]
        change digit.toNat ≤ 127
        omega
      rw [List.utf8Encode_cons, List.utf8Encode_singleton,
        String.utf8EncodeChar_eq_singleton one, ByteArray.data_append,
        List.data_toByteArray, Array.toList_append,
        ih fun other member => decimal other (List.mem_cons_of_mem digit member)]
      simp [asciiByte]

theorem isDigit_of_mem_toDigits {value : Nat} :
    ∀ digit ∈ Nat.toDigits 10 value, digit.isDigit = true := by
  intro digit member
  exact Nat.isDigit_of_mem_toDigits (by decide) (by decide) member

/-- The decimal spelling, digit by digit. -/
theorem formatU64_eq (value : Nat) :
    formatU64 value = (Nat.toDigits 10 value).map asciiByte := by
  unfold formatU64
  change text value.repr = _
  rw [Nat.repr_eq_ofList_toDigits]
  exact text_ofList_digits isDigit_of_mem_toDigits

theorem asciiByte_toNat {character : Char} (isDigit : character.isDigit = true) :
    (asciiByte character).toNat = character.toNat := by
  have range := (Char.isDigit_iff_toNat.mp isDigit).2
  have nine : '9'.toNat = 57 := rfl
  unfold asciiByte
  rw [UInt32.toNat_toUInt8]
  change character.toNat % 2 ^ 8 = character.toNat
  omega

theorem isDigit_asciiByte {character : Char} (decimal : character.isDigit = true) :
    isDigit (asciiByte character) = true := by
  have range := Char.isDigit_iff_toNat.mp decimal
  have zero : '0'.toNat = 48 := rfl
  have nine : '9'.toNat = 57 := rfl
  simp only [isDigit, Bool.and_eq_true, decide_eq_true_eq, UInt8.le_iff_toNat_le,
    asciiByte_toNat decimal]
  constructor
  · change 48 ≤ character.toNat
    omega
  · change character.toNat ≤ 57
    omega

theorem formatU64_all_isDigit (value : Nat) :
    (formatU64 value).all isDigit = true := by
  rw [formatU64_eq, List.all_map, List.all_eq_true]
  intro digit member
  exact isDigit_asciiByte (isDigit_of_mem_toDigits digit member)

theorem formatU64_ne_nil (value : Nat) : formatU64 value ≠ [] := by
  rw [formatU64_eq, ne_eq, List.map_eq_nil_iff, ← List.length_eq_zero_iff]
  exact Nat.length_toDigits_pos.ne'

/-- Twenty digits hold a 64-bit number. -/
theorem formatU64_length_le {value : Nat} (bounded : value < 2 ^ 64) :
    (formatU64 value).length ≤ 20 := by
  rw [formatU64_eq, List.length_map, Nat.length_toDigits_le_iff (by decide)
    (by decide)]
  omega

theorem decimalValue_map_asciiByte {digits : List Char}
    (decimal : ∀ digit ∈ digits, digit.isDigit = true) :
    decimalValue (digits.map asciiByte) = Nat.ofDigitChars 10 digits 0 := by
  unfold decimalValue
  rw [Nat.ofDigitChars_eq_foldl]
  generalize 0 = start
  induction digits generalizing start with
  | nil => rfl
  | cons digit rest ih =>
      rw [List.map_cons, List.foldl_cons, List.foldl_cons,
        ih fun other member => decimal other (List.mem_cons_of_mem digit member),
        asciiByte_toNat (decimal digit List.mem_cons_self)]
      rfl

theorem decimalValue_formatU64 (value : Nat) :
    decimalValue (formatU64 value) = value := by
  rw [formatU64_eq, decimalValue_map_asciiByte isDigit_of_mem_toDigits]
  exact Nat.ofDigitChars_toDigits (by decide) (by decide)

theorem parseUnsigned_formatU64 {maximum value : Nat} (what : String)
    (bounded : value ≤ maximum) (maximum_lt : maximum < 2 ^ 64) :
    parseUnsigned maximum what (formatU64 value) = .ok value := by
  have nonempty : (formatU64 value).isEmpty = false :=
    List.isEmpty_eq_false_iff.mpr (formatU64_ne_nil value)
  unfold parseUnsigned
  rw [nonempty, formatU64_all_isDigit, decimalValue_formatU64]
  have inRange : ¬ (value ≥ 2 ^ 64 ∨ value > maximum) := by omega
  rw [if_neg inRange]
  rfl

@[simp]
theorem parseU64_formatU64 (value : UInt64) :
    parseU64 (formatU64 value.toNat) = .ok value := by
  have bounded := value.toNat_lt
  rw [parseU64, parseUnsigned_formatU64 _ (by omega) (by omega)]
  simp

theorem parseU64_formatU64_nat {value : Nat} (bounded : value < 2 ^ 64) :
    parseU64 (formatU64 value) = .ok (UInt64.ofNat value) := by
  rw [parseU64, parseUnsigned_formatU64 _ (by omega) (by omega)]
  rfl

@[simp]
theorem parseU32_formatU64 (value : UInt32) :
    parseU32 (formatU64 value.toNat) = .ok value := by
  have bounded := value.toNat_lt
  rw [parseU32, parseUnsigned_formatU64 _ (by omega) (by omega)]
  simp

theorem parseU32_formatU64_nat {value : Nat} (bounded : value < 2 ^ 32) :
    parseU32 (formatU64 value) = .ok (UInt32.ofNat value) := by
  rw [parseU32, parseUnsigned_formatU64 _ (by omega) (by omega)]
  rfl

theorem parseU16_formatU64_nat {value : Nat} (bounded : value < 2 ^ 16) :
    parseU16 (formatU64 value) = .ok (UInt16.ofNat value) := by
  rw [parseU16, parseUnsigned_formatU64 _ (by omega) (by omega)]
  rfl

/-! ### Hex words -/

def hexValue? (byte : UInt8) : Option Nat :=
  if 48 ≤ byte ∧ byte ≤ 57 then some (byte.toNat - 48)
  else if 97 ≤ byte ∧ byte ≤ 102 then some (byte.toNat - 97 + 10)
  else if 65 ≤ byte ∧ byte ≤ 70 then some (byte.toNat - 65 + 10)
  else none

/-- The digits of a hex text, most significant first, or nothing when a byte
is no hex digit. -/
def hexValue (bytes : Bytes) : Option Nat :=
  bytes.foldlM (fun value byte =>
    (hexValue? byte).map fun digit => 16 * value + digit) 0

def Digest256.fromHex (bytes : Bytes) : Except Status Digest256 :=
  match if bytes.length = 64 then hexValue bytes else none with
  | some value => .ok ⟨BitVec.ofNat 256 value⟩
  | none => .error (failure .malformedInput
      (text "digest hex must be 64 lowercase or uppercase hex characters"))

def SlotMask.fromHex (bytes : Bytes) : Except Status SlotMask :=
  if bytes.length ≠ 64 then
    .error (failure .malformedInput
      (text "slot mask hex must be exactly 64 characters"))
  else
    match hexValue bytes with
    | .some value => .ok ⟨BitVec.ofNat 256 value⟩
    | .none => .error (failure .malformedInput
        (text "slot mask hex contains a non-hex character"))

theorem hexValue?_hexDigit {digit : Nat} (small : digit < 16) :
    hexValue? (SlotMask.hexDigit digit) = some digit := by
  interval_cases digit <;> rfl

/-- The digits of a number in a field of fixed width. -/
theorem hexValue_digits (width value start : Nat) :
    ((List.range width).map fun position =>
        SlotMask.hexDigit (value / 16 ^ (width - 1 - position) % 16)).foldlM
      (fun value byte => (hexValue? byte).map fun digit => 16 * value + digit)
      start = some (start * 16 ^ width + value % 16 ^ width) := by
  induction width generalizing start with
  | zero => simp [Nat.mod_one]
  | succ width ih =>
      rw [List.range_succ_eq_map, List.map_cons, List.map_map, List.foldlM_cons,
        hexValue?_hexDigit (Nat.mod_lt _ (by decide))]
      have shifted : ((fun position =>
          SlotMask.hexDigit (value / 16 ^ (width + 1 - 1 - position) % 16)) ∘
            Nat.succ) =
          fun position =>
            SlotMask.hexDigit (value / 16 ^ (width - 1 - position) % 16) := by
        funext position
        have exponent : width + 1 - 1 - (position + 1) = width - 1 - position := by
          omega
        simp only [Function.comp, Nat.succ_eq_add_one, exponent]
      have split : value % 16 ^ (width + 1) =
          value % 16 ^ width + 16 ^ width * (value / 16 ^ width % 16) :=
        Nat.mod_pow_succ
      rw [shifted]
      simp only [Option.map_some, Option.bind_eq_bind, Option.bind_some, ih,
        Nat.add_sub_cancel, Nat.sub_zero, split]
      congr 1
      ring

theorem hexValue_toHex (value : BitVec 256) :
    hexValue ((List.range 64).map fun position =>
      SlotMask.hexDigit (value.toNat / 16 ^ (63 - position) % 16)) =
        some value.toNat := by
  have digits := hexValue_digits 64 value.toNat 0
  have small : value.toNat % 16 ^ 64 = value.toNat :=
    Nat.mod_eq_of_lt value.isLt
  rw [small] at digits
  simpa [hexValue] using digits

@[simp]
theorem Digest256.fromHex_toHex (digest : Digest256) :
    Digest256.fromHex digest.toHex = .ok digest := by
  have width : digest.toHex.length = 64 := by simp [Digest256.toHex]
  unfold Digest256.fromHex
  rw [if_pos width, Digest256.toHex, hexValue_toHex]
  simp

@[simp]
theorem SlotMask.fromHex_toHex (mask : SlotMask) :
    SlotMask.fromHex mask.toHex = .ok mask := by
  have width : mask.toHex.length = 64 := by simp [SlotMask.toHex]
  unfold SlotMask.fromHex
  rw [if_neg (not_not.mpr width), SlotMask.toHex, hexValue_toHex]
  simp

/-! ### Escaped strings -/

/-- Undo the escapes of a token. -/
def decodeEscapes : Bytes → Except Status Bytes
  | [] => .ok []
  | byte :: rest =>
      if byte ≠ 37 then
        (byte :: ·) <$> decodeEscapes rest
      else
        match rest with
        | high :: low :: rest =>
            match hexValue? high, hexValue? low with
            | some upper, some lower =>
                (UInt8.ofNat (16 * upper + lower) :: ·) <$> decodeEscapes rest
            | _, _ => .error (failure .malformedInput
                (text "truncated percent escape in token"))
        | _ => .error (failure .malformedInput
            (text "truncated percent escape in token"))

def decodeToken (token : Bytes) : Except Status Bytes :=
  if token.isEmpty then
    .error (failure .malformedInput (text "empty token"))
  else if token.length > kMaxTokenBytes * 3 then
    .error (failure .malformedInput
      (text "token exceeds the maximum encoded length"))
  else if token = [37] then
    .ok []
  else
    decodeEscapes token

theorem hexValue?_escapeDigit {digit : Nat} (small : digit < 16) :
    hexValue? (escapeDigit digit) = some digit := by
  interval_cases digit <;> rfl

theorem ne_percent_of_isRawTokenCharacter {byte : UInt8}
    (raw : isRawTokenCharacter byte = true) : byte ≠ 37 := by
  rintro rfl
  exact absurd raw (by decide)

/-- Reading past the spelling of one byte. -/
theorem decodeEscapes_escapeByte (byte : UInt8) (rest : Bytes) :
    decodeEscapes (escapeByte byte ++ rest) =
      (byte :: ·) <$> decodeEscapes rest := by
  unfold escapeByte
  split_ifs with raw
  · rw [List.singleton_append, decodeEscapes.eq_def]
    simp [ne_percent_of_isRawTokenCharacter raw]
  · have whole := byte.toNat_lt
    have upper : byte.toNat / 16 < 16 := by omega
    have lower : byte.toNat % 16 < 16 := by omega
    have joined : UInt8.ofNat (16 * (byte.toNat / 16) + byte.toNat % 16) = byte := by
      rw [Nat.div_add_mod, UInt8.ofNat_toNat]
    simp [decodeEscapes, hexValue?_escapeDigit upper, hexValue?_escapeDigit lower,
      joined]

theorem decodeEscapes_flatMap (raw : Bytes) :
    decodeEscapes (raw.flatMap escapeByte) = .ok raw := by
  induction raw with
  | nil => rfl
  | cons byte rest ih =>
      rw [List.flatMap_cons, decodeEscapes_escapeByte, ih]
      rfl

theorem escapeByte_length (byte : UInt8) :
    1 ≤ (escapeByte byte).length ∧ (escapeByte byte).length ≤ 3 := by
  unfold escapeByte
  split_ifs <;> simp

theorem flatMap_escapeByte_length (raw : Bytes) :
    raw.length ≤ (raw.flatMap escapeByte).length ∧
      (raw.flatMap escapeByte).length ≤ 3 * raw.length := by
  induction raw with
  | nil => simp
  | cons byte rest ih =>
      have one := escapeByte_length byte
      rw [List.flatMap_cons, List.length_append, List.length_cons]
      omega

theorem flatMap_escapeByte_of_raw {raw : Bytes}
    (plain : raw.all isRawTokenCharacter = true) :
    raw.flatMap escapeByte = raw := by
  induction raw with
  | nil => rfl
  | cons byte rest ih =>
      rw [List.all_cons, Bool.and_eq_true] at plain
      rw [List.flatMap_cons, ih plain.2, escapeByte, if_pos plain.1]
      rfl

/-- Only the empty string is not spelled byte by byte. -/
theorem encodeToken_eq (raw : Bytes) :
    encodeToken raw = if raw = [] then [37] else raw.flatMap escapeByte := by
  cases raw with
  | nil => rfl
  | cons byte rest =>
      have spelled : ((byte :: rest).flatMap escapeByte).isEmpty = false := by
        have longer := (flatMap_escapeByte_length (byte :: rest)).1
        rw [List.isEmpty_eq_false_iff, ← List.length_pos_iff]
        exact Nat.lt_of_lt_of_le (by simp) longer
      simp only [encodeToken, if_neg (List.cons_ne_nil byte rest), spelled]
      by_cases plain : (byte :: rest).all isRawTokenCharacter = true
      · rw [flatMap_escapeByte_of_raw plain]
        simp
      · have escaped : ((byte :: rest).any fun byte =>
            !isRawTokenCharacter byte) = true := by
          obtain ⟨odd, member, notRaw⟩ :=
            List.all_eq_false.mp (Bool.eq_false_iff.mpr plain)
          exact List.any_eq_true.mpr ⟨odd, member, by simpa using notRaw⟩
        simp [escaped]

/-- A string whose spelling is not too long is read back. -/
theorem decodeToken_encodeToken {raw : Bytes}
    (short : (encodeToken raw).length ≤ kMaxTokenBytes * 3) :
    decodeToken (encodeToken raw) = .ok raw := by
  by_cases empty : raw = []
  · subst empty
    rfl
  · rw [encodeToken_eq, if_neg empty] at short ⊢
    have nonempty : raw.flatMap escapeByte ≠ [] := by
      rw [← List.length_pos_iff]
      exact Nat.lt_of_lt_of_le (List.length_pos_iff.mpr empty)
        (flatMap_escapeByte_length raw).1
    have notLone : raw.flatMap escapeByte ≠ [37] := by
      intro lone
      have read := decodeEscapes_flatMap raw
      rw [lone] at read
      cases read
    unfold decodeToken
    rw [if_neg (by simpa using nonempty), if_neg (not_lt.mpr short),
      if_neg notLone]
    exact decodeEscapes_flatMap raw

/-! ### Booleans and names -/

def parseBoolToken (bytes : Bytes) : Except Status Bool :=
  if bytes = text "true" ∨ bytes = text "1" then .ok true
  else if bytes = text "false" ∨ bytes = text "0" then .ok false
  else .error (failure .malformedInput
    (text "boolean token must be true, false, 1 or 0"))

@[simp]
theorem parseBoolToken_booleanName (value : Bool) :
    parseBoolToken (booleanName value) = .ok value := by
  cases value <;> decide

/-- The enumerator of a list that has a given name. -/
def findName {α : Type} (all : List α) (name : α → Bytes) (bytes : Bytes) :
    Option α :=
  all.find? fun value => name value == bytes

theorem name_of_findName {α : Type} {all : List α} {name : α → Bytes}
    {bytes : Bytes} {value : α} (found : findName all name bytes = some value) :
    name value = bytes := by
  simpa using List.find?_some found

def parseAdminState : Bytes → Option AdminState :=
  findName [.up, .down, .maintenance] AdminState.name

def parseNodeKind : Bytes → Option NodeKind :=
  findName [.terminal, .reconfigurableOadm, .opticalCrossConnect, .amplifier,
    .regenerator] NodeKind.name

def parsePortRole : Bytes → Option PortRole :=
  findName [.client, .line, .add, .drop, .express, .monitor] PortRole.name

def parseCrossConnectOp : Bytes → Option CrossConnectOp :=
  findName [.express, .convert, .regenerate] CrossConnectOp.name

def parseGridKind : Bytes → Option GridKind :=
  findName [.fixed50GHz, .flex12_5GHz] GridKind.name

def parseDisjointness : Bytes → Option Disjointness :=
  findName [.none, .node, .span, .failureDomain] Disjointness.name

@[simp]
theorem parseAdminState_name (state : AdminState) :
    parseAdminState state.name = some state := by
  cases state <;> decide

@[simp]
theorem parseNodeKind_name (kind : NodeKind) :
    parseNodeKind kind.name = some kind := by
  cases kind <;> decide

@[simp]
theorem parsePortRole_name (role : PortRole) :
    parsePortRole role.name = some role := by
  cases role <;> decide

@[simp]
theorem parseCrossConnectOp_name (op : CrossConnectOp) :
    parseCrossConnectOp op.name = some op := by
  cases op <;> decide

@[simp]
theorem parseGridKind_name (grid : GridKind) :
    parseGridKind grid.name = some grid := by
  cases grid <;> decide

@[simp]
theorem parseDisjointness_name (relation : Disjointness) :
    parseDisjointness relation.name = some relation := by
  cases relation <;> decide

/-! ### Identifiers -/

/-- An identifier the parser of identifiers accepts. -/
def StrongId.Valid {tag : IdentityTag} (id : StrongId tag) : Prop :=
  isValidIdText id.str = true

instance {tag : IdentityTag} (id : StrongId tag) : Decidable id.Valid :=
  inferInstanceAs (Decidable (isValidIdText id.str = true))

def PortKey.Valid (key : PortKey) : Prop := key.node.Valid ∧ key.port.Valid

instance (key : PortKey) : Decidable key.Valid :=
  inferInstanceAs (Decidable (key.node.Valid ∧ key.port.Valid))

namespace StrongId

variable {tag : IdentityTag}

theorem parse_str {id : StrongId tag} (valid : id.Valid) :
    StrongId.parse tag id.str = .ok id := by
  unfold StrongId.parse
  exact if_pos valid

theorem parse_eq_ok_iff {bytes : Bytes} {id : StrongId tag} :
    StrongId.parse tag bytes = .ok id ↔ id.str = bytes ∧ id.Valid := by
  unfold StrongId.parse
  constructor
  · intro parsed
    split_ifs at parsed with valid
    cases parsed
    exact ⟨rfl, valid⟩
  · rintro ⟨rfl, valid⟩
    exact if_pos valid

theorem Valid.ne_nil {id : StrongId tag} (valid : id.Valid) : id.str ≠ [] := by
  intro empty
  rw [Valid, empty] at valid
  cases valid

theorem Valid.length_le {id : StrongId tag} (valid : id.Valid) :
    id.str.length ≤ kMaxIdLength := by
  unfold Valid isValidIdText at valid
  split at valid
  · cases valid
  · simp only [Bool.and_eq_true, decide_eq_true_eq] at valid
    exact valid.1.1

theorem Valid.all_isIdByte {id : StrongId tag} (valid : id.Valid) :
    id.str.all isIdByte = true := by
  unfold Valid isValidIdText at valid
  split at valid
  · cases valid
  · simp only [Bool.and_eq_true] at valid
    exact valid.2

end StrongId

theorem isRawTokenCharacter_of_isIdByte {byte : UInt8}
    (legal : isIdByte byte = true) : isRawTokenCharacter byte = true := by
  unfold isIdByte at legal
  unfold isRawTokenCharacter
  grind

/-- Bytes that need no escape are written as they are. -/
theorem encodeToken_of_raw {raw : Bytes} (nonempty : raw ≠ [])
    (plain : raw.all isRawTokenCharacter = true) : encodeToken raw = raw := by
  rw [encodeToken_eq, if_neg nonempty, flatMap_escapeByte_of_raw plain]

@[simp]
theorem encodeToken_booleanName (value : Bool) :
    encodeToken (booleanName value) = booleanName value := by
  cases value <;> decide

@[simp]
theorem AdminState.encodeToken_name (state : AdminState) :
    encodeToken state.name = state.name := by
  cases state <;> decide

@[simp]
theorem Coverage.encodeToken_name (coverage : Coverage) :
    encodeToken coverage.name = coverage.name := by
  cases coverage <;> decide

@[simp]
theorem NodeKind.encodeToken_name (kind : NodeKind) :
    encodeToken kind.name = kind.name := by
  cases kind <;> decide

@[simp]
theorem PortRole.encodeToken_name (role : PortRole) :
    encodeToken role.name = role.name := by
  cases role <;> decide

@[simp]
theorem CrossConnectOp.encodeToken_name (op : CrossConnectOp) :
    encodeToken op.name = op.name := by
  cases op <;> decide

@[simp]
theorem GridKind.encodeToken_name (grid : GridKind) :
    encodeToken grid.name = grid.name := by
  cases grid <;> decide

@[simp]
theorem Disjointness.encodeToken_name (relation : Disjointness) :
    encodeToken relation.name = relation.name := by
  cases relation <;> decide

theorem StrongId.Valid.all_raw {tag : IdentityTag} {id : StrongId tag}
    (valid : id.Valid) : id.str.all isRawTokenCharacter = true := by
  rw [List.all_eq_true]
  intro byte member
  exact isRawTokenCharacter_of_isIdByte
    (List.all_eq_true.mp valid.all_isIdByte byte member)

theorem StrongId.Valid.encodeToken_str {tag : IdentityTag} {id : StrongId tag}
    (valid : id.Valid) : encodeToken id.str = id.str :=
  encodeToken_of_raw valid.ne_nil valid.all_raw

end OpticalPathPlanner
