import OpticalPathPlanner.FieldCodecs

/-!
# Lines of named fields

A line may have any bytes without a blank as its record name and as the keys of
its fields; the records of the planner are the lines whose names and keys are
text constants.  What is added to a line is what its tokens are read back as.
-/

namespace OpticalPathPlanner

/-! ### Bytes of an escaped string -/

theorem graphic_of_isRawTokenCharacter {byte : UInt8}
    (raw : isRawTokenCharacter byte = true) : 32 < byte ∧ byte < 127 := by
  unfold isRawTokenCharacter isAlnum at raw
  simp only [Bool.or_eq_true, Bool.and_eq_true, decide_eq_true_eq, beq_iff_eq,
    UInt8.le_iff_toNat_le, ← UInt8.toNat_inj] at raw
  rw [UInt8.lt_iff_toNat_lt, UInt8.lt_iff_toNat_lt]
  simp only [UInt8.reduceToNat] at raw ⊢
  omega

theorem graphic_escapeDigit {digit : Nat} (small : digit < 16) :
    32 < escapeDigit digit ∧ escapeDigit digit < 127 := by
  interval_cases digit <;> decide

/-- Escaped strings are written in the visible characters of ASCII: no blank, no
newline, no control byte. -/
theorem graphic_of_mem_encodeToken {raw : Bytes} :
    ∀ byte ∈ encodeToken raw, 32 < byte ∧ byte < 127 := by
  rw [encodeToken_eq]
  have percent : (32 : UInt8) < 37 ∧ (37 : UInt8) < 127 := by decide
  split_ifs with empty
  · intro byte member
    obtain rfl := List.mem_singleton.mp member
    exact percent
  · intro byte member
    obtain ⟨original, -, member⟩ := List.mem_flatMap.mp member
    have whole := original.toNat_lt
    have upper := @graphic_escapeDigit (original.toNat / 16) (by omega)
    have lower := @graphic_escapeDigit (original.toNat % 16) (by omega)
    unfold escapeByte at member
    split_ifs at member with literal
    · obtain rfl := List.mem_singleton.mp member
      exact graphic_of_isRawTokenCharacter literal
    · simp only [List.mem_cons, List.not_mem_nil, or_false] at member
      rcases member with rfl | rfl | rfl
      · exact percent
      · exact upper
      · exact lower

theorem decodeToken_encodeToken_of_short {raw : Bytes}
    (short : raw.length ≤ kMaxTokenBytes) :
    decodeToken (encodeToken raw) = .ok raw := by
  apply decodeToken_encodeToken
  rw [encodeToken_eq]
  split_ifs with empty
  · decide
  · have longest := (flatMap_escapeByte_length raw).2
    omega

theorem encodeToken_inj_of_short {first second : Bytes}
    (shortFirst : first.length ≤ kMaxTokenBytes)
    (shortSecond : second.length ≤ kMaxTokenBytes)
    (same : encodeToken first = encodeToken second) : first = second := by
  have read := decodeToken_encodeToken_of_short shortFirst
  rw [same, decodeToken_encodeToken_of_short shortSecond] at read
  exact (Except.ok.inj read).symm

/-! ### Lines over any names -/

/-- The value of a field. -/
inductive FieldValue
  | token (raw : Bytes)
  | u64 (value : UInt64)

namespace FieldValue

/-- The value as the reader of a token sees it. -/
def raw : FieldValue → Bytes
  | .token raw => raw
  | .u64 value => formatU64 value.toNat

/-- The value as it stands in the line. -/
def spelled : FieldValue → Bytes
  | .token raw => encodeToken raw
  | .u64 value => formatU64 value.toNat

/-- Every value stands in the line as its escaped spelling. -/
theorem spelled_eq (value : FieldValue) : value.spelled = encodeToken value.raw := by
  cases value with
  | token raw => rfl
  | u64 value =>
      have digits := formatU64_all_isDigit value.toNat
      have literal : (formatU64 value.toNat).all isRawTokenCharacter = true := by
        rw [List.all_eq_true] at digits ⊢
        exact fun byte member =>
          isRawTokenCharacter_of_isDigit (digits byte member)
      exact (encodeToken_of_raw (formatU64_ne_nil _) literal).symm

end FieldValue

structure LineField where
  key : Bytes
  value : FieldValue

namespace LineField

/-- The token of a field. -/
def token (field : LineField) : Bytes := field.key ++ 61 :: field.value.spelled

/-- Keys are not empty and hold neither a blank nor an equals sign. -/
structure Keyed (field : LineField) : Prop where
  unbroken : UnbrokenToken field.key
  ne_equals : ∀ byte ∈ field.key, byte ≠ 61

end LineField

namespace LineAssembler

def begin (record : Bytes) : LineAssembler := ⟨record⟩

/-- A field with any bytes as its key. -/
def addField (assembler : LineAssembler) (field : LineField) : LineAssembler :=
  match field.value with
  | .token raw => assembler.append (field.key ++ [61] ++ encodeToken raw)
  | .u64 value => assembler.append (field.key ++ [61] ++ formatU64 value.toNat)

theorem ofRecord_eq_begin (record : String) :
    ofRecord record = begin (text record) :=
  rfl

theorem addKeyToken_eq_addField (assembler : LineAssembler) (key : String)
    (value : Bytes) :
    assembler.addKeyToken key value =
      assembler.addField ⟨text key, .token value⟩ :=
  rfl

theorem addKeyU64_eq_addField (assembler : LineAssembler) (key : String)
    (value : UInt64) :
    assembler.addKeyU64 key value.toNat =
      assembler.addField ⟨text key, .u64 value⟩ :=
  rfl

theorem addField_eq (assembler : LineAssembler) (field : LineField) :
    assembler.addField field = assembler.append field.token := by
  obtain ⟨key, value⟩ := field
  cases value <;> simp [addField, LineField.token, FieldValue.spelled]

end LineAssembler

/-- The value of a field whose key is any bytes. -/
def findKeyedBytes (tokens : List Bytes) (firstIndex : Nat) (key : Bytes) :
    Except Status Bytes :=
  match (tokens.drop firstIndex).filterMap (keyedValue? key) with
  | [] => .error (failure .notFound
      (text "missing field '" ++ key ++ text "'"))
  | [value] => .ok value
  | _ => .error (failure .malformedInput
      (text "duplicate field '" ++ key ++ text "'"))

theorem findKeyedField_eq (tokens : List Bytes) (firstIndex : Nat) (key : String) :
    findKeyedField tokens firstIndex key =
      findKeyedBytes tokens firstIndex (text key) :=
  rfl

/-- What is added to one line: a record name, positional tokens, and fields
under distinct keys. -/
structure LineItems where
  record : Bytes
  positional : List Bytes
  fields : List LineField
  named : UnbrokenToken record
  keyed : ∀ field ∈ fields, field.Keyed
  distinct : (fields.map LineField.key).Nodup

namespace LineItems

variable (items : LineItems)

def assemble : LineAssembler :=
  items.fields.foldl LineAssembler.addField
    (items.positional.foldl LineAssembler.add (.begin items.record))

/-- One token for each item, in order. -/
def tokens : List Bytes :=
  items.record ::
    (items.positional.map encodeToken ++ items.fields.map LineField.token)

/-- Where the fields begin. -/
def firstField : Nat := 1 + items.positional.length

theorem foldl_append_line {Item : Type} {record : Bytes} (named : record ≠ [])
    (spell : Item → Bytes) (add : LineAssembler → Item → LineAssembler)
    (adds : ∀ assembler item, add assembler item = assembler.append (spell item))
    (added : List Item) (rest : List Bytes) :
    added.foldl add ⟨joinTokens (record :: rest)⟩ =
      ⟨joinTokens (record :: (rest ++ added.map spell))⟩ := by
  induction added generalizing rest with
  | nil => simp
  | cons item later ih =>
      rw [List.foldl_cons, adds,
        LineAssembler.append_joinTokens_of_ne_nil named, ih]
      simp

theorem assemble_eq : items.assemble = ⟨joinTokens items.tokens⟩ := by
  have began : LineAssembler.begin items.record =
      ⟨joinTokens (items.record :: [])⟩ := by
    simp [LineAssembler.begin, joinTokens]
  unfold assemble tokens
  rw [began, foldl_append_line items.named.nonempty encodeToken
      LineAssembler.add (fun _ _ => rfl), List.nil_append,
    foldl_append_line items.named.nonempty LineField.token
      LineAssembler.addField LineAssembler.addField_eq]

theorem unbroken : ∀ token ∈ items.tokens, UnbrokenToken token := by
  intro token member
  rcases List.mem_cons.mp member with rfl | member
  · exact items.named
  rcases List.mem_append.mp member with isPositional | isField
  · obtain ⟨raw, -, rfl⟩ := List.mem_map.mp isPositional
    exact (plainToken_encodeToken raw).unbroken
  · obtain ⟨field, added, rfl⟩ := List.mem_map.mp isField
    obtain ⟨key, -⟩ := items.keyed field added
    have value := (plainToken_encodeToken field.value.raw).unbroken
    rw [← field.value.spelled_eq] at value
    refine ⟨by simp [LineField.token], fun byte member => ?_⟩
    rcases List.mem_append.mp member with inKey | inValue
    · exact key.not_blank byte inKey
    · rcases List.mem_cons.mp inValue with rfl | inValue
      · rfl
      · exact value.not_blank byte inValue

/-- The fields of the line with a given key. -/
theorem filterMap_fields {fields : List LineField}
    (keyed : ∀ field ∈ fields, field.Keyed) {key : Bytes}
    (plain : ∀ byte ∈ key, byte ≠ 61) :
    (fields.map LineField.token).filterMap (keyedValue? key) =
      (fields.filter fun field => field.key = key).map
        fun field => field.value.spelled := by
  induction fields with
  | nil => rfl
  | cons field rest ih =>
      rw [List.forall_mem_cons] at keyed
      rw [List.map_cons, List.filterMap_cons, LineField.token,
        keyedValue?_append plain keyed.1.ne_equals, ih keyed.2]
      by_cases same : field.key = key <;> simp [same]

theorem drop_tokens :
    items.tokens.drop items.firstField = items.fields.map LineField.token := by
  unfold tokens firstField
  rw [Nat.add_comm, List.drop_succ_cons, List.drop_left' (by simp)]

theorem filter_key {field : LineField} (member : field ∈ items.fields) :
    (items.fields.filter fun other => other.key = field.key) = [field] := by
  have distinct := items.distinct
  generalize items.fields = fields at member distinct
  induction fields with
  | nil => cases member
  | cons first rest ih =>
      rw [List.map_cons, List.nodup_cons] at distinct
      obtain ⟨notLater, distinct⟩ := distinct
      rcases List.mem_cons.mp member with rfl | later
      · have none_ : (rest.filter fun other => other.key = field.key) = [] := by
          rw [List.filter_eq_nil_iff]
          intro other isLater same
          rw [decide_eq_true_eq] at same
          exact notLater (same ▸ List.mem_map_of_mem isLater)
        simp [none_]
      · have other : first.key ≠ field.key := fun same =>
          notLater (same ▸ List.mem_map_of_mem later)
        simp [other, ih later distinct]

theorem findKeyedBytes_field {field : LineField} (member : field ∈ items.fields) :
    findKeyedBytes items.tokens items.firstField field.key =
      .ok field.value.spelled := by
  unfold findKeyedBytes
  rw [items.drop_tokens, filterMap_fields items.keyed
    (items.keyed field member).ne_equals, items.filter_key member]
  rfl

theorem findKeyedBytes_missing {key : Bytes} (plain : ∀ byte ∈ key, byte ≠ 61)
    (absent : key ∉ items.fields.map LineField.key) :
    findKeyedBytes items.tokens items.firstField key =
      .error (failure .notFound (text "missing field '" ++ key ++ text "'")) := by
  have none_ : (items.fields.filter fun field => field.key = key) = [] := by
    rw [List.filter_eq_nil_iff]
    intro field member same
    rw [decide_eq_true_eq] at same
    exact absent (same ▸ List.mem_map_of_mem member)
  unfold findKeyedBytes
  rw [items.drop_tokens, filterMap_fields items.keyed plain, none_]
  rfl

theorem decodeToken_positional (fits : FitsLine items.tokens) {index : Nat}
    {raw : Bytes} (at_ : items.positional[index]? = some raw) :
    ∃ token, items.tokens[1 + index]? = some token ∧
      decodeToken token = .ok raw := by
  have found : items.tokens[1 + index]? = some (encodeToken raw) := by
    unfold tokens
    rw [Nat.add_comm, List.getElem?_cons_succ, List.getElem?_append_left]
    · rw [List.getElem?_map, at_]
      rfl
    · rw [List.length_map]
      exact (List.getElem?_eq_some_iff.mp at_).1
  have short := fits.token _ (List.mem_of_getElem? found)
  exact ⟨_, found, decodeToken_encodeToken (short.trans (by decide))⟩

theorem decodeToken_field (fits : FitsLine items.tokens) {field : LineField}
    (member : field ∈ items.fields) :
    decodeToken field.value.spelled = .ok field.value.raw := by
  have short := fits.token field.token
    (List.mem_cons_of_mem _ (List.mem_append_right _ (List.mem_map_of_mem member)))
  rw [LineField.token, List.length_append, List.length_cons,
    field.value.spelled_eq] at short
  rw [field.value.spelled_eq]
  apply decodeToken_encodeToken
  unfold kMaxTokenBytes at *
  omega

end LineItems

/-- Escaping is injective on strings within the limit of a token and leaves
visible characters only; and a line within the limits of the tokenizer is split
into one token for each item, from which every value is recovered and no field
that was not added. -/
theorem line_codec :
    (∀ raw : Bytes, raw.length ≤ kMaxTokenBytes →
      (∀ byte ∈ encodeToken raw, 32 < byte ∧ byte < 127) ∧
      decodeToken (encodeToken raw) = .ok raw) ∧
    (∀ first second : Bytes, first.length ≤ kMaxTokenBytes →
      second.length ≤ kMaxTokenBytes → encodeToken first = encodeToken second →
      first = second) ∧
    ∀ items : LineItems,
      items.assemble.line = joinTokens items.tokens ∧
      (∀ tokens, splitTokens items.assemble.line = .ok tokens ↔
        tokens = items.tokens ∧ FitsLine items.tokens) ∧
      (FitsLine items.tokens →
        (∀ index raw, items.positional[index]? = some raw →
          ∃ token, items.tokens[1 + index]? = some token ∧
            decodeToken token = .ok raw) ∧
        (∀ field ∈ items.fields, ∃ value,
          findKeyedBytes items.tokens items.firstField field.key = .ok value ∧
          decodeToken value = .ok field.value.raw ∧
          ∀ number, field.value = .u64 number → parseU64 value = .ok number) ∧
        ∀ key : Bytes, (∀ byte ∈ key, byte ≠ 61) →
          key ∉ items.fields.map LineField.key →
          findKeyedBytes items.tokens items.firstField key =
            .error (failure .notFound
              (text "missing field '" ++ key ++ text "'"))) := by
  refine ⟨fun raw short => ⟨graphic_of_mem_encodeToken,
      decodeToken_encodeToken_of_short short⟩,
    fun first second => encodeToken_inj_of_short, fun items => ?_⟩
  have assembled := congrArg LineAssembler.line items.assemble_eq
  refine ⟨assembled, fun tokens => ?_, fun fits =>
    ⟨fun index raw => items.decodeToken_positional fits, fun field member => ?_,
      fun key => items.findKeyedBytes_missing⟩⟩
  · rw [assembled]
    exact splitTokens_joinTokens_iff items.unbroken
  · refine ⟨_, items.findKeyedBytes_field member,
      items.decodeToken_field fits member, fun number isNumber => ?_⟩
    rw [isNumber]
    exact parseU64_formatU64 number

/-- A line whose keys begin with one another and whose values hold blanks,
escapes and equals signs. -/
def nestedKeys : LineItems where
  record := text "node"
  positional := [text "a b", [], text "%41"]
  fields := [⟨text "i", .token (text "id=7")⟩, ⟨text "id", .u64 7⟩]
  named := ⟨by decide +kernel, by decide +kernel⟩
  keyed := by
    intro field member
    rcases List.mem_cons.mp member with rfl | member
    · exact ⟨⟨by decide +kernel, by decide +kernel⟩, by decide +kernel⟩
    · obtain rfl := List.mem_singleton.mp member
      exact ⟨⟨by decide +kernel, by decide +kernel⟩, by decide +kernel⟩
  distinct := by decide +kernel

theorem line_codec_nestedKeys :
    splitTokens nestedKeys.assemble.line = .ok nestedKeys.tokens ∧
      (∃ value, findKeyedBytes nestedKeys.tokens 4 (text "i") = .ok value ∧
        decodeToken value = .ok (text "id=7")) ∧
      ∃ status, findKeyedBytes nestedKeys.tokens 4 (text "a") = .error status ∧
        status.code = .notFound := by
  obtain ⟨-, -, lines⟩ := line_codec
  obtain ⟨-, split_, fields⟩ := lines nestedKeys
  have fits : FitsLine nestedKeys.tokens := by decide +kernel
  obtain ⟨-, read, missing⟩ := fields fits
  obtain ⟨value, found, decoded, -⟩ := read ⟨text "i", .token (text "id=7")⟩
    List.mem_cons_self
  exact ⟨(split_ _).mpr ⟨rfl, fits⟩, ⟨value, found, decoded⟩, _,
    missing (text "a") (by decide +kernel) (by decide +kernel), rfl⟩

end OpticalPathPlanner
