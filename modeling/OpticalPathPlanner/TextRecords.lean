import OpticalPathPlanner.CanonicalText

/-!
# Reading a text record by record

Every text format of the planner is read line by line: a carriage return at
the end of a line is dropped, an empty line is passed over, and the tokens of
any other line are one record.  A text that was written token by token, with
one blank between tokens and one newline after a record, is read back as the
records it was written from.
-/

namespace OpticalPathPlanner

/-- The lines of a text.  What follows the last newline is a line only when
it is not empty. -/
def splitLines : Bytes → Bytes → List Bytes
  | [], run => if run.isEmpty then [] else [run]
  | byte :: rest, run =>
      if byte = 10 then run :: splitLines rest []
      else splitLines rest (run ++ [byte])

def textLines (content : Bytes) : List Bytes := splitLines content []

def stripCarriage (line : Bytes) : Bytes :=
  if line.getLast? = some 13 then line.dropLast else line

/-- A status found on a numbered line. -/
def atLine (number : Nat) (status : Status) : Status :=
  failure status.code (text "line " ++ formatU64 number ++ text ": " ++
    status.detail)

/-- What one line does to the state of a reader. -/
def readLine {State : Type}
    (read : State → Nat → List Bytes → Except Status State) (state : State)
    (numbered : Bytes × Nat) : Except Status State :=
  let line := stripCarriage numbered.1
  if line.isEmpty then .ok state
  else
    match splitTokens line with
    | .error status => .error (atLine numbered.2 status)
    | .ok values => read state numbered.2 values

/-- The state after every line of a text, lines numbered from one. -/
def readRecords {State : Type}
    (read : State → Nat → List Bytes → Except Status State) (state : State)
    (content : Bytes) : Except Status State :=
  ((textLines content).zipIdx 1).foldlM (readLine read) state

/-- The records of a text, each as its tokens. -/
def textRecords (content : Bytes) : List (List Bytes) :=
  (((textLines content).map stripCarriage).filter fun line => !line.isEmpty).map
    fun line => splitRuns isBlank line []

theorem splitRuns_of_splitTokens {line : Bytes} {values : List Bytes}
    (split_ : splitTokens line = .ok values) :
    splitRuns isBlank line [] = values := by
  unfold splitTokens at split_
  simp only at split_
  split_ifs at split_
  exact Except.ok.inj split_

theorem length_le_of_splitTokens {line : Bytes} {values : List Bytes}
    (split_ : splitTokens line = .ok values) :
    ∀ token ∈ values, token.length ≤ kMaxTokenBytes := by
  unfold splitTokens at split_
  simp only at split_
  split_ifs at split_ with _ _ long
  rw [← Except.ok.inj split_]
  simpa using long

/-- What every record that is read preserves holds behind the last record. -/
theorem readRecords_invariant {State : Type}
    {read : State → Nat → List Bytes → Except Status State}
    {holds : List (List Bytes) → State → Prop} {state next : State}
    {content : Bytes} (start : holds [] state)
    (step : ∀ {seen state number values after},
      (∀ token ∈ values, token.length ≤ kMaxTokenBytes) → holds seen state →
        read state number values = .ok after → holds (seen ++ [values]) after)
    (ok : readRecords read state content = .ok next) :
    holds (textRecords content) next := by
  unfold readRecords at ok
  unfold textRecords
  generalize textLines content = lines at ok ⊢
  generalize 1 = number at ok
  have run : ∀ seen, holds seen state → holds (seen ++
      ((lines.map stripCarriage).filter fun line => !line.isEmpty).map
        fun line => splitRuns isBlank line []) next := by
    clear start
    induction lines generalizing state number with
    | nil =>
        intro seen start
        cases ok
        simpa using start
    | cons line rest ih =>
        intro seen start
        rw [List.zipIdx_cons, List.foldlM_cons] at ok
        cases first : readLine read state (line, number) with
        | error status =>
            rw [first] at ok
            cases ok
        | ok middle =>
            rw [first] at ok
            simp only [readLine] at first
            split_ifs at first with empty
            · cases first
              simpa [empty] using ih (number + 1) ok seen start
            · cases values : splitTokens (stripCarriage line) with
              | error status => simp [values] at first
              | ok tokens =>
                  simp only [values] at first
                  have runs := splitRuns_of_splitTokens values
                  simpa [empty, runs] using
                    ih (number + 1) ok (seen ++ [tokens])
                      (step (length_le_of_splitTokens values) start first)
  simpa using run [] start

/-! ### Writing records -/

/-- Tokens with one blank between them. -/
def joinTokens : List Bytes → Bytes
  | [] => []
  | first :: rest => first ++ rest.flatMap fun token => 32 :: token

def writeRecord (tokens : List Bytes) : Bytes := joinTokens tokens ++ [10]

theorem text_injective : Function.Injective text := by
  intro first second equal
  unfold text at equal
  exact String.toByteArray_inj.mp (ByteArray.ext (Array.toList_inj.mp equal))

namespace LineAssembler

theorem ofRecord_eq (record : String) :
    ofRecord record = ⟨joinTokens [text record]⟩ := by
  simp [ofRecord, joinTokens]

/-- Appending to a line that is not empty adds a token. -/
theorem append_joinTokens_of_ne_nil {first : Bytes} (named : first ≠ [])
    (rest : List Bytes) (bytes : Bytes) :
    append ⟨joinTokens (first :: rest)⟩ bytes =
      ⟨joinTokens (first :: (rest ++ [bytes]))⟩ := by
  have nonempty : (joinTokens (first :: rest)).isEmpty = false := by
    simp [joinTokens, named]
  simp only [append, nonempty, Bool.false_eq_true, if_false]
  simp [joinTokens]

/-- Appending to a line that has a record name adds a token. -/
theorem append_joinTokens {record : String} (named : record ≠ "")
    (rest : List Bytes) (bytes : Bytes) :
    append ⟨joinTokens (text record :: rest)⟩ bytes =
      ⟨joinTokens (text record :: (rest ++ [bytes]))⟩ :=
  append_joinTokens_of_ne_nil (fun spelled => named (text_injective spelled))
    rest bytes

theorem add_joinTokens {record : String} (named : record ≠ "")
    (rest : List Bytes) (token : Bytes) :
    add ⟨joinTokens (text record :: rest)⟩ token =
      ⟨joinTokens (text record :: (rest ++ [encodeToken token]))⟩ :=
  append_joinTokens named rest _

theorem addU64_joinTokens {record : String} (named : record ≠ "")
    (rest : List Bytes) (value : Nat) :
    addU64 ⟨joinTokens (text record :: rest)⟩ value =
      ⟨joinTokens (text record :: (rest ++ [formatU64 value]))⟩ :=
  append_joinTokens named rest _

theorem emit_joinTokens (tokens : List Bytes) :
    emit ⟨joinTokens tokens⟩ = writeRecord tokens :=
  rfl

end LineAssembler

/-! ### Reading back what was written -/

/-- A byte that ends neither a token nor a line. -/
def isTokenByte (byte : UInt8) : Bool :=
  !(isBlank byte || byte == 10 || byte == 13)

/-- A token that no separator interrupts. -/
structure PlainToken (token : Bytes) : Prop where
  nonempty : token ≠ []
  bytes : token.all isTokenByte = true

/-- A record whose tokens are told apart by the blanks between them. -/
structure PlainRecord (tokens : List Bytes) : Prop where
  nonempty : tokens ≠ []
  each : ∀ token ∈ tokens, PlainToken token

/-- A record within the limits of the tokenizer. -/
structure FitsLine (tokens : List Bytes) : Prop where
  line : (joinTokens tokens).length ≤ kMaxTextLineBytes
  token : ∀ token ∈ tokens, token.length ≤ kMaxTokenBytes

instance (tokens : List Bytes) : Decidable (FitsLine tokens) :=
  decidable_of_iff ((joinTokens tokens).length ≤ kMaxTextLineBytes ∧
      ∀ token ∈ tokens, token.length ≤ kMaxTokenBytes)
    ⟨fun parts => ⟨parts.1, parts.2⟩, fun fits => ⟨fits.line, fits.token⟩⟩

/-- A record that survives the splitting of its text. -/
structure CleanRecord (tokens : List Bytes) : Prop where
  plain : PlainRecord tokens
  fits : FitsLine tokens

theorem PlainToken.not_blank {token : Bytes} (plain : PlainToken token) :
    ∀ byte ∈ token, isBlank byte = false := by
  intro byte member
  have legal := List.all_eq_true.mp plain.bytes byte member
  simp only [isTokenByte, Bool.not_eq_true', Bool.or_eq_false_iff] at legal
  exact legal.1.1

theorem PlainToken.ne_newline {token : Bytes} (plain : PlainToken token) :
    ∀ byte ∈ token, byte ≠ 10 ∧ byte ≠ 13 := by
  intro byte member
  have legal := List.all_eq_true.mp plain.bytes byte member
  simp only [isTokenByte, Bool.not_eq_true', Bool.or_eq_false_iff,
    beq_eq_false_iff_ne] at legal
  exact ⟨legal.1.2, legal.2⟩

/-- A token that no blank interrupts. -/
structure UnbrokenToken (token : Bytes) : Prop where
  nonempty : token ≠ []
  not_blank : ∀ byte ∈ token, isBlank byte = false

theorem PlainToken.unbroken {token : Bytes} (plain : PlainToken token) :
    UnbrokenToken token :=
  ⟨plain.nonempty, plain.not_blank⟩

/-- Bytes that are no separators go to the current run. -/
theorem splitRuns_append {separator : UInt8 → Bool} {token : Bytes}
    (plain : ∀ byte ∈ token, separator byte = false) (rest run : Bytes) :
    splitRuns separator (token ++ rest) run =
      splitRuns separator rest (run ++ token) := by
  induction token generalizing run with
  | nil => simp
  | cons byte tail ih =>
      rw [List.cons_append, splitRuns, if_neg (by simp [plain byte])]
      rw [ih fun other member => plain other (List.mem_cons_of_mem byte member)]
      simp

theorem splitRuns_joinTokens {first : Bytes} {rest : List Bytes}
    (unbroken : ∀ token ∈ first :: rest, UnbrokenToken token) :
    splitRuns isBlank (joinTokens (first :: rest)) [] = first :: rest := by
  induction rest generalizing first with
  | nil =>
      have ofFirst := unbroken first List.mem_cons_self
      rw [joinTokens, splitRuns_append ofFirst.not_blank]
      simp [splitRuns, ofFirst.nonempty]
  | cons second rest ih =>
      have ofFirst := unbroken first List.mem_cons_self
      have readRest := ih fun token member =>
        unbroken token (List.mem_cons_of_mem first member)
      rw [joinTokens, splitRuns_append ofFirst.not_blank, List.flatMap_cons,
        List.cons_append, splitRuns, if_pos (by rfl)]
      rw [joinTokens] at readRest
      rw [readRest]
      simp [ofFirst.nonempty]

/-- Unbroken tokens are read back from their line exactly when they keep the
limits. -/
theorem splitTokens_joinTokens_iff {first : Bytes} {rest values : List Bytes}
    (unbroken : ∀ token ∈ first :: rest, UnbrokenToken token) :
    splitTokens (joinTokens (first :: rest)) = .ok values ↔
      values = first :: rest ∧ FitsLine (first :: rest) := by
  have runs := splitRuns_joinTokens unbroken
  have nonempty : (joinTokens (first :: rest)).isEmpty = false := by
    have named := (unbroken first List.mem_cons_self).nonempty
    simp [joinTokens, named]
  simp only [splitTokens, nonempty, runs, List.isEmpty_cons, Bool.false_eq_true,
    if_false]
  by_cases long : (joinTokens (first :: rest)).length > kMaxTextLineBytes
  · rw [if_pos long]
    simp only [reduceCtorEq, false_iff, not_and]
    intro _ fits
    exact absurd fits.line (not_le.mpr long)
  · rw [if_neg long]
    by_cases wide : ((first :: rest).any fun token =>
        decide (token.length > kMaxTokenBytes)) = true
    · rw [if_pos wide]
      simp only [reduceCtorEq, false_iff, not_and]
      intro _ fits
      obtain ⟨token, member, tooLong⟩ := List.any_eq_true.mp wide
      exact absurd (fits.token token member)
        (not_le.mpr (of_decide_eq_true tooLong))
    · rw [if_neg wide, Except.ok.injEq]
      simp only [List.any_eq_true, decide_eq_true_eq, not_exists, not_and,
        not_lt] at wide
      exact ⟨fun same => ⟨same.symm, not_lt.mp long, wide⟩, fun same => same.1.symm⟩

namespace PlainRecord

variable {tokens : List Bytes}

theorem joinTokens_isEmpty (plain : PlainRecord tokens) :
    (joinTokens tokens).isEmpty = false := by
  cases tokens with
  | nil => exact (plain.nonempty rfl).elim
  | cons first rest =>
      have named := (plain.each first List.mem_cons_self).nonempty
      simp [joinTokens, named]

theorem splitRuns_eq (plain : PlainRecord tokens) :
    splitRuns isBlank (joinTokens tokens) [] = tokens := by
  cases tokens with
  | nil => exact (plain.nonempty rfl).elim
  | cons first rest =>
      exact splitRuns_joinTokens fun token member =>
        (plain.each token member).unbroken

/-- The tokens of a line are read back exactly when they keep the limits. -/
theorem splitTokens_eq_ok_iff (plain : PlainRecord tokens)
    {values : List Bytes} :
    splitTokens (joinTokens tokens) = .ok values ↔
      values = tokens ∧ FitsLine tokens := by
  cases tokens with
  | nil => exact (plain.nonempty rfl).elim
  | cons first rest =>
      exact splitTokens_joinTokens_iff fun token member =>
        (plain.each token member).unbroken

/-- No byte of a written record ends the line early. -/
theorem ne_newline (plain : PlainRecord tokens) :
    ∀ byte ∈ joinTokens tokens, byte ≠ 10 ∧ byte ≠ 13 := by
  cases tokens with
  | nil => exact (plain.nonempty rfl).elim
  | cons first rest =>
      intro byte member
      rw [joinTokens, List.mem_append, List.mem_flatMap] at member
      rcases member with inFirst | ⟨token, isToken, inToken⟩
      · exact (plain.each first List.mem_cons_self).ne_newline byte inFirst
      · rcases List.mem_cons.mp inToken with rfl | inBytes
        · decide
        · exact (plain.each token (List.mem_cons_of_mem first
            isToken)).ne_newline byte inBytes

theorem stripCarriage_eq (plain : PlainRecord tokens) :
    stripCarriage (joinTokens tokens) = joinTokens tokens := by
  unfold stripCarriage
  rw [if_neg]
  intro last
  exact (plain.ne_newline 13 (List.mem_of_getLast? last)).2 rfl

end PlainRecord

theorem splitLines_append {line : Bytes} (plain : ∀ byte ∈ line, byte ≠ 10)
    (rest run : Bytes) :
    splitLines (line ++ 10 :: rest) run = (run ++ line) :: splitLines rest [] := by
  induction line generalizing run with
  | nil => simp [splitLines]
  | cons byte tail ih =>
      rw [List.cons_append, splitLines, if_neg (plain byte List.mem_cons_self)]
      rw [ih fun other member => plain other (List.mem_cons_of_mem byte member)]
      simp

theorem textLines_writeRecord {tokens : List Bytes} (plain : PlainRecord tokens)
    (rest : Bytes) :
    textLines (writeRecord tokens ++ rest) = joinTokens tokens :: textLines rest := by
  unfold textLines writeRecord
  rw [List.append_assoc, List.singleton_append,
    splitLines_append fun byte member => (plain.ne_newline byte member).1]
  rfl

theorem textLines_flatMap {records : List (List Bytes)}
    (plain : ∀ record ∈ records, PlainRecord record) :
    textLines (records.flatMap writeRecord) = records.map joinTokens := by
  induction records with
  | nil => rfl
  | cons record rest ih =>
      rw [List.forall_mem_cons] at plain
      rw [List.flatMap_cons, textLines_writeRecord plain.1, ih plain.2,
        List.map_cons]

/-- The records of a text that was written record by record. -/
theorem textRecords_flatMap {records : List (List Bytes)}
    (plain : ∀ record ∈ records, PlainRecord record) :
    textRecords (records.flatMap writeRecord) = records := by
  unfold textRecords
  rw [textLines_flatMap plain, List.map_map]
  induction records with
  | nil => rfl
  | cons record rest ih =>
      rw [List.forall_mem_cons] at plain
      rw [List.map_cons, Function.comp_apply, plain.1.stripCarriage_eq,
        List.filter_cons_of_pos (by simp [plain.1.joinTokens_isEmpty]),
        List.map_cons, ih plain.2, plain.1.splitRuns_eq]

/-- A line that holds one record is read as that record, if it fits. -/
theorem readLine_joinTokens {State : Type}
    {read : State → Nat → List Bytes → Except Status State} {state next : State}
    {tokens : List Bytes} (plain : PlainRecord tokens) (number : Nat) :
    readLine read state (joinTokens tokens, number) = .ok next ↔
      FitsLine tokens ∧ read state number tokens = .ok next := by
  simp only [readLine, plain.stripCarriage_eq, plain.joinTokens_isEmpty,
    Bool.false_eq_true, if_false]
  cases values : splitTokens (joinTokens tokens) with
  | error status =>
      simp only [reduceCtorEq, false_iff, not_and]
      intro fits
      have ok := plain.splitTokens_eq_ok_iff.mpr ⟨rfl, fits⟩
      rw [values] at ok
      cases ok
  | ok read =>
      obtain ⟨rfl, fits⟩ := plain.splitTokens_eq_ok_iff.mp values
      exact ⟨fun ok => ⟨fits, ok⟩, fun ok => ok.2⟩

/-! ### Readers over a list of records -/

section Consumes

variable {State : Type} {read : State → Nat → List Bytes → Except Status State}

/-- Reading the records, whatever their line numbers, takes one state to the
other. -/
def Consumes (read : State → Nat → List Bytes → Except Status State)
    (state : State) (records : List (List Bytes)) (next : State) : Prop :=
  ∀ number, (records.zipIdx number).foldlM
    (fun state entry => read state entry.2 entry.1) state = .ok next

namespace Consumes

theorem nil (state : State) : Consumes read state [] state := by
  intro number
  rfl

theorem single {state next : State} {record : List Bytes}
    (reads : ∀ number, read state number record = .ok next) :
    Consumes read state [record] next := by
  intro number
  rw [List.zipIdx_singleton, List.foldlM_cons, reads]
  rfl

theorem append {state middle next : State} {first second : List (List Bytes)}
    (before : Consumes read state first middle)
    (after : Consumes read middle second next) :
    Consumes read state (first ++ second) next := by
  intro number
  rw [List.zipIdx_append, List.foldlM_append, before number]
  exact after _

theorem cons {state middle next : State} {record : List Bytes}
    {rest : List (List Bytes)}
    (reads : ∀ number, read state number record = .ok middle)
    (after : Consumes read middle rest next) :
    Consumes read state (record :: rest) next :=
  append (single reads) after

/-- One record for each item of a list.  `holds` is what every step of the
reader asks of its state and leaves behind. -/
theorem map {Item : Type} {items : List Item} {tokens : Item → List Bytes}
    {step : State → Item → State} {holds : State → Prop} {state : State}
    (start : holds state)
    (reads : ∀ state, holds state → ∀ item ∈ items, ∀ number,
      read state number (tokens item) = .ok (step state item) ∧
        holds (step state item)) :
    Consumes read state (items.map tokens) (items.foldl step state) := by
  induction items generalizing state with
  | nil => exact nil state
  | cons item rest ih =>
      have first := fun number => reads state start item List.mem_cons_self number
      rw [List.map_cons, List.foldl_cons]
      apply cons fun number => (first number).1
      exact ih (first 0).2 fun state holds other member =>
        reads state holds other (List.mem_cons_of_mem item member)

end Consumes

/-- A text written record by record is read record by record, and every record
of an accepted text keeps the limits. -/
theorem readRecords_flatMap_eq_ok_iff {state next : State}
    {records : List (List Bytes)}
    (plain : ∀ record ∈ records, PlainRecord record) :
    readRecords read state (records.flatMap writeRecord) = .ok next ↔
      (∀ record ∈ records, FitsLine record) ∧
        (records.zipIdx 1).foldlM (fun state entry => read state entry.2 entry.1)
          state = .ok next := by
  unfold readRecords
  generalize 1 = number
  induction records generalizing state number with
  | nil => simp [textLines, splitLines]
  | cons record rest ih =>
      have plainRest := fun other member =>
        plain other (List.mem_cons_of_mem record member)
      have first := fun middle => @readLine_joinTokens _ read state middle record
        (plain record List.mem_cons_self) number
      rw [List.flatMap_cons,
        textLines_writeRecord (plain record List.mem_cons_self),
        List.zipIdx_cons, List.zipIdx_cons, List.foldlM_cons, List.foldlM_cons,
        List.forall_mem_cons]
      constructor
      · intro ok
        cases line : readLine read state (joinTokens record, number) with
        | error status =>
            rw [line] at ok
            cases ok
        | ok middle =>
            rw [line] at ok
            obtain ⟨fits, readFirst⟩ := (first middle).mp line
            obtain ⟨fitsRest, readRest⟩ := (@ih middle plainRest (number + 1)).mp ok
            rw [readFirst]
            exact ⟨⟨fits, fitsRest⟩, readRest⟩
      · rintro ⟨⟨fits, fitsRest⟩, ok⟩
        cases readFirst : read state number record with
        | error status =>
            rw [readFirst] at ok
            cases ok
        | ok middle =>
            rw [readFirst] at ok
            rw [(first middle).mpr ⟨fits, readFirst⟩]
            exact (@ih middle plainRest (number + 1)).mpr ⟨fitsRest, ok⟩

theorem readRecords_of_consumes {state next : State}
    {records : List (List Bytes)}
    (clean : ∀ record ∈ records, CleanRecord record)
    (consumes : Consumes read state records next) :
    readRecords read state (records.flatMap writeRecord) = .ok next :=
  (readRecords_flatMap_eq_ok_iff fun record member => (clean record member).plain).mpr
    ⟨fun record member => (clean record member).fits, consumes 1⟩

end Consumes

end OpticalPathPlanner
