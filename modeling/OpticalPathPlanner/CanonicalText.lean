import OpticalPathPlanner.Identifiers

/-!
# Canonical tokens and lines

The line-oriented encoding behind every digest.  A token is written as it is
when all its bytes are harmless and escaped byte by byte otherwise; a line is
a record name followed by positional tokens and `key=value` fields.
-/

namespace OpticalPathPlanner

def kMaxTokenBytes : Nat := 1024
def kMaxTextLineBytes : Nat := 8192

/-- Bytes that may appear literally in a token. -/
def isRawTokenCharacter (byte : UInt8) : Bool :=
  isAlnum byte || byte == 95 || byte == 46 || byte == 58 || byte == 64 ||
    byte == 47 || byte == 43 || byte == 42 || byte == 61 || byte == 45

/-- Digit of the upper-case table of percent escapes. -/
def escapeDigit (value : Nat) : UInt8 :=
  if value < 10 then UInt8.ofNat (48 + value) else UInt8.ofNat (55 + value)

def escapeByte (byte : UInt8) : Bytes :=
  if isRawTokenCharacter byte then [byte]
  else [37, escapeDigit (byte.toNat / 16), escapeDigit (byte.toNat % 16)]

/-- A lone percent sign spells the empty string. -/
def encodeToken (raw : Bytes) : Bytes :=
  let needsEscaping := raw.isEmpty || decide (raw.length > kMaxTokenBytes) ||
    raw.any fun byte => !isRawTokenCharacter byte
  if ¬ needsEscaping then raw
  else
    let escaped := raw.flatMap escapeByte
    if escaped.isEmpty then [37] else escaped

/-! ### Line assembly -/

structure LineAssembler where
  line : Bytes

namespace LineAssembler

def ofRecord (record : String) : LineAssembler := ⟨text record⟩

/-- Append bytes after a blank, or at the start of an empty line. -/
def append (assembler : LineAssembler) (bytes : Bytes) : LineAssembler :=
  ⟨(if assembler.line.isEmpty then [] else assembler.line ++ [32]) ++ bytes⟩

def add (assembler : LineAssembler) (token : Bytes) : LineAssembler :=
  assembler.append (encodeToken token)

def addU64 (assembler : LineAssembler) (value : Nat) : LineAssembler :=
  assembler.append (formatU64 value)

def addKeyRaw (assembler : LineAssembler) (key : String) (value : Bytes) :
    LineAssembler :=
  assembler.append (text key ++ [61] ++ value)

def addKeyU64 (assembler : LineAssembler) (key : String) (value : Nat) :
    LineAssembler :=
  assembler.addKeyRaw key (formatU64 value)

def addKeyToken (assembler : LineAssembler) (key : String) (value : Bytes) :
    LineAssembler :=
  assembler.addKeyRaw key (encodeToken value)

/-- The finished line with its newline. -/
def emit (assembler : LineAssembler) : Bytes := assembler.line ++ [10]

end LineAssembler

/-! ### Line splitting -/

def isBlank (byte : UInt8) : Bool := byte == 32 || byte == 9

/-- Maximal runs of bytes that no separator interrupts. -/
def splitRuns (separator : UInt8 → Bool) : Bytes → Bytes → List Bytes
  | [], run => if run.isEmpty then [] else [run]
  | byte :: rest, run =>
      if separator byte then
        (if run.isEmpty then [] else [run]) ++ splitRuns separator rest []
      else
        splitRuns separator rest (run ++ [byte])

def splitTokens (line : Bytes) : Except Status (List Bytes) :=
  if line.isEmpty then
    .error (failure .malformedInput (text "empty line"))
  else if line.length > kMaxTextLineBytes then
    .error (failure .limitExceeded
      (text "line exceeds the maximum text line length"))
  else
    let tokens := splitRuns isBlank line []
    if tokens.any fun token => decide (token.length > kMaxTokenBytes) then
      .error (failure .limitExceeded
        (text "token exceeds the maximum token length"))
    else if tokens.isEmpty then
      .error (failure .malformedInput (text "line contains no tokens"))
    else
      .ok tokens

/-- The value of a `key=value` token, when the token has that key. -/
def keyedValue? (key token : Bytes) : Option Bytes :=
  if key.isPrefixOf token && token[key.length]? == some 61 then
    some (token.drop (key.length + 1))
  else
    none

def findKeyedField (tokens : List Bytes) (firstIndex : Nat) (key : String) :
    Except Status Bytes :=
  match (tokens.drop firstIndex).filterMap (keyedValue? (text key)) with
  | [] => .error (failure .notFound
      (text "missing field '" ++ text key ++ text "'"))
  | [value] => .ok value
  | _ => .error (failure .malformedInput
      (text "duplicate field '" ++ text key ++ text "'"))

end OpticalPathPlanner
