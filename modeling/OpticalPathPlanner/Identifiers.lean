import Mathlib

/-!
# Identities and status values

Every identity of the planner is a byte string under its own type, so a port
id can never be passed where a node id is expected.  Identities compare as
their bytes do.  A resource key names a resource of any kind by its canonical
text; the text of a port key joins the node and the port with a colon, and
colons are legal inside either of them.
-/

namespace OpticalPathPlanner

/-- The bytes of a `std::string`. -/
abbrev Bytes := List UInt8

/-- The bytes of a text constant. -/
def text (constant : String) : Bytes :=
  constant.toUTF8.data.toList

/-- Bytes compare as unsigned numbers. -/
instance byteOrder : LinearOrder UInt8 where
  le_refl := UInt8.le_refl
  le_trans _ _ _ := UInt8.le_trans
  le_antisymm _ _ := UInt8.le_antisymm
  le_total := UInt8.le_total
  lt_iff_le_not_ge first second := by
    simp only [UInt8.le_iff_toNat_le, UInt8.lt_iff_toNat_lt]
    omega
  toDecidableLE := inferInstance
  toDecidableEq := inferInstance

/-- The decimal form of an unsigned integer. -/
def formatU64 (value : Nat) : Bytes :=
  text (toString value)

/-! ### Status values -/

inductive StatusCode
  | ok
  | invalidArgument
  | malformedInput
  | limitExceeded
  | duplicateIdentity
  | notFound
  | conflictingEvidence
  | unsupported
  | stale
  | fenced
  | cancelled
  | truncated
  | integrityFailure
  | ioFailure
  | refused
  | exhausted
  | overflow
  | internal
deriving DecidableEq, Repr

structure Status where
  code : StatusCode
  detail : Bytes
deriving DecidableEq, Repr

def okStatus : Status := ⟨.ok, []⟩

def failure (code : StatusCode) (detail : Bytes) : Status := ⟨code, detail⟩

def Status.failed (status : Status) : Bool := status.code != .ok

/-! ### Strong identities -/

inductive IdentityTag
  | node
  | port
  | span
  | crossConnect
  | failureDomain
  | profile
  | source
  | request
  | snapshot
deriving DecidableEq, Repr

/-- Identifier text under a tag. -/
structure StrongId (tag : IdentityTag) where
  str : Bytes
deriving DecidableEq, Repr

namespace StrongId

variable {tag : IdentityTag}

theorem str_injective : Function.Injective (@StrongId.str tag) := by
  rintro ⟨first⟩ ⟨second⟩ equal
  exact congrArg StrongId.mk equal

instance : LinearOrder (StrongId tag) :=
  LinearOrder.lift' StrongId.str str_injective

instance : Inhabited (StrongId tag) := ⟨⟨[]⟩⟩

def empty (id : StrongId tag) : Bool := id.str.isEmpty

end StrongId

abbrev NodeId := StrongId .node
abbrev PortId := StrongId .port
abbrev SpanId := StrongId .span
abbrev CrossConnectId := StrongId .crossConnect
abbrev FailureDomainId := StrongId .failureDomain
abbrev ProfileId := StrongId .profile
abbrev SourceId := StrongId .source
abbrev RequestId := StrongId .request
abbrev SnapshotId := StrongId .snapshot

def kMaxIdLength : Nat := 96

def isAlnum (byte : UInt8) : Bool :=
  (48 ≤ byte && byte ≤ 57) || (97 ≤ byte && byte ≤ 122) ||
    (65 ≤ byte && byte ≤ 90)

/-- The identity alphabet: alphanumerics and `_ - . : / @ +`. -/
def isIdByte (byte : UInt8) : Bool :=
  isAlnum byte || byte == 95 || byte == 45 || byte == 46 || byte == 58 ||
    byte == 47 || byte == 64 || byte == 43

def isValidIdText (bytes : Bytes) : Bool :=
  match bytes with
  | [] => false
  | first :: _ =>
      decide (bytes.length ≤ kMaxIdLength) && isAlnum first &&
        bytes.all isIdByte

def StrongId.parse (tag : IdentityTag) (bytes : Bytes) :
    Except Status (StrongId tag) :=
  if isValidIdText bytes then
    .ok ⟨bytes⟩
  else
    .error (failure .invalidArgument (text ("identifier is empty, too long, " ++
      "or contains characters outside the identity alphabet")))

structure PortKey where
  node : NodeId
  port : PortId
deriving DecidableEq, Repr, Inhabited

namespace PortKey

theorem lex_injective :
    Function.Injective fun key : PortKey => toLex (key.node, key.port) := by
  rintro ⟨firstNode, firstPort⟩ ⟨secondNode, secondPort⟩ equal
  simpa using equal

instance : LinearOrder PortKey :=
  LinearOrder.lift' (fun key : PortKey => toLex (key.node, key.port))
    lex_injective

def canonicalText (key : PortKey) : Bytes :=
  key.node.str ++ text ":" ++ key.port.str

end PortKey

structure Digest256 where
  value : BitVec 256
deriving DecidableEq, Repr, Inhabited

/-! ### Resource keys -/

inductive ResourceKind
  | node
  | port
  | span
  | crossConnect
  | failureDomain
  | reachProfile
  | channel
  | source
deriving DecidableEq, Repr, Inhabited

def ResourceKind.rank : ResourceKind → Nat
  | .node => 0
  | .port => 1
  | .span => 2
  | .crossConnect => 3
  | .failureDomain => 4
  | .reachProfile => 5
  | .channel => 6
  | .source => 7

theorem ResourceKind.rank_injective : Function.Injective ResourceKind.rank := by
  intro first second equal
  cases first <;> cases second <;> first | rfl | cases equal

def ResourceKind.name : ResourceKind → Bytes
  | .node => text "node"
  | .port => text "port"
  | .span => text "span"
  | .crossConnect => text "crossconnect"
  | .failureDomain => text "domain"
  | .reachProfile => text "profile"
  | .channel => text "channel"
  | .source => text "source"

structure ResourceKey where
  kind : ResourceKind
  text : Bytes
deriving DecidableEq, Repr, Inhabited

namespace ResourceKey

theorem lex_injective :
    Function.Injective fun key : ResourceKey =>
      toLex (key.kind.rank, key.text) := by
  rintro ⟨firstKind, firstText⟩ ⟨secondKind, secondText⟩ equal
  simp only [toLex_inj, Prod.mk.injEq] at equal
  obtain ⟨rankEq, rfl⟩ := equal
  rw [ResourceKind.rank_injective rankEq]

instance : LinearOrder ResourceKey :=
  LinearOrder.lift' (fun key : ResourceKey => toLex (key.kind.rank, key.text))
    lex_injective

def empty (key : ResourceKey) : Bool := key.text.isEmpty

def forNode (id : NodeId) : ResourceKey := ⟨.node, id.str⟩
def forPort (key : PortKey) : ResourceKey := ⟨.port, key.canonicalText⟩
def forSpan (id : SpanId) : ResourceKey := ⟨.span, id.str⟩
def forCrossConnect (id : CrossConnectId) : ResourceKey :=
  ⟨.crossConnect, id.str⟩
def forReachProfile (id : ProfileId) : ResourceKey := ⟨.reachProfile, id.str⟩
def forSource (id : SourceId) : ResourceKey := ⟨.source, id.str⟩

/-- The canonical `kind:text` spelling. -/
def toBytes (key : ResourceKey) : Bytes :=
  key.kind.name ++ OpticalPathPlanner.text ":" ++ key.text

theorem forNode_injective : Function.Injective forNode := by
  intro first second equal
  exact StrongId.str_injective (congrArg ResourceKey.text equal)

theorem forSpan_injective : Function.Injective forSpan := by
  intro first second equal
  exact StrongId.str_injective (congrArg ResourceKey.text equal)

theorem forCrossConnect_injective : Function.Injective forCrossConnect := by
  intro first second equal
  exact StrongId.str_injective (congrArg ResourceKey.text equal)

end ResourceKey

end OpticalPathPlanner
