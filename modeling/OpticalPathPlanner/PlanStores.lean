import OpticalPathPlanner.AcceptedPlans
import OpticalPathPlanner.WireProtocol

/-!
# The store of plans

The store keeps each sealed plan in a file of its own, named by the digest of
the plan.  It is content addressed, bounded and never repairs or overwrites a
file.  A directory is a finite map from file names to contents; writing and
removing a file are atomic steps that happen or fail without effect, as the
file system decides.
-/

namespace OpticalPathPlanner

/-! ### Files -/

/-- The regular files of a directory. -/
abbrev Directory := AList fun _ : Bytes => Bytes

/-- `std::filesystem::path::operator/` on POSIX names. -/
def joinPath (base leaf : Bytes) : Bytes :=
  if leaf.head? = some 47 then leaf
  else if base.isEmpty ∨ base.getLast? = some 47 then base ++ leaf
  else base ++ [47] ++ leaf

def hasSuffix (suffix name : Bytes) : Bool := suffix.isSuffixOf name

section Files

variable (routine : SortedRanges.SortRoutine) (path : Bytes → Bytes)

def readFileBounded (directory : Directory) (name : Bytes) (maxBytes : Nat) :
    Except Status Bytes :=
  match directory.lookup name with
  | none => .error (failure .notFound (text "cannot stat '" ++ path name ++
      text "': No such file or directory"))
  | some bytes =>
      if bytes.length > maxBytes then
        .error (failure .limitExceeded (text "'" ++ path name ++
          text "' is larger than the permitted maximum"))
      else
        .ok bytes

/-- A write that the file system lets happen, or answers with a failure. -/
def writeFileAtomic (fault : Status) (directory : Directory)
    (name bytes : Bytes) : Status × Directory :=
  if fault.failed then (fault, directory)
  else (okStatus, directory.insert name bytes)

def removeFile (fault : Status) (directory : Directory) (name : Bytes) :
    Status × Directory :=
  if name ∉ directory then (okStatus, directory)
  else if fault.failed then (fault, directory)
  else (okStatus, directory.erase name)

def listDirectoryFiles (directory : Directory) : List Bytes :=
  routine.sortBy id directory.keys

def listDirectoryBySuffix (directory : Directory) (suffix : Bytes) : List Bytes :=
  (listDirectoryFiles routine directory).filter (hasSuffix suffix)

end Files

/-! ### Store files -/

def kMaxStoreFileBytes : Nat := 16 * 1024 * 1024
def kStoreFormatVersion : UInt32 := 1
def kStoreDirectoryName : Bytes := text "plans"
def kStoreFileSuffix : Bytes := text ".oppplan"
def kStoreTempSuffix : Bytes := text ".opptmp"
def kStoreFileMagic : Bytes := text "OPPFILE1"

/-- Magic, revision, reserved word and payload length. -/
def kHeaderBytes : Nat := 8 + 4 + 4 + 8

def fileNameFor (digest : Digest256) : Bytes := digest.toHex ++ kStoreFileSuffix

section Store

variable {K : Type} [Field K] [LinearOrder K] (runtime : Runtime K)
  (numbers : DoubleText runtime.formatDouble)

/-- What stands in front of the checksum of a store file. -/
def storeFileBody (payload : Bytes) : Bytes :=
  [kStoreFileMagic, ByteWriter.u32 kStoreFormatVersion, ByteWriter.u32 0,
    ByteWriter.u64 (UInt64.ofNat payload.length), payload].flatten

def encodeStoreFile (plan : PlanArtifact K) : Except Status Bytes :=
  let seal_ := plan.verifySeal runtime
  let payload := plan.canonicalBytes runtime.formatDouble
  if seal_.failed then .error seal_
  else if payload.length > kMaxStoreFileBytes then
    .error (failure .limitExceeded
      (text "plan artifact exceeds the store file bound"))
  else
    .ok (storeFileBody payload ++ (runtime.sha256 (storeFileBody payload)).bytes)

structure StoreFileHeader where
  version : UInt32
  reserved : UInt32
  length : UInt64
deriving DecidableEq, Repr

def readStoreFileHeader : ByteReader StoreFileHeader := do
  let version ← ByteReader.u32
  if version ≠ kStoreFormatVersion then
    throw (failure .unsupported
      (text "store file revision is not supported by this runtime"))
  let reserved ← ByteReader.u32
  if reserved ≠ 0 then
    throw (failure .malformedInput
      (text "store file reserved field must be zero"))
  let length ← ByteReader.u64
  return ⟨version, reserved, length⟩

def decodeStoreFile (bytes : Bytes) : Except Status (PlanArtifact K) :=
  if bytes.length < kHeaderBytes + 32 then
    .error (failure .truncated
      (text "store file is shorter than its header and checksum"))
  else if bytes.take 8 ≠ kStoreFileMagic then
    .error (failure .malformedInput
      (text "store file magic is not recognised"))
  else
    match readStoreFileHeader ((bytes.drop 8).take (kHeaderBytes - 8)) with
    | .error status => .error status
    | .ok (header, _) =>
        let total := kHeaderBytes + header.length.toNat
        if header.length.toNat > kMaxStoreFileBytes then
          .error (failure .limitExceeded
            (text "store file declares a payload larger than the bound"))
        else if bytes.length ≠ total + 32 then
          .error (failure .truncated
            (text "store file length does not match its declared payload size"))
        else if (runtime.sha256 (bytes.take total)).bytes ≠
            (bytes.drop total).take 32 then
          .error (failure .integrityFailure
            (text "store file checksum does not match its content"))
        else
          parsePlanArtifact runtime numbers
            ((bytes.drop kHeaderBytes).take header.length.toNat)

/-! ### The operations of the store -/

structure StoreOptions where
  root : Bytes
  maxPlans : UInt32 := 4096
  verifyExisting : Bool := true
deriving DecidableEq, Repr

structure StoreEntry where
  digest : Digest256
  bytes : UInt64
  requestId : RequestId
  fileName : Bytes
deriving DecidableEq, Repr

namespace PlanStore

/-- Names that an interrupted write leaves behind. -/
def isTemporary (name : Bytes) : Bool :=
  hasSuffix (text ".tmp") name || hasSuffix kStoreTempSuffix name

/-- Remove stale temporary files; a removal that fails is passed over. -/
def cleanTemporaries (faults : Bytes → Status) (directory : Directory) :
    Directory :=
  (directory.keys.filter isTemporary).foldl
    (fun directory name => (removeFile (faults name) directory name).2) directory

/-- Opening a store on a root whose directories exist or can be created. -/
def open_ (options : StoreOptions) (faults : Bytes → Status)
    (directory : Directory) : Except Status Directory :=
  if options.root.isEmpty then
    .error (failure .invalidArgument (text "store root must not be empty"))
  else if options.maxPlans = 0 ∨ options.maxPlans.toNat > kMaxStoredPlans then
    .error (failure .invalidArgument
      (text "store max_plans is outside the supported range"))
  else
    .ok (cleanTemporaries faults directory)

variable (options : StoreOptions)

def pathOf (name : Bytes) : Bytes :=
  joinPath (joinPath options.root kStoreDirectoryName) name

def scan (directory : Directory) : List Bytes :=
  listDirectoryBySuffix runtime.routine directory kStoreFileSuffix

def load (directory : Directory) (name : Bytes) : Except Status (PlanArtifact K) := do
  let bytes ← readFileBounded (pathOf options) directory name kMaxStoreFileBytes
  decodeStoreFile runtime numbers bytes

/-- Store a sealed plan.  The status is what the file system answers to the
write, if it comes to that. -/
def put (plan : PlanArtifact K) (fault : Status) (directory : Directory) :
    Status × Directory :=
  let name := fileNameFor plan.digest
  match encodeStoreFile runtime plan with
  | .error status => (status, directory)
  | .ok encoded =>
      if name ∈ directory then
        if options.verifyExisting = false then
          (failure .refused
            (text "an artifact with this digest already exists in the store"),
            directory)
        else
          match readFileBounded (pathOf options) directory name
              kMaxStoreFileBytes with
          | .error status => (status, directory)
          | .ok existing =>
              if existing ≠ encoded then
                (failure .integrityFailure (text ("an artifact with this digest " ++
                  "exists in the store but its content differs")), directory)
              else
                (okStatus, directory)
      else if (scan runtime directory).length ≥ options.maxPlans.toNat then
        (failure .exhausted
          (text "the plan store has reached its configured capacity"), directory)
      else
        writeFileAtomic fault directory name encoded

def get (digest : Digest256) (directory : Directory) :
    Except Status (PlanArtifact K) :=
  if fileNameFor digest ∉ directory then
    .error (failure .notFound
      (text "no stored artifact has digest " ++ digest.toHex))
  else
    match load runtime numbers options directory (fileNameFor digest) with
    | .error status => .error status
    | .ok plan =>
        if plan.digest ≠ digest then
          .error (failure .integrityFailure (text ("stored artifact content does " ++
            "not match the digest in its file name")))
        else
          .ok plan

/-- What `list` makes of one file: an entry, or its name among the rejected. -/
def entryOf (directory : Directory) (name : Bytes) : StoreEntry ⊕ Bytes :=
  match load runtime numbers options directory name with
  | .error _ => .inr name
  | .ok plan =>
      if name ≠ fileNameFor plan.digest then .inr name
      else
        let size :=
          match readFileBounded (pathOf options) directory name
              kMaxStoreFileBytes with
          | .error _ => 0
          | .ok bytes => UInt64.ofNat bytes.length
        .inl ⟨plan.digest, size, plan.requestId, name⟩

/-- Every readable entry in digest order, and the names that were rejected. -/
def list (directory : Directory) : List StoreEntry × List Bytes :=
  let read := (scan runtime directory).map
    (entryOf runtime numbers options directory)
  (runtime.routine.sortBy (fun entry => entry.digest.value.toNat)
      (read.filterMap Sum.getLeft?),
    read.filterMap Sum.getRight?)

def count (directory : Directory) : UInt32 :=
  UInt32.ofNat (scan runtime directory).length

def remove (digest : Digest256) (fault : Status) (directory : Directory) :
    Status × Directory :=
  if fileNameFor digest ∉ directory then
    (failure .notFound
      (text "no stored artifact has digest " ++ digest.toHex), directory)
  else
    removeFile fault directory (fileNameFor digest)

end PlanStore

end Store

end OpticalPathPlanner
