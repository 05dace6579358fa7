import OpticalPathPlanner.PlanStoreRuns
import OpticalPathPlanner.WireCodecs

/-!
# Plans that can be read back from the store

A stored plan stays in its file until it is removed, whatever else the store is
asked to do.  Whether the file can be read was decided when it was written: a
write checks the seal and one bound, and a read applies a smaller bound and the
whole grammar of plans.
-/

namespace OpticalPathPlanner

open ByteReaders

variable {K : Type} [Field K] [LinearOrder K] {runtime : Runtime K}
  {numbers : DoubleText runtime.formatDouble}

/-! ### The file of a plan -/

/-- What the reader of plans asks of a plan that it is to read back. -/
structure PlanArtifact.Readable (numbers : DoubleText runtime.formatDouble)
    (plan : PlanArtifact K) : Prop where
  legal : plan.Legal numbers
  ends : plan.EndsValid
  colonFree : plan.ColonFree
  tokens : plan.TokensFit runtime.formatDouble
  bounded : (plan.canonicalBytes runtime.formatDouble).length ≤
    kMaxPlanArtifactBytes

theorem PlanArtifact.readable_iff (zero : numbers.IsDouble 0)
    {plan : PlanArtifact K} :
    parsePlanArtifact runtime numbers
        (plan.canonicalBytes runtime.formatDouble) = .ok plan ↔
      plan.Readable numbers := by
  constructor
  · intro read
    have legal := (accepted_of_parsePlanArtifact zero read).1
    obtain ⟨ends, colonFree, tokens, bounded⟩ :=
      (legal.parse_canonicalBytes_iff zero).mp read
    exact ⟨legal, ends, colonFree, tokens, bounded⟩
  · intro readable
    exact (readable.legal.parse_canonicalBytes_iff zero).mpr
      ⟨readable.ends, readable.colonFree, readable.tokens, readable.bounded⟩

theorem reads_storeFileHeader (length : UInt64) :
    Reads readStoreFileHeader
      (ByteWriter.u32 kStoreFormatVersion ++ (ByteWriter.u32 0 ++
        (ByteWriter.u64 length ++ []))) ⟨kStoreFormatVersion, 0, length⟩ := by
  refine Reads.bind (ByteReader.reads_u32 _) ?_
  rw [if_neg (not_not.mpr rfl)]
  refine Reads.bind (ByteReader.reads_u32 _) ?_
  rw [if_neg (not_not.mpr rfl)]
  exact Reads.bind (ByteReader.reads_u64 length) (Reads.pure _)

/-- Reading the file of a plan comes down to reading its canonical bytes. -/
theorem decodeStoreFile_encoded {plan : PlanArtifact K} {bytes : Bytes}
    (encoded : encodeStoreFile runtime plan = .ok bytes) :
    decodeStoreFile runtime numbers bytes =
      parsePlanArtifact runtime numbers
        (plan.canonicalBytes runtime.formatDouble) := by
  obtain ⟨_, bounded, rfl⟩ := encodeStoreFile_eq_ok_iff.mp encoded
  set payload := plan.canonicalBytes runtime.formatDouble with payload_def
  set checksum := (runtime.sha256 (storeFileBody payload)).bytes with checksum_def
  have magicLength : kStoreFileMagic.length = 8 := by decide
  have checksumLength : checksum.length = 32 := Digest256.length_bytes _
  have bodyLength := storeFileBody_length payload
  have length : (UInt64.ofNat payload.length).toNat = payload.length := by
    rw [UInt64.toNat_ofNat', Nat.mod_eq_of_lt]
    exact bounded.trans_lt (by decide)
  have spelled : storeFileBody payload ++ checksum = kStoreFileMagic ++
      ((ByteWriter.u32 kStoreFormatVersion ++ (ByteWriter.u32 0 ++
        (ByteWriter.u64 (UInt64.ofNat payload.length) ++ []))) ++
          (payload ++ checksum)) := by
    simp [storeFileBody]
  have header : readStoreFileHeader
      (((storeFileBody payload ++ checksum).drop 8).take (kHeaderBytes - 8)) =
        .ok (⟨kStoreFormatVersion, 0, UInt64.ofNat payload.length⟩, []) := by
    rw [spelled, ← magicLength, List.drop_left, List.take_left']
    · simpa using reads_storeFileHeader (UInt64.ofNat payload.length) []
    · simp [kHeaderBytes, magicLength]
  have long : ¬ (storeFileBody payload ++ checksum).length < kHeaderBytes + 32 := by
    rw [List.length_append, bodyLength, checksumLength]
    omega
  have magic : (storeFileBody payload ++ checksum).take 8 = kStoreFileMagic := by
    rw [spelled, ← magicLength, List.take_left]
  have total : (storeFileBody payload ++ checksum).length =
      kHeaderBytes + payload.length + 32 := by
    rw [List.length_append, bodyLength, checksumLength]
  have signed : (storeFileBody payload ++ checksum).take
      (kHeaderBytes + payload.length) = storeFileBody payload := by
    rw [← bodyLength, List.take_left]
  have trailer : ((storeFileBody payload ++ checksum).drop
      (kHeaderBytes + payload.length)).take 32 = checksum := by
    rw [← bodyLength, List.drop_left, ← checksumLength, List.take_length]
  have inside : ((storeFileBody payload ++ checksum).drop kHeaderBytes).take
      payload.length = payload := by
    have front : storeFileBody payload ++ checksum =
        (kStoreFileMagic ++ (ByteWriter.u32 kStoreFormatVersion ++
          (ByteWriter.u32 0 ++ ByteWriter.u64 (UInt64.ofNat payload.length)))) ++
            (payload ++ checksum) := by
      simp [storeFileBody]
    rw [front, List.drop_left', List.take_left]
    simp [kHeaderBytes, magicLength]
  unfold decodeStoreFile
  rw [if_neg long, if_neg (not_not.mpr magic), header]
  simp only [length]
  rw [if_neg (not_lt.mpr bounded), if_neg (not_not.mpr total), signed, trailer,
    if_neg (not_not.mpr checksum_def.symm), inside]

/-! ### Files that stay -/

theorem Digest256.toHex_injective {first second : Digest256}
    (same : first.toHex = second.toHex) : first = second := by
  have read := congrArg Digest256.fromHex same
  rw [Digest256.fromHex_toHex, Digest256.fromHex_toHex] at read
  exact Except.ok.inj read

theorem fileNameFor_injective {first second : Digest256}
    (same : fileNameFor first = fileNameFor second) : first = second :=
  Digest256.toHex_injective (List.append_cancel_right same)

namespace PlanStore

variable {options : StoreOptions} {directory : Directory} {plan : PlanArtifact K}

/-- A stored plan stays stored until it is removed. -/
theorem Stored.after (stored : Stored runtime directory plan)
    {event : StoreEvent K} (kept : event.call ≠ .remove plan.digest) :
    Stored runtime (event.after runtime options directory) plan := by
  obtain ⟨bytes, encoded, found⟩ := stored
  refine ⟨bytes, encoded, ?_⟩
  obtain ⟨call, fault⟩ := event
  cases call with
  | put other => exact put_lookup other fault found
  | get digest => exact found
  | list => exact found
  | count => exact found
  | remove digest =>
      change (PlanStore.remove digest fault directory).2.lookup _ = _
      rcases remove_cases digest fault with same | erased
      · rw [same, found]
      · have other : fileNameFor plan.digest ≠ fileNameFor digest := by
          intro same
          exact kept (by rw [fileNameFor_injective same])
        rw [erased, AList.lookup_erase_ne other, found]

theorem Stored.run (stored : Stored runtime directory plan)
    {events : List (StoreEvent K)}
    (kept : ∀ event ∈ events, event.call ≠ .remove plan.digest) :
    Stored runtime (PlanStore.run runtime options directory events) plan := by
  induction events generalizing directory with
  | nil => exact stored
  | cons event rest ih =>
      rw [List.forall_mem_cons] at kept
      exact ih (stored.after kept.1) kept.2

/-! ### What reading answers -/

/-- The store returns the plan and lists it. -/
structure ReadsBack (numbers : DoubleText runtime.formatDouble)
    (options : StoreOptions) (directory : Directory) (plan : PlanArtifact K) :
    Prop where
  got : PlanStore.get runtime numbers options plan.digest directory = .ok plan
  listed : ∃ entry ∈ (list runtime numbers options directory).1,
    entry.digest = plan.digest ∧ entry.requestId = plan.requestId ∧
      entry.fileName = fileNameFor plan.digest
  accepted : fileNameFor plan.digest ∉
    (list runtime numbers options directory).2

theorem entryOf_eq_inr {name other : Bytes}
    (rejected : entryOf runtime numbers options directory name = .inr other) :
    name = other := by
  unfold entryOf at rejected
  cases loaded : load runtime numbers options directory name with
  | error status =>
      rw [loaded] at rejected
      exact Sum.inr.inj rejected
  | ok plan =>
      simp only [loaded] at rejected
      split_ifs at rejected
      exact Sum.inr.inj rejected

/-- A stored plan that is loaded is an entry of the listing. -/
theorem listed_of_load (inside : fileNameFor plan.digest ∈ directory)
    (loaded : load runtime numbers options directory (fileNameFor plan.digest) =
      .ok plan) :
    (∃ entry ∈ (list runtime numbers options directory).1,
        entry.digest = plan.digest ∧ entry.requestId = plan.requestId ∧
          entry.fileName = fileNameFor plan.digest) ∧
      fileNameFor plan.digest ∉ (list runtime numbers options directory).2 := by
  obtain ⟨size, entry⟩ : ∃ size,
      entryOf runtime numbers options directory (fileNameFor plan.digest) =
        .inl ⟨plan.digest, size, plan.requestId, fileNameFor plan.digest⟩ := by
    unfold entryOf
    rw [loaded]
    simp only [ne_eq, not_true_eq_false, if_false]
    exact ⟨_, rfl⟩
  have scanned : fileNameFor plan.digest ∈ scan runtime directory := by
    rw [scan, listDirectoryBySuffix, List.mem_filter, listDirectoryFiles,
      SortedRanges.SortRoutine.mem_sortBy, ← AList.mem_keys]
    exact ⟨inside, fileNameFor_hasSuffix plan.digest⟩
  unfold list
  simp only [SortedRanges.SortRoutine.mem_sortBy, List.mem_filterMap,
    List.mem_map]
  constructor
  · exact ⟨_, ⟨_, ⟨_, scanned, entry⟩, rfl⟩, rfl, rfl, rfl⟩
  · rintro ⟨read, ⟨name, _, rfl⟩, isRejected⟩
    cases answer : entryOf runtime numbers options directory name with
    | inl other =>
        rw [answer] at isRejected
        cases isRejected
    | inr other =>
        rw [answer] at isRejected
        have own : other = fileNameFor plan.digest := Option.some.inj isRejected
        rw [entryOf_eq_inr answer, own, entry] at answer
        cases answer

/-- Loading a stored plan reads its canonical bytes, when the file is within
the bound of a read. -/
theorem Stored.load_eq_ok_iff (stored : Stored runtime directory plan)
    {read : PlanArtifact K} :
    load runtime numbers options directory (fileNameFor plan.digest) = .ok read ↔
      plan.FitsStoreFile runtime ∧ parsePlanArtifact runtime numbers
        (plan.canonicalBytes runtime.formatDouble) = .ok read := by
  obtain ⟨bytes, encoded, found⟩ := stored
  have length := length_of_encodeStoreFile encoded
  have bound : kHeaderBytes + 32 ≤ kMaxStoreFileBytes := by decide
  have small : bytes.length ≤ kMaxStoreFileBytes ↔
      plan.FitsStoreFile runtime := by
    unfold PlanArtifact.FitsStoreFile
    omega
  rw [← small, ← decodeStoreFile_encoded encoded]
  unfold load
  rw [bind_eq_ok_iff]
  simp only [readFileBounded, found]
  split_ifs with large
  · simp only [false_and, exists_false, false_iff, not_and]
    exact fun fits => absurd fits (not_le.mpr large)
  · simp only [Except.ok.injEq, exists_eq_left']
    exact (and_iff_right (not_lt.mp large)).symm

/-- A stored plan is returned and listed exactly when it is readable. -/
theorem Stored.readsBack_iff (zero : numbers.IsDouble 0)
    (stored : Stored runtime directory plan) :
    ReadsBack numbers options directory plan ↔ plan.Readable numbers := by
  have inside : fileNameFor plan.digest ∈ directory := by
    obtain ⟨bytes, _, found⟩ := stored
    rw [← AList.lookup_isSome, found]
    rfl
  constructor
  · intro back
    have got := back.got
    unfold PlanStore.get at got
    rw [if_neg (not_not.mpr inside)] at got
    cases loaded : load runtime numbers options directory
        (fileNameFor plan.digest) with
    | error status =>
        rw [loaded] at got
        cases got
    | ok read =>
        simp only [loaded] at got
        split_ifs at got
        cases got
        exact (PlanArtifact.readable_iff zero).mp (stored.load_eq_ok_iff.mp loaded).2
  · intro readable
    have fits : plan.FitsStoreFile runtime :=
      readable.bounded.trans (by decide)
    have loaded : load runtime numbers options directory
        (fileNameFor plan.digest) = .ok plan :=
      stored.load_eq_ok_iff.mpr ⟨fits, (PlanArtifact.readable_iff zero).mpr readable⟩
    obtain ⟨listed, accepted⟩ := listed_of_load inside loaded
    refine ⟨?_, listed, accepted⟩
    unfold PlanStore.get
    rw [if_neg (not_not.mpr inside), loaded]
    simp

/-- A plan whose storing was acknowledged stays readable until it is removed,
exactly when the reader of plans accepts it. -/
theorem stored_plan_reads_back_iff (zero : numbers.IsDouble 0)
    (options : StoreOptions) (directory : Directory) (plan : PlanArtifact K)
    (fault : Status)
    (acknowledged :
      (PlanStore.put runtime options plan fault directory).1.failed = false)
    (events : List (StoreEvent K))
    (kept : ∀ event ∈ events, event.call ≠ .remove plan.digest) :
    ReadsBack numbers options
        (PlanStore.run runtime options
          (PlanStore.put runtime options plan fault directory).2 events) plan ↔
      plan.Readable numbers :=
  ((stored_of_put acknowledged).run kept).readsBack_iff zero

theorem stored_plan_reads_back_iff_boundPlan :
    ReadsBack wholeNumbers { root := text "/var/opp" }
      (PlanStore.run rationalRuntime { root := text "/var/opp" }
        (PlanStore.put rationalRuntime { root := text "/var/opp" } boundPlan
          okStatus ∅).2 [⟨.list, okStatus⟩, ⟨.get boundPlan.digest, okStatus⟩])
      boundPlan := by
  have zero : wholeNumbers.IsDouble 0 := ⟨0, by decide, by norm_num⟩
  refine (stored_plan_reads_back_iff zero _ ∅ boundPlan okStatus
    (by decide +kernel) _ ?_).mpr ?_
  · rw [List.forall_mem_cons, List.forall_mem_singleton]
    constructor <;> rintro ⟨⟩
  · rw [← PlanArtifact.readable_iff zero]
    decide +kernel

/-- A sealed plan with a long field is stored and cannot be returned. -/
theorem longField_not_readable :
    (PlanStore.put rationalRuntime { root := text "/var/opp" } (paddedPlan 1100)
        okStatus ∅).1 = okStatus ∧
      ¬ ReadsBack wholeNumbers { root := text "/var/opp" }
        (PlanStore.put rationalRuntime { root := text "/var/opp" }
          (paddedPlan 1100) okStatus ∅).2 (paddedPlan 1100) := by
  have refused : PlanStore.get rationalRuntime wholeNumbers
      { root := text "/var/opp" } (paddedPlan 1100).digest
        (PlanStore.put rationalRuntime { root := text "/var/opp" }
          (paddedPlan 1100) okStatus ∅).2 ≠ .ok (paddedPlan 1100) := by
    decide +kernel
  exact ⟨by decide +kernel, fun back => refused back.got⟩

end PlanStore

end OpticalPathPlanner
