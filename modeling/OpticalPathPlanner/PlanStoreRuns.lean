import OpticalPathPlanner.PlanStores

/-!
# Runs of the plan store

Any order of calls on a store that was opened on an empty directory, with any
write or removal failing, leaves files named by the digests of the sealed
plans they encode, within the capacity of the store.  Storing a stored plan
again succeeds exactly when its file keeps the bound that every read applies:
the bound of a write leaves out the header and the checksum.
-/

namespace OpticalPathPlanner

open ByteReaders

variable {K : Type} [Field K] [LinearOrder K]

/-! ### Calls -/

inductive StoreCall (K : Type)
  | put (plan : PlanArtifact K)
  | get (digest : Digest256)
  | list
  | count
  | remove (digest : Digest256)

/-- A call, with the answer of the file system to the write or removal it may
come to. -/
structure StoreEvent (K : Type) where
  call : StoreCall K
  fault : Status

section Calls

variable (runtime : Runtime K) (options : StoreOptions)

/-- What a call leaves in the directory. -/
def StoreEvent.after (directory : Directory) (event : StoreEvent K) : Directory :=
  match event.call with
  | .put plan => (PlanStore.put runtime options plan event.fault directory).2
  | .get _ => directory
  | .list => directory
  | .count => directory
  | .remove digest => (PlanStore.remove digest event.fault directory).2

def PlanStore.run (directory : Directory) (events : List (StoreEvent K)) :
    Directory :=
  events.foldl (StoreEvent.after runtime options) directory

/-- The file of the plan is in the directory. -/
def PlanStore.Stored (directory : Directory) (plan : PlanArtifact K) : Prop :=
  ∃ bytes, encodeStoreFile runtime plan = .ok bytes ∧
    directory.lookup (fileNameFor plan.digest) = some bytes

/-- The bound that reading a store file applies to the whole file, as a bound
on the payload. -/
def PlanArtifact.FitsStoreFile (plan : PlanArtifact K) : Prop :=
  (plan.canonicalBytes runtime.formatDouble).length ≤
    kMaxStoreFileBytes - (kHeaderBytes + 32)

def StoreEvent.Fits (event : StoreEvent K) : Prop :=
  ∀ plan, event.call = .put plan → plan.FitsStoreFile runtime

end Calls

/-! ### Store files -/

section Files

variable {runtime : Runtime K} {plan : PlanArtifact K} {bytes : Bytes}

theorem storeFileBody_length (payload : Bytes) :
    (storeFileBody payload).length = kHeaderBytes + payload.length := by
  have magic : kStoreFileMagic.length = 8 := by decide
  simp only [storeFileBody, ByteWriter.u32, ByteWriter.u64, List.flatten_cons,
    List.flatten_nil, List.append_nil, List.length_append, length_littleEndian,
    magic, kHeaderBytes]
  omega

/-- A sealed plan within the bound is encoded. -/
theorem encodeStoreFile_eq_ok_iff :
    encodeStoreFile runtime plan = .ok bytes ↔
      runtime.computePlanDigest plan = plan.digest ∧
        (plan.canonicalBytes runtime.formatDouble).length ≤ kMaxStoreFileBytes ∧
        bytes = storeFileBody (plan.canonicalBytes runtime.formatDouble) ++
          (runtime.sha256 (storeFileBody
            (plan.canonicalBytes runtime.formatDouble))).bytes := by
  unfold encodeStoreFile
  simp only
  split_ifs with unsealed large
  · simp only [false_iff, not_and]
    intro sealed_
    rw [verifySeal_failed_iff.mpr sealed_] at unsealed
    cases unsealed
  · simp only [false_iff, not_and]
    intro _ small
    exact absurd small (not_le.mpr large)
  · have sealed_ := verifySeal_failed_iff.mp (by simpa using unsealed)
    rw [Except.ok.injEq]
    exact ⟨fun same => ⟨sealed_, not_lt.mp large, same.symm⟩,
      fun parts => parts.2.2.symm⟩

theorem length_of_encodeStoreFile (encoded : encodeStoreFile runtime plan = .ok bytes) :
    bytes.length =
      (plan.canonicalBytes runtime.formatDouble).length + (kHeaderBytes + 32) := by
  obtain ⟨_, _, rfl⟩ := encodeStoreFile_eq_ok_iff.mp encoded
  rw [List.length_append, storeFileBody_length, Digest256.length_bytes]
  omega

/-- A plan that is read off a store file is sealed. -/
theorem sealed_of_decodeStoreFile {numbers : DoubleText runtime.formatDouble}
    (decoded : decodeStoreFile runtime numbers bytes = .ok plan) :
    runtime.computePlanDigest plan = plan.digest := by
  unfold decodeStoreFile at decoded
  split_ifs at decoded
  split at decoded
  · cases decoded
  · simp only at decoded
    split_ifs at decoded
    unfold parsePlanArtifact at decoded
    split_ifs at decoded
    obtain ⟨reader, _, accepted⟩ := bind_eq_ok_iff.mp decoded
    exact (acceptPlan_eq_ok_iff.mp accepted).2.2.2.sealed_

theorem fileNameFor_hasSuffix (digest : Digest256) :
    hasSuffix kStoreFileSuffix (fileNameFor digest) = true := by
  rw [hasSuffix, List.isSuffixOf_iff_suffix]
  exact List.suffix_append _ _

end Files

/-! ### One call -/

namespace PlanStore

variable {runtime : Runtime K} {options : StoreOptions} {directory : Directory}

/-- What every reachable directory holds. -/
structure Invariant (runtime : Runtime K) (options : StoreOptions)
    (directory : Directory) : Prop where
  /-- A file encodes the sealed plan whose digest names it. -/
  named : ∀ name bytes, directory.lookup name = some bytes →
    ∃ plan : PlanArtifact K, runtime.computePlanDigest plan = plan.digest ∧
      name = fileNameFor plan.digest ∧ encodeStoreFile runtime plan = .ok bytes
  bounded : directory.keys.length ≤ options.maxPlans.toNat

theorem Invariant.scan_length (invariant : Invariant runtime options directory) :
    (scan runtime directory).length = directory.keys.length := by
  have named : ∀ name ∈ listDirectoryFiles runtime.routine directory,
      hasSuffix kStoreFileSuffix name = true := by
    intro name member
    rw [listDirectoryFiles, SortedRanges.SortRoutine.mem_sortBy, ← AList.mem_keys,
      ← AList.lookup_isSome, Option.isSome_iff_exists] at member
    obtain ⟨bytes, found⟩ := member
    obtain ⟨plan, _, rfl, _⟩ := invariant.named name bytes found
    exact fileNameFor_hasSuffix plan.digest
  rw [scan, listDirectoryBySuffix, List.filter_eq_self.mpr named,
    listDirectoryFiles]
  exact (runtime.routine.sortBy_perm id directory.keys).length_eq

/-- A store either leaves the directory alone or adds the file of a plan that
was not there, below the capacity. -/
theorem put_cases (plan : PlanArtifact K) (fault : Status) :
    (put runtime options plan fault directory).2 = directory ∨
      ∃ bytes, encodeStoreFile runtime plan = .ok bytes ∧
        fileNameFor plan.digest ∉ directory ∧
        (scan runtime directory).length < options.maxPlans.toNat ∧
        put runtime options plan fault directory =
          (okStatus, directory.insert (fileNameFor plan.digest) bytes) := by
  cases encoded : encodeStoreFile runtime plan with
  | error status =>
      left
      simp [put, encoded]
  | ok bytes =>
      by_cases exists_ : fileNameFor plan.digest ∈ directory
      · left
        simp only [put, encoded, if_pos exists_]
        split_ifs
        · rfl
        · cases readFileBounded (pathOf options) directory (fileNameFor plan.digest)
            kMaxStoreFileBytes with
          | error status => rfl
          | ok existing =>
              simp only
              split_ifs <;> rfl
      · by_cases full :
          (scan runtime directory).length ≥ options.maxPlans.toNat
        · left
          simp [put, encoded, exists_, full]
        · by_cases faulty : fault.failed = true
          · left
            simp [put, encoded, exists_, full, writeFileAtomic, faulty]
          · right
            refine ⟨bytes, rfl, exists_, not_le.mp full, ?_⟩
            simp [put, encoded, exists_, full, writeFileAtomic, faulty]

/-- A store never changes the bytes of an existing file. -/
theorem put_lookup (plan : PlanArtifact K) (fault : Status) {name bytes : Bytes}
    (found : directory.lookup name = some bytes) :
    (put runtime options plan fault directory).2.lookup name = some bytes := by
  rcases put_cases plan fault with same | ⟨encoded, _, absent, _, written⟩
  · rw [same, found]
  · have other : name ≠ fileNameFor plan.digest := by
      rintro rfl
      rw [AList.lookup_eq_none.mpr absent] at found
      cases found
    rw [written, AList.lookup_insert_ne other, found]

theorem put_failed (plan : PlanArtifact K) (fault : Status)
    (failed : (put runtime options plan fault directory).1.failed = true) :
    (put runtime options plan fault directory).2 = directory := by
  rcases put_cases plan fault with same | ⟨_, _, _, _, written⟩
  · exact same
  · rw [written] at failed
    cases failed

theorem Invariant.put (invariant : Invariant runtime options directory)
    (plan : PlanArtifact K) (fault : Status) :
    Invariant runtime options
      (PlanStore.put runtime options plan fault directory).2 := by
  rcases put_cases plan fault with same |
    ⟨bytes, encoded, absent, room, written⟩
  · rw [same]
    exact invariant
  · rw [written]
    constructor
    · intro name content found
      by_cases own : name = fileNameFor plan.digest
      · subst own
        rw [AList.lookup_insert, Option.some.injEq] at found
        subst found
        exact ⟨plan, (encodeStoreFile_eq_ok_iff.mp encoded).1, rfl, encoded⟩
      · rw [AList.lookup_insert_ne own] at found
        exact invariant.named name content found
    · rw [AList.keys, AList.entries_insert_of_notMem absent, List.keys_cons,
        List.length_cons]
      rw [invariant.scan_length] at room
      exact room

theorem remove_cases (digest : Digest256) (fault : Status) :
    (remove digest fault directory).2 = directory ∨
      (remove digest fault directory).2 =
        directory.erase (fileNameFor digest) := by
  unfold remove removeFile
  split_ifs <;> simp

theorem Invariant.remove (invariant : Invariant runtime options directory)
    (digest : Digest256) (fault : Status) :
    Invariant runtime options (PlanStore.remove digest fault directory).2 := by
  rcases remove_cases digest fault with same | erased
  · rw [same]
    exact invariant
  · rw [erased]
    constructor
    · intro name bytes found
      have other : name ≠ fileNameFor digest := by
        rintro rfl
        rw [AList.lookup_erase] at found
        cases found
      rw [AList.lookup_erase_ne other] at found
      exact invariant.named name bytes found
    · rw [AList.keys_erase]
      exact (@List.length_erase_le _ instBEqOfDecidableEq _ _).trans
        invariant.bounded

/-- Every call keeps the invariant. -/
theorem Invariant.after (invariant : Invariant runtime options directory)
    (event : StoreEvent K) :
    Invariant runtime options (event.after runtime options directory) := by
  obtain ⟨call, fault⟩ := event
  cases call with
  | put plan => exact invariant.put plan fault
  | get digest => exact invariant
  | list => exact invariant
  | count => exact invariant
  | remove digest => exact invariant.remove digest fault

theorem Invariant.run (invariant : Invariant runtime options directory)
    (events : List (StoreEvent K)) :
    Invariant runtime options (PlanStore.run runtime options directory events) := by
  induction events generalizing directory with
  | nil => exact invariant
  | cons event rest ih => exact ih (invariant.after event)

/-! ### Answers -/

/-- Storing a stored plan again succeeds when its file can be read. -/
theorem put_stored_iff {plan : PlanArtifact K} (fault : Status)
    (verifies : options.verifyExisting = true)
    (stored : Stored runtime directory plan) :
    PlanStore.put runtime options plan fault directory = (okStatus, directory) ↔
      plan.FitsStoreFile runtime := by
  obtain ⟨bytes, encoded, found⟩ := stored
  have exists_ : fileNameFor plan.digest ∈ directory := by
    rw [← AList.lookup_isSome, found]
    rfl
  have length := length_of_encodeStoreFile encoded
  have bound : kHeaderBytes + 32 ≤ kMaxStoreFileBytes := by decide
  unfold PlanStore.put PlanArtifact.FitsStoreFile
  simp only [encoded, if_pos exists_, verifies, Bool.true_eq_false, if_false,
    readFileBounded, found]
  by_cases large : bytes.length > kMaxStoreFileBytes
  · rw [if_pos large]
    refine iff_of_false ?_ (by omega)
    intro same
    cases congrArg (fun answer => answer.1.code) same
  · rw [if_neg large]
    exact iff_of_true (by simp) (by omega)

theorem stored_of_put {plan : PlanArtifact K} {fault : Status}
    (ok : (PlanStore.put runtime options plan fault directory).1.failed = false) :
    Stored runtime (PlanStore.put runtime options plan fault directory).2 plan := by
  cases encoded : encodeStoreFile runtime plan with
  | error status =>
      simp only [PlanStore.put, encoded] at ok
      unfold encodeStoreFile at encoded
      simp only at encoded
      split_ifs at encoded with unsealed
      · cases encoded
        rw [ok] at unsealed
        cases unsealed
      · cases encoded
        cases ok
  | ok bytes =>
      rcases put_cases plan fault with same | ⟨other, encodedOther, _, _, written⟩
      · refine ⟨bytes, encoded, ?_⟩
        rw [same]
        unfold PlanStore.put at ok
        simp only [encoded] at ok
        split_ifs at ok with exists_ refused full
        · cases ok
        · unfold readFileBounded at ok
          cases found : directory.lookup (fileNameFor plan.digest) with
          | none =>
              rw [found] at ok
              cases ok
          | some existing =>
              simp only [found] at ok
              by_cases large : existing.length > kMaxStoreFileBytes
              · rw [if_pos large] at ok
                cases ok
              · rw [if_neg large] at ok
                simp only at ok
                split_ifs at ok with differs
                · cases ok
                · rw [not_not.mp differs]
        · cases ok
        · unfold PlanStore.put writeFileAtomic at same
          simp only [writeFileAtomic] at ok
          simp only [encoded, if_neg exists_, if_neg full] at same
          split_ifs at ok same with faulty
          · rw [ok] at faulty
            cases faulty
          · rw [← same, AList.lookup_insert]
      · rw [written]
        exact ⟨other, encodedOther, AList.lookup_insert directory⟩

/-- A plan that the store returns has the digest it was asked for, and its
seal verifies. -/
theorem get_sealed {numbers : DoubleText runtime.formatDouble} {digest : Digest256}
    {plan : PlanArtifact K}
    (found : PlanStore.get runtime numbers options digest directory = .ok plan) :
    plan.digest = digest ∧ runtime.computePlanDigest plan = plan.digest := by
  unfold PlanStore.get at found
  split_ifs at found
  cases loaded : load runtime numbers options directory (fileNameFor digest) with
  | error status => simp [loaded] at found
  | ok read =>
      simp only [loaded] at found
      split_ifs at found with differs
      cases found
      obtain ⟨bytes, _, decoded⟩ := bind_eq_ok_iff.mp loaded
      exact ⟨not_not.mp differs, sealed_of_decodeStoreFile decoded⟩

theorem Invariant.count_eq (invariant : Invariant runtime options directory) :
    (count runtime directory).toNat = directory.keys.length := by
  have bounded := invariant.bounded
  have small := options.maxPlans.toNat_lt
  rw [count, invariant.scan_length, UInt32.toNat_ofNat']
  omega

/-- Every file is listed, as an entry or among the rejected. -/
theorem Invariant.list_length (invariant : Invariant runtime options directory)
    (numbers : DoubleText runtime.formatDouble) :
    (list runtime numbers options directory).1.length +
        (list runtime numbers options directory).2.length =
      directory.keys.length := by
  rw [← invariant.scan_length]
  unfold list
  simp only
  rw [(runtime.routine.sortBy_perm _ _).length_eq]
  generalize scan runtime directory = names
  induction names with
  | nil => rfl
  | cons name rest ih =>
      rw [List.map_cons]
      cases entryOf runtime numbers options directory name with
      | inl entry =>
          simp only [List.filterMap_cons, Sum.getLeft?, Sum.getRight?,
            List.length_cons]
          omega
      | inr rejected =>
          simp only [List.filterMap_cons, Sum.getLeft?, Sum.getRight?,
            List.length_cons]
          omega

/-! ### Runs -/

/-- What the store promises of the state it is in and of its next call. -/
structure Guarantees (runtime : Runtime K)
    (numbers : DoubleText runtime.formatDouble) (options : StoreOptions)
    (directory : Directory) : Prop where
  /-- Every file is named by the digest of the sealed plan it encodes. -/
  named : ∀ name bytes, directory.lookup name = some bytes →
    ∃ plan : PlanArtifact K, runtime.computePlanDigest plan = plan.digest ∧
      name = fileNameFor plan.digest ∧ encodeStoreFile runtime plan = .ok bytes
  bounded : directory.keys.length ≤ options.maxPlans.toNat
  counted : (count runtime directory).toNat = directory.keys.length
  /-- Storing a plan changes no file that exists. -/
  immutable : ∀ plan fault name bytes, directory.lookup name = some bytes →
    (PlanStore.put runtime options plan fault directory).2.lookup name =
      some bytes
  failedPut : ∀ plan fault,
    (PlanStore.put runtime options plan fault directory).1.failed = true →
      (PlanStore.put runtime options plan fault directory).2 = directory
  storedPut : ∀ plan fault,
    (PlanStore.put runtime options plan fault directory).1.failed = false →
      Stored runtime (PlanStore.put runtime options plan fault directory).2 plan
  secondPut : ∀ plan fault, Stored runtime directory plan →
    PlanStore.put runtime options plan fault directory = (okStatus, directory)
  sealed_ : ∀ digest plan,
    PlanStore.get runtime numbers options digest directory = .ok plan →
      plan.digest = digest ∧ runtime.computePlanDigest plan = plan.digest

/-- Beside the second put, the promises rest on the invariant alone. -/
theorem Invariant.guarantees_iff {numbers : DoubleText runtime.formatDouble}
    (invariant : Invariant runtime options directory)
    (verifies : options.verifyExisting = true) :
    Guarantees runtime numbers options directory ↔
      ∀ plan : PlanArtifact K, Stored runtime directory plan →
        plan.FitsStoreFile runtime := by
  constructor
  · intro guarantees plan stored
    exact (put_stored_iff okStatus verifies stored).mp
      (guarantees.secondPut plan okStatus stored)
  · intro fits
    exact {
      named := invariant.named
      bounded := invariant.bounded
      counted := invariant.count_eq
      immutable := fun plan fault name bytes => put_lookup plan fault
      failedPut := fun plan fault => put_failed plan fault
      storedPut := fun plan fault => stored_of_put
      secondPut := fun plan fault stored =>
        (put_stored_iff fault verifies stored).mpr (fits plan stored)
      sealed_ := fun digest plan => get_sealed }

/-- Every file keeps the bound that reading applies. -/
def Readable (directory : Directory) : Prop :=
  ∀ name bytes, directory.lookup name = some bytes →
    bytes.length ≤ kMaxStoreFileBytes

theorem Readable.after (readable : Readable directory) {event : StoreEvent K}
    (fits : event.Fits runtime) :
    Readable (event.after runtime options directory) := by
  obtain ⟨call, fault⟩ := event
  cases call with
  | put plan =>
      change Readable (PlanStore.put runtime options plan fault directory).2
      rcases put_cases plan fault with same | ⟨bytes, encoded, _, _, written⟩
      · rw [same]
        exact readable
      · rw [written]
        intro name content found
        by_cases own : name = fileNameFor plan.digest
        · subst own
          rw [AList.lookup_insert, Option.some.injEq] at found
          subst found
          have small := fits plan rfl
          have bound : kHeaderBytes + 32 ≤ kMaxStoreFileBytes := by decide
          rw [PlanArtifact.FitsStoreFile] at small
          rw [length_of_encodeStoreFile encoded]
          omega
        · rw [AList.lookup_insert_ne own] at found
          exact readable name content found
  | get digest => exact readable
  | list => exact readable
  | count => exact readable
  | remove digest =>
      change Readable (PlanStore.remove digest fault directory).2
      rcases remove_cases digest fault with same | erased
      · rw [same]
        exact readable
      · rw [erased]
        intro name bytes found
        have other : name ≠ fileNameFor digest := by
          rintro rfl
          rw [AList.lookup_erase] at found
          cases found
        rw [AList.lookup_erase_ne other] at found
        exact readable name bytes found

theorem Readable.run (readable : Readable directory) {events : List (StoreEvent K)}
    (fit : ∀ event ∈ events, event.Fits runtime) :
    Readable (PlanStore.run runtime options directory events) := by
  induction events generalizing directory with
  | nil => exact readable
  | cons event rest ih =>
      rw [List.forall_mem_cons] at fit
      exact ih (readable.after fit.1) fit.2

/-- A store opened on an empty directory starts empty. -/
theorem eq_empty_of_open {faults : Bytes → Status} {start : Directory}
    (opened : open_ options faults ∅ = .ok start) : start = ∅ := by
  unfold open_ at opened
  split_ifs at opened
  cases opened
  rfl

/-- A store that was opened on an empty directory keeps its promises in every
state of a run whose puts fit; in any run, it keeps them exactly while the
stored plans fit. -/
theorem guarantees_of_run (numbers : DoubleText runtime.formatDouble)
    {faults : Bytes → Status} {start : Directory}
    (verifies : options.verifyExisting = true)
    (opened : open_ options faults ∅ = .ok start)
    (events : List (StoreEvent K)) :
    ((∀ event ∈ events, event.Fits runtime) → ∀ reached,
        reached <+: events →
          Guarantees runtime numbers options
            (PlanStore.run runtime options start reached)) ∧
      (Guarantees runtime numbers options
          (PlanStore.run runtime options start events) ↔
        ∀ plan : PlanArtifact K,
          Stored runtime (PlanStore.run runtime options start events) plan →
            plan.FitsStoreFile runtime) := by
  have empty := eq_empty_of_open opened
  have invariant : ∀ reached : List (StoreEvent K),
      Invariant runtime options (PlanStore.run runtime options start reached) := by
    intro reached
    apply Invariant.run
    rw [empty]
    refine ⟨?_, Nat.zero_le _⟩
    intro name bytes found
    rw [AList.lookup_empty] at found
    cases found
  refine ⟨?_, (invariant events).guarantees_iff verifies⟩
  intro fit reached part
  have readable : Readable (PlanStore.run runtime options start reached) := by
    apply Readable.run _ fun event member => fit event (part.subset member)
    rw [empty]
    intro name bytes found
    rw [AList.lookup_empty] at found
    cases found
  apply ((invariant reached).guarantees_iff verifies).mpr
  rintro plan ⟨bytes, encoded, found⟩
  have small := readable _ bytes found
  rw [length_of_encodeStoreFile encoded] at small
  exact Nat.le_sub_of_add_le small

theorem guarantees_of_run_boundPlan :
    Guarantees rationalRuntime wholeNumbers { root := text "/var/opp" }
      (run rationalRuntime { root := text "/var/opp" } ∅
        [⟨.put boundPlan, okStatus⟩, ⟨.list, okStatus⟩,
          ⟨.put boundPlan, okStatus⟩]) := by
  have small : boundPlan.FitsStoreFile rationalRuntime := by
    unfold PlanArtifact.FitsStoreFile
    decide +kernel
  have fits : ∀ event ∈ [⟨.put boundPlan, okStatus⟩, ⟨.list, okStatus⟩,
      ⟨.put boundPlan, okStatus⟩], StoreEvent.Fits rationalRuntime event := by
    rw [List.forall_mem_cons, List.forall_mem_cons, List.forall_mem_singleton]
    refine ⟨?_, ?_, ?_⟩ <;> rintro plan ⟨⟩ <;> exact small
  exact (guarantees_of_run wholeNumbers rfl
    (rfl : open_ { root := text "/var/opp" } (fun _ => okStatus) ∅ = .ok ∅)
    _).1 fits _ List.prefix_rfl

end PlanStore

/-! ### A plan at the bound of the store -/

section Counterexample

/-- The sealed plan of one assumption whose value has this many bytes. -/
def paddedPlan (padding : Nat) : PlanArtifact ℚ :=
  rationalRuntime.sealPlan { boundPlan with
    capabilityAssumptions :=
      [⟨⟨.node, text "a"⟩, text "f", List.replicate padding 97⟩] }

theorem Digest256.toHex_length (digest : Digest256) : digest.toHex.length = 64 := by
  simp [Digest256.toHex]

theorem paddedPlan_length {padding : Nat} (some_ : 0 < padding) :
    ((paddedPlan padding).canonicalBytes rationalRuntime.formatDouble).length =
      511 + padding := by
  have raw : encodeToken (List.replicate padding 97) =
      List.replicate padding 97 := by
    apply encodeToken_of_raw
    · simp [some_.ne']
    · rw [List.all_eq_true]
      intro byte member
      rw [List.eq_of_mem_replicate member]
      decide
  have header : (writeRecord (paddedPlan padding).headerRecord).length = 11 := by
    change (writeRecord boundPlan.headerRecord).length = 11
    decide +kernel
  have front : ((boundPlan.frontEntries.map
      (PlanEntry.tokens rationalRuntime.formatDouble)).flatMap
        writeRecord).length = 391 := by decide +kernel
  have resource : (encodeToken
      (ResourceKey.toBytes ⟨.node, text "a"⟩)).length = 6 := by decide
  have field : (encodeToken (text "f")).length = 1 := by decide
  have padded : (writeRecord ((PlanEntry.capability ⟨⟨.node, text "a"⟩, text "f",
      List.replicate padding 97⟩).tokens
        rationalRuntime.formatDouble)).length = 37 + padding := by
    have names : (text "capability").length = 10 ∧ (text "res").length = 3 ∧
        (text "field").length = 5 ∧ (text "value").length = 5 := by decide
    simp only [PlanEntry.tokens, PlanEntry.positional, PlanEntry.fields,
      PlanEntry.assumptionFields, writeRecord, joinTokens, keyedToken,
      List.singleton_append, List.map_cons, List.map_nil, List.flatMap_cons,
      List.flatMap_nil, List.length_append, List.length_cons, List.length_nil, raw,
      List.length_replicate, resource, field, names]
    omega
  have last : (writeRecord ((PlanEntry.digest (paddedPlan padding).digest).tokens
      rationalRuntime.formatDouble)).length = 72 := by
    have name : (text "digest").length = 6 := by decide
    simp only [PlanEntry.tokens, PlanEntry.positional, PlanEntry.fields,
      Digest256.encodeToken_toHex, writeRecord, joinTokens, List.map_nil,
      List.append_nil, List.flatMap_cons, List.flatMap_nil, List.length_append,
      List.length_cons, List.length_nil, Digest256.toHex_length, name]
  have entries : (paddedPlan padding).entries =
      boundPlan.frontEntries ++ [.capability ⟨⟨.node, text "a"⟩, text "f",
        List.replicate padding 97⟩, .digest (paddedPlan padding).digest] := rfl
  rw [PlanArtifact.canonicalBytes_eq, PlanArtifact.records, entries,
    List.flatMap_cons, List.length_append, header, List.map_append,
    List.flatMap_append, List.length_append, front, List.map_cons, List.map_cons,
    List.map_nil, List.flatMap_cons, List.flatMap_cons, List.flatMap_nil,
    List.length_append, padded, List.append_nil, last]
  omega

/-- A sealed plan whose payload is as long as a write admits is stored in an
empty directory, and storing it a second time fails. -/
theorem put_twice_of_length {runtime : Runtime K} {plan : PlanArtifact K}
    {options : StoreOptions} (verifies : options.verifyExisting = true)
    (capacity : 0 < options.maxPlans.toNat)
    (sealed_ : runtime.computePlanDigest plan = plan.digest)
    (length : (plan.canonicalBytes runtime.formatDouble).length =
      kMaxStoreFileBytes) :
    ∃ directory, PlanStore.put runtime options plan okStatus ∅ =
        (okStatus, directory) ∧
      PlanStore.Stored runtime directory plan ∧
      (PlanStore.put runtime options plan okStatus directory).1.code =
        .limitExceeded := by
  obtain ⟨bytes, encoded⟩ : ∃ bytes, encodeStoreFile runtime plan = .ok bytes :=
    ⟨_, encodeStoreFile_eq_ok_iff.mpr ⟨sealed_, length.le, rfl⟩⟩
  have room : ¬ (PlanStore.scan runtime ∅).length ≥ options.maxPlans.toNat := by
    have none_ : (PlanStore.scan runtime ∅).length ≤ 0 := by
      rw [PlanStore.scan, listDirectoryBySuffix, listDirectoryFiles]
      apply (List.length_filter_le _ _).trans
      rw [(runtime.routine.sortBy_perm id _).length_eq]
      rfl
    omega
  have large : bytes.length > kMaxStoreFileBytes := by
    rw [length_of_encodeStoreFile encoded, length]
    exact Nat.lt_add_of_pos_right (by decide)
  refine ⟨(∅ : Directory).insert (fileNameFor plan.digest) bytes, ?_,
    ⟨bytes, encoded, AList.lookup_insert ∅⟩, ?_⟩
  · simp only [PlanStore.put, encoded, if_neg room, writeFileAtomic,
      AList.notMem_empty, if_false]
    rfl
  · simp only [PlanStore.put, encoded, AList.mem_insert, true_or, if_true, verifies,
      Bool.true_eq_false, if_false, readFileBounded, AList.lookup_insert,
      if_pos large]
    rfl

/-- A plan whose payload is as long as a write admits. -/
def heavyPlan : PlanArtifact ℚ := paddedPlan (kMaxStoreFileBytes - 511)

theorem heavyPlan_length :
    (heavyPlan.canonicalBytes rationalRuntime.formatDouble).length =
      kMaxStoreFileBytes := by
  rw [heavyPlan, paddedPlan_length (by decide)]
  decide

theorem heavyPlan_sealed :
    rationalRuntime.computePlanDigest heavyPlan = heavyPlan.digest :=
  rationalRuntime.computePlanDigest_sealPlan _

/-- The heavy plan is stored, and storing it a second time fails. -/
theorem heavyPlan_second_put :
    ∃ directory, PlanStore.put rationalRuntime { root := text "/var/opp" } heavyPlan
        okStatus ∅ = (okStatus, directory) ∧
      PlanStore.Stored rationalRuntime directory heavyPlan ∧
      (PlanStore.put rationalRuntime { root := text "/var/opp" } heavyPlan okStatus
        directory).1.code = .limitExceeded :=
  put_twice_of_length rfl (by decide) heavyPlan_sealed heavyPlan_length

end Counterexample

end OpticalPathPlanner
