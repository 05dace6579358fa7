import OpticalPathPlanner.PlanStores

/-!
# Interrupted writes

A file is written under a temporary name and renamed into place.  A process
that dies between two of these operations leaves the directory as it is then:
the file is there as it was before or in full, and a part of it may stay behind
under the temporary name, which carries the number of the process.
-/

namespace OpticalPathPlanner

/-- The name under which a process writes a file before it renames it. -/
def tempNameFor (name : Bytes) (processId : UInt64) : Bytes :=
  name ++ text ".tmp-" ++ formatU64 processId.toNat

/-- The operations of `WriteFileAtomic` on a directory.  Flushing and closing a
file change neither its name nor what was written to it. -/
inductive WriteStep
  | create
  | write (chunk : Bytes)
  | rename
  | remove
deriving DecidableEq, Repr

section Steps

variable (name : Bytes) (processId : UInt64)

def WriteStep.after (directory : Directory) : WriteStep → Directory
  | create => directory.insert (tempNameFor name processId) []
  | write chunk => directory.insert (tempNameFor name processId)
      ((directory.lookup (tempNameFor name processId)).getD [] ++ chunk)
  | rename =>
      match directory.lookup (tempNameFor name processId) with
      | some bytes =>
          (directory.erase (tempNameFor name processId)).insert name bytes
      | none => directory
  | remove => directory.erase (tempNameFor name processId)

/-- The operations of one write.  The bytes reach the file in chunks; when an
operation on the open file fails, the temporary is removed instead of renamed. -/
def writeSteps (chunks : List Bytes) (completes : Bool) : List WriteStep :=
  .create :: (chunks.map .write ++ [if completes then .rename else .remove])

/-- The directory that a process leaves when it dies after `count` operations. -/
def interruptedWrite (chunks : List Bytes) (completes : Bool) (count : Nat)
    (directory : Directory) : Directory :=
  ((writeSteps chunks completes).take count).foldl
    (WriteStep.after name processId) directory

end Steps

/-! ### What an interrupted write leaves -/

section Lookups

variable {name : Bytes} {processId : UInt64}

theorem tempNameFor_ne (name : Bytes) (processId : UInt64) :
    tempNameFor name processId ≠ name := by
  intro same
  have length := congrArg List.length same
  have added : (text ".tmp-").length = 5 := by decide
  simp only [tempNameFor, List.length_append, added] at length
  omega

/-- The name of a temporary file ends in a digit. -/
theorem getLast?_tempNameFor (name : Bytes) (processId : UInt64) :
    ∃ digit, (tempNameFor name processId).getLast? = some digit ∧
      isDigit digit = true := by
  have digits := List.all_eq_true.mp (formatU64_all_isDigit processId.toNat)
  have some_ := formatU64_ne_nil processId.toNat
  refine ⟨(formatU64 processId.toNat).getLast some_, ?_,
    digits _ (List.getLast_mem some_)⟩
  rw [tempNameFor, List.getLast?_append_of_ne_nil _ some_,
    List.getLast?_eq_some_getLast some_]

/-- No operation but the last touches anything beside the temporary. -/
theorem lookup_writes (chunks : List Bytes) {directory : Directory}
    {written : Bytes}
    (open_ : directory.lookup (tempNameFor name processId) = some written) :
    ((chunks.map WriteStep.write).foldl (WriteStep.after name processId)
        directory).lookup (tempNameFor name processId) =
        some (written ++ chunks.flatten) ∧
      ∀ other, other ≠ tempNameFor name processId →
        ((chunks.map WriteStep.write).foldl (WriteStep.after name processId)
          directory).lookup other = directory.lookup other := by
  induction chunks generalizing directory written with
  | nil => simpa using open_
  | cons chunk rest ih =>
      have next : (WriteStep.after name processId directory
          (.write chunk)).lookup (tempNameFor name processId) =
            some (written ++ chunk) := by
        rw [WriteStep.after, AList.lookup_insert, open_]
        rfl
      obtain ⟨own, others⟩ := ih next
      refine ⟨?_, fun other differ => ?_⟩
      · rw [List.map_cons, List.foldl_cons, own, List.flatten_cons,
          List.append_assoc]
      · rw [List.map_cons, List.foldl_cons, others other differ, WriteStep.after,
          AList.lookup_insert_ne differ]

/-- Between the first and the last operation a part of the bytes stands under
the temporary name. -/
theorem lookup_interruptedWrite_part (chunks : List Bytes) (completes : Bool)
    {count : Nat} (within : count ≤ chunks.length) (directory : Directory) :
    (interruptedWrite name processId chunks completes (count + 1)
        directory).lookup (tempNameFor name processId) =
        some (chunks.take count).flatten ∧
      ∀ other, other ≠ tempNameFor name processId →
        (interruptedWrite name processId chunks completes (count + 1)
          directory).lookup other = directory.lookup other := by
  have steps : (writeSteps chunks completes).take (count + 1) =
      .create :: (chunks.take count).map .write := by
    rw [writeSteps, List.take_succ_cons,
      List.take_append_of_le_length (by simpa using within), List.map_take]
  have created : (WriteStep.after name processId directory .create).lookup
      (tempNameFor name processId) = some [] := AList.lookup_insert directory
  obtain ⟨own, others⟩ := lookup_writes (chunks.take count) created
  rw [interruptedWrite, steps, List.foldl_cons]
  refine ⟨own, fun other differ => ?_⟩
  rw [others other differ, WriteStep.after, AList.lookup_insert_ne differ]

/-- Behind the last operation the temporary is gone. -/
theorem lookup_interruptedWrite_all (chunks : List Bytes) (completes : Bool)
    {count : Nat} (all : chunks.length + 2 ≤ count) (directory : Directory) :
    (interruptedWrite name processId chunks completes count directory).lookup
        (tempNameFor name processId) = none ∧
      (interruptedWrite name processId chunks completes count directory).lookup
          name =
        (if completes then some chunks.flatten else directory.lookup name) ∧
      ∀ other, other ≠ tempNameFor name processId → other ≠ name →
        (interruptedWrite name processId chunks completes count
          directory).lookup other = directory.lookup other := by
  have steps : (writeSteps chunks completes).take count =
      (writeSteps chunks completes).take (chunks.length + 1) ++
        [if completes then .rename else .remove] := by
    rw [writeSteps, List.take_of_length_le (by simp; omega),
      List.take_succ_cons, List.take_left' (by simp), List.cons_append]
  obtain ⟨own, others⟩ := @lookup_interruptedWrite_part name processId
    chunks completes _ le_rfl directory
  rw [List.take_length] at own
  have last : interruptedWrite name processId chunks completes count directory =
      WriteStep.after name processId
        (interruptedWrite name processId chunks completes (chunks.length + 1)
          directory) (if completes then .rename else .remove) := by
    rw [interruptedWrite, steps, List.foldl_append]
    rfl
  rw [last]
  generalize interruptedWrite name processId chunks completes
    (chunks.length + 1) directory = written at own others ⊢
  have differ := tempNameFor_ne name processId
  cases completes with
  | true =>
      simp only [if_true, WriteStep.after, own]
      refine ⟨?_, AList.lookup_insert _, fun other notTemp notName => ?_⟩
      · rw [AList.lookup_insert_ne differ, AList.lookup_erase]
      · rw [AList.lookup_insert_ne notName, AList.lookup_erase_ne notTemp,
          others other notTemp]
  | false =>
      simp only [Bool.false_eq_true, if_false, WriteStep.after]
      refine ⟨AList.lookup_erase _ _, ?_, fun other notTemp _ => ?_⟩
      · rw [AList.lookup_erase_ne differ.symm, others name differ.symm]
      · rw [AList.lookup_erase_ne notTemp, others other notTemp]

/-- A write that is not interrupted is the atomic write of the store. -/
theorem interruptedWrite_eq_writeFileAtomic (chunks : List Bytes)
    {directory : Directory} (fresh : tempNameFor name processId ∉ directory)
    (other : Bytes) :
    (interruptedWrite name processId chunks true (chunks.length + 2)
        directory).lookup other =
      (writeFileAtomic okStatus directory name chunks.flatten).2.lookup other := by
  obtain ⟨temp, own, others⟩ := @lookup_interruptedWrite_all name processId
    chunks true _ le_rfl directory
  have written : (writeFileAtomic okStatus directory name chunks.flatten).2 =
      directory.insert name chunks.flatten := rfl
  rw [written]
  by_cases isName : other = name
  · rw [isName, own, AList.lookup_insert]
    rfl
  · rw [AList.lookup_insert_ne isName]
    by_cases isTemp : other = tempNameFor name processId
    · rw [isTemp, temp, AList.lookup_eq_none.mpr fresh]
    · exact others other isTemp isName

end Lookups

/-! ### Cleaning up -/

namespace PlanStore

theorem getLast?_of_hasSuffix {suffix name : Bytes} {last : UInt8}
    (ends : hasSuffix suffix name = true) (isLast : suffix.getLast? = some last) :
    name.getLast? = some last := by
  obtain ⟨front, rfl⟩ := List.isSuffixOf_iff_suffix.mp ends
  rw [List.getLast?_append, isLast]
  rfl

/-- The names that opening a store takes for temporary end in a `p`. -/
theorem getLast?_of_isTemporary {name : Bytes} (temporary : isTemporary name = true) :
    name.getLast? = some 112 := by
  rw [isTemporary, Bool.or_eq_true] at temporary
  rcases temporary with ends | ends
  · exact getLast?_of_hasSuffix ends (by decide)
  · exact getLast?_of_hasSuffix ends (by decide)

theorem isTemporary_tempNameFor (name : Bytes) (processId : UInt64) :
    isTemporary (tempNameFor name processId) = false := by
  rw [← Bool.not_eq_true]
  intro temporary
  obtain ⟨digit, last, isDigit_⟩ := getLast?_tempNameFor name processId
  rw [getLast?_of_isTemporary temporary, Option.some.injEq] at last
  subst last
  revert isDigit_
  decide

theorem isTemporary_of_storeFile {name : Bytes}
    (ends : hasSuffix kStoreFileSuffix name = true) : isTemporary name = false := by
  rw [← Bool.not_eq_true]
  intro temporary
  have last : name.getLast? = some 110 := getLast?_of_hasSuffix ends (by decide)
  rw [getLast?_of_isTemporary temporary] at last
  revert last
  decide

/-- Cleaning leaves every name alone that it does not take for temporary. -/
theorem lookup_cleanTemporaries (faults : Bytes → Status) (directory : Directory)
    {name : Bytes} (lasting : isTemporary name = false) :
    (cleanTemporaries faults directory).lookup name = directory.lookup name := by
  have others : ∀ temporary ∈ directory.keys.filter isTemporary,
      name ≠ temporary := by
    rintro temporary member rfl
    rw [(List.mem_filter.mp member).2] at lasting
    cases lasting
  rw [cleanTemporaries]
  generalize directory.keys.filter isTemporary = names at others
  induction names generalizing directory with
  | nil => rfl
  | cons temporary rest ih =>
      rw [List.forall_mem_cons] at others
      rw [List.foldl_cons, ih _ others.2]
      unfold removeFile
      split_ifs
      · rfl
      · exact AList.lookup_erase_ne others.1
      · rfl

/-- After a process died while it wrote an artifact, opening the store again
leaves neither a temporary behind nor an artifact out, exactly when the process
died before it created the temporary or after it renamed or removed it. -/
theorem interrupted_write_cleaned_iff (options : StoreOptions)
    (faults : Bytes → Status) (directory : Directory) (digest : Digest256)
    (processId : UInt64) (chunks : List Bytes) (completes : Bool) (count : Nat)
    (after : Directory)
    (opened : open_ options faults (interruptedWrite (fileNameFor digest)
      processId chunks completes count directory) = .ok after) :
    (tempNameFor (fileNameFor digest) processId ∉ after ∧
        ∀ name, hasSuffix kStoreFileSuffix name = true →
          after.lookup name = (interruptedWrite (fileNameFor digest) processId
            chunks completes count directory).lookup name) ↔
      (count = 0 ∧ tempNameFor (fileNameFor digest) processId ∉ directory) ∨
        chunks.length + 2 ≤ count := by
  have cleaned : after = cleanTemporaries faults (interruptedWrite
      (fileNameFor digest) processId chunks completes count directory) := by
    unfold open_ at opened
    split_ifs at opened
    exact (Except.ok.inj opened).symm
  have artifacts : ∀ name, hasSuffix kStoreFileSuffix name = true →
      after.lookup name = (interruptedWrite (fileNameFor digest) processId
        chunks completes count directory).lookup name := by
    intro name ends
    rw [cleaned, lookup_cleanTemporaries faults _ (isTemporary_of_storeFile ends)]
  rw [and_iff_left artifacts, ← AList.lookup_eq_none, cleaned,
    lookup_cleanTemporaries faults _ (isTemporary_tempNameFor _ _)]
  rcases count with _ | count
  · rw [← AList.lookup_eq_none]
    simp [interruptedWrite]
  · by_cases within : count ≤ chunks.length
    · rw [(lookup_interruptedWrite_part chunks completes within directory).1]
      simp
      omega
    · rw [(lookup_interruptedWrite_all chunks completes (by omega) directory).1]
      simp
      omega

theorem interrupted_write_cleaned_iff_renamed :
    ∃ after, open_ { root := text "/var/opp" } (fun _ => okStatus)
        (interruptedWrite (fileNameFor ⟨0⟩) 7 [text "plan"] true 3 ∅) = .ok after ∧
      tempNameFor (fileNameFor ⟨0⟩) 7 ∉ after := by
  refine ⟨_, rfl, ?_⟩
  exact ((interrupted_write_cleaned_iff { root := text "/var/opp" }
    (fun _ => okStatus) ∅ ⟨0⟩ 7 [text "plan"] true 3 _ rfl).mpr
      (.inr (by decide))).1

/-- A process that dies before it renames its temporary leaves it behind for
good. -/
theorem interrupted_write_kept :
    ∃ after, open_ { root := text "/var/opp" } (fun _ => okStatus)
        (interruptedWrite (fileNameFor ⟨0⟩) 7 [text "plan"] true 2 ∅) = .ok after ∧
      tempNameFor (fileNameFor ⟨0⟩) 7 ∈ after :=
  ⟨_, rfl, by decide⟩

end PlanStore

end OpticalPathPlanner
