import OpticalPathPlanner.AtomicWrites
import OpticalPathPlanner.TextRecords

/-!
# Incarnations of the service

Every start of the service reads the epoch of the incarnation before it from
the record in the state directory, and replaces the record.  A record that
cannot be read is renamed out of the way first, and the loss is reported.
Starts are runs of file operations; any of them may fail, and a process may die
between any two.
-/

namespace OpticalPathPlanner

def kIncarnationFileName : Bytes := text "incarnation.oppf"
def kIncarnationRecordBytes : Nat := 4096

/-- The name of a record that could not be read. -/
def quarantinedName : Bytes := kIncarnationFileName ++ text ".unreadable"

/-- What a process knows of itself when it starts. -/
structure Launch where
  incarnation : IncarnationId
  startedUnixMs : UInt64
  processId : UInt64
deriving DecidableEq, Repr

structure IncarnationState extends Launch where
  epoch : UInt64 := 0
  epochContinuity : Bool := true
deriving DecidableEq, Repr

/-! ### The record -/

def incarnationText (state : IncarnationState) : Bytes :=
  List.flatten [
    text "OPP-INCARNATION 1\n",
    text "incarnation ", state.incarnation.toHex, text "\n",
    text "epoch ", formatU64 state.epoch.toNat, text "\n",
    text "pid ", formatU64 state.processId.toNat, text "\n",
    text "started_unix_ms ", formatU64 state.startedUnixMs.toNat, text "\n"]

/-- The epoch that the lines of a record declare.  Reading gives up at the
first line it does not understand. -/
def epochOfLines (headerSeen : Bool) : List Bytes → Option UInt64
  | [] => none
  | line :: rest =>
      if (stripCarriage line).isEmpty then epochOfLines headerSeen rest
      else
        match splitTokens (stripCarriage line) with
        | .error _ => none
        | .ok values =>
            if headerSeen = false then
              if values.length ≠ 2 ∨ values[0]? ≠ some (text "OPP-INCARNATION")
              then none
              else epochOfLines true rest
            else if values[0]? = some (text "epoch") then
              if values.length ≠ 2 then none
              else (parseU64 (tokenAt values 1)).toOption
            else epochOfLines headerSeen rest

/-- The epoch of the record in a directory, if there is one to read. -/
def recordedEpoch (files : Directory) : Option UInt64 :=
  match readFileBounded id files kIncarnationFileName kIncarnationRecordBytes with
  | .error _ => none
  | .ok bytes => epochOfLines false (textLines bytes)

/-! ### Starts -/

/-- Where a start has got to. -/
inductive StartPhase
  | idle
  /-- The record exists. -/
  | found (launch : Launch)
  /-- The record could not be read and has to be moved away. -/
  | unread (launch : Launch)
  /-- The new record is being written; what is left to write, once the
  temporary exists. -/
  | writing (state : IncarnationState) (remaining : Option Bytes)
deriving DecidableEq, Repr

/-- The state directory, with the incarnations that starts have returned so
far, newest first. -/
structure StateDirectory where
  files : Directory
  phase : StartPhase := .idle
  returned : List IncarnationState := []

/-- The incarnation after the epoch that was read, or a failure when the
counter is exhausted. -/
def nextIncarnation (launch : Launch) (previousEpoch : UInt64)
    (epochContinuity : Bool) : StartPhase :=
  if previousEpoch.toNat ≥ 2 ^ 64 - 2 then .idle
  else .writing { launch with
    epoch := previousEpoch + 1
    epochContinuity := epochContinuity } none

inductive StartEvent
  /-- A process starts and looks for the record. -/
  | start (launch : Launch)
  /-- It reads the record, which the file system may refuse. -/
  | read (faulty : Bool)
  | quarantine
  | create
  | write (count : Nat)
  | rename
  /-- The next operation fails and the start returns a failure.  A write that
  fails removes its temporary, a rename that fails leaves it. -/
  | fail (removes : Bool)
  | die
  /-- Something else makes the record unreadable. -/
  | spoil (bytes : Bytes)
deriving DecidableEq, Repr

/-- The name of the temporary record of a process. -/
def tempRecord (launch : Launch) : Bytes :=
  tempNameFor kIncarnationFileName launch.processId

namespace StateDirectory

variable (directory : StateDirectory)

def spoil (bytes : Bytes) : StateDirectory :=
  { directory with files := directory.files.insert kIncarnationFileName bytes }

def quarantine (launch : Launch) : Option StateDirectory :=
  match directory.files.lookup kIncarnationFileName with
  | none => none
  | some bytes => some { directory with
      files := (directory.files.erase kIncarnationFileName).insert
        quarantinedName bytes
      phase := nextIncarnation launch 0 false }

/-- One operation of `WriteFileAtomic` on the record. -/
def apply (state : IncarnationState) (step : WriteStep) : Directory :=
  step.after kIncarnationFileName state.processId directory.files

/-- The directory after an event, if the event can happen. -/
def after : StartEvent → Option StateDirectory
  | .start launch =>
      match directory.phase with
      | .idle => some { directory with
          phase := if kIncarnationFileName ∈ directory.files then .found launch
            else nextIncarnation launch 0 true }
      | _ => none
  | .read faulty =>
      match directory.phase with
      | .found launch =>
          match recordedEpoch directory.files, faulty with
          | some epoch, false =>
              some { directory with phase := nextIncarnation launch epoch true }
          | _, _ => some { directory with phase := .unread launch }
      | _ => none
  | .quarantine =>
      match directory.phase with
      | .unread launch => directory.quarantine launch
      | _ => none
  | .create =>
      match directory.phase with
      | .writing state none => some { directory with
          files := directory.apply state .create
          phase := .writing state (some (incarnationText state)) }
      | _ => none
  | .write count =>
      match directory.phase with
      | .writing state (some remaining) => some { directory with
          files := directory.apply state (.write (remaining.take count))
          phase := .writing state (some (remaining.drop count)) }
      | _ => none
  | .rename =>
      match directory.phase with
      | .writing state (some []) => some {
          files := directory.apply state .rename
          phase := .idle
          returned := state :: directory.returned }
      | _ => none
  | .fail removes =>
      match directory.phase with
      | .idle => none
      | .writing state (some _) => some { directory with
          files := if removes then directory.apply state .remove
            else directory.files
          phase := .idle }
      | _ => some { directory with phase := .idle }
  | .die => some { directory with phase := .idle }
  | .spoil bytes =>
      if recordedEpoch (directory.spoil bytes).files = none then
        some (directory.spoil bytes)
      else none

def run (directory : StateDirectory) (events : List StartEvent) :
    Option StateDirectory :=
  events.foldlM after directory

end StateDirectory

/-! ### Records are read back -/

theorem IncarnationId.spelled_toHex (incarnation : IncarnationId) :
    Spelled 32 incarnation.toHex := by
  have raw : incarnation.toHex.all isRawTokenCharacter = true := by
    rw [IncarnationId.toHex, List.all_map, List.all_eq_true]
    intro position _
    exact isRawTokenCharacter_hexDigit (Nat.mod_lt _ (by decide))
  exact ⟨by simp [IncarnationId.toHex], all_isTokenByte_of_raw raw,
    by simp [IncarnationId.toHex]⟩

/-- The lines of a record. -/
def incarnationRecords (state : IncarnationState) : List (List Bytes) :=
  [[text "OPP-INCARNATION", text "1"],
    [text "incarnation", state.incarnation.toHex],
    [text "epoch", formatU64 state.epoch.toNat],
    [text "pid", formatU64 state.processId.toNat],
    [text "started_unix_ms", formatU64 state.startedUnixMs.toNat]]

theorem incarnationText_eq (state : IncarnationState) :
    incarnationText state = (incarnationRecords state).flatMap writeRecord := by
  have header : text "OPP-INCARNATION 1\n" =
      writeRecord [text "OPP-INCARNATION", text "1"] := by decide
  have incarnation : text "incarnation " = text "incarnation" ++ [32] := by decide
  have epoch : text "epoch " = text "epoch" ++ [32] := by decide
  have pid : text "pid " = text "pid" ++ [32] := by decide
  have started : text "started_unix_ms " = text "started_unix_ms" ++ [32] := by
    decide
  have newline : text "\n" = [10] := by decide
  rw [incarnationText, incarnationRecords, header, incarnation, epoch, pid,
    started, newline]
  simp [writeRecord, joinTokens]

theorem incarnationRecords_clean (state : IncarnationState) :
    ∀ record ∈ incarnationRecords state, CleanRecord record := by
  have epoch := spelled_formatU64 state.epoch.toNat_lt
  have pid := spelled_formatU64 state.processId.toNat_lt
  have started := spelled_formatU64 state.startedUnixMs.toNat_lt
  simp only [incarnationRecords, List.forall_mem_cons, List.not_mem_nil,
    false_implies, implies_true, and_true]
  refine ⟨?_, ?_, ?_, ?_, ?_⟩
  · exact CleanRecord.of_spelled
      (.cons (Spelled.constant (by decide) : Spelled 15 _)
        (.cons (Spelled.constant (by decide) : Spelled 1 _) .nil)) (by decide)
  · exact CleanRecord.of_spelled
      (.cons (Spelled.constant (by decide) : Spelled 11 _)
        (.cons state.incarnation.spelled_toHex .nil)) (by decide)
  · exact CleanRecord.of_spelled
      (.cons (Spelled.constant (by decide) : Spelled 5 _) (.cons epoch .nil))
      (by decide)
  · exact CleanRecord.of_spelled
      (.cons (Spelled.constant (by decide) : Spelled 3 _) (.cons pid .nil))
      (by decide)
  · exact CleanRecord.of_spelled
      (.cons (Spelled.constant (by decide) : Spelled 15 _) (.cons started .nil))
      (by decide)

/-- One line of a record, as its tokens. -/
theorem epochOfLines_cons {headerSeen : Bool} {tokens : List Bytes}
    (clean : CleanRecord tokens) (rest : List Bytes) :
    epochOfLines headerSeen (joinTokens tokens :: rest) =
      if headerSeen = false then
        if tokens.length ≠ 2 ∨ tokens[0]? ≠ some (text "OPP-INCARNATION") then none
        else epochOfLines true rest
      else if tokens[0]? = some (text "epoch") then
        if tokens.length ≠ 2 then none
        else (parseU64 (tokenAt tokens 1)).toOption
      else epochOfLines headerSeen rest := by
  have split_ : splitTokens (joinTokens tokens) = .ok tokens :=
    (PlainRecord.splitTokens_eq_ok_iff clean.plain).mpr ⟨rfl, clean.fits⟩
  rw [epochOfLines, clean.plain.stripCarriage_eq, clean.plain.joinTokens_isEmpty,
    split_]
  rfl

theorem epochOfLines_incarnationText (state : IncarnationState) :
    epochOfLines false (textLines (incarnationText state)) = some state.epoch := by
  have clean := incarnationRecords_clean state
  rw [incarnationText_eq, textLines_flatMap fun record member =>
    (clean record member).plain]
  simp only [incarnationRecords, List.forall_mem_cons] at clean
  obtain ⟨header, incarnation, epoch, -⟩ := clean
  have differ : ¬ text "incarnation" = text "epoch" := by decide
  simp only [incarnationRecords, List.map_cons]
  rw [epochOfLines_cons header, epochOfLines_cons incarnation,
    epochOfLines_cons epoch]
  simp [differ, tokenAt, parseU64_formatU64, Except.toOption]

theorem incarnationText_length_le (state : IncarnationState) :
    (incarnationText state).length ≤ kIncarnationRecordBytes := by
  have epoch := formatU64_length_le state.epoch.toNat_lt
  have pid := formatU64_length_le state.processId.toNat_lt
  have started := formatU64_length_le state.startedUnixMs.toNat_lt
  have hex := state.incarnation.spelled_toHex.short
  have words : (text "OPP-INCARNATION 1\n").length = 18 ∧
      (text "incarnation ").length = 12 ∧ (text "epoch ").length = 6 ∧
      (text "pid ").length = 4 ∧ (text "started_unix_ms ").length = 16 ∧
      (text "\n").length = 1 := by decide
  simp only [incarnationText, List.flatten_cons, List.flatten_nil,
    List.append_nil, List.length_append, words, kIncarnationRecordBytes]
  omega

theorem recordedEpoch_of_incarnationText {files : Directory}
    {state : IncarnationState}
    (found : files.lookup kIncarnationFileName = some (incarnationText state)) :
    recordedEpoch files = some state.epoch := by
  unfold recordedEpoch readFileBounded
  simp only [found]
  rw [if_neg (not_lt.mpr (incarnationText_length_le state))]
  exact epochOfLines_incarnationText state

/-! ### Growing epochs -/

/-- The incarnations since continuity was lost for the last time, newest
first. -/
def sinceLoss : List IncarnationState → List IncarnationState
  | [] => []
  | state :: rest => if state.epochContinuity then state :: sinceLoss rest else [state]

/-- Every incarnation has a larger epoch than an earlier one, unless a loss of
continuity was reported in between or by itself. -/
def Honest (returned : List IncarnationState) : Prop :=
  ∀ newer state between earlier oldest,
    returned = newer ++ state :: (between ++ earlier :: oldest) →
      earlier.epoch < state.epoch ∨
        ∃ loss ∈ state :: between, loss.epochContinuity = false

theorem mem_sinceLoss {between oldest : List IncarnationState}
    {earlier : IncarnationState}
    (continuous : ∀ state ∈ between, state.epochContinuity = true) :
    earlier ∈ sinceLoss (between ++ earlier :: oldest) := by
  induction between with
  | nil =>
      rw [List.nil_append, sinceLoss]
      split_ifs <;> exact List.mem_cons_self
  | cons state rest ih =>
      rw [List.forall_mem_cons] at continuous
      rw [List.cons_append, sinceLoss, if_pos continuous.1]
      exact List.mem_cons_of_mem _ (ih continuous.2)

theorem Honest.cons {returned : List IncarnationState} {state : IncarnationState}
    (honest : Honest returned)
    (grows : state.epochContinuity = true →
      ∀ earlier ∈ sinceLoss returned, earlier.epoch < state.epoch) :
    Honest (state :: returned) := by
  intro newer later between earlier oldest same
  cases newer with
  | cons first rest =>
      rw [List.cons_append, List.cons.injEq] at same
      exact honest rest later between earlier oldest same.2
  | nil =>
      rw [List.nil_append, List.cons.injEq] at same
      obtain ⟨rfl, rfl⟩ := same
      by_cases lost : ∃ loss ∈ state :: between, loss.epochContinuity = false
      · exact .inr lost
      · have continuous : ∀ other ∈ state :: between,
            other.epochContinuity = true := by
          intro other member
          rw [← Bool.not_eq_false]
          exact fun broken => lost ⟨other, member, broken⟩
        rw [List.forall_mem_cons] at continuous
        exact .inl (grows continuous.1 earlier (mem_sinceLoss continuous.2))

namespace StateDirectory

/-- The phase of a start agrees with the record and with what was returned. -/
def PhaseSound (directory : StateDirectory) : Prop :=
  match directory.phase with
  | .idle => True
  | .found _ | .unread _ => kIncarnationFileName ∈ directory.files
  | .writing state remaining =>
      (state.epochContinuity = true →
        ∀ earlier ∈ sinceLoss directory.returned, earlier.epoch < state.epoch) ∧
      ∀ rest, remaining = some rest → ∃ written,
        directory.files.lookup (tempRecord state.toLaunch) = some written ∧
          written ++ rest = incarnationText state

/-- The record was moved away and the new one is not in place. -/
def recordMoved (directory : StateDirectory) : Bool :=
  match directory.phase with
  | .writing state _ => !state.epochContinuity
  | _ => false

structure Sound (directory : StateDirectory) : Prop where
  honest : Honest directory.returned
  recorded : ∀ epoch, recordedEpoch directory.files = some epoch →
    ∀ earlier ∈ sinceLoss directory.returned, earlier.epoch ≤ epoch
  absent : kIncarnationFileName ∉ directory.files →
    directory.returned = [] ∨ directory.recordMoved = true
  phase : directory.PhaseSound

/-- The event does not end a start that has moved the record away. -/
def KeepsRecord (directory : StateDirectory) : StartEvent → Prop
  | .fail _ | .die => directory.recordMoved = false
  | _ => True

/-- A directory that no start has used yet. -/
theorem Sound.initial {directory : StateDirectory}
    (unused : directory.returned = []) (idle : directory.phase = .idle) :
    directory.Sound := by
  constructor
  case honest =>
    intro newer state between earlier oldest same
    rw [unused] at same
    simp at same
  case recorded => simp [unused, sinceLoss]
  case absent => exact fun _ => .inl unused
  case phase =>
    rw [PhaseSound, idle]
    trivial

theorem recordedEpoch_congr {first second : Directory}
    (same : first.lookup kIncarnationFileName = second.lookup kIncarnationFileName) :
    recordedEpoch first = recordedEpoch second := by
  simp only [recordedEpoch, readFileBounded, same]

theorem mem_of_lookup_eq {first second : Directory} {name : Bytes}
    (same : first.lookup name = second.lookup name) :
    name ∈ first ↔ name ∈ second := by
  rw [← AList.lookup_isSome, ← AList.lookup_isSome, same]

section Steps

variable {directory next : StateDirectory}

/-- A step that leaves the record and the returned incarnations alone. -/
theorem Sound.of_sameRecord (sound : directory.Sound)
    (returned : next.returned = directory.returned)
    (record : next.files.lookup kIncarnationFileName =
      directory.files.lookup kIncarnationFileName)
    (moved : directory.recordMoved = false ∨
      directory.recordMoved = next.recordMoved)
    (phase : next.PhaseSound) : next.Sound := by
  constructor
  case honest => rw [returned]; exact sound.honest
  case recorded =>
    rw [returned, recordedEpoch_congr record]
    exact sound.recorded
  case absent =>
    rw [returned, mem_of_lookup_eq record]
    intro missing
    refine (sound.absent missing).imp_right fun gone => ?_
    rcases moved with kept | same
    · rw [kept] at gone
      cases gone
    · exact same ▸ gone
  case phase => exact phase

/-- A start that ends without a new record. -/
theorem Sound.ended (sound : directory.Sound) (kept : directory.recordMoved = false)
    {files : Directory} (record : files.lookup kIncarnationFileName =
      directory.files.lookup kIncarnationFileName) :
    Sound { directory with files := files, phase := .idle } := by
  exact sound.of_sameRecord rfl record (.inl kept) trivial

/-- A start that goes on with the epoch after `previous`. -/
theorem phaseSound_next {files : Directory} {launch : Launch} {previous : UInt64}
    {continuity : Bool} {returned : List IncarnationState}
    (below : continuity = true →
      ∀ earlier ∈ sinceLoss returned, earlier.epoch ≤ previous) :
    PhaseSound ⟨files, nextIncarnation launch previous continuity, returned⟩ := by
  unfold nextIncarnation
  split_ifs with exhausted
  · trivial
  · refine ⟨fun continuous earlier member => ?_, fun rest impossible => ?_⟩
    · have le := below continuous earlier member
      rw [UInt64.le_iff_toNat_le] at le
      rw [UInt64.lt_iff_toNat_lt, UInt64.toNat_add]
      have one : (1 : UInt64).toNat = 1 := rfl
      omega
    · cases impossible

theorem record_ne_temp (launch : Launch) :
    kIncarnationFileName ≠ tempRecord launch :=
  (tempNameFor_ne kIncarnationFileName launch.processId).symm

theorem Sound.start (sound : directory.Sound) {launch : Launch}
    (stepped : directory.after (.start launch) = some next) : next.Sound := by
  obtain ⟨files, phase, returned⟩ := directory
  cases phase with
  | idle =>
      cases stepped
      by_cases present : kIncarnationFileName ∈ files
      · simp only [if_pos present]
        exact sound.of_sameRecord rfl rfl (.inl rfl) present
      · simp only [if_neg present]
        have unused : returned = [] :=
          (sound.absent present).resolve_right Bool.false_ne_true
        refine sound.of_sameRecord rfl rfl (.inl rfl)
          (phaseSound_next ?_)
        simp [unused, sinceLoss]
  | found launch => cases stepped
  | unread launch => cases stepped
  | writing state remaining => cases stepped

theorem Sound.read (sound : directory.Sound) {faulty : Bool}
    (stepped : directory.after (.read faulty) = some next) : next.Sound := by
  obtain ⟨files, phase, returned⟩ := directory
  cases phase with
  | found launch =>
      simp only [StateDirectory.after] at stepped
      cases recorded : recordedEpoch files with
      | none =>
          simp only [recorded] at stepped
          cases stepped
          exact sound.of_sameRecord rfl rfl (.inl rfl) sound.phase
      | some epoch =>
          cases faulty with
          | true =>
              simp only [recorded] at stepped
              cases stepped
              exact sound.of_sameRecord rfl rfl (.inl rfl)
                sound.phase
          | false =>
              simp only [recorded] at stepped
              cases stepped
              exact sound.of_sameRecord rfl rfl (.inl rfl)
                (phaseSound_next fun _ => sound.recorded epoch recorded)
  | idle => cases stepped
  | unread launch => cases stepped
  | writing state remaining => cases stepped

theorem Sound.quarantine (sound : directory.Sound)
    (stepped : directory.after .quarantine = some next) : next.Sound := by
  obtain ⟨files, phase, returned⟩ := directory
  cases phase with
  | unread launch =>
      simp only [StateDirectory.after, StateDirectory.quarantine] at stepped
      cases found : files.lookup kIncarnationFileName with
      | none =>
          rw [found] at stepped
          cases stepped
      | some bytes =>
          rw [found] at stepped
          cases stepped
          have differ : kIncarnationFileName ≠ quarantinedName := by decide
          have gone : ((files.erase kIncarnationFileName).insert quarantinedName
              bytes).lookup kIncarnationFileName = none := by
            rw [AList.lookup_insert_ne differ, AList.lookup_erase]
          constructor
          case honest => exact sound.honest
          case recorded =>
            intro epoch recorded
            simp [recordedEpoch, readFileBounded, gone] at recorded
          case absent => exact fun _ => .inr rfl
          case phase =>
            exact phaseSound_next fun impossible =>
              absurd impossible Bool.false_ne_true
  | idle => cases stepped
  | found launch => cases stepped
  | writing state remaining => cases stepped

theorem Sound.create (sound : directory.Sound)
    (stepped : directory.after .create = some next) : next.Sound := by
  obtain ⟨files, phase, returned⟩ := directory
  cases phase with
  | writing state remaining =>
      cases remaining with
      | none =>
          cases stepped
          refine sound.of_sameRecord rfl ?_ (.inr rfl) ⟨sound.phase.1, ?_⟩
          · exact AList.lookup_insert_ne (record_ne_temp state.toLaunch)
          · rintro rest ⟨⟩
            exact ⟨[], AList.lookup_insert files, rfl⟩
      | some rest => cases stepped
  | idle => cases stepped
  | found launch => cases stepped
  | unread launch => cases stepped

theorem Sound.write (sound : directory.Sound) {count : Nat}
    (stepped : directory.after (.write count) = some next) : next.Sound := by
  obtain ⟨files, phase, returned⟩ := directory
  cases phase with
  | writing state remaining =>
      cases remaining with
      | none => cases stepped
      | some rest =>
          cases stepped
          obtain ⟨written, found, whole⟩ := sound.phase.2 rest rfl
          refine sound.of_sameRecord rfl ?_ (.inr rfl) ⟨sound.phase.1, ?_⟩
          · exact AList.lookup_insert_ne (record_ne_temp state.toLaunch)
          · rintro _ ⟨⟩
            refine ⟨written ++ rest.take count, ?_, ?_⟩
            · change (files.insert (tempRecord state.toLaunch)
                ((files.lookup (tempRecord state.toLaunch)).getD [] ++
                  rest.take count)).lookup (tempRecord state.toLaunch) = _
              rw [AList.lookup_insert, found]
              rfl
            · rw [List.append_assoc, List.take_append_drop, whole]
  | idle => cases stepped
  | found launch => cases stepped
  | unread launch => cases stepped

theorem Sound.rename (sound : directory.Sound)
    (stepped : directory.after .rename = some next) : next.Sound := by
  obtain ⟨files, phase, returned⟩ := directory
  cases phase with
  | writing state remaining =>
      cases remaining with
      | none => cases stepped
      | some rest =>
          cases rest with
          | cons byte rest => cases stepped
          | nil =>
              cases stepped
              obtain ⟨grows, written⟩ := sound.phase
              obtain ⟨written, found, whole⟩ := written [] rfl
              rw [List.append_nil] at whole
              subst whole
              have record : (StateDirectory.apply ⟨files, .writing state (some []),
                  returned⟩ state .rename).lookup kIncarnationFileName =
                    some (incarnationText state) := by
                have renamed : WriteStep.after kIncarnationFileName state.processId
                    files .rename = (files.erase (tempRecord state.toLaunch)).insert
                      kIncarnationFileName (incarnationText state) := by
                  simp only [WriteStep.after]
                  rw [show files.lookup (tempNameFor kIncarnationFileName
                    state.processId) = some (incarnationText state) from found]
                  rfl
                rw [StateDirectory.apply, renamed, AList.lookup_insert]
              constructor
              case honest => exact sound.honest.cons grows
              case recorded =>
                intro epoch recorded earlier member
                rw [recordedEpoch_of_incarnationText record] at recorded
                cases recorded
                rw [sinceLoss] at member
                split_ifs at member with continuous
                · rcases List.mem_cons.mp member with rfl | older
                  · exact UInt64.le_refl _
                  · exact UInt64.le_of_lt (grows continuous earlier older)
                · rw [List.mem_singleton.mp member]
                  exact UInt64.le_refl _
              case absent =>
                intro missing
                rw [← AList.lookup_eq_none, record] at missing
                cases missing
              case phase => trivial
  | idle => cases stepped
  | found launch => cases stepped
  | unread launch => cases stepped

theorem Sound.fail (sound : directory.Sound) {removes : Bool}
    (kept : directory.recordMoved = false)
    (stepped : directory.after (.fail removes) = some next) : next.Sound := by
  obtain ⟨files, phase, returned⟩ := directory
  cases phase with
  | idle => cases stepped
  | found launch =>
      cases stepped
      exact sound.ended kept rfl
  | unread launch =>
      cases stepped
      exact sound.ended kept rfl
  | writing state remaining =>
      cases remaining with
      | none =>
          cases stepped
          exact sound.ended kept rfl
      | some rest =>
          cases stepped
          cases removes with
          | false => exact sound.ended kept rfl
          | true =>
              exact sound.ended kept
                (AList.lookup_erase_ne (record_ne_temp state.toLaunch))

theorem Sound.spoil (sound : directory.Sound) {bytes : Bytes}
    (stepped : directory.after (.spoil bytes) = some next) : next.Sound := by
  simp only [StateDirectory.after] at stepped
  split_ifs at stepped with unreadable
  cases stepped
  constructor
  case honest => exact sound.honest
  case recorded =>
    intro epoch recorded
    rw [unreadable] at recorded
    cases recorded
  case absent =>
    intro missing
    exact absurd (AList.mem_insert _ |>.mpr (.inl rfl)) missing
  case phase =>
    have phase := sound.phase
    obtain ⟨files, at_, returned⟩ := directory
    cases at_ with
    | idle => trivial
    | found launch => exact (AList.mem_insert _).mpr (.inl rfl)
    | unread launch => exact (AList.mem_insert _).mpr (.inl rfl)
    | writing state remaining =>
        refine ⟨phase.1, fun rest left => ?_⟩
        obtain ⟨written, found, whole⟩ := phase.2 rest left
        refine ⟨written, ?_, whole⟩
        exact (AList.lookup_insert_ne
          (record_ne_temp state.toLaunch).symm).trans found

/-- Every event that keeps the record keeps the invariant. -/
theorem Sound.after (sound : directory.Sound) {event : StartEvent}
    (keeps : directory.KeepsRecord event)
    (stepped : directory.after event = some next) : next.Sound := by
  cases event with
  | start launch => exact sound.start stepped
  | read faulty => exact sound.read stepped
  | quarantine => exact sound.quarantine stepped
  | create => exact sound.create stepped
  | write count => exact sound.write stepped
  | rename => exact sound.rename stepped
  | fail removes => exact sound.fail keeps stepped
  | die =>
      cases stepped
      exact sound.ended keeps rfl
  | spoil bytes => exact sound.spoil stepped

end Steps

/-! ### Runs -/

/-- Every event of a run keeps the record. -/
def RunKeepsRecord (directory : StateDirectory) : List StartEvent → Prop
  | [] => True
  | event :: rest => directory.KeepsRecord event ∧
      ∀ next, directory.after event = some next → next.RunKeepsRecord rest

theorem Sound.run {directory final : StateDirectory} (sound : directory.Sound)
    {events : List StartEvent} (keeps : directory.RunKeepsRecord events)
    (ran : directory.run events = some final) : final.Sound := by
  induction events generalizing directory with
  | nil =>
      cases ran
      exact sound
  | cons event rest ih =>
      rw [StateDirectory.run, List.foldlM_cons] at ran
      obtain ⟨next, stepped, ran⟩ := Option.bind_eq_some_iff.mp ran
      exact ih (sound.after keeps.1 stepped) (keeps.2 next stepped) ran

/-- Starts that are never cut short keep the record. -/
theorem runKeepsRecord_of_undisturbed {events : List StartEvent}
    (undisturbed : ∀ event ∈ events, event ≠ .die ∧ ∀ removes, event ≠ .fail removes)
    (directory : StateDirectory) : directory.RunKeepsRecord events := by
  induction events generalizing directory with
  | nil => trivial
  | cons event rest ih =>
      rw [List.forall_mem_cons] at undisturbed
      refine ⟨?_, fun next _ => ih undisturbed.2 next⟩
      cases event with
      | die => exact absurd rfl undisturbed.1.1
      | fail removes => exact absurd rfl (undisturbed.1.2 removes)
      | _ => trivial

/-- What the starts of a run from an empty directory returned, newest first. -/
def returnedBy (events : List StartEvent) : Option (List IncarnationState) :=
  (StateDirectory.run ⟨∅, .idle, []⟩ events).map returned

theorem of_returnedBy {events : List StartEvent} {returned : List IncarnationState}
    (ran : returnedBy events = some returned) :
    ∃ final, StateDirectory.run ⟨∅, .idle, []⟩ events = some final ∧
      final.returned = returned :=
  Option.map_eq_some_iff.mp ran

/-- The operations that write a record. -/
def putRecord : List StartEvent := [.create, .write kIncarnationRecordBytes, .rename]

def firstLaunch : Launch := ⟨⟨1⟩, 0, 7⟩

end StateDirectory

end OpticalPathPlanner
