import OpticalPathPlanner.CanonicalSnapshots

/-!
# Fields that are written twice

A mandatory field that is written twice is refused, and so is its record.  The
list of failure domains is optional: a lookup that fails because the list is
repeated counts as absent.  A node line is looked through from its first keyed
token for the administrative state and from the one behind it for all else.  So
a text can be accepted although some of what its lines say is lost, and this
file says exactly when.
-/

namespace OpticalPathPlanner

open SortedRanges

variable {K : Type}

/-! ### What a line writes -/

/-- The values that a line writes for a key. -/
def writtenFor (key : String) (values : List Bytes) : List Bytes :=
  values.filterMap (keyedValue? (text key))

/-- The keys that are looked up in a record. -/
def RecordKind.keys : RecordKind → List String
  | source => []
  | profile => ["dist", "spans", "loss", "osnr", "src", "gen"]
  | node => ["admin", "cost", "src", "gen", "domains"]
  | port => ["admin", "tx", "slots", "cost", "src", "gen", "domains"]
  | span =>
      ["len", "loss", "osnr", "slots", "admin", "cost", "src", "gen", "domains"]
  | crossConnect => ["slots", "admin", "cost", "src", "gen", "domains"]

/-- The line writes one value for the key, which is read as the field. -/
def Wrote {α : Type} (values : List Bytes) (key : String)
    (read : Bytes → Except Status α) (field : α) : Prop :=
  ∃ value, writtenFor key values = [value] ∧ read value = .ok field

/-- The line writes no failure domains, or one list that is read as them. -/
def WroteDomains (values : List Bytes) (domains : List FailureDomainId) : Prop :=
  (writtenFor "domains" values = [] ∧ domains = []) ∨
    Wrote values "domains" parseDomains domains

/-- The source and the generation of a record are those on the line. -/
def WroteOrigin (values : List Bytes) (source : SourceId)
    (generation : Generation) : Prop :=
  Wrote values "src" (StrongId.parse .source) source ∧
    Wrote values "gen" parseU64 generation

/-- The keyed fields of a record are those on the line. -/
def WrittenOn {formatDouble : K → Bytes} (numbers : DoubleText formatDouble)
    (values : List Bytes) : Submission K → Prop
  | .source _ => True
  | .reachProfile record =>
      Wrote values "dist" (parseEvidence parseU64) record.maxDistanceM ∧
      Wrote values "spans" (parseEvidence parseU32) record.maxSpanCount ∧
      Wrote values "loss" (parseEvidence numbers.parseDouble) record.maxLossDb ∧
      Wrote values "osnr" (parseEvidence numbers.parseDouble) record.minOsnrDb ∧
      WroteOrigin values record.source record.generation
  | .node record =>
      Wrote values "admin" (parseEvidence readAdminState) record.admin ∧
      Wrote values "cost" parseU64 record.transitCost ∧
      WroteOrigin values record.source record.generation ∧
      WroteDomains values record.failureDomains
  | .port record =>
      Wrote values "admin" (parseEvidence readAdminState) record.admin ∧
      Wrote values "tx" (parseEvidence readProfileId) record.transmitProfile ∧
      Wrote values "slots" (parseEvidence SlotMask.fromHex) record.blockedSlots ∧
      Wrote values "cost" parseU64 record.transitCost ∧
      WroteOrigin values record.source record.generation ∧
      WroteDomains values record.failureDomains
  | .span record =>
      Wrote values "len" (parseEvidence parseU64) record.lengthM ∧
      Wrote values "loss" (parseEvidence numbers.parseDouble) record.lossDb ∧
      Wrote values "osnr" (parseEvidence numbers.parseDouble) record.osnrDb ∧
      Wrote values "slots" (parseEvidence SlotMask.fromHex) record.blockedSlots ∧
      Wrote values "admin" (parseEvidence readAdminState) record.admin ∧
      Wrote values "cost" parseU64 record.cost ∧
      WroteOrigin values record.source record.generation ∧
      WroteDomains values record.failureDomains
  | .crossConnect record =>
      Wrote values "slots" (parseEvidence SlotMask.fromHex) record.blockedSlots ∧
      Wrote values "admin" (parseEvidence readAdminState) record.admin ∧
      Wrote values "cost" parseU64 record.cost ∧
      WroteOrigin values record.source record.generation ∧
      WroteDomains values record.failureDomains

/-- The line writes failure domains twice, or a node line writes in front of the
administrative state what is only looked up behind it. -/
def Hides (values : List Bytes) : Prop :=
  match RecordKind.parse (tokenAt values 0) with
  | some .node => 2 ≤ (writtenFor "domains" values).length ∨
      (∃ key ∈ ["cost", "src", "gen"],
        keyedValue? (text key) (tokenAt values 4) ≠ none) ∨
      ∃ list, keyedValue? (text "domains") (tokenAt values 4) = some list ∧ list ≠ []
  | some .port | some .span | some .crossConnect =>
      2 ≤ (writtenFor "domains" values).length
  | some .source | some .profile | none => False

/-! ### Lookups -/

section Lookups

variable {values : List Bytes}

theorem requiredRawField_eq_ok_iff {first : Nat} {key : String} {value : Bytes} :
    requiredRawField values first key = .ok value ↔
      writtenFor key (values.drop first) = [value] := by
  unfold requiredRawField findKeyedField writtenFor
  generalize (values.drop first).filterMap (keyedValue? (text key)) = found
  rcases found with _ | ⟨one, _ | ⟨two, more⟩⟩
  · simp [failure]
  · simp
  · simp [failure]

theorem Wrote.once {α : Type} {key : String} {read : Bytes → Except Status α}
    {field : α} (wrote : Wrote values key read field) :
    (writtenFor key values).length ≤ 1 := by
  obtain ⟨value, only, -⟩ := wrote
  rw [only, List.length_singleton]

theorem WroteDomains.once {domains : List FailureDomainId}
    (wrote : WroteDomains values domains) :
    (writtenFor "domains" values).length ≤ 1 := by
  rcases wrote with ⟨nothing, -⟩ | wrote
  · rw [nothing]
    exact Nat.zero_le 1
  · exact wrote.once

/-- None of the first tokens is a value of the key. -/
def NotBefore (count : Nat) (key : String) (values : List Bytes) : Prop :=
  count ≤ values.length ∧
    ∀ index < count, keyedValue? (text key) (tokenAt values index) = none

/-- The first tokens are plain words. -/
def PlainFront (count : Nat) (values : List Bytes) : Prop :=
  count ≤ values.length ∧ ∀ index < count, 61 ∉ tokenAt values index

theorem keyedValue?_eq_none_of_plain {key token : Bytes} (plain : 61 ∉ token) :
    keyedValue? key token = none := by
  rw [Option.eq_none_iff_forall_ne_some]
  intro value found
  rw [keyedValue?_eq_some_iff] at found
  rw [found] at plain
  simp at plain

theorem PlainFront.notBefore {count : Nat} (plain : PlainFront count values)
    (key : String) : NotBefore count key values :=
  ⟨plain.1, fun index below => keyedValue?_eq_none_of_plain (plain.2 index below)⟩

theorem PlainFront.mono {count fewer : Nat} (plain : PlainFront count values)
    (less : fewer ≤ count) : PlainFront fewer values :=
  ⟨less.trans plain.1, fun index below => plain.2 index (below.trans_le less)⟩

theorem NotBefore.writtenFor_drop {count : Nat} {key : String}
    (notBefore : NotBefore count key values) :
    writtenFor key (values.drop count) = writtenFor key values := by
  unfold writtenFor
  conv_rhs => rw [← List.take_append_drop count values, List.filterMap_append]
  have none_ : (values.take count).filterMap (keyedValue? (text key)) = [] := by
    rw [List.filterMap_eq_nil_iff]
    intro token member
    obtain ⟨index, inRange, rfl⟩ := List.mem_take_iff_getElem.mp member
    have below : index < count ∧ index < values.length := by omega
    have word := notBefore.2 index below.1
    rwa [tokenAt, List.getElem?_eq_getElem below.2] at word
  rw [none_, List.nil_append]

theorem wrote_of_read {α : Type} {count : Nat} {key : String} {value : Bytes}
    {read : Bytes → Except Status α} {field : α}
    (notBefore : NotBefore count key values)
    (found : requiredRawField values count key = .ok value)
    (parsed : read value = .ok field) : Wrote values key read field := by
  refine ⟨value, ?_, parsed⟩
  rw [← notBefore.writtenFor_drop]
  exact requiredRawField_eq_ok_iff.mp found

theorem wroteOrigin_of_read {count : Nat} {origin : SourceId × Generation}
    (notSource : NotBefore count "src" values)
    (notGeneration : NotBefore count "gen" values)
    (read : readOrigin values count = .ok origin) :
    WroteOrigin values origin.1 origin.2 := by
  unfold readOrigin at read
  simp only [bind_eq_ok_iff, pure_eq_ok, Except.ok.injEq] at read
  obtain ⟨_, source, _, readSource, _, generation, _, readGeneration, rfl⟩ := read
  exact ⟨wrote_of_read notSource source readSource,
    wrote_of_read notGeneration generation readGeneration⟩

/-- Failure domains that are not written twice are read as they are written. -/
theorem wroteDomains_of_read {count : Nat} {domains : List FailureDomainId}
    (notBefore : NotBefore count "domains" values)
    (once : (writtenFor "domains" values).length < 2)
    (read : readDomains values count = .ok domains) :
    WroteDomains values domains := by
  rw [← notBefore.writtenFor_drop] at once
  unfold readDomains findKeyedField at read
  unfold WroteDomains Wrote
  rw [← notBefore.writtenFor_drop]
  unfold writtenFor at once ⊢
  generalize (values.drop count).filterMap (keyedValue? (text "domains")) = found
    at once read ⊢
  rcases found with _ | ⟨one, _ | ⟨two, more⟩⟩
  · exact .inl ⟨rfl, (Except.ok.inj read).symm⟩
  · exact .inr ⟨one, rfl, read⟩
  · simp at once

/-! ### Words in front -/

theorem plain_of_parse {tag : IdentityTag} {bytes : Bytes} {id : StrongId tag}
    (parsed : StrongId.parse tag bytes = .ok id) : 61 ∉ bytes := by
  obtain ⟨rfl, valid⟩ := StrongId.parse_eq_ok_iff.mp parsed
  intro member
  exact absurd (List.all_eq_true.mp valid.all_isIdByte 61 member) (by decide)

theorem plain_of_findName {α : Type} {all : List α} {name : α → Bytes}
    {bytes : Bytes} {value : α} (found : findName all name bytes = some value)
    (plain : 61 ∉ name value) : 61 ∉ bytes :=
  name_of_findName found ▸ plain

theorem plain_of_readCoverage {detail : String} {token : Bytes}
    {coverage : Coverage} (read : readCoverage detail token = .ok coverage) :
    61 ∉ token := by
  unfold readCoverage at read
  split_ifs at read with partial_ complete
  · rw [partial_]
    decide
  · rw [complete]
    decide

theorem plain_of_readDirection {token : Bytes} {bidirectional : Bool}
    (read : readDirection token = .ok bidirectional) : 61 ∉ token := by
  unfold readDirection at read
  split_ifs at read with both one
  · rw [both]
    decide
  · rw [one]
    decide

theorem plain_of_readEnds {ends : PortKey × PortKey}
    (read : readEnds values = .ok ends) :
    61 ∉ tokenAt values 2 ∧ 61 ∉ tokenAt values 3 ∧ 61 ∉ tokenAt values 4 ∧
      61 ∉ tokenAt values 5 := by
  unfold readEnds at read
  simp only [bind_eq_ok_iff, pure_eq_ok, Except.ok.injEq] at read
  obtain ⟨_, fromNode, _, fromPort, _, toNode, _, toPort, rfl⟩ := read
  exact ⟨plain_of_parse fromNode, plain_of_parse fromPort, plain_of_parse toNode,
    plain_of_parse toPort⟩

/-- The words of a line about a resource with an id and two ends. -/
theorem plainFront_of_ends {kind : Bytes} {tag : IdentityTag} {id : StrongId tag}
    {ends : PortKey × PortKey} (long : 7 ≤ values.length)
    (named : tokenAt values 0 = kind) (plainKind : 61 ∉ kind)
    (fromId : StrongId.parse tag (tokenAt values 1) = .ok id)
    (fromEnds : readEnds values = .ok ends) (last : 61 ∉ tokenAt values 6) :
    PlainFront 7 values := by
  obtain ⟨two, three, four, five⟩ := plain_of_readEnds fromEnds
  refine ⟨long, fun index below => ?_⟩
  interval_cases index
  · exact named ▸ plainKind
  · exact plain_of_parse fromId
  · exact two
  · exact three
  · exact four
  · exact five
  · exact last

/-! ### Records are what their lines write -/

variable {formatDouble : K → Bytes} {numbers : DoubleText formatDouble}

theorem writtenOn_of_readProfile {record : ReachProfile K}
    (named : tokenAt values 0 = RecordKind.profile.name)
    (read : readProfile numbers values = .ok record) :
    WrittenOn numbers values (.reachProfile record) := by
  unfold readProfile at read
  split_ifs at read with short
  simp only [bind_eq_ok_iff, pure_eq_ok, Except.ok.injEq] at read
  obtain ⟨_, fromId, _, distance, _, toDistance, _, spans, _, toSpans, _, loss, _,
    toLoss, _, osnr, _, toOsnr, _, fromOrigin, rfl⟩ := read
  have front : PlainFront 2 values := by
    refine ⟨not_lt.mp short, fun index below => ?_⟩
    interval_cases index
    · rw [named]
      decide
    · exact plain_of_parse fromId
  exact ⟨wrote_of_read (front.notBefore _) distance toDistance,
    wrote_of_read (front.notBefore _) spans toSpans,
    wrote_of_read (front.notBefore _) loss toLoss,
    wrote_of_read (front.notBefore _) osnr toOsnr,
    wroteOrigin_of_read (front.notBefore _) (front.notBefore _) fromOrigin⟩

theorem writtenOn_of_readPort {record : PortRecord}
    (named : tokenAt values 0 = RecordKind.port.name)
    (once : (writtenFor "domains" values).length < 2)
    (read : readPort values = .ok record) :
    WrittenOn numbers values (.port record) := by
  unfold readPort at read
  split_ifs at read with short
  obtain ⟨_, fromNode, read⟩ := bind_eq_ok_iff.mp read
  obtain ⟨_, fromPort, read⟩ := bind_eq_ok_iff.mp read
  split at read
  · cases read
  · next role fromRole =>
      simp only [bind_eq_ok_iff, pure_eq_ok, Except.ok.injEq] at read
      obtain ⟨_, admin, _, toAdmin, _, profile, _, toProfile, _, slots, _, toSlots,
        _, cost, _, toCost, _, fromOrigin, _, fromDomains, rfl⟩ := read
      have front : PlainFront 4 values := by
        refine ⟨not_lt.mp short, fun index below => ?_⟩
        interval_cases index
        · rw [named]
          decide
        · exact plain_of_parse fromNode
        · exact plain_of_parse fromPort
        · exact plain_of_findName fromRole (by cases role <;> decide)
      exact ⟨wrote_of_read (front.notBefore _) admin toAdmin,
        wrote_of_read (front.notBefore _) profile toProfile,
        wrote_of_read (front.notBefore _) slots toSlots,
        wrote_of_read (front.notBefore _) cost toCost,
        wroteOrigin_of_read (front.notBefore _) (front.notBefore _) fromOrigin,
        wroteDomains_of_read (front.notBefore _) once fromDomains⟩

theorem writtenOn_of_readSpan {record : SpanRecord K}
    (named : tokenAt values 0 = RecordKind.span.name)
    (once : (writtenFor "domains" values).length < 2)
    (read : readSpan numbers values = .ok record) :
    WrittenOn numbers values (.span record) := by
  unfold readSpan at read
  split_ifs at read with short
  simp only [bind_eq_ok_iff, pure_eq_ok, Except.ok.injEq] at read
  obtain ⟨_, fromId, _, fromEnds, _, fromDirection, _, distance, _, toDistance, _,
    loss, _, toLoss, _, osnr, _, toOsnr, _, slots, _, toSlots, _, admin, _,
    toAdmin, _, cost, _, toCost, _, fromOrigin, _, fromDomains, rfl⟩ := read
  have front : PlainFront 7 values :=
    plainFront_of_ends (not_lt.mp short) named (by decide) fromId fromEnds
      (plain_of_readDirection fromDirection)
  exact ⟨wrote_of_read (front.notBefore _) distance toDistance,
    wrote_of_read (front.notBefore _) loss toLoss,
    wrote_of_read (front.notBefore _) osnr toOsnr,
    wrote_of_read (front.notBefore _) slots toSlots,
    wrote_of_read (front.notBefore _) admin toAdmin,
    wrote_of_read (front.notBefore _) cost toCost,
    wroteOrigin_of_read (front.notBefore _) (front.notBefore _) fromOrigin,
    wroteDomains_of_read (front.notBefore _) once fromDomains⟩

theorem writtenOn_of_readCrossConnect {record : CrossConnectRecord}
    (named : tokenAt values 0 = RecordKind.crossConnect.name)
    (once : (writtenFor "domains" values).length < 2)
    (read : readCrossConnect values = .ok record) :
    WrittenOn numbers values (.crossConnect record) := by
  unfold readCrossConnect at read
  split_ifs at read with short
  obtain ⟨_, fromId, read⟩ := bind_eq_ok_iff.mp read
  obtain ⟨_, fromEnds, read⟩ := bind_eq_ok_iff.mp read
  split at read
  · cases read
  · next op fromOp =>
      simp only [bind_eq_ok_iff, pure_eq_ok, Except.ok.injEq] at read
      obtain ⟨_, slots, _, toSlots, _, admin, _, toAdmin, _, cost, _, toCost, _,
        fromOrigin, _, fromDomains, rfl⟩ := read
      have front : PlainFront 7 values :=
        plainFront_of_ends (not_lt.mp short) named (by decide) fromId fromEnds
          (plain_of_findName fromOp (by cases op <;> decide))
      exact ⟨wrote_of_read (front.notBefore _) slots toSlots,
        wrote_of_read (front.notBefore _) admin toAdmin,
        wrote_of_read (front.notBefore _) cost toCost,
        wroteOrigin_of_read (front.notBefore _) (front.notBefore _) fromOrigin,
        wroteDomains_of_read (front.notBefore _) once fromDomains⟩

/-! ### Node lines -/

/-- The token behind the words of a node line is only one place to write in. -/
theorem writtenFor_node (front : PlainFront 4 values) (long : 5 ≤ values.length)
    (key : String) :
    writtenFor key values =
      (keyedValue? (text key) (tokenAt values 4)).toList ++
        writtenFor key (values.drop 5) := by
  rw [← (front.notBefore key).writtenFor_drop,
    List.drop_eq_getElem_cons (show 4 < values.length from long), tokenAt,
    List.getElem?_eq_getElem (show 4 < values.length from long), Option.getD_some]
  unfold writtenFor
  rw [List.filterMap_cons]
  cases keyedValue? (text key) values[4] <;> rfl

/-- Nothing of the line is written where it is not looked up. -/
theorem notBefore_node (front : PlainFront 4 values) (long : 5 ≤ values.length)
    {key : String} (elsewhere : keyedValue? (text key) (tokenAt values 4) = none) :
    NotBefore 5 key values := by
  refine ⟨long, fun index below => ?_⟩
  rcases Nat.lt_succ_iff_lt_or_eq.mp below with earlier | rfl
  · exact (front.notBefore key).2 index earlier
  · exact elsewhere

/-- A value that is written once and found behind the first keyed token is not
written in front of it. -/
theorem elsewhere_of_wrote {α : Type} {key : String} {value : Bytes}
    {read : Bytes → Except Status α} {field : α} (front : PlainFront 4 values)
    (long : 5 ≤ values.length) (found : requiredRawField values 5 key = .ok value)
    (wrote : Wrote values key read field) :
    keyedValue? (text key) (tokenAt values 4) = none := by
  obtain ⟨only, written, -⟩ := wrote
  rw [writtenFor_node front long, requiredRawField_eq_ok_iff.mp found] at written
  cases here : keyedValue? (text key) (tokenAt values 4) with
  | none => rfl
  | some other => simp [here] at written

/-- What a node line writes in front of its administrative state is lost. -/
theorem wroteDomains_node_iff {domains : List FailureDomainId}
    (front : PlainFront 4 values) (long : 5 ≤ values.length)
    (read : readDomains values 5 = .ok domains) :
    WroteDomains values domains ↔
      (writtenFor "domains" values).length < 2 ∧
        ∀ list, keyedValue? (text "domains") (tokenAt values 4) = some list →
          list = [] := by
  cases here : keyedValue? (text "domains") (tokenAt values 4) with
  | none =>
      simp only [reduceCtorEq, false_implies, implies_true, and_true]
      constructor
      · rintro (⟨nothing, -⟩ | ⟨value, only, -⟩)
        · simp [nothing]
        · simp [only]
      · exact fun once => wroteDomains_of_read (notBefore_node front long here) once
          read
  | some list =>
      have written := writtenFor_node front long "domains"
      rw [here, Option.toList_some, List.singleton_append] at written
      simp only [Option.some.injEq, forall_eq']
      cases later : writtenFor "domains" (values.drop 5) with
      | cons other rest =>
          rw [later] at written
          simp [WroteDomains, Wrote, written]
      | nil =>
          rw [later] at written
          have nothing : domains = [] := by
            unfold readDomains findKeyedField at read
            unfold writtenFor at later
            rw [later] at read
            exact (Except.ok.inj read).symm
          simp only [WroteDomains, Wrote, written, nothing]
          constructor
          · rintro (⟨impossible, -⟩ | ⟨value, same, parsed⟩)
            · cases impossible
            · cases same
              exact ⟨by simp, ((parseDomains_spec parsed).2).symm⟩
          · rintro ⟨-, rfl⟩
            exact .inr ⟨[], rfl, rfl⟩

theorem writtenOn_node_iff {record : NodeRecord}
    (named : tokenAt values 0 = RecordKind.node.name)
    (read : readNode values = .ok record) :
    WrittenOn numbers values (.node record) ↔ ¬ Hides values := by
  unfold readNode at read
  split_ifs at read with short
  obtain ⟨_, fromId, read⟩ := bind_eq_ok_iff.mp read
  split at read
  · cases read
  · next kind fromKind =>
      simp only [bind_eq_ok_iff, pure_eq_ok, Except.ok.injEq] at read
      obtain ⟨_, fromCoverage, _, admin, _, toAdmin, _, cost, _, toCost, _,
        fromOrigin, _, fromDomains, rfl⟩ := read
      have long : 5 ≤ values.length := not_lt.mp short
      have front : PlainFront 4 values := by
        refine ⟨by omega, fun index below => ?_⟩
        interval_cases index
        · rw [named]
          decide
        · exact plain_of_parse fromId
        · exact plain_of_findName fromKind (by cases kind <;> decide)
        · exact plain_of_readCoverage fromCoverage
      have hides : Hides values ↔ 2 ≤ (writtenFor "domains" values).length ∨
          (∃ key ∈ ["cost", "src", "gen"],
            keyedValue? (text key) (tokenAt values 4) ≠ none) ∨
          ∃ list, keyedValue? (text "domains") (tokenAt values 4) = some list ∧
            list ≠ [] := by
        unfold Hides
        rw [named, RecordKind.parse_name]
      have domains := wroteDomains_node_iff front long fromDomains
      rw [hides]
      constructor
      · rintro ⟨-, wroteCost, ⟨wroteSource, wroteGeneration⟩, wroteDomains⟩
        obtain ⟨once, empty⟩ := domains.mp wroteDomains
        unfold readOrigin at fromOrigin
        simp only [bind_eq_ok_iff, pure_eq_ok, Except.ok.injEq] at fromOrigin
        obtain ⟨_, source, _, _, _, generation, _, _, rfl⟩ := fromOrigin
        rintro (twice | ⟨key, member, here⟩ | ⟨list, here, some_⟩)
        · omega
        · simp only [List.mem_cons, List.not_mem_nil, or_false] at member
          rcases member with rfl | rfl | rfl
          · exact here (elsewhere_of_wrote front long cost wroteCost)
          · exact here (elsewhere_of_wrote front long source wroteSource)
          · exact here (elsewhere_of_wrote front long generation wroteGeneration)
        · exact some_ (empty list here)
      · intro shows
        simp only [not_or, not_le, not_exists, not_and, not_not] at shows
        obtain ⟨once, elsewhere, empty⟩ := shows
        have behind (key : String) (member : key ∈ ["cost", "src", "gen"]) :
            NotBefore 5 key values :=
          notBefore_node front long (elsewhere key member)
        exact ⟨wrote_of_read (front.notBefore _) admin toAdmin,
          wrote_of_read (behind _ (by decide)) cost toCost,
          wroteOrigin_of_read (behind _ (by decide)) (behind _ (by decide))
            fromOrigin, domains.mpr ⟨once, empty⟩⟩

/-- A line that is read is read as it is written, unless it hides something. -/
theorem writtenOn_iff {kind : RecordKind} {call : Submission K}
    (isKind : RecordKind.parse (tokenAt values 0) = some kind)
    (read : readSubmission numbers values = .ok call) :
    WrittenOn numbers values call ↔ ¬ Hides values := by
  have named := name_of_findName isKind
  unfold readSubmission at read
  rw [isKind] at read
  cases kind with
  | source =>
      obtain ⟨record, -, rfl⟩ := exists_of_map_eq_ok read
      simp [WrittenOn, Hides, isKind]
  | profile =>
      obtain ⟨record, fromRecord, rfl⟩ := exists_of_map_eq_ok read
      have written := writtenOn_of_readProfile named.symm fromRecord
      simp [written, Hides, isKind]
  | node =>
      obtain ⟨record, fromRecord, rfl⟩ := exists_of_map_eq_ok read
      exact writtenOn_node_iff named.symm fromRecord
  | port =>
      obtain ⟨record, fromRecord, rfl⟩ := exists_of_map_eq_ok read
      simp only [Hides, isKind]
      exact ⟨fun written => not_le.mpr
        (Nat.lt_succ_of_le written.2.2.2.2.2.once),
        fun few => writtenOn_of_readPort named.symm (not_le.mp few) fromRecord⟩
  | span =>
      obtain ⟨record, fromRecord, rfl⟩ := exists_of_map_eq_ok read
      simp only [Hides, isKind]
      exact ⟨fun written => not_le.mpr
        (Nat.lt_succ_of_le written.2.2.2.2.2.2.2.once),
        fun few => writtenOn_of_readSpan named.symm (not_le.mp few) fromRecord⟩
  | crossConnect =>
      obtain ⟨record, fromRecord, rfl⟩ := exists_of_map_eq_ok read
      simp only [Hides, isKind]
      exact ⟨fun written => not_le.mpr
        (Nat.lt_succ_of_le written.2.2.2.2.once),
        fun few => writtenOn_of_readCrossConnect named.symm (not_le.mp few)
          fromRecord⟩

theorem kind_of_readSubmission {kind : RecordKind} {call : Submission K}
    (isKind : RecordKind.parse (tokenAt values 0) = some kind)
    (read : readSubmission numbers values = .ok call) : call.kind = kind := by
  unfold readSubmission at read
  rw [isKind] at read
  cases kind with
  | _ =>
      obtain ⟨record, -, rfl⟩ := exists_of_map_eq_ok read
      rfl

/-- What is read as it is written repeats no key. -/
theorem WrittenOn.once {call : Submission K}
    (written : WrittenOn numbers values call) :
    ∀ key ∈ call.kind.keys, (writtenFor key values).length ≤ 1 := by
  cases call with
  | source record =>
      simp only [Submission.kind, RecordKind.keys, List.not_mem_nil, false_implies,
        implies_true]
  | reachProfile record =>
      obtain ⟨distance, spans, loss, osnr, source, generation⟩ := written
      simp only [Submission.kind, RecordKind.keys, List.forall_mem_cons,
        List.not_mem_nil, false_implies, implies_true, and_true]
      exact ⟨distance.once, spans.once, loss.once, osnr.once, source.once,
        generation.once⟩
  | node record =>
      obtain ⟨admin, cost, ⟨source, generation⟩, domains⟩ := written
      simp only [Submission.kind, RecordKind.keys, List.forall_mem_cons,
        List.not_mem_nil, false_implies, implies_true, and_true]
      exact ⟨admin.once, cost.once, source.once, generation.once, domains.once⟩
  | port record =>
      obtain ⟨admin, profile, slots, cost, ⟨source, generation⟩, domains⟩ := written
      simp only [Submission.kind, RecordKind.keys, List.forall_mem_cons,
        List.not_mem_nil, false_implies, implies_true, and_true]
      exact ⟨admin.once, profile.once, slots.once, cost.once, source.once,
        generation.once, domains.once⟩
  | span record =>
      obtain ⟨distance, loss, osnr, slots, admin, cost, ⟨source, generation⟩,
        domains⟩ := written
      simp only [Submission.kind, RecordKind.keys, List.forall_mem_cons,
        List.not_mem_nil, false_implies, implies_true, and_true]
      exact ⟨distance.once, loss.once, osnr.once, slots.once, admin.once, cost.once,
        source.once, generation.once, domains.once⟩
  | crossConnect record =>
      obtain ⟨slots, admin, cost, ⟨source, generation⟩, domains⟩ := written
      simp only [Submission.kind, RecordKind.keys, List.forall_mem_cons,
        List.not_mem_nil, false_implies, implies_true, and_true]
      exact ⟨slots.once, admin.once, cost.once, source.once, generation.once,
        domains.once⟩

end Lookups

/-! ### The records of a text -/

section Texts

/-- The lines of a text that stand for records. -/
def recordLines (content : Bytes) : List (List Bytes) :=
  (textRecords content).filter fun values =>
    (RecordKind.parse (tokenAt values 0)).isSome

/-- The first pass keeps the records of the text, in their order. -/
theorem readSnapshotLine_records {reader next : SnapshotReader} {number : Nat}
    {values : List Bytes} {seen : List (List Bytes)}
    (before : reader.records = seen.filter fun values =>
      (RecordKind.parse (tokenAt values 0)).isSome)
    (read : readSnapshotLine reader number values = .ok next) :
    next.records = (seen ++ [values]).filter fun values =>
      (RecordKind.parse (tokenAt values 0)).isSome := by
  have other (named : (RecordKind.parse (tokenAt values 0)).isSome = false)
      (same : next.records = reader.records) :
      next.records = (seen ++ [values]).filter fun values =>
        (RecordKind.parse (tokenAt values 0)).isSome := by
    rw [same, before, List.filter_append, List.filter_singleton, named]
    simp
  unfold readSnapshotLine at read
  by_cases first : reader.headerSeen = false
  · rw [if_pos first] at read
    unfold readSnapshotHeader at read
    split_ifs at read with wrong
    obtain ⟨version, -, read⟩ := bind_eq_ok_iff.mp read
    split_ifs at read
    cases read
    refine other ?_ rfl
    have magic : tokenAt values 0 = text "OPP-SNAPSHOT" := by
      rw [tokenAt, not_not.mp (not_or.mp wrong).2]
      rfl
    rw [magic]
    decide
  · rw [if_neg first] at read
    cases keyword : SnapshotKeyword.parse (tokenAt values 0) with
    | none => simp [keyword] at read
    | some word =>
        have named := name_of_findName keyword
        simp only [keyword] at read
        cases word with
        | id =>
            simp only [bind_eq_ok_iff, pure_eq_ok, Except.ok.injEq] at read
            obtain ⟨_, _, _, _, rfl⟩ := read
            exact other (by rw [← named]; decide) rfl
        | generation =>
            simp only [bind_eq_ok_iff, pure_eq_ok, Except.ok.injEq] at read
            obtain ⟨_, _, _, _, rfl⟩ := read
            exact other (by rw [← named]; decide) rfl
        | grid =>
            obtain ⟨_, -, read⟩ := bind_eq_ok_iff.mp read
            split at read
            · cases read
              exact other (by rw [← named]; decide) rfl
            · cases read
        | slots =>
            simp only [bind_eq_ok_iff, pure_eq_ok, Except.ok.injEq] at read
            obtain ⟨_, _, _, _, rfl⟩ := read
            exact other (by rw [← named]; decide) rfl
        | record kind =>
            simp only at read
            split_ifs at read
            cases read
            have isRecord : (RecordKind.parse (tokenAt values 0)).isSome = true := by
              rw [← named, SnapshotKeyword.name, RecordKind.parse_name]
              rfl
            simp only [before, List.filter_append, List.filter_singleton, isRecord,
              cond_true]

variable [Field K] [LinearOrder K] {runtime : Runtime K}
  {numbers : DoubleText runtime.formatDouble}

/-- Every record line of an accepted text is read, and every record of the
snapshot is what one of them was read as, with its failure domains in order. -/
theorem recordLines_of_parse {content : Bytes} {snapshot : TopologySnapshot K}
    (parsed : parseSnapshotText numbers content = .ok snapshot) :
    (∀ values ∈ recordLines content,
      ∃ call, readSubmission numbers values = .ok call) ∧
    ∀ call ∈ snapshot.calls, ∃ values ∈ recordLines content, ∃ original,
      readSubmission numbers values = .ok original ∧
        call = original.normalised runtime := by
  unfold parseSnapshotText at parsed
  split_ifs at parsed
  obtain ⟨reader, read, parsed⟩ := bind_eq_ok_iff.mp parsed
  obtain ⟨opened, opens, parsed⟩ := bind_eq_ok_iff.mp parsed
  obtain ⟨builder, added, built⟩ := bind_eq_ok_iff.mp parsed
  have records : reader.records = recordLines content :=
    @readRecords_invariant _ readSnapshotLine
      (fun seen reader => reader.records = seen.filter fun values =>
        (RecordKind.parse (tokenAt values 0)).isSome) _ _ _ rfl
      (fun _ before read => readSnapshotLine_records before read) read
  obtain ⟨empty, -⟩ := SnapshotBuilder.open_spec
    (fun call => ∃ values ∈ recordLines content,
      readSubmission numbers values = .ok call) opens
  obtain ⟨each, all, -⟩ := foldlM_addRecord_holds (fun entry member call read =>
    ⟨entry.1, records ▸ List.fst_mem_of_mem_zipIdx member, read⟩) empty added
  constructor
  · intro values member
    rw [← records] at member
    obtain ⟨index, inRange, rfl⟩ := List.mem_iff_getElem.mp member
    exact each (reader.records[index], 1 + index)
      (List.mk_add_mem_zipIdx_iff_getElem?.mpr (List.getElem?_eq_getElem inRange))
  · rw [← SnapshotBuilder.eq_finished built]
    intro call member
    obtain ⟨original, ⟨values, isLine, isRead⟩, same⟩ :=
      all.of_finished call member
    exact ⟨values, isLine, original, isRead, same⟩

/-- The record lines of a text repeat no key that is looked up in them, and are
read as they are written. -/
structure FieldsKept (numbers : DoubleText runtime.formatDouble) (content : Bytes) :
    Prop where
  once : ∀ values ∈ recordLines content, ∀ kind,
    RecordKind.parse (tokenAt values 0) = some kind →
    ∀ key ∈ kind.keys, (writtenFor key values).length ≤ 1
  written : ∀ values ∈ recordLines content, ∀ call,
    readSubmission numbers values = .ok call → WrittenOn numbers values call

/-- An accepted text keeps all fields of its records, and repeats none, exactly
when no line of it hides one; the records of the snapshot are those of its
lines. -/
theorem fieldsKept_iff (numbers : DoubleText runtime.formatDouble)
    (content : Bytes) (snapshot : TopologySnapshot K)
    (parsed : parseSnapshotText numbers content = .ok snapshot) :
    (FieldsKept numbers content ↔
      ∀ values ∈ recordLines content, ¬ Hides values) ∧
    ∀ call ∈ snapshot.calls, ∃ values ∈ recordLines content, ∃ original,
      readSubmission numbers values = .ok original ∧
        call = original.normalised runtime := by
  obtain ⟨reads, calls⟩ := recordLines_of_parse parsed
  have isRecord {values : List Bytes} (member : values ∈ recordLines content) :
      ∃ kind, RecordKind.parse (tokenAt values 0) = some kind :=
    Option.isSome_iff_exists.mp (List.mem_filter.mp member).2
  refine ⟨⟨fun kept values member => ?_, fun shows => ⟨?_, ?_⟩⟩, calls⟩
  · obtain ⟨kind, isKind⟩ := isRecord member
    obtain ⟨call, read⟩ := reads values member
    exact (writtenOn_iff isKind read).mp (kept.written values member call read)
  · intro values member kind isKind
    obtain ⟨call, read⟩ := reads values member
    rw [← kind_of_readSubmission isKind read]
    exact ((writtenOn_iff isKind read).mpr (shows values member)).once
  · intro values member call read
    obtain ⟨kind, isKind⟩ := isRecord member
    exact (writtenOn_iff isKind read).mpr (shows values member)

end Texts

/-- A snapshot of one node whose line ends like this. -/
def nodeText (rest : Bytes) : Bytes :=
  text "OPP-SNAPSHOT 1\nid s\ngrid fixed50\nslots 4\nsource nms 0 complete\n" ++
    text "node a terminal complete admin=up cost=0 src=nms gen=0 " ++ rest

theorem fieldsKept_iff_nodeText :
    (∃ snapshot, parseSnapshotText wholeNumbers
        (nodeText (text "domains=fire,ice\n")) = .ok snapshot) ∧
      @FieldsKept ℚ _ _ rationalRuntime wholeNumbers
        (nodeText (text "domains=fire,ice\n")) := by
  have parsed : (parseSnapshotText wholeNumbers
      (nodeText (text "domains=fire,ice\n"))).toOption.isSome = true := by
    decide +kernel
  have shows : ∀ values ∈ recordLines (nodeText (text "domains=fire,ice\n")),
      (writtenFor "domains" values).length < 2 ∧
        ∀ key ∈ ["cost", "src", "gen", "domains"],
          keyedValue? (text key) (tokenAt values 4) = none := by
    decide +kernel
  obtain ⟨snapshot, read⟩ := Option.isSome_iff_exists.mp parsed
  have read := toOption_eq_some_iff.mp read
  refine ⟨⟨snapshot, read⟩, (fieldsKept_iff wholeNumbers _ snapshot read).1.mpr ?_⟩
  intro values member hides
  obtain ⟨once, elsewhere⟩ := shows values member
  have notTwice := not_le.mpr once
  unfold Hides at hides
  split at hides
  · rcases hides with twice | ⟨key, isKey, here⟩ | ⟨list, here, -⟩
    · exact notTwice twice
    · exact here (elsewhere key (List.mem_append_left ["domains"] isKey))
    · rw [elsewhere "domains" (by decide)] at here
      cases here
  · exact notTwice hides
  · exact notTwice hides
  · exact notTwice hides
  · exact hides
  · exact hides
  · exact hides

/-- A node line that lists its failure domains twice is accepted, and the node
has none. -/
theorem repeated_domains_dropped :
    (∃ snapshot, parseSnapshotText wholeNumbers
        (nodeText (text "domains=fire domains=ice\n")) = .ok snapshot ∧
        snapshot.nodes.map NodeRecord.failureDomains = [[]]) ∧
      ¬ @FieldsKept ℚ _ _ rationalRuntime wholeNumbers
        (nodeText (text "domains=fire domains=ice\n")) := by
  have parsed : (parseSnapshotText wholeNumbers
      (nodeText (text "domains=fire domains=ice\n"))).toOption.map
        (fun snapshot => snapshot.nodes.map NodeRecord.failureDomains) =
      some [[]] := by
    decide +kernel
  have repeats : ∃ values ∈ recordLines
        (nodeText (text "domains=fire domains=ice\n")),
      RecordKind.parse (tokenAt values 0) = some .node ∧
        ¬ (writtenFor "domains" values).length ≤ 1 := by
    decide +kernel
  obtain ⟨snapshot, read, bare⟩ := Option.map_eq_some_iff.mp parsed
  obtain ⟨values, member, isNode, twice⟩ := repeats
  exact ⟨⟨snapshot, toOption_eq_some_iff.mp read, bare⟩, fun kept =>
    twice (kept.once values member .node isNode "domains" (by decide))⟩

end OpticalPathPlanner
