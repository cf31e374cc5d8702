import Moqtap.FetchStream

/-! The fetch writer against the fetch reader (`draftNN/data_stream.rs`): a
header the writer states is read back, from the same predecessor, as the frame
it was stated for; and stated against the predecessor the frame was read
against, it is the frame's own header unless one of the frame's numbers is one
the writer has no encoding for. -/
namespace Moqtap.FetchRestating
open ByteCursor Varint CodecTypes FetchStream

/-- What a frame says, apart from how its fields were stated. -/
structure FetchMeaning where
  endOfRange : Option FetchEndOfRange
  groupId : Nat
  subgroupId : Option Nat
  objectId : Nat
  publisherPriority : Option UInt8
  properties : Option Bytes
  payloadLength : VarInt
  deriving DecidableEq, Repr

/-- The priority a marker carries along is its predecessor's, not its own. -/
def meaning (draft : FetchDraft) (frame : FetchObject) : FetchMeaning where
  endOfRange := endOfRange draft frame.header.flags
  groupId := frame.groupId
  subgroupId := frame.subgroupId
  objectId := frame.objectId
  publisherPriority := if isMarker draft frame.header then none else frame.publisherPriority
  properties := frame.header.properties
  payloadLength := frame.header.payloadLength

/-! ## What is stated reads back -/

theorem stated_ok {v : Nat} {field : Option VarInt} :
    stated v = .ok field ↔ v ≤ maxVarint ∧ field = some (VarInt.ofU64 v) := by
  by_cases small : v ≤ maxVarint
  · simp only [stated, fromU64, VarInt.fromU64_ok small, Except.mapError, Except.map, small, true_and,
      Except.ok.injEq]
    exact eq_comm
  · simp [stated, fromU64, VarInt.fromU64, small, Except.mapError, Except.map]

theorem stated_val {v : Nat} {field : Option VarInt} (ok : stated v = .ok field) :
    ∃ w : VarInt, field = some w ∧ w.val = v := by
  obtain ⟨small, rfl⟩ := stated_ok.mp ok
  exact ⟨_, rfl, VarInt.val_ofU64 (by unfold maxVarint at small; omega)⟩

theorem fromU64_val {v : Nat} {w : VarInt} (ok : fromU64 v = .ok w) : w.val = v := by
  unfold fromU64 at ok
  cases made : VarInt.fromU64 v with
  | error e => simp [made, Except.mapError] at ok
  | ok u =>
    simp only [made, Except.mapError, Except.ok.injEq] at ok
    subst ok
    exact (VarInt.fromU64_success made).1

private theorem absoluteFields_resolve {prior : Option (Nat × Nat)} {frame : FetchObject}
    {fields : Option VarInt × Option VarInt} (ok : absoluteFields prior frame = .ok fields) :
    resolveGroup .absolute prior fields.1 = .ok frame.groupId ∧
      resolveObject .absolute prior fields.1 fields.2 = .ok frame.objectId := by
  unfold absoluteFields at ok
  obtain ⟨group, groupStated, ok⟩ := except_bind_ok ok
  obtain ⟨object, objectStated, ok⟩ := except_bind_ok ok
  cases ok
  simp only [statedUnless, Bool.and_eq_true, beq_iff_eq] at groupStated objectStated
  constructor
  · split at groupStated
    · rename_i kept
      cases groupStated
      obtain ⟨location, rfl, same⟩ := Option.map_eq_some_iff.mp kept.2
      simp [resolveGroup, same]
    · obtain ⟨w, rfl, val⟩ := stated_val groupStated
      simp [resolveGroup, val]
  · split at objectStated
    · rename_i kept
      cases objectStated
      obtain ⟨location, rfl, next⟩ := Option.bind_eq_some_iff.mp kept.2
      simp [resolveObject, next, okOr]
    · obtain ⟨w, rfl, val⟩ := stated_val objectStated
      simp [resolveObject, val]

private theorem deltaFields_resolve {order : GroupOrder} {prior : Option (Nat × Nat)} {frame : FetchObject}
    {fields : Option VarInt × Option VarInt}
    (bounded : ∀ l, prior = some l → l.1 < 2 ^ 64 ∧ l.2 < 2 ^ 64)
    (group : frame.groupId < 2 ^ 64) (object : frame.objectId < 2 ^ 64)
    (ok : deltaFields order prior frame = .ok fields) :
    resolveGroup (.delta order) prior fields.1 = .ok frame.groupId ∧
      resolveObject (.delta order) prior fields.1 fields.2 = .ok frame.objectId := by
  unfold deltaFields at ok
  split at ok
  case h_1 =>
    obtain ⟨groupField, groupStated, ok⟩ := except_bind_ok ok
    obtain ⟨objectField, objectStated, ok⟩ := except_bind_ok ok
    cases ok
    obtain ⟨g, rfl, gVal⟩ := stated_val groupStated
    obtain ⟨o, rfl, oVal⟩ := stated_val objectStated
    simp [resolveGroup, resolveObject, gVal, oVal]
  case h_2 priorGroup priorObject =>
    have priorBound := bounded _ rfl
    dsimp only at priorBound
    split at ok
    · -- Another group: its Object ID is stated, or runs on across the boundary.
      obtain ⟨delta, apart, ok⟩ := except_bind_ok ok
      obtain ⟨groupField, groupStated, ok⟩ := except_bind_ok ok
      obtain ⟨g, rfl, gVal⟩ := stated_val groupStated
      have steps : order.step priorGroup g.val = some frame.groupId := by
        have apart := distance_some.mp (okOr_ok.mp apart)
        rw [step_some, gVal]
        cases order
        · exact ⟨apart, group⟩
        · exact apart
      split at ok
      · rename_i runsOn
        cases ok
        have next : checkedAdd priorObject 1 = some frame.objectId := by
          rw [checkedAdd_some]
          omega
        simp [resolveGroup, resolveObject, steps, next, okOr]
      · obtain ⟨objectField, objectStated, ok⟩ := except_bind_ok ok
        cases ok
        obtain ⟨o, rfl, oVal⟩ := stated_val objectStated
        simp [resolveGroup, resolveObject, steps, oVal, okOr]
    · rename_i sameGroup
      obtain ⟨advance, ahead, ok⟩ := except_bind_ok ok
      obtain ⟨_, _, ok⟩ := except_bind_ok ok
      have ahead := checkedSub_some.mp (okOr_ok.mp ahead)
      have same : priorGroup = frame.groupId := by omega
      split at ok
      · rename_i next
        cases ok
        have next : checkedAdd priorObject 1 = some frame.objectId := by
          rw [checkedAdd_some]
          omega
        simp [resolveGroup, resolveObject, same, next, okOr]
      · obtain ⟨objectField, objectStated, ok⟩ := except_bind_ok ok
        cases ok
        obtain ⟨o, rfl, oVal⟩ := stated_val objectStated
        have moves : checkedAdd priorObject o.val = some frame.objectId := by
          rw [checkedAdd_some]
          omega
        simp [resolveGroup, resolveObject, same, moves, okOr]

theorem identityFields_resolve {rule : LocationRule} {prior : Option (Nat × Nat)} {frame : FetchObject}
    {fields : Option VarInt × Option VarInt}
    (bounded : ∀ l, prior = some l → l.1 < 2 ^ 64 ∧ l.2 < 2 ^ 64)
    (group : frame.groupId < 2 ^ 64) (object : frame.objectId < 2 ^ 64)
    (ok : identityFields rule prior frame = .ok fields) :
    resolveGroup rule prior fields.1 = .ok frame.groupId ∧
      resolveObject rule prior fields.1 fields.2 = .ok frame.objectId := by
  cases rule with
  | absolute => exact absoluteFields_resolve ok
  | delta order => exact deltaFields_resolve bounded group object ok

/-- The mode the writer settles on names the Subgroup ID it was chosen for. -/
theorem subgroupMode_names (prior : Option Nat) (mode subgroupId : Nat) :
    (subgroupMode prior mode subgroupId = 0 ∧ subgroupId = 0) ∨
    (subgroupMode prior mode subgroupId = 1 ∧ prior = some subgroupId) ∨
    (subgroupMode prior mode subgroupId = 2 ∧
      (prior.bind fun p => checkedAdd p 1) = some subgroupId) ∨
    subgroupMode prior mode subgroupId = 3 := by
  unfold subgroupMode
  dsimp only
  split
  · rename_i kept
    rcases kept with explicit | ⟨mode, zero⟩ | ⟨mode, inherits⟩ | ⟨mode, successor⟩
    · exact .inr (.inr (.inr explicit))
    · exact .inl ⟨mode, zero⟩
    · exact .inr (.inl ⟨mode, inherits⟩)
    · exact .inr (.inr (.inl ⟨mode, successor⟩))
  · split
    · rename_i zero
      exact .inl ⟨rfl, zero⟩
    · split
      · rename_i inherits
        exact .inr (.inl ⟨rfl, inherits⟩)
      · split
        · rename_i successor
          exact .inr (.inr (.inl ⟨rfl, successor⟩))
        · exact .inr (.inr (.inr rfl))

/-- A written Subgroup ID reads back, under any header of the same mode, field and kind. -/
theorem subgroupField_resolve {prior : Option Nat} {frame : FetchObject} {field : Nat × Option VarInt}
    (present : frame.subgroupId.isSome = !frame.header.isDatagram)
    (ok : subgroupField prior frame = .ok field) :
    field.1 < 4 ∧ field.2.isSome = (!frame.header.isDatagram && field.1 == 3) ∧
      ∀ h : FetchObjectHeader, h.subgroupIdMode = field.1 → h.subgroupId = field.2 →
        h.isDatagram = frame.header.isDatagram → resolveSubgroup prior h = .ok frame.subgroupId := by
  unfold subgroupField at ok
  split at ok
  · rename_i datagram
    cases ok
    have absent : frame.subgroupId = none := by simpa [datagram] using present
    refine ⟨Nat.lt_succ_of_le Nat.and_le_right, by simp [datagram], fun h _ _ kind => ?_⟩
    simp [resolveSubgroup, kind, datagram, absent]
  · rename_i stream
    obtain ⟨subgroupId, same, ok⟩ := except_bind_ok ok
    have same := okOr_ok.mp same
    dsimp only at ok
    rcases subgroupMode_names prior frame.header.subgroupIdMode subgroupId with
      ⟨chosen, zero⟩ | ⟨chosen, inherits⟩ | ⟨chosen, successor⟩ | chosen
    · rw [chosen, if_neg (by decide)] at ok
      cases ok
      refine ⟨by decide, by simp, fun h mode _ kind => ?_⟩
      simp [resolveSubgroup, kind, stream, mode, same, zero]
    · rw [chosen, if_neg (by decide)] at ok
      cases ok
      refine ⟨by decide, by simp, fun h mode _ kind => ?_⟩
      simp [resolveSubgroup, kind, stream, mode, same, inherits, okOr, Except.map]
    · rw [chosen, if_neg (by decide)] at ok
      cases ok
      refine ⟨by decide, by simp, fun h mode _ kind => ?_⟩
      simp [resolveSubgroup, kind, stream, mode, same, successor, okOr, Except.map]
    · rw [chosen, if_pos rfl] at ok
      obtain ⟨explicit, isStated, ok⟩ := except_bind_ok ok
      cases ok
      obtain ⟨w, rfl, val⟩ := stated_val isStated
      refine ⟨Nat.lt_succ_self 3, by simp [stream], fun h mode field kind => ?_⟩
      simp [resolveSubgroup, kind, stream, mode, same, field, val, okOr, Except.map]

theorem priorityField_resolve {prior : Option UInt8} {frame : FetchObject} {h : FetchObjectHeader}
    {field : Option UInt8} (ok : priorityField prior frame = .ok field)
    (stated : h.publisherPriority = field) :
    ∃ priority, frame.publisherPriority = some priority ∧ resolvePriority prior h = .ok priority := by
  obtain ⟨priority, same, ok⟩ := except_bind_ok ok
  refine ⟨priority, okOr_ok.mp same, ?_⟩
  split at ok
  · cases ok
    simp [resolvePriority, stated]
  · rename_i implied
    cases ok
    have inherited : prior = some priority := by
      by_contra differs
      exact implied (.inr differs)
    simp [resolvePriority, stated, inherited, okOr]

/-- The header of a marker: two deltas under the same flags. -/
private theorem resolve_marker {draft : FetchDraft} {prior : Prior} {frame : FetchObject}
    {header : FetchObjectHeader} (sound : Sound draft frame) (bounded : prior.Bounded)
    (marker : isMarker draft frame.header = true) (written : headerFor draft prior frame = .ok header) :
    resolve draft prior header =
        .ok ({ header, groupId := frame.groupId, subgroupId := none, objectId := frame.objectId,
               publisherPriority := prior.publisherPriority }, advance draft prior frame) ∧
      header.serializationFlags = frame.header.serializationFlags ∧ Laid draft header ∧
      header.properties = frame.header.properties ∧ header.payloadLength = frame.header.payloadLength := by
  unfold headerFor at written
  rw [if_pos marker] at written
  obtain ⟨⟨group, object⟩, fields, written⟩ := except_bind_ok written
  obtain ⟨_, both, written⟩ := except_bind_ok written
  cases written
  obtain ⟨groupResolved, objectResolved⟩ := identityFields_resolve bounded sound.group sound.object fields
  have present := refuseIf_ok.mp both
  simp only [Bool.or_eq_false_iff, Option.isNone_eq_false_iff] at present
  have sameMarker : isMarker draft { frame.header with
      groupIdDelta := group, subgroupId := none, objectIdDelta := object,
      publisherPriority := none, properties := none } = true := marker
  obtain ⟨-, -, -, -, -, noProperties⟩ | ⟨ordinary, -⟩ := laid_cases sound.laid
  · refine ⟨?_, rfl, ⟨⟨true, false, true, false, false⟩, ?_, ?_⟩, noProperties.symm, rfl⟩
    · unfold resolve
      rw [if_pos sameMarker]
      simp only [groupResolved, objectResolved, bind, Except.bind, advance, marker, if_true,
        sound.marker marker, Option.none_or]
      rfl
    · exact if_pos marker
    · simp [FetchObjectHeader.fills, present.1, present.2]
  · simp [ordinary] at marker

/-- The header of an Object: the flags say which fields were chosen. -/
private theorem resolve_object {draft : FetchDraft} {prior : Prior} {frame : FetchObject}
    {header : FetchObjectHeader} (sound : Sound draft frame) (bounded : prior.Bounded)
    (ordinary : isMarker draft frame.header = false) (written : headerFor draft prior frame = .ok header) :
    resolve draft prior header =
        .ok ({ frame with header }, advance draft prior frame) ∧
      isMarker draft header = false ∧ Laid draft header ∧
      header.properties = frame.header.properties ∧ header.payloadLength = frame.header.payloadLength := by
  unfold headerFor at written
  rw [if_neg (by simp [ordinary])] at written
  obtain ⟨⟨group, object⟩, fields, written⟩ := except_bind_ok written
  obtain ⟨⟨mode, subgroup⟩, subgroupWritten, written⟩ := except_bind_ok written
  obtain ⟨priority, priorityWritten, written⟩ := except_bind_ok written
  obtain ⟨flags, assembled, written⟩ := except_bind_ok written
  have headerIs := Except.ok.inj written
  obtain ⟨groupResolved, objectResolved⟩ := identityFields_resolve bounded sound.group sound.object fields
  obtain ⟨modeSmall, explicit, subgroupResolved⟩ :=
    subgroupField_resolve (sound.datagram ordinary) subgroupWritten
  obtain ⟨small, low, datagram, laidOut⟩ := assembled_bits mode modeSmall frame.header.isDatagram
    group.isSome object.isSome priority.isSome frame.header.properties.isSome
  have flagsVal := fromU64_val assembled
  dsimp only at flagsVal explicit subgroupResolved
  rw [← flagsVal] at small low datagram laidOut
  subst header
  obtain ⟨stated, same, priorityResolved⟩ := priorityField_resolve (h := { frame.header with
    serializationFlags := flags, groupIdDelta := group, subgroupId := subgroup, objectIdDelta := object,
    publisherPriority := priority }) priorityWritten rfl
  have subgroupResolved := subgroupResolved { frame.header with
    serializationFlags := flags, groupIdDelta := group, subgroupId := subgroup, objectIdDelta := object,
    publisherPriority := priority } low rfl datagram
  have noMarker : isMarker draft { frame.header with
      serializationFlags := flags, groupIdDelta := group, subgroupId := subgroup, objectIdDelta := object,
      publisherPriority := priority } = false := by
    simp [isMarker, FetchObjectHeader.flags, endOfRange_flags draft small]
  refine ⟨?_, noMarker, ⟨objectLayout flags.val, layout_flags draft small, ?_⟩, rfl, rfl⟩
  · unfold resolve
    rw [noMarker, if_neg (by decide)]
    simp only [groupResolved, objectResolved, subgroupResolved, priorityResolved, bind, Except.bind,
      advance, ordinary, same]
    rfl
  · rw [laidOut]
    simp [FetchObjectHeader.fills, explicit]

/-- A header the writer states reads back, from what was written before it, as
the frame it was stated for. -/
theorem resolve_headerFor {draft : FetchDraft} {prior : Prior} {frame : FetchObject}
    {header : FetchObjectHeader} (sound : Sound draft frame) (bounded : prior.Bounded)
    (written : headerFor draft prior frame = .ok header) :
    ∃ restated, resolve draft prior header = .ok (restated, advance draft prior frame) ∧
      meaning draft restated = meaning draft frame ∧ Laid draft header ∧ ShortProperties header := by
  cases marker : isMarker draft frame.header with
  | true =>
    obtain ⟨resolved, flags, laid, properties, payload⟩ := resolve_marker sound bounded marker written
    refine ⟨_, resolved, ?_, laid, fun block present => sound.short block (properties ▸ present)⟩
    have sameMarker : isMarker draft header = true := by
      rw [← marker, isMarker, isMarker, FetchObjectHeader.flags, flags, FetchObjectHeader.flags]
    simp [meaning, FetchObjectHeader.flags, flags, sameMarker, marker, properties, payload,
      sound.marker marker]
  | false =>
    obtain ⟨resolved, ordinary, laid, properties, payload⟩ := resolve_object sound bounded marker written
    refine ⟨_, resolved, ?_, laid, fun block present => sound.short block (properties ▸ present)⟩
    have none : endOfRange draft header.flags = none := by simpa [isMarker] using ordinary
    have none' : endOfRange draft frame.header.flags = .none := by simpa [isMarker] using marker
    simp [meaning, none, none', ordinary, marker, properties, payload]

/-! ## What has not moved is stated as it was -/

/-- The Location fields the writer has an encoding for: RFC 9000 numbers, and
not an Object that does not advance. -/
def FieldsExpressible (rule : LocationRule) (group object : Option VarInt) : Prop :=
  (∀ v ∈ group, v.val ≤ maxVarint) ∧ (∀ v ∈ object, v.val ≤ maxVarint) ∧
    (rule = .absolute ∨ group ≠ none ∨ ∀ v ∈ object, v.val ≠ 0)

theorem stated_iff {v : VarInt} {field : Option VarInt} :
    stated v.val = .ok field ↔ field = some v ∧ v.val ≤ maxVarint := by
  rw [stated_ok, VarInt.ofU64_val, and_comm]

/-- The last field of a pair, stated. -/
private theorem stated_map_iff {β : Type} {v : VarInt} {f : Option VarInt → β} {b : β} :
    f <$> stated v.val = .ok b ↔ b = f (some v) ∧ v.val ≤ maxVarint := by
  simp only [map_eq_pure_bind, except_bind_iff, stated_iff]
  constructor
  · rintro ⟨_, ⟨rfl, fits⟩, made⟩
    exact ⟨(Except.ok.inj made).symm, fits⟩
  · rintro ⟨rfl, fits⟩
    exact ⟨_, ⟨rfl, fits⟩, rfl⟩

private theorem absoluteFields_original {prior : Option (Nat × Nat)} {frame : FetchObject}
    {fields : Option VarInt × Option VarInt}
    (group : resolveGroup .absolute prior frame.header.groupIdDelta = .ok frame.groupId)
    (object : resolveObject .absolute prior frame.header.groupIdDelta frame.header.objectIdDelta =
      .ok frame.objectId) :
    absoluteFields prior frame = .ok fields ↔
      fields = (frame.header.groupIdDelta, frame.header.objectIdDelta) ∧
        FieldsExpressible .absolute frame.header.groupIdDelta frame.header.objectIdDelta := by
  have groupField : ∀ field, statedUnless (frame.header.groupIdDelta.isNone &&
      prior.map Prod.fst == some frame.groupId) frame.groupId = .ok field ↔
      field = frame.header.groupIdDelta ∧ ∀ v ∈ frame.header.groupIdDelta, v.val ≤ maxVarint := by
    intro field
    cases given : frame.header.groupIdDelta with
    | none =>
      rw [given] at group
      cases prior with
      | none => cases group
      | some l =>
        have same : l.1 = frame.groupId := Except.ok.inj group
        simp [statedUnless, same, eq_comm]
    | some v =>
      have same : frame.groupId = v.val := by simpa [resolveGroup, given, eq_comm] using group
      simp [statedUnless, same, stated_iff]
  have objectField : ∀ field, statedUnless (frame.header.objectIdDelta.isNone &&
      (prior.bind fun p => checkedAdd p.2 1) == some frame.objectId) frame.objectId = .ok field ↔
      field = frame.header.objectIdDelta ∧ ∀ v ∈ frame.header.objectIdDelta, v.val ≤ maxVarint := by
    intro field
    cases given : frame.header.objectIdDelta with
    | none =>
      rw [given] at object
      cases prior with
      | none => cases object
      | some l =>
        have next : checkedAdd l.2 1 = some frame.objectId := okOr_ok.mp object
        simp [statedUnless, next, eq_comm]
    | some v =>
      have same : frame.objectId = v.val := by simpa [resolveObject, given, eq_comm] using object
      simp [statedUnless, same, stated_iff]
  obtain ⟨groupGiven, objectGiven⟩ := fields
  simp only [absoluteFields, except_bind_iff, groupField, objectField]
  constructor
  · rintro ⟨_, ⟨rfl, groupFits⟩, _, ⟨rfl, objectFits⟩, made⟩
    cases made
    exact ⟨rfl, groupFits, objectFits, .inl rfl⟩
  · rintro ⟨same, groupFits, objectFits, -⟩
    cases same
    exact ⟨_, ⟨rfl, groupFits⟩, _, ⟨rfl, objectFits⟩, rfl⟩

private theorem deltaFields_original {order : GroupOrder} {prior : Option (Nat × Nat)}
    {frame : FetchObject} {fields : Option VarInt × Option VarInt}
    (group : resolveGroup (.delta order) prior frame.header.groupIdDelta = .ok frame.groupId)
    (object : resolveObject (.delta order) prior frame.header.groupIdDelta frame.header.objectIdDelta =
      .ok frame.objectId) :
    deltaFields order prior frame = .ok fields ↔
      fields = (frame.header.groupIdDelta, frame.header.objectIdDelta) ∧
        FieldsExpressible (.delta order) frame.header.groupIdDelta frame.header.objectIdDelta := by
  cases groupGiven : frame.header.groupIdDelta with
  | none =>
    rw [groupGiven] at group object
    -- No group delta, so there is a predecessor and this is its group.
    obtain _ | ⟨priorGroup, priorObject⟩ := prior
    · cases group
    · cases (Except.ok.inj group)
      cases objectGiven : frame.header.objectIdDelta with
      | none =>
        rw [objectGiven] at object
        have next := (checkedAdd_some.mp (okOr_ok.mp object)).1
        have advance : checkedSub frame.objectId priorObject = some 1 := checkedSub_some.mpr next
        simp [deltaFields, advance, objectGiven, okOr, refuseIf, FieldsExpressible, bind, Except.bind, pure,
          Except.pure, eq_comm]
      | some v =>
        rw [objectGiven] at object
        have ahead := (checkedAdd_some.mp (okOr_ok.mp object)).1
        have advance : checkedSub frame.objectId priorObject = some v.val := checkedSub_some.mpr ahead
        simp [deltaFields, advance, objectGiven, except_bind_iff, stated_map_iff, FieldsExpressible]
        tauto
  | some g =>
    rw [groupGiven] at group object
    obtain _ | ⟨priorGroup, priorObject⟩ := prior
    · have same : frame.groupId = g.val := (Except.ok.inj group).symm
      cases objectGiven : frame.header.objectIdDelta with
      | none =>
        rw [objectGiven] at object
        cases object
      | some v =>
        rw [objectGiven] at object
        have same' : frame.objectId = v.val := (Except.ok.inj object).symm
        simp [deltaFields, same, same', except_bind_iff, stated_iff, stated_map_iff, FieldsExpressible]
        tauto
    · have steps := step_some.mp (okOr_ok.mp group)
      have apart : frame.groupId ≠ priorGroup := by
        cases order <;> dsimp only at steps <;> omega
      have distance : order.distance priorGroup frame.groupId = some g.val := by
        rw [distance_some]
        cases order
        · exact steps.1
        · exact steps
      cases objectGiven : frame.header.objectIdDelta with
      | none =>
        rw [objectGiven] at object
        have next := checkedAdd_some.mp (okOr_ok.mp object)
        have runsOn : (priorObject + 1) % 18446744073709551616 = frame.objectId := by omega
        have inside : priorObject ≠ 18446744073709551615 := by omega
        simp [deltaFields, apart, distance, objectGiven, runsOn, inside, stated_map_iff, FieldsExpressible]
      | some v =>
        rw [objectGiven] at object
        have same : frame.objectId = v.val := (Except.ok.inj object).symm
        simp [deltaFields, apart, distance, objectGiven, same, except_bind_iff, stated_iff, stated_map_iff,
          FieldsExpressible]
        tauto

/-- Against the predecessor it was read against, a frame's Location fields are
its own, and the writer refuses them only when it has no encoding for them. -/
theorem identityFields_original {rule : LocationRule} {prior : Option (Nat × Nat)}
    {frame : FetchObject} {fields : Option VarInt × Option VarInt}
    (group : resolveGroup rule prior frame.header.groupIdDelta = .ok frame.groupId)
    (object : resolveObject rule prior frame.header.groupIdDelta frame.header.objectIdDelta =
      .ok frame.objectId) :
    identityFields rule prior frame = .ok fields ↔
      fields = (frame.header.groupIdDelta, frame.header.objectIdDelta) ∧
        FieldsExpressible rule frame.header.groupIdDelta frame.header.objectIdDelta := by
  cases rule with
  | absolute => exact absoluteFields_original group object
  | delta order => exact deltaFields_original group object

/-- The mode a frame arrived in still names its Subgroup ID. -/
theorem subgroupField_original {prior : Option Nat} {frame : FetchObject} {field : Nat × Option VarInt}
    (laid : frame.header.subgroupId.isSome =
      (!frame.header.isDatagram && frame.header.subgroupIdMode == 3))
    (resolved : resolveSubgroup prior frame.header = .ok frame.subgroupId) :
    subgroupField prior frame = .ok field ↔
      field = (frame.header.subgroupIdMode, frame.header.subgroupId) ∧
        ∀ v ∈ frame.header.subgroupId, v.val ≤ maxVarint := by
  unfold resolveSubgroup at resolved
  unfold subgroupField
  split at resolved
  · rename_i datagram
    have absent : frame.header.subgroupId = none := by simpa [datagram] using laid
    simp [datagram, absent, eq_comm]
  · rename_i stream
    rw [if_neg stream]
    split at resolved
    · rename_i mode
      have absent : frame.header.subgroupId = none := by simpa [mode] using laid
      simp [← Except.ok.inj resolved, mode, absent, subgroupMode, okOr, bind, Except.bind, pure, Except.pure,
        eq_comm]
    · rename_i mode
      have absent : frame.header.subgroupId = none := by simpa [mode] using laid
      obtain ⟨inherited, same, resolved⟩ := except_map_ok.mp resolved
      simp [← resolved, mode, absent, okOr_ok.mp same, subgroupMode, okOr, bind, Except.bind, pure, Except.pure,
        eq_comm]
    · rename_i mode
      have absent : frame.header.subgroupId = none := by simpa [mode] using laid
      obtain ⟨next, same, resolved⟩ := except_map_ok.mp resolved
      simp [← resolved, mode, absent, okOr_ok.mp same, subgroupMode, okOr, bind, Except.bind, pure, Except.pure,
        eq_comm]
    · rename_i notZero notOne notTwo
      have mode : frame.header.subgroupIdMode = 3 := by
        have small : frame.header.subgroupIdMode ≤ 3 := Nat.and_le_right
        have rest : frame.header.subgroupIdMode ≠ 0 ∧ frame.header.subgroupIdMode ≠ 1 ∧
          frame.header.subgroupIdMode ≠ 2 := ⟨notZero, notOne, notTwo⟩
        omega
      obtain ⟨explicit, same, resolved⟩ := except_map_ok.mp resolved
      obtain ⟨v, given, rfl⟩ := Option.map_eq_some_iff.mp (okOr_ok.mp same)
      simp [← resolved, mode, given, subgroupMode, stated_map_iff]

theorem priorityField_original {prior : Option UInt8} {frame : FetchObject} {priority : UInt8}
    (resolved : resolvePriority prior frame.header = .ok priority)
    (same : frame.publisherPriority = some priority) :
    priorityField prior frame = .ok frame.header.publisherPriority := by
  unfold resolvePriority at resolved
  split at resolved
  · rename_i given
    cases resolved
    simp [priorityField, same, given, okOr, bind, Except.bind, pure, Except.pure]
  · rename_i absent
    simp [priorityField, same, absent, okOr_ok.mp resolved, okOr, bind, Except.bind, pure, Except.pure]

/-- The header's numbers are ones the writer has an encoding for. -/
def Expressible (draft : FetchDraft) (h : FetchObjectHeader) : Prop :=
  FieldsExpressible (draft.rule h) h.groupIdDelta h.objectIdDelta ∧ ∀ v ∈ h.subgroupId, v.val ≤ maxVarint

private theorem marker_original {draft : FetchDraft} {prior : Prior} {frame : FetchObject}
    {header : FetchObjectHeader} (laid : Laid draft frame.header)
    (marker : isMarker draft frame.header = true)
    (group : resolveGroup draft.markers prior.location frame.header.groupIdDelta = .ok frame.groupId)
    (object : resolveObject draft.markers prior.location frame.header.groupIdDelta
      frame.header.objectIdDelta = .ok frame.objectId) :
    headerFor draft prior frame = .ok header ↔ header = frame.header ∧ Expressible draft frame.header := by
  obtain ⟨-, groupGiven, objectGiven, noSubgroup, noPriority, noProperties⟩ | ⟨ordinary, -⟩ := laid_cases laid
  · unfold headerFor Expressible FetchDraft.rule
    simp only [if_pos marker, except_bind_iff, identityFields_original group object, refuseIf_ok]
    have unchanged : ({ frame.header with
        groupIdDelta := frame.header.groupIdDelta, subgroupId := none,
        objectIdDelta := frame.header.objectIdDelta, publisherPriority := none,
        properties := none } : FetchObjectHeader) = frame.header := by
      rw [← noSubgroup, ← noPriority, ← noProperties]
    constructor
    · rintro ⟨_, ⟨rfl, fits⟩, _, _, made⟩
      exact ⟨(Except.ok.inj made).symm.trans unchanged, fits, by simp [noSubgroup]⟩
    · rintro ⟨rfl, fits, -⟩
      exact ⟨_, ⟨rfl, fits⟩, (), by simp [groupGiven, objectGiven],
        congrArg Except.ok unchanged⟩
  · simp [ordinary] at marker

private theorem object_original {draft : FetchDraft} {prior : Prior} {frame : FetchObject}
    {header : FetchObjectHeader} {priority : UInt8} (laid : Laid draft frame.header)
    (ordinary : isMarker draft frame.header = false)
    (group : resolveGroup draft.objects prior.location frame.header.groupIdDelta = .ok frame.groupId)
    (object : resolveObject draft.objects prior.location frame.header.groupIdDelta
      frame.header.objectIdDelta = .ok frame.objectId)
    (subgroup : resolveSubgroup prior.subgroupId frame.header = .ok frame.subgroupId)
    (stated : frame.publisherPriority = some priority)
    (inForce : resolvePriority prior.publisherPriority frame.header = .ok priority) :
    headerFor draft prior frame = .ok header ↔ header = frame.header ∧ Expressible draft frame.header := by
  obtain ⟨marker, -⟩ | ⟨-, small, fills⟩ := laid_cases laid
  · simp [marker] at ordinary
  · obtain ⟨groupBit, subgroupBit, objectBit, priorityBit, propertiesBit⟩ := fills_iff.mp fills
    have flags : fromU64 (assembleFlags frame.header.subgroupIdMode frame.header.isDatagram
        frame.header.groupIdDelta.isSome frame.header.objectIdDelta.isSome
        frame.header.publisherPriority.isSome frame.header.properties.isSome) =
          .ok frame.header.serializationFlags := by
      rw [← groupBit, ← objectBit, ← priorityBit, ← propertiesBit]
      have same := reassembled frame.header.flags (by omega)
      simp only [objectLayout, FetchObjectHeader.subgroupIdMode, FetchObjectHeader.isDatagram, same]
      rw [fromU64, FetchObjectHeader.flags, VarInt.fromU64_ok (by
        simp only [FetchObjectHeader.flags] at small
        unfold maxVarint
        omega), VarInt.ofU64_val]
      rfl
    unfold headerFor Expressible FetchDraft.rule
    rw [if_neg (by simp [ordinary]), if_neg (by simp [ordinary])]
    simp only [except_bind_iff, identityFields_original group object,
      subgroupField_original subgroupBit.symm subgroup, priorityField_original inForce stated]
    constructor
    · rintro ⟨_, ⟨rfl, fits⟩, _, ⟨rfl, subgroupFits⟩, _, same, _, assembled, made⟩
      cases same
      cases flags.symm.trans assembled
      exact ⟨(Except.ok.inj made).symm, fits, subgroupFits⟩
    · rintro ⟨rfl, fits, subgroupFits⟩
      exact ⟨_, ⟨rfl, fits⟩, _, ⟨rfl, subgroupFits⟩, _, rfl, _, flags, rfl⟩

/-- Against the predecessor it was read against, a frame is written under the
header it came in, or refused. -/
theorem headerFor_original {draft : FetchDraft} {prior after : Prior} {h : FetchObjectHeader}
    {frame : FetchObject} {header : FetchObjectHeader} (laid : Laid draft h)
    (resolved : resolve draft prior h = .ok (frame, after)) :
    headerFor draft prior frame = .ok header ↔ header = h ∧ Expressible draft h := by
  obtain ⟨rfl, -, group, object, kind⟩ := resolve_cases resolved
  unfold FetchDraft.rule at group object
  obtain ⟨marker, -⟩ | ⟨ordinary, subgroup, priority, stated, inForce⟩ := kind
  · rw [if_pos marker] at group object
    exact marker_original laid marker group object
  · rw [if_neg (by simp [ordinary])] at group object
    exact object_original laid ordinary group object subgroup stated inForce

end Moqtap.FetchRestating
