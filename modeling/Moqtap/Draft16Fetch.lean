import Moqtap.FetchRestating

/-! Draft-16 fetch objects (`draft16/data_stream.rs`). The frame and the
Location it resolves to are two values; beside that, a Datagram-forwarded
Object clears the running Subgroup ID, a marker states a Subgroup ID of zero,
and an Object that states no Priority leaves the running one alone. -/
namespace Moqtap.Draft16Fetch
open ByteCursor Varint CodecTypes FetchStream FetchRestating

structure FetchObjectHeader where
  serializationFlags : VarInt
  groupId : Option VarInt
  subgroupId : Option VarInt
  objectId : Option VarInt
  publisherPriority : Option UInt8
  extensions : Option Bytes
  payloadLength : VarInt
  deriving DecidableEq, Repr

/-- `FetchEndOfRange::from_u64`. -/
def endOfRange : Nat → Option FetchEndOfRange
  | 0x8C => some .nonExistent
  | 0x10C => some .unknown
  | _ => none

/-- `FetchSubgroupMode`: zero, same as prior, prior plus one, present. -/
def subgroupModeOf (flags : Nat) : Nat :=
  if (endOfRange flags).isSome || hasBit flags 0x40 then 0 else flags &&& 0x03

def layout (flags : Nat) : FetchObjectLayout :=
  let marker := (endOfRange flags).isSome
  { groupIdDelta := marker || hasBit flags 0x08
    subgroupId := subgroupModeOf flags == 3
    objectIdDelta := marker || hasBit flags 0x04
    publisherPriority := !marker && hasBit flags 0x10
    properties := !marker && hasBit flags 0x20 }

namespace FetchObjectHeader

def flags (h : FetchObjectHeader) : Nat := h.serializationFlags.val

def isMarker (h : FetchObjectHeader) : Bool := (endOfRange h.flags).isSome

def isDatagram (h : FetchObjectHeader) : Bool := !h.isMarker && hasBit h.flags 0x40

/-- The optional fields are present exactly where the flags put them. -/
def fills (h : FetchObjectHeader) (l : FetchObjectLayout) : Bool :=
  l.groupIdDelta == h.groupId.isSome && l.subgroupId == h.subgroupId.isSome &&
    l.objectIdDelta == h.objectId.isSome && l.publisherPriority == h.publisherPriority.isSome &&
    l.properties == h.extensions.isSome

def encode (h : FetchObjectHeader) : Except CodecError Bytes := do
  refuseIf (decide (128 ≤ h.flags) && !h.isMarker) .invalidField
  refuseIf (!h.fills (layout h.flags)) .invalidField
  return h.serializationFlags.encode ++ putOptional VarInt.encode h.groupId ++
    putOptional VarInt.encode h.subgroupId ++ putOptional VarInt.encode h.objectId ++
    putOptional (fun byte => [byte]) h.publisherPriority ++
    putOptional (fun block => (VarInt.ofU64 block.length).encode ++ block) h.extensions ++
    h.payloadLength.encode

def decode : Reader CodecError FetchObjectHeader := do
  let serializationFlags ← varint9000
  let flags := serializationFlags.val
  lift (refuseIf (decide (128 ≤ flags) && !(endOfRange flags).isSome) .invalidField)
  let groupId ← optionally (layout flags).groupIdDelta varint9000
  let subgroupId ← optionally (layout flags).subgroupId varint9000
  let objectId ← optionally (layout flags).objectIdDelta varint9000
  let publisherPriority ← optionally (layout flags).publisherPriority (takeByte .unexpectedEnd)
  let extensions ← optionally (layout flags).properties extensionBlock
  let payloadLength ← varint9000
  return ({ serializationFlags, groupId, subgroupId, objectId, publisherPriority, extensions,
            payloadLength } : FetchObjectHeader)

end FetchObjectHeader

/-- A frame's Location with every field resolved. -/
structure FetchObjectLocation where
  groupId : Nat
  subgroupId : Option Nat
  objectId : Nat
  publisherPriority : Option UInt8
  endOfRange : Option FetchEndOfRange
  deriving DecidableEq, Repr

/-- What the frames so far established, on the reader's side and the writer's. -/
structure Prior where
  groupId : Option Nat
  subgroupId : Option Nat
  objectId : Option Nat
  publisherPriority : Option UInt8
  deriving DecidableEq, Repr

def Prior.new : Prior := ⟨none, none, none, none⟩

/-- The number after `prior`, inside the RFC 9000 range. -/
def successor (prior : Option Nat) : Except CodecError Nat := do
  let prior ← okOr prior .invalidField
  let next ← okOr (checkedAdd prior 1) .invalidField
  refuseIf (maxVarint < next) .invalidField
  return next

def resolveGroup (prior : Option Nat) : Option VarInt → Except CodecError Nat
  | some v => .ok v.val
  | none => okOr prior .invalidField

def resolveObject (prior : Option Nat) : Option VarInt → Except CodecError Nat
  | some v => .ok v.val
  | none => successor prior

def resolveSubgroup (prior : Option Nat) (h : FetchObjectHeader) : Except CodecError (Option Nat) :=
  if h.isDatagram then .ok none
  else match subgroupModeOf h.flags with
    | 0 => .ok (some 0)
    | 1 => (okOr prior .invalidField).map some
    | 2 => (successor prior).map some
    | _ => (okOr (h.subgroupId.map VarInt.val) .invalidField).map some

/-- `FetchObjectWriter::advance`, and what `resolve` leaves behind. -/
def advance (prior : Prior) (written : FetchObjectHeader) (location : FetchObjectLocation) : Prior where
  groupId := some location.groupId
  subgroupId := location.subgroupId
  objectId := some location.objectId
  publisherPriority := written.publisherPriority.or prior.publisherPriority

def resolve (prior : Prior) (header : FetchObjectHeader) : Except CodecError (FetchObjectLocation × Prior) := do
  let groupId ← resolveGroup prior.groupId header.groupId
  let subgroupId ← resolveSubgroup prior.subgroupId header
  let objectId ← resolveObject prior.objectId header.objectId
  let location : FetchObjectLocation :=
    { groupId, subgroupId, objectId
      publisherPriority := header.publisherPriority.or prior.publisherPriority
      endOfRange := endOfRange header.flags }
  return (location, advance prior header location)

def subgroupField (prior : Option Nat) (original : FetchObjectHeader) (location : FetchObjectLocation) :
    Except CodecError (Nat × Option VarInt) :=
  if original.isDatagram then .ok (original.flags &&& 0x03, none)
  else do
    let subgroupId ← okOr location.subgroupId .invalidField
    let mode := subgroupMode prior (subgroupModeOf original.flags) subgroupId
    if mode = 0x03 then
      let explicit ← stated subgroupId
      return (mode, explicit)
    else return (mode, none)

def priorityField (prior : Prior) (original : FetchObjectHeader) (location : FetchObjectLocation) :
    Option UInt8 :=
  if (layout original.flags).publisherPriority ∨ prior.publisherPriority ≠ location.publisherPriority then
    location.publisherPriority
  else none

def headerFor (prior : Prior) (original : FetchObjectHeader) (location : FetchObjectLocation) :
    Except CodecError FetchObjectHeader :=
  if original.isMarker then do
    let groupId ← stated location.groupId
    let objectId ← stated location.objectId
    return { original with
      groupId, subgroupId := none, objectId, publisherPriority := none, extensions := none }
  else do
    let groupId ← statedUnless (!(layout original.flags).groupIdDelta &&
      prior.groupId == some location.groupId) location.groupId
    let objectId ← statedUnless (!(layout original.flags).objectIdDelta &&
      (prior.objectId.bind fun p => checkedAdd p 1) == some location.objectId) location.objectId
    let subgroup ← subgroupField prior.subgroupId original location
    let publisherPriority := priorityField prior original location
    let serializationFlags ← fromU64 (assembleFlags subgroup.1 (hasBit original.flags 0x40) groupId.isSome
      objectId.isSome publisherPriority.isSome (layout original.flags).properties)
    return { original with
      serializationFlags, groupId, subgroupId := subgroup.2, objectId, publisherPriority }

/-! ## What has not moved is stated as it was -/

theorem fills_iff {h : FetchObjectHeader} {l : FetchObjectLayout} :
    h.fills l = true ↔ l.groupIdDelta = h.groupId.isSome ∧ l.subgroupId = h.subgroupId.isSome ∧
      l.objectIdDelta = h.objectId.isSome ∧ l.publisherPriority = h.publisherPriority.isSome ∧
      l.properties = h.extensions.isSome := by
  simp only [FetchObjectHeader.fills, Bool.and_eq_true, beq_iff_eq, and_assoc]

/-- What decoding a header promises of it. -/
structure Laid (h : FetchObjectHeader) : Prop where
  known : 128 ≤ h.flags → h.isMarker = true
  fills : h.fills (layout h.flags) = true

theorem decode_laid {h : FetchObjectHeader} {cursor rest : Cursor}
    (ran : FetchObjectHeader.decode cursor = .ok (h, rest)) : Laid h := by
  obtain ⟨flags, _, _, ran⟩ := bind_success ran
  obtain ⟨_, _, known, ran⟩ := bind_success ran
  obtain ⟨groupId, _, group, ran⟩ := bind_success ran
  obtain ⟨subgroupId, _, subgroup, ran⟩ := bind_success ran
  obtain ⟨objectId, _, object, ran⟩ := bind_success ran
  obtain ⟨priority, _, stated, ran⟩ := bind_success ran
  obtain ⟨extensions, _, block, ran⟩ := bind_success ran
  obtain ⟨payload, _, _, ran⟩ := bind_success ran
  cases ran
  have known : 128 ≤ flags.val → (endOfRange flags.val).isSome = true := by
    simpa using refuseIf_ok.mp (lift_success known).1
  exact ⟨known, fills_iff.mpr ⟨optionally_success group, optionally_success subgroup,
    optionally_success object, optionally_success stated, optionally_success block⟩⟩

/-- A field left off because the flags leave it off, or stated as it was. -/
theorem statedUnless_original {field given : Option VarInt} {implied : Bool} {v : Nat}
    (absent : given = none → implied = true) (present : ∀ w, given = some w → w.val = v ∧ implied = false)
    (written : statedUnless implied v = .ok field) : field = given := by
  cases given with
  | none =>
    rw [statedUnless, if_pos (absent rfl)] at written
    cases written
    rfl
  | some w =>
    obtain ⟨rfl, notImplied⟩ := present w rfl
    rw [statedUnless, if_neg (by simp [notImplied])] at written
    exact (stated_iff.mp written).1

theorem successor_ok {prior : Option Nat} {next : Nat} (ok : successor prior = .ok next) :
    (prior.bind fun p => checkedAdd p 1) = some next := by
  obtain ⟨p, same, ok⟩ := except_bind_ok ok
  obtain ⟨n, steps, ok⟩ := except_bind_ok ok
  obtain ⟨_, _, ok⟩ := except_bind_ok ok
  cases ok
  rw [okOr_ok.mp same]
  exact okOr_ok.mp steps

theorem subgroupField_original {prior : Option Nat} {h : FetchObjectHeader}
    {location : FetchObjectLocation} {field : Nat × Option VarInt} (laid : Laid h)
    (ordinary : h.isMarker = false) (resolved : resolveSubgroup prior h = .ok location.subgroupId)
    (written : subgroupField prior h location = .ok field) :
    field = (h.flags &&& 0x03, h.subgroupId) := by
  have subgroup := (fills_iff.mp laid.fills).2.1
  unfold resolveSubgroup at resolved
  unfold subgroupField at written
  have noRange : (endOfRange h.flags).isSome = false := ordinary
  split at resolved
  · rename_i datagram
    rw [if_pos datagram] at written
    cases written
    have bit : hasBit h.flags 0x40 = true := by simpa [FetchObjectHeader.isDatagram, ordinary] using datagram
    have absent : h.subgroupId = none := by simpa [layout, subgroupModeOf, bit] using subgroup
    rw [absent]
  · rename_i stream
    have bit : hasBit h.flags 0x40 = false := by simpa [FetchObjectHeader.isDatagram, ordinary] using stream
    have mode : subgroupModeOf h.flags = h.flags &&& 0x03 := by simp [subgroupModeOf, noRange, bit]
    simp only [layout, mode] at subgroup
    rw [if_neg stream, mode] at written
    rw [mode] at resolved
    split at resolved
    · rename_i zero
      have absent : h.subgroupId = none := by simpa [zero] using subgroup
      simp [← Except.ok.inj resolved, zero, subgroupMode, pure, Except.pure] at written
      rw [zero, absent, ← written]
    · rename_i one
      have absent : h.subgroupId = none := by simpa [one] using subgroup
      obtain ⟨id, same, given⟩ := except_map_ok.mp resolved
      simp [← given, one, subgroupMode, okOr_ok.mp same, pure, Except.pure] at written
      rw [one, absent, ← written]
    · rename_i two
      have absent : h.subgroupId = none := by simpa [two] using subgroup
      obtain ⟨id, same, given⟩ := except_map_ok.mp resolved
      simp [← given, two, subgroupMode, successor_ok same, pure, Except.pure] at written
      rw [two, absent, ← written]
    · rename_i notZero notOne notTwo
      have three : h.flags &&& 0x03 = 3 := by
        have small : h.flags &&& 0x03 ≤ 3 := Nat.and_le_right
        have rest : h.flags &&& 0x03 ≠ 0 ∧ h.flags &&& 0x03 ≠ 1 ∧ h.flags &&& 0x03 ≠ 2 :=
          ⟨notZero, notOne, notTwo⟩
        omega
      obtain ⟨id, same, given⟩ := except_map_ok.mp resolved
      obtain ⟨w, explicit, rfl⟩ := Option.map_eq_some_iff.mp (okOr_ok.mp same)
      rw [← given, okOr_some, except_ok_bind] at written
      simp only [three, subgroupMode, true_or, if_true] at written
      obtain ⟨f, isStated, written⟩ := except_bind_ok written
      cases written
      rw [three, explicit, (stated_iff.mp isStated).1]

theorem priorityField_original (prior : Prior) {h : FetchObjectHeader} {location : FetchObjectLocation}
    (laid : Laid h) (inForce : location.publisherPriority = h.publisherPriority.or prior.publisherPriority) :
    priorityField prior h location = h.publisherPriority := by
  have stated := (fills_iff.mp laid.fills).2.2.2.1
  unfold priorityField
  rw [stated, inForce]
  cases h.publisherPriority <;> simp

/-- Against the frames it was read against, a frame is written under the header
it came in, or refused. -/
theorem headerFor_original {prior after : Prior} {h header : FetchObjectHeader}
    {location : FetchObjectLocation} (laid : Laid h)
    (resolved : resolve prior h = .ok (location, after))
    (written : headerFor prior h location = .ok header) : header = h ∧ after = advance prior h location := by
  obtain ⟨groupId, group, resolved⟩ := except_bind_ok resolved
  obtain ⟨subgroupId, subgroup, resolved⟩ := except_bind_ok resolved
  obtain ⟨objectId, object, resolved⟩ := except_bind_ok resolved
  cases resolved
  refine ⟨?_, rfl⟩
  obtain ⟨groupBit, subgroupBit, objectBit, priorityBit, extensionsBit⟩ := fills_iff.mp laid.fills
  unfold headerFor at written
  split at written
  · rename_i marker
    have noRange : (endOfRange h.flags).isSome = true := marker
    simp only [layout, noRange, subgroupModeOf] at groupBit subgroupBit objectBit priorityBit extensionsBit
    obtain ⟨g, groupGiven⟩ := Option.isSome_iff_exists.mp groupBit.symm
    obtain ⟨o, objectGiven⟩ := Option.isSome_iff_exists.mp objectBit.symm
    rw [groupGiven] at group
    rw [objectGiven] at object
    cases group
    cases object
    obtain ⟨g', groupStated, written⟩ := except_bind_ok written
    obtain ⟨o', objectStated, written⟩ := except_bind_ok written
    cases written
    have noSubgroup : h.subgroupId = none := by simpa using subgroupBit.symm
    have noPriority : h.publisherPriority = none := by simpa using priorityBit.symm
    have noExtensions : h.extensions = none := by simpa using extensionsBit.symm
    rw [(stated_iff.mp groupStated).1, (stated_iff.mp objectStated).1, ← groupGiven, ← objectGiven,
      ← noSubgroup, ← noPriority, ← noExtensions]
  · rename_i ordinary
    have ordinary : h.isMarker = false := by simpa using ordinary
    obtain ⟨g, groupStated, written⟩ := except_bind_ok written
    obtain ⟨o, objectStated, written⟩ := except_bind_ok written
    obtain ⟨s, subgroupStated, written⟩ := except_bind_ok written
    obtain ⟨flags, assembled, written⟩ := except_bind_ok written
    cases written
    have sameGroup : g = h.groupId := by
      refine statedUnless_original (fun absent => ?_) (fun w given => ?_) groupStated
      · rw [absent] at group groupBit
        simp [groupBit, okOr_ok.mp group]
      · rw [given] at group groupBit
        exact ⟨Except.ok.inj group, by simp [groupBit]⟩
    have sameObject : o = h.objectId := by
      refine statedUnless_original (fun absent => ?_) (fun w given => ?_) objectStated
      · rw [absent] at object objectBit
        simp [objectBit, successor_ok object]
      · rw [given] at object objectBit
        exact ⟨Except.ok.inj object, by simp [objectBit]⟩
    have sameSubgroup := subgroupField_original laid ordinary subgroup subgroupStated
    have samePriority := @priorityField_original prior h ⟨groupId, subgroupId, objectId,
      h.publisherPriority.or prior.publisherPriority, endOfRange h.flags⟩ laid rfl
    have sameFlags : flags = h.serializationFlags := by
      have small : h.flags < 128 := by
        by_contra large
        simp [laid.known (by omega)] at ordinary
      have noRange : (endOfRange h.flags).isSome = false := ordinary
      simp only [layout, noRange, Bool.false_or, Bool.not_false, Bool.true_and]
        at groupBit objectBit priorityBit extensionsBit
      apply VarInt.ext
      rw [fromU64_val assembled, sameGroup, sameObject, sameSubgroup, samePriority, ← groupBit, ← objectBit,
        ← priorityBit]
      simp only [layout, noRange, Bool.not_false, Bool.true_and]
      exact reassembled h.flags small
    rw [sameFlags, sameGroup, sameObject, sameSubgroup, samePriority]

end Moqtap.Draft16Fetch
