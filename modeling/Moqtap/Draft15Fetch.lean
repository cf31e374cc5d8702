import Moqtap.FetchStream

/-! Draft-15 fetch objects (`draft15/data_stream.rs`). A header holds resolved
values, so a frame is one value; its flags are a single byte and only say which
fields the wire carries. -/
namespace Moqtap.Draft15Fetch
open ByteCursor Varint CodecTypes FetchStream

inductive ObjectStatus where
  | normal
  | objectDoesNotExist
  | endOfGroup
  | endOfTrack
  deriving DecidableEq, Repr

namespace ObjectStatus

def fromU64 : Nat → Option ObjectStatus
  | 0x00 => some normal
  | 0x01 => some objectDoesNotExist
  | 0x03 => some endOfGroup
  | 0x04 => some endOfTrack
  | _ => none

def asU64 : ObjectStatus → Nat
  | normal => 0x00
  | objectDoesNotExist => 0x01
  | endOfGroup => 0x03
  | endOfTrack => 0x04

end ObjectStatus

structure FetchObjectHeader where
  serializationFlags : UInt8
  groupId : VarInt
  subgroupId : VarInt
  objectId : VarInt
  publisherPriority : UInt8
  extensionHeaders : Bytes
  payloadLength : VarInt
  objectStatus : Option ObjectStatus
  deriving DecidableEq, Repr

namespace FetchObjectHeader

def flags (h : FetchObjectHeader) : Nat := h.serializationFlags.toNat

/-- `SubgroupIdEncoding`: zero, same as prior, prior plus one, present. -/
def subgroupIdEncoding (h : FetchObjectHeader) : Nat := h.flags &&& 0x03

def hasObjectId (h : FetchObjectHeader) : Bool := hasBit h.flags 0x04

def hasGroupId (h : FetchObjectHeader) : Bool := hasBit h.flags 0x08

def hasPriority (h : FetchObjectHeader) : Bool := hasBit h.flags 0x10

def hasExtensions (h : FetchObjectHeader) : Bool := hasBit h.flags 0x20

def encode (h : FetchObjectHeader) : Except CodecError Bytes := do
  refuseIf (hasBit h.flags 0xC0) .invalidField
  return [h.serializationFlags] ++ (if h.hasGroupId then h.groupId.encode else []) ++
    (if h.subgroupIdEncoding = 3 then h.subgroupId.encode else []) ++
    (if h.hasObjectId then h.objectId.encode else []) ++
    (if h.hasPriority then [h.publisherPriority] else []) ++
    (if h.hasExtensions then
      (VarInt.ofU64 h.extensionHeaders.length).encode ++ h.extensionHeaders else []) ++
    h.payloadLength.encode ++
    -- A zero-length Object carries a status varint, and no other does.
    (if h.payloadLength.val = 0 then
      (VarInt.ofU64 (h.objectStatus.getD .normal).asU64).encode else [])

end FetchObjectHeader

structure PriorFetchObject where
  groupId : Nat
  subgroupId : Nat
  objectId : Nat
  publisherPriority : UInt8
  deriving DecidableEq, Repr

/-- A field of the frame, off the wire when `present` and else from the prior Object. -/
def fieldOr {α : Type} (present : Bool) (reader : Reader CodecError α) (inherited : Except CodecError α) :
    Reader CodecError α :=
  if present then reader else lift inherited

def inheritedSubgroup (prior : Option PriorFetchObject) : Nat → Except CodecError VarInt
  | 0 => .ok (VarInt.ofU64 0)
  | 1 => do
    let prior ← okOr prior .invalidField
    validVarint prior.subgroupId
  | _ => do
    let prior ← okOr prior .invalidField
    let next ← okOr (checkedAdd prior.subgroupId 1) .invalidField
    validVarint next

def inheritedGroup (prior : Option PriorFetchObject) : Except CodecError VarInt := do
  let prior ← okOr prior .invalidField
  validVarint prior.groupId

def inheritedObject (prior : Option PriorFetchObject) : Except CodecError VarInt := do
  let prior ← okOr prior .invalidField
  let next ← okOr (checkedAdd prior.objectId 1) .invalidField
  validVarint next

/-- A status follows a zero payload length and nothing else. -/
def statusField (payloadLength : VarInt) : Reader CodecError (Option ObjectStatus) :=
  if payloadLength.val = 0 then do
    let code ← varint9000
    lift ((okOr (ObjectStatus.fromU64 code.val) .invalidField).map some)
  else pure none

/-- `FetchObjectWriter::advance`, and what `read_object_header` leaves behind. -/
def advance (h : FetchObjectHeader) : Option PriorFetchObject :=
  some ⟨h.groupId.val, h.subgroupId.val, h.objectId.val, h.publisherPriority⟩

def readFields (prior : Option PriorFetchObject) (serializationFlags : UInt8) :
    Reader CodecError FetchObjectHeader := do
  let flags := serializationFlags.toNat
  let groupId ← fieldOr (hasBit flags 0x08) varint9000 (inheritedGroup prior)
  let subgroupId ← fieldOr (flags &&& 0x03 == 3) varint9000 (inheritedSubgroup prior (flags &&& 0x03))
  let objectId ← fieldOr (hasBit flags 0x04) varint9000 (inheritedObject prior)
  let publisherPriority ← fieldOr (hasBit flags 0x10) (takeByte .unexpectedEnd)
    ((okOr prior .invalidField).map PriorFetchObject.publisherPriority)
  let extensionHeaders ← fieldOr (hasBit flags 0x20) extensionBlock (.ok [])
  let payloadLength ← varint9000
  let objectStatus ← statusField payloadLength
  return ({ serializationFlags, groupId, subgroupId, objectId, publisherPriority, extensionHeaders,
            payloadLength, objectStatus } : FetchObjectHeader)

/-- Whether any field of the frame is taken from the prior Object. -/
def referencesPrior (flags : Nat) : Bool :=
  flags &&& 0x03 == 1 || flags &&& 0x03 == 2 || !hasBit flags 0x04 || !hasBit flags 0x08 ||
    !hasBit flags 0x10

def readObjectHeader (prior : Option PriorFetchObject) :
    Reader CodecError (FetchObjectHeader × Option PriorFetchObject) := do
  let serializationFlags ← takeByte .unexpectedEnd
  lift (refuseIf (hasBit serializationFlags.toNat 0xC0) .invalidField)
  lift (refuseIf (referencesPrior serializationFlags.toNat && prior.isNone) .invalidField)
  let header ← readFields prior serializationFlags
  return (header, advance header)

/-- A field is written when the Object wrote it, and written anyway when leaving
it off would now say something else. -/
def headerFor (prior : Option PriorFetchObject) (original : FetchObjectHeader) :
    Except CodecError FetchObjectHeader := do
  refuseIf (hasBit original.flags 0xC0) .invalidField
  let group := original.hasGroupId || prior.map (·.groupId) != some original.groupId.val
  let object := original.hasObjectId ||
    (prior.bind fun p => checkedAdd p.objectId 1) != some original.objectId.val
  let priority := original.hasPriority ||
    prior.map (·.publisherPriority) != some original.publisherPriority
  let mode := subgroupMode (prior.map (·.subgroupId)) original.subgroupIdEncoding original.subgroupId.val
  return { original with
    serializationFlags :=
      UInt8.ofNat (assembleFlags mode false group object priority original.hasExtensions) }

/-! ## What has not moved is stated as it was -/

theorem fieldOr_success {α : Type} {present : Bool} {reader : Reader CodecError α}
    {inherited : Except CodecError α} {cursor rest : Cursor} {a : α}
    (ran : fieldOr present reader inherited cursor = .ok (a, rest)) (absent : present = false) :
    inherited = .ok a := by
  subst absent
  exact (lift_success ran).1

/-- A field the flags leave off is the one the prior Object implies. -/
structure Implied (prior : Option PriorFetchObject) (h : FetchObjectHeader) : Prop where
  group : h.hasGroupId = false → prior.map (·.groupId) = some h.groupId.val
  object : h.hasObjectId = false →
    (prior.bind fun p => checkedAdd p.objectId 1) = some h.objectId.val
  priority : h.hasPriority = false → prior.map (·.publisherPriority) = some h.publisherPriority
  subgroup : subgroupMode (prior.map (·.subgroupId)) h.subgroupIdEncoding h.subgroupId.val =
    h.subgroupIdEncoding

theorem inheritedGroup_val {prior : Option PriorFetchObject} {w : VarInt}
    (ok : inheritedGroup prior = .ok w) : prior.map (·.groupId) = some w.val := by
  obtain ⟨p, same, ok⟩ := except_bind_ok ok
  rw [okOr_ok.mp same, validVarint_val ok]
  rfl

theorem inheritedObject_val {prior : Option PriorFetchObject} {w : VarInt}
    (ok : inheritedObject prior = .ok w) : (prior.bind fun p => checkedAdd p.objectId 1) = some w.val := by
  obtain ⟨p, same, ok⟩ := except_bind_ok ok
  obtain ⟨next, steps, ok⟩ := except_bind_ok ok
  rw [okOr_ok.mp same, validVarint_val ok]
  exact okOr_ok.mp steps

theorem inheritedSubgroup_mode {prior : Option PriorFetchObject} {mode : Nat} {w : VarInt}
    (small : mode < 3) (ok : inheritedSubgroup prior mode = .ok w) :
    subgroupMode (prior.map (·.subgroupId)) mode w.val = mode := by
  obtain rfl | rfl | rfl : mode = 0 ∨ mode = 1 ∨ mode = 2 := by omega
  · cases ok
    rfl
  · obtain ⟨p, same, ok⟩ := except_bind_ok ok
    simp [subgroupMode, okOr_ok.mp same, validVarint_val ok]
  · obtain ⟨p, same, ok⟩ := except_bind_ok ok
    obtain ⟨next, steps, ok⟩ := except_bind_ok ok
    simp [subgroupMode, okOr_ok.mp same, validVarint_val ok, okOr_ok.mp steps]

theorem readFields_implied {prior : Option PriorFetchObject} {flags : UInt8} {h : FetchObjectHeader}
    {cursor rest : Cursor} (ran : readFields prior flags cursor = .ok (h, rest)) :
    Implied prior h ∧ h.serializationFlags = flags := by
  obtain ⟨groupId, _, group, ran⟩ := bind_success ran
  obtain ⟨subgroupId, _, subgroup, ran⟩ := bind_success ran
  obtain ⟨objectId, _, object, ran⟩ := bind_success ran
  obtain ⟨priority, _, stated, ran⟩ := bind_success ran
  obtain ⟨extensions, _, _, ran⟩ := bind_success ran
  obtain ⟨payload, _, _, ran⟩ := bind_success ran
  obtain ⟨status, _, _, ran⟩ := bind_success ran
  cases ran
  refine ⟨⟨fun absent => inheritedGroup_val (fieldOr_success group absent),
    fun absent => inheritedObject_val (fieldOr_success object absent), fun absent => ?_, ?_⟩, rfl⟩
  · obtain ⟨p, same, rfl⟩ := except_map_ok.mp (fieldOr_success stated absent)
    simp [okOr_ok.mp same]
  · show subgroupMode _ (flags.toNat &&& 0x03) _ = flags.toNat &&& 0x03
    by_cases present : flags.toNat &&& 0x03 = 3
    · simp [present, subgroupMode]
    · have small : flags.toNat &&& 0x03 ≤ 3 := Nat.and_le_right
      exact inheritedSubgroup_mode (by omega) (fieldOr_success subgroup (by simpa using present))

theorem byte_reassembled : ∀ flags < 256, hasBit flags 0xC0 = false →
    assembleFlags (flags &&& 0x03) false (hasBit flags 0x08) (hasBit flags 0x04) (hasBit flags 0x10)
      (hasBit flags 0x20) = flags := by
  decide +kernel

/-- A frame the reader resolved is written back under the header it came in. -/
theorem headerFor_read {prior after : Option PriorFetchObject} {h : FetchObjectHeader}
    {cursor rest : Cursor} (ran : readObjectHeader prior cursor = .ok ((h, after), rest)) :
    headerFor prior h = .ok h ∧ after = advance h := by
  obtain ⟨flags, _, _, ran⟩ := bind_success ran
  obtain ⟨_, _, reserved, ran⟩ := bind_success ran
  obtain ⟨_, _, _, ran⟩ := bind_success ran
  obtain ⟨header, _, fields, ran⟩ := bind_success ran
  cases ran
  have unreserved := refuseIf_ok.mp (lift_success reserved).1
  obtain ⟨⟨group, object, priority, subgroup⟩, rfl⟩ := readFields_implied fields
  refine ⟨?_, rfl⟩
  have groupBit : (h.hasGroupId || prior.map (·.groupId) != some h.groupId.val) = h.hasGroupId := by
    cases given : h.hasGroupId <;> simp [group, given]
  have objectBit : (h.hasObjectId || (prior.bind fun p => checkedAdd p.objectId 1) !=
      some h.objectId.val) = h.hasObjectId := by
    cases given : h.hasObjectId <;> simp [object, given]
  have priorityBit : (h.hasPriority || prior.map (·.publisherPriority) !=
      some h.publisherPriority) = h.hasPriority := by
    cases given : h.hasPriority <;> simp [priority, given]
  have flags : assembleFlags h.subgroupIdEncoding false h.hasGroupId h.hasObjectId h.hasPriority
      h.hasExtensions = h.serializationFlags.toNat :=
    byte_reassembled _ h.serializationFlags.toNat_lt unreserved
  unfold headerFor
  simp only [FetchObjectHeader.flags, unreserved, refuseIf, groupBit, objectBit, priorityBit, subgroup, flags]
  simp

end Moqtap.Draft15Fetch
