import Moqtap.CodecTypes

/-! Fetch streams of drafts 17 to 22 (`draftNN/data_stream.rs`). A frame's
Serialization Flags say which fields it carries, and a field left off is taken
from the frame before it; the six drafts differ in how Group and Object ID are
stated and in which flag values are End of Range markers. The reader resolves
a stream's frames, the writer states resolved frames against other
predecessors, and both hold what the frames so far established. -/
namespace Moqtap.FetchStream
open ByteCursor Varint CodecTypes

inductive FetchEndOfRange where
  | nonExistent
  | unknown
  | timedOut
  deriving DecidableEq, Repr

inductive GroupOrder where
  | ascending
  | descending
  deriving DecidableEq, Repr

/-- How a frame states its Location: outright, or as steps from the frame before. -/
inductive LocationRule where
  | absolute
  | delta (order : GroupOrder)
  deriving DecidableEq, Repr

/-- What differs between the drafts: the integer profile, whether 0x20C is a
marker, and the Location rules of Objects and of markers. -/
structure FetchDraft where
  profile : MoqtProfile
  timedOut : Bool
  objects : LocationRule
  markers : LocationRule
  deriving DecidableEq, Repr

def draft17 : FetchDraft := ⟨.moqt17, false, .absolute, .absolute⟩
def draft18 (order : GroupOrder) : FetchDraft := ⟨.moqt18, false, .delta order, .absolute⟩
def draft19 (order : GroupOrder) : FetchDraft := ⟨.moqt18, false, .delta order, .absolute⟩
def draft20 (order : GroupOrder) : FetchDraft := ⟨.moqt18, true, .delta order, .delta order⟩
def draft21 (order : GroupOrder) : FetchDraft := ⟨.moqt18, true, .delta order, .delta order⟩
def draft22 (order : GroupOrder) : FetchDraft := ⟨.moqt18, true, .delta order, .delta order⟩

/-! ## Headers -/

/-- `VarInt::from_u64(v)?`. -/
def fromU64 (v : Nat) : Except CodecError VarInt := (VarInt.fromU64 v).mapError .varInt

def hasBit (flags bit : Nat) : Bool := flags &&& bit != 0

/-- One frame up to its payload, a field `none` when it is not on the wire. Drafts 17
and 18 hold an absent properties block as an empty one, told apart by the flags. -/
structure FetchObjectHeader where
  serializationFlags : VarInt
  groupIdDelta : Option VarInt
  subgroupId : Option VarInt
  objectIdDelta : Option VarInt
  publisherPriority : Option UInt8
  properties : Option Bytes
  payloadLength : VarInt
  deriving DecidableEq, Repr

namespace FetchObjectHeader

def flags (h : FetchObjectHeader) : Nat := h.serializationFlags.val

def subgroupIdMode (h : FetchObjectHeader) : Nat := h.flags &&& 0x03

def isDatagram (h : FetchObjectHeader) : Bool := hasBit h.flags 0x40

end FetchObjectHeader

structure FetchObjectLayout where
  groupIdDelta : Bool
  subgroupId : Bool
  objectIdDelta : Bool
  publisherPriority : Bool
  properties : Bool
  deriving DecidableEq, Repr

def endOfRange (draft : FetchDraft) (flags : Nat) : Option FetchEndOfRange :=
  match flags with
  | 0x8C => some .nonExistent
  | 0x10C => some .unknown
  | 0x20C => if draft.timedOut then some .timedOut else none
  | _ => none

def isMarker (draft : FetchDraft) (h : FetchObjectHeader) : Bool :=
  (endOfRange draft h.flags).isSome

def objectLayout (flags : Nat) : FetchObjectLayout where
  groupIdDelta := hasBit flags 0x08
  subgroupId := !hasBit flags 0x40 && flags &&& 0x03 == 0x03
  objectIdDelta := hasBit flags 0x04
  publisherPriority := hasBit flags 0x10
  properties := hasBit flags 0x20

def layout (draft : FetchDraft) (flags : Nat) : Except CodecError FetchObjectLayout :=
  if (endOfRange draft flags).isSome then .ok ⟨true, false, true, false, false⟩
  else if flags > 0x7F then .error .invalidField
  else .ok (objectLayout flags)

/-- A field that is on the wire only when `present`. -/
def optionally {α : Type} (present : Bool) (reader : Reader CodecError α) :
    Reader CodecError (Option α) :=
  if present then some <$> reader else pure none

def decodeHeader (draft : FetchDraft) : Reader CodecError FetchObjectHeader := do
  let serializationFlags ← varint draft.profile
  let layout ← lift (layout draft serializationFlags.val)
  let groupIdDelta ← optionally layout.groupIdDelta (varint draft.profile)
  let subgroupId ← optionally layout.subgroupId (varint draft.profile)
  let objectIdDelta ← optionally layout.objectIdDelta (varint draft.profile)
  let publisherPriority ← optionally layout.publisherPriority (takeByte .unexpectedEnd)
  let properties ← optionally layout.properties (lengthPrefixed draft.profile noCheck)
  let payloadLength ← varint draft.profile
  return ({ serializationFlags, groupIdDelta, subgroupId, objectIdDelta, publisherPriority,
            properties, payloadLength } : FetchObjectHeader)

/-- The optional fields are present exactly where the layout puts them. -/
def FetchObjectHeader.fills (h : FetchObjectHeader) (l : FetchObjectLayout) : Bool :=
  l.groupIdDelta == h.groupIdDelta.isSome && l.subgroupId == h.subgroupId.isSome &&
    l.objectIdDelta == h.objectIdDelta.isSome && l.publisherPriority == h.publisherPriority.isSome &&
    l.properties == h.properties.isSome

def putOptional {α : Type} (put : α → Bytes) : Option α → Bytes
  | some a => put a
  | none => []

def headerBytes (draft : FetchDraft) (h : FetchObjectHeader) : Bytes :=
  h.serializationFlags.encodeMoqt draft.profile ++
    (putOptional (VarInt.encodeMoqt draft.profile) h.groupIdDelta ++
      (putOptional (VarInt.encodeMoqt draft.profile) h.subgroupId ++
        (putOptional (VarInt.encodeMoqt draft.profile) h.objectIdDelta ++
          (putOptional (fun byte => [byte]) h.publisherPriority ++
            (putOptional (putLengthPrefixed draft.profile) h.properties ++
              h.payloadLength.encodeMoqt draft.profile)))))

def encodeHeader (draft : FetchDraft) (h : FetchObjectHeader) : Except CodecError Bytes := do
  let layout ← layout draft h.flags
  refuseIf (!h.fills layout) .invalidField
  return headerBytes draft h

/-! ## Reading -/

/-- One frame with its fields resolved. -/
structure FetchObject where
  header : FetchObjectHeader
  groupId : Nat
  subgroupId : Option Nat
  objectId : Nat
  publisherPriority : Option UInt8
  deriving DecidableEq, Repr

/-- What the frames so far established: the fields `FetchObjectReader` and
`FetchObjectWriter` both hold beside the Group Order. -/
structure Prior where
  location : Option (Nat × Nat)
  subgroupId : Option Nat
  publisherPriority : Option UInt8
  deriving DecidableEq, Repr

/-- `FetchObjectReader::new` and `FetchObjectWriter::new`. -/
def Prior.new : Prior := ⟨none, none, none⟩

/-- A Group ID `delta + 1` on from `prior`, in the order the stream runs. -/
def GroupOrder.step (order : GroupOrder) (prior delta : Nat) : Option Nat :=
  match order with
  | .ascending => (checkedAdd prior delta).bind fun v => checkedAdd v 1
  | .descending => (checkedSub prior delta).bind fun v => checkedSub v 1

def resolveGroup (rule : LocationRule) (prior : Option (Nat × Nat)) (group : Option VarInt) :
    Except CodecError Nat :=
  match rule, prior, group with
  | .absolute, _, some v => .ok v.val
  | .absolute, some (priorGroup, _), none => .ok priorGroup
  | .absolute, none, none => .error .invalidField
  -- The first frame's delta is its absolute Group ID.
  | .delta _, none, some delta => .ok delta.val
  | .delta _, none, none => .error .invalidField
  | .delta _, some (priorGroup, _), none => .ok priorGroup
  | .delta order, some (priorGroup, _), some delta => okOr (order.step priorGroup delta.val) .invalidField

def resolveObject (rule : LocationRule) (prior : Option (Nat × Nat)) (group object : Option VarInt) :
    Except CodecError Nat :=
  match rule, prior, group, object with
  | .absolute, _, _, some v => .ok v.val
  | .absolute, some (_, priorObject), _, none => okOr (checkedAdd priorObject 1) .invalidField
  | .absolute, none, _, none => .error .invalidField
  -- A Group ID Delta restarts the Object ID from its own delta.
  | .delta _, _, some _, some delta => .ok delta.val
  | .delta _, some (_, priorObject), none, some delta =>
    okOr (checkedAdd priorObject delta.val) .invalidField
  | .delta _, some (_, priorObject), _, none => okOr (checkedAdd priorObject 1) .invalidField
  | .delta _, none, _, _ => .error .invalidField

def resolveSubgroup (prior : Option Nat) (h : FetchObjectHeader) : Except CodecError (Option Nat) :=
  if h.isDatagram then .ok none
  else match h.subgroupIdMode with
    | 0x00 => .ok (some 0)
    | 0x01 => (okOr prior .invalidField).map some
    | 0x02 => (okOr (prior.bind fun p => checkedAdd p 1) .invalidField).map some
    | _ => (okOr (h.subgroupId.map VarInt.val) .invalidField).map some

def resolvePriority (prior : Option UInt8) (h : FetchObjectHeader) : Except CodecError UInt8 :=
  match h.publisherPriority with
  | some p => .ok p
  | none => okOr prior .invalidField

/-- `read_object_header` once the header is decoded: the frame and what it
leaves behind. A marker disturbs neither Subgroup ID nor Priority. -/
def resolve (draft : FetchDraft) (prior : Prior) (header : FetchObjectHeader) :
    Except CodecError (FetchObject × Prior) :=
  if isMarker draft header then do
    let groupId ← resolveGroup draft.markers prior.location header.groupIdDelta
    let objectId ← resolveObject draft.markers prior.location header.groupIdDelta header.objectIdDelta
    return ({ header, groupId, subgroupId := none, objectId, publisherPriority := prior.publisherPriority },
      { prior with location := some (groupId, objectId) })
  else do
    let groupId ← resolveGroup draft.objects prior.location header.groupIdDelta
    let objectId ← resolveObject draft.objects prior.location header.groupIdDelta header.objectIdDelta
    let subgroupId ← resolveSubgroup prior.subgroupId header
    let priority ← resolvePriority prior.publisherPriority header
    return ({ header, groupId, subgroupId, objectId, publisherPriority := some priority },
      { location := some (groupId, objectId), subgroupId := subgroupId.or prior.subgroupId,
        publisherPriority := some priority })

def readObjectHeader (draft : FetchDraft) (prior : Prior) : Reader CodecError (FetchObject × Prior) := do
  let header ← decodeHeader draft
  lift (resolve draft prior header)

/-! ## Writing -/

/-- The `delta` for which `step` leads from `prior` to `group`. -/
def GroupOrder.distance (order : GroupOrder) (prior group : Nat) : Option Nat :=
  (match order with
    | .ascending => checkedSub group prior
    | .descending => checkedSub prior group).bind fun s => checkedSub s 1

/-- A field stated outright. -/
def stated (v : Nat) : Except CodecError (Option VarInt) := (fromU64 v).map some

/-- A field left off where it may be, else stated outright. -/
def statedUnless (implied : Bool) (v : Nat) : Except CodecError (Option VarInt) :=
  if implied then .ok none else stated v

/-- Draft 17's `identity_fields`: a field left off stays off while it still says the same. -/
def absoluteFields (prior : Option (Nat × Nat)) (frame : FetchObject) :
    Except CodecError (Option VarInt × Option VarInt) := do
  let group ← statedUnless (frame.header.groupIdDelta.isNone &&
    prior.map Prod.fst == some frame.groupId) frame.groupId
  let object ← statedUnless (frame.header.objectIdDelta.isNone &&
    (prior.bind fun p => checkedAdd p.2 1) == some frame.objectId) frame.objectId
  return (group, object)

/-- Later drafts' `identity_fields`: only the Object ID Delta's presence is ever a choice. -/
def deltaFields (order : GroupOrder) (prior : Option (Nat × Nat)) (frame : FetchObject) :
    Except CodecError (Option VarInt × Option VarInt) :=
  match prior with
  | none => do
    let group ← stated frame.groupId
    let object ← stated frame.objectId
    return (group, object)
  | some (priorGroup, priorObject) =>
    if frame.groupId ≠ priorGroup then do
      let delta ← okOr (order.distance priorGroup frame.groupId) .invalidField
      let group ← stated delta
      -- The numbering may run on across a group boundary with no delta.
      if frame.header.objectIdDelta = none ∧ frame.objectId = (priorObject + 1) % 2 ^ 64 ∧
          priorObject ≠ 2 ^ 64 - 1 then
        return (group, none)
      else
        let object ← stated frame.objectId
        return (group, object)
    else do
      let advance ← okOr (checkedSub frame.objectId priorObject) .invalidField
      refuseIf (advance == 0) .invalidField
      if advance = 1 ∧ frame.header.objectIdDelta = none then
        return (none, none)
      else
        let object ← stated advance
        return (none, object)

def identityFields (rule : LocationRule) (prior : Option (Nat × Nat)) (frame : FetchObject) :
    Except CodecError (Option VarInt × Option VarInt) :=
  match rule with
  | .absolute => absoluteFields prior frame
  | .delta order => deltaFields order prior frame

/-- The Subgroup ID mode: the frame's own while it names the right number, else the
cheapest that does. -/
def subgroupMode (prior : Option Nat) (mode subgroupId : Nat) : Nat :=
  let inherits := prior = some subgroupId
  let successor := (prior.bind fun p => checkedAdd p 1) = some subgroupId
  if mode = 0x03 ∨ (mode = 0x00 ∧ subgroupId = 0) ∨ (mode = 0x01 ∧ inherits) ∨
      (mode = 0x02 ∧ successor) then mode
  else if subgroupId = 0 then 0x00
  else if inherits then 0x01
  else if successor then 0x02
  else 0x03

def subgroupField (prior : Option Nat) (frame : FetchObject) :
    Except CodecError (Nat × Option VarInt) :=
  if frame.header.isDatagram then .ok (frame.header.subgroupIdMode, none)
  else do
    let subgroupId ← okOr frame.subgroupId .invalidField
    let mode := subgroupMode prior frame.header.subgroupIdMode subgroupId
    if mode = 0x03 then
      let explicit ← stated subgroupId
      return (mode, explicit)
    else return (mode, none)

def priorityField (prior : Option UInt8) (frame : FetchObject) : Except CodecError (Option UInt8) := do
  let priority ← okOr frame.publisherPriority .invalidField
  if frame.header.publisherPriority.isSome ∨ prior ≠ some priority then return some priority
  else return none

def assembleFlags (mode : Nat) (datagram group object priority properties : Bool) : Nat :=
  mode ||| (if datagram then 0x40 else 0) ||| (if group then 0x08 else 0) |||
    (if object then 0x04 else 0) ||| (if priority then 0x10 else 0) |||
    (if properties then 0x20 else 0)

/-- `header_for`: the header that states `frame` against what has been written. -/
def headerFor (draft : FetchDraft) (prior : Prior) (frame : FetchObject) :
    Except CodecError FetchObjectHeader :=
  let original := frame.header
  if isMarker draft original then do
    let fields ← identityFields draft.markers prior.location frame
    -- A marker's flags fix both fields as present.
    refuseIf (fields.1.isNone || fields.2.isNone) .invalidField
    return { original with
      groupIdDelta := fields.1, subgroupId := none, objectIdDelta := fields.2,
      publisherPriority := none, properties := none }
  else do
    let fields ← identityFields draft.objects prior.location frame
    let subgroup ← subgroupField prior.subgroupId frame
    let publisherPriority ← priorityField prior.publisherPriority frame
    let serializationFlags ← fromU64 (assembleFlags subgroup.1 original.isDatagram fields.1.isSome
      fields.2.isSome publisherPriority.isSome original.properties.isSome)
    return { original with
      serializationFlags, groupIdDelta := fields.1, subgroupId := subgroup.2,
      objectIdDelta := fields.2, publisherPriority }

/-- `FetchObjectWriter::advance`. -/
def advance (draft : FetchDraft) (prior : Prior) (frame : FetchObject) : Prior where
  location := some (frame.groupId, frame.objectId)
  subgroupId := frame.subgroupId.or prior.subgroupId
  publisherPriority :=
    if isMarker draft frame.header then prior.publisherPriority
    else frame.publisherPriority.or prior.publisherPriority

def writeObjectHeader (draft : FetchDraft) (prior : Prior) (frame : FetchObject) :
    Except CodecError (Bytes × Prior) := do
  let header ← headerFor draft prior frame
  let bytes ← encodeHeader draft header
  return (bytes, advance draft prior frame)

/-! ## Headers round trip -/

/-- The layout the flags name puts exactly these fields on the wire. -/
def Laid (draft : FetchDraft) (h : FetchObjectHeader) : Prop :=
  ∃ l, layout draft h.flags = .ok l ∧ h.fills l = true

/-- A properties block is no longer than a length can say. -/
def ShortProperties (h : FetchObjectHeader) : Prop :=
  ∀ block, h.properties = some block → block.length < 2 ^ 64

theorem fills_iff {h : FetchObjectHeader} {l : FetchObjectLayout} :
    h.fills l = true ↔ l.groupIdDelta = h.groupIdDelta.isSome ∧ l.subgroupId = h.subgroupId.isSome ∧
      l.objectIdDelta = h.objectIdDelta.isSome ∧ l.publisherPriority = h.publisherPriority.isSome ∧
      l.properties = h.properties.isSome := by
  simp only [FetchObjectHeader.fills, Bool.and_eq_true, beq_iff_eq, and_assoc]

theorem encodeHeader_laid {draft : FetchDraft} {h : FetchObjectHeader} (laid : Laid draft h) :
    encodeHeader draft h = .ok (headerBytes draft h) := by
  obtain ⟨l, known, fills⟩ := laid
  simp only [encodeHeader, known, fills, bind, Except.bind]
  rfl

theorem reads_optionally {α : Type} {present : Bool} {reader : Reader CodecError α} {put : α → Bytes}
    {value : Option α} (same : present = value.isSome)
    (reads : ∀ a, value = some a → Reads reader (put a) a) :
    Reads (optionally present reader) (putOptional put value) value := by
  subst same
  cases value with
  | none => exact Reads.pure none
  | some a => exact (reads a rfl).map some

theorem parses_optionally {α : Type} {present : Bool} {reader : Reader CodecError α}
    {P : α → Bytes → Prop} (parses : Parses reader P) :
    Parses (optionally present reader) fun value used =>
      present = value.isSome ∧ ∀ a, value = some a → P a used := by
  cases present with
  | false => exact Parses.ret ⟨rfl, by simp⟩
  | true =>
    unfold optionally
    rw [if_pos rfl, map_eq_bind]
    refine parses.seq fun a front holds => Parses.ret ⟨rfl, ?_⟩
    rintro b same
    cases same
    rwa [List.append_nil]

/-- A laid-out header reads back off its bytes. -/
theorem reads_decodeHeader {draft : FetchDraft} {h : FetchObjectHeader} (laid : Laid draft h)
    (short : ShortProperties h) : Reads (decodeHeader draft) (headerBytes draft h) h := by
  obtain ⟨l, known, fills⟩ := laid
  obtain ⟨group, subgroup, object, priority, properties⟩ := fills_iff.mp fills
  refine (reads_varint _).bind (Reads.check known ?_)
  refine (reads_optionally group fun v _ => reads_varint v).bind ?_
  refine (reads_optionally subgroup fun v _ => reads_varint v).bind ?_
  refine (reads_optionally object fun v _ => reads_varint v).bind ?_
  refine (reads_optionally priority fun byte _ => reads_takeByte _ byte).bind ?_
  refine (reads_optionally properties fun block same => reads_lengthPrefixed (short block same) rfl).bind ?_
  exact (reads_varint _).wrap _

theorem parses_decodeHeader (draft : FetchDraft) :
    Parses (decodeHeader draft) fun h _ => Laid draft h ∧ ShortProperties h := by
  refine canonical_varint.seq fun flags _ _ => Parses.check fun l known => ?_
  refine (parses_optionally canonical_varint).seq fun groupIdDelta _ ⟨group, _⟩ => ?_
  refine (parses_optionally canonical_varint).seq fun subgroupId _ ⟨subgroup, _⟩ => ?_
  refine (parses_optionally canonical_varint).seq fun objectIdDelta _ ⟨object, _⟩ => ?_
  refine (parses_optionally (parses_takeByte _)).seq fun publisherPriority _ ⟨priority, _⟩ => ?_
  refine (parses_optionally parses_lengthPrefixed).seq fun properties _ ⟨block, short⟩ => ?_
  refine canonical_varint.seq fun payloadLength _ _ => Parses.ret ⟨⟨l, known, ?_⟩, ?_⟩
  · exact fills_iff.mpr ⟨group, subgroup, object, priority, block⟩
  · exact fun bytes same => (short bytes same).2.1

theorem optionally_success {α : Type} {present : Bool} {reader : Reader CodecError α}
    {cursor rest : Cursor} {field : Option α}
    (ran : optionally present reader cursor = .ok (field, rest)) : present = field.isSome := by
  cases present with
  | false => cases ran; rfl
  | true =>
    unfold optionally at ran
    rw [if_pos rfl, map_eq_bind] at ran
    obtain ⟨a, _, _, ran⟩ := bind_success ran
    cases ran
    rfl

/-- Whatever the header was read off, padding included, it is laid out as its flags say. -/
theorem decodeHeader_laid {draft : FetchDraft} {h : FetchObjectHeader} {cursor rest : Cursor}
    (ran : decodeHeader draft cursor = .ok (h, rest)) : Laid draft h := by
  obtain ⟨flags, _, _, ran⟩ := bind_success ran
  obtain ⟨l, _, known, ran⟩ := bind_success ran
  obtain ⟨groupId, _, group, ran⟩ := bind_success ran
  obtain ⟨subgroupId, _, subgroup, ran⟩ := bind_success ran
  obtain ⟨objectId, _, object, ran⟩ := bind_success ran
  obtain ⟨priority, _, stated, ran⟩ := bind_success ran
  obtain ⟨properties, _, block, ran⟩ := bind_success ran
  obtain ⟨payload, _, _, ran⟩ := bind_success ran
  cases ran
  exact ⟨l, (lift_success known).1, fills_iff.mpr ⟨optionally_success group, optionally_success subgroup,
    optionally_success object, optionally_success stated, optionally_success block⟩⟩

/-! ## Flags -/

theorem assembled_bits : ∀ mode < 4, ∀ datagram group object priority properties,
    assembleFlags mode datagram group object priority properties ≤ 0x7F ∧
    assembleFlags mode datagram group object priority properties &&& 0x03 = mode ∧
    hasBit (assembleFlags mode datagram group object priority properties) 0x40 = datagram ∧
    objectLayout (assembleFlags mode datagram group object priority properties) =
      ⟨group, !datagram && mode == 3, object, priority, properties⟩ := by
  decide

theorem reassembled : ∀ flags < 128, assembleFlags (flags &&& 0x03) (hasBit flags 0x40)
    (hasBit flags 0x08) (hasBit flags 0x04) (hasBit flags 0x10) (hasBit flags 0x20) = flags := by
  decide +kernel

theorem endOfRange_flags (draft : FetchDraft) {flags : Nat} (small : flags ≤ 0x7F) :
    endOfRange draft flags = none := by
  unfold endOfRange
  split <;> first | omega | rfl

theorem layout_flags (draft : FetchDraft) {flags : Nat} (small : flags ≤ 0x7F) :
    layout draft flags = .ok (objectLayout flags) := by
  simp [layout, endOfRange_flags draft small, Nat.not_lt.mpr small]

/-- A laid-out header is a marker of both deltas, or flags that say which fields it has. -/
theorem laid_cases {draft : FetchDraft} {h : FetchObjectHeader} (laid : Laid draft h) :
    (isMarker draft h = true ∧ h.groupIdDelta.isSome = true ∧ h.objectIdDelta.isSome = true ∧
      h.subgroupId = none ∧ h.publisherPriority = none ∧ h.properties = none) ∨
    (isMarker draft h = false ∧ h.flags ≤ 0x7F ∧ h.fills (objectLayout h.flags) = true) := by
  obtain ⟨l, known, fills⟩ := laid
  unfold layout at known
  by_cases marker : isMarker draft h = true
  · rw [if_pos (show (endOfRange draft h.flags).isSome = true from marker)] at known
    cases known
    obtain ⟨group, subgroup, object, priority, properties⟩ := fills_iff.mp fills
    exact .inl ⟨marker, group.symm, object.symm, by simpa using subgroup.symm,
      by simpa using priority.symm, by simpa using properties.symm⟩
  · rw [if_neg (show ¬(endOfRange draft h.flags).isSome = true from marker)] at known
    split at known
    · cases known
    · rename_i small
      cases known
      exact .inr ⟨by simpa using marker, by omega, fills⟩

/-! ## Frames off the reader -/

/-- Whatever was established came off a frame, so it is 64 bits wide. -/
def Prior.Bounded (prior : Prior) : Prop :=
  ∀ l, prior.location = some l → l.1 < 2 ^ 64 ∧ l.2 < 2 ^ 64

theorem Prior.new_bounded : Prior.new.Bounded := by
  intro l none
  cases none

/-- What the reader guarantees of a frame it resolved. -/
structure Sound (draft : FetchDraft) (frame : FetchObject) : Prop where
  laid : Laid draft frame.header
  short : ShortProperties frame.header
  group : frame.groupId < 2 ^ 64
  object : frame.objectId < 2 ^ 64
  marker : isMarker draft frame.header = true → frame.subgroupId = none
  priority : isMarker draft frame.header = false → frame.publisherPriority.isSome = true
  datagram : isMarker draft frame.header = false → frame.subgroupId.isSome = !frame.header.isDatagram

theorem step_some {order : GroupOrder} {prior delta group : Nat} :
    order.step prior delta = some group ↔ match order with
      | .ascending => group = prior + delta + 1 ∧ group < 2 ^ 64
      | .descending => prior = group + delta + 1 := by
  cases order <;>
    simp only [GroupOrder.step, Option.bind_eq_some_iff, checkedAdd_some, checkedSub_some] <;>
    constructor
  · rintro ⟨middle, _, _⟩; omega
  · rintro ⟨_, _⟩; exact ⟨prior + delta, by omega⟩
  · rintro ⟨middle, _, _⟩; omega
  · intro; exact ⟨group + 1, by omega⟩

theorem distance_some {order : GroupOrder} {prior delta group : Nat} :
    order.distance prior group = some delta ↔ match order with
      | .ascending => group = prior + delta + 1
      | .descending => prior = group + delta + 1 := by
  cases order <;>
    simp only [GroupOrder.distance, Option.bind_eq_some_iff, checkedSub_some] <;>
    constructor
  · rintro ⟨middle, _, _⟩; omega
  · intro; exact ⟨delta + 1, by omega⟩
  · rintro ⟨middle, _, _⟩; omega
  · intro; exact ⟨delta + 1, by omega⟩

theorem resolveGroup_bound {rule : LocationRule} {prior : Option (Nat × Nat)} {group : Option VarInt}
    {groupId : Nat} (bounded : ∀ l, prior = some l → l.1 < 2 ^ 64 ∧ l.2 < 2 ^ 64)
    (resolved : resolveGroup rule prior group = .ok groupId) : groupId < 2 ^ 64 := by
  unfold resolveGroup at resolved
  split at resolved
  case h_1 v => cases resolved; exact v.isLt
  case h_2 => cases resolved; exact (bounded _ rfl).1
  case h_3 => cases resolved
  case h_4 v => cases resolved; exact v.isLt
  case h_5 => cases resolved
  case h_6 => cases resolved; exact (bounded _ rfl).1
  case h_7 order priorGroup _ v =>
    rw [okOr_ok, step_some] at resolved
    cases order
    · exact resolved.2
    · have := (bounded _ rfl).1
      dsimp only at resolved this
      omega

theorem resolveObject_bound {rule : LocationRule} {prior : Option (Nat × Nat)}
    {group object : Option VarInt} {objectId : Nat}
    (resolved : resolveObject rule prior group object = .ok objectId) : objectId < 2 ^ 64 := by
  unfold resolveObject at resolved
  split at resolved
  case h_1 v => cases resolved; exact v.isLt
  case h_2 => exact (checkedAdd_some.mp (okOr_ok.mp resolved)).2
  case h_3 => cases resolved
  case h_4 v => cases resolved; exact v.isLt
  case h_5 => exact (checkedAdd_some.mp (okOr_ok.mp resolved)).2
  case h_6 => exact (checkedAdd_some.mp (okOr_ok.mp resolved)).2
  case h_7 => cases resolved

theorem except_map_ok {ε α β : Type} {f : α → β} {result : Except ε α} {b : β} :
    result.map f = .ok b ↔ ∃ a, result = .ok a ∧ f a = b := by
  cases result <;> simp [Except.map]

theorem resolveSubgroup_isSome {prior : Option Nat} {h : FetchObjectHeader} {subgroup : Option Nat}
    (resolved : resolveSubgroup prior h = .ok subgroup) : subgroup.isSome = !h.isDatagram := by
  unfold resolveSubgroup at resolved
  split at resolved
  · rename_i datagram
    cases resolved
    simp [datagram]
  · rename_i stream
    have some : subgroup.isSome = true := by
      split at resolved
      · cases resolved; rfl
      all_goals
        obtain ⟨_, _, rfl⟩ := except_map_ok.mp resolved
        rfl
    simp [some, stream]

/-- The Location rule a header falls under. -/
def FetchDraft.rule (draft : FetchDraft) (h : FetchObjectHeader) : LocationRule :=
  if isMarker draft h then draft.markers else draft.objects

/-- What resolving a header can do. -/
theorem resolve_cases {draft : FetchDraft} {prior after : Prior} {h : FetchObjectHeader}
    {frame : FetchObject} (resolved : resolve draft prior h = .ok (frame, after)) :
    frame.header = h ∧ after = advance draft prior frame ∧
      resolveGroup (draft.rule h) prior.location h.groupIdDelta = .ok frame.groupId ∧
      resolveObject (draft.rule h) prior.location h.groupIdDelta h.objectIdDelta = .ok frame.objectId ∧
      ((isMarker draft h = true ∧ frame.subgroupId = none) ∨
        (isMarker draft h = false ∧ resolveSubgroup prior.subgroupId h = .ok frame.subgroupId ∧
          ∃ priority, frame.publisherPriority = some priority ∧
            resolvePriority prior.publisherPriority h = .ok priority)) := by
  unfold resolve at resolved
  unfold FetchDraft.rule
  split at resolved
  · rename_i marker
    obtain ⟨groupId, group, resolved⟩ := except_bind_ok resolved
    obtain ⟨objectId, object, resolved⟩ := except_bind_ok resolved
    cases resolved
    rw [if_pos marker]
    exact ⟨rfl, by simp [advance, marker], group, object, .inl ⟨marker, rfl⟩⟩
  · rename_i ordinary
    obtain ⟨groupId, group, resolved⟩ := except_bind_ok resolved
    obtain ⟨objectId, object, resolved⟩ := except_bind_ok resolved
    obtain ⟨subgroupId, subgroup, resolved⟩ := except_bind_ok resolved
    obtain ⟨priority, stated, resolved⟩ := except_bind_ok resolved
    cases resolved
    rw [if_neg ordinary]
    exact ⟨rfl, by simp [advance, ordinary], group, object,
      .inr ⟨by simpa using ordinary, subgroup, priority, rfl, stated⟩⟩

/-- The reader's step: a sound frame under the same header, and bounded numbers. -/
theorem resolve_sound {draft : FetchDraft} {prior after : Prior} {h : FetchObjectHeader}
    {frame : FetchObject} (laid : Laid draft h) (short : ShortProperties h) (bounded : prior.Bounded)
    (resolved : resolve draft prior h = .ok (frame, after)) :
    Sound draft frame ∧ after.Bounded := by
  obtain ⟨rfl, rfl, group, object, kind⟩ := resolve_cases resolved
  have groupBound := resolveGroup_bound bounded group
  have objectBound := resolveObject_bound object
  constructor
  · obtain ⟨marker, none⟩ | ⟨ordinary, subgroup, priority, stated, -⟩ := kind
    · exact ⟨laid, short, groupBound, objectBound, fun _ => none, by simp [marker], by simp [marker]⟩
    · exact ⟨laid, short, groupBound, objectBound, by simp [ordinary], by simp [stated],
        fun _ => resolveSubgroup_isSome subgroup⟩
  · rintro l same
    cases same
    exact ⟨groupBound, objectBound⟩

end Moqtap.FetchStream
