import Moqtap.CodecTypes

/-! Draft-22 data streams: the subgroup header and its objects, the fetch header
(`draft22/data_stream.rs`) and the check of an object's properties
(`object_properties.rs`). An object's Object ID field stands first and is the
only field read against the object before it; the rest of its framing is read
without its payload in the same bytes. -/
namespace Moqtap.Draft22.Subgroup
open ByteCursor Varint CodecTypes

/-! ## Stream types -/

def fetchStreamType : Nat := 0x05
def setupStreamType : Nat := 0x2F00
def paddingStreamType : Nat := 0x132B3E28

/-- `(header_type & SUBGROUP_ID_MODE_MASK) >> 1`. -/
def subgroupIdModeOf (headerType : Nat) : Nat := (headerType &&& 0x06) >>> 1

def subgroupTypeIsValid (raw : Nat) : Bool :=
  decide (raw < 0x80) && raw &&& 0x10 != 0 && subgroupIdModeOf raw != 3

/-- Which failure a stream type is that is not the one the reader wants. -/
def streamTypeError (raw : Nat) : CodecError :=
  if raw == fetchStreamType || raw == setupStreamType || raw == paddingStreamType ||
      subgroupTypeIsValid raw then .invalidField
  else if raw > 0xFF then .unknownStreamType raw
  else if raw ≥ 0x80 then
    .invalidStreamTypeValue raw "SUBGROUP_HEADER Type Flags of 128 or greater are invalid"
  else if raw &&& 0x10 == 0 then
    .invalidStreamTypeValue raw "bit 4 must be 1 for SUBGROUP_HEADER"
  else .invalidStreamTypeValue raw "its SUBGROUP_ID_MODE is 0b11, which this draft reserves"

def validateSubgroupType (raw : Nat) : Except CodecError Unit :=
  refuseIf (!subgroupTypeIsValid raw) (streamTypeError raw)

/-! ## Headers -/

structure SubgroupHeader where
  headerType : Nat
  trackAlias : VarInt
  groupId : VarInt
  subgroupId : VarInt
  publisherPriority : Option UInt8
  deriving DecidableEq, Repr

namespace SubgroupHeader

def hasProperties (header : SubgroupHeader) : Bool := header.headerType &&& 0x01 != 0

def subgroupIdMode (header : SubgroupHeader) : Nat := subgroupIdModeOf header.headerType

/-- The Subgroup ID is on the wire in mode 2 alone. -/
def readSubgroupId (headerType : Nat) : Reader CodecError VarInt :=
  if subgroupIdModeOf headerType = 2 then varint .moqt18 else pure (.ofU64 0)

def readPriority (headerType : Nat) : Reader CodecError (Option UInt8) :=
  if headerType &&& 0x20 = 0 then some <$> takeByte .unexpectedEnd else pure none

def decode : Reader CodecError SubgroupHeader := do
  let raw ← varint .moqt18
  lift (validateSubgroupType raw.val)
  let trackAlias ← varint .moqt18
  let groupId ← varint .moqt18
  let subgroupId ← readSubgroupId raw.val
  let publisherPriority ← readPriority raw.val
  return (⟨raw.val, trackAlias, groupId, subgroupId, publisherPriority⟩ : SubgroupHeader)

end SubgroupHeader

structure FetchHeader where
  requestId : VarInt
  deriving DecidableEq, Repr

def FetchHeader.decode : Reader CodecError FetchHeader := do
  let raw ← varint .moqt18
  lift (refuseIf (raw.val != fetchStreamType) (streamTypeError raw.val))
  let requestId ← varint .moqt18
  return (⟨requestId⟩ : FetchHeader)

/-! ## Object properties -/

structure PropertyRules where
  varint : VarIntEncoding
  deltaTypes : Bool
  maxValueLen : Option Nat
  immutableType : Option Nat
  deriving DecidableEq, Repr

/-- `PropertyRules::for_draft`; draft 07 has no properties. -/
def PropertyRules.forDraft (draft : DraftVersion) : Option PropertyRules :=
  match draft with
  | .draft07 => none
  | .draft08 | .draft09 | .draft10 => some ⟨draft.varintEncoding, false, none, none⟩
  | .draft11 | .draft12 | .draft13 => some ⟨draft.varintEncoding, false, some 0xFFFF, none⟩
  | .draft14 | .draft15 => some ⟨draft.varintEncoding, false, some 0xFFFF, some 0x0B⟩
  | .draft16 | .draft17 | .draft18 | .draft19 | .draft20 | .draft21 | .draft22 =>
    some ⟨draft.varintEncoding, true, some 0xFFFF, some 0x0B⟩

inductive PropertyValue where
  | varint (value : Nat)
  | bytes (value : Bytes)
  | immutable (value : Bytes) (properties : List (Nat × PropertyValue))

/-- A property's type and its value. -/
abbrev ObjectProperty := Nat × PropertyValue

/-- One of a block's integers and the bytes behind it. A block that ends inside one is
malformed at the property's own `offset`. -/
def readPropertyVarint (rules : PropertyRules) (cursor : Bytes) (offset : Nat) :
    Except CodecError (Nat × Bytes) :=
  let decoded := match rules.varint with
    | .rfc9000 => VarInt.decode (.of cursor)
    | .moqt profile => VarInt.decodeMoqt profile (.of cursor)
  match decoded with
  | .ok (v, rest) => .ok (v.val, rest.real)
  | .error .unexpectedEnd => .error (.malformedObjectProperties offset
      "a property runs past the end of the property block")
  | .error e => .error (.varInt e)

/-- `{:02X}`. -/
def upperHex (n : Nat) : String :=
  let digits := (Nat.toDigits 16 n).map Char.toUpper
  String.ofList (List.replicate (2 - digits.length) '0' ++ digits)

def overrunDetail (propertyType len left : Nat) : String :=
  "property 0x" ++ upperHex propertyType ++ " claims " ++ toString len ++
    " bytes but the property block has " ++ toString left ++ " left"

/-- The next property's type: a difference from the type before on the drafts that
write it so. -/
def propertyTypeOf (rules : PropertyRules) (prevType raw : Nat) : Except CodecError Nat :=
  if rules.deltaTypes then okOr (checkedAdd prevType raw) (.keyDeltaOverflow prevType raw)
  else .ok raw

/-- An odd-typed property's bytes and the bytes behind them. -/
def propertyBytes (rules : PropertyRules) (propertyType : Nat) (cursor : Bytes) (offset : Nat) :
    Except CodecError (Bytes × Bytes) := do
  let len ← readPropertyVarint rules cursor offset
  refuseIf (rules.maxValueLen.any fun max => decide (len.1 > max)) (.kvp (.valueTooLong len.1))
  refuseIf (decide (len.2.length < len.1)) (.malformedObjectProperties offset
    (overrunDetail propertyType len.1 len.2.length))
  return (len.2.take len.1, len.2.drop len.1)

/-- The loop of `read_run`, `cursor` the part of the run still to be read and `size` the
length of the whole. `immutable` reads the block inside an immutable property, or refuses
it. Every property takes a byte, so the run's length is `fuel` enough. -/
def readRunFrom (rules : PropertyRules)
    (immutable : Nat → Nat → Bytes → Except CodecError PropertyValue) (base size : Nat) :
    Nat → Nat → Bytes → Except CodecError (List ObjectProperty)
  | 0, _, _ => .ok []
  | _ + 1, _, [] => .ok []
  | fuel + 1, prevType, cursor => do
    let offset := base + (size - cursor.length)
    let raw ← readPropertyVarint rules cursor offset
    let propertyType ← propertyTypeOf rules prevType raw.1
    if propertyType % 2 = 0 then
      let value ← readPropertyVarint rules raw.2 offset
      let rest ← readRunFrom rules immutable base size fuel propertyType value.2
      return (propertyType, .varint value.1) :: rest
    else
      let split ← propertyBytes rules propertyType raw.2 offset
      let value ← if rules.immutableType = some propertyType then
          immutable offset (base + (size - (split.1.length + split.2.length))) split.1
        else .ok (.bytes split.1)
      let rest ← readRunFrom rules immutable base size fuel propertyType split.2
      return (propertyType, value) :: rest

/-- `read_run` with `nested` set. -/
def readNested (rules : PropertyRules) (base : Nat) (run : Bytes) :
    Except CodecError (List ObjectProperty) :=
  readRunFrom rules (fun offset _ _ => .error (.malformedObjectProperties offset
    "Immutable Properties inside Immutable Properties")) base run.length run.length 0 run

def readRun (rules : PropertyRules) (run : Bytes) : Except CodecError (List ObjectProperty) :=
  readRunFrom rules (fun _ base bytes => do
    let properties ← readNested rules base bytes
    return .immutable bytes properties) 0 run.length run.length 0 run

def parseObjectProperties (draft : DraftVersion) (block : Bytes) :
    Except CodecError (List ObjectProperty) :=
  match PropertyRules.forDraft draft with
  | some rules => readRun rules block
  | none =>
    if block.isEmpty then .ok []
    else .error (.malformedObjectProperties 0 (draft.name ++ " objects carry no properties"))

/-! ## Objects -/

inductive ObjectStatus where
  | normal
  | endOfGroup
  | endOfTrack
  deriving DecidableEq, Repr

namespace ObjectStatus

def fromU64 : Nat → Option ObjectStatus
  | 0x0 => some .normal
  | 0x3 => some .endOfGroup
  | 0x4 => some .endOfTrack
  | _ => none

def asU64 : ObjectStatus → Nat
  | .normal => 0x0
  | .endOfGroup => 0x3
  | .endOfTrack => 0x4

end ObjectStatus

def decodedStatus (code : Nat) : Except CodecError ObjectStatus :=
  okOr (ObjectStatus.fromU64 code) .invalidField

structure SubgroupObject where
  objectId : VarInt
  extensionHeaders : Bytes
  payloadLength : VarInt
  objectStatus : Option ObjectStatus
  payload : Bytes
  deriving DecidableEq, Repr

/-- The framing of one object, without its payload. -/
structure SubgroupObjectMeta where
  objectId : Nat
  extensionHeadersLen : Nat
  payloadLength : Nat
  status : Option Nat
  wireLen : Nat
  deriving DecidableEq, Repr

structure SubgroupObjectReader where
  extensionsPresent : Bool
  prevObjectId : Option Nat
  deriving DecidableEq, Repr

def SubgroupObjectReader.new (header : SubgroupHeader) : SubgroupObjectReader :=
  ⟨header.hasProperties, none⟩

def addDelta (prevObjectId : Option Nat) (delta : Nat) : Except CodecError Nat :=
  match prevObjectId with
  | none => .ok delta
  | some prev =>
    okOr ((checkedAdd prev 1).bind fun v => checkedAdd v delta) (.objectIdOverflow prev delta)

/-- The Object ID a delta names behind the object before. -/
def resolveObjectId (prevObjectId : Option Nat) (delta : Nat) : Except CodecError VarInt := do
  let id ← addDelta prevObjectId delta
  validVarint id

def readObjectId (prevObjectId : Option Nat) : Reader CodecError VarInt := do
  let delta ← varint .moqt18
  lift (resolveObjectId prevObjectId delta.val)

def readExtensions (present : Bool) : Reader CodecError Bytes :=
  if present then lengthPrefixed .moqt18 noCheck else pure []

/-- The length of the properties block, its bytes stepped over. -/
def skipExtensions (present : Bool) : Reader CodecError Nat :=
  if present then framed .unexpectedEnd (VarInt.val <$> varint .moqt18) id else pure 0

/-- A status stands where the payload of an empty object would. -/
def readStatus (payloadLength : Nat) : Reader CodecError (Option ObjectStatus) :=
  if payloadLength = 0 then some <$> (varint .moqt18 >>= fun code => lift (decodedStatus code.val))
  else pure none

/-- What `read_object` reads behind the Object ID. -/
def readContents (present : Bool) (objectId : VarInt) : Reader CodecError SubgroupObject := do
  let extensionHeaders ← readExtensions present
  let payloadLength ← varint .moqt18
  let objectStatus ← readStatus payloadLength.val
  let payload ← readBytes payloadLength.val
  let _ ← lift (parseObjectProperties .draft22 extensionHeaders)
  return (⟨objectId, extensionHeaders, payloadLength, objectStatus, payload⟩ : SubgroupObject)

/-- What `read_object_meta` reads behind the Object ID and ahead of the payload. -/
structure FramingTail where
  extensionHeadersLen : Nat
  payloadLength : Nat
  status : Option ObjectStatus
  deriving DecidableEq, Repr

def readFramingTail (present : Bool) : Reader CodecError FramingTail := do
  let extensionHeadersLen ← skipExtensions present
  let payloadLength ← varint .moqt18
  let status ← readStatus payloadLength.val
  return (⟨extensionHeadersLen, payloadLength.val, status⟩ : FramingTail)

def readFraming (reader : SubgroupObjectReader) : Reader CodecError (VarInt × FramingTail) := do
  let objectId ← readObjectId reader.prevObjectId
  let tail ← readFramingTail reader.extensionsPresent
  return (objectId, tail)

namespace SubgroupObjectReader

/-- The reader behind an object of this ID. -/
def past (reader : SubgroupObjectReader) (objectId : VarInt) : SubgroupObjectReader :=
  ⟨reader.extensionsPresent, some objectId.val⟩

def readObject (reader : SubgroupObjectReader) :
    Reader CodecError (SubgroupObject × SubgroupObjectReader) := do
  let objectId ← readObjectId reader.prevObjectId
  let object ← readContents reader.extensionsPresent objectId
  return (object, reader.past objectId)

/-- An object with a status has no payload to step over. -/
def readObjectMeta (reader : SubgroupObjectReader) :
    Reader CodecError (SubgroupObjectMeta × SubgroupObjectReader) := do
  let read ← measured (framed .unexpectedEnd (readFraming reader) fun read => read.2.payloadLength)
  return (⟨read.1.1.val, read.1.2.extensionHeadersLen, read.1.2.payloadLength,
    read.1.2.status.map ObjectStatus.asU64, read.2⟩, reader.past read.1.1)

end SubgroupObjectReader

/-! ## Resolving Object IDs -/

theorem addDelta_ok {prev : Option Nat} {delta id : Nat} :
    addDelta prev delta = .ok id ↔
      id = (prev.map (· + 1)).getD 0 + delta ∧ (prev.isSome → id < 2 ^ 64) := by
  cases prev with
  | none => simp [addDelta, eq_comm]
  | some prev =>
    simp only [addDelta, okOr_ok, Option.bind_eq_some_iff, checkedAdd_some, Option.map_some,
      Option.getD_some, Option.isSome_some, true_implies]
    constructor
    · rintro ⟨v, ⟨rfl, -⟩, rfl, bound⟩
      exact ⟨rfl, bound⟩
    · rintro ⟨rfl, bound⟩
      exact ⟨prev + 1, ⟨rfl, by omega⟩, rfl, bound⟩

/-- The ID behind `prev` at distance `delta`, inside the RFC 9000 range. -/
theorem resolveObjectId_ok {prev : Option Nat} {delta : Nat} {id : VarInt} :
    resolveObjectId prev delta = .ok id ↔
      id.val = (prev.map (· + 1)).getD 0 + delta ∧ id.val ≤ maxVarint := by
  unfold resolveObjectId
  rw [except_bind_iff]
  constructor
  · rintro ⟨v, added, valid⟩
    rw [addDelta_ok] at added
    have value := validVarint_val valid
    unfold validVarint at valid
    cases made : VarInt.fromU64 v with
    | error e => simp [made, Except.mapError] at valid
    | ok w => exact ⟨by rw [value]; exact added.1, by rw [value]; exact (VarInt.fromU64_success made).2⟩
  · rintro ⟨value, small⟩
    refine ⟨id.val, addDelta_ok.mpr ⟨value, fun _ => id.isLt⟩, ?_⟩
    rw [validVarint, VarInt.fromU64_ok small, VarInt.ofU64_val]
    rfl

theorem resolveObjectId_gt {prev delta : Nat} {id : VarInt}
    (resolved : resolveObjectId (some prev) delta = .ok id) : prev < id.val := by
  have value := (resolveObjectId_ok.mp resolved).1
  simp only [Option.map_some, Option.getD_some] at value
  omega

/-! ## Headers are spelled by their bytes -/

theorem exact_readSubgroupId (headerType : Nat) :
    Exact CodecError.Incomplete (SubgroupHeader.readSubgroupId headerType) := by
  unfold SubgroupHeader.readSubgroupId
  split
  · exact exact_varint
  · exact Exact.pure _

theorem exact_readPriority (headerType : Nat) :
    Exact CodecError.Incomplete (SubgroupHeader.readPriority headerType) := by
  unfold SubgroupHeader.readPriority
  split
  · exact (exact_takeByte incomplete_unexpectedEnd).map some
  · exact Exact.pure _

theorem exact_decodeHeader : Exact CodecError.Incomplete SubgroupHeader.decode :=
  exact_varint.bind fun _ => (exact_lift _).bind fun _ => exact_varint.bind fun _ =>
    exact_varint.bind fun _ => (exact_readSubgroupId _).bind fun _ =>
      (exact_readPriority _).bind fun _ => Exact.pure _

/-! ## An object's bytes, cut where its framing ends -/

theorem exact_readStatus (payloadLength : Nat) :
    Exact CodecError.Incomplete (readStatus payloadLength) := by
  unfold readStatus
  split
  · exact (exact_varint.bind fun _ => exact_lift _).map some
  · exact Exact.pure none

/-- The properties block, read and stepped over alike. -/
theorem parses_readExtensions (present : Bool) :
    Parses (readExtensions present) fun block used =>
      Reads (readExtensions present) used block ∧
        Spells CodecError.Incomplete (skipExtensions present) used block.length := by
  cases present with
  | false =>
    refine (Parses.pure ([] : Bytes)).imp ?_
    rintro block used ⟨rfl, rfl⟩
    exact ⟨Reads.pure [], Spells.pure 0⟩
  | true =>
    refine exact_varint.seq fun len front spelled => Parses.check fun _ allowed => ?_
    refine (parses_takeBytes _ len.val).imp ?_
    rintro block back ⟨rfl, length⟩
    refine ⟨spelled.reads.bind (Reads.check allowed ?_), ?_⟩
    · rw [← length]
      exact reads_takeBytes _ block
    · rw [length]
      exact (spelled.map VarInt.val).framed incomplete_unexpectedEnd length.symm

theorem parses_readContents (present : Bool) (objectId : VarInt) :
    Parses (readContents present objectId) fun object used =>
      object.objectId = objectId ∧ Reads (readContents present objectId) used object ∧
        ∃ tail, used = tail ++ object.payload ∧ object.payload.length = object.payloadLength.val ∧
          Spells CodecError.Incomplete (readFramingTail present) tail
            ⟨object.extensionHeaders.length, object.payloadLength.val, object.objectStatus⟩ := by
  refine (parses_readExtensions present).seq fun block front ⟨blockReads, blockSpells⟩ => ?_
  refine exact_varint.seq fun len field lenSpells => ?_
  refine (exact_readStatus len.val).seq fun status code statusSpells => ?_
  refine (parses_takeBytes _ len.val).seq ?_
  rintro payload back ⟨rfl, length⟩
  refine Parses.check fun properties parsed => Parses.ret ⟨rfl, ?_, front ++ (field ++ code), ?_, length, ?_⟩
  · rw [List.append_nil]
    refine blockReads.bind (lenSpells.reads.bind (statusSpells.reads.bind ?_))
    rw [← length]
    refine (reads_takeBytes _ payload).last ?_
    exact Reads.check parsed (Reads.pure _)
  · simp only [List.append_assoc, List.append_nil]
  · exact blockSpells.bind (lenSpells.bind (statusSpells.wrap _))

/-- One object's bytes behind a given object: its Object ID field, the rest of its
framing and its payload. The Object ID field may be exchanged for any other that names
the same Object ID where the reader then stands. -/
structure Wire (present : Bool) (prevObjectId : Option Nat) (object : SubgroupObject)
    (idField tail : Bytes) : Prop where
  resolves : ∃ delta, Spells CodecError.Incomplete (varint .moqt18) idField delta ∧
    resolveObjectId prevObjectId delta.val = .ok object.objectId
  frames : Spells CodecError.Incomplete (readFramingTail present) tail
    ⟨object.extensionHeaders.length, object.payloadLength.val, object.objectStatus⟩
  contents : Reads (readContents present object.objectId) (tail ++ object.payload) object
  length : object.payload.length = object.payloadLength.val

namespace SubgroupObjectReader

theorem parses_readObject (reader : SubgroupObjectReader) :
    Parses reader.readObject fun read used => read.2 = reader.past read.1.objectId ∧
      ∃ idField tail, used = idField ++ (tail ++ read.1.payload) ∧
        Wire reader.extensionsPresent reader.prevObjectId read.1 idField tail := by
  refine Parses.seq (P := fun id front => ∃ delta,
    Spells CodecError.Incomplete (varint .moqt18) front delta ∧
      resolveObjectId reader.prevObjectId delta.val = .ok id) ?_ ?_
  · refine exact_varint.seq fun delta front spelled => (parses_lift _).imp ?_
    rintro id used ⟨resolved, rfl⟩
    exact ⟨delta, by rwa [List.append_nil], resolved⟩
  · intro id front resolves
    refine (parses_readContents reader.extensionsPresent id).seq ?_
    rintro object back ⟨rfl, contents, tail, rfl, length, frames⟩
    refine Parses.ret ⟨rfl, front, tail, by rw [List.append_nil], resolves, frames, contents, length⟩

end SubgroupObjectReader

section Wire
variable {present : Bool} {prev : Option Nat} {object : SubgroupObject} {idField tail : Bytes}

/-- The object reads the same behind any object and any Object ID field that agree on
its Object ID. -/
theorem Wire.readObject (wire : Wire present prev object idField tail) {before : Option Nat}
    {field : Bytes} {delta : VarInt} (read : Reads (varint .moqt18) field delta)
    (resolved : resolveObjectId before delta.val = .ok object.objectId) :
    Reads (SubgroupObjectReader.readObject ⟨present, before⟩) (field ++ (tail ++ object.payload))
      (object, ⟨present, some object.objectId.val⟩) :=
  (read.last (reads_lift resolved)).bind (wire.contents.wrap _)

theorem Wire.framing (wire : Wire present prev object idField tail) :
    Spells CodecError.Incomplete (readFraming ⟨present, prev⟩) (idField ++ tail)
      (object.objectId, ⟨object.extensionHeaders.length, object.payloadLength.val, object.objectStatus⟩) := by
  obtain ⟨delta, spelled, resolved⟩ := wire.resolves
  exact (spelled.last (reads_lift resolved)).bind (wire.frames.wrap _)

/-- The framing `read_object_meta` answers. -/
def metaOf (object : SubgroupObject) (wireLen : Nat) : SubgroupObjectMeta :=
  ⟨object.objectId.val, object.extensionHeaders.length, object.payloadLength.val,
    object.objectStatus.map ObjectStatus.asU64, wireLen⟩

theorem Wire.readObjectMeta (wire : Wire present prev object idField tail) :
    Spells CodecError.Incomplete (SubgroupObjectReader.readObjectMeta ⟨present, prev⟩)
      (idField ++ tail ++ object.payload)
      (metaOf object (idField ++ tail ++ object.payload).length,
        ⟨present, some object.objectId.val⟩) :=
  ((wire.framing.framed incomplete_unexpectedEnd wire.length.symm).measured).wrap _

end Wire

theorem honest_readFraming (reader : SubgroupObjectReader) : Honest (readFraming reader) := by
  have status (n : Nat) : Honest (readStatus n) := by
    unfold readStatus
    split
    · exact (honest_varint.bind fun _ => honest_lift _).map some
    · exact Honest.pure none
  have extensions (present : Bool) : Honest (skipExtensions present) := by
    cases present with
    | false => exact Honest.pure 0
    | true =>
      exact (honest_varint.map VarInt.val).bind fun _ => (honest_skipBytes _ _).bind fun _ => Honest.pure _
  refine (honest_varint.bind fun _ => honest_lift _).bind fun _ => Honest.bind ?_ fun _ => Honest.pure _
  exact (extensions _).bind fun _ => honest_varint.bind fun _ => (status _).bind fun _ => Honest.pure _

end Moqtap.Draft22.Subgroup
