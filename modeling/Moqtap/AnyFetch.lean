import Moqtap.Draft15Fetch
import Moqtap.Draft16Fetch

/-! Fetch frames of every draft behind one reader and one writer
(`data_dispatch.rs`). The reader of a draft and its writer hold the same things
about the frames before, so one state type serves both, and a writer standing
where the reader stood when it read a frame leaves the frame's bytes alone. -/
namespace Moqtap.AnyFetch
open ByteCursor Varint CodecTypes FetchStream FetchRestating

/-- The framing of one fetch frame, without its payload. -/
structure AnyFetchObjectMeta where
  groupId : Nat
  subgroupId : Nat
  hasSubgroupId : Bool
  objectId : Nat
  publisherPriority : UInt8
  payloadLength : Nat
  status : Option Nat
  endOfRange : Option FetchEndOfRange
  extensionHeadersLen : Nat
  wireLen : Nat
  deriving DecidableEq, Repr

/-- What a frame that states no priority is read under. -/
def defaultPublisherPriority : UInt8 := 128

/-- The shape a frame arrived in. -/
inductive FetchFrameShape where
  | absolute
  | draft15 (header : Draft15Fetch.FetchObjectHeader)
  | draft16 (header : Draft16Fetch.FetchObjectHeader) (location : Draft16Fetch.FetchObjectLocation)
  | since17 (object : FetchObject)
  deriving DecidableEq, Repr

structure AnyFetchFrame where
  framing : AnyFetchObjectMeta
  draft : DraftVersion
  shape : FetchFrameShape
  deriving DecidableEq, Repr

/-- `FetchReaderState` and `FetchWriterState`. -/
inductive FetchState where
  | absolute (draft : DraftVersion)
  | draft15 (prior : Option Draft15Fetch.PriorFetchObject)
  | draft16 (prior : Draft16Fetch.Prior)
  | since17 (draft : DraftVersion) (rules : FetchDraft) (prior : Prior)
  deriving DecidableEq, Repr

namespace FetchState

def draft : FetchState → DraftVersion
  | absolute draft => draft
  | draft15 _ => .draft15
  | draft16 _ => .draft16
  | since17 draft _ _ => draft

/-- `AnyFetchObjectReader::new` and `AnyFetchObjectWriter::new`. Drafts up to 17
need no Group Order. -/
def new (version : DraftVersion) (order : GroupOrder) : FetchState :=
  match version with
  | .draft07 | .draft08 | .draft09 | .draft10 | .draft11 | .draft12 | .draft13 | .draft14 =>
    absolute version
  | .draft15 => draft15 none
  | .draft16 => draft16 .new
  | .draft17 => since17 .draft17 FetchStream.draft17 .new
  | .draft18 => since17 .draft18 (FetchStream.draft18 order) .new
  | .draft19 => since17 .draft19 (FetchStream.draft19 order) .new
  | .draft20 => since17 .draft20 (FetchStream.draft20 order) .new
  | .draft21 => since17 .draft21 (FetchStream.draft21 order) .new
  | .draft22 => since17 .draft22 (FetchStream.draft22 order) .new

end FetchState

/-! ## Reading -/

def frame15 (header : Draft15Fetch.FetchObjectHeader) (wireLen : Nat) : AnyFetchFrame where
  framing :=
    { groupId := header.groupId.val, subgroupId := header.subgroupId.val, hasSubgroupId := true
      objectId := header.objectId.val, publisherPriority := header.publisherPriority
      payloadLength := header.payloadLength.val
      status := header.objectStatus.map Draft15Fetch.ObjectStatus.asU64, endOfRange := none
      extensionHeadersLen := header.extensionHeaders.length, wireLen }
  draft := .draft15
  shape := .draft15 header

/-- A draft-16 marker resolves to a Subgroup ID of zero and is reported as having none. -/
def frame16 (header : Draft16Fetch.FetchObjectHeader) (location : Draft16Fetch.FetchObjectLocation)
    (wireLen : Nat) : AnyFetchFrame where
  framing :=
    let subgroupId := location.subgroupId.filter fun _ => location.endOfRange.isNone
    { groupId := location.groupId, subgroupId := subgroupId.getD 0, hasSubgroupId := subgroupId.isSome
      objectId := location.objectId
      publisherPriority := location.publisherPriority.getD defaultPublisherPriority
      payloadLength := header.payloadLength.val, status := none, endOfRange := location.endOfRange
      extensionHeadersLen := (header.extensions.map List.length).getD 0, wireLen }
  draft := .draft16
  shape := .draft16 header location

def frame17 (draft : DraftVersion) (rules : FetchDraft) (object : FetchObject) (wireLen : Nat) :
    AnyFetchFrame where
  framing :=
    { groupId := object.groupId, subgroupId := object.subgroupId.getD 0
      hasSubgroupId := object.subgroupId.isSome, objectId := object.objectId
      publisherPriority := object.publisherPriority.getD defaultPublisherPriority
      payloadLength := object.header.payloadLength.val, status := none
      endOfRange := endOfRange rules object.header.flags
      extensionHeadersLen := (object.header.properties.map List.length).getD 0, wireLen }
  draft
  shape := .since17 object

def readHeader16 (prior : Draft16Fetch.Prior) : Reader CodecError
    (Draft16Fetch.FetchObjectHeader × Draft16Fetch.FetchObjectLocation × Draft16Fetch.Prior) := do
  let header ← Draft16Fetch.FetchObjectHeader.decode
  let resolved ← lift (Draft16Fetch.resolve prior header)
  return (header, resolved)

/-- `AnyFetchObjectReader::read_object_frame`. Up to draft-14 a frame is read with
nothing behind it, by `absoluteMeta`. -/
def readObjectFrame (absoluteMeta : DraftVersion → Reader CodecError AnyFetchObjectMeta) :
    FetchState → Reader CodecError (AnyFetchFrame × FetchState)
  | .absolute draft => do
    let framing ← absoluteMeta draft
    return (⟨framing, draft, .absolute⟩, .absolute draft)
  | .draft15 prior => do
    let read ← measured (framed .unexpectedEnd (Draft15Fetch.readObjectHeader prior) fun read => read.1.payloadLength.val)
    return (frame15 read.1.1 read.2, .draft15 read.1.2)
  | .draft16 prior => do
    let read ← measured (framed .unexpectedEnd (readHeader16 prior) fun read => read.1.payloadLength.val)
    return (frame16 read.1.1 read.1.2.1 read.2, .draft16 read.1.2.2)
  | .since17 draft rules prior => do
    let read ← measured (framed .unexpectedEnd (readObjectHeader rules prior) fun read => read.1.header.payloadLength.val)
    return (frame17 draft rules read.1.1 read.2, .since17 draft rules read.1.2)

/-! ## Re-emitting -/

inductive FetchReemit where
  | unchanged
  | reframed (framingBytesBefore framingBytesAfter : Nat)
  deriving DecidableEq, Repr

/-- `meta.wire_len.saturating_sub(meta.payload_length)`. -/
def AnyFetchFrame.framingLen (frame : AnyFetchFrame) : Nat :=
  frame.framing.wireLen - frame.framing.payloadLength

/-- The answer to a frame whose header is now `reframed`: its own bytes while that is
the `original`, else the new framing and every byte behind the old one. -/
def putReframed {H : Type} [DecidableEq H] (original reframed : H) (encode : H → Except CodecError Bytes)
    (raw : Bytes) (framingLen : Nat) : Except CodecError (FetchReemit × Bytes) :=
  if reframed = original then .ok (.unchanged, [])
  else do
    let encoded ← encode reframed
    return (.reframed framingLen encoded.length, encoded ++ raw.drop framingLen)

/-- `AnyFetchObjectWriter::reemit_object`: the answer, the bytes written out, and the
writer after it. -/
def reemitObject (writer : FetchState) (frame : AnyFetchFrame) (raw : Bytes) :
    Except CodecError (FetchReemit × Bytes × FetchState) := do
  refuseIf (frame.draft != writer.draft) (.unsupportedDraft ("a draft " ++ frame.draft.name ++
    " fetch frame cannot be written onto a draft " ++ writer.draft.name ++ " stream"))
  refuseIf (decide (raw.length < frame.framingLen)) .invalidField
  match writer, frame.shape with
  | .absolute draft, .absolute => .ok (.unchanged, [], .absolute draft)
  | .draft15 prior, .draft15 original => do
    let reframed ← Draft15Fetch.headerFor prior original
    let answer ← putReframed original reframed Draft15Fetch.FetchObjectHeader.encode raw frame.framingLen
    return (answer.1, answer.2, .draft15 (Draft15Fetch.advance reframed))
  | .draft16 prior, .draft16 original location => do
    let reframed ← Draft16Fetch.headerFor prior original location
    let answer ← putReframed original reframed Draft16Fetch.FetchObjectHeader.encode raw frame.framingLen
    return (answer.1, answer.2, .draft16 (Draft16Fetch.advance prior reframed location))
  | .since17 draft rules prior, .since17 object => do
    let reframed ← headerFor rules prior object
    let answer ← putReframed object.header reframed (encodeHeader rules) raw frame.framingLen
    return (answer.1, answer.2, .since17 draft rules (advance rules prior object))
  | _, _ => .error (.unsupportedDraft ("no fetch writer for draft " ++ frame.draft.name))

/-! ## The writer stands where the reader stood -/

theorem readObjectHeader_success {draft : FetchDraft} {prior after : Prior} {object : FetchObject}
    {cursor rest : Cursor} (ran : readObjectHeader draft prior cursor = .ok ((object, after), rest)) :
    Laid draft object.header ∧ resolve draft prior object.header = .ok (object, after) := by
  obtain ⟨header, middle, decoded, ran⟩ := bind_success ran
  have resolved := (lift_success ran).1
  obtain ⟨rfl, -⟩ := resolve_cases resolved
  exact ⟨decodeHeader_laid decoded, resolved⟩

theorem putReframed_original {H : Type} [DecidableEq H] {header : H}
    {encode : H → Except CodecError Bytes} {raw : Bytes} {framingLen : Nat} :
    putReframed header header encode raw framingLen = .ok (.unchanged, []) := if_pos rfl

/-- A frame shown to a writer that holds what its reader held keeps its bytes and
moves the writer where the reader went, or is refused. -/
theorem reemit_read {absoluteMeta : DraftVersion → Reader CodecError AnyFetchObjectMeta}
    {state after : FetchState} {frame : AnyFetchFrame} {cursor rest : Cursor}
    (ran : readObjectFrame absoluteMeta state cursor = .ok ((frame, after), rest)) (raw : Bytes) :
    (∃ e, reemitObject state frame raw = .error e) ∨
      reemitObject state frame raw = .ok (.unchanged, [], after) := by
  cases outcome : reemitObject state frame raw with
  | error e => exact .inl ⟨e, rfl⟩
  | ok answer =>
    right
    obtain ⟨_, _, outcome⟩ := except_bind_ok outcome
    obtain ⟨_, _, outcome⟩ := except_bind_ok outcome
    rw [← outcome]
    cases state with
    | absolute draft =>
      obtain ⟨framing, _, _, ran⟩ := bind_success ran
      cases ran
      rfl
    | draft15 prior =>
      obtain ⟨⟨⟨header, next⟩, wireLen⟩, _, read, ran⟩ := bind_success ran
      cases ran
      obtain ⟨_, read, -⟩ := framed_success (measured_success read).1
      obtain ⟨same, rfl⟩ := Draft15Fetch.headerFor_read read
      simp only [frame15, same, except_ok_bind, putReframed_original]
      rfl
    | draft16 prior =>
      obtain ⟨⟨⟨header, location, next⟩, wireLen⟩, _, read, ran⟩ := bind_success ran
      cases ran
      obtain ⟨_, read, -⟩ := framed_success (measured_success read).1
      obtain ⟨_, _, decoded, read⟩ := bind_success read
      obtain ⟨_, _, resolved, read⟩ := bind_success read
      cases read
      obtain ⟨reframed, written, _⟩ := except_bind_ok outcome
      obtain ⟨rfl, rfl⟩ := Draft16Fetch.headerFor_original (Draft16Fetch.decode_laid decoded)
        (lift_success resolved).1 written
      simp only [frame16, written, except_ok_bind, putReframed_original]
      rfl
    | since17 draft rules prior =>
      obtain ⟨⟨⟨object, next⟩, wireLen⟩, _, read, ran⟩ := bind_success ran
      cases ran
      obtain ⟨_, read, -⟩ := framed_success (measured_success read).1
      obtain ⟨laid, resolved⟩ := readObjectHeader_success read
      obtain ⟨-, rfl, -⟩ := resolve_cases resolved
      obtain ⟨reframed, written, _⟩ := except_bind_ok outcome
      obtain ⟨rfl, -⟩ := (headerFor_original laid resolved).mp written
      simp only [frame17, written, except_ok_bind, putReframed_original]
      rfl

end Moqtap.AnyFetch
