import Moqtap.Draft22Subgroup
import Moqtap.Framer

/-! What relaying a draft-22 subgroup stream amounts to, object by object and with no
buffer: each object is put out, put out uninterpreted for its size, or elided, and the
first one put out behind an elided run has its Object ID field rewritten. The bytes put
out read back as the header and the surviving objects. -/
namespace Moqtap.SubgroupRelay
open ByteCursor Varint CodecTypes Framer Draft22.Subgroup

/-! ## Draft 22 behind the framer -/

def subgroupContext (header : SubgroupHeader) : SubgroupContext where
  trackAlias := header.trackAlias.val
  groupId := header.groupId.val
  subgroupId :=
    match header.subgroupIdMode with
    | 0 => some 0
    | 2 => some header.subgroupId.val
    | _ => none
  publisherPriority := header.publisherPriority

def anyMeta (framing : SubgroupObjectMeta) : AnySubgroupObjectMeta where
  objectId := framing.objectId
  payloadLength := framing.payloadLength
  status := framing.status
  extensionHeadersLen := framing.extensionHeadersLen
  wireLen := framing.wireLen

/-- No fetch object of draft 22 is absolute. -/
def codec : Codec SubgroupHeader FetchHeader SubgroupObjectReader where
  decodeSubgroupHeader := SubgroupHeader.decode
  decodeFetchHeader := FetchHeader.decode
  requestId := fun header => header.requestId.val
  subgroupContext := subgroupContext
  newReader := fun header => some (.new header)
  readObjectMeta := fun reader => Prod.map anyMeta id <$> reader.readObjectMeta
  absoluteMeta := fun _ => fail (.unsupportedDraft "a draft 22 fetch object states no absolute Location")

/-- A subgroup stream of draft 22 under a cap. -/
def setup (cap : Nat) (fetchOrders : Option (Nat → Option FetchStream.GroupOrder)) : Setup where
  streamType := .subgroup
  draft := .draft22
  config := ⟨cap⟩
  fetchOrders := fetchOrders

/-! ## Streams -/

/-- Objects that read off their own bytes one behind the other. -/
def ReadInTurn : SubgroupObjectReader → List (SubgroupObject × Bytes) → Prop
  | _, [] => True
  | reader, (object, raw) :: rest =>
    ReadsAll reader.readObject raw (object, reader.past object.objectId) ∧
      ReadInTurn (reader.past object.objectId) rest

/-- A well-formed stream: a header and its objects, each with the bytes it is read off. -/
structure SubgroupStream where
  header : SubgroupHeader
  headerRaw : Bytes
  objects : List (SubgroupObject × Bytes)
  headerReads : ReadsAll SubgroupHeader.decode headerRaw header
  objectsRead : ReadInTurn (.new header) objects

def raws (objects : List (SubgroupObject × Bytes)) : Bytes := objects.flatMap Prod.snd

def SubgroupStream.bytes (stream : SubgroupStream) : Bytes := stream.headerRaw ++ raws stream.objects

/-- The bytes of an object's framing, everything but its payload. -/
def framingLen (object : SubgroupObject × Bytes) : Nat := object.2.length - object.1.payloadLength.val

/-- The next `n` objects of a stream. -/
def readObjects : Nat → SubgroupObjectReader → Reader CodecError (List SubgroupObject)
  | 0, _ => pure []
  | n + 1, reader => do
    let read ← reader.readObject
    let rest ← readObjects n read.2
    return read.1 :: rest

/-- A whole stream of `n` objects, header first. -/
def readStream (n : Nat) : Reader CodecError (SubgroupHeader × List SubgroupObject) := do
  let header ← SubgroupHeader.decode
  let objects ← readObjects n (.new header)
  return (header, objects)

/-! ## The relay -/

/-- What a relay puts out. -/
inductive Item where
  | header (header : SubgroupHeader) (raw : Bytes)
  | object (framing : ObjectMeta) (raw : Bytes)
  | skipped (raw : Bytes)
  deriving DecidableEq, Repr

def Item.raw : Item → Bytes
  | header _ raw => raw
  | object _ raw => raw
  | skipped raw => raw

/-- What the caller is told of the object at `index`. -/
def framingOf (context : SubgroupContext) (index : Nat) (object : SubgroupObject) : ObjectMeta where
  draft := .draft22
  streamKind := .subgroup
  trackAlias := some context.trackAlias
  groupId := context.groupId
  subgroupId := context.subgroupId
  objectId := object.objectId.val
  publisherPriority := context.publisherPriority
  indexInStream := index
  payloadLen := object.payloadLength.val
  status := object.objectStatus.map ObjectStatus.asU64
  endOfRange := none

/-- An object's bytes behind the object `cursor` names: its own unless a fix-up is owed. -/
def rewritten (cursor : Option Nat) (owed : Bool) (objectId : Nat) (raw : Bytes) : Bytes :=
  if owed then
    match reemitSubgroupObject .draft22 cursor objectId raw with
    | .ok (_, out) => out
    | .error _ => raw
  else raw

section Relay
variable (cap : Nat) (elide : ObjectMeta → Bool) (context : SubgroupContext)

/-- The items put out from the object at `index` on, `cursor` the Object ID last put out
and `owed` whether any object was elided since. Objects over the cap are put out
uninterpreted, and nobody is asked about them. -/
def relayed : Option Nat → Bool → Nat → List (SubgroupObject × Bytes) → List Item
  | _, _, _, [] => []
  | cursor, owed, index, (object, raw) :: rest =>
    let sent := rewritten cursor owed object.objectId.val raw
    if cap < raw.length then
      .skipped sent :: relayed (some object.objectId.val) false (index + 1) rest
    else if elide (framingOf context index object) then relayed cursor true (index + 1) rest
    else
      .object (framingOf context index object) sent ::
        relayed (some object.objectId.val) false (index + 1) rest

/-- The objects that are not elided. -/
def survivors : Nat → List (SubgroupObject × Bytes) → List SubgroupObject
  | _, [] => []
  | index, (object, raw) :: rest =>
    if raw.length ≤ cap ∧ elide (framingOf context index object) then survivors (index + 1) rest
    else object :: survivors (index + 1) rest

end Relay

namespace SubgroupStream
variable (stream : SubgroupStream) (cap : Nat) (elide : ObjectMeta → Bool)

def items : List Item :=
  .header stream.header stream.headerRaw ::
    relayed cap elide (subgroupContext stream.header) none false 0 stream.objects

def survivors : List SubgroupObject :=
  SubgroupRelay.survivors cap elide (subgroupContext stream.header) 0 stream.objects

end SubgroupStream

/-! ## An object's bytes behind another -/

/-- The cursor of the relay and the source's previous object: the same while no fix-up is
owed, and never past it. -/
structure Abreast (cursor : Option Nat) (owed : Bool) (prev : Option Nat) : Prop where
  level : owed = false → cursor = prev
  behind : ∀ c, cursor = some c → ∃ p, prev = some p ∧ c ≤ p

/-- An object read in turn has its bytes cut into its Object ID field and the rest. -/
theorem wire_of_reads {reader : SubgroupObjectReader} {object : SubgroupObject} {raw : Bytes}
    {after : SubgroupObjectReader} (reads : ReadsAll reader.readObject raw (object, after)) :
    ∃ idField tail, raw = idField ++ (tail ++ object.payload) ∧
      Wire reader.extensionsPresent reader.prevObjectId object idField tail := by
  obtain ⟨used, split, -, -, idField, tail, rfl, wire⟩ := reader.parses_readObject raw _ (.of []) reads
  have whole : idField ++ (tail ++ object.payload) = raw := by simpa [Cursor.of] using split.symm
  exact ⟨idField, tail, whole.symm, wire⟩

section Fixup
variable {present : Bool} {prev cursor : Option Nat} {object : SubgroupObject} {idField tail : Bytes}

theorem wire_ahead (wire : Wire present prev object idField tail) {owed : Bool}
    (abreast : Abreast cursor owed prev) : ∀ c, cursor = some c → c < object.objectId.val := by
  intro c named
  obtain ⟨p, rfl, le⟩ := abreast.behind c named
  obtain ⟨delta, -, resolved⟩ := wire.resolves
  exact lt_of_le_of_lt le (resolveObjectId_gt resolved)

theorem forwardedDelta_ok {objectId : Nat} (ahead : ∀ c, cursor = some c → c < objectId) :
    ∃ delta, forwardedDelta cursor objectId = .ok delta ∧
      objectId = (cursor.map (· + 1)).getD 0 + delta := by
  cases cursor with
  | none => exact ⟨objectId, rfl, by simp⟩
  | some c =>
    have less := ahead c rfl
    refine ⟨objectId - c - 1, ?_, by simp only [Option.map_some, Option.getD_some]; omega⟩
    simp only [forwardedDelta, okOr_ok, Option.bind_eq_some_iff, checkedSub_some]
    exact ⟨objectId - c, by omega, by omega⟩

/-- Behind an object put out, any part of an object that holds its Object ID field is
rewritten in that field alone. -/
theorem wire_reemit (wire : Wire present prev object idField tail) {owed : Bool}
    (abreast : Abreast cursor owed prev) :
    ∃ field delta, Reads (varint .moqt18) field delta ∧
      resolveObjectId cursor delta.val = .ok object.objectId ∧
      ∀ part, ∃ how, reemitSubgroupObject .draft22 cursor object.objectId.val (idField ++ part) =
        .ok (how, field ++ part) := by
  have ahead := wire_ahead wire abreast
  obtain ⟨delta, forwarded, value⟩ := forwardedDelta_ok ahead
  obtain ⟨source, spelled, resolved⟩ := wire.resolves
  have small : delta < 2 ^ 64 := lt_of_le_of_lt (by omega) object.objectId.isLt
  refine ⟨(VarInt.ofU64 delta).encodeMoqt .moqt18, .ofU64 delta, reads_varint _, ?_, ?_⟩
  · rw [VarInt.val_ofU64 small, resolveObjectId_ok]
    exact ⟨value, (resolveObjectId_ok.mp resolved).2⟩
  · intro part
    have notBehind : (cursor.any fun prev => decide (object.objectId.val ≤ prev)) = false := by
      cases cursor with
      | none => rfl
      | some c => simpa using ahead c rfl
    have read : VarInt.decodeMoqt .moqt18 ⟨idField ++ part, 0⟩ = .ok (source, ⟨part, 0⟩) :=
      mapError_success (spelled.reads part 0)
    have taken : (idField ++ part).length - (⟨part, 0⟩ : Cursor).remaining = idField.length := by
      simp [Cursor.remaining]
    unfold reemitSubgroupObject
    simp only [notBehind, refuseIf, Bool.false_eq_true, ↓reduceIte, except_ok_bind,
      DraftVersion.decodeVarint, DraftVersion.varintEncoding, Cursor.of, read, Except.mapError, taken,
      absoluteObjectIds, forwarded, DraftVersion.usesMoqtVarint, DraftVersion.encodeVarint,
      List.take_left, List.drop_left]
    simp only [show ((VarIntEncoding.moqt MoqtProfile.moqt18 != .rfc9000) = true) from rfl, ↓reduceIte]
    split
    · rename_i same
      exact ⟨_, by rw [same]; rfl⟩
    · exact ⟨_, rfl⟩

/-- The part of an object a chunk holds is rewritten as the object is. -/
theorem rewritten_append (wire : Wire present prev object idField tail) {owed : Bool}
    (abreast : Abreast cursor owed prev) (part rest : Bytes) :
    rewritten cursor owed object.objectId.val (idField ++ part) ++ rest =
      rewritten cursor owed object.objectId.val (idField ++ part ++ rest) := by
  unfold rewritten
  split
  · obtain ⟨field, delta, -, -, written⟩ := wire_reemit wire abreast
    obtain ⟨_, chunk⟩ := written part
    obtain ⟨_, whole⟩ := written (part ++ rest)
    rw [List.append_assoc, chunk, whole]
    simp only [List.append_assoc]
  · rfl

/-- Whether rewritten or not, an object reads back as itself behind the cursor. -/
theorem rewritten_reads (wire : Wire present prev object idField tail) {owed : Bool}
    (abreast : Abreast cursor owed prev) :
    Reads (SubgroupObjectReader.readObject ⟨present, cursor⟩)
      (rewritten cursor owed object.objectId.val (idField ++ (tail ++ object.payload)))
      (object, ⟨present, some object.objectId.val⟩) := by
  unfold rewritten
  split
  · obtain ⟨field, delta, read, resolved, written⟩ := wire_reemit wire abreast
    obtain ⟨_, whole⟩ := written (tail ++ object.payload)
    rw [whole]
    exact wire.readObject read resolved
  · rename_i level
    obtain ⟨source, spelled, resolved⟩ := wire.resolves
    rw [abreast.level (by simpa using level)]
    exact wire.readObject spelled.reads resolved

end Fixup

theorem Abreast.next (id : Nat) : Abreast (some id) false (some id) :=
  ⟨fun _ => rfl, fun c named => ⟨id, rfl, by cases named; exact le_rfl⟩⟩

theorem Abreast.elided {cursor prev : Option Nat} {owed : Bool} (abreast : Abreast cursor owed prev)
    {id : Nat} (later : ∀ p, prev = some p → p < id) : Abreast cursor true (some id) := by
  refine ⟨fun level => (Bool.noConfusion level), fun c named => ?_⟩
  obtain ⟨p, held, le⟩ := abreast.behind c named
  exact ⟨id, rfl, le.trans (later p held).le⟩

theorem Abreast.start : Abreast none false none := ⟨fun _ => rfl, fun _ named => nomatch named⟩

theorem ReadInTurn.later {reader : SubgroupObjectReader} {object : SubgroupObject} {raw : Bytes}
    {after : SubgroupObjectReader} (reads : ReadsAll reader.readObject raw (object, after)) :
    ∀ p, reader.prevObjectId = some p → p < object.objectId.val := by
  intro p held
  obtain ⟨_, _, -, wire⟩ := wire_of_reads reads
  obtain ⟨delta, -, resolved⟩ := wire.resolves
  rw [held] at resolved
  exact resolveObjectId_gt resolved

/-! ## What a relay puts out reads back -/

/-- From any object on, the bytes put out read as the survivors, to a reader that stands
at the relay's cursor. -/
theorem relayed_reads (cap : Nat) (elide : ObjectMeta → Bool) (context : SubgroupContext)
    {objects : List (SubgroupObject × Bytes)} {reader : SubgroupObjectReader} {cursor : Option Nat}
    {owed : Bool} {index : Nat} (turn : ReadInTurn reader objects)
    (abreast : Abreast cursor owed reader.prevObjectId) :
    Reads (readObjects (survivors cap elide context index objects).length
        ⟨reader.extensionsPresent, cursor⟩)
      ((relayed cap elide context cursor owed index objects).flatMap Item.raw)
      (survivors cap elide context index objects) := by
  induction objects generalizing reader cursor owed index with
  | nil => exact Reads.pure []
  | cons head rest ih =>
    obtain ⟨object, raw⟩ := head
    obtain ⟨reads, turn⟩ := turn
    obtain ⟨idField, tail, rfl, wire⟩ := wire_of_reads reads
    have back := rewritten_reads wire abreast
    have next := @ih _ _ _ (index + 1) turn (Abreast.next object.objectId.val)
    have put : Reads (readObjects ((survivors cap elide context (index + 1) rest).length + 1)
        ⟨reader.extensionsPresent, cursor⟩)
        (rewritten cursor owed object.objectId.val (idField ++ (tail ++ object.payload)) ++
          (relayed cap elide context (some object.objectId.val) false (index + 1) rest).flatMap Item.raw)
        (object :: survivors cap elide context (index + 1) rest) :=
      back.bind (next.wrap (List.cons object))
    unfold relayed survivors
    by_cases large : cap < (idField ++ (tail ++ object.payload)).length
    · simp only [large, ↓reduceIte, Nat.not_le.mpr large, false_and, List.length_cons,
        List.flatMap_cons, Item.raw]
      exact put
    · by_cases dropped : elide (framingOf context index object) = true
      · simp only [large, ↓reduceIte, Nat.le_of_not_lt large, dropped, and_self]
        exact @ih (reader.past object.objectId) _ _ _ turn (abreast.elided (ReadInTurn.later reads))
      · simp only [large, ↓reduceIte, dropped, Bool.false_eq_true, and_false, List.length_cons,
          List.flatMap_cons, Item.raw]
        exact put

/-- The relayed stream reads back as its header and the surviving objects, in order. -/
theorem SubgroupStream.items_read (stream : SubgroupStream) (cap : Nat) (elide : ObjectMeta → Bool) :
    Reads (readStream (stream.survivors cap elide).length)
      ((stream.items cap elide).flatMap Item.raw) (stream.header, stream.survivors cap elide) := by
  have header := (exact_decodeHeader.spells stream.headerReads).reads
  have objects := @relayed_reads cap elide (subgroupContext stream.header) _ _ _ _ 0
    stream.objectsRead Abreast.start
  exact header.bind (objects.wrap _)

end Moqtap.SubgroupRelay
