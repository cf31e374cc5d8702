import Moqtap.Draft22Subgroup

/-! The two readers of a draft-22 subgroup object and its writer
(`SubgroupObjectReader` of `draft22/data_stream.rs`). The reader that steps over a
payload and the one that copies it answer alike on every buffer, up to the check of the
properties block that only the second makes (`meta_matches_object`). What the writer
accepts reads back as it was as long as no Object ID is beyond the reader's range
(`written_reads_back_iff`). -/
namespace Moqtap.SubgroupObjects
open ByteCursor Varint CodecTypes Draft22.Subgroup

/-! ## Read and stepped over -/

/-- What `read_object` reads behind the Object ID, its properties block not yet looked
into. -/
def readUnchecked (present : Bool) (objectId : VarInt) : Reader CodecError SubgroupObject := do
  let extensionHeaders ← readExtensions present
  let payloadLength ← varint .moqt18
  let objectStatus ← readStatus payloadLength.val
  let payload ← readBytes payloadLength.val
  return (⟨objectId, extensionHeaders, payloadLength, objectStatus, payload⟩ : SubgroupObject)

def readObjectUnchecked (reader : SubgroupObjectReader) :
    Reader CodecError (SubgroupObject × SubgroupObjectReader) := do
  let objectId ← readObjectId reader.prevObjectId
  let object ← readUnchecked reader.extensionsPresent objectId
  return (object, reader.past objectId)

/-- The properties block of the object at the head of a buffer. -/
def propertiesBlock (reader : SubgroupObjectReader) : Reader CodecError Bytes := do
  let _ ← readObjectId reader.prevObjectId
  readExtensions reader.extensionsPresent

/-- It is there and parses. -/
def PropertiesParse (reader : SubgroupObjectReader) (cursor : Cursor) : Prop :=
  ∃ block rest properties, propertiesBlock reader cursor = .ok (block, rest) ∧
    parseObjectProperties .draft22 block = .ok properties

variable {reader : SubgroupObjectReader} {cursor : Cursor}

theorem readObject_eq (reader : SubgroupObjectReader) : reader.readObject = do
    let read ← readObjectUnchecked reader
    let _ ← lift (parseObjectProperties .draft22 read.1.extensionHeaders)
    return read := by
  unfold SubgroupObjectReader.readObject readObjectUnchecked readContents readUnchecked
  simp only [bind_assoc, pure_bind]

theorem inStep_extensions (present : Bool) :
    InStep (readExtensions present) (skipExtensions present) fun block length => block.length = length := by
  cases present with
  | false => exact .pure rfl
  | true =>
    have length : InStep (varint .moqt18) (VarInt.val <$> varint .moqt18 : Reader CodecError Nat)
        fun len value => len.val = value := by
      rw [map_eq_bind]
      intro cursor
      rw [bind_apply]
      cases varint .moqt18 cursor with
      | error e => rfl
      | ok read => exact ⟨read.1, rfl, rfl⟩
    have block (len : VarInt) : InStep (readBytes len.val)
        (skipBytes .unexpectedEnd len.val >>= fun _ => (pure len.val : Reader CodecError Nat))
        fun block length => block.length = length := by
      intro cursor
      have skipped := inStep_skipBytes CodecError.unexpectedEnd len.val cursor
      rw [bind_apply]
      cases stepped : skipBytes CodecError.unexpectedEnd len.val cursor with
      | error e => rwa [stepped] at skipped
      | ok rest => rwa [stepped] at skipped
    refine length.bind ?_
    rintro len _ rfl
    exact block len

/-- The fields ahead of the payload. -/
def readFields (reader : SubgroupObjectReader) :
    Reader CodecError (VarInt × Bytes × VarInt × Option ObjectStatus) := do
  let objectId ← readObjectId reader.prevObjectId
  let extensionHeaders ← readExtensions reader.extensionsPresent
  let payloadLength ← varint .moqt18
  let objectStatus ← readStatus payloadLength.val
  return (objectId, extensionHeaders, payloadLength, objectStatus)

theorem readObjectUnchecked_eq (reader : SubgroupObjectReader) :
    readObjectUnchecked reader = do
      let fields ← readFields reader
      let payload ← readBytes fields.2.2.1.val
      return (⟨fields.1, fields.2.1, fields.2.2.1, fields.2.2.2, payload⟩, reader.past fields.1) := by
  unfold readObjectUnchecked readUnchecked readFields
  simp only [bind_assoc, pure_bind]

theorem inStep_framing (reader : SubgroupObjectReader) :
    InStep (readFields reader) (readFraming reader) fun fields framing =>
      framing = (fields.1, ⟨fields.2.1.length, fields.2.2.1.val, fields.2.2.2⟩) := by
  unfold readFields readFraming readFramingTail
  simp only [bind_assoc, pure_bind]
  refine (InStep.refl _).bind ?_
  rintro id _ rfl
  refine (inStep_extensions _).bind ?_
  rintro block _ rfl
  refine (InStep.refl _).bind ?_
  rintro len _ rfl
  refine (InStep.refl _).bind ?_
  rintro status _ rfl
  exact .pure rfl

/-- Up to the properties block, the reader that copies an object is in step with the one
that measures it. -/
theorem inStep_meta (reader : SubgroupObjectReader) :
    InStep (readObjectUnchecked reader) reader.readObjectMeta fun read framed =>
      framed.2 = read.2 ∧ ∃ wireLen, framed.1 = metaOf read.1 wireLen := by
  have stepped : InStep (readObjectUnchecked reader)
      (framed .unexpectedEnd (readFraming reader) fun read => read.2.payloadLength) fun read framing =>
        framing = (read.1.objectId, ⟨read.1.extensionHeaders.length, read.1.payloadLength.val,
          read.1.objectStatus⟩) ∧ read.2 = reader.past read.1.objectId := by
    rw [readObjectUnchecked_eq, framed]
    refine (inStep_framing reader).bind ?_
    rintro fields _ rfl
    refine (inStep_skipBytes _ _).bind ?_
    rintro payload _ _
    exact .pure ⟨rfl, rfl⟩
  unfold SubgroupObjectReader.readObjectMeta
  rw [← bind_pure (readObjectUnchecked reader)]
  refine stepped.measured.bind ?_
  rintro read ⟨framing, wireLen⟩ ⟨rfl, next⟩
  exact .pure ⟨next.symm, wireLen, rfl⟩

/-- The block an object was read with is the one at the head of the buffer. -/
theorem propertiesBlock_ok {object : SubgroupObject} {next : SubgroupObjectReader} {rest : Cursor}
    (ran : readObjectUnchecked reader cursor = .ok ((object, next), rest)) :
    ∃ middle, propertiesBlock reader cursor = .ok (object.extensionHeaders, middle) := by
  rw [readObjectUnchecked_eq] at ran
  obtain ⟨fields, _, fieldsRan, ran⟩ := bind_success ran
  obtain ⟨payload, _, _, ran⟩ := bind_success ran
  cases ran
  obtain ⟨id, here, idRan, behindId⟩ := bind_success fieldsRan
  obtain ⟨block, middle, blockRan, behindBlock⟩ := bind_success behindId
  obtain ⟨len, _, _, behindLen⟩ := bind_success behindBlock
  obtain ⟨status, _, _, made⟩ := bind_success behindLen
  cases made
  refine ⟨middle, ?_⟩
  rw [propertiesBlock, bind_apply, idRan]
  exact blockRan

/-- **The measuring reader answers as the copying one does**, but for the check of the
properties block. -/
theorem meta_matches_object (reader : SubgroupObjectReader) (cursor : Cursor) :
    ((∃ read, reader.readObject cursor = .ok read) ↔
      (∃ framed, reader.readObjectMeta cursor = .ok framed) ∧ PropertiesParse reader cursor) ∧
    (∀ object next rest framing next' rest', reader.readObject cursor = .ok ((object, next), rest) →
      reader.readObjectMeta cursor = .ok ((framing, next'), rest') →
        framing = metaOf object (cursor.remaining - rest.remaining) ∧ next' = next ∧ rest' = rest) ∧
    ∀ e, reader.readObjectMeta cursor = .error e → reader.readObject cursor = .error e := by
  have inStep := inStep_meta reader
  refine ⟨⟨?_, ?_⟩, ?_, ?_⟩
  · rintro ⟨⟨⟨object, next⟩, rest⟩, ran⟩
    rw [readObject_eq] at ran
    obtain ⟨⟨object', next'⟩, middle, unchecked, behind⟩ := bind_success ran
    obtain ⟨properties, _, checked, made⟩ := bind_success behind
    obtain ⟨parsed, rfl⟩ := lift_success checked
    cases made
    obtain ⟨block, found⟩ := propertiesBlock_ok unchecked
    refine ⟨?_, _, block, properties, found, parsed⟩
    cases measured : reader.readObjectMeta cursor with
    | error e => exact nomatch (inStep.error measured).symm.trans unchecked
    | ok framed => exact ⟨framed, rfl⟩
  · rintro ⟨⟨⟨framed, rest⟩, ran⟩, block, left, properties, found, parsed⟩
    obtain ⟨⟨object, next⟩, unchecked, -⟩ := inStep.ok ran
    obtain ⟨middle, found'⟩ := propertiesBlock_ok unchecked
    obtain ⟨rfl, -⟩ := Prod.mk.inj (Except.ok.inj (found.symm.trans found'))
    refine ⟨((object, next), rest), ?_⟩
    rw [readObject_eq, bind_apply, unchecked]
    dsimp only
    rw [bind_apply, lift, parsed]
    rfl
  · intro object next rest framing next' rest' ran measured
    rw [readObject_eq] at ran
    obtain ⟨⟨object', next''⟩, middle, unchecked, behind⟩ := bind_success ran
    obtain ⟨properties, _, checked, made⟩ := bind_success behind
    obtain ⟨-, rfl⟩ := lift_success checked
    cases made
    obtain ⟨_, again, same, wireLen, framed⟩ := inStep.ok measured
    cases unchecked.symm.trans again
    refine ⟨?_, same, rfl⟩
    dsimp only at framed
    obtain ⟨⟨found, wireLen'⟩, _, inner, wrapped⟩ := bind_success measured
    obtain ⟨-, length⟩ := measured_success inner
    cases wrapped
    rw [framed]
    have lengths := congrArg SubgroupObjectMeta.wireLen framed
    dsimp only [metaOf] at lengths
    rw [← lengths, length]
  · intro e failed
    rw [readObject_eq, bind_apply, inStep.error failed]

/-! ## The writer -/

/-- The Payload column of the Object Status registry. -/
def permitsPayload : ObjectStatus → Bool
  | .normal => true
  | .endOfGroup | .endOfTrack => false

def statusOf (object : SubgroupObject) : ObjectStatus := object.objectStatus.getD .normal

/-- The distance of an Object ID from the one before it. -/
def deltaTo (prevObjectId : Option Nat) (objectId : Nat) : Except CodecError Nat :=
  match prevObjectId with
  | none => .ok objectId
  | some prev => okOr ((checkedSub objectId prev).bind fun v => checkedSub v 1) .invalidField

/-- The checks ahead of the first byte, and the Object ID field they let through. -/
def admitObject (reader : SubgroupObjectReader) (object : SubgroupObject) : Except CodecError VarInt := do
  refuseIf (object.payloadLength.val != object.payload.length) .invalidField
  refuseIf (object.payloadLength.val != 0 && !permitsPayload (statusOf object))
    (.payloadNotPermitted (statusOf object).asU64 object.payload.length
      "its status is registered as forbidding one")
  let delta ← deltaTo reader.prevObjectId object.objectId.val
  validVarint delta

/-- The properties block as it is written. -/
def writeExtensions (present : Bool) (block : Bytes) : Except CodecError Bytes :=
  if present then do
    let length ← validVarint block.length
    return length.encodeMoqt .moqt18 ++ block
  else .ok []

def writePayload (object : SubgroupObject) : Bytes :=
  if object.payloadLength.val = 0 then (VarInt.ofU64 (statusOf object).asU64).encodeMoqt .moqt18
  else object.payload

/-- `write_object`, with the buffer it appends to: what it answers, and the buffer and the
delta state it leaves. -/
def writeObject (reader : SubgroupObjectReader) (object : SubgroupObject) (buf : Bytes) :
    Except CodecError Unit × Bytes × SubgroupObjectReader :=
  match admitObject reader object with
  | .error e => (.error e, buf, reader)
  | .ok delta =>
    let buf := buf ++ delta.encodeMoqt .moqt18
    match writeExtensions reader.extensionsPresent object.extensionHeaders with
    | .error e => (.error e, buf, reader)
    | .ok block =>
      (.ok (), buf ++ block ++ object.payloadLength.encodeMoqt .moqt18 ++ writePayload object,
        reader.past object.objectId)

/-- Objects written one behind the other; the first refusal ends it. -/
def writeObjects (reader : SubgroupObjectReader) : List SubgroupObject → Bytes →
    Except CodecError (Bytes × SubgroupObjectReader)
  | [], buf => .ok (buf, reader)
  | object :: rest, buf =>
    match writeObject reader object buf with
    | (.ok (), buf, reader) => writeObjects reader rest buf
    | (.error e, _, _) => .error e

/-- Objects read one behind the other. -/
def readObjects : Nat → SubgroupObjectReader → Reader CodecError (List SubgroupObject)
  | 0, _ => pure []
  | n + 1, reader => do
    let read ← reader.readObject
    let rest ← readObjects n read.2
    return read.1 :: rest

/-- The same Object ID, properties block, payload and status. -/
def SameObject (object read : SubgroupObject) : Prop :=
  read.objectId = object.objectId ∧ read.extensionHeaders = object.extensionHeaders ∧
    read.payload = object.payload ∧ statusOf read = statusOf object

/-- A fresh reader reads the bytes as the objects, every byte. -/
def ReadsBack (header : SubgroupHeader) (objects : List SubgroupObject) (bytes : Bytes) : Prop :=
  ∃ read, ReadsAll (readObjects objects.length (.new header)) bytes read ∧
    List.Forall₂ SameObject objects read

/-! ## What is written reads back -/

/-- What an object has to be like to be written behind what stands so far. -/
def Admissible (reader : SubgroupObjectReader) (object : SubgroupObject) : Prop :=
  object.payloadLength.val = object.payload.length ∧
    (object.payloadLength.val ≠ 0 → statusOf object = .normal) ∧
    ∃ distance ≤ maxVarint, object.objectId.val = (reader.prevObjectId.map (· + 1)).getD 0 + distance

theorem permitsPayload_iff {status : ObjectStatus} : permitsPayload status = true ↔ status = .normal := by
  cases status <;> simp [permitsPayload]

theorem deltaTo_ok {before : Option Nat} {objectId distance : Nat} :
    deltaTo before objectId = .ok distance ↔ objectId = (before.map (· + 1)).getD 0 + distance := by
  cases before with
  | none =>
    simp only [deltaTo, Option.map_none, Option.getD_none, Nat.zero_add]
    exact ⟨Except.ok.inj, congrArg Except.ok⟩
  | some prev =>
    simp only [deltaTo, Option.map_some, Option.getD_some, okOr_ok, Option.bind_eq_some_iff,
      checkedSub_some]
    constructor
    · rintro ⟨v, behind, one⟩
      omega
    · intro apart
      exact ⟨1 + distance, by omega, by omega⟩

theorem admitObject_ok {object : SubgroupObject} {delta : VarInt} (admitted : admitObject reader object = .ok delta) :
    object.payloadLength.val = object.payload.length ∧
      (object.payloadLength.val ≠ 0 → statusOf object = .normal) ∧
      object.objectId.val = (reader.prevObjectId.map (· + 1)).getD 0 + delta.val := by
  unfold admitObject at admitted
  obtain ⟨_, length, admitted⟩ := except_bind_ok admitted
  obtain ⟨_, permitted, admitted⟩ := except_bind_ok admitted
  obtain ⟨distance, apart, valid⟩ := except_bind_ok admitted
  rw [refuseIf_ok] at length permitted
  refine ⟨by simpa using length, ?_, ?_⟩
  · intro filled
    rw [← permitsPayload_iff]
    simpa [filled] using permitted
  · rw [validVarint_val valid]
    exact deltaTo_ok.mp apart

/-- The checks ahead of the first byte refuse what is not admissible, and nothing else. -/
theorem admitObject_error_iff {object : SubgroupObject} :
    (∃ e, admitObject reader object = .error e) ↔ ¬ Admissible reader object := by
  constructor
  · rintro ⟨e, refused⟩ ⟨length, normal, distance, small, apart⟩
    have permitted : (object.payloadLength.val != 0 && !permitsPayload (statusOf object)) = false := by
      by_cases filled : object.payloadLength.val = 0
      · simp [filled]
      · simp [permitsPayload_iff.mpr (normal filled)]
    have agrees : (object.payloadLength.val != object.payload.length) = false := by simpa using length
    unfold admitObject at refused
    simp only [agrees, permitted, refuseIf, Bool.false_eq_true, if_false, except_ok_bind,
      deltaTo_ok.mpr apart, validVarint, VarInt.fromU64_ok small] at refused
    cases refused
  · intro barred
    cases admitted : admitObject reader object with
    | error e => exact ⟨e, rfl⟩
    | ok delta =>
      obtain ⟨length, normal, apart⟩ := admitObject_ok admitted
      have small : delta.val ≤ maxVarint := by
        unfold admitObject at admitted
        obtain ⟨_, _, behindLength⟩ := except_bind_ok admitted
        obtain ⟨_, _, behindStatus⟩ := except_bind_ok behindLength
        obtain ⟨distance, _, valid⟩ := except_bind_ok behindStatus
        exact validVarint_small valid
      exact absurd ⟨length, normal, delta.val, small, apart⟩ barred

theorem writeObject_ok {object : SubgroupObject} {buf out : Bytes} {next : SubgroupObjectReader}
    (written : writeObject reader object buf = (.ok (), out, next)) :
    ∃ delta block, admitObject reader object = .ok delta ∧
      writeExtensions reader.extensionsPresent object.extensionHeaders = .ok block ∧
      next = reader.past object.objectId ∧
      out = buf ++ (delta.encodeMoqt .moqt18 ++
        (block ++ (object.payloadLength.encodeMoqt .moqt18 ++ writePayload object))) := by
  unfold writeObject at written
  cases admitted : admitObject reader object with
  | error e =>
    rw [admitted] at written
    cases written
  | ok delta =>
    rw [admitted] at written
    dsimp only at written
    cases blocked : writeExtensions reader.extensionsPresent object.extensionHeaders with
    | error e =>
      rw [blocked] at written
      cases written
    | ok block =>
      rw [blocked] at written
      cases written
      exact ⟨delta, block, rfl, rfl, rfl, by simp only [List.append_assoc]⟩

theorem reads_writeExtensions {present : Bool} {block bytes : Bytes}
    (bare : present = false → block = []) (written : writeExtensions present block = .ok bytes) :
    Reads (readExtensions present) bytes block := by
  unfold writeExtensions at written
  cases present with
  | false =>
    cases written
    rw [bare rfl]
    exact Reads.pure []
  | true =>
    obtain ⟨length, valid, made⟩ := except_bind_ok written
    cases made
    have value := validVarint_val valid
    have same : length = VarInt.ofU64 block.length := by rw [← value, VarInt.ofU64_val]
    rw [same]
    exact reads_lengthPrefixed (value ▸ length.isLt) rfl

theorem decodedStatus_asU64 (status : ObjectStatus) : decodedStatus status.asU64 = .ok status := by
  cases status <;> rfl

/-- The status and the payload stand in one place, one of them at a time. -/
theorem reads_writePayload {object : SubgroupObject}
    (length : object.payloadLength.val = object.payload.length)
    (normal : object.payloadLength.val ≠ 0 → statusOf object = .normal) :
    ∃ status, status.getD .normal = statusOf object ∧
      ∀ {α : Type} (next : Option ObjectStatus → Bytes → Reader CodecError α) (a : α),
        Reads (next status object.payload) [] a →
          Reads (readStatus object.payloadLength.val >>= fun status =>
            readBytes object.payloadLength.val >>= next status) (writePayload object) a := by
  unfold writePayload readStatus
  by_cases empty : object.payloadLength.val = 0
  · have none' : object.payload = [] := List.length_eq_zero_iff.mp (length.symm.trans empty)
    refine ⟨some (statusOf object), rfl, fun next a wraps => ?_⟩
    rw [empty, if_pos rfl, if_pos rfl]
    rw [none'] at wraps
    have small : (statusOf object).asU64 < 2 ^ 64 := by cases statusOf object <;> decide
    have code : Reads (varint .moqt18 >>= fun code => lift (decodedStatus code.val))
        ((VarInt.ofU64 (statusOf object).asU64).encodeMoqt .moqt18) (statusOf object) := by
      refine (reads_varint (VarInt.ofU64 (statusOf object).asU64)).last ?_
      rw [VarInt.val_ofU64 small]
      exact reads_lift (decodedStatus_asU64 _)
    exact (code.map some).last ((reads_takeBytes _ []).silent wraps)
  · refine ⟨none, (normal empty).symm, fun next a wraps => ?_⟩
    rw [if_neg empty, if_neg empty, length]
    exact (Reads.pure none).silent ((reads_takeBytes _ object.payload).last wraps)

/-- One object, written behind what the reader has read, reads back. -/
theorem reads_written {object : SubgroupObject} {delta : VarInt} {block : Bytes}
    (admitted : admitObject reader object = .ok delta)
    (written : writeExtensions reader.extensionsPresent object.extensionHeaders = .ok block)
    (bare : reader.extensionsPresent = false → object.extensionHeaders = [])
    {properties : List ObjectProperty}
    (parses : parseObjectProperties .draft22 object.extensionHeaders = .ok properties)
    (small : object.objectId.val ≤ maxVarint) :
    ∃ read, SameObject object read ∧ Reads reader.readObject
      (delta.encodeMoqt .moqt18 ++ (block ++ (object.payloadLength.encodeMoqt .moqt18 ++ writePayload object)))
      (read, reader.past object.objectId) := by
  obtain ⟨length, normal, distance⟩ := admitObject_ok admitted
  obtain ⟨status, same, payload⟩ := reads_writePayload length normal
  have id : Reads (readObjectId reader.prevObjectId) (delta.encodeMoqt .moqt18) object.objectId :=
    (reads_varint delta).last (reads_lift (resolveObjectId_ok.mpr ⟨distance, small⟩))
  refine ⟨⟨object.objectId, object.extensionHeaders, object.payloadLength, status, object.payload⟩,
    ⟨rfl, rfl, rfl, same⟩, ?_⟩
  rw [readObject_eq, readObjectUnchecked_eq, readFields]
  simp only [bind_assoc, pure_bind]
  refine id.bind ((reads_writeExtensions bare written).bind ((reads_varint _).bind ?_))
  exact payload _ _ (Reads.check parses (Reads.pure _))

/-- A reader goes no further than its own range of Object IDs. -/
theorem readObject_small {object : SubgroupObject} {delta : VarInt} {rest : Bytes}
    (distance : object.objectId.val = (reader.prevObjectId.map (· + 1)).getD 0 + delta.val)
    {read : (SubgroupObject × SubgroupObjectReader) × Cursor}
    (ran : reader.readObject (.of (delta.encodeMoqt .moqt18 ++ rest)) = .ok read) :
    object.objectId.val ≤ maxVarint := by
  unfold SubgroupObjectReader.readObject at ran
  obtain ⟨id, _, idRan, -⟩ := bind_success ran
  obtain ⟨delta', _, deltaRan, resolved⟩ := bind_success idRan
  have spelled := @reads_varint .moqt18 delta rest 0
  rw [Cursor.of, spelled] at deltaRan
  cases deltaRan
  obtain ⟨resolves, -⟩ := lift_success resolved
  obtain ⟨value, small⟩ := resolveObjectId_ok.mp resolves
  rwa [distance, ← value]

/-- Whose properties block can be read at all. -/
def Wellformed (present : Bool) (object : SubgroupObject) : Prop :=
  (∃ properties, parseObjectProperties .draft22 object.extensionHeaders = .ok properties) ∧
    (present = false → object.extensionHeaders = [])

theorem reads_back_from {objects : List SubgroupObject} {buf out : Bytes} {final : SubgroupObjectReader}
    (written : writeObjects reader objects buf = .ok (out, final))
    (wellformed : ∀ object ∈ objects, Wellformed reader.extensionsPresent object) :
    ∃ bytes, out = buf ++ bytes ∧
      ((∃ read, ReadsAll (readObjects objects.length reader) bytes read ∧ List.Forall₂ SameObject objects read) ↔
        ∀ object ∈ objects, object.objectId.val ≤ maxVarint) := by
  induction objects generalizing reader buf with
  | nil =>
    cases written
    refine ⟨[], (List.append_nil _).symm, fun _ => nofun, fun _ => ⟨[], (Reads.pure []).all, .nil⟩⟩
  | cons object objects ih =>
    rw [writeObjects] at written
    rcases one : writeObject reader object buf with ⟨e | _, middle, next⟩ <;> rw [one] at written
    · cases written
    obtain ⟨delta, block, admitted, blocked, rfl, rfl⟩ := writeObject_ok one
    obtain ⟨⟨properties, parses⟩, bare⟩ := wellformed object (List.mem_cons_self ..)
    obtain ⟨rest, rfl, behind⟩ := ih written fun object member =>
      wellformed object (List.mem_cons_of_mem _ member)
    refine ⟨_, List.append_assoc .., ?_, ?_⟩
    · rintro ⟨all, reads, same⟩
      have first : ∃ read, reader.readObject (.of ((delta.encodeMoqt .moqt18 ++ (block ++
          (object.payloadLength.encodeMoqt .moqt18 ++ writePayload object))) ++ rest)) = .ok read := by
        unfold ReadsAll at reads
        rw [List.length_cons, readObjects] at reads
        obtain ⟨read, after, ran, -⟩ := bind_success reads
        exact ⟨_, ran⟩
      obtain ⟨read, ran⟩ := first
      have small : object.objectId.val ≤ maxVarint := by
        rw [List.append_assoc] at ran
        exact readObject_small (admitObject_ok admitted).2.2 ran
      obtain ⟨found, -, spelled⟩ := reads_written admitted blocked bare parses small
      unfold ReadsAll at reads
      rw [List.length_cons, readObjects, bind_apply, Cursor.of, spelled] at reads
      obtain ⟨others, _, othersRan, made⟩ := bind_success reads
      cases made
      cases same with
      | cons _ later =>
        have small' := behind.mp ⟨others, othersRan, later⟩
        intro object' member
        rcases List.mem_cons.mp member with rfl | old
        · exact small
        · exact small' object' old
    · intro small
      obtain ⟨found, same, spelled⟩ := reads_written admitted blocked bare parses
        (small object (List.mem_cons_self ..))
      obtain ⟨others, reads, later⟩ := behind.mpr fun object member =>
        small object (List.mem_cons_of_mem _ member)
      refine ⟨found :: others, ?_, .cons same later⟩
      exact spelled.bind_all (reads.wrap_all _)

/-- A refusal ahead of the first byte leaves everything as it was. -/
theorem refused_unchanged_iff {object : SubgroupObject} {buf buf' : Bytes} {e : CodecError}
    {reader' : SubgroupObjectReader} (refused : writeObject reader object buf = (.error e, buf', reader')) :
    (buf' = buf ∧ reader' = reader) ↔
      (Admissible reader object → object.extensionHeaders.length ≤ maxVarint) := by
  unfold writeObject at refused
  cases admitted : admitObject reader object with
  | error e =>
    rw [admitted] at refused
    cases refused
    have barred := admitObject_error_iff.mp ⟨e, admitted⟩
    exact ⟨fun _ admissible => absurd admissible barred, fun _ => ⟨rfl, rfl⟩⟩
  | ok delta =>
    rw [admitted] at refused
    dsimp only at refused
    cases blocked : writeExtensions reader.extensionsPresent object.extensionHeaders with
    | ok block =>
      rw [blocked] at refused
      cases refused
    | error e =>
      rw [blocked] at refused
      cases refused
      have long : ¬ object.extensionHeaders.length ≤ maxVarint := by
        intro small
        unfold writeExtensions at blocked
        split_ifs at blocked
        rw [validVarint, VarInt.fromU64_ok small] at blocked
        cases blocked
      have grown : buf ++ delta.encodeMoqt .moqt18 ≠ buf := by
        intro same
        have lengths := congrArg List.length same
        have positive := VarInt.encodeMoqt_length_pos .moqt18 delta
        rw [List.length_append] at lengths
        omega
      have admissible : Admissible reader object := by
        by_contra barred
        obtain ⟨e, refused⟩ := admitObject_error_iff.mpr barred
        cases admitted.symm.trans refused
      exact ⟨fun same => absurd same.1 grown, fun small => absurd (small admissible) long⟩

/-- **What the writer accepts reads back exactly where every Object ID is in the reader's
range**, and what it refuses leaves no byte unless the properties block is beyond it. -/
theorem written_reads_back_iff (header : SubgroupHeader) (objects : List SubgroupObject)
    (reader : SubgroupObjectReader) (object : SubgroupObject) (buf : Bytes) :
    (∀ bytes final, (∀ object ∈ objects, Wellformed header.hasProperties object) →
      writeObjects (.new header) objects [] = .ok (bytes, final) →
        (ReadsBack header objects bytes ↔ ∀ object ∈ objects, object.objectId.val ≤ maxVarint)) ∧
    ∀ e buf' reader', writeObject reader object buf = (.error e, buf', reader') →
      (buf' = buf ∧ reader' = reader ↔
        (Admissible reader object → object.extensionHeaders.length ≤ maxVarint)) := by
  constructor
  · intro bytes final wellformed written
    obtain ⟨bytes', rfl, iff⟩ := reads_back_from written wellformed
    exact iff
  · intro e buf' reader' refused
    exact refused_unchanged_iff refused

/-- A subgroup without properties. -/
def bareHeader : SubgroupHeader :=
  ⟨0x10, .ofU64 1, .ofU64 0, .ofU64 0, some 128⟩

/-- An object of one payload byte. -/
def oneByte (objectId : Nat) (byte : UInt8) : SubgroupObject :=
  ⟨.ofU64 objectId, [], .ofU64 1, none, [byte]⟩

/-- The largest Object ID the reader resolves, and the one behind it, whose distance is
zero. -/
theorem next_id_lost :
    (∀ object ∈ [oneByte (2 ^ 62 - 1) 0xAA, oneByte (2 ^ 62) 0xBB],
      Wellformed bareHeader.hasProperties object) ∧
    writeObjects (.new bareHeader) [oneByte (2 ^ 62 - 1) 0xAA, oneByte (2 ^ 62) 0xBB] [] =
      .ok ([0xFF, 0x3F, 0xFF, 0xFF, 0xFF, 0xFF, 0xFF, 0xFF, 0xFF, 0x01, 0xAA, 0x00, 0x01, 0xBB],
        ⟨false, some (2 ^ 62)⟩) ∧
    ¬ ReadsBack bareHeader [oneByte (2 ^ 62 - 1) 0xAA, oneByte (2 ^ 62) 0xBB]
      [0xFF, 0x3F, 0xFF, 0xFF, 0xFF, 0xFF, 0xFF, 0xFF, 0xFF, 0x01, 0xAA, 0x00, 0x01, 0xBB] := by
  have wellformed : ∀ object ∈ [oneByte (2 ^ 62 - 1) 0xAA, oneByte (2 ^ 62) 0xBB],
      Wellformed bareHeader.hasProperties object := by
    intro object member
    have bare : object.extensionHeaders = [] := by
      rcases List.mem_pair.mp member with rfl | rfl <;> rfl
    exact ⟨⟨[], by rw [bare]; rfl⟩, fun _ => bare⟩
  have written : writeObjects (.new bareHeader) [oneByte (2 ^ 62 - 1) 0xAA, oneByte (2 ^ 62) 0xBB] [] =
      .ok ([0xFF, 0x3F, 0xFF, 0xFF, 0xFF, 0xFF, 0xFF, 0xFF, 0xFF, 0x01, 0xAA, 0x00, 0x01, 0xBB],
        ⟨false, some (2 ^ 62)⟩) := by decide +kernel
  refine ⟨wellformed, written, fun reads => ?_⟩
  obtain ⟨_, rfl, iff⟩ := reads_back_from written wellformed
  have beyond := iff.mp reads (oneByte (2 ^ 62) 0xBB) (List.mem_cons_of_mem _ (List.mem_cons_self ..))
  exact absurd beyond (by decide)

end Moqtap.SubgroupObjects
