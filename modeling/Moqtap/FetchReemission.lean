import Moqtap.AnyFetch

/-! What a relay that removes frames from a fetch stream delivers. Frames read
off one stream and written to another read back with their meaning, whichever
of them were kept; and with nothing removed the writer leaves every frame's
bytes alone exactly while it has an encoding for the frame's numbers. -/
namespace Moqtap.FetchReemission
open ByteCursor Varint CodecTypes FetchStream FetchRestating AnyFetch

/-! ## Streams of objects -/

/-- A frame's header, its payload, and what the frame leaves behind. -/
def readObject (draft : FetchDraft) (prior : Prior) :
    Reader CodecError ((FetchObject × Bytes) × Prior) := do
  let read ← readObjectHeader draft prior
  (fun payload => ((read.1, payload), read.2)) <$> readBytes read.1.header.payloadLength.val

/-- The next `n` frames of a stream. -/
def readObjects (draft : FetchDraft) : Nat → Prior →
    Reader CodecError (List (FetchObject × Bytes) × Prior)
  | 0, prior => pure ([], prior)
  | n + 1, prior => do
    let read ← readObject draft prior
    Prod.map (List.cons read.1) id <$> readObjects draft n read.2

/-- The frames written one after another, each in front of its payload. -/
def writeObjects (draft : FetchDraft) : Prior → List (FetchObject × Bytes) →
    Except CodecError (Bytes × Prior)
  | prior, [] => .ok ([], prior)
  | prior, (frame, payload) :: rest => do
    let written ← writeObjectHeader draft prior frame
    let tail ← writeObjects draft written.2 rest
    return (written.1 ++ (payload ++ tail.1), tail.2)

/-- What a receiver learns of a frame. -/
def delivered (draft : FetchDraft) (object : FetchObject × Bytes) : FetchMeaning × Bytes :=
  (meaning draft object.1, object.2)

/-- A sound frame in front of as much payload as it announces. -/
def WholeObject (draft : FetchDraft) (object : FetchObject × Bytes) : Prop :=
  Sound draft object.1 ∧ object.2.length = object.1.header.payloadLength.val

theorem parses_readObjectHeader {draft : FetchDraft} {prior : Prior} (bounded : prior.Bounded) :
    Parses (readObjectHeader draft prior) fun read _ => Sound draft read.1 ∧ read.2.Bounded := by
  refine (parses_decodeHeader draft).seq fun h _ ⟨laid, short⟩ => ?_
  refine (parses_lift _).imp fun read _ ⟨resolved, _⟩ => ?_
  exact resolve_sound laid short bounded resolved

theorem parses_readObject {draft : FetchDraft} {prior : Prior} (bounded : prior.Bounded) :
    Parses (readObject draft prior) fun read _ => WholeObject draft read.1 ∧ read.2.Bounded := by
  refine (parses_readObjectHeader bounded).seq fun read _ ⟨sound, next⟩ => ?_
  rw [map_eq_bind]
  refine (parses_takeBytes _ _).seq fun payload _ ⟨same, length⟩ => Parses.ret ?_
  exact ⟨⟨sound, same ▸ length⟩, next⟩

theorem parses_readObjects {draft : FetchDraft} (n : Nat) {prior : Prior} (bounded : prior.Bounded) :
    Parses (readObjects draft n prior) fun read _ => ∀ object ∈ read.1, WholeObject draft object := by
  induction n generalizing prior with
  | zero => exact Parses.ret (by simp)
  | succ n ih =>
    refine (parses_readObject bounded).seq fun read _ ⟨whole, next⟩ => ?_
    rw [map_eq_bind]
    refine (ih next).seq fun rest _ wholeRest => Parses.ret ?_
    exact List.forall_mem_cons.mpr ⟨whole, wholeRest⟩

/-- A written header reads back as a frame of the same meaning, and leaves the
reader holding what the writer holds. -/
theorem writeObjectHeader_reads {draft : FetchDraft} {prior after : Prior} {frame : FetchObject}
    {bytes : Bytes} (sound : Sound draft frame) (bounded : prior.Bounded)
    (written : writeObjectHeader draft prior frame = .ok (bytes, after)) :
    ∃ restated, Reads (readObjectHeader draft prior) bytes (restated, after) ∧
      meaning draft restated = meaning draft frame ∧ after.Bounded := by
  obtain ⟨header, stated, written⟩ := except_bind_ok written
  obtain ⟨restated, resolved, same, laid, short⟩ := resolve_headerFor sound bounded stated
  rw [encodeHeader_laid laid, except_ok_bind] at written
  cases written
  exact ⟨restated, (reads_decodeHeader laid short).last (reads_lift resolved), same,
    (resolve_sound laid short bounded resolved).2⟩

theorem writeObjects_reads {draft : FetchDraft} {objects : List (FetchObject × Bytes)} {prior last : Prior}
    {out : Bytes} (whole : ∀ object ∈ objects, WholeObject draft object) (bounded : prior.Bounded)
    (written : writeObjects draft prior objects = .ok (out, last)) :
    ∃ reread, Reads (readObjects draft objects.length prior) out (reread, last) ∧
      reread.map (delivered draft) = objects.map (delivered draft) := by
  induction objects generalizing prior out with
  | nil =>
    cases written
    exact ⟨[], Reads.pure _, rfl⟩
  | cons object rest ih =>
    obtain ⟨frame, payload⟩ := object
    obtain ⟨sound, length⟩ := whole _ List.mem_cons_self
    obtain ⟨⟨header, after⟩, headerWritten, written⟩ := except_bind_ok written
    obtain ⟨⟨tail, final⟩, tailWritten, written⟩ := except_bind_ok written
    cases written
    obtain ⟨restated, reads, same, next⟩ := writeObjectHeader_reads sound bounded headerWritten
    obtain ⟨reread, readsRest, sameRest⟩ :=
      ih (fun object member => whole object (List.mem_cons_of_mem _ member)) next tailWritten
    have sameLength : restated.header.payloadLength = frame.header.payloadLength :=
      congrArg FetchMeaning.payloadLength same
    have readsPayload : Reads (readBytes restated.header.payloadLength.val) payload payload := by
      rw [sameLength, ← length]
      exact reads_takeBytes _ _
    refine ⟨(restated, payload) :: reread, ?_, by simp [delivered, same, sameRest]⟩
    have readsObject : Reads (readObject draft prior) (header ++ payload) ((restated, payload), after) :=
      reads.bind (readsPayload.map fun payload => ((restated, payload), after))
    rw [← List.append_assoc]
    exact readsObject.bind (readsRest.map (Prod.map (List.cons (restated, payload)) id))

/-- Remove any frames from a draft-22 fetch stream: what the writer then states
reads back with every survivor's own meaning and payload. -/
theorem survivors_read_back (order : GroupOrder) {n : Nat} {stream : Bytes} {rest : Cursor} {final : Prior}
    {objects survivors : List (FetchObject × Bytes)} {out : Bytes} {last : Prior}
    (accepted : readObjects (draft22 order) n Prior.new (.of stream) = .ok ((objects, final), rest))
    (kept : survivors.Sublist objects)
    (written : writeObjects (draft22 order) Prior.new survivors = .ok (out, last)) :
    ∃ reread, Reads (readObjects (draft22 order) survivors.length Prior.new) out (reread, last) ∧
      reread.map (delivered (draft22 order)) = survivors.map (delivered (draft22 order)) := by
  obtain ⟨_, _, _, whole⟩ := parses_readObjects n Prior.new_bounded _ _ _ accepted
  exact writeObjects_reads (fun object member => whole object (kept.subset member)) Prior.new_bounded written

/-- An Object stating every field, one inheriting every field, and a marker. -/
def opening : FetchObject × Bytes :=
  (⟨⟨⟨0x1F, by decide⟩, some ⟨5, by decide⟩, some ⟨1, by decide⟩, some ⟨0, by decide⟩, some 0x80, none,
    ⟨1, by decide⟩⟩, 5, some 1, 0, some 0x80⟩, [0xAA])

def inheriting : FetchObject × Bytes :=
  (⟨⟨⟨0x01, by decide⟩, none, none, none, none, none, ⟨1, by decide⟩⟩, 5, some 1, 1, some 0x80⟩, [0xBB])

def closing : FetchObject × Bytes :=
  (⟨⟨⟨0x8C, by decide⟩, some ⟨0, by decide⟩, none, some ⟨7, by decide⟩, none, none, ⟨0, by decide⟩⟩,
    6, none, 7, some 0x80⟩, [])

theorem survivors_read_back_unheaded : ∃ reread,
    Reads (readObjects (draft22 .ascending) 2 Prior.new) [0x1F, 5, 1, 1, 0x80, 1, 0xBB, 0x80, 0x8C, 0, 7, 0]
      (reread, ⟨some (6, 7), some 1, some 0x80⟩) ∧
      reread.map (delivered (draft22 .ascending)) =
        [inheriting, closing].map (delivered (draft22 .ascending)) :=
  @survivors_read_back .ascending 3
    [0x1F, 5, 1, 0, 0x80, 1, 0xAA, 0x01, 1, 0xBB, 0x80, 0x8C, 0, 7, 0] (.of [])
    ⟨some (6, 7), some 1, some 0x80⟩ [opening, inheriting, closing] [inheriting, closing] _ _
    (by decide +kernel) (List.sublist_cons_self _ _) (by decide +kernel)

/-! ## With nothing removed -/

section Relay
variable (absoluteMeta : DraftVersion → Reader CodecError AnyFetchObjectMeta)

/-- The next `n` frames of a stream, each with the bytes it took. -/
def readFrames : Nat → FetchState → Reader CodecError (List (AnyFetchFrame × Bytes) × FetchState)
  | 0, state => pure ([], state)
  | n + 1, state => do
    let read ← consumed (readObjectFrame absoluteMeta state)
    Prod.map (List.cons (read.1.1, read.2)) id <$> readFrames n read.1.2

/-- Every frame shown to the writer in turn: its answers and the bytes forwarded. -/
def relayed : FetchState → List (AnyFetchFrame × Bytes) → Except CodecError (List FetchReemit × Bytes)
  | _, [] => .ok ([], [])
  | writer, (frame, raw) :: rest => do
    let reemitted ← reemitObject writer frame raw
    let tail ← relayed reemitted.2.2 rest
    return (reemitted.1 :: tail.1,
      (if reemitted.1 = .unchanged then raw else reemitted.2.1) ++ tail.2)

/-- The frame's numbers are ones the writer has an encoding for. -/
def Restatable (rules : FetchDraft) (frame : AnyFetchFrame) : Prop :=
  ∀ object, frame.shape = .since17 object → Expressible rules object.header

/-- What reading a frame of drafts 17 and later establishes. -/
structure FrameRead (draft : DraftVersion) (rules : FetchDraft) (prior : Prior) (frame : AnyFetchFrame)
    (after : FetchState) (raw : Bytes) (object : FetchObject) (next : Prior) : Prop where
  sameDraft : frame.draft = draft
  shape : frame.shape = .since17 object
  moved : after = .since17 draft rules next
  wireLen : frame.framing.wireLen = raw.length
  laid : Laid rules object.header
  resolved : resolve rules prior object.header = .ok (object, next)

theorem parses_readObjectFrame (draft : DraftVersion) (rules : FetchDraft) (prior : Prior) :
    Parses (readObjectFrame absoluteMeta (.since17 draft rules prior)) fun read used =>
      ∃ object next, FrameRead draft rules prior read.1 read.2 used object next := by
  have header : Parses (readObjectHeader rules prior) fun read _ =>
      Laid rules read.1.header ∧ resolve rules prior read.1.header = .ok read := by
    refine (parses_decodeHeader rules).seq fun h _ ⟨laid, _⟩ => ?_
    refine (parses_lift _).imp fun read _ ⟨resolved, _⟩ => ?_
    obtain ⟨same, -⟩ := resolve_cases resolved
    exact same ▸ ⟨laid, resolved⟩
  have whole : Parses (framed .unexpectedEnd (readObjectHeader rules prior) fun read => read.1.header.payloadLength.val)
      fun read _ => Laid rules read.1.header ∧ resolve rules prior read.1.header = .ok read := by
    refine header.seq fun read _ holds => ?_
    exact (parses_skipBytes _ _).seq fun _ _ _ => Parses.ret holds
  refine whole.measured.seq fun read used ⟨⟨laid, resolved⟩, length⟩ => Parses.ret ?_
  refine ⟨read.1.1, read.1.2, rfl, rfl, rfl, ?_, laid, resolved⟩
  rw [List.append_nil]
  exact length

variable {absoluteMeta}

/-- Where the reader stood, the writer answers a frame with its own bytes, and
refuses it exactly when it has no encoding for one of the frame's numbers. -/
theorem reemit_frame_iff {draft : DraftVersion} {rules : FetchDraft} {prior next : Prior}
    {frame : AnyFetchFrame} {after : FetchState} {raw : Bytes} {object : FetchObject}
    {answer : FetchReemit × Bytes × FetchState}
    (read : FrameRead draft rules prior frame after raw object next) :
    reemitObject (.since17 draft rules prior) frame raw = .ok answer ↔
      answer = (.unchanged, [], after) ∧ Restatable rules frame := by
  obtain ⟨sameDraft, shape, rfl, wireLen, laid, resolved⟩ := read
  obtain ⟨-, advanced, -⟩ := resolve_cases resolved
  obtain ⟨framing, frameDraft, _⟩ := frame
  cases shape
  cases sameDraft
  have enough : (AnyFetchFrame.mk framing frameDraft (.since17 object)).framingLen ≤ raw.length := by
    simpa [AnyFetchFrame.framingLen] using Nat.le_add_right_of_le wireLen.le
  unfold reemitObject Restatable
  simp only [FetchState.draft, bne_self_eq_false, refuseIf, Nat.not_lt.mpr enough, except_ok_bind,
    except_bind_iff, headerFor_original laid resolved, FetchFrameShape.since17.injEq, forall_eq',
    decide_false, Bool.false_eq_true, if_false]
  constructor
  · rintro ⟨_, ⟨rfl, fits⟩, _, same, made⟩
    rw [putReframed_original] at same
    cases same
    cases made
    exact ⟨by rw [advanced], fits⟩
  · rintro ⟨rfl, fits⟩
    exact ⟨_, ⟨rfl, fits⟩, _, putReframed_original, by rw [advanced]; rfl⟩

theorem relayed_cons {draft : DraftVersion} {rules : FetchDraft} {prior next : Prior}
    {frame : AnyFetchFrame} {after : FetchState} {raw : Bytes} {object : FetchObject}
    {rest : List (AnyFetchFrame × Bytes)} {answers : List FetchReemit} {bytes : Bytes}
    (read : FrameRead draft rules prior frame after raw object next) :
    relayed (.since17 draft rules prior) ((frame, raw) :: rest) = .ok (answers, bytes) ↔
      Restatable rules frame ∧ ∃ tail, relayed after rest = .ok tail ∧
        answers = .unchanged :: tail.1 ∧ bytes = raw ++ tail.2 := by
  simp only [relayed, except_bind_iff, reemit_frame_iff read]
  constructor
  · rintro ⟨_, ⟨rfl, fits⟩, tail, ran, made⟩
    cases made
    exact ⟨fits, tail, ran, rfl, rfl⟩
  · rintro ⟨fits, tail, ran, rfl, rfl⟩
    exact ⟨_, ⟨rfl, fits⟩, tail, ran, rfl⟩

/-- Over a whole run: the frames keep their bytes as long as each is one the writer
has an encoding for, and not otherwise. -/
theorem parses_relayed (n : Nat) (draft : DraftVersion) (rules : FetchDraft) (prior : Prior) :
    Parses (readFrames absoluteMeta n (.since17 draft rules prior)) fun read used =>
      relayed (.since17 draft rules prior) read.1 = .ok (List.replicate n .unchanged, used) ↔
        ∀ frame ∈ read.1, Restatable rules frame.1 := by
  induction n generalizing prior with
  | zero => exact Parses.ret ⟨fun _ => by simp, fun _ => rfl⟩
  | succ n ih =>
    refine (parses_readObjectFrame absoluteMeta draft rules prior).consumed.seq
      fun read used ⟨⟨object, next, frameRead⟩, raw⟩ => ?_
    rw [map_eq_bind, frameRead.moved]
    refine (ih next).seq fun rest more restIff => Parses.ret ?_
    show relayed _ ((read.1.1, read.2) :: rest.1) = _ ↔ ∀ frame ∈ (read.1.1, read.2) :: rest.1, _
    rw [List.append_nil, List.forall_mem_cons, ← restIff, raw, relayed_cons frameRead, frameRead.moved]
    constructor
    · rintro ⟨fits, ⟨answers, bytes⟩, ran, sameAnswers, sameBytes⟩
      obtain ⟨-, rfl⟩ := List.cons.inj sameAnswers
      exact ⟨fits, List.append_cancel_left sameBytes ▸ ran⟩
    · rintro ⟨fits, ran⟩
      exact ⟨fits, _, ran, rfl, rfl⟩

/-- A draft-22 fetch stream shown to its writer frame by frame is answered unchanged
throughout, and so reproduced, exactly when every frame is one the writer has an
encoding for: no number above the RFC 9000 ceiling, no Object that stands still. -/
theorem relayed_unchanged_iff (order : GroupOrder) {n : Nat} {stream : Bytes} {rest : Cursor}
    {frames : List (AnyFetchFrame × Bytes)} {final : FetchState}
    (accepted : readFrames absoluteMeta n (.new .draft22 order) (.of stream) = .ok ((frames, final), rest)) :
    (∃ bytes, relayed (.new .draft22 order) frames = .ok (List.replicate n .unchanged, bytes) ∧
      stream = bytes ++ rest.real) ↔ ∀ frame ∈ frames, Restatable (draft22 order) frame.1 := by
  obtain ⟨used, split, -, whole⟩ := parses_relayed n .draft22 (draft22 order) .new _ _ _ accepted
  rw [← whole]
  constructor
  · rintro ⟨bytes, ran, same⟩
    cases List.append_cancel_right (same.symm.trans split)
    exact ran
  · exact fun ran => ⟨used, ran, split⟩

/-- No frame of drafts up to 14 is read below. -/
def noAbsolute (_ : DraftVersion) : Reader CodecError AnyFetchObjectMeta := fail .invalidField

def readBack (object : FetchObject × Bytes) (raw : Bytes) : AnyFetchFrame × Bytes :=
  (frame17 .draft22 (draft22 .ascending) object.1 raw.length, raw)

theorem relayed_unchanged_inheriting :
    (∃ bytes, relayed (.new .draft22 .ascending)
        [readBack opening [0x1F, 5, 1, 0, 0x80, 1, 0xAA], readBack inheriting [0x01, 1, 0xBB]] =
          .ok (List.replicate 2 .unchanged, bytes) ∧
        [0x1F, 5, 1, 0, 0x80, 1, 0xAA, 0x01, 1, 0xBB] = bytes ++ []) ↔
      ∀ frame ∈ [readBack opening [0x1F, 5, 1, 0, 0x80, 1, 0xAA], readBack inheriting [0x01, 1, 0xBB]],
        Restatable (draft22 .ascending) frame.1 :=
  @relayed_unchanged_iff noAbsolute .ascending 2 _ (.of []) _
    (.since17 .draft22 (draft22 .ascending) ⟨some (5, 1), some 1, some 0x80⟩) (by decide +kernel)

/-- An Object with an Object ID Delta of zero and no Group ID Delta. -/
def standing : FetchObject × Bytes :=
  (⟨⟨⟨0x05, by decide⟩, none, none, some ⟨0, by decide⟩, none, none, ⟨1, by decide⟩⟩, 5, some 1, 0,
    some 0x80⟩, [0xBB])

/-- The reader takes an Object that stands still, and the writer refuses it. -/
theorem standing_refused : ¬ ∀ (absoluteMeta : DraftVersion → Reader CodecError AnyFetchObjectMeta)
    (order : GroupOrder) (n : Nat) (stream : Bytes) (frames : List (AnyFetchFrame × Bytes))
    (final : FetchState) (rest : Cursor),
    readFrames absoluteMeta n (.new .draft22 order) (.of stream) = .ok ((frames, final), rest) →
      ∃ bytes, relayed (.new .draft22 order) frames = .ok (List.replicate n .unchanged, bytes) := by
  intro unchanged
  have accepted : readFrames noAbsolute 2 (.new .draft22 .ascending)
      (.of [0x1F, 5, 1, 0, 0x80, 1, 0xAA, 0x05, 0, 1, 0xBB]) =
        .ok (([readBack opening [0x1F, 5, 1, 0, 0x80, 1, 0xAA], readBack standing [0x05, 0, 1, 0xBB]],
          .since17 .draft22 (draft22 .ascending) ⟨some (5, 0), some 1, some 0x80⟩), .of []) := by
    decide +kernel
  have refused : relayed (.new .draft22 .ascending)
      [readBack opening [0x1F, 5, 1, 0, 0x80, 1, 0xAA], readBack standing [0x05, 0, 1, 0xBB]] =
        .error .invalidField := by
    decide +kernel
  obtain ⟨bytes, ran⟩ := unchanged _ _ _ _ _ _ _ accepted
  rw [refused] at ran
  cases ran

end Relay

end Moqtap.FetchReemission
