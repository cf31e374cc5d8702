import Moqtap.SubgroupRelay

/-! The framer on a draft-22 subgroup stream puts out what the relay of whole objects
does, however the bytes come in: an object that completes in the buffer, one measured
against padding before it has arrived and one streamed through in chunks leave the same
delta state and the same bytes owed. -/
namespace Moqtap.SubgroupFraming
open ByteCursor Varint CodecTypes Framer ObjectFramer Draft22.Subgroup SubgroupRelay

abbrev Out := FramerOut SubgroupHeader FetchHeader
abbrev SubgroupFramer := ObjectFramer SubgroupObjectReader

/-! ## Items in chunks -/

/-- The framer's items spell out the relay's: a skipped object's bytes may come in any
number of chunks. -/
inductive Yields : List Out → List Item → Prop where
  | nil : Yields [] []
  | header {header : SubgroupHeader} {raw : Bytes} {outs : List Out} {items : List Item}
      (rest : Yields outs items) :
      Yields (.header (.subgroup header) raw :: outs) (.header header raw :: items)
  | object {framing : ObjectMeta} {raw : Bytes} {outs : List Out} {items : List Item}
      (rest : Yields outs items) : Yields (.object framing raw :: outs) (.object framing raw :: items)
  | skipped (chunks : List Bytes) {outs : List Out} {items : List Item} (rest : Yields outs items) :
      Yields (chunks.map .passthrough ++ outs) (.skipped chunks.flatten :: items)

theorem Yields.emitted {outs : List Out} {items : List Item} (yields : Yields outs items) :
    emitted outs = items.flatMap Item.raw := by
  induction yields with
  | nil => rfl
  | header rest ih => simpa [Framer.emitted, FramerOut.raw, Item.raw] using ih
  | object rest ih => simpa [Framer.emitted, FramerOut.raw, Item.raw] using ih
  | skipped chunks rest ih =>
    simp only [Framer.emitted, List.flatMap_append, List.flatMap_cons, Item.raw] at ih ⊢
    rw [ih]
    congr 1
    induction chunks with
    | nil => rfl
    | cons chunk chunks more => simp [FramerOut.raw, more]

/-- What is still to come of a skipped object, and the items behind it. -/
def skipping (owed : Bytes) (items : List Item) : List Item :=
  if owed = [] then items else .skipped owed :: items

theorem Yields.skipping {outs : List Out} {items : List Item} {owed : Bytes}
    (yields : Yields outs (skipping owed items)) (chunk : Bytes) :
    Yields (.passthrough chunk :: outs) (.skipped (chunk ++ owed) :: items) := by
  unfold SubgroupFraming.skipping at yields
  split at yields
  · rename_i nothing
    have one := Yields.skipped [chunk] yields
    simpa [nothing] using one
  · cases yields with
    | skipped chunks rest => exact Yields.skipped (chunk :: chunks) rest

/-! ## Where the framer stands -/

/-- The Object ID last put out, were the object in hand forwarded. -/
def cursor (framer : SubgroupFramer) : Option Nat :=
  match framer.pendingDisposition with
  | some pending => some pending.objectId
  | none => framer.lastForwardedId

/-- Behind the header: `reader` has read all but `todo`, `owed` bytes of the object before
them are still to be passed through, and buffer and `unfed` make up the rest. -/
structure Amid (stream : SubgroupStream) (framer : SubgroupFramer) (unfed : Bytes)
    (reader : SubgroupObjectReader) (owed : Bytes) (todo : List (SubgroupObject × Bytes)) : Prop where
  live : framer.bypassed = false
  quiet : framer.pendingBypass = none
  stage : framer.stage = .subgroup reader
  context : framer.context = subgroupContext stream.header
  owes : framer.passthroughRemaining = owed.length
  bytes : framer.buf ++ unfed = owed ++ raws todo
  turn : ReadInTurn reader todo
  abreast : Abreast (cursor framer) framer.fixupPending reader.prevObjectId
  within : ∀ object ∈ todo, object ∈ stream.objects

section Stands
variable (stream : SubgroupStream) (cap : Nat) (fetchOrders : Option (Nat → Option FetchStream.GroupOrder))
  (elide : ObjectMeta → Bool)

/-- The items still to be put out. -/
def remaining (framer : SubgroupFramer) (owed : Bytes) (todo : List (SubgroupObject × Bytes)) : List Item :=
  skipping owed (relayed cap elide (subgroupContext stream.header) (cursor framer) framer.fixupPending
    framer.indexInStream todo)

inductive Stands (framer : SubgroupFramer) (unfed : Bytes) (items : List Item) : Prop where
  | awaiting (fresh : framer = { buf := framer.buf }) (bytes : framer.buf ++ unfed = stream.bytes)
      (left : items = stream.items cap elide)
  | amid (reader : SubgroupObjectReader) (owed : Bytes) (todo : List (SubgroupObject × Bytes))
      (amid : Amid stream framer unfed reader owed todo)
      (left : items = remaining stream cap elide framer owed todo)

/-- An object the framer may fail to measure: its framing fills the buffer, or it ends
beyond any padding behind it. -/
def Unmeasurable (object : SubgroupObject × Bytes) : Prop :=
  cap ≤ framingLen object ∨ cap + unboundedMeasuringPad < object.2.length

/-- Something in the stream may stop the framer. -/
def Obstructed : Prop :=
  cap ≤ stream.headerRaw.length ∨ ∃ object ∈ stream.objects, Unmeasurable cap object

/-- After putting some items out the framer stands where the rest are to come, or it has
been stopped. -/
def Follows (unfed : Bytes) (items : List Item) (ran : List Out × SubgroupFramer) : Prop :=
  (ran.2.bypassed = true ∧ Obstructed stream cap) ∨
    ∃ left, Stands stream cap elide ran.2 unfed left ∧
      ∀ outs, Yields outs left → Yields (ran.1 ++ outs) items

end Stands

variable {stream : SubgroupStream} {cap : Nat} {fetchOrders : Option (Nat → Option FetchStream.GroupOrder)}
  {elide : ObjectMeta → Bool} {framer : SubgroupFramer} {unfed : Bytes} {items : List Item}
  {reader : SubgroupObjectReader} {owed : Bytes} {todo : List (SubgroupObject × Bytes)}

theorem Stands.idle (stands : Stands stream cap elide framer unfed items) :
    Follows stream cap elide unfed items (([] : List Out), framer) :=
  .inr ⟨items, stands, fun _ yields => yields⟩

theorem Stands.feed (chunk : Bytes) (stands : Stands stream cap elide framer (chunk ++ unfed) items) :
    Stands stream cap elide (framer.feed chunk) unfed items := by
  cases stands with
  | awaiting fresh bytes left =>
    exact .awaiting (by rw [fresh]; rfl) (by simpa [ObjectFramer.feed] using bytes) left
  | amid reader owed todo amid left =>
    exact .amid reader owed todo
      ⟨amid.live, amid.quiet, amid.stage, amid.context, amid.owes,
        by simpa [ObjectFramer.feed] using amid.bytes, amid.turn, amid.abreast, amid.within⟩ left

/-! ## Bytes that are a prefix of the stream -/

/-! ## The header -/

/-- The whole header is in the buffer. -/
theorem poll_header (fresh : framer = { buf := framer.buf }) {more : Bytes}
    (whole : framer.buf = stream.headerRaw ++ more) (rest : more ++ unfed = raws stream.objects) :
    ∃ after, step codec (setup cap fetchOrders) elide framer .poll =
        ([.header (.subgroup stream.header) stream.headerRaw], after) ∧ after.buf = more ∧
      Amid stream after unfed (.new stream.header) [] stream.objects ∧ cursor after = none ∧
      after.fixupPending = false ∧ after.indexInStream = 0 := by
  have polled : framer.poll codec (setup cap fetchOrders) =
      framer.pollHeader codec (setup cap fetchOrders) := by
    rw [fresh]
    rfl
  have read : decodeStreamHeader codec (setup cap fetchOrders) (.of framer.buf) =
      .ok (.subgroup stream.header, ⟨more, 0⟩) := by
    rw [whole]
    exact ((exact_decodeHeader.spells stream.headerReads).reads.map _) more 0
  have nonempty : framer.buf.isEmpty = false := by
    cases held : framer.buf with
    | nil =>
      rw [held] at read
      cases read
    | cons => rfl
  have taken : framer.buf.length - (⟨more, 0⟩ : Cursor).remaining = stream.headerRaw.length := by
    simp [whole, Cursor.remaining]
  simp only [step, polled, pollHeader, nonempty, Bool.false_eq_true, ↓reduceIte, read, taken]
  rw [whole, List.take_left, List.drop_left]
  simp only [deliver, openStage, codec]
  refine ⟨_, rfl, rfl, ?_, ?_⟩
  · rw [fresh]
    exact ⟨rfl, rfl, rfl, rfl, rfl, rest, stream.objectsRead, Abreast.start, fun _ member => member⟩
  · rw [fresh]
    exact ⟨rfl, rfl, rfl⟩

theorem poll_awaiting (fresh : framer = { buf := framer.buf }) (bytes : framer.buf ++ unfed = stream.bytes) :
    Follows stream cap elide unfed (stream.items cap elide)
      (step codec (setup cap fetchOrders) elide framer .poll) := by
  rcases whole_or_short bytes with ⟨more, whole, rest⟩ | ⟨part, short, nonempty, -⟩
  · obtain ⟨after, stepped, -, amid, at', level, index⟩ :=
      @poll_header _ cap fetchOrders elide _ _ fresh _ whole rest
    rw [stepped]
    refine .inr ⟨_, .amid _ _ _ amid rfl, fun outs yields => ?_⟩
    simp only [remaining, skipping, ↓reduceIte, at', level, index] at yields
    exact yields.header
  · have polled : framer.poll codec (setup cap fetchOrders) =
        framer.pollHeader codec (setup cap fetchOrders) := by
      rw [fresh]
      rfl
    simp only [step, polled, pollHeader]
    by_cases empty : framer.buf.isEmpty = true
    · simp only [empty, ↓reduceIte, deliver]
      exact Stands.idle (.awaiting fresh bytes rfl)
    · have spells : Spells CodecError.Incomplete (decodeStreamHeader codec (setup cap fetchOrders))
          stream.headerRaw (.subgroup stream.header) :=
        (exact_decodeHeader.spells stream.headerReads).map _
      obtain ⟨e, starved, incomplete⟩ := spells.starves _ _ short nonempty
      have waits : e.isIncomplete = true := incomplete
      simp only [empty, Bool.false_eq_true, ↓reduceIte, starved, waits]
      by_cases full : framer.buf.length ≥ (setup cap fetchOrders).config.maxBufferedObjectBytes
      · simp only [full, ↓reduceIte, abandon, emitPassthrough, latchBypass, empty, Bool.false_eq_true,
          deliver]
        refine .inl ⟨rfl, .inl (le_trans full ?_)⟩
        simp [short]
      · simp only [full, ↓reduceIte, deliver]
        exact Stands.idle (.awaiting fresh bytes rfl)

/-! ## Bytes still owed to an object -/

theorem poll_owing (amid : Amid stream framer unfed reader owed todo) (owing : owed ≠ []) :
    Follows stream cap elide unfed (remaining stream cap elide framer owed todo)
      (step codec (setup cap fetchOrders) elide framer .poll) := by
  have positive : 0 < framer.passthroughRemaining := by
    rw [amid.owes]
    exact List.length_pos_of_ne_nil owing
  simp only [step, poll, amid.quiet, positive, ↓reduceIte, emitPassthrough]
  by_cases empty : framer.buf.isEmpty = true
  · simp only [empty, ↓reduceIte, deliver]
    exact Stands.idle (.amid reader owed todo amid rfl)
  · simp only [empty, Bool.false_eq_true, ↓reduceIte, deliver]
    generalize count : min framer.passthroughRemaining framer.buf.length = k
    have fits : k ≤ owed.length ∧ k ≤ framer.buf.length := by
      rw [← count, ← amid.owes]
      exact ⟨min_le_left _ _, min_le_right _ _⟩
    have front : framer.buf.take k = owed.take k := by
      have fronts := congrArg (List.take k) amid.bytes
      rwa [List.take_append_of_le_length fits.2, List.take_append_of_le_length fits.1] at fronts
    have back : framer.buf.drop k ++ unfed = owed.drop k ++ raws todo := by
      have backs := congrArg (List.drop k) amid.bytes
      rwa [List.drop_append_of_le_length fits.2, List.drop_append_of_le_length fits.1] at backs
    refine .inr ⟨_, .amid reader (owed.drop k) todo ?_ rfl, ?_⟩
    · exact ⟨amid.live, rfl, amid.stage, amid.context, by simp [amid.owes], back, amid.turn,
        amid.abreast, amid.within⟩
    · intro outs yields
      have joined := yields.skipping (owed.take k)
      rw [List.take_append_drop] at joined
      simp only [remaining, skipping, owing, ↓reduceIte, front]
      exact joined

/-! ## The next object -/

/-- What the codec's reader answers for an object of these bytes. -/
def probed (reader : SubgroupObjectReader) (object : SubgroupObject) (wireLen : Nat) :
    Probe SubgroupObjectReader :=
  .subgroup (reader.past object.objectId) (anyMeta (metaOf object wireLen))

/-- The stage's reader, measuring a framing and the payload behind it. -/
def measure (reader : SubgroupObjectReader) : Reader CodecError (Probe SubgroupObjectReader) :=
  (fun read => .subgroup read.2 read.1) <$> codec.readObjectMeta reader

theorem measure_eq (reader : SubgroupObjectReader) :
    measure reader = (measured (framed .unexpectedEnd (readFraming reader) fun read => read.2.payloadLength)
      >>= fun read => pure (.subgroup (reader.past read.1.1) (anyMeta
        ⟨read.1.1.val, read.1.2.extensionHeadersLen, read.1.2.payloadLength,
          read.1.2.status.map ObjectStatus.asU64, read.2⟩))) := by
  funext cursor
  simp only [measure, codec, map_eq_bind, SubgroupObjectReader.readObjectMeta, bind_apply]
  cases measured (framed .unexpectedEnd (readFraming reader) fun read => read.2.payloadLength) cursor <;> rfl

section Object
variable {object : SubgroupObject} {idField tail : Bytes}

theorem measure_spells (wire : Wire reader.extensionsPresent reader.prevObjectId object idField tail) :
    Spells CodecError.Incomplete (measure reader) (idField ++ tail ++ object.payload)
      (probed reader object (idField ++ tail ++ object.payload).length) :=
  (wire.readObjectMeta.map _).map _

/-- A chunk that holds an object's Object ID field is fixed up as the object is, and the
debt is settled. -/
theorem applyElideFixup_eq (wire : Wire reader.extensionsPresent reader.prevObjectId object idField tail)
    (abreast : Abreast framer.lastForwardedId framer.fixupPending reader.prevObjectId)
    {len wireLen : Nat} {part : Bytes} (chunk : framer.buf.take len = idField ++ part) :
    ∃ fixed, framer.applyElideFixup (setup cap fetchOrders) len (probed reader object wireLen) =
        (.ok fixed, { framer with fixupPending := false }) ∧
      fixed.getD (idField ++ part) =
        rewritten framer.lastForwardedId framer.fixupPending object.objectId.val (idField ++ part) := by
  have deltas : (setup cap fetchOrders).deltaEncodesObjectIds = true := rfl
  cases owing : framer.fixupPending with
  | false =>
    refine ⟨none, ?_, rfl⟩
    simp only [applyElideFixup, probed, owing, deltas, Bool.not_true, Bool.not_false, Bool.or_false,
      ↓reduceIte]
    congr 1
    rw [← owing]
  | true =>
    rw [owing] at abreast
    obtain ⟨field, _, -, -, written⟩ := wire_reemit wire abreast
    obtain ⟨how, out⟩ := written part
    refine ⟨some (field ++ part), ?_, ?_⟩
    · simp only [applyElideFixup, probed, owing, deltas, Bool.not_true, Bool.or_false, Bool.false_eq_true,
        ↓reduceIte, chunk, anyMeta, metaOf]
      rw [show (setup cap fetchOrders).draft = .draft22 from rfl, out]
    · simp only [rewritten, ↓reduceIte, out, Option.getD_some]

/-- The framer behind an object it put out, whole or in part. -/
structure Behind (framer after : SubgroupFramer) (reader : SubgroupObjectReader) (object : SubgroupObject)
    (buf : Bytes) (owes : Nat) : Prop where
  live : after.bypassed = framer.bypassed
  quiet : after.pendingBypass = framer.pendingBypass
  stage : after.stage = .subgroup (reader.past object.objectId)
  context : after.context = framer.context
  buf : after.buf = buf
  owes : after.passthroughRemaining = owes
  pending : after.pendingDisposition = some ⟨object.objectId.val, framer.indexInStream⟩
  forwarded : after.lastForwardedId = framer.lastForwardedId
  level : after.fixupPending = false
  index : after.indexInStream = framer.indexInStream + 1

/-- The bytes put out for (a part of) the object in hand. -/
def sent (framer : SubgroupFramer) (object : SubgroupObject) (bytes : Bytes) : Bytes :=
  rewritten framer.lastForwardedId framer.fixupPending object.objectId.val bytes

theorem readStage_subgroup (stage : framer.stage = .subgroup reader) :
    readStage codec framer.stage = some (measure reader) := by
  rw [stage]
  rfl

/-- The whole object is in the buffer. -/
theorem pollCommitted_whole (wire : Wire reader.extensionsPresent reader.prevObjectId object idField tail)
    (stage : framer.stage = .subgroup reader)
    (abreast : Abreast framer.lastForwardedId framer.fixupPending reader.prevObjectId)
    {more : Bytes} (buf : framer.buf = idField ++ tail ++ object.payload ++ more)
    (nonempty : framer.buf.isEmpty = false) :
    ∃ after, framer.pollCommitted codec (setup cap fetchOrders) =
        (if cap < (idField ++ tail ++ object.payload).length then
          .passthrough (sent framer object (idField ++ tail ++ object.payload))
        else .object (framingOf framer.context framer.indexInStream object)
          (sent framer object (idField ++ tail ++ object.payload)), after) ∧
      Behind framer after reader object more framer.passthroughRemaining := by
  have read : measure reader (.of framer.buf) =
      .ok (probed reader object (idField ++ tail ++ object.payload).length, ⟨more, 0⟩) := by
    rw [buf]
    exact (measure_spells wire).reads more 0
  have taken : framer.buf.length - (⟨more, 0⟩ : Cursor).remaining =
      (idField ++ tail ++ object.payload).length := by
    simp only [buf, Cursor.remaining, List.length_append]
    omega
  have front : framer.buf.take (idField ++ tail ++ object.payload).length =
      idField ++ (tail ++ object.payload) := by
    rw [buf, List.take_left, List.append_assoc]
  have back : framer.buf.drop (idField ++ tail ++ object.payload).length = more := by
    rw [buf, List.drop_left]
  obtain ⟨fixed, outcome, bytes⟩ := @applyElideFixup_eq cap fetchOrders _ _ _ _ _ wire abreast _
    (idField ++ tail ++ object.payload).length _ front
  simp only [pollCommitted, nonempty, Bool.false_eq_true, ↓reduceIte, readStage_subgroup stage, read,
    taken, withFixup, outcome, emitWhole, bytes, back, front]
  refine ⟨_, Prod.ext ?_ rfl, ?_⟩
  · simp only [sent, List.append_assoc, setup]
    rfl
  · refine ⟨?_, ?_, ?_, ?_, rfl, ?_, rfl, ?_, ?_, rfl⟩ <;> simp [commit, stage, probed]

theorem framingLen_eq (wire : Wire reader.extensionsPresent reader.prevObjectId object idField tail) :
    framingLen (object, idField ++ tail ++ object.payload) = (idField ++ tail).length := by
  simp only [framingLen, ← wire.length, List.length_append]
  omega

theorem measurable_iff (wire : Wire reader.extensionsPresent reader.prevObjectId object idField tail)
    (measurable : ¬ Unmeasurable cap (object, idField ++ tail ++ object.payload)) :
    (idField ++ tail).length < cap ∧
      (idField ++ tail ++ object.payload).length ≤ cap + unboundedMeasuringPad := by
  unfold Unmeasurable at measurable
  rw [framingLen_eq wire, not_or, Nat.not_le, Nat.not_lt] at measurable
  exact measurable

/-- With its framing in the buffer and the padding reaching its end, an object is measured
as the object it is. -/
theorem measure_ahead (wire : Wire reader.extensionsPresent reader.prevObjectId object idField tail)
    {buf part : Bytes} (cut : idField ++ tail ++ object.payload = buf ++ part) {pad : Nat}
    (framed : (idField ++ tail).length ≤ buf.length)
    (reached : (idField ++ tail ++ object.payload).length ≤ buf.length + pad) :
    ∃ rest, measure reader ⟨buf, pad⟩ =
      .ok (probed reader object (idField ++ tail ++ object.payload).length, rest) := by
  obtain ⟨front, rfl⟩ : ∃ front, buf = idField ++ tail ++ front := by
    have prefixes : buf.take (idField ++ tail).length = idField ++ tail := by
      have fronts := congrArg (List.take (idField ++ tail).length) cut
      rw [List.take_left, List.take_append_of_le_length framed] at fronts
      exact fronts.symm
    exact ⟨buf.drop (idField ++ tail).length, by
      conv_lhs => rw [← List.take_append_drop (idField ++ tail).length buf, prefixes]⟩
  have reach : object.payload.length ≤ front.length + pad := by
    simp only [List.length_append] at reached
    omega
  obtain ⟨rest, ran⟩ := @measured_framed _ _ .unexpectedEnd _ (fun read => read.2.payloadLength) _ _ _ _
    part _ wire.framing wire.length.symm _ reach cut.symm
  refine ⟨rest, ?_⟩
  rw [measure_eq, bind_apply, ran]
  rfl

/-- Whatever the padding makes of a chunk, either padding was counted as framing or the
chunk holds the object's whole framing and it is measured right. -/
theorem measure_success (wire : Wire reader.extensionsPresent reader.prevObjectId object idField tail)
    {buf part : Bytes} (cut : idField ++ tail ++ object.payload = buf ++ part) {pad : Nat}
    {probe : Probe SubgroupObjectReader} {rest : Cursor}
    (ran : measure reader ⟨buf, pad⟩ = .ok (probe, rest)) :
    buf.length < probe.wireLen - probe.payloadLength ∨
      probe = probed reader object (idField ++ tail ++ object.payload).length ∧
        (idField ++ tail ++ object.payload).length ≤ buf.length + pad ∧
          ∃ front, buf = idField ++ tail ++ front := by
  rw [measure_eq] at ran
  obtain ⟨⟨found, wireLen⟩, _, measuredRan, ran⟩ := bind_success ran
  cases ran
  rcases measured_framed_success (honest_readFraming reader) wire.framing wire.length.symm cut measuredRan with
    padded | ⟨front, rfl, rfl, reach⟩
  · exact .inl padded
  · exact .inr ⟨rfl, reach, front⟩

/-- Only part of the object is in the buffer. -/
theorem pollCommitted_short (wire : Wire reader.extensionsPresent reader.prevObjectId object idField tail)
    (stage : framer.stage = .subgroup reader)
    (abreast : Abreast framer.lastForwardedId framer.fixupPending reader.prevObjectId)
    {part : Bytes} (cut : idField ++ tail ++ object.payload = framer.buf ++ part) (missing : part ≠ [])
    (nonempty : framer.buf.isEmpty = false) :
    (framer.buf.length < cap ∧ framer.pollCommitted codec (setup cap fetchOrders) = (.needMore, framer)) ∨
      (framer.pollCommitted codec (setup cap fetchOrders) = framer.abandon .objectBeyondMeasuringReach ∧
        Unmeasurable cap (object, idField ++ tail ++ object.payload)) ∨
      ∃ after, cap < (idField ++ tail ++ object.payload).length ∧
        (idField ++ tail ++ object.payload).length ≤ framer.buf.length + unboundedMeasuringPad ∧
        (∃ front, framer.buf = idField ++ front) ∧
        framer.pollCommitted codec (setup cap fetchOrders) =
          (.passthrough (sent framer object framer.buf), after) ∧
        Behind framer after reader object [] part.length := by
  obtain ⟨e, starved, incomplete⟩ := (measure_spells wire).starves _ _ cut missing
  have waits : e.isIncomplete = true := incomplete
  have positive := List.length_pos_of_ne_nil missing
  have total := congrArg List.length cut
  rw [@List.length_append _ framer.buf] at total
  simp only [pollCommitted, nonempty, Bool.false_eq_true, ↓reduceIte, readStage_subgroup stage, starved, waits]
  by_cases room : framer.buf.length < (setup cap fetchOrders).config.maxBufferedObjectBytes
  · exact .inl ⟨room, if_pos room⟩
  · right
    rw [if_neg room]
    have full : cap ≤ framer.buf.length := Nat.le_of_not_lt room
    have pad : (setup cap fetchOrders).measuringPad framer.stage = unboundedMeasuringPad := by
      simp only [stage, Setup.measuringPad, setup, absoluteObjectIds, Bool.not_false, ↓reduceIte]
    simp only [pollOversized, pad]
    cases outcome : measure reader ⟨framer.buf, unboundedMeasuringPad⟩ with
    | error e =>
      refine .inl ⟨rfl, ?_⟩
      by_contra measurable
      obtain ⟨framed, reached⟩ := measurable_iff wire measurable
      obtain ⟨rest, measured⟩ :=
          measure_ahead wire cut (by omega) (reached.trans (Nat.add_le_add_right full _))
      rw [measured] at outcome
      cases outcome
    | ok pair =>
      obtain ⟨probe, rest⟩ := pair
      by_cases distrusted : probe.wireLen - probe.payloadLength > framer.buf.length ∨
          probe.wireLen ≤ framer.buf.length
      · simp only [if_pos distrusted]
        refine .inl ⟨trivial, ?_⟩
        by_contra measurable
        obtain ⟨framed, reached⟩ := measurable_iff wire measurable
        obtain ⟨rest, measured⟩ :=
          measure_ahead wire cut (by omega) (reached.trans (Nat.add_le_add_right full _))
        rw [measured] at outcome
        cases outcome
        simp only [probed, Probe.wireLen, Probe.payloadLength, anyMeta, metaOf, ← wire.length] at distrusted
        simp only [List.length_append] at distrusted total framed
        omega
      · simp only [if_neg distrusted]
        rcases measure_success wire cut outcome with padded | ⟨rfl, reach, front, whole⟩
        · exact absurd (.inl padded) distrusted
        · right
          have chunk : framer.buf.take framer.buf.length = idField ++ (tail ++ front) := by
            rw [List.take_length, whole, List.append_assoc]
          obtain ⟨fixed, fixup, bytes⟩ := @applyElideFixup_eq cap fetchOrders _ _ _ _ _ wire abreast _
            (idField ++ tail ++ object.payload).length _ chunk
          rw [← chunk, List.take_length] at bytes
          simp only [withFixup, fixup, emitFirstChunk, bytes]
          refine ⟨_, by omega, reach, ⟨tail ++ front, by rw [whole, List.append_assoc]⟩, rfl, ?_⟩
          refine ⟨?_, ?_, ?_, ?_, rfl, ?_, rfl, ?_, ?_, rfl⟩ <;>
            simp [commit, stage, probed, Probe.wireLen, anyMeta, metaOf]
          simp only [List.length_append] at total
          omega

/-- Behind an object put out, the framer stands at the next one. -/
theorem Behind.amid {after : SubgroupFramer} {buf : Bytes} {rest : List (SubgroupObject × Bytes)}
    (behind : Behind framer after reader object buf owed.length) (live : framer.bypassed = false)
    (quiet : framer.pendingBypass = none) (context : framer.context = subgroupContext stream.header)
    (bytes : buf ++ unfed = owed ++ raws rest) (turn : ReadInTurn (reader.past object.objectId) rest)
    (within : ∀ object ∈ rest, object ∈ stream.objects) :
    Amid stream after unfed (reader.past object.objectId) owed rest := by
  refine ⟨behind.live.trans live, behind.quiet.trans quiet, behind.stage, behind.context.trans context,
    behind.owes, by rw [behind.buf]; exact bytes, turn, ?_, within⟩
  have at' : cursor after = some object.objectId.val := by simp [cursor, behind.pending]
  rw [at', behind.level]
  exact Abreast.next object.objectId.val

theorem Behind.cursor {after : SubgroupFramer} {buf : Bytes} {owes : Nat}
    (behind : Behind framer after reader object buf owes) :
    cursor after = some object.objectId.val := by simp [SubgroupFraming.cursor, behind.pending]

/-- An object elided at once leaves the framer as behind it, but for the debt and the
cursor. -/
theorem Behind.elided {after : SubgroupFramer} {buf : Bytes} {rest : List (SubgroupObject × Bytes)}
    (behind : Behind framer after reader object buf owed.length) (live : framer.bypassed = false)
    (quiet : framer.pendingBypass = none) (context : framer.context = subgroupContext stream.header)
    (bytes : buf ++ unfed = owed ++ raws rest) (turn : ReadInTurn (reader.past object.objectId) rest)
    (within : ∀ object ∈ rest, object ∈ stream.objects)
    (abreast : Abreast framer.lastForwardedId framer.fixupPending reader.prevObjectId)
    (later : ∀ p, reader.prevObjectId = some p → p < object.objectId.val) :
    Amid stream (after.noteElided (setup cap fetchOrders)) unfed (reader.past object.objectId) owed rest ∧
      SubgroupFraming.cursor (after.noteElided (setup cap fetchOrders)) = framer.lastForwardedId ∧
      (after.noteElided (setup cap fetchOrders)).fixupPending = true ∧
      (after.noteElided (setup cap fetchOrders)).indexInStream = framer.indexInStream + 1 := by
  have owesFixup : (setup cap fetchOrders).elideOwesAFixup = true := rfl
  have noted : after.noteElided (setup cap fetchOrders) = { after with
      pendingDisposition := none, fixupPending := true, fetchRollback := none } := by
    simp [noteElided, behind.pending, owesFixup, rollBack, behind.stage]
  rw [noted]
  refine ⟨⟨behind.live.trans live, behind.quiet.trans quiet, behind.stage, behind.context.trans context,
    behind.owes, by simp only [behind.buf]; exact bytes, turn, ?_, within⟩, ?_, rfl, behind.index⟩
  · simp only [SubgroupFraming.cursor, behind.forwarded]
    exact abreast.elided later
  · simp [SubgroupFraming.cursor, behind.forwarded]

end Object

/-- The object in hand was forwarded: the cursor says so already. -/
theorem commit_amid (amid : Amid stream framer unfed reader owed todo) :
    Amid stream framer.commitDisposition unfed reader owed todo ∧
      cursor framer.commitDisposition = cursor framer ∧
      framer.commitDisposition.lastForwardedId = cursor framer ∧
      framer.commitDisposition.fixupPending = framer.fixupPending ∧
      framer.commitDisposition.indexInStream = framer.indexInStream := by
  cases held : framer.pendingDisposition with
  | none =>
    have same : framer.commitDisposition = framer := by simp [commitDisposition, held]
    rw [same]
    exact ⟨amid, rfl, by simp [cursor, held], rfl, rfl⟩
  | some pending =>
    have put : framer.commitDisposition = { framer with
        pendingDisposition := none, lastForwardedId := some pending.objectId, fetchRollback := none } := by
      simp [commitDisposition, held]
    have at' : cursor framer = some pending.objectId := by simp [cursor, held]
    rw [put, at']
    refine ⟨⟨amid.live, amid.quiet, amid.stage, amid.context, amid.owes, amid.bytes, amid.turn, ?_,
      amid.within⟩, rfl, rfl, rfl, rfl⟩
    have abreast := amid.abreast
    rw [at'] at abreast
    exact abreast

theorem bypassed_abandon (framer : SubgroupFramer) (reason : BypassReason) :
    (deliver (setup cap fetchOrders) elide (framer.abandon reason :
      FramerOut SubgroupHeader FetchHeader × SubgroupFramer)).2.bypassed = true := by
  simp only [abandon, emitPassthrough]
  split <;> rfl

/-- Between objects, whatever of the next one is in the buffer. -/
theorem pollCommitted_follows (amid : Amid stream framer unfed reader [] todo)
    (committed : framer.lastForwardedId = cursor framer) :
    Follows stream cap elide unfed (remaining stream cap elide framer [] todo)
      (deliver (setup cap fetchOrders) elide (framer.pollCommitted codec (setup cap fetchOrders))) := by
  by_cases empty : framer.buf.isEmpty = true
  · simp only [pollCommitted, empty, ↓reduceIte, deliver]
    exact Stands.idle (.amid reader [] todo amid rfl)
  · simp only [Bool.not_eq_true] at empty
    cases todo with
    | nil =>
      have nothing := (List.append_eq_nil_iff.mp amid.bytes).1
      rw [nothing] at empty
      cases empty
    | cons head rest =>
      obtain ⟨object, raw⟩ := head
      obtain ⟨reads, turn⟩ := amid.turn
      have within : ∀ object ∈ rest, object ∈ stream.objects := fun object member =>
        amid.within object (List.mem_cons_of_mem _ member)
      obtain ⟨idField, tail, split, wire⟩ := wire_of_reads reads
      rw [← List.append_assoc] at split
      subst split
      have abreast := amid.abreast
      have cut : framer.buf ++ unfed = idField ++ tail ++ object.payload ++ raws rest := amid.bytes
      rcases whole_or_short cut with ⟨more, whole, bytes⟩ | ⟨part, short, missing, later⟩
      · obtain ⟨after, polled, behind⟩ := @pollCommitted_whole cap fetchOrders _ _ _ _ _ wire amid.stage
          (committed ▸ abreast) _ whole empty
        rw [amid.owes] at behind
        have next := @Behind.amid stream _ unfed _ [] _ _ _ rest behind amid.live amid.quiet amid.context
          bytes turn within
        rw [polled]
        by_cases large : cap < (idField ++ tail ++ object.payload).length
        · simp only [if_pos large, deliver]
          refine .inr ⟨_, .amid _ _ _ next rfl, fun outs yields => ?_⟩
          simp only [remaining, behind.cursor, behind.level, behind.index] at yields
          simp only [remaining, skipping, ↓reduceIte, relayed, if_pos large, ← committed, sent] at yields ⊢
          simpa using yields.skipped [_]
        · by_cases dropped : elide (framingOf framer.context framer.indexInStream object) = true
          · obtain ⟨next, at', owes, index⟩ := @Behind.elided stream cap fetchOrders _ unfed _ [] _ _ _ rest
              behind amid.live amid.quiet amid.context bytes turn within (committed ▸ abreast)
              (ReadInTurn.later reads)
            simp only [if_neg large, deliver, dropped, ↓reduceIte]
            refine .inr ⟨_, .amid _ _ _ next rfl, fun outs yields => ?_⟩
            simp only [remaining, at', owes, index, committed] at yields
            rw [amid.context] at dropped
            simp only [remaining, skipping, ↓reduceIte, relayed, if_neg large, dropped] at yields ⊢
            simpa using yields
          · simp only [if_neg large, deliver, dropped, Bool.false_eq_true, ↓reduceIte]
            refine .inr ⟨_, .amid _ _ _ next rfl, fun outs yields => ?_⟩
            simp only [remaining, behind.cursor, behind.level, behind.index] at yields
            rw [amid.context] at dropped ⊢
            simp only [remaining, skipping, ↓reduceIte, relayed, if_neg large, dropped, ← committed, sent,
              Bool.false_eq_true] at yields ⊢
            exact yields.object
      · rcases @pollCommitted_short cap fetchOrders _ _ _ _ _ wire amid.stage (committed ▸ abreast) _ short
          missing empty with ⟨-, waits⟩ | ⟨gaveUp, unmeasurable⟩ | ⟨after, large, -, ⟨front, chunk⟩, polled, behind⟩
        · rw [waits]
          exact Stands.idle (.amid reader [] _ amid rfl)
        · rw [gaveUp]
          exact .inl ⟨bypassed_abandon framer _, .inr ⟨_, amid.within _ List.mem_cons_self, unmeasurable⟩⟩
        · have next := @Behind.amid stream _ unfed _ part _ _ _ rest behind amid.live amid.quiet amid.context
            later turn within
          rw [polled]
          simp only [deliver]
          refine .inr ⟨_, .amid _ _ _ next rfl, fun outs yields => ?_⟩
          simp only [remaining, behind.cursor, behind.level, behind.index] at yields
          have joined := rewritten_append wire (committed ▸ abreast) front part
          rw [← chunk, ← short] at joined
          have put := yields.skipping (sent framer object framer.buf)
          simp only [sent, joined] at put
          simp only [remaining, skipping, ↓reduceIte, relayed, if_pos large, ← committed, sent]
          exact put

theorem poll_amid (amid : Amid stream framer unfed reader owed todo) :
    Follows stream cap elide unfed (remaining stream cap elide framer owed todo)
      (step codec (setup cap fetchOrders) elide framer .poll) := by
  by_cases owing : owed = []
  · subst owing
    have polled : framer.poll codec (setup cap fetchOrders) =
        framer.commitDisposition.pollCommitted codec (setup cap fetchOrders) := by
      simp [poll, amid.quiet, amid.owes, amid.live, amid.stage, pollObject]
    obtain ⟨committed, same, forwarded, fixup, index⟩ := commit_amid amid
    have follows := @pollCommitted_follows _ cap fetchOrders elide _ _ _ _ committed
      (forwarded.trans same.symm)
    have left : remaining stream cap elide framer.commitDisposition [] todo =
        remaining stream cap elide framer [] todo := by
      simp only [remaining, same, fixup, index]
    rw [left] at follows
    simp only [step, polled]
    exact follows
  · exact poll_owing amid owing

/-! ## Runs -/

theorem poll_follows (stands : Stands stream cap elide framer unfed items) :
    Follows stream cap elide unfed items (step codec (setup cap fetchOrders) elide framer .poll) := by
  cases stands with
  | awaiting fresh bytes left =>
    subst left
    exact poll_awaiting fresh bytes
  | amid reader owed todo amid left =>
    subst left
    exact poll_amid amid

theorem emitPassthrough_bypassed (framer : SubgroupFramer) (limit : Nat) :
    (framer.emitPassthrough limit : Out × SubgroupFramer).2.bypassed = framer.bypassed ∧
      ∀ framing raw, (framer.emitPassthrough limit : Out × SubgroupFramer).1 ≠ .object framing raw := by
  unfold emitPassthrough
  split <;> exact ⟨rfl, by simp⟩

/-- Once stopped, the framer stays so. -/
theorem step_bypassed (stopped : framer.bypassed = true) (next : Step) :
    (step codec (setup cap fetchOrders) elide framer next).2.bypassed = true := by
  cases next with
  | feed chunk => exact stopped
  | poll =>
    have polled : (framer.poll codec (setup cap fetchOrders)).2.bypassed = true ∧
        ∀ framing raw, (framer.poll codec (setup cap fetchOrders)).1 ≠ .object framing raw := by
      unfold poll
      split
      · exact ⟨stopped, by simp⟩
      · split
        · obtain ⟨same, other⟩ := emitPassthrough_bypassed framer framer.passthroughRemaining
          exact ⟨same.trans stopped, other⟩
        · obtain ⟨same, other⟩ := emitPassthrough_bypassed framer u64Max
          exact ⟨same.trans stopped, other⟩
    simp only [step]
    generalize framer.poll codec (setup cap fetchOrders) = outcome at polled
    obtain ⟨out, after⟩ := outcome
    cases out with
    | object framing raw => exact absurd rfl (polled.2 framing raw)
    | header | passthrough | bypassed | needMore | error => exact polled.1

theorem run_bypassed (steps : List Step) (stopped : framer.bypassed = true) :
    (run codec (setup cap fetchOrders) elide steps framer).2.bypassed = true := by
  induction steps generalizing framer with
  | nil => exact stopped
  | cons next rest ih => exact ih (step_bypassed stopped next)

/-- Over any run the framer puts out what the relay does, unless it is stopped. -/
theorem run_follows (steps : List Step) (stands : Stands stream cap elide framer (fed steps ++ unfed) items) :
    Follows stream cap elide unfed items (run codec (setup cap fetchOrders) elide steps framer) := by
  induction steps generalizing framer items with
  | nil => exact stands.idle
  | cons next rest ih =>
    cases next with
    | feed chunk =>
      have fed' : Stands stream cap elide framer (chunk ++ (fed rest ++ unfed)) items := by
        simpa [fed] using stands
      simpa [run, step] using ih (fed'.feed chunk)
    | poll =>
      rcases @poll_follows _ _ fetchOrders _ _ _ _ stands with ⟨stopped, why⟩ | ⟨left, stands, yields⟩
      · exact .inl ⟨run_bypassed rest stopped, why⟩
      · rcases ih stands with ⟨stopped, why⟩ | ⟨later, stands, more⟩
        · exact .inl ⟨stopped, why⟩
        · refine .inr ⟨later, stands, fun outs rest => ?_⟩
          simp only [run, List.append_assoc]
          exact yields _ (more outs rest)

theorem nonempty_of_reads {reader : SubgroupObjectReader} {object : SubgroupObject} {raw : Bytes}
    {after : SubgroupObjectReader} (reads : ReadsAll reader.readObject raw (object, after)) : raw ≠ [] := by
  rintro rfl
  cases reads

/-- A framer that has been fed the whole stream and needs more has put everything out. -/
theorem Stands.drained (stands : Stands stream cap elide framer [] items)
    (drained : (framer.poll codec (setup cap fetchOrders)).1 = .needMore) :
    items = [] ∧ framer.buf = [] := by
  cases stands with
  | awaiting fresh bytes left =>
    rw [List.append_nil] at bytes
    obtain ⟨after, stepped, -⟩ := @poll_header stream cap fetchOrders observe _ [] fresh _ bytes (by simp)
    have outs := congrArg Prod.fst stepped
    simp only [step, deliver, drained] at outs
    cases outs
  | amid reader owed todo amid left =>
    have bytes := amid.bytes
    rw [List.append_nil] at bytes
    by_cases owing : owed = []
    · subst owing
      have polled : framer.poll codec (setup cap fetchOrders) =
          framer.commitDisposition.pollCommitted codec (setup cap fetchOrders) := by
        simp [poll, amid.quiet, amid.owes, amid.live, amid.stage, pollObject]
      obtain ⟨committed, same, forwarded, -⟩ := commit_amid amid
      cases todo with
      | nil => exact ⟨left, bytes⟩
      | cons head rest =>
        obtain ⟨object, raw⟩ := head
        have reads := amid.turn.1
        have present := nonempty_of_reads reads
        obtain ⟨idField, tail, split, wire⟩ := wire_of_reads reads
        rw [← List.append_assoc] at split
        have whole : framer.commitDisposition.buf = idField ++ tail ++ object.payload ++ raws rest := by
          have later := committed.bytes
          rw [List.append_nil] at later
          rw [later, ← split]
          rfl
        have nonempty : framer.commitDisposition.buf.isEmpty = false := by
          rw [whole, ← split]
          cases raw with
          | nil => exact absurd rfl present
          | cons => rfl
        obtain ⟨after, put, -⟩ := @pollCommitted_whole cap fetchOrders _ _ _ _ _ wire committed.stage
          (by rw [forwarded, ← same]; exact committed.abreast) _ whole nonempty
        rw [polled, put] at drained
        split at drained <;> cases drained
    · have positive : 0 < framer.passthroughRemaining := by
        rw [amid.owes]
        exact List.length_pos_of_ne_nil owing
      have nonempty : framer.buf.isEmpty = false := by
        rw [bytes]
        cases owed with
        | nil => exact absurd rfl owing
        | cons => rfl
      simp only [poll, amid.quiet, positive, ↓reduceIte, emitPassthrough, nonempty, Bool.false_eq_true]
        at drained
      cases drained

theorem Stands.live (stands : Stands stream cap elide framer unfed items) : framer.bypassed = false := by
  cases stands with
  | awaiting fresh => rw [fresh]
  | amid _ _ _ amid => exact amid.live

theorem stands_new : Stands stream cap elide {} stream.bytes (stream.items cap elide) :=
  .awaiting rfl rfl rfl

/-- A run over the whole stream that ends with nothing left to poll for, and was not
stopped, put out the relay's items. -/
theorem run_yields (steps : List Step) (whole : fed steps = stream.bytes)
    (drained : ((run codec (setup cap fetchOrders) elide steps {}).2.poll codec (setup cap fetchOrders)).1 =
      .needMore) :
    ((run codec (setup cap fetchOrders) elide steps {}).2.bypassed = true ∧ Obstructed stream cap) ∨
      (Yields (run codec (setup cap fetchOrders) elide steps {}).1 (stream.items cap elide) ∧
        (run codec (setup cap fetchOrders) elide steps {}).2.buf = [] ∧
        (run codec (setup cap fetchOrders) elide steps {}).2.bypassed = false) := by
  have stands : Stands stream cap elide {} (fed steps ++ []) (stream.items cap elide) := by
    rw [List.append_nil, whole]
    exact stands_new
  rcases @run_follows _ _ fetchOrders _ _ _ _ steps stands with stopped | ⟨left, stands, yields⟩
  · exact .inl stopped
  · obtain ⟨rfl, empty⟩ := stands.drained drained
    exact .inr ⟨by simpa using yields [] .nil, empty, stands.live⟩

/-! ## Elision -/

/-- Whatever its caller elided, a framer that was not stopped has put out bytes that read
as the header and the surviving objects, those too large to be asked about among them. -/
theorem survivors_delivered (stream : SubgroupStream) (cap : Nat)
    (fetchOrders : Option (Nat → Option FetchStream.GroupOrder)) (elide : ObjectMeta → Bool)
    (steps : List Step) (whole : fed steps = stream.bytes)
    (drained : ((run codec (setup cap fetchOrders) elide steps {}).2.poll codec (setup cap fetchOrders)).1 =
      .needMore)
    (live : (run codec (setup cap fetchOrders) elide steps {}).2.bypassed = false) :
    ReadsAll (readStream (stream.survivors cap elide).length)
        (emitted (run codec (setup cap fetchOrders) elide steps {}).1)
        (stream.header, stream.survivors cap elide) ∧
      (run codec (setup cap fetchOrders) elide steps {}).2.finish.1 = none := by
  rcases run_yields steps whole drained with ⟨stopped, -⟩ | ⟨yields, empty, -⟩
  · rw [live] at stopped
    cases stopped
  · refine ⟨?_, by simp [finish, empty]⟩
    rw [yields.emitted]
    exact (stream.items_read cap elide).all

/-- Three objects behind a header without properties. -/
def threeObjects : SubgroupStream where
  header := ⟨0x10, .ofU64 1, .ofU64 2, .ofU64 0, some 0x80⟩
  headerRaw := [0x10, 1, 2, 0x80]
  objects := [(⟨.ofU64 5, [], .ofU64 1, none, [0xAA]⟩, [5, 1, 0xAA]),
    (⟨.ofU64 6, [], .ofU64 1, none, [0xBB]⟩, [0, 1, 0xBB]),
    (⟨.ofU64 7, [], .ofU64 6, none, [1, 2, 3, 4, 5, 6]⟩, [0, 6, 1, 2, 3, 4, 5, 6])]
  headerReads := by unfold ReadsAll; decide +kernel
  objectsRead := ⟨by unfold ReadsAll; decide +kernel, by unfold ReadsAll; decide +kernel,
    by unfold ReadsAll; decide +kernel, trivial⟩

/-- The second is elided, and the third passes through in two chunks under a new ID field. -/
theorem survivors_delivered_oversized :
    ReadsAll (readStream 2) [0x10, 1, 2, 0x80, 5, 1, 0xAA, 1, 6, 1, 2, 3, 4, 5, 6]
      (threeObjects.header, threeObjects.survivors 6 fun framing => framing.objectId == 6) ∧
      (run codec (setup 6 none) (fun framing => framing.objectId == 6)
        [.feed [0x10, 1, 2, 0x80, 5, 1, 0xAA, 0, 1, 0xBB, 0, 6, 1, 2, 3, 4], .poll, .poll, .poll, .poll,
          .feed [5, 6], .poll] {}).2.finish.1 = none :=
  survivors_delivered threeObjects 6 none (fun framing => framing.objectId == 6)
    [.feed [0x10, 1, 2, 0x80, 5, 1, 0xAA, 0, 1, 0xBB, 0, 6, 1, 2, 3, 4], .poll, .poll, .poll, .poll,
      .feed [5, 6], .poll] (by decide +kernel) (by decide +kernel) (by decide +kernel)

end Moqtap.SubgroupFraming
