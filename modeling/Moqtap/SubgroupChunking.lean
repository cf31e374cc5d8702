import Moqtap.SubgroupFraming

/-! How a draft-22 subgroup stream is cut into chunks does not show in the framer's items,
as long as the measuring pad reaches: an object that overruns the cap by more than the
pad stops the framer when it comes in small chunks. -/
namespace Moqtap.SubgroupChunking
open ByteCursor Varint CodecTypes Framer ObjectFramer Draft22.Subgroup SubgroupRelay SubgroupFraming

section Cuts
variable (stream : SubgroupStream) (cap : Nat) (fetchOrders : Option (Nat → Option FetchStream.GroupOrder))

/-- What an observer gets of a run, and the framer behind it. -/
def observed (steps : List Step) : List Out × SubgroupFramer :=
  run codec (setup cap fetchOrders) observe steps {}

/-- A way of feeding the whole stream and polling until more is needed. -/
def Cuts (steps : List Step) : Prop :=
  fed steps = stream.bytes ∧
    ((observed cap fetchOrders steps).2.poll codec (setup cap fetchOrders)).1 = .needMore

/-- Two runs that yield the same headers and objects and pass the same bytes through
between them, with neither stopped. -/
def SameOutcome (first second : List Out × SubgroupFramer) : Prop :=
  ∃ items, Yields first.1 items ∧ Yields second.1 items ∧
    first.2.bypassed = false ∧ second.2.bypassed = false

end Cuts

variable {stream : SubgroupStream} {cap : Nat} {fetchOrders : Option (Nat → Option FetchStream.GroupOrder)}
  {framer : SubgroupFramer} {unfed : Bytes} {reader : SubgroupObjectReader}

/-! ## Runs put together -/

theorem run_append (front back : List Step) (framer : SubgroupFramer) :
    (run codec (setup cap fetchOrders) observe (front ++ back) framer).2 =
      (run codec (setup cap fetchOrders) observe back
        (run codec (setup cap fetchOrders) observe front framer).2).2 := by
  induction front generalizing framer with
  | nil => rfl
  | cons next rest ih => exact ih _

theorem fed_append (front back : List Step) : fed (front ++ back) = fed front ++ fed back := by
  induction front with
  | nil => rfl
  | cons next rest ih => cases next <;> simp [fed, ih]

theorem fed_polls (n : Nat) : fed (List.replicate n .poll) = [] := by
  induction n with
  | zero => rfl
  | succ n ih => simpa [List.replicate_succ, fed] using ih

/-! ## A stopped framer hands its buffer out -/

theorem poll_stopped (stopped : framer.bypassed = true) (told : framer.pendingBypass = none)
    (held : framer.buf ≠ []) :
    ∃ after, (step codec (setup cap fetchOrders) observe framer .poll).2 = after ∧
      after.bypassed = true ∧ after.pendingBypass = none ∧ after.buf.length < framer.buf.length := by
  have nonempty : framer.buf.isEmpty = false := by
    cases buf : framer.buf with
    | nil => exact absurd buf held
    | cons => rfl
  have positive := List.length_pos_of_ne_nil held
  have shrinks (limit : Nat) (some : 0 < limit) :
      ∃ after, (deliver (setup cap fetchOrders) observe
          (framer.emitPassthrough limit : Out × SubgroupFramer)).2 = after ∧
        after.bypassed = true ∧ after.pendingBypass = none ∧ after.buf.length < framer.buf.length := by
    refine ⟨_, rfl, ?_⟩
    simp only [emitPassthrough, nonempty, Bool.false_eq_true, ↓reduceIte, deliver, List.length_drop]
    exact ⟨stopped, told, by omega⟩
  simp only [step, poll, told]
  by_cases owing : 0 < framer.passthroughRemaining
  · simp only [owing, ↓reduceIte]
    exact shrinks _ owing
  · simp only [owing, ↓reduceIte, stopped]
    exact shrinks _ (by decide)

theorem stopped_drains (stopped : framer.bypassed = true) :
    ∃ n, ((run codec (setup cap fetchOrders) observe (List.replicate n .poll) framer).2.poll codec
      (setup cap fetchOrders)).1 = .needMore := by
  have quiet : ∀ len, ∀ framer : SubgroupFramer, framer.buf.length ≤ len → framer.bypassed = true →
      framer.pendingBypass = none →
      ∃ n, ((run codec (setup cap fetchOrders) observe (List.replicate n .poll) framer).2.poll codec
        (setup cap fetchOrders)).1 = .needMore := by
    intro len
    induction len with
    | zero =>
      intro framer short stopped told
      have empty : framer.buf = [] := List.length_eq_zero_iff.mp (Nat.le_zero.mp short)
      refine ⟨0, ?_⟩
      simp only [List.replicate_zero, run, poll, told, stopped, ↓reduceIte, emitPassthrough, empty,
        List.isEmpty_nil, ite_self]
    | succ len ih =>
      intro framer short stopped told
      by_cases empty : framer.buf = []
      · exact ih framer (by simp [empty]) stopped told
      · obtain ⟨after, stepped, stopped', told', less⟩ :=
          @poll_stopped cap fetchOrders _ stopped told empty
        obtain ⟨n, drained⟩ := ih after (by omega) stopped' told'
        refine ⟨n + 1, ?_⟩
        simpa [List.replicate_succ, run, stepped] using drained
  cases told : framer.pendingBypass with
  | none => exact quiet _ framer le_rfl stopped told
  | some reason =>
    have stepped : (step codec (setup cap fetchOrders) observe framer .poll).2 =
        { framer with pendingBypass := none } := by simp [step, poll, told, deliver]
    obtain ⟨n, drained⟩ := quiet _ { framer with pendingBypass := none } le_rfl stopped rfl
    refine ⟨n + 1, ?_⟩
    simpa [List.replicate_succ, run, stepped] using drained

/-! ## An object beyond the pad, cut at the cap -/

/-- Polled with whole objects in the buffer, the framer gets to the one behind them. -/
theorem polls_through (before : List (SubgroupObject × Bytes)) {rest : List (SubgroupObject × Bytes)}
    {chunk : Bytes} (amid : Amid stream framer unfed reader [] (before ++ rest))
    (buf : framer.buf = raws before ++ chunk) :
    ∃ reader, Amid stream (run codec (setup cap fetchOrders) observe
        (List.replicate before.length .poll) framer).2 unfed reader [] rest ∧
      (run codec (setup cap fetchOrders) observe (List.replicate before.length .poll) framer).2.buf =
        chunk := by
  induction before generalizing framer reader with
  | nil => exact ⟨reader, amid, buf⟩
  | cons head before ih =>
    obtain ⟨object, raw⟩ := head
    have reads := amid.turn.1
    have present := nonempty_of_reads reads
    obtain ⟨idField, tail, split, wire⟩ := wire_of_reads reads
    rw [← List.append_assoc] at split
    obtain ⟨committed, same, forwarded, -⟩ := commit_amid amid
    have held : framer.commitDisposition.buf = framer.buf := by
      unfold commitDisposition
      split <;> rfl
    have whole : framer.commitDisposition.buf = idField ++ tail ++ object.payload ++ (raws before ++ chunk) := by
      rw [held, buf, ← split]
      simp [raws]
    have nonempty : framer.commitDisposition.buf.isEmpty = false := by
      rw [whole, ← split]
      cases raw with
      | nil => exact absurd rfl present
      | cons => rfl
    obtain ⟨after, put, behind⟩ := @pollCommitted_whole cap fetchOrders _ _ _ _ _ wire committed.stage
      (by rw [forwarded, ← same]; exact committed.abreast) _ whole nonempty
    have polled : framer.poll codec (setup cap fetchOrders) =
        framer.commitDisposition.pollCommitted codec (setup cap fetchOrders) := by
      simp [poll, amid.quiet, amid.owes, amid.live, amid.stage, pollObject]
    have stepped : (step codec (setup cap fetchOrders) observe framer .poll).2 = after := by
      simp only [step, polled, put]
      split <;> rfl
    have later : raws before ++ chunk ++ unfed = raws (before ++ rest) := by
      have bytes := amid.bytes
      rw [buf] at bytes
      simpa [raws] using bytes
    rw [committed.owes] at behind
    have next := @Behind.amid stream _ unfed _ [] _ _ _ (before ++ rest) behind committed.live committed.quiet
      committed.context later amid.turn.2 fun object member =>
        amid.within object (List.mem_cons_of_mem _ member)
    simpa [List.replicate_succ, run, stepped] using ih next behind.buf

/-- With exactly `cap` bytes of an object in the buffer whose end the pad does not reach,
the framer stops. -/
theorem poll_beyond {object : SubgroupObject} {raw : Bytes} {rest : List (SubgroupObject × Bytes)}
    (amid : Amid stream framer unfed reader [] ((object, raw) :: rest))
    (buf : framer.buf = raw.take cap) (positive : 0 < cap)
    (beyond : cap + unboundedMeasuringPad < raw.length) :
    (step codec (setup cap fetchOrders) observe framer .poll).2.bypassed = true := by
  have reads := amid.turn.1
  obtain ⟨idField, tail, split, wire⟩ := wire_of_reads reads
  rw [← List.append_assoc] at split
  obtain ⟨committed, same, forwarded, -⟩ := commit_amid amid
  have held : framer.commitDisposition.buf = raw.take cap := by
    unfold commitDisposition
    split <;> exact buf
  have full : framer.commitDisposition.buf.length = cap := by
    rw [held, List.length_take]
    omega
  have cut : idField ++ tail ++ object.payload = framer.commitDisposition.buf ++ raw.drop cap := by
    rw [held, List.take_append_drop, ← split]
  have missing : raw.drop cap ≠ [] := by
    intro nothing
    have length := congrArg List.length nothing
    simp only [List.length_drop, List.length_nil] at length
    omega
  have nonempty : framer.commitDisposition.buf.isEmpty = false := by
    cases bytes : framer.commitDisposition.buf with
    | nil =>
      rw [bytes] at full
      exact absurd full (by simp; omega)
    | cons => rfl
  have polled : framer.poll codec (setup cap fetchOrders) =
      framer.commitDisposition.pollCommitted codec (setup cap fetchOrders) := by
    simp [poll, amid.quiet, amid.owes, amid.live, amid.stage, pollObject]
  simp only [step, polled]
  rcases @pollCommitted_short cap fetchOrders _ _ _ _ _ wire committed.stage
    (by rw [forwarded, ← same]; exact committed.abreast) _ cut missing nonempty with
    ⟨room, -⟩ | ⟨gaveUp, -⟩ | ⟨after, -, reach, -⟩
  · omega
  · rw [gaveUp]
    exact bypassed_abandon _ _
  · rw [← split, full] at reach
    omega

/-- A stream with such an object can be cut so that the framer stops. -/
theorem cut_beyond (headerFits : stream.headerRaw.length < cap) {object : SubgroupObject × Bytes}
    (member : object ∈ stream.objects) (beyond : cap + unboundedMeasuringPad < object.2.length) :
    ∃ steps, Cuts stream cap fetchOrders steps ∧ (observed cap fetchOrders steps).2.bypassed = true := by
  obtain ⟨before, rest, objects⟩ := List.append_of_mem member
  obtain ⟨object, raw⟩ := object
  have bytes : stream.bytes = stream.headerRaw ++ (raws before ++ raw.take cap) ++ (raw.drop cap ++ raws rest) := by
    have cut : raw.take cap ++ (raw.drop cap ++ raws rest) = raw ++ raws rest := by
      rw [← List.append_assoc, List.take_append_drop]
    rw [SubgroupStream.bytes, objects, List.append_assoc, List.append_assoc, cut]
    simp [raws]
  obtain ⟨opened, header, held, amid, -⟩ := @poll_header stream cap fetchOrders observe
    { buf := stream.headerRaw ++ (raws before ++ raw.take cap) } (raw.drop cap ++ raws rest) rfl _ rfl (by
      have whole := bytes
      rw [SubgroupStream.bytes, List.append_assoc, List.append_cancel_left_eq] at whole
      exact whole.symm)
  rw [objects] at amid
  obtain ⟨reader, reached, chunk⟩ := @polls_through stream cap fetchOrders _ _ _ before _ _ amid held
  have stopped := @poll_beyond stream cap fetchOrders _ _ _ _ _ _ reached chunk (by omega) beyond
  obtain ⟨n, drained⟩ := @stopped_drains cap fetchOrders _
    (@step_bypassed cap fetchOrders observe _ stopped (.feed (raw.drop cap ++ raws rest)))
  have fresh : (step codec (setup cap fetchOrders) observe {}
      (.feed (stream.headerRaw ++ (raws before ++ raw.take cap)))).2 =
        { buf := stream.headerRaw ++ (raws before ++ raw.take cap) } := rfl
  refine ⟨[.feed (stream.headerRaw ++ (raws before ++ raw.take cap)), .poll] ++
    (List.replicate before.length .poll ++ ([.poll, .feed (raw.drop cap ++ raws rest)] ++
      List.replicate n .poll)), ⟨?_, ?_⟩, ?_⟩
  · simp only [fed_append, fed_polls, fed, List.nil_append, List.append_nil, bytes]
  · simp only [observed, run_append, run]
    rw [fresh, header]
    exact drained
  · simp only [observed, run_append, run]
    rw [fresh, header]
    exact run_bypassed _ (step_bypassed stopped _)

/-- Cutting a stream whose header and framings fit the buffer shows nowhere in the
framer's items if and only if no object ends beyond the cap and the measuring pad. -/
theorem same_outcome_iff (stream : SubgroupStream) (cap : Nat)
    (fetchOrders : Option (Nat → Option FetchStream.GroupOrder))
    (headerFits : stream.headerRaw.length < cap)
    (framingsFit : ∀ object ∈ stream.objects, framingLen object < cap) :
    (∀ first second, Cuts stream cap fetchOrders first → Cuts stream cap fetchOrders second →
      SameOutcome (observed cap fetchOrders first) (observed cap fetchOrders second)) ↔
      ∀ object ∈ stream.objects, object.2.length ≤ cap + unboundedMeasuringPad := by
  constructor
  · intro same object member
    by_contra beyond
    obtain ⟨steps, cuts, stopped⟩ :=
      @cut_beyond stream cap fetchOrders headerFits object member (Nat.lt_of_not_le beyond)
    obtain ⟨_, -, -, live, -⟩ := same steps steps cuts cuts
    rw [stopped] at live
    cases live
  · intro reached
    have clear : ¬ Obstructed stream cap := by
      rintro (full | ⟨object, member, full | beyond⟩)
      · omega
      · exact absurd (framingsFit object member) (Nat.not_lt.mpr full)
      · exact absurd (reached object member) (Nat.not_le.mpr beyond)
    have shows : ∀ steps, Cuts stream cap fetchOrders steps →
        Yields (observed cap fetchOrders steps).1 (stream.items cap observe) ∧
          (observed cap fetchOrders steps).2.bypassed = false := by
      rintro steps ⟨whole, drained⟩
      rcases run_yields steps whole drained with ⟨-, obstructed⟩ | ⟨yields, -, live⟩
      · exact absurd obstructed clear
      · exact ⟨yields, live⟩
    intro first second cuts cuts'
    exact ⟨_, (shows first cuts).1, (shows second cuts').1, (shows first cuts).2, (shows second cuts').2⟩

theorem same_outcome_three :
    (∀ first second, Cuts threeObjects 6 none first → Cuts threeObjects 6 none second →
      SameOutcome (observed 6 none first) (observed 6 none second)) ↔
      ∀ object ∈ threeObjects.objects, object.2.length ≤ 6 + unboundedMeasuringPad :=
  same_outcome_iff threeObjects 6 none (by decide) (by decide)

/-! ## An object no padding reaches -/

section Far
variable (payload : Bytes) (small : payload.length < 2 ^ 64)

/-- A first object of any payload. -/
def farObject : SubgroupObject := ⟨.ofU64 5, [], ⟨payload.length, small⟩, none, payload⟩

def farRaw : Bytes := [5] ++ ((⟨payload.length, small⟩ : VarInt).encodeMoqt .moqt18 ++ payload)

theorem farObject_reads (held : payload ≠ []) :
    ReadsAll (SubgroupObjectReader.readObject ⟨false, none⟩) (farRaw payload small)
      (farObject payload small, ⟨false, some 5⟩) := by
  have positive : payload.length ≠ 0 := by simpa using held
  have field : Reads (varint .moqt18) [5] (.ofU64 5) := reads_varint (.ofU64 5)
  have objectId : Reads (readObjectId none) [5] ⟨5, by decide⟩ := field.last (reads_lift (by decide))
  have length := @reads_varint .moqt18 ⟨payload.length, small⟩
  have contents : Reads (readContents false ⟨5, by decide⟩)
      ((⟨payload.length, small⟩ : VarInt).encodeMoqt .moqt18 ++ payload) (farObject payload small) := by
    refine (Reads.pure ([] : Bytes)).silent (length.bind ?_)
    have status : readStatus payload.length = pure none := if_neg positive
    simp only [status]
    refine (Reads.pure none).silent ((reads_takeBytes _ payload).last ?_)
    exact Reads.check (a := ([] : List ObjectProperty)) rfl (Reads.pure _)
  exact (objectId.bind (contents.wrap _)).all

def plainHeader : SubgroupHeader :=
  ⟨0x10, .ofU64 1, .ofU64 2, .ofU64 0, some 0x80⟩

/-- One such object behind a header of four bytes. -/
def farStream (held : payload ≠ []) : SubgroupStream where
  header := plainHeader
  headerRaw := [0x10, 1, 2, 0x80]
  objects := [(farObject payload small, farRaw payload small)]
  headerReads := by unfold ReadsAll; decide +kernel
  objectsRead := ⟨farObject_reads payload small held, trivial⟩

end Far

/-- A payload of 2^63 bytes behind a buffer of 16 stops a framer fed the first 16. -/
theorem far_object_differs : ¬ ∀ (stream : SubgroupStream) (cap : Nat)
    (fetchOrders : Option (Nat → Option FetchStream.GroupOrder)), stream.headerRaw.length < cap →
    (∀ object ∈ stream.objects, framingLen object < cap) →
      ∀ first second, Cuts stream cap fetchOrders first → Cuts stream cap fetchOrders second →
        SameOutcome (observed cap fetchOrders first) (observed cap fetchOrders second) := by
  intro same
  obtain ⟨payload, length⟩ : ∃ payload : Bytes, payload.length = 2 ^ 63 + 16 :=
    ⟨List.replicate (2 ^ 63 + 16) 0, List.length_replicate⟩
  have small : payload.length < 2 ^ 64 := by omega
  have held : payload ≠ [] := by
    rintro rfl
    simp at length
  have nine : ((⟨payload.length, small⟩ : VarInt).encodeMoqt .moqt18).length ≤ 9 := by
    rw [VarInt.encodeMoqt_length]
    exact VarInt.encodedLenMoqt_le_nine _ _
  have raw : (farRaw payload small).length =
      1 + (((⟨payload.length, small⟩ : VarInt).encodeMoqt .moqt18).length + payload.length) := by
    simp [farRaw, Nat.add_comm]
  have framings : ∀ object ∈ (farStream payload small held).objects, framingLen object < 16 := by
    intro object member
    rw [show object = (farObject payload small, farRaw payload small) by simpa [farStream] using member]
    have size : (farObject payload small).payloadLength.val = payload.length := rfl
    simp only [framingLen, raw, size]
    omega
  obtain ⟨steps, cuts, stopped⟩ := @cut_beyond (farStream payload small held) 16 none (show 4 < 16 by decide)
    (farObject payload small, farRaw payload small) List.mem_cons_self (by
      have pad : unboundedMeasuringPad = 2 ^ 63 - 1 := by decide
      rw [pad]
      simp only [raw]
      omega)
  obtain ⟨_, -, -, live, -⟩ := same (farStream payload small held) 16 none (show 4 < 16 by decide)
    framings steps steps cuts cuts
  rw [stopped] at live
  cases live

end Moqtap.SubgroupChunking
