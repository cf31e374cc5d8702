import Moqtap.Framer

/-! A framer nobody elides from loses and adds nothing: whatever its draft, its cap, its
stream and the way the bytes came in, what it puts out and what it still holds are the
bytes it was fed. Every fetch frame goes through the re-emitting writer on the way. -/
namespace Moqtap.FramerConservation
open ByteCursor Varint CodecTypes AnyFetch Framer ObjectFramer

variable {H F R : Type} {codec : Codec H F R} {setup : Setup}

/-- While it parses, a framer with nothing elided owes no fix-up, and its fetch writer
stands where its reader does. -/
def Level (framer : ObjectFramer R) : Prop :=
  framer.bypassed = false →
    framer.fixupPending = false ∧
      ∀ reader writer, framer.stage = .fetch reader writer → writer = reader

/-- An item and the buffer behind it are the buffer before, and the framer stays level. -/
structure Conserves (framer : ObjectFramer R) (polled : FramerOut H F × ObjectFramer R) : Prop where
  bytes : polled.1.raw ++ polled.2.buf = framer.buf
  level : Level polled.2

theorem level_latchBypass (reason : BypassReason) (framer : ObjectFramer R) :
    Level (framer.latchBypass reason) := by
  intro live
  cases live

theorem emitPassthrough_conserves {framer : ObjectFramer R} (level : Level framer) (limit : Nat) :
    Conserves framer (framer.emitPassthrough limit : FramerOut H F × ObjectFramer R) := by
  unfold emitPassthrough
  split
  · exact ⟨rfl, level⟩
  · exact ⟨List.take_append_drop _ _, level⟩

theorem abandon_conserves (reason : BypassReason) (framer : ObjectFramer R) :
    Conserves framer (framer.abandon reason : FramerOut H F × ObjectFramer R) := by
  obtain ⟨bytes, level⟩ : Conserves (framer.latchBypass reason) _ :=
    emitPassthrough_conserves (level_latchBypass reason framer) u64Max
  exact ⟨bytes, level⟩

theorem error_conserves (context : String) (cause : CodecError) (framer : ObjectFramer R) :
    Conserves framer ((.error context cause, framer.latchBypass .decodeError) :
      FramerOut H F × ObjectFramer R) := ⟨rfl, level_latchBypass _ framer⟩

/-- The fix-up of an object just read gives up or leaves the source's bytes alone, and
then the writer is where the reader has got to. -/
theorem applyElideFixup_level {framer : ObjectFramer R} (level : Level framer)
    (live : framer.bypassed = false) {read : Reader CodecError (Probe R)} {cursor rest : Cursor}
    {probe : Probe R} (stage : readStage codec framer.stage = some read)
    (ran : read cursor = .ok (probe, rest)) (len : Nat) :
    ∃ fixed after, framer.applyElideFixup setup len probe = (fixed, after) ∧ after.buf = framer.buf ∧
      ((∃ e, fixed = .error e) ∨
        (fixed = .ok none ∧ after.fixupPending = false ∧
          ∀ reader writer, (after.commit probe).stage = .fetch reader writer → writer = reader)) := by
  obtain ⟨settled, abreast⟩ := level live
  cases state : framer.stage with
  | awaitingHeader => simp [readStage, state] at stage
  | subgroup reader =>
    simp only [readStage, state, Option.some.injEq] at stage
    subst stage
    rw [map_eq_bind] at ran
    obtain ⟨_, _, _, ran⟩ := bind_success ran
    cases ran
    refine ⟨.ok none, framer, by simp [applyElideFixup, settled], rfl, .inr ⟨rfl, settled, ?_⟩⟩
    simp [commit, state]
  | fetch reader writer =>
    simp only [readStage, state, Option.some.injEq] at stage
    subst stage
    rw [map_eq_bind] at ran
    obtain ⟨⟨frame, reached⟩, _, readRan, ran⟩ := bind_success ran
    cases ran
    obtain rfl := abreast reader writer state
    rcases reemit_read readRan (framer.buf.take len) with ⟨e, refused⟩ | unchanged
    · exact ⟨.error e, { framer with fetchRollback := some writer },
        by simp [applyElideFixup, reemitFetchFrame, state, refused], rfl, .inl ⟨e, rfl⟩⟩
    · refine ⟨.ok none, { framer with
        fetchRollback := some writer, stage := .fetch writer reached, fixupPending := false },
        by simp [applyElideFixup, reemitFetchFrame, state, unchanged], rfl, .inr ⟨rfl, rfl, ?_⟩⟩
      simp [commit]

@[simp] theorem commit_bypassed (framer : ObjectFramer R) (probe : Probe R) :
    (framer.commit probe).bypassed = framer.bypassed := by
  unfold commit
  split <;> rfl

@[simp] theorem commit_fixupPending (framer : ObjectFramer R) (probe : Probe R) :
    (framer.commit probe).fixupPending = framer.fixupPending := by
  unfold commit
  split <;> rfl

theorem withFixup_conserves {framer : ObjectFramer R} (level : Level framer)
    (live : framer.bypassed = false) {read : Reader CodecError (Probe R)} {cursor rest : Cursor}
    {probe : Probe R} (stage : readStage codec framer.stage = some read)
    (ran : read cursor = .ok (probe, rest)) (len : Nat)
    {next : ObjectFramer R → Option Bytes → FramerOut H F × ObjectFramer R}
    (bytes : ∀ after : ObjectFramer R, (next after none).1.raw ++ (next after none).2.buf = after.buf)
    (settles : ∀ after : ObjectFramer R,
      (next after none).2.fixupPending = after.fixupPending ∧
        (next after none).2.stage = (after.commit probe).stage) :
    Conserves framer (withFixup (framer.applyElideFixup setup len probe) next) := by
  obtain ⟨fixed, after, outcome, same, ⟨e, rfl⟩ | ⟨rfl, settled, abreast⟩⟩ :=
    applyElideFixup_level level live stage ran len
  · rw [outcome]
    exact ⟨same, level_latchBypass _ after⟩
  · rw [outcome]
    refine ⟨(bytes after).trans same, fun _ => ⟨(settles after).1.trans settled, ?_⟩⟩
    intro reader writer put
    exact abreast reader writer ((settles after).2.symm.trans put)

theorem pollCommitted_conserves {framer : ObjectFramer R} (level : Level framer)
    (live : framer.bypassed = false) : Conserves framer (framer.pollCommitted codec setup) := by
  unfold pollCommitted
  split
  · exact ⟨rfl, level⟩
  · split
    · exact ⟨rfl, level⟩
    · rename_i read stage
      cases outcome : read (.of framer.buf) with
      | ok pair =>
        obtain ⟨probe, rest⟩ := pair
        refine withFixup_conserves level live stage outcome _ (fun after => ?_) fun after => ⟨?_, rfl⟩
        · simp only [emitWhole, Option.getD_none]
          split <;> exact List.take_append_drop _ _
        · simp [emitWhole]
      | error e =>
        simp only
        split
        · split
          · exact ⟨rfl, level⟩
          · unfold pollOversized
            split
            · exact abandon_conserves _ framer
            · rename_i probe _ measured
              split
              · exact abandon_conserves _ framer
              · refine withFixup_conserves level live stage measured _ (fun after => ?_)
                  fun after => ⟨?_, rfl⟩
                · simp [emitFirstChunk, FramerOut.raw]
                · simp [emitFirstChunk]
        · exact error_conserves _ e framer

theorem openStage_level {framer : ObjectFramer R} (level : Level framer)
    (header : DataStreamHeaderKind H F) : Level (framer.openStage codec setup header) := by
  cases header with
  | subgroup header =>
    simp only [openStage]
    split
    · exact fun live => ⟨(level live).1, by rintro _ _ ⟨⟩⟩
    · exact level_latchBypass _ framer
  | fetch header =>
    simp only [openStage]
    split
    · rename_i stage opened
      refine fun live => ⟨(level live).1, ?_⟩
      rintro reader writer rfl
      unfold fetchStage at opened
      split at opened
      · obtain ⟨_, _, opened⟩ := except_bind_ok opened
        obtain ⟨_, _, opened⟩ := except_bind_ok opened
        cases opened
        rfl
      · cases opened
        rfl
    · exact level_latchBypass _ framer

theorem pollHeader_conserves {framer : ObjectFramer R} (level : Level framer) :
    Conserves framer (framer.pollHeader codec setup) := by
  unfold pollHeader
  split
  · exact ⟨rfl, level⟩
  · split
    · rename_i header rest _
      exact ⟨List.take_append_drop _ _, openStage_level level header⟩
    · split
      · split
        · exact abandon_conserves _ framer
        · exact ⟨rfl, level⟩
      · exact error_conserves _ _ framer

theorem level_commitDisposition {framer : ObjectFramer R} (level : Level framer) :
    Level framer.commitDisposition ∧ framer.commitDisposition.buf = framer.buf ∧
      framer.commitDisposition.bypassed = framer.bypassed := by
  unfold commitDisposition
  split
  · exact ⟨level, rfl, rfl⟩
  · exact ⟨level, rfl, rfl⟩

/-- One poll, whichever of its exits it takes. -/
theorem poll_conserves {framer : ObjectFramer R} (level : Level framer) :
    Conserves framer (framer.poll codec setup) := by
  unfold poll
  split
  · exact ⟨rfl, level⟩
  · split
    · exact emitPassthrough_conserves level _
    · split
      · exact emitPassthrough_conserves level _
      · rename_i live
        simp only [Bool.not_eq_true] at live
        split
        · exact pollHeader_conserves level
        all_goals
          obtain ⟨committed, same, still⟩ := level_commitDisposition level
          obtain ⟨bytes, after⟩ : Conserves framer.commitDisposition (framer.pollObject codec setup) :=
            pollCommitted_conserves committed (still.trans live)
          exact ⟨bytes.trans same, after⟩

/-- A caller that elides nothing forwards every byte of an item and leaves the framer be. -/
theorem deliver_observe (polled : FramerOut H F × ObjectFramer R) :
    emitted (deliver setup observe polled).1 = polled.1.raw ∧
      (deliver setup observe polled).2 = polled.2 := by
  obtain ⟨out, framer⟩ := polled
  cases out <;> simp [deliver, observe, emitted, FramerOut.raw]

theorem step_conserves {framer : ObjectFramer R} (level : Level framer) (next : Step) :
    emitted (step codec setup observe framer next).1 ++ (step codec setup observe framer next).2.buf =
        framer.buf ++ fed [next] ∧
      Level (step codec setup observe framer next).2 := by
  cases next with
  | feed chunk => exact ⟨by simp [step, ObjectFramer.feed, emitted, fed], level⟩
  | poll =>
    obtain ⟨bytes, after⟩ : Conserves framer (framer.poll codec setup) := poll_conserves level
    obtain ⟨raw, same⟩ := @deliver_observe _ _ _ setup (framer.poll codec setup)
    simp only [step, raw, same, fed, List.append_nil]
    exact ⟨bytes, after⟩

theorem fed_cons (next : Step) (rest : List Step) : fed (next :: rest) = fed [next] ++ fed rest := by
  cases next <;> simp [fed]

theorem run_conserves (steps : List Step) {framer : ObjectFramer R} (level : Level framer) :
    emitted (run codec setup observe steps framer).1 ++ (run codec setup observe steps framer).2.buf =
      framer.buf ++ fed steps := by
  induction steps generalizing framer with
  | nil => simp [run, emitted, fed]
  | cons next rest ih =>
    obtain ⟨bytes, after⟩ := @step_conserves _ _ _ codec setup _ level next
    have later := ih after
    rw [fed_cons, ← List.append_assoc, ← bytes]
    simp only [run, emitted, List.flatMap_append, List.append_assoc] at later ⊢
    rw [later]

/-- Whatever was fed and however it was polled, the items' bytes and what `finish` hands
out at the end are the bytes fed. -/
theorem bytes_conserved (codec : Codec H F R) (setup : Setup) (steps : List Step) :
    emitted (run codec setup observe steps {}).1 ++
      ((run codec setup observe steps {}).2.finish.1).getD [] = fed steps := by
  have level : Level ({} : ObjectFramer R) := fun _ => ⟨rfl, by rintro _ _ ⟨⟩⟩
  have whole := @run_conserves _ _ _ codec setup steps _ level
  have flushed : ((run codec setup observe steps {}).2.finish.1).getD [] =
      (run codec setup observe steps {}).2.buf := by
    unfold finish
    split
    · rename_i empty
      exact (List.isEmpty_iff.mp empty).symm
    · rfl
  rw [flushed, whole]
  rfl

end Moqtap.FramerConservation
