import Moqtap.AnyFetch

/-! The proxy's object framer (`framer.rs`): the bytes of one data stream in, items
out, each a whole header, a whole object or a run of bytes forwarded uninterpreted.
What a draft's codec does for it is a parameter; the fetch reader and writer are the
dispatch layer's own. Slow-path counters are left out. -/
namespace Moqtap.Framer
open ByteCursor Varint CodecTypes AnyFetch
open FetchStream (GroupOrder FetchEndOfRange)

inductive DataStreamType where
  | subgroup
  | fetch
  deriving DecidableEq, Repr

/-- Why parsing stopped. With every draft compiled in, a fetch stream always has a codec. -/
inductive BypassReason where
  | unsupportedSubgroupStreamType
  | fetchGroupOrderUnknown
  | objectBeyondMeasuringReach
  | decodeError
  deriving DecidableEq, Repr

structure FramerConfig where
  maxBufferedObjectBytes : Nat := 4 * 1024 * 1024
  deriving DecidableEq, Repr

/-- The framing of one subgroup object of any draft. -/
structure AnySubgroupObjectMeta where
  objectId : Nat
  payloadLength : Nat
  status : Option Nat
  extensionHeadersLen : Nat
  wireLen : Nat
  deriving DecidableEq, Repr

/-- What a subgroup header says about every object behind it. -/
structure SubgroupContext where
  trackAlias : Nat := 0
  groupId : Nat := 0
  subgroupId : Option Nat := none
  publisherPriority : Option UInt8 := none
  deriving DecidableEq, Repr

structure ObjectMeta where
  draft : DraftVersion
  streamKind : DataStreamType
  trackAlias : Option Nat
  groupId : Nat
  subgroupId : Option Nat
  objectId : Nat
  publisherPriority : Option UInt8
  indexInStream : Nat
  payloadLen : Nat
  status : Option Nat
  endOfRange : Option FetchEndOfRange
  deriving DecidableEq, Repr

/-- What the framer asks of a draft: its subgroup and fetch headers `H` and `F`, its
subgroup object reader `R`, and its fetch objects up to draft 14. -/
structure Codec (H F R : Type) where
  decodeSubgroupHeader : Reader CodecError H
  decodeFetchHeader : Reader CodecError F
  requestId : F → Nat
  subgroupContext : H → SubgroupContext
  newReader : H → Option R
  readObjectMeta : R → Reader CodecError (AnySubgroupObjectMeta × R)
  absoluteMeta : DraftVersion → Reader CodecError AnyFetchObjectMeta

inductive DataStreamHeaderKind (H F : Type) where
  | subgroup (header : H)
  | fetch (header : F)
  deriving DecidableEq, Repr

/-- One item of `poll`. An error is its leading text and the codec's own error. -/
inductive FramerOut (H F : Type) where
  | header (header : DataStreamHeaderKind H F) (raw : Bytes)
  | object (framing : ObjectMeta) (raw : Bytes)
  | passthrough (bytes : Bytes)
  | bypassed (reason : BypassReason) (fixupOwed : Bool)
  | needMore
  | error (context : String) (cause : CodecError)
  deriving DecidableEq, Repr

/-- The stream's bytes an item carries. -/
def FramerOut.raw {H F : Type} : FramerOut H F → Bytes
  | header _ raw => raw
  | object _ raw => raw
  | passthrough bytes => bytes
  | bypassed _ _ | needMore | error _ _ => []

structure PendingObject where
  objectId : Nat
  indexInStream : Nat
  deriving DecidableEq, Repr

inductive Stage (R : Type) where
  | awaitingHeader
  | subgroup (reader : R)
  | fetch (reader writer : FetchState)
  deriving DecidableEq, Repr

/-- What a framer is built with. `fetchOrders` answers for a request the Group Order
`FetchGroupOrders::take` would take. -/
structure Setup where
  streamType : DataStreamType
  draft : DraftVersion
  config : FramerConfig
  fetchOrders : Option (Nat → Option GroupOrder)

structure ObjectFramer (R : Type) where
  buf : Bytes := []
  stage : Stage R := .awaitingHeader
  context : SubgroupContext := {}
  passthroughRemaining : Nat := 0
  bypassed : Bool := false
  pendingBypass : Option BypassReason := none
  indexInStream : Nat := 0
  lastForwardedId : Option Nat := none
  fixupPending : Bool := false
  fetchRollback : Option FetchState := none
  pendingDisposition : Option PendingObject := none

/-! ## What differs by draft -/

def u64Max : Nat := 2 ^ 64 - 1

/-- `UNBOUNDED_MEASURING_PAD`, half of `usize::MAX`. -/
def unboundedMeasuringPad : Nat := u64Max / 2

/-- Drafts 18 to 22 sign a fetch Object's Group ID by an order the stream does not state. -/
def fetchGroupOrderIsNeeded : DraftVersion → Bool
  | .draft18 | .draft19 | .draft20 | .draft21 | .draft22 => true
  | _ => false

/-- Drafts 07 to 13 write subgroup Object IDs absolutely. -/
def absoluteObjectIds : DraftVersion → Bool
  | .draft07 | .draft08 | .draft09 | .draft10 | .draft11 | .draft12 | .draft13 => true
  | _ => false

namespace Setup
variable (setup : Setup)

def deltaEncodesObjectIds : Bool :=
  setup.streamType == .subgroup && !absoluteObjectIds setup.draft

/-- On a fetch stream, from draft 15 a frame may lean on the frame before it. -/
def elideOwesAFixup : Bool :=
  match setup.streamType with
  | .subgroup => setup.deltaEncodesObjectIds
  | .fetch => !absoluteObjectIds setup.draft && setup.draft != .draft14

def measuringPad {R : Type} (stage : Stage R) : Nat :=
  let copyFree : Bool := match stage with
    | .subgroup _ => !absoluteObjectIds setup.draft
    | .fetch _ _ => setup.draft == .draft14
    | .awaitingHeader => false
  if copyFree then unboundedMeasuringPad else setup.config.maxBufferedObjectBytes

end Setup

/-! ## Re-emitting a subgroup object -/

inductive Reemit where
  | verbatim
  | reencoded (idBytesBefore idBytesAfter : Nat)
  deriving DecidableEq, Repr

/-- The delta of an Object ID behind the last one forwarded. -/
def forwardedDelta (prevForwarded : Option Nat) (objectId : Nat) : Except CodecError Nat :=
  match prevForwarded with
  | none => .ok objectId
  | some prev => okOr ((checkedSub objectId prev).bind fun v => checkedSub v 1) .invalidField

/-- `reemit_subgroup_object` (`data_dispatch.rs`): the answer and the bytes written out.
`raw` may end anywhere behind its Object ID field. -/
def reemitSubgroupObject (draft : DraftVersion) (prevForwarded : Option Nat) (objectId : Nat)
    (raw : Bytes) : Except CodecError (Reemit × Bytes) := do
  refuseIf (prevForwarded.any fun prev => decide (objectId ≤ prev)) .invalidField
  let field ← (draft.decodeVarint (.of raw)).mapError fun _ => CodecError.invalidField
  let idBytesBefore := raw.length - field.2.remaining
  if absoluteObjectIds draft then return (.verbatim, raw)
  else
    let delta ← forwardedDelta prevForwarded objectId
    let value ← if draft.usesMoqtVarint then .ok (VarInt.ofU64 delta) else validVarint delta
    let encoded := draft.encodeVarint value
    if encoded = raw.take idBytesBefore then return (.verbatim, raw)
    else return (.reencoded idBytesBefore encoded.length, encoded ++ raw.drop idBytesBefore)

/-! ## The framer -/

/-- A reader whose decode succeeded and what it read. -/
inductive Probe (R : Type) where
  | subgroup (reader : R) (framing : AnySubgroupObjectMeta)
  | fetch (reader : FetchState) (frame : AnyFetchFrame)

namespace Probe
variable {R : Type}

def objectId : Probe R → Nat
  | subgroup _ framing => framing.objectId
  | fetch _ frame => frame.framing.objectId

def wireLen : Probe R → Nat
  | subgroup _ framing => framing.wireLen
  | fetch _ frame => frame.framing.wireLen

def payloadLength : Probe R → Nat
  | subgroup _ framing => framing.payloadLength
  | fetch _ frame => frame.framing.payloadLength

end Probe

namespace ObjectFramer
section Items
variable {H F R : Type}

/-- An object still pending was forwarded. -/
def commitDisposition (framer : ObjectFramer R) : ObjectFramer R :=
  match framer.pendingDisposition with
  | some pending =>
    { framer with
      pendingDisposition := none
      lastForwardedId := some pending.objectId
      fetchRollback := none }
  | none => framer

/-- Hand out up to `limit` buffered bytes without interpreting them. -/
def emitPassthrough (framer : ObjectFramer R) (limit : Nat) : FramerOut H F × ObjectFramer R :=
  if framer.buf.isEmpty then (.needMore, framer)
  else
    let take := min limit framer.buf.length
    (.passthrough (framer.buf.take take),
      { framer with
        buf := framer.buf.drop take
        passthroughRemaining := framer.passthroughRemaining - take })

def latchBypass (reason : BypassReason) (framer : ObjectFramer R) : ObjectFramer R :=
  { framer with
    bypassed := true
    pendingBypass := if framer.bypassed then framer.pendingBypass else some reason
    passthroughRemaining := 0 }

/-- Adopt a probe reader. -/
def commit (framer : ObjectFramer R) (probe : Probe R) : ObjectFramer R :=
  match framer.stage, probe with
  | .subgroup _, .subgroup reader _ => { framer with stage := .subgroup reader }
  | .fetch _ writer, .fetch reader _ => { framer with stage := .fetch reader writer }
  | _, _ => framer

/-- Re-emit one fetch frame, `len` of its bytes buffered, through the writer. -/
def reemitFetchFrame (framer : ObjectFramer R) (len : Nat) (frame : AnyFetchFrame) :
    Except CodecError (Option Bytes) × ObjectFramer R :=
  match framer.stage with
  | .fetch reader writer =>
    match reemitObject writer frame (framer.buf.take len) with
    | .ok (.unchanged, _, after) =>
      (.ok none, { framer with
        fetchRollback := some writer, stage := .fetch reader after, fixupPending := false })
    | .ok (.reframed _ _, out, after) =>
      (.ok (some out), { framer with
        fetchRollback := some writer, stage := .fetch reader after, fixupPending := false })
    | .error e => (.error e, { framer with fetchRollback := some writer })
  | _ => (.ok none, framer)

/-- The rewritten bytes of the next `len`, or none where the source's own stand. -/
def applyElideFixup (setup : Setup) (framer : ObjectFramer R) (len : Nat) (probe : Probe R) :
    Except CodecError (Option Bytes) × ObjectFramer R :=
  match probe with
  | .fetch _ frame => framer.reemitFetchFrame len frame
  | .subgroup _ framing =>
    if !framer.fixupPending || !setup.deltaEncodesObjectIds then (.ok none, framer)
    else
      match reemitSubgroupObject setup.draft framer.lastForwardedId framing.objectId
          (framer.buf.take len) with
      | .ok (_, out) => (.ok (some out), { framer with fixupPending := false })
      | .error e => (.error e, framer)

def objectMeta (setup : Setup) (framer : ObjectFramer R) : Probe R → ObjectMeta
  | .subgroup _ m =>
    { draft := setup.draft, streamKind := .subgroup, trackAlias := some framer.context.trackAlias
      groupId := framer.context.groupId, subgroupId := framer.context.subgroupId
      objectId := m.objectId, publisherPriority := framer.context.publisherPriority
      indexInStream := framer.indexInStream, payloadLen := m.payloadLength, status := m.status
      endOfRange := none }
  | .fetch _ frame =>
    { draft := setup.draft, streamKind := .fetch, trackAlias := none
      groupId := frame.framing.groupId
      subgroupId := if frame.framing.hasSubgroupId then some frame.framing.subgroupId else none
      objectId := frame.framing.objectId
      publisherPriority := some frame.framing.publisherPriority
      indexInStream := framer.indexInStream, payloadLen := frame.framing.payloadLength
      status := frame.framing.status, endOfRange := frame.framing.endOfRange }

/-- An object whose `consumed` bytes are all buffered. -/
def emitWhole (setup : Setup) (framer : ObjectFramer R) (consumed : Nat) (probe : Probe R)
    (rewritten : Option Bytes) : FramerOut H F × ObjectFramer R :=
  let raw := rewritten.getD (framer.buf.take consumed)
  (if consumed > setup.config.maxBufferedObjectBytes then .passthrough raw
   else .object (framer.objectMeta setup probe) raw,
   { framer.commit probe with
     buf := framer.buf.drop consumed
     pendingDisposition := some ⟨probe.objectId, framer.indexInStream⟩
     indexInStream := framer.indexInStream + 1 })

/-- The first chunk of an object that will never be whole in the buffer. The bytes still
owed are counted on the source's side, whatever the fix-up did to the chunk. -/
def emitFirstChunk (framer : ObjectFramer R) (probe : Probe R) (rewritten : Option Bytes) :
    FramerOut H F × ObjectFramer R :=
  (.passthrough (rewritten.getD framer.buf),
   { framer.commit probe with
     buf := []
     passthroughRemaining := probe.wireLen - framer.buf.length
     pendingDisposition := some ⟨probe.objectId, framer.indexInStream⟩
     indexInStream := framer.indexInStream + 1 })

def abandon (reason : BypassReason) (framer : ObjectFramer R) : FramerOut H F × ObjectFramer R :=
  (framer.latchBypass reason).emitPassthrough u64Max

/-- A fix-up's outcome: carry on with it, or give the stream up with its bytes still
buffered. -/
def withFixup (fixed : Except CodecError (Option Bytes) × ObjectFramer R)
    (next : ObjectFramer R → Option Bytes → FramerOut H F × ObjectFramer R) :
    FramerOut H F × ObjectFramer R :=
  match fixed.1 with
  | .ok rewritten => next fixed.2 rewritten
  | .error e => (.error "elide fix-up: " e, fixed.2.latchBypass .decodeError)

/-- The buffer reached its cap inside an object: measure it against padding. -/
def pollOversized (setup : Setup) (framer : ObjectFramer R) (read : Reader CodecError (Probe R)) :
    FramerOut H F × ObjectFramer R :=
  match read ⟨framer.buf, setup.measuringPad framer.stage⟩ with
  | .error _ => framer.abandon .objectBeyondMeasuringReach
  | .ok (probe, _) =>
    if probe.wireLen - probe.payloadLength > framer.buf.length ∨ probe.wireLen ≤ framer.buf.length then
      framer.abandon .objectBeyondMeasuringReach
    else
      withFixup (framer.applyElideFixup setup framer.buf.length probe) fun framer rewritten =>
        framer.emitFirstChunk probe rewritten

/-- The next object's reader at this stage, were its success adopted. -/
def readStage (codec : Codec H F R) : Stage R → Option (Reader CodecError (Probe R))
  | .awaitingHeader => none
  | .subgroup reader => some ((fun read => .subgroup read.2 read.1) <$> codec.readObjectMeta reader)
  | .fetch reader _ =>
    some ((fun read => .fetch read.2 read.1) <$> readObjectFrame codec.absoluteMeta reader)

/-- `poll_object` behind its commit of the object before. -/
def pollCommitted (codec : Codec H F R) (setup : Setup) (framer : ObjectFramer R) :
    FramerOut H F × ObjectFramer R :=
  if framer.buf.isEmpty then (.needMore, framer)
  else
    match readStage codec framer.stage with
    | none => (.needMore, framer)
    | some read =>
      match read (.of framer.buf) with
      | .ok (probe, rest) =>
        let consumed := framer.buf.length - rest.remaining
        withFixup (framer.applyElideFixup setup consumed probe) fun framer rewritten =>
          framer.emitWhole setup consumed probe rewritten
      | .error e =>
        if e.isIncomplete then
          if framer.buf.length < setup.config.maxBufferedObjectBytes then (.needMore, framer)
          else framer.pollOversized setup read
        else (.error "object decode: " e, framer.latchBypass .decodeError)

def pollObject (codec : Codec H F R) (setup : Setup) (framer : ObjectFramer R) :
    FramerOut H F × ObjectFramer R :=
  framer.commitDisposition.pollCommitted codec setup

/-- The reader and writer of a fetch stream, built under one Group Order. -/
def fetchStage (codec : Codec H F R) (setup : Setup) (header : F) : Except BypassReason (Stage R) :=
  if fetchGroupOrderIsNeeded setup.draft then do
    let orders ← okOr setup.fetchOrders .fetchGroupOrderUnknown
    let order ← okOr (orders (codec.requestId header)) .fetchGroupOrderUnknown
    return .fetch (.new setup.draft order) (.new setup.draft order)
  else .ok (.fetch (.new setup.draft .ascending) (.new setup.draft .ascending))

/-- Take up the stage a header opens, or stop parsing behind it. -/
def openStage (codec : Codec H F R) (setup : Setup) (framer : ObjectFramer R) :
    DataStreamHeaderKind H F → ObjectFramer R
  | .subgroup header =>
    match codec.newReader header with
    | some reader =>
      { framer with context := codec.subgroupContext header, stage := .subgroup reader }
    | none => framer.latchBypass .unsupportedSubgroupStreamType
  | .fetch header =>
    match fetchStage codec setup header with
    | .ok stage => { framer with stage }
    | .error reason => framer.latchBypass reason

def decodeStreamHeader (codec : Codec H F R) (setup : Setup) :
    Reader CodecError (DataStreamHeaderKind H F) :=
  match setup.streamType with
  | .subgroup => .subgroup <$> codec.decodeSubgroupHeader
  | .fetch => .fetch <$> codec.decodeFetchHeader

def pollHeader (codec : Codec H F R) (setup : Setup) (framer : ObjectFramer R) :
    FramerOut H F × ObjectFramer R :=
  if framer.buf.isEmpty then (.needMore, framer)
  else
    match decodeStreamHeader codec setup (.of framer.buf) with
    | .ok (header, rest) =>
      let consumed := framer.buf.length - rest.remaining
      (.header header (framer.buf.take consumed),
        { framer.openStage codec setup header with buf := framer.buf.drop consumed })
    | .error e =>
      if e.isIncomplete then
        if framer.buf.length ≥ setup.config.maxBufferedObjectBytes then
          framer.abandon .objectBeyondMeasuringReach
        else (.needMore, framer)
      else (.error "data stream header decode: " e, framer.latchBypass .decodeError)

def poll (codec : Codec H F R) (setup : Setup) (framer : ObjectFramer R) :
    FramerOut H F × ObjectFramer R :=
  match framer.pendingBypass with
  | some reason => (.bypassed reason framer.fixupPending, { framer with pendingBypass := none })
  | none =>
    if 0 < framer.passthroughRemaining then framer.emitPassthrough framer.passthroughRemaining
    else if framer.bypassed then framer.emitPassthrough u64Max
    else
      match framer.stage with
      | .awaitingHeader => framer.pollHeader codec setup
      | .subgroup _ | .fetch _ _ => framer.pollObject codec setup

def feed (framer : ObjectFramer R) (chunk : Bytes) : ObjectFramer R :=
  { framer with buf := framer.buf ++ chunk }

def finish (framer : ObjectFramer R) : Option Bytes × ObjectFramer R :=
  (if framer.buf.isEmpty then none else some framer.buf,
    { framer with passthroughRemaining := 0, buf := [] })

/-- The fetch writer put back where the object in hand had left it. -/
def rollBack (stage : Stage R) (rollback : Option FetchState) : Stage R :=
  match stage, rollback with
  | .fetch reader _, some writer => .fetch reader writer
  | _, _ => stage

/-- The object emitted most recently was not forwarded. -/
def noteElided (setup : Setup) (framer : ObjectFramer R) : ObjectFramer R :=
  match framer.pendingDisposition with
  | none => framer
  | some _ =>
    { framer with
      pendingDisposition := none
      fixupPending := framer.fixupPending || setup.elideOwesAFixup
      stage := rollBack framer.stage framer.fetchRollback
      fetchRollback := none }

end Items
end ObjectFramer

/-! ## A framer and its caller -/

inductive Step where
  | feed (chunk : Bytes)
  | poll
  deriving DecidableEq, Repr

/-- The bytes a run of steps feeds. -/
def fed : List Step → Bytes
  | [] => []
  | .feed chunk :: rest => chunk ++ fed rest
  | .poll :: rest => fed rest

section Run
variable {H F R : Type} (codec : Codec H F R) (setup : Setup)

/-- What the caller forwards of an item: an object `elide` picks is noted as elided at
once and its bytes are dropped. -/
def deliver (elide : ObjectMeta → Bool) (polled : FramerOut H F × ObjectFramer R) :
    List (FramerOut H F) × ObjectFramer R :=
  match polled.1 with
  | .needMore => ([], polled.2)
  | .object framing raw =>
    if elide framing then ([], polled.2.noteElided setup) else ([.object framing raw], polled.2)
  | out => ([out], polled.2)

def step (elide : ObjectMeta → Bool) (framer : ObjectFramer R) :
    Step → List (FramerOut H F) × ObjectFramer R
  | .feed chunk => ([], framer.feed chunk)
  | .poll => deliver setup elide (framer.poll codec setup)

/-- The items forwarded over a run of steps, in order. -/
def run (elide : ObjectMeta → Bool) : List Step → ObjectFramer R → List (FramerOut H F) × ObjectFramer R
  | [], framer => ([], framer)
  | next :: rest, framer =>
    let stepped := step codec setup elide framer next
    let ran := run elide rest stepped.2
    (stepped.1 ++ ran.1, ran.2)

end Run

/-- The bytes of a run of items. -/
def emitted {H F : Type} (outs : List (FramerOut H F)) : Bytes := outs.flatMap FramerOut.raw

/-- No caller elides anything. -/
def observe (_ : ObjectMeta) : Bool := false

end Moqtap.Framer
