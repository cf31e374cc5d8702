import Moqtap.FetchTable
import Moqtap.SubgroupRelay

/-!
One session's control and request streams, its fetch streams, and the table of
Group Orders between them, the callers of `FetchGroupOrders` in `moqtap-proxy`'s
`session.rs` and `framer.rs`.

A stream that is forwarded as it is read hands a chunk over before it files what the
chunk asks for; a stream whose messages the hook rewrites files before it writes, but
only what it writes at once; an injected message is filed by neither.  So a FETCH can
reach its publisher with no order filed for the answer (`order_missing`).  Where none
takes such a route, and no answer comes in between, every fetch stream is read under
the order its FETCH asks for (`orders_filed`).
-/

namespace Moqtap.FetchOrders

open ByteCursor CodecTypes StreamFraming ControlParser ControlInjections ControlMutation Egress Exec
open Framer FetchTable Runs
open FetchStream (GroupOrder)

/-! ## The streams -/

/-- A stream that is forwarded as it is read, with what its task does around the loop of
`Pipe`. -/
structure Passing where
  pipe : ControlInjections.Pipe
  parser : ControlStreamParser
  /-- A chunk that has been written and is still to be parsed. -/
  unparsed : Option Bytes
  /-- The FETCHes handed over by that write, or by one that failed. -/
  unfiled : List (ℕ × GroupOrder)
  /-- What a failed write handed over. -/
  last : Bytes

def Passing.new (draft : DraftVersion) : Passing :=
  { pipe := .new draft, parser := ⟨[], draft, false⟩, unparsed := none, unfiled := [], last := [] }

/-- The bytes of writes, in order. -/
def writtenBy (writes : List Write) : Bytes :=
  writes.flatMap fun
    | .forwarded bytes => bytes
    | .injected bytes => bytes

def Passing.delivered (passing : Passing) : Bytes := passing.pipe.delivered ++ passing.last

/-- A stream whose messages the hook rewrites, and the answer to the frame in hand once
the hook has given it: what it asks for is filed then, and written in a later step. -/
structure Mutating (Message : Type) where
  pipe : MutatingPipe Message
  decided : Option (Action × Times)

section

variable {Message H F R : Type} (codec : ControlCodec Message) (framing : Codec H F R)

/-- The FETCH that is about to be written. -/
def Mutating.leaving (mutating : Mutating Message) : Option (ℕ × GroupOrder) :=
  match mutating.decided, mutating.pipe.items with
  | some (answer, times), .frame _ raw :: _ =>
    match (execute (controlTarget (raw.getD [])) times mutating.pipe.pending mutating.pipe.closing
      answer).plan with
    | .writeNow bytes => codec.asked bytes
    | _ => none
  | _, _ => none

/-- Whether the session is closing once the frame in hand has its answer. -/
def Mutating.closes (mutating : Mutating Message) : Bool :=
  match mutating.decided, mutating.pipe.items with
  | some (answer, times), .frame _ raw :: _ =>
    (execute (controlTarget (raw.getD [])) times mutating.pipe.pending mutating.pipe.closing
      answer).closing
  | _, _ => mutating.pipe.closing

/-- `note_fetch_orders` -/
def noteFetchOrders (orders : FetchGroupOrders) (items : List (ParsedItem Message)) :
    FetchGroupOrders :=
  orders.recordAll <| items.filterMap fun
    | .frame message _ => codec.fetchGroupOrder message
    | .refused _ _ => none

/-- `note_fetch_order`, of what `asked` makes of the bytes going out. -/
def noteFetchOrder (orders : FetchGroupOrders) (leaving : Option (ℕ × GroupOrder)) : FetchGroupOrders :=
  match leaving with
  | some (requestId, order) => orders.record requestId order
  | none => orders

/-! ## The session -/

/-- What is remembered of a run: a FETCH is about to be written, a destination has all of
one, and a fetch stream's header has been framed, with the stage it opened. -/
inductive Happening (R : Type)
  | leaving (requestId : ℕ) (order : GroupOrder)
  | handed (requestId : ℕ) (order : GroupOrder)
  | framed (requestId : ℕ) (stage : Except BypassReason (Stage R))
  deriving DecidableEq

/-- A session that frames data.  `closing` is its closer's, and `trace` newest first. -/
structure Session (Message R : Type) where
  orders : FetchGroupOrders
  closing : Bool
  passing : ℕ → Passing
  mutating : ℕ → Mutating Message
  trace : List (Happening R)

/-- A step of one of the session's tasks. -/
inductive Event (F : Type)
  /-- A chunk is read and written. -/
  | read (stream : ℕ) (data : Bytes)
  /-- A chunk is read, and its write fails with `room` bytes handed over. -/
  | torn (stream : ℕ) (data : Bytes) (room : ℕ)
  | parse (stream : ℕ)
  | inject (stream : ℕ) (bytes : Bytes)
  | close (stream : ℕ)
  /-- The hook answers the frame in hand. -/
  | decide (stream : ℕ) (answer : Action) (times : Times)
  | act (stream : ℕ) (event : ControlMutation.Event)
  /-- Another hook call closes the session. -/
  | claim
  /-- A fetch stream's header is framed. -/
  | frame (header : F)

/-- What the framer of a fetch stream is built with. -/
def fetchSetup (orders : FetchGroupOrders) : Setup :=
  { streamType := .fetch
    draft := codec.draft
    config := {}
    fetchOrders := some fun requestId => (orders.take requestId).1 }

namespace Session

def new (config : ℕ → EgressConfig) (room : ℕ → Option ℕ) : Session Message R :=
  { orders := ∅
    closing := false
    passing := fun _ => .new codec.draft
    mutating := fun stream => ⟨.new codec.draft (config stream) (room stream), none⟩
    trace := [] }

variable (session : Session Message R)

def setPassing (stream : ℕ) (passing : Passing) : Session Message R :=
  { session with passing := Function.update session.passing stream passing }

def setMutating (stream : ℕ) (mutating : Mutating Message) : Session Message R :=
  { session with mutating := Function.update session.mutating stream mutating }

def hand (fetches : List (ℕ × GroupOrder)) : Session Message R :=
  { session with trace := (fetches.reverse.map fun fetch => .handed fetch.1 fetch.2) ++ session.trace }

/-- A pass-through stream goes on, and its destination has more of it. -/
def forward (stream : ℕ) (passing : Passing) (unparsed : Option Bytes) : Session Message R :=
  let handed := codec.handedBy (session.passing stream).delivered passing.delivered
  (session.setPassing stream { passing with unparsed := unparsed, unfiled := handed }).hand handed

def step : Event F → Option (Session Message R)
  | .read stream data =>
    let passing := session.passing stream
    if passing.unparsed.isNone then
      (passing.pipe.step (.read data)).map fun pipe =>
        session.forward codec stream { passing with pipe := pipe } (some data)
    else none
  | .torn stream data room =>
    let passing := session.passing stream
    if passing.unparsed.isNone && !passing.pipe.ended then
      let writes := writeWithInjections data (passing.pipe.split data) passing.pipe.injections
      let bytes := writtenBy writes.1
      some (session.forward codec stream
        { passing with pipe := { passing.pipe with ended := true }, last := bytes.take room } none)
    else none
  | .parse stream =>
    let passing := session.passing stream
    if passing.pipe.ended then none
    else passing.unparsed.map fun data =>
      let (result, parser) := passing.parser.feed codec.decode data
      { session.setPassing stream { passing with parser := parser, unparsed := none, unfiled := [] } with
        orders := noteFetchOrders codec session.orders result.items }
  | .inject stream bytes =>
    let passing := session.passing stream
    if passing.unparsed.isNone then
      (passing.pipe.step (.inject bytes)).map fun pipe =>
        (session.setPassing stream { passing with pipe := pipe }).hand
          (codec.handedBy passing.delivered (pipe.delivered ++ passing.last))
    else none
  | .close stream =>
    let passing := session.passing stream
    if passing.unparsed.isNone then
      (passing.pipe.step .ended).map fun pipe => session.setPassing stream { passing with pipe := pipe }
    else none
  | .decide stream answer times =>
    let mutating := session.mutating stream
    match mutating.decided, mutating.pipe.phase, mutating.pipe.items with
    | none, .serving, _ :: _ =>
      let mutating : Mutating Message :=
        { pipe := { mutating.pipe with closing := session.closing }, decided := some (answer, times) }
      let leaving := mutating.leaving codec
      some { session.setMutating stream mutating with
        orders := noteFetchOrder session.orders leaving
        closing := mutating.closes
        trace := (leaving.toList.map fun fetch => .leaving fetch.1 fetch.2) ++ session.trace }
    | _, _, _ => none
  | .act stream event =>
    let mutating := session.mutating stream
    let answered := match event with
      | .item answer times => mutating.decided == some (answer, times)
      | _ => mutating.decided.isNone
    if answered then
      (mutating.pipe.step codec.decode event).map fun pipe =>
        (session.setMutating stream { pipe := pipe, decided := none }).hand
          (codec.handedBy mutating.pipe.sink.received pipe.sink.received)
    else none
  | .claim => some { session with closing := true }
  | .frame header =>
    let requestId := framing.requestId header
    some { session with
      orders := (session.orders.take requestId).2
      trace := .framed requestId (ObjectFramer.fetchStage framing (fetchSetup codec session.orders) header) ::
        session.trace }

end Session

/-- A session that has just begun. -/
def Begins (session : Session Message R) : Prop := ∃ config room, session = .new codec config room

/-! ## What is to hold -/

/-- A FETCH naming `requestId` asks for `order`. -/
def Asks (trace : List (Happening R)) (requestId : ℕ) (order : GroupOrder) : Prop :=
  .leaving requestId order ∈ trace ∨ .handed requestId order ∈ trace

/-- No two FETCHes of one Request ID ask for different orders. -/
def Once (trace : List (Happening R)) : Prop :=
  ∀ requestId order order', Asks trace requestId order → Asks trace requestId order' → order = order'

/-- The fetches asked for, or about to be, whose stream has not been framed. -/
def unanswered : List (Happening R) → Finset ℕ
  | [] => ∅
  | .leaving requestId _ :: earlier | .handed requestId _ :: earlier =>
    insert requestId (unanswered earlier)
  | .framed requestId _ :: earlier => (unanswered earlier).erase requestId

/-- Never as many as the table holds. -/
def Few (trace : List (Happening R)) : Prop := ∀ earlier, earlier <:+ trace → (unanswered earlier).card < cap

/-- A FETCH has been handed over, and no stream naming it has been framed since. -/
def Open (requestId : ℕ) (order : GroupOrder) : List (Happening R) → Prop
  | [] => False
  | .leaving _ _ :: earlier => Open requestId order earlier
  | .handed requestId' order' :: earlier =>
    (requestId' = requestId ∧ order' = order) ∨ Open requestId order earlier
  | .framed requestId' _ :: earlier => requestId' ≠ requestId ∧ Open requestId order earlier

/-- The stage of a fetch stream that is read under `order`. -/
def readUnder (order : GroupOrder) : Stage R := .fetch (.new codec.draft order) (.new codec.draft order)

/-- Every fetch stream that is the first to name a FETCH handed over is read under the
order it asks for, and every one that is read at all under the order its FETCH asks for. -/
def Answered : List (Happening R) → Prop
  | [] => True
  | .leaving _ _ :: earlier | .handed _ _ :: earlier => Answered earlier
  | .framed requestId stage :: earlier =>
    (∀ order, Open requestId order earlier → stage = .ok (readUnder codec order)) ∧
      (∀ read, stage = .ok read → ∃ order, Asks earlier requestId order ∧ read = readUnder codec order) ∧
      Answered earlier

/-! ## Where it holds -/

/-- Whether an answer is an admitted `Delay` or `Hold`. -/
def defers (target : Target) : Action → Bool
  | .delay _ next =>
    target.admits .delay none && checkComposition next && (prepareContent target next).isSome
  | .hold _ next =>
    target.admits .hold none && checkComposition next && (prepareContent target next).isSome
  | _ => false

/-- An answer asks for whole messages; a FETCH is the first of them and the only one, and
goes out at once. -/
structure Prompt (pipe : MutatingPipe Message) (closing : Bool) (raw : Bytes) (answer : Action) :
    Prop where
  whole : codec.rest (prescribed (controlTarget raw) closing answer) = []
  only : codec.fetchesOf (prescribed (controlTarget raw) closing answer) =
    (codec.asked (prescribed (controlTarget raw) closing answer)).toList
  now : codec.asked (prescribed (controlTarget raw) closing answer) ≠ none →
    pipe.pending.q = [] ∧ defers (controlTarget raw) answer = false

/-- No FETCH is injected, and one the hook answers goes out at once; and no stream naming
a FETCH is framed between the writing and the filing of it. -/
def Meets (session : Session Message R) : Event F → Prop
  | .inject _ bytes => codec.FetchFree bytes
  | .decide stream answer _ => ∀ message raw items,
    (session.mutating stream).pipe.items = .frame message raw :: items →
      Prompt codec (session.mutating stream).pipe session.closing (raw.getD []) answer
  | .act _ (.inject bytes _) => codec.FetchFree bytes
  | .frame header =>
    (∀ stream order, (framing.requestId header, order) ∉ (session.passing stream).unfiled) ∧
      ∀ stream order, (session.mutating stream).leaving codec ≠ some (framing.requestId header, order)
  | _ => True

/-! ## The trace -/

variable {codec} {framing} {trace news : List (Happening R)} {requestId : ℕ} {order : GroupOrder}

theorem Asks.later (asks : Asks trace requestId order) (news : List (Happening R)) :
    Asks (news ++ trace) requestId order :=
  asks.imp (List.mem_append_right news) (List.mem_append_right news)

theorem Once.earlier (once : Once (news ++ trace)) : Once trace := fun requestId order order' asks asks' =>
  once requestId order order' (asks.later news) (asks'.later news)

theorem Few.earlier (few : Few (news ++ trace)) : Few trace := fun earlier suffix =>
  few earlier (suffix.trans (List.suffix_append ..))

/-- What handing FETCHes over adds to a trace, and what it leaves. -/
theorem handed_trace (fetches : List (ℕ × GroupOrder)) (trace : List (Happening R)) :
    (unanswered trace ⊆ unanswered (fetches.map (fun fetch => .handed fetch.1 fetch.2) ++ trace)) ∧
    (∀ fetch ∈ fetches, fetch.1 ∈ unanswered (fetches.map (fun fetch => .handed fetch.1 fetch.2) ++ trace)) ∧
    (∀ requestId order, Open requestId order (fetches.map (fun fetch => .handed fetch.1 fetch.2) ++ trace) →
      (requestId, order) ∈ fetches ∨ Open requestId order trace) ∧
    (Answered codec trace → Answered codec (fetches.map (fun fetch => .handed fetch.1 fetch.2) ++ trace)) := by
  induction fetches with
  | nil => exact ⟨subset_rfl, nofun, fun _ _ => .inr, id⟩
  | cons fetch fetches ih =>
    obtain ⟨more, among, opened, answered⟩ := ih
    refine ⟨more.trans (Finset.subset_insert ..), ?_, ?_, answered⟩
    · intro fetch' member
      rcases List.mem_cons.mp member with rfl | later
      · exact Finset.mem_insert_self ..
      · exact Finset.mem_insert_of_mem (among fetch' later)
    · rintro requestId order (⟨rfl, rfl⟩ | later)
      · exact .inl (List.mem_cons_self ..)
      · exact (opened requestId order later).imp_left (List.mem_cons_of_mem _)

/-! ## A stream that is forwarded as it is read -/

/-- What such a stream's task keeps while it runs: the stream it forwards has the FETCHes
of its source, and the parser is behind at most the chunk just written. -/
structure Forwarding (codec : ControlCodec Message) (passing : Passing) : Prop where
  piped : ∃ history, Piped codec.draft history passing.pipe ∧
    ∀ message ∈ requestsOf history, codec.FetchFree message
  parser : passing.parser.draft = codec.draft ∧ passing.parser.captureRaw = false
  whole : passing.last = []
  parsed : match passing.unparsed with
    | none => passing.unfiled = [] ∧ passing.parser.buf = codec.rest (forwardedOf passing.pipe.written)
    | some data => ∃ before, forwardedOf passing.pipe.written = before ++ data ∧
        passing.parser.buf = codec.rest before ∧
        passing.unfiled = codec.fetchesOf (codec.rest before ++ data)

/-- Harmless injections leave a stream with the FETCHes of its source. -/
theorem delivered_alike (needed : fetchGroupOrderIsNeeded codec.draft = true)
    {history : List ControlInjections.Event} {pipe : ControlInjections.Pipe}
    (run : Piped codec.draft history pipe) (free : ∀ message ∈ requestsOf history, codec.FetchFree message) :
    codec.Alike (forwardedOf pipe.written) pipe.delivered := by
  have piping := piping_of_run run
  have source := piping.source
  have spliced : pipe.delivered = splice 0 (forwardedOf pipe.written) (placements 0 pipe.written) :=
    delivered_spliced 0 pipe.written
  rw [spliced, ← List.nil_append (splice ..)]
  refine ControlCodec.splice_alike needed (.refl _) (placements_ordered 0 _) (fun place _ => Nat.zero_le _) ?_ ?_
  · intro place member
    rw [source]
    exact (piping.between place member).2
  · intro place member
    apply free
    rw [← piping.once]
    exact List.mem_append_left _ (List.mem_map_of_mem member)

theorem Forwarding.begins (codec : ControlCodec Message) : Forwarding codec (.new codec.draft) where
  piped := ⟨[], .start rfl, nofun⟩
  parser := ⟨rfl, rfl⟩
  whole := rfl
  parsed := ⟨rfl, (ControlCodec.FetchFree.nil : codec.FetchFree []).1.symm⟩

theorem Forwarding.delivered {passing : Passing} (needed : fetchGroupOrderIsNeeded codec.draft = true)
    (forwarding : Forwarding codec passing) :
    codec.fetchesOf passing.delivered = codec.fetchesOf (forwardedOf passing.pipe.written) := by
  obtain ⟨history, run, free⟩ := forwarding.piped
  rw [Passing.delivered, forwarding.whole, List.append_nil]
  exact (delivered_alike needed run free).1

theorem Forwarding.read {passing : Passing} (needed : fetchGroupOrderIsNeeded codec.draft = true)
    (forwarding : Forwarding codec passing) (parsed : passing.unparsed = none) {data : Bytes}
    {pipe : ControlInjections.Pipe} (stepped : passing.pipe.step (.read data) = some pipe) :
    Forwarding codec { passing with
      pipe := pipe
      unparsed := some data
      unfiled := codec.handedBy passing.delivered (pipe.delivered ++ passing.last) } := by
  obtain ⟨history, run, free⟩ := forwarding.piped
  have next : Piped codec.draft (.read data :: history) pipe := .step run stepped
  have free' : ∀ message ∈ requestsOf (.read data :: history), codec.FetchFree message := free
  have source : forwardedOf pipe.written = forwardedOf passing.pipe.written ++ data := by
    rw [(piping_of_run next).source, (piping_of_run run).source]
    rfl
  have behind := forwarding.parsed
  rw [parsed] at behind
  refine ⟨⟨_, next, free'⟩, forwarding.parser, forwarding.whole, _, source, behind.2, ?_⟩
  dsimp only
  rw [forwarding.whole, List.append_nil, ControlCodec.handedBy, forwarding.delivered needed,
    (delivered_alike needed next free').1, source, ControlCodec.fetchesOf_append, List.drop_left]

/-- An injected message that is no FETCH hands none over. -/
theorem Forwarding.inject {passing : Passing} (needed : fetchGroupOrderIsNeeded codec.draft = true)
    (forwarding : Forwarding codec passing) {bytes : Bytes} (harmless : codec.FetchFree bytes)
    {pipe : ControlInjections.Pipe} (stepped : passing.pipe.step (.inject bytes) = some pipe) :
    codec.handedBy passing.delivered (pipe.delivered ++ passing.last) = [] ∧
      Forwarding codec { passing with pipe := pipe } := by
  obtain ⟨history, run, free⟩ := forwarding.piped
  have next : Piped codec.draft (.inject bytes :: history) pipe := .step run stepped
  have free' : ∀ message ∈ requestsOf (.inject bytes :: history), codec.FetchFree message := by
    intro message member
    rcases List.mem_append.mp member with old | new
    · exact free message old
    · rwa [List.mem_singleton.mp new]
  have source : forwardedOf pipe.written = forwardedOf passing.pipe.written := by
    rw [(piping_of_run next).source, (piping_of_run run).source]
    rfl
  constructor
  · rw [forwarding.whole, List.append_nil, ControlCodec.handedBy, forwarding.delivered needed,
      (delivered_alike needed next free').1, source, List.drop_length]
  · refine ⟨⟨_, next, free'⟩, forwarding.parser, forwarding.whole, ?_⟩
    dsimp only
    rw [source]
    exact forwarding.parsed

/-- The FETCHes of a buffer, whether or not the parser keeps the bytes of its frames. -/
theorem feed_fetches {parser : ControlStreamParser} (drafted : parser.draft = codec.draft) (data : Bytes) :
    ((parser.feed codec.decode data).1.items.filterMap fun
        | .frame message _ => codec.fetchGroupOrder message
        | .refused _ _ => none) = codec.fetchesOf (parser.buf ++ data) ∧
      (parser.feed codec.decode data).2 = { parser with buf := codec.rest (parser.buf ++ data) } := by
  have given : (parser.feed codec.decode data).1.items =
      (frames (locate parser.draft) (parser.buf ++ data)).1.map fun entry =>
        parsedItem codec.decode parser.draft parser.captureRaw entry.1 entry.2 := by
    unfold ControlStreamParser.feed
    simp only [feedLoop_eq]
    rw [frames]
    split_ifs with none'
    · exact (List.isEmpty_iff.mp none').symm
    · rfl
  constructor
  · rw [given, List.filterMap_map, drafted]
    apply List.filterMap_congr
    intro entry _
    rw [Function.comp_apply, ControlCodec.asked, parsedItem]
    cases codec.decode codec.draft entry.2 <;> rfl
  · unfold ControlStreamParser.feed
    simp only [feedLoop_eq, drafted]
    rfl

theorem Forwarding.parse {passing : Passing} (forwarding : Forwarding codec passing) {data : Bytes}
    (written : passing.unparsed = some data) (orders : FetchGroupOrders) :
    noteFetchOrders codec orders (passing.parser.feed codec.decode data).1.items =
        orders.recordAll passing.unfiled ∧
      Forwarding codec { passing with
        parser := (passing.parser.feed codec.decode data).2
        unparsed := none
        unfiled := [] } := by
  have behind := forwarding.parsed
  rw [written] at behind
  obtain ⟨before, source, buf, unfiled⟩ := behind
  obtain ⟨fetches, after⟩ := feed_fetches forwarding.parser.1 data
  constructor
  · rw [noteFetchOrders, fetches, buf, unfiled]
  · rw [after]
    refine ⟨forwarding.piped, forwarding.parser, forwarding.whole, rfl, ?_⟩
    dsimp only
    rw [source, buf, ← ControlCodec.rest_append]

theorem Forwarding.unfiled {passing : Passing} (forwarding : Forwarding codec passing)
    (parsed : passing.unparsed = none) : passing.unfiled = [] := by
  have behind := forwarding.parsed
  rw [parsed] at behind
  exact behind.1

/-! ## A stream whose messages the hook rewrites -/

/-- What waits in such a stream's pipe is frames of its draft and units that are no FETCH. -/
structure Tidy (codec : ControlCodec Message) (pipe : MutatingPipe Message) : Prop where
  parser : pipe.parser.draft = codec.draft ∧ pipe.parser.captureRaw = true
  items : ∀ item ∈ pipe.items, ∃ typeId frame,
    locate codec.draft frame = some (typeId, frame.length) ∧
      item = parsedItem codec.decode codec.draft true typeId frame
  unshaped : pipe.pending.shaper = none
  waiting : ∀ unit ∈ pipe.pending.q, codec.FetchFree unit.item.bytes

/-- What its task keeps while it runs: the destination stands behind whole messages, and
the answer to the frame in hand meets the condition. -/
structure Working (codec : ControlCodec Message) (mutating : Mutating Message) : Prop where
  tidy : Tidy codec mutating.pipe
  live : mutating.pipe.sink.Live
  whole : codec.rest mutating.pipe.sink.received = []
  prompt : ∀ answer times message raw items, mutating.decided = some (answer, times) →
    mutating.pipe.items = .frame message raw :: items →
      Prompt codec mutating.pipe mutating.pipe.closing (raw.getD []) answer

/-- What a step of such a stream leads to: only the FETCH that was about to be written is
handed over, and the stream is as it should be or has ended. -/
structure Works (codec : ControlCodec Message) (mutating : Mutating Message) (pipe : MutatingPipe Message) :
    Prop where
  hands : ∀ fetch ∈ codec.handedBy mutating.pipe.sink.received pipe.sink.received,
    mutating.leaving codec = some fetch
  kept : pipe.phase ≠ .ended → Working codec { pipe := pipe, decided := none }

theorem free_units {units : List Pending} (waiting : ∀ unit ∈ units, codec.FetchFree unit.item.bytes) :
    codec.FetchFree (units.flatMap fun unit => unit.item.bytes) := by
  induction units with
  | nil => exact .nil
  | cons unit units ih =>
    rw [List.flatMap_cons]
    exact (waiting unit (List.mem_cons_self ..)).append
      (ih fun unit member => waiting unit (List.mem_cons_of_mem _ member))

/-- A whole frame is a message, and no other is in it. -/
theorem frame_alone {frame : Bytes} {typeId : ℕ}
    (located : locate codec.draft frame = some (typeId, frame.length)) :
    codec.rest frame = [] ∧ codec.fetchesOf frame = (codec.asked frame).toList := by
  have alone := frames_some (locate_stable codec.draft) located
  rw [List.take_length, List.drop_length, frames_none (locate_nil codec.draft)] at alone
  constructor
  · rw [ControlCodec.rest, alone]
  · rw [ControlCodec.fetchesOf, alone, List.filterMap_cons, List.filterMap_nil]
    cases codec.asked frame <;> rfl

/-- A frame the decoder refuses is no FETCH. -/
theorem refused_free {frame : Bytes} {typeId typeId' : ℕ} {raw : Option Bytes}
    (located : locate codec.draft frame = some (typeId, frame.length))
    (refused : .refused typeId' raw = parsedItem codec.decode codec.draft true typeId frame) :
    codec.FetchFree (raw.getD []) := by
  obtain ⟨whole, fetches⟩ := frame_alone located
  unfold parsedItem at refused
  cases decoded : codec.decode codec.draft frame with
  | some message =>
    rw [decoded] at refused
    cases refused
  | none =>
    rw [decoded] at refused
    cases refused
    refine ⟨whole, fetches.trans ?_⟩
    rw [ControlCodec.asked, decoded]
    rfl

variable {mutating : Mutating Message} {pipe pipe' : MutatingPipe Message}

/-- A stream that ends with nothing more handed over than what waited. -/
theorem Working.ends (working : Working codec mutating) (ended : pipe.phase = .ended) {more : Bytes}
    (free : codec.FetchFree more) (part : pipe.sink.received <+: mutating.pipe.sink.received ++ more) :
    Works codec mutating pipe where
  hands fetch member := by
    have none' := @ControlCodec.handedBy_part _ codec _ _ mutating.pipe.sink.received part
    rw [(free.hands working.whole).1] at none'
    rw [List.prefix_nil.mp none'] at member
    cases member
  kept unended := absurd ended unended

/-- A stream that goes on with nothing handed over but what is no FETCH. -/
theorem Working.goes (working : Working codec mutating) {more : Bytes} (free : codec.FetchFree more)
    (received : pipe.sink.received = mutating.pipe.sink.received ++ more) (live : pipe.sink.Live)
    (tidy : Tidy codec pipe) : Works codec mutating pipe where
  hands fetch member := by
    rw [received, (free.hands working.whole).1] at member
    cases member
  kept _ := ⟨tidy, live, received ▸ (free.hands working.whole).2, nofun⟩

/-- A stream that goes on with nothing handed over. -/
theorem Working.quietly (working : Working codec mutating) (same : pipe.sink = mutating.pipe.sink)
    (tidy : Tidy codec pipe) : Works codec mutating pipe :=
  working.goes .nil (by rw [same, List.append_nil]) (same ▸ working.live) tidy

/-- Whole messages are written, or a part of them and the stream ends. -/
theorem Working.write (working : Working codec mutating) {bytes : Bytes} (whole : codec.rest bytes = [])
    (leaves : ∀ fetch ∈ codec.fetchesOf bytes, mutating.leaving codec = some fetch)
    (same : pipe.sink = mutating.pipe.sink) (tidy : Tidy codec pipe) :
    Works codec mutating (pipe.write bytes) := by
  have hands := hands_writeAll working.live bytes
  have handed : codec.handedBy mutating.pipe.sink.received (mutating.pipe.sink.received ++ bytes) =
      codec.fetchesOf bytes := by
    rw [ControlCodec.handedBy_append, working.whole, List.nil_append]
  unfold MutatingPipe.write
  rw [same]
  rcases wrote : mutating.pipe.sink.writeAll bytes with ⟨- | -, sink⟩ <;> rw [wrote] at hands
  · cases hands with
    | whole carries => cases carries
    | part _ _ received =>
      obtain ⟨rest, received⟩ := received
      refine ⟨fun fetch member => leaves fetch ?_, fun unended => absurd rfl unended⟩
      have part := @ControlCodec.handedBy_part _ codec _ _ mutating.pipe.sink.received ⟨rest, received⟩
      rw [handed] at part
      exact part.subset member
  · cases hands with
    | part stops => cases stops
    | whole _ live _ received =>
      refine ⟨fun fetch member => leaves fetch ?_, fun _ =>
        ⟨⟨tidy.parser, tidy.items, tidy.unshaped, tidy.waiting⟩, live, ?_, nofun⟩⟩
      · dsimp only at member
        rwa [received, handed] at member
      · dsimp only
        rw [received, ControlCodec.rest_append, working.whole]
        exact whole

theorem control_lasts (raw : Bytes) (times : Times) (queue : PendingQueue) (closing : Bool)
    (answer : Action) : (execute (controlTarget raw) times queue closing answer).plan ≠ .terminal := by
  have forked (payload : Payload) : (commitNow payload queue times).1 ≠ .terminal := by
    unfold commitNow
    cases payload <;> split_ifs <;> nofun
  have queued : Plan.nothing ≠ .terminal := nofun
  cases answer with
  | closeSession code reason => cases closing <;> first | exact forked _ | nofun
  | delay by' next => cases next <;> first | exact queued | exact forked _
  | hold gate next => cases next <;> first | exact queued | exact forked _
  | _ => exact forked _

theorem commitNow_idle {queue : PendingQueue} (idle : queue.q = []) (unshaped : queue.shaper = none)
    (payload : Payload) (times : Times) : (commitNow payload queue times).2 = queue := by
  have free : queueIsBusy queue = false := by
    simp [queueIsBusy, PendingQueue.isEmpty, PendingQueue.isShaped, idle, unshaped]
  unfold commitNow
  rw [free, if_pos (by decide)]

/-- With nothing waiting, only an answer that defers is queued. -/
theorem execute_idle {queue : PendingQueue} (idle : queue.q = []) (unshaped : queue.shaper = none)
    {raw : Bytes} {answer : Action} (prompt : defers (controlTarget raw) answer = false) (times : Times)
    (closing : Bool) : (execute (controlTarget raw) times queue closing answer).queue = queue := by
  have forked (payload : Payload) := commitNow_idle idle unshaped payload times
  cases answer with
  | closeSession code reason => cases closing <;> first | exact forked _ | rfl
  | delay by' next => cases next <;> first | exact forked _ | cases prompt
  | hold gate next => cases next <;> first | exact forked _ | cases prompt
  | _ => exact forked _

theorem push_free {queue : PendingQueue} (waiting : ∀ unit ∈ queue.q, codec.FetchFree unit.item.bytes)
    {unit : Pending} (free : codec.FetchFree unit.item.bytes) {now : ℕ} :
    ∀ unit' ∈ (queue.push unit now).q, codec.FetchFree unit'.item.bytes := by
  intro unit' member
  rcases List.mem_append.mp member with old | new
  · exact waiting unit' old
  · rw [List.mem_singleton.mp new]
    split_ifs <;> exact free

theorem push_apart (queue : PendingQueue) (unit : Pending) (now : ℕ) : queue.push unit now ≠ queue := by
  intro same
  have lengths := congrArg (fun queue => queue.q.length) same
  simp [PendingQueue.push] at lengths

/-- The answer to the frame in hand is carried out. -/
theorem Working.item (working : Working codec mutating) {answer : Action} {times : Times}
    (decided : mutating.decided = some (answer, times)) {item : ParsedItem Message}
    {items : List (ParsedItem Message)} (head : mutating.pipe.items = item :: items) :
    Works codec mutating (({ mutating.pipe with items := items } : MutatingPipe Message).forward item
      answer times) := by
  have rest : ∀ item ∈ items, ∃ typeId frame,
      locate codec.draft frame = some (typeId, frame.length) ∧
        item = parsedItem codec.decode codec.draft true typeId frame := fun item member =>
    working.tidy.items item (head ▸ List.mem_cons_of_mem _ member)
  have tidy (pending : PendingQueue) (closing : Bool) (unshaped : pending.shaper = none)
      (waiting : ∀ unit ∈ pending.q, codec.FetchFree unit.item.bytes) :
      Tidy codec { mutating.pipe with items := items, pending := pending, closing := closing } :=
    ⟨working.tidy.parser, rest, unshaped, waiting⟩
  cases item with
  | refused typeId raw =>
    obtain ⟨typeId', frame, located, refused⟩ := working.tidy.items _ (head ▸ List.mem_cons_self ..)
    have free := refused_free located refused
    apply working.write free.1
    · rw [free.2]
      nofun
    · rfl
    · exact tidy _ _ working.tidy.unshaped working.tidy.waiting
  | frame message raw =>
    have prompt := working.prompt answer times message raw items decided head
    have commits := execute_commits (controlTarget (raw.getD [])) times mutating.pipe.pending
      mutating.pipe.closing answer
    have lasts := control_lasts (raw.getD []) times mutating.pipe.pending mutating.pipe.closing answer
    have idle (none' : mutating.pipe.pending.q = []) (now : defers (controlTarget (raw.getD [])) answer = false) :=
      execute_idle none' working.tidy.unshaped now times mutating.pipe.closing
    have leaving : mutating.leaving codec =
        match (execute (controlTarget (raw.getD [])) times mutating.pipe.pending mutating.pipe.closing
          answer).plan with
        | .writeNow bytes => codec.asked bytes
        | _ => none := by
      rw [Mutating.leaving, decided, head]
    unfold MutatingPipe.forward
    dsimp only
    generalize execute (controlTarget (raw.getD [])) times mutating.pipe.pending mutating.pipe.closing
      answer = out at *
    obtain ⟨plan, noteElided, queue, closing⟩ := out
    dsimp only at commits lasts idle leaving ⊢
    cases commits with
    | terminal => exact absurd rfl lasts
    | closed =>
      apply working.ends rfl .nil
      rw [List.append_nil]
    | written =>
      apply working.write prompt.whole
      · intro fetch member
        rw [prompt.only] at member
        exact leaving.trans (Option.mem_toList.mp member)
      · rfl
      · exact tidy _ _ working.tidy.unshaped working.tidy.waiting
    | elided =>
      exact working.quietly rfl (tidy _ _ working.tidy.unshaped working.tidy.waiting)
    | queued unit now _ owes =>
      have quiet : codec.asked (prescribed (controlTarget (raw.getD [])) mutating.pipe.closing answer) =
          none := by
        by_contra asked
        obtain ⟨none', prompt⟩ := prompt.now asked
        exact push_apart _ _ _ (idle none' prompt)
      have free : codec.FetchFree unit.item.bytes := by
        rw [owes]
        refine ⟨prompt.whole, prompt.only.trans ?_⟩
        rw [quiet]
        rfl
      exact working.quietly rfl (tidy _ _ working.tidy.unshaped (push_free working.tidy.waiting free))

/-- A wake, outside a drain or in one. -/
theorem Working.release (working : Working codec mutating) (wake : Wake) :
    Works codec mutating (mutating.pipe.release wake) := by
  have keeps := @release_keeps mutating.pipe.sink mutating.pipe.pending wake mutating.pipe.pending.len 0
    working.live
  have fixed := (@releaseLoop_fixed wake mutating.pipe.pending.len 0 mutating.pipe.pending
    mutating.pipe.sink).2
  have free := free_units working.tidy.waiting
  unfold MutatingPipe.release releaseDueUnits
  generalize releaseLoop wake mutating.pipe.pending.len 0 mutating.pipe.pending mutating.pipe.sink =
    released at *
  obtain ⟨flow, pending, sink⟩ := released
  dsimp only at keeps fixed
  have stops (sink' : Sink)
      (part : sink'.received <+: mutating.pipe.sink.received ++ mutating.pipe.pending.owed) :
      Works codec mutating { mutating.pipe with pending := pending, sink := sink', phase := .ended } :=
    working.ends rfl free part
  cases keeps with
  | part carries _ received =>
    obtain ⟨rest, received⟩ := received
    cases flow with
    | carryOn => cases carries
    | streamOver => exact stops sink ⟨rest, received⟩
    | failed => exact stops sink ⟨rest, received⟩
  | whole carries live _ received behind =>
    obtain rfl : flow = .carryOn := beq_iff_eq.mp carries
    obtain ⟨front, all⟩ := behind
    have waiting : ∀ unit ∈ pending.q, codec.FetchFree unit.item.bytes := fun unit member =>
      working.tidy.waiting unit (all ▸ List.mem_append_right front member)
    have written : sink.received =
        mutating.pipe.sink.received ++ front.flatMap fun unit => unit.item.bytes := by
      rw [PendingQueue.owed, PendingQueue.owed, ← all, List.flatMap_append, ← List.append_assoc] at received
      exact List.append_cancel_right received
    have gone : codec.FetchFree (front.flatMap fun unit => unit.item.bytes) := free_units fun unit member =>
      working.tidy.waiting unit (all ▸ List.mem_append_left pending.q member)
    have goes (phase : Phase) :
        Works codec mutating { mutating.pipe with pending := pending, sink := sink, phase := phase } :=
      working.goes gone written live
        ⟨working.tidy.parser, working.tidy.items, fixed.trans working.tidy.unshaped, waiting⟩
    dsimp only
    cases mutating.pipe.phase with
    | serving => exact goes .serving
    | ended => exact goes .ended
    | draining finishes =>
      dsimp only
      split_ifs with empty
      · cases finishes with
        | true =>
          apply stops
          rw [conclude_received]
          exact ⟨pending.owed, received⟩
        | false => exact stops sink ⟨pending.owed, received⟩
      · exact goes (.draining finishes)

/-- A drain that ignores release times hands over what waited, or part of it. -/
theorem flush_part (live : pipe.sink.Live) (discarding : Bool) :
    (pipe.flush discarding).sink.received <+: pipe.sink.received ++ pipe.pending.owed := by
  have keeps := @drain_keeps pipe.sink pipe.pending pipe.pending.q live
  unfold MutatingPipe.flush drainIgnoringReleaseTimes
  cases discarding with
  | true => exact List.prefix_append ..
  | false =>
    rcases drained : drainUnits pipe.pending.q pipe.sink with ⟨outcome, left, sink⟩
    rw [drained] at keeps
    rw [if_neg Bool.false_ne_true]
    cases keeps with
    | part _ _ received => exact received
    | whole _ _ _ received _ => exact ⟨_, received⟩

theorem frame_located {bytes : Bytes} {entry : ℕ × Bytes}
    (member : entry ∈ (frames (locate codec.draft) bytes).1) :
    locate codec.draft entry.2 = some (entry.1, entry.2.length) := by
  obtain ⟨rest, located⟩ := frames_mem (locate_stable codec.draft) member
  obtain ⟨frame, rest', split, length, whole⟩ := locate_some located
  obtain rfl : entry.2 = frame := List.append_inj_left split length.symm
  have alone := locate_whole whole []
  rwa [List.append_nil] at alone

theorem Working.step (working : Working codec mutating) {event : ControlMutation.Event}
    (answered : ∀ answer times, event = .item answer times → mutating.decided = some (answer, times))
    (free : ∀ bytes now, event = .inject bytes now → codec.FetchFree bytes)
    (stepped : mutating.pipe.step codec.decode event = some pipe') : Works codec mutating pipe' := by
  have still : mutating.pipe.sink.received <+: mutating.pipe.sink.received ++ [] := List.prefix_append ..
  have flushed (discarding : Bool) := flush_part working.live discarding
  have owed := free_units working.tidy.waiting
  unfold MutatingPipe.step at stepped
  cases event with
  | read data =>
    dsimp only at stepped
    split_ifs at stepped
    cases stepped
    obtain ⟨drafted, captured⟩ := working.tidy.parser
    have parser : mutating.pipe.parser = ⟨mutating.pipe.parser.buf, codec.draft, true⟩ := by
      rw [← drafted, ← captured]
    obtain ⟨given, after⟩ := @feed_frames codec.draft Message codec.decode mutating.pipe.parser.buf data
    rw [← parser] at given after
    refine working.quietly rfl ⟨?_, ?_, working.tidy.unshaped, working.tidy.waiting⟩
    · dsimp only
      rw [after]
      exact ⟨rfl, rfl⟩
    · intro item member
      dsimp only at member
      rw [given] at member
      obtain ⟨entry, inside, rfl⟩ := List.mem_map.mp member
      exact ⟨entry.1, entry.2, frame_located inside, rfl⟩
  | item answer times =>
    dsimp only at stepped
    split at stepped
    · rename_i item items _ head
      cases stepped
      exact working.item (answered answer times rfl) head
    · cases stepped
  | wake wake =>
    dsimp only at stepped
    split_ifs at stepped
    cases stepped
    exact working.release wake
  | inject bytes now =>
    have harmless := free bytes now rfl
    dsimp only at stepped
    split_ifs at stepped
    all_goals cases stepped
    · apply working.write harmless.1
      · rw [harmless.2]
        nofun
      · rfl
      · exact working.tidy
    · exact working.quietly rfl ⟨working.tidy.parser, working.tidy.items, working.tidy.unshaped,
        @push_free _ codec _ working.tidy.waiting (.bytes bytes now) harmless now⟩
  | fin =>
    dsimp only at stepped
    split_ifs at stepped
    all_goals cases stepped
    · apply working.ends rfl .nil
      change (mutating.pipe.sink.conclude .finished).received <+: _
      rw [conclude_received]
      exact still
    · exact working.quietly rfl
        ⟨working.tidy.parser, working.tidy.items, working.tidy.unshaped, working.tidy.waiting⟩
  | reset code =>
    dsimp only at stepped
    split_ifs at stepped
    cases stepped
    apply working.ends rfl .nil
    rw [conclude_received]
    exact still
  | sourceLost code discarding =>
    dsimp only at stepped
    split_ifs at stepped
    cases stepped
    unfold MutatingPipe.loseSource
    cases code with
    | none => exact working.ends rfl .nil still
    | some code =>
      apply working.ends rfl owed
      dsimp only
      rw [conclude_received]
      exact flushed discarding
  | stopped =>
    dsimp only at stepped
    split_ifs at stepped
    cases stepped
    exact working.ends rfl .nil still
  | cancelled discarding =>
    dsimp only at stepped
    split at stepped
    · cases stepped
    · split_ifs at stepped
      cases stepped
      exact working.ends rfl owed (flushed discarding)

/-! ## The session -/

/-- What a session keeps: an order filed is one a FETCH asks for, and a FETCH handed over
and not answered has its order filed or is in a chunk still to be parsed. -/
structure Filing (codec : ControlCodec Message) (session : Session Message R) : Prop where
  forwarding : ∀ stream, (session.passing stream).pipe.ended = false →
    Forwarding codec (session.passing stream)
  working : ∀ stream, (session.mutating stream).pipe.phase ≠ .ended → Working codec (session.mutating stream)
  filed : ∀ requestId order, session.orders.lookup requestId = some order →
    Asks session.trace requestId order
  within : session.orders.Within (unanswered session.trace)
  unfiled : ∀ stream, ∀ fetch ∈ (session.passing stream).unfiled,
    fetch.1 ∈ unanswered session.trace ∧ Asks session.trace fetch.1 fetch.2
  leaving : ∀ stream fetch, (session.mutating stream).leaving codec = some fetch →
    session.orders.lookup fetch.1 = some fetch.2
  opened : ∀ requestId order, Open requestId order session.trace →
    session.orders.lookup requestId = some order ∨
      ∃ stream, (requestId, order) ∈ (session.passing stream).unfiled
  answered : Answered codec session.trace

variable {session session' : Session Message R} {stream : ℕ}

theorem Filing.begins (session : Session Message R) (begins : Begins codec session) :
    Filing codec session := by
  obtain ⟨config, room, rfl⟩ := begins
  refine ⟨fun _ _ => .begins codec, fun stream _ => ⟨⟨⟨rfl, rfl⟩, nofun, rfl, nofun⟩, Sink.live_new _, ?_, nofun⟩,
    nofun, nofun, nofun, nofun, nofun, trivial⟩
  exact (ControlCodec.FetchFree.nil : codec.FetchFree []).1

/-- FETCHes are handed over, each filed already or in a chunk still to be parsed. -/
theorem Filing.hand (filing : Filing codec session) {fetches : List (ℕ × GroupOrder)}
    (trace : session'.trace = fetches.reverse.map (fun fetch => .handed fetch.1 fetch.2) ++ session.trace)
    (orders : session'.orders = session.orders)
    (forwarding : ∀ stream, (session'.passing stream).pipe.ended = false →
      Forwarding codec (session'.passing stream))
    (working : ∀ stream, (session'.mutating stream).pipe.phase ≠ .ended →
      Working codec (session'.mutating stream))
    (unfiled : ∀ stream, ∀ fetch ∈ (session'.passing stream).unfiled,
      fetch ∈ fetches ∨ fetch ∈ (session.passing stream).unfiled)
    (kept : ∀ stream, ∀ fetch ∈ (session.passing stream).unfiled, fetch ∈ (session'.passing stream).unfiled)
    (leaving : ∀ stream fetch, (session'.mutating stream).leaving codec = some fetch →
      (session.mutating stream).leaving codec = some fetch)
    (handed : ∀ fetch ∈ fetches, session.orders.lookup fetch.1 = some fetch.2 ∨
      ∃ stream, fetch ∈ (session'.passing stream).unfiled) : Filing codec session' := by
  obtain ⟨more, among, opened, answered⟩ := @handed_trace Message R codec fetches.reverse session.trace
  have asks (fetch : ℕ × GroupOrder) (member : fetch ∈ fetches) : Asks session'.trace fetch.1 fetch.2 := by
    rw [trace]
    exact .inr (List.mem_append_left _ (List.mem_map_of_mem (List.mem_reverse.mpr member)))
  rw [← trace] at more among opened answered
  refine ⟨forwarding, working, ?_, ?_, ?_, ?_, ?_, answered filing.answered⟩
  · intro requestId order found
    rw [orders] at found
    rw [trace]
    exact (filing.filed requestId order found).later _
  · rw [orders]
    exact filing.within.mono more
  · intro stream fetch member
    rcases unfiled stream fetch member with new | old
    · exact ⟨among fetch (List.mem_reverse.mpr new), asks fetch new⟩
    · obtain ⟨inside, asked⟩ := filing.unfiled stream fetch old
      refine ⟨more inside, ?_⟩
      rw [trace]
      exact asked.later _
  · intro stream fetch leaves
    rw [orders]
    exact filing.leaving stream fetch (leaving stream fetch leaves)
  · intro requestId order open'
    rw [orders]
    rcases opened requestId order open' with new | old
    · exact handed _ (List.mem_reverse.mp new)
    · refine (filing.opened requestId order old).imp_right ?_
      rintro ⟨stream, member⟩
      exact ⟨stream, kept stream _ member⟩

/-- A chunk is handed over, whole or in part. -/
theorem Filing.forward (filing : Filing codec session) {passing : Passing} {unparsed : Option Bytes}
    (idle : (session.passing stream).unfiled = [])
    (kept : passing.pipe.ended = false → Forwarding codec { passing with
      unparsed := unparsed
      unfiled := codec.handedBy (session.passing stream).delivered passing.delivered }) :
    Filing codec (session.forward codec stream passing unparsed) := by
  have here : (session.forward codec stream passing unparsed).passing stream = { passing with
      unparsed := unparsed
      unfiled := codec.handedBy (session.passing stream).delivered passing.delivered } :=
    Function.update_self ..
  have there (other : ℕ) (apart : other ≠ stream) :
      (session.forward codec stream passing unparsed).passing other = session.passing other :=
    Function.update_of_ne apart ..
  apply @Filing.hand _ _ codec session (session.forward codec stream passing unparsed) filing _ rfl rfl
  · intro other
    by_cases same : other = stream
    · subst same
      rw [here]
      exact kept
    · rw [there other same]
      exact filing.forwarding other
  · exact filing.working
  · intro other fetch member
    by_cases same : other = stream
    · subst same
      rw [here] at member
      exact .inl member
    · rw [there other same] at member
      exact .inr member
  · intro other fetch member
    by_cases same : other = stream
    · subst same
      rw [idle] at member
      cases member
    · rwa [there other same]
  · exact fun _ _ => id
  · intro fetch member
    exact .inr ⟨stream, by rwa [here]⟩

/-- A pass-through stream goes on with nothing handed over and nothing parsed. -/
theorem Filing.quietly (filing : Filing codec session) {passing : Passing}
    (same : passing.unfiled = (session.passing stream).unfiled)
    (kept : passing.pipe.ended = false → Forwarding codec passing) :
    Filing codec (session.setPassing stream passing) := by
  have unfiled (other : ℕ) : ((session.setPassing stream passing).passing other).unfiled =
      (session.passing other).unfiled := by
    by_cases here : other = stream
    · subst here
      rw [← same]
      exact congrArg Passing.unfiled (Function.update_self ..)
    · exact congrArg Passing.unfiled (Function.update_of_ne here ..)
  refine ⟨?_, filing.working, filing.filed, filing.within, ?_, filing.leaving, ?_, filing.answered⟩
  · intro other
    by_cases here : other = stream
    · subst here
      have self : (session.setPassing other passing).passing other = passing := Function.update_self ..
      rw [self]
      exact kept
    · have apart : (session.setPassing stream passing).passing other = session.passing other :=
        Function.update_of_ne here ..
      rw [apart]
      exact filing.forwarding other
  · intro other
    rw [unfiled]
    exact filing.unfiled other
  · intro requestId order open'
    refine (filing.opened requestId order open').imp_right ?_
    rintro ⟨other, member⟩
    exact ⟨other, by rwa [unfiled]⟩

/-- A chunk that has been handed over is parsed, and what it asks for is filed. -/
theorem Filing.parse (filing : Filing codec session) (once : Once session.trace) (few : Few session.trace)
    {passing : Passing} (filed : passing.unfiled = [])
    (kept : passing.pipe.ended = false → Forwarding codec passing) :
    Filing codec { session.setPassing stream passing with
      orders := session.orders.recordAll (session.passing stream).unfiled } := by
  have here : (session.setPassing stream passing).passing stream = passing := Function.update_self ..
  have there (other : ℕ) (apart : other ≠ stream) :
      (session.setPassing stream passing).passing other = session.passing other :=
    Function.update_of_ne apart ..
  obtain ⟨within, found⟩ := FetchGroupOrders.recordAll_keeps once filing.filed
    (fun fetch member => (filing.unfiled stream fetch member).2) filing.within (few _ List.suffix_rfl)
    fun fetch member => (filing.unfiled stream fetch member).1
  refine ⟨?_, filing.working, ?_, within, ?_, ?_, ?_, filing.answered⟩
  · intro other
    by_cases same : other = stream
    · subst same
      dsimp only
      rw [here]
      exact kept
    · dsimp only
      rw [there other same]
      exact filing.forwarding other
  · intro requestId order got
    rcases (found requestId order).mp got with old | new
    · exact filing.filed requestId order old
    · exact (filing.unfiled stream _ new).2
  · intro other fetch member
    by_cases same : other = stream
    · subst same
      dsimp only at member
      rw [here, filed] at member
      cases member
    · dsimp only at member
      rw [there other same] at member
      exact filing.unfiled other fetch member
  · intro other fetch leaves
    exact (found _ _).mpr (.inl (filing.leaving other fetch leaves))
  · intro requestId order open'
    rcases filing.opened requestId order open' with old | ⟨other, member⟩
    · exact .inl ((found _ _).mpr (.inl old))
    · by_cases same : other = stream
      · subst same
        exact .inl ((found _ _).mpr (.inr member))
      · refine .inr ⟨other, ?_⟩
        dsimp only
        rwa [there other same]

/-- The hook answers a frame, and the FETCH that goes out for it is filed. -/
theorem Filing.decide (filing : Filing codec session) {mutating : Mutating Message} {closing : Bool}
    (kept : Working codec mutating) {leaving : Option (ℕ × GroupOrder)}
    (leaves : mutating.leaving codec = leaving)
    (once : Once (leaving.toList.map (fun fetch => .leaving fetch.1 fetch.2) ++ session.trace))
    (few : Few (leaving.toList.map (fun fetch => .leaving fetch.1 fetch.2) ++ session.trace)) :
    Filing codec { session.setMutating stream mutating with
      orders := noteFetchOrder session.orders leaving
      closing := closing
      trace := leaving.toList.map (fun fetch => .leaving fetch.1 fetch.2) ++ session.trace } := by
  have here : (session.setMutating stream mutating).mutating stream = mutating := Function.update_self ..
  have there (other : ℕ) (apart : other ≠ stream) :
      (session.setMutating stream mutating).mutating other = session.mutating other :=
    Function.update_of_ne apart ..
  have working (other : ℕ) : ((session.setMutating stream mutating).mutating other).pipe.phase ≠ .ended →
      Working codec ((session.setMutating stream mutating).mutating other) := by
    by_cases same : other = stream
    · subst same
      rw [here]
      exact fun _ => kept
    · rw [there other same]
      exact filing.working other
  cases leaving with
  | none =>
    refine ⟨filing.forwarding, working, filing.filed, filing.within, filing.unfiled, ?_, filing.opened,
      filing.answered⟩
    intro other fetch goes
    by_cases same : other = stream
    · subst same
      dsimp only at goes
      rw [here, leaves] at goes
      cases goes
    · dsimp only at goes
      rw [there other same] at goes
      exact filing.leaving other fetch goes
  | some fetch =>
    obtain ⟨requestId, order⟩ := fetch
    have more : unanswered session.trace ⊆ insert requestId (unanswered session.trace) :=
      Finset.subset_insert ..
    have within := filing.within.mono more
    have filed := @FetchGroupOrders.record_eq session.orders requestId order _ within (few _ List.suffix_rfl)
    have asked : Asks (.leaving requestId order :: session.trace) requestId order :=
      .inl (List.mem_cons_self ..)
    have later (id : ℕ) (order' : GroupOrder) (asks : Asks session.trace id order') :
        Asks (.leaving requestId order :: session.trace) id order' :=
      asks.later [.leaving requestId order]
    have still (id : ℕ) (order' : GroupOrder) (found : session.orders.lookup id = some order') :
        (session.orders.insert requestId order).lookup id = some order' := by
      rw [FetchGroupOrders.lookup_insert]
      split_ifs with same
      · subst same
        rw [once _ _ _ asked (later _ _ (filing.filed _ _ found))]
      · exact found
    dsimp only [noteFetchOrder]
    rw [filed]
    refine ⟨filing.forwarding, working, ?_, within.insert (Finset.mem_insert_self ..), ?_, ?_, ?_,
      filing.answered⟩
    · intro id order' found
      dsimp only at found
      rw [FetchGroupOrders.lookup_insert] at found
      split_ifs at found with same
      · subst same
        cases found
        exact asked
      · exact later _ _ (filing.filed id order' found)
    · intro other fetch member
      obtain ⟨inside, asks⟩ := filing.unfiled other fetch member
      exact ⟨more inside, later _ _ asks⟩
    · intro other fetch goes
      by_cases same : other = stream
      · subst same
        dsimp only at goes
        rw [here, leaves] at goes
        cases goes
        exact AList.lookup_insert _
      · dsimp only at goes
        rw [there other same] at goes
        exact still _ _ (filing.leaving other fetch goes)
    · intro id order' open'
      exact (filing.opened id order' open').imp_left (still id order')

/-- A mutating stream takes a step of its own. -/
theorem Filing.act (filing : Filing codec session) {pipe : MutatingPipe Message}
    (works : Works codec (session.mutating stream) pipe) :
    Filing codec ((session.setMutating stream { pipe := pipe, decided := none }).hand
      (codec.handedBy (session.mutating stream).pipe.sink.received pipe.sink.received)) := by
  have here : (session.setMutating stream { pipe := pipe, decided := none }).mutating stream =
      { pipe := pipe, decided := none } := Function.update_self ..
  have there (other : ℕ) (apart : other ≠ stream) :
      (session.setMutating stream { pipe := pipe, decided := none }).mutating other =
        session.mutating other := Function.update_of_ne apart ..
  apply @Filing.hand _ _ codec session ((session.setMutating stream { pipe := pipe, decided := none }).hand _)
    filing _ rfl rfl
  · exact filing.forwarding
  · intro other
    by_cases same : other = stream
    · subst same
      intro unended
      change ((session.setMutating other { pipe := pipe, decided := none }).mutating other).pipe.phase ≠ _
        at unended
      change Working codec ((session.setMutating other { pipe := pipe, decided := none }).mutating other)
      rw [here] at unended ⊢
      exact works.kept unended
    · intro unended
      change ((session.setMutating stream { pipe := pipe, decided := none }).mutating other).pipe.phase ≠ _
        at unended
      change Working codec ((session.setMutating stream { pipe := pipe, decided := none }).mutating other)
      rw [there other same] at unended ⊢
      exact filing.working other unended
  · exact fun _ _ => .inr
  · exact fun _ _ => id
  · intro other fetch goes
    by_cases same : other = stream
    · subst same
      have none' : Mutating.leaving codec { pipe := pipe, decided := none } = none := rfl
      exact nomatch none'.symm.trans ((congrArg (Mutating.leaving codec) here).symm.trans goes)
    · exact (congrArg (Mutating.leaving codec) (there other same)).symm.trans goes
  · exact fun fetch member => .inl (filing.leaving stream fetch (works.hands fetch member))

theorem stage_eq (needed : fetchGroupOrderIsNeeded codec.draft = true) (orders : FetchGroupOrders)
    (header : F) : ObjectFramer.fetchStage framing (fetchSetup codec orders) header =
      match orders.lookup (framing.requestId header) with
      | some order => .ok (readUnder codec order)
      | none => .error .fetchGroupOrderUnknown := by
  unfold ObjectFramer.fetchStage fetchSetup FetchGroupOrders.take readUnder
  rw [if_pos needed]
  cases found : orders.lookup (framing.requestId header) <;>
    simp only [okOr, found, bind, Except.bind, pure, Except.pure]

/-- A fetch stream takes the order filed for it. -/
theorem Filing.frame (filing : Filing codec session) (needed : fetchGroupOrderIsNeeded codec.draft = true)
    {header : F} (parsed : ∀ stream order, (framing.requestId header, order) ∉ (session.passing stream).unfiled)
    (written : ∀ stream order,
      (session.mutating stream).leaving codec ≠ some (framing.requestId header, order)) :
    Filing codec { session with
      orders := (session.orders.take (framing.requestId header)).2
      trace := .framed (framing.requestId header)
        (ObjectFramer.fetchStage framing (fetchSetup codec session.orders) header) :: session.trace } := by
  rw [stage_eq needed]
  generalize framing.requestId header = requestId at *
  have apart (stream : ℕ) (fetch : ℕ × GroupOrder) (member : fetch ∈ (session.passing stream).unfiled) :
      fetch.1 ≠ requestId := by
    rintro rfl
    exact parsed stream fetch.2 member
  have later (id : ℕ) (order : GroupOrder) (asks : Asks session.trace id order)
      (stage : Except BypassReason (Stage R)) : Asks (.framed requestId stage :: session.trace) id order :=
    asks.later [.framed requestId stage]
  refine ⟨filing.forwarding, filing.working, ?_, filing.within.take, ?_, ?_, ?_, ?_, ?_, filing.answered⟩
  · intro id order found
    dsimp only at found
    rw [FetchGroupOrders.lookup_take] at found
    split_ifs at found with same
    exact later _ _ (filing.filed id order found) _
  · intro stream fetch member
    obtain ⟨inside, asks⟩ := filing.unfiled stream fetch member
    exact ⟨Finset.mem_erase.mpr ⟨apart stream fetch member, inside⟩, later _ _ asks _⟩
  · intro stream fetch goes
    have other : fetch.1 ≠ requestId := by
      rintro rfl
      exact written stream fetch.2 goes
    dsimp only
    rw [FetchGroupOrders.lookup_take, if_neg other]
    exact filing.leaving stream fetch goes
  · rintro id order ⟨other, open'⟩
    dsimp only
    rw [FetchGroupOrders.lookup_take, if_neg other.symm]
    exact filing.opened id order open'
  · intro order open'
    rcases filing.opened requestId order open' with found | ⟨stream, member⟩
    · rw [found]
    · exact absurd member (parsed stream order)
  · intro read got
    cases found : session.orders.lookup requestId with
    | none =>
      rw [found] at got
      cases got
    | some order =>
      rw [found] at got
      cases got
      exact ⟨order, filing.filed requestId order found, rfl⟩

theorem Filing.step (filing : Filing codec session) (needed : fetchGroupOrderIsNeeded codec.draft = true)
    {event : Event F} (meets : Meets codec framing session event)
    (stepped : session.step codec framing event = some session') (once : Once session'.trace)
    (few : Few session'.trace) : Filing codec session' := by
  unfold Session.step at stepped
  cases event with
  | read stream data =>
    dsimp only at stepped
    split_ifs at stepped with parsed
    obtain ⟨pipe, next, rfl⟩ := Option.map_eq_some_iff.mp stepped
    have parsed := Option.isNone_iff_eq_none.mp parsed
    have running : (session.passing stream).pipe.ended = false := by
      rw [ControlInjections.Pipe.step] at next
      split_ifs at next with ended
      exact Bool.eq_false_iff.mpr ended
    have forwarding := filing.forwarding stream running
    exact filing.forward (forwarding.unfiled parsed) fun _ => forwarding.read needed parsed next
  | torn stream data room =>
    dsimp only at stepped
    split_ifs at stepped with ready
    cases stepped
    obtain ⟨parsed, running⟩ := Bool.and_eq_true_iff.mp ready
    have forwarding := filing.forwarding stream (Bool.not_eq_true' _ |>.mp running)
    exact filing.forward (forwarding.unfiled (Option.isNone_iff_eq_none.mp parsed))
      fun ended => by cases ended
  | parse stream =>
    dsimp only at stepped
    split_ifs at stepped with ended
    obtain ⟨data, written, rfl⟩ := Option.map_eq_some_iff.mp stepped
    obtain ⟨noted, kept⟩ := (filing.forwarding stream (Bool.eq_false_iff.mpr ended)).parse written
      session.orders
    rw [noted]
    exact filing.parse once few rfl fun _ => kept
  | inject stream bytes =>
    dsimp only at stepped
    split_ifs at stepped with parsed
    obtain ⟨pipe, next, rfl⟩ := Option.map_eq_some_iff.mp stepped
    have running : (session.passing stream).pipe.ended = false := by
      rw [ControlInjections.Pipe.step] at next
      split_ifs at next with ended
      exact Bool.eq_false_iff.mpr ended
    obtain ⟨none', kept⟩ := (filing.forwarding stream running).inject needed meets next
    rw [none']
    exact filing.quietly rfl fun _ => kept
  | close stream =>
    dsimp only at stepped
    split_ifs at stepped
    obtain ⟨pipe, next, rfl⟩ := Option.map_eq_some_iff.mp stepped
    rw [ControlInjections.Pipe.step] at next
    split_ifs at next
    cases next
    exact filing.quietly rfl fun ended => by cases ended
  | decide stream answer times =>
    dsimp only at stepped
    split at stepped
    · rename_i item items _ serving head
      cases stepped
      have working := filing.working stream (by rw [serving]; intro ended; cases ended)
      have kept : Working codec
          ⟨{ (session.mutating stream).pipe with closing := session.closing }, some (answer, times)⟩ := by
        refine ⟨⟨working.tidy.parser, working.tidy.items, working.tidy.unshaped, working.tidy.waiting⟩,
          working.live, working.whole, ?_⟩
        intro answer' times' message raw items' given first
        cases given
        obtain ⟨whole, only, now⟩ := meets message raw items' first
        exact ⟨whole, only, now⟩
      exact filing.decide kept rfl once few
    · cases stepped
  | act stream event =>
    dsimp only at stepped
    split_ifs at stepped with answered
    obtain ⟨pipe, next, rfl⟩ := Option.map_eq_some_iff.mp stepped
    have unended : (session.mutating stream).pipe.phase ≠ .ended := by
      intro ended
      unfold MutatingPipe.step MutatingPipe.ready at next
      rw [ended] at next
      cases event <;> cases next
    apply filing.act
    apply (filing.working stream unended).step _ _ next
    · rintro answer times rfl
      exact beq_iff_eq.mp answered
    · rintro bytes now rfl
      exact meets
  | claim =>
    cases stepped
    exact ⟨filing.forwarding, filing.working, filing.filed, filing.within, filing.unfiled, filing.leaving,
      filing.opened, filing.answered⟩
  | frame header =>
    cases stepped
    exact filing.frame needed meets.1 meets.2

/-- A run whose every step meets the condition. -/
abbrev Filed (codec : ControlCodec Message) (framing : Codec H F R) :
    List (Event F) → Session Message R → Prop :=
  Run (Begins codec) fun session event session' =>
    session.step codec framing event = some session' ∧ Meets codec framing session event

theorem step_trace {event : Event F} (stepped : session.step codec framing event = some session') :
    session.trace <:+ session'.trace := by
  unfold Session.step at stepped
  cases event with
  | read stream data =>
    dsimp only at stepped
    split_ifs at stepped
    obtain ⟨pipe, _, rfl⟩ := Option.map_eq_some_iff.mp stepped
    exact List.suffix_append ..
  | torn stream data room =>
    dsimp only at stepped
    split_ifs at stepped
    cases stepped
    exact List.suffix_append ..
  | parse stream =>
    dsimp only at stepped
    split_ifs at stepped
    obtain ⟨data, _, rfl⟩ := Option.map_eq_some_iff.mp stepped
    exact List.suffix_rfl
  | inject stream bytes =>
    dsimp only at stepped
    split_ifs at stepped
    obtain ⟨pipe, _, rfl⟩ := Option.map_eq_some_iff.mp stepped
    exact List.suffix_append ..
  | close stream =>
    dsimp only at stepped
    split_ifs at stepped
    obtain ⟨pipe, _, rfl⟩ := Option.map_eq_some_iff.mp stepped
    exact List.suffix_rfl
  | decide stream answer times =>
    dsimp only at stepped
    split at stepped
    · cases stepped
      exact List.suffix_append ..
    · cases stepped
  | act stream event =>
    dsimp only at stepped
    split_ifs at stepped
    obtain ⟨pipe, _, rfl⟩ := Option.map_eq_some_iff.mp stepped
    exact List.suffix_append ..
  | claim =>
    cases stepped
    exact List.suffix_rfl
  | frame header =>
    cases stepped
    exact List.suffix_cons ..

/-- **Every FETCH leaves its order for its answer**, as long as none is injected, those the
hook answers go out at once, and no answer comes between the writing and the filing. -/
theorem orders_filed (needed : fetchGroupOrderIsNeeded codec.draft = true) {history : List (Event F)}
    (run : Filed codec framing history session) (once : Once session.trace) (few : Few session.trace) :
    Answered codec session.trace := by
  suffices filing : Filing codec session from filing.answered
  revert once few
  refine @Run.invariant _ _ _ _ _ _ (fun _ session =>
    Once session.trace → Few session.trace → Filing codec session) ?_ ?_ run
  · exact fun session begins _ _ => .begins session begins
  · rintro history before event after kept ⟨stepped, meets⟩ once few
    obtain ⟨news, grown⟩ := step_trace stepped
    have earlier : Filing codec before := by
      rw [← grown] at once few
      exact kept once.earlier few.earlier
    exact earlier.step needed meets stepped once few

end

/-! ## What breaks it -/

/-- FETCH 4 of a track, descending. -/
def fetchFour : Bytes := [0x16, 0, 9, 4, 1, 1, 97, 1, 98, 1, 0x22, 2]

theorem one_fetch {R : Type} (stage : Except BypassReason (Stage R)) :
    Once [.framed 4 stage, .handed 4 .descending] ∧ Few [.framed 4 stage, .handed 4 .descending] := by
  constructor
  · rintro requestId order order' (asks | asks) (asks' | asks') <;> grind
  · intro earlier suffix
    rw [List.suffix_cons_iff, List.suffix_cons_iff, List.suffix_nil] at suffix
    rcases suffix with rfl | rfl | rfl <;> simp [unanswered, cap]

/-- A run on draft 22 in which FETCH 4 is handed over and its answer is bypassed. -/
def Missed (history : List (Event Draft22.Subgroup.FetchHeader)) : Prop :=
  ∃ session : Session Draft22.Messages.ControlMessage Draft22.Subgroup.SubgroupObjectReader,
    Run (Begins draft22) (fun session event session' =>
      session.step draft22 SubgroupRelay.codec event = some session') history session ∧
    Once session.trace ∧ Few session.trace ∧ ¬ Answered draft22 session.trace

theorem missed {history : List (Event Draft22.Subgroup.FetchHeader)}
    {session : Session Draft22.Messages.ControlMessage Draft22.Subgroup.SubgroupObjectReader}
    (run : Run (Begins draft22) (fun session event session' =>
      session.step draft22 SubgroupRelay.codec event = some session') history session)
    (trace : session.trace = [.framed 4 (.error .fetchGroupOrderUnknown), .handed 4 .descending]) :
    Missed history := by
  refine ⟨session, run, ?_, ?_, ?_⟩
  · exact trace ▸ (one_fetch _).1
  · exact trace ▸ (one_fetch _).2
  · rw [trace]
    rintro ⟨read, -⟩
    exact nomatch read .descending (.inl ⟨rfl, rfl⟩)

/-- A FETCH the hook delays is not filed when it goes, one that is injected never is, and
one that is forwarded as it is read is filed when it has been handed over. -/
theorem order_missing :
    Missed [.frame ⟨.ofU64 4⟩, .act 0 (.wake (wakeAt 10)), .act 0 (.item (.delay 10 .pass) ⟨0, 0⟩),
      .decide 0 (.delay 10 .pass) ⟨0, 0⟩, .act 0 (.read fetchFour)] ∧
    Missed [.frame ⟨.ofU64 4⟩, .inject 0 fetchFour] ∧
    Missed [.frame ⟨.ofU64 4⟩, .read 0 fetchFour] := by
  have begins : Begins draft22 (Session.new draft22 (fun _ => briefly) fun _ => none :
      Session _ Draft22.Subgroup.SubgroupObjectReader) := ⟨_, _, rfl⟩
  refine ⟨?_, ?_, ?_⟩
  · exact missed (.step (.step (.step (.step (.step (.start begins) rfl) rfl) rfl) rfl) rfl)
      (by decide +kernel)
  · exact missed (.step (.step (.start begins) rfl) rfl) rfl
  · exact missed (.step (.step (.start begins) rfl) rfl) rfl

/-- FETCH 4 is forwarded, filed, and answered by a stream read in descending order. -/
theorem fetch_answered :
    ∃ session : Session Draft22.Messages.ControlMessage Draft22.Subgroup.SubgroupObjectReader,
      Answered draft22 session.trace ∧
      session.trace = [.framed 4 (.ok (readUnder draft22 .descending)), .handed 4 .descending] := by
  have begins : Begins draft22 (Session.new draft22 (fun _ => briefly) fun _ => none :
      Session _ Draft22.Subgroup.SubgroupObjectReader) := ⟨_, _, rfl⟩
  obtain ⟨session, run, trace⟩ : ∃ session,
      Filed draft22 SubgroupRelay.codec [.frame ⟨.ofU64 4⟩, .parse 0, .read 0 fetchFour] session ∧
        session.trace = [.framed 4 (.ok (readUnder draft22 .descending)), .handed 4 .descending] := by
    refine ⟨_, .step (.step (.step (.start begins) ⟨rfl, trivial⟩) ⟨rfl, trivial⟩) ⟨rfl, ?_, nofun⟩,
      by decide +kernel⟩
    intro stream order member
    by_cases first : stream = 0
    · subst first
      cases member
    · change _ ∈ (Function.update (Function.update (fun _ => Passing.new .draft22) 0 _) 0 _ stream).unfiled
        at member
      rw [Function.update_of_ne first, Function.update_of_ne first] at member
      cases member
  exact ⟨session, orders_filed rfl run (trace ▸ (one_fetch _).1) (trace ▸ (one_fetch _).2), trace⟩

end Moqtap.FetchOrders
