import Moqtap.ControlParser
import Moqtap.Draft22Messages
import Moqtap.Exec
import Moqtap.Runs

/-!
The control pipe of a session whose hook rewrites control messages,
`pipe_control_mutating` in `moqtap-proxy`'s `session.rs`, once the draft is fixed.

A step is one arm of the loop, or one frame of the chunk in hand.  The pipe is meant
to keep the stream: what the destination receives is what each frame's answer asks
for, in order, with injected messages between (`Kept`).  Frames and injections look
at the queue before they are written; a frame the decoder refuses does not, and what
the parser holds at the end of the source goes nowhere (`overtaken_and_cut`).  Where
neither happens the stream is kept (`stream_kept`).
-/

namespace Moqtap.ControlMutation

open ByteCursor CodecTypes StreamFraming ControlParser Egress Exec Runs

/-! ## Two lists in one -/

/-- The third list is the first two, each in its order. -/
inductive Merge {α : Type} : List α → List α → List α → Prop
  | nil : Merge [] [] []
  | left (x : α) {xs ys zs : List α} (rest : Merge xs ys zs) : Merge (x :: xs) ys (x :: zs)
  | right (y : α) {xs ys zs : List α} (rest : Merge xs ys zs) : Merge xs (y :: ys) (y :: zs)

namespace Merge

variable {α : Type} {xs ys zs : List α}

theorem snoc_left (merge : Merge xs ys zs) (x : α) : Merge (xs ++ [x]) ys (zs ++ [x]) := by
  induction merge with
  | nil => exact .left x .nil
  | left x _ ih => exact .left x ih
  | right y _ ih => exact .right y ih

theorem snoc_right (merge : Merge xs ys zs) (y : α) : Merge xs (ys ++ [y]) (zs ++ [y]) := by
  induction merge with
  | nil => exact .right y .nil
  | left x _ ih => exact .left x ih
  | right y _ ih => exact .right y ih

theorem alone (merge : Merge xs [] zs) : zs = xs := by
  generalize none' : ([] : List α) = ys at merge
  induction merge with
  | nil => rfl
  | left x _ ih => rw [ih none']
  | right => cases none'

end Merge

/-! ## The pipe -/

/-- The control column of the capability table, on a draft that is compiled in. -/
def classifyControl : ActionKind → Bool
  | .pass | .replace | .delay | .hold | .dropElide | .closeSession => true
  | .replacePayload | .truncate | .resetStream => false

def controlTarget (raw : Bytes) : Target :=
  { raw := raw, payloadOffset := none, isObject := false, admits := fun kind _ => classifyControl kind }

/-- `draining` is a drain of the queue in one of the arms; `finishes` is the one at the
source's FIN. -/
inductive Phase
  | serving
  | draining (finishes : Bool)
  | ended
  deriving DecidableEq, Repr

/-- `items` are the frames of the chunk in hand still to be forwarded. -/
structure MutatingPipe (Message : Type) where
  parser : ControlStreamParser
  items : List (ParsedItem Message)
  pending : PendingQueue
  sink : Sink
  closing : Bool
  phase : Phase

inductive Event
  | read (data : Bytes)
  /-- The next frame of the chunk, and the hook's answer to it if it is decoded. -/
  | item (answer : Action) (times : Times)
  | wake (wake : Wake)
  | inject (bytes : Bytes) (now : ℕ)
  | fin
  /-- A `Reset` command of the control plane. -/
  | reset (code : ℕ)
  /-- A failed read; the code is the peer's, of a reset. -/
  | sourceLost (code : Option ℕ) (discarding : Bool)
  /-- The destination's `STOP_SENDING`. -/
  | stopped
  | cancelled (discarding : Bool)

section

variable {Message : Type} (decode : DraftVersion → Bytes → Option Message)

namespace MutatingPipe

def new (draft : DraftVersion) (config : EgressConfig) (room : Option ℕ) : MutatingPipe Message :=
  { parser := .newCapturing draft
    items := []
    pending := .new config none
    sink := .new room
    closing := false
    phase := .serving }

variable (pipe : MutatingPipe Message)

/-- A write inside an arm: a failure ends the pipe. -/
def write (bytes : Bytes) : MutatingPipe Message :=
  match pipe.sink.writeAll bytes with
  | (true, sink) => { pipe with sink := sink }
  | (false, sink) => { pipe with sink := sink, phase := .ended }

/-- One turn of the loop of `forward_mutated_frames`. -/
def forward (item : ParsedItem Message) (answer : Action) (times : Times) : MutatingPipe Message :=
  match item with
  | .refused _ raw => pipe.write (raw.getD [])
  | .frame _ raw =>
    let out := execute (controlTarget (raw.getD [])) times pipe.pending pipe.closing answer
    let pipe := { pipe with pending := out.queue, closing := out.closing }
    match out.plan with
    | .writeNow bytes => pipe.write bytes
    | .nothing => pipe
    | .terminal => { pipe with phase := .draining false }
    | .closeSession => { pipe with phase := .ended }

def conclude (finishes : Bool) : MutatingPipe Message :=
  if finishes then { pipe with sink := pipe.sink.conclude .finished, phase := .ended }
  else { pipe with phase := .ended }

/-- The release branch, and each wake of a drain. -/
def release (wake : Wake) : MutatingPipe Message :=
  match releaseDueUnits wake pipe.pending pipe.sink with
  | (.carryOn, pending, sink) =>
    let pipe := { pipe with pending := pending, sink := sink }
    match pipe.phase with
    | .draining finishes => if pending.isEmpty then pipe.conclude finishes else pipe
    | _ => pipe
  | (_, pending, sink) => { pipe with pending := pending, sink := sink, phase := .ended }

def flush (discarding : Bool) : MutatingPipe Message :=
  let (_, pending, sink) := drainIgnoringReleaseTimes discarding pipe.pending pipe.sink
  { pipe with pending := pending, sink := sink }

/-- `propagate_reset` on a control stream: a reset is mirrored behind a flush, and any
other failure leaves the stream as it is. -/
def loseSource (code : Option ℕ) (discarding : Bool) : MutatingPipe Message :=
  match code with
  | some code =>
    let pipe := pipe.flush discarding
    { pipe with sink := pipe.sink.conclude (.reset code), phase := .ended }
  | none => { pipe with phase := .ended }

/-- Every arm of the loop waits for the chunk in hand to be forwarded. -/
def ready : Bool := pipe.phase == .serving && pipe.items.isEmpty

def step : Event → Option (MutatingPipe Message)
  | .read data =>
    if pipe.ready && pipe.pending.acceptsMore then
      let (result, parser) := pipe.parser.feed decode data
      some { pipe with parser := parser, items := result.items }
    else none
  | .item answer times =>
    match pipe.phase, pipe.items with
    | .serving, item :: items => some ({ pipe with items := items }.forward item answer times)
    | _, _ => none
  | .wake wake =>
    if pipe.phase = .ended || pipe.pending.isEmpty || !pipe.items.isEmpty then none
    else some (pipe.release wake)
  | .inject bytes now =>
    if pipe.ready then
      if pipe.pending.isEmpty then some (pipe.write bytes)
      else some { pipe with pending := enqueueUnshown pipe.pending bytes now }
    else none
  | .fin =>
    if pipe.ready then
      if pipe.pending.isEmpty then some (pipe.conclude true)
      else some { pipe with phase := .draining true }
    else none
  | .reset code =>
    if pipe.ready then
      some { pipe with
        pending := pipe.pending.clear
        sink := pipe.sink.conclude (.reset code)
        phase := .ended }
    else none
  | .sourceLost code discarding => if pipe.ready then some (pipe.loseSource code discarding) else none
  | .stopped => if pipe.ready then some { pipe with pending := pipe.pending.clear, phase := .ended } else none
  | .cancelled discarding =>
    match pipe.phase with
    | .ended => none
    | _ => if pipe.items.isEmpty then some { pipe.flush discarding with phase := .ended } else none

end MutatingPipe

/-- A run of one pipe, on a destination no write to which fails. -/
abbrev Piped (draft : DraftVersion) (config : EgressConfig) :
    List Event → MutatingPipe Message → Prop :=
  Run (· = .new draft config none) fun pipe event pipe' => pipe.step decode event = some pipe'

/-! ## What is to hold -/

/-- The source bytes of a history, oldest first. -/
def sourceOf : List Event → Bytes
  | [] => []
  | .read data :: earlier => sourceOf earlier ++ data
  | _ :: earlier => sourceOf earlier

def requestsOf : List Event → List Bytes
  | [] => []
  | .inject bytes _ :: earlier => requestsOf earlier ++ [bytes]
  | _ :: earlier => requestsOf earlier

def answersOf : List Event → List Action
  | [] => []
  | .item answer _ :: earlier => answersOf earlier ++ [answer]
  | _ :: earlier => answersOf earlier

/-- The bytes an answer prescribes of a control frame: what a deferral wraps decides,
and what the control site refuses changes nothing. -/
def answered (raw : Bytes) : Action → Bytes
  | .replace bytes => bytes
  | .drop => []
  | .delay _ (.replace bytes) => bytes
  | .delay _ .drop => []
  | .hold _ (.replace bytes) => bytes
  | .hold _ .drop => []
  | _ => raw

def piece (item : ParsedItem Message) (answer : Action) : Bytes :=
  match item with
  | .frame _ raw => answered (raw.getD []) answer
  | .refused _ raw => raw.getD []

/-- What the source and the hook make of a stream: its frames, and what is behind the last. -/
def piecesOf (draft : DraftVersion) (history : List Event) : List Bytes :=
  List.zipWith piece (itemsOf decode draft (frames (locate draft) (sourceOf history)).1)
      (answersOf history) ++
    [(frames (locate draft) (sourceOf history)).2]

/-- What the destination has received is the pieces and the injected messages, each in
order and whole. -/
def Kept (draft : DraftVersion) (history : List Event) (pipe : MutatingPipe Message) : Prop :=
  ∃ pieces, Merge (piecesOf decode draft history) (requestsOf history) pieces ∧
    pipe.sink.received = pieces.flatten

/-- No failure, reset or cancellation, and no answer that closes the session. -/
def Event.Quiet : Event → Prop
  | .read _ | .wake _ | .inject _ _ | .fin => True
  | .item answer _ => ∀ code reason, answer ≠ .closeSession code reason
  | .reset _ | .sourceLost _ _ | .stopped | .cancelled _ => False

/-! ## The invariant -/

variable {decode : DraftVersion → Bytes → Option Message} {draft : DraftVersion} {config : EgressConfig}
  {history : List Event} {pipe pipe' : MutatingPipe Message}

/-- A refused frame finds nothing waiting, and the FIN finds the parser empty. -/
def Meets (pipe : MutatingPipe Message) : Event → Prop
  | .item _ _ => ∀ typeId raw items, pipe.items = .refused typeId raw :: items → pipe.pending.q = []
  | .fin => pipe.parser.buf = []
  | _ => True

theorem prescribed_control (raw : Bytes) {answer : Action}
    (stays : ∀ code reason, answer ≠ .closeSession code reason) :
    prescribed (controlTarget raw) false answer = answered raw answer := by
  cases answer with
  | delay _ next => cases next <;> rfl
  | hold _ next => cases next <;> rfl
  | closeSession code reason => exact absurd rfl (stays code reason)
  | _ => rfl

/-- What the loop keeps while nothing disturbs it. -/
structure Keeping (decode : DraftVersion → Bytes → Option Message) (draft : DraftVersion)
    (history : List Event) (pipe : MutatingPipe Message) : Prop where
  parser : pipe.parser = ⟨(frames (locate draft) (sourceOf history)).2, draft, true⟩
  items : ∃ forwarded, forwarded.length = (answersOf history).length ∧
    itemsOf decode draft (frames (locate draft) (sourceOf history)).1 = forwarded ++ pipe.items
  stream : ∃ pieces,
    Merge (List.zipWith piece (itemsOf decode draft (frames (locate draft) (sourceOf history)).1)
      (answersOf history)) (requestsOf history) pieces ∧
    pipe.sink.received ++ pipe.pending.owed = pieces.flatten
  open' : pipe.closing = false
  unshaped : pipe.pending.shaper = none
  plain : ∀ unit ∈ pipe.pending.q, unit.item.isTerminal = false
  phase : (pipe.sink.Live ∧ pipe.sink.room = none ∧ (pipe.phase = .serving ∨
      pipe.phase = .draining true ∧ pipe.items = [] ∧ pipe.parser.buf = [])) ∨
    (pipe.phase = .ended ∧ pipe.pending.q = [] ∧ pipe.items = [] ∧ pipe.parser.buf = [])

theorem Keeping.begins (draft : DraftVersion) (config : EgressConfig) :
    Keeping decode draft [] (.new draft config none) where
  parser := by rw [sourceOf, frames_none (locate_nil draft)]; rfl
  items := ⟨[], rfl, by rw [sourceOf, frames_none (locate_nil draft)]; rfl⟩
  stream := ⟨[], by rw [sourceOf, frames_none (locate_nil draft)]; exact .nil, rfl⟩
  open' := rfl
  unshaped := rfl
  plain _ member := nomatch member
  phase := .inl ⟨Sink.live_new none, rfl, .inl rfl⟩

theorem zip_done {α β γ : Type} (f : α → β → γ) {done : List α} {answers : List β}
    (even : done.length = answers.length) (rest : List α) :
    List.zipWith f (done ++ rest) answers = List.zipWith f done answers := by
  conv_lhs => rw [← List.append_nil answers]
  rw [List.zipWith_append even, List.zipWith_nil_right, List.append_nil]

theorem zip_next {α β γ : Type} (f : α → β → γ) {done : List α} {answers : List β}
    (even : done.length = answers.length) (x : α) (rest : List α) (answer : β) :
    List.zipWith f (done ++ x :: rest) (answers ++ [answer]) =
      List.zipWith f done answers ++ [f x answer] := by
  rw [List.zipWith_append even, List.zipWith_cons_cons, List.zipWith_nil_right]

theorem ready_iff : pipe.ready = true ↔ pipe.phase = .serving ∧ pipe.items = [] := by
  rw [MutatingPipe.ready, Bool.and_eq_true, beq_iff_eq, List.isEmpty_iff]

/-- A pipe that serves has a destination that takes every write. -/
theorem Keeping.serves (keeping : Keeping decode draft history pipe) (serving : pipe.phase = .serving) :
    pipe.sink.Live ∧ pipe.sink.room = none := by
  rcases keeping.phase with ⟨live, endless, -⟩ | ⟨ended, -⟩
  · exact ⟨live, endless⟩
  · rw [serving] at ended
    cases ended

theorem write_endless (live : pipe.sink.Live) (endless : pipe.sink.room = none) (bytes : Bytes) :
    pipe.write bytes = { pipe with sink := { pipe.sink with received := pipe.sink.received ++ bytes } } := by
  rw [MutatingPipe.write, writeAll_endless live endless]

/-- The control site ends no stream, and only one answer ends the session. -/
theorem control_plan (raw : Bytes) (times : Times) (queue : PendingQueue) {answer : Action}
    (stays : ∀ code reason, answer ≠ .closeSession code reason) :
    (execute (controlTarget raw) times queue false answer).plan ≠ .terminal ∧
      (execute (controlTarget raw) times queue false answer).plan ≠ .closeSession ∧
      (execute (controlTarget raw) times queue false answer).closing = false := by
  have forked (payload : Payload) : (commitNow payload queue times).1 ≠ .terminal ∧
      (commitNow payload queue times).1 ≠ .closeSession := by
    unfold commitNow
    cases payload <;> split_ifs <;> exact ⟨nofun, nofun⟩
  have queued : Plan.nothing ≠ .terminal ∧ Plan.nothing ≠ .closeSession := ⟨nofun, nofun⟩
  cases answer with
  | closeSession code reason => exact absurd rfl (stays code reason)
  | pass => exact ⟨(forked _).1, (forked _).2, rfl⟩
  | replace bytes => exact ⟨(forked _).1, (forked _).2, rfl⟩
  | drop => exact ⟨(forked _).1, (forked _).2, rfl⟩
  | replacePayload bytes => exact ⟨(forked _).1, (forked _).2, rfl⟩
  | truncate bytes code => exact ⟨(forked _).1, (forked _).2, rfl⟩
  | resetStream code => exact ⟨(forked _).1, (forked _).2, rfl⟩
  | delay by' next => cases next <;> first | exact ⟨queued.1, queued.2, rfl⟩ | exact ⟨(forked _).1, (forked _).2, rfl⟩
  | hold gate next => cases next <;> first | exact ⟨queued.1, queued.2, rfl⟩ | exact ⟨(forked _).1, (forked _).2, rfl⟩

theorem Keeping.read (keeping : Keeping decode draft history pipe) (serving : pipe.phase = .serving)
    (idle : pipe.items = []) (data : Bytes) :
    Keeping decode draft (.read data :: history)
      { pipe with
        parser := (pipe.parser.feed decode data).2
        items := (pipe.parser.feed decode data).1.items } := by
  obtain ⟨forwarded, even, all⟩ := keeping.items
  obtain ⟨given, after⟩ := @feed_frames draft Message decode
    (frames (locate draft) (sourceOf history)).2 data
  have more := frames_append (locate_stable draft) (sourceOf history) data
  have items : itemsOf decode draft (frames (locate draft) (sourceOf history ++ data)).1 =
      forwarded ++ (pipe.parser.feed decode data).1.items := by
    rw [more, itemsOf, List.map_append, ← itemsOf, ← itemsOf, all, idle, List.append_nil, keeping.parser, given]
  obtain ⟨pieces, merge, received⟩ := keeping.stream
  rw [all, zip_done piece even] at merge
  refine ⟨?_, ⟨forwarded, even, items⟩, ⟨pieces, ?_, received⟩, keeping.open', keeping.unshaped,
    keeping.plain, .inl ⟨(keeping.serves serving).1, (keeping.serves serving).2, .inl serving⟩⟩
  · rw [keeping.parser, after, sourceOf, more]
  · change Merge (List.zipWith piece (itemsOf decode draft
      (frames (locate draft) (sourceOf history ++ data)).1) (answersOf history)) (requestsOf history) pieces
    rw [items, zip_done piece even]
    exact merge

/-- Bytes written at once on a queue nothing waits in, or queued, are the next piece. -/
theorem Keeping.next (keeping : Keeping decode draft history pipe) (serving : pipe.phase = .serving)
    {item : ParsedItem Message} {items : List (ParsedItem Message)} (head : pipe.items = item :: items)
    {answer : Action} {times : Times} {pending : PendingQueue} {received : Bytes}
    (total : received ++ pending.owed = pipe.sink.received ++ pipe.pending.owed ++ piece item answer)
    (unshaped : pending.shaper = none) (plain : ∀ unit ∈ pending.q, unit.item.isTerminal = false) :
    Keeping decode draft (.item answer times :: history)
      { pipe with
        items := items
        pending := pending
        sink := { pipe.sink with received := received } } := by
  obtain ⟨forwarded, even, all⟩ := keeping.items
  obtain ⟨pieces, merge, stream⟩ := keeping.stream
  obtain ⟨live, endless⟩ := keeping.serves serving
  rw [all, zip_done piece even] at merge
  rw [head] at all
  refine ⟨keeping.parser, ⟨forwarded ++ [item], ?_, ?_⟩, ⟨pieces ++ [piece item answer], ?_, ?_⟩,
    keeping.open', unshaped, plain, .inl ⟨⟨live.whole, live.opened⟩, endless, .inl serving⟩⟩
  · change _ = (answersOf history ++ [answer]).length
    rw [List.length_append, List.length_append, even]
    rfl
  · rw [List.append_assoc]
    exact all
  · change Merge (List.zipWith piece (itemsOf decode draft (frames (locate draft) (sourceOf history)).1)
      (answersOf history ++ [answer])) (requestsOf history) _
    rw [all, zip_next piece even]
    exact merge.snoc_left _
  · rw [List.flatten_append, ← stream]
    exact total.trans (by rw [List.flatten_singleton])

theorem Keeping.forward (keeping : Keeping decode draft history pipe) (serving : pipe.phase = .serving)
    {item : ParsedItem Message} {items : List (ParsedItem Message)} (head : pipe.items = item :: items)
    {answer : Action} (stays : ∀ code reason, answer ≠ .closeSession code reason)
    (inTurn : ∀ typeId raw, item = .refused typeId raw → pipe.pending.q = []) (times : Times) :
    Keeping decode draft (.item answer times :: history)
      (({ pipe with items := items } : MutatingPipe Message).forward item answer times) := by
  obtain ⟨live, endless⟩ := keeping.serves serving
  cases item with
  | refused typeId raw =>
    have idle := inTurn typeId raw rfl
    unfold MutatingPipe.forward
    dsimp only
    rw [write_endless]
    · apply keeping.next serving head
      · rw [owed_idle idle, List.append_nil, List.append_nil]
        rfl
      · exact keeping.unshaped
      · exact keeping.plain
    · exact live
    · exact endless
  | frame message raw =>
    have commits := execute_commits (controlTarget (raw.getD [])) times pipe.pending false answer
    obtain ⟨lasting, opened, closing⟩ := control_plan (raw.getD []) times pipe.pending stays
    rw [prescribed_control _ stays] at commits
    unfold MutatingPipe.forward
    dsimp only
    rw [keeping.open']
    generalize execute (controlTarget (raw.getD [])) times pipe.pending false answer = out at *
    obtain ⟨plan, noteElided, queue, closed⟩ := out
    dsimp only at commits lasting opened closing ⊢
    subst closing
    rw [← keeping.open']
    cases commits with
    | terminal => exact absurd rfl lasting
    | closed => exact absurd rfl opened
    | written idle =>
      dsimp only
      rw [write_endless]
      · apply keeping.next serving head
        · rw [owed_idle idle, List.append_nil, List.append_nil]
          rfl
        · exact keeping.unshaped
        · exact keeping.plain
      · exact live
      · exact endless
    | elided idle _ none' =>
      apply keeping.next serving head
      · rw [piece, none', List.append_nil]
      · exact keeping.unshaped
      · exact keeping.plain
    | queued unit now simple owes =>
      apply keeping.next serving head
      · rw [owed_push, owes, List.append_assoc]
        rfl
      · exact keeping.unshaped
      · intro unit' member
        exact plain_push keeping.plain simple unit' member

/-- Nothing of the source, the answers or the requests changes. -/
theorem Keeping.quietly (keeping : Keeping decode draft history pipe) {event : Event}
    (source : sourceOf (event :: history) = sourceOf history)
    (requests : requestsOf (event :: history) = requestsOf history)
    (answers : answersOf (event :: history) = answersOf history) {pending : PendingQueue} {sink : Sink}
    {phase : Phase} (total : sink.received ++ pending.owed = pipe.sink.received ++ pipe.pending.owed)
    (unshaped : pending.shaper = none) (plain : ∀ unit ∈ pending.q, unit.item.isTerminal = false)
    (standing : (sink.Live ∧ sink.room = none ∧ (phase = .serving ∨
        phase = .draining true ∧ pipe.items = [] ∧ pipe.parser.buf = [])) ∨
      (phase = .ended ∧ pending.q = [] ∧ pipe.items = [] ∧ pipe.parser.buf = [])) :
    Keeping decode draft (event :: history)
      { pipe with pending := pending, sink := sink, phase := phase } := by
  obtain ⟨pieces, merge, stream⟩ := keeping.stream
  refine ⟨?_, ?_, ⟨pieces, ?_, total.trans stream⟩, keeping.open', unshaped, plain, standing⟩
  · rw [source]
    exact keeping.parser
  · rw [source, answers]
    exact keeping.items
  · rw [source, answers, requests]
    exact merge

/-- A pipe that has not ended serves, or drains at the source's FIN. -/
theorem Keeping.goes (keeping : Keeping decode draft history pipe) (unended : pipe.phase ≠ .ended) :
    pipe.sink.Live ∧ pipe.sink.room = none ∧ (pipe.phase = .serving ∨
      pipe.phase = .draining true ∧ pipe.items = [] ∧ pipe.parser.buf = []) := by
  rcases keeping.phase with goes | ⟨ended, -⟩
  · exact goes
  · exact absurd ended unended

theorem Keeping.release (keeping : Keeping decode draft history pipe) (unended : pipe.phase ≠ .ended)
    (wake : Wake) : Keeping decode draft (.wake wake :: history) (pipe.release wake) := by
  obtain ⟨live, endless, standing⟩ := keeping.goes unended
  have carries := @release_carries pipe.sink pipe.pending wake pipe.pending.len 0 live endless
    keeping.unshaped keeping.plain
  have keeps := @release_keeps pipe.sink pipe.pending wake pipe.pending.len 0 live
  have fixed := (@releaseLoop_fixed wake pipe.pending.len 0 pipe.pending pipe.sink).2
  unfold MutatingPipe.release releaseDueUnits
  generalize releaseLoop wake pipe.pending.len 0 pipe.pending pipe.sink = released at *
  obtain ⟨flow, pending, sink⟩ := released
  obtain rfl : flow = .carryOn := carries
  cases keeps with
  | part stops => cases stops
  | whole _ live' endless' received behind =>
    have unshaped := fixed.trans keeping.unshaped
    have plain : ∀ unit ∈ pending.q, unit.item.isTerminal = false := fun unit member =>
      keeping.plain unit (behind.subset member)
    dsimp only at unshaped plain received ⊢
    rcases standing with serving | ⟨draining, idle, whole⟩
    · rw [serving]
      dsimp only
      rw [← serving]
      exact keeping.quietly rfl rfl rfl received unshaped plain (.inl ⟨live', endless' endless, .inl serving⟩)
    · rw [draining]
      dsimp only
      split_ifs with empty
      · have none' : pending.q = [] := by simpa [PendingQueue.isEmpty] using empty
        have kept : (sink.conclude .finished).received = sink.received := conclude_received ..
        refine keeping.quietly rfl rfl rfl ?_ unshaped plain (.inr ⟨rfl, none', idle, whole⟩)
        rw [kept]
        exact received
      · rw [← draining]
        exact keeping.quietly rfl rfl rfl received unshaped plain
          (.inl ⟨live', endless' endless, .inr ⟨draining, idle, whole⟩⟩)

theorem Keeping.inject (keeping : Keeping decode draft history pipe) (serving : pipe.phase = .serving)
    (bytes : Bytes) (now : ℕ) : Keeping decode draft (.inject bytes now :: history)
      (if pipe.pending.isEmpty then pipe.write bytes
        else { pipe with pending := enqueueUnshown pipe.pending bytes now }) := by
  obtain ⟨live, endless⟩ := keeping.serves serving
  obtain ⟨pieces, merge, stream⟩ := keeping.stream
  have flat : pipe.sink.received ++ pipe.pending.owed ++ bytes = (pieces ++ [bytes]).flatten := by
    rw [stream, List.flatten_append, List.flatten_singleton]
  split_ifs with empty
  · rw [write_endless live endless]
    have idle : pipe.pending.q = [] := by simpa [PendingQueue.isEmpty] using empty
    refine ⟨keeping.parser, keeping.items, ⟨pieces ++ [bytes], merge.snoc_right bytes, ?_⟩, keeping.open',
      keeping.unshaped, keeping.plain, .inl ⟨⟨live.whole, live.opened⟩, endless, .inl serving⟩⟩
    rw [← flat, owed_idle idle, List.append_nil, List.append_nil]
  · refine ⟨keeping.parser, keeping.items, ⟨pieces ++ [bytes], merge.snoc_right bytes, ?_⟩, keeping.open',
      keeping.unshaped, plain_push keeping.plain rfl, .inl ⟨live, endless, .inl serving⟩⟩
    rw [← flat, enqueueUnshown, owed_push, List.append_assoc]
    rfl

theorem Keeping.fin (keeping : Keeping decode draft history pipe) (serving : pipe.phase = .serving)
    (idle : pipe.items = []) (whole : pipe.parser.buf = []) : Keeping decode draft (.fin :: history)
      (if pipe.pending.isEmpty then pipe.conclude true else { pipe with phase := .draining true }) := by
  obtain ⟨live, endless⟩ := keeping.serves serving
  split_ifs with empty
  · have none' : pipe.pending.q = [] := by simpa [PendingQueue.isEmpty] using empty
    have kept : (pipe.sink.conclude .finished).received = pipe.sink.received := conclude_received ..
    refine keeping.quietly rfl rfl rfl ?_ keeping.unshaped keeping.plain (.inr ⟨rfl, none', idle, whole⟩)
    rw [kept]
  · exact keeping.quietly rfl rfl rfl rfl keeping.unshaped keeping.plain
      (.inl ⟨live, endless, .inr ⟨rfl, idle, whole⟩⟩)

theorem Keeping.step (keeping : Keeping decode draft history pipe) {event : Event} (quiet : event.Quiet)
    (meets : Meets pipe event) (stepped : pipe.step decode event = some pipe') :
    Keeping decode draft (event :: history) pipe' := by
  unfold MutatingPipe.step at stepped
  cases event with
  | reset => exact quiet.elim
  | sourceLost => exact quiet.elim
  | stopped => exact quiet.elim
  | cancelled => exact quiet.elim
  | read data =>
    dsimp only at stepped
    split_ifs at stepped with ready
    obtain ⟨serving, idle⟩ := ready_iff.mp (Bool.and_eq_true_iff.mp ready).1
    cases stepped
    exact keeping.read serving idle data
  | item answer times =>
    dsimp only at stepped
    split at stepped
    · rename_i item items serving head
      cases stepped
      exact keeping.forward serving head quiet (fun typeId raw same => meets typeId raw items (same ▸ head)) times
    · cases stepped
  | wake wake =>
    dsimp only at stepped
    split_ifs at stepped with idle
    cases stepped
    refine keeping.release (fun ended => idle ?_) wake
    rw [ended]
    rfl
  | inject bytes now =>
    dsimp only at stepped
    split_ifs at stepped with ready empty
    all_goals cases stepped
    · have kept := keeping.inject (ready_iff.mp ready).1 bytes now
      rwa [if_pos empty] at kept
    · have kept := keeping.inject (ready_iff.mp ready).1 bytes now
      rwa [if_neg empty] at kept
  | fin =>
    dsimp only at stepped
    split_ifs at stepped with ready empty
    all_goals cases stepped
    · have kept := keeping.fin (ready_iff.mp ready).1 (ready_iff.mp ready).2 meets
      rwa [if_pos empty] at kept
    · have kept := keeping.fin (ready_iff.mp ready).1 (ready_iff.mp ready).2 meets
      rwa [if_neg empty] at kept

/-! ## The stream the destination receives -/

/-- A run whose every step meets the condition. -/
abbrev Orderly (decode : DraftVersion → Bytes → Option Message) (draft : DraftVersion)
    (config : EgressConfig) : List Event → MutatingPipe Message → Prop :=
  Run (· = .new draft config none) fun pipe event pipe' =>
    pipe.step decode event = some pipe' ∧ Meets pipe event

theorem keeping_of_run (run : Orderly decode draft config history pipe)
    (quiet : ∀ event ∈ history, event.Quiet) : Keeping decode draft history pipe := by
  revert quiet
  refine @Run.invariant _ _ _ _ _ _ (fun history pipe =>
    (∀ event ∈ history, event.Quiet) → Keeping decode draft history pipe) ?_ ?_ run
  · rintro _ rfl _
    exact .begins draft config
  · rintro history before event after kept ⟨stepped, meets⟩ quiet
    exact (kept fun event member => quiet event (List.mem_cons_of_mem _ member)).step
      (quiet event (List.mem_cons_self ..)) meets stepped

/-- Every frame passed is its own piece. -/
theorem pieces_passed {items : List (ParsedItem Message)} {answers : List Action}
    (even : items.length = answers.length) (passed : ∀ answer ∈ answers, answer = .pass) :
    List.zipWith piece items answers = items.map fun item => item.rawBytes.getD [] := by
  induction items generalizing answers with
  | nil => rfl
  | cons item items ih =>
    cases answers with
    | nil => cases even
    | cons answer answers =>
      obtain rfl := passed answer (List.mem_cons_self ..)
      rw [List.zipWith_cons_cons, List.map_cons, ih (Nat.succ.inj even) fun answer member =>
        passed answer (List.mem_cons_of_mem _ member)]
      cases item <;> rfl

/-- **An undisturbed stream is kept** if no refused frame finds a unit waiting and the
source ends with a whole frame; with every frame passed it is the source itself. -/
theorem stream_kept (run : Orderly decode draft config history pipe)
    (quiet : ∀ event ∈ history, event.Quiet) (finished : pipe.sink.ended = some .finished) :
    Kept decode draft history pipe ∧
      ((∀ answer ∈ answersOf history, answer = .pass) → requestsOf history = [] →
        pipe.sink.received = sourceOf history) := by
  have keeping := keeping_of_run run quiet
  rcases keeping.phase with ⟨live, -⟩ | ⟨-, drained, idle, whole⟩
  · rw [live.opened] at finished
    cases finished
  obtain ⟨pieces, merge, stream⟩ := keeping.stream
  obtain ⟨forwarded, even, all⟩ := keeping.items
  have rest : (frames (locate draft) (sourceOf history)).2 = [] := by
    rw [keeping.parser] at whole
    exact whole
  have received : pipe.sink.received = pieces.flatten := by
    rw [← stream, owed_idle drained, List.append_nil]
  constructor
  · refine ⟨pieces ++ [[]], ?_, ?_⟩
    · rw [piecesOf, rest]
      exact merge.snoc_left []
    · rw [received, List.flatten_append]
      exact (List.append_nil _).symm
  · intro passed unasked
    rw [unasked] at merge
    have length : (itemsOf decode draft (frames (locate draft) (sourceOf history)).1).length =
        (answersOf history).length := by rw [all, idle, List.append_nil, even]
    have raws : (itemsOf decode draft (frames (locate draft) (sourceOf history)).1).map
        (fun item => item.rawBytes.getD []) = (frames (locate draft) (sourceOf history)).1.map Prod.snd := by
      rw [itemsOf, List.map_map]
      apply List.map_congr_left
      intro entry _
      simp only [Function.comp_apply, parsedItem_rawBytes, Option.getD_some]
    have bytes := frames_bytes (locate_stable draft) (sourceOf history)
    rw [rest, List.append_nil] at bytes
    rw [received, merge.alone, pieces_passed length passed, raws, bytes]

end

/-! ## What breaks it -/

/-- `AnyControlMessage::decode` on draft 22, which leaves what is behind the message. -/
def decodeDraft22 (_ : DraftVersion) (bytes : Bytes) : Option Draft22.Messages.ControlMessage :=
  match Draft22.Messages.decode (Cursor.of bytes) with
  | .ok (message, _) => some message
  | .error _ => none

def briefly : EgressConfig := { maxPendingBytes := 100, maxHold := 100 }

def wakeAt (now : ℕ) : Wake := { now := now, opened := fun _ => false, answers := fun _ => .now }

/-- A frame is delayed, and a refused one behind it goes first; and the front of a frame
that the source ends in is lost. -/
theorem overtaken_and_cut :
    (∃ history pipe, Piped decodeDraft22 .draft22 briefly history pipe ∧ (∀ event ∈ history, event.Quiet) ∧
      pipe.sink.ended = some .finished ∧ ¬ Kept decodeDraft22 .draft22 history pipe) ∧
    ∃ history pipe, Piped decodeDraft22 .draft22 briefly history pipe ∧ (∀ event ∈ history, event.Quiet) ∧
      pipe.sink.ended = some .finished ∧ ¬ Kept decodeDraft22 .draft22 history pipe ∧
      (∀ answer ∈ answersOf history, answer = .pass) ∧ requestsOf history = [] ∧
      pipe.sink.received ≠ sourceOf history := by
  constructor
  · refine ⟨[.wake (wakeAt 10), .fin, .item .pass ⟨0, 0⟩, .item (.delay 10 .pass) ⟨0, 0⟩,
      .read [0x07, 0, 1, 0, 0x20, 0, 0]], _, .step (.step (.step (.step (.step (.start rfl) rfl) rfl) rfl) rfl) rfl,
      ?_, rfl, ?_⟩
    · intro event member
      fin_cases member <;> first | trivial | nofun
    · rintro ⟨pieces, merge, received⟩
      rw [merge.alone] at received
      exact absurd received (by decide)
  · refine ⟨[.fin, .read [0x07, 0]], _, .step (.step (.start rfl) rfl) rfl, ?_, rfl, ?_, nofun, rfl, ?_⟩
    · intro event member
      fin_cases member <;> trivial
    · rintro ⟨pieces, merge, received⟩
      rw [merge.alone] at received
      exact absurd received (by decide)
    · decide

/-- A delayed frame, and a passed one and an injected message behind it. -/
theorem delayed_kept : ∃ pipe, Kept decodeDraft22 .draft22 [.wake (wakeAt 10), .fin, .inject [0x10, 0, 2, 0, 0] 0,
    .item .pass ⟨0, 0⟩, .item (.delay 10 .pass) ⟨0, 0⟩, .read [0x07, 0, 1, 0, 0x22, 0, 1, 0]] pipe ∧
      pipe.sink.received = [0x07, 0, 1, 0, 0x22, 0, 1, 0, 0x10, 0, 2, 0, 0] := by
  have run : Orderly decodeDraft22 .draft22 briefly [.wake (wakeAt 10), .fin, .inject [0x10, 0, 2, 0, 0] 0,
      .item .pass ⟨0, 0⟩, .item (.delay 10 .pass) ⟨0, 0⟩, .read [0x07, 0, 1, 0, 0x22, 0, 1, 0]] _ :=
    .step (.step (.step (.step (.step (.step (.start rfl) ⟨rfl, trivial⟩) ⟨rfl, nofun⟩) ⟨rfl, nofun⟩)
      ⟨rfl, trivial⟩) ⟨rfl, rfl⟩) ⟨rfl, trivial⟩
  refine ⟨_, (stream_kept run ?_ rfl).1, rfl⟩
  intro event member
  fin_cases member <;> first | trivial | nofun

end Moqtap.ControlMutation
