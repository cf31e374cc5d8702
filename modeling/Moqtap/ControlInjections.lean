import Moqtap.ControlWalker
import Moqtap.Runs

/-!
Messages injected into a control stream that is forwarded as it is read, the loop
of `pipe_control_passthrough` in `moqtap-proxy`'s `session.rs` on a session whose
draft is fixed.

Three branches place an injection: at once, at the head of a chunk, or at the
first boundary inside one.  What they have in common is stated of the stream the
destination receives (`Placed`): it is the source with the injected messages put
in, each between two messages of the source and none later than it could have been
(`injections_placed`).
-/

namespace Moqtap.ControlInjections

open ByteCursor CodecTypes ControlParser ControlWalker Runs

def commandQueueDepth : ℕ := 16

/-- One `write_all` on the destination stream. -/
inductive Write
  | forwarded (bytes : Bytes)
  | injected (bytes : Bytes)
  deriving DecidableEq, Repr

def Write.unlessEmpty (bytes : Bytes) : List Write :=
  if bytes.isEmpty then [] else [.forwarded bytes]

/-- The writes of one chunk, and the injections that keep waiting. -/
def writeWithInjections (data : Bytes) (split : Option ℕ) (injections : List Bytes) :
    List Write × List Bytes :=
  match split with
  | none => ([.forwarded data], injections)
  | some split => (Write.unlessEmpty (data.take split) ++ injections.map .injected ++
      Write.unlessEmpty (data.drop split), [])

structure Pipe where
  walker : ControlFrameWalker
  injections : List Bytes
  written : List Write
  ended : Bool

/-- What the loop is woken by.  `ended` is a FIN, a failed read, the peer's stop, a
`Reset` command or a cancellation: the loop returns, and writes no more.  A failed
write returns too; what it had handed over of its chunk is not followed. -/
inductive Event
  | read (data : Bytes)
  | inject (bytes : Bytes)
  | ended
  deriving DecidableEq, Repr

namespace Pipe

def new (draft : DraftVersion) : Pipe :=
  { walker := .new draft, injections := [], written := [], ended := false }

/-- Where in a chunk the waiting injections go. -/
def split (pipe : Pipe) (data : Bytes) : Option ℕ :=
  if pipe.injections.isEmpty then none
  else if pipe.walker.atBoundary then some 0
  else (pipe.walker.advance data).2

def read (pipe : Pipe) (data : Bytes) : Pipe :=
  let writes := writeWithInjections data (pipe.split data) pipe.injections
  { pipe with
    walker := (pipe.walker.advance data).1
    injections := writes.2
    written := pipe.written ++ writes.1 }

def inject (pipe : Pipe) (bytes : Bytes) : Pipe :=
  if pipe.injections.isEmpty && pipe.walker.atBoundary then
    { pipe with written := pipe.written ++ [.injected bytes] }
  else { pipe with injections := pipe.injections ++ [bytes] }

/-- A command is taken only while fewer than `COMMAND_QUEUE_DEPTH` injections wait. -/
def step (pipe : Pipe) : Event → Option Pipe
  | .read data => if pipe.ended then none else some (pipe.read data)
  | .inject bytes =>
    if pipe.ended then none
    else if pipe.injections.length < commandQueueDepth then some (pipe.inject bytes)
    else none
  | .ended => if pipe.ended then none else some { pipe with ended := true }

/-- What the destination has been handed. -/
def delivered (pipe : Pipe) : Bytes :=
  pipe.written.flatMap fun
    | .forwarded bytes => bytes
    | .injected bytes => bytes

end Pipe

abbrev Piped (draft : DraftVersion) : List Event → Pipe → Prop :=
  Run (· = .new draft) fun pipe event pipe' => pipe.step event = some pipe'

/-! ## What is to hold -/

/-- The source bytes of a history, oldest first. -/
def sourceOf : List Event → Bytes
  | [] => []
  | .read data :: earlier => sourceOf earlier ++ data
  | _ :: earlier => sourceOf earlier

/-- The messages taken from the control plane, oldest first. -/
def requestsOf : List Event → List Bytes
  | [] => []
  | .inject bytes :: earlier => requestsOf earlier ++ [bytes]
  | _ :: earlier => requestsOf earlier

/-- `rest`, the source from the offset `done` on, with messages put in at given offsets
of the source. -/
def splice (done : ℕ) (rest : Bytes) : List (ℕ × Bytes) → Bytes
  | [] => rest
  | (place, message) :: more =>
    rest.take (place - done) ++ message ++ splice place (rest.drop (place - done)) more

/-- The injected messages of a run, with their places in the source. -/
structure Placed (draft : DraftVersion) (history : List Event) (pipe : Pipe)
    (placed : List (ℕ × Bytes)) : Prop where
  spliced : pipe.delivered = splice 0 (sourceOf history) placed
  ordered : placed.Pairwise (·.1 ≤ ·.1)
  /-- Each message once, in the order the pipe took them, the last ones still waiting. -/
  once : placed.map Prod.snd ++ pipe.injections = requestsOf history
  /-- Every place is in the source, behind whole messages. -/
  between : ∀ place ∈ placed, place.1 ≤ (sourceOf history).length ∧
    Whole draft ((sourceOf history).take place.1)
  /-- A message is placed behind what had been forwarded when it was taken, and no later
  than any boundary forwarded since. -/
  soon : ∀ later message earlier, history = later ++ .inject message :: earlier →
    ∀ boundary, (sourceOf earlier).length ≤ boundary → boundary ≤ (sourceOf history).length →
      Whole draft ((sourceOf history).take boundary) →
        ∃ place, placed[(requestsOf earlier).length]? = some (place, message) ∧
          (sourceOf earlier).length ≤ place ∧ place ≤ boundary
  /-- In a sequence of messages, every place is between two of them. -/
  framed : ∀ (messages : List Bytes) (rest : Bytes), (∀ message ∈ messages, Message draft message) →
    sourceOf history ++ rest = messages.flatten →
      ∀ place ∈ placed, ∃ k, (sourceOf history).take place.1 = (messages.take k).flatten
  /-- Where no continuation could be messages, nothing is placed from there on. -/
  latched : ∀ point, (∀ rest, ¬ Whole draft ((sourceOf history).take point ++ rest)) →
    ∀ place ∈ placed, place.1 < point

/-! ## The stream as its writes -/

/-- The source bytes among writes. -/
def forwardedOf : List Write → Bytes
  | [] => []
  | .forwarded bytes :: more => bytes ++ forwardedOf more
  | .injected _ :: more => forwardedOf more

/-- The injected messages among writes, each with the source offset it stands at. -/
def placements : ℕ → List Write → List (ℕ × Bytes)
  | _, [] => []
  | done, .forwarded bytes :: more => placements (done + bytes.length) more
  | done, .injected bytes :: more => (done, bytes) :: placements done more

theorem forwardedOf_append (writes more : List Write) :
    forwardedOf (writes ++ more) = forwardedOf writes ++ forwardedOf more := by
  induction writes with
  | nil => rfl
  | cons write writes ih =>
    cases write with
    | forwarded bytes => simp only [List.cons_append, forwardedOf, ih, List.append_assoc]
    | injected bytes => exact ih

theorem placements_append (done : ℕ) (writes more : List Write) :
    placements done (writes ++ more) =
      placements done writes ++ placements (done + (forwardedOf writes).length) more := by
  induction writes generalizing done with
  | nil => rfl
  | cons write writes ih =>
    cases write with
    | forwarded bytes =>
      rw [List.cons_append, placements, ih, placements, forwardedOf, List.length_append, Nat.add_assoc]
    | injected bytes =>
      rw [List.cons_append, placements, ih]
      rfl

theorem forwardedOf_injected (injections : List Bytes) :
    forwardedOf (injections.map .injected) = [] := by
  induction injections with
  | nil => rfl
  | cons bytes injections ih => exact ih

theorem placements_injected (done : ℕ) (injections : List Bytes) :
    placements done (injections.map .injected) = injections.map (done, ·) := by
  induction injections with
  | nil => rfl
  | cons bytes injections ih => exact congrArg (List.cons (done, bytes)) ih

theorem forwardedOf_unlessEmpty (bytes : Bytes) : forwardedOf (Write.unlessEmpty bytes) = bytes := by
  cases bytes <;> simp [Write.unlessEmpty, forwardedOf]

theorem placements_unlessEmpty (done : ℕ) (bytes : Bytes) :
    placements done (Write.unlessEmpty bytes) = [] := by
  cases bytes <;> rfl

theorem placements_from {done : ℕ} {writes : List Write} :
    ∀ place ∈ placements done writes, done ≤ place.1 := by
  induction writes generalizing done with
  | nil => exact fun _ member => nomatch member
  | cons write writes ih =>
    intro place member
    cases write with
    | forwarded bytes => exact (Nat.le_add_right ..).trans (ih place member)
    | injected bytes =>
      rcases List.mem_cons.mp member with rfl | later
      · exact Nat.le_refl _
      · exact ih place later

theorem placements_ordered (done : ℕ) (writes : List Write) :
    (placements done writes).Pairwise (·.1 ≤ ·.1) := by
  induction writes generalizing done with
  | nil => exact .nil
  | cons write writes ih =>
    cases write with
    | forwarded bytes => exact ih _
    | injected bytes => exact .cons placements_from (ih _)

theorem splice_ahead {done : ℕ} (bytes rest : Bytes) {placed : List (ℕ × Bytes)}
    (ahead : ∀ place ∈ placed, done + bytes.length ≤ place.1) :
    splice done (bytes ++ rest) placed = bytes ++ splice (done + bytes.length) rest placed := by
  cases placed with
  | nil => rfl
  | cons place more =>
    have behind := ahead place (List.mem_cons_self ..)
    have room : bytes.length ≤ place.1 - done := by omega
    have left : place.1 - done - bytes.length = place.1 - (done + bytes.length) := by omega
    rw [splice, splice, List.take_append, List.drop_append, List.take_of_length_le room,
      List.drop_of_length_le room, List.nil_append, left]
    simp only [List.append_assoc]

theorem delivered_spliced (done : ℕ) (writes : List Write) :
    (writes.flatMap fun
      | .forwarded bytes => bytes
      | .injected bytes => bytes) = splice done (forwardedOf writes) (placements done writes) := by
  induction writes generalizing done with
  | nil => rfl
  | cons write writes ih =>
    rw [List.flatMap_cons]
    cases write with
    | forwarded bytes =>
      rw [forwardedOf, placements, splice_ahead _ _ placements_from, ← ih]
    | injected bytes =>
      rw [forwardedOf, placements, splice, Nat.sub_self, List.take_zero, List.drop_zero, ← ih]
      rfl

/-! ## What a chunk does -/

variable {draft : DraftVersion} {history earlier : List Event} {pipe pipe' : Pipe}
  {source : Bytes} {placed : List (ℕ × Bytes)} {start index : ℕ} {message : Bytes}

theorem sourceOf_append (later earlier : List Event) :
    sourceOf (later ++ earlier) = sourceOf earlier ++ sourceOf later := by
  induction later with
  | nil => exact (List.append_nil _).symm
  | cons event later ih =>
    cases event with
    | read data => exact (congrArg (· ++ data) ih).trans (List.append_assoc ..)
    | inject bytes => exact ih
    | ended => exact ih

theorem requestsOf_append (later earlier : List Event) :
    requestsOf (later ++ earlier) = requestsOf earlier ++ requestsOf later := by
  induction later with
  | nil => exact (List.append_nil _).symm
  | cons event later ih =>
    cases event with
    | read data => exact ih
    | inject bytes => exact (congrArg (· ++ [bytes]) ih).trans (List.append_assoc ..)
    | ended => exact ih

/-- Either a message taken at the offset `start` has been placed, at the first boundary
from there on, or there has been none. -/
def Served (draft : DraftVersion) (source : Bytes) (placed : List (ℕ × Bytes)) (start index : ℕ)
    (message : Bytes) : Prop :=
  (∃ place, placed[index]? = some (place, message) ∧ start ≤ place ∧ place ≤ source.length ∧
    ∀ boundary, start ≤ boundary → boundary < place → ¬ Whole draft (source.take boundary)) ∨
  (placed.length ≤ index ∧ ∀ boundary, start ≤ boundary → boundary ≤ source.length →
    ¬ Whole draft (source.take boundary))

theorem Served.forward (served : Served draft source placed start index message) {data : Bytes}
    {added : List (ℕ × Bytes)} (begun : start ≤ source.length)
    (next : placed.length ≤ index →
      (added = [] ∧ ∀ n, 0 < n → n ≤ data.length → ¬ Whole draft (source ++ data.take n)) ∨
      ∃ n ≤ data.length, added[index - placed.length]? = some (source.length + n, message) ∧
        ∀ m, 0 < m → m < n → ¬ Whole draft (source ++ data.take m)) :
    Served draft (source ++ data) (placed ++ added) start index message := by
  have old (boundary : ℕ) (inside : boundary ≤ source.length) :
      (source ++ data).take boundary = source.take boundary := List.take_append_of_le_length inside
  have new (boundary : ℕ) (beyond : source.length < boundary) :
      (source ++ data).take boundary = source ++ data.take (boundary - source.length) := by
    rw [List.take_append, List.take_of_length_le beyond.le]
  rcases served with ⟨place, there, after, inside, first⟩ | ⟨waiting, none⟩
  · refine .inl ⟨place, ?_, after, inside.trans (List.length_append ▸ Nat.le_add_right ..), ?_⟩
    · rw [List.getElem?_append_left (List.getElem?_eq_some_iff.mp there).1, there]
    · intro boundary behind before
      rw [old boundary (before.le.trans inside)]
      exact first boundary behind before
  · rcases next waiting with ⟨rfl, still⟩ | ⟨n, within, there, first⟩
    · refine .inr ⟨by rwa [List.append_nil], ?_⟩
      intro boundary behind inside
      rw [List.length_append] at inside
      by_cases beyond : source.length < boundary
      · rw [new boundary beyond]
        exact still _ (by omega) (by omega)
      · rw [old boundary (by omega)]
        exact none boundary behind (by omega)
    · refine .inl ⟨source.length + n, ?_, begun.trans (Nat.le_add_right ..), ?_, ?_⟩
      · rw [List.getElem?_append_right waiting, there]
      · rw [List.length_append]
        omega
      · intro boundary behind before
        by_cases beyond : source.length < boundary
        · rw [new boundary beyond]
          exact first _ (by omega) (by omega)
        · rw [old boundary (by omega)]
          exact none boundary behind (by omega)

theorem Served.more (served : Served draft source placed start index message)
    (added : List (ℕ × Bytes)) (there : index < placed.length) :
    Served draft source (placed ++ added) start index message := by
  rcases served with ⟨place, found, bounds⟩ | ⟨waiting, -⟩
  · exact .inl ⟨place, (List.getElem?_append_left there).trans found, bounds⟩
  · exact absurd there (Nat.not_lt.mpr waiting)

/-! ## The invariant of the loop -/

structure Piping (draft : DraftVersion) (history : List Event) (pipe : Pipe) : Prop where
  walker : pipe.walker = (sourceOf history).foldl observe (.new draft)
  source : forwardedOf pipe.written = sourceOf history
  once : (placements 0 pipe.written).map Prod.snd ++ pipe.injections = requestsOf history
  between : ∀ place ∈ placements 0 pipe.written, place.1 ≤ (sourceOf history).length ∧
    Whole draft ((sourceOf history).take place.1)
  waiting : pipe.injections ≠ [] → ¬ Whole draft (sourceOf history)
  served : ∀ later message earlier, history = later ++ .inject message :: earlier →
    Served draft (sourceOf history) (placements 0 pipe.written) (sourceOf earlier).length
      (requestsOf earlier).length message

theorem Piping.boundary (piping : Piping draft history pipe) :
    pipe.walker.atBoundary = true ↔ Whole draft (sourceOf history) := by
  rw [piping.walker]
  exact walked_boundary draft _

theorem Piping.advance (piping : Piping draft history pipe) (data : Bytes) :
    pipe.walker.advance data =
      ((sourceOf history ++ data).foldl observe (.new draft), firstBoundary pipe.walker data) := by
  rw [piping.walker, List.foldl_append]
  exact advance_eq (walked_bare draft _) data

/-- The boundaries of a chunk are those of the source. -/
theorem Piping.inside (piping : Piping draft history pipe) (data : Bytes) (n : ℕ) :
    ((data.take n).foldl observe pipe.walker).atBoundary = true ↔
      Whole draft (sourceOf history ++ data.take n) := by
  rw [piping.walker, ← List.foldl_append]
  exact walked_boundary draft _

/-- The message of a request is the request of its place in the order. -/
theorem request_there (later : List Event) (message : Bytes) (earlier : List Event) :
    (requestsOf (later ++ .inject message :: earlier))[(requestsOf earlier).length]? = some message := by
  rw [requestsOf_append, requestsOf, List.append_assoc, List.getElem?_append_right (Nat.le_refl _),
    Nat.sub_self]
  rfl

theorem Piping.waits (piping : Piping draft history pipe) {later : List Event}
    (request : history = later ++ .inject message :: earlier)
    (unplaced : (placements 0 pipe.written).length ≤ (requestsOf earlier).length) :
    pipe.injections[(requestsOf earlier).length - (placements 0 pipe.written).length]? =
      some message := by
  have there := request_there later message earlier
  rw [← request, ← piping.once, List.getElem?_append_right (by rwa [List.length_map]),
    List.length_map] at there
  exact there

theorem Piping.begins (draft : DraftVersion) : Piping draft [] (.new draft) where
  walker := rfl
  source := rfl
  once := rfl
  between _ member := nomatch member
  waiting some := absurd rfl some
  served later _ _ request := by cases later <;> cases request

theorem writes_none (data : Bytes) (injections : List Bytes) (done : ℕ) :
    writeWithInjections data none injections = ([.forwarded data], injections) ∧
      forwardedOf [.forwarded data] = data ∧ placements done [.forwarded data] = [] :=
  ⟨rfl, List.append_nil data, rfl⟩

theorem writes_some {data : Bytes} {n : ℕ} (inside : n ≤ data.length) (injections : List Bytes)
    (done : ℕ) :
    (writeWithInjections data (some n) injections).2 = [] ∧
      forwardedOf (writeWithInjections data (some n) injections).1 = data ∧
      placements done (writeWithInjections data (some n) injections).1 =
        injections.map (done + n, ·) := by
  refine ⟨rfl, ?_, ?_⟩
  · simp only [writeWithInjections, forwardedOf_append, forwardedOf_unlessEmpty, forwardedOf_injected,
      List.append_nil, List.take_append_drop]
  · simp only [writeWithInjections, placements_append, placements_unlessEmpty, placements_injected,
      forwardedOf_unlessEmpty, List.nil_append, List.append_nil, List.length_take,
      Nat.min_eq_left inside]

/-- A chunk forwarded with `added` placed inside it. -/
theorem Piping.forward (piping : Piping draft history pipe) {data : Bytes} {writes : List Write}
    {added : List (ℕ × Bytes)} {left : List Bytes} (forwards : forwardedOf writes = data)
    (places : placements (sourceOf history).length writes = added)
    (kept : added.map Prod.snd ++ left = pipe.injections)
    (between : ∀ place ∈ added, place.1 ≤ (sourceOf history ++ data).length ∧
      Whole draft ((sourceOf history ++ data).take place.1))
    (waiting : left ≠ [] → ¬ Whole draft (sourceOf history ++ data))
    (next : pipe.injections ≠ [] →
      (added = [] ∧ ∀ n, 0 < n → n ≤ data.length → ¬ Whole draft (sourceOf history ++ data.take n)) ∨
      ∃ n ≤ data.length, added = pipe.injections.map ((sourceOf history).length + n, ·) ∧
        ∀ m, 0 < m → m < n → ¬ Whole draft (sourceOf history ++ data.take m)) :
    Piping draft (.read data :: history)
      { pipe with
        walker := (pipe.walker.advance data).1
        injections := left
        written := pipe.written ++ writes } := by
  have all : placements 0 (pipe.written ++ writes) = placements 0 pipe.written ++ added := by
    rw [placements_append, piping.source, Nat.zero_add, places]
  refine ⟨?_, ?_, ?_, ?_, waiting, ?_⟩
  · exact congrArg Prod.fst (piping.advance data)
  · rw [forwardedOf_append, piping.source, forwards]
    rfl
  · rw [all, List.map_append, List.append_assoc, kept]
    exact piping.once
  · intro place member
    rw [all] at member
    rcases List.mem_append.mp member with old | new
    · obtain ⟨inside, whole⟩ := piping.between place old
      refine ⟨inside.trans (by simp [sourceOf]), ?_⟩
      rw [sourceOf, List.take_append_of_le_length inside]
      exact whole
    · exact between place new
  · intro later message earlier request
    cases later with
    | nil => cases request
    | cons event later =>
      have request : history = later ++ .inject message :: earlier := (List.cons.inj request).2
      have begun : (sourceOf earlier).length ≤ (sourceOf history).length := by
        rw [request, sourceOf_append, List.length_append]
        exact Nat.le_add_right ..
      rw [all]
      refine (piping.served later message earlier request).forward begun fun unplaced => ?_
      have there := piping.waits request unplaced
      rcases next (List.ne_nil_of_mem (List.mem_of_getElem? there)) with none | ⟨n, inside, rfl, first⟩
      · exact .inl none
      · refine .inr ⟨n, inside, ?_, first⟩
        rw [List.getElem?_map, there]
        rfl

theorem Piping.read (piping : Piping draft history pipe) (data : Bytes) :
    Piping draft (.read data :: history) (pipe.read data) := by
  unfold Pipe.read
  dsimp only
  by_cases idle : pipe.injections = []
  · have unsplit : pipe.split data = none := by simp [Pipe.split, idle]
    rw [unsplit, idle]
    exact piping.forward (List.append_nil data) rfl idle.symm (fun _ member => nomatch member)
      (fun some => absurd rfl some) fun some => absurd idle some
  have apart : ¬ pipe.walker.atBoundary = true := fun boundary =>
    piping.waiting idle (piping.boundary.mp boundary)
  have split : pipe.split data = firstBoundary pipe.walker data := by
    rw [Pipe.split, if_neg (by simpa using idle), if_neg apart, piping.advance]
  rw [split]
  cases found : firstBoundary pipe.walker data with
  | none =>
    have still (n : ℕ) (positive : 0 < n) (inside : n ≤ data.length) :
        ¬ Whole draft (sourceOf history ++ data.take n) := by
      rw [← piping.inside, firstBoundary_none found positive inside]
      exact Bool.false_ne_true
    refine piping.forward (List.append_nil data) rfl rfl (fun _ member => nomatch member) ?_
      fun _ => .inl ⟨rfl, still⟩
    intro _ whole
    rcases data.eq_nil_or_concat' with rfl | ⟨front, last, rfl⟩
    · rw [List.append_nil] at whole
      exact piping.waiting idle whole
    · refine still _ ?_ (Nat.le_refl _) ?_
      · rw [List.length_append]
        exact Nat.succ_pos _
      · rwa [List.take_length]
  | some n =>
    obtain ⟨positive, inside, there, first⟩ := firstBoundary_some found
    obtain ⟨emptied, forwards, places⟩ := writes_some inside pipe.injections (sourceOf history).length
    rw [piping.inside] at there
    rw [emptied]
    refine piping.forward forwards places (by simp) ?_ (fun some => absurd rfl some) ?_
    · intro place member
      obtain ⟨message, -, rfl⟩ := List.mem_map.mp member
      dsimp only
      refine ⟨by rw [List.length_append]; omega, ?_⟩
      rwa [List.take_length_add_append]
    · intro _
      refine .inr ⟨n, inside, rfl, ?_⟩
      intro m positive below
      rw [← piping.inside, first m positive below]
      exact Bool.false_ne_true

theorem Piping.inject (piping : Piping draft history pipe) (bytes : Bytes) :
    Piping draft (.inject bytes :: history) (pipe.inject bytes) := by
  unfold Pipe.inject
  split_ifs with ready
  · obtain ⟨empty, boundary⟩ := Bool.and_eq_true_iff.mp ready
    have idle : pipe.injections = [] := List.isEmpty_iff.mp empty
    have all : placements 0 (pipe.written ++ [.injected bytes]) =
        placements 0 pipe.written ++ [((sourceOf history).length, bytes)] := by
      rw [placements_append, piping.source, Nat.zero_add]
      rfl
    have placed := piping.once
    rw [idle, List.append_nil] at placed
    have count := congrArg List.length placed
    rw [List.length_map] at count
    refine ⟨piping.walker, ?_, ?_, ?_, fun some => absurd idle some, ?_⟩
    · rw [forwardedOf_append, piping.source]
      exact List.append_nil _
    · rw [all, idle, List.append_nil, List.map_append, placed]
      rfl
    · intro place member
      rw [all] at member
      rcases List.mem_append.mp member with old | new
      · exact piping.between place old
      · obtain rfl := List.mem_singleton.mp new
        refine ⟨Nat.le_refl _, ?_⟩
        change Whole draft ((sourceOf history).take (sourceOf history).length)
        rw [List.take_length]
        exact piping.boundary.mp boundary
    · intro later message earlier request
      rw [all]
      cases later with
      | nil =>
        cases request
        refine .inl ⟨(sourceOf history).length, ?_, Nat.le_refl _, Nat.le_refl _, fun _ from' below =>
          absurd below (Nat.not_lt.mpr from')⟩
        rw [List.getElem?_append_right count.le, count, Nat.sub_self]
        rfl
      | cons event later =>
        have request : history = later ++ .inject message :: earlier := (List.cons.inj request).2
        refine (piping.served later message earlier request).more _ ?_
        rw [count, request]
        exact (List.getElem?_eq_some_iff.mp (request_there later message earlier)).1
  · have apart : ¬ Whole draft (sourceOf history) := by
      intro whole
      by_cases idle : pipe.injections = []
      · exact ready (by rw [idle, piping.boundary.mpr whole]; rfl)
      · exact piping.waiting idle whole
    refine ⟨piping.walker, piping.source, ?_, piping.between, fun _ => apart, ?_⟩
    · rw [← List.append_assoc, piping.once]
      rfl
    · intro later message earlier request
      cases later with
      | nil =>
        cases request
        refine .inr ⟨?_, ?_⟩
        · rw [← piping.once, List.length_append, List.length_map]
          exact Nat.le_add_right ..
        · intro boundary from' inside
          obtain rfl : boundary = (sourceOf history).length := Nat.le_antisymm inside from'
          change ¬ Whole draft ((sourceOf history).take (sourceOf history).length)
          rwa [List.take_length]
      | cons event later =>
        exact piping.served later message earlier (List.cons.inj request).2

theorem Piping.ended (piping : Piping draft history pipe) :
    Piping draft (.ended :: history) { pipe with ended := true } where
  walker := piping.walker
  source := piping.source
  once := piping.once
  between := piping.between
  waiting := piping.waiting
  served later message earlier request := by
    cases later with
    | nil => cases request
    | cons event later => exact piping.served later message earlier (List.cons.inj request).2

theorem Piping.step (piping : Piping draft history pipe) {event : Event}
    (stepped : pipe.step event = some pipe') : Piping draft (event :: history) pipe' := by
  cases event with
  | read data =>
    rw [Pipe.step] at stepped
    split_ifs at stepped
    cases stepped
    exact piping.read data
  | inject bytes =>
    rw [Pipe.step] at stepped
    split_ifs at stepped
    cases stepped
    exact piping.inject bytes
  | ended =>
    rw [Pipe.step] at stepped
    split_ifs at stepped
    cases stepped
    exact piping.ended

theorem piping_of_run (run : Piped draft history pipe) : Piping draft history pipe :=
  run.invariant (by rintro _ rfl; exact .begins draft) fun _ _ _ _ piping stepped => piping.step stepped

/-! ## The stream the destination receives -/

/-- **Injections are placed between messages**, in order, once, and as soon as they can be. -/
theorem injections_placed (run : Piped draft history pipe) :
    ∃ placed, Placed draft history pipe placed := by
  have piping := piping_of_run run
  refine ⟨placements 0 pipe.written, ?_, placements_ordered 0 _, piping.once, piping.between, ?_, ?_, ?_⟩
  · rw [← piping.source]
    exact delivered_spliced 0 pipe.written
  · intro later message earlier request boundary behind inside whole
    rcases piping.served later message earlier request with ⟨place, there, after, -, first⟩ | ⟨-, none⟩
    · refine ⟨place, there, after, Nat.le_of_not_lt fun below => ?_⟩
      exact first boundary behind below whole
    · exact absurd whole (none boundary behind inside)
  · intro messages rest all split place member
    obtain ⟨-, whole⟩ := piping.between place member
    apply whole_leading whole all
    rw [← split, ← List.append_assoc, List.take_append_drop]
  · intro point stuck place member
    obtain ⟨-, whole⟩ := piping.between place member
    by_contra beyond
    apply stuck (((sourceOf history).take place.1).drop point)
    have front : (sourceOf history).take point = ((sourceOf history).take place.1).take point := by
      rw [List.take_take, Nat.min_eq_left (Nat.le_of_not_lt beyond)]
    rwa [front, List.take_append_drop]

/-- A message taken two bytes into another waits for its last byte. -/
def halfway : Pipe := (((Pipe.new .draft18).read [5, 0]).inject [7, 0, 0]).read [1, 9, 5]

theorem halfway_placed :
    (∃ placed, Placed .draft18 [.read [1, 9, 5], .inject [7, 0, 0], .read [5, 0]] halfway placed) ∧
      halfway.delivered = [5, 0, 1, 9, 7, 0, 0, 5] :=
  ⟨injections_placed (.step (.step (.step (.start rfl) rfl) rfl) rfl), by decide⟩

end Moqtap.ControlInjections
