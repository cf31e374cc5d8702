import Moqtap.ByteCursor

/-!
The egress queue of one forwarded stream direction and the destination it is
written to, `PendingQueue`, `write_unit` and the two drains of `moqtap-proxy`'s
`egress.rs`.

What a wake writes is the head of the queue and what is behind it, in order; no
byte is written twice and none is left out in between (`release_keeps`,
`drain_keeps`).  Instants are numbers, a gate is known by its name, and what the
scheduler answers each time it is asked is an argument.  Expected times and what
is reported of a release are left out: nothing is written by them.
-/

namespace Moqtap.Egress

open ByteCursor

def maxPendingUnits : ℕ := 8192

/-! ## The destination -/

inductive Ending
  | finished
  | reset (code : ℕ)
  deriving DecidableEq, Repr

/-- A destination stream.  `room` is how many more bytes it takes before a write
fails, none if no write does; after one failed write every write fails. -/
structure Sink where
  received : Bytes
  room : Option ℕ
  broken : Bool
  ended : Option Ending
  deriving DecidableEq, Repr

namespace Sink

def new (room : Option ℕ) : Sink := { received := [], room := room, broken := false, ended := none }

/-- `write_all`, and whether it succeeded. -/
def writeAll (sink : Sink) (bytes : Bytes) : Bool × Sink :=
  if sink.broken || sink.ended.isSome then (false, { sink with broken := true })
  else
    match sink.room with
    | none => (true, { sink with received := sink.received ++ bytes })
    | some room =>
      if bytes.length ≤ room then
        (true, { sink with received := sink.received ++ bytes, room := some (room - bytes.length) })
      else (false, { sink with received := sink.received ++ bytes.take room, broken := true })

/-- Nothing is to be done about an ending that fails. -/
def conclude (sink : Sink) (ending : Ending) : Sink :=
  if sink.ended.isSome then sink else { sink with ended := some ending }

end Sink

theorem conclude_received (sink : Sink) (ending : Ending) :
    (sink.conclude ending).received = sink.received := by
  unfold Sink.conclude
  split_ifs <;> rfl

/-! ## Queued units -/

/-- The row a unit is charged to: a rule of the profile's, the default class, or bytes
no rule could see. -/
inductive Class
  | rule (index : ℕ)
  | default
  | unshapeable
  deriving DecidableEq, Repr

inductive Terminal
  | truncate (front : Bytes) (code : ℕ)
  | reset (code : ℕ)
  deriving DecidableEq, Repr

inductive Item
  | write (raw : Bytes)
  | elided
  | terminal (terminal : Terminal)
  deriving DecidableEq, Repr

structure ShapeTag where
  row : Class
  expiresAt : ℕ
  deriving DecidableEq, Repr

structure Pending where
  dueAt : ℕ
  gate : Option ℕ
  item : Item
  shape : Option ShapeTag
  deriving DecidableEq, Repr

namespace Item

/-- What writing a unit puts on the wire. -/
def bytes : Item → Bytes
  | .write raw => raw
  | .elided => []
  | .terminal (.truncate front _) => front
  | .terminal (.reset _) => []

def isTerminal : Item → Bool
  | .terminal _ => true
  | _ => false

end Item

namespace Pending

def bytes (raw : Bytes) (dueAt : ℕ) : Pending :=
  { dueAt := dueAt, gate := none, item := .write raw, shape := none }

def elided (dueAt : ℕ) : Pending := { dueAt := dueAt, gate := none, item := .elided, shape := none }

def terminal (terminal : Terminal) (now : ℕ) : Pending :=
  { dueAt := now, gate := none, item := .terminal terminal, shape := none }

def withGate (unit : Pending) (gate : ℕ) : Pending := { unit with gate := some gate }

def len (unit : Pending) : ℕ := unit.item.bytes.length

/-- `opened` says which gates have been released. -/
def isDue (unit : Pending) (now : ℕ) (opened : ℕ → Bool) : Bool :=
  unit.dueAt ≤ now || unit.gate.any opened

end Pending

/-- What handing one unit to the destination did; none is a write that failed. -/
inductive Written
  | bytes (count : ℕ)
  | nothing
  | terminated (forwarded code : ℕ)
  deriving DecidableEq, Repr

def writeUnit (unit : Pending) (sink : Sink) : Option Written × Sink :=
  match unit.item with
  | .write raw =>
    match sink.writeAll raw with
    | (true, sink) => (some (.bytes raw.length), sink)
    | (false, sink) => (none, sink)
  | .elided => (some .nothing, sink)
  | .terminal (.truncate front code) =>
    match if front.isEmpty then (true, sink) else sink.writeAll front with
    | (true, sink) => (some (.terminated front.length code), sink.conclude (.reset code))
    | (false, sink) => (none, sink)
  | .terminal (.reset code) => (some (.terminated 0 code), sink.conclude (.reset code))

/-! ## The queue -/

structure EgressConfig where
  maxPendingBytes : ℕ
  maxHold : ℕ
  deriving DecidableEq, Repr

structure QueueDepth where
  objects : ℕ
  bytes : ℕ
  deriving DecidableEq, Repr

inductive Expiry
  | deliver
  | resetStream (code : ℕ)
  deriving DecidableEq, Repr

/-- What the queue reads of a session's scheduler besides its answers. -/
structure Shaper where
  maxHold : Option ℕ
  onExpiry : Expiry
  /-- The profile's depth, under `Overflow::Block` and nowhere else. -/
  blockingDepth : Option QueueDepth
  deriving DecidableEq, Repr

/-- The scheduler's answer to one unit. -/
inductive Acquire
  | now
  | later (instant : ℕ)
  | never
  | largerThanBurst (burstBytes unitBytes : ℕ)
  | starved
  deriving DecidableEq, Repr

structure PendingQueue where
  q : List Pending
  config : EgressConfig
  shaper : Option Shaper
  unitClass : Class
  deriving DecidableEq, Repr

namespace PendingQueue

def new (config : EgressConfig) (shaper : Option Shaper) : PendingQueue :=
  { q := [], config := config, shaper := shaper, unitClass := .unshapeable }

def isShaped (queue : PendingQueue) : Bool := queue.shaper.isSome

def tagUnit (queue : PendingQueue) (row : Class) : PendingQueue := { queue with unitClass := row }

def isEmpty (queue : PendingQueue) : Bool := queue.q.isEmpty

def len (queue : PendingQueue) : ℕ := queue.q.length

/-- The counter that `charge` and `credit` keep. -/
def queuedBytes (queue : PendingQueue) : ℕ := (queue.q.map Pending.len).sum

def acceptsMore (queue : PendingQueue) : Bool :=
  let withinEngineBudget :=
    queue.queuedBytes < queue.config.maxPendingBytes && queue.len < maxPendingUnits
  let withinShapeDepth :=
    match queue.shaper.bind Shaper.blockingDepth with
    | some depth => queue.queuedBytes < depth.bytes && queue.len < depth.objects
    | none => true
  withinEngineBudget && withinShapeDepth

def shapeHold (queue : PendingQueue) : ℕ :=
  (queue.shaper.bind Shaper.maxHold).getD queue.config.maxHold

def push (queue : PendingQueue) (unit : Pending) (now : ℕ) : PendingQueue :=
  let tag : ShapeTag := { row := queue.unitClass, expiresAt := now + queue.shapeHold }
  { queue with q := queue.q ++ [if queue.isShaped then { unit with shape := some tag } else unit] }

def clear (queue : PendingQueue) : PendingQueue := { queue with q := [] }

/-- `shaping_grants_head`: a refusal leaves the queue as it is, and an expiry may
replace everything in it with a reset. -/
def shapingGrantsHead (queue : PendingQueue) (head : Pending) (now : ℕ) (answer : Acquire) :
    Bool × PendingQueue :=
  match queue.shaper, head.shape with
  | some shaper, some tag =>
    if head.item.isTerminal then (true, queue)
    else if tag.expiresAt ≤ now then
      match shaper.onExpiry with
      | .deliver => (true, queue)
      | .resetStream code => (true, { queue with q := [.terminal (.reset code) now] })
    else (answer == .now, queue)
  | _, _ => (true, queue)

def popNextDue (queue : PendingQueue) (now : ℕ) (opened : ℕ → Bool) (answer : Acquire) :
    Option Pending × PendingQueue :=
  match queue.q with
  | [] => (none, queue)
  | head :: _ =>
    if head.isDue now opened then
      match queue.shapingGrantsHead head now answer with
      | (true, queue) => (queue.q.head?, { queue with q := queue.q.tail })
      | (false, queue) => (none, queue)
    else (none, queue)

end PendingQueue

/-! ## Releases and drains -/

inductive Flow
  | carryOn
  | streamOver
  | failed
  deriving DecidableEq, Repr

/-- One time the release branch, or a drain that honours release times, wakes.
`answers` are the scheduler's, one for each time it is asked. -/
structure Wake where
  now : ℕ
  opened : ℕ → Bool
  answers : ℕ → Acquire

def releaseLoop (wake : Wake) : ℕ → ℕ → PendingQueue → Sink → Flow × PendingQueue × Sink
  | 0, _, queue, sink => (.carryOn, queue, sink)
  | fuel + 1, asked, queue, sink =>
    match queue.popNextDue wake.now wake.opened (wake.answers asked) with
    | (none, queue) => (.carryOn, queue, sink)
    | (some unit, queue) =>
      match writeUnit unit sink with
      | (none, sink) => (.failed, queue, sink)
      | (some (.terminated _ _), sink) => (.streamOver, queue.clear, sink)
      | (some _, sink) => releaseLoop wake fuel (asked + 1) queue sink

/-- Every turn takes a unit off the queue, so its length is fuel enough. -/
def releaseDueUnits (wake : Wake) (queue : PendingQueue) (sink : Sink) : Flow × PendingQueue × Sink :=
  releaseLoop wake queue.len 0 queue sink

inductive DrainOutcome
  | complete
  | terminated (forwarded code : ℕ)
  | writeFailed
  | discarded
  deriving DecidableEq, Repr

/-- The units a drain that ignores release times writes, and those it leaves. -/
def drainUnits : List Pending → Sink → DrainOutcome × List Pending × Sink
  | [], sink => (.complete, [], sink)
  | unit :: rest, sink =>
    match writeUnit unit sink with
    | (none, sink) => (.writeFailed, unit :: rest, sink)
    | (some (.terminated forwarded code), sink) => (.terminated forwarded code, [], sink)
    | (some _, sink) => drainUnits rest sink

/-- `discarding` is the session's gauge: a close that has spent its drain window. -/
def drainIgnoringReleaseTimes (discarding : Bool) (queue : PendingQueue) (sink : Sink) :
    DrainOutcome × PendingQueue × Sink :=
  if discarding then (.discarded, queue, sink)
  else
    let (outcome, left, sink) := drainUnits queue.q sink
    (outcome, { queue with q := left }, sink)

/-! ## What is owed -/

variable {sink sink' : Sink} {bytes : Bytes} {queue queue' : PendingQueue} {unit : Pending} {wake : Wake}
  {flow : Flow}

/-- Neither broken nor ended. -/
structure Sink.Live (sink : Sink) : Prop where
  whole : sink.broken = false
  opened : sink.ended = none

/-- The bytes the queue still has to write. -/
def PendingQueue.owed (queue : PendingQueue) : Bytes := queue.q.flatMap fun unit => unit.item.bytes

theorem Sink.live_new (room : Option ℕ) : (Sink.new room).Live := ⟨rfl, rfl⟩

theorem writeAll_dead (dead : ¬ sink.Live) (bytes : Bytes) :
    sink.writeAll bytes = (false, { sink with broken := true }) := by
  unfold Sink.writeAll
  rw [if_pos]
  by_contra whole
  obtain ⟨unbroken, opened⟩ := Bool.or_eq_false_iff.mp (Bool.eq_false_iff.mpr whole)
  exact dead ⟨unbroken, Option.isSome_eq_false_iff.mp opened |> Option.isNone_iff_eq_none.mp⟩

/-- A write that succeeds hands over its bytes, and one that fails a part of them. -/
theorem writeAll_live (live : sink.Live) (bytes : Bytes) :
    (∃ room, sink.writeAll bytes = (true, { sink with received := sink.received ++ bytes, room := room }) ∧
      (sink.room = none → room = none)) ∨
    (sink.room ≠ none ∧ ∃ n, sink.writeAll bytes =
      (false, { sink with received := sink.received ++ bytes.take n, broken := true })) := by
  obtain ⟨received, capacity, broken, ended⟩ := sink
  obtain ⟨rfl, rfl⟩ : broken = false ∧ ended = none := ⟨live.whole, live.opened⟩
  cases capacity with
  | none => exact .inl ⟨none, rfl, fun _ => rfl⟩
  | some room =>
    by_cases fits : bytes.length ≤ room
    · exact .inl ⟨some (room - bytes.length), if_pos fits, fun absent => nomatch absent⟩
    · exact .inr ⟨nofun, room, if_neg fits⟩

theorem writeAll_endless (live : sink.Live) (endless : sink.room = none) (bytes : Bytes) :
    sink.writeAll bytes = (true, { sink with received := sink.received ++ bytes }) := by
  obtain ⟨received, room, broken, ended⟩ := sink
  obtain ⟨rfl, rfl⟩ : broken = false ∧ ended = none := ⟨live.whole, live.opened⟩
  obtain rfl : room = none := endless
  rfl

/-- What one step of writing does to a destination that owes `bytes`: it takes all of
them and lives, or a part and does not. -/
inductive Hands (sink : Sink) (bytes : Bytes) (carried : Bool) (sink' : Sink) : Prop
  | whole (carries : carried = true) (live : sink'.Live) (endless : sink.room = none → sink'.room = none)
      (received : sink'.received = sink.received ++ bytes)
  | part (stops : carried = false) (dead : ¬ sink'.Live)
      (received : ∃ rest, sink'.received ++ rest = sink.received ++ bytes)

theorem hands_writeAll (live : sink.Live) (bytes : Bytes) :
    Hands sink bytes (sink.writeAll bytes).1 (sink.writeAll bytes).2 := by
  rcases writeAll_live live bytes with ⟨room, written, endless⟩ | ⟨-, n, written⟩
  · rw [written]
    exact .whole rfl ⟨live.whole, live.opened⟩ endless rfl
  · rw [written]
    refine .part rfl (fun live => nomatch live.whole) ⟨bytes.drop n, ?_⟩
    rw [List.append_assoc, List.take_append_drop]

def Written.carries : Option Written → Bool
  | some (.bytes _) => true
  | some .nothing => true
  | _ => false

theorem hands_writeUnit (live : sink.Live) (unit : Pending) :
    Hands sink unit.item.bytes (Written.carries (writeUnit unit sink).1) (writeUnit unit sink).2 := by
  unfold writeUnit
  cases unit.item with
  | write raw =>
    have hands := hands_writeAll live raw
    dsimp only [Item.bytes]
    split <;> rename_i written <;> rw [written] at hands <;> exact hands
  | elided => exact .whole rfl live id (List.append_nil _).symm
  | terminal terminal =>
    have ends (sink : Sink) (code : ℕ) : ¬ (sink.conclude (.reset code)).Live := by
      intro alive
      have opened := alive.opened
      unfold Sink.conclude at opened
      split_ifs at opened with ended
      rw [opened] at ended
      cases ended
    cases terminal with
    | reset code => exact .part rfl (ends sink code) ⟨[], by rw [conclude_received]; rfl⟩
    | truncate front code =>
      dsimp only [Item.bytes]
      by_cases empty : front.isEmpty = true
      · rw [if_pos empty, List.isEmpty_iff.mp empty]
        exact .part rfl (ends sink code) ⟨[], by rw [conclude_received]⟩
      · rw [if_neg empty]
        have hands := hands_writeAll live front
        split <;> rename_i written <;> rw [written] at hands
        · cases hands with
          | whole _ _ _ received => exact .part rfl (ends _ code) ⟨[], by rw [conclude_received, List.append_nil, received]⟩
          | part stops => cases stops
        · exact hands

theorem popNextDue_none {now : ℕ} {opened : ℕ → Bool} {answer : Acquire}
    (popped : queue.popNextDue now opened answer = (none, queue')) : queue' = queue := by
  unfold PendingQueue.popNextDue PendingQueue.shapingGrantsHead at popped
  grind

/-- What is popped is the head, or the reset an expiry has put in the queue's place. -/
theorem popNextDue_some {now : ℕ} {opened : ℕ → Bool} {answer : Acquire}
    (popped : queue.popNextDue now opened answer = (some unit, queue')) :
    (queue.q = unit :: queue'.q ∨ queue'.q = [] ∧ ∃ code, unit.item = .terminal (.reset code)) ∧
      queue'.config = queue.config ∧ queue'.shaper = queue.shaper ∧ queue'.unitClass = queue.unitClass := by
  unfold PendingQueue.popNextDue PendingQueue.shapingGrantsHead at popped
  grind [Pending.terminal]

/-- The same of a step that writes from the queue: what it leaves is still owed. -/
inductive Releases (sink : Sink) (queue : PendingQueue) (carried : Bool) (queue' : PendingQueue)
    (sink' : Sink) : Prop
  | whole (carries : carried = true) (live : sink'.Live) (endless : sink.room = none → sink'.room = none)
      (received : sink'.received ++ queue'.owed = sink.received ++ queue.owed)
      (behind : queue'.q <:+ queue.q)
  | part (stops : carried = false) (dead : ¬ sink'.Live)
      (received : ∃ rest, sink'.received ++ rest = sink.received ++ queue.owed)

theorem owed_cons {rest : List Pending} (head : queue.q = unit :: rest) :
    queue.owed = unit.item.bytes ++ rest.flatMap fun unit => unit.item.bytes := by
  rw [PendingQueue.owed, head, List.flatMap_cons]

theorem owed_push (queue : PendingQueue) (unit : Pending) (now : ℕ) :
    (queue.push unit now).owed = queue.owed ++ unit.item.bytes := by
  unfold PendingQueue.push PendingQueue.owed
  rw [List.flatMap_append, List.flatMap_singleton]
  split_ifs <;> rfl

theorem plain_push (plain : ∀ unit ∈ queue.q, unit.item.isTerminal = false)
    (simple : unit.item.isTerminal = false) {now : ℕ} :
    ∀ unit' ∈ (queue.push unit now).q, unit'.item.isTerminal = false := by
  intro unit' member
  rcases List.mem_append.mp member with old | new
  · exact plain unit' old
  · rw [List.mem_singleton.mp new]
    split_ifs <;> exact simple

theorem owed_idle (idle : queue.q = []) : queue.owed = [] := by rw [PendingQueue.owed, idle, List.flatMap_nil]

/-- A wake writes the head of the queue and what is behind it, in order. -/
theorem release_keeps (fuel asked : ℕ) (live : sink.Live) :
    Releases sink queue ((releaseLoop wake fuel asked queue sink).1 == .carryOn)
      (releaseLoop wake fuel asked queue sink).2.1 (releaseLoop wake fuel asked queue sink).2.2 := by
  induction fuel generalizing asked queue sink with
  | zero => exact .whole rfl live id rfl List.suffix_rfl
  | succ fuel ih =>
    rw [releaseLoop]
    rcases popped : queue.popNextDue wake.now wake.opened (wake.answers asked) with ⟨- | unit, left⟩
    · obtain rfl := popNextDue_none popped
      exact .whole rfl live id rfl List.suffix_rfl
    · have hands := hands_writeUnit live unit
      obtain ⟨from', -⟩ := popNextDue_some popped
      have stops {after : Sink} (dead : ¬ after.Live)
          (received : ∃ rest, after.received ++ rest = sink.received ++ unit.item.bytes) :
          ¬ after.Live ∧ ∃ rest, after.received ++ rest = sink.received ++ queue.owed := by
        obtain ⟨rest, received⟩ := received
        rcases from' with head | ⟨-, code, reset⟩
        · refine ⟨dead, rest ++ left.owed, ?_⟩
          rw [owed_cons head, ← List.append_assoc, received, List.append_assoc]
          rfl
        · rw [reset, Item.bytes, List.append_nil] at received
          exact ⟨dead, rest ++ queue.owed, by rw [← List.append_assoc, received]⟩
      dsimp only
      rcases wrote : writeUnit unit sink with ⟨- | written, after⟩
      · rw [wrote] at hands
        cases hands with
        | whole carries => cases carries
        | part _ dead received => exact .part rfl (stops dead received).1 (stops dead received).2
      · rw [wrote] at hands
        cases hands with
        | part ends dead received =>
          cases written with
          | terminated => exact .part rfl (stops dead received).1 (stops dead received).2
          | bytes => cases ends
          | nothing => cases ends
        | whole carries alive endless received =>
          have head : queue.q = unit :: left.q := by
            rcases from' with head | ⟨-, code, reset⟩
            · exact head
            · unfold writeUnit at wrote
              rw [reset] at wrote
              cases wrote
              cases carries
          have on : Releases sink queue ((releaseLoop wake fuel (asked + 1) left after).1 == .carryOn)
              (releaseLoop wake fuel (asked + 1) left after).2.1
              (releaseLoop wake fuel (asked + 1) left after).2.2 := by
            have total : after.received ++ left.owed = sink.received ++ queue.owed := by
              rw [received, owed_cons head, List.append_assoc]
              rfl
            cases ih (asked + 1) alive with
            | whole carries live' endless' received' behind =>
              refine .whole carries live' (endless' ∘ endless) (received'.trans total) ?_
              rw [head]
              exact behind.trans (List.suffix_cons ..)
            | part ends dead received' =>
              rw [total] at received'
              exact .part ends dead received'
          cases written with
          | terminated => cases carries
          | bytes => exact on
          | nothing => exact on

theorem releaseLoop_fixed (fuel asked : ℕ) (queue : PendingQueue) (sink : Sink) :
    (releaseLoop wake fuel asked queue sink).2.1.config = queue.config ∧
      (releaseLoop wake fuel asked queue sink).2.1.shaper = queue.shaper := by
  induction fuel generalizing asked queue sink with
  | zero => exact ⟨rfl, rfl⟩
  | succ fuel ih =>
    rw [releaseLoop]
    rcases popped : queue.popNextDue wake.now wake.opened (wake.answers asked) with ⟨- | unit, left⟩
    · obtain rfl := popNextDue_none popped
      exact ⟨rfl, rfl⟩
    · obtain ⟨-, config, shaper, -⟩ := popNextDue_some popped
      dsimp only
      rcases writeUnit unit sink with ⟨- | written, after⟩
      · exact ⟨config, shaper⟩
      · cases written with
        | terminated => exact ⟨config, shaper⟩
        | bytes => exact ⟨(ih ..).1.trans config, (ih ..).2.trans shaper⟩
        | nothing => exact ⟨(ih ..).1.trans config, (ih ..).2.trans shaper⟩

theorem popNextDue_unshaped {now : ℕ} {opened : ℕ → Bool} {answer : Acquire}
    (unshaped : queue.shaper = none) (popped : queue.popNextDue now opened answer = (some unit, queue')) :
    queue.q = unit :: queue'.q := by
  unfold PendingQueue.popNextDue PendingQueue.shapingGrantsHead at popped
  grind

theorem writeUnit_plain (live : sink.Live) (endless : sink.room = none)
    (plain : unit.item.isTerminal = false) : Written.carries (writeUnit unit sink).1 = true := by
  unfold writeUnit
  cases item : unit.item with
  | write raw =>
    rcases writeAll_live live raw with ⟨room, written, -⟩ | ⟨bounded, -⟩
    · dsimp only
      rw [written]
      rfl
    · exact absurd endless bounded
  | elided => rfl
  | terminal terminal =>
    rw [item] at plain
    cases plain

/-- With no terminal to write and nothing that expires, an endless destination carries on. -/
theorem release_carries (fuel asked : ℕ) (live : sink.Live) (endless : sink.room = none)
    (unshaped : queue.shaper = none) (plain : ∀ unit ∈ queue.q, unit.item.isTerminal = false) :
    (releaseLoop wake fuel asked queue sink).1 = .carryOn := by
  induction fuel generalizing asked queue sink with
  | zero => rfl
  | succ fuel ih =>
    rw [releaseLoop]
    rcases popped : queue.popNextDue wake.now wake.opened (wake.answers asked) with ⟨- | unit, left⟩
    · rfl
    · obtain ⟨from', -, shaper, -⟩ := popNextDue_some popped
      have head := popNextDue_unshaped unshaped popped
      have simple := plain unit (head ▸ List.mem_cons_self ..)
      have rest : ∀ unit ∈ left.q, unit.item.isTerminal = false := fun unit member =>
        plain unit (head ▸ List.mem_cons_of_mem _ member)
      have carries := writeUnit_plain live endless simple
      have hands := hands_writeUnit live unit
      dsimp only
      rcases wrote : writeUnit unit sink with ⟨- | written, after⟩ <;> rw [wrote] at carries hands
      · cases carries
      · cases hands with
        | part ends => exact absurd (carries.symm.trans ends) Bool.noConfusion
        | whole _ alive endless' =>
          have on := ih (asked + 1) alive (endless' endless) (shaper.trans unshaped) rest
          cases written with
          | terminated => cases carries
          | bytes => exact on
          | nothing => exact on

/-- A drain that writes everything hands over what was owed, and one that stops a part. -/
theorem drain_keeps (units : List Pending) (live : sink.Live) :
    Releases sink { queue with q := units } ((drainUnits units sink).1 == .complete)
      { queue with q := (drainUnits units sink).2.1 } (drainUnits units sink).2.2 := by
  induction units generalizing sink with
  | nil => exact .whole rfl live id rfl List.suffix_rfl
  | cons unit units ih =>
    have hands := hands_writeUnit live unit
    have all : ({ queue with q := unit :: units } : PendingQueue).owed =
        unit.item.bytes ++ ({ queue with q := units } : PendingQueue).owed := owed_cons rfl
    rw [drainUnits]
    rcases wrote : writeUnit unit sink with ⟨- | written, after⟩ <;> rw [wrote] at hands
    · cases hands with
      | whole carries => cases carries
      | part _ dead received =>
        obtain ⟨rest, received⟩ := received
        refine .part rfl dead ⟨rest ++ ({ queue with q := units } : PendingQueue).owed, ?_⟩
        rw [← List.append_assoc, received, List.append_assoc, all]
    · cases hands with
      | part ends dead received =>
        obtain ⟨rest, received⟩ := received
        have behind : after.received ++ (rest ++ ({ queue with q := units } : PendingQueue).owed) =
            sink.received ++ ({ queue with q := unit :: units } : PendingQueue).owed := by
          rw [← List.append_assoc, received, List.append_assoc, all]
        cases written with
        | terminated => exact .part rfl dead ⟨_, behind⟩
        | bytes => cases ends
        | nothing => cases ends
      | whole carries alive endless received =>
        have total : after.received ++ ({ queue with q := units } : PendingQueue).owed =
            sink.received ++ ({ queue with q := unit :: units } : PendingQueue).owed := by
          rw [received, all, List.append_assoc]
        have on : Releases sink { queue with q := unit :: units } ((drainUnits units after).1 == .complete)
            { queue with q := (drainUnits units after).2.1 } (drainUnits units after).2.2 := by
          cases ih alive with
          | whole carries live' endless' received' behind =>
            exact .whole carries live' (endless' ∘ endless) (received'.trans total)
              (behind.trans (List.suffix_cons ..))
          | part ends dead received' =>
            rw [total] at received'
            exact .part ends dead received'
        cases written with
        | terminated => cases carries
        | bytes => exact on
        | nothing => exact on

theorem drained_empty (units : List Pending) (sink : Sink) (complete : (drainUnits units sink).1 = .complete) :
    (drainUnits units sink).2.1 = [] := by
  induction units generalizing sink with
  | nil => rfl
  | cons unit units ih =>
    revert complete
    rw [drainUnits]
    rcases writeUnit unit sink with ⟨- | written, after⟩ <;> intro complete
    · cases complete
    · cases written with
      | terminated => cases complete
      | bytes => exact ih after complete
      | nothing => exact ih after complete

end Moqtap.Egress
