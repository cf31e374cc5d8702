import Mathlib
import Moqtap.GroupSampling

/-! What the monitor's producer reports, held until the next seal (`collect.rs` of
`moqtap-monitor`).

The calls are translated first. Behind them stands what each call does to one group of one
track: its rows and its open group together (`Collector.standing`) stay what they are, take in
one object, or begin with one, whichever call it is and whatever else the call closes. -/

namespace Moqtap.Monitor

open GroupSampling

/-! ## Rows -/

/-- Relay connections open at once. -/
def maxConnections : ℕ := 256

/-- Tracks one connection may report. -/
def maxTracksPerConnection : ℕ := 1024

/-- Groups of one track receiving objects at once. -/
def maxOpenGroups : ℕ := 4

/-- Group ids below a track's newest that are remembered. -/
abbrev recentGroups : ℕ := 64

def maxPendingGroups : ℕ := 100000

def maxPendingObjects : ℕ := 200000

def maxPendingEvents : ℕ := 10000

/-- Rows that make the monitor try an early seal against the byte seal. -/
def earlyPackRows : ℕ := 4096

def maxNamespaceFields : ℕ := 32

def maxFullNameBytes : ℕ := 4096

def maxMoqtId : ℕ := 2 ^ 62 - 1

def maxSafeInteger : ℕ := 2 ^ 53 - 1

structure TrackName where
  ns : List String
  name : String
  deriving DecidableEq, Repr

structure PendingGroup where
  conn : ℕ
  track : TrackName
  k : ℕ
  g : ℕ
  fo : ℕ
  firstUs : ℤ
  lastUs : ℤ
  objects : ℕ
  bytes : ℕ
  deriving DecidableEq, Repr

structure PendingObject where
  conn : ℕ
  track : TrackName
  k : ℕ
  g : ℕ
  o : ℕ
  bytes : ℕ
  atUs : ℤ
  deriving DecidableEq, Repr

inductive EventKind where
  | streamReset
  | requestError
  | publishDone
  deriving DecidableEq, Repr

structure PendingEvent where
  conn : ℕ
  ts : ℕ
  track : Option (TrackName × ℕ)
  e : EventKind
  code : Option ℕ
  deriving DecidableEq, Repr

/-- A connection as its `relay` record states it. -/
structure RelayInfo where
  origin : String
  draft : Option ℕ := none
  openTs : ℕ
  closeTs : Option ℕ := none
  closeCode : Option ℕ := none
  deriving DecidableEq, Repr

structure Rows where
  groups : List PendingGroup := []
  objects : List PendingObject := []
  events : List PendingEvent := []
  deriving DecidableEq, Repr

/-- The rows taken for a seal, and the connections they name. -/
structure Taken extends Rows where
  relays : ℕ → Option RelayInfo := fun _ => none

/-! ## A track -/

/-- One object the producer's MoQ library accepted. -/
structure Object where
  g : ℕ
  o : ℕ
  size : ℕ
  atUs : ℤ
  deriving DecidableEq, Repr

def Object.InRange (object : Object) : Prop :=
  (0 ≤ object.atUs ∧ object.atUs ≤ maxSafeInteger) ∧ object.g ≤ maxMoqtId ∧ object.o ≤ maxMoqtId ∧
    object.size ≤ maxSafeInteger
  deriving Decidable

structure OpenGroup where
  g : ℕ
  fo : ℕ
  k : ℕ
  firstUs : ℤ
  lastUs : ℤ
  objects : ℕ
  bytes : ℕ
  lastMs : ℚ

namespace OpenGroup

/-- A group as its first object leaves it. -/
def first (object : Object) (k : ℕ) (monoMs : ℚ) : OpenGroup where
  g := object.g
  fo := object.o
  k := k
  firstUs := object.atUs
  lastUs := object.atUs
  objects := 1
  bytes := object.size
  lastMs := monoMs

def receive (x : OpenGroup) (object : Object) (monoMs : ℚ) : OpenGroup :=
  { x with
    lastUs := max x.lastUs object.atUs
    objects := x.objects + 1
    bytes := min (x.bytes + object.size) maxSafeInteger
    lastMs := monoMs }

def row (x : OpenGroup) (conn : ℕ) (track : TrackName) : PendingGroup :=
  { x with conn, track }

end OpenGroup

structure Pair where
  track : TrackName
  k : ℕ := 0
  opened : List OpenGroup := []
  /-- The newest group id started. -/
  high : Option ℕ := none
  /-- Bit `i` is group `high - i`: started at all, and reported. -/
  started : BitVec 64 := 0
  reported : BitVec 64 := 0
  rate : Rate := .new

/-- What is known of a group that is not open. -/
inductive History where
  | new
  | started (reported : Bool)
  | old
  deriving DecidableEq, Repr

/-- What one object did to its track. -/
structure Arrived where
  pair : Pair
  closed : List OpenGroup := []
  objectRow : Option ℕ := none
  late : Bool := false

def Arrived.rows (arrived : Arrived) (conn : ℕ) (track : TrackName) : List PendingGroup :=
  arrived.closed.map (·.row conn track)

namespace Pair

def history (p : Pair) (g : ℕ) : History :=
  match p.high.filter (g ≤ ·) with
  | none => .new
  | some high =>
    if recentGroups ≤ high - g then .old
    else if p.started.getLsbD (high - g) then .started (p.reported.getLsbD (high - g))
    else .new

/-- The bits with group `g` above the newest. -/
def noteNewest (p : Pair) (g shift : ℕ) (bit : BitVec 64) : Pair :=
  if recentGroups ≤ shift then { p with high := some g, started := 1, reported := bit }
  else { p with high := some g, started := p.started <<< shift ||| 1, reported := p.reported <<< shift ||| bit }

/-- Record that group `g`, new by `history`, started. -/
def note (p : Pair) (g : ℕ) (reported : Bool) : Pair :=
  let bit := (BitVec.ofBool reported).setWidth 64
  match p.high with
  | none => p.noteNewest g recentGroups bit
  | some h =>
    if g ≤ h then
      { p with
        started := p.started ||| (1 : BitVec 64) <<< (h - g)
        reported := p.reported ||| bit <<< (h - g) }
    else p.noteNewest g (g - h) bit

/-- A new exponent applies to groups that start after it: the open ones close under the old. -/
def setK (p : Pair) (k : ℕ) : Pair × List OpenGroup := ({ p with k, opened := [] }, p.opened)

/-- The exponent follows the rate, when its window moves. -/
def settle (p : Pair) (second : ℤ) : Pair × List OpenGroup :=
  let moved := p.rate.advance second
  let p := { p with rate := moved.2 }
  if moved.1 ∧ producerK p.rate p.k ≠ p.k then p.setK (producerK p.rate p.k) else (p, [])

/-- The first object of a new group. -/
def start (p : Pair) (perObject : Bool) (object : Object) (monoMs : ℚ) : Arrived :=
  let settled := p.settle ⌊monoMs / 1000⌋
  let p := settled.1
  let keep := inSample object.g p.k
  let p := { p with rate := p.rate.add object.g }.note object.g keep
  if keep then
    let opened := p.opened ++ [.first object p.k monoMs]
    let excess := if maxOpenGroups < opened.length then 1 else 0
    { pair := { p with opened := opened.drop excess }
      closed := settled.2 ++ opened.take excess
      objectRow := if perObject then some p.k else none }
  else { pair := p, closed := settled.2 }

/-- What `object_sent` does on the object's track. -/
def arrive (p : Pair) (perObject : Bool) (object : Object) (monoMs : ℚ) : Arrived :=
  match p.opened.findIdx? (·.g = object.g) with
  | some i =>
    { pair := { p with opened := p.opened.modify i (·.receive object monoMs) }
      objectRow := if perObject then p.opened[i]?.map (·.k) else none }
  | none =>
    match p.history object.g with
    | .started reported => { pair := p, late := reported }
    | .old => { pair := p, late := true }
    | .new => p.start perObject object monoMs

/-- What `take` closes of a track's groups: all but the newest, and that one too when it is
idle or `all` is set. -/
def finish (p : Pair) (monoMs idleMs : ℚ) (all : Bool) : Pair × List OpenGroup :=
  let opened := p.opened.mergeSort fun a b => a.firstUs < b.firstUs ∨ a.firstUs = b.firstUs ∧ a.g ≤ b.g
  let keepLast := !all && opened.getLast?.any fun x => monoMs - x.lastMs < idleMs
  let n := opened.length - keepLast.toNat
  ({ p with opened := opened.drop n }, opened.take n)

def closeAll (p : Pair) : Pair × List OpenGroup := ({ p with opened := [] }, p.opened)

end Pair

/-! ## A connection -/

structure Conn where
  info : RelayInfo
  closed : Bool := false
  pairs : List Pair := []

namespace Conn

def shut (conn : Conn) (ts : ℕ) (code : Option ℕ) : Conn :=
  { conn with closed := true, info.closeTs := some ts, info.closeCode := code }

/-- Where the track's pair stands, after adding it if it is not there. The source looks it up
by a hash of the name, which finds the first of that name. -/
def pair (conn : Conn) (track : TrackName) : Option ((conn : Conn) × Fin conn.pairs.length) :=
  match conn.pairs.findFinIdx? (·.track = track) with
  | some i => some ⟨conn, i⟩
  | none =>
    if maxTracksPerConnection ≤ conn.pairs.length ∨ maxNamespaceFields < track.ns.length then none
    else if maxFullNameBytes < track.name.utf8ByteSize + (track.ns.map String.utf8ByteSize).sum then none
    else some ⟨{ conn with pairs := conn.pairs ++ [{ track }] }, ⟨conn.pairs.length, by simp⟩⟩

/-- Every pair of a connection goes through `close`, which says what it leaves and what it
closes. -/
def closing (conn : Conn) (id : ℕ) (close : Pair → Pair × List OpenGroup) : Conn × List PendingGroup :=
  ({ conn with pairs := conn.pairs.map fun p => (close p).1 },
    conn.pairs.flatMap fun p => (close p).2.map (·.row id p.track))

end Conn

/-! ## The collector -/

/-- Why a call was refused. -/
inductive Refused where
  | input
  | closed
  deriving DecidableEq, Repr

/-- What a report asks of the sealer. -/
inductive Wake where
  | no
  | «seal»
  deriving DecidableEq, Repr

/-- Connections are numbered from 0, and every one that is there is below `nextConn`. -/
structure Collector where
  perObject : Bool
  conns : ℕ → Option Conn := fun _ => none
  nextConn : ℕ := 0
  rows : Rows := {}
  dropped : ℕ := 0
  overRelayCap : ℕ := 0
  rejected : ℕ := 0
  rowsSincePack : ℕ := 0
  stopped : Bool := false

namespace Collector

variable (c : Collector)

def put (id : ℕ) (conn : Conn) : Collector := { c with conns := Function.update c.conns id (some conn) }

def openConnections : ℕ := (List.range c.nextConn).countP fun id => (c.conns id).any (!·.closed)

def connect (origin : String) (openTs : ℕ) : Option ℕ × Collector :=
  if c.stopped ∨ maxConnections ≤ c.openConnections then (none, c)
  else (some c.nextConn, { c with nextConn := c.nextConn + 1 }.put c.nextConn { info := { origin, openTs } })

def refuse {α : Type} (why : Refused) : Except Refused α × Collector :=
  (.error why, { c with rejected := c.rejected + 1 })

def wake : Wake := if earlyPackRows ≤ c.rowsSincePack then .seal else .no

def setDraft (id draft : ℕ) : Except Refused Unit × Collector :=
  if maxSafeInteger < draft then c.refuse .input
  else
    match c.conns id with
    | some conn =>
      if conn.closed then c.refuse .closed
      else (.ok (), c.put id { conn with info.draft := some draft })
    | none => c.refuse .closed

def pushGroup (r : PendingGroup) : Collector :=
  if maxPendingGroups ≤ c.rows.groups.length then { c with dropped := c.dropped + 1 }
  else { c with rows.groups := c.rows.groups ++ [r], rowsSincePack := c.rowsSincePack + 1 }

def pushGroups (rows : List PendingGroup) : Collector := rows.foldl pushGroup c

def pushObject (r : PendingObject) : Collector :=
  if maxPendingObjects ≤ c.rows.objects.length then { c with dropped := c.dropped + 1 }
  else { c with rows.objects := c.rows.objects ++ [r], rowsSincePack := c.rowsSincePack + 1 }

def pushEvent (r : PendingEvent) : Collector :=
  if maxPendingEvents ≤ c.rows.events.length then { c with dropped := c.dropped + 1 }
  else { c with rows.events := c.rows.events ++ [r] }

/-- Close a connection. A close code past 2^53 - 1 is refused, and the connection closes
without one. -/
def close (id ts : ℕ) (code : Option ℕ) : Except Refused Unit × Collector :=
  match c.conns id with
  | none => (.ok (), c)
  | some conn =>
    if conn.closed then (.ok (), c)
    else
      let valid := code.all (· ≤ maxSafeInteger)
      let closed := (conn.shut ts (code.filter fun _ => valid)).closing id Pair.closeAll
      let c := (c.put id closed.1).pushGroups closed.2
      if valid then (.ok (), c) else c.refuse .input

/-- The checks of `object_sent`, and what the object does to its connection. -/
def reception (id : ℕ) (track : TrackName) (object : Object) (monoMs : ℚ) : Except Refused (Conn × Arrived) :=
  if c.stopped then .error .closed
  else if ¬object.InRange then .error .input
  else
    match c.conns id with
    | none => .error .closed
    | some conn =>
      if conn.closed then .error .closed
      else
        match conn.pair track with
        | none => .error .input
        | some ⟨conn, i⟩ =>
          let arrived := (conn.pairs.get i).arrive c.perObject object monoMs
          .ok ({ conn with pairs := conn.pairs.set i arrived.pair }, arrived)

/-- Where the connection and the rows of an object go. -/
def received (id : ℕ) (track : TrackName) (object : Object) (conn : Conn) (arrived : Arrived) : Collector :=
  let c := { c.put id conn with dropped := c.dropped + arrived.late.toNat }
  let c := match arrived.objectRow with
    | none => c
    | some k => c.pushObject { object with conn := id, track, k, bytes := object.size }
  c.pushGroups (arrived.rows id track)

/-- One object the producer's MoQ library accepted. -/
def objectSent (id : ℕ) (track : TrackName) (object : Object) (monoMs : ℚ) : Except Refused Wake × Collector :=
  match c.reception id track object monoMs with
  | .error why => c.refuse why
  | .ok (conn, arrived) =>
    let c := c.received id track object conn arrived
    (.ok c.wake, c)

/-- A `pev` event. A `publish_done` also closes the track's open groups. -/
def event (id : ℕ) (track : Option TrackName) (e : EventKind) (code : Option ℕ) (ts : ℕ) :
    Except Refused Wake × Collector :=
  if c.stopped then c.refuse .closed
  else if code.any (maxSafeInteger < ·) then c.refuse .input
  else
    match c.conns id with
    | none => c.refuse .closed
    | some conn =>
      if conn.closed then c.refuse .closed
      else
        match track with
        | none =>
          let c := c.pushEvent { conn := id, ts, track := none, e, code }
          (.ok c.wake, c)
        | some track =>
          match conn.pair track with
          | none => c.refuse .input
          | some ⟨conn, i⟩ =>
            let p := conn.pairs.get i
            let closed := if e = .publishDone then p.closeAll else (p, [])
            let c := c.put id { conn with pairs := conn.pairs.set i closed.1 }
            let c := c.pushEvent { conn := id, ts, track := some (p.track, p.k), e, code }
            let c := c.pushGroups (closed.2.map (·.row id p.track))
            (.ok c.wake, c)

def takeRows : Taken × Collector :=
  let ids := c.rows.groups.map (·.conn) ++ c.rows.objects.map (·.conn) ++ c.rows.events.map (·.conn)
  ({ c.rows with relays := fun id => if id ∈ ids then (c.conns id).map (·.info) else none },
    { c with rows := {} })

/-- The loops of `take`: every connection with its groups that are done closed, and their rows. -/
def finish (monoMs idleMs : ℚ) (all : Bool) : Collector × List PendingGroup :=
  let closing (id : ℕ) (conn : Conn) := conn.closing id (Pair.finish · monoMs idleMs all)
  ({ c with conns := fun id => (c.conns id).map fun conn => (closing id conn).1 },
    (List.range c.nextConn).flatMap fun id => ((c.conns id).map fun conn => (closing id conn).2).getD [])

/-- Close the groups that are done and take every row for a seal. -/
def take (monoMs idleMs : ℚ) (all : Bool) : Taken × Collector :=
  let finished := c.finish monoMs idleMs all
  { finished.1.pushGroups finished.2 with rowsSincePack := 0 }.takeRows

/-- Take the rows for an early seal, leaving open groups as they are. -/
def takeEarly : Taken × Collector := { c with rowsSincePack := 0 }.takeRows

/-- Put back rows an early seal did not use, ahead of newer ones. -/
def restore (t : Rows) : Collector :=
  { c with rows :=
    { groups := t.groups ++ c.rows.groups
      objects := t.objects ++ c.rows.objects
      events := t.events ++ c.rows.events } }

/-- Forget closed connections nothing pending refers to. -/
def prune : Collector :=
  { c with conns := fun id => (c.conns id).filter fun conn => !conn.closed ||
      c.rows.groups.any (·.conn = id) || c.rows.objects.any (·.conn = id) || c.rows.events.any (·.conn = id) }

/-- Drop everything and refuse further input: the key or path was refused. -/
def stop : Collector := { c with stopped := true, conns := fun _ => none, rows := {} }

end Collector

/-! ## What a track remembers -/

/-- Bit `i` of `word` is group `high - i`, as far as the word reaches. -/
def Marks (word : BitVec 64) (high : ℕ) (marked : ℕ → Bool) : Prop :=
  ∀ i ≤ high, i < recentGroups → word.getLsbD i = marked (high - i)

section Marks

variable {word : BitVec 64} {high g shift : ℕ} {marked : ℕ → Bool}

/-- The word with its low end alone. -/
def lowest (b : Bool) : BitVec 64 := (BitVec.ofBool b).setWidth 64

theorem lowest_bit (b : Bool) (i : ℕ) : (lowest b).getLsbD i = (decide (i = 0) && b) := by
  unfold lowest
  cases i <;> cases b <;> simp

/-- The newest group rises by `shift`. -/
theorem Marks.raise (marks : Marks word high marked) (above : ∀ g, high < g → marked g = false) (rises : 0 < shift)
    (b : Bool) :
    Marks (if recentGroups ≤ shift then lowest b else word <<< shift ||| lowest b) (high + shift)
      (Function.update marked (high + shift) b) := by
  intro i below within
  have bit : (if recentGroups ≤ shift then lowest b else word <<< shift ||| lowest b).getLsbD i =
      (decide (shift ≤ i) && word.getLsbD (i - shift) || (lowest b).getLsbD i) := by
    split_ifs with far
    · rw [decide_eq_false (by omega), Bool.false_and, Bool.false_or]
    · rw [BitVec.getLsbD_or, BitVec.getLsbD_shiftLeft, decide_eq_true within, Bool.true_and]
      by_cases behind : shift ≤ i
      · simp [behind, not_lt.mpr behind]
      · simp [behind, not_le.mp behind]
  rw [bit, lowest_bit]
  by_cases lowest : i = 0
  · simp [lowest, rises.ne']
  · rw [Function.update_of_ne (by omega), decide_eq_false lowest, Bool.false_and, Bool.or_false]
    by_cases behind : shift ≤ i
    · rw [decide_eq_true behind, Bool.true_and, marks (i - shift) (by omega) (by omega)]
      congr 1
      omega
    · rw [decide_eq_false behind, Bool.false_and, above _ (by omega)]

theorem marks_first (none' : ∀ g, marked g = false) (b : Bool) :
    Marks (lowest b) high (Function.update marked high b) := by
  intro i below _
  rw [lowest_bit]
  by_cases lowest : i = 0
  · simp [lowest]
  · rw [Function.update_of_ne (by omega), none', decide_eq_false lowest, Bool.false_and]

/-- A group at or below the newest is marked, one that was not. -/
theorem Marks.set (marks : Marks word high marked) (unmarked : marked g = false) (below : g ≤ high) (b : Bool) :
    Marks (word ||| lowest b <<< (high - g)) high (Function.update marked g b) := by
  intro i within' within
  rw [BitVec.getLsbD_or, BitVec.getLsbD_shiftLeft, decide_eq_true within, Bool.true_and, lowest_bit,
    marks i within' within]
  by_cases here : i = high - g
  · subst here
    simp [Nat.sub_sub_self below, unmarked]
  · rw [Function.update_of_ne (by omega)]
    by_cases behind : i < high - g
    · simp [behind]
    · simp [show i - (high - g) ≠ 0 by omega]

/-- The newest group and the two words of bits recall `memory`, which says of every group
started whether it is reported. -/
structure Recalls (high : Option ℕ) (started reported : BitVec 64) (memory : ℕ → Option Bool) : Prop where
  newest : ∀ g, memory g ≠ none → ∃ h ∈ high, g ≤ h
  started : ∀ h ∈ high, Marks started h fun g => (memory g).isSome
  reported : ∀ h ∈ high, Marks reported h fun g => memory g = some true

section Recalls

variable {start : Option ℕ} {started reported : BitVec 64} {memory : ℕ → Option Bool}

theorem Recalls.above (recalls : Recalls start started reported memory) (above : ∀ h ∈ start, h < g) :
    memory g = none := by
  by_contra known
  obtain ⟨h, newest, below⟩ := recalls.newest g known
  exact absurd below (not_le.mpr (above h newest))

theorem isSome_update (memory : ℕ → Option Bool) (g : ℕ) (b : Bool) :
    (fun other => (Function.update memory g (some b) other).isSome) =
      Function.update (fun other => (memory other).isSome) g true := by
  funext other
  by_cases same : other = g <;> simp [same, Function.update]

theorem reported_update (memory : ℕ → Option Bool) (g : ℕ) (b : Bool) :
    (fun other => decide (Function.update memory g (some b) other = some true)) =
      Function.update (fun other => decide (memory other = some true)) g b := by
  funext other
  by_cases same : other = g <;> simp [same, Function.update]

theorem Recalls.known (recalls : Recalls start started reported memory) {b : Bool} (reaches : g ≤ high)
    (grows : ∀ h ∈ start, h ≤ high) (other : ℕ) (known : Function.update memory g (some b) other ≠ none) :
    ∃ h ∈ some high, other ≤ h := by
  refine ⟨high, rfl, ?_⟩
  by_cases same : other = g
  · exact same.le.trans reaches
  · rw [Function.update_of_ne same] at known
    obtain ⟨h, newest, below⟩ := recalls.newest other known
    exact below.trans (grows h newest)

theorem Recalls.first (recalls : Recalls none started reported memory) (b : Bool) :
    Recalls (some g) (lowest true) (lowest b) (Function.update memory g (some b)) := by
  have nothing (other : ℕ) : memory other = none := recalls.above nofun
  refine ⟨recalls.known le_rfl nofun, ?_, ?_⟩
  · rintro _ ⟨⟩
    rw [isSome_update]
    exact marks_first (fun other => by rw [nothing]; rfl) true
  · rintro _ ⟨⟩
    rw [reported_update]
    exact marks_first (fun other => by rw [nothing]; rfl) b

theorem Recalls.raise (recalls : Recalls (some high) started reported memory) (rises : high < g) (b : Bool) :
    Recalls (some g) (if recentGroups ≤ g - high then lowest true else started <<< (g - high) ||| lowest true)
      (if recentGroups ≤ g - high then lowest b else reported <<< (g - high) ||| lowest b)
      (Function.update memory g (some b)) := by
  have nothing (other : ℕ) (higher : high < other) : memory other = none := recalls.above (by simpa using higher)
  have risen : high + (g - high) = g := by omega
  refine ⟨recalls.known le_rfl (by simpa using rises.le), ?_, ?_⟩
  · rintro _ ⟨⟩
    have marks := (recalls.started high rfl).raise (fun other higher => by rw [nothing other higher]; rfl)
      (show 0 < g - high by omega) true
    rw [risen] at marks
    rwa [isSome_update]
  · rintro _ ⟨⟩
    have marks := (recalls.reported high rfl).raise (fun other higher => by rw [nothing other higher]; rfl)
      (show 0 < g - high by omega) b
    rw [risen] at marks
    rwa [reported_update]

theorem Recalls.set (recalls : Recalls (some high) started reported memory) (unstarted : memory g = none)
    (below : g ≤ high) (b : Bool) :
    Recalls (some high) (started ||| lowest true <<< (high - g)) (reported ||| lowest b <<< (high - g))
      (Function.update memory g (some b)) := by
  refine ⟨recalls.known below (by simp), ?_, ?_⟩
  · rintro _ ⟨⟩
    rw [isSome_update]
    exact (recalls.started high rfl).set (by rw [unstarted]; rfl) below true
  · rintro _ ⟨⟩
    rw [reported_update]
    exact (recalls.reported high rfl).set (by rw [unstarted]; rfl) below b

end Recalls

end Marks

namespace Pair

variable {p : Pair} {g : ℕ} {memory : ℕ → Option Bool}

def Remembers (p : Pair) (memory : ℕ → Option Bool) : Prop := Recalls p.high p.started p.reported memory

theorem remembers_new (track : TrackName) : Remembers { track } fun _ => none :=
  ⟨fun _ known => absurd rfl known, nofun, nofun⟩

/-- A group noted is remembered beside those before it. -/
theorem Remembers.note (remembers : p.Remembers memory) (unstarted : memory g = none) (reported : Bool) :
    (p.note g reported).Remembers (Function.update memory g (some reported)) := by
  have newest_eq (shift : ℕ) (bit : BitVec 64) : p.noteNewest g shift bit = { p with
      high := some g
      started := if recentGroups ≤ shift then lowest true else p.started <<< shift ||| lowest true
      reported := if recentGroups ≤ shift then bit else p.reported <<< shift ||| bit } := by
    unfold noteNewest
    split_ifs <;> rfl
  unfold Remembers at remembers
  unfold Pair.note
  cases newest : p.high with
  | none =>
    rw [newest] at remembers
    exact remembers.first reported
  | some h =>
    rw [newest] at remembers
    dsimp only
    split_ifs with below
    · unfold Remembers
      exact remembers.set unstarted below reported
    · rw [newest_eq]
      exact remembers.raise (not_le.mp below) reported

theorem history_high {high : ℕ} (newest : p.high = some high) (below : g ≤ high) :
    p.history g = if recentGroups ≤ high - g then .old
      else if p.started.getLsbD (high - g) then .started (p.reported.getLsbD (high - g)) else .new := by
  unfold history
  rw [newest, Option.filter_some, decide_eq_true below]
  rfl

/-- What the history says is so. -/
theorem Remembers.history (remembers : p.Remembers memory) (g : ℕ) :
    (p.history g = .new → memory g = none) ∧ ∀ reported, p.history g = .started reported → memory g = some reported := by
  by_cases reaches : ∃ high ∈ p.high, g ≤ high
  · obtain ⟨high, newest, below⟩ := reaches
    rw [history_high newest below]
    split_ifs with far started
    · simp
    · have said := remembers.started high newest (high - g) (Nat.sub_le ..) (not_le.mp far)
      have reported := remembers.reported high newest (high - g) (Nat.sub_le ..) (not_le.mp far)
      rw [Nat.sub_sub_self below] at said reported
      rw [said, Option.isSome_iff_exists] at started
      obtain ⟨b, stored⟩ := started
      refine ⟨nofun, fun reported' same => ?_⟩
      cases same
      rw [reported]
      dsimp only
      rw [stored]
      cases b <;> simp
    · have said := remembers.started high newest (high - g) (Nat.sub_le ..) (not_le.mp far)
      rw [Nat.sub_sub_self below] at said
      rw [said] at started
      exact ⟨fun _ => by simpa using started, nofun⟩
  · have nothing : memory g = none := by
      by_contra known
      exact reaches (remembers.newest g known)
    have fresh : p.history g = .new := by
      unfold Pair.history
      rw [Option.filter_eq_none_iff.mpr fun h newest => by simpa using fun below => reaches ⟨h, newest, below⟩]
    exact ⟨fun _ => nothing, fun reported said => by simp [fresh] at said⟩

theorem history_old (old : p.history g = .old) : ∃ high ∈ p.high, g ≤ high ∧ recentGroups ≤ high - g := by
  unfold Pair.history at old
  cases reached : p.high.filter (g ≤ ·) with
  | none => simp [reached] at old
  | some high =>
    obtain ⟨newest, below⟩ := Option.filter_eq_some_iff.mp reached
    rw [reached] at old
    dsimp only at old
    split_ifs at old with far
    exact ⟨high, newest, by simpa using below, far⟩

/-- A group too old to be recalled may be remembered as well as not. -/
theorem Remembers.age (remembers : p.Remembers memory) (old : p.history g = .old) (b : Bool) :
    p.Remembers (Function.update memory g (some b)) := by
  obtain ⟨high, newest, below, far⟩ := history_old old
  have elsewhere {h i : ℕ} (same : p.high = some h) (within : i < recentGroups) :
      Function.update memory g (some b) (h - i) = memory (h - i) := by
    cases newest.symm.trans same
    rw [Function.update_of_ne (by omega)]
  refine ⟨fun other known => ?_, fun h same i within' within => ?_, fun h same i within' within => ?_⟩
  · by_cases here : other = g
    · exact ⟨high, newest, here.le.trans below⟩
    · rw [Function.update_of_ne here] at known
      exact remembers.newest other known
  · dsimp only
    rw [elsewhere same within]
    exact remembers.started h same i within' within
  · dsimp only
    rw [elsewhere same within]
    exact remembers.reported h same i within' within

end Pair

/-! ## What one object does -/

/-- What became of an object that was accepted: counted in its group's row, left out with its
group by the sample, or behind a row that is already closed. -/
inductive Fate where
  | counted
  | leftOut
  | late
  deriving DecidableEq, Repr

def Arrived.fate (arrived : Arrived) (g : ℕ) : Fate :=
  if arrived.late then .late else if arrived.pair.opened.any (·.g = g) then .counted else .leftOut

namespace Pair

variable {p : Pair} {object : Object} {memory : ℕ → Option Bool} {perObject : Bool} {monoMs : ℚ}

/-- The exponent is one a body may declare, and the rate is that of a run of its own calls. -/
structure Sound (p : Pair) : Prop where
  k : p.k ≤ maxK
  rate : ∃ calls, p.rate = Rate.after calls

theorem sound_new (track : TrackName) : Sound { track } := ⟨Nat.zero_le _, [], rfl⟩

theorem after_step (calls : List Call) (call : Call) : (Rate.after calls).step call = .after (calls ++ [call]) := by
  unfold Rate.after
  rw [List.foldl_append]
  rfl

/-- What closes with a change of exponent is every open group. -/
theorem settle_spec (p : Pair) (second : ℤ) :
    (p.settle second).2 ++ (p.settle second).1.opened = p.opened ∧ (p.settle second).1.track = p.track ∧
      (p.settle second).1.high = p.high ∧ (p.settle second).1.started = p.started ∧
      (p.settle second).1.reported = p.reported := by
  unfold settle setK
  dsimp only
  split_ifs
  · exact ⟨List.append_nil _, rfl, rfl, rfl, rfl⟩
  · exact ⟨rfl, rfl, rfl, rfl, rfl⟩

theorem Sound.settle (sound : p.Sound) (second : ℤ) : (p.settle second).1.Sound := by
  obtain ⟨calls, rate⟩ := sound.rate
  have moved : (p.rate.advance second).2 = Rate.after (calls ++ [.advance second]) := by
    rw [rate]
    exact after_step calls (.advance second)
  unfold Pair.settle setK
  dsimp only
  split_ifs
  · refine ⟨?_, _, moved⟩
    dsimp only
    rw [moved]
    exact (producerK_keeps (after_small _) sound.k).1
  · exact ⟨sound.k, _, moved⟩

theorem note_fields (p : Pair) (g : ℕ) (reported : Bool) :
    (p.note g reported).track = p.track ∧ (p.note g reported).k = p.k ∧ (p.note g reported).opened = p.opened ∧
      (p.note g reported).rate = p.rate := by
  unfold note noteNewest
  split
  · split_ifs <;> exact ⟨rfl, rfl, rfl, rfl⟩
  · split_ifs <;> exact ⟨rfl, rfl, rfl, rfl⟩

/-- What the first object of a group does: the groups closed and those open are the ones that
were open, with the new one behind them if it is in the sample. -/
structure Starts (p : Pair) (perObject : Bool) (object : Object) (monoMs : ℚ) (arrived : Arrived) : Prop where
  track : arrived.pair.track = p.track
  sound : p.Sound → arrived.pair.Sound
  remembers : ∀ memory, p.Remembers memory → memory object.g = none → arrived.pair.Remembers
    (Function.update memory object.g (some (inSample object.g arrived.pair.k)))
  groups : arrived.closed ++ arrived.pair.opened = p.opened ++
    if inSample object.g arrived.pair.k then [.first object arrived.pair.k monoMs] else []
  stays : inSample object.g arrived.pair.k → .first object arrived.pair.k monoMs ∈ arrived.pair.opened
  row : arrived.objectRow = if perObject ∧ inSample object.g arrived.pair.k then some arrived.pair.k else none
  late : arrived.late = false

theorem start_starts (p : Pair) (perObject : Bool) (object : Object) (monoMs : ℚ) :
    Starts p perObject object monoMs (p.start perObject object monoMs) := by
  obtain ⟨groups, track, high, started, reported⟩ := settle_spec p ⌊monoMs / 1000⌋
  have settled := fun sound : p.Sound => sound.settle ⌊monoMs / 1000⌋
  unfold start
  dsimp only
  generalize p.settle ⌊monoMs / 1000⌋ = s at groups track high started reported settled ⊢
  generalize kept : inSample object.g s.1.k = keep
  obtain ⟨track', k', opened', rate'⟩ :=
    note_fields { s.1 with rate := s.1.rate.add object.g } object.g keep
  have remembered (memory : ℕ → Option Bool) (remembers : p.Remembers memory) (unstarted : memory object.g = none) :
      ({ s.1 with rate := s.1.rate.add object.g }.note object.g keep).Remembers
        (Function.update memory object.g (some keep)) := by
    refine Remembers.note ?_ unstarted keep
    unfold Remembers
    rw [high, started, reported]
    exact remembers
  have sound (pair : p.Sound) : ({ s.1 with rate := s.1.rate.add object.g }.note object.g keep).Sound := by
    obtain ⟨calls, rate⟩ := (settled pair).rate
    refine ⟨k'.trans_le (settled pair).k, calls ++ [.add object.g], ?_⟩
    rw [rate', rate]
    exact after_step calls (.add object.g)
  generalize { s.1 with rate := s.1.rate.add object.g }.note object.g keep = q at *
  cases keep with
  | false =>
    rw [if_neg Bool.false_ne_true]
    have out : inSample object.g q.k = false := by rw [k', kept]
    refine ⟨track'.trans track, sound, fun memory remembers unstarted => ?_, ?_, ?_, ?_, rfl⟩
    · dsimp only
      rw [out]
      exact remembered memory remembers unstarted
    · simp [out, opened', groups]
    · simp [out]
    · simp [out]
  | true =>
    rw [if_pos rfl]
    have kept : inSample object.g q.k = true := by rw [k', kept]
    refine ⟨track'.trans track, fun pair => ⟨(sound pair).k, (sound pair).rate⟩,
      fun memory remembers unstarted => ?_, ?_, fun _ => ?_, ?_, rfl⟩
    · dsimp only
      rw [kept]
      exact remembered memory remembers unstarted
    · dsimp only
      rw [if_pos kept, List.append_assoc, List.take_append_drop, opened', ← List.append_assoc, groups]
    · dsimp only
      split_ifs with crowded
      · rw [List.drop_append_of_le_length (by simp [maxOpenGroups] at crowded; omega)]
        exact List.mem_append_right _ (List.mem_singleton.mpr rfl)
      · simp
    · simp [kept]

/-- Where an object meets its group open, and where it does not. -/
theorem arrive_cases (p : Pair) (perObject : Bool) (object : Object) (monoMs : ℚ) :
    (∃ before x after, p.opened = before ++ x :: after ∧ x.g = object.g ∧ p.arrive perObject object monoMs =
      { pair := { p with opened := before ++ x.receive object monoMs :: after }
        objectRow := if perObject then some x.k else none }) ∨
    (∀ x ∈ p.opened, x.g ≠ object.g) ∧
      ((p.history object.g = .new ∧ p.arrive perObject object monoMs = p.start perObject object monoMs) ∨
        p.history object.g = .started false ∧ p.arrive perObject object monoMs = { pair := p } ∨
        (p.history object.g = .started true ∨ p.history object.g = .old) ∧
          p.arrive perObject object monoMs = { pair := p, late := true }) := by
  unfold arrive
  cases found : p.opened.findIdx? (·.g = object.g) with
  | some i =>
    obtain ⟨within, here, -⟩ := List.findIdx?_eq_some_iff_getElem.mp found
    have split : p.opened = p.opened.take i ++ p.opened[i] :: p.opened.drop (i + 1) := by
      rw [List.cons_getElem_drop_succ, List.take_append_drop]
    refine .inl ⟨_, _, _, split, by simpa using here, ?_⟩
    dsimp only
    rw [List.modify_eq_take_cons_drop within, List.getElem?_eq_getElem within]
    rfl
  | none =>
    have elsewhere : ∀ x ∈ p.opened, x.g ≠ object.g := by simpa using found
    refine .inr ⟨elsewhere, ?_⟩
    dsimp only
    cases p.history object.g with
    | new => exact .inl ⟨rfl, rfl⟩
    | old => exact .inr (.inr ⟨.inr rfl, rfl⟩)
    | started reported =>
      cases reported with
      | false => exact .inr (.inl ⟨rfl, rfl⟩)
      | true => exact .inr (.inr ⟨.inl rfl, rfl⟩)

def openAt (p : Pair) (g : ℕ) : List OpenGroup := p.opened.filter (·.g = g)

/-- The new group is open, if it is in the sample, and none of its number is closed. -/
theorem Starts.begun {arrived : Arrived} (starts : Starts p perObject object monoMs arrived)
    (elsewhere : p.openAt object.g = []) :
    arrived.closed.filter (·.g = object.g) = [] ∧ arrived.pair.openAt object.g =
      (if inSample object.g arrived.pair.k then [.first object arrived.pair.k monoMs] else []) ∧
      arrived.fate object.g = if inSample object.g arrived.pair.k then .counted else .leftOut := by
  have groups := congrArg (List.filter (·.g = object.g)) starts.groups
  unfold Pair.openAt at elsewhere ⊢
  rw [List.filter_append, List.filter_append, elsewhere, List.nil_append] at groups
  unfold Arrived.fate
  rw [starts.late, if_neg Bool.false_ne_true]
  split_ifs at groups ⊢ with kept open' open'
  · have new := starts.stays kept
    rw [List.filter_cons_of_pos (by simp [OpenGroup.first]), List.filter_nil] at groups
    rcases List.append_eq_singleton_iff.mp groups with ⟨closed, opened⟩ | ⟨closed, opened⟩
    · exact ⟨closed, opened, rfl⟩
    · have gone := List.filter_eq_nil_iff.mp opened _ new
      simp [OpenGroup.first] at gone
  · exact absurd (List.any_eq_true.mpr ⟨_, starts.stays kept, by simp [OpenGroup.first]⟩) open'
  · obtain ⟨-, opened⟩ := List.append_eq_nil_iff.mp groups
    rw [List.filter_eq_nil_iff] at opened
    obtain ⟨x, member, here⟩ := List.any_eq_true.mp open'
    exact absurd here (opened x member)
  · exact ⟨(List.append_eq_nil_iff.mp groups).1, (List.append_eq_nil_iff.mp groups).2, rfl⟩

/-- Every object counted has a row of its own, where there are such rows. -/
theorem arrive_row (p : Pair) (perObject : Bool) (object : Object) (monoMs : ℚ) :
    (p.arrive perObject object monoMs).objectRow.isSome =
      (perObject && (p.arrive perObject object monoMs).fate object.g = .counted) := by
  rcases p.arrive_cases perObject object monoMs with
    ⟨before, x, after, -, here, said⟩ | ⟨elsewhere, ⟨-, said⟩ | ⟨-, said⟩ | ⟨-, said⟩⟩
  · rw [said]
    cases perObject <;> simp [Arrived.fate, OpenGroup.receive, here]
  · have starts := p.start_starts perObject object monoMs
    rw [said, starts.row, (starts.begun (List.filter_eq_nil_iff.mpr (by simpa using elsewhere))).2.2]
    generalize (p.start perObject object monoMs).pair.k = k
    cases perObject <;> cases inSample object.g k <;> simp
  · rw [said]
    have nowhere : p.opened.any (·.g = object.g) = false := by simpa using elsewhere
    simp [Arrived.fate, nowhere]
  · rw [said]
    simp [Arrived.fate]

end Pair

/-! ## One group of one track -/

/-- A row says of the objects it counts which came first, how many there were and how much, and
up to when. -/
structure Reports (row : PendingGroup) (counted : List Object) : Prop where
  first : ∃ first ∈ counted.head?, row.fo = first.o ∧ row.firstUs = first.atUs
  last : (∃ object ∈ counted, row.lastUs = object.atUs) ∧ ∀ object ∈ counted, object.atUs ≤ row.lastUs
  objects : row.objects = counted.length
  bytes : row.bytes = min (counted.map (·.size)).sum maxSafeInteger
  sampled : row.k ≤ maxK ∧ inSample row.g row.k = true

namespace Reports

variable {x : OpenGroup} {conn : ℕ} {track : TrackName} {object : Object} {counted : List Object} {monoMs : ℚ}

theorem of_first {k : ℕ} (fits : object.size ≤ maxSafeInteger) (within : k ≤ maxK)
    (kept : inSample object.g k = true) : Reports ((OpenGroup.first object k monoMs).row conn track) [object] where
  first := ⟨object, rfl, rfl, rfl⟩
  last := by simp [OpenGroup.first, OpenGroup.row]
  objects := rfl
  bytes := by simpa [OpenGroup.first, OpenGroup.row] using fits
  sampled := ⟨within, kept⟩

theorem receive (reports : Reports (x.row conn track) counted) :
    Reports ((x.receive object monoMs).row conn track) (counted ++ [object]) where
  first := by
    obtain ⟨first, head, said⟩ := reports.first
    refine ⟨first, ?_, said⟩
    rw [List.head?_append, Option.mem_def.mp head]
    rfl
  last := by
    obtain ⟨⟨latest, member, said⟩, bound⟩ := reports.last
    change (∃ o ∈ counted ++ [object], max x.lastUs object.atUs = o.atUs) ∧
      ∀ o ∈ counted ++ [object], o.atUs ≤ max x.lastUs object.atUs
    change x.lastUs = latest.atUs at said
    refine ⟨?_, fun o member => ?_⟩
    · rcases max_choice x.lastUs object.atUs with kept | moved
      · exact ⟨latest, List.mem_append_left _ member, kept.trans said⟩
      · exact ⟨object, List.mem_append_right _ (List.mem_singleton.mpr rfl), moved⟩
    · rcases List.mem_append.mp member with earlier | here
      · exact (bound o earlier).trans (le_max_left ..)
      · rw [List.mem_singleton.mp here]
        exact le_max_right ..
  objects := by
    rw [List.length_append, ← reports.objects]
    rfl
  bytes := by
    have before := reports.bytes
    change x.bytes = _ at before
    change min (x.bytes + object.size) maxSafeInteger = _
    rw [before, List.map_append, List.sum_append, List.map_singleton, List.sum_singleton]
    omega
  sampled := reports.sampled

end Reports

def PendingGroup.key (row : PendingGroup) : ℕ × TrackName × ℕ := (row.conn, row.track, row.g)

/-- Where one group stands: what is remembered of it, the rows made of it, it itself while it is
open, and the objects of it that were accepted with what became of them. -/
inductive Standing (conn : ℕ) (track : TrackName) (g : ℕ) :
    Option Bool → List PendingGroup → List OpenGroup → List (Object × Fate) → Prop
  | unstarted : Standing conn track g none [] [] []
  | passed {log : List (Object × Fate)} (left : ∀ entry ∈ log, entry.2 ≠ .counted) :
      Standing conn track g (some false) [] [] log
  | opened {x : OpenGroup} {counted : List Object} (here : x.g = g) (reports : Reports (x.row conn track) counted) :
      Standing conn track g (some true) [] [x] (counted.map (·, .counted))
  | reported {row : PendingGroup} {counted : List Object} {late : List (Object × Fate)}
      (here : row.key = (conn, track, g)) (reports : Reports row counted) (missed : ∀ entry ∈ late, entry.2 = .late) :
      Standing conn track g (some true) [row] [] (counted.map (·, .counted) ++ late)

namespace Standing

variable {conn : ℕ} {track : TrackName} {g : ℕ} {known : Option Bool} {rows rows' : List PendingGroup}
  {opened opened' closed : List OpenGroup} {log : List (Object × Fate)}

theorem perm (standing : Standing conn track g known rows opened log) (same : rows'.Perm rows) :
    Standing conn track g known rows' opened log := by
  cases standing with
  | unstarted =>
    rw [same.eq_nil]
    exact .unstarted
  | passed left =>
    rw [same.eq_nil]
    exact .passed left
  | opened here reports =>
    rw [same.eq_nil]
    exact .opened here reports
  | reported here reports missed =>
    rw [List.perm_singleton.mp same]
    exact .reported here reports missed

/-- What was open is closed, or is still open. -/
theorem close (standing : Standing conn track g known rows opened log) (split : (closed ++ opened').Perm opened) :
    Standing conn track g known (rows ++ closed.map (·.row conn track)) opened' log := by
  have none' (empty : opened = []) : rows ++ closed.map (·.row conn track) = rows ∧ opened' = [] := by
    rw [empty] at split
    obtain ⟨rfl, rfl⟩ := List.append_eq_nil_iff.mp split.eq_nil
    simp
  cases standing with
  | unstarted =>
    obtain ⟨same, rfl⟩ := none' rfl
    rw [same]
    exact .unstarted
  | passed left =>
    obtain ⟨same, rfl⟩ := none' rfl
    rw [same]
    exact .passed left
  | reported here reports missed =>
    obtain ⟨same, rfl⟩ := none' rfl
    rw [same]
    exact .reported here reports missed
  | @opened x counted here reports =>
    rcases List.append_eq_singleton_iff.mp (List.perm_singleton.mp split) with ⟨rfl, rfl⟩ | ⟨rfl, rfl⟩
    · exact .opened here reports
    · rw [← List.append_nil (counted.map _)]
      exact .reported (by rw [← here]; rfl) reports nofun

/-- A group no object of which is known begins with one, or is left out with it. -/
theorem begins (standing : Standing conn track g none rows opened log) :
    rows = [] ∧ opened = [] ∧ log = [] := by
  cases standing
  exact ⟨rfl, rfl, rfl⟩

/-- An open group takes in one more object. -/
theorem receives {x : OpenGroup} (standing : Standing conn track g known rows [x] log) (object : Object) (monoMs : ℚ) :
    Standing conn track g known rows [x.receive object monoMs] (log ++ [(object, .counted)]) := by
  cases standing with
  | @opened _ counted here reports =>
    have behind : Standing conn track g (some true) [] [x.receive object monoMs]
        ((counted ++ [object]).map (·, .counted)) := .opened here reports.receive
    rwa [List.map_append] at behind

/-- An object of a group that is not open, and is remembered, is not counted. -/
theorem misses {fate : Fate} (standing : Standing conn track g known rows [] log) {reported : Bool}
    (remembered : known = some reported) (missed : if reported then fate = .late else fate ≠ .counted) (object : Object) :
    Standing conn track g known rows [] (log ++ [(object, fate)]) := by
  cases standing with
  | unstarted => cases remembered
  | passed left =>
    cases remembered
    refine .passed fun entry member => ?_
    rcases List.mem_append.mp member with earlier | here
    · exact left entry earlier
    · rw [List.mem_singleton.mp here]
      simpa using missed
  | @reported row counted late here reports behind =>
    cases remembered
    rw [List.append_assoc]
    refine .reported here reports fun entry member => ?_
    rcases List.mem_append.mp member with earlier | here
    · exact behind entry earlier
    · rw [List.mem_singleton.mp here]
      simpa using missed

end Standing

/-! ## The groups of one track -/

/-- Where every group of a track stands, by its rows and the objects accepted of it. -/
structure Stands (conn : ℕ) (p : Pair) (memory : ℕ → Option Bool) (rows : ℕ → List PendingGroup)
    (log : ℕ → List (Object × Fate)) : Prop where
  sound : p.Sound
  remembers : p.Remembers memory
  groups : ∀ g, Standing conn p.track g (memory g) (rows g) (p.openAt g) (log g)

namespace Stands

variable {conn : ℕ} {p q : Pair} {memory : ℕ → Option Bool} {rows : ℕ → List PendingGroup}
  {log : ℕ → List (Object × Fate)} {closed : List OpenGroup} {object : Object}

/-- Open groups of a track are closed and others stay. -/
theorem close (stands : Stands conn p memory rows log) (split : (closed ++ q.opened).Perm p.opened)
    (same : { p with opened := q.opened } = q) :
    Stands conn q memory (fun g => rows g ++ (closed.filter (·.g = g)).map (·.row conn p.track)) log := by
  have track : q.track = p.track := by rw [← same]
  refine ⟨?_, ?_, fun g => ?_⟩
  · rw [← same]
    exact ⟨stands.sound.k, stands.sound.rate⟩
  · rw [← same]
    exact stands.remembers
  · rw [track]
    refine (stands.groups g).close ?_
    unfold Pair.openAt
    rw [← List.filter_append]
    exact split.filter _

theorem opens {x : OpenGroup} (stands : Stands conn p memory rows log) (found : x ∈ p.opened) : p.openAt x.g = [x] := by
  have member : x ∈ p.openAt x.g := List.mem_filter.mpr ⟨found, by simp⟩
  have standing := stands.groups x.g
  generalize p.openAt x.g = here, memory x.g = known, log x.g = objects, rows x.g = made at member standing
  cases standing with
  | unstarted => cases member
  | passed => cases member
  | reported => cases member
  | opened => rw [List.mem_singleton.mp member]

/-- An object of an open group. -/
theorem receives {x : OpenGroup} {before after : List OpenGroup} (stands : Stands conn p memory rows log)
    (found : p.opened = before ++ x :: after) (here : x.g = object.g) (monoMs : ℚ) :
    Stands conn { p with opened := before ++ x.receive object monoMs :: after } memory rows
      (fun g => log g ++ if g = object.g then [(object, .counted)] else []) := by
  have only := stands.opens (x := x) (by simp [found])
  refine ⟨⟨stands.sound.k, stands.sound.rate⟩, stands.remembers, fun g => ?_⟩
  have standing := stands.groups g
  unfold Pair.openAt at only standing ⊢
  rw [found, List.filter_append, List.filter_cons] at standing only
  rw [List.filter_append, List.filter_cons]
  by_cases same : g = object.g
  · rw [same, ← here] at standing ⊢
    rw [if_pos (by simp)] at standing only
    rw [if_pos (by simp [OpenGroup.receive]), if_pos rfl]
    obtain ⟨before', after'⟩ : before.filter (·.g = x.g) = [] ∧ after.filter (·.g = x.g) = [] := by
      simpa [List.append_eq_singleton_iff] using only
    rw [before', after'] at standing ⊢
    exact standing.receives object monoMs
  · rw [if_neg (by simpa [here] using Ne.symm same)] at standing
    rw [if_neg (by simpa [OpenGroup.receive, here] using Ne.symm same), if_neg same, List.append_nil]
    exact standing

/-- An object that changes nothing of its track. -/
theorem misses (stands : Stands conn p memory rows log) (elsewhere : ∀ x ∈ p.opened, x.g ≠ object.g) {reported : Bool}
    (remembered : memory object.g = some reported) {fate : Fate}
    (missed : if reported then fate = .late else fate ≠ .counted) :
    Stands conn p memory rows (fun g => log g ++ if g = object.g then [(object, fate)] else []) := by
  refine ⟨stands.sound, stands.remembers, fun g => ?_⟩
  have standing := stands.groups g
  split_ifs with same
  · have none' : p.openAt g = [] := List.filter_eq_nil_iff.mpr (by simpa [same] using elsewhere)
    rw [none'] at standing ⊢
    exact standing.misses (same ▸ remembered) missed object
  · rwa [List.append_nil]

/-- An object of a group too old for the track to know. -/
theorem ages (stands : Stands conn p memory rows log) (old : p.history object.g = .old) :
    ∃ memory', (memory' object.g).isSome ∧ Stands conn p memory' rows log := by
  cases known : memory object.g with
  | some reported => exact ⟨memory, by rw [known]; rfl, stands⟩
  | none =>
    refine ⟨Function.update memory object.g (some false), by simp, stands.sound, stands.remembers.age old false,
      fun g => ?_⟩
    by_cases same : g = object.g
    · have standing := stands.groups g
      rw [same, known] at standing
      obtain ⟨rows', opened', log'⟩ := standing.begins
      rw [same, Function.update_self, rows', opened', log']
      exact .passed nofun
    · rw [Function.update_of_ne same]
      exact stands.groups g

/-- The first object of a group. -/
theorem starts {arrived : Arrived} {perObject : Bool} {monoMs : ℚ} (stands : Stands conn p memory rows log)
    (inRange : object.InRange) (fresh : memory object.g = none)
    (starts : Pair.Starts p perObject object monoMs arrived) :
    Stands conn arrived.pair (Function.update memory object.g (some (inSample object.g arrived.pair.k)))
      (fun g => rows g ++ (arrived.closed.filter (·.g = g)).map (·.row conn p.track))
      (fun g => log g ++ if g = object.g then [(object, arrived.fate object.g)] else []) := by
  have sound := starts.sound stands.sound
  refine ⟨sound, starts.remembers memory stands.remembers fresh, fun g => ?_⟩
  have standing := stands.groups g
  rw [starts.track]
  by_cases same : g = object.g
  · rw [same, fresh] at standing
    obtain ⟨rows', opened', log'⟩ := standing.begins
    obtain ⟨closed, opened, fate⟩ := starts.begun opened'
    rw [same, Function.update_self, rows', log', if_pos rfl, closed, opened, fate]
    cases kept : inSample object.g arrived.pair.k with
    | true => exact .opened rfl (.of_first inRange.2.2.2 sound.k kept)
    | false => exact .passed (by simp)
  · have groups := congrArg (List.filter (·.g = g)) starts.groups
    rw [List.filter_append, List.filter_append] at groups
    have others : (if inSample object.g arrived.pair.k = true then
        [OpenGroup.first object arrived.pair.k monoMs] else []).filter (·.g = g) = [] := by
      split_ifs
      · simpa [OpenGroup.first] using Ne.symm same
      · rfl
    rw [others, List.append_nil] at groups
    rw [Function.update_of_ne same, if_neg same, List.append_nil]
    exact standing.close (.of_eq groups)

/-- **One object of a track**: its own group takes it in, begins with it, leaves it out or is
too far gone; the others are closed or stay as they are. -/
theorem arrive (stands : Stands conn p memory rows log) (inRange : object.InRange) (perObject : Bool) (monoMs : ℚ) :
    let arrived := p.arrive perObject object monoMs
    ∃ memory', arrived.pair.track = p.track ∧ Stands conn arrived.pair memory'
      (fun g => rows g ++ (arrived.closed.filter (·.g = g)).map (·.row conn p.track))
      fun g => log g ++ if g = object.g then [(object, arrived.fate object.g)] else [] := by
  rcases p.arrive_cases perObject object monoMs with
    ⟨before, x, after, found, here, said⟩ | ⟨elsewhere, cases⟩
  · rw [said]
    dsimp only
    have fate : ({ pair := { p with opened := before ++ x.receive object monoMs :: after }
                   objectRow := if perObject then some x.k else none } : Arrived).fate object.g = .counted := by
      simp [Arrived.fate, OpenGroup.receive, here]
    rw [fate]
    refine ⟨memory, rfl, ?_⟩
    simpa using stands.receives found here monoMs
  rcases cases with ⟨fresh, said⟩ | ⟨out, said⟩ | ⟨gone, said⟩
  · have starts := p.start_starts perObject object monoMs
    rw [← said] at starts
    exact ⟨_, starts.track, stands.starts inRange ((stands.remembers.history _).1 fresh) starts⟩
  · rw [said]
    have nowhere : p.opened.any (·.g = object.g) = false := by simpa using elsewhere
    have fate : ({ pair := p } : Arrived).fate object.g = .leftOut := by simp [Arrived.fate, nowhere]
    refine ⟨memory, rfl, ?_⟩
    simpa [fate] using stands.misses elsewhere ((stands.remembers.history _).2 _ out) 
      (show if false then Fate.leftOut = .late else Fate.leftOut ≠ .counted by simp)
  · rw [said]
    have fate : ({ pair := p, late := true } : Arrived).fate object.g = .late := rfl
    have late (reported : Bool) : if reported then Fate.late = .late else Fate.late ≠ .counted := by
      cases reported <;> simp
    rcases gone with started | old
    · refine ⟨memory, rfl, ?_⟩
      simpa [fate] using stands.misses elsewhere ((stands.remembers.history _).2 _ started) (late _)
    · obtain ⟨memory', known, aged⟩ := stands.ages old
      obtain ⟨reported, known⟩ := Option.isSome_iff_exists.mp known
      refine ⟨memory', rfl, ?_⟩
      simpa [fate] using aged.misses elsewhere known (late _)

end Stands

end Moqtap.Monitor
