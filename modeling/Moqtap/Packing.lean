import Mathlib
import Moqtap.CollectorCalls
import Moqtap.RelayCount

/-! Rows to bodies (`pack.rs` of `moqtap-monitor`).

Rows are chunked into units, and units fill bodies one after the other. `Dict.Declares` says
what a body's declarations are of the rows it holds; `Filling.Filled` is the invariant of the
loop, and one iteration keeps it (`Filled.step`) while it brings the loop nearer to its end
(`step_weight`). What no body can carry is dropped, and that is a single row the edge would
refuse even alone. -/

namespace Moqtap.Packing

open Monitor

/-- Rows one `grp` or `obj` record may hold. -/
def maxColumnRows : ℕ := 512

def maxBodyTracks : ℕ := 256

def maxBodyRelays : ℕ := 32

def maxBodyGroupRows : ℕ := 50000

/-- The byte seal: a body is sealed before its gzipped frames pass this. -/
def sealBytes : ℕ := 32 * 1024

/-- The ingest edge refuses a body larger than this, preamble included. -/
def edgeCapBytes : ℕ := 96 * 1024

def maxRelayC : ℕ := 255

def maxTrackId : ℕ := 65535

def preambleBytes : ℕ := 8

/-- Gzip never grows frames by more than this, so smaller frames need no trial. -/
def gzipSlack : ℕ := 256

/-! ## A body -/

/-- The device's clock against the server's, as a body was sealed. -/
structure Clock where
  o : ℚ
  r : ℚ
  n : ℕ
  a : ℚ
  deriving DecidableEq

/-- The batch fields every body of one seal shares. -/
structure HeadFields where
  source : String
  instanceId : String
  ts : ℕ
  wall : ℕ
  lost : List ℕ
  dropped : ℕ
  clock : Option Clock
  monitorName : String
  monitorVersion : String
  deriving DecidableEq

structure Head extends HeadFields where
  perObject : Bool
  seq : ℕ
  isFinal : Bool
  deriving DecidableEq

structure RelayRec where
  c : ℕ
  relay : String
  draft : Option ℕ := none
  openTs : Option ℕ := none
  closeTs : Option ℕ := none
  closeCode : Option ℕ := none
  deriving DecidableEq

structure TrackRec where
  id : ℕ
  ns : List String
  name : String
  k : ℕ
  deriving DecidableEq

/-- One `grp` row. Times are device wall µs. -/
structure GrpRow where
  c : ℕ
  tr : ℕ
  g : ℕ
  fo : ℕ
  sendUs : ℤ
  spanUs : ℤ
  objects : ℕ
  bytes : ℕ
  deriving DecidableEq

/-- One `obj` row. -/
structure ObjRow where
  c : ℕ
  tr : ℕ
  g : ℕ
  o : ℕ
  bytes : ℕ
  sendUs : ℤ
  deriving DecidableEq

structure PevRec where
  ts : ℕ
  c : ℕ
  tr : Option ℕ
  e : EventKind
  code : Option ℕ
  deriving DecidableEq

/-- A columnar record, in body order. -/
inductive DataRec where
  | grp (rows : List GrpRow)
  | obj (rows : List ObjRow)
  deriving DecidableEq

/-- Everything one body holds. -/
structure BodySpec where
  head : Head
  relays : List RelayRec
  tracks : List TrackRec
  data : List DataRec
  events : List PevRec
  «end» : Option String
  deriving DecidableEq

/-- How a body becomes bytes: the frames of its records, their compression, and the key a body
is posted under. -/
structure Coding where
  frames : BodySpec → List UInt8
  gzip : List UInt8 → List UInt8
  idempotencyKey : String → String → ℕ → String

structure Sealed where
  seq : ℕ
  idempotencyKey : String
  body : List UInt8
  origins : List String

inductive Mode where
  | early
  | all
  | final
  deriving DecidableEq

/-! ## Units and what they name -/

/-- A row's connection, and its track with the track's `k`. -/
abbrev Ref := ℕ × Option (TrackName × ℕ)

inductive Unit where
  | grp (rows : List PendingGroup)
  | obj (rows : List PendingObject)
  | pev (rows : List PendingEvent)
  deriving DecidableEq

namespace Unit

def rows : Unit → Rows
  | grp r => { groups := r }
  | obj r => { objects := r }
  | pev r => { events := r }

def len : Unit → ℕ
  | grp r => r.length
  | obj r => r.length
  | pev r => r.length

def half {α : Type} (rows : List α) : List α × List α := rows.splitAt (rows.length / 2)

def split : Unit → Unit × Unit
  | grp r => (grp (half r).1, grp (half r).2)
  | obj r => (obj (half r).1, obj (half r).2)
  | pev r => (pev (half r).1, pev (half r).2)

/-- The connection, track and `k` each row names. -/
def refs : Unit → List Ref
  | grp r => r.map fun x => (x.conn, some (x.track, x.k))
  | obj r => r.map fun x => (x.conn, some (x.track, x.k))
  | pev r => r.map fun x => (x.conn, x.track)

def groupRows : Unit → ℕ
  | grp r => r.length
  | _ => 0

end Unit

/-- The declarations of one body: relays by connection, tracks by name with their one `k`. The
source keeps an index of the tracks by name beside them. -/
structure Dict where
  relays : List ℕ := []
  tracks : List (TrackName × ℕ) := []
  groupRows : ℕ := 0
  deriving DecidableEq

namespace Dict

/-- What one row needs; nothing when that would give a track a second `k`. -/
def admitOne (dict : Dict) (ref : Ref) : Option Dict :=
  let dict := if ref.1 ∈ dict.relays then dict else { dict with relays := dict.relays ++ [ref.1] }
  match ref.2 with
  | none => some dict
  | some (name, k) =>
    match dict.tracks.lookup name with
    | some kept => if kept ≠ k then none else some dict
    | none => some { dict with tracks := dict.tracks ++ [(name, k)] }

def Fits (dict : Dict) : Prop :=
  dict.relays.length ≤ min maxBodyRelays (maxRelayC + 1) ∧ dict.tracks.length ≤ min maxBodyTracks maxTrackId ∧
    dict.groupRows ≤ maxBodyGroupRows
  deriving Decidable

/-- Add what `refs` need; nothing when that would break a cap or give a track a second `k`. -/
def admitRefs (dict : Dict) (refs : List Ref) (groupRows : ℕ) : Option Dict := do
  let next ← refs.foldlM admitOne dict
  let next := { next with groupRows := next.groupRows + groupRows }
  if next.Fits then some next else none

end Dict

/-! ## The records of a body -/

section Encode

variable (relays : ℕ → Option RelayInfo) (dict : Dict)

def cOf (conn : ℕ) : ℕ := (dict.relays.findIdx? (· = conn)).getD 0

def trOf (name : TrackName) : ℕ := ((dict.tracks.findIdx? (·.1 = name)).map (· + 1)).getD 1

def relayRec (c id : ℕ) : RelayRec :=
  match relays id with
  | some r => { r with c, relay := r.origin, openTs := some r.openTs }
  | none => { c, relay := "" }

def trackRec (i : ℕ) (track : TrackName × ℕ) : TrackRec :=
  { id := i + 1, ns := track.1.ns, name := track.1.name, k := track.2 }

def grpRow (r : PendingGroup) : GrpRow where
  c := cOf dict r.conn
  tr := trOf dict r.track
  g := r.g
  fo := r.fo
  sendUs := r.firstUs
  spanUs := max 0 (min (r.lastUs - r.firstUs) maxSafeInteger)
  objects := r.objects
  bytes := r.bytes

def objRow (r : PendingObject) : ObjRow where
  c := cOf dict r.conn
  tr := trOf dict r.track
  g := r.g
  o := r.o
  bytes := r.bytes
  sendUs := r.atUs

def pevRec (r : PendingEvent) : PevRec where
  ts := r.ts
  c := cOf dict r.conn
  tr := r.track.map fun track => trOf dict track.1
  e := r.e
  code := r.code

/-- The records of one body. -/
def encode (units : List Unit) (head : HeadFields) (seq : ℕ) (isFinal : Bool) : BodySpec where
  head := { head with
    perObject := units.any fun
      | .obj _ => true
      | _ => false
    seq, isFinal }
  relays := dict.relays.mapIdx (relayRec relays)
  tracks := dict.tracks.mapIdx trackRec
  data := (units.filterMap fun
      | .grp rows => some (.grp (rows.map (grpRow dict)))
      | _ => none) ++
    units.filterMap fun
      | .obj rows => some (.obj (rows.map (objRow dict)))
      | _ => none
  events := units.flatMap fun
    | .pev rows => rows.map (pevRec dict)
    | _ => []
  «end» := if isFinal then some "shutdown" else none

end Encode

/-! ## Chunks -/

structure Chunks (α : Type) where
  out : List (List α) := []
  cur : List α := []
  dict : Dict := {}

namespace Chunks

variable {α : Type} (refs : α → Ref)

def push (chunks : Chunks α) (r : α) : Chunks α :=
  match if chunks.cur.length = maxColumnRows then none else chunks.dict.admitRefs [refs r] 0 with
  | some dict => { chunks with cur := chunks.cur ++ [r], dict }
  | none => { out := chunks.out ++ [chunks.cur], cur := [r], dict := (Dict.admitRefs {} [refs r] 0).getD {} }

def finish (chunks : Chunks α) : List (List α) :=
  if chunks.cur = [] then chunks.out else chunks.out ++ [chunks.cur]

end Chunks

def chunk {α : Type} (rows : List α) (refs : α → Ref) : List (List α) :=
  (rows.foldl (Chunks.push refs) {}).finish

/-- The rows whose connection, track and group no row before them had. -/
def distinct : List (ℕ × TrackName × ℕ) → List PendingGroup → List PendingGroup
  | _, [] => []
  | seen, r :: rows => if r.key ∈ seen then distinct seen rows else r :: distinct (r.key :: seen) rows

instance : Ord TrackName := ⟨fun a b => (compare a.ns b.ns).then (compare a.name b.name)⟩

def groupOrder (a b : PendingGroup) : Ordering :=
  (compare a.conn b.conn).then <| (compare a.track b.track).then <| (compare a.k b.k).then <|
    (compare a.firstUs b.firstUs).then (compare a.g b.g)

def objectOrder (a b : PendingObject) : Ordering :=
  (compare a.conn b.conn).then <| (compare a.track b.track).then (compare a.k b.k)

/-- Chunk the rows into records, each of which fits an empty body by itself. A second row for
one connection, track and group is dropped and counted. -/
def units (rows : Rows) : List Unit × ℕ :=
  let groups := distinct [] rows.groups
  let dropped := rows.groups.length - groups.length
  let groups := groups.mergeSort fun a b => (groupOrder a b).isLE
  let objects := rows.objects.mergeSort fun a b => (objectOrder a b).isLE
  ((chunk rows.events fun r => (r.conn, r.track)).map .pev ++
    (chunk groups fun r => (r.conn, some (r.track, r.k))).map .grp ++
    (chunk objects fun r => (r.conn, some (r.track, r.k))).map .obj, dropped)

/-! ## Bodies -/

/-- The loop of `pack`: bodies that are done, the one being filled with its declarations, and the
units to come. -/
structure Filling where
  bodies : List (List Unit) := []
  current : List Unit := []
  dict : Dict := {}
  queue : List Unit
  dropped : ℕ := 0

/-- What one seal's bodies are written from. -/
structure Batch where
  coding : Coding
  relays : ℕ → Option RelayInfo
  head : HeadFields
  nextSeq : ℕ
  mode : Mode

namespace Batch

variable (batch : Batch)

/-- The gzipped frame length of a body, but for frames too short to need the trial. -/
def formLen (units : List Unit) (dict : Dict) (seq : ℕ) (isFinal : Bool) : ℕ :=
  let frames := batch.coding.frames (encode batch.relays dict units batch.head seq isFinal)
  if frames.length + gzipSlack ≤ sealBytes then frames.length else (batch.coding.gzip frames).length

/-- In a final seal any body may turn out to be the last, so both forms are measured. -/
def sealedLen (units : List Unit) (dict : Dict) (seq : ℕ) : ℕ :=
  if batch.mode = .final then max (batch.formLen units dict seq false) (batch.formLen units dict seq true)
  else batch.formLen units dict seq false

/-- One iteration of the loop. -/
def step (s : Filling) : Option Filling :=
  match s.queue with
  | [] => none
  | unit :: queue =>
    let next := { s with bodies := s.bodies ++ [s.current], current := [], dict := {} }
    match s.dict.admitRefs unit.refs unit.groupRows with
    | none => some (if s.current = [] then { s with queue, dropped := s.dropped + unit.len } else next)
    | some trial =>
      let gz := batch.sealedLen (s.current ++ [unit]) trial (batch.nextSeq + s.bodies.length)
      some <|
        if gz ≤ sealBytes then { s with current := s.current ++ [unit], dict := trial, queue }
        else if s.current ≠ [] then next
        -- alone and past the seal: sent if the edge takes it, else halved
        else if gz + preambleBytes ≤ edgeCapBytes then { s with bodies := s.bodies ++ [[unit]], dict := {}, queue }
        else if unit.len ≤ 1 then { s with queue, dropped := s.dropped + unit.len }
        else { s with queue := unit.split.1 :: unit.split.2 :: queue }

/-- How far a unit is from its end: it is placed, dropped, or halved. -/
def unitWeight (unit : Unit) : ℕ := if unit.len = 0 then 2 else 4 * unit.len - 1

def weight (s : Filling) : ℕ := (s.queue.map unitWeight).sum + if s.current = [] then 0 else 1

theorem half_len {α : Type} (rows : List α) :
    (Unit.half rows).1.length = rows.length / 2 ∧ (Unit.half rows).2.length = rows.length - rows.length / 2 := by
  unfold Unit.half
  rw [List.splitAt_eq, List.length_take, List.length_drop]
  exact ⟨by omega, rfl⟩

theorem split_len (unit : Unit) :
    unit.split.1.len = unit.len / 2 ∧ unit.split.2.len = unit.len - unit.len / 2 := by
  cases unit with
  | grp r => exact half_len r
  | obj r => exact half_len r
  | pev r => exact half_len r

/-- What one iteration does with the unit in front. -/
inductive Steps (s : Filling) (unit : Unit) (rest : List Unit) : Filling → Prop
  | unfit (refused : s.dict.admitRefs unit.refs unit.groupRows = none) (alone : s.current = []) :
      Steps s unit rest { s with queue := rest, dropped := s.dropped + unit.len }
  | next (filled : s.current ≠ []) :
      Steps s unit rest { s with bodies := s.bodies ++ [s.current], current := [], dict := {} }
  | placed {trial : Dict} (admitted : s.dict.admitRefs unit.refs unit.groupRows = some trial)
      (fits : batch.sealedLen (s.current ++ [unit]) trial (batch.nextSeq + s.bodies.length) ≤ sealBytes) :
      Steps s unit rest { s with current := s.current ++ [unit], dict := trial, queue := rest }
  | alone {trial : Dict} (admitted : s.dict.admitRefs unit.refs unit.groupRows = some trial) (alone : s.current = [])
      (edge : batch.sealedLen [unit] trial (batch.nextSeq + s.bodies.length) + preambleBytes ≤ edgeCapBytes) :
      Steps s unit rest { s with bodies := s.bodies ++ [[unit]], dict := {}, queue := rest }
  | refused {trial : Dict} (admitted : s.dict.admitRefs unit.refs unit.groupRows = some trial) (alone : s.current = [])
      (edge : edgeCapBytes < batch.sealedLen [unit] trial (batch.nextSeq + s.bodies.length) + preambleBytes)
      (single : unit.len ≤ 1) : Steps s unit rest { s with queue := rest, dropped := s.dropped + unit.len }
  | halved (alone : s.current = []) (several : 1 < unit.len) :
      Steps s unit rest { s with queue := unit.split.1 :: unit.split.2 :: rest }

theorem step_steps {s s' : Filling} (step : batch.step s = some s') :
    ∃ unit rest, s.queue = unit :: rest ∧ batch.Steps s unit rest s' := by
  unfold Batch.step at step
  cases queue : s.queue with
  | nil => simp [queue] at step
  | cons unit rest =>
    refine ⟨unit, rest, rfl, ?_⟩
    rw [queue] at step
    dsimp only at step
    rw [← queue] at step
    cases admitted : s.dict.admitRefs unit.refs unit.groupRows with
    | none =>
      rw [admitted] at step
      obtain rfl := Option.some.inj step
      split_ifs with alone
      · exact .unfit admitted alone
      · exact .next alone
    | some trial =>
      rw [admitted] at step
      obtain rfl := Option.some.inj step
      split_ifs with fits open' edge single
      · exact .placed admitted fits
      · exact .next open'
      all_goals
        rw [not_not] at open'
        rw [open', List.nil_append] at edge
      · exact .alone admitted open' edge
      · exact .refused admitted open' (not_le.mp edge) single
      · exact .halved open' (not_le.mp single)

/-- Every iteration brings the loop nearer to its end. -/
theorem step_weight {s s' : Filling} (step : batch.step s = some s') : weight s' < weight s := by
  obtain ⟨unit, rest, queue, steps⟩ := batch.step_steps step
  have placed : 2 ≤ unitWeight unit := by
    unfold unitWeight
    split_ifs <;> omega
  unfold weight
  cases steps with
  | unfit _ alone =>
    simp only [queue, List.map_cons, List.sum_cons, alone]
    omega
  | next filled =>
    simp only [if_neg filled, ↓reduceIte]
    omega
  | placed =>
    simp only [queue, List.map_cons, List.sum_cons]
    split_ifs <;> omega
  | alone _ alone =>
    simp only [queue, List.map_cons, List.sum_cons, alone]
    omega
  | refused _ alone =>
    simp only [queue, List.map_cons, List.sum_cons, alone]
    omega
  | halved alone several =>
    obtain ⟨left, right⟩ := split_len unit
    have halves : unitWeight unit.split.1 + unitWeight unit.split.2 < unitWeight unit := by
      unfold unitWeight
      rw [left, right, if_neg (by omega), if_neg (by omega), if_neg (by omega)]
      omega
    simp only [queue, List.map_cons, List.sum_cons, alone]
    omega

/-- The loop. -/
def fill (s : Filling) : Filling :=
  match _next : batch.step s with
  | none => s
  | some s' => fill s'
termination_by weight s
decreasing_by exact step_weight batch _next

/-- The bodies a seal sends: the loop's, and the one left open unless the seal is early. A final
seal sends one in any case. -/
def bodies (filled : Filling) : List (List Unit) :=
  match batch.mode with
  | .early => filled.bodies
  | .all => if filled.current = [] then filled.bodies else filled.bodies ++ [filled.current]
  | .final => if filled.current ≠ [] ∨ filled.bodies = [] then filled.bodies ++ [filled.current] else filled.bodies

/-- The declarations a body is written with. What is not admitted leaves them as they are. -/
def declare (units : List Unit) : Dict :=
  units.foldl (fun dict unit => (dict.admitRefs unit.refs unit.groupRows).getD dict) {}

/-- What body `i` of `n` is written from. -/
def spec (n i : ℕ) (units : List Unit) : BodySpec :=
  encode batch.relays (declare units) units batch.head (batch.nextSeq + i) (batch.mode = .final ∧ i + 1 = n)

/-- Distinct origins of the relays a body declares. -/
def origins (units : List Unit) : List String :=
  RelayCap.originsOf (declare units).relays <|
    (declare units).relays.filterMap fun id => (batch.relays id).map fun relay => (id, relay.origin)

def bodyMagic : List UInt8 := [0x4D, 0x51, 0x54, 0x43]

/-- A whole body: the preamble, then the gzipped frames. -/
def encodeBody (gzipped : List UInt8) : List UInt8 := bodyMagic ++ [1, 1, 0, 0] ++ gzipped

def «seal» (n i : ℕ) (units : List Unit) : Sealed where
  seq := batch.nextSeq + i
  idempotencyKey := batch.coding.idempotencyKey batch.head.source batch.head.instanceId (batch.nextSeq + i)
  body := encodeBody (batch.coding.gzip (batch.coding.frames (batch.spec n i units)))
  origins := batch.origins units

end Batch

/-- What a seal makes of the rows taken for it. -/
structure Packed where
  bodies : List Sealed
  leftover : Option Taken
  dropped : ℕ

/-- The rows an early seal leaves for the next. -/
def Packed.rest (packed : Packed) : Rows := packed.leftover.elim {} (·.toRows)

def untake (units : List Unit) : Rows := units.foldl (fun rows unit => rows ++ unit.rows) {}

namespace Batch

def filled (batch : Batch) (rows : Rows) : Filling :=
  batch.fill { queue := (units rows).1, dropped := (units rows).2 }

/-- Seal `taken` into bodies, numbering them from `nextSeq`. -/
def pack (batch : Batch) (rows : Rows) : Packed :=
  let filled := batch.filled rows
  let bodies := batch.bodies filled
  { bodies := bodies.mapIdx (batch.seal bodies.length)
    leftover := if batch.mode = .early ∧ filled.current ≠ [] then
      some { untake filled.current with relays := batch.relays } else none
    dropped := filled.dropped }

end Batch

/-! ## What a body declares -/

namespace Dict

variable {dict dict' small : Dict} {refs refs' more : List Ref} {ref : Ref} {groupRows : ℕ}

/-- A body's declarations are those its rows need, each made once, with one `k` for a track. -/
structure Declares (dict : Dict) (refs : List Ref) : Prop where
  relays_once : dict.relays.Nodup
  relays : ∀ conn, conn ∈ dict.relays ↔ conn ∈ refs.map (·.1)
  tracks_once : (dict.tracks.map (·.1)).Nodup
  tracks : ∀ track, track ∈ dict.tracks ↔ track ∈ refs.filterMap (·.2)

theorem declares_nothing (groupRows : ℕ) : Declares { groupRows } [] :=
  ⟨List.nodup_nil, by simp, List.nodup_nil, by simp⟩

/-- No track is needed with two exponents. -/
def Agree (refs : List Ref) : Prop :=
  ∀ name k k', (name, k) ∈ refs.filterMap (·.2) → (name, k') ∈ refs.filterMap (·.2) → k = k'

theorem Agree.mono (agree : Agree refs) (fewer : refs' ⊆ refs) : Agree refs' := fun name k k' first second =>
  agree name k k' (List.filterMap_subset _ fewer first) (List.filterMap_subset _ fewer second)

theorem Declares.agree (declares : dict.Declares refs) : Agree refs := by
  intro name k k' first second
  have found := List.inj_on_of_nodup_map declares.tracks_once ((declares.tracks _).mpr first)
    ((declares.tracks _).mpr second) rfl
  exact (Prod.mk.inj found).2

theorem lookup_some {tracks : List (TrackName × ℕ)} {name : TrackName} {k : ℕ} (found : tracks.lookup name = some k) :
    (name, k) ∈ tracks := by
  obtain ⟨before, after, split, -⟩ := List.lookup_eq_some_iff.mp found
  simp [split]

/-- The relay of one row is declared. -/
theorem Declares.relay (declares : dict.Declares refs) (ref : Ref) :
    let next := if ref.1 ∈ dict.relays then dict else { dict with relays := dict.relays ++ [ref.1] }
    next.relays.Nodup ∧ (∀ conn, conn ∈ next.relays ↔ conn ∈ (refs ++ [ref]).map (·.1)) ∧
      next.tracks = dict.tracks ∧ next.groupRows = dict.groupRows := by
  dsimp only
  split_ifs with known
  · refine ⟨declares.relays_once, fun conn => ?_, rfl, rfl⟩
    rw [declares.relays, List.map_append, List.mem_append, List.map_singleton, List.mem_singleton]
    exact ⟨.inl, Or.rec (fun among => among) fun here => here ▸ (declares.relays _).mp known⟩
  · refine ⟨?_, fun conn => ?_, rfl, rfl⟩
    · exact List.nodup_append_comm.mp (List.nodup_cons.mpr ⟨known, declares.relays_once⟩)
    · rw [List.mem_append, declares.relays, List.map_append, List.mem_append, List.map_singleton]

/-- One row is declared, unless its track has another `k`. -/
theorem Declares.one (declares : dict.Declares refs) (ref : Ref) :
    (Agree (refs ++ [ref]) → (dict.admitOne ref).isSome) ∧
      ∀ next, dict.admitOne ref = some next → next.Declares (refs ++ [ref]) ∧ next.groupRows = dict.groupRows := by
  obtain ⟨once, conns, same, rows⟩ := declares.relay ref
  unfold admitOne
  generalize (if ref.1 ∈ dict.relays then dict else { dict with relays := dict.relays ++ [ref.1] }) = known at *
  dsimp only
  rw [same]
  have tracks_append : (refs ++ [ref]).filterMap (·.2) = refs.filterMap (·.2) ++ ref.2.toList := by
    rw [List.filterMap_append, List.filterMap_cons, List.filterMap_nil]
    cases ref.2 <;> rfl
  cases track : ref.2 with
  | none =>
    refine ⟨fun _ => rfl, fun next admitted => ?_⟩
    cases admitted
    refine ⟨⟨once, conns, same ▸ declares.tracks_once, fun t => ?_⟩, rows⟩
    rw [same, tracks_append, track, Option.toList_none, List.append_nil]
    exact declares.tracks t
  | some needed =>
    obtain ⟨name, k⟩ := needed
    dsimp only
    cases found : dict.tracks.lookup name with
    | some kept =>
      have among := (declares.tracks _).mp (lookup_some found)
      refine ⟨fun agree => ?_, fun next admitted => ?_⟩
      · have equal := agree name kept k (by rw [tracks_append]; exact List.mem_append_left _ among)
          (by rw [tracks_append, track]; simp)
        dsimp only
        rw [if_neg (not_not.mpr equal)]
        rfl
      · dsimp only at admitted
        split_ifs at admitted with equal
        cases admitted
        refine ⟨⟨once, conns, same ▸ declares.tracks_once, fun t => ?_⟩, rows⟩
        rw [same, tracks_append, track, List.mem_append, declares.tracks]
        refine ⟨.inl, Or.rec (fun among => among) fun here => ?_⟩
        rw [List.mem_singleton.mp here, ← not_not.mp equal]
        exact among
    | none =>
      refine ⟨fun _ => rfl, fun next admitted => ?_⟩
      cases admitted
      have absent : name ∉ dict.tracks.map (·.1) := by
        intro member
        obtain ⟨t, member, here⟩ := List.mem_map.mp member
        have other := List.lookup_eq_none_iff.mp found t member
        simp [here] at other
      refine ⟨⟨once, conns, ?_, fun t => ?_⟩, rows⟩ <;> dsimp only
      · rw [List.map_append]
        exact List.nodup_append_comm.mp (List.nodup_cons.mpr ⟨absent, declares.tracks_once⟩)
      · rw [tracks_append, track, List.mem_append, List.mem_append, declares.tracks]
        rfl

theorem Declares.all (declares : dict.Declares refs) (more : List Ref) :
    (Agree (refs ++ more) → (more.foldlM admitOne dict).isSome) ∧
      ∀ next, more.foldlM admitOne dict = some next → next.Declares (refs ++ more) ∧ next.groupRows = dict.groupRows := by
  induction more generalizing dict refs with
  | nil =>
    refine ⟨fun _ => rfl, fun next admitted => ?_⟩
    cases admitted
    rw [List.append_nil]
    exact ⟨declares, rfl⟩
  | cons ref more ih =>
    obtain ⟨succeeds, declared⟩ := declares.one ref
    rw [List.foldlM_cons, List.append_cons]
    cases first : dict.admitOne ref with
    | none =>
      refine ⟨fun agree => ?_, nofun⟩
      have admitted := succeeds (agree.mono (List.subset_append_left _ _))
      rw [first] at admitted
      cases admitted
    | some next =>
      obtain ⟨declared, rows⟩ := declared next first
      obtain ⟨succeeds, others⟩ := ih declared
      refine ⟨succeeds, fun last admitted => ?_⟩
      obtain ⟨declares, same⟩ := others last admitted
      exact ⟨declares, same.trans rows⟩

theorem Declares.admitRefs (declares : dict.Declares refs) {next : Dict} (admitted : dict.admitRefs more groupRows = some next) :
    next.Declares (refs ++ more) ∧ next.groupRows = dict.groupRows + groupRows ∧ next.Fits := by
  unfold Dict.admitRefs at admitted
  obtain ⟨last, folded, admitted⟩ := Option.bind_eq_some_iff.mp admitted
  dsimp only at admitted
  split_ifs at admitted with fits
  cases admitted
  obtain ⟨⟨once, relays, once', tracks⟩, rows⟩ := (declares.all more).2 last folded
  exact ⟨⟨once, relays, once', tracks⟩, congrArg (· + groupRows) rows, fits⟩

/-- Declarations of fewer rows are no more. -/
theorem Declares.fewer (declares : dict.Declares refs) (fewer : small.Declares refs') (subset : refs' ⊆ refs) :
    small.relays.length ≤ dict.relays.length ∧ small.tracks.length ≤ dict.tracks.length := by
  constructor
  · refine (fewer.relays_once.subperm fun conn among => ?_).length_le
    exact (declares.relays conn).mpr (List.map_subset _ subset ((fewer.relays conn).mp among))
  · refine (fewer.tracks_once.of_map.subperm fun track among => ?_).length_le
    exact (declares.tracks track).mpr (List.filterMap_subset _ subset ((fewer.tracks track).mp among))

/-- What fits a body fits an empty one, with fewer rows too. -/
theorem Declares.admits {fewer : ℕ} (declares : dict.Declares refs) (fits : dict.Fits) (subset : refs' ⊆ refs)
    (less : fewer ≤ maxBodyGroupRows) : ∃ next, Dict.admitRefs {} refs' fewer = some next := by
  obtain ⟨relays, tracks, -⟩ := fits
  obtain ⟨succeeds, declared⟩ := (declares_nothing 0).all refs'
  obtain ⟨last, folded⟩ := Option.isSome_iff_exists.mp (succeeds (declares.agree.mono subset))
  obtain ⟨declared, rows⟩ := declared last folded
  obtain ⟨relays', tracks'⟩ := declares.fewer declared subset
  refine ⟨{ last with groupRows := last.groupRows + fewer }, ?_⟩
  unfold Dict.admitRefs
  rw [folded]
  refine if_pos ⟨relays'.trans relays, tracks'.trans tracks, ?_⟩
  simpa [rows] using less

theorem admits_fewer {fewer : ℕ} (admitted : Dict.admitRefs {} refs groupRows = some dict) (subset : refs' ⊆ refs)
    (less : fewer ≤ maxBodyGroupRows) : ∃ next, Dict.admitRefs {} refs' fewer = some next := by
  obtain ⟨declares, -, fits⟩ := (declares_nothing 0).admitRefs admitted
  rw [List.nil_append] at declares
  exact declares.admits fits subset less

theorem admits_one (ref : Ref) : ∃ next, Dict.admitRefs {} [ref] 0 = some next := by
  have declares : Dict.Declares { relays := [ref.1], tracks := ref.2.toList } [ref] := by
    cases track : ref.2 <;> exact ⟨by simp, by simp, by simp, by simp [track]⟩
  refine declares.admits ⟨?_, ?_, ?_⟩ (List.Subset.refl _) (Nat.zero_le _)
  · simp [maxBodyRelays, maxRelayC]
  · cases ref.2 <;> simp [maxBodyTracks, maxTrackId]
  · exact Nat.zero_le _

theorem fits_empty : Fits {} := ⟨Nat.zero_le _, Nat.zero_le _, Nat.zero_le _⟩

theorem Declares.eq_empty (declares : dict.Declares []) (rows : dict.groupRows = 0) : dict = {} := by
  obtain ⟨relays, tracks, groupRows⟩ := dict
  have none' : relays = [] := List.eq_nil_iff_forall_not_mem.mpr fun conn => by simp [declares.relays conn]
  have none'' : tracks = [] := List.eq_nil_iff_forall_not_mem.mpr fun track => by simp [declares.tracks track]
  subst none' none'' rows
  rfl

end Dict

/-! ## Chunks fit a body -/

section Chunks

variable {α : Type} {refs : α → Ref} {rows : List α} {chunks : Chunks α}

/-- A record that fits an empty body by itself. -/
structure FitsAlone (refs : α → Ref) (chunk : List α) : Prop where
  filled : chunk ≠ []
  short : chunk.length ≤ maxColumnRows
  admits : ∃ dict, Dict.admitRefs {} (chunk.map refs) 0 = some dict

/-- What the chunks hold of the rows before. -/
structure Chunks.Holds (refs : α → Ref) (rows : List α) (chunks : Chunks α) : Prop where
  whole : chunks.out.flatten ++ chunks.cur = rows
  out : ∀ chunk ∈ chunks.out, FitsAlone refs chunk
  declares : chunks.dict.Declares (chunks.cur.map refs)
  fits : chunks.dict.Fits
  rows : chunks.dict.groupRows = 0
  short : chunks.cur.length ≤ maxColumnRows

theorem Chunks.Holds.cur (holds : chunks.Holds refs rows) (some' : chunks.cur ≠ []) : FitsAlone refs chunks.cur where
  filled := some'
  short := holds.short
  admits := holds.declares.admits holds.fits (List.Subset.refl _) (Nat.zero_le _)

theorem Chunks.Holds.push (holds : chunks.Holds refs rows) (r : α) : (chunks.push refs r).Holds refs (rows ++ [r]) := by
  unfold Chunks.push
  cases admitted : (if chunks.cur.length = maxColumnRows then none else chunks.dict.admitRefs [refs r] 0) with
  | some dict =>
    dsimp only
    split_ifs at admitted with full
    obtain ⟨declares, same, fits⟩ := holds.declares.admitRefs admitted
    refine ⟨?_, holds.out, ?_, fits, same.trans holds.rows, ?_⟩
    · rw [← holds.whole, List.append_assoc]
    · rwa [List.map_append]
    · have short := holds.short
      rw [List.length_append, List.length_singleton]
      omega
  | none =>
    dsimp only
    obtain ⟨first, alone⟩ := Dict.admits_one (refs r)
    have some' : chunks.cur ≠ [] := by
      intro empty
      have declares := holds.declares
      rw [empty] at declares admitted
      rw [declares.eq_empty holds.rows, if_neg (by simp [maxColumnRows]), alone] at admitted
      cases admitted
    obtain ⟨declares, same, fits⟩ := (Dict.declares_nothing 0).admitRefs alone
    rw [alone, Option.getD_some]
    refine ⟨?_, fun chunk member => ?_, declares, fits, same, by simp [maxColumnRows]⟩
    · rw [List.flatten_append, ← holds.whole]
      simp
    · rcases List.mem_append.mp member with earlier | here
      · exact holds.out chunk earlier
      · rw [List.mem_singleton.mp here]
        exact holds.cur some'

/-- Chunks are the rows in their order, cut into records that each fit an empty body. -/
theorem chunk_spec (rows : List α) (refs : α → Ref) :
    (chunk rows refs).flatten = rows ∧ ∀ record ∈ chunk rows refs, FitsAlone refs record := by
  have holds : Chunks.Holds refs rows (rows.foldl (Chunks.push refs) {}) := by
    induction rows using List.reverseRecOn with
    | nil => exact ⟨rfl, nofun, Dict.declares_nothing 0, Dict.fits_empty, rfl, Nat.zero_le _⟩
    | append_singleton rows r ih =>
      rw [List.foldl_append]
      exact ih.push r
  unfold chunk Chunks.finish
  split_ifs with empty
  · refine ⟨?_, holds.out⟩
    have whole := holds.whole
    rwa [empty, List.append_nil] at whole
  · refine ⟨?_, fun record member => ?_⟩
    · rw [List.flatten_append, List.flatten_singleton]
      exact holds.whole
    · rcases List.mem_append.mp member with earlier | here
      · exact holds.out record earlier
      · rw [List.mem_singleton.mp here]
        exact holds.cur empty

end Chunks

/-! ## Units -/

theorem foldl_rows (rows : Rows) (units : List Unit) :
    units.foldl (fun rows unit => rows ++ unit.rows) rows = rows ++ untake units := by
  unfold untake
  induction units using List.reverseRecOn with
  | nil => exact (Rows.append_empty rows).symm
  | append_singleton units unit ih =>
    rw [List.foldl_append, List.foldl_append, ih, List.foldl_cons, List.foldl_nil, List.foldl_cons, List.foldl_nil,
      Rows.append_assoc]

theorem untake_append (units more : List Unit) : untake (units ++ more) = untake units ++ untake more := by
  rw [← foldl_rows]
  exact List.foldl_append ..

theorem untake_singleton (unit : Unit) : untake [unit] = unit.rows := rfl

theorem untake_cons (unit : Unit) (units : List Unit) : untake (unit :: units) = unit.rows ++ untake units :=
  untake_append [unit] units

theorem untake_perm {units more : List Unit} (same : units.Perm more) : (untake units).Same (untake more) := by
  induction same with
  | nil => exact .refl _
  | cons unit _ ih =>
    rw [untake_cons, untake_cons]
    exact (Rows.Same.refl _).append ih
  | swap unit unit' units =>
    rw [untake_cons, untake_cons, untake_cons, untake_cons, ← Rows.append_assoc, ← Rows.append_assoc]
    exact (Rows.Same.comm _ _).append (.refl _)
  | trans _ _ ih ih' => exact ih.trans ih'

/-- A unit that fits an empty body. -/
structure Unit.Loads (unit : Unit) : Prop where
  filled : unit.len ≠ 0
  admits : ∃ dict, Dict.admitRefs {} unit.refs unit.groupRows = some dict

namespace Unit

variable {unit : Unit}

theorem half_append {α : Type} (rows : List α) : (half rows).1 ++ (half rows).2 = rows := by
  unfold half
  rw [List.splitAt_eq, List.take_append_drop]

theorem split_rows (unit : Unit) : unit.split.1.rows ++ unit.split.2.rows = unit.rows := by
  cases unit with
  | grp r => exact congrArg (fun groups => ({ groups } : Rows)) (half_append r)
  | obj r => exact congrArg (fun objects => ({ objects } : Rows)) (half_append r)
  | pev r => exact congrArg (fun events => ({ events } : Rows)) (half_append r)

theorem rows_count (unit : Unit) : unit.rows.count = unit.len := by
  cases unit <;> simp [rows, Rows.count, len]

theorem split_refs (unit : Unit) : unit.split.1.refs ⊆ unit.refs ∧ unit.split.2.refs ⊆ unit.refs := by
  have parts {α : Type} (refs : α → Ref) (rows : List α) :
      (half rows).1.map refs ⊆ rows.map refs ∧ (half rows).2.map refs ⊆ rows.map refs := by
    unfold half
    rw [List.splitAt_eq]
    exact ⟨List.map_subset _ (List.take_subset ..), List.map_subset _ (List.drop_subset ..)⟩
  cases unit with
  | grp r => exact parts _ r
  | obj r => exact parts _ r
  | pev r => exact parts _ r

theorem split_groupRows (unit : Unit) :
    unit.split.1.groupRows ≤ unit.groupRows ∧ unit.split.2.groupRows ≤ unit.groupRows := by
  cases unit with
  | grp r =>
    obtain ⟨left, right⟩ := Batch.half_len r
    exact ⟨left.trans_le (Nat.div_le_self ..), right.trans_le (Nat.sub_le ..)⟩
  | obj r => exact ⟨le_rfl, le_rfl⟩
  | pev r => exact ⟨le_rfl, le_rfl⟩

/-- Both halves of a unit fit where the unit does. -/
theorem Loads.split (loads : unit.Loads) (several : 1 < unit.len) : unit.split.1.Loads ∧ unit.split.2.Loads := by
  obtain ⟨dict, admitted⟩ := loads.admits
  obtain ⟨left, right⟩ := Batch.split_len unit
  obtain ⟨refs, refs'⟩ := unit.split_refs
  obtain ⟨rows, rows'⟩ := unit.split_groupRows
  have bound : unit.groupRows ≤ maxBodyGroupRows := by
    obtain ⟨-, same, -, -, bound⟩ := (Dict.declares_nothing 0).admitRefs admitted
    rwa [same, Nat.zero_add] at bound
  exact ⟨⟨by omega, Dict.admits_fewer admitted refs (rows.trans bound)⟩,
    by omega, Dict.admits_fewer admitted refs' (rows'.trans bound)⟩

end Unit

/-- The rows that repeat a group are set aside, and only they. -/
theorem distinct_perm (seen : List (ℕ × TrackName × ℕ)) (rows : List PendingGroup) :
    ∃ repeats, (distinct seen rows ++ repeats).Perm rows := by
  induction rows generalizing seen with
  | nil => exact ⟨[], .rfl⟩
  | cons r rows ih =>
    unfold distinct
    split_ifs with known
    · obtain ⟨repeats, perm⟩ := ih seen
      exact ⟨r :: repeats, List.perm_middle.trans (perm.cons r)⟩
    · obtain ⟨repeats, perm⟩ := ih (r.key :: seen)
      exact ⟨repeats, perm.cons r⟩

theorem distinct_keys (seen : List (ℕ × TrackName × ℕ)) (rows : List PendingGroup) :
    ((distinct seen rows).map (·.key)).Nodup ∧ ∀ r ∈ distinct seen rows, r.key ∉ seen := by
  induction rows generalizing seen with
  | nil => exact ⟨List.nodup_nil, nofun⟩
  | cons r rows ih =>
    unfold distinct
    split_ifs with known
    · exact ih seen
    · obtain ⟨once, unseen⟩ := ih (r.key :: seen)
      refine ⟨?_, fun other member => ?_⟩
      · rw [List.map_cons, List.nodup_cons]
        refine ⟨fun member => ?_, once⟩
        obtain ⟨other, among, same⟩ := List.mem_map.mp member
        exact unseen other among (same ▸ List.mem_cons_self)
      · rcases List.mem_cons.mp member with rfl | among
        · exact known
        · exact fun earlier => unseen other among (List.mem_cons_of_mem _ earlier)

/-- Chunks of one kind of row hold what was chunked. -/
theorem untake_map {α : Type} (wrap : List α → Unit) (empty : (wrap []).rows = {})
    (append : ∀ a b, (wrap (a ++ b)).rows = (wrap a).rows ++ (wrap b).rows) (chunks : List (List α)) :
    untake (chunks.map wrap) = (wrap chunks.flatten).rows := by
  induction chunks with
  | nil => exact empty.symm
  | cons chunk chunks ih => rw [List.map_cons, untake_cons, ih, List.flatten_cons, append]

/-- The units hold the rows, but for the repeats, and each fits an empty body. -/
theorem units_spec (rows : Rows) : ∃ repeats : List PendingGroup,
    (untake (units rows).1 ++ { groups := repeats }).Same rows ∧ (units rows).2 = repeats.length ∧
      ∀ unit ∈ (units rows).1, unit.Loads := by
  obtain ⟨repeats, perm⟩ := distinct_perm [] rows.groups
  refine ⟨repeats, ?_, ?_, fun unit member => ?_⟩
  · unfold units
    dsimp only
    rw [untake_append, untake_append, untake_map .pev rfl fun _ _ => rfl, untake_map .grp rfl fun _ _ => rfl,
      untake_map .obj rfl fun _ _ => rfl, (chunk_spec ..).1, (chunk_spec ..).1, (chunk_spec ..).1]
    refine ⟨?_, ?_, ?_⟩
    · change ([] ++ List.mergeSort _ _ ++ [] ++ repeats).Perm rows.groups
      rw [List.nil_append, List.append_nil]
      exact ((List.mergeSort_perm ..).append_right repeats).trans perm
    · change ([] ++ [] ++ List.mergeSort _ _ ++ []).Perm rows.objects
      rw [List.nil_append, List.nil_append, List.append_nil]
      exact List.mergeSort_perm ..
    · change (rows.events ++ [] ++ [] ++ []).Perm rows.events
      rw [List.append_nil, List.append_nil, List.append_nil]
  · have length := perm.length_eq
    rw [List.length_append] at length
    unfold units
    dsimp only
    omega
  · have short {α : Type} {refs : α → Ref} {chunk : List α} (alone : FitsAlone refs chunk) : chunk.length ≤ maxBodyGroupRows :=
      alone.short.trans (by decide)
    unfold units at member
    rcases List.mem_append.mp member with member | member
    · rcases List.mem_append.mp member with member | member
      · obtain ⟨record, among, rfl⟩ := List.mem_map.mp member
        have alone := (chunk_spec _ _).2 record among
        exact ⟨fun empty => alone.filled (List.length_eq_zero_iff.mp empty), alone.admits⟩
      · obtain ⟨record, among, rfl⟩ := List.mem_map.mp member
        have alone := (chunk_spec _ _).2 record among
        obtain ⟨dict, admitted⟩ := alone.admits
        exact ⟨fun empty => alone.filled (List.length_eq_zero_iff.mp empty),
          Dict.admits_fewer admitted (List.Subset.refl _) (short alone)⟩
    · obtain ⟨record, among, rfl⟩ := List.mem_map.mp member
      have alone := (chunk_spec _ _).2 record among
      exact ⟨fun empty => alone.filled (List.length_eq_zero_iff.mp empty), alone.admits⟩

/-! ## Filling the bodies -/

namespace Batch

variable {batch : Batch} {s s' : Filling} {rows : Rows} {units : List Unit} {i : ℕ}

/-- A body's declarations are those of its rows, and stay within the caps. -/
structure Declared (units : List Unit) : Prop where
  declares : (declare units).Declares (units.flatMap Unit.refs)
  groupRows : (declare units).groupRows = (units.map Unit.groupRows).sum
  fits : (declare units).Fits

theorem declared_nil : Declared [] := ⟨Dict.declares_nothing 0, rfl, Dict.fits_empty⟩

theorem Declared.admitRefs (declared : Declared units) {unit : Unit} {trial : Dict}
    (admitted : (declare units).admitRefs unit.refs unit.groupRows = some trial) :
    declare (units ++ [unit]) = trial ∧ Declared (units ++ [unit]) := by
  have trial' : declare (units ++ [unit]) = trial := by
    unfold declare at admitted ⊢
    rw [List.foldl_append, List.foldl_cons, List.foldl_nil, admitted]
    rfl
  obtain ⟨declares, same, fits⟩ := declared.declares.admitRefs admitted
  refine ⟨trial', ?_, ?_, ?_⟩
  · rw [trial', List.flatMap_append, List.flatMap_singleton]
    exact declares
  · rw [trial', List.map_append, List.sum_append, same, declared.groupRows]
    rfl
  · rw [trial']
    exact fits

/-- Body `i`: declared, and short enough for the byte seal, or a single unit short enough for
the edge. -/
structure Fine (batch : Batch) (i : ℕ) (units : List Unit) : Prop where
  filled : units ≠ []
  declared : Declared units
  short : batch.sealedLen units (declare units) (batch.nextSeq + i) ≤ sealBytes ∨ ∃ unit, units = [unit] ∧
    batch.sealedLen units (declare units) (batch.nextSeq + i) + preambleBytes ≤ edgeCapBytes

/-- A single row that the edge would refuse in a body of its own. -/
def Refused (batch : Batch) (unit : Unit) : Prop :=
  unit.len = 1 ∧ ∃ seq, edgeCapBytes < batch.sealedLen [unit] (declare [unit]) seq + preambleBytes

/-- What the loop has done so far of the rows it was given. -/
structure Filled (batch : Batch) (rows : Rows) (s : Filling) : Prop where
  conserved : ∃ repeats gone,
    (untake (s.bodies.flatten ++ s.current ++ s.queue ++ gone) ++ { groups := repeats }).Same rows ∧
      s.dropped = repeats.length + gone.length ∧ ∀ unit ∈ gone, batch.Refused unit
  dict : s.dict = declare s.current
  declared : Declared s.current
  short : s.current ≠ [] → batch.sealedLen s.current (declare s.current) (batch.nextSeq + s.bodies.length) ≤ sealBytes
  bodies : ∀ i units, s.bodies[i]? = some units → batch.Fine i units
  queue : ∀ unit ∈ s.queue, unit.Loads

theorem Filled.bodies_append (filled : batch.Filled rows s) (fine : batch.Fine s.bodies.length units) :
    ∀ i more, (s.bodies ++ [units])[i]? = some more → batch.Fine i more := by
  intro i more found
  rcases lt_trichotomy i s.bodies.length with before | rfl | behind
  · rw [List.getElem?_append_left before] at found
    exact filled.bodies i more found
  · rw [List.getElem?_append_right le_rfl, Nat.sub_self] at found
    cases found
    exact fine
  · rw [List.getElem?_eq_none (by simpa using behind)] at found
    cases found

/-- One iteration. -/
theorem Filled.step (filled : batch.Filled rows s) (step : batch.step s = some s') : batch.Filled rows s' := by
  obtain ⟨unit, rest, queue, steps⟩ := batch.step_steps step
  obtain ⟨repeats, gone, conserved, dropped, refused⟩ := filled.conserved
  have loads : unit.Loads := filled.queue unit (by simp [queue])
  have others : ∀ unit ∈ rest, unit.Loads := fun other among => filled.queue other (by simp [queue, among])
  rw [queue] at conserved
  have dict := filled.dict
  cases steps with
  | unfit refused' alone =>
    obtain ⟨next, admitted⟩ := loads.admits
    rw [dict, alone] at refused'
    exact absurd (refused'.symm.trans admitted) (by simp)
  | next open' =>
    have fine : batch.Fine s.bodies.length s.current := ⟨open', filled.declared, .inl (filled.short open')⟩
    refine ⟨⟨repeats, gone, ?_, dropped, refused⟩, rfl, declared_nil, fun none' => absurd rfl none',
      filled.bodies_append fine, filled.queue⟩
    simpa [queue] using conserved
  | placed admitted fits =>
    rw [dict] at admitted
    obtain ⟨trial', declared⟩ := filled.declared.admitRefs admitted
    refine ⟨⟨repeats, gone, ?_, dropped, refused⟩, trial'.symm, declared, fun _ => ?_, filled.bodies, others⟩
    · simpa using conserved
    · rw [trial']
      exact fits
  | alone admitted alone edge =>
    rw [dict, alone] at admitted
    obtain ⟨trial', declared⟩ := declared_nil.admitRefs admitted
    rw [List.nil_append] at trial' declared
    have fine : batch.Fine s.bodies.length [unit] := ⟨by simp, declared, .inr ⟨unit, rfl, by rw [trial']; exact edge⟩⟩
    refine ⟨⟨repeats, gone, ?_, dropped, refused⟩, by rw [alone]; rfl, filled.declared, fun open' => absurd alone open',
      filled.bodies_append fine, others⟩
    simpa [alone] using conserved
  | refused admitted alone edge single =>
    rw [dict, alone] at admitted
    obtain ⟨trial', -⟩ := declared_nil.admitRefs admitted
    rw [List.nil_append] at trial'
    have lone : unit.len = 1 := by
      have filled := loads.filled
      omega
    have moved : (s.bodies.flatten ++ s.current ++ rest ++ (gone ++ [unit])).Perm
        (s.bodies.flatten ++ s.current ++ (unit :: rest) ++ gone) := by
      rw [← List.append_assoc]
      refine (List.perm_append_singleton _ _).trans ?_
      rw [List.append_assoc, List.append_assoc (s.bodies.flatten ++ s.current), List.cons_append]
      exact List.perm_middle.symm
    refine ⟨⟨repeats, gone ++ [unit], ?_, ?_, fun other among => ?_⟩, dict, filled.declared, filled.short, filled.bodies,
      others⟩
    · exact ((untake_perm moved).append (.refl _)).trans conserved
    · dsimp only
      rw [List.length_append, List.length_singleton, dropped, lone, Nat.add_assoc]
    · rcases List.mem_append.mp among with earlier | here
      · exact refused other earlier
      · rw [List.mem_singleton.mp here]
        exact ⟨lone, _, by rw [trial']; exact edge⟩
  | halved alone several =>
    obtain ⟨left, right⟩ := loads.split several
    refine ⟨⟨repeats, gone, ?_, dropped, refused⟩, dict, filled.declared, filled.short, filled.bodies, ?_⟩
    · have halves : untake (unit.split.1 :: unit.split.2 :: rest) = untake (unit :: rest) := by
        rw [untake_cons, untake_cons, ← Rows.append_assoc, Unit.split_rows, untake_cons]
      rw [untake_append, untake_append] at conserved ⊢
      rw [halves]
      exact conserved
    · simpa [left, right] using others

theorem fill_step (step : batch.step s = some s') : batch.fill s = batch.fill s' := by
  rw [Batch.fill]
  split
  · rename_i ends
    cases ends.symm.trans step
  · rename_i next
    cases next.symm.trans step
    rfl

theorem fill_ends (ends : batch.step s = none) : batch.fill s = s := by
  rw [Batch.fill]
  split
  · rfl
  · rename_i next
    cases next.symm.trans ends

/-- The whole loop: it keeps what an iteration keeps, and ends with nothing left in the queue. -/
theorem Filled.fill (filled : batch.Filled rows s) : batch.Filled rows (batch.fill s) ∧ (batch.fill s).queue = [] := by
  fun_induction Batch.fill batch s with
  | case1 s ends =>
    refine ⟨filled, ?_⟩
    unfold Batch.step at ends
    cases queue : s.queue with
    | nil => rfl
    | cons unit rest =>
      rw [queue] at ends
      dsimp only at ends
      split at ends <;> cases ends
  | case2 s s' step ih => exact ih (filled.step step)

/-- What the loop makes of the rows of a seal. -/
theorem filled_spec (batch : Batch) (rows : Rows) :
    batch.Filled rows (batch.filled rows) ∧ (batch.filled rows).queue = [] := by
  obtain ⟨repeats, same, dropped, loads⟩ := units_spec rows
  refine Filled.fill ⟨⟨repeats, [], ?_, dropped, nofun⟩, rfl, declared_nil, fun none' => absurd rfl none', nofun, loads⟩
  simpa using same

theorem bodies_cases (batch : Batch) (s : Filling) :
    (batch.bodies s = s.bodies ∧ (batch.mode = .early ∨ s.current = [])) ∨
      batch.bodies s = s.bodies ++ [s.current] ∧ batch.mode ≠ .early ∧ (s.current = [] → s.bodies = []) := by
  unfold Batch.bodies
  cases batch.mode with
  | early => exact .inl ⟨rfl, .inl rfl⟩
  | all =>
    dsimp only
    split_ifs with empty
    · exact .inl ⟨rfl, .inr empty⟩
    · exact .inr ⟨rfl, nofun, fun empty' => absurd empty' empty⟩
  | final =>
    dsimp only
    split_ifs with open'
    · refine .inr ⟨rfl, nofun, fun empty => ?_⟩
      rcases open' with filled | none'
      · exact absurd empty filled
      · exact none'
    · exact .inl ⟨rfl, .inr (by_contra fun filled => open' (.inl filled))⟩

/-- **No row of a seal goes missing**: every one is in a body, left for the next seal, a repeat
of a group that is there, or too long for the edge even alone, and the last two are counted. -/
theorem pack_conserves (batch : Batch) (rows : Rows) : ∃ repeats gone,
    (untake (batch.bodies (batch.filled rows)).flatten ++ (batch.pack rows).rest ++
      (untake gone ++ { groups := repeats })).Same rows ∧
    (batch.pack rows).dropped = repeats.length + gone.length ∧ ∀ unit ∈ gone, batch.Refused unit := by
  obtain ⟨filled, queue⟩ := filled_spec batch rows
  obtain ⟨repeats, gone, conserved, dropped, refused⟩ := filled.conserved
  refine ⟨repeats, gone, ?_, dropped, refused⟩
  rw [queue, List.append_nil, untake_append, untake_append, Rows.append_assoc] at conserved
  have sent : untake (batch.bodies (batch.filled rows)).flatten ++ (batch.pack rows).rest =
      untake (batch.filled rows).bodies.flatten ++ untake (batch.filled rows).current := by
    unfold Packed.rest Batch.pack
    dsimp only
    rcases batch.bodies_cases (batch.filled rows) with ⟨said, left⟩ | ⟨said, mode, -⟩
    · rw [said]
      by_cases empty : (batch.filled rows).current = []
      · rw [if_neg (by simp [empty]), empty]
        rfl
      · rw [if_pos ⟨left.resolve_right empty, empty⟩]
        rfl
    · rw [said, if_neg fun early => mode early.1, List.flatten_append, untake_append, List.flatten_singleton]
      exact Rows.append_empty _
  rw [sent]
  exact conserved

/-- Every body is fine, but for the one without rows that a final seal sends when it has none. -/
theorem bodies_fine {batch : Batch} {rows : Rows} {i : ℕ} {units : List Unit}
    (found : (batch.bodies (batch.filled rows))[i]? = some units) :
    batch.Fine i units ∨ units = [] ∧ batch.bodies (batch.filled rows) = [[]] := by
  obtain ⟨filled, -⟩ := filled_spec batch rows
  rcases batch.bodies_cases (batch.filled rows) with ⟨said, -⟩ | ⟨said, -, alone⟩
  · rw [said] at found
    exact .inl (filled.bodies i units found)
  · rw [said] at found
    by_cases empty : (batch.filled rows).current = []
    · rw [alone empty, empty, List.nil_append] at found said
      rw [List.getElem?_singleton] at found
      split_ifs at found
      cases found
      exact .inr ⟨rfl, said⟩
    · exact .inl (filled.bodies_append ⟨empty, filled.declared, .inl (filled.short empty)⟩ i units found)

end Batch

/-! ## Reading a body -/

/-- The relay and the track a row's numbers name. -/
def BodySpec.relay (body : BodySpec) (c : ℕ) : Option RelayRec := body.relays.find? (·.c = c)

def BodySpec.track (body : BodySpec) (tr : ℕ) : Option TrackRec := body.tracks.find? (·.id = tr)

/-- Numbered from `base` in their order, records are found by their numbers. -/
theorem find_mapIdx {α β : Type} (record : ℕ → α → β) (number : β → ℕ) (base : ℕ)
    (numbered : ∀ i a, number (record i a) = i + base) {l : List α} {i : ℕ} {a : α} (here : l[i]? = some a) :
    (l.mapIdx record).find? (number · = i + base) = some (record i a) := by
  obtain ⟨within, rfl⟩ := List.getElem?_eq_some_iff.mp here
  rw [List.find?_eq_some_iff_getElem]
  refine ⟨by simp [numbered], i, by simpa using within, by simp, fun j before => ?_⟩
  simp only [List.getElem_mapIdx, numbered, Nat.add_right_cancel_iff]
  simpa using before.ne

theorem findIdx_mem {α : Type} (wanted : α → Bool) {l : List α} {a : α} (member : a ∈ l) (meets : wanted a = true) :
    ∃ i b, l.findIdx? wanted = some i ∧ l[i]? = some b ∧ wanted b = true := by
  cases found : l.findIdx? wanted with
  | none => simp [List.findIdx?_eq_none_iff.mp found a member] at meets
  | some i =>
    obtain ⟨within, here, -⟩ := List.findIdx?_eq_some_iff_getElem.mp found
    exact ⟨i, l[i], rfl, List.getElem?_eq_getElem within, here⟩

/-- What a row names is declared, its connection's relay once and its track once, with the row's
own `k`. -/
theorem Batch.Declared.reads {units : List Unit} (declared : Declared units) (relays : ℕ → Option RelayInfo)
    (head : HeadFields) (seq : ℕ) (isFinal : Bool) {ref : Ref} (row : ref ∈ units.flatMap Unit.refs) :
    let dict := declare units
    let body := encode relays dict units head seq isFinal
    body.relay (cOf dict ref.1) = some (relayRec relays (cOf dict ref.1) ref.1) ∧
      ∀ track ∈ ref.2, body.track (trOf dict track.1) = some
        { id := trOf dict track.1, ns := track.1.ns, name := track.1.name, k := track.2 } := by
  intro dict body
  constructor
  · have member : ref.1 ∈ dict.relays := (declared.declares.relays _).mpr (List.mem_map_of_mem row)
    obtain ⟨c, conn, found, here, same⟩ := findIdx_mem (· = ref.1) member (decide_eq_true rfl)
    have number : cOf dict ref.1 = c := by
      unfold cOf
      rw [found]
      rfl
    rw [number, ← of_decide_eq_true same]
    refine find_mapIdx (relayRec relays) (·.c) 0 (fun i id => ?_) here
    unfold relayRec
    cases relays id <;> rfl
  · intro track needed
    have member : track ∈ dict.tracks := (declared.declares.tracks _).mpr (List.mem_filterMap.mpr ⟨ref, row, needed⟩)
    obtain ⟨i, found', found, here, same⟩ := findIdx_mem (·.1 = track.1) member (decide_eq_true rfl)
    have number : trOf dict track.1 = i + 1 := by
      unfold trOf
      rw [found]
      rfl
    have only : found' = track := List.inj_on_of_nodup_map declared.declares.tracks_once (List.mem_of_getElem? here) member
      (of_decide_eq_true same)
    rw [number, ← only]
    exact find_mapIdx trackRec (·.id) 1 (fun _ _ => rfl) here

/-- One stream reset, and a coding that writes nothing. -/
def reset : PendingEvent :=
  { conn := 7, ts := 1, track := some (⟨["live"], "v"⟩, 3), e := .streamReset, code := some 2 }

def silent : Batch where
  coding := { frames := fun _ => [], gzip := fun frames => frames, idempotencyKey := fun _ _ _ => "" }
  relays := fun id => if id = 7 then some { origin := "https://relay.example", openTs := 0 } else none
  head := { source := "enc", instanceId := "", ts := 1, wall := 2, lost := [], dropped := 0, clock := none, monitorName := "m",
            monitorVersion := "0" }
  nextSeq := 0
  mode := .all

theorem silent_bodies : silent.bodies (silent.filled { events := [reset] }) = [[.pev [reset]]] := by
  have chunked : units { events := [reset] } = ([.pev [reset]], 0) := by
    unfold units
    simp only [distinct, List.mergeSort_nil, List.length_nil, Nat.sub_self]
    rfl
  have placed : silent.step { queue := [.pev [reset]] } = some
      { queue := [], current := [.pev [reset]], dict := { relays := [7], tracks := [(⟨["live"], "v"⟩, 3)] } } := rfl
  unfold Batch.filled
  rw [chunked, Batch.fill_step placed, Batch.fill_ends rfl]
  rfl

/-- What is measured bounds what is sent. -/
theorem formLen_le (batch : Batch) (units : List Unit) (dict : Dict) (seq : ℕ) {isFinal : Bool}
    (last : isFinal = true → batch.mode = .final) : batch.formLen units dict seq isFinal ≤ batch.sealedLen units dict seq := by
  unfold Batch.sealedLen
  cases isFinal with
  | false => split_ifs <;> simp
  | true => simp [last rfl]

theorem gzip_le {batch : Batch} (slack : ∀ frames, (batch.coding.gzip frames).length ≤ frames.length + gzipSlack)
    (units : List Unit) (dict : Dict) (seq : ℕ) (isFinal : Bool) :
    (batch.coding.gzip (batch.coding.frames (encode batch.relays dict units batch.head seq isFinal))).length ≤
      max sealBytes (batch.formLen units dict seq isFinal) := by
  unfold Batch.formLen
  dsimp only
  split_ifs with small
  · exact ((slack _).trans small).trans (le_max_left ..)
  · exact le_max_right ..

end Moqtap.Packing
