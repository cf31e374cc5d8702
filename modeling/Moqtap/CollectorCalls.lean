import Mathlib
import Moqtap.Collector

/-! What the collector's calls do to the rows made and to the objects accepted, whatever else is
reported in between. `Collector.Holds` says where every group of every track of every
connection stands; each call keeps it. -/

namespace Moqtap.Monitor

/-- An object accepted, and what became of it. -/
structure Report where
  conn : ℕ
  track : TrackName
  object : Object
  fate : Fate
  deriving DecidableEq, Repr

def rowsOf (made : List PendingGroup) (conn : ℕ) (track : TrackName) (g : ℕ) : List PendingGroup :=
  made.filter (·.key = (conn, track, g))

def logOf (log : List Report) (conn : ℕ) (track : TrackName) (g : ℕ) : List (Object × Fate) :=
  (log.filter fun r => r.conn = conn ∧ r.track = track ∧ r.object.g = g).map fun r => (r.object, r.fate)

section Lists

variable {made made' : List PendingGroup} {log : List Report} {conn conn' : ℕ} {track track' : TrackName} {g : ℕ}

theorem rowsOf_append (made made' : List PendingGroup) (conn : ℕ) (track : TrackName) (g : ℕ) :
    rowsOf (made ++ made') conn track g = rowsOf made conn track g ++ rowsOf made' conn track g :=
  List.filter_append ..

theorem rowsOf_rows (closed : List OpenGroup) (conn : ℕ) (track : TrackName) (g : ℕ) :
    rowsOf (closed.map (·.row conn track)) conn track g = (closed.filter (·.g = g)).map (·.row conn track) := by
  unfold rowsOf
  rw [List.filter_map]
  congr 1
  apply List.filter_congr
  intro x _
  simp [PendingGroup.key, OpenGroup.row]

theorem rowsOf_others (closed : List OpenGroup) (other : (conn', track') ≠ (conn, track)) :
    rowsOf (closed.map (·.row conn' track')) conn track g = [] := by
  unfold rowsOf
  rw [List.filter_eq_nil_iff]
  intro row member same
  obtain ⟨x, -, rfl⟩ := List.mem_map.mp member
  simp only [PendingGroup.key, OpenGroup.row, decide_eq_true_eq, Prod.mk.injEq] at same
  exact other (Prod.ext same.1 same.2.1)

theorem logOf_append (log log' : List Report) (conn : ℕ) (track : TrackName) (g : ℕ) :
    logOf (log ++ log') conn track g = logOf log conn track g ++ logOf log' conn track g := by
  unfold logOf
  rw [List.filter_append, List.map_append]

/-- Every object of the reports is of one track of one connection. -/
theorem logOf_others {reports : List Report} (all : ∀ report ∈ reports, report.conn = conn' ∧ report.track = track')
    (other : (conn, track) ≠ (conn', track')) : logOf reports conn track g = [] := by
  unfold logOf
  rw [List.filter_eq_nil_iff.mpr, List.map_nil]
  intro report member same
  simp only [decide_eq_true_eq] at same
  obtain ⟨here, here'⟩ := all report member
  exact other (Prod.ext (same.1.symm.trans here) (same.2.1.symm.trans here'))

theorem logOf_report (report : Report) (g : ℕ) : logOf [report] report.conn report.track g =
    if g = report.object.g then [(report.object, report.fate)] else [] := by
  unfold logOf
  rw [List.filter_cons, List.filter_nil]
  by_cases same : g = report.object.g
  · simp [same]
  · simp [same, Ne.symm same]

/-- Of the lists gathered from a list without repeats, one member's alone meets a condition
that no other's does. -/
theorem filter_flatMap {α κ β : Type} (key : α → κ) (gather : α → List β) (wanted : β → Bool) {l : List α} {x : α}
    (member : x ∈ l) (distinct : (l.map key).Nodup)
    (others : ∀ y ∈ l, key y ≠ key x → (gather y).filter wanted = []) :
    (l.flatMap gather).filter wanted = (gather x).filter wanted := by
  induction l with
  | nil => cases member
  | cons y l ih =>
    rw [List.map_cons, List.nodup_cons] at distinct
    rw [List.flatMap_cons, List.filter_append]
    rcases List.mem_cons.mp member with rfl | member
    · have nothing : (l.flatMap gather).filter wanted = [] := by
        rw [List.filter_flatMap, List.flatMap_eq_nil_iff]
        intro z among
        refine others z (List.mem_cons_of_mem _ among) fun same => distinct.1 ?_
        rw [← same]
        exact List.mem_map_of_mem among
      rw [nothing, List.append_nil]
    · have elsewhere : key y ≠ key x := fun same => distinct.1 (same ▸ List.mem_map_of_mem member)
      rw [others y List.mem_cons_self elsewhere, List.nil_append]
      exact ih member distinct.2 fun z among => others z (List.mem_cons_of_mem _ among)

end Lists

/-! ## A connection -/

/-- Where every group of one connection stands. -/
structure Conn.Holds (id : ℕ) (conn : Conn) (made : List PendingGroup) (log : List Report) : Prop where
  distinct : (conn.pairs.map (·.track)).Nodup
  stands : ∀ p ∈ conn.pairs, ∃ memory, Stands id p memory (rowsOf made id p.track) (logOf log id p.track)
  unknown : ∀ track, track ∉ conn.pairs.map (·.track) → ∀ g,
    rowsOf made id track g = [] ∧ logOf log id track g = []
  finished : conn.closed = true → ∀ p ∈ conn.pairs, p.opened = []

/-- What a way of closing does to a pair: it splits the groups open, and touches nothing else. -/
structure Closes (close : Pair → Pair × List OpenGroup) : Prop where
  split : ∀ p, ((close p).2 ++ (close p).1.opened).Perm p.opened
  rest : ∀ p, { p with opened := (close p).1.opened } = (close p).1

theorem closeAll_closes : Closes Pair.closeAll where
  split p := by
    unfold Pair.closeAll
    rw [List.append_nil]
  rest _ := rfl

theorem finish_closes (monoMs idleMs : ℚ) (all : Bool) : Closes (Pair.finish · monoMs idleMs all) where
  split p := by
    unfold Pair.finish
    dsimp only
    rw [List.take_append_drop]
    exact List.mergeSort_perm ..
  rest _ := rfl

/-- The rows a connection closes of one track are those its pair closes. -/
theorem closing_rows {conn : Conn} {id g : ℕ} {close : Pair → Pair × List OpenGroup} {p : Pair} (member : p ∈ conn.pairs)
    (distinct : (conn.pairs.map (·.track)).Nodup) :
    rowsOf (conn.closing id close).2 id p.track g =
      ((close p).2.filter (·.g = g)).map (·.row id p.track) := by
  rw [← rowsOf_rows]
  exact filter_flatMap (·.track) _ _ member distinct fun q _ other =>
    rowsOf_others _ fun same => other (congrArg Prod.snd same)

theorem closing_others {conn : Conn} {id id' g : ℕ} {close : Pair → Pair × List OpenGroup} {track : TrackName}
    (other : id' = id → track ∉ conn.pairs.map (·.track)) : rowsOf (conn.closing id close).2 id' track g = [] := by
  unfold Conn.closing rowsOf
  rw [List.filter_flatMap, List.flatMap_eq_nil_iff]
  intro p member
  refine rowsOf_others _ fun same => ?_
  obtain ⟨same, same'⟩ := Prod.mk.inj same
  exact other same.symm (List.mem_map.mpr ⟨p, member, same'⟩)

namespace Conn.Holds

variable {id : ℕ} {conn : Conn} {made made' : List PendingGroup} {log log' : List Report}

theorem congr (holds : conn.Holds id made log) (rows : ∀ track g, (rowsOf made' id track g).Perm (rowsOf made id track g))
    (reports : ∀ track g, logOf log' id track g = logOf log id track g) : conn.Holds id made' log' where
  distinct := holds.distinct
  stands p member := by
    obtain ⟨memory, stands⟩ := holds.stands p member
    refine ⟨memory, stands.sound, stands.remembers, fun g => ?_⟩
    rw [reports]
    exact (stands.groups g).perm (rows _ g)
  unknown track absent g := by
    obtain ⟨nothing, silent⟩ := holds.unknown track absent g
    have none' := rows track g
    rw [nothing] at none'
    exact ⟨none'.eq_nil, (reports track g).trans silent⟩
  finished := holds.finished

/-- A pair put in the place of one of the same track. -/
theorem set (holds : conn.Holds id made log) (i : Fin conn.pairs.length) {q : Pair} {memory : ℕ → Option Bool}
    (open' : conn.closed = false) (track : q.track = (conn.pairs.get i).track)
    (stands : Stands id q memory (rowsOf made' id q.track) (logOf log' id q.track))
    (rows : ∀ track ≠ q.track, ∀ g, rowsOf made' id track g = rowsOf made id track g)
    (reports : ∀ track ≠ q.track, ∀ g, logOf log' id track g = logOf log id track g) :
    { conn with pairs := conn.pairs.set i q }.Holds id made' log' := by
  obtain ⟨before, after, split, -, replaced⟩ : ∃ before after, conn.pairs = before ++ conn.pairs[i.val] :: after ∧
      before.length = i.val ∧ conn.pairs.set i q = before ++ q :: after := List.exists_of_set i.isLt
  rw [List.get_eq_getElem] at track
  generalize conn.pairs[i.val] = p at track split
  have tracks : (conn.pairs.set i q).map (·.track) = conn.pairs.map (·.track) := by
    rw [replaced, split]
    simp [track]
  have others (p' : Pair) (member : p' ∈ conn.pairs.set i q) : p' = q ∨ p' ∈ conn.pairs ∧ p'.track ≠ q.track := by
    have distinct := holds.distinct
    rw [split, List.map_append, List.map_cons, List.nodup_middle, List.nodup_cons] at distinct
    rw [replaced] at member
    rcases List.mem_append.mp member with left | right
    · refine .inr ⟨by simp [split, left], fun same => distinct.1 ?_⟩
      rw [← track, ← same]
      exact List.mem_append_left _ (List.mem_map_of_mem left)
    · rcases List.mem_cons.mp right with here | right
      · exact .inl here
      · refine .inr ⟨by simp [split, right], fun same => distinct.1 ?_⟩
        rw [← track, ← same]
        exact List.mem_append_right _ (List.mem_map_of_mem right)
  refine ⟨tracks ▸ holds.distinct, fun p' member => ?_, fun other absent g => ?_, fun closed => ?_⟩
  · rcases others p' member with rfl | ⟨among, other⟩
    · exact ⟨memory, stands⟩
    · obtain ⟨memory', stands'⟩ := holds.stands p' among
      refine ⟨memory', stands'.sound, stands'.remembers, fun g => ?_⟩
      rw [rows _ other, reports _ other]
      exact stands'.groups g
  · have elsewhere : other ≠ q.track := fun same => absent (by simp [replaced, same])
    rw [rows _ elsewhere, reports _ elsewhere]
    exact holds.unknown other (tracks ▸ absent) g
  · exact absurd (open'.symm.trans closed) Bool.false_ne_true

/-- The pair an object or an event is of, found or added. -/
theorem pair (holds : conn.Holds id made log) {track : TrackName} {conn' : Conn} {i : Fin conn'.pairs.length}
    (found : conn.pair track = some ⟨conn', i⟩) :
    conn'.Holds id made log ∧ (conn'.pairs.get i).track = track ∧ conn'.closed = conn.closed := by
  unfold Conn.pair at found
  cases search : conn.pairs.findFinIdx? (·.track = track) with
  | some j =>
    rw [search] at found
    cases found
    refine ⟨holds, ?_, rfl⟩
    simpa using (List.findFinIdx?_eq_some_iff.mp search).1
  | none =>
    rw [search] at found
    dsimp only at found
    split_ifs at found
    cases found
    have absent : track ∉ conn.pairs.map (·.track) := by simpa [List.findFinIdx?_eq_none_iff] using search
    refine ⟨⟨?_, fun p member => ?_, fun other without g => ?_, fun closed p member => ?_⟩, by simp, rfl⟩
    · rw [List.map_append, List.map_singleton]
      exact List.nodup_append_comm.mp (List.nodup_cons.mpr ⟨absent, holds.distinct⟩)
    · rcases List.mem_append.mp member with among | new
      · exact holds.stands p among
      · rw [List.mem_singleton.mp new]
        refine ⟨fun _ => none, Pair.sound_new track, Pair.remembers_new track, fun g => ?_⟩
        obtain ⟨nothing, silent⟩ := holds.unknown track absent g
        rw [nothing, silent]
        exact .unstarted
    · exact holds.unknown other (fun among => without (by simp [among])) g
    · rcases List.mem_append.mp member with among | new
      · exact holds.finished closed p among
      · rw [List.mem_singleton.mp new]

/-- Every pair is closed in one way. -/
theorem closing {close : Pair → Pair × List OpenGroup} (holds : conn.Holds id made log) (closes : Closes close)
    (info : RelayInfo) {closed : Bool} (finished : closed = true → ∀ p ∈ conn.pairs, (close p).1.opened = []) :
    { info, closed, pairs := (conn.closing id close).1.pairs : Conn }.Holds id (made ++ (conn.closing id close).2) log := by
  have track (p : Pair) : (close p).1.track = p.track := by rw [← closes.rest p]
  have tracks : (conn.closing id close).1.pairs.map (·.track) = conn.pairs.map (·.track) := by
    unfold Conn.closing
    simp [Function.comp_def, track]
  refine ⟨tracks ▸ holds.distinct, fun q member => ?_, fun other absent g => ?_, fun done q member => ?_⟩
  · obtain ⟨p, among, rfl⟩ := List.mem_map.mp member
    obtain ⟨memory, stands⟩ := holds.stands p among
    have behind := stands.close (q := (close p).1) (closes.split p) (closes.rest p)
    refine ⟨memory, behind.sound, behind.remembers, fun g => ?_⟩
    have groups := behind.groups g
    rw [track] at groups
    rw [track, rowsOf_append, closing_rows among holds.distinct]
    exact groups
  · obtain ⟨nothing, silent⟩ := holds.unknown other (tracks ▸ absent) g
    rw [rowsOf_append, nothing, closing_others fun _ => tracks ▸ absent]
    exact ⟨rfl, silent⟩
  · obtain ⟨p, among, rfl⟩ := List.mem_map.mp member
    exact finished done p among

end Conn.Holds

/-! ## The collector -/

namespace Collector

variable {c c' : Collector} {made made' : List PendingGroup} {log log' : List Report} {id : ℕ} {track : TrackName}
  {object : Object} {monoMs : ℚ}

/-- Where every group of every connection stands, those that are forgotten with the rest. -/
structure Holds (c : Collector) (made : List PendingGroup) (log : List Report) : Prop where
  fresh : ∀ id, c.nextConn ≤ id → c.conns id = none ∧ ∀ track g, rowsOf made id track g = [] ∧ logOf log id track g = []
  gone : ∀ id, c.conns id = none → ∀ track g, ∃ known,
    Standing id track g known (rowsOf made id track g) [] (logOf log id track g)
  conns : ∀ id conn, c.conns id = some conn → conn.Holds id made log

theorem holds_new (perObject : Bool) : Holds { perObject } [] [] where
  fresh _ _ := ⟨rfl, fun _ _ => ⟨rfl, rfl⟩⟩
  gone _ _ _ _ := ⟨none, .unstarted⟩
  conns _ _ found := nomatch found

theorem put_self (c : Collector) (id : ℕ) (conn : Conn) : (c.put id conn).conns id = some conn :=
  Function.update_self ..

theorem put_of_ne (c : Collector) {id other : ℕ} (conn : Conn) (elsewhere : other ≠ id) :
    (c.put id conn).conns other = c.conns other := Function.update_of_ne elsewhere ..

namespace Holds

theorem below (holds : c.Holds made log) {conn : Conn} (found : c.conns id = some conn) : id < c.nextConn := by
  by_contra beyond
  rw [(holds.fresh id (not_lt.mp beyond)).1] at found
  cases found

theorem perm (holds : c.Holds made log) (same : made'.Perm made) : c.Holds made' log where
  fresh id beyond := by
    refine ⟨(holds.fresh id beyond).1, fun track g => ?_⟩
    have none' := same.filter fun row => decide (row.key = (id, track, g))
    have nothing := (holds.fresh id beyond).2 track g
    unfold rowsOf at nothing ⊢
    rw [nothing.1] at none'
    exact ⟨none'.eq_nil, nothing.2⟩
  gone id missing track g := by
    obtain ⟨known, standing⟩ := holds.gone id missing track g
    exact ⟨known, standing.perm (same.filter _)⟩
  conns id conn found := (holds.conns id conn found).congr (fun _ _ => same.filter _) fun _ _ => rfl

theorem congr (holds : c.Holds made log) (conns : c'.conns = c.conns) (next : c'.nextConn = c.nextConn) :
    c'.Holds made log where
  fresh id beyond := by
    rw [conns]
    exact holds.fresh id (next ▸ beyond)
  gone id missing := holds.gone id (conns ▸ missing)
  conns id conn found := holds.conns id conn (conns ▸ found)

/-- One connection changes, and with it the rows and the objects of that connection alone. -/
theorem update (holds : c.Holds made log) {conn : Conn} (within : id < c.nextConn) (behind : conn.Holds id made' log')
    (rows : ∀ id' ≠ id, ∀ track g, rowsOf made' id' track g = rowsOf made id' track g)
    (reports : ∀ id' ≠ id, ∀ track g, logOf log' id' track g = logOf log id' track g) :
    (c.put id conn).Holds made' log' where
  fresh id' beyond := by
    have other : id' ≠ id := fun same => absurd beyond (not_le.mpr (same ▸ within))
    refine ⟨(c.put_of_ne conn other).trans (holds.fresh id' beyond).1, fun track g => ?_⟩
    rw [rows id' other, reports id' other]
    exact (holds.fresh id' beyond).2 track g
  gone id' missing track g := by
    by_cases same : id' = id
    · rw [same, put_self] at missing
      cases missing
    · rw [rows id' same, reports id' same]
      exact holds.gone id' ((c.put_of_ne conn same).symm.trans missing) track g
  conns id' conn' found := by
    by_cases same : id' = id
    · subst same
      cases (c.put_self id' conn).symm.trans found
      exact behind
    · refine (holds.conns id' conn' ((c.put_of_ne conn same).symm.trans found)).congr (fun track g => ?_) fun track g => ?_
      · rw [rows id' same]
      · exact reports id' same track g

theorem connect (holds : c.Holds made log) (origin : String) (openTs : ℕ) :
    (c.connect origin openTs).2.Holds made log := by
  unfold Collector.connect
  split_ifs
  · exact holds
  have raised : { c with nextConn := c.nextConn + 1 }.Holds made log :=
    ⟨fun id beyond => holds.fresh id ((Nat.le_succ _).trans beyond), holds.gone, holds.conns⟩
  have nothing := (holds.fresh c.nextConn le_rfl).2
  exact raised.update (Nat.lt_succ_self c.nextConn) ⟨List.nodup_nil, nofun, fun track _ g => nothing track g, nofun⟩
    (fun _ _ _ _ => rfl) fun _ _ _ _ => rfl

theorem setDraft (holds : c.Holds made log) (id draft : ℕ) : (c.setDraft id draft).2.Holds made log := by
  unfold Collector.setDraft
  split_ifs
  · exact holds.congr rfl rfl
  cases found : c.conns id with
  | none => exact holds.congr rfl rfl
  | some conn =>
    dsimp only
    split_ifs
    · exact holds.congr rfl rfl
    obtain ⟨distinct, stands, unknown, finished⟩ := holds.conns id conn found
    exact holds.update (holds.below found) ⟨distinct, stands, unknown, finished⟩ (fun _ _ _ _ => rfl) fun _ _ _ _ => rfl

theorem prune (holds : c.Holds made log) : c.prune.Holds made log where
  fresh id beyond := by
    refine ⟨?_, (holds.fresh id beyond).2⟩
    exact Option.filter_eq_none_iff.mpr fun conn found => nomatch (holds.fresh id beyond).1.symm.trans found
  gone id missing track g := by
    cases found : c.conns id with
    | none => exact holds.gone id found track g
    | some conn =>
      -- what is forgotten is a closed connection, which has no group open
      have closed : conn.closed = true := by
        have forgotten := Option.filter_eq_none_iff.mp missing conn found
        simp only [Bool.or_eq_true, not_or] at forgotten
        simpa using forgotten.1.1.1
      have behind := holds.conns id conn found
      by_cases known : track ∈ conn.pairs.map (·.track)
      · obtain ⟨p, member, rfl⟩ := List.mem_map.mp known
        obtain ⟨memory, stands⟩ := behind.stands p member
        have standing := stands.groups g
        unfold Pair.openAt at standing
        rw [behind.finished closed p member] at standing
        exact ⟨_, standing⟩
      · obtain ⟨nothing, silent⟩ := behind.unknown track known g
        rw [nothing, silent]
        exact ⟨none, .unstarted⟩
  conns id conn kept := holds.conns id conn (Option.filter_eq_some_iff.mp kept).1

end Holds

end Collector

/-! ## Rows kept and rows dropped -/

namespace Rows

instance : Append Rows where
  append a b := ⟨a.groups ++ b.groups, a.objects ++ b.objects, a.events ++ b.events⟩

def count (rows : Rows) : ℕ := rows.groups.length + rows.objects.length + rows.events.length

/-- The same rows, in whatever order. -/
structure Same (a b : Rows) : Prop where
  groups : a.groups.Perm b.groups
  objects : a.objects.Perm b.objects
  events : a.events.Perm b.events

variable {a a' b b' d : Rows}

theorem Same.refl (a : Rows) : a.Same a := ⟨.rfl, .rfl, .rfl⟩

theorem Same.symm (same : a.Same b) : b.Same a := ⟨same.groups.symm, same.objects.symm, same.events.symm⟩

theorem Same.trans (same : a.Same b) (same' : b.Same d) : a.Same d :=
  ⟨same.groups.trans same'.groups, same.objects.trans same'.objects, same.events.trans same'.events⟩

theorem Same.append (same : a.Same b) (same' : a'.Same b') : (a ++ a').Same (b ++ b') :=
  ⟨same.groups.append same'.groups, same.objects.append same'.objects, same.events.append same'.events⟩

theorem Same.comm (a b : Rows) : (a ++ b).Same (b ++ a) :=
  ⟨List.perm_append_comm, List.perm_append_comm, List.perm_append_comm⟩

@[simp] theorem append_groups (a b : Rows) : (a ++ b).groups = a.groups ++ b.groups := rfl

@[simp] theorem append_objects (a b : Rows) : (a ++ b).objects = a.objects ++ b.objects := rfl

@[simp] theorem append_events (a b : Rows) : (a ++ b).events = a.events ++ b.events := rfl

theorem append_assoc (a b d : Rows) : a ++ b ++ d = a ++ (b ++ d) := by
  change Rows.mk (a.groups ++ b.groups ++ d.groups) (a.objects ++ b.objects ++ d.objects) (a.events ++ b.events ++ d.events) = _
  rw [List.append_assoc, List.append_assoc, List.append_assoc]
  rfl

theorem append_empty (a : Rows) : a ++ {} = a := by
  change Rows.mk (a.groups ++ []) (a.objects ++ []) (a.events ++ []) = _
  rw [List.append_nil, List.append_nil, List.append_nil]

theorem empty_append (a : Rows) : {} ++ a = a := rfl

theorem count_append (a b : Rows) : (a ++ b).count = a.count + b.count := by
  unfold count
  simp only [append_groups, append_objects, append_events, List.length_append]
  omega

theorem Same.count (same : a.Same b) : a.count = b.count := by
  unfold Rows.count
  rw [same.groups.length_eq, same.objects.length_eq, same.events.length_eq]

/-- The rows without their order. -/
def bag (rows : Rows) : Multiset PendingGroup × Multiset PendingObject × Multiset PendingEvent :=
  (rows.groups, rows.objects, rows.events)

theorem bag_append (a b : Rows) : (a ++ b).bag = a.bag + b.bag := rfl

theorem same_iff : a.Same b ↔ a.bag = b.bag := by
  refine ⟨fun same => ?_, fun same => ?_⟩
  · exact Prod.ext (Multiset.coe_eq_coe.mpr same.groups)
      (Prod.ext (Multiset.coe_eq_coe.mpr same.objects) (Multiset.coe_eq_coe.mpr same.events))
  · obtain ⟨groups, others⟩ := Prod.mk.inj same
    obtain ⟨objects, events⟩ := Prod.mk.inj others
    exact ⟨Multiset.coe_eq_coe.mp groups, Multiset.coe_eq_coe.mp objects, Multiset.coe_eq_coe.mp events⟩

end Rows

namespace Collector

/-- Rows are pushed: kept, but for those that are dropped and counted. -/
structure Pushes (c : Collector) (new : Rows) (c' : Collector) (lost : Rows) : Prop where
  conns : c'.conns = c.conns
  nextConn : c'.nextConn = c.nextConn
  perObject : c'.perObject = c.perObject
  stopped : c'.stopped = c.stopped
  rows : (c'.rows ++ lost).Same (c.rows ++ new)
  dropped : c'.dropped = c.dropped + lost.count

variable {c c' c'' : Collector} {new new' lost lost' : Rows}

theorem Pushes.trans (first : c.Pushes new c' lost) (second : c'.Pushes new' c'' lost') :
    c.Pushes (new ++ new') c'' (lost ++ lost') where
  conns := second.conns.trans first.conns
  nextConn := second.nextConn.trans first.nextConn
  perObject := second.perObject.trans first.perObject
  stopped := second.stopped.trans first.stopped
  rows := by
    have before := Rows.same_iff.mp first.rows
    have behind := Rows.same_iff.mp second.rows
    rw [Rows.same_iff]
    simp only [Rows.bag_append] at before behind ⊢
    calc c''.rows.bag + (lost.bag + lost'.bag) = c''.rows.bag + lost'.bag + lost.bag := by abel
      _ = c'.rows.bag + lost.bag + new'.bag := by rw [behind, add_right_comm]
      _ = c.rows.bag + (new.bag + new'.bag) := by rw [before, add_assoc]
  dropped := by rw [second.dropped, first.dropped, Rows.count_append, Nat.add_assoc]

theorem Pushes.nothing (c : Collector) : c.Pushes {} c {} where
  conns := rfl
  nextConn := rfl
  perObject := rfl
  stopped := rfl
  rows := .refl _
  dropped := rfl

theorem pushGroup_pushes (c : Collector) (row : PendingGroup) :
    ∃ lost, c.Pushes { groups := [row] } (c.pushGroup row) lost := by
  unfold pushGroup
  split_ifs
  · exact ⟨{ groups := [row] }, rfl, rfl, rfl, rfl, .refl _, rfl⟩
  · refine ⟨{}, rfl, rfl, rfl, rfl, ?_, rfl⟩
    rw [Rows.append_empty]
    exact ⟨.rfl, .of_eq (List.append_nil _).symm, .of_eq (List.append_nil _).symm⟩

theorem pushGroups_pushes (c : Collector) (rows : List PendingGroup) :
    ∃ lost, c.Pushes { groups := rows } (c.pushGroups rows) lost := by
  unfold pushGroups
  induction rows generalizing c with
  | nil => exact ⟨{}, .nothing c⟩
  | cons row rows ih =>
    obtain ⟨lost, first⟩ := c.pushGroup_pushes row
    obtain ⟨lost', others⟩ := ih (c.pushGroup row)
    exact ⟨lost ++ lost', first.trans others⟩

theorem pushObject_pushes (c : Collector) (row : PendingObject) :
    ∃ lost, c.Pushes { objects := [row] } (c.pushObject row) lost := by
  unfold pushObject
  split_ifs
  · exact ⟨{ objects := [row] }, rfl, rfl, rfl, rfl, .refl _, rfl⟩
  · refine ⟨{}, rfl, rfl, rfl, rfl, ?_, rfl⟩
    rw [Rows.append_empty]
    exact ⟨.of_eq (List.append_nil _).symm, .rfl, .of_eq (List.append_nil _).symm⟩

theorem pushEvent_pushes (c : Collector) (row : PendingEvent) :
    ∃ lost, c.Pushes { events := [row] } (c.pushEvent row) lost := by
  unfold pushEvent
  split_ifs
  · exact ⟨{ events := [row] }, rfl, rfl, rfl, rfl, .refl _, rfl⟩
  · refine ⟨{}, rfl, rfl, rfl, rfl, ?_, rfl⟩
    rw [Rows.append_empty]
    exact ⟨.of_eq (List.append_nil _).symm, .of_eq (List.append_nil _).symm, .rfl⟩

end Collector

/-! ## Calls -/

def PendingObject.sent (row : PendingObject) : ℕ × TrackName × Object :=
  (row.conn, row.track, { row with size := row.bytes })

def Report.sent (report : Report) : ℕ × TrackName × Object := (report.conn, report.track, report.object)

def Arrived.report (arrived : Arrived) (conn : ℕ) (track : TrackName) (object : Object) : Report :=
  { conn, track, object, fate := arrived.fate object.g }

namespace Collector

variable {c c' : Collector} {made : List PendingGroup} {log : List Report} {new lost : Rows} {reports : List Report}
  {id : ℕ} {track : TrackName} {object : Object} {monoMs : ℚ}

/-- The object rows of the objects counted, if there are object rows. -/
def Details (perObject : Bool) (objects : List PendingObject) (reports : List Report) : Prop :=
  (objects.map PendingObject.sent).Perm
    (if perObject then (reports.filter (·.fate = .counted)).map Report.sent else [])

/-- What a call does: rows are made, of which some are dropped, and objects are accepted. -/
structure Does (c : Collector) (new : Rows) (reports : List Report) (c' : Collector) (lost : Rows) : Prop where
  rows : (c'.rows ++ lost).Same (c.rows ++ new)
  dropped : c'.dropped = c.dropped + lost.count + reports.countP (·.fate = .late)
  objects : Details c.perObject new.objects reports
  holds : ∀ made log, c.Holds made log → c'.Holds (made ++ new.groups) (log ++ reports)
  perObject : c'.perObject = c.perObject
  stopped : c'.stopped = c.stopped

theorem details_nil (perObject : Bool) : Details perObject [] [] := by
  unfold Details
  split_ifs <;> rfl

/-- A call that makes no row and accepts no object. -/
theorem Does.idle (rows : c'.rows = c.rows) (dropped : c'.dropped = c.dropped) (perObject : c'.perObject = c.perObject)
    (stopped : c'.stopped = c.stopped) (holds : ∀ made log, c.Holds made log → c'.Holds made log) :
    c.Does {} [] c' {} where
  rows := by
    rw [rows]
    exact .refl _
  dropped := dropped
  objects := details_nil _
  holds made log standing := by
    change c'.Holds (made ++ []) (log ++ [])
    rw [List.append_nil, List.append_nil]
    exact holds made log standing
  perObject := perObject
  stopped := stopped

theorem refuse_does (c : Collector) {α : Type} (why : Refused) : c.Does {} [] (c.refuse (α := α) why).2 {} :=
  .idle rfl rfl rfl rfl fun _ _ holds => holds.congr rfl rfl

theorem connect_does (c : Collector) (origin : String) (openTs : ℕ) : c.Does {} [] (c.connect origin openTs).2 {} := by
  refine .idle ?_ ?_ ?_ ?_ fun _ _ holds => holds.connect origin openTs
  all_goals
    unfold connect
    split_ifs <;> rfl

theorem setDraft_does (c : Collector) (id draft : ℕ) : c.Does {} [] (c.setDraft id draft).2 {} := by
  refine .idle ?_ ?_ ?_ ?_ fun _ _ holds => holds.setDraft id draft
  all_goals
    unfold setDraft
    split_ifs
    · rfl
    cases c.conns id with
    | none => rfl
    | some conn =>
      dsimp only
      split_ifs <;> rfl

theorem prune_does (c : Collector) : c.Does {} [] c.prune {} := .idle rfl rfl rfl rfl fun _ _ holds => holds.prune

theorem reception_ok {conn : Conn} {arrived : Arrived} (accepted : c.reception id track object monoMs = .ok (conn, arrived)) :
    object.InRange ∧ ∃ before known i, c.conns id = some before ∧ before.closed = false ∧
      before.pair track = some ⟨known, i⟩ ∧ arrived = (known.pairs.get i).arrive c.perObject object monoMs ∧
      conn = { known with pairs := known.pairs.set i arrived.pair } := by
  unfold reception at accepted
  split_ifs at accepted with stopped inRange
  cases found : c.conns id with
  | none => simp [found] at accepted
  | some before =>
    rw [found] at accepted
    dsimp only at accepted
    split_ifs at accepted with closed
    cases located : before.pair track with
    | none => simp [located] at accepted
    | some place =>
      obtain ⟨known, i⟩ := place
      rw [located] at accepted
      cases accepted
      exact ⟨inRange, before, known, i, rfl, by simpa using closed, located, rfl, rfl⟩

/-- The object a call of `object_sent` has accepted, if it has. -/
def report (c : Collector) (id : ℕ) (track : TrackName) (object : Object) (monoMs : ℚ) : List Report :=
  match c.reception id track object monoMs with
  | .error _ => []
  | .ok (_, arrived) => [arrived.report id track object]

theorem Pushes.does (pushes : c.Pushes new c' lost) (objects : new.objects = [])
    (holds : ∀ made log, c.Holds made log → c.Holds (made ++ new.groups) log) : c.Does new [] c' lost where
  rows := pushes.rows
  dropped := pushes.dropped
  objects := by
    rw [objects]
    exact details_nil _
  holds made log standing := by
    rw [List.append_nil]
    exact (holds made log standing).congr pushes.conns pushes.nextConn
  perObject := pushes.perObject
  stopped := pushes.stopped

theorem received_pushes (c : Collector) (id : ℕ) (track : TrackName) (object : Object) (conn : Conn) (arrived : Arrived) :
    ∃ new lost, { c.put id conn with dropped := c.dropped + arrived.late.toNat }.Pushes new
        (c.received id track object conn arrived) lost ∧
      new.groups = arrived.rows id track ∧
      new.objects.map PendingObject.sent = if arrived.objectRow.isSome then [(id, track, object)] else [] := by
  unfold received
  cases arrived.objectRow with
  | none =>
    obtain ⟨lost, pushes⟩ := pushGroups_pushes { c.put id conn with dropped := c.dropped + arrived.late.toNat }
      (arrived.rows id track)
    exact ⟨_, lost, pushes, rfl, rfl⟩
  | some k =>
    obtain ⟨lost, first⟩ := pushObject_pushes { c.put id conn with dropped := c.dropped + arrived.late.toNat }
      { object with conn := id, track, k, bytes := object.size }
    obtain ⟨lost', others⟩ := pushGroups_pushes _ (arrived.rows id track)
    exact ⟨_, lost ++ lost', first.trans others, rfl, rfl⟩

/-- One pair of a connection changes, closing groups and taking in objects of its own track. -/
theorem Holds.replace {before known : Conn} {i : Fin known.pairs.length} {q : Pair} {closed : List OpenGroup}
    {memory : ℕ → Option Bool} (holds : c.Holds made log) (found : c.conns id = some before)
    (open' : before.closed = false) (located : before.pair track = some ⟨known, i⟩) (kept : q.track = track)
    (behind : Stands id q memory (fun g => rowsOf made id track g ++ (closed.filter (·.g = g)).map (·.row id track))
      fun g => logOf log id track g ++ logOf reports id track g)
    (all : ∀ report ∈ reports, report.conn = id ∧ report.track = track) :
    (c.put id { known with pairs := known.pairs.set i q }).Holds (made ++ closed.map (OpenGroup.row · id track)) (log ++ reports) := by
  obtain ⟨standing, here, still⟩ := (holds.conns id before found).pair located
  have rows (id' : ℕ) (track' : TrackName) (other : (id', track') ≠ (id, track)) (g : ℕ) :
      rowsOf (made ++ closed.map (·.row id track)) id' track' g = rowsOf made id' track' g := by
    rw [rowsOf_append, rowsOf_others _ other.symm, List.append_nil]
  have objects (id' : ℕ) (track' : TrackName) (other : (id', track') ≠ (id, track)) (g : ℕ) :
      logOf (log ++ reports) id' track' g = logOf log id' track' g := by
    rw [logOf_append, logOf_others all other, List.append_nil]
  have stands : Stands id q memory (rowsOf (made ++ closed.map (·.row id track)) id q.track)
      (logOf (log ++ reports) id q.track) := by
    refine ⟨behind.sound, behind.remembers, fun g => ?_⟩
    rw [kept, rowsOf_append, rowsOf_rows, logOf_append]
    exact kept ▸ behind.groups g
  refine holds.update (holds.below found) (standing.set i (still.trans open') (kept.trans here.symm) stands ?_ ?_) ?_ ?_
  · exact fun track' other => rows id track' fun same => other ((Prod.mk.inj same).2.trans kept.symm)
  · exact fun track' other => objects id track' fun same => other ((Prod.mk.inj same).2.trans kept.symm)
  · exact fun id' other track' => rows id' track' fun same => other (Prod.mk.inj same).1
  · exact fun id' other track' => objects id' track' fun same => other (Prod.mk.inj same).1

/-- What an accepted object does to its connection. -/
theorem received_holds {conn : Conn} {arrived : Arrived} (holds : c.Holds made log)
    (accepted : c.reception id track object monoMs = .ok (conn, arrived)) :
    (c.put id conn).Holds (made ++ arrived.rows id track)
      (log ++ [arrived.report id track object]) := by
  obtain ⟨inRange, before, known, i, found, open', located, said, rfl⟩ := reception_ok accepted
  obtain ⟨standing, here, -⟩ := (holds.conns id before found).pair located
  obtain ⟨memory, stands⟩ := standing.stands _ (List.get_mem known.pairs i)
  obtain ⟨memory', kept, behind⟩ := stands.arrive inRange c.perObject monoMs
  rw [← said, here] at kept behind
  have same (g : ℕ) : logOf [arrived.report id track object] id track g =
      if g = object.g then [(object, arrived.fate object.g)] else [] := logOf_report (arrived.report id track object) g
  simp only [← same] at behind
  exact holds.replace found open' located kept behind (by simp [Arrived.report])

theorem objectSent_does (c : Collector) (id : ℕ) (track : TrackName) (object : Object) (monoMs : ℚ) :
    ∃ new lost, c.Does new (c.report id track object monoMs) (c.objectSent id track object monoMs).2 lost := by
  unfold objectSent report
  cases accepted : c.reception id track object monoMs with
  | error why => exact ⟨_, _, c.refuse_does why⟩
  | ok received =>
    obtain ⟨conn, arrived⟩ := received
    obtain ⟨new, lost, pushes, groups, objects⟩ := c.received_pushes id track object conn arrived
    obtain ⟨-, -, known, i, -, -, -, said, -⟩ := reception_ok accepted
    have row : arrived.objectRow.isSome = (c.perObject && arrived.fate object.g = .counted) := by
      rw [said]
      exact Pair.arrive_row ..
    refine ⟨new, lost, pushes.rows, ?_, ?_, fun made log holds => ?_, pushes.perObject, pushes.stopped⟩
    · rw [pushes.dropped]
      dsimp only
      rw [List.countP_singleton, Nat.add_right_comm]
      have late : decide ((arrived.report id track object).fate = .late) = arrived.late := by
        unfold Arrived.report Arrived.fate
        cases arrived.late
        · split_ifs <;> simp_all
        · simp
      rw [late]
      cases arrived.late <;> rfl
    · unfold Details
      rw [objects, row]
      cases c.perObject <;> by_cases counted : arrived.fate object.g = .counted <;>
        simp [Arrived.report, Report.sent, counted]
    · rw [groups]
      exact (received_holds holds accepted).congr pushes.conns pushes.nextConn

theorem Does.refused {α : Type} (does : c.Does new reports c' lost) (why : Refused) :
    c.Does new reports (c'.refuse (α := α) why).2 lost where
  rows := does.rows
  dropped := does.dropped
  objects := does.objects
  holds made log holds := (does.holds made log holds).congr rfl rfl
  perObject := does.perObject
  stopped := does.stopped

/-- Rows of one connection pushed behind a change of it. -/
theorem Pushes.replaces {conns : ℕ → Option Conn} (pushes : { c with conns }.Pushes new c' lost) (objects : new.objects = [])
    (holds : ∀ made log, c.Holds made log → { c with conns }.Holds (made ++ new.groups) log) : c.Does new [] c' lost where
  rows := pushes.rows
  dropped := pushes.dropped
  objects := by
    rw [objects]
    exact details_nil _
  holds made log standing := by
    rw [List.append_nil]
    exact (holds made log standing).congr pushes.conns pushes.nextConn
  perObject := pushes.perObject
  stopped := pushes.stopped

/-- A connection closes its groups, whatever else is written of it. -/
theorem Holds.closing {conn : Conn} {close : Pair → Pair × List OpenGroup} (holds : c.Holds made log)
    (found : c.conns id = some conn) (closes : Closes close) (info : RelayInfo) {closed : Bool}
    (finished : closed = true → ∀ p ∈ conn.pairs, (close p).1.opened = []) :
    (c.put id { info, closed, pairs := (conn.closing id close).1.pairs }).Holds (made ++ (conn.closing id close).2) log := by
  refine holds.update (holds.below found) ((holds.conns id conn found).closing closes info finished) ?_ fun _ _ _ _ => rfl
  intro id' other track g
  rw [rowsOf_append, closing_others fun same => absurd same other, List.append_nil]

theorem close_does (c : Collector) (id ts : ℕ) (code : Option ℕ) :
    ∃ new lost, c.Does new [] (c.close id ts code).2 lost := by
  unfold close
  cases found : c.conns id with
  | none => exact ⟨_, _, .idle rfl rfl rfl rfl fun _ _ holds => holds⟩
  | some conn =>
    dsimp only
    split
    · exact ⟨_, _, .idle rfl rfl rfl rfl fun _ _ holds => holds⟩
    generalize code.filter (fun _ => code.all (· ≤ maxSafeInteger)) = code'
    obtain ⟨lost, pushes⟩ := pushGroups_pushes (c.put id ((conn.shut ts code').closing id Pair.closeAll).1)
      ((conn.shut ts code').closing id Pair.closeAll).2
    have does := pushes.replaces rfl fun made log holds => holds.closing found closeAll_closes _ fun _ _ _ => rfl
    split
    · exact ⟨_, lost, does⟩
    · exact ⟨_, lost, does.refused _⟩

/-- A track's pair closes some of its groups, or none. -/
theorem Holds.closes {before known : Conn} {i : Fin known.pairs.length} {q : Pair} {closed : List OpenGroup}
    (holds : c.Holds made log) (found : c.conns id = some before) (open' : before.closed = false)
    (located : before.pair track = some ⟨known, i⟩) (split : (closed ++ q.opened).Perm (known.pairs.get i).opened)
    (rest : { known.pairs.get i with opened := q.opened } = q) :
    (c.put id { known with pairs := known.pairs.set i q }).Holds (made ++ closed.map (OpenGroup.row · id track)) log := by
  obtain ⟨standing, here, -⟩ := (holds.conns id before found).pair located
  obtain ⟨memory, stands⟩ := standing.stands _ (List.get_mem known.pairs i)
  have kept : q.track = track := by
    rw [← rest]
    exact here
  have behind : Stands id q memory
      (fun g => rowsOf made id track g ++ (closed.filter (·.g = g)).map (OpenGroup.row · id track))
      (fun g => logOf log id track g ++ logOf [] id track g) := by
    have closed' := stands.close split rest
    rw [here] at closed'
    have silent (g : ℕ) : logOf [] id track g = [] := rfl
    simpa only [silent, List.append_nil] using closed'
  have replaced := holds.replace found open' located kept behind nofun
  rwa [List.append_nil] at replaced

theorem event_does (c : Collector) (id : ℕ) (track : Option TrackName) (e : EventKind) (code : Option ℕ) (ts : ℕ) :
    ∃ new lost, c.Does new [] (c.event id track e code ts).2 lost := by
  unfold event
  split
  · exact ⟨_, _, c.refuse_does _⟩
  split
  · exact ⟨_, _, c.refuse_does _⟩
  cases found : c.conns id with
  | none => exact ⟨_, _, c.refuse_does _⟩
  | some conn =>
    dsimp only
    split
    · exact ⟨_, _, c.refuse_does _⟩
    rename_i open'
    cases track with
    | none =>
      obtain ⟨lost, pushes⟩ := c.pushEvent_pushes { conn := id, ts, track := none, e, code }
      refine ⟨_, lost, pushes.replaces rfl fun made log holds => ?_⟩
      rw [List.append_nil]
      exact holds
    | some track =>
      dsimp only
      cases located : conn.pair track with
      | none => exact ⟨_, _, c.refuse_does _⟩
      | some place =>
        obtain ⟨known, i⟩ := place
        dsimp only
        generalize closing : (if e = .publishDone then (known.pairs.get i).closeAll else (known.pairs.get i, [])) = closed
        have closes : (closed.2 ++ closed.1.opened).Perm (known.pairs.get i).opened ∧
            { known.pairs.get i with opened := closed.1.opened } = closed.1 := by
          rw [← closing]
          split_ifs
          · exact ⟨closeAll_closes.split _, rfl⟩
          · exact ⟨.rfl, rfl⟩
        obtain ⟨lost, first⟩ := pushEvent_pushes (c.put id { known with pairs := known.pairs.set i closed.1 })
          { conn := id, ts, track := some ((known.pairs.get i).track, (known.pairs.get i).k), e, code }
        obtain ⟨lost', others⟩ := pushGroups_pushes _ (closed.2.map (·.row id (known.pairs.get i).track))
        refine ⟨_, lost ++ lost', (first.trans others).replaces rfl fun made log holds => ?_⟩
        obtain ⟨-, here, -⟩ := (holds.conns id conn found).pair located
        have standing := holds.closes found (by simpa using open') located closes.1 closes.2
        rw [here]
        exact standing

theorem Holds.finish (holds : c.Holds made log) (monoMs idleMs : ℚ) (all : Bool) :
    (c.finish monoMs idleMs all).1.Holds (made ++ (c.finish monoMs idleMs all).2) log := by
  have others {id id' : ℕ} (other : id' ≠ id) (track : TrackName) (g : ℕ) :
      rowsOf (((c.conns id').map fun conn => (conn.closing id' (Pair.finish · monoMs idleMs all)).2).getD []) id track g = [] := by
    cases c.conns id' with
    | none => rfl
    | some conn => exact closing_others fun same => absurd same.symm other
  have rows {id : ℕ} (track : TrackName) (g : ℕ) : rowsOf (made ++ (c.finish monoMs idleMs all).2) id track g =
      rowsOf made id track g ++
        rowsOf (((c.conns id).map fun conn => (conn.closing id (Pair.finish · monoMs idleMs all)).2).getD []) id track g := by
    rw [rowsOf_append]
    congr 1
    by_cases within : id < c.nextConn
    · refine filter_flatMap (fun i : ℕ => i) _ _ (List.mem_range.mpr within) (by simpa using List.nodup_range) ?_
      exact fun id' _ other => others other track g
    · rw [(holds.fresh id (not_lt.mp within)).1]
      unfold Collector.finish rowsOf
      rw [List.filter_flatMap]
      refine List.flatMap_eq_nil_iff.mpr fun id' member => ?_
      have other : id' ≠ id := fun same => within (same ▸ List.mem_range.mp member)
      exact others other track g
  have nothing {id : ℕ} (missing : c.conns id = none) (track : TrackName) (g : ℕ) :
      rowsOf (made ++ (c.finish monoMs idleMs all).2) id track g = rowsOf made id track g := by
    rw [rows, missing]
    exact List.append_nil _
  refine ⟨fun id beyond => ?_, fun id missing track g => ?_, fun id conn found => ?_⟩
  · obtain ⟨missing, silent⟩ := holds.fresh id beyond
    refine ⟨congrArg (Option.map _) missing, fun track g => ?_⟩
    rw [nothing missing]
    exact silent track g
  · have missing : c.conns id = none := Option.map_eq_none_iff.mp missing
    rw [nothing missing]
    exact holds.gone id missing track g
  · obtain ⟨before, known, rfl⟩ := Option.map_eq_some_iff.mp found
    have standing := holds.conns id before known
    have finished (closed : before.closed = true) (p : Pair) (member : p ∈ before.pairs) :
        (p.finish monoMs idleMs all).1.opened = [] := by
      unfold Pair.finish
      simp [standing.finished closed p member]
    refine (standing.closing (finish_closes monoMs idleMs all) before.info finished).congr (fun track g => ?_) fun _ _ => rfl
    rw [rows, known, rowsOf_append]
    rfl

/-- What `take` does before it takes the rows. -/
theorem take_does (c : Collector) (monoMs idleMs : ℚ) (all : Bool) :
    ∃ new c' lost, c.Does new [] c' lost ∧ (c.take monoMs idleMs all).1.toRows = c'.rows ∧
      (c.take monoMs idleMs all).2 = { c' with rows := {} } := by
  obtain ⟨lost, pushes⟩ := pushGroups_pushes (c.finish monoMs idleMs all).1 (c.finish monoMs idleMs all).2
  have does : c.Does _ [] ((c.finish monoMs idleMs all).1.pushGroups (c.finish monoMs idleMs all).2) lost :=
    pushes.replaces rfl fun made log holds => holds.finish monoMs idleMs all
  refine ⟨{ groups := (c.finish monoMs idleMs all).2 },
    { (c.finish monoMs idleMs all).1.pushGroups (c.finish monoMs idleMs all).2 with rowsSincePack := 0 }, lost, ?_, rfl, rfl⟩
  exact ⟨does.rows, does.dropped, does.objects, fun made log holds => (does.holds made log holds).congr rfl rfl,
    does.perObject, does.stopped⟩

end Collector

end Moqtap.Monitor
