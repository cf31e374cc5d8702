import Mathlib
import Moqtap.Packing
import Moqtap.Runs

/-! The monitor from end to end: what the producer reports, the sealer that takes it to bodies,
and what a source can say of an object in the end.

Reports and seals interleave. Between the sealer's two locks the rows taken are its own, and the
producer goes on reporting. `System.Kept` is the invariant of a run: every group stands somewhere
(`Standing`), with its rows found among those held, being sealed, sealed or lost, and `dropped`
counts those lost. -/

namespace Moqtap.Monitor

open Packing Runs

/-- Where the sealer is: between its locks it holds rows, those of the relay cap already out of
them or not. -/
inductive Sealer where
  | idle
  | taken (rows : Taken) (mode : Mode)
  | capped (rows : Taken) (mode : Mode)
  | done

structure System where
  collector : Collector
  sealer : Sealer := .idle
  nextSeq : ℕ := 0
  /-- The bodies sealed so far, by their units and as they are sent. -/
  units : List (List Packing.Unit) := []
  bodies : List Sealed := []
  /-- The objects accepted so far. -/
  log : List Report := []

inductive Event where
  | connect (origin : String) (openTs : ℕ)
  | setDraft (id draft : ℕ)
  | close (id ts : ℕ) (code : Option ℕ)
  | objectSent (id : ℕ) (track : TrackName) (object : Object) (monoMs : ℚ)
  | event (id : ℕ) (track : Option TrackName) (e : EventKind) (code : Option ℕ) (ts : ℕ)
  | take (mode : Mode) (monoMs idleMs : ℚ)
  | cap (denied : Finset ℕ)
  | pack (head : HeadFields)
  | stop

/-- The rows of connections that are not denied, as `RelayLedger::cap` leaves them. -/
def Taken.without (taken : Taken) (denied : Finset ℕ) : Taken where
  groups := taken.groups.filter (·.conn ∉ denied)
  objects := taken.objects.filter (·.conn ∉ denied)
  events := taken.events.filter (·.conn ∉ denied)
  relays id := if id ∈ denied then none else taken.relays id

/-- The rows `cap` takes out. -/
def Taken.denied (taken : Taken) (denied : Finset ℕ) : Rows where
  groups := taken.groups.filter (·.conn ∈ denied)
  objects := taken.objects.filter (·.conn ∈ denied)
  events := taken.events.filter (·.conn ∈ denied)

/-- What `seal` takes. -/
def Collector.takeFor (c : Collector) (mode : Mode) (monoMs idleMs : ℚ) : Taken × Collector :=
  match mode with
  | .early => c.takeEarly
  | .all => c.take monoMs idleMs false
  | .final => c.take monoMs 0 true

/-- What an early seal leaves goes back. -/
def Collector.putBack (c : Collector) (leftover : Option Taken) : Collector :=
  match leftover with
  | some rest => c.restore rest.toRows
  | none => c

namespace System

variable (coding : Coding) (m : System)

/-- The first lock of `seal`. -/
def take (mode : Mode) (monoMs idleMs : ℚ) : System :=
  if m.collector.stopped then { m with sealer := .done }
  else
    let taken := m.collector.takeFor mode monoMs idleMs
    if taken.1.toRows = {} ∧ mode ≠ .final then { m with collector := taken.2.prune }
    else { m with collector := taken.2, sealer := .taken taken.1 mode }

/-- What `cap` takes out is counted. -/
def cap (taken : Taken) (mode : Mode) (denied : Finset ℕ) : System :=
  let capped := taken.count - (taken.without denied).count
  { m with
    collector := { m.collector with
      dropped := m.collector.dropped + capped, overRelayCap := m.collector.overRelayCap + capped }
    sealer := .capped (taken.without denied) mode }

/-- What a seal writes its bodies from. -/
def batch (taken : Taken) (mode : Mode) (head : HeadFields) : Batch :=
  { coding, relays := taken.relays, head, nextSeq := m.nextSeq, mode }

/-- The second lock of `seal`. -/
def pack (taken : Taken) (mode : Mode) (head : HeadFields) : System :=
  let batch := m.batch coding taken mode head
  let packed := batch.pack taken.toRows
  { m with
    collector := ({ m.collector with dropped := m.collector.dropped + packed.dropped }.putBack packed.leftover).prune
    sealer := if mode = .final ∨ m.collector.stopped then .done else .idle
    nextSeq := m.nextSeq + packed.bodies.length
    units := m.units ++ batch.bodies (batch.filled taken.toRows)
    bodies := m.bodies ++ packed.bodies }

def step : Event → Option System
  | .connect origin openTs => some { m with collector := (m.collector.connect origin openTs).2 }
  | .setDraft id draft => some { m with collector := (m.collector.setDraft id draft).2 }
  | .close id ts code => some { m with collector := (m.collector.close id ts code).2 }
  | .objectSent id track object monoMs => some { m with
      collector := (m.collector.objectSent id track object monoMs).2
      log := m.log ++ m.collector.report id track object monoMs }
  | .event id track e code ts => some { m with collector := (m.collector.event id track e code ts).2 }
  | .take mode monoMs idleMs =>
    match m.sealer with
    | .idle => some (m.take mode monoMs idleMs)
    | _ => none
  | .cap denied =>
    match m.sealer with
    | .taken taken mode => some (m.cap taken mode denied)
    | _ => none
  | .pack head =>
    match m.sealer with
    | .capped taken mode => some (m.pack coding taken mode head)
    | _ => none
  | .stop => some { m with collector := m.collector.stop }

def Start (m : System) : Prop := ∃ perObject, m = { collector := { perObject } }

/-- The rows the sealer holds. -/
def flying : Rows :=
  match m.sealer with
  | .taken taken _ => taken.toRows
  | .capped taken _ => taken.toRows
  | _ => {}

def sent : Rows := untake m.units.flatten

/-- The rows that have left the collector, with those that are lost. -/
def out (lost : Rows) : Rows := m.flying ++ m.sent ++ lost

/-- The rows made so far, wherever they are. -/
def everything (lost : Rows) : Rows := m.collector.rows ++ m.out lost

/-! ## What one step does -/

/-- What one event does, the producer's calls all in one way. -/
inductive Steps : System → Prop
  | call {c' : Collector} {new lost : Rows} {reports : List Report} (does : m.collector.Does new reports c' lost)
      (still : m.collector.stopped = true → (∀ id, m.collector.conns id = none) →
        c'.rows = m.collector.rows ∧ ∀ id, c'.conns id = none) :
      Steps { m with collector := c', log := m.log ++ reports }
  | take (mode : Mode) (monoMs idleMs : ℚ) (idle : m.sealer = .idle) : Steps (m.take mode monoMs idleMs)
  | cap (taken : Taken) (mode : Mode) (denied : Finset ℕ) (held : m.sealer = .taken taken mode) :
      Steps (m.cap taken mode denied)
  | pack (taken : Taken) (mode : Mode) (head : HeadFields) (held : m.sealer = .capped taken mode) :
      Steps (m.pack coding taken mode head)
  | stop : Steps { m with collector := m.collector.stop }

variable {coding : Coding} {m m' : System} {event : Event} {lost : Rows}

theorem step_steps (stepped : m.step coding event = some m') : m.Steps coding m' := by
  have quiet {c' : Collector} {new lost : Rows} (does : m.collector.Does new [] c' lost)
      (still : m.collector.stopped = true → (∀ id, m.collector.conns id = none) →
        c'.rows = m.collector.rows ∧ ∀ id, c'.conns id = none) : m.Steps coding { m with collector := c' } := by
    have called : m.Steps coding { m with collector := c', log := m.log ++ [] } := .call does still
    rwa [List.append_nil] at called
  cases event with
  | connect origin openTs =>
    cases stepped
    refine quiet (m.collector.connect_does origin openTs) fun stopped gone => ?_
    unfold Collector.connect
    rw [if_pos (.inl stopped)]
    exact ⟨rfl, gone⟩
  | setDraft id draft =>
    cases stepped
    refine quiet (m.collector.setDraft_does id draft) fun _ gone => ?_
    unfold Collector.setDraft
    rw [gone]
    split_ifs <;> exact ⟨rfl, gone⟩
  | close id ts code =>
    cases stepped
    obtain ⟨new, lost, does⟩ := m.collector.close_does id ts code
    refine quiet does fun _ gone => ?_
    unfold Collector.close
    rw [gone]
    exact ⟨rfl, gone⟩
  | objectSent id track object monoMs =>
    cases stepped
    obtain ⟨new, lost, does⟩ := m.collector.objectSent_does id track object monoMs
    refine .call does fun stopped gone => ?_
    unfold Collector.objectSent Collector.reception
    rw [if_pos stopped]
    exact ⟨rfl, gone⟩
  | event id track e code ts =>
    cases stepped
    obtain ⟨new, lost, does⟩ := m.collector.event_does id track e code ts
    refine quiet does fun stopped gone => ?_
    unfold Collector.event
    rw [if_pos stopped]
    exact ⟨rfl, gone⟩
  | take mode monoMs idleMs =>
    unfold step at stepped
    cases sealer : m.sealer with
    | idle =>
      rw [sealer] at stepped
      cases stepped
      exact .take mode monoMs idleMs sealer
    | taken | capped | done => simp [sealer] at stepped
  | cap denied =>
    unfold step at stepped
    cases sealer : m.sealer with
    | taken taken mode =>
      rw [sealer] at stepped
      cases stepped
      exact .cap taken mode denied sealer
    | idle | capped | done => simp [sealer] at stepped
  | pack head =>
    unfold step at stepped
    cases sealer : m.sealer with
    | capped taken mode =>
      rw [sealer] at stepped
      cases stepped
      exact .pack taken mode head sealer
    | idle | taken | done => simp [sealer] at stepped
  | stop =>
    cases stepped
    exact .stop

/-! ## Where the rows go -/

theorem flying_idle (idle : m.sealer = .idle) : m.flying = {} := by
  unfold flying
  rw [idle]

theorem flying_taken {taken : Taken} {mode : Mode} (held : m.sealer = .taken taken mode) : m.flying = taken.toRows := by
  unfold flying
  rw [held]

theorem flying_capped {taken : Taken} {mode : Mode} (held : m.sealer = .capped taken mode) : m.flying = taken.toRows := by
  unfold flying
  rw [held]

theorem out_bag (m : System) (lost : Rows) : (m.out lost).bag = m.flying.bag + m.sent.bag + lost.bag := rfl

theorem everything_bag (m : System) (lost : Rows) :
    (m.everything lost).bag = m.collector.rows.bag + (m.flying.bag + m.sent.bag + lost.bag) := rfl

theorem takeFor_does (c : Collector) (mode : Mode) (monoMs idleMs : ℚ) : ∃ new c' lost, c.Does new [] c' lost ∧
    (c.takeFor mode monoMs idleMs).1.toRows = c'.rows ∧ (c.takeFor mode monoMs idleMs).2 = { c' with rows := {} } := by
  cases mode with
  | early =>
    exact ⟨{}, { c with rowsSincePack := 0 }, {}, .idle rfl rfl rfl rfl fun _ _ holds => holds.congr rfl rfl, rfl, rfl⟩
  | all => exact c.take_does monoMs idleMs false
  | final => exact c.take_does monoMs 0 true

theorem filter_split {α : Type} (l : List α) (wanted : α → Prop) [DecidablePred wanted] :
    (l.filter (fun a => ¬wanted a) ++ l.filter wanted).Perm l := by
  have parts := List.filter_append_perm (fun a => decide (¬wanted a)) l
  simpa using parts

/-- What the cap leaves and what it takes out are what there was. -/
theorem without_denied (taken : Taken) (denied : Finset ℕ) :
    ((taken.without denied).toRows ++ taken.denied denied).Same taken.toRows :=
  ⟨filter_split _ _, filter_split _ _, filter_split _ _⟩

theorem cap_out (taken : Taken) (mode : Mode) (denied : Finset ℕ) (held : m.flying = taken.toRows) :
    ((m.cap taken mode denied).out (taken.denied denied)).Same (m.out {}) := by
  have parts := without_denied taken denied
  rw [Rows.same_iff] at parts ⊢
  rw [out_bag m, held, ← parts]
  change (taken.without denied).bag + m.sent.bag + (taken.denied denied).bag = _
  rw [Rows.bag_append]
  change _ = (taken.without denied).bag + (taken.denied denied).bag + m.sent.bag + 0
  abel

theorem cap_dropped (m : System) (taken : Taken) (mode : Mode) (denied : Finset ℕ) :
    (m.cap taken mode denied).collector.dropped = m.collector.dropped + (taken.denied denied).count := by
  have count := (without_denied taken denied).count
  rw [Rows.count_append] at count
  change m.collector.dropped + (taken.count - (taken.without denied).count) = _
  omega

theorem gone_count {batch : Batch} {gone : List Packing.Unit} (refused : ∀ unit ∈ gone, batch.Refused unit) :
    (untake gone).count = gone.length := by
  induction gone with
  | nil => rfl
  | cons unit gone ih =>
    rw [untake_cons, Rows.count_append, Unit.rows_count, (refused unit List.mem_cons_self).1,
      ih fun other among => refused other (List.mem_cons_of_mem _ among), List.length_cons, Nat.add_comm]

theorem putBack_eq (c : Collector) (leftover : Option Taken) :
    c.putBack leftover = { c with rows := leftover.elim {} (·.toRows) ++ c.rows } := by
  cases leftover <;> rfl

theorem pack_flying (m : System) (taken : Taken) (mode : Mode) (head : HeadFields) :
    (m.pack coding taken mode head).flying = {} := by
  unfold System.pack flying
  by_cases ended : mode = .final ∨ m.collector.stopped <;> simp [ended]

theorem pack_sent (m : System) (taken : Taken) (mode : Mode) (head : HeadFields) : (m.pack coding taken mode head).sent =
    m.sent ++ untake ((m.batch coding taken mode head).bodies ((m.batch coding taken mode head).filled taken.toRows)).flatten := by
  unfold sent
  rw [← untake_append, ← List.flatten_append]
  rfl

theorem pack_collector (m : System) (taken : Taken) (mode : Mode) (head : HeadFields) :
    (m.pack coding taken mode head).collector = Collector.prune { m.collector with
      dropped := m.collector.dropped + ((m.batch coding taken mode head).pack taken.toRows).dropped
      rows := ((m.batch coding taken mode head).pack taken.toRows).rest ++ m.collector.rows } :=
  congrArg Collector.prune (putBack_eq _ _)

/-- A seal's rows are in its bodies, back in the collector, or lost and counted. -/
theorem pack_out (coding : Coding) (taken : Taken) (mode : Mode) (head : HeadFields) (held : m.flying = taken.toRows) : ∃ lost : Rows,
    (((m.batch coding taken mode head).pack taken.toRows).rest ++ (m.pack coding taken mode head).out lost).Same (m.out {}) ∧
      (m.pack coding taken mode head).collector.dropped = m.collector.dropped + lost.count := by
  obtain ⟨repeats, gone, conserved, dropped, refused⟩ := (m.batch coding taken mode head).pack_conserves taken.toRows
  refine ⟨untake gone ++ { groups := repeats }, ?_, ?_⟩
  · unfold out
    rw [pack_flying, pack_sent, held]
    rw [Rows.same_iff] at conserved ⊢
    rw [Rows.append_empty, Rows.empty_append]
    simp only [Rows.bag_append] at conserved ⊢
    rw [← conserved]
    abel
  · rw [pack_collector, Rows.count_append, gone_count refused, Nat.add_comm gone.length]
    exact congrArg (m.collector.dropped + ·) dropped

/-! ## What a run keeps -/

/-- Every group and every object stands somewhere, and what is lost is counted. -/
structure Accounted (m : System) (lost : Rows) : Prop where
  dropped : m.collector.dropped = lost.count + m.log.countP (·.fate = .late)
  holds : m.collector.Holds (m.everything lost).groups m.log
  details : Collector.Details m.collector.perObject (m.everything lost).objects m.log

theorem details_append {perObject : Bool} {objects more : List PendingObject} {log reports : List Report}
    (details : Collector.Details perObject objects log) (details' : Collector.Details perObject more reports) :
    Collector.Details perObject (objects ++ more) (log ++ reports) := by
  unfold Collector.Details at details details' ⊢
  rw [List.map_append]
  refine (details.append details').trans (.of_eq ?_)
  split_ifs
  · rw [List.filter_append, List.map_append]
  · rfl

theorem details_perm {perObject : Bool} {objects objects' : List PendingObject} {log : List Report}
    (details : Collector.Details perObject objects log) (same : objects'.Perm objects) :
    Collector.Details perObject objects' log := (same.map _).trans details

/-- The rows move, and some are lost, with no call of the producer. -/
theorem Accounted.moves {lost' : Rows} (accounted : m.Accounted lost) (same : (m'.everything lost').Same (m.everything {}))
    (dropped : m'.collector.dropped = m.collector.dropped + lost'.count) (log : m'.log = m.log)
    (perObject : m'.collector.perObject = m.collector.perObject)
    (holds : ∀ made log, m.collector.Holds made log → m'.collector.Holds made log) : m'.Accounted (lost ++ lost') := by
  have rows : (m'.everything (lost ++ lost')).Same (m.everything lost) := by
    rw [Rows.same_iff] at same ⊢
    simp only [everything_bag, Rows.bag_append] at same ⊢
    calc m'.collector.rows.bag + (m'.flying.bag + m'.sent.bag + (lost.bag + lost'.bag))
        = m'.collector.rows.bag + (m'.flying.bag + m'.sent.bag + lost'.bag) + lost.bag := by abel
      _ = m.collector.rows.bag + (m.flying.bag + m.sent.bag + lost.bag) := by
        rw [same]
        change _ + (_ + 0) + _ = _
        abel
  refine ⟨?_, ?_, ?_⟩
  · rw [dropped, accounted.dropped, Rows.count_append, log]
    omega
  · rw [log]
    exact (holds _ _ accounted.holds).perm rows.groups
  · rw [log, perObject]
    exact details_perm accounted.details rows.objects

theorem Accounted.call {c' : Collector} {new lost' : Rows} {reports : List Report} (accounted : m.Accounted lost)
    (does : m.collector.Does new reports c' lost') :
    { m with collector := c', log := m.log ++ reports : System }.Accounted (lost ++ lost') := by
  have same : ({ m with collector := c', log := m.log ++ reports : System }.everything (lost ++ lost')).Same
      (m.everything lost ++ new) := by
    have rows := Rows.same_iff.mp does.rows
    rw [Rows.same_iff]
    simp only [Rows.bag_append, everything_bag] at rows ⊢
    change c'.rows.bag + (m.flying.bag + m.sent.bag + (lost.bag + lost'.bag)) = _
    calc c'.rows.bag + (m.flying.bag + m.sent.bag + (lost.bag + lost'.bag))
        = c'.rows.bag + lost'.bag + (m.flying.bag + m.sent.bag + lost.bag) := by abel
      _ = m.collector.rows.bag + (m.flying.bag + m.sent.bag + lost.bag) + new.bag := by
        rw [rows]
        abel
  refine ⟨?_, ?_, ?_⟩
  · dsimp only
    rw [does.dropped, accounted.dropped, Rows.count_append, List.countP_append]
    omega
  · exact (does.holds _ _ accounted.holds).perm same.groups
  · dsimp only
    rw [does.perObject]
    exact details_perm (details_append accounted.details does.objects) same.objects

theorem Accounted.take (accounted : m.Accounted lost) (mode : Mode) (monoMs idleMs : ℚ) (idle : m.flying = {})
    (running : m.collector.stopped = false) : ∃ lost, (m.take mode monoMs idleMs).Accounted lost := by
  obtain ⟨new, c', lost', does, rows, behind⟩ := takeFor_does m.collector mode monoMs idleMs
  have called := accounted.call does
  rw [List.append_nil] at called
  refine ⟨lost ++ lost' ++ {}, ?_⟩
  unfold System.take
  rw [if_neg (by simp [running])]
  dsimp only
  rw [behind]
  split_ifs with nothing
  · refine called.moves ?_ rfl rfl rfl fun made log holds => ?_
    · have empty : c'.rows = {} := rows.symm.trans nothing.1
      unfold everything
      rw [empty]
      exact .refl _
    · exact (holds.congr rfl rfl : ({ c' with rows := {} } : Collector).Holds made log).prune
  · refine called.moves ?_ rfl rfl rfl fun made log holds => holds.congr rfl rfl
    change ({} ++ ((m.collector.takeFor mode monoMs idleMs).1.toRows ++ m.sent ++ {})).Same
      (c'.rows ++ (m.flying ++ m.sent ++ {}))
    rw [rows, idle, Rows.empty_append, Rows.empty_append, Rows.append_assoc]
    exact .refl _

theorem Accounted.cap (accounted : m.Accounted lost) (taken : Taken) (mode : Mode) (denied : Finset ℕ)
    (held : m.flying = taken.toRows) : (m.cap taken mode denied).Accounted (lost ++ taken.denied denied) :=
  accounted.moves (.append (.refl _) (cap_out taken mode denied held)) (m.cap_dropped taken mode denied) rfl rfl
    fun _ _ holds => holds.congr rfl rfl

theorem pack_everything {taken : Taken} {mode : Mode} {head : HeadFields}
    (parts : (((m.batch coding taken mode head).pack taken.toRows).rest ++ (m.pack coding taken mode head).out lost).Same (m.out {})) :
    ((m.pack coding taken mode head).everything lost).Same (m.everything {}) := by
  unfold everything
  rw [pack_collector]
  change (((m.batch coding taken mode head).pack taken.toRows).rest ++ m.collector.rows ++ _).Same _
  rw [Rows.same_iff] at parts ⊢
  rw [Rows.bag_append, Rows.bag_append, Rows.bag_append, ← parts, Rows.bag_append]
  abel

theorem Accounted.pack {lost' : Rows} {taken : Taken} {mode : Mode} {head : HeadFields} (accounted : m.Accounted lost)
    (parts : (((m.batch coding taken mode head).pack taken.toRows).rest ++ (m.pack coding taken mode head).out lost').Same (m.out {}))
    (dropped : (m.pack coding taken mode head).collector.dropped = m.collector.dropped + lost'.count) :
    (m.pack coding taken mode head).Accounted (lost ++ lost') := by
  refine accounted.moves (pack_everything parts) dropped rfl ?_ fun made log holds => ?_
  · rw [pack_collector]
    rfl
  · rw [pack_collector]
    exact Collector.Holds.prune (holds.congr (c := m.collector) rfl rfl)

end System

/-! ## Where a group stands -/

theorem Standing.rows_le {conn g : ℕ} {track : TrackName} {known : Option Bool} {rows : List PendingGroup}
    {opened : List OpenGroup} {log : List (Object × Fate)} (standing : Standing conn track g known rows opened log) :
    rows.length ≤ 1 := by
  cases standing <;> simp

/-- The open group of a track of a connection. -/
def Collector.openAt (c : Collector) (conn : ℕ) (track : TrackName) (g : ℕ) : List OpenGroup :=
  (c.conns conn).elim [] fun conn => conn.pairs.flatMap fun p => if p.track = track then p.openAt g else []

namespace Collector.Holds

variable {c : Collector} {made : List PendingGroup} {log : List Report}

theorem standing (holds : c.Holds made log) (conn : ℕ) (track : TrackName) (g : ℕ) : ∃ known,
    Standing conn track g known (rowsOf made conn track g) (c.openAt conn track g) (logOf log conn track g) := by
  unfold Collector.openAt
  cases found : c.conns conn with
  | none => exact holds.gone conn found track g
  | some there =>
    have behind := holds.conns conn there found
    by_cases known : track ∈ there.pairs.map (·.track)
    · obtain ⟨p, member, rfl⟩ := List.mem_map.mp known
      obtain ⟨memory, stands⟩ := behind.stands p member
      have opened : (there.pairs.flatMap fun q => if q.track = p.track then q.openAt g else []) = p.openAt g := by
        have alone := filter_flatMap (·.track) (fun q => if q.track = p.track then q.openAt g else []) (fun _ => true)
          member behind.distinct fun q _ other => by rw [if_neg other]; rfl
        simpa using alone
      refine ⟨memory g, ?_⟩
      rw [Option.elim_some, opened]
      exact stands.groups g
    · obtain ⟨nothing, silent⟩ := behind.unknown track known g
      have opened : (there.pairs.flatMap fun q => if q.track = track then q.openAt g else []) = [] := by
        refine List.flatMap_eq_nil_iff.mpr fun q member => if_neg fun same => known ?_
        exact List.mem_map.mpr ⟨q, member, same⟩
      rw [nothing, silent, Option.elim_some, opened]
      exact ⟨none, .unstarted⟩

/-- No group has two rows. -/
theorem once (holds : c.Holds made log) : (made.map PendingGroup.key).Nodup := by
  rw [List.nodup_iff_count_le_one]
  intro key
  obtain ⟨conn, track, g⟩ := key
  obtain ⟨known, standing⟩ := holds.standing conn track g
  rw [List.count, List.countP_map, List.countP_eq_length_filter]
  convert standing.rows_le using 2
  apply List.filter_congr
  intro row _
  exact Bool.beq_eq_decide_eq ..

end Collector.Holds

/-! ## Runs -/

namespace System

variable {coding : Coding} {m m' : System} {lost : Rows}

theorem Accounted.once (accounted : m.Accounted lost) : ((m.everything {}).groups.map PendingGroup.key).Nodup := by
  refine accounted.holds.once.sublist (List.Sublist.map _ ?_)
  exact .append_left (.append_left (List.nil_sublist _) _) _

/-- Every body is sealed of its units, and is one of the bodies a seal has made. -/
def Written (m : System) : Prop :=
  List.Forall₂ (fun units body => ∃ (batch : Batch) (rows : Rows) (i : ℕ),
    (batch.bodies (batch.filled rows))[i]? = some units ∧
      body = batch.seal (batch.bodies (batch.filled rows)).length i units) m.units m.bodies

/-- What holds of every state a run reaches: until it is stopped every group stands somewhere, no
group has two rows, and the bodies are numbered in turn. -/
structure Kept (m : System) : Prop where
  accounted : m.collector.stopped = false → ∃ lost, m.Accounted lost
  gone : m.collector.stopped = true → ∀ id, m.collector.conns id = none
  once : ((m.everything {}).groups.map PendingGroup.key).Nodup
  numbered : m.bodies.map (·.seq) = List.range m.nextSeq
  written : m.Written

theorem Kept.start (start : Start m) : m.Kept := by
  obtain ⟨perObject, rfl⟩ := start
  refine ⟨fun _ => ⟨{}, rfl, Collector.holds_new perObject, Collector.details_nil _⟩, nofun, List.nodup_nil, rfl, .nil⟩

/-- Rows move, or are left out: no group has two rows behind it either. -/
theorem Kept.fewer (kept : m.Kept) (same : (m'.everything lost).Same (m.everything {})) :
    ((m'.everything {}).groups.map PendingGroup.key).Nodup := by
  have once := (same.groups.map PendingGroup.key).nodup_iff.mpr kept.once
  refine once.sublist (List.Sublist.map _ ?_)
  exact .append_left (.append_left (List.nil_sublist _) _) _

theorem take_frame (m : System) (mode : Mode) (monoMs idleMs : ℚ) :
    (m.take mode monoMs idleMs).collector.stopped = m.collector.stopped ∧
      (m.take mode monoMs idleMs).bodies = m.bodies ∧ (m.take mode monoMs idleMs).nextSeq = m.nextSeq ∧
      (m.take mode monoMs idleMs).units = m.units := by
  obtain ⟨new, c', lost, does, -, behind⟩ := takeFor_does m.collector mode monoMs idleMs
  unfold System.take
  split_ifs
  · exact ⟨rfl, rfl, rfl, rfl⟩
  · dsimp only
    split_ifs <;> exact ⟨by rw [behind]; exact does.stopped, rfl, rfl, rfl⟩

theorem Kept.take (kept : m.Kept) (mode : Mode) (monoMs idleMs : ℚ) (idle : m.flying = {}) :
    (m.take mode monoMs idleMs).Kept := by
  obtain ⟨stopped, bodies, nextSeq, units⟩ := m.take_frame mode monoMs idleMs
  cases ended : m.collector.stopped with
  | false =>
    obtain ⟨lost, accounted⟩ := kept.accounted ended
    obtain ⟨lost', behind⟩ := accounted.take mode monoMs idleMs idle ended
    refine ⟨fun _ => ⟨lost', behind⟩, fun stopped' => ?_, behind.once, ?_, ?_⟩
    · rw [stopped, ended] at stopped'
      cases stopped'
    · rw [bodies, nextSeq]
      exact kept.numbered
    · unfold Written
      rw [units, bodies]
      exact kept.written
  | true =>
    have done : m.take mode monoMs idleMs = { m with sealer := .done } := if_pos ended
    rw [done]
    have same : ({ m with sealer := .done } : System).everything {} = m.everything {} := by
      unfold everything out
      rw [idle]
      rfl
    refine ⟨fun running => ?_, fun _ => kept.gone ended, ?_, kept.numbered, kept.written⟩
    · cases ended.symm.trans running
    · rw [same]
      exact kept.once

theorem Kept.pack (kept : m.Kept) (taken : Taken) (mode : Mode) (head : HeadFields) (held : m.flying = taken.toRows) :
    (m.pack coding taken mode head).Kept := by
  obtain ⟨lost', parts, dropped⟩ := pack_out coding taken mode head held
  have stopped : (m.pack coding taken mode head).collector.stopped = m.collector.stopped := by
    rw [pack_collector]
    rfl
  refine ⟨fun running => ?_, fun ended id => ?_, kept.fewer (pack_everything parts), ?_, ?_⟩
  · obtain ⟨lost, accounted⟩ := kept.accounted (stopped ▸ running)
    exact ⟨_, accounted.pack parts dropped⟩
  · rw [pack_collector]
    exact congrArg (Option.filter _) (kept.gone (stopped ▸ ended) id)
  · change (m.bodies ++ List.mapIdx _ _).map Sealed.seq = List.range (m.nextSeq + (List.mapIdx _ _).length)
    rw [List.map_append, kept.numbered, List.range_add, List.length_mapIdx]
    congr 1
    refine List.ext_getElem (by simp) fun i _ _ => ?_
    simp [Batch.seal, batch]
  · refine List.rel_append kept.written (List.forall₂_iff_get.mpr ⟨by simp [Batch.pack], fun i within within' => ?_⟩)
    refine ⟨m.batch coding taken mode head, taken.toRows, i, List.getElem?_eq_getElem within, ?_⟩
    simp [Batch.pack]

theorem Kept.step (kept : m.Kept) (steps : m.Steps coding m') : m'.Kept := by
  cases steps with
  | @call c' new lost' reports does still =>
    refine ⟨fun running => ?_, fun ended => ?_, ?_, kept.numbered, kept.written⟩
    · obtain ⟨lost, accounted⟩ := kept.accounted (does.stopped ▸ running)
      exact ⟨_, accounted.call does⟩
    · have ended : m.collector.stopped = true := does.stopped ▸ ended
      exact (still ended (kept.gone ended)).2
    · cases ended : m.collector.stopped with
      | false =>
        obtain ⟨lost, accounted⟩ := kept.accounted ended
        exact (accounted.call does).once
      | true =>
        have rows : ({ m with collector := c', log := m.log ++ reports } : System).everything {} = m.everything {} :=
          congrArg (· ++ m.out {}) (still ended (kept.gone ended)).1
        rw [rows]
        exact kept.once
  | take mode monoMs idleMs idle => exact kept.take mode monoMs idleMs (flying_idle idle)
  | cap taken mode denied held =>
    have held := flying_taken held
    refine ⟨fun running => ?_, kept.gone, kept.fewer (.append (.refl _) (cap_out taken mode denied held)), kept.numbered,
      kept.written⟩
    obtain ⟨lost, accounted⟩ := kept.accounted running
    exact ⟨_, accounted.cap taken mode denied held⟩
  | pack taken mode head held => exact kept.pack taken mode head (flying_capped held)
  | stop =>
    refine ⟨nofun, fun _ _ => rfl, ?_, kept.numbered, kept.written⟩
    refine kept.once.sublist (List.Sublist.map _ ?_)
    exact List.sublist_append_right _ _

/-- A run: whatever is reported, sealed and capped, in whatever order. -/
abbrev Reached (coding : Coding) (history : List Event) (m : System) : Prop :=
  Run Start (fun m event m' => m.step coding event = some m') history m

theorem Reached.kept {history : List Event} (run : Reached coding history m) : m.Kept :=
  Run.always (fun _ => Kept.start) (fun _ _ _ kept stepped => kept.step (step_steps stepped)) run

def live : TrackName := { ns := ["live"], name := "v" }

/-- A run of one object: `opening` has its connection, `first` the object. -/
def opening : System := { collector := (Collector.connect { perObject := true } "https://relay.example" 0).2 }

def first : System := { opening with
  collector := (opening.collector.objectSent 0 live { g := 0, o := 0, size := 10, atUs := 5 } 0).2
  log := opening.collector.report 0 live { g := 0, o := 0, size := 10, atUs := 5 } 0 }

theorem first_reached (coding : Coding) : Reached coding
    [.objectSent 0 live { g := 0, o := 0, size := 10, atUs := 5 } 0, .connect "https://relay.example" 0] first :=
  .step (.step (.start ⟨true, rfl⟩) rfl) rfl

theorem first_running : first.collector.stopped = false := by
  obtain ⟨_, _, does⟩ := opening.collector.objectSent_does 0 live { g := 0, o := 0, size := 10, atUs := 5 } 0
  exact does.stopped

theorem first_log : first.log =
    [{ conn := 0, track := live, object := { g := 0, o := 0, size := 10, atUs := 5 }, fate := .counted }] := by
  rfl

/-- The rows of what is counted of one group are the sealer's, sent, or lost. -/
def Leaves (conn : ℕ) (track : TrackName) (g : ℕ) (counted : List Object) (m : System) : Prop :=
  m.sealer ≠ .idle ∧ (∀ taken mode, m.sealer = .taken taken mode ∨ m.sealer = .capped taken mode → mode = .final) ∧
    (m.collector.stopped = false → ∃ lost, m.Accounted lost ∧
      ∃ row ∈ (m.out lost).groups, row.key = (conn, track, g) ∧ Reports row counted)

theorem out_lost {lost' : Rows} (same : (m'.out lost').Same (m.out {})) : (m'.out (lost ++ lost')).Same (m.out lost) := by
  rw [Rows.same_iff] at same ⊢
  simp only [out_bag, Rows.bag_append] at same ⊢
  calc m'.flying.bag + m'.sent.bag + (lost.bag + lost'.bag) = m'.flying.bag + m'.sent.bag + lost'.bag + lost.bag := by abel
    _ = m.flying.bag + m.sent.bag + lost.bag := by
      rw [same]
      exact congrArg (· + _) (add_zero _)

theorem final_rest {batch : Batch} (mode : batch.mode = .final) (rows : Rows) : (batch.pack rows).rest = {} := by
  unfold Packed.rest Batch.pack
  simp [mode]

section Final

variable {conn g : ℕ} {track : TrackName} {counted : List Object}

theorem Leaves.step (leaves : m.Leaves conn track g counted) (steps : m.Steps coding m') :
    m'.Leaves conn track g counted := by
  obtain ⟨busy, final, stands⟩ := leaves
  cases steps with
  | @call c' new lost' reports does still =>
    refine ⟨busy, final, fun running => ?_⟩
    obtain ⟨lost, accounted, row, member, here⟩ := stands (does.stopped ▸ running)
    refine ⟨_, accounted.call does, row, ?_, here⟩
    exact (List.append_sublist_append_left _ |>.mpr (List.sublist_append_left _ _)).subset member
  | take mode monoMs idleMs idle => exact absurd idle busy
  | cap taken mode denied held =>
    refine ⟨nofun, fun other mode' held' => ?_, fun running => ?_⟩
    · rcases held' with held' | held'
      · cases held'
      · cases held'
        exact final _ _ (.inl held)
    · obtain ⟨lost, accounted, row, member, here⟩ := stands running
      have held := flying_taken held
      exact ⟨_, accounted.cap taken mode denied held, row,
        (out_lost (cap_out taken mode denied held)).groups.mem_iff.mpr member, here⟩
  | pack taken mode head held =>
    obtain rfl := final _ _ (.inr held)
    have done : (m.pack coding taken .final head).sealer = .done := by
      unfold System.pack
      simp
    obtain ⟨lost', parts, dropped⟩ := pack_out coding taken .final head (flying_capped held)
    refine ⟨?_, fun other mode' held' => ?_, fun running => ?_⟩
    · rw [done]
      nofun
    · rw [done] at held'
      rcases held' with held' | held' <;> cases held'
    · rw [pack_collector] at running
      obtain ⟨lost, accounted, row, member, here⟩ := stands running
      refine ⟨_, accounted.pack parts dropped, row, ?_, here⟩
      rw [final_rest rfl] at parts
      exact (out_lost parts).groups.mem_iff.mpr member
  | stop => exact ⟨busy, final, nofun⟩

/-- A final seal leaves no group open. -/
theorem finish_all (c : Collector) (monoMs idleMs : ℚ) : (c.finish monoMs idleMs true).1.openAt conn track g = [] := by
  have none' (p : Pair) : (p.finish monoMs idleMs true).1.opened = [] := by
    unfold Pair.finish
    simp
  unfold Collector.openAt Collector.finish
  dsimp only
  cases c.conns conn with
  | none => rfl
  | some there =>
    refine List.flatMap_eq_nil_iff.mpr fun q member => ?_
    obtain ⟨p, -, rfl⟩ := List.mem_map.mp member
    split_ifs
    · unfold Pair.openAt
      rw [none']
      rfl
    · rfl

theorem take_final (c : Collector) (monoMs idleMs : ℚ) : (c.take monoMs idleMs true).2.openAt conn track g = [] ∧
    (c.take monoMs idleMs true).2.rows = {} := by
  obtain ⟨lost, pushes⟩ := Collector.pushGroups_pushes (c.finish monoMs idleMs true).1 (c.finish monoMs idleMs true).2
  refine ⟨?_, rfl⟩
  rw [← finish_all c monoMs idleMs]
  unfold Collector.openAt
  exact congrArg (fun conns : ℕ → Option Conn => (conns conn).elim [] _) pushes.conns

theorem take_running (running : m.collector.stopped = false) (monoMs idleMs : ℚ) : m.take .final monoMs idleMs =
    { m with collector := (m.collector.take monoMs 0 true).2, sealer := .taken (m.collector.take monoMs 0 true).1 .final } := by
  unfold System.take
  rw [if_neg (by simp [running]), if_neg (by simp)]
  rfl

theorem Kept.leaves (kept : m.Kept) (idle : m.sealer = .idle) (monoMs idleMs : ℚ)
    (some' : ((logOf m.log conn track g).filter (·.2 = .counted)) ≠ []) :
    (m.take .final monoMs idleMs).Leaves conn track g
      (((logOf m.log conn track g).filter (·.2 = .counted)).map (·.1)) := by
  have stopped := (m.take_frame .final monoMs idleMs).1
  cases ended : m.collector.stopped with
  | true =>
    have done : m.take .final monoMs idleMs = { m with sealer := .done } := if_pos ended
    rw [done]
    exact ⟨nofun, by simp, fun running => by cases ended.symm.trans running⟩
  | false =>
    obtain ⟨lost, accounted⟩ := kept.accounted ended
    obtain ⟨lost', behind⟩ := accounted.take .final monoMs idleMs (flying_idle idle) ended
    rw [take_running ended] at behind ⊢
    refine ⟨nofun, by simp, fun _ => ⟨lost', behind, ?_⟩⟩
    obtain ⟨known, standing⟩ := behind.holds.standing conn track g
    dsimp only at standing
    rw [(take_final ..).1] at standing
    generalize made : rowsOf _ conn track g = rows at standing
    generalize logOf m.log conn track g = log at standing some'
    cases standing with
    | unstarted => exact absurd rfl some'
    | passed left => exact absurd (List.filter_eq_nil_iff.mpr fun entry member => by simpa using left entry member) some'
    | @reported row counted late here reports missed =>
      have objects : ((counted.map (·, Fate.counted) ++ late).filter (·.2 = .counted)).map (·.1) = counted := by
        have nothing : late.filter (·.2 = .counted) = [] :=
          List.filter_eq_nil_iff.mpr fun entry member => by simp [missed entry member]
        rw [List.filter_append, nothing, List.append_nil, List.filter_map, List.filter_eq_self.mpr (by simp), List.map_map]
        exact List.map_id _
      rw [objects]
      have member : row ∈ rowsOf _ conn track g := made ▸ List.mem_singleton_self row
      exact ⟨row, List.mem_of_mem_filter member, here, reports⟩

end Final

theorem step_cap {taken : Taken} {mode : Mode} (held : m.sealer = .taken taken mode) (denied : Finset ℕ) :
    m.step coding (.cap denied) = some (m.cap taken mode denied) := by
  unfold System.step
  rw [held]

theorem step_pack {taken : Taken} {mode : Mode} (held : m.sealer = .capped taken mode) (head : HeadFields) :
    m.step coding (.pack head) = some (m.pack coding taken mode head) := by
  unfold System.step
  rw [held]

def sealed : System :=
  let taken := (first.collector.take 0 0 true).1
  ((first.take .final 0 0).cap taken .final ∅).pack silent.coding (taken.without ∅) .final silent.head

end System

end Moqtap.Monitor
