import Mathlib
import Moqtap.RelayCount
import Moqtap.Runs

/-!
The relay cap at ingest: the sealer and the sender of `upload.rs` over one outbox, and
ingest behind them.

A body's origins stay in the ledger's count until the ledger has reached a month past
the one ingest counted them in (`Counts.held`): they are queued, in flight, marked as
given up unanswered, or counted in a month the ledger has come to (`Counts.settled`).
A restart takes the marks with it, so a body given up before it can be forgotten by the
next one; short of that (`InTime`) the count never runs short (`cap_kept`).
-/

namespace Moqtap.RelayOutbox

open Gregorian RelayCap Runs

/-! ## Bodies and the outbox -/

/-- A sealed body: its number, which makes its idempotency key, and the relay origins it
names. -/
structure Sealed where
  seq : ℕ
  origins : List String
  deriving DecidableEq

def Sealed.named (body : Sealed) : Finset String := body.origins.toFinset

/-- The origins of all of these bodies. -/
def named (bodies : List Sealed) : Finset String := (bodies.flatMap Sealed.origins).toFinset

theorem named_append (bodies more : List Sealed) : named (bodies ++ more) = named bodies ∪ named more := by
  simp [named]

theorem named_cons (body : Sealed) (bodies : List Sealed) : named (body :: bodies) = body.named ∪ named bodies := by
  simp [named, Sealed.named]

theorem named_subset {bodies : List Sealed} {origins : Finset String} :
    named bodies ⊆ origins ↔ ∀ body ∈ bodies, body.named ⊆ origins := by
  simp only [named, Sealed.named, Finset.subset_iff, List.mem_toFinset, List.mem_flatMap]
  grind

/-- Sealed bodies kept while ingest cannot be reached. -/
def maxQueuedBodies : ℕ := 64

structure Outbox where
  queue : List Sealed := []
  relays : Ledger := {}

namespace Outbox

def queued (outbox : Outbox) : List (List String) := outbox.queue.map Sealed.origins

def push (outbox : Outbox) (body : Sealed) : Outbox where
  queue := outbox.queue ++ [body]
  relays := outbox.relays.sealed body.origins

/-- The loop over a queue past its bound: the oldest body is given up. -/
def evictFrom (relays : Ledger) : List Sealed → Outbox
  | [] => ⟨[], relays⟩
  | gone :: rest =>
    if (gone :: rest).length > maxQueuedBodies then evictFrom (relays.givenUp gone.origins) rest
    else ⟨gone :: rest, relays⟩

def evict (outbox : Outbox) : Outbox := evictFrom outbox.relays outbox.queue

/-- The bodies of one seal, recorded and queued. -/
def record (outbox : Outbox) (bodies : List Sealed) : Outbox := (bodies.foldl push outbox).evict

def remove (outbox : Outbox) (seq : ℕ) : Outbox := { outbox with queue := outbox.queue.eraseP (·.seq = seq) }

theorem foldl_push (outbox : Outbox) (bodies : List Sealed) : bodies.foldl push outbox =
    ⟨outbox.queue ++ bodies, { outbox.relays with origins := outbox.relays.origins ∪ named bodies }⟩ := by
  induction bodies generalizing outbox with
  | nil => simp [named]
  | cons body bodies ih =>
    simp [ih, push, Ledger.sealed, named_cons, Sealed.named, Finset.union_assoc]

theorem evictFrom_eq (relays : Ledger) (queue : List Sealed) : evictFrom relays queue =
    ⟨queue.drop (queue.length - maxQueuedBodies), { relays with
      unanswered := relays.unanswered ∪ named (queue.take (queue.length - maxQueuedBodies)) }⟩ := by
  induction queue generalizing relays with
  | nil => simp [evictFrom, named]
  | cons gone rest ih =>
    unfold evictFrom
    split_ifs with long
    · rw [ih, show (gone :: rest).length - maxQueuedBodies = rest.length - maxQueuedBodies + 1 by
        simp at long ⊢
        omega]
      simp [Ledger.givenUp, named_cons, Sealed.named, Finset.union_assoc]
    · rw [Nat.sub_eq_zero_of_le (not_lt.mp long)]
      simp [named]

/-- The bodies a record leaves queued are the last ones, and the origins of the rest are
marked. -/
theorem record_eq (outbox : Outbox) (bodies : List Sealed) :
    let gone := (outbox.queue ++ bodies).length - maxQueuedBodies
    outbox.record bodies = ⟨(outbox.queue ++ bodies).drop gone, { outbox.relays with
      origins := outbox.relays.origins ∪ named bodies
      unanswered := outbox.relays.unanswered ∪ named ((outbox.queue ++ bodies).take gone) }⟩ := by
  simp [record, evict, foldl_push, evictFrom_eq]

/-- A body was accepted at `recv`, answered at monotonic `mono`. -/
def accepted (outbox : Outbox) (body : Sealed) (recv mono : ℚ) : Outbox :=
  let outbox := outbox.remove body.seq
  { outbox with relays := outbox.relays.accepted mono ⟨some recv, body.origins, outbox.queued⟩ }

end Outbox

/-! ## Ingest -/

/-- An instant that has a UTC month. -/
structure Instant where
  ms : ℚ
  dated : Accepted ms

def Instant.month (instant : Instant) : ℤ := (dateOf ⌊instant.ms / msPerDay⌋).monthNumber

theorem Instant.utcMonth (instant : Instant) : utcMonth instant.ms = some instant.month :=
  utcMonth_accepted instant.dated

/-- Ingest's clock, and the bodies it has counted, each with when it received it. -/
structure Ingest where
  clock : Instant
  counted : List (Sealed × Instant) := []

namespace Ingest

/-- The origins counted in the current month. -/
def origins (ingest : Ingest) : Finset String :=
  named ((ingest.counted.filter fun entry => entry.2.month = ingest.clock.month).map Prod.fst)

/-- The body would bring its source past the cap. -/
def Refuses (ingest : Ingest) (body : Sealed) : Prop :=
  maxRelaysPerMonth < (ingest.origins ∪ body.named).card

instance (ingest : Ingest) (body : Sealed) : Decidable (ingest.Refuses body) :=
  inferInstanceAs (Decidable (_ < _))

def Counted (ingest : Ingest) (body : Sealed) : Prop := body ∈ ingest.counted.map Prod.fst

instance (ingest : Ingest) (body : Sealed) : Decidable (ingest.Counted body) :=
  inferInstanceAs (Decidable (_ ∈ _))

end Ingest

/-! ## The system -/

/-- How far a seal has come: the monotonic time read and the rows taken, or those capped and
off to be packed. -/
inductive Sealing
  | started (mono : ℚ)
  | packing (taken : Taken)

/-- The body in flight, and the receive time of the answer under way. -/
structure Flight where
  body : Sealed
  answer : Option Instant := none

structure State extends Outbox where
  mono : ℚ := 0
  nextSeq : ℕ := 0
  sealing : Option Sealing := none
  flight : Option Flight := none
  stopped : Bool := false
  ingest : Ingest
  /-- The bodies given up since the count last restarted, whose origins are marked
  `unanswered`, and those given up before.  The code keeps neither. -/
  marked : List Sealed := []
  overtaken : List Sealed := []

inductive Event
  /-- Time goes by, on the monotonic clock and on ingest's. -/
  | tick (mono : ℚ) (clock : Instant)
  /-- `seal` reads the time. -/
  | start
  /-- It finds nothing to take, or the collector stopped. -/
  | skip
  /-- It has taken rows, and caps them. -/
  | cap (taken : Taken)
  /-- It records its bodies, each packed from the rows of these connections. -/
  | record (conns : List (List ℕ))
  /-- `sender` posts the body at the front. -/
  | post
  /-- Ingest accepts the body in flight and counts it. -/
  | count
  /-- Ingest has counted the body in flight before and accepts it again. -/
  | recount (recv : Instant)
  /-- The acceptance reaches the sender. -/
  | accepted
  /-- No answer, or one to try again on. -/
  | retry
  /-- Ingest refuses the body in flight, which it has not counted. -/
  | refused
  /-- It refuses the key or the path with it, and nothing more is sent. -/
  | stop

namespace State

/-- The bodies of a seal, numbered from the next number on. -/
def packed (s : State) (taken : Taken) (conns : List (List ℕ)) : List Sealed :=
  (conns.zipIdx s.nextSeq).map fun body => ⟨body.2, originsOf body.1 taken.relays⟩

/-- The month an event tells the ledger of. -/
def told (s : State) : Event → Option ℤ
  | .cap _ => match s.sealing with
    | some (.started mono) => utcMonth (s.relays.earliest mono)
    | _ => none
  | .accepted => s.flight.bind fun flight => flight.answer.map Instant.month
  | _ => none

/-- The month an event restarts the count for. -/
def restarts (s : State) (event : Event) : Option ℤ :=
  (s.told event).filter fun month => s.relays.month.any (· < month)

/-- A restart takes the marks. -/
def mark (s : State) (event : Event) : State :=
  if s.restarts event = none then s else { s with marked := [], overtaken := s.marked ++ s.overtaken }

@[simp] theorem mark_toOutbox (s : State) (event : Event) : (s.mark event).toOutbox = s.toOutbox := by
  unfold mark
  split_ifs
  all_goals rfl

@[simp] theorem mark_ingest (s : State) (event : Event) : (s.mark event).ingest = s.ingest := by
  unfold mark
  split_ifs
  all_goals rfl

@[simp] theorem mark_mono (s : State) (event : Event) : (s.mark event).mono = s.mono := by
  unfold mark
  split_ifs
  all_goals rfl

@[simp] theorem mark_nextSeq (s : State) (event : Event) : (s.mark event).nextSeq = s.nextSeq := by
  unfold mark
  split_ifs
  all_goals rfl

@[simp] theorem mark_sealing (s : State) (event : Event) : (s.mark event).sealing = s.sealing := by
  unfold mark
  split_ifs
  all_goals rfl

@[simp] theorem mark_flight (s : State) (event : Event) : (s.mark event).flight = s.flight := by
  unfold mark
  split_ifs
  all_goals rfl

/-- One step of the monitor, of ingest or of time; `none` where it cannot happen. -/
def step (s : State) : Event → Option State
  | .tick mono clock =>
    if s.mono ≤ mono ∧ s.ingest.clock.ms + (mono - s.mono) * (1 - drift) ≤ clock.ms then
      some { s with mono, ingest := { s.ingest with clock } }
    else none
  | .start => if s.sealing.isNone then some { s with sealing := some (.started s.mono) } else none
  | .skip => match s.sealing with
    | some (.started _) => some { s with sealing := none }
    | _ => none
  | .cap taken => match s.sealing with
    | some (.started mono) =>
      let relays := s.relays.advance mono s.queued
      some { s.mark (.cap taken) with relays, sealing := some (.packing (relays.cap taken).1) }
    | _ => none
  | .record conns => match s.sealing with
    | some (.packing taken) =>
      let bodies := s.packed taken conns
      some { s with
        toOutbox := s.record bodies
        nextSeq := s.nextSeq + conns.length
        sealing := none
        marked := s.marked ++ (s.queue ++ bodies).take ((s.queue ++ bodies).length - maxQueuedBodies) }
    | _ => none
  | .post => match s.flight, s.queue with
    | none, body :: _ => if s.stopped then none else some { s with flight := some { body } }
    | _, _ => none
  | .count => match s.flight with
    | some ⟨body, none⟩ =>
      if s.ingest.Counted body ∨ s.ingest.Refuses body then none
      else some { s with
        flight := some ⟨body, some s.ingest.clock⟩
        ingest := { s.ingest with counted := (body, s.ingest.clock) :: s.ingest.counted } }
    | _ => none
  | .recount recv => match s.flight with
    | some ⟨body, none⟩ =>
      if ∃ entry ∈ s.ingest.counted, entry.1 = body ∧ entry.2.ms ≤ recv.ms ∧ recv.ms ≤ s.ingest.clock.ms then
        some { s with flight := some ⟨body, some recv⟩ }
      else none
    | _ => none
  | .accepted => match s.flight with
    | some ⟨body, some recv⟩ =>
      some { s.mark .accepted with toOutbox := s.toOutbox.accepted body recv.ms s.mono, flight := none }
    | _ => none
  | .retry => if s.flight.isSome then some { s with flight := none } else none
  | .refused => match s.flight with
    | some ⟨body, _⟩ =>
      if s.ingest.Counted body then none else some { s with toOutbox := s.remove body.seq, flight := none }
    | none => none
  | .stop => match s.flight with
    | some ⟨body, _⟩ =>
      if s.ingest.Counted body then none else some { s with queue := [], flight := none, stopped := true }
    | none => none

/-- The body in flight. -/
def flying (s : State) : List Sealed := s.flight.toList.map Flight.body

/-- The origins ingest has counted this month, and those of every body queued or in flight. -/
def load (s : State) : Finset String := s.ingest.origins ∪ named s.queue ∪ named s.flying

/-- What can happen, and what it leaves. -/
inductive Steps (s : State) : Event → State → Prop
  | tick (mono : ℚ) (clock : Instant) (later : s.mono ≤ mono)
      (runs : s.ingest.clock.ms + (mono - s.mono) * (1 - drift) ≤ clock.ms) :
      Steps s (.tick mono clock) { s with mono, ingest := { s.ingest with clock } }
  | start (idle : s.sealing = none) : Steps s .start { s with sealing := some (.started s.mono) }
  | skip (mono : ℚ) (started : s.sealing = some (.started mono)) : Steps s .skip { s with sealing := none }
  | cap (taken : Taken) (mono : ℚ) (started : s.sealing = some (.started mono)) :
      Steps s (.cap taken) { s.mark (.cap taken) with
        relays := s.relays.advance mono s.queued
        sealing := some (.packing ((s.relays.advance mono s.queued).cap taken).1) }
  | record (conns : List (List ℕ)) (taken : Taken) (packing : s.sealing = some (.packing taken)) :
      Steps s (.record conns) { s with
        toOutbox := s.record (s.packed taken conns)
        nextSeq := s.nextSeq + conns.length
        sealing := none
        marked := s.marked ++ (s.queue ++ s.packed taken conns).take
          ((s.queue ++ s.packed taken conns).length - maxQueuedBodies) }
  | post (body : Sealed) (rest : List Sealed) (front : s.queue = body :: rest) (landed : s.flight = none) :
      Steps s .post { s with flight := some { body } }
  | count (body : Sealed) (flies : s.flight = some ⟨body, none⟩) (first : ¬ s.ingest.Counted body)
      (takes : ¬ s.ingest.Refuses body) :
      Steps s .count { s with
        flight := some ⟨body, some s.ingest.clock⟩
        ingest := { s.ingest with counted := (body, s.ingest.clock) :: s.ingest.counted } }
  | recount (recv : Instant) (body : Sealed) (flies : s.flight = some ⟨body, none⟩)
      (again : ∃ entry ∈ s.ingest.counted, entry.1 = body ∧ entry.2.ms ≤ recv.ms ∧ recv.ms ≤ s.ingest.clock.ms) :
      Steps s (.recount recv) { s with flight := some ⟨body, some recv⟩ }
  | accepted (body : Sealed) (recv : Instant) (flies : s.flight = some ⟨body, some recv⟩) :
      Steps s .accepted { s.mark .accepted with
        toOutbox := s.toOutbox.accepted body recv.ms s.mono, flight := none }
  | retry (flight : Flight) (flies : s.flight = some flight) : Steps s .retry { s with flight := none }
  | refused (flight : Flight) (flies : s.flight = some flight) (uncounted : ¬ s.ingest.Counted flight.body) :
      Steps s .refused { s with toOutbox := s.remove flight.body.seq, flight := none }
  | stop (flight : Flight) (flies : s.flight = some flight) (uncounted : ¬ s.ingest.Counted flight.body) :
      Steps s .stop { s with queue := [], flight := none, stopped := true }

theorem step_steps {s s' : State} {event : Event} (step : s.step event = some s') : Steps s event s' := by
  cases event with
  | tick mono clock =>
    simp only [State.step] at step
    split_ifs at step with runs
    cases step
    exact .tick mono clock runs.1 runs.2
  | start =>
    simp only [State.step] at step
    split_ifs at step with idle
    cases step
    exact .start (by simpa using idle)
  | skip =>
    simp only [State.step] at step
    split at step
    · cases step
      exact .skip _ ‹_›
    · cases step
  | cap taken =>
    simp only [State.step] at step
    split at step
    · cases step
      exact .cap taken _ ‹_›
    · cases step
  | record conns =>
    simp only [State.step] at step
    split at step
    · cases step
      exact .record conns _ ‹_›
    · cases step
  | post =>
    simp only [State.step] at step
    split at step
    · split_ifs at step
      cases step
      exact .post _ _ ‹_› ‹_›
    · cases step
  | count =>
    simp only [State.step] at step
    split at step
    · split_ifs at step with barred
      cases step
      exact .count _ ‹_› (fun counted => barred (.inl counted)) (fun refuses => barred (.inr refuses))
    · cases step
  | recount recv =>
    simp only [State.step] at step
    split at step
    · split_ifs at step with again
      cases step
      exact .recount recv _ ‹_› again
    · cases step
  | accepted =>
    simp only [State.step] at step
    split at step
    · cases step
      exact .accepted _ _ ‹_›
    · cases step
  | retry =>
    simp only [State.step] at step
    split_ifs at step with flies
    cases step
    obtain ⟨flight, flies⟩ := Option.isSome_iff_exists.mp flies
    exact .retry flight flies
  | refused =>
    simp only [State.step] at step
    split at step
    · split_ifs at step with counted
      cases step
      exact .refused _ ‹_› counted
    · cases step
  | stop =>
    simp only [State.step] at step
    split at step
    · split_ifs at step with counted
      cases step
      exact .stop _ ‹_› counted
    · cases step

end State

/-! ## Time -/

theorem Instant.month_mono {instant later : Instant} (order : instant.ms ≤ later.ms) :
    instant.month ≤ later.month := by
  apply monthNumber_mono
  apply Int.floor_mono
  have positive : 0 ≤ msPerDay := by decide
  gcongr

/-- An instant ingest's clock has reached is in a month it has reached. -/
theorem utcMonth_reached {ms : ℚ} {month : ℤ} (told : utcMonth (some ms) = some month) {clock : Instant}
    (reached : ms ≤ clock.ms) : month ≤ clock.month := by
  have accepted : Accepted ms := by
    by_contra beyond
    simp [utcMonth, Accepted] at beyond told
    exact absurd told.1 (not_le.mpr beyond)
  have same := (Instant.utcMonth ⟨ms, accepted⟩).symm.trans told
  cases same
  exact Instant.month_mono reached

/-- What time has to do with the state: nothing is dated later than now, and the ledger's
month is one ingest's clock has reached. -/
structure Clocks (s : State) : Prop where
  heard : ∀ heard ∈ s.relays.heard,
    heard.2 ≤ s.mono ∧ heard.1 + (s.mono - heard.2) * (1 - drift) ≤ s.ingest.clock.ms
  started : ∀ mono, s.sealing = some (.started mono) → mono ≤ s.mono
  month : ∀ month ∈ s.relays.month, month ≤ s.ingest.clock.month
  counted : ∀ entry ∈ s.ingest.counted, entry.2.ms ≤ s.ingest.clock.ms
  once : (s.ingest.counted.map Prod.fst).Nodup
  answered : ∀ flight ∈ s.flight, ∀ recv ∈ flight.answer, recv.ms ≤ s.ingest.clock.ms ∧
    ∀ entry ∈ s.ingest.counted, entry.1 = flight.body → entry.2.ms ≤ recv.ms

theorem drift_slows {elapsed : ℚ} (forward : 0 ≤ elapsed) : 0 ≤ elapsed * (1 - drift) := by
  have slow : 0 ≤ 1 - drift := by norm_num [drift]
  positivity

namespace Clocks

variable {s s' : State} {event : Event}

/-- `advance` never runs ahead of ingest's clock. -/
theorem estimate (clocks : Clocks s) {mono : ℚ} (read : mono ≤ s.mono) {earliest : ℚ}
    (estimated : s.relays.earliest mono = some earliest) : earliest ≤ s.ingest.clock.ms := by
  unfold Ledger.earliest at estimated
  obtain ⟨heard, spoke, rfl⟩ := Option.map_eq_some_iff.mp estimated
  obtain ⟨past, reached⟩ := clocks.heard heard spoke
  have slow : 0 ≤ 1 - drift := by norm_num [drift]
  have elapsed : max (mono - heard.2) 0 ≤ s.mono - heard.2 := by
    apply max_le
    · linarith
    · linarith
  have scaled := mul_le_mul_of_nonneg_right elapsed slow
  linarith

/-- What an event tells the ledger of, ingest's clock has reached. -/
theorem told_reached (clocks : Clocks s) {month : ℤ} (told : s.told event = some month) :
    month ≤ s.ingest.clock.month := by
  cases event with
  | cap taken =>
    simp only [State.told] at told
    split at told
    · rename_i mono started
      cases estimated : s.relays.earliest mono with
      | none =>
        rw [estimated] at told
        cases told
      | some earliest =>
        rw [estimated] at told
        exact utcMonth_reached told (clocks.estimate (clocks.started mono started) estimated)
    · cases told
  | accepted =>
    obtain ⟨flight, flies, answered⟩ := Option.bind_eq_some_iff.mp told
    obtain ⟨recv, stated, rfl⟩ := Option.map_eq_some_iff.mp answered
    exact Instant.month_mono (clocks.answered flight flies recv stated).1
  | _ => cases told

theorem steps (clocks : Clocks s) (steps : s.Steps event s') : Clocks s' := by
  cases steps with
  | tick mono clock later runs =>
    have forward : s.ingest.clock.ms ≤ clock.ms := by
      have elapsed := drift_slows (sub_nonneg.mpr later)
      linarith
    refine ⟨?_, ?_, ?_, ?_, clocks.once, ?_⟩
    · intro heard spoke
      obtain ⟨past, reached⟩ := clocks.heard heard spoke
      exact ⟨past.trans later, by linarith⟩
    · exact fun mono started => (clocks.started mono started).trans later
    · exact fun month stored => (clocks.month month stored).trans (Instant.month_mono forward)
    · exact fun entry counted => (clocks.counted entry counted).trans forward
    · intro flight flies recv stated
      obtain ⟨past, earlier⟩ := clocks.answered flight flies recv stated
      exact ⟨past.trans forward, earlier⟩
  | start idle => exact { clocks with started := by simp }
  | skip mono started => exact { clocks with started := by simp }
  | cap taken mono started =>
    refine ⟨?_, by simp, ?_, by simpa using clocks.counted, by simpa using clocks.once,
      by simpa using clocks.answered⟩
    · simpa [Ledger.advance_heard] using clocks.heard
    · have told : s.told (.cap taken) = utcMonth (s.relays.earliest mono) := by
        simp only [State.told, started]
      simp only [State.mark_ingest]
      cases reached : utcMonth (s.relays.earliest mono) with
      | none =>
        rw [Ledger.advance_untold _ _ reached]
        exact clocks.month
      | some month =>
        exact (s.relays.advance_told mono reached).month_le (clocks.told_reached (told.trans reached)) clocks.month
  | record conns taken packing =>
    refine ⟨?_, by simp, ?_, clocks.counted, clocks.once, clocks.answered⟩
    · simpa [Outbox.record_eq] using clocks.heard
    · simpa [Outbox.record_eq] using clocks.month
  | post body rest front landed => exact { clocks with answered := by simp }
  | count body flies first takes =>
    refine ⟨clocks.heard, clocks.started, clocks.month, ?_, ?_, ?_⟩
    · simpa using clocks.counted
    · simp only [List.map_cons, List.nodup_cons]
      exact ⟨first, clocks.once⟩
    · rintro flight flies' recv stated
      cases flies'
      cases stated
      exact ⟨le_rfl, fun entry member _ => by
        rcases List.mem_cons.mp member with rfl | member
        · exact le_rfl
        · exact clocks.counted entry member⟩
  | recount recv body flies again =>
    obtain ⟨entry, member, rfl, earlier, past⟩ := again
    refine { clocks with answered := ?_ }
    rintro flight flies' recv stated
    cases flies'
    cases stated
    refine ⟨past, fun other member' same => ?_⟩
    rw [List.inj_on_of_nodup_map clocks.once member' member same]
    exact earlier
  | accepted body recv flies =>
    obtain ⟨past, -⟩ := clocks.answered _ flies recv rfl
    refine ⟨?_, by simpa using clocks.started, ?_, by simpa using clocks.counted, by simpa using clocks.once,
      by simp⟩
    · intro heard spoke
      simp only [State.mark_ingest, State.mark_mono]
      rcases s.relays.accepted_heard s.mono ⟨some recv.ms, body.origins, (s.remove body.seq).queued⟩ with
        same | ⟨recv', stated, now⟩
      · exact clocks.heard heard (same ▸ spoke)
      · cases stated
        cases now.symm.trans spoke
        exact ⟨le_rfl, by linarith⟩
    · have told : Answer.month ⟨some recv.ms, body.origins, (s.remove body.seq).queued⟩ = some recv.month :=
        recv.utcMonth
      simp only [State.mark_ingest]
      exact (s.relays.accepted_told s.mono told).month_le (Instant.month_mono past) clocks.month
  | retry flight flies => exact { clocks with answered := by simp }
  | refused flight flies uncounted => exact { clocks with answered := by simp }
  | stop flight flies uncounted => exact { clocks with answered := by simp }

end Clocks

/-! ## Numbers -/

namespace State

/-- The bodies that have been counted by ingest. -/
def countedBodies (s : State) : List Sealed := s.ingest.counted.map Prod.fst

/-- The bodies in flight or counted: each was at the front of the queue when it was posted. -/
def posted (s : State) : List Sealed := s.flying ++ s.countedBodies

def known (s : State) : List Sealed := s.queue ++ s.posted

end State

/-- A number names one body, and bodies are posted in its order. -/
structure Numbered (s : State) : Prop where
  apart : ∀ body ∈ s.known, ∀ other ∈ s.known, body.seq = other.seq → body = other
  fresh : ∀ body ∈ s.known, body.seq < s.nextSeq
  sorted : s.queue.Pairwise (·.seq < ·.seq)
  first : ∀ body ∈ s.posted, ∀ waiting ∈ s.queue, body.seq ≤ waiting.seq
  ordered : ∀ body ∈ s.countedBodies, ∀ flying ∈ s.flying, body.seq ≤ flying.seq

namespace Numbered

variable {s s' : State} {event : Event}

/-- A step that queues and posts nothing keeps the numbers. -/
theorem shrinks (numbered : Numbered s) (queue : s'.queue.Sublist s.queue) (flying : s'.flying ⊆ s.flying)
    (counted : s'.countedBodies = s.countedBodies) (next : s'.nextSeq = s.nextSeq) : Numbered s' := by
  have posted : s'.posted ⊆ s.posted := by
    unfold State.posted
    rw [counted]
    exact List.append_subset.mpr ⟨List.subset_append_of_subset_left _ flying, List.subset_append_right _ _⟩
  have known : s'.known ⊆ s.known :=
    List.append_subset.mpr ⟨List.subset_append_of_subset_left _ queue.subset,
      List.subset_append_of_subset_right _ posted⟩
  constructor
  · exact fun body member other member' => numbered.apart body (known member) other (known member')
  · exact fun body member => next ▸ numbered.fresh body (known member)
  · exact numbered.sorted.sublist queue
  · exact fun body member waiting member' => numbered.first body (posted member) waiting (queue.subset member')
  · exact fun body member other member' => numbered.ordered body (counted ▸ member) other (flying member')

theorem packed_seq (s : State) (taken : Taken) (conns : List (List ℕ)) :
    (s.packed taken conns).map Sealed.seq = List.range' s.nextSeq conns.length := by
  unfold State.packed
  rw [List.map_map]
  exact List.zipIdx_map_snd _ _

/-- A seal's bodies join the queue under numbers not used before. -/
theorem pushes (numbered : Numbered s) (taken : Taken) (conns : List (List ℕ)) :
    Numbered { s with queue := s.queue ++ s.packed taken conns, nextSeq := s.nextSeq + conns.length } := by
  have seqs := packed_seq s taken conns
  have ascending : (s.packed taken conns).Pairwise (·.seq < ·.seq) := by
    rw [← List.pairwise_map (R := (· < ·)), seqs]
    exact List.pairwise_lt_range'
  have numbers : ∀ body ∈ s.packed taken conns, s.nextSeq ≤ body.seq ∧ body.seq < s.nextSeq + conns.length := by
    intro body member
    have seq := List.mem_map_of_mem (f := Sealed.seq) member
    rw [seqs, List.mem_range'_1] at seq
    exact seq
  have split {body : Sealed} (member : body ∈ (s.queue ++ s.packed taken conns) ++ s.posted) :
      body ∈ s.known ∨ body ∈ s.packed taken conns := by
    simp only [State.known, List.mem_append] at member ⊢
    tauto
  constructor
  case apart =>
    intro body member other member' same
    rcases split member with old | new
    · rcases split member' with old' | new'
      · exact numbered.apart body old other old' same
      · have below := numbered.fresh body old
        have above := numbers other new'
        omega
    · rcases split member' with old' | new'
      · have below := numbered.fresh other old'
        have above := numbers body new
        omega
      · have distinct : ((s.packed taken conns).map Sealed.seq).Nodup := by
          rw [seqs]
          exact List.nodup_range'
        exact List.inj_on_of_nodup_map distinct new new' same
  case fresh =>
    intro body member
    rcases split member with old | new
    · exact (numbered.fresh body old).trans_le (Nat.le_add_right _ _)
    · exact (numbers body new).2
  case sorted =>
    refine List.pairwise_append.mpr ⟨numbered.sorted, ascending, fun body member other member' => ?_⟩
    exact (numbered.fresh body (List.mem_append_left _ member)).trans_le (numbers other member').1
  case first =>
    intro body member waiting member'
    rcases List.mem_append.mp member' with old | new
    · exact numbered.first body member waiting old
    · exact (numbered.fresh body (List.mem_append_right _ member)).le.trans (numbers waiting new).1
  case ordered => exact numbered.ordered

theorem steps (numbered : Numbered s) (steps : s.Steps event s') : Numbered s' := by
  cases steps with
  | tick mono clock => exact numbered.shrinks (.refl _) (List.Subset.refl _) rfl rfl
  | start => exact numbered.shrinks (.refl _) (List.Subset.refl _) rfl rfl
  | skip => exact numbered.shrinks (.refl _) (List.Subset.refl _) rfl rfl
  | cap taken mono started =>
    apply numbered.shrinks
    · simp
    · simp [State.flying]
    · simp [State.countedBodies]
    · simp
  | record conns taken packing =>
    apply (numbered.pushes taken conns).shrinks
    · simp only [Outbox.record_eq]
      exact List.drop_sublist _ _
    · exact List.Subset.refl _
    · rfl
    · rfl
  | post body rest front landed =>
    have queued : body ∈ s.queue := front ▸ List.mem_cons_self
    have known : ∀ other ∈ s.queue ++ ([body] ++ s.countedBodies), other ∈ s.known := by
      intro other member
      simp only [State.known, State.posted, List.mem_append, List.mem_singleton] at member ⊢
      grind
    have counted {other : Sealed} (member : other ∈ s.countedBodies) : other ∈ s.posted :=
      List.mem_append_right _ member
    constructor
    · exact fun body member other member' => numbered.apart body (known _ member) other (known _ member')
    · exact fun body member => numbered.fresh body (known _ member)
    · exact numbered.sorted
    · intro other member waiting member'
      rcases List.mem_append.mp member with flying | member
      · cases List.mem_singleton.mp flying
        have sorted := numbered.sorted
        rw [front] at sorted member'
        rcases List.mem_cons.mp member' with rfl | member'
        · exact le_rfl
        · exact (List.rel_of_pairwise_cons sorted member').le
      · exact numbered.first other (counted member) waiting member'
    · intro other member flying member'
      cases List.mem_singleton.mp member'
      exact numbered.first other (counted member) body queued
  | count body flies first takes =>
    have flying : s.flying = [body] := by simp [State.flying, flies]
    have posted : body ∈ s.posted := List.mem_append_left _ (by simp [flying])
    have known : ∀ other ∈ s.queue ++ ([body] ++ (body :: s.countedBodies)), other ∈ s.known := by
      intro other member
      simp only [State.known, State.posted, flying, List.mem_append, List.mem_cons] at member ⊢
      grind
    constructor
    · exact fun body member other member' => numbered.apart body (known _ member) other (known _ member')
    · exact fun body member => numbered.fresh body (known _ member)
    · exact numbered.sorted
    · intro other member waiting member'
      apply numbered.first other _ waiting member'
      simp only [State.posted, State.flying, State.countedBodies, flies, List.mem_append, List.map_cons, List.mem_cons,
        Option.toList_some, List.map_nil, List.not_mem_nil, or_false] at member ⊢
      grind
    · intro other member flying' member'
      cases List.mem_singleton.mp member'
      rcases List.mem_cons.mp member with rfl | member
      · exact le_rfl
      · exact numbered.ordered other member body (by simp [flying])
  | recount recv body flies =>
    exact numbered.shrinks (.refl _) (by simp [State.flying, flies]) rfl rfl
  | accepted body recv flies =>
    apply numbered.shrinks
    · exact List.eraseP_sublist
    · simp [State.flying]
    · simp [State.countedBodies]
    · simp
  | retry => exact numbered.shrinks (.refl _) (by simp [State.flying]) rfl rfl
  | refused flight => exact numbered.shrinks List.eraseP_sublist (by simp [State.flying]) rfl rfl
  | stop => exact numbered.shrinks (List.nil_sublist _) (by simp [State.flying]) rfl rfl

end Numbered

/-! ## What the count holds -/

namespace State

/-- The origins of a seal that is being packed. -/
def packing (s : State) : Finset String :=
  match s.sealing with
  | some (.packing taken) => taken.origins
  | _ => ∅

/-- Ingest's count of a body is behind the ledger: its month has come to the one the body was
counted in. -/
def Reached (s : State) (entry : Sealed × Instant) : Prop := ∃ month ∈ s.relays.month, entry.2.month ≤ month

/-- The body whose acceptance an event is. -/
def answered (s : State) : Event → List Sealed
  | .accepted => s.flying
  | _ => []

/-- No restart of the count finds a body that an earlier restart took the mark of in flight
still, or counted in the month restarted for or a later one, unless it is the body answered. -/
def InTime (s : State) (event : Event) : Prop :=
  ∀ month ∈ s.restarts event, ∀ body ∈ s.overtaken, body ∈ s.answered event ∨
    body ∉ s.flying ∧ ∀ entry ∈ s.ingest.counted, entry.1 = body → entry.2.month < month

end State

structure Counts (s : State) : Prop where
  room : (s.relays.origins ∪ s.packing).card ≤ maxRelaysPerMonth
  queued : ∀ body ∈ s.queue, body.named ⊆ s.relays.origins
  flying : ∀ body ∈ s.flying, body.named ⊆ s.relays.origins
  unanswered : s.relays.unanswered ⊆ s.relays.origins
  marked : ∀ body ∈ s.marked, body.named ⊆ s.relays.unanswered
  /-- The body in flight is queued, or was given up. -/
  flown : ∀ body ∈ s.flying, body ∈ s.queue ∨ body ∈ s.marked ∨ body ∈ s.overtaken
  /-- So is a body counted, until the ledger has come to its month. -/
  settled : ∀ entry ∈ s.ingest.counted, entry.1 ∈ s.queue ∨ entry.1 ∈ s.flying ∨ entry.1 ∈ s.marked ∨
    entry.1 ∈ s.overtaken ∨ s.Reached entry
  /-- The count has the origins of a body counted, until the ledger is past its month. -/
  held : ∀ entry ∈ s.ingest.counted, entry.1.named ⊆ s.relays.origins ∨
    ∃ month ∈ s.relays.month, entry.2.month < month

namespace Counts

variable {s s' : State} {event : Event} {month : ℤ}

/-- What a restart keeps, of the bodies in `kept` and the marks: those queued or in flight, and
those counted in its month. -/
theorem restart_keeps (counts : Counts s) {kept : List Sealed}
    (overtaken : ∀ body ∈ s.overtaken, body ∈ kept ∨
      body ∉ s.flying ∧ ∀ entry ∈ s.ingest.counted, entry.1 = body → entry.2.month < month)
    (queue : ∀ body ∈ s.queue, body ∈ kept) {m : ℤ} (stored : s.relays.month = some m) (later : m < month) :
    (∀ body ∈ s.flying, body.named ⊆ s.relays.unanswered ∪ named kept) ∧
      ∀ entry ∈ s.ingest.counted, entry.1.named ⊆ s.relays.unanswered ∪ named kept ∨ entry.2.month < month := by
  have kept_named {body : Sealed} (member : body ∈ kept) : body.named ⊆ s.relays.unanswered ∪ named kept :=
    (named_subset.mp subset_rfl body member).trans Finset.subset_union_right
  have marked_named {body : Sealed} (member : body ∈ s.marked) : body.named ⊆ s.relays.unanswered ∪ named kept :=
    (counts.marked body member).trans Finset.subset_union_left
  have flying : ∀ body ∈ s.flying, body.named ⊆ s.relays.unanswered ∪ named kept := by
    intro body flies
    rcases counts.flown body flies with queued | marked | given_up
    · exact kept_named (queue body queued)
    · exact marked_named marked
    · rcases overtaken body given_up with kept | ⟨landed, -⟩
      · exact kept_named kept
      · exact absurd flies landed
  refine ⟨flying, fun entry counted => ?_⟩
  rcases counts.settled entry counted with queued | flies | marked | given_up | ⟨m', stored', reached⟩
  · exact .inl (kept_named (queue _ queued))
  · exact .inl (flying _ flies)
  · exact .inl (marked_named marked)
  · rcases overtaken _ given_up with kept | ⟨-, before⟩
    · exact .inl (kept_named kept)
    · exact .inr (before entry counted rfl)
  · cases stored.symm.trans stored'
    exact .inr (reached.trans_lt later)

/-- The ledger is told of a month while the bodies of `kept` are still to be counted. -/
theorem retold (counts : Counts s) (inTime : s.InTime event) (told : s.told event = some month)
    {kept : List Sealed} {relays : Ledger}
    (ledger : Ledger.Told month (named kept) s.relays.toRelayLedger relays.toRelayLedger)
    (queue : ∀ body ∈ s.queue, body ∈ kept) (known : ∀ body ∈ kept, body ∈ s.queue ∨ body ∈ s.flying)
    (answered : ∀ body ∈ s.answered event, body ∈ kept) :
    Counts { s.mark event with relays } ∧ ∃ m ∈ relays.month, month ≤ m := by
  cases ledger with
  | restarted m stored later now origins unanswered =>
    have restarts : s.restarts event = some month := by
      unfold State.restarts
      rw [told, Option.filter_some, if_pos]
      simp [stored, later]
    have marks : s.mark event = { s with marked := [], overtaken := s.marked ++ s.overtaken } := by
      unfold State.mark
      rw [restarts]
      rfl
    have overtaken : ∀ body ∈ s.overtaken, body ∈ kept ∨
        body ∉ s.flying ∧ ∀ entry ∈ s.ingest.counted, entry.1 = body → entry.2.month < month := by
      intro body given_up
      exact (inTime month restarts body given_up).imp_left (answered body)
    obtain ⟨flying, held⟩ := counts.restart_keeps overtaken queue stored later
    have known_named : named kept ⊆ s.relays.origins := by
      apply named_subset.mpr
      intro body member
      rcases known body member with queued | flies
      · exact counts.queued body queued
      · exact counts.flying body flies
    rw [marks]
    refine ⟨⟨?_, ?_, ?_, ?_, nofun, ?_, ?_, ?_⟩, month, now, le_rfl⟩
    · apply (Finset.card_le_card _).trans counts.room
      rw [origins]
      exact Finset.union_subset_union_left (Finset.union_subset counts.unanswered known_named)
    · intro body member
      rw [origins]
      exact (named_subset.mp subset_rfl body (queue body member)).trans Finset.subset_union_right
    · intro body flies
      rw [origins]
      exact flying body flies
    · simp [unanswered]
    · intro body flies
      have given_up := counts.flown body flies
      simp only [List.mem_append]
      tauto
    · intro entry counted
      rcases counts.settled entry counted with queued | flies | marked | given_up | ⟨m', stored', reached⟩
      · exact .inl queued
      · exact .inr (.inl flies)
      · exact .inr (.inr (.inr (.inl (List.mem_append_left _ marked))))
      · exact .inr (.inr (.inr (.inl (List.mem_append_right _ given_up))))
      · cases stored.symm.trans stored'
        exact .inr (.inr (.inr (.inr ⟨month, now, reached.trans later.le⟩)))
    · intro entry counted
      rw [origins]
      exact (held entry counted).imp_right fun earlier => ⟨month, now, earlier⟩
  | kept reached now origins unanswered =>
    have restarts : s.restarts event = none := by
      unfold State.restarts
      rw [told, Option.filter_some, if_neg]
      cases stored : s.relays.month with
      | none => simp
      | some m => simpa using reached m stored
    have marks : s.mark event = s := by
      unfold State.mark
      rw [if_pos restarts]
    have same {m : ℤ} (stored : m ∈ s.relays.month) : m ∈ relays.month := by
      rw [Option.mem_def.mp stored] at now
      exact now
    rw [marks]
    refine ⟨⟨?_, ?_, ?_, ?_, ?_, counts.flown, ?_, ?_⟩, ?_⟩
    · rw [origins]
      exact counts.room
    · rw [origins]
      exact counts.queued
    · rw [origins]
      exact counts.flying
    · rw [origins, unanswered]
      exact counts.unanswered
    · rw [unanswered]
      exact counts.marked
    · intro entry counted
      refine (counts.settled entry counted).imp_right (Or.imp_right (Or.imp_right (Or.imp_right ?_)))
      exact fun ⟨m, stored, reached⟩ => ⟨m, same stored, reached⟩
    · intro entry counted
      rw [origins]
      exact (counts.held entry counted).imp_right fun ⟨m, stored, past⟩ => ⟨m, same stored, past⟩
    · cases stored : s.relays.month with
      | none =>
        rw [stored] at now
        exact ⟨month, now, le_rfl⟩
      | some m => exact ⟨m, same stored, reached m stored⟩

/-- Bodies leave the queue and the flight ends, of none but bodies ingest never counted or
the ledger is done with. -/
theorem leaves (counts : Counts s) (queue : s'.queue ⊆ s.queue) (flying : s'.flying = [])
    (relays : s'.relays = s.relays) (sealing : s'.sealing = s.sealing) (ingest : s'.ingest = s.ingest)
    (marked : s'.marked = s.marked) (overtaken : s'.overtaken = s.overtaken)
    (settled : ∀ entry ∈ s.ingest.counted, entry.1 ∈ s.queue ∨ entry.1 ∈ s.flying →
      entry.1 ∈ s'.queue ∨ entry.1 ∈ s.marked ∨ entry.1 ∈ s.overtaken ∨ s.Reached entry) : Counts s' := by
  have packing : s'.packing = s.packing := by
    unfold State.packing
    rw [sealing]
  constructor
  case room =>
    rw [relays, packing]
    exact counts.room
  case queued =>
    rw [relays]
    exact fun body member => counts.queued body (queue member)
  case flying => simp [flying]
  case unanswered =>
    rw [relays]
    exact counts.unanswered
  case marked =>
    rw [relays, marked]
    exact counts.marked
  case flown => simp [flying]
  case settled =>
    intro entry counted
    rw [ingest] at counted
    unfold State.Reached
    rw [marked, overtaken, relays]
    rcases counts.settled entry counted with queued | flies | rest
    · exact (settled entry counted (.inl queued)).imp_right .inr
    · exact (settled entry counted (.inr flies)).imp_right .inr
    · exact .inr (.inr rest)
  case held =>
    rw [ingest, relays]
    exact counts.held

theorem origins_room (counts : Counts s) : s.relays.origins.card ≤ maxRelaysPerMonth :=
  (Finset.card_le_card Finset.subset_union_left).trans counts.room

/-- A seal that has taken nothing, or not yet, packs nothing. -/
theorem idles (counts : Counts s) {sealing : Option Sealing} (idle : { s with sealing }.packing = ∅) :
    Counts { s with sealing } := by
  refine ⟨?_, counts.queued, counts.flying, counts.unanswered, counts.marked, counts.flown, counts.settled,
    counts.held⟩
  rw [idle, Finset.union_empty]
  exact counts.origins_room

theorem cap_steps (counts : Counts s) {taken : Taken} (inTime : s.InTime (.cap taken)) {mono : ℚ}
    (started : s.sealing = some (.started mono)) :
    Counts { s.mark (.cap taken) with
      relays := s.relays.advance mono s.queued
      sealing := some (.packing ((s.relays.advance mono s.queued).cap taken).1) } := by
  have told : s.told (.cap taken) = utcMonth (s.relays.earliest mono) := by
    simp only [State.told, started]
  have advanced : Counts { s.mark (.cap taken) with relays := s.relays.advance mono s.queued } := by
    cases reached : utcMonth (s.relays.earliest mono) with
    | none =>
      have restarts : s.restarts (.cap taken) = none := by
        unfold State.restarts
        rw [told, reached]
        rfl
      unfold State.mark
      rw [if_pos restarts, Ledger.advance_untold _ _ reached]
      exact counts
    | some month =>
      have ledger : Ledger.Told month (named s.queue) s.relays.toRelayLedger
          (s.relays.advance mono s.queued).toRelayLedger := by
        have still : s.queued.flatten.toFinset = named s.queue := by
          simp [Outbox.queued, named, List.flatMap]
        rw [← still]
        exact s.relays.advance_told mono reached
      exact (counts.retold inTime (told.trans reached) ledger (fun _ queued => queued) (fun _ => .inl) nofun).1
  refine ⟨?_, advanced.queued, advanced.flying, advanced.unanswered, advanced.marked, advanced.flown,
    advanced.settled, advanced.held⟩
  exact Ledger.cap_room _ advanced.origins_room taken

theorem record_steps (counts : Counts s) {taken : Taken} (packing : s.sealing = some (.packing taken))
    (conns : List (List ℕ)) :
    Counts { s with
      toOutbox := s.record (s.packed taken conns)
      nextSeq := s.nextSeq + conns.length
      sealing := none
      marked := s.marked ++ (s.queue ++ s.packed taken conns).take
        ((s.queue ++ s.packed taken conns).length - maxQueuedBodies) } := by
  have named_packed : ∀ body ∈ s.packed taken conns, body.named ⊆ s.packing := by
    intro body member
    obtain ⟨entry, -, rfl⟩ := List.mem_map.mp member
    unfold State.packing
    rw [packing]
    exact originsOf_subset entry.1 taken
  have named_all : ∀ body ∈ s.queue ++ s.packed taken conns,
      body.named ⊆ s.relays.origins ∪ named (s.packed taken conns) := by
    intro body member
    rcases List.mem_append.mp member with queued | packed
    · exact (counts.queued body queued).trans Finset.subset_union_left
    · exact (named_subset.mp subset_rfl body packed).trans Finset.subset_union_right
  simp only [Outbox.record_eq]
  generalize gone : (s.queue ++ s.packed taken conns).length - maxQueuedBodies = n
  have split {body : Sealed} (queued : body ∈ s.queue) :
      body ∈ (s.queue ++ s.packed taken conns).drop n ∨ body ∈ (s.queue ++ s.packed taken conns).take n := by
    have member := List.mem_append_left (s.packed taken conns) queued
    rw [← List.take_append_drop n (s.queue ++ s.packed taken conns)] at member
    exact (List.mem_append.mp member).symm
  constructor
  case room =>
    apply (Finset.card_le_card _).trans counts.room
    show s.relays.origins ∪ named (s.packed taken conns) ∪ ∅ ⊆ _
    rw [Finset.union_empty]
    exact Finset.union_subset_union_right (named_subset.mpr named_packed)
  case queued => exact fun body member => named_all body (List.mem_of_mem_drop member)
  case flying => exact fun body flies => (counts.flying body flies).trans Finset.subset_union_left
  case unanswered =>
    apply Finset.union_subset
    · exact counts.unanswered.trans Finset.subset_union_left
    · exact named_subset.mpr fun body member => named_all body (List.mem_of_mem_take member)
  case marked =>
    intro body member
    rcases List.mem_append.mp member with marked | evicted
    · exact (counts.marked body marked).trans Finset.subset_union_left
    · exact (named_subset.mp subset_rfl body evicted).trans Finset.subset_union_right
  case flown =>
    intro body flies
    have place := counts.flown body flies
    have queued := @split body
    simp only [List.mem_append] at queued ⊢
    tauto
  case settled =>
    intro entry counted
    have place := counts.settled entry counted
    have queued := @split entry.1
    simp only [List.mem_append] at queued ⊢
    tauto
  case held =>
    intro entry counted
    exact (counts.held entry counted).imp_left fun held => held.trans Finset.subset_union_left

/-- Removing a body by its number leaves the others. -/
theorem mem_remove (numbered : Numbered s) {body other : Sealed} (flies : body ∈ s.flying) (queued : other ∈ s.queue)
    (apart : other ≠ body) : other ∈ (s.remove body.seq).queue := by
  refine (List.mem_eraseP_of_neg ?_).mpr queued
  simp only [decide_eq_true_eq]
  intro same
  apply apart
  apply numbered.apart other _ body _ same
  · exact List.mem_append_left _ queued
  · exact List.mem_append_right _ (List.mem_append_left _ flies)

theorem accepted_steps (counts : Counts s) (clocks : Clocks s) (numbered : Numbered s)
    (inTime : s.InTime .accepted) {body : Sealed} {recv : Instant} (flies : s.flight = some ⟨body, some recv⟩) :
    Counts { s.mark .accepted with toOutbox := s.toOutbox.accepted body recv.ms s.mono, flight := none } := by
  have flying : s.flying = [body] := by simp [State.flying, flies]
  have told : s.told .accepted = some recv.month := by simp [State.told, flies]
  have answered : Answer.month ⟨some recv.ms, body.origins, (s.remove body.seq).queued⟩ = some recv.month :=
    recv.utcMonth
  have still : (Answer.still ⟨some recv.ms, body.origins, (s.remove body.seq).queued⟩).toFinset =
      named (body :: (s.remove body.seq).queue) := by
    simp [Answer.still, Outbox.queued, named, List.flatMap]
  have ledger := s.relays.accepted_told s.mono answered
  rw [still] at ledger
  have removed : (s.remove body.seq).queue ⊆ s.queue := List.eraseP_subset
  have kept {other : Sealed} (queued : other ∈ s.queue) :
      other = body ∨ other ∈ (s.remove body.seq).queue := by
    by_cases same : other = body
    · exact .inl same
    · exact .inr (mem_remove numbered (by simp [flying]) queued same)
  obtain ⟨retold, month, stored, reached⟩ := counts.retold inTime told ledger
    (fun other queued => List.mem_cons.mpr (kept queued))
    (fun other member => by
      rcases List.mem_cons.mp member with rfl | queued
      · exact .inr (by simp [flying])
      · exact .inl (removed queued))
    (fun other flies => by
      have flies : other ∈ s.flying := flies
      rw [flying, List.mem_singleton] at flies
      exact List.mem_cons.mpr (.inl flies))
  have body_reached (entry : Sealed × Instant) (counted : entry ∈ s.ingest.counted) (same : entry.1 = body) :
      entry.2.month ≤ month :=
    (Instant.month_mono ((clocks.answered _ flies recv rfl).2 entry counted same)).trans reached
  apply retold.leaves
  · simpa [Outbox.accepted] using removed
  · rfl
  · rfl
  · rfl
  · rfl
  · rfl
  · rfl
  · intro entry counted place
    rw [State.mark_ingest] at counted
    by_cases same : entry.1 = body
    · exact .inr (.inr (.inr ⟨month, stored, body_reached entry counted same⟩))
    · rcases place with queued | flies'
      · simp only [State.mark_toOutbox] at queued
        exact .inl ((kept queued).resolve_left same)
      · simp only [State.flying, State.mark_flight, flies] at flies'
        exact absurd (List.mem_singleton.mp flies') same

theorem steps (counts : Counts s) (clocks : Clocks s) (numbered : Numbered s) (inTime : s.InTime event)
    (steps : s.Steps event s') : Counts s' := by
  cases steps with
  | tick => exact ⟨counts.room, counts.queued, counts.flying, counts.unanswered, counts.marked, counts.flown,
      counts.settled, counts.held⟩
  | start => exact counts.idles rfl
  | skip => exact counts.idles rfl
  | cap taken mono started => exact counts.cap_steps inTime started
  | record conns taken packing => exact counts.record_steps packing conns
  | post body rest front landed =>
    have queued : body ∈ s.queue := front ▸ List.mem_cons_self
    have idle : s.flying = [] := by simp [State.flying, landed]
    refine ⟨counts.room, counts.queued, ?_, counts.unanswered, counts.marked, ?_, ?_, counts.held⟩
    · intro other flies
      cases List.mem_singleton.mp flies
      exact counts.queued body queued
    · intro other flies
      cases List.mem_singleton.mp flies
      exact .inl queued
    · intro entry counted
      have place := counts.settled entry counted
      rw [idle] at place
      exact place.imp_right fun place => .inr (place.resolve_left List.not_mem_nil)
  | count body flies =>
    have flying : s.flying = [body] := by simp [State.flying, flies]
    have origins := counts.flying
    have flown := counts.flown
    have settled := counts.settled
    rw [flying] at origins flown settled
    refine ⟨counts.room, counts.queued, origins, counts.unanswered, counts.marked, flown, ?_, ?_⟩
    · intro entry counted
      rcases List.mem_cons.mp counted with rfl | counted
      · exact .inr (.inl List.mem_cons_self)
      · exact settled entry counted
    · intro entry counted
      rcases List.mem_cons.mp counted with rfl | counted
      · exact .inl (origins body List.mem_cons_self)
      · exact counts.held entry counted
  | recount recv body flies =>
    have flying : s.flying = [body] := by simp [State.flying, flies]
    have origins := counts.flying
    have flown := counts.flown
    have settled := counts.settled
    rw [flying] at origins flown settled
    exact ⟨counts.room, counts.queued, origins, counts.unanswered, counts.marked, flown, settled, counts.held⟩
  | accepted body recv flies => exact counts.accepted_steps clocks numbered inTime flies
  | retry flight flies =>
    apply counts.leaves
    case settled =>
      rintro entry - (queued | flies)
      · exact .inl queued
      · exact (counts.flown _ flies).imp_right (Or.imp_right .inl)
    all_goals first | rfl | exact List.Subset.refl _
  | refused flight flies uncounted =>
    have flying : s.flying = [flight.body] := by simp [State.flying, flies]
    have apart (entry : Sealed × Instant) (counted : entry ∈ s.ingest.counted) : entry.1 ≠ flight.body :=
      fun same => uncounted (same ▸ List.mem_map_of_mem counted)
    apply counts.leaves
    case settled =>
      rintro entry counted (queued | flies)
      · exact .inl (mem_remove numbered (by simp [flying]) queued (apart entry counted))
      · exact absurd (List.mem_singleton.mp (flying ▸ flies)) (apart entry counted)
    case queue => exact List.eraseP_subset
    all_goals rfl
  | stop flight flies uncounted =>
    have flying : s.flying = [flight.body] := by simp [State.flying, flies]
    have flight_flies : flight.body ∈ s.flying := by simp [flying]
    have apart (entry : Sealed × Instant) (counted : entry ∈ s.ingest.counted) : entry.1 ≠ flight.body :=
      fun same => uncounted (same ▸ List.mem_map_of_mem counted)
    apply counts.leaves
    case settled =>
      rintro entry counted (queued | flies)
      · -- what is queued was posted no later than the body in flight, so never before it
        have seq : entry.1.seq = flight.body.seq := by
          apply Nat.le_antisymm
          · exact numbered.ordered _ (List.mem_map_of_mem counted) _ flight_flies
          · exact numbered.first _ (List.mem_append_left _ flight_flies) _ queued
        have same := numbered.apart _ (List.mem_append_left _ queued) _
          (List.mem_append_right _ (List.mem_append_left _ flight_flies)) seq
        exact absurd same (apart entry counted)
      · exact absurd (List.mem_singleton.mp (flying ▸ flies)) (apart entry counted)
    case queue => exact List.nil_subset _
    all_goals rfl

end Counts

/-! ## The cap at ingest -/

/-- Nothing sealed yet. -/
def Start (s : State) : Prop := ∃ clock, s = { ingest := { clock } }

/-- A month ingest's clock has not gone past is one the count still holds. -/
theorem load_counted {s : State} (clocks : Clocks s) (counts : Counts s) : s.load ⊆ s.relays.origins := by
  apply Finset.union_subset
  · apply Finset.union_subset
    · apply named_subset.mpr
      intro body member
      obtain ⟨entry, counted, rfl⟩ := List.mem_map.mp member
      obtain ⟨counted, current⟩ := List.mem_filter.mp counted
      rcases counts.held entry counted with held | ⟨month, stored, past⟩
      · exact held
      · have reached := clocks.month month stored
        have current := of_decide_eq_true current
        omega
    · exact named_subset.mpr counts.queued
  · exact named_subset.mpr counts.flying

/-- A body refused in flight is one too many. -/
theorem refused_over {s : State} {body : Sealed} (flies : body ∈ s.flying) (refuses : s.ingest.Refuses body) :
    maxRelaysPerMonth < s.load.card := by
  apply refuses.trans_le
  apply Finset.card_le_card
  apply Finset.union_subset
  · exact Finset.subset_union_left.trans Finset.subset_union_left
  · exact (named_subset.mp subset_rfl body flies).trans Finset.subset_union_right

/-- What a run in time keeps. -/
structure Kept (s : State) : Prop where
  clocks : Clocks s
  numbered : Numbered s
  counts : Counts s

theorem Kept.start {s : State} (start : Start s) : Kept s := by
  obtain ⟨clock, rfl⟩ := start
  refine ⟨?_, ?_, ?_⟩
  · constructor
    all_goals simp
  · constructor
    all_goals simp [State.known, State.posted, State.flying, State.countedBodies]
  · constructor
    all_goals simp [State.flying, State.packing]

theorem Kept.step {s s' : State} {event : Event} (kept : Kept s) (inTime : s.InTime event)
    (step : s.step event = some s') : Kept s' := by
  have steps := State.step_steps step
  exact ⟨kept.clocks.steps steps, kept.numbered.steps steps,
    kept.counts.steps kept.clocks kept.numbered inTime steps⟩

instance (s : State) (event : Event) : Decidable (s.InTime event) := by
  unfold State.InTime
  infer_instance

/-- A seal's row of a connection to a relay of its own. -/
def rowOf (conn : ℕ) : Taken where
  groups := [conn]
  relays := [(conn, toString conn)]
  keyed := by simp

/-- Of 63 connections, each to a relay of its own. -/
def rowsOf : Taken where
  groups := List.range' 3 63
  relays := (List.range' 3 63).map fun conn => (conn, toString conn)
  keyed := by
    rw [List.map_map]
    exact List.Nodup.map Function.injective_id List.nodup_range'

/-- A body is given up in flight.  Ingest's clock, a month behind, is set right, and ingest
counts the body in month 2; the answer is lost.  The count restarts for month 1, which takes
the mark, and for month 2, which forgets the body; so a later seal has room for one origin
more than ingest has. -/
def forgetting : List Event :=
  [.start, .cap (rowOf 0), .record [[0]], .post, .count, .accepted,
   .tick 2678660000 ⟨2678660000, by norm_num [Accepted, largestMs, abs_of_nonneg]⟩,
   .start, .cap (rowOf 1), .record [[1]], .post,
   .start, .cap (rowOf 2), .record (List.replicate 64 [2]),
   .tick 2678670000 ⟨60 * msPerDay, by norm_num [Accepted, largestMs, msPerDay, abs_of_nonneg]⟩,
   .count, .retry,
   .start, .cap (rowOf 2), .record [],
   .post, .count, .accepted,
   .start, .cap rowsOf, .record (List.range' 3 63 :: List.replicate 63 [3]),
   .post]

end Moqtap.RelayOutbox
