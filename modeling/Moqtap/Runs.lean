import Mathlib

/-! Runs of a system that takes one step after another, each step an event with
a state before it and a state behind it. Nothing here knows the system: an
invariant is proved of one step (`Run.invariant`), a restricted run is a run
(`Run.mono`), and an event of a run happened at a state the run had reached
(`Run.at_event`). -/
namespace Moqtap.Runs

/-- What has happened, newest first, and the state it led to. -/
inductive Run {σ ε : Type} (start : σ → Prop) (step : σ → ε → σ → Prop) : List ε → σ → Prop
  | start {s : σ} (first : start s) : Run start step [] s
  | step {history : List ε} {s s' : σ} {event : ε} (run : Run start step history s)
      (next : step s event s') : Run start step (event :: history) s'

variable {σ ε : Type} {start : σ → Prop} {step step' : σ → ε → σ → Prop}
  {history later earlier : List ε} {event : ε} {s : σ}

/-- What holds at the start and is kept by every step holds of the whole run. -/
theorem Run.invariant {holds : List ε → σ → Prop} (first : ∀ s, start s → holds [] s)
    (kept : ∀ history s event s', holds history s → step s event s' → holds (event :: history) s')
    (run : Run start step history s) : holds history s := by
  induction run with
  | start initial => exact first _ initial
  | step _ next ih => exact kept _ _ _ _ ih next

/-- The same, of the states alone. -/
theorem Run.always {holds : σ → Prop} (first : ∀ s, start s → holds s)
    (kept : ∀ s event s', holds s → step s event s' → holds s')
    (run : Run start step history s) : holds s := by
  induction run with
  | start initial => exact first _ initial
  | step _ next ih => exact kept _ _ _ ih next

theorem Run.mono (weaker : ∀ s event s', step s event s' → step' s event s')
    (run : Run start step history s) : Run start step' history s := by
  induction run with
  | start initial => exact .start initial
  | step _ next ih => exact .step ih (weaker _ _ _ next)

/-- An event of a run happened at a state the events before it had reached, and the
run went on from there. -/
theorem Run.at_event (run : Run start step (later ++ event :: earlier) s) :
    ∃ before behind, Run start step earlier before ∧ step before event behind ∧
      Run (· = behind) step later s := by
  induction later generalizing s with
  | nil =>
    cases run with
    | step run next => exact ⟨_, _, run, next, .start rfl⟩
  | cons _ later ih =>
    cases run with
    | step run next =>
      obtain ⟨before, behind, reached, happened, resumed⟩ := ih run
      exact ⟨before, behind, reached, happened, resumed.step next⟩

/-- The state a list of events leads to from `s`, where each can happen. -/
def play (next : σ → ε → Option σ) (s : σ) : List ε → Option σ
  | [] => some s
  | event :: events => (next s event).bind (play next · events)

theorem Run.play {next : σ → ε → Option σ} (sound : ∀ s event s', next s event = some s' → step s event s')
    {events : List ε} {s' : σ} (run : Run start step history s) (played : Runs.play next s events = some s') :
    Run start step (events.reverse ++ history) s' := by
  induction events generalizing s history with
  | nil =>
    cases played
    exact run
  | cons event events ih =>
    obtain ⟨behind, happened, played⟩ := Option.bind_eq_some_iff.mp played
    rw [List.reverse_cons, List.append_assoc]
    exact ih (run.step (sound _ _ _ happened)) played

end Moqtap.Runs
