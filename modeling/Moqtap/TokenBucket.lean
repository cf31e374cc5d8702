import Mathlib

/-! The shaper's token bucket (`shape/bucket.rs`). Tokens are nano-bytes, so a refill is a
product and no rounding happens but in the deadline, which is a ceiling. While every
refill fits the 128 bits it is computed in, a run of calls in any order of instants grants
no more than the rate and one burst, a refusal leaves what a pure refill leaves, and a
deadline is the first instant at which the unit goes (`bucket_exact`). -/
namespace Moqtap.TokenBucket

/-! ## One charge -/

/-- Nano-bytes in a byte. -/
def nano : Nat := 1000000000

/-- Held tokens in nano-bytes, and the instant they were brought up to date. -/
structure BucketState where
  tokens : Nat
  last : Nat
  deriving DecidableEq, Repr

/-- A bucket that starts full. -/
def BucketState.new (burstBytes now : Nat) : BucketState := ⟨nano * burstBytes, now⟩

inductive Grant where
  | now
  | later (deadline : Nat)
  | never
  | largerThanBurst (burstBytes unitBytes : Nat)
  deriving DecidableEq, Repr

/-- `u128` arithmetic, which wraps. -/
def wrapped (n : Nat) : Nat := n % 2 ^ 128

/-- The state brought up to `now`; an instant already behind it refills nothing. -/
def refill (state : BucketState) (rate cap now : Nat) : BucketState :=
  if state.last < now then
    ⟨min (wrapped (state.tokens + wrapped ((now - state.last) * rate))) cap, now⟩
  else ⟨min state.tokens cap, state.last⟩

/-- The instant `waitNanos` behind `last`, where a `Duration` holds the wait and the
platform's clock, which ends at `limit`, the instant. -/
def deadlineAt (limit last waitNanos : Nat) : Option Nat :=
  if waitNanos < 2 ^ 64 ∧ last + waitNanos ≤ limit then some (last + waitNanos) else none

/-- The decision on a bucket brought up to date: the unit is paid for, or refused. -/
def decideOn (limit : Nat) (held : BucketState) (rate burstBytes bytes : Nat) : Grant × BucketState :=
  if nano * bytes ≤ held.tokens then (.now, ⟨held.tokens - nano * bytes, held.last⟩)
  else if rate = 0 then (.never, held)
  else if nano * burstBytes < nano * bytes then (.largerThanBurst burstBytes bytes, held)
  else
    match deadlineAt limit held.last ((nano * bytes - held.tokens) ⌈/⌉ rate) with
    | some deadline => (.later deadline, held)
    | none => (.never, held)

def charge (limit : Nat) (state : BucketState) (rateBps : Option Nat) (burstBytes bytes now : Nat) :
    Grant × BucketState :=
  match rateBps with
  | none => (.now, state)
  | some rate => decideOn limit (refill state rate (nano * burstBytes) now) rate burstBytes bytes

/-! ## Runs -/

structure Call where
  bytes : Nat
  now : Nat
  deriving DecidableEq, Repr

section
variable (limit rate burst : Nat)

def answer (state : BucketState) (call : Call) : Grant :=
  (charge limit state (some rate) burst call.bytes call.now).1

def step (state : BucketState) (call : Call) : BucketState :=
  (charge limit state (some rate) burst call.bytes call.now).2

def after (state : BucketState) (calls : List Call) : BucketState := calls.foldl (step limit rate burst) state

/-- The bytes granted. -/
def granted : BucketState → List Call → Nat
  | _, [] => 0
  | state, call :: calls =>
    (if answer limit rate burst state call = .now then call.bytes else 0) +
      granted (step limit rate burst state call) calls

def NoneGranted : BucketState → List Call → Prop
  | _, [] => True
  | state, call :: calls =>
    answer limit rate burst state call ≠ .now ∧ NoneGranted (step limit rate burst state call) calls

/-- The refill a call makes fits 128 bits. -/
def RefillFits (state : BucketState) (call : Call) : Prop :=
  state.last < call.now → state.tokens + (call.now - state.last) * rate < 2 ^ 128

/-- Every refill of the run does. -/
def Fits : BucketState → List Call → Prop
  | _, [] => True
  | state, call :: calls => RefillFits rate state call ∧ Fits (step limit rate burst state call) calls

end

/-- The latest instant seen, the bucket's creation included. -/
def clock (created : Nat) (calls : List Call) : Nat := calls.foldl (fun latest call => max latest call.now) created

/-- What the bucket holds at `now` if nothing is taken: the rate for the time gone by, up
to the burst. -/
def pureRefill (rate cap : Nat) (state : BucketState) (now : Nat) : BucketState :=
  ⟨min (state.tokens + (now - state.last) * rate) cap, max state.last now⟩

/-! ## What a charge does -/

variable {limit rate burst : Nat} {state : BucketState} {call : Call} {calls : List Call}

theorem refill_exact (fits : RefillFits rate state call) (cap : Nat) :
    refill state rate cap call.now = pureRefill rate cap state call.now := by
  unfold refill pureRefill
  split_ifs with onward
  · have whole := fits onward
    have product : (call.now - state.last) * rate < 2 ^ 128 := by omega
    rw [wrapped, wrapped, Nat.mod_eq_of_lt product, Nat.mod_eq_of_lt whole, Nat.max_eq_right onward.le]
  · have behind : call.now - state.last = 0 := by omega
    rw [behind, Nat.zero_mul, Nat.add_zero, Nat.max_eq_left (by omega)]

theorem charge_some (limit rate burst : Nat) (state : BucketState) (call : Call) :
    charge limit state (some rate) burst call.bytes call.now =
      decideOn limit (refill state rate (nano * burst) call.now) rate burst call.bytes := rfl

theorem decideOn_cases (limit rate burst bytes : Nat) (held : BucketState) :
    ((decideOn limit held rate burst bytes).1 = .now ∧ nano * bytes ≤ held.tokens ∧
      (decideOn limit held rate burst bytes).2 = ⟨held.tokens - nano * bytes, held.last⟩) ∨
    ((decideOn limit held rate burst bytes).1 ≠ .now ∧ held.tokens < nano * bytes ∧
      (decideOn limit held rate burst bytes).2 = held) := by
  by_cases covered : nano * bytes ≤ held.tokens
  · rw [decideOn, if_pos covered]
    exact .inl ⟨rfl, covered, rfl⟩
  · rw [decideOn, if_neg covered]
    refine .inr ?_
    split_ifs
    · exact ⟨nofun, by omega, rfl⟩
    · exact ⟨nofun, by omega, rfl⟩
    · split
      · exact ⟨nofun, by omega, rfl⟩
      · exact ⟨nofun, by omega, rfl⟩

/-- A unit goes when the refilled bucket covers it, and only then is it paid for. -/
theorem charge_cases (limit rate burst : Nat) (state : BucketState) (call : Call) :
    let held := refill state rate (nano * burst) call.now
    (answer limit rate burst state call = .now ∧ nano * call.bytes ≤ held.tokens ∧
      step limit rate burst state call = ⟨held.tokens - nano * call.bytes, held.last⟩) ∨
    (answer limit rate burst state call ≠ .now ∧ held.tokens < nano * call.bytes ∧
      step limit rate burst state call = held) := by
  rw [answer, step, charge_some]
  exact decideOn_cases ..

theorem answer_now_iff :
    answer limit rate burst state call = .now ↔
      nano * call.bytes ≤ (refill state rate (nano * burst) call.now).tokens := by
  rcases charge_cases limit rate burst state call with ⟨now, covered, -⟩ | ⟨refused, short, -⟩
  · exact ⟨fun _ => covered, fun _ => now⟩
  · exact ⟨fun now => absurd now refused, fun covered => absurd covered (by omega)⟩

/-- A deadline is the ceiling of what is missing over the rate. -/
theorem answer_later {deadline : Nat} (later : answer limit rate burst state call = .later deadline) :
    let held := refill state rate (nano * burst) call.now
    0 < rate ∧ held.tokens < nano * call.bytes ∧ call.bytes ≤ burst ∧
      deadline = held.last + (nano * call.bytes - held.tokens) ⌈/⌉ rate := by
  rw [answer, charge_some, decideOn] at later
  split_ifs at later with covered stopped large
  split at later
  · rename_i found
    unfold deadlineAt at found
    split_ifs at found
    cases later
    refine ⟨Nat.pos_of_ne_zero stopped, by omega, ?_, (Option.some.inj found).symm⟩
    exact Nat.le_of_mul_le_mul_left (Nat.le_of_not_lt large) (by decide)
  · cases later

theorem refill_capped (cap now : Nat) : (refill state rate cap now).tokens ≤ cap := by
  unfold refill
  split_ifs
  · exact Nat.min_le_right ..
  · exact Nat.min_le_right ..

theorem refill_last (cap now : Nat) : (refill state rate cap now).last = max state.last now := by
  unfold refill
  split_ifs with onward
  · exact (Nat.max_eq_right onward.le).symm
  · exact (Nat.max_eq_left (Nat.le_of_not_lt onward)).symm

/-- After any call the bucket holds no more than its burst. -/
theorem step_capped : (step limit rate burst state call).tokens ≤ nano * burst := by
  have capped := @refill_capped rate state (nano * burst) call.now
  rcases charge_cases limit rate burst state call with ⟨-, -, next⟩ | ⟨-, -, next⟩
  · rw [next]
    dsimp only
    omega
  · rw [next]
    exact capped

theorem step_last : (step limit rate burst state call).last = max state.last call.now := by
  rcases charge_cases limit rate burst state call with ⟨-, -, next⟩ | ⟨-, -, next⟩
  · rw [next]
    exact refill_last ..
  · rw [next]
    exact refill_last ..

theorem after_last : (after limit rate burst state calls).last = clock state.last calls := by
  induction calls generalizing state with
  | nil => rfl
  | cons call calls ih =>
    rw [after, List.foldl_cons, clock, List.foldl_cons]
    exact (@ih (step limit rate burst state call)).trans (by rw [step_last]; rfl)

theorem last_le_step : state.last ≤ (step limit rate burst state call).last := by
  rw [step_last]
  exact Nat.le_max_left ..

theorem last_le_after : state.last ≤ (after limit rate burst state calls).last := by
  induction calls generalizing state with
  | nil => exact le_rfl
  | cons call calls ih => exact last_le_step.trans ih

/-! ## The rate -/

/-- What a call grants and leaves comes out of what was held and the time gone by. -/
theorem step_conserves (fits : RefillFits rate state call) :
    nano * (if answer limit rate burst state call = .now then call.bytes else 0) +
        (step limit rate burst state call).tokens ≤
      state.tokens + ((step limit rate burst state call).last - state.last) * rate := by
  have held := refill_exact fits (nano * burst)
  have elapsed : (step limit rate burst state call).last - state.last = call.now - state.last := by
    rw [step_last]
    omega
  have refilled : (refill state rate (nano * burst) call.now).tokens ≤
      state.tokens + (call.now - state.last) * rate := by
    rw [held]
    exact Nat.min_le_left ..
  rw [elapsed]
  rcases charge_cases limit rate burst state call with ⟨now, covered, next⟩ | ⟨refused, short, next⟩
  · rw [if_pos now, next]
    dsimp only
    omega
  · rw [if_neg refused, next]
    omega

/-- Over a run likewise. -/
theorem run_conserves (fits : Fits limit rate burst state calls) :
    nano * granted limit rate burst state calls + (after limit rate burst state calls).tokens ≤
      state.tokens + ((after limit rate burst state calls).last - state.last) * rate := by
  induction calls generalizing state with
  | nil => simp [granted, after]
  | cons call calls ih =>
    obtain ⟨here, rest⟩ := fits
    have one := @step_conserves limit rate burst state call here
    have others := ih rest
    have onward := @last_le_step limit rate burst state call
    have onward' := @last_le_after limit rate burst (step limit rate burst state call) calls
    rw [granted, Nat.mul_add]
    change _ + (after limit rate burst (step limit rate burst state call) calls).tokens ≤
      _ + ((after limit rate burst (step limit rate burst state call) calls).last - _) * rate
    generalize (after limit rate burst (step limit rate burst state call) calls) = final at *
    generalize step limit rate burst state call = next at *
    have split : (final.last - state.last) * rate =
        (next.last - state.last) * rate + (final.last - next.last) * rate := by
      rw [← Nat.add_mul]
      congr 1
      omega
    omega

/-- **The rate and one burst** bound what any stretch of calls is granted, its first call
included. -/
theorem window_le {first : Call} {rest : List Call} (fits : Fits limit rate burst state (first :: rest)) :
    nano * granted limit rate burst state (first :: rest) ≤
      ((after limit rate burst state (first :: rest)).last - (step limit rate burst state first).last) * rate +
        nano * burst := by
  obtain ⟨-, behind⟩ := fits
  have others := run_conserves behind
  have capped := @refill_capped rate state (nano * burst) first.now
  rw [granted, Nat.mul_add]
  change _ ≤ ((after limit rate burst (step limit rate burst state first) rest).last - _) * rate + _
  rcases charge_cases limit rate burst state first with ⟨now, covered, next⟩ | ⟨refused, short, next⟩
  · rw [if_pos now]
    rw [next] at others ⊢
    dsimp only at others ⊢
    omega
  · rw [if_neg refused]
    rw [next] at others ⊢
    omega

/-! ## Refusals and deadlines -/

theorem refused_step (fits : RefillFits rate state call) (refused : answer limit rate burst state call ≠ .now) :
    step limit rate burst state call = pureRefill rate (nano * burst) state call.now := by
  rcases charge_cases limit rate burst state call with ⟨now, -, -⟩ | ⟨-, -, next⟩
  · exact absurd now refused
  · rw [next, refill_exact fits]

/-- Refills one behind the other are one refill. -/
theorem pureRefill_twice (cap now later : Nat) :
    pureRefill rate cap (pureRefill rate cap state now) later =
      pureRefill rate cap state (max (max state.last now) later) := by
  unfold pureRefill
  have split : max (max state.last now) later - state.last =
      (now - state.last) + (later - max state.last now) := by omega
  have clocks : max (max state.last now) later = max state.last (max (max state.last now) later) := by omega
  dsimp only
  rw [← clocks, split, Nat.add_mul]
  congr 1
  omega

/-- A run of refusals is a pure refill. -/
theorem refused_run (fits : Fits limit rate burst state calls) (none' : NoneGranted limit rate burst state calls)
    (capped : state.tokens ≤ nano * burst) :
    after limit rate burst state calls =
      pureRefill rate (nano * burst) state (after limit rate burst state calls).last := by
  induction calls generalizing state with
  | nil =>
    change state = pureRefill rate (nano * burst) state state.last
    rw [pureRefill, Nat.sub_self, Nat.zero_mul, Nat.add_zero, Nat.min_eq_left capped, Nat.max_self]
  | cons call calls ih =>
    obtain ⟨here, rest⟩ := fits
    obtain ⟨refused, others⟩ := none'
    have later := ih rest others step_capped
    change after limit rate burst (step limit rate burst state call) calls = _
    change _ = pureRefill rate (nano * burst) state
      (after limit rate burst (step limit rate burst state call) calls).last
    have onward := @last_le_after limit rate burst (step limit rate burst state call) calls
    have mono := @last_le_step limit rate burst state call
    generalize after limit rate burst (step limit rate burst state call) calls = final at *
    rw [refused_step here refused] at later onward mono
    rw [pureRefill_twice] at later
    have clock : (pureRefill rate (nano * burst) state call.now).last = max state.last call.now := rfl
    rw [clock] at onward
    rwa [Nat.max_eq_right onward] at later

/-- **A deadline is the first instant at which the unit goes**, whatever is refused before. -/
theorem later_exact {deadline : Nat} {between : List Call} {instant : Nat}
    (fits : RefillFits rate state call) (later : answer limit rate burst state call = .later deadline)
    (fitsBetween : Fits limit rate burst (step limit rate burst state call) between)
    (none' : NoneGranted limit rate burst (step limit rate burst state call) between)
    (fitsThen : RefillFits rate (after limit rate burst (step limit rate burst state call) between)
      ⟨call.bytes, instant⟩) :
    answer limit rate burst (after limit rate burst (step limit rate burst state call) between)
        ⟨call.bytes, instant⟩ = .now ↔
      deadline ≤ max (after limit rate burst (step limit rate burst state call) between).last instant := by
  obtain ⟨positive, short, small, rfl⟩ := answer_later later
  have refused : answer limit rate burst state call ≠ .now := by
    rw [later]
    exact nofun
  have held : step limit rate burst state call = refill state rate (nano * burst) call.now := by
    rw [refused_step fits refused, refill_exact fits]
  have refusals := refused_run fitsBetween none' step_capped
  rw [answer_now_iff, refill_exact fitsThen]
  have onward := @last_le_after limit rate burst (step limit rate burst state call) between
  generalize after limit rate burst (step limit rate burst state call) between = then' at *
  rw [held] at refusals onward
  generalize refill state rate (nano * burst) call.now = held' at *
  have cap : nano * call.bytes ≤ nano * burst := Nat.mul_le_mul_left nano small
  have whole : (pureRefill rate (nano * burst) then' instant).tokens =
      min (held'.tokens + (max then'.last instant - held'.last) * rate) (nano * burst) := by
    rw [refusals, pureRefill_twice]
    unfold pureRefill
    dsimp only
  dsimp only
  rw [whole, Nat.le_min, and_iff_left cap, ← Nat.sub_le_iff_le_add', Nat.mul_comm _ rate,
    ← ceilDiv_le_iff_le_mul positive]
  omega

/-! ## Every run -/

theorem fits_append {more : List Call} :
    Fits limit rate burst state (calls ++ more) ↔
      Fits limit rate burst state calls ∧ Fits limit rate burst (after limit rate burst state calls) more := by
  induction calls generalizing state with
  | nil => exact ⟨fun fits => ⟨trivial, fits⟩, And.right⟩
  | cons call calls ih =>
    rw [List.cons_append, Fits, Fits, ih, and_assoc]
    rfl

theorem after_append {more : List Call} :
    after limit rate burst state (calls ++ more) =
      after limit rate burst (after limit rate burst state calls) more := List.foldl_append ..

/-- **The bucket is exact** on every run of calls whose refills fit, from any first fill and
in any order of instants. -/
theorem bucket_exact (limit rate burst initial created : Nat) :
    (∀ before first rest,
      Fits limit rate burst (.new initial created) (before ++ first :: rest) →
        nano * granted limit rate burst (after limit rate burst (.new initial created) before) (first :: rest) ≤
          (clock created (before ++ first :: rest) - clock created (before ++ [first])) * rate +
            nano * burst) ∧
    (∀ before call, (after limit rate burst (.new initial created) (before ++ [call])).tokens ≤ nano * burst) ∧
    (∀ before call, Fits limit rate burst (.new initial created) (before ++ [call]) →
      answer limit rate burst (after limit rate burst (.new initial created) before) call ≠ .now →
        after limit rate burst (.new initial created) (before ++ [call]) =
          pureRefill rate (nano * burst) (after limit rate burst (.new initial created) before) call.now) ∧
    ∀ before call deadline between instant,
      Fits limit rate burst (.new initial created) (before ++ call :: (between ++ [⟨call.bytes, instant⟩])) →
      answer limit rate burst (after limit rate burst (.new initial created) before) call = .later deadline →
      NoneGranted limit rate burst (after limit rate burst (.new initial created) (before ++ [call])) between →
        (answer limit rate burst (after limit rate burst (.new initial created) (before ++ call :: between))
            ⟨call.bytes, instant⟩ = .now ↔
          deadline ≤ max (clock created (before ++ call :: between)) instant) := by
  have clocked (calls : List Call) : clock created calls =
      (after limit rate burst (.new initial created) calls).last := (@after_last limit rate burst (.new initial created) calls).symm
  refine ⟨?_, ?_, ?_, ?_⟩
  · intro before first rest fits
    rw [clocked, clocked, after_append, after_append]
    exact window_le (fits_append.mp fits).2
  · intro before call
    rw [after_append]
    exact step_capped
  · intro before call fits refused
    rw [after_append]
    exact refused_step (fits_append.mp fits).2.1 refused
  · intro before call deadline between instant fits later none'
    obtain ⟨-, here, rest⟩ := fits_append.mp fits
    obtain ⟨fitsBetween, fitsThen, -⟩ := fits_append.mp rest
    rw [clocked, after_append]
    rw [after_append] at none'
    exact later_exact here later fitsBetween none' fitsThen

/-- Where a product passes 128 bits the tokens wrap: a bucket idle for 2^65 nanoseconds at
2^63 bytes a second refuses one byte of the hundred it should hold. -/
theorem refill_wraps :
    answer (2 ^ 63 * nano) (2 ^ 63) 100 (.new 0 0) ⟨1, 2 ^ 65⟩ = .later (2 ^ 65 + 1) ∧
      step (2 ^ 63 * nano) (2 ^ 63) 100 (.new 0 0) ⟨1, 2 ^ 65⟩ = ⟨0, 2 ^ 65⟩ ∧
      pureRefill (2 ^ 63) (nano * 100) (.new 0 0) (2 ^ 65) = ⟨nano * 100, 2 ^ 65⟩ := by
  decide +kernel

end Moqtap.TokenBucket
