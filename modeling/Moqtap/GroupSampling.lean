import Mathlib

/-! The monitor's group sampling. A track's group rate is counted second by second in a ring
of eleven slots with a running sum, and the sampling exponent follows that sum.

`Log` remembers every second of the run. `Standing` says what the ring holds of it,
`standing_shift` that one second keeps it and `shift_covered` that nothing underflows there;
`agrees_after` carries both over a run. The two rules for the exponent are read off the sums
that `kept_toNat` and `largestAbove_spec` give. -/

namespace Moqtap.GroupSampling

/-! ## The rate -/

def targetGroupsPerSec : ℕ := 10

def rateWindowSecs : ℕ := 10

def maxK : ℕ := 20

/-- The exponents `0..=MAX_K`. -/
abbrev levels : ℕ := maxK + 1

/-- Groups in a window at the target rate. -/
def target : ℚ := targetGroupsPerSec * rateWindowSecs

/-- 1.125, which a double holds exactly, as it does every product and count compared with it. -/
def raiseMargin : ℚ := 9 / 8

/-- The window's seconds and the current one. -/
abbrev slotCount : ℕ := rateWindowSecs + 1

def inSample (group k : ℕ) : Bool := group &&& ((1 <<< k) - 1) == 0

/-- The zero bits at the low end of an integer of `width` bits. -/
def trailingZeros : ℕ → ℕ → ℕ
  | 0, _ => 0
  | width + 1, group => if group % 2 = 1 then 0 else trailingZeros width (group / 2) + 1

/-- The largest exponent whose sample holds `group`. -/
def level (group : ℕ) : Fin levels := Fin.ofNat levels (min (trailingZeros 64 group) maxK)

structure Rate where
  slots : Fin slotCount → Fin levels → UInt16
  window : Fin levels → UInt32
  head : Option ℤ

def slot (second : ℤ) : Fin slotCount := Fin.ofNat slotCount (second % slotCount).toNat

def saturatingSucc (n : UInt16) : UInt16 := if n = 65535 then n else n + 1

namespace Rate

def new : Rate where
  slots _ _ := 0
  window _ := 0
  head := none

/-- The loop's body: second `x` takes over from the one before it. -/
def shift (rate : Rate) (x : ℤ) : Rate :=
  let done := slot (x - 1)
  let out := slot x
  { rate with
    window := fun l => rate.window l + (rate.slots done l).toUInt32 - (rate.slots out l).toUInt32
    slots := Function.update rate.slots out fun _ => 0 }

/-- The seconds the loop goes through on the way to second `s`. The difference is an `i64`'s
and wraps. -/
def passed (rate : Rate) (s : ℤ) : List ℤ :=
  match rate.head with
  | none => []
  | some h => if s ≤ h ∨ (s - h).bmod (2 ^ 64) > rateWindowSecs then [] else Int.range (h + 1) (s + 1)

/-- `advance`, from the second the milliseconds fall in. -/
def advance (rate : Rate) (s : ℤ) : Bool × Rate :=
  match rate.head with
  | none => (false, { rate with head := some s })
  | some h =>
    if s > h then
      if (s - h).bmod (2 ^ 64) > rateWindowSecs then (true, { new with head := some s })
      else (true, (rate.passed s).foldl shift { rate with head := some s })
    else (false, rate)

/-- Count a group started in the current second. -/
def add (rate : Rate) (group : ℕ) : Rate :=
  match rate.head with
  | none => rate
  | some h =>
    let counts := rate.slots (slot h)
    { rate with
      slots := Function.update rate.slots (slot h) <|
        Function.update counts (level group) (saturatingSucc (counts (level group))) }

/-- Groups in the window that exponent `k` keeps. -/
def kept (rate : Rate) (k : ℕ) : UInt32 := (((List.finRange levels).drop k).map rate.window).sum

/-- The levels below `k`, from the top down, on top of a sum. -/
def largestAboveFrom (rate : Rate) (n : ℚ) : ℕ → UInt32 → ℕ
  | 0, _ => 0
  | k + 1, sum =>
    let sum := sum + rate.window (Fin.ofNat levels k)
    if (sum.toNat : ℚ) > n then k else rate.largestAboveFrom n k sum

/-- The largest exponent keeping more than `n` groups of the window, or 0. -/
def largestAbove (rate : Rate) (n : ℚ) : ℕ := rate.largestAboveFrom n levels 0

/-- The smallest exponent keeping at most the target. -/
def viewerK (rate : Rate) : ℕ :=
  ((List.range (maxK + 1)).find? fun k => ((rate.kept k).toNat : ℚ) ≤ target).getD maxK

end Rate

def producerK (rate : Rate) (k : ℕ) : ℕ :=
  if 0 < k ∧ ((rate.kept k).toNat : ℚ) ≤ target then rate.largestAbove target
  else max (rate.largestAbove (target * raiseMargin)) k

/-! ## Runs -/

inductive Call where
  | advance (second : ℤ)
  | add (group : ℕ)
  deriving DecidableEq, Repr

def Rate.step (rate : Rate) : Call → Rate
  | .advance second => (rate.advance second).2
  | .add group => rate.add group

def Rate.after (calls : List Call) : Rate := calls.foldl step new

/-- The groups of every second, without a window. A second that has passed does not come back. -/
structure Log where
  current : Option ℤ
  started : ℤ → Fin levels → ℕ

namespace Log

def step (log : Log) : Call → Log
  | .advance second => { log with current := some ((log.current.map (max · second)).getD second) }
  | .add group =>
    match log.current with
    | none => log
    | some now =>
      { log with started := Function.update log.started now <|
          Function.update (log.started now) (level group) (log.started now (level group) + 1) }

def after (calls : List Call) : Log := calls.foldl step ⟨none, fun _ _ => 0⟩

end Log

/-- The ten whole seconds before `now`, each counted up to 65535. -/
def slidingSum (started : ℤ → Fin levels → ℕ) (now : ℤ) (l : Fin levels) : ℕ :=
  ∑ i ∈ Finset.range rateWindowSecs, min 65535 (started (now - 1 - i) l)

def Log.window (log : Log) (l : Fin levels) : ℕ :=
  match log.current with
  | none => 0
  | some now => slidingSum log.started now l

/-- Second `x` can be taken in: the sum has room for the second before it and covers the one
that leaves. -/
def Rate.Covered (rate : Rate) (x : ℤ) : Prop :=
  ∀ l, (rate.slots (slot x) l).toNat ≤
      (rate.window l).toNat + (rate.slots (slot (x - 1)) l).toNat ∧
    (rate.window l).toNat + (rate.slots (slot (x - 1)) l).toNat < 2 ^ 32

/-- Every second that a call goes through can be. -/
def Rate.Covers (rate : Rate) : Call → Prop
  | .add _ => True
  | .advance second => ∀ done x rest, rate.passed second = done ++ x :: rest →
      (done.foldl Rate.shift rate).Covered x

/-! ## The ring -/

variable {rate : Rate} {started : ℤ → Fin levels → ℕ} {now : ℤ} {calls : List Call}

theorem slot_eq_iff (x y : ℤ) : slot x = slot y ↔ x % slotCount = y % slotCount := by
  have positive : (slotCount : ℤ) ≠ 0 := by decide
  have low := Int.emod_nonneg x positive
  have low' := Int.emod_nonneg y positive
  have high : x % slotCount < slotCount := Int.emod_lt_of_pos x (by decide)
  have high' : y % slotCount < slotCount := Int.emod_lt_of_pos y (by decide)
  unfold slot
  rw [Fin.ext_iff, Fin.val_ofNat, Fin.val_ofNat, Nat.mod_eq_of_lt (by omega),
    Nat.mod_eq_of_lt (by omega)]
  omega

/-- Eleven seconds have eleven slots. -/
theorem slot_inj {x y : ℤ} (same : slot x = slot y) (near : |x - y| ≤ rateWindowSecs) : x = y := by
  rw [slot_eq_iff] at same
  rw [abs_le] at near
  simp only [slotCount, rateWindowSecs] at same near
  omega

/-- The second that begins takes the slot of the one that leaves the window. -/
theorem slot_leaving (now : ℤ) : slot (now + 1) = slot (now - rateWindowSecs) := by
  rw [slot_eq_iff]
  simp only [slotCount, rateWindowSecs]
  omega

/-- What the ring and its sum hold in second `now`. -/
structure Standing (rate : Rate) (started : ℤ → Fin levels → ℕ) (now : ℤ) : Prop where
  counted : ∀ x l, now - rateWindowSecs ≤ x → x ≤ now →
    (rate.slots (slot x) l).toNat = min 65535 (started x l)
  summed : ∀ l, (rate.window l).toNat = slidingSum started now l
  ahead : ∀ x l, now < x → started x l = 0

theorem slidingSum_le (started : ℤ → Fin levels → ℕ) (now : ℤ) (l : Fin levels) :
    slidingSum started now l ≤ rateWindowSecs * 65535 := by
  unfold slidingSum
  refine (Finset.sum_le_card_nsmul _ _ 65535 fun i _ => Nat.min_le_left ..).trans ?_
  rw [Finset.card_range, smul_eq_mul]

/-- The window slides by the second that enters and the one that leaves. -/
theorem slidingSum_succ (started : ℤ → Fin levels → ℕ) (now : ℤ) (l : Fin levels) :
    slidingSum started (now + 1) l + min 65535 (started (now - rateWindowSecs) l) =
      slidingSum started now l + min 65535 (started now l) := by
  have entered := Finset.sum_range_succ' (fun i : ℕ => min 65535 (started (now - i) l)) rateWindowSecs
  have left := Finset.sum_range_succ (fun i : ℕ => min 65535 (started (now - i) l)) rateWindowSecs
  unfold slidingSum
  simp only [add_sub_cancel_right]
  rw [← left, entered]
  simp only [Nat.cast_add, Nat.cast_one, Nat.cast_zero, sub_zero, sub_sub, add_comm (1 : ℤ)]

theorem shift_covered (standing : Standing rate started now) : rate.Covered (now + 1) := by
  intro l
  have small := slidingSum_le started now l
  have slid := slidingSum_succ started now l
  rw [slot_leaving, add_sub_cancel_right, standing.summed,
    standing.counted now l (by simp [rateWindowSecs]) le_rfl,
    standing.counted _ l le_rfl (by simp [rateWindowSecs])]
  have entering := Nat.min_le_left 65535 (started now l)
  simp only [rateWindowSecs] at small slid ⊢
  omega

/-- The step: one more second, with nothing started in it yet. -/
theorem standing_shift (standing : Standing rate started now) :
    Standing (rate.shift (now + 1)) started (now + 1) := by
  refine ⟨fun x l late early => ?_, fun l => ?_, fun x l later => standing.ahead x l (by omega)⟩
  · unfold Rate.shift
    dsimp only
    by_cases fresh : x = now + 1
    · rw [fresh, Function.update_self, standing.ahead (now + 1) l (by omega)]
      rfl
    · have elsewhere : slot x ≠ slot (now + 1) := by
        intro same
        refine fresh (slot_inj same ?_)
        rw [abs_le]
        omega
      rw [Function.update_of_ne elsewhere]
      exact standing.counted x l (by omega) (by omega)
  · obtain ⟨covers, fits⟩ := shift_covered standing l
    have slid := slidingSum_succ started now l
    have added : (rate.window l + (rate.slots (slot (now + 1 - 1)) l).toUInt32).toNat =
        (rate.window l).toNat + (rate.slots (slot (now + 1 - 1)) l).toNat := by
      rw [UInt32.toNat_add, UInt16.toNat_toUInt32, Nat.mod_eq_of_lt fits]
    unfold Rate.shift
    dsimp only
    have room : (rate.slots (slot (now + 1)) l).toUInt32 ≤
        rate.window l + (rate.slots (slot (now + 1 - 1)) l).toUInt32 := by
      rw [UInt32.le_iff_toNat_le, added, UInt16.toNat_toUInt32]
      exact covers
    rw [UInt32.toNat_sub_of_le _ _ room, added, UInt16.toNat_toUInt32, slot_leaving, add_sub_cancel_right, standing.summed,
      standing.counted now l (by simp [rateWindowSecs]) le_rfl,
      standing.counted _ l le_rfl (by simp [rateWindowSecs])]
    omega

theorem range_eq (now : ℤ) (n : ℕ) :
    Int.range (now + 1) (now + n + 1) = (List.range n).map fun i : ℕ => now + 1 + i := by
  unfold Int.range
  rw [show (now + n + 1 - (now + 1)).toNat = n by omega]

/-- What the loop has behind it when it comes to a second. -/
theorem range_split {n : ℕ} {done rest : List ℤ} {x : ℤ}
    (split : Int.range (now + 1) (now + n + 1) = done ++ x :: rest) :
    done = Int.range (now + 1) (now + done.length + 1) ∧ x = now + done.length + 1 := by
  rw [range_eq] at split ⊢
  have behind := congrArg (List.take done.length) split
  have here := congrArg (·[done.length]?) split
  have short := congrArg List.length split
  simp only [List.length_map, List.length_range, List.length_append, List.length_cons] at short
  rw [List.take_left, ← List.map_take, List.take_range, Nat.min_eq_left (by omega)] at behind
  simp only [List.getElem?_map, List.getElem?_append_right le_rfl, Nat.sub_self,
    List.getElem?_cons_zero, List.getElem?_range (show done.length < n by omega), Option.map_some,
    Option.some.injEq] at here
  exact ⟨behind.symm, by omega⟩

/-- The loop: any number of seconds, one after the other. -/
theorem standing_passed (standing : Standing rate started now) (n : ℕ) :
    Standing ((Int.range (now + 1) (now + n + 1)).foldl Rate.shift rate) started (now + n) := by
  rw [range_eq]
  induction n with
  | zero => simpa using standing
  | succ n ih =>
    have next := standing_shift ih
    rw [show now + (n : ℤ) + 1 = now + 1 + n by omega] at next
    rw [List.range_succ, List.map_append, List.foldl_append, Nat.cast_succ, ← add_assoc,
      add_right_comm now]
    exact next

/-! ## Runs of the ring -/

/-- What a rate and the log of the same calls have in common. -/
structure Agrees (rate : Rate) (log : Log) : Prop where
  head : rate.head = log.current
  idle : log.current = none → rate = .new ∧ log.started = fun _ _ => 0
  standing : ∀ now, log.current = some now → Standing rate log.started now

theorem standing_new (now : ℤ) (head : Option ℤ) :
    Standing { Rate.new with head := head } (fun _ _ => 0) now := by
  refine ⟨fun x l _ _ => rfl, fun l => ?_, fun x l _ => rfl⟩
  unfold slidingSum
  simp [Rate.new]

/-- A jump past the window leaves nothing in it. -/
theorem standing_jump (standing : Standing rate started now) {s : ℤ} (far : now + rateWindowSecs < s) :
    Standing { Rate.new with head := some s } started s := by
  refine ⟨fun x l late _ => ?_, fun l => ?_, fun x l later => standing.ahead x l (by omega)⟩
  · rw [standing.ahead x l (by omega)]
    rfl
  · unfold slidingSum
    symm
    refine Finset.sum_eq_zero fun i member => ?_
    rw [standing.ahead _ l (by have := Finset.mem_range.mp member; omega), Nat.min_zero]

theorem toNat_saturatingSucc (n : UInt16) {count : ℕ} (counts : n.toNat = min 65535 count) :
    (saturatingSucc n).toNat = min 65535 (count + 1) := by
  unfold saturatingSucc
  split_ifs with full
  · rw [full] at counts ⊢
    change 65535 = _ at counts
    change 65535 = _
    omega
  · have below : n.toNat ≠ 65535 := fun same => full (UInt16.toNat_inj.mp same)
    rw [UInt16.toNat_add]
    change (n.toNat + 1) % 2 ^ 16 = _
    omega

theorem Standing.congr {other : Rate} (standing : Standing rate started now)
    (slots : other.slots = rate.slots) (window : other.window = rate.window) :
    Standing other started now := by
  refine ⟨fun x l late early => ?_, fun l => ?_, standing.ahead⟩
  · rw [slots]
    exact standing.counted x l late early
  · rw [window]
    exact standing.summed l

/-- The loop does not read the head. -/
theorem foldl_shift_head (rate : Rate) (head : Option ℤ) (seconds : List ℤ) :
    seconds.foldl Rate.shift { rate with head := head } =
      { seconds.foldl Rate.shift rate with head := head } := by
  induction seconds generalizing rate with
  | nil => rfl
  | cons x seconds ih => exact ih (rate.shift x)

/-- What `advance` does from second `now`: nothing, a fresh start behind a long jump, or the
loop. -/
theorem advance_cases (running : rate.head = some now) (s : ℤ) :
    (s ≤ now ∧ rate.passed s = [] ∧ (rate.advance s).2 = rate) ∨
    (now + rateWindowSecs < s ∧ rate.passed s = [] ∧
      (rate.advance s).2 = { Rate.new with head := some s }) ∨
    ∃ n : ℕ, s = now + n ∧ now < s ∧ rate.passed s = Int.range (now + 1) (now + n + 1) ∧
      (rate.advance s).2 =
        { (Int.range (now + 1) (now + n + 1)).foldl Rate.shift rate with head := some s } := by
  unfold Rate.advance Rate.passed
  rw [running]
  dsimp only
  by_cases onward : s > now
  · rw [if_pos onward]
    by_cases far : (s - now).bmod (2 ^ 64) > rateWindowSecs
    · have long : now + rateWindowSecs < s := by
        by_contra short
        have exact' : (s - now).bmod (2 ^ 64) = s - now := by
          simp only [rateWindowSecs] at short
          rw [Int.bmod_eq_of_le] <;> omega
        omega
      rw [if_pos far, if_pos (.inr far)]
      exact .inr (.inl ⟨long, rfl, rfl⟩)
    · have loops : ¬ (s ≤ now ∨ (s - now).bmod (2 ^ 64) > rateWindowSecs) := by omega
      obtain ⟨n, rfl⟩ : ∃ n : ℕ, s = now + n := ⟨(s - now).toNat, by omega⟩
      rw [if_neg far, if_neg loops, foldl_shift_head]
      exact .inr (.inr ⟨n, rfl, onward, rfl, rfl⟩)
  · rw [if_neg onward, if_pos (.inl (by omega))]
    exact .inl ⟨by omega, rfl, rfl⟩

theorem agrees_advance {log : Log} (agrees : Agrees rate log) (s : ℤ) :
    Agrees (rate.step (.advance s)) (log.step (.advance s)) := by
  unfold Rate.step Log.step
  dsimp only
  cases current : log.current with
  | none =>
    obtain ⟨rfl, unstarted⟩ := agrees.idle current
    refine ⟨rfl, by simp, fun now here => ?_⟩
    rw [unstarted]
    exact standing_new now (some s)
  | some now =>
    have standing := agrees.standing now current
    simp only [Option.map_some, Option.getD_some]
    rcases advance_cases (agrees.head.trans current) s with
      ⟨back, -, advanced⟩ | ⟨far, -, advanced⟩ | ⟨n, reached, onward, -, advanced⟩
    · rw [advanced, max_eq_left back]
      refine ⟨agrees.head.trans current, by simp, fun other here => ?_⟩
      cases here
      exact standing
    · rw [advanced, max_eq_right (by omega)]
      refine ⟨rfl, by simp, fun other here => ?_⟩
      cases here
      exact standing_jump standing far
    · rw [advanced, max_eq_right onward.le]
      refine ⟨rfl, by simp, fun other here => ?_⟩
      cases here
      rw [reached]
      exact (standing_passed standing n).congr rfl rfl

/-- A group started in the current second is counted in its slot and nowhere else. -/
theorem standing_add (standing : Standing rate started now) (running : rate.head = some now)
    (group : ℕ) :
    Standing (rate.add group) (Function.update started now <|
      Function.update (started now) (level group) (started now (level group) + 1)) now := by
  unfold Rate.add
  rw [running]
  refine ⟨fun x l late early => ?_, fun l => ?_, fun x l later => ?_⟩
  · dsimp only
    by_cases same : x = now
    · rw [same, Function.update_self, Function.update_self]
      by_cases level' : l = level group
      · rw [level', Function.update_self, Function.update_self]
        exact toNat_saturatingSucc _ (standing.counted now _ (by omega) le_rfl)
      · rw [Function.update_of_ne level', Function.update_of_ne level']
        exact standing.counted now l (by omega) le_rfl
    · have elsewhere : slot x ≠ slot now := by
        intro slots
        refine same (slot_inj slots ?_)
        rw [abs_le]
        omega
      rw [Function.update_of_ne elsewhere, Function.update_of_ne same]
      exact standing.counted x l late early
  · dsimp only
    rw [standing.summed]
    refine Finset.sum_congr rfl fun i _ => ?_
    rw [Function.update_of_ne (by omega)]
  · rw [Function.update_of_ne (by omega)]
    exact standing.ahead x l later

theorem add_head (rate : Rate) (group : ℕ) : (rate.add group).head = rate.head := by
  unfold Rate.add
  split
  · rfl
  · rfl

theorem agrees_add {log : Log} (agrees : Agrees rate log) (group : ℕ) :
    Agrees (rate.step (.add group)) (log.step (.add group)) := by
  cases current : log.current with
  | none =>
    unfold Rate.step Log.step Rate.add
    rw [agrees.head, current]
    exact agrees
  | some now =>
    have running := agrees.head.trans current
    unfold Rate.step Log.step
    rw [current]
    refine ⟨(add_head rate group).trans running, nofun, fun other here => ?_⟩
    cases here
    exact standing_add (agrees.standing now current) running group

theorem agrees_step {log : Log} (agrees : Agrees rate log) (call : Call) :
    Agrees (rate.step call) (log.step call) := by
  cases call with
  | advance s => exact agrees_advance agrees s
  | add group => exact agrees_add agrees group

theorem agrees_after (calls : List Call) : Agrees (.after calls) (.after calls) := by
  induction calls using List.reverseRecOn with
  | nil => exact ⟨rfl, fun _ => ⟨rfl, rfl⟩, fun now here => by cases here⟩
  | append_singleton calls call ih =>
    unfold Rate.after Log.after at ih ⊢
    rw [List.foldl_append, List.foldl_append]
    exact agrees_step ih call

theorem Agrees.window {log : Log} (agrees : Agrees rate log) (l : Fin levels) :
    (rate.window l).toNat = log.window l := by
  unfold Log.window
  cases current : log.current with
  | none =>
    rw [(agrees.idle current).1]
    rfl
  | some now => exact (agrees.standing now current).summed l

theorem Agrees.covers {log : Log} (agrees : Agrees rate log) (call : Call) : rate.Covers call := by
  cases call with
  | add group => trivial
  | advance s =>
    intro done x rest split
    cases current : log.current with
    | none =>
      unfold Rate.passed at split
      rw [agrees.head, current] at split
      simp at split
    | some now =>
      rcases advance_cases (agrees.head.trans current) s with
        ⟨-, nowhere, -⟩ | ⟨-, nowhere, -⟩ | ⟨n, -, -, passed, -⟩
      · simp [nowhere] at split
      · simp [nowhere] at split
      · obtain ⟨behind, here⟩ := range_split (passed.symm.trans split)
        have standing := standing_passed (agrees.standing now current) done.length
        rw [← behind] at standing
        rw [here]
        exact shift_covered standing

/-! ## The exponent -/

/-- `kept`, in unbounded integers. -/
def Rate.keeps (rate : Rate) (k : ℕ) : ℕ :=
  (((List.finRange levels).drop k).map fun l => (rate.window l).toNat).sum

/-- No level counts more groups than ten full seconds. -/
def Rate.Small (rate : Rate) : Prop := ∀ l, (rate.window l).toNat ≤ rateWindowSecs * 65535

theorem after_small (calls : List Call) : (Rate.after calls).Small := by
  intro l
  rw [(agrees_after calls).window]
  unfold Log.window
  split
  · exact Nat.zero_le _
  · exact slidingSum_le _ _ l

theorem toNat_sum (counts : List UInt32) (fits : (counts.map UInt32.toNat).sum < 2 ^ 32) :
    counts.sum.toNat = (counts.map UInt32.toNat).sum := by
  induction counts with
  | nil => rfl
  | cons count counts ih =>
    rw [List.map_cons, List.sum_cons] at fits
    rw [List.sum_cons, List.map_cons, List.sum_cons, UInt32.toNat_add, ih (by omega)]
    exact Nat.mod_eq_of_lt fits

theorem Rate.Small.keeps_lt (small : rate.Small) (k : ℕ) : rate.keeps k < 2 ^ 32 := by
  unfold Rate.keeps
  refine (List.sum_le_card_nsmul _ (rateWindowSecs * 65535) ?_).trans_lt ?_
  · intro count member
    obtain ⟨l, -, rfl⟩ := List.mem_map.mp member
    exact small l
  · rw [List.length_map, List.length_drop, List.length_finRange, smul_eq_mul]
    simp only [levels, maxK, rateWindowSecs]
    omega

theorem Rate.Small.kept_toNat (small : rate.Small) (k : ℕ) : (rate.kept k).toNat = rate.keeps k := by
  have fits := small.keeps_lt k
  unfold Rate.keeps at fits ⊢
  unfold Rate.kept
  rw [toNat_sum, List.map_map]
  · rfl
  · rw [List.map_map]
    exact fits

theorem keeps_succ (rate : Rate) {k : ℕ} (within : k < levels) :
    rate.keeps k = (rate.window (Fin.ofNat levels k)).toNat + rate.keeps (k + 1) := by
  have bound : k < (List.finRange levels).length := by simpa using within
  have here : (List.finRange levels)[k] = Fin.ofNat levels k := by
    rw [List.getElem_finRange, Fin.ext_iff, Fin.val_ofNat, Nat.mod_eq_of_lt within]
    rfl
  unfold Rate.keeps
  rw [List.drop_eq_getElem_cons bound, List.map_cons, List.sum_cons, here]

theorem keeps_antitone (rate : Rate) : Antitone rate.keeps := by
  refine antitone_nat_of_succ_le fun k => ?_
  by_cases within : k < levels
  · rw [keeps_succ rate within]
    exact Nat.le_add_left ..
  · unfold Rate.keeps
    rw [List.drop_eq_nil_of_le (by rw [List.length_finRange]; omega)]
    exact Nat.zero_le _

/-- The scan from the top finds the largest exponent keeping more than `n`. -/
theorem largestAboveFrom_spec (small : rate.Small) (n : ℚ) {k : ℕ} {sum : UInt32}
    (within : k ≤ levels) (summed : sum.toNat = rate.keeps k) :
    (∀ i < k, n < rate.keeps i → i ≤ rate.largestAboveFrom n k sum) ∧
    (rate.largestAboveFrom n k sum = 0 ∨ n < rate.keeps (rate.largestAboveFrom n k sum)) ∧
    rate.largestAboveFrom n k sum ≤ maxK := by
  induction k generalizing sum with
  | zero => exact ⟨fun i below => absurd below (Nat.not_lt_zero i), .inl rfl, Nat.zero_le _⟩
  | succ k ih =>
    have next : (sum + rate.window (Fin.ofNat levels k)).toNat = rate.keeps k := by
      have fits := small.keeps_lt k
      rw [keeps_succ rate within, ← summed, Nat.add_comm] at fits ⊢
      rw [UInt32.toNat_add, Nat.mod_eq_of_lt fits]
    unfold Rate.largestAboveFrom
    dsimp only
    rw [next]
    split_ifs with above
    · exact ⟨fun i below _ => by omega, .inr above, by simp only [levels] at within; omega⟩
    · obtain ⟨largest, keeps, bounded⟩ := ih (by omega) next
      refine ⟨fun i below more => ?_, keeps, bounded⟩
      rcases Nat.lt_succ_iff_lt_or_eq.mp below with below | rfl
      · exact largest i below more
      · exact absurd more above

theorem largestAbove_spec (small : rate.Small) (n : ℚ) :
    (∀ i ≤ maxK, n < rate.keeps i → i ≤ rate.largestAbove n) ∧
    (rate.largestAbove n = 0 ∨ n < rate.keeps (rate.largestAbove n)) ∧
    rate.largestAbove n ≤ maxK := by
  obtain ⟨largest, keeps, bounded⟩ := largestAboveFrom_spec small n le_rfl
    (show (0 : UInt32).toNat = rate.keeps levels by
      unfold Rate.keeps
      rw [List.drop_eq_nil_of_le (by rw [List.length_finRange])]
      rfl)
  exact ⟨fun i within => largest i (by simp only [levels]; omega), keeps, bounded⟩

/-- The viewer's exponent is no smaller than any that keeps more than the target. -/
theorem le_viewerK (small : rate.Small) {k : ℕ} (bounded : k ≤ maxK)
    (keeps : k = 0 ∨ target < rate.keeps k) : k ≤ rate.viewerK := by
  unfold Rate.viewerK
  simp only [small.kept_toNat]
  cases found : (List.range (maxK + 1)).find? fun j => decide ((rate.keeps j : ℚ) ≤ target) with
  | none => exact bounded
  | some j =>
    rw [Option.getD_some]
    by_contra smaller
    have few : (rate.keeps j : ℚ) ≤ target := by simpa using List.find?_some found
    have fewer : (rate.keeps k : ℚ) ≤ rate.keeps j := by
      exact_mod_cast keeps_antitone rate (show j ≤ k by omega)
    rcases keeps with rfl | more
    · omega
    · linarith

theorem target_lt_margin : target < target * raiseMargin := by
  norm_num [target, raiseMargin, targetGroupsPerSec, rateWindowSecs]

/-- The producer's answer keeps more than the target, unless it is 0. -/
theorem producerK_keeps (small : rate.Small) {k : ℕ} (bounded : k ≤ maxK) :
    producerK rate k ≤ maxK ∧ (producerK rate k = 0 ∨ target < rate.keeps (producerK rate k)) := by
  obtain ⟨-, above, within⟩ := largestAbove_spec small target
  obtain ⟨-, margin, within'⟩ := largestAbove_spec small (target * raiseMargin)
  unfold producerK
  rw [small.kept_toNat]
  split_ifs with lowered
  · exact ⟨within, above⟩
  · refine ⟨max_le within' bounded, ?_⟩
    rcases max_choice (rate.largestAbove (target * raiseMargin)) k with raised | kept
    · rw [raised]
      exact margin.imp_right target_lt_margin.trans
    · rw [kept]
      rcases Nat.eq_zero_or_pos k with zero | positive
      · exact .inl zero
      · exact .inr (lt_of_not_ge fun few => lowered ⟨positive, few⟩)

/-- An exponent that keeps more than the target is only ever raised. -/
theorem producerK_raises (small : rate.Small) {k : ℕ} (keeps : k = 0 ∨ target < rate.keeps k) :
    producerK rate k = max (rate.largestAbove (target * raiseMargin)) k := by
  unfold producerK
  rw [small.kept_toNat, if_neg]
  rintro ⟨positive, few⟩
  rcases keeps with rfl | more
  · exact absurd positive (Nat.lt_irrefl 0)
  · exact absurd more few.not_gt

theorem producerK_settles (small : rate.Small) {k : ℕ} (bounded : k ≤ maxK) :
    producerK rate (producerK rate k) = producerK rate k := by
  obtain ⟨-, keeps⟩ := producerK_keeps small bounded
  rw [producerK_raises small keeps]
  refine max_eq_right ?_
  obtain ⟨-, margin, within⟩ := largestAbove_spec small (target * raiseMargin)
  -- what the margin keeps, the answer is no smaller than, on either branch
  unfold producerK
  split_ifs with lowered
  · rcases margin with zero | more
    · rw [zero]
      exact Nat.zero_le _
    · exact (largestAbove_spec small target).1 _ within (target_lt_margin.trans more)
  · exact le_max_left ..

theorem producerK_le_viewerK (small : rate.Small) {k : ℕ} (bounded : k ≤ maxK) :
    producerK rate k ≤ rate.viewerK := by
  obtain ⟨within, keeps⟩ := producerK_keeps small bounded
  exact le_viewerK small within keeps

theorem viewerK_le (rate : Rate) : rate.viewerK ≤ maxK := by
  unfold Rate.viewerK
  cases found : (List.range (maxK + 1)).find? fun k => decide (((rate.kept k).toNat : ℚ) ≤ target) with
  | none => exact le_rfl
  | some j => exact Nat.lt_succ_iff.mp (List.mem_range.mp (List.mem_of_find?_eq_some found))

/-! ## The sample -/

theorem trailingZeros_spec {width group : ℕ} (fits : group < 2 ^ width) {k : ℕ} (within : k ≤ width) :
    2 ^ k ∣ group ↔ k ≤ trailingZeros width group := by
  induction width generalizing group k with
  | zero =>
    cases Nat.le_zero.mp within
    simp
  | succ width ih =>
    cases k with
    | zero => simp
    | succ k =>
      unfold trailingZeros
      split_ifs with odd
      · constructor
        · intro divides
          have even : 2 ∣ group := (Dvd.intro_left (2 ^ k) (pow_succ 2 k).symm).trans divides
          omega
        · intro none'
          omega
      · have halved : group = group / 2 * 2 := by omega
        rw [halved, pow_succ, Nat.mul_dvd_mul_iff_right (by decide), Nat.mul_div_cancel _ (by decide),
          ih (by rw [pow_succ] at fits; omega) (by omega), Nat.add_le_add_iff_right]

/-- The level of a group is the largest exponent whose sample holds it. -/
theorem inSample_iff {group k : ℕ} (fits : group < 2 ^ 64) (bounded : k ≤ maxK) :
    inSample group k = true ↔ k ≤ (level group).val := by
  have within : k ≤ 64 := bounded.trans (by decide)
  unfold inSample level
  rw [beq_iff_eq, Nat.one_shiftLeft, Nat.and_two_pow_sub_one_eq_mod, ← Nat.dvd_iff_mod_eq_zero,
    trailingZeros_spec fits within, Fin.val_ofNat, Nat.mod_eq_of_lt (by simp only [levels]; omega)]
  omega

/-- Every group a viewer reports is one the producer reports too. -/
theorem producer_reports (calls : List Call) {group k : ℕ} (fits : group < 2 ^ 64) (bounded : k ≤ maxK)
    (reported : inSample group (Rate.after calls).viewerK = true) :
    inSample group (producerK (.after calls) k) = true := by
  have small := after_small calls
  rw [inSample_iff fits (viewerK_le _)] at reported
  rw [inSample_iff fits (producerK_keeps small bounded).1]
  exact (producerK_le_viewerK small bounded).trans reported

/-! ## The window and the order -/

/-- **The window is the sliding count of the ten whole seconds before the current one, and
the producer's exponent stays at or below the viewer's**, whatever the instants. -/
theorem window_slides (calls : List Call) :
    (∀ l, ((Rate.after calls).window l).toNat = (Log.after calls).window l) ∧
    (∀ before call rest, calls = before ++ call :: rest → (Rate.after before).Covers call) ∧
    ∀ k ≤ maxK, producerK (.after calls) k ≤ (Rate.after calls).viewerK ∧
      producerK (.after calls) (producerK (.after calls) k) = producerK (.after calls) k := by
  have small := after_small calls
  refine ⟨(agrees_after calls).window, fun before call _ _ => (agrees_after before).covers call, ?_⟩
  intro k bounded
  exact ⟨producerK_le_viewerK small bounded, producerK_settles small bounded⟩

end Moqtap.GroupSampling
