import Mathlib
import Moqtap.Gregorian

/-!
The month arithmetic of the relay cap, `utc_month` and `RelayLedger::restart` of
`relay_cap.rs`.

The closed form reads a date's month off its day number (`civilMonth_dayNumber`):
the year of the era comes back from the day of the era (`yearOfEra_exact`), and the
month from the day of a year that begins in March (`monthOfYear_exact`).
-/

namespace Moqtap.RelayCap

open Gregorian

/-! ## The closed form -/

def yearOfEra (doe : ℤ) : ℤ :=
  (doe - doe.tdiv 1460 + doe.tdiv 36524 - doe.tdiv 146096).tdiv 365

def monthOfYear (doy : ℤ) : ℤ := (5 * doy + 2).tdiv 153

/-- Months since 1970-01 of the day so many days from 1970-01-01.  An accepted instant
is within 10^8 days (`accepted_days`), so no value here leaves an `i64`. -/
def civilMonth (days : ℤ) : ℤ :=
  let z := days + 719468
  let era := z / 146097
  let doe := z - era * 146097
  let yoe := yearOfEra doe
  let doy := doe - (365 * yoe + yoe.tdiv 4 - yoe.tdiv 100)
  let mp := monthOfYear doy
  let month := if mp < 10 then mp + 3 else mp - 9
  let year := yoe + era * 400 + if month ≤ 2 then 1 else 0
  (year - 1970) * 12 + month - 1

def msPerDay : ℚ := 86400000

def largestMs : ℚ := 8640000000000000

/-- Months since 1970-01 of the UTC date at `ms`, `none` where `ms` is not finite. -/
def utcMonth (ms : Option ℚ) : Option ℤ :=
  match ms with
  | none => none
  | some ms => if |ms| > largestMs then none else some (civilMonth ⌊ms / msPerDay⌋)

/-- A day of an era gives back its year: the leap days before it, and the last day
of its own leap year, are what the divisions take off. -/
theorem yearOfEra_exact {yoe doy : ℤ} (era : 0 ≤ yoe ∧ yoe < 400) (year : 0 ≤ doy ∧ doy ≤ 365)
    (leap : doy = 365 → isLeap (yoe + 1)) : yearOfEra (365 * yoe + yoe / 4 - yoe / 100 + doy) = yoe := by
  unfold isLeap at leap
  obtain ⟨century, cycle, rest, whole, centuries, cycles, years⟩ : ∃ century cycle rest,
      yoe = 100 * century + 4 * cycle + rest ∧ (0 ≤ century ∧ century ≤ 3) ∧ (0 ≤ cycle ∧ cycle ≤ 24) ∧
        (0 ≤ rest ∧ rest ≤ 3) :=
    ⟨yoe / 100, yoe % 100 / 4, yoe % 100 % 4, by omega, by omega, by omega, by omega⟩
  have days : 365 * yoe + yoe / 4 - yoe / 100 + doy = 36524 * century + 1461 * cycle + 365 * rest + doy := by omega
  have last : doy = 365 → rest = 3 ∧ (cycle ≤ 23 ∨ century = 3) := by omega
  clear leap
  rw [days]
  generalize doe_eq : 36524 * century + 1461 * cycle + 365 * rest + doy = doe
  have within : doe ≤ 36524 * century + 36523 ∨ century = 3 ∧ doe = 146096 := by omega
  have removed : doe / 36524 - doe / 146096 = century := by
    rcases within with inside | ⟨rfl, rfl⟩
    · have place : doe / 36524 = century := by omega
      omega
    · rfl
  have carry : doe / 1460 = 25 * century + cycle ∧ doy ≤ 364 ∨
      doe / 1460 = 25 * century + cycle + 1 ∧ 1 ≤ doy := by omega
  unfold yearOfEra
  simp (disch := omega) only [Int.tdiv_eq_ediv_of_nonneg]
  rcases carry with ⟨none, before⟩ | ⟨one, after⟩
  · omega
  · omega

theorem monthOfYear_exact (date : Date) : monthOfYear date.dayOfMarchYear = date.marchMonth := by
  obtain ⟨year, month, day, ⟨after, before⟩, day_within⟩ := date
  unfold monthOfYear
  rw [Int.tdiv_eq_ediv_of_nonneg (by omega)]
  simp only [Date.dayOfMarchYear, Date.marchMonth]
  interval_cases month
  case «2» =>
    have short := monthLength_february year
    simp
    omega
  all_goals
    simp [monthLength] at day_within ⊢
    omega

/-- A year that begins in March has a 366th day when the February in it is of a leap year. -/
theorem dayOfMarchYear_within (date : Date) :
    date.dayOfMarchYear ≤ 365 ∧ (date.dayOfMarchYear = 365 → isLeap (date.marchYear + 1)) := by
  obtain ⟨year, month, day, ⟨after, before⟩, day_within⟩ := date
  simp only [Date.dayOfMarchYear, Date.marchMonth, Date.marchYear]
  interval_cases month
  case «2» =>
    by_cases leap : isLeap year
    · simp [monthLength, leap] at day_within ⊢
      omega
    · simp [monthLength, leap] at day_within ⊢
      omega
  all_goals
    simp [monthLength] at day_within ⊢
    omega

theorem civilMonth_dayNumber (date : Date) : civilMonth date.dayNumber = date.monthNumber := by
  obtain ⟨short, leap⟩ := dayOfMarchYear_within date
  have months := monthOfYear_exact date
  have leap_year : (date.dayOfMarchYear : ℤ) = 365 → isLeap (date.marchYear % 400 + 1) := by
    intro last
    have leap := leap (Int.ofNat_inj.mp last)
    unfold isLeap at leap ⊢
    omega
  have yoe := yearOfEra_exact (by omega) ⟨Int.natCast_nonneg _, Int.ofNat_le.mpr short⟩ leap_year
  have era : (date.dayNumber + 719468) / 146097 = date.marchYear / 400 := by
    unfold Date.dayNumber
    omega
  have doe : date.dayNumber + 719468 - date.marchYear / 400 * 146097 =
      365 * (date.marchYear % 400) + date.marchYear % 400 / 4 - date.marchYear % 400 / 100 + date.dayOfMarchYear := by
    unfold Date.dayNumber
    omega
  unfold civilMonth
  dsimp only
  rw [era, doe, yoe, Int.tdiv_eq_ediv_of_nonneg (by omega), Int.tdiv_eq_ediv_of_nonneg (by omega),
    add_sub_cancel_left, months]
  have within := date.month_within
  unfold Date.monthNumber Date.marchMonth Date.marchYear
  split_ifs
  all_goals omega

/-! ## Instants -/

/-- The instants `utc_month` takes. -/
def Accepted (ms : ℚ) : Prop := |ms| ≤ largestMs

/-- The instants of a day. -/
def OfDay (days : ℤ) (ms : ℚ) : Prop := days * msPerDay ≤ ms ∧ ms < (days + 1) * msPerDay

theorem accepted_days {ms : ℚ} (accepted : Accepted ms) :
    -100000000 ≤ ⌊ms / msPerDay⌋ ∧ ⌊ms / msPerDay⌋ ≤ 100000000 := by
  have positive : 0 < msPerDay := by decide
  obtain ⟨low, high⟩ := abs_le.mp accepted
  constructor
  · rw [Int.le_floor, le_div_iff₀ positive]
    norm_num [msPerDay, largestMs] at *
    exact low
  · apply Int.floor_le_iff.mpr
    rw [div_lt_iff₀ positive]
    norm_num [msPerDay, largestMs] at *
    linarith

theorem utcMonth_accepted {ms : ℚ} (accepted : Accepted ms) :
    utcMonth ms = some (dateOf ⌊ms / msPerDay⌋).monthNumber := by
  have dated := civilMonth_dayNumber (dateOf ⌊ms / msPerDay⌋)
  rw [dayNumber_dateOf] at dated
  rw [← dated]
  exact if_neg (not_lt.mpr accepted)

theorem ofDay_floor (ms : ℚ) (days : ℤ) : OfDay days ms ↔ ⌊ms / msPerDay⌋ = days := by
  have positive : 0 < msPerDay := by decide
  rw [Int.floor_eq_iff, le_div_iff₀ positive, div_lt_iff₀ positive]
  rfl

/-- A function of instants that counts the months of the calendar. -/
structure CountsMonths (month : Option ℚ → Option ℤ) : Prop where
  taken : ∀ ms, month ms ≠ none ↔ ∃ instant, ms = some instant ∧ Accepted instant
  dated : ∀ days ms, Accepted ms → OfDay days ms →
    month (some ms) = some (12 * ((dateOf days).year - 1970) + (dateOf days).month - 1)
  ascends : ∀ ms later, Accepted ms → Accepted later → ms ≤ later → ∀ first ∈ month ms, ∀ second ∈ month later,
    first ≤ second
  rolls : ∀ days ms, Accepted ms → OfDay days ms → Accepted ((days + 1) * msPerDay) →
    month (some ((days + 1) * msPerDay)) =
      (month ms).map (· + if (dateOf (days + 1)).day = 1 then 1 else 0)
  same : ∀ days ms other_days other, Accepted ms → OfDay days ms → Accepted other → OfDay other_days other →
    (month (some ms) = month (some other) ↔
      (dateOf days).year = (dateOf other_days).year ∧ (dateOf days).month = (dateOf other_days).month)

theorem utcMonth_counts : CountsMonths utcMonth := by
  have dated (days : ℤ) (ms : ℚ) (accepted : Accepted ms) (ofDay : OfDay days ms) :
      utcMonth ms = some (dateOf days).monthNumber := by
    rw [utcMonth_accepted accepted, (ofDay_floor ms days).mp ofDay]
  constructor
  case taken =>
    intro ms
    cases ms with
    | none => simp [utcMonth]
    | some ms => simp [utcMonth, Accepted]
  case dated => exact dated
  case ascends =>
    intro ms later accepted accepted' order first is_first second is_second
    rw [utcMonth_accepted accepted] at is_first
    rw [utcMonth_accepted accepted'] at is_second
    obtain ⟨⟩ := is_first
    obtain ⟨⟩ := is_second
    apply monthNumber_mono
    apply Int.floor_mono
    have positive : 0 ≤ msPerDay := by decide
    gcongr
  case rolls =>
    intro days ms accepted ofDay accepted'
    have midnight : OfDay (days + 1) ((days + 1) * msPerDay) := by
      have positive : 0 < msPerDay := by decide
      constructor
      · push_cast
        exact le_rfl
      · push_cast
        linarith
    rw [dated _ _ accepted' midnight, dated _ _ accepted ofDay, dateOf_succ, Date.monthNumber_next]
    rfl
  case same =>
    intro days ms other_days other accepted ofDay accepted' ofDay'
    rw [dated _ _ accepted ofDay, dated _ _ accepted' ofDay', Option.some_inj]
    exact Date.monthNumber_inj

/-! ## The ledger -/

/-- The count of a source's origins, less what only `advance` reads. -/
structure RelayLedger where
  month : Option ℤ := none
  origins : Finset String := ∅
  unanswered : Finset String := ∅

/-- What ingest answers a body with: its receive time, and the origins of the body and
of those still queued. -/
structure Answer where
  recvMs : Option (Option ℚ)
  origins : List String
  queued : List (List String)

namespace Answer

def month (answer : Answer) : Option ℤ := answer.recvMs.bind utcMonth

def still (answer : Answer) : List String := answer.origins ++ answer.queued.flatten

end Answer

namespace RelayLedger

def restart (ledger : RelayLedger) (month : ℤ) (still : List String) : RelayLedger :=
  match ledger.month with
  | none => { ledger with month := some month }
  | some m =>
    if month > m then { month := some month, origins := ledger.unanswered ∪ still.toFinset, unanswered := ∅ }
    else ledger

def accepted (ledger : RelayLedger) (answer : Answer) : RelayLedger :=
  match answer.month with
  | none => ledger
  | some month => ledger.restart month answer.still

variable {ledger : RelayLedger} {month m : ℤ} {still : List String}

/-- The count restarts for a later month than the stored one and no other. -/
theorem restart_stored (stored : ledger.month = some m) :
    (ledger.restart month still).month = some (max m month) ∧
      (ledger.restart month still).origins =
        if m < month then ledger.unanswered ∪ still.toFinset else ledger.origins := by
  unfold restart
  rw [stored]
  dsimp only
  split_ifs with later
  · exact ⟨congrArg some (max_eq_right later.le).symm, rfl⟩
  · exact ⟨stored.trans (congrArg some (max_eq_left (not_lt.mp later)).symm), rfl⟩

theorem restart_fresh (fresh : ledger.month = none) :
    ledger.restart month still = { ledger with month := some month } := by
  unfold restart
  rw [fresh]

/-- Told at one instant and then at another, the count restarts when the other is in a
later month of the calendar. -/
theorem restart_later {days later_days : ℤ} {ms later : ℚ} (told : Accepted ms) (ofDay : OfDay days ms)
    (stored : ledger.month = utcMonth ms) (answer : Answer) (received : answer.recvMs = some later)
    (retold : Accepted later) (ofLaterDay : OfDay later_days later) :
    (ledger.accepted answer).origins =
      if (dateOf days).monthNumber < (dateOf later_days).monthNumber then
        ledger.unanswered ∪ answer.still.toFinset
      else ledger.origins := by
  have month : answer.month = some (dateOf later_days).monthNumber := by
    unfold Answer.month
    rw [received, ← (ofDay_floor later later_days).mp ofLaterDay]
    exact utcMonth_accepted retold
  rw [utcMonth_accepted told, (ofDay_floor ms days).mp ofDay] at stored
  unfold accepted
  rw [month]
  exact (restart_stored stored).2

/-- The answers of a run. -/
def run (ledger : RelayLedger) (answers : List Answer) : RelayLedger := answers.foldl accepted ledger

theorem accepted_month (ledger : RelayLedger) (answer : Answer) :
    (ledger.accepted answer).month = max ledger.month answer.month := by
  unfold accepted
  cases told : answer.month with
  | none => simp
  | some month =>
    cases stored : ledger.month with
    | none => simp [restart_fresh stored]
    | some m => simp [restart_stored stored]

/-- A run leaves the latest month it was told of. -/
theorem run_month (ledger : RelayLedger) (answers : List Answer) :
    (ledger.run answers).month = (answers.map Answer.month).foldl max ledger.month := by
  induction answers generalizing ledger with
  | nil => rfl
  | cons answer rest ih =>
    apply (ih (ledger.accepted answer)).trans
    rw [accepted_month]
    rfl

end RelayLedger

end Moqtap.RelayCap
