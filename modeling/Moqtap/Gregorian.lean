import Mathlib

/-! The proleptic Gregorian calendar, one day after another from 1970-01-01.

A date carries the proof that its month has its day, `next` and `previous` step
by one day, and `dateOf` counts steps from the epoch in either direction.
`dayNumber` is the count back from a date (`dayNumber_dateOf`), and
`monthNumber` the number of the month it is in. -/

namespace Moqtap.Gregorian

def isLeap (year : ℤ) : Prop := year % 4 = 0 ∧ (year % 100 ≠ 0 ∨ year % 400 = 0)

instance (year : ℤ) : Decidable (isLeap year) := inferInstanceAs (Decidable (_ ∧ _))

def monthLength (year : ℤ) (month : ℕ) : ℕ :=
  match month with
  | 2 => if isLeap year then 29 else 28
  | 4 | 6 | 9 | 11 => 30
  | _ => 31

theorem monthLength_between (year : ℤ) (month : ℕ) : 28 ≤ monthLength year month ∧ monthLength year month ≤ 31 := by
  unfold monthLength
  split
  · split_ifs
    · omega
    · omega
  all_goals omega

theorem monthLength_february (year : ℤ) : monthLength year 2 ≤ 29 := by
  simp only [monthLength]
  split_ifs
  · omega
  · omega

@[ext]
structure Date where
  year : ℤ
  month : ℕ
  day : ℕ
  month_within : 1 ≤ month ∧ month ≤ 12
  day_within : 1 ≤ day ∧ day ≤ monthLength year month

namespace Date

variable (date : Date)

def epoch : Date where
  year := 1970
  month := 1
  day := 1
  month_within := by decide
  day_within := by decide

def next : Date :=
  if later : date.day < monthLength date.year date.month then
    { date with
      day := date.day + 1
      day_within := ⟨Nat.le_add_left .., later⟩ }
  else if month : date.month < 12 then
    { year := date.year
      month := date.month + 1
      day := 1
      month_within := ⟨Nat.le_add_left .., month⟩
      day_within := ⟨le_rfl, Nat.le_trans (by decide) (monthLength_between ..).1⟩ }
  else
    { year := date.year + 1
      month := 1
      day := 1
      month_within := by decide
      day_within := ⟨le_rfl, Nat.le_trans (by decide) (monthLength_between ..).1⟩ }

def previous : Date :=
  if earlier : 1 < date.day then
    { date with
      day := date.day - 1
      day_within := by
        have within := date.day_within
        omega }
  else if month : 1 < date.month then
    { year := date.year
      month := date.month - 1
      day := monthLength date.year (date.month - 1)
      month_within := by
        have within := date.month_within
        omega
      day_within := ⟨Nat.le_trans (by decide) (monthLength_between ..).1, le_rfl⟩ }
  else
    { year := date.year - 1
      month := 12
      day := monthLength (date.year - 1) 12
      month_within := by decide
      day_within := ⟨Nat.le_trans (by decide) (monthLength_between ..).1, le_rfl⟩ }

/-- The day after the day before. -/
theorem next_previous : date.previous.next = date := by
  obtain ⟨year, month, day, month_within, day_within⟩ := date
  unfold previous
  dsimp only
  split_ifs with earlier january
  · have later : day - 1 < monthLength year month := by omega
    unfold next
    rw [dif_pos later]
    ext
    · rfl
    · rfl
    · dsimp only
      omega
  · have first : day = 1 := by omega
    unfold next
    rw [dif_neg (lt_irrefl _), dif_pos (by dsimp only; omega)]
    ext
    · rfl
    · dsimp only
      omega
    · exact first.symm
  · have first : day = 1 := by omega
    have january : month = 1 := by omega
    unfold next
    rw [dif_neg (lt_irrefl _), dif_neg (lt_irrefl _)]
    ext
    · dsimp only
      omega
    · exact january.symm
    · exact first.symm

/-! ## Counting days -/

/-- A year that begins in March ends with the day a leap year adds. -/
def marchYear : ℤ := if date.month ≤ 2 then date.year - 1 else date.year

/-- Months since March. -/
def marchMonth : ℕ := if date.month ≤ 2 then date.month + 9 else date.month - 3

/-- Days since the first of March. -/
def dayOfMarchYear : ℕ := (153 * date.marchMonth + 2) / 5 + date.day - 1

/-- Days since 1970-01-01. -/
def dayNumber : ℤ :=
  365 * date.marchYear + date.marchYear / 4 - date.marchYear / 100 + date.marchYear / 400 + date.dayOfMarchYear -
    719468

theorem dayNumber_epoch : epoch.dayNumber = 0 := by decide

theorem dayNumber_next : date.next.dayNumber = date.dayNumber + 1 := by
  obtain ⟨year, month, day, month_within, day_within⟩ := date
  unfold next
  dsimp only
  split_ifs with later december
  · simp only [dayNumber, dayOfMarchYear, marchYear, marchMonth]
    omega
  · have last : day = monthLength year month := by omega
    subst last
    simp only [dayNumber, dayOfMarchYear, marchYear, marchMonth]
    obtain ⟨above, -⟩ := month_within
    interval_cases month
    all_goals
      simp [monthLength, isLeap]
      omega
  · have december : month = 12 := by omega
    have last : day = 31 := by
      subst december
      simp only [monthLength] at *
      omega
    simp only [dayNumber, dayOfMarchYear, marchYear, marchMonth, december, last]
    simp
    omega

theorem dayNumber_previous : date.previous.dayNumber = date.dayNumber - 1 := by
  have stepped := dayNumber_next date.previous
  rw [next_previous] at stepped
  omega

end Date

/-- The date so many days from 1970-01-01, stepping a day at a time. -/
def dateOf : ℤ → Date
  | .ofNat days => Date.next^[days] .epoch
  | .negSucc days => Date.previous^[days + 1] .epoch

theorem dateOf_succ (days : ℤ) : dateOf (days + 1) = (dateOf days).next := by
  cases days with
  | ofNat days => exact Function.iterate_succ_apply' ..
  | negSucc days =>
    have back : dateOf (Int.negSucc days) = (dateOf (Int.negSucc days + 1)).previous := by
      cases days with
      | zero => rfl
      | succ days => exact Function.iterate_succ_apply' ..
    rw [back, Date.next_previous]

theorem dayNumber_dateOf (days : ℤ) : (dateOf days).dayNumber = days := by
  induction days using Int.induction_on with
  | zero => exact Date.dayNumber_epoch
  | succ days ih => rw [dateOf_succ, Date.dayNumber_next, ih]
  | pred days ih =>
    have stepped := Date.dayNumber_next (dateOf (-days - 1))
    rw [← dateOf_succ, Int.sub_add_cancel, ih] at stepped
    omega

/-! ## Counting months -/

namespace Date

variable (date : Date)

/-- Months since 1970-01. -/
def monthNumber : ℤ := 12 * (date.year - 1970) + date.month - 1

theorem monthNumber_inj {date other : Date} :
    date.monthNumber = other.monthNumber ↔ date.year = other.year ∧ date.month = other.month := by
  have within := date.month_within
  have other_within := other.month_within
  unfold monthNumber
  omega

theorem monthNumber_next :
    date.next.monthNumber = date.monthNumber + if date.next.day = 1 then 1 else 0 := by
  have within := date.month_within
  have day_within := date.day_within
  unfold next monthNumber
  split_ifs
  all_goals
    dsimp only at *
    push_cast
    omega

end Date

theorem monthNumber_mono : Monotone fun days => (dateOf days).monthNumber := by
  apply monotone_int_of_le_succ
  intro days
  rw [dateOf_succ, Date.monthNumber_next]
  split_ifs
  · omega
  · omega

end Moqtap.Gregorian
