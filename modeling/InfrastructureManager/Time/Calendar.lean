import Mathlib.Data.Rat.Defs
import Mathlib.Tactic.IntervalCases

/-!
# Instants, durations and the civil calendar

The parts of Go's `time` package that the rotation reconciler relies on
(`gardener_cluster_controller.go:99,249–273,325,382`): an instant is a count of
nanoseconds since the Unix epoch in UTC, a duration is a signed `int64` of
nanoseconds, and `Time.Sub` saturates at the `int64` bounds. The civil date of a
day count is computed over 400/100/4/1-year cycles starting on 1 March, and its
inverse is the closed-form day count of a date; `daysFromCivil_civilFromDays` says
they agree on every day, and `civilFromDays_valid` that every date produced is one
`time.Parse` accepts.
-/

namespace InfrastructureManager

/-- Go's `time.Duration`: signed nanoseconds held in an `int64`. -/
structure Duration where
  nanoseconds : Int
  inRange : -2 ^ 63 ≤ nanoseconds ∧ nanoseconds < 2 ^ 63
  deriving DecidableEq, Repr

namespace Duration

/-- `time.Duration(0)`. -/
def zero : Duration := ⟨0, by decide⟩

/-- A difference of nanoseconds clamped to the `int64` range, as `Time.Sub` returns it. -/
def saturating (d : Int) : Duration := ⟨max (-2 ^ 63) (min d (2 ^ 63 - 1)), by omega⟩

end Duration

/-- Go's `time.Time` in UTC: nanoseconds since 1970-01-01T00:00:00Z. -/
structure Time where
  unixNano : Int
  deriving DecidableEq, Repr

/-- `Time.Sub`: the duration `t - u`, saturated at the `int64` bounds. -/
def Time.sub (t u : Time) : Duration := Duration.saturating (t.unixNano - u.unixNano)

/-- A date of the proleptic Gregorian calendar, as `time.Date` takes it. -/
structure Civil where
  year : Int
  month : Nat
  day : Nat
  deriving DecidableEq, Repr

/-- `isLeap` of Go's time package. -/
def isLeap (year : Int) : Bool := year % 4 = 0 ∧ (year % 100 ≠ 0 ∨ year % 400 = 0)

/-- `daysIn` of Go's time package, for a month in `1..12`. -/
def daysIn (month : Nat) (year : Int) : Nat :=
  match month with
  | 2 => if isLeap year then 29 else 28
  | 4 | 6 | 9 | 11 => 30
  | _ => 31

/-- Days of a 400-year era before its year `yoe`, years starting on 1 March. -/
def eraDays (yoe : Nat) : Nat := 365 * yoe + yoe / 4 - yoe / 100

/-- Day of a March-based year on which month `mp` starts (`mp = 0` is March). -/
def monthStart (mp : Nat) : Nat := (153 * mp + 2) / 5

/-- Split a day of an era into the year of era and the day of that year, cutting
100-, 4- and 1-year cycles; a cycle index is capped where the last cycle is one day
longer, as Go's `absDate` does. -/
def splitEra (doe : Nat) : Nat × Nat :=
  let n100 := min (doe / 36524) 3
  let r1 := doe - 36524 * n100
  let n4 := r1 / 1461
  let r2 := r1 % 1461
  let n1 := min (r2 / 365) 3
  (100 * n100 + 4 * n4 + n1, r2 - 365 * n1)

/-- The date of day `day` of month `mp` (March-based) of year `yoe` of era `era`. -/
def marchDate (era : Int) (yoe mp day : Nat) : Civil :=
  if mp < 10 then ⟨400 * era + yoe, mp + 3, day⟩ else ⟨400 * era + yoe + 1, mp - 9, day⟩

/-- The civil date of a day count since 1970-01-01. -/
def civilFromDays (days : Int) : Civil :=
  let z := days + 719468
  let (yoe, doy) := splitEra (z % 146097).toNat
  let mp := (5 * doy + 2) / 153
  marchDate (z / 146097) yoe mp (doy - monthStart mp + 1)

/-- The day count since 1970-01-01 of a date, as `time.Date` computes it for fields in
range. -/
def daysFromCivil (c : Civil) : Int :=
  let y := if c.month ≤ 2 then c.year - 1 else c.year
  let mp := if c.month ≤ 2 then c.month + 9 else c.month - 3
  146097 * (y / 400) + (eraDays (y % 400).toNat + monthStart mp + c.day - 1 : Nat) - 719468

example : civilFromDays 0 = ⟨1970, 1, 1⟩ := by decide

example : civilFromDays 11016 = ⟨2000, 2, 29⟩ := by decide

/-! ### The cycles of an era -/

private theorem eraDays_cycles (n100 n4 n1 : Nat) (h4 : n4 ≤ 24) (h1 : n1 ≤ 3) :
    eraDays (100 * n100 + 4 * n4 + n1) = 36524 * n100 + 1461 * n4 + 365 * n1 := by
  unfold eraDays
  omega

/-- Splitting a day of an era gives a year of the era, and a day of that year that
the era's days before the year complete to the input. Day 365 is the leap day
closing a year whose successor is a leap year. -/
theorem splitEra_spec (doe : Nat) (h : doe < 146097) :
    (splitEra doe).1 < 400 ∧ eraDays (splitEra doe).1 + (splitEra doe).2 = doe ∧
      (splitEra doe).2 ≤ 365 ∧
      ((splitEra doe).2 = 365 → ((splitEra doe).1 + 1) % 4 = 0 ∧
        (((splitEra doe).1 + 1) % 100 = 0 → (splitEra doe).1 + 1 = 400)) := by
  simp only [splitEra]
  -- Each cycle index, capped where the last cycle is one day longer, and its remainder.
  have h100 : min (doe / 36524) 3 ≤ 3 ∧
      36524 * min (doe / 36524) 3 + (doe - 36524 * min (doe / 36524) 3) = doe ∧
      doe - 36524 * min (doe / 36524) 3 ≤ 36524 ∧
      (doe - 36524 * min (doe / 36524) 3 = 36524 → min (doe / 36524) 3 = 3) := by omega
  generalize min (doe / 36524) 3 = n100 at h100 ⊢
  generalize doe - 36524 * n100 = r1 at h100 ⊢
  have h4 : r1 = 1461 * (r1 / 1461) + r1 % 1461 ∧ r1 % 1461 < 1461 := by omega
  generalize r1 / 1461 = n4 at h4 ⊢
  generalize r1 % 1461 = r2 at h4 ⊢
  have h1 : min (r2 / 365) 3 ≤ 3 ∧ 365 * min (r2 / 365) 3 ≤ r2 ∧
      r2 - 365 * min (r2 / 365) 3 ≤ 365 ∧
      (r2 - 365 * min (r2 / 365) 3 = 365 → min (r2 / 365) 3 = 3) := by omega
  generalize min (r2 / 365) 3 = n1 at h1 ⊢
  rw [eraDays_cycles _ _ _ (by omega) h1.1]
  omega

private theorem monthStart_le (doy : Nat) : monthStart ((5 * doy + 2) / 153) ≤ doy := by
  unfold monthStart; omega

private theorem lt_monthStart_succ (doy : Nat) : doy < monthStart ((5 * doy + 2) / 153 + 1) := by
  unfold monthStart; omega

/-! ### Round trip and validity -/

private theorem daysFromCivil_marchDate (e : Int) (yoe mp d : Nat) (hy : yoe < 400)
    (hm : mp < 12) :
    daysFromCivil (marchDate e yoe mp d) =
      146097 * e + (eraDays yoe + monthStart mp + d - 1 : Nat) - 719468 := by
  have h1 : (400 * e + yoe) / 400 = e := by omega
  have h2 : ((400 * e + yoe) % 400).toNat = yoe := by omega
  unfold marchDate
  split_ifs with h3
  · have h4 : ¬ (mp + 3 ≤ 2) := by omega
    simp only [daysFromCivil, h4, if_false, h1, h2, Nat.add_sub_cancel]
  · have h4 : mp - 9 ≤ 2 := by omega
    simp only [daysFromCivil, h4, if_true, Int.add_sub_cancel, h1, h2,
      show mp - 9 + 9 = mp by omega]

/-- Every day count is the day count of its civil date. -/
theorem daysFromCivil_civilFromDays (days : Int) :
    daysFromCivil (civilFromDays days) = days := by
  have hr0 : 0 ≤ (days + 719468) % 146097 := Int.emod_nonneg _ (by decide)
  have hr1 : (days + 719468) % 146097 < 146097 := Int.emod_lt_of_pos _ (by decide)
  have hz := Int.emod_add_ediv (days + 719468) 146097
  obtain ⟨h1, h2, h3, -⟩ := splitEra_spec ((days + 719468) % 146097).toNat (by omega)
  have hm := monthStart_le (splitEra ((days + 719468) % 146097).toNat).2
  unfold civilFromDays
  rw [daysFromCivil_marchDate _ _ _ _ h1 (by omega)]
  omega

private theorem daysIn_of_ne_two {month : Nat} (h : month ≠ 2) (year : Int) :
    daysIn month year = daysIn month 0 := by
  unfold daysIn; split <;> simp_all

private theorem daysIn_marchMonth (mp : Nat) (h : mp < 11) (year : Int) :
    daysIn (if mp < 10 then mp + 3 else mp - 9) year = monthStart (mp + 1) - monthStart mp := by
  rw [daysIn_of_ne_two (by split <;> omega) year]
  revert mp; decide

private theorem marchDate_valid (e : Int) (yoe doy : Nat) (hd : doy ≤ 365)
    (hleap : doy = 365 → (yoe + 1) % 4 = 0 ∧ ((yoe + 1) % 100 = 0 → yoe + 1 = 400)) :
    let c := marchDate e yoe ((5 * doy + 2) / 153) (doy - monthStart ((5 * doy + 2) / 153) + 1)
    1 ≤ c.month ∧ c.month ≤ 12 ∧ 1 ≤ c.day ∧ c.day ≤ daysIn c.month c.year := by
  have hlo := monthStart_le doy
  have hhi := lt_monthStart_succ doy
  have hmp : (5 * doy + 2) / 153 ≤ 11 := by omega
  generalize (5 * doy + 2) / 153 = mp at hlo hhi hmp
  by_cases hfeb : mp = 11
  · -- February closes the March-based year; its 29th day is day 365.
    subst hfeb
    have hy : isLeap (400 * e + yoe + 1) = true ∨ doy ≤ 364 := by
      by_cases h365 : doy = 365
      · simp only [isLeap, decide_eq_true_eq]; omega
      · omega
    show 1 ≤ 2 ∧ 2 ≤ 12 ∧ 1 ≤ doy - 337 + 1 ∧
      doy - 337 + 1 ≤ if isLeap (400 * e + yoe + 1) then 29 else 28
    simp only [monthStart] at hlo hhi
    rcases hy with hl | hl
    · simp only [hl, if_true]; omega
    · split_ifs <;> omega
  · have hlen := daysIn_marchMonth mp (by omega)
    unfold marchDate at hlen ⊢
    split_ifs at hlen ⊢ <;> simp only [hlen] <;> omega

/-- Every civil date computed is a valid date: a month in `1..12` and a day within
its month. -/
theorem civilFromDays_valid (days : Int) :
    1 ≤ (civilFromDays days).month ∧ (civilFromDays days).month ≤ 12 ∧
      1 ≤ (civilFromDays days).day ∧
      (civilFromDays days).day ≤ daysIn (civilFromDays days).month (civilFromDays days).year := by
  have hr0 : 0 ≤ (days + 719468) % 146097 := Int.emod_nonneg _ (by decide)
  have hr1 : (days + 719468) % 146097 < 146097 := Int.emod_lt_of_pos _ (by decide)
  obtain ⟨-, -, h3, h4⟩ := splitEra_spec ((days + 719468) % 146097).toNat (by omega)
  exact marchDate_valid _ _ _ h3 h4

end InfrastructureManager
