import Mathlib.Data.Int.ConditionallyCompleteOrder
import Mathlib.Order.Monotone.Basic
import Mathlib.Tactic.IntervalCases

/-!
# The calendar

Days and months of the proleptic Gregorian calendar, both numbered from 0 for 1 January and January of
year 1 and both unbounded below. `monthStart k` is the first day of month `k`, `monthOf n` the month of
day `n`.

* `monthStart_succ`: a month has 28 to 31 days.
* `monthOf_eq_iff`: `monthOf n` is the one month with `n` between its first day and the next month's.
* `lt_of_monthOf_eq`: two days of one month are less than 31 days apart.
-/
namespace PerGo.Core.Calendar

/-- The days before 1 January, `y` years after year 1. -/
def daysBeforeYear (y : Int) : Int := 365 * y + y / 4 - y / 100 + y / 400

/-- Year `y + 1` is a leap year. -/
def IsLeap (y : Int) : Prop := (y + 1) % 4 = 0 ∧ ((y + 1) % 100 ≠ 0 ∨ (y + 1) % 400 = 0)

instance (y : Int) : Decidable (IsLeap y) := inferInstanceAs (Decidable (_ ∧ _))

/-- The days of a common year before month `m`, January being 0. -/
def daysBeforeMonth : Int → Int
  | 0 => 0
  | 1 => 31
  | 2 => 59
  | 3 => 90
  | 4 => 120
  | 5 => 151
  | 6 => 181
  | 7 => 212
  | 8 => 243
  | 9 => 273
  | 10 => 304
  | _ => 334

/-- 29 February, for the months after it. -/
def leapDay (y m : Int) : Int := if IsLeap y ∧ 2 ≤ m then 1 else 0

def monthStart (k : Int) : Int := daysBeforeYear (k / 12) + daysBeforeMonth (k % 12) + leapDay (k / 12) (k % 12)

/-- 4800 months of 400 years have 146097 days, so the quotient is at most one month off. -/
def monthOf (n : Int) : Int :=
  let e := 4800 * n / 146097
  if n < monthStart e then e - 1 else if monthStart (e + 1) ≤ n then e + 1 else e

theorem daysBeforeYear_succ (y : Int) : daysBeforeYear (y + 1) = daysBeforeYear y + 365 + if IsLeap y then 1 else 0 := by
  unfold daysBeforeYear
  by_cases h : IsLeap y
  · rw [if_pos h]
    unfold IsLeap at h
    omega
  · rw [if_neg h]
    unfold IsLeap at h
    omega

theorem monthStart_add (y : Int) {m : Int} (h0 : 0 ≤ m) (h12 : m < 12) :
    monthStart (12 * y + m) = daysBeforeYear y + daysBeforeMonth m + leapDay y m := by
  have hdiv : (12 * y + m) / 12 = y := by omega
  have hmod : (12 * y + m) % 12 = m := by omega
  rw [monthStart, hdiv, hmod]

theorem monthStart_year (y : Int) : monthStart (12 * y) = daysBeforeYear y := by
  have h := monthStart_add y (Int.le_refl 0) (by omega)
  simpa [daysBeforeMonth, leapDay] using h

theorem monthStart_succ (k : Int) : monthStart k + 28 ≤ monthStart (k + 1) ∧ monthStart (k + 1) ≤ monthStart k + 31 := by
  obtain ⟨y, m, rfl, h0, h12⟩ : ∃ y m : Int, k = 12 * y + m ∧ 0 ≤ m ∧ m < 12 :=
    ⟨k / 12, k % 12, by omega, by omega, by omega⟩
  by_cases hm : m = 11
  · subst hm
    have hnext : 12 * y + 11 + 1 = 12 * (y + 1) := by omega
    rw [hnext, monthStart_year, monthStart_add y h0 h12, daysBeforeYear_succ]
    by_cases hl : IsLeap y <;> simp [daysBeforeMonth, leapDay, hl] <;> omega
  · rw [Int.add_assoc, monthStart_add y h0 h12, monthStart_add y (by omega) (by omega)]
    by_cases hl : IsLeap y <;> interval_cases m <;> simp [daysBeforeMonth, leapDay, hl] at hm ⊢ <;> omega

theorem monthStart_strictMono : StrictMono monthStart :=
  strictMono_int_of_lt_succ fun k => by have := monthStart_succ k; omega

theorem monthStart_near (k : Int) :
    146097 * k - 4800 * 6 ≤ 4800 * monthStart k ∧ 4800 * monthStart k ≤ 146097 * k + 4800 * 6 := by
  obtain ⟨y, m, rfl, h0, h12⟩ : ∃ y m : Int, k = 12 * y + m ∧ 0 ≤ m ∧ m < 12 :=
    ⟨k / 12, k % 12, by omega, by omega, by omega⟩
  rw [monthStart_add y h0 h12]
  have hyear : 146097 * y - 400 * 2 ≤ 400 * daysBeforeYear y ∧ 400 * daysBeforeYear y ≤ 146097 * y + 400 := by
    unfold daysBeforeYear
    omega
  have hleap : 0 ≤ leapDay y m ∧ leapDay y m ≤ 1 := by
    unfold leapDay
    split <;> omega
  generalize leapDay y m = l at hleap ⊢
  generalize daysBeforeYear y = d at hyear ⊢
  interval_cases m <;> simp only [daysBeforeMonth] <;> omega

theorem monthOf_spec (n : Int) : monthStart (monthOf n) ≤ n ∧ n < monthStart (monthOf n + 1) := by
  unfold monthOf
  generalize he : 4800 * n / 146097 = e
  have hbefore := monthStart_near (e - 1)
  have hafter := monthStart_near (e + 1 + 1)
  dsimp only
  split
  · rename_i hlt
    refine ⟨by omega, ?_⟩
    rw [Int.sub_add_cancel]
    exact hlt
  · split
    · rename_i hle
      exact ⟨hle, by omega⟩
    · rename_i hge hlt
      exact ⟨Int.not_lt.mp hge, Int.not_le.mp hlt⟩

theorem monthOf_eq_iff {n k : Int} : monthOf n = k ↔ monthStart k ≤ n ∧ n < monthStart (k + 1) := by
  constructor
  · rintro rfl
    exact monthOf_spec n
  · rintro ⟨hle, hlt⟩
    obtain ⟨hle', hlt'⟩ := monthOf_spec n
    have h1 := monthStart_strictMono.lt_iff_lt.mp (Int.lt_of_le_of_lt hle hlt')
    have h2 := monthStart_strictMono.lt_iff_lt.mp (Int.lt_of_le_of_lt hle' hlt)
    omega

theorem lt_of_monthOf_eq {m n : Int} (h : monthOf m = monthOf n) : m < n + 31 := by
  obtain ⟨hle, hlt⟩ := monthOf_spec m
  obtain ⟨hle', hlt'⟩ := monthOf_spec n
  have hlen := monthStart_succ (monthOf n)
  rw [h] at hle hlt
  omega

end PerGo.Core.Calendar
