/-
  The calendar in its own order.

  Dates are compared by a number that their digits make, moments of universal time by a number of
  days. `Before` is the order that both stand for: by year, month and day, and on one day by hour,
  minute, second and nanosecond.

  That day numbers are in this order needs the calendar: months are put one after another by a
  number of their own, and each begins where the one before it ends (`monthStart_succ`).
-/
import Mathlib.Order.Monotone.Basic
import Mathlib.Tactic.IntervalCases
import Mathlib.Tactic.Ring
import Winnow.Calendar.Moment

namespace Winnow

/-! ## Dates -/

namespace Date

/-- The date is earlier: by year, then by month, then by day. -/
def Before (a b : Date) : Prop :=
  a.year < b.year ∨ a.year = b.year ∧ (a.month < b.month ∨ a.month = b.month ∧ a.day < b.day)

theorem rank_lt_iff {a b : Date} : a.rank < b.rank ↔ a.Before b := by
  have ha := a.month_le
  have hb := b.month_le
  have ha' := a.day_le
  have hb' := b.day_le
  unfold rank Before
  omega

theorem month_pos (d : Date) : 1 ≤ d.month := by
  rcases Nat.eq_zero_or_pos d.month with h | h
  · have hv := d.valid
    rw [h] at hv
    exact absurd (Nat.le_trans hv.1 hv.2) (Nat.not_succ_le_zero 0)
  · exact h

/-- The day on which a month begins, where months are counted from the March of the year zero. -/
def monthStart (n : Int) : Int :=
  365 * (n / 12) + n / 12 / 4 - n / 12 / 100 + n / 12 / 400 + (153 * (n % 12) + 2) / 5

/-- The place of the date's month among all months. -/
def monthIndex (d : Date) : Int := 12 * d.year + d.month - 3

theorem dayNumber_eq (d : Date) : d.dayNumber = monthStart d.monthIndex + d.day - 1 := by
  have h1 := d.month_pos
  have h2 := d.month_le
  have h3 := d.valid.1
  unfold dayNumber monthStart monthIndex
  dsimp only
  split
  · have hyear : (12 * d.year + d.month - 3) / 12 = d.year - 1 := by omega
    have hmonth : (12 * d.year + d.month - 3) % 12 = ((d.month + 9) % 12 : Nat) := by omega
    rw [hyear, hmonth]
    omega
  · have hyear : (12 * d.year + d.month - 3) / 12 = d.year := by omega
    have hmonth : (12 * d.year + d.month - 3) % 12 = ((d.month + 9) % 12 : Nat) := by omega
    rw [hyear, hmonth]
    omega

/-- The rule of leap years counts a day more in every fourth year, none in every hundredth and one
again in every four-hundredth. -/
theorem yearLength (year : Int) :
    year / 4 - year / 100 + year / 400 =
      (year - 1) / 4 - (year - 1) / 100 + (year - 1) / 400 +
        if isLeapYear year = true then 1 else 0 := by
  have h4 : year / 4 = (year - 1) / 4 + if year % 4 = 0 then 1 else 0 := by split <;> omega
  have h100 : year / 100 = (year - 1) / 100 + if year % 100 = 0 then 1 else 0 := by
    split <;> omega
  have h400 : year / 400 = (year - 1) / 400 + if year % 400 = 0 then 1 else 0 := by
    split <;> omega
  rw [h4, h100, h400]
  simp only [isLeapYear, Bool.and_eq_true, Bool.or_eq_true, decide_eq_true_eq]
  split <;> split <;> split <;> split <;> omega

/-- A month begins where the one before it ends. -/
theorem monthStart_succ {year : Int} {month : Nat} (h : 1 ≤ month) (h' : month ≤ 12) :
    monthStart (12 * year + month - 3 + 1) =
      monthStart (12 * year + month - 3) + daysInMonth year month := by
  unfold monthStart
  by_cases hfebruary : month = 2
  · -- February ends the year that is counted from March, and its length decides the year's.
    subst hfebruary
    have hlast : (12 * year + (2 : Nat) - 3) / 12 = year - 1 ∧
        (12 * year + (2 : Nat) - 3) % 12 = 11 := by omega
    have hnext : (12 * year + (2 : Nat) - 3 + 1) / 12 = year ∧
        (12 * year + (2 : Nat) - 3 + 1) % 12 = 0 := by omega
    have hlength := yearLength year
    rw [hlast.1, hlast.2, hnext.1, hnext.2, daysInMonth]
    split at hlength
    · next hleap =>
      rw [if_pos hleap]
      omega
    · next hleap =>
      rw [if_neg hleap]
      omega
  · have hyear : (12 * year + month - 3 + 1) / 12 = (12 * year + month - 3) / 12 ∧
        (12 * year + month - 3 + 1) % 12 = (12 * year + month - 3) % 12 + 1 := by omega
    have hmonth : (12 * year + month - 3) % 12 = ((month + 9) % 12 : Nat) := by omega
    rw [hyear.1, hyear.2, hmonth]
    interval_cases month <;> first | exact absurd rfl hfebruary | (simp only [daysInMonth]; omega)

/-- Later months begin later. -/
theorem monthStart_le {m n : Int} (h : m ≤ n) : monthStart m ≤ monthStart n := by
  refine monotone_int_of_le_succ (fun k => ?_) h
  obtain ⟨year, month, hmonth, hmonth', rfl⟩ : ∃ (year : Int) (month : Nat), 1 ≤ month ∧
      month ≤ 12 ∧ k = 12 * year + month - 3 :=
    ⟨(k + 2) / 12, ((k + 2) % 12 + 1).toNat, by omega, by omega, by omega⟩
  rw [monthStart_succ hmonth hmonth']
  exact le_add_of_nonneg_right (Int.natCast_nonneg _)

/-- An earlier date has a smaller day number. -/
theorem dayNumber_lt {a b : Date} (h : a.Before b) : a.dayNumber < b.dayNumber := by
  have ha := a.valid
  have hb := b.valid
  rw [dayNumber_eq, dayNumber_eq]
  have hmonths : a.monthIndex < b.monthIndex ∨ a.monthIndex = b.monthIndex ∧ a.day < b.day := by
    have := a.month_le
    have := b.month_le
    have := a.month_pos
    have := b.month_pos
    unfold Before at h
    unfold monthIndex
    omega
  rcases hmonths with hlt | ⟨heq, hday⟩
  · -- The month of `a` is over before that of `b` begins.
    have hend : monthStart (a.monthIndex + 1) =
        monthStart a.monthIndex + daysInMonth a.year a.month :=
      monthStart_succ a.month_pos a.month_le
    have hle := monthStart_le (Int.add_one_le_iff.mpr hlt)
    omega
  · rw [heq]
    omega

theorem before_trichotomy (a b : Date) : a.Before b ∨ a = b ∨ b.Before a := by
  rw [← rank_lt_iff, ← rank_lt_iff, ← rank_inj]
  omega

/-- Day numbers are in the order of dates. -/
theorem dayNumber_lt_iff {a b : Date} : a.dayNumber < b.dayNumber ↔ a.Before b := by
  refine ⟨fun h => ?_, dayNumber_lt⟩
  rcases before_trichotomy a b with hab | rfl | hba
  · exact hab
  · exact absurd h (Int.lt_irrefl _)
  · exact absurd (Int.lt_trans h (dayNumber_lt hba)) (Int.lt_irrefl _)

theorem dayNumber_inj {a b : Date} : a.dayNumber = b.dayNumber ↔ a = b := by
  refine ⟨fun h => ?_, fun h => by rw [h]⟩
  rcases before_trichotomy a b with hab | rfl | hba
  · exact absurd h (Int.ne_of_lt (dayNumber_lt hab))
  · rfl
  · exact absurd h.symm (Int.ne_of_lt (dayNumber_lt hba))

end Date

/-! ## Times and moments -/

namespace Clock

/-- The time is earlier: by hour, minute, second and nanosecond. A leap second is after all the
rest of the second before it. -/
def Before (a b : Clock) : Prop :=
  a.hour < b.hour ∨ a.hour = b.hour ∧ (a.minute < b.minute ∨ a.minute = b.minute ∧
    (a.second < b.second ∨ a.second = b.second ∧ a.nano < b.nano))

theorem rank_lt_iff {a b : Clock} : a.rank < b.rank ↔ a.Before b := by
  have ha := a.valid
  have hb := b.valid
  unfold rank secondOfDay nanoPlaces Before
  omega

end Clock

namespace DateTime

/-- The moment is earlier: by date, then by time. -/
def Before (a b : DateTime) : Prop :=
  a.date.Before b.date ∨ a.date = b.date ∧ a.clock.Before b.clock

/-- A number made of that of the day and the rank of the time orders moments. -/
theorem before_iff {a b : DateTime} {number : Date → Int}
    (hlt : ∀ d e, number d < number e ↔ d.Before e) (hinj : ∀ d e, number d = number e ↔ d = e) :
    number a.date * (86400 * Clock.nanoPlaces : Nat) + a.clock.rank <
        number b.date * (86400 * Clock.nanoPlaces : Nat) + b.clock.rank ↔ a.Before b := by
  have ha := a.clock.rank_lt
  have hb := b.clock.rank_lt
  rw [Before, ← hlt, ← hinj, ← Clock.rank_lt_iff]
  simp only [Clock.nanoPlaces] at ha hb ⊢
  omega

theorem rank_lt_iff {a b : DateTime} : a.rank < b.rank ↔ a.Before b :=
  before_iff (fun _ _ => Date.rank_lt_iff) fun _ _ => Date.rank_inj

end DateTime

namespace OffsetDateTime

theorem instant_universal (d : DateTime) :
    (universal d).instant =
      d.date.dayNumber * (86400 * Clock.nanoPlaces : Nat) + d.clock.rank := by
  simp only [instant, universal, Clock.rank, Clock.nanoPlaces]
  push_cast
  ring

/-- The instants of universal time are in the order of its dates and times. -/
theorem instant_universal_lt_iff {a b : DateTime} :
    (universal a).instant < (universal b).instant ↔ a.Before b := by
  rw [instant_universal, instant_universal]
  exact DateTime.before_iff (fun _ _ => Date.dayNumber_lt_iff) fun _ _ => Date.dayNumber_inj

theorem instant_universal_inj {a b : DateTime} :
    (universal a).instant = (universal b).instant ↔ a = b := by
  refine ⟨fun h => ?_, fun h => by rw [h]⟩
  have ha := fun hab : a.rank < b.rank =>
    instant_universal_lt_iff.mpr (DateTime.rank_lt_iff.mp hab)
  have hb := fun hba : b.rank < a.rank =>
    instant_universal_lt_iff.mpr (DateTime.rank_lt_iff.mp hba)
  rw [← DateTime.rank_inj]
  omega

end OffsetDateTime

end Winnow
