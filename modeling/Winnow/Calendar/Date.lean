/-
  Calendar dates: the proleptic Gregorian calendar, with years before and after the four-digit
  ones, their order, their place on the line of days, and their text.
-/

namespace Winnow

/-- A natural number in decimal, with zeros before it up to `width` digits. -/
def padded (width n : Nat) : String :=
  let ds := Nat.toDigits 10 n
  String.ofList (List.replicate (width - ds.length) '0' ++ ds)

/-- The year has a leap day. -/
def isLeapYear (year : Int) : Bool := year % 4 = 0 && (year % 100 ≠ 0 || year % 400 = 0)

/-- The number of days of a month; a number that is no month has none. -/
def daysInMonth (year : Int) (month : Nat) : Nat :=
  match month with
  | 1 | 3 | 5 | 7 | 8 | 10 | 12 => 31
  | 4 | 6 | 9 | 11 => 30
  | 2 => if isLeapYear year then 29 else 28
  | _ => 0

theorem daysInMonth_le (year : Int) (month : Nat) : daysInMonth year month ≤ 31 := by
  unfold daysInMonth
  split <;> try split
  all_goals decide

/-- A day of the calendar. -/
structure Date where
  year : Int
  month : Nat
  day : Nat
  valid : 1 ≤ day ∧ day ≤ daysInMonth year month
  deriving DecidableEq

namespace Date

/-- The day with a year, month and day of the month, if there is one. -/
def ofParts? (year : Int) (month day : Nat) : Option Date :=
  if h : 1 ≤ day ∧ day ≤ daysInMonth year month then some ⟨year, month, day, h⟩ else none

theorem month_le (d : Date) : d.month ≤ 12 := by
  have h := d.valid
  unfold daysInMonth at h
  split at h <;> omega

theorem day_le (d : Date) : d.day ≤ 31 := Nat.le_trans d.valid.2 (daysInMonth_le _ _)

/-- The digits of a date read as one number: dates are in the order of their ranks. -/
def rank (d : Date) : Int := d.year * 10000 + (d.month * 100 + d.day : Nat)

theorem rank_inj {a b : Date} : a.rank = b.rank ↔ a = b := by
  constructor
  · intro h
    have ha := a.month_le
    have hb := b.month_le
    have ha' := a.day_le
    have hb' := b.day_le
    unfold rank at h
    obtain ⟨y, m, d, v⟩ := a
    obtain ⟨y', m', d', v'⟩ := b
    simp only at h ha hb ha' hb'
    have hy : y = y' := by omega
    have hm : m = m' := by omega
    have hd : d = d' := by omega
    subst hy hm hd
    rfl
  · intro h
    rw [h]

/-- The number of days from the first of March of the year zero; a year is counted from its
March, so that the leap day is its last. -/
def dayNumber (d : Date) : Int :=
  let y : Int := if d.month ≤ 2 then d.year - 1 else d.year
  let m : Nat := (d.month + 9) % 12
  365 * y + y / 4 - y / 100 + y / 400 + ((153 * m + 2) / 5 + d.day - 1 : Nat)

/-- Four digits for the years 0 to 9999; other years have a sign before them. -/
def yearText (year : Int) : String :=
  if 0 ≤ year ∧ year ≤ 9999 then padded 4 year.toNat
  else (if year < 0 then "-" else "+") ++ padded 4 year.natAbs

/-- Year, month and day between hyphens. -/
def text (d : Date) : String := yearText d.year ++ "-" ++ padded 2 d.month ++ "-" ++ padded 2 d.day

end Date

end Winnow
