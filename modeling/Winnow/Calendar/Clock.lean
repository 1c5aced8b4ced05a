/-
  Times of the day, to the nanosecond; the last second of a minute may be a leap second, which
  is written as the second sixty.
-/
import Winnow.Calendar.Date

namespace Winnow

/-- A time of the day. During a leap second the nanoseconds of second 59 run on past a
second. -/
structure Clock where
  hour : Nat
  minute : Nat
  second : Nat
  nano : Nat
  valid : hour < 24 ∧ minute < 60 ∧ second < 60 ∧
    (nano < 1000000000 ∨ second = 59 ∧ nano < 2000000000)
  deriving DecidableEq

namespace Clock

/-- The time with an hour, minute, second and nanosecond, if there is one. -/
def ofParts? (hour minute second nano : Nat) : Option Clock :=
  if h : hour < 24 ∧ minute < 60 ∧ second < 60 ∧
      (nano < 1000000000 ∨ second = 59 ∧ nano < 2000000000) then
    some ⟨hour, minute, second, nano, h⟩
  else none

/-- The number of whole seconds since midnight, a leap second counted with the one before. -/
def secondOfDay (c : Clock) : Nat := (c.hour * 60 + c.minute) * 60 + c.second

/-- The places left for nanoseconds between two seconds: a second and a leap second. -/
def nanoPlaces : Nat := 2000000000

/-- Times are in the order of their ranks. -/
def rank (c : Clock) : Nat := c.secondOfDay * nanoPlaces + c.nano

theorem nano_lt (c : Clock) : c.nano < nanoPlaces := by
  have h := c.valid
  unfold nanoPlaces
  omega

theorem rank_inj {a b : Clock} : a.rank = b.rank ↔ a = b := by
  constructor
  · intro h
    have ha := a.nano_lt
    have hb := b.nano_lt
    obtain ⟨h1, m1, s1, n1, v1⟩ := a
    obtain ⟨h2, m2, s2, n2, v2⟩ := b
    simp only [rank, secondOfDay, nanoPlaces] at h ha hb
    have hn : n1 = n2 := by omega
    have hh : h1 = h2 := by omega
    have hm : m1 = m2 := by omega
    have hs : s1 = s2 := by omega
    subst hn hh hm hs
    rfl
  · intro h
    rw [h]

theorem rank_lt (c : Clock) : c.rank < 86400 * nanoPlaces := by
  have h := c.valid
  simp only [rank, secondOfDay, nanoPlaces]
  omega

/-- The fraction of a second, in the fewest of three, six or nine digits that hold it. -/
def fractionText (nano : Nat) : String :=
  if nano = 0 then ""
  else if nano % 1000000 = 0 then "." ++ padded 3 (nano / 1000000)
  else if nano % 1000 = 0 then "." ++ padded 6 (nano / 1000)
  else "." ++ padded 9 nano

/-- Hour, minute and second between colons, and the fraction of the second. -/
def text (c : Clock) : String :=
  let (second, nano) :=
    if 1000000000 ≤ c.nano then (c.second + 1, c.nano - 1000000000) else (c.second, c.nano)
  padded 2 c.hour ++ ":" ++ padded 2 c.minute ++ ":" ++ padded 2 second ++ fractionText nano

end Clock

end Winnow
