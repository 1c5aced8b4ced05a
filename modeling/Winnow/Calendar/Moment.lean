/-
  Dates with a time of the day: local ones, and ones with their offset from universal time,
  which are compared by the instant they stand for.
-/
import Winnow.Calendar.Clock

namespace Winnow

/-- A date and a time of that day, in no particular zone. -/
structure DateTime where
  date : Date
  clock : Clock
  deriving DecidableEq

namespace DateTime

/-- Date-times are in the order of their ranks. -/
def rank (d : DateTime) : Int := d.date.rank * (86400 * Clock.nanoPlaces : Nat) + d.clock.rank

theorem rank_inj {a b : DateTime} : a.rank = b.rank ↔ a = b := by
  constructor
  · intro h
    have ha := a.clock.rank_lt
    have hb := b.clock.rank_lt
    obtain ⟨d1, c1⟩ := a
    obtain ⟨d2, c2⟩ := b
    simp only [rank, Clock.nanoPlaces] at h ha hb
    have hd : d1.rank = d2.rank := by omega
    have hc : c1.rank = c2.rank := by omega
    rw [Date.rank_inj.mp hd, Clock.rank_inj.mp hc]
  · intro h
    rw [h]

/-- Date and time with `separator` between them. -/
def textWith (separator : String) (d : DateTime) : String :=
  d.date.text ++ separator ++ d.clock.text

end DateTime

/-- A local date and time with its distance from universal time, in seconds to the east and
less than a day. -/
structure OffsetDateTime where
  localTime : DateTime
  offset : Int
  valid : -86400 < offset ∧ offset < 86400
  deriving DecidableEq

namespace OffsetDateTime

/-- A local date and time at an offset, if the offset is less than a day. -/
def ofParts? (localTime : DateTime) (offset : Int) : Option OffsetDateTime :=
  if h : -86400 < offset ∧ offset < 86400 then some ⟨localTime, offset, h⟩ else none

/-- A date and time of universal time. -/
def universal (d : DateTime) : OffsetDateTime := ⟨d, 0, by decide⟩

/-- The instant, on the line of nanoseconds with the places of leap seconds kept. -/
def instant (d : OffsetDateTime) : Int :=
  (d.localTime.date.dayNumber * 86400 + d.localTime.clock.secondOfDay - d.offset) *
    Clock.nanoPlaces + d.localTime.clock.nano

/-- The sign, hours and minutes of an offset, and its seconds if it has any. -/
def offsetText (offset : Int) : String :=
  let n := offset.natAbs
  (if offset < 0 then "-" else "+") ++ padded 2 (n / 3600) ++ ":" ++ padded 2 (n / 60 % 60) ++
    if n % 60 = 0 then "" else ":" ++ padded 2 (n % 60)

/-- The local date and time and the offset, apart. -/
def text (d : OffsetDateTime) : String := d.localTime.textWith " " ++ " " ++ offsetText d.offset

/-- The local date and time and the offset, in one word. -/
def compactText (d : OffsetDateTime) : String := d.localTime.textWith "T" ++ offsetText d.offset

end OffsetDateTime

end Winnow
