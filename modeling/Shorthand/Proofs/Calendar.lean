import Mathlib
import Shorthand.Moment

/-! The calendar by counting: days are numbered by adding up the lengths of months, and moments by the
microseconds since the year 1 began. The next day and the day before have neighbouring numbers, and
universal time names the same instant as the time it is told from, unless that instant is in none of
the years 1 to 9999. -/
namespace Shorthand

namespace Date
open Finset
variable {d e : Date}

/-- A day of the years 1 to 9999. -/
structure IsValid (d : Date) : Prop where
  year_pos : 1 ≤ d.year
  year_le : d.year ≤ 9999
  month_pos : 1 ≤ d.month
  month_le : d.month ≤ 12
  day_pos : 1 ≤ d.day
  day_le : d.day ≤ daysInMonth d.year d.month

/-- Days of a year ahead of a month; ahead of a thirteenth month are all of them. -/
def daysBeforeMonth (year month : Nat) : Nat := ∑ m ∈ Ico 1 month, daysInMonth year m

/-- Days ahead of a year, from the year 1 on. -/
def daysBeforeYear (year : Nat) : Nat := ∑ y ∈ Ico 1 year, daysBeforeMonth y 13

/-- The number of a day, which is 0 for the first of January of the year 1. -/
def dayNumber (d : Date) : Nat :=
  daysBeforeYear d.year + daysBeforeMonth d.year d.month + (d.day - 1)

lemma daysInMonth_bounds (year month : Nat) :
    1 ≤ daysInMonth year month ∧ daysInMonth year month ≤ 31 := by
  unfold daysInMonth
  split
  · split <;> decide
  all_goals decide

lemma daysBeforeMonth_succ (year : Nat) {month : Nat} (h : 1 ≤ month) :
    daysBeforeMonth year (month + 1) = daysBeforeMonth year month + daysInMonth year month :=
  sum_Ico_succ_top h _

lemma daysBeforeYear_succ {year : Nat} (h : 1 ≤ year) :
    daysBeforeYear (year + 1) = daysBeforeYear year + daysBeforeMonth year 13 :=
  sum_Ico_succ_top h _

lemma daysBeforeMonth_mono (year : Nat) : Monotone (daysBeforeMonth year) := fun _ _ h =>
  sum_le_sum_of_subset (Ico_subset_Ico le_rfl h)

lemma daysBeforeYear_mono : Monotone daysBeforeYear := fun _ _ h =>
  sum_le_sum_of_subset (Ico_subset_Ico le_rfl h)

namespace IsValid

/-- A day ends before the next month begins. -/
lemma dayNumber_lt_month (h : d.IsValid) :
    d.dayNumber < daysBeforeYear d.year + daysBeforeMonth d.year (d.month + 1) := by
  have hday := h.day_le
  have hpos := h.day_pos
  rw [dayNumber, daysBeforeMonth_succ _ h.month_pos]
  omega

/-- A day ends before the next year begins. -/
lemma dayNumber_lt_year (h : d.IsValid) : d.dayNumber < daysBeforeYear (d.year + 1) := by
  have hmonth := h.dayNumber_lt_month
  have hrest : daysBeforeMonth d.year (d.month + 1) ≤ daysBeforeMonth d.year 13 :=
    daysBeforeMonth_mono d.year (Nat.succ_le_succ h.month_le)
  rw [daysBeforeYear_succ h.year_pos]
  omega

lemma dayNumber_lt (h : d.IsValid) : d.dayNumber < daysBeforeYear 10000 :=
  h.dayNumber_lt_year.trans_le (daysBeforeYear_mono (Nat.succ_le_succ h.year_le))

/-- Of two days, the one with the smaller year, month and day has the smaller number. -/
theorem dayNumber_lt_dayNumber (hd : d.IsValid)
    (h : d.year < e.year ∨ d.year = e.year ∧ (d.month < e.month ∨ d.month = e.month ∧ d.day < e.day)) :
    d.dayNumber < e.dayNumber := by
  rcases h with hyear | ⟨hyear, hmonth | ⟨hmonth, hday⟩⟩
  · calc d.dayNumber < daysBeforeYear (d.year + 1) := hd.dayNumber_lt_year
      _ ≤ daysBeforeYear e.year := daysBeforeYear_mono hyear
      _ ≤ e.dayNumber := by unfold dayNumber; omega
  · calc d.dayNumber < daysBeforeYear d.year + daysBeforeMonth d.year (d.month + 1) :=
          hd.dayNumber_lt_month
      _ ≤ daysBeforeYear d.year + daysBeforeMonth d.year e.month :=
          Nat.add_le_add_left (daysBeforeMonth_mono d.year hmonth) _
      _ ≤ e.dayNumber := by unfold dayNumber; rw [hyear]; omega
  · have hpos := hd.day_pos
    unfold dayNumber
    rw [hyear, hmonth]
    omega

/-- The next day is valid and has the next number. -/
lemma next?_eq_some (h : d.IsValid) (hnext : d.next? = some e) :
    e.IsValid ∧ e.dayNumber = d.dayNumber + 1 := by
  obtain ⟨hyear, hyear', hmonth, hmonth', hday, hday'⟩ := h
  unfold next? at hnext
  split_ifs at hnext with hin hmonths hyears
  · obtain rfl := Option.some.inj hnext
    refine ⟨⟨hyear, hyear', hmonth, hmonth', Nat.le_add_left 1 _, hin⟩, ?_⟩
    simp only [dayNumber]
    omega
  · obtain rfl := Option.some.inj hnext
    refine ⟨⟨hyear, hyear', Nat.le_add_left 1 _, hmonths, le_rfl, (daysInMonth_bounds _ _).1⟩, ?_⟩
    simp only [dayNumber, daysBeforeMonth_succ _ hmonth]
    omega
  · obtain rfl := Option.some.inj hnext
    have hlast := daysBeforeMonth_succ d.year hmonth
    rw [show d.month + 1 = 13 by omega] at hlast
    refine ⟨⟨Nat.le_add_left 1 _, hyears, le_rfl, by norm_num, le_rfl, (daysInMonth_bounds _ _).1⟩, ?_⟩
    simp only [dayNumber, daysBeforeYear_succ hyear, hlast]
    simp only [daysBeforeMonth, Ico_self, sum_empty]
    omega

/-- Only the last day of all has no next one. -/
lemma next?_eq_none (h : d.IsValid) (hnext : d.next? = none) :
    d.dayNumber + 1 = daysBeforeYear 10000 := by
  obtain ⟨hyear, hyear', hmonth, hmonth', hday, hday'⟩ := h
  unfold next? at hnext
  split_ifs at hnext with hin hmonths hyears
  have hlast := daysBeforeMonth_succ d.year hmonth
  have hend := daysBeforeYear_succ hyear
  rw [show d.month + 1 = 13 by omega] at hlast
  rw [show d.year + 1 = 10000 by omega] at hend
  rw [hend, hlast, dayNumber]
  omega

/-- The day before is valid and has the number before. -/
lemma prev?_eq_some (h : d.IsValid) (hprev : d.prev? = some e) :
    e.IsValid ∧ e.dayNumber + 1 = d.dayNumber := by
  obtain ⟨hyear, hyear', hmonth, hmonth', hday, hday'⟩ := h
  unfold prev? at hprev
  split_ifs at hprev with hin hmonths hyears
  · obtain rfl := Option.some.inj hprev
    refine ⟨⟨hyear, hyear', hmonth, hmonth', by dsimp only; omega, by dsimp only; omega⟩, ?_⟩
    simp only [dayNumber]
    omega
  · obtain rfl := Option.some.inj hprev
    have hlength := (daysInMonth_bounds d.year (d.month - 1)).1
    have hsum := daysBeforeMonth_succ d.year (show 1 ≤ d.month - 1 by omega)
    rw [Nat.sub_add_cancel hmonth] at hsum
    refine ⟨⟨hyear, hyear', by dsimp only; omega, by dsimp only; omega, hlength, le_rfl⟩, ?_⟩
    simp only [dayNumber, hsum]
    omega
  · obtain rfl := Option.some.inj hprev
    have hsum := daysBeforeYear_succ (show 1 ≤ d.year - 1 by omega)
    have hlast := daysBeforeMonth_succ (d.year - 1) (show 1 ≤ 12 by decide)
    have hfirst : daysBeforeMonth d.year d.month = 0 := by
      rw [show d.month = 1 by omega]
      rfl
    rw [Nat.sub_add_cancel hyear, hlast] at hsum
    refine ⟨⟨by dsimp only; omega, by dsimp only; omega, by norm_num, le_rfl, by norm_num, le_rfl⟩, ?_⟩
    simp only [dayNumber, hsum, hfirst]
    simp only [daysInMonth]
    omega

/-- Only the first day of all has no day before it. -/
lemma prev?_eq_none (h : d.IsValid) (hprev : d.prev? = none) : d.dayNumber = 0 := by
  obtain ⟨hyear, hyear', hmonth, hmonth', hday, hday'⟩ := h
  unfold prev? at hprev
  split_ifs at hprev with hin hmonths hyears
  rw [dayNumber, show d.year = 1 by omega, show d.month = 1 by omega, show d.day = 1 by omega]
  rfl

end IsValid
end Date

namespace Moment
variable {m u : Moment}

/-- A time of day on a day of the years 1 to 9999, less than a day ahead of universal time or behind
it. -/
structure IsValid (m : Moment) : Prop where
  date : m.date.IsValid
  hour : m.hour < 24
  minute : m.minute < 60
  second : m.second < 60
  microsecond : m.microsecond < 1000000
  offset : -secondsPerDay < m.offset ∧ m.offset < secondsPerDay

/-- Microseconds of universal time from the start of the year 1 to the moment. -/
def instant (m : Moment) : Int :=
  (m.date.dayNumber * secondsPerDay + ((m.hour * 60 + m.minute) * 60 + m.second) - m.offset) * 1000000 +
    m.microsecond

/-- The instant at which a year begins in universal time. -/
def yearStart (year : Nat) : Int := Date.daysBeforeYear year * secondsPerDay * 1000000

/-- In universal time the moment is in none of the years 1 to 9999. -/
def OutOfYears (m : Moment) : Prop := m.instant < yearStart 1 ∨ yearStart 10000 ≤ m.instant

lemma yearStart_one : yearStart 1 = 0 := rfl

/-- A valid moment of universal time is in one of the years 1 to 9999. -/
lemma IsValid.not_outOfYears (h : u.IsValid) (hoffset : u.offset = 0) : ¬ u.OutOfYears := by
  have hday := h.date.dayNumber_lt
  have hhour := h.hour
  have hminute := h.minute
  have hsecond := h.second
  have hmicro := h.microsecond
  rw [OutOfYears, yearStart_one]
  simp only [instant, yearStart, secondsPerDay, hoffset]
  omega

/-- The moment of universal time at a second of a day. -/
def atSecond (d : Date) (second microsecond : Nat) : Moment :=
  ⟨d, second / 3600, second / 60 % 60, second % 60, microsecond, 0⟩

lemma toUniversal_of_some {d : Date} {second : Nat} (h : m.universal? = some (d, second)) :
    m.toUniversal = .ok (atSecond d second m.microsecond) := by
  rw [toUniversal, h]
  rfl

lemma toUniversal_of_none (h : m.universal? = none) : m.toUniversal = .error .outOfRange := by
  rw [toUniversal, h]

lemma isValid_atSecond {d : Date} {second microsecond : Nat} (hd : d.IsValid)
    (hsecond : (second : Int) < secondsPerDay) (hmicro : microsecond < 1000000) :
    (atSecond d second microsecond).IsValid := by
  unfold secondsPerDay at hsecond
  have hhour : second / 3600 < 24 := by omega
  have hoffset : -secondsPerDay < 0 ∧ 0 < secondsPerDay := by decide
  exact ⟨hd, hhour, Nat.mod_lt _ (by decide), Nat.mod_lt _ (by decide), hmicro, hoffset⟩

lemma instant_atSecond (d : Date) (second microsecond : Nat) :
    (atSecond d second microsecond).instant =
      (d.dayNumber * secondsPerDay + second) * 1000000 + microsecond := by
  simp only [instant, atSecond]
  omega

/-- Seconds from the start of the date to the moment, in universal time: at the offset they can be
before the date or after it. -/
def shifted (m : Moment) : Int := (m.hour * 60 + m.minute) * 60 + m.second - m.offset

lemma instant_eq_shifted (m : Moment) :
    m.instant = (m.date.dayNumber * secondsPerDay + m.shifted) * 1000000 + m.microsecond := by
  simp only [instant, shifted]
  ring

lemma IsValid.shifted_bounds (h : m.IsValid) :
    -secondsPerDay < m.shifted ∧ m.shifted < 2 * secondsPerDay := by
  obtain ⟨-, hhour, hminute, hsecond, -, hlow, hhigh⟩ := h
  unfold shifted secondsPerDay at *
  omega

/-- Universal time is at a second of the same day, of the day before or of the next one, and is missing
only where that day is. -/
lemma IsValid.universal?_cases (h : m.IsValid) :
    (∃ d second, m.universal? = some (d, second) ∧ d.IsValid ∧ (second : Int) < secondsPerDay ∧
      d.dayNumber * secondsPerDay + second = m.date.dayNumber * secondsPerDay + m.shifted) ∨
    m.universal? = none ∧
      (m.date.dayNumber * secondsPerDay + m.shifted < 0 ∨
        Date.daysBeforeYear 10000 * secondsPerDay ≤ m.date.dayNumber * secondsPerDay + m.shifted) := by
  obtain ⟨hlow, hhigh⟩ := h.shifted_bounds
  have hdef : m.universal? =
      if m.shifted < 0 then m.date.prev?.map (·, (m.shifted + secondsPerDay).toNat)
      else if secondsPerDay ≤ m.shifted then m.date.next?.map (·, (m.shifted - secondsPerDay).toNat)
      else some (m.date, m.shifted.toNat) := rfl
  rw [hdef]
  unfold secondsPerDay at *
  split_ifs with hneg hnext
  · cases hd : m.date.prev? with
    | none =>
      have hfirst := h.date.prev?_eq_none hd
      exact .inr ⟨rfl, .inl (by omega)⟩
    | some d =>
      obtain ⟨hvalid, hnumber⟩ := h.date.prev?_eq_some hd
      exact .inl ⟨d, _, rfl, hvalid, by omega, by omega⟩
  · cases hd : m.date.next? with
    | none =>
      have hlast := h.date.next?_eq_none hd
      exact .inr ⟨rfl, .inr (by omega)⟩
    | some d =>
      obtain ⟨hvalid, hnumber⟩ := h.date.next?_eq_some hd
      exact .inl ⟨d, _, rfl, hvalid, by omega, by omega⟩
  · exact .inl ⟨m.date, _, rfl, h.date, by omega, by omega⟩

/-- In universal time a valid moment is the same instant, and it cannot be told there only when it is
in none of the years. -/
theorem IsValid.toUniversal_cases (h : m.IsValid) :
    (∃ u, m.toUniversal = .ok u ∧ u.IsValid ∧ u.offset = 0 ∧ u.instant = m.instant) ∨
      m.toUniversal = .error .outOfRange ∧ m.OutOfYears := by
  have hmicro := h.microsecond
  rcases h.universal?_cases with ⟨d, second, hu, hd, hsecond, hsame⟩ | ⟨hu, hout⟩
  · refine .inl ⟨_, toUniversal_of_some hu, isValid_atSecond hd hsecond hmicro, rfl, ?_⟩
    rw [instant_atSecond, instant_eq_shifted, hsame]
  · refine .inr ⟨toUniversal_of_none hu, ?_⟩
    rw [OutOfYears, instant_eq_shifted, yearStart_one, yearStart]
    omega

end Moment
end Shorthand
