import Shorthand.Proofs.Calendar
import Shorthand.Proofs.Json.Writer

/-! Timestamps read back and compared. A timestamp is a row of numerals of fixed widths, so that the
order of the texts is the order of the numbers in them, and for moments of universal time that is the
order in time. -/
namespace Shorthand

namespace Text
variable {s t u v : Text} {width n : Nat} {c d : Char}

lemma lt_iff_toNat_lt : c < d ↔ c.toNat < d.toNat := by
  rw [Char.lt_def, UInt32.lt_iff_toNat_lt, Char.toNat_val, Char.toNat_val]

lemma digitsValue_cons (c : Char) (s : Text) :
    digitsValue (c :: s) = 10 ^ s.length * (c.toNat - 48) + digitsValue s := by
  have h : digitsValue (c :: s) = Nat.ofDigitChars 10 s (10 * 0 + (c.toNat - 48)) := rfl
  rw [h, Nat.ofDigitChars_eq_ofDigitChars_zero, Nat.mul_zero, Nat.zero_add]
  rfl

lemma digitsValue_lt (h : Run Char.isDigit s) : digitsValue s < 10 ^ s.length := by
  induction s with
  | nil => decide
  | cons c s ih =>
    obtain ⟨hc, hs⟩ := run_cons.mp h
    have hdigit := isDigit_iff.mp hc
    have hfirst : 10 ^ s.length * (c.toNat - 48) ≤ 10 ^ s.length * 9 :=
      Nat.mul_le_mul_left _ (by omega)
    have hrest := ih hs
    rw [digitsValue_cons, List.length_cons, Nat.pow_succ]
    omega

/-- Numerals of one length are in the order of their values. -/
theorem lt_iff_digitsValue_lt (hs : Run Char.isDigit s) (ht : Run Char.isDigit t)
    (hlength : s.length = t.length) : s < t ↔ digitsValue s < digitsValue t := by
  induction s generalizing t with
  | nil =>
    obtain rfl := List.length_eq_zero_iff.mp hlength.symm
    simp
  | cons c s ih =>
    cases t with
    | nil => cases hlength
    | cons d t =>
      obtain ⟨hc, hs⟩ := run_cons.mp hs
      obtain ⟨hd, ht⟩ := run_cons.mp ht
      have hcdigit := isDigit_iff.mp hc
      have hddigit := isDigit_iff.mp hd
      have hlength : s.length = t.length := by simpa using hlength
      have hbound := digitsValue_lt hs
      have hbound' := digitsValue_lt ht
      rw [List.cons_lt_cons_iff, digitsValue_cons, digitsValue_cons, ih hs ht hlength, lt_iff_toNat_lt,
        ← Char.toNat_inj, ← hlength]
      rw [← hlength] at hbound'
      rcases lt_trichotomy c.toNat d.toNat with hlt | heq | hgt
      · have hstep := Nat.mul_le_mul_left (10 ^ s.length)
          (show c.toNat - 48 + 1 ≤ d.toNat - 48 by omega)
        rw [Nat.mul_add, Nat.mul_one] at hstep
        exact ⟨fun _ => by omega, fun _ => .inl hlt⟩
      · simp [heq]
      · have hstep := Nat.mul_le_mul_left (10 ^ s.length)
          (show d.toNat - 48 + 1 ≤ c.toNat - 48 by omega)
        rw [Nat.mul_add, Nat.mul_one] at hstep
        constructor <;> omega

lemma append_lt_append_iff (hlength : s.length = t.length) :
    s ++ u < t ++ v ↔ s < t ∨ s = t ∧ u < v := by
  induction s generalizing t with
  | nil =>
    obtain rfl := List.length_eq_zero_iff.mp hlength.symm
    simp
  | cons c s ih =>
    cases t with
    | nil => cases hlength
    | cons d t =>
      rw [List.cons_append, List.cons_append, List.cons_lt_cons_iff, List.cons_lt_cons_iff,
        ih (by simpa using hlength), List.cons.injEq]
      tauto

section Padded

lemma run_padded (width n : Nat) : Run Char.isDigit (padded width n) := by
  refine run_append.mpr ⟨fun c hc => ?_, Json.run_ofNat n⟩
  rw [List.eq_of_mem_replicate hc]
  rfl

lemma digitsValue_padded (width n : Nat) : digitsValue (padded width n) = n := by
  have h : digitsValue (padded width n) =
      Nat.ofDigitChars 10 (List.replicate (width - (ofNat n).length) '0' ++ ofNat n) 0 := rfl
  rw [h, Nat.ofDigitChars_append, Nat.ofDigitChars_replicate_zero, Nat.mul_zero]
  exact Json.digitsValue_ofNat n

lemma length_padded (hwidth : 0 < width) (h : n < 10 ^ width) : (padded width n).length = width := by
  have hdigits : (ofNat n).length ≤ width := (Nat.length_toDigits_le_iff (by decide) hwidth).mpr h
  rw [padded, padZero, List.length_append, List.length_replicate]
  omega

end Padded

section Columns
variable {layout : List (Nat × Char)} {ns ms : List Nat}

/-- Numerals of given widths, each with a mark behind it. -/
def writeColumns : List (Nat × Char) → List Nat → Text
  | (width, mark) :: layout, n :: ns => padded width n ++ mark :: writeColumns layout ns
  | _, _ => []

/-- Read numerals of exactly these widths, each with its mark behind it, and nothing else. -/
def readColumns? : List (Nat × Char) → Text → Option (List Nat)
  | [], s => if s.isEmpty then some [] else none
  | (width, mark) :: layout, s =>
    let digits := s.take width
    if digits.length = width ∧ digits.all Char.isDigit ∧ (s.drop width).head? = some mark then
      (readColumns? layout (s.drop (width + 1))).map (digitsValue digits :: ·)
    else none

/-- There is a column for each number, with some width and room for it. -/
def Fits (layout : List (Nat × Char)) (ns : List Nat) : Prop :=
  List.Forall₂ (fun column n => 0 < column.1 ∧ n < 10 ^ column.1) layout ns

lemma length_writeColumns (h : Fits layout ns) :
    (writeColumns layout ns).length = (layout.map fun column => column.1 + 1).sum := by
  induction h with
  | nil => rfl
  | cons hn _ ih => simp [writeColumns, length_padded hn.1 hn.2, ih]; omega

theorem readColumns?_writeColumns (h : Fits layout ns) :
    readColumns? layout (writeColumns layout ns) = some ns := by
  induction h with
  | nil => rfl
  | @cons column n layout ns hn _ ih =>
    obtain ⟨width, mark⟩ := column
    have hlength := length_padded hn.1 hn.2
    have htake : (padded width n ++ mark :: writeColumns layout ns).take width = padded width n :=
      List.take_left' hlength
    have hdrop : (padded width n ++ mark :: writeColumns layout ns).drop width =
        mark :: writeColumns layout ns := List.drop_left' hlength
    have hrest : (padded width n ++ mark :: writeColumns layout ns).drop (width + 1) =
        writeColumns layout ns := by
      rw [← List.drop_drop, hdrop, List.drop_one, List.tail_cons]
    have hdigits : (padded width n).all Char.isDigit = true := List.all_eq_true.mpr (run_padded width n)
    simp only [writeColumns, readColumns?, htake, hdrop, hrest, hlength, hdigits, List.head?_cons,
      and_self, if_true, ih, digitsValue_padded, Option.map_some]

/-- Columns are in the order of their numbers, the first one that differs deciding. -/
theorem writeColumns_lt_iff (hns : Fits layout ns) (hms : Fits layout ms) :
    writeColumns layout ns < writeColumns layout ms ↔ ns < ms := by
  induction hns generalizing ms with
  | nil =>
    cases hms
    simp [writeColumns]
  | @cons column n layout ns hn _ ih =>
    cases hms with
    | @cons _ m _ ms hm hms =>
      have hn' := length_padded hn.1 hn.2
      have hm' := length_padded hm.1 hm.2
      have hinj : padded column.1 n = padded column.1 m ↔ n = m := by
        refine ⟨fun heq => ?_, fun heq => by rw [heq]⟩
        rw [← digitsValue_padded column.1 n, heq, digitsValue_padded]
      have horder := lt_iff_digitsValue_lt (run_padded column.1 n) (run_padded column.1 m)
        (hn'.trans hm'.symm)
      rw [digitsValue_padded, digitsValue_padded] at horder
      rw [writeColumns, writeColumns, append_lt_append_iff (hn'.trans hm'.symm), List.cons_lt_cons_iff,
        List.cons_lt_cons_iff, ih hms, horder, hinj]
      simp

end Columns
end Text

namespace Moment
open Text
variable {m u v : Moment}

/-- The widths of the numerals in a timestamp, with the marks behind them. -/
def stampLayout : List (Nat × Char) :=
  [(4, '-'), (2, '-'), (2, 'T'), (2, ':'), (2, ':'), (2, '.'), (3, 'Z')]

/-- The numbers in the timestamp of a moment of universal time. -/
def columns (u : Moment) : List Nat :=
  [u.date.year, u.date.month, u.date.day, u.hour, u.minute, u.second, u.microsecond / 1000]

/-- The moment of universal time that a timestamp stands for. -/
def ofStamp? (t : Text) : Option Moment :=
  match readColumns? stampLayout t with
  | some [year, month, day, hour, minute, second, millisecond] =>
    some ⟨⟨year, month, day⟩, hour, minute, second, millisecond * 1000, 0⟩
  | _ => none

lemma timestamp_eq (m : Moment) :
    m.timestamp = m.toUniversal.map fun u => writeColumns stampLayout u.columns := by
  unfold timestamp toUniversal
  cases m.universal? with
  | none => rfl
  | some shown => simp [Except.map, format, writeColumns, stampLayout, columns]

lemma IsValid.fits (h : u.IsValid) : Fits stampLayout u.columns := by
  have hyear := h.date.year_le
  have hmonth := h.date.month_le
  have hday := h.date.day_le.trans (Date.daysInMonth_bounds _ _).2
  have hhour := h.hour
  have hminute := h.minute
  have hsecond := h.second
  have hmicro := h.microsecond
  refine .cons ⟨by decide, ?_⟩ (.cons ⟨by decide, ?_⟩ (.cons ⟨by decide, ?_⟩ (.cons ⟨by decide, ?_⟩
    (.cons ⟨by decide, ?_⟩ (.cons ⟨by decide, ?_⟩ (.cons ⟨by decide, ?_⟩ .nil))))))
  all_goals dsimp only; omega

/-- A moment of universal time with its microseconds cut off to milliseconds. -/
def truncated (u : Moment) : Moment := { u with microsecond := u.microsecond / 1000 * 1000 }

lemma ofStamp?_columns (h : u.IsValid) (hoffset : u.offset = 0) :
    ofStamp? (writeColumns stampLayout u.columns) = some u.truncated := by
  rw [ofStamp?, readColumns?_writeColumns h.fits]
  simp [columns, truncated, hoffset]

lemma IsValid.truncated (h : u.IsValid) : u.truncated.IsValid := by
  have hmicro : u.microsecond / 1000 * 1000 < 1000000 :=
    (Nat.div_mul_le_self _ _).trans_lt h.microsecond
  exact ⟨h.date, h.hour, h.minute, h.second, hmicro, h.offset⟩

lemma instant_truncated (u : Moment) : u.truncated.instant = u.instant / 1000 * 1000 := by
  simp only [instant, truncated]
  omega

/-- Of two moments of universal time, the one with the smaller numbers is in an earlier millisecond. -/
lemma IsValid.instant_lt_of_columns_lt (hu : u.IsValid) (hv : v.IsValid) (hu' : u.offset = 0)
    (hv' : v.offset = 0) (h : u.columns < v.columns) : u.instant / 1000 < v.instant / 1000 := by
  obtain ⟨hdate, hhour, hminute, hsecond, hmicro, -⟩ := hu
  obtain ⟨-, -, hminute', hsecond', -, -⟩ := hv
  simp only [columns, List.cons_lt_cons_iff, lt_self_iff_false, and_false, or_false] at h
  have hcases : u.date.dayNumber < v.date.dayNumber ∨ u.date.dayNumber = v.date.dayNumber ∧
      (u.hour < v.hour ∨ u.hour = v.hour ∧ (u.minute < v.minute ∨ u.minute = v.minute ∧
        (u.second < v.second ∨ u.second = v.second ∧
          u.microsecond / 1000 < v.microsecond / 1000))) := by
    rcases h with hyear | ⟨hyear, hmonth | ⟨hmonth, hday | ⟨hday, htime⟩⟩⟩
    · exact .inl (hdate.dayNumber_lt_dayNumber (.inl hyear))
    · exact .inl (hdate.dayNumber_lt_dayNumber (.inr ⟨hyear, .inl hmonth⟩))
    · exact .inl (hdate.dayNumber_lt_dayNumber (.inr ⟨hyear, .inr ⟨hmonth, hday⟩⟩))
    · refine .inr ⟨?_, htime⟩
      rw [Date.dayNumber, Date.dayNumber, hyear, hmonth, hday]
  simp only [instant, hu', hv', secondsPerDay]
  omega

/-- The numbers in a timestamp are ordered as the milliseconds are, and are the same in the same
millisecond. -/
theorem IsValid.columns_lt_iff (hu : u.IsValid) (hv : v.IsValid) (hu' : u.offset = 0)
    (hv' : v.offset = 0) :
    (u.columns < v.columns ↔ u.instant / 1000 < v.instant / 1000) ∧
      (u.columns = v.columns ↔ u.instant / 1000 = v.instant / 1000) := by
  rcases lt_trichotomy u.columns v.columns with hlt | heq | hgt
  · have hinstant := hu.instant_lt_of_columns_lt hv hu' hv' hlt
    exact ⟨iff_of_true hlt hinstant, iff_of_false hlt.ne hinstant.ne⟩
  · have htruncated : some u.truncated = some v.truncated := by
      rw [← ofStamp?_columns hu hu', heq, ofStamp?_columns hv hv']
    have hu'' := instant_truncated u
    have hv'' := instant_truncated v
    rw [Option.some.inj htruncated] at hu''
    have hinstant : u.instant / 1000 = v.instant / 1000 := by omega
    exact ⟨iff_of_false heq.not_lt hinstant.not_lt, iff_of_true heq hinstant⟩
  · have hinstant := hv.instant_lt_of_columns_lt hu hv' hu' hgt
    exact ⟨iff_of_false hgt.asymm hinstant.asymm, iff_of_false hgt.ne' hinstant.ne'⟩

lemma exists_of_timestamp {t : Text} (h : m.IsValid) (ht : m.timestamp = .ok t) :
    ∃ u : Moment, u.IsValid ∧ u.offset = 0 ∧ u.instant = m.instant ∧
      t = writeColumns stampLayout u.columns := by
  rw [timestamp_eq] at ht
  rcases h.toUniversal_cases with ⟨u, hu, hvalid, hoffset, hinstant⟩ | ⟨hu, -⟩
  · rw [hu] at ht
    exact ⟨u, hvalid, hoffset, hinstant, (Except.ok.inj ht).symm⟩
  · rw [hu] at ht
    cases ht

lemma writeColumns_inj (hu : u.IsValid) (hv : v.IsValid) :
    writeColumns stampLayout u.columns = writeColumns stampLayout v.columns ↔ u.columns = v.columns := by
  refine ⟨fun heq => ?_, fun heq => by rw [heq]⟩
  have hread := readColumns?_writeColumns hu.fits
  rw [heq, readColumns?_writeColumns hv.fits] at hread
  exact (Option.some.inj hread).symm

/-- A valid moment has a timestamp unless it is in none of the years 1 to 9999 of universal time. The
timestamp has 24 characters and stands for the instant, cut off to milliseconds, as a valid moment of
universal time. Two timestamps are the same in the same millisecond only, and their order as texts is
the order of the milliseconds. -/
theorem timestamp_denotes_instant :
    (∀ m : Moment, m.IsValid →
      (m.timestamp = .error .outOfRange ↔ m.OutOfYears) ∧
      (¬ m.OutOfYears → ∃ t u, m.timestamp = .ok t ∧ t.length = 24 ∧ ofStamp? t = some u ∧
        u.IsValid ∧ u.offset = 0 ∧ u.instant = m.instant / 1000 * 1000)) ∧
    ∀ (m m' : Moment) (t t' : Text), m.IsValid → m'.IsValid →
      m.timestamp = .ok t → m'.timestamp = .ok t' →
      (t = t' ↔ m.instant / 1000 = m'.instant / 1000) ∧
      (t < t' ↔ m.instant / 1000 < m'.instant / 1000) := by
  constructor
  · intro m hm
    rw [timestamp_eq]
    rcases hm.toUniversal_cases with ⟨u, hu, hvalid, hoffset, hinstant⟩ | ⟨hu, hout⟩
    · have hin : ¬ m.OutOfYears := by
        have hbounds := hvalid.not_outOfYears hoffset
        rwa [OutOfYears, hinstant] at hbounds
      rw [hu]
      refine ⟨iff_of_false (by rintro ⟨⟩) hin, fun _ => ⟨_, u.truncated, rfl,
        length_writeColumns hvalid.fits, ofStamp?_columns hvalid hoffset, hvalid.truncated, hoffset, ?_⟩⟩
      rw [instant_truncated, hinstant]
    · rw [hu]
      exact ⟨iff_of_true rfl hout, fun hin => absurd hout hin⟩
  · intro m m' t t' hm hm' ht ht'
    obtain ⟨u, hu, hoffset, hinstant, rfl⟩ := exists_of_timestamp hm ht
    obtain ⟨v, hv, hoffset', hinstant', rfl⟩ := exists_of_timestamp hm' ht'
    rw [writeColumns_lt_iff hu.fits hv.fits, writeColumns_inj hu hv, ← hinstant, ← hinstant']
    exact (hu.columns_lt_iff hv hoffset hoffset').symm

/-- Half past midnight on the first of March, east of Greenwich: the leap day is not over there. -/
def afterMidnight : Moment := ⟨⟨2024, 3, 1⟩, 0, 30, 15, 123456, 3600⟩

/-- The same millisecond in the west. -/
def sixInTheEvening : Moment := ⟨⟨2024, 2, 29⟩, 18, 0, 15, 123999, -19800⟩

/-- A moment that is still in the year 0 in universal time. -/
def firstMidnight : Moment := ⟨⟨1, 1, 1⟩, 0, 0, 0, 0, 1⟩

theorem timestamps_denote_sample_instants :
    afterMidnight.IsValid ∧ sixInTheEvening.IsValid ∧ firstMidnight.IsValid ∧
      afterMidnight.timestamp = .ok "2024-02-29T23:30:15.123Z".toList ∧
      (∃ u, ofStamp? "2024-02-29T23:30:15.123Z".toList = some u ∧
        u.instant = afterMidnight.instant / 1000 * 1000) ∧
      afterMidnight.instant / 1000 = sixInTheEvening.instant / 1000 ∧
      firstMidnight.instant = -1000000 ∧ firstMidnight.OutOfYears := by
  have hafter : afterMidnight.IsValid :=
    ⟨⟨by decide, by decide, by decide, by decide, by decide, by decide⟩, by decide, by decide,
      by decide, by decide, by decide⟩
  have hevening : sixInTheEvening.IsValid :=
    ⟨⟨by decide, by decide, by decide, by decide, by decide, by decide⟩, by decide, by decide,
      by decide, by decide, by decide⟩
  have hfirst : firstMidnight.IsValid :=
    ⟨⟨by decide, by decide, by decide, by decide, by decide, by decide⟩, by decide, by decide,
      by decide, by decide, by decide⟩
  have htext : afterMidnight.timestamp = .ok "2024-02-29T23:30:15.123Z".toList := rfl
  have htext' : sixInTheEvening.timestamp = .ok "2024-02-29T23:30:15.123Z".toList := rfl
  obtain ⟨hone, htwo⟩ := timestamp_denotes_instant
  have hin : ¬ afterMidnight.OutOfYears := by
    rw [← (hone _ hafter).1, htext]
    nofun
  obtain ⟨t, u, ht, -, hu, -, -, hinstant⟩ := (hone _ hafter).2 hin
  obtain rfl := Except.ok.inj (htext.symm.trans ht)
  exact ⟨hafter, hevening, hfirst, htext, ⟨u, hu, hinstant⟩,
    (htwo _ _ _ _ hafter hevening htext htext').1.mp rfl, rfl, (hone _ hfirst).1.mp rfl⟩

end Moment
end Shorthand
