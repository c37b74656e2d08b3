import Mathlib.Data.Nat.Find
import Mathlib.Data.List.Basic
import Mathlib.Order.Lattice
import Mathlib.Algebra.Order.Ring.Nat

/-!
# Dates as JavaScript writes them

`toISOString` for readings of a clock that starts in 1970.  The texts of two
readings are ordered as the readings are until the year 10000, whose text
begins with a plus sign.
-/

namespace GravitPanel.IsoDate

def digit (value : Nat) : Char := Char.ofNat (48 + value % 10)

/-- The last `width` decimal digits of a number. -/
def padded : Nat → Nat → List Char
  | 0, _ => []
  | width + 1, value => padded width (value / 10) ++ [digit value]

@[simp]
theorem padded_length (width value : Nat) :
    (padded width value).length = width := by
  induction width generalizing value with
  | zero => rfl
  | succ width ih =>
      rw [padded, List.length_append, ih]
      rfl

theorem append_lt_of_lt {Item : Type} [LT Item]
    {first second : List Item} (sameLength : first.length = second.length)
    (less : first < second) (firstRest secondRest : List Item) :
    first ++ firstRest < second ++ secondRest := by
  induction first generalizing second with
  | nil =>
      cases second with
      | nil => cases less
      | cons _ _ => cases sameLength
  | cons head rest ih =>
      cases second with
      | nil => cases sameLength
      | cons otherHead otherRest =>
          rw [List.cons_append, List.cons_append]
          cases less with
          | rel smaller => exact .rel smaller
          | cons later =>
              exact .cons (ih
                (Nat.succ.inj sameLength) later)

variable {first second : Nat}

theorem digit_lt (less : first % 10 < second % 10) :
    digit first < digit second := by
  have table : ∀ a < 10, ∀ b < 10, a < b →
      Char.ofNat (48 + a) < Char.ofNat (48 + b) := by
    decide
  exact table _ (Nat.mod_lt _ (by decide)) _ (Nat.mod_lt _ (by decide)) less

theorem padded_head (width value : Nat) :
    ∃ first rest, padded (width + 1) value = digit first :: rest := by
  induction width generalizing value with
  | zero => exact ⟨value, [], rfl⟩
  | succ width ih =>
      obtain ⟨first, rest, shape⟩ := ih (value / 10)
      refine ⟨first, rest ++ [digit value], ?_⟩
      rw [padded, shape, List.cons_append]

theorem plus_lt_digit (value : Nat) : '+' < digit value := by
  have table : ∀ a < 10, '+' < Char.ofNat (48 + a) := by
    decide
  exact table _ (Nat.mod_lt _ (by decide))

theorem padded_lt {width first second : Nat}
    (less : first < second) (fits : second < 10 ^ width) :
    padded width first < padded width second := by
  induction width generalizing first second with
  | zero => omega
  | succ width ih =>
      rw [padded, padded]
      rw [Nat.pow_succ] at fits
      by_cases tens : first / 10 < second / 10
      · exact append_lt_of_lt (by simp)
          (ih tens (by omega)) _ _
      · have same : first / 10 = second / 10 := by omega
        have last : first % 10 < second % 10 := by omega
        rw [same]
        exact List.append_left_lt (.rel (digit_lt last))

/-- Numbers of given widths, each followed by a separator. -/
def render : List (Nat × Char) → List Nat → List Char
  | (width, separator) :: formats, value :: values =>
      padded width value ++ separator :: render formats values
  | _, _ => []

/-- The number has at most the digits of its format. -/
def Fits : List (Nat × Char) → List Nat → Prop
  | (width, _) :: formats, value :: values =>
      value < 10 ^ width ∧ Fits formats values
  | [], [] => True
  | _, _ => False

theorem render_lt {formats : List (Nat × Char)} {first second : List Nat}
    (fits : Fits formats second) (sameLength : first.length = second.length)
    (less : first < second) :
    render formats first < render formats second := by
  induction formats generalizing first second with
  | nil =>
      cases second with
      | nil => cases less
      | cons _ _ => cases fits
  | cons format formats ih =>
      cases second with
      | nil => cases fits
      | cons otherValue otherValues =>
          cases first with
          | nil => cases sameLength
          | cons value values =>
              rw [render, render]
              rcases List.cons_lt_cons_iff.mp less with smaller | ⟨rfl, later⟩
              · exact append_lt_of_lt (by simp) (padded_lt smaller fits.1) _ _
              · exact List.append_left_lt (.cons (ih fits.2
                  (Nat.succ.inj sameLength) later))

def dayFromYear (year : Nat) : Nat :=
  365 * (year - 1970) + (year - 1969) / 4 + (year - 1601) / 400 -
    (year - 1901) / 100

def leap (year : Nat) : Bool :=
  year % 4 = 0 && (year % 100 ≠ 0 || year % 400 = 0)

def yearFromDay (day : Nat) : Nat :=
  Nat.findGreatest (fun year => dayFromYear year ≤ day) (1970 + day / 365)

theorem quotient_succ {year offset period : Nat}
    (later : 1 ≤ offset ∧ offset ≤ year) (anchored : period ∣ offset - 1) :
    (year + 1 - offset) / period =
      (year - offset) / period + if year % period = 0 then 1 else 0 := by
  have moved : year - offset + 1 = year - (offset - 1) := by omega
  have ends : period ∣ year - offset + 1 ↔ year % period = 0 := by
    rw [moved, Nat.dvd_sub_iff_left (by omega) anchored,
      Nat.dvd_iff_mod_eq_zero]
  rw [Nat.succ_sub later.2, Nat.succ_div]
  simp only [ends]

theorem dayFromYear_succ {year : Nat} (modern : 1970 ≤ year) :
    dayFromYear (year + 1) =
      dayFromYear year + if leap year then 366 else 365 := by
  have quarters := @quotient_succ year 1969 4 (by omega) ⟨492, rfl⟩
  have centuries := @quotient_succ year 1901 100 (by omega) ⟨19, rfl⟩
  have cycles := @quotient_succ year 1601 400 (by omega) ⟨4, rfl⟩
  have skipped : (year - 1901) / 100 ≤ (year - 1969) / 4 + 1 := by
    omega
  have days : 365 * (year + 1 - 1970) = 365 * (year - 1970) + 365 := by
    omega
  unfold dayFromYear leap
  rw [quarters, centuries, cycles, days]
  by_cases cycle : year % 400 = 0
  · have century : year % 100 = 0 := by omega
    have quarter : year % 4 = 0 := by omega
    simp only [cycle, century, quarter, if_true, decide_true, Bool.or_true,
      Bool.and_true]
    omega
  · by_cases century : year % 100 = 0
    · have quarter : year % 4 = 0 := by omega
      simp only [cycle, century, quarter, if_true, if_false, decide_true,
        decide_false, ne_eq, not_true_eq_false, Bool.or_false,
        Bool.and_false, Bool.false_eq_true]
      omega
    · by_cases quarter : year % 4 = 0
      · simp only [cycle, century, quarter, if_true, if_false, decide_true,
          decide_false, ne_eq, not_false_eq_true, Bool.or_false,
          Bool.and_true]
        omega
      · simp only [cycle, century, quarter, if_false, decide_false,
          Bool.false_and, Bool.false_eq_true]
        omega

theorem dayFromYear_mono (modern : 1970 ≤ first)
    (le : first ≤ second) : dayFromYear first ≤ dayFromYear second := by
  induction second, le using Nat.le_induction with
  | base => exact le_refl _
  | succ year older ih =>
      rw [dayFromYear_succ (by omega)]
      omega

theorem dayFromYear_lower (past : Nat) :
    365 * past ≤ dayFromYear (1970 + past) := by
  unfold dayFromYear
  omega

theorem modern_yearFromDay (day : Nat) : 1970 ≤ yearFromDay day := by
  have first : dayFromYear 1970 ≤ day := Nat.zero_le _
  exact Nat.le_findGreatest (by omega) first

theorem yearFromDay_spec (day : Nat) :
    dayFromYear (yearFromDay day) ≤ day ∧
      day < dayFromYear (yearFromDay day + 1) := by
  have first : dayFromYear 1970 ≤ day := Nat.zero_le _
  refine ⟨?_, ?_⟩
  · unfold yearFromDay
    exact Nat.findGreatest_spec (P := fun year => dayFromYear year ≤ day)
      (m := 1970) (by omega) first
  · by_cases last : yearFromDay day + 1 ≤ 1970 + day / 365
    · have later := Nat.findGreatest_is_greatest
        (P := fun year => dayFromYear year ≤ day)
        (n := 1970 + day / 365) (k := yearFromDay day + 1)
        (Nat.lt_succ_self _) last
      exact Nat.not_le.mp later
    · have modern := modern_yearFromDay day
      have lower := dayFromYear_lower (yearFromDay day + 1 - 1970)
      rw [show 1970 + (yearFromDay day + 1 - 1970) = yearFromDay day + 1 by
        omega] at lower
      omega

theorem yearFromDay_mono (le : first ≤ second) :
    yearFromDay first ≤ yearFromDay second := by
  by_contra older
  rw [Nat.not_le] at older
  have begins := (yearFromDay_spec first).1
  have ends := (yearFromDay_spec second).2
  have modern : 1970 ≤ yearFromDay second + 1 :=
    Nat.le_succ_of_le (modern_yearFromDay second)
  have between := dayFromYear_mono modern older
  omega

/-- The day of the year on which a month begins, counted from January as 0. -/
def monthStart (leapYear : Bool) (month : Nat) : Nat :=
  [0, 31, 59, 90, 120, 151, 181, 212, 243, 273, 304, 334].getD month 0 +
    if leapYear && 2 ≤ month then 1 else 0

def monthFromDay (leapYear : Bool) (dayWithinYear : Nat) : Nat :=
  Nat.findGreatest (fun month => monthStart leapYear month ≤ dayWithinYear) 11

theorem monthFromDay_le (leapYear : Bool) (day : Nat) :
    monthFromDay leapYear day ≤ 11 :=
  Nat.findGreatest_le 11

theorem monthStart_monthFromDay (leapYear : Bool) (day : Nat) :
    monthStart leapYear (monthFromDay leapYear day) ≤ day := by
  have first : monthStart leapYear 0 ≤ day := by
    cases leapYear <;> exact Nat.zero_le _
  unfold monthFromDay
  exact Nat.findGreatest_spec
    (P := fun month => monthStart leapYear month ≤ day)
    (Nat.zero_le 11) first

theorem monthFromDay_mono (leapYear : Bool)
    (le : first ≤ second) :
    monthFromDay leapYear first ≤ monthFromDay leapYear second := by
  unfold monthFromDay
  apply Nat.findGreatest_mono _ (le_refl 11)
  intro month begins
  exact begins.trans le

theorem lt_monthStart_add (leapYear : Bool) {day : Nat} (inYear : day < 366) :
    day < monthStart leapYear (monthFromDay leapYear day) + 32 := by
  have month := monthFromDay_le leapYear day
  have long : ∀ leapYear : Bool, ∀ month ≤ 11, month + 1 ≤ 11 →
      monthStart leapYear (month + 1) ≤ monthStart leapYear month + 32 := by
    decide
  by_cases last : monthFromDay leapYear day + 1 ≤ 11
  · have later := Nat.findGreatest_is_greatest
      (P := fun month => monthStart leapYear month ≤ day) (n := 11)
      (k := monthFromDay leapYear day + 1) (Nat.lt_succ_self _) last
    have next := long leapYear _ month last
    omega
  · have december : monthFromDay leapYear day = 11 := by omega
    have start : ∀ leapYear : Bool, 334 ≤ monthStart leapYear 11 := by
      decide
    have begins := start leapYear
    rw [december]
    omega

def msPerDay : Nat := 86400000

def dayWithinYear (day : Nat) : Nat :=
  day - dayFromYear (yearFromDay day)

/-- Year, month and date of a day. -/
def dateFields (day : Nat) : List Nat :=
  let year := yearFromDay day
  let month := monthFromDay (leap year) (dayWithinYear day)
  [year, month + 1,
    dayWithinYear day - monthStart (leap year) month + 1]

/-- Hour, minute, second and millisecond of a time within a day. -/
def timeFields (time : Nat) : List Nat :=
  [time / 3600000, time / 60000 % 60, time / 1000 % 60, time % 1000]

def fields (time : Nat) : List Nat :=
  dateFields (time / msPerDay) ++ timeFields (time % msPerDay)

/-- The formats of the fields after the year. -/
def restFormats : List (Nat × Char) :=
  [(2, '-'), (2, 'T'), (2, ':'), (2, ':'), (2, '.'), (3, 'Z')]

def year (time : Nat) : Nat := yearFromDay (time / msPerDay)

/-- The characters of `toISOString` for a valid time. -/
def isoChars (time : Nat) : List Char :=
  if year time ≤ 9999 then
    render ((4, '-') :: restFormats) (fields time)
  else
    '+' :: render ((6, '-') :: restFormats) (fields time)

/-- The last time that a date can have. -/
def maxTime : Nat := 8640000000000000

/-- `new Date(time).toISOString()`, which throws for an invalid time. -/
def toISOString (time : Nat) : Option String :=
  if time ≤ maxTime then some (String.ofList (isoChars time)) else none

theorem dayWithinYear_lt (day : Nat) : dayWithinYear day < 366 := by
  have within := yearFromDay_spec day
  rw [dayFromYear_succ (modern_yearFromDay day)] at within
  unfold dayWithinYear
  have length : (if leap (yearFromDay day) then 366 else 365) ≤ 366 := by
    split <;> decide
  omega

theorem dateFields_lt (less : first < second)
    (rest otherRest : List Nat) :
    dateFields first ++ rest < dateFields second ++ otherRest := by
  simp only [dateFields, List.cons_append, List.nil_append,
    List.cons_lt_cons_iff]
  have years := yearFromDay_mono (Nat.le_of_lt less)
  rcases Nat.lt_or_eq_of_le years with earlier | sameYear
  · exact .inl earlier
  · refine .inr ⟨sameYear, ?_⟩
    have begins := (yearFromDay_spec first).1
    have days : dayWithinYear first < dayWithinYear second := by
      unfold dayWithinYear
      rw [← sameYear]
      omega
    rw [← sameYear]
    have months := monthFromDay_mono (leap (yearFromDay first))
      (Nat.le_of_lt days)
    rcases Nat.lt_or_eq_of_le months with earlier | sameMonth
    · exact .inl (Nat.succ_lt_succ earlier)
    · refine .inr ⟨congrArg Nat.succ sameMonth, .inl ?_⟩
      have starts := monthStart_monthFromDay (leap (yearFromDay first))
        (dayWithinYear first)
      rw [← sameMonth]
      omega

theorem timeFields_lt (less : first < second) :
    timeFields first < timeFields second := by
  simp only [timeFields, List.cons_lt_cons_iff, List.not_lt_nil, and_false,
    or_false]
  omega

theorem fields_lt (less : first < second) :
    fields first < fields second := by
  unfold fields
  have days : first / msPerDay ≤ second / msPerDay :=
    Nat.div_le_div_right (Nat.le_of_lt less)
  rcases Nat.lt_or_eq_of_le days with earlier | sameDay
  · exact dateFields_lt earlier _ _
  · rw [← sameDay]
    apply List.append_left_lt
    apply timeFields_lt
    unfold msPerDay at *
    omega

theorem fields_fit {width time : Nat} (fits : year time < 10 ^ width) :
    Fits ((width, '-') :: restFormats) (fields time) := by
  have month := monthFromDay_le (leap (yearFromDay (time / msPerDay)))
    (dayWithinYear (time / msPerDay))
  have date := lt_monthStart_add (leap (yearFromDay (time / msPerDay)))
    (dayWithinYear_lt (time / msPerDay))
  have inDay : time % msPerDay < 86400000 :=
    Nat.mod_lt _ (by decide)
  refine ⟨fits, ?_, ?_, ?_, ?_, ?_, ?_, trivial⟩ <;> omega

theorem year_mono (le : first ≤ second) :
    year first ≤ year second :=
  yearFromDay_mono (Nat.div_le_div_right le)

theorem isoChars_lt (less : first < second)
    (fourDigits : year second ≤ 9999) :
    isoChars first < isoChars second := by
  have firstDigits := (year_mono (Nat.le_of_lt less)).trans fourDigits
  unfold isoChars
  rw [if_pos fourDigits, if_pos firstDigits]
  exact render_lt (fields_fit (by omega)) rfl (fields_lt less)

/-- The text of a time from the year 10000 on comes before every text with a
year of four digits. -/
theorem isoChars_plus_lt
    (fourDigits : year first ≤ 9999) (fiveDigits : 9999 < year second) :
    isoChars second < isoChars first := by
  obtain ⟨value, rest, digits⟩ := padded_head 3 (year first)
  unfold isoChars
  rw [if_pos fourDigits, if_neg (Nat.not_le.mpr fiveDigits)]
  change '+' :: _ < padded 4 (year first) ++ _
  rw [digits, List.cons_append]
  exact .rel (plus_lt_digit value)

/-- The first time of the year 10000. -/
def tenThousand : Nat := 253402300800000

theorem year_tenThousand : year tenThousand = 10000 := by
  decide +kernel

theorem year_before_tenThousand : year (tenThousand - 1) = 9999 := by
  decide +kernel

theorem year_le_iff {time : Nat} : year time ≤ 9999 ↔ time < tenThousand := by
  constructor
  · intro fourDigits
    by_contra late
    have grown := year_mono (Nat.not_lt.mp late)
    rw [year_tenThousand] at grown
    omega
  · intro early
    have grown := year_mono (Nat.le_sub_one_of_lt early)
    rwa [year_before_tenThousand] at grown

example : toISOString 1700000000123 = some "2023-11-14T22:13:20.123Z" := by
  decide +kernel

example : toISOString tenThousand = some "+010000-01-01T00:00:00.000Z" := by
  decide +kernel

end GravitPanel.IsoDate
