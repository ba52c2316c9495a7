/-
**Calendar dates, instants in UTC, and their ISO 8601 texts.**

* `PyDate`: a calendar date, with the date of an instant and its ten-character text;
* `isoformat_injective`: two dates with one text are the same date;
* `UtcDatetime`: a valid datetime in UTC, with its instant and the text of `isoformat`;
* `UtcDatetime.isoformat_le_iff`: the order of the texts is the order of the instants, with and without a fraction
  of a second.
-/

import CosMonitor.Base.Database
import Mathlib.Data.List.Lex
import Mathlib.Data.String.Basic

namespace CosMonitor

/-! ### Dates -/

section Dates

/-- A calendar date. -/
@[ext] structure PyDate where
  year : Fin 10000
  month : Fin 13
  day : Fin 32
  deriving DecidableEq, Repr

/-- Dates are compared year first, then month, then day. -/
def PyDate.order (date : PyDate) : Nat :=
  (date.year.val * 13 + date.month.val) * 32 + date.day.val

/-- The last digits of a number, most significant first. -/
def decimalDigits : (width value : Nat) → List Char
  | 0, _ => []
  | width + 1, value => decimalDigits width (value / 10) ++ [Char.ofNat (48 + value % 10)]

/-- The characters of `date.isoformat()`. -/
def PyDate.isoChars (date : PyDate) : List Char :=
  decimalDigits 4 date.year ++ '-' :: (decimalDigits 2 date.month ++ '-' :: decimalDigits 2 date.day)

/-- `date.isoformat()`. -/
def PyDate.isoformat (date : PyDate) : String :=
  String.ofList date.isoChars

/-- The date of a number of days since the epoch, in the proleptic Gregorian calendar. Years begin in
March here, so that a leap day ends its year. -/
def dateOfDays (days : Int) : PyDate :=
  let shifted := days + 719468
  let era := shifted / 146097
  let dayOfEra := shifted % 146097
  let yearOfEra := (dayOfEra - dayOfEra / 1460 + dayOfEra / 36524 - dayOfEra / 146096) / 365
  let dayOfYear := dayOfEra - (365 * yearOfEra + yearOfEra / 4 - yearOfEra / 100)
  let monthIndex := (5 * dayOfYear + 2) / 153
  let day := dayOfYear - (153 * monthIndex + 2) / 5 + 1
  let month := if monthIndex < 10 then monthIndex + 3 else monthIndex - 9
  let year := yearOfEra + era * 400 + (if month ≤ 2 then 1 else 0)
  { year := Fin.ofNat 10000 year.toNat
    month := Fin.ofNat 13 month.toNat
    day := Fin.ofNat 32 day.toNat }

/-- `instant.date()` of an instant in UTC. -/
def dateOf (instant : Timestamp) : PyDate :=
  dateOfDays (instant / (86400 * second))

example : dateOf 1767225600000000 = { year := 2026, month := 1, day := 1 } := by decide
example : (dateOf 1709164800000000).isoformat = "2024-02-29" := by decide +kernel

@[simp] theorem length_decimalDigits (width value : Nat) :
    (decimalDigits width value).length = width := by
  induction width generalizing value with
  | zero => rfl
  | succ width ih => simp [decimalDigits, ih]

theorem decimalDigit_injective : ∀ first < 10, ∀ second < 10,
    Char.ofNat (48 + first) = Char.ofNat (48 + second) → first = second := by
  decide

theorem decimalDigits_injective {width first second : Nat} (firstSmall : first < 10 ^ width)
    (secondSmall : second < 10 ^ width)
    (same : decimalDigits width first = decimalDigits width second) : first = second := by
  induction width generalizing first second with
  | zero =>
      rw [Nat.pow_zero] at firstSmall secondSmall
      omega
  | succ width ih =>
      rw [Nat.pow_succ] at firstSmall secondSmall
      obtain ⟨upper, last⟩ := List.append_inj' same rfl
      have quotient := ih (by omega) (by omega) upper
      have digit := decimalDigit_injective _ (Nat.mod_lt first (by decide)) _
        (Nat.mod_lt second (by decide)) (List.singleton_inj.mp last)
      omega

@[simp] theorem PyDate.length_isoChars (date : PyDate) : date.isoChars.length = 10 := by
  simp [isoChars]

/-- **Two dates with one text are the same date.** -/
theorem PyDate.isoformat_injective : Function.Injective PyDate.isoformat := by
  intro first second same
  have chars : first.isoChars = second.isoChars := String.ofList_injective same
  obtain ⟨years, rest⟩ := List.append_inj chars (by simp)
  obtain ⟨months, days⟩ := List.append_inj (List.cons.inj rest).2 (by simp)
  ext
  · exact decimalDigits_injective (by omega) (by omega) years
  · exact decimalDigits_injective (by omega) (by omega) months
  · exact decimalDigits_injective (by omega) (by omega) (List.cons.inj days).2

end Dates

/-! ### Datetimes in UTC -/

section Calendar

/-- The leap years of the proleptic Gregorian calendar. -/
def isLeap (year : Nat) : Bool :=
  year % 4 == 0 && (year % 100 != 0 || year % 400 == 0)

/-- `_days_in_month`. -/
def daysInMonth (year month : Nat) : Nat :=
  if month = 2 then if isLeap year then 29 else 28
  else if month ∈ [4, 6, 9, 11] then 30 else 31

/-- `_days_before_month`: the days of the months before one; the months begin with 1. -/
def daysBeforeMonth (year : Nat) : Nat → Nat
  | 0 | 1 => 0
  | month + 2 => daysBeforeMonth year (month + 1) + daysInMonth year (month + 1)

/-- `_days_before_year`. -/
def daysBeforeYear (year : Nat) : Nat :=
  (year - 1) * 365 + (year - 1) / 4 - (year - 1) / 100 + (year - 1) / 400

theorem daysBeforeMonth_mono {year month later : Nat} (positive : 1 ≤ month) (less : month < later) :
    daysBeforeMonth year month + daysInMonth year month ≤ daysBeforeMonth year later := by
  induction less with
  | refl =>
      obtain ⟨before, rfl⟩ := Nat.exists_eq_add_of_le' positive
      rfl
  | @step later passed ih =>
      obtain ⟨before, rfl⟩ := Nat.exists_eq_add_of_le' (positive.trans (Nat.le_of_lt passed))
      exact ih.trans (Nat.le_add_right _ _)

theorem daysBeforeMonth_thirteen (year : Nat) :
    daysBeforeMonth year 13 = if isLeap year then 366 else 365 := by
  rcases leap : isLeap year with _ | _
  · simp [daysBeforeMonth, daysInMonth, leap]
  · simp [daysBeforeMonth, daysInMonth, leap]

theorem daysBeforeYear_succ {year : Nat} (positive : 1 ≤ year) :
    daysBeforeYear (year + 1) = daysBeforeYear year + daysBeforeMonth year 13 := by
  obtain ⟨passed, rfl⟩ := Nat.exists_eq_add_of_le' positive
  have centuries : passed / 100 ≤ passed * 365 := by omega
  -- The quotients step where the year is a multiple.
  have step : ∀ divisor, (passed + 1) / divisor =
      passed / divisor + if divisor ∣ passed + 1 then 1 else 0 := fun _ => Nat.succ_div
  rw [daysBeforeMonth_thirteen]
  unfold daysBeforeYear
  rw [Nat.add_sub_cancel, Nat.add_sub_cancel, step 4, step 100, step 400]
  simp only [Nat.dvd_iff_mod_eq_zero]
  by_cases byFour : (passed + 1) % 4 = 0
  · by_cases byHundred : (passed + 1) % 100 = 0
    · by_cases byFourHundred : (passed + 1) % 400 = 0
      · have leap : isLeap (passed + 1) = true := by simp [isLeap, byFour, byFourHundred]
        rw [if_pos byFour, if_pos byHundred, if_pos byFourHundred, if_pos leap]
        omega
      · have common : ¬isLeap (passed + 1) = true := by simp [isLeap, byHundred, byFourHundred]
        rw [if_pos byFour, if_pos byHundred, if_neg byFourHundred, if_neg common]
        omega
    · have notFourHundred : ¬(passed + 1) % 400 = 0 := by omega
      have leap : isLeap (passed + 1) = true := by simp [isLeap, byFour, byHundred]
      rw [if_pos byFour, if_neg byHundred, if_neg notFourHundred, if_pos leap]
      omega
  · have notHundred : ¬(passed + 1) % 100 = 0 := by omega
    have notFourHundred : ¬(passed + 1) % 400 = 0 := by omega
    have common : ¬isLeap (passed + 1) = true := by simp [isLeap, byFour]
    rw [if_neg byFour, if_neg notHundred, if_neg notFourHundred, if_neg common]
    omega

theorem daysBeforeYear_mono {year later : Nat} (positive : 1 ≤ year) (less : year < later) :
    daysBeforeYear year + daysBeforeMonth year 13 ≤ daysBeforeYear later := by
  rw [← daysBeforeYear_succ positive]
  induction less with
  | refl => exact Nat.le_refl _
  | @step later passed ih =>
      rw [daysBeforeYear_succ (positive.trans (Nat.le_of_lt passed))]
      exact ih.trans (Nat.le_add_right _ _)

/-- `datetime(…, tzinfo=UTC)`. -/
@[ext] structure UtcDatetime where
  year : Nat
  month : Nat
  day : Nat
  hour : Nat
  minute : Nat
  second : Nat
  microsecond : Nat
  validYear : 1 ≤ year ∧ year ≤ 9999
  validMonth : 1 ≤ month ∧ month ≤ 12
  validDay : 1 ≤ day ∧ day ≤ daysInMonth year month
  validHour : hour < 24
  validMinute : minute < 60
  validSecond : second < 60
  validMicrosecond : microsecond < 1000000

namespace UtcDatetime

/-- `date.toordinal()`: the days since the day before 0001-01-01. -/
def ordinal (time : UtcDatetime) : Nat :=
  daysBeforeYear time.year + daysBeforeMonth time.year time.month + time.day

/-- The microseconds since day zero. -/
def elapsed (time : UtcDatetime) : Nat :=
  (time.ordinal * 86400 + (time.hour * 3600 + time.minute * 60 + time.second)) * 1000000 +
    time.microsecond

/-- The microseconds since the epoch, which is day 719163. -/
def instant (time : UtcDatetime) : Timestamp :=
  Int.ofNat time.elapsed - 719163 * 86400 * 1000000

/-- The fields, by which datetimes are compared. -/
def fields (time : UtcDatetime) : List Nat :=
  [time.year, time.month, time.day, time.hour, time.minute, time.second, time.microsecond]

/-- The fraction of a second, which `isoformat` leaves out when it is zero. -/
def fractionChars (microsecond : Nat) : List Char :=
  if microsecond = 0 then [] else '.' :: decimalDigits 6 microsecond

/-- The offset of UTC. -/
def offsetChars : List Char :=
  ['+', '0', '0', ':', '0', '0']

/-- The characters of `time.isoformat()`. -/
def isoChars (time : UtcDatetime) : List Char :=
  decimalDigits 4 time.year ++ '-' :: (decimalDigits 2 time.month ++ '-' :: (decimalDigits 2 time.day ++
    'T' :: (decimalDigits 2 time.hour ++ ':' :: (decimalDigits 2 time.minute ++
      ':' :: (decimalDigits 2 time.second ++ (fractionChars time.microsecond ++ offsetChars))))))

/-- `time.isoformat()`. -/
def isoformat (time : UtcDatetime) : String :=
  String.ofList time.isoChars

/-- Half a millisecond after noon on a leap day. -/
example : isoformat ⟨2024, 2, 29, 12, 0, 0, 500, by decide, by decide, by decide, by decide, by decide,
    by decide, by decide⟩ = "2024-02-29T12:00:00.000500+00:00" := by decide +kernel

end UtcDatetime

/-! ### Texts in order -/

theorem append_lt_append_iff {Item : Type} [LinearOrder Item] {first second rest other : List Item}
    (same : first.length = second.length) :
    first ++ rest < second ++ other ↔ first < second ∨ first = second ∧ rest < other := by
  induction first generalizing second with
  | nil =>
      obtain rfl := List.length_eq_zero_iff.mp same.symm
      simp
  | cons head tail ih =>
      cases second with
      | nil => cases same
      | cons headToo tailToo =>
          have rest := ih (Nat.succ.inj same)
          simp only [List.cons_append, List.cons_lt_cons_iff, rest, List.cons.injEq]
          tauto

theorem decimalDigits_lt {width first second : Nat} (less : first < second)
    (small : second < 10 ^ width) : decimalDigits width first < decimalDigits width second := by
  induction width generalizing first second with
  | zero =>
      rw [Nat.pow_zero] at small
      omega
  | succ width ih =>
      rw [Nat.pow_succ] at small
      rw [decimalDigits, decimalDigits, append_lt_append_iff (by simp)]
      rcases Nat.lt_or_ge (first / 10) (second / 10) with above | below
      · exact .inl (ih above (by omega))
      · have quotient : first / 10 = second / 10 := by omega
        have digit : ∀ low < 10, ∀ high < 10, low < high →
            Char.ofNat (48 + low) < Char.ofNat (48 + high) := by
          decide
        refine .inr ⟨by rw [quotient], List.cons_lt_cons_iff.mpr (.inl ?_)⟩
        exact digit _ (Nat.mod_lt _ (by decide)) _ (Nat.mod_lt _ (by decide)) (by omega)

theorem decimalDigits_append_lt {width first second : Nat} {separator : Char} {rest other : List Char}
    (small : second < 10 ^ width) (less : first < second ∨ first = second ∧ rest < other) :
    decimalDigits width first ++ separator :: rest <
      decimalDigits width second ++ separator :: other := by
  rw [append_lt_append_iff (by simp)]
  rcases less with less | ⟨rfl, later⟩
  · exact .inl (decimalDigits_lt less small)
  · exact .inr ⟨rfl, List.cons_lt_cons_iff.mpr (.inr ⟨rfl, later⟩)⟩

namespace UtcDatetime

variable {first second : UtcDatetime}

theorem fields_lt_iff : first.fields < second.fields ↔
    first.year < second.year ∨ first.year = second.year ∧
      (first.month < second.month ∨ first.month = second.month ∧
        (first.day < second.day ∨ first.day = second.day ∧
          (first.hour < second.hour ∨ first.hour = second.hour ∧
            (first.minute < second.minute ∨ first.minute = second.minute ∧
              (first.second < second.second ∨ first.second = second.second ∧
                first.microsecond < second.microsecond))))) := by
  simp [fields, List.cons_lt_cons_iff]

theorem fields_injective : Function.Injective fields := by
  intro first second same
  simp only [fields, List.cons.injEq, and_true] at same
  ext
  · exact same.1
  · exact same.2.1
  · exact same.2.2.1
  · exact same.2.2.2.1
  · exact same.2.2.2.2.1
  · exact same.2.2.2.2.2.1
  · exact same.2.2.2.2.2.2

theorem fractionChars_lt {fraction later : Nat} (less : fraction < later) (small : later < 1000000) :
    fractionChars fraction ++ offsetChars < fractionChars later ++ offsetChars := by
  have some : later ≠ 0 := by omega
  unfold fractionChars
  rw [if_neg some]
  by_cases none : fraction = 0
  · rw [if_pos none]
    exact List.cons_lt_cons_iff.mpr (.inl (by decide))
  · rw [if_neg none]
    refine List.cons_lt_cons_iff.mpr (.inr ⟨rfl, ?_⟩)
    show decimalDigits 6 fraction ++ offsetChars < decimalDigits 6 later ++ offsetChars
    exact (append_lt_append_iff (by simp)).mpr (.inl (decimalDigits_lt less small))

/-- **The texts are in the order of the fields.** -/
theorem isoChars_lt (less : first.fields < second.fields) : first.isoChars < second.isoChars := by
  have fourDigits : second.year < 10 ^ 4 := Nat.lt_of_le_of_lt second.validYear.2 (by decide)
  have monthDigits : second.month < 10 ^ 2 := Nat.lt_of_le_of_lt second.validMonth.2 (by decide)
  have dayDigits : second.day < 10 ^ 2 := by
    have days : daysInMonth second.year second.month ≤ 31 := by
      unfold daysInMonth
      split
      · split <;> decide
      · split <;> decide
    exact Nat.lt_of_le_of_lt (second.validDay.2.trans days) (by decide)
  have hourDigits : second.hour < 10 ^ 2 := second.validHour.trans (by decide)
  have minuteDigits : second.minute < 10 ^ 2 := second.validMinute.trans (by decide)
  have secondDigits : second.second < 10 ^ 2 := second.validSecond.trans (by decide)
  refine decimalDigits_append_lt fourDigits ((fields_lt_iff.mp less).imp_right (And.imp_right ?_))
  refine fun months => decimalDigits_append_lt monthDigits (months.imp_right (And.imp_right ?_))
  refine fun days => decimalDigits_append_lt dayDigits (days.imp_right (And.imp_right ?_))
  refine fun hours => decimalDigits_append_lt hourDigits (hours.imp_right (And.imp_right ?_))
  refine fun minutes => decimalDigits_append_lt minuteDigits (minutes.imp_right (And.imp_right ?_))
  rintro (seconds | ⟨same, fractions⟩)
  · exact (append_lt_append_iff (by simp)).mpr (.inl (decimalDigits_lt seconds secondDigits))
  · rw [same, append_lt_append_iff rfl]
    exact .inr ⟨rfl, fractionChars_lt fractions second.validMicrosecond⟩

theorem ordinal_lt (less : first.year < second.year ∨ first.year = second.year ∧
    (first.month < second.month ∨ first.month = second.month ∧ first.day < second.day)) :
    first.ordinal < second.ordinal := by
  obtain ⟨firstMonth, lastMonth⟩ := first.validMonth
  have firstDay := first.validDay.2
  have secondDay := second.validDay.1
  unfold ordinal
  rcases less with years | ⟨same, months | ⟨sameMonth, days⟩⟩
  · have inYear : daysBeforeMonth first.year first.month + daysInMonth first.year first.month ≤
        daysBeforeMonth first.year 13 := daysBeforeMonth_mono firstMonth (Nat.lt_succ_of_le lastMonth)
    have year := daysBeforeYear_mono first.validYear.1 years
    omega
  · have month : daysBeforeMonth first.year first.month + daysInMonth first.year first.month ≤
        daysBeforeMonth first.year second.month := daysBeforeMonth_mono firstMonth months
    rw [← same]
    omega
  · rw [same, sameMonth]
    omega

/-- **The instants are in the order of the fields.** -/
theorem elapsed_lt (less : first.fields < second.fields) : first.elapsed < second.elapsed := by
  have hour := first.validHour
  have minute := first.validMinute
  have secondOf := first.validSecond
  have fraction := first.validMicrosecond
  have days : first.ordinal < second.ordinal ∨ first.ordinal = second.ordinal ∧
      (first.hour < second.hour ∨ first.hour = second.hour ∧
        (first.minute < second.minute ∨ first.minute = second.minute ∧
          (first.second < second.second ∨ first.second = second.second ∧
            first.microsecond < second.microsecond))) := by
    rcases fields_lt_iff.mp less with years | ⟨same, months | ⟨sameMonth, days | ⟨sameDay, later⟩⟩⟩
    · exact .inl (ordinal_lt (.inl years))
    · exact .inl (ordinal_lt (.inr ⟨same, .inl months⟩))
    · exact .inl (ordinal_lt (.inr ⟨same, .inr ⟨sameMonth, days⟩⟩))
    · refine .inr ⟨?_, later⟩
      unfold ordinal
      rw [same, sameMonth, sameDay]
  unfold elapsed
  omega

theorem instant_le_iff : first.instant ≤ second.instant ↔ first.elapsed ≤ second.elapsed :=
  Int.sub_le_sub_right_iff.trans Int.ofNat_le

/-- **The order of the texts is the order of the instants.** -/
theorem isoformat_le_iff : first.isoformat ≤ second.isoformat ↔ first.instant ≤ second.instant := by
  rw [instant_le_iff, String.le_iff_toList_le]
  simp only [isoformat, String.toList_ofList]
  rcases lt_trichotomy first.fields second.fields with less | same | greater
  · exact iff_of_true (isoChars_lt less).le (elapsed_lt less).le
  · rw [fields_injective same]
    exact iff_of_true le_rfl le_rfl
  · exact iff_of_false (isoChars_lt greater).not_ge (elapsed_lt greater).not_ge

end UtcDatetime

end Calendar

end CosMonitor
