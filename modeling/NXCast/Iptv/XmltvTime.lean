import NXCast.Framework.Decimal
import NXCast.Iptv.IdFile
import Mathlib.Tactic.IntervalCases

/-!
# The times of a programme guide

`xmltv_parse_time` reads the `start` and `stop` of a programme, a civil date and time of day with an offset
from UTC, and `xmltv_days_from_civil` counts the days by eras of 400 years that begin in March.  The calendar
counts them year by year and month by month.
-/

namespace NXCast

/-! ## The code -/

/-- A `%d` of `sscanf` with a width: the number, and the text behind it. -/
def scanDecimal (width : ℕ) (text : List UInt8) : Option (ℤ × List UInt8) :=
  let text := text.dropWhile isSpace
  let signs := if text.head? = some 0x2D ∨ text.head? = some 0x2B then 1 else 0
  let digits := ((text.drop signs).take (width - signs)).takeWhile fun byte => Decimal.IsDigit byte
  if digits = [] then none
  else
    some (if text.head? = some 0x2D then -(Decimal.value digits : ℤ) else Decimal.value digits,
      text.drop (signs + digits.length))

/-- The numbers that `sscanf` assigns for a row of widths, up to the first that does not match. -/
def scanDecimals : List ℕ → List UInt8 → List ℤ
  | [], _ => []
  | width :: widths, text =>
    match scanDecimal width text with
    | some (value, rest) => value :: scanDecimals widths rest
    | none => []

/-- `doy` of `xmltv_days_from_civil` -/
def xmltvDoy (month day : UInt32) : UInt32 :=
  (153 * (month + if 2 < month then -3 else 9) + 2) / 5 + day - 1

/-- `doe` of `xmltv_days_from_civil` -/
def xmltvDoe (yoe doy : UInt32) : UInt32 := yoe * 365 + yoe / 4 - yoe / 100 + doy

/-- `xmltv_days_from_civil` -/
def xmltvDaysFromCivil (year : ℤ) (month day : UInt32) : ℤ :=
  let year := year - if month ≤ 2 then 1 else 0
  let era := (if 0 ≤ year then year else year - 399).tdiv 400
  let yoe := UInt32.ofInt (year - era * 400)
  era * 146097 + (xmltvDoe yoe (xmltvDoy month day)).toNat - 719468

/-- The seconds by which the zone behind a time is ahead of UTC. -/
def xmltvOffset (zone : List UInt8) : ℤ :=
  match zone.dropWhile (· = 0x20) with
  | [] => 0
  | sign :: zone =>
    if sign = 0x2B ∨ sign = 0x2D then
      let fields := if 4 ≤ zone.length then scanDecimals [2, 2] zone else []
      (if sign = 0x2D then -1 else 1) * (fields.getD 0 0 * 3600 + fields.getD 1 0 * 60)
    else 0

/-- `xmltv_parse_time` of the text in front of the terminator; zero is a text that is no time. -/
def xmltvParseTime (text : List UInt8) : ℤ :=
  if text.length < 14 then 0
  else
    match scanDecimals [4, 2, 2, 2, 2, 2] text with
    | [year, month, day, hour, minute, second] =>
      xmltvDaysFromCivil year (UInt32.ofInt month) (UInt32.ofInt day) * 86400 +
        (hour * 3600 + minute * 60 + second) - xmltvOffset (text.drop 14)
    | _ => 0

/-! ## The calendar -/

/-- A leap year of the proleptic Gregorian calendar. -/
def IsLeapYear (year : ℕ) : Prop := 4 ∣ year ∧ (¬100 ∣ year ∨ 400 ∣ year)

instance (year : ℕ) : Decidable (IsLeapYear year) :=
  inferInstanceAs (Decidable (4 ∣ year ∧ (¬100 ∣ year ∨ 400 ∣ year)))

/-- The days of a month, the months from one. -/
def monthDays (year month : ℕ) : ℕ :=
  if month = 2 then if IsLeapYear year then 29 else 28
  else if month = 4 ∨ month = 6 ∨ month = 9 ∨ month = 11 then 30 else 31

/-- The days of the first `months` months of a year. -/
def daysOfMonths (year : ℕ) : ℕ → ℕ
  | 0 => 0
  | month + 1 => daysOfMonths year month + monthDays year (month + 1)

/-- The days of the years from year 0 up to one. -/
def daysOfYears : ℕ → ℕ
  | 0 => 0
  | year + 1 => daysOfYears year + daysOfMonths year 12

/-- A date of the calendar. -/
structure CivilDate where
  year : ℕ
  month : ℕ
  day : ℕ
  month_mem : 1 ≤ month ∧ month ≤ 12
  day_mem : 1 ≤ day ∧ day ≤ monthDays year month

/-- A time of day, a leap second included. -/
structure TimeOfDay where
  hour : Fin 24
  minute : Fin 60
  second : Fin 61

/-- An offset from UTC of four digits. -/
structure UtcOffset where
  west : Bool
  hours : Fin 100
  minutes : Fin 100

/-- A number of `width` digits with leading zeros. -/
def paddedDigits : ℕ → ℕ → List UInt8
  | 0, _ => []
  | width + 1, number => paddedDigits width (number / 10) ++ [UInt8.ofNat (0x30 + number % 10)]

variable (year : ℕ)

lemma one_le_monthDays (month : ℕ) : 1 ≤ monthDays year month := by
  unfold monthDays
  split_ifs <;> omega

namespace CivilDate

/-- The first day of 1970. -/
def epoch : CivilDate := ⟨1970, 1, 1, by decide, by decide⟩

/-- The day after a date. -/
def next (date : CivilDate) : CivilDate :=
  if hday : date.day < monthDays date.year date.month then
    { date with day := date.day + 1, day_mem := ⟨by omega, hday⟩ }
  else if hmonth : date.month < 12 then
    ⟨date.year, date.month + 1, 1, ⟨by omega, hmonth⟩, ⟨le_rfl, one_le_monthDays _ _⟩⟩
  else ⟨date.year + 1, 1, 1, by decide, ⟨le_rfl, one_le_monthDays _ _⟩⟩

/-- The days before a date from the first of year 0 on. -/
def daysBefore (date : CivilDate) : ℕ :=
  daysOfYears date.year + daysOfMonths date.year (date.month - 1) + (date.day - 1)

/-- The days from the epoch to a date. -/
def sinceEpoch (date : CivilDate) : ℤ := (date.daysBefore : ℤ) - epoch.daysBefore

/-- `xmltv_days_from_civil` of a date. -/
def codeDays (date : CivilDate) : ℤ :=
  xmltvDaysFromCivil date.year (UInt32.ofNat date.month) (UInt32.ofNat date.day)

def text (date : CivilDate) : List UInt8 :=
  paddedDigits 4 date.year ++ paddedDigits 2 date.month ++ paddedDigits 2 date.day

end CivilDate

namespace TimeOfDay

def seconds (time : TimeOfDay) : ℤ := time.hour * 3600 + time.minute * 60 + time.second

def text (time : TimeOfDay) : List UInt8 :=
  paddedDigits 2 time.hour ++ paddedDigits 2 time.minute ++ paddedDigits 2 time.second

end TimeOfDay

namespace UtcOffset

/-- The seconds that the local time is ahead of UTC. -/
def seconds (offset : UtcOffset) : ℤ :=
  (if offset.west then -1 else 1) * (offset.hours * 3600 + offset.minutes * 60)

def text (offset : UtcOffset) : List UInt8 :=
  (if offset.west then 0x2D else 0x2B) :: (paddedDigits 2 offset.hours ++ paddedDigits 2 offset.minutes)

end UtcOffset

/-! ## The day number -/

lemma daysOfMonths_march {month : ℕ} (hmonth : 1 ≤ month ∧ month ≤ 12) :
    daysOfMonths year (month - 1) + 306 =
      if month ≤ 2 then (153 * (month + 9) + 2) / 5
      else (153 * (month - 3) + 2) / 5 + 365 + if IsLeapYear year then 1 else 0 := by
  obtain ⟨hone, htwelve⟩ := hmonth
  by_cases hleap : IsLeapYear year <;> interval_cases month <;> simp [daysOfMonths, monthDays, hleap]

lemma daysOfMonths_twelve :
    daysOfMonths year 12 = 365 + if IsLeapYear year then 1 else 0 := by
  by_cases hleap : IsLeapYear year <;> simp [daysOfMonths, monthDays, hleap]

/-- The leap years up to a year are counted by the multiples of 4, 100 and 400. -/
lemma daysOfYears_eq :
    daysOfYears year + (year + 99) / 100 = 365 * year + (year + 3) / 4 + (year + 399) / 400 := by
  induction year with
  | zero => rfl
  | succ year ih =>
    rw [daysOfYears, daysOfMonths_twelve]
    by_cases hleap : IsLeapYear year
    · rw [if_pos hleap]
      unfold IsLeapYear at hleap
      omega
    · rw [if_neg hleap]
      unfold IsLeapYear at hleap
      omega

namespace CivilDate

variable (date : CivilDate)

lemma daysBefore_next : date.next.daysBefore = date.daysBefore + 1 := by
  have hmonth := date.month_mem
  have hday := date.day_mem
  unfold next
  split_ifs with hlast htwelve
  · simp only [daysBefore]
    omega
  · obtain ⟨month, hsucc⟩ : ∃ month, date.month = month + 1 := ⟨date.month - 1, by omega⟩
    simp only [daysBefore, hsucc, Nat.add_sub_cancel, daysOfMonths] at *
    omega
  have hdecember : date.month = 12 := by omega
  have hyear : daysOfMonths date.year 12 = daysOfMonths date.year 11 + monthDays date.year 12 := rfl
  have hjanuary : daysOfMonths (date.year + 1) 0 = 0 := rfl
  simp only [daysBefore, hdecember, daysOfYears, Nat.reduceSub] at *
  omega

lemma epoch_daysBefore : epoch.daysBefore = 719528 := by
  have hyears := daysOfYears_eq 1970
  have hmonths : daysOfMonths 1970 0 = 0 := rfl
  simp only [epoch, daysBefore, Nat.sub_self]
  omega

lemma day_le : date.day ≤ 31 := by
  refine date.day_mem.2.trans ?_
  unfold monthDays
  split_ifs <;> omega

/-- No unsigned operation of `doy` goes wrong: it is the day of the year that begins in March. -/
lemma toNat_xmltvDoy :
    (xmltvDoy (UInt32.ofNat date.month) (UInt32.ofNat date.day)).toNat =
      (153 * (if 2 < date.month then date.month - 3 else date.month + 9) + 2) / 5 + date.day - 1 := by
  have hday := date.day_mem.1
  have hle := date.day_le
  obtain ⟨year, month, day, ⟨hone, htwelve⟩, _⟩ := date
  dsimp only at *
  interval_cases month <;> simp [xmltvDoy, UInt32.toNat_sub, UInt32.size] <;> omega

end CivilDate

lemma toNat_xmltvDoe (yoe : ℕ) {doy : UInt32} (hyoe : yoe < 400) (hdoy : doy.toNat < 400) :
    (xmltvDoe (UInt32.ofNat yoe) doy).toNat = yoe * 365 + yoe / 4 - yoe / 100 + doy.toNat := by
  have hsize : yoe % 4294967296 = yoe := Nat.mod_eq_of_lt (by omega)
  simp only [xmltvDoe, UInt32.toNat_add, UInt32.toNat_sub, UInt32.toNat_mul, UInt32.toNat_div,
    UInt32.toNat_ofNat', UInt32.reduceToNat, Nat.reducePow, hsize]
  omega

/-- The eras of a year that is not negative are counted as by the calendar. -/
lemma xmltvDaysFromCivil_nat {year : ℤ} {month day : UInt32} (shifted : ℕ)
    (hyear : year - (if month ≤ 2 then 1 else 0) = shifted) (hdoy : (xmltvDoy month day).toNat < 400) :
    xmltvDaysFromCivil year month day =
      365 * shifted + shifted / 4 - shifted / 100 + shifted / 400 +
        (xmltvDoy month day).toNat - 719468 := by
  have hera : (shifted : ℤ).tdiv 400 = (shifted / 400 : ℕ) := by
    rw [Int.tdiv_eq_ediv_of_nonneg (Int.natCast_nonneg _)]
    rfl
  have hyoe : UInt32.ofInt (shifted - (shifted / 400 : ℕ) * 400) = UInt32.ofNat (shifted % 400) := by
    unfold UInt32.ofInt
    congr 1
    omega
  unfold xmltvDaysFromCivil
  simp only [hyear, Int.natCast_nonneg, if_true, hera, hyoe]
  rw [toNat_xmltvDoe _ (Nat.mod_lt _ (by decide)) hdoy]
  omega

namespace CivilDate

/-- **The day number.** -/
lemma codeDays_eq (date : CivilDate) : date.codeDays = date.sinceEpoch := by
  have hmonth := date.month_mem
  have hday := date.day_mem.1
  have hle := date.day_le
  have hdoy := toNat_xmltvDoy date
  have hmarch := daysOfMonths_march date.year hmonth
  have hyears := daysOfYears_eq date.year
  have hfirst : UInt32.ofNat date.month ≤ 2 ↔ date.month ≤ 2 := by
    rw [UInt32.le_iff_toNat_le]
    simp
    omega
  have hbound : (xmltvDoy (UInt32.ofNat date.month) (UInt32.ofNat date.day)).toNat < 400 := by
    rw [hdoy]
    split_ifs <;> omega
  unfold codeDays sinceEpoch
  rw [epoch_daysBefore, daysBefore]
  by_cases hearly : date.month ≤ 2
  · rw [if_pos hearly] at hmarch
    rw [if_neg (by omega)] at hdoy
    rcases Nat.eq_zero_or_pos date.year with hzero | hpos
    · -- the January and February of year 0 belong to the era before
      have hyoe : UInt32.ofInt 399 = 399 := rfl
      have hera : (-400 : ℤ).tdiv 400 = -1 := rfl
      have hnone : daysOfYears 0 = 0 := rfl
      have hdoe : (xmltvDoe 399 _).toNat = _ := toNat_xmltvDoe 399 (by decide) hbound
      rw [hzero] at hmarch ⊢
      simp [xmltvDaysFromCivil, hfirst, hearly, hyoe, hera, hdoe]
      omega
    · rw [xmltvDaysFromCivil_nat (date.year - 1) (by simp [hfirst, hearly]; omega) hbound]
      omega
  · rw [if_neg hearly] at hmarch
    rw [if_pos (by omega)] at hdoy
    rw [xmltvDaysFromCivil_nat date.year (by simp [hfirst, hearly]) hbound]
    by_cases hleap : IsLeapYear date.year
    · rw [if_pos hleap] at hmarch
      unfold IsLeapYear at hleap
      omega
    · rw [if_neg hleap] at hmarch
      unfold IsLeapYear at hleap
      omega

end CivilDate

/-! ## The text -/

lemma length_paddedDigits (width number : ℕ) : (paddedDigits width number).length = width := by
  induction width generalizing number with
  | zero => rfl
  | succ width ih => rw [paddedDigits, List.length_append, ih, List.length_singleton]

variable {number width : ℕ}

lemma isDigit_of_mem_paddedDigits {byte : UInt8}
    (h : byte ∈ paddedDigits width number) : Decimal.IsDigit byte := by
  induction width generalizing number with
  | zero => cases h
  | succ width ih =>
    rw [paddedDigits, List.mem_append, List.mem_singleton] at h
    rcases h with h | rfl
    · exact ih h
    · exact Decimal.isDigit_digit (Nat.mod_lt _ (by decide))

lemma value_paddedDigits (h : number < 10 ^ width) :
    Decimal.value (paddedDigits width number) = number := by
  induction width generalizing number with
  | zero =>
    have hzero : number = 0 := by simpa using h
    rw [hzero]
    rfl
  | succ width ih =>
    have hlast : Decimal.value [UInt8.ofNat (0x30 + number % 10)] = number % 10 := by
      have htoNat := Decimal.toNat_digit (Nat.mod_lt number (by decide : 0 < 10))
      simp only [Decimal.value, Decimal.valueFrom, List.foldl_cons, List.foldl_nil, htoNat]
      omega
    rw [paddedDigits, Decimal.value_append, ih (by omega), hlast, List.length_singleton]
    omega

lemma mark_of_isDigit {byte : UInt8} (h : Decimal.IsDigit byte) :
    isSpace byte = false ∧ byte ≠ 0x2D ∧ byte ≠ 0x2B ∧ byte ≠ 0x20 := by
  obtain ⟨hlower, hupper⟩ := h
  refine ⟨?_, ?_, ?_, ?_⟩
  · simp only [isSpace, decide_eq_false_iff_not, UInt8.le_iff_toNat_le, ← UInt8.toNat_inj]
    simp
    omega
  all_goals
    rintro rfl
    revert hlower
    decide

/-- A field of digits reads back, whatever stands behind it. -/
lemma scanDecimal_paddedDigits (rest : List UInt8) (hwidth : 0 < width)
    (hnumber : number < 10 ^ width) :
    scanDecimal width (paddedDigits width number ++ rest) = some ((number : ℤ), rest) := by
  have hlength := length_paddedDigits width number
  have hdigits : ∀ byte ∈ paddedDigits width number, Decimal.IsDigit byte :=
    fun _ => isDigit_of_mem_paddedDigits
  have hvalue := value_paddedDigits hnumber
  generalize paddedDigits width number = digits at *
  cases digits with
  | nil => exact absurd hlength (by simpa using hwidth.ne)
  | cons first digits =>
    obtain ⟨hspace, hminus, hplus, -⟩ := mark_of_isDigit (hdigits first List.mem_cons_self)
    have htake : ((first :: digits ++ rest).take width).takeWhile (Decimal.IsDigit) =
        first :: digits := by
      rw [← hlength, List.take_left, List.takeWhile_eq_self_iff]
      simpa using hdigits
    simp only [scanDecimal, List.cons_append, List.dropWhile_cons, hspace, List.head?_cons,
      Option.some.injEq, hminus, hplus, or_self, if_false, List.drop_zero, Nat.sub_zero, Nat.zero_add,
      Bool.false_eq_true]
    rw [← List.cons_append, htake, if_neg (List.cons_ne_nil _ _), hvalue, List.drop_left]

lemma scanDecimals_paddedDigits (widths : List ℕ) (rest : List UInt8)
    (hwidth : 0 < width) (hnumber : number < 10 ^ width) :
    scanDecimals (width :: widths) (paddedDigits width number ++ rest) =
      (number : ℤ) :: scanDecimals widths rest := by
  rw [scanDecimals, scanDecimal_paddedDigits rest hwidth hnumber]

lemma xmltvOffset_text (blanks : ℕ) (offset : UtcOffset) (rest : List UInt8) :
    xmltvOffset (List.replicate blanks 0x20 ++ (offset.text ++ rest)) = offset.seconds := by
  have hfields : scanDecimals [2, 2] (paddedDigits 2 offset.hours ++ (paddedDigits 2 offset.minutes ++ rest)) =
      [(offset.hours : ℤ), (offset.minutes : ℤ)] := by
    rw [scanDecimals_paddedDigits _ _ (by decide) offset.hours.isLt,
      scanDecimals_paddedDigits _ _ (by decide) offset.minutes.isLt]
    rfl
  have hlength : 4 ≤ (paddedDigits 2 offset.hours ++ (paddedDigits 2 offset.minutes ++ rest)).length := by
    simp only [List.length_append, length_paddedDigits]
    omega
  have hblanks : (List.replicate blanks (0x20 : UInt8)).dropWhile (· = 0x20) = [] := by simp
  simp only [xmltvOffset, UtcOffset.text, List.cons_append, List.append_assoc]
  rw [List.dropWhile_append, hblanks]
  generalize paddedDigits 2 offset.hours ++ (paddedDigits 2 offset.minutes ++ rest) = zone at *
  cases hwest : offset.west <;> simp [UtcOffset.seconds, hwest, hfields, hlength]

/-- The day after a date of `xmltv_days_from_civil`. -/
lemma CivilDate.codeDays_next (date : CivilDate) : date.next.codeDays = date.codeDays + 1 := by
  have hnext := date.daysBefore_next
  rw [codeDays_eq, codeDays_eq, sinceEpoch, sinceEpoch]
  omega

lemma ofInt_natCast (h : number < 100) :
    UInt32.ofInt (number : ℤ) = UInt32.ofNat number := by
  unfold UInt32.ofInt
  congr 1
  omega

/-- `xmltv_parse_time` of a date and time of day with an offset is the number of seconds since the epoch,
and the day number that it takes grows by one from each day of the calendar to the next. -/
theorem xmltvParseTime_calendar (date : CivilDate) (hyear : date.year ≤ 9999) (time : TimeOfDay)
    (blanks : ℕ) (offset : UtcOffset) (rest : List UInt8) :
    xmltvParseTime (date.text ++ time.text ++ List.replicate blanks 0x20 ++ offset.text ++ rest) =
        date.sinceEpoch * 86400 + time.seconds - offset.seconds ∧
      date.codeDays = date.sinceEpoch ∧ date.next.codeDays = date.codeDays + 1 ∧
      (xmltvDoy (UInt32.ofNat date.month) (UInt32.ofNat date.day)).toNat =
        (153 * (if 2 < date.month then date.month - 3 else date.month + 9) + 2) / 5 + date.day - 1 := by
  refine ⟨?_, date.codeDays_eq, date.codeDays_next, date.toNat_xmltvDoy⟩
  have hmonth := date.month_mem
  have hday := date.day_le
  have hfields : scanDecimals [4, 2, 2, 2, 2, 2]
      (date.text ++ time.text ++ List.replicate blanks 0x20 ++ offset.text ++ rest) =
        [(date.year : ℤ), (date.month : ℤ), (date.day : ℤ),
          (time.hour : ℤ), (time.minute : ℤ), (time.second : ℤ)] := by
    simp only [CivilDate.text, TimeOfDay.text, List.append_assoc]
    rw [scanDecimals_paddedDigits _ _ (by decide) (by omega),
      scanDecimals_paddedDigits _ _ (by decide) (by omega),
      scanDecimals_paddedDigits _ _ (by decide) (by omega),
      scanDecimals_paddedDigits _ _ (by decide) (by omega),
      scanDecimals_paddedDigits _ _ (by decide) (by omega),
      scanDecimals_paddedDigits _ _ (by decide) (by omega)]
    rfl
  have hlength : (date.text ++ time.text).length = 14 := by
    simp [CivilDate.text, TimeOfDay.text, length_paddedDigits]
  have hlong : ¬(date.text ++ time.text ++ List.replicate blanks 0x20 ++ offset.text ++ rest).length < 14 := by
    rw [List.append_assoc, List.append_assoc, List.length_append, hlength]
    omega
  have hzone : (date.text ++ time.text ++ List.replicate blanks 0x20 ++ offset.text ++ rest).drop 14 =
      List.replicate blanks 0x20 ++ (offset.text ++ rest) := by
    rw [List.append_assoc, List.append_assoc, ← hlength, List.drop_left]
  have hcode : date.codeDays =
      xmltvDaysFromCivil date.year (UInt32.ofNat date.month) (UInt32.ofNat date.day) := rfl
  unfold xmltvParseTime
  rw [if_neg hlong, hfields, hzone, xmltvOffset_text]
  dsimp only
  rw [ofInt_natCast (by omega), ofInt_natCast (by omega), ← hcode, date.codeDays_eq]
  rfl

/-- The leap day of the year 0, a minute before midnight, half an hour behind UTC. -/
theorem xmltvParseTime_calendar_leapDay :
    xmltvParseTime ((⟨0, 2, 29, by decide, by decide⟩ : CivilDate).text ++
      (⟨23, 59, 0⟩ : TimeOfDay).text ++ List.replicate 1 0x20 ++ (⟨true, 0, 30⟩ : UtcOffset).text ++ []) =
        -62162033460 := by
  rw [(xmltvParseTime_calendar _ (by decide) _ _ _ _).1, CivilDate.sinceEpoch, CivilDate.epoch_daysBefore]
  decide +kernel

end NXCast
