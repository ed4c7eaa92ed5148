import Mathlib.Algebra.Order.Ring.Int

/-!
# The stamps of log lines

A line of a log begins with its time in UTC, to the second. The stamp is written and read without a
calendar library: `civilFromDays` gives the date of a day, and `daysFromCivil` the day of a date.
Both count in years that begin in March, so that the leap day is the last day of its year. The code
finds the year by a closed formula; `yearOfEra` states that it is the one which the day falls in,
and everything else follows from that.

Texts are their bytes. The code divides towards zero, which only the number of an era can tell from
`/`.
-/

open List Int

namespace PlatformLog

def digit (n : ℕ) : UInt8 :=
  .ofNat (48 + n % 10)

/-- The last `w` digits of a number. -/
def decimals : ℕ → ℕ → List UInt8
  | 0, _ => []
  | w + 1, n => decimals w (n / 10) ++ [digit n]

/-- What `{:0w}` writes: all digits, and zeros before them up to the width. -/
def padded (w : ℕ) (n : ℤ) : List UInt8 :=
  let digits := (Nat.toDigits 10 n.natAbs).length
  if n < 0 then 45 :: decimals (max (w - 1) digits) n.natAbs else decimals (max w digits) n.natAbs

def isAsciiDigit (c : UInt8) : Bool :=
  48 ≤ c && c ≤ 57

def parseDigits (s : List UInt8) : Option ℤ :=
  if s = [] then none
  else s.foldlM (fun n c => if isAsciiDigit c then some (10 * n + (c.toNat - 48)) else none) 0

/-- Reads an `i64`. The fields of a stamp are too short to overflow. -/
def parseI64 (s : List UInt8) : Option ℤ :=
  if s.head? = some 45 then (parseDigits s.tail).map (-·)
  else if s.head? = some 43 then parseDigits s.tail
  else parseDigits s

variable {w m n : ℕ}

theorem toNat_digit :
  (digit n).toNat = 48 + n % 10
  := by
  rw [digit, UInt8.toNat_ofNat']
  omega

theorem isAsciiDigit_digit :
  isAsciiDigit (digit n) = true
  := by
  simp only [isAsciiDigit, UInt8.le_iff_toNat_le, toNat_digit, Bool.and_eq_true, decide_eq_true_eq,
    UInt8.reduceToNat]
  omega

theorem not_mem_decimals {c : UInt8} (other : isAsciiDigit c = false) :
  c ∉ decimals w n
  := by
  induction w generalizing n with
  | zero => nofun
  | succ w ih =>
    intro mem
    obtain mem | last := mem_append.mp mem
    · exact ih mem
    · rw [mem_singleton.mp last, isAsciiDigit_digit] at other
      cases other

theorem head?_decimals_ne {c : UInt8} (other : isAsciiDigit c = false) :
  (decimals w n).head? ≠ some c
  := by
  intro head
  exact not_mem_decimals other (mem_of_mem_head? head)

theorem padded_eq (pos : 0 < w) (fits : n < 10 ^ w) :
  padded w n = decimals w n
  := by
  have few := (Nat.length_toDigits_le_iff (by decide) pos).mpr fits
  have sign : ¬ (n : ℤ) < 0 := by omega
  simp [padded, few, sign]

theorem parseDigits_decimals (pos : 0 < w) (fits : n < 10 ^ w) :
  parseDigits (decimals w n) = some (n : ℤ)
  := by
  have some_digit : decimals w n ≠ [] := by
    cases w with
    | zero => cases pos
    | succ w => simp [decimals]
  rw [parseDigits, if_neg some_digit]
  clear pos some_digit
  induction w generalizing n with
  | zero =>
    have none : n = 0 := by omega
    rw [none]
    rfl
  | succ w ih =>
    have value : 10 * ((n / 10 : ℕ) : ℤ) + ((digit n).toNat - 48) = n := by
      rw [toNat_digit]
      omega
    rw [decimals, foldlM_append, ih (by omega)]
    simp only [foldlM_cons, foldlM_nil, isAsciiDigit_digit, if_true, Option.bind_eq_bind,
      Option.bind_some, Option.pure_def, value]

theorem parseI64_decimals (pos : 0 < w) (fits : n < 10 ^ w) :
  parseI64 (decimals w n) = some (n : ℤ)
  := by
  rw [parseI64, if_neg (head?_decimals_ne rfl), if_neg (head?_decimals_ne rfl),
    parseDigits_decimals pos fits]

/-- Numbers of one width are ordered as their texts are, and equal ones as what follows is. -/
theorem decimals_append_lt {x y : List UInt8} (le : m ≤ n) (fits : n < 10 ^ w)
    (rest : m = n → x < y) :
  decimals w m ++ x < decimals w n ++ y
  := by
  induction w generalizing m n x y with
  | zero => exact rest (by omega)
  | succ w ih =>
    simp only [decimals, append_assoc]
    apply ih (Nat.div_le_div_right le) (by omega)
    intro same
    apply cons_lt_cons_iff.mpr
    by_cases equal : m = n
    · exact .inr ⟨by rw [equal], rest equal⟩
    · left
      rw [UInt8.lt_iff_toNat_lt, toNat_digit, toNat_digit]
      omega

theorem decimals_cons_lt {c : UInt8} {x y : List UInt8} (le : m ≤ n) (fits : n < 10 ^ w)
    (rest : m = n → x < y) :
  decimals w m ++ c :: x < decimals w n ++ c :: y
  := by
  apply decimals_append_lt le fits
  intro same
  exact cons_lt_cons_iff.mpr (.inr ⟨rfl, rest same⟩)

/-! ### The calendar -/

structure Civil where
  y : ℤ
  m : ℤ
  d : ℤ

/-- The number of a year in its era of 400 years, from the day of the era. -/
def yearOfEra (doe : ℤ) : ℤ :=
  (doe - doe / 1460 + doe / 36524 - doe / 146096) / 365

def civilFromDays (days : ℤ) : Civil :=
  let z := days + 719468
  let era := z / 146097
  let doe := z % 146097
  let yoe := yearOfEra doe
  let y := yoe + era * 400
  let doy := doe - (365 * yoe + yoe / 4 - yoe / 100)
  let mp := (5 * doy + 2) / 153
  let d := doy - (153 * mp + 2) / 5 + 1
  let m := if mp < 10 then mp + 3 else mp - 9
  ⟨if m ≤ 2 then y + 1 else y, m, d⟩

def daysFromCivil (y mo d : ℤ) : ℤ :=
  let y2 := if mo ≤ 2 then y - 1 else y
  let era := (if y2 ≥ 0 then y2 else y2 - 399).tdiv 400
  let yoe := y2 - era * 400
  let doy := (153 * (if mo > 2 then mo - 3 else mo + 9) + 2) / 5 + d - 1
  let doe := yoe * 365 + yoe / 4 - yoe / 100 + doy
  era * 146097 + doe - 719468

/-- The days before a year, counted from the first of March of the year 0. -/
def yearStart (y : ℤ) : ℤ :=
  365 * y + y / 4 - y / 100 + y / 400

theorem yearStart_le {y y' : ℤ} (le : y ≤ y') :
  yearStart y ≤ yearStart y'
  := by
  unfold yearStart
  omega

theorem yearStart_era (era yoe : ℤ) :
  yearStart (yoe + era * 400) = era * 146097 + yearStart yoe
  := by
  unfold yearStart
  omega

/-- No year is longer than 366 days. -/
theorem yearStart_succ (y : ℤ) :
  yearStart (y + 1) ≤ yearStart y + 366
  := by
  have eras : y / 400 = y / 100 / 4 := by omega
  have eras' : (y + 1) / 400 = (y + 1) / 100 / 4 := by omega
  unfold yearStart
  omega

/-- The formula finds the year of a day: centuries have 36524 days, four years within a century
1461, and the last day of an era is the one that the formula corrects for. -/
theorem yearOfEra_spec {doe : ℤ} (first : 0 ≤ doe) (last : doe < 146097) :
  0 ≤ yearOfEra doe ∧ yearOfEra doe ≤ 399 ∧
    yearStart (yearOfEra doe) ≤ doe ∧ doe < yearStart (yearOfEra doe + 1)
  := by
  have parts : ∃ a b c d : ℤ, doe = 36524 * a + 1461 * b + 365 * c + d ∧
      (0 ≤ a ∧ a ≤ 3 ∧ 0 ≤ b ∧ b ≤ 24 ∧ 0 ≤ c ∧ c ≤ 3 ∧ 0 ≤ d ∧
        (d ≤ 364 ∨ d = 365 ∧ c = 3 ∧ (b = 24 → a = 3))) ∧ yearOfEra doe = 100 * a + 4 * b + c := by
    unfold yearOfEra
    by_cases final : doe = 146096
    · subst final
      exact ⟨3, 24, 3, 365, by omega⟩
    · have century : doe / 146096 = 0 := by omega
      have fours : doe / 1460 = 25 * (doe / 36524) + doe % 36524 / 1461 +
          (24 * (doe / 36524) + doe % 36524 / 1461 + doe % 36524 % 1461) / 1460 := by omega
      use doe / 36524, doe % 36524 / 1461
      by_cases leap : doe % 36524 % 1461 = 1460
      · exact ⟨3, 365, by omega, by omega, by omega⟩
      · exact ⟨doe % 36524 % 1461 / 365, doe % 36524 % 1461 % 365, by omega, by omega, by omega⟩
  obtain ⟨a, b, c, d, day, range, year⟩ := parts
  rw [year]
  have four : (100 * a + 4 * b + c) / 4 = 25 * a + b := by omega
  have hundred : (100 * a + 4 * b + c) / 100 = a := by omega
  have four' : (100 * a + 4 * b + c + 1) / 4 = 25 * a + b + (c + 1) / 4 := by omega
  have hundred' : (100 * a + 4 * b + c + 1) / 100 = a + (4 * b + c + 1) / 100 := by omega
  have whole : (100 * a + 4 * b + c + 1) / 400 = 0 ∨ a = 3 ∧ b = 24 ∧ c = 3 := by omega
  unfold yearStart
  omega

variable {days : ℤ}

/-- Every day is one of a year from March, whose January and February the date has in the next
year. -/
theorem civilFromDays_cases (since : 0 ≤ days) :
  ∃ y mp d, 0 ≤ y ∧ 0 ≤ mp ∧ 0 < d ∧ d ≤ 31 ∧ (153 * mp + 2) / 5 + d ≤ (153 * (mp + 1) + 2) / 5 ∧
    yearStart y + (153 * mp + 2) / 5 + d = days + 719469 ∧ days + 719468 < yearStart (y + 1) ∧
    (mp < 10 ∧ civilFromDays days = ⟨y, mp + 3, d⟩ ∨
      10 ≤ mp ∧ mp ≤ 11 ∧ civilFromDays days = ⟨y + 1, mp - 9, d⟩)
  := by
  have first : 0 ≤ (days + 719468) % 146097 := by omega
  have last : (days + 719468) % 146097 < 146097 := by omega
  obtain ⟨low, high, start, stop⟩ := yearOfEra_spec first last
  simp only [civilFromDays]
  generalize yearOfEra ((days + 719468) % 146097) = yoe at *
  have length := yearStart_succ yoe
  have early : yearStart yoe = 365 * yoe + yoe / 4 - yoe / 100 := by
    unfold yearStart
    omega
  rw [← early]
  obtain ⟨doy, day⟩ : ∃ doy, doy = (days + 719468) % 146097 - yearStart yoe := ⟨_, rfl⟩
  rw [← day]
  refine ⟨yoe + (days + 719468) / 146097 * 400, (5 * doy + 2) / 153,
    doy - (153 * ((5 * doy + 2) / 153) + 2) / 5 + 1, ?_⟩
  rw [add_right_comm _ _ 1, yearStart_era, yearStart_era]
  refine ⟨by omega, by omega, by omega, by omega, by omega, by omega, by omega, ?_⟩
  split
  next spring => exact .inl ⟨spring, by rw [if_neg (by omega)]⟩
  next => exact .inr ⟨by omega, by omega, by rw [if_pos (by omega)]⟩

/-- The day of a date, from the year and the month that begin in March. -/
theorem daysFromCivil_eq {y mo d : ℤ} (y2 mp : ℤ) (year : (if mo ≤ 2 then y - 1 else y) = y2)
    (month : (if mo > 2 then mo - 3 else mo + 9) = mp) (low : 0 ≤ y2) :
  daysFromCivil y mo d = yearStart y2 + (153 * mp + 2) / 5 + d - 719469
  := by
  simp only [daysFromCivil, year, month, ge_iff_le, if_pos low, tdiv_eq_ediv_of_nonneg low]
  unfold yearStart
  omega

/-- The date of a day fits its fields and gives back the day. -/
theorem civilFromDays_range (since : 0 ≤ days) (before : days < 2932897) :
  ∃ y m d : ℕ, civilFromDays days = ⟨y, m, d⟩ ∧ y < 10 ^ 4 ∧ m < 10 ^ 2 ∧ d < 10 ^ 2 ∧
    daysFromCivil y m d = days
  := by
  obtain ⟨y, mp, d, low, _, some, _, _, day, _, date⟩ := civilFromDays_cases since
  have high : y ≤ 9999 ∧ (10 ≤ mp → y ≤ 9998) := by
    unfold yearStart at *
    omega
  obtain ⟨y, rfl⟩ := eq_ofNat_of_zero_le low
  obtain ⟨d, rfl⟩ := eq_ofNat_of_zero_le (le_of_lt some)
  obtain ⟨spring, date⟩ | ⟨winter, last, date⟩ := date
  · obtain ⟨m, month⟩ := eq_ofNat_of_zero_le (show 0 ≤ mp + 3 by omega)
    refine ⟨y, m, d, by rw [date, month], by omega, by omega, by omega, ?_⟩
    rw [daysFromCivil_eq y mp (by omega) (by omega) low]
    omega
  · obtain ⟨m, month⟩ := eq_ofNat_of_zero_le (show 0 ≤ mp - 9 by omega)
    refine ⟨y + 1, m, d, by rw [date, month, natCast_succ], by omega, by omega, by omega, ?_⟩
    rw [daysFromCivil_eq y mp (by omega) (by omega) low]
    omega

def Civil.key (c : Civil) : ℤ :=
  10000 * c.y + 100 * c.m + c.d

/-- Later days have later dates. -/
theorem key_lt {days' : ℤ} (since : 0 ≤ days) (later : days < days') :
  (civilFromDays days).key < (civilFromDays days').key
  := by
  obtain ⟨y, mp, d, _, _, _, _, stop, day, next, date⟩ := civilFromDays_cases since
  obtain ⟨y', mp', d', _, _, _, _, stop', day', next', date'⟩ :=
    civilFromDays_cases (show 0 ≤ days' by omega)
  have years : y ≤ y' := by
    by_contra after
    have whole := yearStart_le (Int.not_le.mp after)
    omega
  have months : y < y' ∨ y = y' ∧ (mp < mp' ∨ mp = mp' ∧ d < d') := by
    obtain less | rfl := Int.lt_or_eq_of_le years
    · exact .inl less
    · omega
  obtain ⟨_, date⟩ | ⟨_, _, date⟩ := date <;> obtain ⟨_, date'⟩ | ⟨_, _, date'⟩ := date' <;>
    simp only [date, date', Civil.key] <;> omega

/-! ### Stamps -/

def rfc3339Utc (epochSecs : ℕ) : List UInt8 :=
  let days := epochSecs / 86400
  let secs := epochSecs % 86400
  let c := civilFromDays days
  padded 4 c.y ++ 45 ::
    (padded 2 c.m ++ 45 :: (padded 2 c.d ++ 84 :: (padded 2 (secs / 3600 : ℕ) ++ 58 ::
    (padded 2 (secs % 3600 / 60 : ℕ) ++ 58 :: (padded 2 (secs % 60 : ℕ) ++ [90])))))

def stampByte (i : ℕ) (c : UInt8) : Bool :=
  match i with
  | 4 | 7 => c = 45
  | 10 => c = 84
  | 13 | 16 => c = 58
  | 19 => c = 90
  | _ => isAsciiDigit c

def splitLeadingStamp (line : List UInt8) : Option (List UInt8) × List UInt8 :=
  if line.length < 21 ∨ line.getD 20 0 ≠ 32 then (none, line)
  else if (line.take 20).zipIdx.all fun (c, i) => stampByte i c then
    (some (line.take 20), line.drop 21)
  else (none, line)

/-- A slice that is cut within a character has a byte that is no digit, and is no number either. -/
def rfc3339Secs (ts : List UInt8) : Option ℕ :=
  if ts.length < 20 ∨ ts.getD 4 0 ≠ 45 ∨ ts.getD 7 0 ≠ 45 ∨ ts.getD 10 0 ≠ 84 ∨
    ts.getD 19 0 ≠ 90 then none
  else do
    let num (start stop : ℕ) := parseI64 ((ts.take stop).drop start)
    let y ← num 0 4
    let mo ← num 5 7
    let d ← num 8 10
    let h ← num 11 13
    let mi ← num 14 16
    let s ← num 17 19
    let days := daysFromCivil y mo d
    return ((days * 86400 + h * 3600 + mi * 60 + s) % 2 ^ 64).toNat

/-- Six numbers that fit the fields of a stamp. -/
structure Fields where
  y : ℕ
  m : ℕ
  d : ℕ
  h : ℕ
  mi : ℕ
  s : ℕ
  year : y < 10 ^ 4
  month : m < 10 ^ 2
  day : d < 10 ^ 2
  hour : h < 24
  minute : mi < 60
  second : s < 60

namespace Fields

def text (f : Fields) : List UInt8 :=
  decimals 4 f.y ++ 45 :: (decimals 2 f.m ++ 45 :: (decimals 2 f.d ++ 84 :: (decimals 2 f.h ++ 58 ::
    (decimals 2 f.mi ++ 58 :: (decimals 2 f.s ++ [90])))))

def secs (f : Fields) : ℕ :=
  f.h * 3600 + f.mi * 60 + f.s

variable (f : Fields)

theorem splitLeadingStamp_text (rest : List UInt8) :
  splitLeadingStamp (f.text ++ 32 :: rest) = (some f.text, rest)
  := by
  simp [splitLeadingStamp, text, decimals, stampByte, isAsciiDigit_digit]

theorem rfc3339Secs_text :
  rfc3339Secs f.text = some ((daysFromCivil f.y f.m f.d * 86400 + f.secs) % 2 ^ 64).toNat
  := by
  have four := parseI64_decimals (by decide) f.year
  have two {n : ℕ} (fits : n < 60) : parseI64 [digit (n / 10), digit n] = some (n : ℤ) :=
    parseI64_decimals (w := 2) (by decide) (by omega)
  have month := parseI64_decimals (by decide) f.month
  have day := parseI64_decimals (by decide) f.day
  have hour := two (Nat.lt_trans f.hour (by decide))
  simp only [decimals, nil_append, cons_append] at four month day
  simp [rfc3339Secs, text, decimals, four, month, day, hour, two f.minute, two f.second,
    secs, add_assoc]

/-- Stamps are ordered as dates are, and on one day as the seconds of the day are. -/
theorem text_lt {f g : Fields} (before : (Civil.mk f.y f.m f.d).key < (Civil.mk g.y g.m g.d).key ∨
      (Civil.mk f.y f.m f.d).key = (Civil.mk g.y g.m g.d).key ∧ f.secs < g.secs) :
  f.text < g.text
  := by
  obtain ⟨y, m, d, h, mi, s, _, _, _, _, _, _⟩ := f
  obtain ⟨y', m', d', h', mi', s', _, _, _, _, _, _⟩ := g
  simp only [Civil.key, secs, text] at *
  apply decimals_cons_lt (by omega) (by omega)
  intro year
  apply decimals_cons_lt (by omega) (by omega)
  intro month
  apply decimals_cons_lt (by omega) (by omega)
  intro day
  apply decimals_cons_lt (by omega) (by omega)
  intro hour
  apply decimals_cons_lt (by omega) (by omega)
  intro minute
  apply decimals_cons_lt (by omega) (by omega)
  omega

end Fields

variable {s t : ℕ}

theorem rfc3339Utc_eq (before : s < 253402300800) :
  ∃ f : Fields, rfc3339Utc s = f.text ∧ civilFromDays (s / 86400 : ℕ) = ⟨f.y, f.m, f.d⟩ ∧
    daysFromCivil f.y f.m f.d = (s / 86400 : ℕ) ∧ f.secs = s % 86400
  := by
  obtain ⟨y, m, d, date, year, month, day, back⟩ :=
    civilFromDays_range (natCast_nonneg (s / 86400)) (by omega)
  refine ⟨⟨y, m, d, s % 86400 / 3600, s % 86400 % 3600 / 60, s % 86400 % 60, year, month, day,
    ?_, ?_, ?_⟩, ?_⟩
  · omega
  · omega
  · omega
  · refine ⟨?_, date, back, ?_⟩
    · simp only [rfc3339Utc, date, Fields.text]
      rw [padded_eq (by decide) year, padded_eq (by decide) month, padded_eq (by decide) day,
        padded_eq (by decide) (by omega), padded_eq (by decide) (by omega),
        padded_eq (by decide) (by omega)]
    · simp only [Fields.secs]
      omega

theorem rfc3339Utc_lt (before : t < 253402300800) (lt : s < t) :
  rfc3339Utc s < rfc3339Utc t
  := by
  obtain ⟨f, stamp, date, _, secs⟩ := rfc3339Utc_eq (Nat.lt_trans lt before)
  obtain ⟨g, stamp', date', _, secs'⟩ := rfc3339Utc_eq before
  rw [stamp, stamp']
  apply Fields.text_lt
  rw [← date, ← date', secs, secs']
  obtain earlier | same := Nat.lt_or_eq_of_le (Nat.div_le_div_right (c := 86400) (Nat.le_of_lt lt))
  · left
    apply key_lt <;> omega
  · exact .inr ⟨by rw [same], by omega⟩

/-- A stamp of four digits for the year is what the reader of lines looks for, gives back its
second, and stamps are ordered as times are. -/
theorem rfc3339_faithful (before : s < 253402300800) :
  (rfc3339Utc s).length = 20 ∧
  (∀ rest, splitLeadingStamp (rfc3339Utc s ++ 32 :: rest) = (some (rfc3339Utc s), rest)) ∧
  rfc3339Secs (rfc3339Utc s) = some s ∧
  ∀ t < 253402300800, s < t ↔ rfc3339Utc s < rfc3339Utc t
  := by
  obtain ⟨f, stamp, _, back, secs⟩ := rfc3339Utc_eq before
  refine ⟨by rw [stamp]; rfl, by rw [stamp]; exact f.splitLeadingStamp_text, ?_, ?_⟩
  · rw [stamp, f.rfc3339Secs_text, back, secs]
    congr 1
    omega
  · intro t before'
    constructor
    · exact rfc3339Utc_lt before'
    · intro lt
      obtain lt' | rfl | gt := Nat.lt_trichotomy s t
      · exact lt'
      · exact absurd lt (List.lt_irrefl _)
      · exact absurd lt (List.lt_asymm (rfc3339Utc_lt before gt))

theorem leap_day_stamped :
  rfc3339Utc 951827696 = "2000-02-29T12:34:56Z".toUTF8.toList ∧
    rfc3339Secs (rfc3339Utc 951827696) = some 951827696
  := ⟨by decide +kernel, (rfc3339_faithful (by decide)).2.2.1⟩

end PlatformLog
