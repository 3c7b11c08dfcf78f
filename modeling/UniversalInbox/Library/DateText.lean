import UniversalInbox.Library.Civil

/-! Dates and times of day written in digits by a list of items, and read again. -/
namespace DateText
open Calendar

/-- `%Y`, `%m`, `%d`, `%H`, `%M`, `%S`, and a character that stands for itself. -/
inductive Item where
  | literal (c : Char)
  | year
  | month
  | day
  | hour
  | minute
  | second
deriving DecidableEq, Repr

/-- At least so many digits. -/
def padded (width n : Nat) : List Char :=
  List.replicate (width - (Nat.toDigits 10 n).length) '0' ++ Nat.toDigits 10 n

/-- Beyond four digits there is always a sign. -/
def writeYear (year : Int) : List Char :=
  if 0 ≤ year ∧ year < 10000 then padded 4 year.natAbs
  else (if year < 0 then '-' else '+') :: padded 4 year.natAbs

/-- A leap second is the sixtieth. -/
def shownSecond (time : Time) : Nat := time.seconds % 60 + time.fraction / 1000000000

def formatItem (clock : Clock) : Item → List Char
  | .literal c => [c]
  | .year => writeYear (Calendar.year clock.date)
  | .month => padded 2 (Calendar.month clock.date)
  | .day => padded 2 (dayOfMonth clock.date)
  | .hour => padded 2 clock.time.hour
  | .minute => padded 2 (clock.time.seconds / 60 % 60)
  | .second => padded 2 (shownSecond clock.time)

def format (items : List Item) (clock : Clock) : List Char := items.flatMap (formatItem clock)

/-- The fields found so far. -/
structure Parsed where
  year : Option Int := none
  month : Option Nat := none
  day : Option Nat := none
  hour : Option Nat := none
  minute : Option Nat := none
  second : Option Nat := none
  nanosecond : Option Nat := none
  offset : Option Int := none
deriving DecidableEq

def setIfConsistent {α : Type} [DecidableEq α] (field : Option α) (value : α) : Option (Option α) :=
  if field = none ∨ field = some value then some (some value) else none

def setWithin (lo hi : Nat) (field : Option Nat) (value : Nat) : Option (Option Nat) :=
  if lo ≤ value ∧ value ≤ hi then setIfConsistent field value else none

namespace Parsed

def setYear (p : Parsed) (value : Int) : Option Parsed :=
  if -2147483648 ≤ value ∧ value ≤ 2147483647 then
    (setIfConsistent p.year value).map fun year => { p with year := year }
  else none

def setMonth (p : Parsed) (value : Nat) : Option Parsed :=
  (setWithin 1 12 p.month value).map fun month => { p with month := month }

def setDay (p : Parsed) (value : Nat) : Option Parsed :=
  (setWithin 1 31 p.day value).map fun day => { p with day := day }

def setHour (p : Parsed) (value : Nat) : Option Parsed :=
  (setWithin 0 23 p.hour value).map fun hour => { p with hour := hour }

def setMinute (p : Parsed) (value : Nat) : Option Parsed :=
  (setWithin 0 59 p.minute value).map fun minute => { p with minute := minute }

def setSecond (p : Parsed) (value : Nat) : Option Parsed :=
  (setWithin 0 60 p.second value).map fun second => { p with second := second }

def setNanosecond (p : Parsed) (value : Nat) : Option Parsed :=
  (setWithin 0 999999999 p.nanosecond value).map fun nano => { p with nanosecond := nano }

def setOffset (p : Parsed) (value : Int) : Option Parsed :=
  (setIfConsistent p.offset value).map fun offset => { p with offset := offset }

def toNaiveDate (p : Parsed) : Option Int := do
  let year ← p.year
  let month ← p.month
  let day ← p.day
  fromYmd year month day

/-- The sixtieth second is the one before it, a second late. -/
def leapSecond (second : Nat) : Option (Nat × Nat) :=
  if second ≤ 59 then some (second, 0) else if second = 60 then some (59, 1000000000) else none

def fromHmsNano (hour minute second nano : Nat) : Option Time :=
  if h : hour < 24 ∧ minute < 60 ∧ second < 60 ∧ nano < 2000000000 then
    if 1000000000 ≤ nano ∧ second ≠ 59 then none
    else
      some
        { seconds := hour * 3600 + minute * 60 + second
          fraction := nano
          seconds_lt := by omega
          fraction_lt := h.2.2.2 }
  else none

/-- Seconds may be missing, but not where there is a fraction of them. -/
def toNaiveTime (p : Parsed) : Option Time := do
  let hour ← p.hour
  let minute ← p.minute
  let (second, leap) ← leapSecond (p.second.getD 0)
  if p.nanosecond.isSome ∧ p.second = none then none
  else fromHmsNano hour minute second (leap + p.nanosecond.getD 0)

def toNaiveDatetime (p : Parsed) : Option Clock := do
  let date ← p.toNaiveDate
  let time ← p.toNaiveTime
  some { date := date, time := time }

/-- The instant, in UTC. -/
def toDatetime (p : Parsed) : Option Clock := do
  let offset ← p.offset
  let datetime ← p.toNaiveDatetime
  let utc := datetime.withSeconds (datetime.seconds - offset)
  if minDay ≤ utc.date ∧ utc.date ≤ maxDay then some utc else none

end Parsed

/-- Unicode white space. -/
def isWhitespace (c : Char) : Bool :=
  (9 ≤ c.toNat && c.toNat ≤ 13) || c.toNat == 32 || c.toNat == 133 || c.toNat == 160 ||
    c.toNat == 5760 || (8192 ≤ c.toNat && c.toNat ≤ 8202) || c.toNat == 8232 || c.toNat == 8233 ||
    c.toNat == 8239 || c.toNat == 8287 || c.toNat == 12288

def trimStart (s : List Char) : List Char := s.dropWhile isWhitespace

/-- As many digits as there are, up to a maximum, of a number of 64 bits. -/
def number (min max : Nat) (s : List Char) : Option (Nat × List Char) :=
  let digits := (s.take max).takeWhile Char.isDigit
  if min ≤ digits.length ∧ Nat.ofDigitChars 10 digits 0 < 9223372036854775808 then
    some (Nat.ofDigitChars 10 digits 0, s.drop digits.length)
  else none

/-- Without a sign a year has at most four digits. -/
def signedNumber (s : List Char) : Option (Int × List Char) :=
  if s.head? = some '-' then (number 1 s.length s.tail).map fun found => (-found.1, found.2)
  else if s.head? = some '+' then (number 1 s.length s.tail).map fun found => (found.1, found.2)
  else (number 1 4 s).map fun found => (found.1, found.2)

def char (c : Char) (s : List Char) : Option (List Char) :=
  if s.head? = some c then some s.tail else none

/-- A number may have white space in front of it. -/
def scanItem (p : Parsed) (s : List Char) : Item → Option (Parsed × List Char)
  | .literal c => (char c s).map fun rest => (p, rest)
  | .year => do
    let (value, rest) ← signedNumber (trimStart s)
    (p.setYear value).map fun p => (p, rest)
  | .month => do
    let (value, rest) ← number 1 2 (trimStart s)
    (p.setMonth value).map fun p => (p, rest)
  | .day => do
    let (value, rest) ← number 1 2 (trimStart s)
    (p.setDay value).map fun p => (p, rest)
  | .hour => do
    let (value, rest) ← number 1 2 (trimStart s)
    (p.setHour value).map fun p => (p, rest)
  | .minute => do
    let (value, rest) ← number 1 2 (trimStart s)
    (p.setMinute value).map fun p => (p, rest)
  | .second => do
    let (value, rest) ← number 1 2 (trimStart s)
    (p.setSecond value).map fun p => (p, rest)

def parseItems (items : List Item) (p : Parsed) (s : List Char) : Option (Parsed × List Char) :=
  items.foldlM (fun found item => scanItem found.1 found.2 item) (p, s)

/-- All of the text has to be read. -/
def parse (items : List Item) (s : List Char) : Option Parsed := do
  let (p, rest) ← parseItems items {} s
  if rest = [] then some p else none

/-- Of a fraction nine digits count. -/
def nanosecond (s : List Char) : Option (Nat × List Char) :=
  (number 1 9 s).map fun found =>
    (found.1 * 10 ^ (9 - (s.length - found.2.length)), found.2.dropWhile Char.isDigit)

/-- Hours and minutes, in seconds. -/
def hoursMinutes : List Char → Option (Nat × List Char)
  | h₁ :: h₂ :: ':' :: m₁ :: m₂ :: rest =>
    if h₁.isDigit ∧ h₂.isDigit ∧ m₁.isDigit ∧ m₂.isDigit ∧ m₁.toNat ≤ '5'.toNat then
      some (Nat.ofDigitChars 10 [h₁, h₂] 0 * 3600 + Nat.ofDigitChars 10 [m₁, m₂] 0 * 60, rest)
    else none
  | _ => none

def timezoneOffset : List Char → Option (Int × List Char)
  | 'Z' :: rest => some (0, rest)
  | 'z' :: rest => some (0, rest)
  | '+' :: rest => (hoursMinutes rest).map fun found => (found.1, found.2)
  | '-' :: rest => (hoursMinutes rest).map fun found => (-found.1, found.2)
  | '−' :: rest => (hoursMinutes rest).map fun found => (-found.1, found.2)
  | _ => none

def dateTimeSeparator (s : List Char) : Option (List Char) :=
  if s.head? = some 't' ∨ s.head? = some 'T' ∨ s.head? = some ' ' then some s.tail else none

def optionalNanosecond (p : Parsed) (s : List Char) : Option (Parsed × List Char) :=
  if s.head? = some '.' then do
    let (value, rest) ← nanosecond s.tail
    (p.setNanosecond value).map fun p => (p, rest)
  else some (p, s)

def maxRfc3339Offset : Int := (23 * 60 + 59) * 60

/-- Here every field has all its digits, and no white space. -/
def rfc3339Date (s : List Char) : Option (Parsed × List Char) := do
  let year ← number 4 4 s
  let p ← Parsed.setYear {} year.1
  let s ← char '-' year.2
  let month ← number 2 2 s
  let p ← p.setMonth month.1
  let s ← char '-' month.2
  let day ← number 2 2 s
  (p.setDay day.1).map fun p => (p, day.2)

def rfc3339Time (p : Parsed) (s : List Char) : Option (Parsed × List Char) := do
  let hour ← number 2 2 s
  let p ← p.setHour hour.1
  let s ← char ':' hour.2
  let minute ← number 2 2 s
  let p ← p.setMinute minute.1
  let s ← char ':' minute.2
  let second ← number 2 2 s
  let p ← p.setSecond second.1
  optionalNanosecond p second.2

def parseRfc3339 (s : List Char) : Option (Parsed × List Char) := do
  let date ← rfc3339Date s
  let s ← dateTimeSeparator date.2
  let time ← rfc3339Time date.1 s
  let offset ← timezoneOffset time.2
  if -maxRfc3339Offset ≤ offset.1 ∧ offset.1 ≤ maxRfc3339Offset then
    (time.1.setOffset offset.1).map fun p => (p, offset.2)
  else none

def parseFromRfc3339 (s : List Char) : Option Clock := do
  let (p, rest) ← parseRfc3339 s
  if rest = [] then p.toDatetime else none

section Digits
variable {width n least most : Nat} {digits rest : List Char}

theorem ofDigitChars_padded (width n : Nat) : Nat.ofDigitChars 10 (padded width n) 0 = n := by
  rw [padded, Nat.ofDigitChars_append, Nat.ofDigitChars_replicate_zero, Nat.mul_zero,
    Nat.ofDigitChars_ten_toDigits]

theorem isDigit_of_mem_padded : ∀ c ∈ padded width n, c.isDigit = true := by
  intro c hc
  rcases List.mem_append.mp hc with hzero | hdigit
  · rw [(List.mem_replicate.mp hzero).2]
    rfl
  · exact Nat.isDigit_of_mem_toDigits (by decide) (by decide) hdigit

theorem le_length_padded (width n : Nat) : width ≤ (padded width n).length := by
  rw [padded, List.length_append, List.length_replicate]
  omega

theorem length_padded (hwidth : 0 < width) (hn : n < 10 ^ width) :
    (padded width n).length = width := by
  have hle := (Nat.length_toDigits_le_iff (b := 10) (by decide) hwidth).mpr hn
  rw [padded, List.length_append, List.length_replicate]
  omega

/-- The text goes on with something else. -/
def Stops (rest : List Char) : Prop := ∀ c ∈ rest.head?, c.isDigit = false

theorem takeWhile_of_stops (h : Stops rest) (k : Nat) :
    (rest.take k).takeWhile Char.isDigit = [] := by
  cases k with
  | zero => rfl
  | succ k =>
    cases rest with
    | nil => rfl
    | cons c rest => rw [List.take_succ_cons, List.takeWhile_cons, h c rfl]; rfl

theorem number_digits (hdigits : ∀ c ∈ digits, c.isDigit = true) (hleast : least ≤ digits.length)
    (hmost : digits.length = most ∨ digits.length ≤ most ∧ Stops rest)
    (hvalue : Nat.ofDigitChars 10 digits 0 < 9223372036854775808) :
    number least most (digits ++ rest) = some (Nat.ofDigitChars 10 digits 0, rest) := by
  have hfound : ((digits ++ rest).take most).takeWhile Char.isDigit = digits := by
    have hle : digits.length ≤ most := by omega
    rw [List.take_append, List.take_of_length_le hle, List.takeWhile_append_of_pos hdigits]
    have hrest : (rest.take (most - digits.length)).takeWhile Char.isDigit = [] := by
      rcases hmost with hall | ⟨-, hstops⟩
      · rw [hall, Nat.sub_self, List.take_zero, List.takeWhile_nil]
      · exact takeWhile_of_stops hstops _
    rw [hrest, List.append_nil]
  unfold number
  rw [hfound]
  dsimp only
  rw [if_pos ⟨hleast, hvalue⟩, List.drop_left]

theorem number_of_stops (hleast : 0 < least) (h : Stops rest) : number least most rest = none := by
  unfold number
  rw [takeWhile_of_stops h]
  exact if_neg fun hfound => absurd (Nat.le_zero.mp hfound.1) hleast.ne'

theorem number_padded (hwidth : 0 < width) (hn : n < 10 ^ width) (hleast : least ≤ width)
    (hvalue : n < 9223372036854775808) (rest : List Char) :
    number least width (padded width n ++ rest) = some (n, rest) := by
  have hlength := length_padded hwidth hn
  have hnumber : number least width (padded width n ++ rest) =
      some (Nat.ofDigitChars 10 (padded width n) 0, rest) :=
    number_digits isDigit_of_mem_padded (hleast.trans hlength.ge) (.inl hlength)
      (by rwa [ofDigitChars_padded])
  rwa [ofDigitChars_padded] at hnumber

/-- Two digits, of which one would do. -/
theorem number_two (hn : n < 100) (hleast : least ≤ 2) (rest : List Char) :
    number least 2 (padded 2 n ++ rest) = some (n, rest) :=
  number_padded (by decide) hn hleast (by omega) rest

theorem isWhitespace_of_isDigit {c : Char} (h : c.isDigit = true) : isWhitespace c = false := by
  have hc : 48 ≤ c.toNat ∧ c.toNat ≤ 57 := by
    rw [Char.isDigit, Bool.and_eq_true, decide_eq_true_eq, decide_eq_true_eq] at h
    exact ⟨UInt32.le_iff_toNat_le.mp h.1, UInt32.le_iff_toNat_le.mp h.2⟩
  unfold isWhitespace
  simp only [Bool.or_eq_false_iff, Bool.and_eq_false_iff, decide_eq_false_iff_not,
    beq_eq_false_iff_ne]
  omega

theorem exists_cons_padded (hwidth : 0 < width) (n : Nat) :
    ∃ c digits, padded width n = c :: digits ∧ c.isDigit = true := by
  have hle := le_length_padded width n
  cases hpadded : padded width n with
  | nil =>
    rw [hpadded, List.length_nil] at hle
    omega
  | cons c digits =>
    exact ⟨c, digits, rfl, isDigit_of_mem_padded c (hpadded ▸ List.mem_cons_self)⟩

theorem trimStart_padded (hwidth : 0 < width) (n : Nat) (rest : List Char) :
    trimStart (padded width n ++ rest) = padded width n ++ rest := by
  obtain ⟨c, digits, hpadded, hdigit⟩ := exists_cons_padded hwidth n
  rw [hpadded, List.cons_append, trimStart, List.dropWhile_cons, isWhitespace_of_isDigit hdigit]
  rfl

theorem number_trimStart_two (hn : n < 100) (rest : List Char) :
    number 1 2 (trimStart (padded 2 n ++ rest)) = some (n, rest) := by
  rw [trimStart_padded (by decide), number_two hn (by decide)]

/-- After a sign the digits go on for as long as there are any. -/
theorem number_signed {bound : Nat} (hn : n < 9223372036854775808) (hrest : Stops rest)
    (hbound : (padded 4 n ++ rest).length ≤ bound) :
    number 1 bound (padded 4 n ++ rest) = some (n, rest) := by
  have hle := le_length_padded 4 n
  rw [List.length_append] at hbound
  have hnumber : number 1 bound (padded 4 n ++ rest) =
      some (Nat.ofDigitChars 10 (padded 4 n) 0, rest) :=
    number_digits isDigit_of_mem_padded (by omega) (.inr ⟨by omega, hrest⟩)
      (by rwa [ofDigitChars_padded])
  rwa [ofDigitChars_padded] at hnumber

theorem signedNumber_writeYear {y : Int} (hy : y.natAbs < 9223372036854775808)
    (hrest : Stops rest ∨ 0 ≤ y ∧ y < 10000) :
    signedNumber (trimStart (writeYear y ++ rest)) = some (y, rest) := by
  unfold writeYear
  split
  · next hplain =>
    obtain ⟨c, digits, hpadded, hdigit⟩ :=
      exists_cons_padded (show 0 < 4 by decide) y.natAbs
    rw [trimStart_padded (by decide), signedNumber, number_padded (by decide) (by omega) (by decide)
      hy, hpadded, List.cons_append, List.head?_cons, if_neg, if_neg, Option.map_some]
    · congr 2
      omega
    · rintro ⟨rfl⟩
      exact absurd hdigit (by decide)
    · rintro ⟨rfl⟩
      exact absurd hdigit (by decide)
  · next hsigned =>
    have hbound : (padded 4 y.natAbs ++ rest).length ≤
        ((if y < 0 then '-' else '+') :: (padded 4 y.natAbs ++ rest)).length := Nat.le_succ _
    have hnumber := number_signed hy (hrest.resolve_right hsigned) hbound
    by_cases hnegative : y < 0
    · rw [if_pos hnegative] at hnumber ⊢
      have htrim : trimStart ('-' :: padded 4 y.natAbs ++ rest) =
        '-' :: (padded 4 y.natAbs ++ rest) := rfl
      rw [htrim, signedNumber, List.head?_cons, if_pos rfl, List.tail_cons, hnumber,
        Option.map_some]
      congr 2
      omega
    · rw [if_neg hnegative] at hnumber ⊢
      have htrim : trimStart ('+' :: padded 4 y.natAbs ++ rest) =
        '+' :: (padded 4 y.natAbs ++ rest) := rfl
      rw [htrim, signedNumber, List.head?_cons, if_neg (by decide), if_pos rfl, List.tail_cons,
        hnumber, Option.map_some]
      congr 2
      omega

end Digits

/-- What reading an item's text sets. -/
def record (clock : Clock) (p : Parsed) : Item → Option Parsed
  | .literal _ => some p
  | .year => p.setYear (Calendar.year clock.date)
  | .month => p.setMonth (Calendar.month clock.date)
  | .day => p.setDay (dayOfMonth clock.date)
  | .hour => p.setHour clock.time.hour
  | .minute => p.setMinute (clock.time.seconds / 60 % 60)
  | .second => p.setSecond (shownSecond clock.time)

section Items
variable {clock : Clock} {p : Parsed} {item : Item} {items : List Item} {rest : List Char}

theorem char_cons (c : Char) (rest : List Char) : char c (c :: rest) = some rest := by
  rw [char, List.head?_cons, if_pos rfl, List.tail_cons]

theorem hour_lt (time : Time) : time.hour < 24 := by
  have := time.seconds_lt
  unfold Time.hour
  omega

theorem shownSecond_le (time : Time) : shownSecond time ≤ 60 := by
  have := time.fraction_lt
  unfold shownSecond
  omega

theorem scanItem_formatItem (hitem : item ≠ .year) :
    scanItem p (formatItem clock item ++ rest) item =
      (record clock p item).map fun p => (p, rest) := by
  have hmonth := month_le clock.date
  have hday := dayOfMonth_le_thirtyOne clock.date
  have hhour := hour_lt clock.time
  have hsecond := shownSecond_le clock.time
  cases item with
  | literal c => rw [formatItem, List.singleton_append, scanItem, char_cons]; rfl
  | year => exact absurd rfl hitem
  | month => rw [formatItem, scanItem, number_trimStart_two (by omega)]; rfl
  | day => rw [formatItem, scanItem, number_trimStart_two (by omega)]; rfl
  | hour => rw [formatItem, scanItem, number_trimStart_two (by omega)]; rfl
  | minute => rw [formatItem, scanItem, number_trimStart_two (by omega)]; rfl
  | second => rw [formatItem, scanItem, number_trimStart_two (by omega)]; rfl

theorem scanItem_year (hdate : minDay ≤ clock.date ∧ clock.date ≤ maxDay)
    (hrest : Stops rest ∨ 0 ≤ year clock.date ∧ year clock.date < 10000) :
    scanItem p (formatItem clock .year ++ rest) .year =
      (record clock p .year).map fun p => (p, rest) := by
  have hyear := year_bounds hdate.1 hdate.2
  unfold minYear maxYear at hyear
  rw [formatItem, scanItem, signedNumber_writeYear (by omega) hrest]
  rfl

theorem parseItems_format (hitems : Item.year ∉ items) :
    parseItems items p (format items clock ++ rest) =
      (items.foldlM (record clock) p).map fun p => (p, rest) := by
  induction items generalizing p with
  | nil => rfl
  | cons item items ih =>
    obtain ⟨hitem, hitems⟩ := List.ne_and_not_mem_of_not_mem_cons hitems
    have htext : format (item :: items) clock ++ rest =
        formatItem clock item ++ (format items clock ++ rest) := by
      rw [format, List.flatMap_cons, List.append_assoc]
      rfl
    rw [parseItems, List.foldlM_cons, htext, scanItem_formatItem hitem.symm, List.foldlM_cons]
    cases hset : record clock p item with
    | none => rfl
    | some p => exact ih hitems

/-- The year is the first item, and no digit follows it or it has four of them. -/
theorem parseItems_format_year (hdate : minDay ≤ clock.date ∧ clock.date ≤ maxDay)
    (hitems : Item.year ∉ items) (hrest : Stops (format items clock ++ rest) ∨
      0 ≤ year clock.date ∧ year clock.date < 10000) :
    parseItems (.year :: items) p (format (.year :: items) clock ++ rest) =
      ((Item.year :: items).foldlM (record clock) p).map fun p => (p, rest) := by
  have htext : format (.year :: items) clock ++ rest =
      formatItem clock .year ++ (format items clock ++ rest) := by
    rw [format, List.flatMap_cons, List.append_assoc]
    rfl
  rw [parseItems, List.foldlM_cons, htext, scanItem_year hdate hrest, List.foldlM_cons]
  cases hset : record clock p .year with
  | none => rfl
  | some p => exact parseItems_format hitems

theorem format_append (items later : List Item) (clock : Clock) :
    format (items ++ later) clock = format items clock ++ format later clock := List.flatMap_append

theorem of_mem_writeYear {c : Char} {y : Int} (h : c ∈ writeYear y) :
    c.isDigit = true ∨ c = '-' ∨ c = '+' := by
  unfold writeYear at h
  split at h
  · exact .inl (isDigit_of_mem_padded c h)
  · rcases List.mem_cons.mp h with rfl | hdigit
    · split
      · exact .inr (.inl rfl)
      · exact .inr (.inr rfl)
    · exact .inl (isDigit_of_mem_padded c hdigit)

/-- Digits, the signs of years and what the items say themselves. -/
theorem of_mem_format {c : Char} (h : c ∈ format items clock) :
    c.isDigit = true ∨ c = '-' ∨ c = '+' ∨ Item.literal c ∈ items := by
  obtain ⟨item, hitem, hc⟩ := List.mem_flatMap.mp h
  cases item with
  | literal d =>
    rw [List.mem_singleton.mp hc]
    exact .inr (.inr (.inr hitem))
  | year =>
    rcases of_mem_writeYear hc with hdigit | hminus | hplus
    · exact .inl hdigit
    · exact .inr (.inl hminus)
    · exact .inr (.inr (.inl hplus))
  | _ => exact .inl (isDigit_of_mem_padded c hc)

theorem stops_format {c : Char} (hc : c.isDigit = false) (items : List Item) (clock : Clock)
    (rest : List Char) : Stops (format (.literal c :: items) clock ++ rest) := by
  rintro d ⟨rfl⟩
  exact hc

/-- What is printed is read where nothing comes after it. -/
theorem parse_format_year (hdate : minDay ≤ clock.date ∧ clock.date ≤ maxDay)
    (hitems : Item.year ∉ items) (hrest : Stops (format items clock) ∨
      0 ≤ year clock.date ∧ year clock.date < 10000) :
    parse (.year :: items) (format (.year :: items) clock) =
      (Item.year :: items).foldlM (record clock) {} := by
  have hread : parseItems (.year :: items) {} (format (.year :: items) clock ++ []) = _ :=
    parseItems_format_year hdate hitems (by rwa [List.append_nil])
  rw [List.append_nil] at hread
  rw [parse, hread]
  cases (Item.year :: items).foldlM (record clock) {} <;> rfl

theorem parse_format {c : Char} (hc : c.isDigit = false) (hitems : Item.year ∉ items)
    (hdate : minDay ≤ clock.date ∧ clock.date ≤ maxDay) :
    parse (.year :: .literal c :: items) (format (.year :: .literal c :: items) clock) =
      (Item.year :: .literal c :: items).foldlM (record clock) {} := by
  refine parse_format_year hdate (by simpa using hitems) (.inl ?_)
  rintro d ⟨rfl⟩
  exact hc

/-- A longer text is not read as a shorter one. -/
theorem parse_format_append {c : Char} (hc : c.isDigit = false) (hitems : Item.year ∉ items)
    (hdate : minDay ≤ clock.date ∧ clock.date ≤ maxDay) {later : List Item}
    (hlater : format later clock ≠ []) :
    parse (.year :: .literal c :: items) (format (.year :: .literal c :: items ++ later) clock) =
      none := by
  rw [format_append, parse, parseItems_format_year hdate (by simpa using hitems)
    (.inl (stops_format hc items clock _))]
  cases (Item.year :: .literal c :: items).foldlM (record clock) {} with
  | none => rfl
  | some p => exact if_neg hlater

theorem nanosecond_setYear {value : Int} {p' : Parsed} (h : p.setYear value = some p') :
    p'.nanosecond = p.nanosecond := by
  unfold Parsed.setYear at h
  split at h
  · obtain ⟨year, -, rfl⟩ := Option.map_eq_some_iff.mp h
    rfl
  · cases h

/-- No item sets a fraction of a second. -/
theorem nanosecond_scanItem {found : Parsed × List Char} {s : List Char}
    (h : scanItem p s item = some found) : found.1.nanosecond = p.nanosecond := by
  cases item with
  | literal c =>
    obtain ⟨rest, -, rfl⟩ := Option.map_eq_some_iff.mp h
    rfl
  | year =>
    obtain ⟨value, -, hset⟩ := Option.bind_eq_some_iff.mp h
    obtain ⟨p', hp', rfl⟩ := Option.map_eq_some_iff.mp hset
    exact nanosecond_setYear hp'
  | _ =>
    obtain ⟨value, -, hset⟩ := Option.bind_eq_some_iff.mp h
    obtain ⟨p', hp', rfl⟩ := Option.map_eq_some_iff.mp hset
    obtain ⟨field, -, rfl⟩ := Option.map_eq_some_iff.mp hp'
    rfl

theorem nanosecond_parseItems {found : Parsed × List Char} {s : List Char}
    (h : parseItems items p s = some found) : found.1.nanosecond = p.nanosecond := by
  induction items generalizing p s with
  | nil =>
    cases h
    rfl
  | cons item items ih =>
    obtain ⟨next, hnext, hitems⟩ := Option.bind_eq_some_iff.mp h
    rw [ih hitems, nanosecond_scanItem hnext]

theorem nanosecond_parse {s : List Char} (h : parse items s = some p) : p.nanosecond = none := by
  obtain ⟨⟨p', rest⟩, hfound, hrest⟩ := Option.bind_eq_some_iff.mp h
  dsimp only at hrest
  split at hrest
  · cases hrest
    exact nanosecond_parseItems hfound
  · cases hrest

end Items

def dateFields : List Item := [.year, .month, .day]

def timeFields : List Item := [.year, .month, .day, .hour, .minute, .second]

def dated (clock : Clock) : Parsed where
  year := some (year clock.date)
  month := some (month clock.date)
  day := some (dayOfMonth clock.date)

def timed (clock : Clock) : Parsed where
  year := some (year clock.date)
  month := some (month clock.date)
  day := some (dayOfMonth clock.date)
  hour := some clock.time.hour
  minute := some (clock.time.seconds / 60 % 60)
  second := some (shownSecond clock.time)

/-- On a full second, or on the leap second at the end of a minute. -/
def OnSecond (time : Time) : Prop :=
  time.fraction = 0 ∨ time.fraction = 1000000000 ∧ time.seconds % 60 = 59

/-- The time that the text shows. -/
def printed (time : Time) : Time :=
  if time.fraction < 1000000000 then { time with fraction := 0, fraction_lt := Time.noFraction_lt }
  else if h : time.seconds % 60 = 59 then
    { time with fraction := 1000000000, fraction_lt := Time.leapFraction_lt }
  else
    { seconds := time.seconds + 1
      fraction := 0
      seconds_lt := by
        have := time.seconds_lt
        omega
      fraction_lt := Time.noFraction_lt }

section Fields
variable {p : Parsed} {date : Int} {time : Time} {datetime clock : Clock}

def Item.isField : Item → Bool
  | .literal _ => false
  | _ => true

theorem foldlM_record_filter (items : List Item) (p : Parsed) (clock : Clock) :
    items.foldlM (record clock) p = (items.filter Item.isField).foldlM (record clock) p := by
  induction items generalizing p with
  | nil => rfl
  | cons item items ih =>
    cases item with
    | literal c => exact ih p
    | _ =>
      rw [List.filter_cons_of_pos rfl, List.foldlM_cons, List.foldlM_cons]
      exact congrArg _ (funext ih)

theorem setYear_year (hdate : minDay ≤ clock.date ∧ clock.date ≤ maxDay) :
    Parsed.setYear {} (year clock.date) = some { year := some (year clock.date) } := by
  obtain ⟨hmin, hmax⟩ := year_bounds hdate.1 hdate.2
  unfold minYear maxYear at *
  unfold Parsed.setYear
  rw [if_pos ⟨by omega, by omega⟩]
  rfl

theorem setWithin_none {lo hi value : Nat} (hlo : lo ≤ value) (hhi : value ≤ hi) :
    setWithin lo hi none value = some (some value) := by
  rw [setWithin, if_pos ⟨hlo, hhi⟩]
  rfl

theorem record_dateFields (hdate : minDay ≤ datetime.date ∧ datetime.date ≤ maxDay) :
    dateFields.foldlM (record datetime) {} = some (dated datetime) := by
  simp [dateFields, record, setYear_year hdate, Parsed.setMonth, Parsed.setDay, setWithin_none,
    month_pos, month_le, dayOfMonth_pos, dayOfMonth_le_thirtyOne, dated]

theorem record_timeFields (hdate : minDay ≤ datetime.date ∧ datetime.date ≤ maxDay) :
    timeFields.foldlM (record datetime) {} = some (timed datetime) := by
  have hhour : datetime.time.hour ≤ 23 := Nat.le_of_lt_succ (hour_lt datetime.time)
  have hminute : datetime.time.seconds / 60 % 60 ≤ 59 :=
    Nat.le_of_lt_succ (Nat.mod_lt _ (by decide))
  simp [timeFields, record, setYear_year hdate, Parsed.setMonth, Parsed.setDay, setWithin_none,
    month_pos, month_le, dayOfMonth_pos, dayOfMonth_le_thirtyOne, Parsed.setHour, hhour,
    Parsed.setMinute, hminute, Parsed.setSecond, shownSecond_le, timed]

theorem Time.eq_of {time other : Time} (hseconds : time.seconds = other.seconds)
    (hfraction : time.fraction = other.fraction) : time = other := by
  obtain ⟨seconds, fraction, _, _⟩ := time
  obtain ⟨seconds', fraction', _, _⟩ := other
  dsimp only at hseconds hfraction
  subst hseconds hfraction
  rfl

theorem printed_eq_iff (time : Time) : printed time = time ↔ OnSecond time := by
  unfold printed OnSecond
  constructor
  · intro h
    have hfraction := congrArg Time.fraction h
    have hseconds := congrArg Time.seconds h
    split at hfraction
    · exact .inl hfraction.symm
    · split at hfraction
      · next hlast => exact .inr ⟨hfraction.symm, hlast⟩
      · exact .inl hfraction.symm
  · rintro (hzero | ⟨hleap, hlast⟩)
    · rw [if_pos (by omega)]
      exact Time.eq_of rfl hzero.symm
    · rw [if_neg (by omega), dif_pos hlast]
      exact Time.eq_of rfl hleap.symm

theorem fromHmsNano_eq (time : Time) {hour minute second : Nat} (hhour : hour = time.seconds / 3600)
    (hminute : minute = time.seconds / 60 % 60) (hsecond : second = time.seconds % 60)
    (hleap : time.fraction < 1000000000 ∨ time.seconds % 60 = 59) :
    Parsed.fromHmsNano hour minute second time.fraction = some time := by
  have hlt := time.seconds_lt
  unfold Parsed.fromHmsNano
  rw [dif_pos ⟨by omega, by omega, by omega, time.fraction_lt⟩, if_neg (by omega)]
  congr 1
  refine Time.eq_of ?_ rfl
  dsimp only
  omega

theorem toNaiveTime_shown (hhour : p.hour = some time.hour)
    (hminute : p.minute = some (time.seconds / 60 % 60))
    (hsecond : p.second = some (shownSecond time)) (hnano : p.nanosecond = none) :
    p.toNaiveTime = some (printed time) := by
  have hread : p.toNaiveTime = (Parsed.leapSecond (shownSecond time)).bind fun found =>
      Parsed.fromHmsNano time.hour (time.seconds / 60 % 60) found.1 found.2 := by
    unfold Parsed.toNaiveTime
    rw [hhour, hminute, hsecond, hnano]
    rfl
  have hfraction := time.fraction_lt
  rw [hread]
  unfold printed Parsed.leapSecond shownSecond
  by_cases hwhole : time.fraction < 1000000000
  · rw [if_pos hwhole, if_pos (by omega), Option.bind_some]
    exact fromHmsNano_eq ⟨time.seconds, 0, _, _⟩ rfl rfl (by dsimp only; omega)
      (.inl (by dsimp only; omega))
  · rw [if_neg hwhole]
    by_cases hlast : time.seconds % 60 = 59
    · rw [dif_pos hlast, if_neg (by omega), if_pos (by omega), Option.bind_some]
      exact fromHmsNano_eq ⟨time.seconds, 1000000000, _, _⟩ rfl rfl hlast.symm (.inr hlast)
    · rw [dif_neg hlast, if_pos (by omega), Option.bind_some, Time.hour]
      exact fromHmsNano_eq ⟨time.seconds + 1, 0, _, _⟩ (by dsimp only; omega)
        (by dsimp only; omega) (by dsimp only; omega) (.inl (by dsimp only; omega))

/-- Without a fraction nothing but a full second is read. -/
theorem onSecond_toNaiveTime (hnano : p.nanosecond = none) (h : p.toNaiveTime = some time) :
    OnSecond time := by
  obtain ⟨hour, -, h⟩ := Option.bind_eq_some_iff.mp h
  obtain ⟨minute, -, h⟩ := Option.bind_eq_some_iff.mp h
  obtain ⟨⟨second, leap⟩, hsecond, h⟩ := Option.bind_eq_some_iff.mp h
  dsimp only at h
  rw [hnano, if_neg (by simp), Option.getD_none, Nat.add_zero] at h
  unfold Parsed.fromHmsNano at h
  split at h
  · next hvalid =>
    split at h
    · cases h
    · cases h
      unfold Parsed.leapSecond at hsecond
      split at hsecond
      · cases hsecond
        exact .inl rfl
      · split at hsecond
        · cases hsecond
          exact .inr ⟨rfl, by dsimp only; omega⟩
        · cases hsecond
  · cases h

theorem toNaiveDate_bounds (h : p.toNaiveDate = some date) : minDay ≤ date ∧ date ≤ maxDay := by
  obtain ⟨year, -, h⟩ := Option.bind_eq_some_iff.mp h
  obtain ⟨month, -, h⟩ := Option.bind_eq_some_iff.mp h
  obtain ⟨day, -, h⟩ := Option.bind_eq_some_iff.mp h
  exact fromYmd_bounds h

theorem toNaiveDatetime_bounds (h : p.toNaiveDatetime = some datetime) :
    minDay ≤ datetime.date ∧ datetime.date ≤ maxDay := by
  obtain ⟨date, hdate, h⟩ := Option.bind_eq_some_iff.mp h
  obtain ⟨time, -, h⟩ := Option.bind_eq_some_iff.mp h
  cases h
  exact toNaiveDate_bounds hdate

theorem onSecond_toNaiveDatetime (hnano : p.nanosecond = none)
    (h : p.toNaiveDatetime = some datetime) : OnSecond datetime.time := by
  obtain ⟨date, -, h⟩ := Option.bind_eq_some_iff.mp h
  obtain ⟨time, htime, h⟩ := Option.bind_eq_some_iff.mp h
  cases h
  exact onSecond_toNaiveTime hnano htime

theorem toNaiveDate_dated (hdate : minDay ≤ clock.date ∧ clock.date ≤ maxDay) :
    (dated clock).toNaiveDate = some clock.date := fromYmd_ymd hdate.1 hdate.2

theorem toNaiveDatetime_timed {offset : Option Int}
    (hdate : minDay ≤ clock.date ∧ clock.date ≤ maxDay) :
    Parsed.toNaiveDatetime { timed clock with offset := offset } =
      some { date := clock.date, time := printed clock.time } := by
  have hday : Parsed.toNaiveDate { timed clock with offset := offset } = some clock.date :=
    fromYmd_ymd hdate.1 hdate.2
  have htime : Parsed.toNaiveTime { timed clock with offset := offset } =
    some (printed clock.time) := toNaiveTime_shown rfl rfl rfl rfl
  rw [Parsed.toNaiveDatetime, hday, htime]
  rfl

theorem toDatetime_utc (hoffset : p.offset = some 0) (hread : p.toNaiveDatetime = some datetime)
    (hdate : minDay ≤ datetime.date ∧ datetime.date ≤ maxDay) : p.toDatetime = some datetime := by
  rw [Parsed.toDatetime, hoffset, hread]
  simp only [Option.bind_eq_bind, Option.bind_some, Int.sub_zero, Clock.withSeconds_seconds]
  rw [if_pos hdate]

theorem parseFromRfc3339_bounds {s : List Char} (h : parseFromRfc3339 s = some datetime) :
    minDay ≤ datetime.date ∧ datetime.date ≤ maxDay := by
  obtain ⟨⟨p, rest⟩, -, h⟩ := Option.bind_eq_some_iff.mp h
  dsimp only at h
  split at h
  · obtain ⟨offset, -, h⟩ := Option.bind_eq_some_iff.mp h
    obtain ⟨naive, -, h⟩ := Option.bind_eq_some_iff.mp h
    dsimp only at h
    split at h
    · cases h
      assumption
    · cases h
  · cases h

end Fields

end DateText
