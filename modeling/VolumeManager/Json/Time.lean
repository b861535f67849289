import VolumeManager.Json.Text

/-!
# `time.Time` in JSON

`time.Time.MarshalJSON` writes a time as an RFC 3339 text with nanoseconds, in the zone the time
carries. `time.Time.UnmarshalJSON` reads it back with `parseStrictRFC3339`. A time is modelled
here as an instant, in nanoseconds since the Unix epoch, and a `Zone`: the offset, in seconds
east of UTC, that the time's `Location` has at each Unix second.

* The calendar is Go's proleptic Gregorian calendar, computed as `absDate` and `daysSinceEpoch` do
  it: 400-, 100- and 4-year cycles counted from 1 January of the year 1.
  - `Time.date_civil`: the date of a day leads back to that day.
  - `Time.civil_valid`: the date has a month from 1 to 12 and a day the month has.
* `Time.marshalJSON` fails, as Go does, when the local year is outside 0 to 9999 or the zone is
  24 hours or more off UTC. `Time.unmarshalJSON` is `parseRFC3339`'s fast path. The fallback to
  `time.Parse` that follows a failed fast path is not modelled: here that text is an error.
* `Time.unmarshalJSON_marshalJSON`: for a `Writable` time (local year from 0 to 9999, offset a
  whole number of minutes under 24 hours), reading what `MarshalJSON` wrote gives the same
  instant.
* `Time.rfc3339_offset_seconds`: with an offset that is not a whole number of minutes (the local
  mean time zones before standard time had them), the instant read back is another one. The
  text keeps the offset's hours and minutes only.
-/

namespace VolumeManager

namespace Time

/-- The offset in seconds east of UTC that a time's `Location` has at each Unix second. -/
abbrev Zone := Int → Int

/-! ## The calendar -/

/-- `n / m` cut back from 4 to 3, as `absDate` does with `n -= n >> 2`: the last day of the
longer last cycle. -/
def capDiv (r m : Int) : Int := r / m - r / m / 4

/-- `absDate`'s year split of a day counted from 1 January of the year 1: the whole years before
it and the day of its year (from 0). -/
def yearSplit (d : Int) : Int × Int :=
  let n := d / 146097
  let r := d - 146097 * n
  let c := capDiv r 36524
  let r₂ := r - 36524 * c
  let q := r₂ / 1461
  let r₃ := r₂ - 1461 * q
  let y := capDiv r₃ 365
  (400 * n + 100 * c + 4 * q + y, r₃ - 365 * y)

/-- `daysSinceEpoch`: the days in the first `y` years, counted from 1 January of the year 1. -/
def daysSinceYear (y : Int) : Int :=
  let n400 := y / 400
  let y₁ := y - 400 * n400
  let n100 := y₁ / 100
  let y₂ := y₁ - 100 * n100
  let n4 := y₂ / 4
  146097 * n400 + 36524 * n100 + 1461 * n4 + 365 * (y₂ - 4 * n4)

/-- `isLeap`. -/
def isLeap (year : Int) : Bool := year % 4 = 0 ∧ (year % 100 ≠ 0 ∨ year % 400 = 0)

/-- `daysBefore`: the days of the year before each month (0-based) and, last, the days of a
common year. -/
def daysBefore : List Nat := [0, 31, 59, 90, 120, 151, 181, 212, 243, 273, 304, 334, 365]

/-- `daysIn`: the days of a month (1-based) in a year. -/
def daysIn (month : Nat) (year : Int) : Nat :=
  if month = 2 ∧ isLeap year then 29 else daysBefore.getD month 0 - daysBefore.getD (month - 1) 0

/-- `absDate`'s month and day of the month (both 1-based) of a day of the year (0-based). -/
def monthDay (leap : Bool) (yday : Nat) : Nat × Nat :=
  if leap ∧ yday = 59 then (2, 29)
  else
    let day := if leap ∧ 59 < yday then yday - 1 else yday
    let month := day / 31
    let stop := daysBefore.getD (month + 1) 0
    if stop ≤ day then (month + 2, day - stop + 1)
    else (month + 1, day - daysBefore.getD month 0 + 1)

/-- The days from 1 January of the year 1 to 1 January 1970. -/
def unixToAbsDays : Int := 719162

/-- The date (year, month, day) of a day counted from 1 January 1970. -/
def civil (days : Int) : Int × Nat × Nat :=
  let (y, yday) := yearSplit (days + unixToAbsDays)
  let year := y + 1
  let (month, day) := monthDay (isLeap year) yday.toNat
  (year, month, day)

/-- `time.Date` at midnight UTC, on a date whose month and day are in range: the day counted
from 1 January 1970. -/
def date (year : Int) (month day : Nat) : Int :=
  daysSinceYear (year - 1) - unixToAbsDays + daysBefore.getD (month - 1) 0 +
    (if isLeap year ∧ 3 ≤ month then 1 else 0) + day - 1

/-- The century within a 400-year cycle: 0 to 3, with 36524 days left only in the last, longer one. -/
theorem capDiv_century {r : Int} (h0 : 0 ≤ r) (h1 : r < 146097) :
    0 ≤ capDiv r 36524 ∧ capDiv r 36524 ≤ 3 ∧ 0 ≤ r - 36524 * capDiv r 36524 ∧
      r - 36524 * capDiv r 36524 ≤ 36524 ∧
      (r - 36524 * capDiv r 36524 = 36524 → capDiv r 36524 = 3) := by
  unfold capDiv; omega

/-- The year within a 4-year cycle: 0 to 3, with 365 days left only in the last, leap one. -/
theorem capDiv_year {r : Int} (h0 : 0 ≤ r) (h1 : r ≤ 1460) :
    0 ≤ capDiv r 365 ∧ capDiv r 365 ≤ 3 ∧ 0 ≤ r - 365 * capDiv r 365 ∧
      r - 365 * capDiv r 365 ≤ 365 ∧ (r - 365 * capDiv r 365 = 365 → capDiv r 365 = 3) := by
  unfold capDiv; omega

/-- The days before a year counted in 400-, 100-, 4- and 1-year cycles. -/
theorem daysSinceYear_cycles {n c q y : Int} (hc : 0 ≤ c ∧ c ≤ 3) (hq : 0 ≤ q ∧ q ≤ 24)
    (hy : 0 ≤ y ∧ y ≤ 3) :
    daysSinceYear (400 * n + 100 * c + 4 * q + y) = 146097 * n + 36524 * c + 1461 * q + 365 * y := by
  simp only [daysSinceYear]
  omega

/-- The cycles `yearSplit` finds: `n` 400-year cycles, `c` centuries, `q` 4-year cycles and `y`
years, with the day of the year `r₃ - 365 * y`. Day 365 of a year only comes last in a 4-year
cycle, and a 4-year cycle numbered 24 runs to its end only in the last century. -/
theorem yearSplit_spec (d : Int) : ∃ n c q y r₃,
    yearSplit d = (400 * n + 100 * c + 4 * q + y, r₃ - 365 * y) ∧
      d = 146097 * n + 36524 * c + 1461 * q + r₃ ∧
      0 ≤ c ∧ c ≤ 3 ∧ 0 ≤ q ∧ q ≤ 24 ∧ 0 ≤ y ∧ y ≤ 3 ∧ 0 ≤ r₃ - 365 * y ∧ r₃ - 365 * y ≤ 365 ∧
      0 ≤ r₃ ∧ (r₃ - 365 * y = 365 → y = 3) ∧ (q = 24 → c = 3 ∨ r₃ ≤ 1459) := by
  have hr : 0 ≤ d - 146097 * (d / 146097) ∧ d - 146097 * (d / 146097) < 146097 := by omega
  obtain ⟨c0, c3, r0, r1, rc⟩ := capDiv_century hr.1 hr.2
  generalize hc : capDiv (d - 146097 * (d / 146097)) 36524 = c at *
  have hq : 0 ≤ (d - 146097 * (d / 146097) - 36524 * c) / 1461 ∧
      (d - 146097 * (d / 146097) - 36524 * c) / 1461 ≤ 24 := by omega
  generalize hq' : (d - 146097 * (d / 146097) - 36524 * c) / 1461 = q at *
  have h3 : 0 ≤ d - 146097 * (d / 146097) - 36524 * c - 1461 * q ∧
      d - 146097 * (d / 146097) - 36524 * c - 1461 * q ≤ 1460 := by omega
  obtain ⟨y0, y3, s0, s1, sc⟩ := capDiv_year h3.1 h3.2
  refine ⟨d / 146097, c, q, capDiv (d - 146097 * (d / 146097) - 36524 * c - 1461 * q) 365,
    d - 146097 * (d / 146097) - 36524 * c - 1461 * q, by simp only [yearSplit, hc, hq'], by omega, c0,
    c3, hq.1, hq.2, y0, y3, s0, s1, h3.1, sc, fun h24 => ?_⟩
  subst h24
  omega

/-- The year split gives back the day: the days before its year plus the day of the year. -/
theorem yearSplit_inv (d : Int) : daysSinceYear (yearSplit d).1 + (yearSplit d).2 = d := by
  obtain ⟨n, c, q, y, r₃, h, hd, c0, c3, q0, q24, y0, y3, -⟩ := yearSplit_spec d
  rw [h, daysSinceYear_cycles ⟨c0, c3⟩ ⟨q0, q24⟩ ⟨y0, y3⟩]
  omega

/-- A day of the year is below 365, or the year is a leap year. -/
theorem yearSplit_yday (d : Int) : 0 ≤ (yearSplit d).2 ∧ (yearSplit d).2 ≤ 365 ∧
    ((yearSplit d).2 ≤ 364 ∨ isLeap ((yearSplit d).1 + 1)) := by
  obtain ⟨n, c, q, y, r₃, h, -, c0, c3, q0, q24, -, -, s0, s1, -, sc, hq⟩ := yearSplit_spec d
  rw [h]
  refine ⟨s0, s1, ?_⟩
  by_cases hy : r₃ - 365 * y ≤ 364
  · exact .inl hy
  · right
    obtain rfl := sc (by omega)
    simp only [isLeap, decide_eq_true_eq]
    omega

/-- `monthDay` inverts `date`'s count of the days before a month, and gives a day the month has. -/
theorem monthDay_spec : ∀ yday < 366, ∀ leap : Bool, yday ≤ 364 + (if leap then 1 else 0) →
    daysBefore.getD ((monthDay leap yday).1 - 1) 0 +
        (if leap ∧ 3 ≤ (monthDay leap yday).1 then 1 else 0) + (monthDay leap yday).2 - 1 = yday ∧
      1 ≤ (monthDay leap yday).1 ∧ (monthDay leap yday).1 ≤ 12 ∧ 1 ≤ (monthDay leap yday).2 ∧
      (monthDay leap yday).2 ≤
        if (monthDay leap yday).1 = 2 ∧ leap then 29
        else daysBefore.getD (monthDay leap yday).1 0 - daysBefore.getD ((monthDay leap yday).1 - 1) 0 := by
  set_option maxRecDepth 4000 in decide

/-- The month and day `civil` finds for a day of the year, with what `monthDay_spec` says of
them. -/
theorem civil_monthDay (days : Int) : ∃ y yday : Int,
    yearSplit (days + unixToAbsDays) = (y, yday) ∧ daysSinceYear y + yday = days + unixToAbsDays ∧
      civil days = (y + 1, monthDay (isLeap (y + 1)) yday.toNat) ∧ 0 ≤ yday ∧ yday.toNat < 366 ∧
      yday.toNat ≤ 364 + (if isLeap (y + 1) then 1 else 0) := by
  have hs := yearSplit_inv (days + unixToAbsDays)
  obtain ⟨h0, h365, hl⟩ := yearSplit_yday (days + unixToAbsDays)
  generalize hp : yearSplit (days + unixToAbsDays) = p at hs h0 h365 hl
  obtain ⟨y, yday⟩ := p
  refine ⟨y, yday, rfl, hs, by simp only [civil, hp], h0, by omega, ?_⟩
  cases h : isLeap (y + 1) <;> simp only [h, Bool.false_eq_true, or_false, if_false, if_true] at hl ⊢ <;>
    omega

/-- The date of a day leads back to the day. -/
theorem date_civil (days : Int) :
    date (civil days).1 (civil days).2.1 (civil days).2.2 = days := by
  obtain ⟨y, yday, -, hs, hc, h0, h366, hl⟩ := civil_monthDay days
  have hm := monthDay_spec yday.toNat h366 (isLeap (y + 1)) hl
  rw [hc]
  generalize monthDay (isLeap (y + 1)) yday.toNat = md at hm
  simp only [date, show y + 1 - 1 = y by omega]
  split_ifs at hm ⊢ <;> omega

/-- The date of a day has a month from 1 to 12 and a day that month has. -/
theorem civil_valid (days : Int) :
    1 ≤ (civil days).2.1 ∧ (civil days).2.1 ≤ 12 ∧ 1 ≤ (civil days).2.2 ∧
      (civil days).2.2 ≤ daysIn (civil days).2.1 (civil days).1 := by
  obtain ⟨y, yday, -, -, hc, -, h366, hl⟩ := civil_monthDay days
  have hm := monthDay_spec yday.toNat h366 (isLeap (y + 1)) hl
  rw [hc]
  exact ⟨hm.2.1, hm.2.2.1, hm.2.2.2.1, by simpa [daysIn, and_comm] using hm.2.2.2.2⟩

/-! ## Writing -/

/-- The decimal digit of a value below 10. -/
def digit (n : Nat) : Char := Char.ofNat (48 + n)

/-- `appendInt` with a width, for a value of at most that many digits: its last `width` digits,
zero-padded. -/
def fixed : Nat → Nat → List Char
  | 0, _ => []
  | w + 1, n => fixed w (n / 10) ++ [digit (n % 10)]

/-- The digits without their trailing zeros. -/
def trimZeros (cs : List Char) : List Char := (cs.reverse.dropWhile (· = '0')).reverse

/-- `appendNano` for the `.999999999` of `RFC3339Nano`: nothing for a whole second, else a dot and
the nanoseconds without their trailing zeros. -/
def fraction (nsec : Nat) : List Char := if nsec = 0 then [] else '.' :: trimZeros (fixed 9 nsec)

/-- The zone of `appendFormatRFC3339`: `Z` for UTC, else the sign, hours and minutes of the offset
(its seconds dropped). -/
def zoneText (offset : Int) : List Char :=
  if offset = 0 then ['Z']
  else
    (if offset < 0 ∧ offset.natAbs / 60 ≠ 0 then '-' else '+') :: fixed 2 (offset.natAbs / 3600) ++
      ':' :: fixed 2 (offset.natAbs / 60 % 60)

/-- The Unix second of an instant (nanoseconds since the epoch). -/
def unixSec (t : Int) : Int := t / 1000000000

/-- The nanoseconds within that second. -/
def nanos (t : Int) : Nat := (t % 1000000000).toNat

/-- The local time of an instant, in seconds from 1970 with the zone's offset added. -/
def localSec (zone : Zone) (t : Int) : Int := unixSec t + zone (unixSec t)

/-- The year of the local date. -/
def localYear (zone : Zone) (t : Int) : Int := (civil (localSec zone t / 86400)).1

/-- `appendFormatRFC3339` with nanoseconds, for a local year from 0 to 9999. -/
def rfc3339 (zone : Zone) (t : Int) : List Char :=
  let secs := localSec zone t
  let (year, month, day) := civil (secs / 86400)
  let sod := (secs % 86400).toNat
  fixed 4 year.toNat ++ '-' :: fixed 2 month ++ '-' :: fixed 2 day ++ 'T' :: fixed 2 (sod / 3600) ++
    ':' :: fixed 2 (sod % 3600 / 60) ++ ':' :: fixed 2 (sod % 60) ++ fraction (nanos t) ++
    zoneText (zone (unixSec t))

/-- `Time.MarshalJSON`: the RFC 3339 text in quotes, or an error for a year outside 0 to 9999 or
a zone 24 hours or more off UTC. -/
def marshalJSON (zone : Zone) (t : Int) : Except String (List Char) :=
  if localYear zone t < 0 ∨ 9999 < localYear zone t then
    .error "Time.MarshalJSON: year outside of range [0,9999]"
  else if zone (unixSec t) ≠ 0 ∧ 24 ≤ (zone (unixSec t)).natAbs / 3600 then
    .error "Time.MarshalJSON: timezone hour outside of range [0,23]"
  else .ok ('"' :: rfc3339 zone t ++ ['"'])

/-! ## Reading -/

/-- The value of a run of decimal digits; `none` if one is not a digit. -/
def decimal (cs : List Char) : Option Nat :=
  cs.foldl (fun acc c => acc.bind fun x => if c.isDigit then some (x * 10 + (c.toNat - 48)) else none)
    (some 0)

/-- `parseUint` of `parseRFC3339`: the value of the digits, if it lies from `lo` to `hi`. -/
def parseUint (cs : List Char) (lo hi : Nat) : Option Nat :=
  (decimal cs).bind fun x => if lo ≤ x ∧ x ≤ hi then some x else none

/-- The fractional second of `parseRFC3339`: after a dot, the digits, the first nine of them the
nanoseconds (`parseNanoseconds`); and the text after them. -/
def parseFraction : List Char → Nat × List Char
  | [] => (0, [])
  | [c] => (0, [c])
  | c :: d :: rest =>
    if c = '.' ∧ d.isDigit then
      let ds := ((d :: rest).takeWhile Char.isDigit).take 9
      ((decimal ds).getD 0 * 10 ^ (9 - ds.length), (d :: rest).dropWhile Char.isDigit)
    else (0, c :: d :: rest)

/-- The zone of `parseRFC3339`: `Z`, or a sign, hours to 23, a colon and minutes to 59. -/
def parseZone : List Char → Option Int
  | [z] => if z = 'Z' then some 0 else none
  | [sign, h₁, h₂, colon, m₁, m₂] =>
    (parseUint [h₁, h₂] 0 23).bind fun hr => (parseUint [m₁, m₂] 0 59).bind fun mm =>
      if (sign = '-' ∨ sign = '+') ∧ colon = ':' then
        some (if sign = '-' then -((hr * 60 + mm) * 60 : Int) else (hr * 60 + mm) * 60)
      else none
  | _ => none

/-- `parseRFC3339`, the fast path of `parseStrictRFC3339`: the instant of the text. -/
def parseRFC3339 (s : List Char) : Option Int :=
  if s.length < 19 then none
  else
    (parseUint (s.take 4) 0 9999).bind fun year =>
    (parseUint ((s.drop 5).take 2) 1 12).bind fun month =>
    (parseUint ((s.drop 8).take 2) 1 (daysIn month year)).bind fun day =>
    (parseUint ((s.drop 11).take 2) 0 23).bind fun hour =>
    (parseUint ((s.drop 14).take 2) 0 59).bind fun min =>
    (parseUint ((s.drop 17).take 2) 0 59).bind fun sec =>
      if s.get? 4 = some '-' ∧ s.get? 7 = some '-' ∧ s.get? 10 = some 'T' ∧ s.get? 13 = some ':' ∧
          s.get? 16 = some ':' then
        (parseZone (parseFraction (s.drop 19)).2).map fun offset =>
          (date year month day * 86400 + hour * 3600 + min * 60 + sec - offset) * 1000000000 +
            (parseFraction (s.drop 19)).1
      else none

/-- `Time.UnmarshalJSON` of a string literal's text, taken as it is (not unquoted). -/
def unmarshalJSON (lit : List Char) : Except String Int :=
  match parseRFC3339 lit with
  | some t => .ok t
  | none => .error "parsing time: not RFC 3339"

/-! ## Reading what was written -/

/-- Each digit character is a digit, reads back as its value, and is 0 only for zero. -/
theorem digit_spec : ∀ k < 10, (digit k).isDigit = true ∧ (digit k).toNat - 48 = k ∧
    (digit k = '0' ↔ k = 0) := by decide

/-- Appending a digit multiplies the value by ten and adds the digit. -/
theorem decimal_append_digit (cs : List Char) {k : Nat} (hk : k < 10) :
    decimal (cs ++ [digit k]) = (decimal cs).map (· * 10 + k) := by
  obtain ⟨h1, h2, -⟩ := digit_spec k hk
  simp only [decimal, List.foldl_append, List.foldl_cons, List.foldl_nil, h1, if_true, h2]
  cases List.foldl _ (some 0) cs <;> rfl

/-- A number written in enough digits reads back. -/
theorem decimal_fixed (w : Nat) {n : Nat} (h : n < 10 ^ w) : decimal (fixed w n) = some n := by
  induction w generalizing n with
  | zero => simp at h; subst h; rfl
  | succ w ih =>
    rw [fixed, decimal_append_digit _ (Nat.mod_lt _ (by omega)),
      ih (Nat.div_lt_of_lt_mul (by rwa [Nat.pow_succ, Nat.mul_comm] at h))]
    simp only [Option.map_some', Option.some.injEq]
    omega

/-- A number written in width w takes w characters. -/
theorem fixed_length (w n : Nat) : (fixed w n).length = w := by
  induction w generalizing n with
  | zero => rfl
  | succ w ih => simp [fixed, ih]

/-- A number written in a width is all digits. -/
theorem fixed_isDigit (w n : Nat) : ∀ c ∈ fixed w n, c.isDigit = true := by
  induction w generalizing n with
  | zero => simp [fixed]
  | succ w ih =>
    simp only [fixed, List.mem_append, List.mem_singleton]
    rintro c (hc | rfl)
    · exact ih _ c hc
    · exact (digit_spec _ (Nat.mod_lt _ (by omega))).1

/-- Equation lemma: a number in two digits. -/
theorem fixed_two (n : Nat) : fixed 2 n = [digit (n / 10 % 10), digit (n % 10)] := by
  simp [fixed]

/-- Equation lemma: a number in four digits. -/
theorem fixed_four (n : Nat) :
    fixed 4 n = [digit (n / 1000 % 10), digit (n / 100 % 10), digit (n / 10 % 10), digit (n % 10)] := by
  simp [fixed, Nat.div_div_eq_div_mul]

/-- A number written in enough digits and within the bounds parses back. -/
theorem parseUint_fixed {w n lo hi : Nat} (h : n < 10 ^ w) (hl : lo ≤ n) (hh : n ≤ hi) :
    parseUint (fixed w n) lo hi = some n := by
  simp [parseUint, decimal_fixed w h, hl, hh]

/-- A two-digit field: its two characters, and that `parseUint` reads them back. -/
theorem parseUint_fixed_two {n lo hi : Nat} (h : n < 100) (hl : lo ≤ n) (hh : n ≤ hi) :
    ∃ x y, fixed 2 n = [x, y] ∧ parseUint [x, y] lo hi = some n :=
  ⟨_, _, fixed_two n, fixed_two n ▸ parseUint_fixed h hl hh⟩

/-- Trimming zeros off digits with one more at the end: a zero goes, any other digit stays with all
before it. -/
theorem trimZeros_append (cs : List Char) (d : Char) :
    trimZeros (cs ++ [d]) = if d = '0' then trimZeros cs else cs ++ [d] := by
  unfold trimZeros
  split_ifs with h <;> simp [List.dropWhile, h]

/-- Trimming the zeros of a positive number written in width w leaves it written in a width k from 1
to w, whose value times ten to the digits cut is the number. -/
theorem trimZeros_fixed : ∀ w n, 0 < n → n < 10 ^ w → ∃ k v, trimZeros (fixed w n) = fixed k v ∧
    0 < k ∧ k ≤ w ∧ v < 10 ^ k ∧ v * 10 ^ (w - k) = n
  | 0, n, h0, h => by simp at h; omega
  | w + 1, n, h0, h => by
    have hk := digit_spec (n % 10) (Nat.mod_lt _ (by omega))
    rw [fixed, trimZeros_append]
    by_cases hz : n % 10 = 0
    · rw [if_pos (hk.2.2.2 hz)]
      obtain ⟨k, v, ht, hk0, hkw, hv, hvn⟩ :=
        trimZeros_fixed w (n / 10) (by omega) (Nat.div_lt_of_lt_mul (by rwa [Nat.pow_succ, Nat.mul_comm] at h))
      refine ⟨k, v, ht, hk0, by omega, hv, ?_⟩
      rw [show w + 1 - k = (w - k) + 1 by omega, Nat.pow_succ, ← Nat.mul_assoc, hvn]
      omega
    · rw [if_neg (fun h' => hz (hk.2.2.1 h'))]
      exact ⟨w + 1, n, rfl, by omega, Nat.le_refl _, h, by simp⟩

/-- The zone text starts with a character that is neither a digit nor a dot. -/
theorem zoneText_cons (offset : Int) : ∃ c r, zoneText offset = c :: r ∧ c.isDigit = false ∧ c ≠ '.' := by
  unfold zoneText
  split_ifs <;> exact ⟨_, _, rfl, by decide, by decide⟩

/-- The fraction written for nanoseconds, followed by a character that ends it, parses back. -/
theorem parseFraction_fraction {nsec : Nat} (h : nsec < 10 ^ 9) {c : Char} (r : List Char)
    (hc : c.isDigit = false) (hdot : c ≠ '.') :
    parseFraction (fraction nsec ++ c :: r) = (nsec, c :: r) := by
  unfold fraction
  split_ifs with h0
  · subst h0
    cases r with
    | nil => rfl
    | cons d r => simp [parseFraction, hdot]
  · obtain ⟨k, v, ht, hk0, hk9, hv, hvn⟩ := trimZeros_fixed 9 nsec (by omega) h
    obtain ⟨d, ds, hd⟩ : ∃ d ds, fixed k v = d :: ds :=
      List.exists_cons_of_length_pos (by rw [fixed_length]; exact hk0)
    have hdig := fixed_isDigit k v
    have htake : ((fixed k v ++ c :: r).takeWhile Char.isDigit).take 9 = fixed k v := by
      rw [List.takeWhile_append_of_pos hdig, List.takeWhile_cons_of_neg (by simp [hc]),
        List.append_nil, List.take_of_length_le (by rw [fixed_length]; exact hk9)]
    have hdrop : (fixed k v ++ c :: r).dropWhile Char.isDigit = c :: r := by
      rw [List.dropWhile_append_of_pos hdig, List.dropWhile_cons_of_neg (by simp [hc])]
    rw [ht, List.cons_append]
    rw [hd] at htake hdrop hdig
    rw [hd, List.cons_append, parseFraction, if_pos ⟨rfl, hdig d (List.mem_cons_self _ _)⟩]
    simp only [List.cons_append] at htake hdrop
    dsimp only
    rw [htake, hdrop, ← hd, decimal_fixed k hv, fixed_length]
    simp [hvn]

/-- The zone text of an offset of whole minutes under a day parses back. -/
theorem parseZone_zoneText {offset : Int} (hm : offset % 60 = 0) (hd : offset.natAbs < 86400) :
    parseZone (zoneText offset) = some offset := by
  obtain ⟨x₁, x₂, hx, hpx⟩ := parseUint_fixed_two (by omega) (Nat.zero_le (offset.natAbs / 3600))
    (show offset.natAbs / 3600 ≤ 23 by omega)
  obtain ⟨y₁, y₂, hy, hpy⟩ := parseUint_fixed_two (by omega) (Nat.zero_le (offset.natAbs / 60 % 60))
    (show offset.natAbs / 60 % 60 ≤ 59 by omega)
  unfold zoneText
  split_ifs with h0 hs
  · simp [h0, parseZone]
  all_goals
    rw [hx, hy]
    simp only [List.cons_append, List.nil_append, parseZone, hpx, hpy, Option.some_bind, true_or,
      or_true, and_true, if_true, eq_false (by decide : '+' ≠ '-'), if_false, Option.some.injEq]
    rcases Int.natAbs_eq offset with he | he <;> omega

/-- What writing a time and reading it back needs: a local year from 0 to 9999, and a zone
offset of whole minutes under 24 hours. -/
structure Writable (zone : Zone) (t : Int) : Prop where
  year_nonneg : 0 ≤ localYear zone t
  year_le : localYear zone t ≤ 9999
  whole_minutes : zone (unixSec t) % 60 = 0
  under_day : (zone (unixSec t)).natAbs < 86400

/-- Whether a time is writable is decidable, so examples can be checked by evaluation. -/
instance (zone : Zone) (t : Int) : Decidable (Writable zone t) :=
  decidable_of_iff (0 ≤ localYear zone t ∧ localYear zone t ≤ 9999 ∧ zone (unixSec t) % 60 = 0 ∧
      (zone (unixSec t)).natAbs < 86400)
    ⟨fun ⟨a, b, c, d⟩ => ⟨a, b, c, d⟩, fun ⟨a, b, c, d⟩ => ⟨a, b, c, d⟩⟩

/-- No month has more than 31 days. -/
theorem daysIn_le (month : Nat) (year : Int) : daysIn month year ≤ 31 := by
  unfold daysIn
  split_ifs
  · omega
  · by_cases h : month < 13
    · exact (by decide : ∀ m < 13, daysBefore.getD m 0 - daysBefore.getD (m - 1) 0 ≤ 31) month h
    · rw [List.getD_eq_default _ _ (by simp [daysBefore]; omega)]
      omega

/-- A writable time's RFC 3339 text parses back to it. -/
theorem parseRFC3339_rfc3339 {zone : Zone} {t : Int} (h : Writable zone t) :
    parseRFC3339 (rfc3339 zone t) = some t := by
  obtain ⟨hy0, hy9, hmin, hday⟩ := h
  obtain ⟨hm1, hm12, hd1, hdd⟩ := civil_valid (localSec zone t / 86400)
  have hdate := date_civil (localSec zone t / 86400)
  unfold localYear at hy0 hy9
  unfold rfc3339
  dsimp only
  generalize civil (localSec zone t / 86400) = c at hm1 hm12 hd1 hdd hdate hy0 hy9 ⊢
  obtain ⟨year, month, day⟩ := c
  dsimp only at hm1 hm12 hd1 hdd hdate hy0 hy9 ⊢
  have hsod : ((localSec zone t % 86400).toNat : Int) = localSec zone t % 86400 := by omega
  generalize (localSec zone t % 86400).toNat = sod at hsod ⊢
  have hyear : (year.toNat : Int) = year := by omega
  obtain ⟨a₁, a₂, a₃, a₄, ha⟩ : ∃ a₁ a₂ a₃ a₄, fixed 4 year.toNat = [a₁, a₂, a₃, a₄] :=
    ⟨_, _, _, _, fixed_four _⟩
  have hpa : parseUint [a₁, a₂, a₃, a₄] 0 9999 = some year.toNat :=
    ha ▸ parseUint_fixed (by omega) (Nat.zero_le _) (by omega)
  obtain ⟨b₁, b₂, hb, hpb⟩ := parseUint_fixed_two (by omega) hm1 hm12
  obtain ⟨c₁, c₂, hc, hpc⟩ := parseUint_fixed_two (by have := daysIn_le month year; omega) hd1
    (show day ≤ daysIn month year.toNat by rwa [hyear])
  obtain ⟨d₁, d₂, hd, hpd⟩ := parseUint_fixed_two (by omega) (Nat.zero_le (sod / 3600))
    (show sod / 3600 ≤ 23 by omega)
  obtain ⟨e₁, e₂, he, hpe⟩ := parseUint_fixed_two (by omega) (Nat.zero_le (sod % 3600 / 60))
    (show sod % 3600 / 60 ≤ 59 by omega)
  obtain ⟨f₁, f₂, hf, hpf⟩ := parseUint_fixed_two (by omega) (Nat.zero_le (sod % 60))
    (show sod % 60 ≤ 59 by omega)
  obtain ⟨z, zs, hz, hzd, hzdot⟩ := zoneText_cons (zone (unixSec t))
  have hfr := parseFraction_fraction (show nanos t < 10 ^ 9 by unfold nanos; omega) zs hzd hzdot
  have hzone := parseZone_zoneText hmin hday
  rw [hz] at hzone
  rw [ha, hb, hc, hd, he, hf, hz]
  simp only [List.cons_append, List.nil_append, List.append_assoc]
  rw [hyear] at hpc
  rw [parseRFC3339, if_neg (by simp)]
  simp only [List.take, List.drop, List.get?_cons_zero, List.get?_cons_succ, hpa, hpb, hyear, hpc,
    hpd, hpe, hpf, Option.some_bind, hfr, hzone, true_and, if_true, Option.map_some', Option.some.injEq,
    hdate]
  unfold nanos localSec unixSec at *
  omega

/-- MarshalJSON of a writable time succeeds with its RFC 3339 text in quotes. -/
theorem marshalJSON_ok {zone : Zone} {t : Int} (h : Writable zone t) :
    marshalJSON zone t = .ok ('"' :: rfc3339 zone t ++ ['"']) := by
  rw [marshalJSON, if_neg (by have := h.year_nonneg; have := h.year_le; omega),
    if_neg (by have := h.under_day; omega)]

/-- The characters a time's text is made of. -/
def timeChars : List Char := "0123456789-T:.Z+".data

/-- JSON escaping writes each character of a time's text as itself. -/
theorem escapeChar_timeChars : ∀ c ∈ timeChars, Json.escapeChar c = [c] := by decide

/-- A number written in a width uses only characters of a time's text. -/
theorem fixed_timeChars (w n : Nat) : ∀ c ∈ fixed w n, c ∈ timeChars := by
  induction w generalizing n with
  | zero => simp [fixed]
  | succ w ih =>
    simp only [fixed, List.mem_append, List.mem_singleton]
    rintro c (hc | rfl)
    · exact ih _ c hc
    · exact (by decide : ∀ k < 10, digit k ∈ timeChars) _ (Nat.mod_lt _ (by omega))

/-- A time's RFC 3339 text uses only the characters of timeChars. -/
theorem rfc3339_timeChars (zone : Zone) (t : Int) : ∀ c ∈ rfc3339 zone t, c ∈ timeChars := by
  have hf := fixed_timeChars
  have hfr : ∀ c ∈ fraction (nanos t), c ∈ timeChars := by
    intro c hc
    unfold fraction trimZeros at hc
    split_ifs at hc
    · simp at hc
    · rcases List.mem_cons.1 hc with rfl | hc
      · decide
      · exact hf 9 _ c (List.mem_reverse.1 ((List.dropWhile_suffix _).subset (List.mem_reverse.1 hc)))
  have hz : ∀ c ∈ zoneText (zone (unixSec t)), c ∈ timeChars := by
    unfold zoneText
    split_ifs
    · simp [show 'Z' ∈ timeChars by decide]
    all_goals
      simp only [List.forall_mem_append, List.forall_mem_cons]
      exact ⟨⟨by decide, hf _ _⟩, by decide, hf _ _⟩
  unfold rfc3339
  simp only [List.forall_mem_append, List.forall_mem_cons, and_assoc]
  exact ⟨hf _ _, by decide, hf _ _, by decide, hf _ _, by decide, hf _ _, by decide, hf _ _, by decide,
    hf _ _, hfr, hz⟩

/-- A time's text needs no escape in a JSON string. -/
theorem escape_rfc3339 (zone : Zone) (t : Int) : Json.escape ⟨rfc3339 zone t⟩ = rfc3339 zone t :=
  Json.escape_of_plain fun c hc => escapeChar_timeChars c (rfc3339_timeChars zone t c hc)

/-- Reading back what `Time.MarshalJSON` wrote gives the same instant. -/
theorem unmarshalJSON_marshalJSON {zone : Zone} {t : Int} (h : Writable zone t) :
    marshalJSON zone t = .ok ('"' :: rfc3339 zone t ++ ['"']) ∧ unmarshalJSON (rfc3339 zone t) = .ok t :=
  ⟨marshalJSON_ok h, by rw [unmarshalJSON, parseRFC3339_rfc3339 h]⟩

/-- An offset of 19 minutes 32 seconds (Amsterdam's mean time until 1937) is written as `+00:19`:
the Unix epoch is read back 32 seconds later. -/
theorem rfc3339_offset_seconds :
    rfc3339 (fun _ => 1172) 0 = "1970-01-01T00:19:32+00:19".data ∧
      unmarshalJSON (rfc3339 (fun _ => 1172) 0) = .ok 32000000000 :=
  ⟨by decide, rfl⟩

end Time

end VolumeManager