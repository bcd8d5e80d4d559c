import Mathlib.Algebra.GroupWithZero.Nat
import Mathlib.Data.List.Basic
import Mathlib.Order.Monotone.Basic

/-!
# SysrepoInterfaces.Lib.Calendar

The calendar of the C library and of RFC 3339: the Gregorian one, in both
directions, with days of 86400 seconds.

* `dateTimeOf` — the date and time of day of a number of seconds since 1970,
  what `gmtime` makes of a `time_t`;
* `DateTime.seconds` — back again;
* `DateTime.text` — the format `%FT%T` of `strftime`;
* `readRfc3339` — the instant a text with whole seconds denotes.
-/

namespace Calendar

/-! ## years -/

def isLeap (year : Int) : Bool := year % 4 = 0 ∧ (year % 100 ≠ 0 ∨ year % 400 = 0)

/-- Days from the beginning of the year 0 to the beginning of a year. -/
def daysBeforeYear (year : Int) : Int :=
  365 * year + (year + 3) / 4 - (year + 99) / 100 + (year + 399) / 400

/-- The year of a day: a guess that is one off at most. -/
def yearOf (day : Int) : Int :=
  let year := 400 * day / 146097
  if day < daysBeforeYear year then year - 1
  else if daysBeforeYear (year + 1) ≤ day then year + 1 else year

theorem daysBeforeYear_succ (year : Int) :
    daysBeforeYear (year + 1) = daysBeforeYear year + if isLeap year then 366 else 365 := by
  unfold daysBeforeYear isLeap
  simp only [decide_eq_true_eq]
  split <;> omega

/-- A day is in its year. -/
theorem yearOf_spec (day : Int) :
    daysBeforeYear (yearOf day) ≤ day ∧ day < daysBeforeYear (yearOf day + 1) := by
  have hlow : daysBeforeYear (400 * day / 146097 - 1) ≤ day := by
    unfold daysBeforeYear
    omega
  have hhigh : day < daysBeforeYear (400 * day / 146097 + 1 + 1) := by
    unfold daysBeforeYear
    omega
  unfold yearOf
  simp only
  split_ifs with hbefore hafter
  · rw [Int.sub_add_cancel]
    exact ⟨hlow, hbefore⟩
  · exact ⟨hafter, hhigh⟩
  · exact ⟨Int.not_lt.mp hbefore, Int.not_le.mp hafter⟩

/-! ## months -/

def daysInMonth (leap : Bool) : Nat → Nat
  | 2 => if leap then 29 else 28
  | 4 | 6 | 9 | 11 => 30
  | _ => 31

/-- Days from the beginning of the year to the beginning of a month. -/
def daysBeforeMonth (leap : Bool) (month : Nat) : Nat :=
  ((List.range (month - 1)).map fun m => daysInMonth leap (m + 1)).sum

/-- The month of a day of the year: as many as have begun. -/
def monthOf (leap : Bool) (yearDay : Nat) : Nat :=
  (List.range 12).countP fun m => daysBeforeMonth leap (m + 1) ≤ yearDay

theorem daysBeforeMonth_succ (leap : Bool) {month : Nat} (h : 1 ≤ month) :
    daysBeforeMonth leap (month + 1) = daysBeforeMonth leap month + daysInMonth leap month := by
  obtain ⟨m, rfl⟩ := Nat.exists_eq_add_of_le' h
  simp [daysBeforeMonth, List.range_succ]

/-- The terms of a growing sequence that are at most `d` are the first ones. -/
theorem countP_range_le {g : Nat → Nat} (hg : Monotone g) (d n : Nat) :
    (∀ i < (List.range n).countP fun m => g m ≤ d, g i ≤ d) ∧
      ∀ i < n, (List.range n).countP (fun m => g m ≤ d) ≤ i → d < g i := by
  induction n with
  | zero => simp
  | succ n ih =>
      obtain ⟨hfirst, hrest⟩ := ih
      rw [List.range_succ, List.countP_append, List.countP_singleton]
      by_cases hn : g n ≤ d
      · -- as are all before it
        have hall : (List.range n).countP (fun m => g m ≤ d) = n := by
          have hlength : (List.range n).countP (fun m => g m ≤ d) = (List.range n).length := by
            refine List.countP_eq_length.mpr fun i hi => ?_
            exact decide_eq_true ((hg (List.mem_range.mp hi).le).trans hn)
          rwa [List.length_range] at hlength
        rw [hall, if_pos (decide_eq_true hn)]
        refine ⟨fun i hi => (hg (Nat.lt_succ_iff.mp hi)).trans hn, fun i hi hle => ?_⟩
        exact absurd hi (Nat.not_lt.mpr hle)
      · rw [if_neg (by simpa using hn), Nat.add_zero]
        refine ⟨hfirst, fun i hi hle => ?_⟩
        rcases Nat.lt_succ_iff_lt_or_eq.mp hi with hi | rfl
        · exact hrest i hi hle
        · exact Nat.not_le.mp hn

/-- A day of the year is in its month. -/
theorem monthOf_spec (leap : Bool) {yearDay : Nat} (h : yearDay < if leap then 366 else 365) :
    1 ≤ monthOf leap yearDay ∧ monthOf leap yearDay ≤ 12 ∧
      daysBeforeMonth leap (monthOf leap yearDay) ≤ yearDay ∧
      yearDay < daysBeforeMonth leap (monthOf leap yearDay) +
        daysInMonth leap (monthOf leap yearDay) := by
  have hmono : Monotone fun m => daysBeforeMonth leap (m + 1) := by
    refine monotone_nat_of_le_succ fun m => ?_
    rw [daysBeforeMonth_succ leap (Nat.le_add_left 1 m)]
    exact Nat.le_add_right _ _
  obtain ⟨hbegun, hlater⟩ := countP_range_le hmono yearDay 12
  rw [← monthOf] at hbegun hlater
  have hlast : monthOf leap yearDay ≤ 12 := by
    have hlength := List.countP_le_length (p := fun m => daysBeforeMonth leap (m + 1) ≤ yearDay)
      (l := List.range 12)
    rwa [List.length_range] at hlength
  have hfirst : 1 ≤ monthOf leap yearDay := by
    -- January begins with the year
    by_contra hnone
    exact absurd (hlater 0 (by decide) (by omega)) (Nat.not_lt_zero _)
  have hbegin := hbegun (monthOf leap yearDay - 1) (by omega)
  rw [Nat.sub_add_cancel hfirst] at hbegin
  refine ⟨hfirst, hlast, hbegin, ?_⟩
  rw [← daysBeforeMonth_succ leap hfirst]
  rcases Nat.lt_or_eq_of_le hlast with hlt | heq
  · exact hlater _ hlt (Nat.le_refl _)
  · -- the year ends with December
    have hyear : daysBeforeMonth leap (12 + 1) = if leap then 366 else 365 := by
      cases leap <;> decide
    rwa [heq, hyear]

/-! ## dates and times -/

structure DateTime where
  year : Int
  month : Nat
  day : Nat
  hour : Nat
  minute : Nat
  second : Nat
deriving DecidableEq, Repr

/-- A date of the calendar and a time of day. -/
structure DateTime.Valid (t : DateTime) : Prop where
  month : 1 ≤ t.month ∧ t.month ≤ 12
  day : 1 ≤ t.day ∧ t.day ≤ daysInMonth (isLeap t.year) t.month
  hour : t.hour < 24
  minute : t.minute < 60
  second : t.second < 60

/-- Days from the beginning of the year 0 to the beginning of 1970. -/
def epochDay : Int := 719528

/-- Seconds since the beginning of 1970. -/
def DateTime.seconds (t : DateTime) : Int :=
  (daysBeforeYear t.year + daysBeforeMonth (isLeap t.year) t.month + t.day - 1 - epochDay) * 86400 +
    t.hour * 3600 + t.minute * 60 + t.second

/-- The date and time of day, without an offset. -/
def dateTimeOf (seconds : Int) : DateTime :=
  let day := seconds / 86400 + epochDay
  let second := (seconds % 86400).toNat
  let year := yearOf day
  let yearDay := (day - daysBeforeYear year).toNat
  let month := monthOf (isLeap year) yearDay
  { year, month
    day := yearDay - daysBeforeMonth (isLeap year) month + 1
    hour := second / 3600
    minute := second / 60 % 60
    second := second % 60 }

/-- The day of the year is one of the year's. -/
theorem yearDay_lt (day : Int) :
    (day - daysBeforeYear (yearOf day)).toNat < if isLeap (yearOf day) then 366 else 365 := by
  obtain ⟨hle, hlt⟩ := yearOf_spec day
  rw [daysBeforeYear_succ] at hlt
  split at hlt
  · next hleap =>
      rw [if_pos hleap]
      omega
  · next hleap =>
      rw [if_neg hleap]
      omega

theorem valid_dateTimeOf (seconds : Int) : (dateTimeOf seconds).Valid := by
  obtain ⟨hfirst, hlast, hle, hlt⟩ := monthOf_spec _ (yearDay_lt (seconds / 86400 + epochDay))
  constructor
  · exact ⟨hfirst, hlast⟩
  · simp only [dateTimeOf]
    omega
  · simp only [dateTimeOf]
    omega
  · exact Nat.mod_lt _ (by decide)
  · exact Nat.mod_lt _ (by decide)

/-- The two directions agree. -/
theorem seconds_dateTimeOf (seconds : Int) : (dateTimeOf seconds).seconds = seconds := by
  obtain ⟨-, -, hle, hlt⟩ := monthOf_spec _ (yearDay_lt (seconds / 86400 + epochDay))
  obtain ⟨hyear, -⟩ := yearOf_spec (seconds / 86400 + epochDay)
  simp only [dateTimeOf, DateTime.seconds]
  omega

/-! ## texts -/

/-- `%02d`, for numbers of at most two digits. -/
def twoDigits (n : Nat) : List Char := [Nat.digitChar (n / 10), Nat.digitChar (n % 10)]

/-- `%FT%T`; the year has as many digits as it needs. -/
def DateTime.text (t : DateTime) : List Char :=
  (toString t.year).toList ++ '-' :: twoDigits t.month ++ '-' :: twoDigits t.day ++
    'T' :: twoDigits t.hour ++ ':' :: twoDigits t.minute ++ ':' :: twoDigits t.second

/-- A number of so many digits. -/
def readNumber (digits : Nat) (cs : List Char) : Option (Nat × List Char) :=
  if (cs.take digits).length = digits ∧ (cs.take digits).all Char.isDigit then
    some (Nat.ofDigitChars 10 (cs.take digits) 0, cs.drop digits)
  else none

def readChar (c : Char) : List Char → Option (List Char)
  | [] => none
  | d :: cs => if d = c then some cs else none

/-- The offset of `Z`, `+hh:mm` or `-hh:mm`, in seconds. -/
def readOffset (cs : List Char) : Option Int :=
  match cs with
  | ['Z'] => some 0
  | sign :: cs => do
      let (hour, cs) ← readNumber 2 cs
      let cs ← readChar ':' cs
      let (minute, cs) ← readNumber 2 cs
      let offset : Int := hour * 3600 + minute * 60
      if hour < 24 ∧ minute < 60 ∧ cs = [] then
        if sign = '+' then some offset else if sign = '-' then some (-offset) else none
      else none
  | [] => none

instance (t : DateTime) : Decidable t.Valid :=
  decidable_of_iff ((1 ≤ t.month ∧ t.month ≤ 12) ∧
    (1 ≤ t.day ∧ t.day ≤ daysInMonth (isLeap t.year) t.month) ∧ t.hour < 24 ∧ t.minute < 60 ∧
      t.second < 60)
    ⟨fun h => ⟨h.1, h.2.1, h.2.2.1, h.2.2.2.1, h.2.2.2.2⟩,
      fun h => ⟨h.month, h.day, h.hour, h.minute, h.second⟩⟩

/-- The fields after the year. -/
def readFields (year : Nat) (cs : List Char) : Option (DateTime × List Char) := do
  let cs ← readChar '-' cs
  let (month, cs) ← readNumber 2 cs
  let cs ← readChar '-' cs
  let (day, cs) ← readNumber 2 cs
  let cs ← readChar 'T' cs
  let (hour, cs) ← readNumber 2 cs
  let cs ← readChar ':' cs
  let (minute, cs) ← readNumber 2 cs
  let cs ← readChar ':' cs
  let (second, cs) ← readNumber 2 cs
  return ({ year, month, day, hour, minute, second }, cs)

/-- The instant a text denotes, in seconds since 1970. -/
def readRfc3339 (text : String) : Option Int := do
  let (year, cs) ← readNumber 4 text.toList
  let (t, cs) ← readFields year cs
  let offset ← readOffset cs
  if t.Valid then some (t.seconds - offset) else none

/-! ## reading what was written -/

theorem readNumber_append {digits : List Char} (h : digits.all Char.isDigit) (cs : List Char) :
    readNumber digits.length (digits ++ cs) = some (Nat.ofDigitChars 10 digits 0, cs) := by
  rw [readNumber, List.take_left, List.drop_left, if_pos ⟨rfl, h⟩]

theorem readNumber_twoDigits {n : Nat} (h : n < 100) (cs : List Char) :
    readNumber 2 (twoDigits n ++ cs) = some (n, cs) := by
  have hall : ∀ n : Fin 100, (twoDigits n).all Char.isDigit = true ∧
      Nat.ofDigitChars 10 (twoDigits n) 0 = n := by
    decide +kernel
  obtain ⟨hdigits, hvalue⟩ := hall ⟨n, h⟩
  have hread := readNumber_append hdigits cs
  rwa [hvalue] at hread

theorem readChar_cons (c : Char) (cs : List Char) : readChar c (c :: cs) = some cs := if_pos rfl

/-- The digits of a number are as many as its size asks for. -/
theorem length_toDigits_eq_four {n : Nat} :
    (Nat.toDigits 10 n).length = 4 ↔ 1000 ≤ n ∧ n ≤ 9999 := by
  have hfour := @Nat.length_toDigits_le_iff 10 n 4 (by decide) (by decide)
  have hthree := @Nat.length_toDigits_le_iff 10 n 3 (by decide) (by decide)
  omega

theorem all_isDigit_toDigits (n : Nat) : (Nat.toDigits 10 n).all Char.isDigit = true :=
  List.all_eq_true.mpr fun _ hc => Nat.isDigit_of_mem_toDigits (by decide) (by decide) hc

theorem toList_toString_natCast (n : Nat) : (toString (n : Int)).toList = Nat.toDigits 10 n := by
  show (toString n).toList = Nat.toDigits 10 n
  rw [Nat.toString_eq_repr, Nat.toList_repr]

/-- A year of four digits is read back. -/
theorem readNumber_year {year : Int} (h : 1000 ≤ year ∧ year ≤ 9999) (cs : List Char) :
    readNumber 4 ((toString year).toList ++ cs) = some (year.toNat, cs) := by
  obtain ⟨n, rfl⟩ := Int.eq_ofNat_of_zero_le (Int.le_trans (by decide) h.1)
  have hlength := length_toDigits_eq_four.mpr (show 1000 ≤ n ∧ n ≤ 9999 by omega)
  have hread := readNumber_append (all_isDigit_toDigits n) cs
  rw [hlength, Nat.ofDigitChars_ten_toDigits] at hread
  rw [toList_toString_natCast, hread]
  rfl

theorem daysInMonth_le (leap : Bool) (month : Nat) : daysInMonth leap month ≤ 31 := by
  unfold daysInMonth
  split
  · split <;> decide
  all_goals decide

theorem readFields_text {t : DateTime} (h : t.Valid) (cs : List Char) (year : Nat) :
    readFields year ('-' :: twoDigits t.month ++ '-' :: twoDigits t.day ++
      'T' :: twoDigits t.hour ++ ':' :: twoDigits t.minute ++ ':' :: twoDigits t.second ++ cs) =
      some ({ t with year }, cs) := by
  have hday := Nat.le_trans h.day.2 (daysInMonth_le _ _)
  have hmonth : t.month < 100 := Nat.lt_of_le_of_lt h.month.2 (by decide)
  have hday : t.day < 100 := Nat.lt_of_le_of_lt hday (by decide)
  have hhour : t.hour < 100 := Nat.lt_trans h.hour (by decide)
  have hminute : t.minute < 100 := Nat.lt_trans h.minute (by decide)
  have hsecond : t.second < 100 := Nat.lt_trans h.second (by decide)
  simp only [readFields, List.cons_append, List.append_assoc, readChar_cons, Option.bind_eq_bind,
    Option.bind_some, readNumber_twoDigits hmonth, readNumber_twoDigits hday,
    readNumber_twoDigits hhour, readNumber_twoDigits hminute, readNumber_twoDigits hsecond]
  rfl

/-- A date and time in UTC denotes itself. -/
theorem readRfc3339_text {t : DateTime} (h : t.Valid) (hyear : 1000 ≤ t.year ∧ t.year ≤ 9999) :
    readRfc3339 (String.ofList (t.text ++ ['Z'])) = some t.seconds := by
  have hself : ({ t with year := (t.year.toNat : Int) } : DateTime) = t := by
    have htoNat : (t.year.toNat : Int) = t.year := Int.toNat_of_nonneg (by omega)
    rw [htoNat]
  have hfields := readFields_text h ['Z'] t.year.toNat
  rw [hself] at hfields
  simp only [List.cons_append, List.append_assoc] at hfields
  simp only [readRfc3339, String.toList_ofList, DateTime.text, List.cons_append, List.append_assoc,
    readNumber_year hyear, Option.bind_eq_bind, Option.bind_some, hfields]
  simp [readOffset, h]

theorem readNumber_eq_none {digits : Nat} {cs : List Char} {c : Char} (hc : c ∈ cs.take digits)
    (hdigit : c.isDigit = false) : readNumber digits cs = none := by
  refine if_neg ?_
  rintro ⟨-, hall⟩
  rw [List.all_eq_true.mp hall c hc] at hdigit
  cases hdigit

theorem readFields_eq_none {year : Nat} {c : Char} {cs : List Char} (hc : c ≠ '-') :
    readFields year (c :: cs) = none := by
  simp [readFields, readChar, hc]

/-- With a year of other than four digits a text denotes nothing. -/
theorem readRfc3339_eq_none {t : DateTime} (hyear : ¬ (1000 ≤ t.year ∧ t.year ≤ 9999))
    (cs : List Char) : readRfc3339 (String.ofList (t.text ++ cs)) = none := by
  obtain ⟨rest, htext⟩ : ∃ rest, t.text ++ cs = (toString t.year).toList ++ '-' :: rest := by
    simp only [DateTime.text, List.cons_append, List.append_assoc]
    exact ⟨_, rfl⟩
  rw [readRfc3339, String.toList_ofList, htext]
  rcases Int.lt_or_le t.year 0 with hneg | hpos
  · -- a sign is no digit
    obtain ⟨n, hn⟩ := Int.eq_negSucc_of_lt_zero hneg
    have hsign : (toString t.year).toList = '-' :: (toString (n + 1)).toList := by
      rw [hn]
      exact String.toList_append
    rw [hsign, List.cons_append, readNumber_eq_none (c := '-') List.mem_cons_self (by decide)]
    rfl
  · obtain ⟨n, hn⟩ := Int.eq_ofNat_of_zero_le hpos
    rw [hn, toList_toString_natCast]
    have hlength : (Nat.toDigits 10 n).length ≠ 4 := by
      rw [Ne, length_toDigits_eq_four]
      omega
    rcases Nat.lt_or_gt_of_ne hlength with hshort | hlong
    · -- the dash comes too early
      have hdash : '-' ∈ (Nat.toDigits 10 n ++ '-' :: rest).take 4 := by
        obtain ⟨k, hk⟩ := Nat.exists_eq_add_one_of_ne_zero (Nat.sub_ne_zero_of_lt hshort)
        rw [List.take_append, hk, List.take_succ_cons]
        simp
      rw [readNumber_eq_none hdash (by decide)]
      rfl
    · -- a digit comes where the dash should be
      have hdigits := all_isDigit_toDigits n
      obtain ⟨c, more, hdrop⟩ := List.exists_cons_of_ne_nil
        (show (Nat.toDigits 10 n).drop 4 ≠ [] by
          rw [Ne, List.drop_eq_nil_iff]
          omega)
      have hc : c ≠ '-' := by
        rintro rfl
        have hmem : '-' ∈ Nat.toDigits 10 n := List.mem_of_mem_drop (hdrop ▸ List.mem_cons_self)
        exact absurd (List.all_eq_true.mp hdigits '-' hmem) (by decide)
      have hread : readNumber 4 (Nat.toDigits 10 n ++ '-' :: rest) = some
          (Nat.ofDigitChars 10 ((Nat.toDigits 10 n).take 4) 0, c :: (more ++ '-' :: rest)) := by
        have htake : (Nat.toDigits 10 n ++ '-' :: rest).take 4 = (Nat.toDigits 10 n).take 4 :=
          List.take_append_of_le_length (by omega)
        have hrest : (Nat.toDigits 10 n ++ '-' :: rest).drop 4 = c :: (more ++ '-' :: rest) := by
          rw [List.drop_append_of_le_length (by omega), hdrop, List.cons_append]
        have hall : ((Nat.toDigits 10 n).take 4).all Char.isDigit = true :=
          List.all_eq_true.mpr fun c hc => List.all_eq_true.mp hdigits c (List.mem_of_mem_take hc)
        have hfour : ((Nat.toDigits 10 n).take 4).length = 4 := by
          rw [List.length_take]
          omega
        rw [readNumber, htake, hrest, if_pos ⟨hfour, hall⟩]
      rw [hread]
      simp only [Option.bind_eq_bind, Option.bind_some, readFields_eq_none hc]
      rfl

end Calendar
