import ColabPlatform.Billing.Credits
import Mathlib.Order.Basic

/-!
# Times as texts

The `datetime` values of the rows, which are all in UTC, and their ISO 8601 form.  What
`isoformat` writes `fromisoformat` reads as the same time.
-/

namespace ColabPlatform.Common

/-! ## Dates and times -/

def isLeap (year : Nat) : Bool := year % 4 = 0 && (year % 100 ≠ 0 || year % 400 = 0)

def daysInMonth (year month : Nat) : Nat :=
  if month = 2 then if isLeap year then 29 else 28
  else if month ∈ [4, 6, 9, 11] then 30 else 31

/-- What the constructor of `datetime` checks. -/
structure TimeFields where
  year : Nat
  month : Nat
  day : Nat
  hour : Nat
  minute : Nat
  second : Nat
  microsecond : Nat
  deriving DecidableEq, Repr

namespace TimeFields

def check (fields : TimeFields) : Bool :=
  (1 ≤ fields.year && fields.year ≤ 9999) && (1 ≤ fields.month && fields.month ≤ 12) &&
    (1 ≤ fields.day && fields.day ≤ daysInMonth fields.year fields.month) &&
    fields.hour < 24 && fields.minute < 60 && fields.second < 60 && fields.microsecond < 1000000

/-- Times are in the order of their fields, from the year on. -/
def rank (fields : TimeFields) : Nat :=
  (((((fields.year * 13 + fields.month) * 32 + fields.day) * 24 + fields.hour) * 60 +
    fields.minute) * 60 + fields.second) * 1000000 + fields.microsecond

end TimeFields

/-- A `datetime` in UTC. -/
abbrev UtcTime := { fields : TimeFields // fields.check = true }

theorem daysInMonth_le (year month : Nat) : daysInMonth year month ≤ 31 := by
  unfold daysInMonth
  repeat' split
  all_goals decide

namespace UtcTime

/-- The bounds of the fields, as numbers. -/
theorem bounds (t : UtcTime) : t.1.year < 10000 ∧ t.1.month < 13 ∧ t.1.day < 32 ∧
    t.1.hour < 24 ∧ t.1.minute < 60 ∧ t.1.second < 60 ∧ t.1.microsecond < 1000000 := by
  have valid := t.2
  have most := daysInMonth_le t.1.year t.1.month
  simp only [TimeFields.check, Bool.and_eq_true, decide_eq_true_eq] at valid
  omega

theorem rank_injective : Function.Injective fun t : UtcTime => t.1.rank := by
  intro t t' same
  have small := t.bounds
  have small' := t'.bounds
  apply Subtype.ext
  obtain ⟨⟨year, month, day, hour, minute, second, microsecond⟩, valid⟩ := t
  obtain ⟨⟨year', month', day', hour', minute', second', microsecond'⟩, valid'⟩ := t'
  simp only [TimeFields.rank] at same small small'
  simp only [TimeFields.mk.injEq]
  omega

instance : LinearOrder UtcTime :=
  LinearOrder.lift' (fun t => t.1.rank) rank_injective

end UtcTime

/-! ## Writing -/

/-- `n` in `width` digits -/
def decimal : Nat → Nat → List Char
  | 0, _ => []
  | width + 1, n => Nat.digitChar (n / 10 ^ width % 10) :: decimal width n

/-- `isoformat`: the microseconds are left out where they are zero. -/
def isoformat (t : UtcTime) : List Char :=
  decimal 4 t.1.year ++ '-' :: (decimal 2 t.1.month ++ '-' :: (decimal 2 t.1.day ++
    'T' :: (decimal 2 t.1.hour ++ ':' :: (decimal 2 t.1.minute ++ ':' :: (decimal 2 t.1.second ++
      ((if t.1.microsecond = 0 then [] else '.' :: decimal 6 t.1.microsecond) ++
        ['+', '0', '0', ':', '0', '0']))))))

/-! ## Reading -/

def asciiDigit (c : Char) : Option Nat :=
  if '0' ≤ c ∧ c ≤ '9' then some (c.toNat - 48) else none

/-- A number of `width` digits, and what follows. -/
def readDecimal : Nat → List Char → Option (Nat × List Char)
  | 0, text => some (0, text)
  | _ + 1, [] => none
  | width + 1, c :: text =>
      (asciiDigit c).bind fun digit =>
        (readDecimal width text).map fun found => (digit * 10 ^ width + found.1, found.2)

/-- A mark and the two digits behind it, if the mark is there. -/
def readPart (mark : Char) : List Char → Option (Nat × List Char)
  | c :: text => if c = mark then readDecimal 2 text else none
  | [] => none

/-- The first six digits of a fraction count. -/
def readFraction : List Char → Option (Nat × List Char)
  | c :: text =>
      if c = '.' ∨ c = ',' then
        let digits := text.takeWhile fun c => (asciiDigit c).isSome
        if digits = [] then none
        else
          (readDecimal 6 (digits.take 6 ++ List.replicate (6 - digits.length) '0')).map
            fun found => (found.1, text.drop digits.length)
      else some (0, c :: text)
  | [] => some (0, [])

/-- `HH[:MM[:SS[.f]]]`, in microseconds by their fields -/
def readTime (text : List Char) : Option ((Nat × Nat × Nat × Nat) × List Char) := do
  let (hour, rest) ← readDecimal 2 text
  match rest with
  | ':' :: rest =>
      let (minute, rest) ← readDecimal 2 rest
      match rest with
      | ':' :: rest =>
          let (second, rest) ← readDecimal 2 rest
          let (microsecond, rest) ← readFraction rest
          return ((hour, minute, second, microsecond), rest)
      | rest => return ((hour, minute, 0, 0), rest)
  | rest => return ((hour, 0, 0, 0), rest)

def microsOf (time : Nat × Nat × Nat × Nat) : Int :=
  ((time.1 * 60 + time.2.1) * 60 + time.2.2.1) * 1000000 + time.2.2.2

/-- The offset from UTC; a time without one is read in UTC. -/
def readOffset : List Char → Option Int
  | [] => some 0
  | ['Z'] => some 0
  | sign :: text => do
      let (time, rest) ← readTime text
      let micros := microsOf time
      if rest ≠ [] ∨ 24 * 3600 * 1000000 ≤ micros then none
      else if sign = '+' then some micros
      else if sign = '-' then some (-micros)
      else none

/-- The number of a day in the proleptic Gregorian calendar, from 1970 on. -/
def daysFromCivil (year month day : Nat) : Int :=
  let shifted : Int := if month ≤ 2 then year - 1 else year
  let marchMonth := if 2 < month then month - 3 else month + 9
  let dayOfYear : Int := (153 * marchMonth + 2) / 5 + day - 1
  let yearOfEra := shifted % 400
  shifted / 400 * 146097 + (yearOfEra * 365 + yearOfEra / 4 - yearOfEra / 100 + dayOfYear) - 719468

/-- The fields of the time that is later by so many microseconds. -/
def TimeFields.later (fields : TimeFields) (micros : Int) : TimeFields :=
  let total := daysFromCivil fields.year fields.month fields.day * 86400000000 +
    microsOf (fields.hour, fields.minute, fields.second, fields.microsecond) + micros
  let (year, month, day) := Billing.civilFromDays (total / 86400000000)
  let time := (total % 86400000000).toNat
  ⟨year.toNat, month, day, time / 3600000000, time / 60000000 % 60, time / 1000000 % 60,
    time % 1000000⟩

def TimeFields.toUtc (fields : TimeFields) : Option UtcTime :=
  if valid : fields.check = true then some ⟨fields, valid⟩ else none

/-- `YYYY-MM-DD`, and the time behind any one character -/
def readFields (text : List Char) : Option (TimeFields × List Char) := do
  let (year, rest) ← readDecimal 4 text
  let (month, rest) ← readPart '-' rest
  let (day, rest) ← readPart '-' rest
  match rest with
  | [] | [_] => return (⟨year, month, day, 0, 0, 0, 0⟩, [])
  | _ :: rest =>
      let ((hour, minute, second, microsecond), rest) ← readTime rest
      return (⟨year, month, day, hour, minute, second, microsecond⟩, rest)

/-- `datetime.fromisoformat`, in UTC -/
def fromisoformat (text : List Char) : Option UtcTime := do
  let (fields, rest) ← readFields text
  let offset ← readOffset rest
  let valid ← fields.toUtc
  if offset = 0 then some valid else (fields.later (-offset)).toUtc

/-! ## What was written is read back -/

theorem asciiDigit_digitChar {n : Nat} (small : n < 10) :
    asciiDigit (Nat.digitChar n) = some n := by
  have all : ∀ n : Fin 10, asciiDigit (Nat.digitChar n) = some n.val := by decide
  exact all ⟨n, small⟩

variable {n : Nat} {rest : List Char}

theorem readDecimal_decimal (width n : Nat) (rest : List Char) :
    readDecimal width (decimal width n ++ rest) = some (n % 10 ^ width, rest) := by
  induction width with
  | zero => simp [readDecimal, decimal, Nat.mod_one]
  | succ width ih =>
      have digit := asciiDigit_digitChar (Nat.mod_lt (n / 10 ^ width) (by decide : 10 > 0))
      have sum : n / 10 ^ width % 10 * 10 ^ width + n % 10 ^ width = n % 10 ^ (width + 1) := by
        rw [Nat.pow_succ, Nat.mod_mul, Nat.mul_comm, Nat.add_comm]
      rw [decimal, List.cons_append, readDecimal, digit, Option.bind_some, ih, Option.map_some, sum]

theorem readDecimal_of_lt {width : Nat} (small : n < 10 ^ width) :
    readDecimal width (decimal width n ++ rest) = some (n, rest) := by
  rw [readDecimal_decimal, Nat.mod_eq_of_lt small]

theorem readTwo (small : n < 100) : readDecimal 2 (decimal 2 n ++ rest) = some (n, rest) :=
  readDecimal_of_lt small

theorem readPart_decimal {mark : Char} (small : n < 100) :
    readPart mark (mark :: (decimal 2 n ++ rest)) = some (n, rest) := by
  rw [readPart, if_pos rfl, readTwo small]

theorem isSome_asciiDigit_of_mem {width : Nat} {c : Char} (mem : c ∈ decimal width n) :
    (asciiDigit c).isSome = true := by
  induction width with
  | zero => cases mem
  | succ width ih =>
      rcases List.mem_cons.1 mem with rfl | later
      · rw [asciiDigit_digitChar (Nat.mod_lt _ (by decide))]
        rfl
      · exact ih later

theorem length_decimal (width n : Nat) : (decimal width n).length = width := by
  induction width with
  | zero => rfl
  | succ width ih => rw [decimal, List.length_cons, ih]

/-- A fraction of six digits that is followed by an offset. -/
theorem readFraction_decimal (small : n < 1000000) :
    readFraction ('.' :: (decimal 6 n ++ '+' :: rest)) = some (n, '+' :: rest) := by
  have digits : (decimal 6 n ++ '+' :: rest).takeWhile (fun c => (asciiDigit c).isSome) =
      decimal 6 n := by
    rw [List.takeWhile_append_of_pos fun c mem => isSome_asciiDigit_of_mem mem]
    simp [asciiDigit]
  have length := length_decimal 6 n
  have filled : decimal 6 n ≠ [] := by
    intro none
    simp [none] at length
  have read := @readDecimal_of_lt n [] 6 small
  rw [List.append_nil] at read
  have whole : (decimal 6 n).take 6 = decimal 6 n := List.take_of_length_le (by omega)
  have drop : (decimal 6 n ++ '+' :: rest).drop 6 = '+' :: rest := List.drop_left' length
  simp only [readFraction, digits, length, whole, drop]
  simp [filled, read]

theorem readTime_isoformat {hour minute second microsecond : Nat} (hours : hour < 100)
    (minutes : minute < 100) (seconds : second < 100) (micros : microsecond < 1000000) :
    readTime (decimal 2 hour ++ ':' :: (decimal 2 minute ++ ':' :: (decimal 2 second ++
        ((if microsecond = 0 then [] else '.' :: decimal 6 microsecond) ++ '+' :: rest)))) =
      some ((hour, minute, second, microsecond), '+' :: rest) := by
  have fraction : readFraction
      ((if microsecond = 0 then [] else '.' :: decimal 6 microsecond) ++ '+' :: rest) =
      some (microsecond, '+' :: rest) := by
    split
    · rename_i zero
      subst zero
      rfl
    · exact readFraction_decimal micros
  simp only [readTime, readTwo hours, readTwo minutes, readTwo seconds, Option.bind_eq_bind,
    Option.bind_some, fraction]
  rfl

/-- What is written is read as the same time. -/
theorem fromisoformat_isoformat (t : UtcTime) : fromisoformat (isoformat t) = some t := by
  obtain ⟨year, month, day, hour, minute, second, micros⟩ := t.bounds
  have time := @readTime_isoformat ['0', '0', ':', '0', '0'] t.1.hour t.1.minute t.1.second
    t.1.microsecond (by omega) (by omega) (by omega) micros
  have read : readFields (isoformat t) = some (t.1, ['+', '0', '0', ':', '0', '0']) := by
    rw [readFields, isoformat]
    simp only [readDecimal_of_lt (show t.1.year < 10 ^ 4 from year), Option.bind_eq_bind,
      Option.bind_some, readPart_decimal (show t.1.month < 100 by omega),
      readPart_decimal (show t.1.day < 100 by omega)]
    change (readTime _).bind _ = _
    rw [time]
    rfl
  have offset : readOffset ['+', '0', '0', ':', '0', '0'] = some 0 := by decide
  have valid : t.1.toUtc = some t := dif_pos t.2
  simp only [fromisoformat, read, Option.bind_eq_bind, Option.bind_some, valid, offset, if_pos]

example : (fromisoformat "2024-03-01T01:30:00.5+02:00".toList).map isoformat =
    some "2024-02-29T23:30:00.500000+00:00".toList := by decide +kernel

end ColabPlatform.Common
