import ColabPlatform.Common.Text
import Mathlib.Algebra.Order.Field.Rat

/-!
# Numbers in texts

`float(text)`: an optional sign and a decimal number with an optional exponent,
with blanks around it and single underscores between its digits, or the name of
an infinity or of no number.  A decimal is kept exactly and rounded where it is
compared.
-/

namespace ColabPlatform.Common

/-- The zeros of the decimal digits of Unicode; the other nine follow each of them. -/
def zeroDigits : List Nat :=
  [48, 1632, 1776, 1984, 2406, 2534, 2662, 2790, 2918, 3046, 3174, 3302, 3430, 3558, 3664, 3792,
    3872, 4160, 4240, 6112, 6160, 6470, 6608, 6784, 6800, 6992, 7088, 7232, 7248, 42528, 43216,
    43264, 43472, 43504, 43600, 44016, 65296, 66720, 68912, 69734, 69872, 69942, 70096, 70384,
    70736, 70864, 71248, 71360, 71472, 71904, 72016, 72784, 73040, 73120, 73552, 92768, 92864,
    93008, 120782, 120792, 120802, 120812, 120822, 123200, 123632, 124144, 125264, 130032]

def digitValue (c : Char) : Option Nat :=
  (zeroDigits.find? fun first => first ≤ c.toNat ∧ c.toNat < first + 10).map (c.toNat - ·)

/-- The digits at the start of a text, after `count` ones of the given value: the value
and the number of all of them, and what follows. -/
def digits (value count : Nat) : List Char → Nat × Nat × List Char
  | [] => (value, count, [])
  | '_' :: c :: rest =>
      match digitValue c with
      | some digit =>
          if 0 < count then digits (10 * value + digit) (count + 1) rest
          else (value, count, '_' :: c :: rest)
      | none => (value, count, '_' :: c :: rest)
  | c :: rest =>
      match digitValue c with
      | some digit => digits (10 * value + digit) (count + 1) rest
      | none => (value, count, c :: rest)

def sign : List Char → Bool × List Char
  | '-' :: rest => (true, rest)
  | '+' :: rest => (false, rest)
  | text => (false, text)

def negateIf {α : Type} [Neg α] (negative : Bool) (value : α) : α :=
  if negative then -value else value

/-- A number without sign and exponent, and what follows. -/
def unsigned (text : List Char) : Option (ℚ × List Char) :=
  let (whole, wholeDigits, rest) := digits 0 0 text
  let (fraction, places, rest) :=
    match rest with
    | '.' :: rest => digits 0 0 rest
    | rest => (0, 0, rest)
  if wholeDigits + places = 0 then none
  else some (whole + fraction / 10 ^ places, rest)

/-- The exponent that the rest of a number is. -/
def exponent : List Char → Option Int
  | [] => some 0
  | e :: rest =>
      if e = 'e' ∨ e = 'E' then
        let (negative, rest) := sign rest
        match digits 0 0 rest with
        | (value, count, []) => if 0 < count then some (negateIf negative (value : Int)) else none
        | _ => none
      else none

inductive FloatValue where
  | nan
  | infinite (negative : Bool)
  | finite (value : ℚ)
  deriving DecidableEq, Repr

/-- `float(text)`; `none` is the `ValueError`. -/
def floatOf (text : String) : Option FloatValue :=
  let (negative, body) := sign (strip text).toList
  let word := lower (String.ofList body)
  if word = "inf" ∨ word = "infinity" then some (.infinite negative)
  else if word = "nan" then some .nan
  else do
    let (value, rest) ← unsigned body
    let scale ← exponent rest
    return .finite (negateIf negative (value * (10 : ℚ) ^ scale))

/-- `value < 18` for the double that is nearest to the number.  Below 18 the doubles are
`2⁻⁴⁸` apart, and what lies in the middle between the last of them and 18 goes to 18. -/
def FloatValue.below18 : FloatValue → Bool
  | nan => false
  | infinite negative => negative
  | finite value => decide (value < 18 - 1 / 2 ^ 49)

example : floatOf " 1_6.50e-1 " = some (.finite (33 / 20)) := by decide +kernel

example : floatOf "-Infinity" = some (.infinite true) ∧ floatOf "1__6" = none ∧
    floatOf "." = none := by decide +kernel

end ColabPlatform.Common
