import Mathlib.Data.String.Basic

/-!
# Time-ordered UUIDs

The first 48 bits of a version 7 UUID are the milliseconds of the clock that it was drawn
by.  Ids are compared as texts by some queries and as numbers by others; the text of a UUID
has a fixed width, so the two orders agree.
-/

namespace ColabPlatform.Common

/-- `uuid.UUID(int=...).int` -/
abbrev UuidInt := Fin (2 ^ 128)

instance neZero_uuids : @NeZero Nat Zero.ofOfNat0 (2 ^ 128) := ⟨by decide⟩

/-- `generate_uuidv7`; the constructor of `UUID` refuses what has more than 128 bits. -/
def generateUuidv7 (tsMs randA randB : Nat) : Option UuidInt :=
  let intVal :=
    tsMs <<< 80 ||| 0x7 <<< 76 ||| (randA &&& 0x0FFF) <<< 64 ||| 0b10 <<< 62 |||
      randB &&& 0x3FFFFFFFFFFFFFFF
  if small : intVal < 2 ^ 128 then some ⟨intVal, small⟩ else none

/-! ## The order of the clocks -/

theorem generateUuidv7_shiftRight {tsMs randA randB : Nat} {id : UuidInt}
    (h : generateUuidv7 tsMs randA randB = some id) : id.val >>> 80 = tsMs := by
  simp only [generateUuidv7] at h
  split at h
  · obtain rfl := Option.some.inj h
    have smallA : (randA &&& 0x0FFF) <<< 64 >>> 80 = 0 := by
      have below : randA &&& 0x0FFF ≤ 0x0FFF := Nat.and_le_right
      rw [Nat.shiftLeft_eq, Nat.shiftRight_eq_div_pow]
      omega
    have smallB : (randB &&& 0x3FFFFFFFFFFFFFFF) >>> 80 = 0 := by
      have below : randB &&& 0x3FFFFFFFFFFFFFFF ≤ 0x3FFFFFFFFFFFFFFF := Nat.and_le_right
      rw [Nat.shiftRight_eq_div_pow]
      omega
    simp [Nat.shiftRight_or_distrib, smallA, smallB]
  · cases h

/-- Of two ids the one of the earlier millisecond is smaller. -/
theorem generateUuidv7_lt {tsMs tsMs' randA randA' randB randB' : Nat} {id id' : UuidInt}
    (h : generateUuidv7 tsMs randA randB = some id)
    (h' : generateUuidv7 tsMs' randA' randB' = some id') (earlier : tsMs < tsMs') : id < id' := by
  rw [← generateUuidv7_shiftRight h, ← generateUuidv7_shiftRight h',
    Nat.shiftRight_eq_div_pow, Nat.shiftRight_eq_div_pow] at earlier
  exact Nat.lt_of_div_lt_div earlier

/-! ## The order of the texts -/

def hexDigit (n : Nat) : Char := "0123456789abcdef".toList.getD n '0'

/-- The last `width` digits, with the hyphens of a UUID. -/
def uuidDigits : Nat → Nat → List Char
  | 0, _ => []
  | width + 1, value =>
      let rest := uuidDigits width (value % 16 ^ width)
      hexDigit (value / 16 ^ width) :: if width ∈ [24, 20, 16, 12] then '-' :: rest else rest

/-- `str(id)`, and `id::text` -/
def uuidText (id : UuidInt) : String := String.ofList (uuidDigits 32 id.val)

theorem hexDigit_lt_iff {m n : Nat} (hm : m < 16) (hn : n < 16) :
    hexDigit m < hexDigit n ↔ m < n := by
  have small : ∀ m n : Fin 16, hexDigit m < hexDigit n ↔ m < n := by decide
  exact small ⟨m, hm⟩ ⟨n, hn⟩

theorem hexDigit_eq_iff {m n : Nat} (hm : m < 16) (hn : n < 16) :
    hexDigit m = hexDigit n ↔ m = n := by
  constructor
  · intro same
    have hlt := hexDigit_lt_iff hm hn
    have hgt := hexDigit_lt_iff hn hm
    simp only [same, lt_self_iff_false, false_iff] at hlt hgt
    omega
  · exact congrArg hexDigit

theorem lt_iff_div_mod {a b : Nat} (m : Nat) :
    a < b ↔ a / m < b / m ∨ a / m = b / m ∧ a % m < b % m := by
  have ha := Nat.div_add_mod a m
  have hb := Nat.div_add_mod b m
  constructor
  · intro less
    rcases Nat.lt_or_eq_of_le (Nat.div_le_div_right (c := m) less.le) with first | same
    · exact Or.inl first
    · rw [same] at ha
      exact Or.inr ⟨same, by omega⟩
  · rintro (first | ⟨same, last⟩)
    · exact Nat.lt_of_div_lt_div first
    · rw [same] at ha
      omega

theorem uuidDigits_lt_iff {width a b : Nat} (ha : a < 16 ^ width) (hb : b < 16 ^ width) :
    uuidDigits width a < uuidDigits width b ↔ a < b := by
  induction width generalizing a b with
  | zero =>
      have : ¬ ([] : List Char) < [] := lt_irrefl _
      simp only [uuidDigits, this, false_iff]
      omega
  | succ width ih =>
      have positive : 0 < 16 ^ width := Nat.pow_pos (by omega)
      have digit : ∀ {n}, n < 16 ^ (width + 1) → n / 16 ^ width < 16 := by
        intro n small
        rw [pow_succ] at small
        exact Nat.div_lt_of_lt_mul small
      have rest := ih (Nat.mod_lt a positive) (Nat.mod_lt b positive)
      rw [lt_iff_div_mod (16 ^ width), ← rest, ← hexDigit_lt_iff (digit ha) (digit hb),
        ← hexDigit_eq_iff (digit ha) (digit hb)]
      simp only [uuidDigits]
      split
      · simp [List.cons_lt_cons_iff]
      · simp [List.cons_lt_cons_iff]

/-- Texts of UUIDs are ordered as the UUIDs are. -/
theorem uuidText_lt_iff {id id' : UuidInt} : uuidText id < uuidText id' ↔ id < id' := by
  have small : ∀ id : UuidInt, id.val < 16 ^ 32 := fun id => id.isLt
  rw [String.lt_iff_toList_lt, uuidText, uuidText, String.toList_ofList, String.toList_ofList,
    uuidDigits_lt_iff (small id) (small id')]
  exact Iff.rfl

end ColabPlatform.Common
