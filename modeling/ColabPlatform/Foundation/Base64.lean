import Mathlib.Data.List.Basic

/-!
# Base64

Bytes are written in groups of three as four characters of an alphabet.  The reader skips
what is not in the alphabet, and stops at the padding that completes a group; what was
written is read back.
-/

namespace ColabPlatform.Foundation

/-- How sextets are written, and how characters are read. -/
structure Base64 where
  digit : Nat → Char
  value : Char → Option Nat
  value_digit : ∀ n < 64, value (digit n) = some n
  digit_ne_pad : ∀ n < 64, digit n ≠ '='

namespace Base64

variable (base : Base64)

def encode : List UInt8 → List Char
  | [] => []
  | [a] => [base.digit (a.toNat / 4), base.digit (a.toNat % 4 * 16), '=', '=']
  | [a, b] =>
      [base.digit (a.toNat / 4), base.digit (a.toNat % 4 * 16 + b.toNat / 16),
        base.digit (b.toNat % 16 * 4), '=']
  | a :: b :: c :: rest =>
      base.digit (a.toNat / 4) :: base.digit (a.toNat % 4 * 16 + b.toNat / 16) ::
        base.digit (b.toNat % 16 * 4 + c.toNat / 64) :: base.digit (c.toNat % 64) ::
          encode rest

/-- The reader at a place in a group of four, with the bits that are left of the last
character and the number of paddings since. -/
def decodeFrom (place left pads : Nat) : List Char → Option (List UInt8)
  | [] => if place = 0 then some [] else none
  | c :: text =>
      if c = '=' then
        if 2 ≤ place ∧ 4 ≤ place + (pads + 1) then some []
        else decodeFrom place left (if 2 ≤ place then pads + 1 else pads) text
      else
        match base.value c with
        | none => decodeFrom place left pads text
        | some v =>
            match place with
            | 0 => decodeFrom 1 v 0 text
            | 1 => (decodeFrom 2 (v % 16) 0 text).map (UInt8.ofNat (left * 4 + v / 16) :: ·)
            | 2 => (decodeFrom 3 (v % 4) 0 text).map (UInt8.ofNat (left * 16 + v / 4) :: ·)
            | _ => (decodeFrom 0 0 0 text).map (UInt8.ofNat (left * 64 + v) :: ·)

def decode (text : List Char) : Option (List UInt8) := base.decodeFrom 0 0 0 text

/-! ## What was written is read back -/

variable {n left pads : Nat} {text : List Char}

theorem decodeFrom_zero (small : n < 64) :
    base.decodeFrom 0 left pads (base.digit n :: text) = base.decodeFrom 1 n 0 text := by
  simp [decodeFrom, base.digit_ne_pad n small, base.value_digit n small]

theorem decodeFrom_one (small : n < 64) :
    base.decodeFrom 1 left pads (base.digit n :: text) =
      (base.decodeFrom 2 (n % 16) 0 text).map (UInt8.ofNat (left * 4 + n / 16) :: ·) := by
  simp [decodeFrom, base.digit_ne_pad n small, base.value_digit n small]

theorem decodeFrom_two (small : n < 64) :
    base.decodeFrom 2 left pads (base.digit n :: text) =
      (base.decodeFrom 3 (n % 4) 0 text).map (UInt8.ofNat (left * 16 + n / 4) :: ·) := by
  simp [decodeFrom, base.digit_ne_pad n small, base.value_digit n small]

theorem decodeFrom_three (small : n < 64) :
    base.decodeFrom 3 left pads (base.digit n :: text) =
      (base.decodeFrom 0 0 0 text).map (UInt8.ofNat (left * 64 + n) :: ·) := by
  simp [decodeFrom, base.digit_ne_pad n small, base.value_digit n small]

/-! The bytes, from the two sextets that each is split between. -/

variable (a b c : UInt8)

theorem first_byte :
    UInt8.ofNat (a.toNat / 4 * 4 + (a.toNat % 4 * 16 + b.toNat / 16) / 16) = a := by
  have small := b.toNat_lt
  have same : a.toNat / 4 * 4 + (a.toNat % 4 * 16 + b.toNat / 16) / 16 = a.toNat := by omega
  rw [same, UInt8.ofNat_toNat]

theorem second_byte : UInt8.ofNat ((a.toNat % 4 * 16 + b.toNat / 16) % 16 * 16 +
    (b.toNat % 16 * 4 + c.toNat / 64) / 4) = b := by
  have small := b.toNat_lt
  have small' := c.toNat_lt
  have same : (a.toNat % 4 * 16 + b.toNat / 16) % 16 * 16 +
      (b.toNat % 16 * 4 + c.toNat / 64) / 4 = b.toNat := by omega
  rw [same, UInt8.ofNat_toNat]

theorem third_byte :
    UInt8.ofNat ((b.toNat % 16 * 4 + c.toNat / 64) % 4 * 64 + c.toNat % 64) = c := by
  have small := c.toNat_lt
  have same : (b.toNat % 16 * 4 + c.toNat / 64) % 4 * 64 + c.toNat % 64 = c.toNat := by omega
  rw [same, UInt8.ofNat_toNat]

theorem decode_encode (bytes : List UInt8) : base.decode (base.encode bytes) = some bytes := by
  unfold decode
  induction bytes using encode.induct with
  | case1 => rfl
  | case2 a =>
      have small := a.toNat_lt
      have byte := first_byte a 0
      rw [encode, decodeFrom_zero base (by omega), decodeFrom_one base (by omega)]
      simp only [UInt8.toNat_zero, Nat.zero_div, Nat.add_zero] at byte
      rw [byte]
      rfl
  | case3 a b =>
      have small := a.toNat_lt
      have small' := b.toNat_lt
      have byte := second_byte a b 0
      rw [encode, decodeFrom_zero base (by omega), decodeFrom_one base (by omega),
        decodeFrom_two base (by omega), first_byte]
      simp only [UInt8.toNat_zero, Nat.zero_div, Nat.add_zero] at byte
      rw [byte]
      rfl
  | case4 a b c rest ih =>
      have small := a.toNat_lt
      have small' := b.toNat_lt
      have small'' := c.toNat_lt
      rw [encode, decodeFrom_zero base (by omega), decodeFrom_one base (by omega),
        decodeFrom_two base (by omega), decodeFrom_three base (by omega), ih, first_byte,
        second_byte, third_byte]
      rfl

/-- What is written with. -/
theorem mem_encode {bytes : List UInt8} {c : Char} (mem : c ∈ base.encode bytes) :
    c = '=' ∨ ∃ n < 64, c = base.digit n := by
  have digit : ∀ {n}, n < 64 → c = base.digit n → c = '=' ∨ ∃ n < 64, c = base.digit n :=
    fun small same => .inr ⟨_, small, same⟩
  induction bytes using encode.induct with
  | case1 => cases mem
  | case2 a =>
      have small := a.toNat_lt
      simp only [encode, List.mem_cons, List.not_mem_nil, or_false] at mem
      rcases mem with same | same | same | same
      · exact digit (by omega) same
      · exact digit (by omega) same
      · exact .inl same
      · exact .inl same
  | case3 a b =>
      have small := a.toNat_lt
      have small' := b.toNat_lt
      simp only [encode, List.mem_cons, List.not_mem_nil, or_false] at mem
      rcases mem with same | same | same | same
      · exact digit (by omega) same
      · exact digit (by omega) same
      · exact digit (by omega) same
      · exact .inl same
  | case4 a b c' rest ih =>
      have small := a.toNat_lt
      have small' := b.toNat_lt
      have small'' := c'.toNat_lt
      simp only [encode, List.mem_cons] at mem
      rcases mem with same | same | same | same | later
      · exact digit (by omega) same
      · exact digit (by omega) same
      · exact digit (by omega) same
      · exact digit (by omega) same
      · exact ih later

end Base64

end ColabPlatform.Foundation
