import ColabPlatform.Foundation.Midpoint
import Mathlib.Data.List.Lex

/-!
# Collab service: midpoints of order keys

`_lexo_midpoint` computes a key between two keys.  The shorter key is continued with the
characters just outside of the alphabet, so a result may hold a backquote; it never ends in
one, and such keys again have a key between them.
-/

namespace ColabPlatform.Collabs

open Foundation

/-! ## The loop -/

/-- A text as its code points, in whose order Python compares texts. -/
abbrev CodePoints := List Nat

def ord (c : Char) : Nat := c.toNat

def ordsOf (text : String) : CodePoints := text.toList.map ord

/-- `a ({a!r}) must be less than b ({b!r})` -/
structure NotLess where
  a : CodePoints
  b : CodePoints
  deriving DecidableEq, Repr

/-- The loop on what is left of `a` and `b`, with the rounds that are left. -/
def lexoMidpointLoop : Nat → CodePoints → CodePoints → CodePoints
  | 0, _, _ => [ord 'm']
  | rounds + 1, a, b =>
      let ca := a.headD (ord 'a' - 1)
      let cb := b.headD (ord 'z' + 1)
      if ca + 1 < cb then [(ca + cb) / 2] else ca :: lexoMidpointLoop rounds a.tail b.tail

/-- `_lexo_midpoint` -/
def lexoMidpoint (a b : CodePoints) : Except NotLess CodePoints :=
  if b ≤ a then .error ⟨a, b⟩ else .ok (lexoMidpointLoop (max a.length b.length) a b)

/-- A text over the letters from `a` to `z`. -/
def Letters (key : CodePoints) : Prop := ∀ c ∈ key, ord 'a' ≤ c ∧ c ≤ ord 'z'

instance : DecidablePred Letters :=
  fun key => inferInstanceAs (Decidable (∀ c ∈ key, ord 'a' ≤ c ∧ c ≤ ord 'z'))

/-- The keys that insertions can lead to. -/
structure OrderKey (key : CodePoints) : Prop where
  range : ∀ c ∈ key, 96 ≤ c ∧ c ≤ 122
  last : key.getLast? ≠ some 96

theorem Letters.orderKey {key : CodePoints} (letters : Letters key) : OrderKey key := by
  constructor
  · intro c mem
    have bounds := letters c mem
    simp only [ord] at bounds
    change 97 ≤ c ∧ c ≤ 122 at bounds
    omega
  · intro last
    have bounds := (letters 96 (List.mem_of_getLast? last)).1
    exact absurd bounds (by decide)

/-! ## A round -/

/-- There is a character between the two. -/
theorem lexoMidpointLoop_of_room {a b : CodePoints} (rounds : Nat)
    (room : a.headD 96 + 1 < b.headD 123) :
    lexoMidpointLoop (rounds + 1) a b = [(a.headD 96 + b.headD 123) / 2] := if_pos room

theorem lexoMidpointLoop_of_tight {a b : CodePoints} (rounds : Nat)
    (tight : ¬ a.headD 96 + 1 < b.headD 123) :
    lexoMidpointLoop (rounds + 1) a b = a.headD 96 :: lexoMidpointLoop rounds a.tail b.tail :=
  if_neg tight

theorem OrderKey.tail {c : Nat} {key : CodePoints} (orderKey : OrderKey (c :: key)) :
    OrderKey key := by
  constructor
  · exact fun d mem => orderKey.range d (List.mem_cons_of_mem c mem)
  · intro last
    apply orderKey.last
    rw [List.getLast?_cons, last]
    rfl

/-! ## The result -/

/-- The result is greater than `a`: it begins as `a` does, or has a greater character first. -/
theorem lt_lexoMidpointLoop {rounds : Nat} {a : CodePoints} (b : CodePoints)
    (enough : a.length ≤ rounds) : a < lexoMidpointLoop rounds a b := by
  induction rounds generalizing a b with
  | zero =>
      obtain rfl := List.eq_nil_of_length_eq_zero (Nat.le_zero.1 enough)
      exact List.nil_lt_cons ..
  | succ rounds ih =>
      by_cases room : a.headD 96 + 1 < b.headD 123
      · rw [lexoMidpointLoop_of_room rounds room]
        cases a with
        | nil => exact List.nil_lt_cons ..
        | cons ca a =>
            rw [List.headD_cons] at room ⊢
            rw [List.cons_lt_cons_iff]
            left
            omega
      · rw [lexoMidpointLoop_of_tight rounds room]
        cases a with
        | nil => exact List.nil_lt_cons ..
        | cons ca a =>
            have rest := ih b.tail (Nat.le_of_succ_le_succ enough)
            rw [List.cons_lt_cons_iff]
            exact .inr ⟨rfl, rest⟩

/-- The result is less than `b`, where the two have differed by the end of `b`. -/
theorem lexoMidpointLoop_lt {rounds : Nat} {a b : CodePoints} (enough : b.length ≤ rounds)
    (orderKey : OrderKey b) (less : a < b) : lexoMidpointLoop rounds a b < b := by
  induction rounds generalizing a b with
  | zero =>
      obtain rfl := List.eq_nil_of_length_eq_zero (Nat.le_zero.1 enough)
      exact absurd less (List.not_lt_nil a)
  | succ rounds ih =>
      cases b with
      | nil => exact absurd less (List.not_lt_nil a)
      | cons cb b =>
          have short : b.length ≤ rounds := Nat.le_of_succ_le_succ enough
          have low := (orderKey.range cb (List.mem_cons_self ..)).1
          have step : a.headD 96 < cb ∨ a.headD 96 = cb ∧ a.tail < b := by
            cases a with
            | nil =>
                rcases Nat.lt_or_eq_of_le low with low | rfl
                · exact .inl low
                · cases b with
                  | nil => exact absurd rfl orderKey.last
                  | cons c b => exact .inr ⟨rfl, List.nil_lt_cons ..⟩
            | cons ca a => exact List.cons_lt_cons_iff.1 less
          by_cases room : a.headD 96 + 1 < (cb :: b).headD 123
          · rw [lexoMidpointLoop_of_room rounds room, List.cons_lt_cons_iff]
            rw [List.headD_cons] at room ⊢
            left
            omega
          · rw [lexoMidpointLoop_of_tight rounds room, List.cons_lt_cons_iff]
            rcases step with lower | ⟨same, rest⟩
            · exact .inl lower
            · exact .inr ⟨same, ih short orderKey.tail rest⟩

theorem orderKey_singleton {c : Nat} (low : 97 ≤ c) (high : c ≤ 122) : OrderKey [c] := by
  constructor
  · intro d mem
    obtain rfl := List.mem_singleton.1 mem
    omega
  · simp only [List.getLast?_singleton, ne_eq, Option.some.injEq]
    omega

theorem OrderKey.cons {c : Nat} {key : CodePoints} (orderKey : OrderKey key) (some : key ≠ [])
    (low : 96 ≤ c) (high : c ≤ 122) : OrderKey (c :: key) := by
  constructor
  · intro d mem
    rcases List.mem_cons.1 mem with rfl | mem
    · exact ⟨low, high⟩
    · exact orderKey.range d mem
  · rw [List.getLast?_cons_of_ne_nil some]
    exact orderKey.last

theorem lexoMidpointLoop_ne_nil (rounds : Nat) (a b : CodePoints) :
    lexoMidpointLoop rounds a b ≠ [] := by
  cases rounds with
  | zero => simp [lexoMidpointLoop]
  | succ rounds =>
      by_cases room : a.headD 96 + 1 < b.headD 123
      · simp [lexoMidpointLoop_of_room rounds room]
      · simp [lexoMidpointLoop_of_tight rounds room]

theorem range_headD {key : CodePoints} (orderKey : OrderKey key) :
    (96 ≤ key.headD 96 ∧ key.headD 96 ≤ 122) ∧ key.headD 123 ≤ 123 := by
  cases key with
  | nil => decide
  | cons c key =>
      have range := orderKey.range c (List.mem_cons_self ..)
      simp only [List.headD_cons]
      omega

theorem orderKey_tail {key : CodePoints} (orderKey : OrderKey key) : OrderKey key.tail := by
  cases key with
  | nil => exact orderKey
  | cons c key => exact orderKey.tail

/-- The last character is above the backquote, as a middle character or as the final `m`. -/
theorem orderKey_lexoMidpointLoop {rounds : Nat} {a b : CodePoints} (keyA : OrderKey a)
    (keyB : OrderKey b) : OrderKey (lexoMidpointLoop rounds a b) := by
  induction rounds generalizing a b with
  | zero => exact orderKey_singleton (by decide) (by decide)
  | succ rounds ih =>
      have rangeA := (range_headD keyA).1
      have rangeB := (range_headD keyB).2
      by_cases room : a.headD 96 + 1 < b.headD 123
      · rw [lexoMidpointLoop_of_room rounds room]
        exact orderKey_singleton (by omega) (by omega)
      · rw [lexoMidpointLoop_of_tight rounds room]
        exact (ih (orderKey_tail keyA) (orderKey_tail keyB)).cons
          (lexoMidpointLoop_ne_nil rounds a.tail b.tail) rangeA.1 rangeA.2

/-! ## Insertions -/

theorem lexoMidpoint_of_lt {a b : CodePoints} (less : a < b) :
    lexoMidpoint a b = .ok (lexoMidpointLoop (max a.length b.length) a b) := by
  exact if_neg (not_le.2 less)

theorem lexoMidpoint_interpolates : Interpolates (· < ·) OrderKey lexoMidpoint := by
  intro a b keyA keyB less
  refine ⟨_, lexoMidpoint_of_lt less, orderKey_lexoMidpointLoop keyA keyB, ?_, ?_⟩
  · exact lt_lexoMidpointLoop b (le_max_left ..)
  · exact lexoMidpointLoop_lt (le_max_right ..) keyB less

/-- Between two texts over the letters there is a midpoint, and between any two neighbours
however many midpoints have been inserted. -/
theorem midpoints_between :
    (∀ a b, Letters a → Letters b → a < b → ∃ m, lexoMidpoint a b = .ok m ∧ a < m ∧ m < b) ∧
      ∀ keys keys', keys.Pairwise (· < ·) → (∀ key ∈ keys, Letters key) →
        Relation.ReflTransGen (Inserted lexoMidpoint) keys keys' →
          keys'.Pairwise (· < ·) ∧ ∀ before a b after, keys' = before ++ a :: b :: after →
            ∃ m, lexoMidpoint a b = .ok m ∧ a < m ∧ m < b := by
  constructor
  · intro a b lettersA lettersB less
    obtain ⟨m, computed, -, between⟩ :=
      lexoMidpoint_interpolates a b lettersA.orderKey lettersB.orderKey less
    exact ⟨m, computed, between⟩
  · intro keys keys' sorted letters inserted
    have proper : ∀ key ∈ keys, OrderKey key := fun key mem => (letters key mem).orderKey
    constructor
    · exact (lexoMidpoint_interpolates.insertions inserted sorted proper).1
    · rintro before a b after rfl
      exact lexoMidpoint_interpolates.succeeds inserted sorted proper

theorem midpoints_between_a_and_b :
    (∃ m, lexoMidpoint (ordsOf "") (ordsOf "a") = .ok m ∧
        ordsOf "" < m ∧ m < ordsOf "a") ∧
      [ordsOf "a", ordsOf "am", ordsOf "b"].Pairwise (· < ·) ∧
        ∃ m, lexoMidpoint (ordsOf "a") (ordsOf "am") = .ok m ∧
          ordsOf "a" < m ∧ m < ordsOf "am" := by
  have inserted := midpoints_between.2 [ordsOf "a", ordsOf "b"]
    [ordsOf "a", ordsOf "am", ordsOf "b"] (by decide) (by decide)
    (.single (.between [] [] (by decide)))
  refine ⟨midpoints_between.1 _ _ (by decide) (by decide) (by decide), inserted.1, ?_⟩
  exact inserted.2 [] _ _ [ordsOf "b"] rfl

end ColabPlatform.Collabs
