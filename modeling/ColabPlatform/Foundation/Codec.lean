import Mathlib.Data.List.Basic

/-!
# Self-delimiting text codecs

A codec writes a value as characters from which it can be read back whatever
follows, so that codecs compose by concatenation.  A composed codec yields an
injective text form of its values.
-/

namespace ColabPlatform.Foundation

structure Codec (α : Type) where
  encode : α → List Char
  decode : List Char → Option (α × List Char)
  decode_encode : ∀ value rest, decode (encode value ++ rest) = some (value, rest)

namespace Codec

variable {α β : Type}

def char : Codec Char where
  encode c := [c]
  decode
    | c :: rest => some (c, rest)
    | [] => none
  decode_encode _ _ := rfl

def bool : Codec Bool where
  encode b := [if b then '1' else '0']
  decode
    | c :: rest => some (c = '1', rest)
    | [] => none
  decode_encode b _ := by cases b <;> rfl

def pair (first : Codec α) (second : Codec β) : Codec (α × β) where
  encode value := first.encode value.1 ++ second.encode value.2
  decode text := do
    let (a, text) ← first.decode text
    let (b, text) ← second.decode text
    return ((a, b), text)
  decode_encode value rest := by
    simp [List.append_assoc, first.decode_encode, second.decode_encode]

/-- A codec of values that are recovered from encodable ones. -/
def map (codec : Codec α) (into : β → α) (back : α → β)
    (back_into : ∀ value, back (into value) = value) : Codec β where
  encode value := codec.encode (into value)
  decode text := (codec.decode text).map fun found => (back found.1, found.2)
  decode_encode value rest := by
    simp [codec.decode_encode, back_into]

def option (codec : Codec α) : Codec (Option α) where
  encode
    | some value => '1' :: codec.encode value
    | none => ['0']
  decode
    | c :: rest =>
        if c = '1' then (codec.decode rest).map fun found => (some found.1, found.2)
        else some (none, rest)
    | [] => none
  decode_encode value rest := by
    cases value <;> simp [codec.decode_encode]

/-! ## Lists -/

def encodeList (codec : Codec α) : List α → List Char
  | [] => ['0']
  | value :: values => '1' :: (codec.encode value ++ encodeList codec values)

/-- The first argument bounds the number of elements. -/
def decodeList (codec : Codec α) : Nat → List Char → Option (List α × List Char)
  | 0, _ => none
  | _ + 1, [] => none
  | bound + 1, c :: text =>
      if c = '1' then do
        let (value, text) ← codec.decode text
        let (values, text) ← decodeList codec bound text
        return (value :: values, text)
      else some ([], text)

theorem length_lt_encodeList (codec : Codec α) (values : List α) :
    values.length < (encodeList codec values).length := by
  induction values with
  | nil => simp [encodeList]
  | cons value values ih =>
      simp only [encodeList, List.length_cons, List.length_append]
      omega

theorem decodeList_encodeList (codec : Codec α) (values : List α) (rest : List Char)
    {bound : Nat} (enough : values.length < bound) :
    decodeList codec bound (encodeList codec values ++ rest) =
      some (values, rest) := by
  induction values generalizing bound with
  | nil =>
      obtain ⟨bound, rfl⟩ := Nat.exists_eq_succ_of_ne_zero (Nat.ne_of_gt enough)
      simp [encodeList, decodeList]
  | cons value values ih =>
      obtain ⟨bound, rfl⟩ := Nat.exists_eq_succ_of_ne_zero
        (Nat.ne_of_gt (Nat.zero_lt_of_lt enough))
      have tail := ih (Nat.lt_of_succ_lt_succ enough)
      simp [encodeList, decodeList, List.append_assoc, codec.decode_encode, tail]

def list (codec : Codec α) : Codec (List α) where
  encode := encodeList codec
  decode text := decodeList codec text.length text
  decode_encode values rest := by
    refine decodeList_encodeList codec values rest ?_
    have short := length_lt_encodeList codec values
    simp only [List.length_append]
    omega

/-! ## Texts and numbers -/

def string : Codec String :=
  (list char).map String.toList String.ofList fun text => by simp

def unit : Codec Unit where
  encode _ := []
  decode text := some ((), text)
  decode_encode _ _ := rfl

/-- Unary. -/
def nat : Codec Nat :=
  (list unit).map (List.replicate · ()) List.length fun n => by simp

def int : Codec Int :=
  (pair bool nat).map (fun n => (decide (0 ≤ n), n.natAbs))
    (fun found => if found.1 then (found.2 : Int) else -(found.2 : Int)) fun n => by
      by_cases sign : 0 ≤ n
      · simp only [sign, decide_true, if_true]
        omega
      · simp only [sign, decide_false, Bool.false_eq_true, if_false]
        omega

/-! ## The text form -/

def toText (codec : Codec α) (value : α) : String :=
  String.ofList (codec.encode value)

/-- The value of which a text is the text form. -/
def ofText (codec : Codec α) (text : String) : Option α :=
  ((codec.decode text.toList).map Prod.fst).filter fun value =>
    codec.toText value = text

theorem ofText_eq_some_iff {codec : Codec α} {text : String} {value : α} :
    codec.ofText text = some value ↔ text = codec.toText value := by
  unfold ofText
  rw [Option.filter_eq_some_iff]
  constructor
  · rintro ⟨-, same⟩
    exact (of_decide_eq_true same).symm
  · rintro rfl
    have back := codec.decode_encode value []
    rw [List.append_nil] at back
    simp [toText, back]

theorem toText_injective (codec : Codec α) : Function.Injective codec.toText := by
  intro a b same
  exact Option.some.inj ((ofText_eq_some_iff.2 rfl).symm.trans
    (ofText_eq_some_iff.2 same))

end Codec

end ColabPlatform.Foundation
