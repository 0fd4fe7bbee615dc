import Mathlib.Data.List.Infix

/-!
# Text operations

The string methods that the services call, on lists of characters so that they
evaluate by reduction.  Letter case is that of ASCII, the alphabet of everything
they are applied to.
-/

namespace ColabPlatform.Common

/-- `text.lower()` -/
def lower (text : String) : String := String.ofList (text.toList.map Char.toLower)

private theorem toLower_toLower (c : Char) : c.toLower.toLower = c.toLower := by
  by_cases upper : c.val ≥ 'A'.val ∧ c.val ≤ 'Z'.val
  · have small : ¬ (c.toLower.val ≥ 'A'.val ∧ c.toLower.val ≤ 'Z'.val) := by
      have shifted : c.toLower.val = c.val + ('a'.val - 'A'.val) := by
        delta Char.toLower
        rw [dif_pos upper]
      rw [shifted]
      revert upper
      generalize c.val = code
      simp only [UInt32.le_iff_toNat_le, UInt32.toNat_add]
      have : 'A'.val.toNat = 65 := rfl
      have : 'Z'.val.toNat = 90 := rfl
      have : ('a'.val - 'A'.val).toNat = 32 := rfl
      omega
    generalize c.toLower = lowered at small ⊢
    delta Char.toLower
    rw [dif_neg small]
  · have same : c.toLower = c := by
      delta Char.toLower
      rw [dif_neg upper]
    rw [same, same]

@[simp] theorem lower_lower (text : String) : lower (lower text) = lower text := by
  simp only [lower, String.toList_ofList, List.map_map, Function.comp_def, toLower_toLower]

/-- `text.upper()` -/
def upper (text : String) : String := String.ofList (text.toList.map Char.toUpper)

/-- `c.isspace()` -/
def isSpace (c : Char) : Bool :=
  c.toNat ∈ [9, 10, 11, 12, 13, 28, 29, 30, 31, 32, 133, 160, 5760, 8192, 8193, 8194, 8195,
    8196, 8197, 8198, 8199, 8200, 8201, 8202, 8232, 8233, 8239, 8287, 12288]

/-- `text.strip()` -/
def strip (text : String) : String :=
  String.ofList (((text.toList.dropWhile isSpace).reverse.dropWhile isSpace).reverse)

/-- `part in text` -/
def isSubstring (part text : String) : Bool :=
  decide (part.toList <:+: text.toList)

/-- `text.split(separator)`, for a separator of one character -/
def split (separator : Char) (text : String) : List String :=
  (text.toList.splitOn separator).map String.ofList

theorem isInfix_strip (text : String) : (strip text).toList <:+: text.toList := by
  rw [strip, String.toList_ofList]
  have front : (text.toList.dropWhile isSpace) <:+ text.toList := List.dropWhile_suffix _
  have back : ((text.toList.dropWhile isSpace).reverse.dropWhile isSpace).reverse <+:
      text.toList.dropWhile isSpace := by
    rw [← List.reverse_suffix, List.reverse_reverse]
    exact List.dropWhile_suffix _
  exact back.isInfix.trans front.isInfix

theorem isInfix_intercalate {α : Type*} (between : List α) {part : List α} {parts : List (List α)}
    (mem : part ∈ parts) : part <:+: between.intercalate parts := by
  induction parts with
  | nil => cases mem
  | cons first rest ih =>
      rcases List.mem_cons.1 mem with rfl | later
      · cases rest with
        | nil => simp
        | cons second rest =>
            rw [List.intercalate_cons_cons, List.append_assoc]
            exact (List.prefix_append _ _).isInfix
      · rw [List.intercalate_cons_of_ne_nil (List.ne_nil_of_mem later)]
        exact (ih later).trans (List.suffix_append _ _).isInfix

theorem isInfix_split {separator : Char} {text part : String} (mem : part ∈ split separator text) :
    part.toList <:+: text.toList := by
  obtain ⟨chars, isPart, rfl⟩ := List.mem_map.1 mem
  rw [String.toList_ofList]
  have within := isInfix_intercalate [separator] isPart
  rwa [List.intercalate_splitOn] at within

/-- `text.startswith(start)` -/
def startsWith (text start : String) : Bool := start.toList.isPrefixOf text.toList

/-- `text[count:]` -/
def dropChars (text : String) (count : Nat) : String :=
  String.ofList (text.toList.drop count)

/-- `separator.join(texts)` -/
def join (separator : String) (texts : List String) : String :=
  String.ofList (List.intercalate separator.toList (texts.map String.toList))

end ColabPlatform.Common
