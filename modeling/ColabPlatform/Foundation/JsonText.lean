import Mathlib.Data.List.Basic

/-!
# JSON texts

A reader of JSON texts, and the writer of objects whose members are texts.  The writer
escapes all that is not printable ASCII; what it has written is read back.
-/

namespace ColabPlatform.Foundation

inductive Json where
  | null
  | bool (value : Bool)
  /-- as it was written -/
  | number (text : List Char)
  | string (text : List Char)
  | array (items : List Json)
  | object (members : List (List Char × Json))

namespace Json

/-- The member of an object; of several with one name the last counts. -/
def member (name : List Char) : Json → Option Json
  | object members => (members.reverse.find? (·.1 = name)).map (·.2)
  | _ => none

def text? : Json → Option (List Char)
  | string text => some text
  | _ => none

/-! ## Reading -/

def skipSpace (text : List Char) : List Char :=
  text.dropWhile fun c => c = ' ' ∨ c = '\t' ∨ c = '\n' ∨ c = '\r'

def hexValue (c : Char) : Option Nat :=
  if '0' ≤ c ∧ c ≤ '9' then some (c.toNat - 48)
  else if 'a' ≤ c ∧ c ≤ 'f' then some (c.toNat - 87)
  else if 'A' ≤ c ∧ c ≤ 'F' then some (c.toNat - 55)
  else none

/-- Four hexadecimal digits. -/
def hex4 : List Char → Option (Nat × List Char)
  | a :: b :: c :: d :: rest => do
      let a ← hexValue a
      let b ← hexValue b
      let c ← hexValue c
      let d ← hexValue d
      return (((a * 16 + b) * 16 + c) * 16 + d, rest)
  | _ => none

/-- The character of a code point; a surrogate without its partner is replaced. -/
def charOf (code : Nat) : Char :=
  if 0xD800 ≤ code ∧ code ≤ 0xDFFF then '\uFFFD' else Char.ofNat code

/-- The second half of a pair of surrogates, if it follows. -/
def lowSurrogate : List Char → Option (Nat × List Char)
  | '\\' :: 'u' :: rest =>
      (hex4 rest).filter fun found => 0xDC00 ≤ found.1 ∧ found.1 ≤ 0xDFFF
  | _ => none

/-- What stands behind a backslash. -/
def escape : List Char → Option (Char × List Char)
  | '"' :: rest => some ('"', rest)
  | '\\' :: rest => some ('\\', rest)
  | '/' :: rest => some ('/', rest)
  | 'b' :: rest => some ('\x08', rest)
  | 'f' :: rest => some ('\x0C', rest)
  | 'n' :: rest => some ('\n', rest)
  | 'r' :: rest => some ('\r', rest)
  | 't' :: rest => some ('\t', rest)
  | 'u' :: rest => do
      let (high, rest) ← hex4 rest
      match if 0xD800 ≤ high ∧ high ≤ 0xDBFF then lowSurrogate rest else none with
      | some (low, rest) =>
          return (Char.ofNat (0x10000 + (high - 0xD800) * 1024 + (low - 0xDC00)), rest)
      | none => return (charOf high, rest)
  | _ => none

/-- A string behind its first quotation mark; the first argument bounds its length. -/
def stringFrom : Nat → List Char → Option (List Char × List Char)
  | 0, _ => none
  | _ + 1, [] => none
  | bound + 1, c :: rest =>
      if c = '"' then some ([], rest)
      else if c = '\\' then
        (escape rest).bind fun found =>
          (stringFrom bound found.2).map fun more => (found.1 :: more.1, more.2)
      else if c.toNat < 32 then none
      else (stringFrom bound rest).map fun more => (c :: more.1, more.2)

def readString : List Char → Option (List Char × List Char)
  | '"' :: rest => stringFrom (rest.length + 1) rest
  | _ => none

def digits (text : List Char) : List Char × List Char := text.span fun c => '0' ≤ c ∧ c ≤ '9'

/-- `-?(?:0|[1-9][0-9]*)` -/
def integer (text : List Char) : Option (List Char × List Char) :=
  let (sign, text) := match text with | '-' :: text => (['-'], text) | text => ([], text)
  match text with
  | '0' :: rest => some (sign ++ ['0'], rest)
  | text =>
      let (found, rest) := digits text
      if found = [] then none else some (sign ++ found, rest)

/-- `(\.[0-9]+)?` -/
def fraction : List Char → List Char × List Char
  | '.' :: text =>
      let (found, rest) := digits text
      if found = [] then ([], '.' :: text) else ('.' :: found, rest)
  | text => ([], text)

/-- `([eE][-+]?[0-9]+)?` -/
def exponent (text : List Char) : List Char × List Char :=
  match text with
  | e :: rest =>
      if e = 'e' ∨ e = 'E' then
        let (sign, rest) :=
          match rest with
          | '-' :: rest => (['-'], rest)
          | '+' :: rest => (['+'], rest)
          | rest => ([], rest)
        let (found, rest) := digits rest
        if found = [] then ([], text) else (e :: sign ++ found, rest)
      else ([], text)
  | [] => ([], [])

def readNumber (text : List Char) : Option (Json × List Char) := do
  let (whole, rest) ← integer text
  let (part, rest) := fraction rest
  let (power, rest) := exponent rest
  return (.number (whole ++ part ++ power), rest)

/-- The names that are values, which the reader knows beside those of JSON. -/
def names : List (List Char × Json) :=
  [("null".toList, .null), ("true".toList, .bool true), ("false".toList, .bool false),
    ("NaN".toList, .number "NaN".toList), ("Infinity".toList, .number "Infinity".toList),
    ("-Infinity".toList, .number "-Infinity".toList)]

def readName (text : List Char) : Option (Json × List Char) :=
  (names.find? fun name => name.1.isPrefixOf text).map fun name =>
    (name.2, text.drop name.1.length)

mutual

/-- A value; the first argument bounds its depth. -/
def value : Nat → List Char → Option (Json × List Char)
  | 0, _ => none
  | bound + 1, text =>
      match text with
      | '"' :: rest => (readString ('"' :: rest)).map fun found => (.string found.1, found.2)
      | '{' :: rest =>
          match skipSpace rest with
          | '}' :: rest => some (.object [], rest)
          | rest => (members bound rest).map fun found => (.object found.1, found.2)
      | '[' :: rest =>
          match skipSpace rest with
          | ']' :: rest => some (.array [], rest)
          | rest => (elements bound rest).map fun found => (.array found.1, found.2)
      | text => (readName text).orElse fun _ => readNumber text

/-- The members of an object, up to its closing brace. -/
def members : Nat → List Char → Option (List (List Char × Json) × List Char)
  | 0, _ => none
  | bound + 1, text => do
      let (name, rest) ← readString text
      match skipSpace rest with
      | ':' :: rest =>
          let (found, rest) ← value bound (skipSpace rest)
          match skipSpace rest with
          | '}' :: rest => return ([(name, found)], rest)
          | ',' :: rest =>
              let (others, rest) ← members bound (skipSpace rest)
              return ((name, found) :: others, rest)
          | _ => none
      | _ => none

/-- The elements of an array, up to its closing bracket. -/
def elements : Nat → List Char → Option (List Json × List Char)
  | 0, _ => none
  | bound + 1, text => do
      let (found, rest) ← value bound text
      match skipSpace rest with
      | ']' :: rest => return ([found], rest)
      | ',' :: rest =>
          let (others, rest) ← elements bound (skipSpace rest)
          return (found :: others, rest)
      | _ => none

end

/-- `json.loads`: one value, with nothing but space around it. -/
def loads (text : List Char) : Option Json := do
  let (found, rest) ← value (2 * text.length + 2) (skipSpace text)
  if skipSpace rest = [] then some found else none

/-! ## Writing -/

def hexWrite (code : Nat) : List Char :=
  ['\\', 'u', Nat.digitChar (code / 4096 % 16), Nat.digitChar (code / 256 % 16),
    Nat.digitChar (code / 16 % 16), Nat.digitChar (code % 16)]

/-- A character of a string. -/
def escaped (c : Char) : List Char :=
  if c = '"' then ['\\', '"']
  else if c = '\\' then ['\\', '\\']
  else if c = '\n' then ['\\', 'n']
  else if c = '\r' then ['\\', 'r']
  else if c = '\t' then ['\\', 't']
  else if c = '\x0C' then ['\\', 'f']
  else if c = '\x08' then ['\\', 'b']
  else if ' ' ≤ c ∧ c ≤ '~' then [c]
  else if c.toNat < 0x10000 then hexWrite c.toNat
  else
    hexWrite (0xD800 + (c.toNat - 0x10000) / 1024) ++
      hexWrite (0xDC00 + (c.toNat - 0x10000) % 1024)

def dumpString (text : List Char) : List Char := '"' :: text.flatMap escaped ++ ['"']

/-- The members of an object, with what separates them. -/
def dumpMembers : List (List Char × List Char) → List Char
  | [] => []
  | [(name, text)] => dumpString name ++ ':' :: ' ' :: dumpString text
  | (name, text) :: others =>
      dumpString name ++ ':' :: ' ' :: dumpString text ++ ',' :: ' ' :: dumpMembers others

/-- `json.dumps` of an object whose members are texts -/
def dumps (members : List (List Char × List Char)) : List Char :=
  '{' :: dumpMembers members ++ ['}']

/-! ## What was written is read back -/

theorem hexValue_digitChar {n : Nat} (small : n < 16) : hexValue (Nat.digitChar n) = some n := by
  have all : ∀ n : Fin 16, hexValue (Nat.digitChar n) = some n.val := by decide
  exact all ⟨n, small⟩

/-- Four digits give the number back. -/
theorem hex4_hexWrite {code : Nat} (small : code < 0x10000) (rest : List Char) :
    hex4 ((hexWrite code).drop 2 ++ rest) = some (code, rest) := by
  have digit : ∀ n, hexValue (Nat.digitChar (n % 16)) = some (n % 16) :=
    fun n => hexValue_digitChar (Nat.mod_lt n (by decide))
  have sum : ((code / 4096 % 16 * 16 + code / 256 % 16) * 16 + code / 16 % 16) * 16 + code % 16 =
      code := by omega
  simp [hexWrite, hex4, digit, sum]

theorem not_surrogate (c : Char) : ¬ (0xD800 ≤ c.toNat ∧ c.toNat ≤ 0xDFFF) := by
  have valid := c.valid
  simp only [UInt32.isValidChar, Nat.isValidChar] at valid
  change c.val.toNat < _ ∨ _ at valid
  intro between
  change _ ≤ c.val.toNat ∧ c.val.toNat ≤ _ at between
  omega

theorem charOf_toNat (c : Char) : charOf c.toNat = c := by
  rw [charOf, if_neg (not_surrogate c), Char.ofNat_toNat]

variable {c : Char} {bound : Nat} {rest : List Char}

/-- What is escaped is one character of the string. -/
theorem stringFrom_escape {text : List Char} (same : escape text = some (c, rest)) :
    stringFrom (bound + 1) ('\\' :: text) =
      (stringFrom bound rest).map fun more => (c :: more.1, more.2) := by
  rw [stringFrom, if_neg (by decide), if_pos rfl, same, Option.bind_some]

theorem escape_hexWrite {code : Nat} (small : code < 0x10000)
    (single : ¬ (0xD800 ≤ code ∧ code ≤ 0xDBFF)) :
    escape ('u' :: ((hexWrite code).drop 2 ++ rest)) = some (charOf code, rest) := by
  simp [escape, hex4_hexWrite small, single]

theorem escape_pair {high low : Nat} (first : 0xD800 ≤ high ∧ high ≤ 0xDBFF)
    (second : 0xDC00 ≤ low ∧ low ≤ 0xDFFF) :
    escape ('u' :: ((hexWrite high).drop 2 ++
        ('\\' :: 'u' :: ((hexWrite low).drop 2 ++ rest)))) =
      some (Char.ofNat (0x10000 + (high - 0xD800) * 1024 + (low - 0xDC00)), rest) := by
  have small : high < 0x10000 := by omega
  have small' : low < 0x10000 := by omega
  have follows : lowSurrogate ('\\' :: 'u' :: ((hexWrite low).drop 2 ++ rest)) =
      some (low, rest) := by
    simp [lowSurrogate, hex4_hexWrite small', Option.filter, second]
  simp [escape, hex4_hexWrite small, first, follows]

theorem stringFrom_plain (quote : c ≠ '"') (backslash : c ≠ '\\') (printed : 32 ≤ c.toNat) :
    stringFrom (bound + 1) (c :: rest) =
      (stringFrom bound rest).map fun more => (c :: more.1, more.2) := by
  rw [stringFrom, if_neg quote, if_neg backslash, if_neg (Nat.not_lt.2 printed)]

theorem stringFrom_hexWrite (small : c.toNat < 0x10000) :
    stringFrom (bound + 1) (hexWrite c.toNat ++ rest) =
      (stringFrom bound rest).map fun more => (c :: more.1, more.2) := by
  have single : ¬ (0xD800 ≤ c.toNat ∧ c.toNat ≤ 0xDBFF) := by
    rintro ⟨least, most⟩
    exact not_surrogate c ⟨least, by omega⟩
  have read : escape ('u' :: ((hexWrite c.toNat).drop 2 ++ rest)) =
      some (charOf c.toNat, rest) := escape_hexWrite small single
  rw [charOf_toNat] at read
  exact stringFrom_escape read

theorem stringFrom_pair (large : 0x10000 ≤ c.toNat) :
    stringFrom (bound + 1)
        (hexWrite (0xD800 + (c.toNat - 0x10000) / 1024) ++
          hexWrite (0xDC00 + (c.toNat - 0x10000) % 1024) ++ rest) =
      (stringFrom bound rest).map fun more => (c :: more.1, more.2) := by
  have most : c.toNat < 0x110000 := by
    have valid := c.valid
    simp only [UInt32.isValidChar, Nat.isValidChar] at valid
    change c.val.toNat < _ ∨ _ at valid
    change c.val.toNat < _
    omega
  have read := @escape_pair rest (0xD800 + (c.toNat - 0x10000) / 1024)
    (0xDC00 + (c.toNat - 0x10000) % 1024) (by omega) (by omega)
  have sum : 0x10000 + (0xD800 + (c.toNat - 0x10000) / 1024 - 0xD800) * 1024 +
      (0xDC00 + (c.toNat - 0x10000) % 1024 - 0xDC00) = c.toNat := by omega
  rw [sum, Char.ofNat_toNat] at read
  exact stringFrom_escape read

/-- A character that is written is read back. -/
theorem stringFrom_escaped (c : Char) :
    stringFrom (bound + 1) (escaped c ++ rest) =
      (stringFrom bound rest).map fun more => (c :: more.1, more.2) := by
  have short : ∀ {e d : Char}, escape (e :: rest) = some (d, rest) →
      stringFrom (bound + 1) (['\\', e] ++ rest) =
        (stringFrom bound rest).map fun more => (d :: more.1, more.2) :=
    fun same => stringFrom_escape same
  unfold escaped
  split
  · subst c
    exact short rfl
  rename_i quote
  split
  · subst c
    exact short rfl
  rename_i backslash
  repeat
    split
    · subst c
      exact short rfl
  split
  · rename_i printed
    exact stringFrom_plain quote backslash printed.1
  split
  · rename_i small
    exact stringFrom_hexWrite small
  · rename_i large
    exact stringFrom_pair (Nat.not_lt.1 large)

theorem escaped_ne_nil (c : Char) : 1 ≤ (escaped c).length := by
  unfold escaped
  repeat' split
  all_goals simp [hexWrite]

/-- A string that is written is read back. -/
theorem stringFrom_flatMap (text : List Char) (more : text.length < bound) :
    stringFrom bound (text.flatMap escaped ++ '"' :: rest) = some (text, rest) := by
  induction text generalizing bound with
  | nil =>
      obtain ⟨bound, rfl⟩ := Nat.exists_eq_succ_of_ne_zero (Nat.ne_of_gt more)
      rfl
  | cons c text ih =>
      cases bound with
      | zero => cases more
      | succ bound =>
          rw [List.flatMap_cons, List.append_assoc, stringFrom_escaped,
            ih (Nat.lt_of_succ_lt_succ more)]
          rfl

theorem readString_dumpString (text : List Char) :
    readString (dumpString text ++ rest) = some (text, rest) := by
  have length : text.length ≤ (text.flatMap escaped).length := by
    induction text with
    | nil => exact Nat.le_refl _
    | cons c text ih =>
        have one := escaped_ne_nil c
        rw [List.flatMap_cons, List.length_append, List.length_cons]
        omega
  have shape : dumpString text ++ rest = '"' :: (text.flatMap escaped ++ '"' :: rest) := by
    simp [dumpString]
  rw [shape, readString]
  apply stringFrom_flatMap
  rw [List.length_append]
  omega

theorem dumpString_append (text : List Char) :
    dumpString text ++ rest = '"' :: (text.flatMap escaped ++ '"' :: rest) := by
  simp [dumpString]

theorem skipSpace_dumpString (text : List Char) :
    skipSpace (' ' :: (dumpString text ++ rest)) = dumpString text ++ rest := by
  simp [skipSpace, dumpString_append]

theorem value_dumpString (text : List Char) :
    value (bound + 1) (dumpString text ++ rest) = some (.string text, rest) := by
  have read : readString (dumpString text ++ rest) = some (text, rest) :=
    readString_dumpString text
  rw [dumpString_append] at read ⊢
  simp only [value, read, Option.map_some]

/-- A member, and what decides how the object goes on. -/
theorem members_member (name text : List Char) :
    members (bound + 2) (dumpString name ++ ':' :: ' ' :: (dumpString text ++ rest)) =
      match skipSpace rest with
      | '}' :: rest => some ([(name, .string text)], rest)
      | ',' :: rest => (members (bound + 1) (skipSpace rest)).map fun others =>
          ((name, .string text) :: others.1, others.2)
      | _ => none := by
  have colon : ∀ tail, skipSpace (':' :: tail) = ':' :: tail := fun tail => by simp [skipSpace]
  rw [members, readString_dumpString]
  simp only [Option.bind_eq_bind, Option.bind_some, colon, skipSpace_dumpString, value_dumpString]
  split
  · rfl
  · cases members (bound + 1) (skipSpace _) with
    | none => rfl
    | some others => rfl
  · rfl

/-- The first member begins with a quotation mark. -/
theorem dumpMembers_cons (m : List Char × List Char) (ms : List (List Char × List Char)) :
    ∃ tail, dumpMembers (m :: ms) = '"' :: tail := by
  cases ms with
  | nil => exact ⟨_, rfl⟩
  | cons m' ms => exact ⟨_, rfl⟩

/-- The members that are written are read back. -/
theorem members_dumpMembers (m : List Char × List Char) (ms : List (List Char × List Char))
    (more : ms.length + 2 ≤ bound) :
    members bound (dumpMembers (m :: ms) ++ '}' :: rest) =
      some ((m :: ms).map fun m => (m.1, .string m.2), rest) := by
  induction ms generalizing bound m with
  | nil =>
      obtain ⟨bound, rfl⟩ := Nat.exists_eq_add_of_le' more
      have shape : dumpMembers [m] ++ '}' :: rest =
          dumpString m.1 ++ ':' :: ' ' :: (dumpString m.2 ++ '}' :: rest) := by
        simp [dumpMembers]
      rw [shape, List.length_nil, members_member]
      simp [skipSpace]
  | cons m' ms ih =>
      obtain ⟨bound, rfl⟩ := Nat.exists_eq_add_of_le' (Nat.le_of_add_left_le more)
      have shape : dumpMembers (m :: m' :: ms) ++ '}' :: rest =
          dumpString m.1 ++ ':' :: ' ' :: (dumpString m.2 ++
            ',' :: ' ' :: (dumpMembers (m' :: ms) ++ '}' :: rest)) := by
        simp [dumpMembers]
      have comma : ∀ tail, skipSpace (',' :: tail) = ',' :: tail :=
        fun tail => by simp [skipSpace]
      have next : skipSpace (' ' :: (dumpMembers (m' :: ms) ++ '}' :: rest)) =
          dumpMembers (m' :: ms) ++ '}' :: rest := by
        obtain ⟨tail, same⟩ := dumpMembers_cons m' ms
        simp [same, skipSpace]
      have enough : ms.length + 2 ≤ bound + 1 := by
        rw [List.length_cons] at more
        omega
      rw [shape, members_member, comma]
      simp only [next, ih m' enough, Option.map_some, List.map_cons]

theorem length_le_dumpMembers (ms : List (List Char × List Char)) :
    ms.length ≤ (dumpMembers ms).length := by
  induction ms with
  | nil => exact Nat.le_refl _
  | cons m ms ih =>
      cases ms with
      | nil =>
          simp only [dumpMembers, List.length_append, List.length_cons, List.length_nil]
          omega
      | cons m' ms =>
          simp only [dumpMembers, List.length_append, List.length_cons] at ih ⊢
          omega

theorem value_dumps (m : List Char × List Char) (ms : List (List Char × List Char))
    (enough : ms.length + 2 ≤ bound) :
    value (bound + 1) (dumps (m :: ms)) =
      some (.object ((m :: ms).map fun m => (m.1, .string m.2)), []) := by
  have read := @members_dumpMembers _ [] m ms enough
  have shape : dumps (m :: ms) = '{' :: (dumpMembers (m :: ms) ++ ['}']) := rfl
  obtain ⟨tail, first⟩ := dumpMembers_cons m ms
  rw [first, List.cons_append] at read
  have quote : skipSpace ('"' :: (tail ++ ['}'])) = '"' :: (tail ++ ['}']) := by
    simp [skipSpace]
  rw [shape, first, List.cons_append]
  simp only [value, quote]
  change (members bound ('"' :: (tail ++ ['}']))).map _ = _
  rw [read]
  rfl

/-- An object whose members are texts is read as it was written. -/
theorem loads_dumps (ms : List (List Char × List Char)) :
    loads (dumps ms) = some (.object (ms.map fun m => (m.1, .string m.2))) := by
  cases ms with
  | nil => rfl
  | cons m ms =>
      have length := length_le_dumpMembers (m :: ms)
      have brace : skipSpace (dumps (m :: ms)) = dumps (m :: ms) := by
        simp [dumps, skipSpace]
      have enough : ms.length + 2 ≤ 2 * (dumps (m :: ms)).length + 1 := by
        simp only [dumps, List.cons_append, List.length_cons, List.length_append] at length ⊢
        omega
      rw [loads, brace, value_dumps m ms enough]
      rfl

end Json

end ColabPlatform.Foundation
