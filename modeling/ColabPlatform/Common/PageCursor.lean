import ColabPlatform.Common.Floats
import ColabPlatform.Common.IsoTime
import ColabPlatform.Common.UuidV7
import ColabPlatform.Foundation.Base64
import ColabPlatform.Foundation.JsonText

/-!
# Cursors of a time and an id

A page's cursor is an object with the time and the id of its last row, written in JSON and
then in the URL-safe alphabet of Base64.  Decoding an encoded cursor returns both.
-/

namespace ColabPlatform.Common

open Foundation

/-! ## Alphabets -/

def base64Digits : List Char :=
  "ABCDEFGHIJKLMNOPQRSTUVWXYZabcdefghijklmnopqrstuvwxyz0123456789+/".toList

/-- `base64.b64encode` and `base64.b64decode` -/
def standardBase64 : Base64 where
  digit n := base64Digits.getD n 'A'
  value c := base64Digits.idxOf? c
  value_digit := by decide +kernel
  digit_ne_pad := by decide +kernel

def urlsafeDigits : List Char :=
  "ABCDEFGHIJKLMNOPQRSTUVWXYZabcdefghijklmnopqrstuvwxyz0123456789-_".toList

/-- `base64.urlsafe_b64encode` and `base64.urlsafe_b64decode`, which reads both alphabets. -/
def urlsafeBase64 : Base64 where
  digit n := urlsafeDigits.getD n 'A'
  value c := (urlsafeDigits.idxOf? c).orElse fun _ => base64Digits.idxOf? c
  value_digit := by decide +kernel
  digit_ne_pad := by decide +kernel

/-- `text.encode()` -/
def utf8 (text : List Char) : List UInt8 := text.flatMap String.utf8EncodeChar

/-- `bytes.decode()` -/
def ofUtf8 (bytes : List UInt8) : Option (List Char) :=
  bytes.toByteArray.utf8Decode?.map Array.toList

theorem ofUtf8_utf8 (text : List Char) : ofUtf8 (utf8 text) = some text := by
  have written : (utf8 text).toByteArray = text.utf8Encode := rfl
  rw [ofUtf8, written, List.utf8Decode?_utf8Encode]
  rfl

/-! ## Reading a UUID -/

/-- `text.replace(word, "")`; the number is that of the characters yet to be left out. -/
def removeAll (word : List Char) : Nat → List Char → List Char
  | _, [] => []
  | skip + 1, _ :: text => removeAll word skip text
  | 0, c :: text =>
      if word.isPrefixOf (c :: text) then removeAll word (word.length - 1) text
      else c :: removeAll word 0 text

def stripWhile (p : Char → Bool) (text : List Char) : List Char :=
  ((text.dropWhile p).reverse.dropWhile p).reverse

def hexDigitOf (c : Char) : Option Nat :=
  if 'a' ≤ c ∧ c ≤ 'f' then some (c.toNat - 87)
  else if 'A' ≤ c ∧ c ≤ 'F' then some (c.toNat - 55)
  else digitValue c

/-- Digits after others of the given value; single underscores may stand between digits. -/
def hexFrom (value : Nat) (after : Bool) : List Char → Option Nat
  | [] => if after then some value else none
  | c :: text =>
      if c = '_' then if after then hexFrom value false text else none
      else (hexDigitOf c).bind fun digit => hexFrom (16 * value + digit) true text

/-- The digits of a number, behind `0x` if that is there. -/
def hexDigits : List Char → Option Nat
  | '0' :: x :: text =>
      if x = 'x' ∨ x = 'X' then
        match text with
        | '_' :: text => hexFrom 0 false text
        | text => hexFrom 0 false text
      else hexFrom 0 false ('0' :: x :: text)
  | text => hexFrom 0 false text

/-- `int(text, 16)`, for texts without a minus sign -/
def hexOf (text : List Char) : Option Nat :=
  match stripWhile isSpace text with
  | '+' :: text => hexDigits text
  | text => hexDigits text

/-- `uuid.UUID(text)` -/
def parseUuid (text : List Char) : Option UuidInt :=
  let text := removeAll "uuid:".toList 0 (removeAll "urn:".toList 0 text)
  let digits := (stripWhile (· ∈ ['{', '}']) text).filter (· ≠ '-')
  if digits.length = 32 then
    (hexOf digits).bind fun value =>
      if small : value < 2 ^ 128 then some ⟨value, small⟩ else none
  else none

/-! ## Cursors -/

/-- `_encode_cursor` -/
def encodeCursor (createdAt : UtcTime) (id : UuidInt) : String :=
  let payload := Json.dumps
    [("t".toList, isoformat createdAt), ("id".toList, (uuidText id).toList)]
  String.ofList (urlsafeBase64.encode (utf8 payload))

/-- The text of a JSON document, without the mark of its encoding. -/
def documentText (bytes : List UInt8) : Option (List Char) :=
  (ofUtf8 bytes).map fun text => if text.head? = some '\uFEFF' then text.tail else text

/-- `_decode_cursor` -/
def decodeCursor (cursor : String) : Option (UtcTime × UuidInt) := do
  let bytes ← urlsafeBase64.decode cursor.toList
  let payload ← Json.loads (← documentText bytes)
  let t ← payload.member "t".toList
  let dt ← fromisoformat (← t.text?)
  let id ← payload.member "id".toList
  let uid ← parseUuid (← id.text?)
  return (dt, uid)

/-- The cursor of a request; one that is empty or cannot be decoded is ignored. -/
def readCursor (cursor : Option String) : Option (UtcTime × UuidInt) :=
  (cursor.filter (· ≠ "")).bind decodeCursor

/-! ## What was encoded is decoded -/

variable {text : List Char} {p : Char → Bool} {c : Char}

theorem removeAll_of_notMem {first : Char} (word : List Char) (absent : first ∉ text) :
    removeAll (first :: word) 0 text = text := by
  induction text with
  | nil => rfl
  | cons c text ih =>
      obtain ⟨other, later⟩ := not_or.1 (absent ∘ List.mem_cons.2)
      have starts : (first :: word).isPrefixOf (c :: text) = false := by
        simp [List.isPrefixOf, other]
      rw [removeAll, starts, if_neg (by decide), ih later]

theorem dropWhile_of_forall (none : ∀ c ∈ text, p c = false) : text.dropWhile p = text := by
  cases text with
  | nil => rfl
  | cons c text => simp [none c List.mem_cons_self]

theorem stripWhile_of_forall (none : ∀ c ∈ text, p c = false) : stripWhile p text = text := by
  have reversed : ∀ c ∈ text.reverse, p c = false := fun c mem => none c (List.mem_reverse.1 mem)
  rw [stripWhile, dropWhile_of_forall none, dropWhile_of_forall reversed, List.reverse_reverse]

/-- What a UUID is written with. -/
theorem mem_of_mem_uuidDigits {width value : Nat} (mem : c ∈ uuidDigits width value) :
    c ∈ "-0123456789abcdef".toList := by
  have written : ∀ n, hexDigit n ∈ "-0123456789abcdef".toList := by
    intro n
    by_cases small : n < 16
    · have all : ∀ n : Fin 16, hexDigit n.val ∈ "-0123456789abcdef".toList := by decide
      exact all ⟨n, small⟩
    · have zero : hexDigit n = '0' := by
        rw [hexDigit, List.getD, List.getElem?_eq_none (Nat.not_lt.1 small), Option.getD_none]
      rw [zero]
      decide
  induction width generalizing value with
  | zero => cases mem
  | succ width ih =>
      simp only [uuidDigits, List.mem_cons] at mem
      rcases mem with rfl | later
      · exact written _
      · split at later
        · rcases List.mem_cons.1 later with rfl | later
          · decide
          · exact ih later
        · exact ih later

theorem hexDigitOf_hexDigit {n : Nat} (small : n < 16) :
    hexDigit n ≠ '_' ∧ hexDigit n ≠ '-' ∧ hexDigitOf (hexDigit n) = some n := by
  have all : ∀ n : Fin 16, hexDigit n.val ≠ '_' ∧ hexDigit n.val ≠ '-' ∧
      hexDigitOf (hexDigit n.val) = some n.val := by decide +kernel
  exact all ⟨n, small⟩

/-- The digits without the hyphens. -/
theorem filter_uuidDigits {width value : Nat} (small : value < 16 ^ (width + 1)) :
    (uuidDigits (width + 1) value).filter (· ≠ '-') =
      hexDigit (value / 16 ^ width) ::
        (uuidDigits width (value % 16 ^ width)).filter (· ≠ '-') := by
  have digit : value / 16 ^ width < 16 := by
    rw [pow_succ] at small
    exact Nat.div_lt_of_lt_mul small
  have plain := (hexDigitOf_hexDigit digit).2.1
  simp only [uuidDigits]
  split
  · simp [plain]
  · simp [plain]

theorem length_filter_uuidDigits {width value : Nat} (small : value < 16 ^ width) :
    ((uuidDigits width value).filter (· ≠ '-')).length = width := by
  induction width generalizing value with
  | zero => rfl
  | succ width ih =>
      rw [filter_uuidDigits small, List.length_cons, ih (Nat.mod_lt _ (Nat.pow_pos (by decide)))]

/-- Behind other digits. -/
theorem hexFrom_uuidDigits {width value : Nat} (small : value < 16 ^ width) (before : Nat) :
    hexFrom before true ((uuidDigits width value).filter (· ≠ '-')) =
      some (before * 16 ^ width + value) := by
  induction width generalizing value before with
  | zero =>
      have zero : value = 0 := by omega
      simp [uuidDigits, hexFrom, zero]
  | succ width ih =>
      have digit : value / 16 ^ width < 16 := by
        rw [pow_succ] at small
        exact Nat.div_lt_of_lt_mul small
      obtain ⟨plain, -, read⟩ := hexDigitOf_hexDigit digit
      have sum := Nat.div_add_mod value (16 ^ width)
      rw [filter_uuidDigits small, hexFrom, if_neg plain, read, Option.bind_some,
        ih (Nat.mod_lt _ (Nat.pow_pos (by decide)))]
      congr 1
      rw [pow_succ, Nat.add_mul, Nat.add_assoc, Nat.mul_comm (value / _), sum, Nat.mul_comm 16,
        Nat.mul_assoc, Nat.mul_comm 16]

theorem hexDigits_of_notMem (small : 'x' ∉ text) (large : 'X' ∉ text) :
    hexDigits text = hexFrom 0 false text := by
  unfold hexDigits
  split
  · rw [if_neg]
    rintro (rfl | rfl)
    · simp at small
    · simp at large
  · rfl

theorem hexFrom_cons (first : c ≠ '_') :
    hexFrom 0 false (c :: text) = hexFrom 0 true (c :: text) := by
  rw [hexFrom, hexFrom, if_neg first, if_neg first]

/-- Small digits alone are a number without a sign and a prefix. -/
theorem hexOf_of_forall (plain : ∀ c ∈ text, c ∈ "0123456789abcdef".toList) (filled : text ≠ []) :
    hexOf text = hexFrom 0 true text := by
  have other : ∀ d, d ∉ "0123456789abcdef".toList → d ∉ text :=
    fun d absent mem => absent (plain d mem)
  have space : stripWhile isSpace text = text := by
    apply stripWhile_of_forall
    intro c mem
    have all : "0123456789abcdef".toList.all (fun c => !isSpace c) = true := by decide
    simpa only [Bool.not_eq_true'] using List.all_eq_true.1 all c (plain c mem)
  have unsigned : hexOf text = hexDigits text := by
    unfold hexOf
    rw [space]
    split
    · have plus := other '+' (by decide)
      simp at plus
    · rfl
  rw [unsigned, hexDigits_of_notMem (other 'x' (by decide)) (other 'X' (by decide))]
  cases text with
  | nil => exact absurd rfl filled
  | cons c text =>
      apply hexFrom_cons
      rintro rfl
      exact other '_' (by decide) List.mem_cons_self

theorem hexOf_uuidDigits (id : UuidInt) :
    hexOf ((uuidDigits 32 id.val).filter (· ≠ '-')) = some id.val := by
  have small : id.val < 16 ^ 32 := id.isLt
  have plain : ∀ c ∈ (uuidDigits 32 id.val).filter (· ≠ '-'),
      c ∈ "0123456789abcdef".toList := by
    intro c mem
    obtain ⟨written, visible⟩ := List.mem_filter.1 mem
    exact (List.mem_cons.1 (mem_of_mem_uuidDigits written)).resolve_left (of_decide_eq_true visible)
  have filled : (uuidDigits 32 id.val).filter (· ≠ '-') ≠ [] := by
    have length := length_filter_uuidDigits small
    intro none
    rw [none] at length
    cases length
  rw [hexOf_of_forall plain filled, hexFrom_uuidDigits small, Nat.zero_mul, Nat.zero_add]

/-- The text of a UUID is read as that UUID. -/
theorem parseUuid_uuidText (id : UuidInt) : parseUuid (uuidText id).toList = some id := by
  have small : id.val < 16 ^ 32 := id.isLt
  have without : ∀ c, c ∉ "-0123456789abcdef".toList → c ∉ uuidDigits 32 id.val :=
    fun c other mem => other (mem_of_mem_uuidDigits mem)
  have urn : removeAll "urn:".toList 0 (uuidDigits 32 id.val) = uuidDigits 32 id.val :=
    removeAll_of_notMem _ (without 'u' (by decide))
  have uuid : removeAll "uuid:".toList 0 (uuidDigits 32 id.val) = uuidDigits 32 id.val :=
    removeAll_of_notMem _ (without 'u' (by decide))
  have braces : stripWhile (· ∈ ['{', '}']) (uuidDigits 32 id.val) = uuidDigits 32 id.val := by
    apply stripWhile_of_forall
    intro c mem
    have all : "-0123456789abcdef".toList.all (fun c => !decide (c ∈ ['{', '}'])) = true := by
      decide
    simpa only [Bool.not_eq_true'] using List.all_eq_true.1 all c (mem_of_mem_uuidDigits mem)
  rw [uuidText, String.toList_ofList, parseUuid, urn, uuid, braces]
  simp only [length_filter_uuidDigits small, if_pos, hexOf_uuidDigits, Option.bind_some]
  exact dif_pos id.isLt

/-- Decoding an encoded cursor returns its time and its id. -/
theorem decodeCursor_encodeCursor (createdAt : UtcTime) (id : UuidInt) :
    decodeCursor (encodeCursor createdAt id) = some (createdAt, id) := by
  have document : ∀ members,
      documentText (utf8 (Json.dumps members)) = some (Json.dumps members) := by
    intro members
    rw [documentText, ofUtf8_utf8]
    rfl
  have members : ∀ t id : List Char,
      let payload := Json.object ([("t".toList, t), ("id".toList, id)].map
        fun m => (m.1, .string m.2))
      payload.member "t".toList = some (.string t) ∧
        payload.member "id".toList = some (.string id) := fun _ _ => ⟨rfl, rfl⟩
  obtain ⟨time, row⟩ := members (isoformat createdAt) (uuidText id).toList
  simp only [decodeCursor, encodeCursor, String.toList_ofList, Base64.decode_encode, document,
    Json.loads_dumps, Option.bind_eq_bind, Option.bind_some, time, row, Json.text?,
    fromisoformat_isoformat, parseUuid_uuidText]
  rfl

theorem readCursor_map (cursor : Option (UtcTime × UuidInt)) :
    readCursor (cursor.map fun place => encodeCursor place.1 place.2) = cursor := by
  cases cursor with
  | none => rfl
  | some place =>
      have filled : encodeCursor place.1 place.2 ≠ "" := by
        intro empty
        have round := decodeCursor_encodeCursor place.1 place.2
        rw [empty] at round
        cases round
      simp [readCursor, Option.filter, filled, decodeCursor_encodeCursor]

example : parseUuid "{urn:uuid:00000000-0000-0000-0000-0000000000FF}".toList = some 255 := by
  decide +kernel

end ColabPlatform.Common
