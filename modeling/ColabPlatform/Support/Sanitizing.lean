import ColabPlatform.Foundation.Deletion
import ColabPlatform.Foundation.Run

/-!
# Support service: messages to the chatbot

`_sanitize_user_message` deletes the tags of a message in one pass.  A tag that stands inside
of another text can hold that text apart from its closing bracket; once it is deleted, the
two are a tag themselves.
-/

namespace ColabPlatform.Support

open Foundation

/-! ## Tags -/

/-- `[^>]{0,limit}>`, by how many characters it matches -/
def closing : Nat → List Char → Option Nat
  | _, [] => none
  | limit, c :: text =>
      if c = '>' then some 1
      else
        match limit with
        | 0 => none
        | limit + 1 => (closing limit text).map (· + 1)

/-- `<[^>]{0,200}>` -/
def tagPattern : Pattern Char
  | [] => none
  | c :: text => if c = '<' then (closing 200 text).map (· + 1) else none

/-- `_sanitize_user_message` -/
def sanitizeUserMessage (msg : String) : String :=
  String.ofList (deleteMatches tagPattern 0 msg.toList)

/-- A bracket, at most two hundred characters, and the closing bracket. -/
def IsTag (tag : List Char) : Prop :=
  ∃ inside, tag = '<' :: (inside ++ ['>']) ∧ '>' ∉ inside ∧ inside.length ≤ 200

/-- A tag begins the text. -/
def StartsTag (text : List Char) : Prop := ∃ tag, IsTag tag ∧ tag <+: text

theorem closing_eq_some_iff {limit n : Nat} {text : List Char} :
    closing limit text = some n ↔
      ∃ inside rest, text = inside ++ '>' :: rest ∧ '>' ∉ inside ∧ inside.length ≤ limit ∧
        n = inside.length + 1 := by
  induction text generalizing limit n with
  | nil => simp [closing]
  | cons c text ih =>
      unfold closing
      by_cases close : c = '>'
      · subst close
        rw [if_pos rfl]
        constructor
        · intro found
          cases found
          exact ⟨[], text, rfl, by simp, by simp, rfl⟩
        · rintro ⟨inside, rest, split, none, -, rfl⟩
          cases inside with
          | nil => rfl
          | cons d inside =>
              obtain ⟨rfl, -⟩ := List.cons.inj split
              simp at none
      · rw [if_neg close]
        cases limit with
        | zero =>
            constructor
            · intro found
              cases found
            · rintro ⟨inside, rest, split, -, short, -⟩
              obtain rfl := List.eq_nil_of_length_eq_zero (Nat.le_zero.1 short)
              exact absurd (List.cons.inj split).1 close
        | succ limit =>
            simp only [Option.map_eq_some_iff, ih]
            constructor
            · rintro ⟨k, ⟨inside, rest, rfl, none, short, rfl⟩, rfl⟩
              refine ⟨c :: inside, rest, rfl, ?_, Nat.succ_le_succ short, rfl⟩
              simp [none, Ne.symm close]
            · rintro ⟨inside, rest, split, none, short, rfl⟩
              cases inside with
              | nil => exact absurd (List.cons.inj split).1 close
              | cons d inside =>
                  obtain ⟨rfl, rfl⟩ := List.cons.inj split
                  exact ⟨_, ⟨inside, rest, rfl, fun mem => none (List.mem_cons_of_mem _ mem),
                    Nat.le_of_succ_le_succ short, rfl⟩, rfl⟩

theorem tagPattern_eq_some_iff {text : List Char} {n : Nat} :
    tagPattern text = some n ↔ ∃ tag rest, text = tag ++ rest ∧ IsTag tag ∧ n = tag.length := by
  cases text with
  | nil =>
      simp only [tagPattern, false_iff, reduceCtorEq]
      rintro ⟨tag, rest, split, ⟨inside, rfl, -⟩, -⟩
      cases split
  | cons c text =>
      unfold tagPattern
      by_cases begin : c = '<'
      · subst begin
        simp only [if_true, Option.map_eq_some_iff, closing_eq_some_iff]
        constructor
        · rintro ⟨k, ⟨inside, rest, rfl, none, short, rfl⟩, rfl⟩
          exact ⟨'<' :: (inside ++ ['>']), rest, by simp, ⟨inside, rfl, none, short⟩, by simp⟩
        · rintro ⟨tag, rest, split, ⟨inside, rfl, none, short⟩, rfl⟩
          obtain ⟨-, rfl⟩ := List.cons.inj split
          exact ⟨_, ⟨inside, rest, by simp, none, short, rfl⟩, by simp⟩
      · simp only [if_neg begin, false_iff, reduceCtorEq]
        rintro ⟨tag, rest, split, ⟨inside, rfl, -⟩, -⟩
        exact begin (List.cons.inj split).1

theorem tagPattern_eq_none_iff {text : List Char} :
    tagPattern text = none ↔ ¬ StartsTag text := by
  constructor
  · rintro none ⟨tag, isTag, rest, rfl⟩
    have found := tagPattern_eq_some_iff.2 ⟨tag, rest, rfl, isTag, rfl⟩
    rw [none] at found
    cases found
  · intro noTag
    cases found : tagPattern text with
    | none => rfl
    | some n =>
        obtain ⟨tag, rest, rfl, isTag, -⟩ := tagPattern_eq_some_iff.1 found
        exact absurd ⟨tag, isTag, rest, rfl⟩ noTag

theorem free_iff {text : List Char} :
    Free tagPattern text ↔ ∀ tag, IsTag tag → ¬ tag <:+: text := by
  constructor
  · rintro free tag isTag ⟨before, after, rfl⟩
    obtain ⟨inside, rfl, -⟩ := id isTag
    have noTag := free '<' (inside ++ ['>'] ++ after) ⟨before, by simp⟩
    exact tagPattern_eq_none_iff.1 noTag ⟨_, isTag, after, by simp⟩
  · intro noTag c rest suffix
    rw [tagPattern_eq_none_iff]
    rintro ⟨tag, isTag, front⟩
    exact noTag tag isTag (front.isInfix.trans suffix.isInfix)

/-! ## The scan -/

theorem deleteMatches_tag {tag : List Char} (isTag : IsTag tag) (rest : List Char) :
    deleteMatches tagPattern 0 (tag ++ rest) = deleteMatches tagPattern 0 rest := by
  have matched := tagPattern_eq_some_iff.2 ⟨tag, rest, rfl, isTag, rfl⟩
  obtain ⟨inside, rfl, -⟩ := isTag
  rw [List.cons_append] at matched ⊢
  rw [deleteMatches_of_match matched]
  congr 1
  simp

theorem isTag_of_suffix {tag rest : List Char} (isTag : IsTag tag)
    (suffix : ('<' :: rest) <:+ tag) : IsTag ('<' :: rest) := by
  obtain ⟨inside, rfl, none, short⟩ := id isTag
  rcases List.suffix_cons_iff.1 suffix with same | suffix
  · exact same ▸ isTag
  · obtain empty | ⟨front, split, inner⟩ := List.suffix_concat_iff.1 suffix
    · cases empty
    · cases front with
      | nil => cases split
      | cons d front =>
          obtain ⟨rfl, rfl⟩ := List.cons.inj split
          have within := (List.suffix_cons '<' front).trans inner
          exact ⟨front, rfl, fun mem => none (within.subset mem), within.length_le.trans short⟩

/-- The scan goes over tags and over characters at which no tag begins. -/
@[elab_as_elim]
theorem scan_induction {motive : List Char → Prop} (nil : motive [])
    (tag : ∀ tag rest, IsTag tag → motive rest → motive (tag ++ rest))
    (kept : ∀ c rest, ¬ StartsTag (c :: rest) → motive rest → motive (c :: rest))
    (text : List Char) : motive text := by
  induction length : text.length using Nat.strong_induction_on generalizing text with
  | _ n ih =>
      subst length
      cases text with
      | nil => exact nil
      | cons c text =>
          by_cases starts : StartsTag (c :: text)
          · obtain ⟨t, isTag, rest, split⟩ := starts
            have shorter : rest.length < (c :: text).length := by
              obtain ⟨inside, rfl, -⟩ := isTag
              rw [← split]
              simp
              omega
            exact split ▸ tag t rest isTag (ih _ shorter rest rfl)
          · exact kept c text starts (ih _ (Nat.lt_succ_self _) text rfl)

/-- A bracket at which no tag begins is not inside of one either: it is kept. -/
theorem deleteMatches_of_far {text rest : List Char} (suffix : ('<' :: rest) <:+ text)
    (far : ¬ StartsTag ('<' :: rest)) :
    ∃ before, deleteMatches tagPattern 0 text =
      before ++ '<' :: deleteMatches tagPattern 0 rest := by
  induction text using scan_induction with
  | nil => simp at suffix
  | tag t behind isTag ih =>
      rw [deleteMatches_tag isTag]
      apply ih
      rcases List.suffix_or_suffix_of_suffix suffix (List.suffix_append t behind) with
        later | ⟨front, whole⟩
      · exact later
      · cases front with
        | nil => exact ⟨[], by simpa using whole.symm⟩
        | cons d front =>
            rw [← whole, List.suffix_append_self_iff] at suffix
            obtain ⟨rfl, -⟩ := List.cons.inj whole
            exact absurd ⟨_, isTag_of_suffix isTag suffix, behind, whole⟩ far
  | kept c text noTag ih =>
      rw [deleteMatches_of_none (tagPattern_eq_none_iff.2 noTag)]
      rcases List.suffix_cons_iff.1 suffix with same | suffix
      · obtain ⟨rfl, rfl⟩ := List.cons.inj same
        exact ⟨[], rfl⟩
      · obtain ⟨before, kept⟩ := ih suffix
        exact ⟨c :: before, by rw [kept, List.cons_append]⟩

/-- The tags left out, the text is `n` other characters and then a closing bracket. -/
inductive Closes : Nat → List Char → Prop
  | close (rest : List Char) : Closes 0 ('>' :: rest)
  | char {n : Nat} {c : Char} {rest : List Char} (other : c ≠ '>')
      (kept : ¬ StartsTag (c :: rest)) (closes : Closes n rest) : Closes (n + 1) (c :: rest)
  | tag {n : Nat} {tag rest : List Char} (isTag : IsTag tag) (closes : Closes n rest) :
      Closes n (tag ++ rest)

theorem closes_iff {n : Nat} {text : List Char} :
    Closes n text ↔ ∃ inside after, deleteMatches tagPattern 0 text = inside ++ '>' :: after ∧
      '>' ∉ inside ∧ inside.length = n := by
  constructor
  · intro closes
    induction closes with
    | close rest =>
        have kept : tagPattern ('>' :: rest) = none := by simp [tagPattern]
        exact ⟨[], _, deleteMatches_of_none kept, by simp, rfl⟩
    | char other kept _ ih =>
        obtain ⟨inside, after, split, none, rfl⟩ := ih
        rw [deleteMatches_of_none (tagPattern_eq_none_iff.2 kept), split]
        exact ⟨_ :: inside, after, rfl, by simp [none, Ne.symm other], rfl⟩
    | tag isTag _ ih =>
        rw [deleteMatches_tag isTag]
        exact ih
  · rintro ⟨inside, after, split, none, rfl⟩
    induction text using scan_induction generalizing inside with
    | nil => simp [deleteMatches] at split
    | tag t rest isTag ih =>
        rw [deleteMatches_tag isTag] at split
        exact .tag isTag (ih inside split none)
    | kept c rest noTag ih =>
        rw [deleteMatches_of_none (tagPattern_eq_none_iff.2 noTag)] at split
        cases inside with
        | nil =>
            obtain ⟨rfl, -⟩ := List.cons.inj split
            exact .close rest
        | cons d inside =>
            obtain ⟨rfl, -⟩ := List.cons.inj split
            rw [List.mem_cons, not_or] at none
            exact .char (Ne.symm none.1) noTag (ih inside (List.cons.inj split).2 none.2)

/-- A bracket at which no tag begins, and behind it, the tags left out, at most two hundred
characters and a closing bracket. -/
def JoinsTag (text : List Char) : Prop :=
  ∃ rest, ('<' :: rest) <:+ text ∧ ¬ StartsTag ('<' :: rest) ∧ ∃ n ≤ 200, Closes n rest

theorem free_deleteMatches_iff {text : List Char} :
    Free tagPattern (deleteMatches tagPattern 0 text) ↔ ¬ JoinsTag text := by
  rw [free_iff]
  constructor
  · rintro free ⟨rest, suffix, far, n, short, closes⟩
    obtain ⟨before, kept⟩ := deleteMatches_of_far suffix far
    obtain ⟨inside, after, split, none, rfl⟩ := closes_iff.1 closes
    refine free _ ⟨inside, rfl, none, short⟩ ⟨before, after, ?_⟩
    rw [kept, split]
    simp
  · rintro apart tag ⟨inside, rfl, none, short⟩ ⟨before, after, whole⟩
    have kept : deleteMatches tagPattern 0 text = before ++ '<' :: (inside ++ '>' :: after) := by
      rw [← whole]
      simp
    obtain ⟨rest, suffix, far, split⟩ := kept_of_deleteMatches kept
    exact apart ⟨rest, suffix, tagPattern_eq_none_iff.1 far, _, short,
      closes_iff.2 ⟨inside, after, split, none, rfl⟩⟩

/-- What sanitising a message is for. -/
structure Sanitizes (msg : String) : Prop where
  free : ∀ tag, IsTag tag → ¬ tag <:+: (sanitizeUserMessage msg).toList
  idempotent : sanitizeUserMessage (sanitizeUserMessage msg) = sanitizeUserMessage msg

theorem idempotent_iff {msg : String} :
    sanitizeUserMessage (sanitizeUserMessage msg) = sanitizeUserMessage msg ↔
      Free tagPattern (sanitizeUserMessage msg).toList := by
  rw [← deleteMatches_eq_self_iff]
  conv_lhs => lhs; rw [sanitizeUserMessage]
  rw [← String.toList_inj, String.toList_ofList]

theorem sanitizes_iff_not_joinsTag (msg : String) :
    Sanitizes msg ↔ ¬ JoinsTag msg.toList := by
  have free : Free tagPattern (sanitizeUserMessage msg).toList ↔ ¬ JoinsTag msg.toList := by
    rw [sanitizeUserMessage, String.toList_ofList]
    exact free_deleteMatches_iff
  constructor
  · exact fun sanitizes => free.1 (free_iff.2 sanitizes.free)
  · intro apart
    exact ⟨free_iff.1 (free.2 apart), idempotent_iff.2 (free.2 apart)⟩

/-! ## Prompts -/

inductive Role where
  | system | user | assistant
  deriving DecidableEq, Repr

structure ChatMessage where
  role : Role
  content : String
  deriving DecidableEq, Repr

/-- `history[-n:]` -/
def lastEntries (n : Nat) (history : List ChatMessage) : List ChatMessage :=
  if n = 0 then history else history.drop (history.length - n)

/-- The messages that `_stream_openai` sends. -/
def promptMessages (systemPrompt : String) (history : List ChatMessage) (userMessage : String) :
    List ChatMessage :=
  ⟨.system, systemPrompt⟩ :: (history ++ [⟨.user, userMessage⟩])

/-- `_save_turn` -/
def saveTurn (history : List ChatMessage) (userMessage assistantMessage : String) :
    List ChatMessage :=
  lastEntries 12 (history ++ [⟨.user, userMessage⟩, ⟨.assistant, assistantMessage⟩])

/-- The history of a session in Redis, and the prompts that were built so far. -/
structure Chatbot where
  history : List ChatMessage
  prompts : List (List ChatMessage)

inductive ChatStep where
  /-- a request to `chatbot`; without articles there is no prompt -/
  | message (text : String) (systemPrompt : Option String) (answer : String)
  /-- the history has expired -/
  | expire

namespace Chatbot

def start : Chatbot := ⟨[], []⟩

/-- `chatbot`, with `chatbot_max_history_turns` -/
def step (maxHistoryTurns : Nat) (s : Chatbot) : ChatStep → Chatbot
  | .message _ none _ => s
  | .message text (some systemPrompt) answer =>
      let safeMessage := sanitizeUserMessage text
      let history := lastEntries (maxHistoryTurns * 2) s.history
      ⟨saveTurn s.history safeMessage answer,
        promptMessages systemPrompt history safeMessage :: s.prompts⟩
  | .expire => { s with history := [] }

def run (maxHistoryTurns : Nat) (steps : List ChatStep) : Chatbot :=
  runFrom (step maxHistoryTurns) start steps

/-- No message of the user holds a tag. -/
def UserTurnsFree (prompt : List ChatMessage) : Prop :=
  ∀ message ∈ prompt, message.role = .user → ∀ tag, IsTag tag → ¬ tag <:+: message.content.toList

def PromptsFree (s : Chatbot) : Prop := ∀ prompt ∈ s.prompts, UserTurnsFree prompt

/-- The messages of the user in the history stand in a prompt. -/
def Prompted (s : Chatbot) : Prop :=
  ∀ message ∈ s.history, message.role = .user → ∃ prompt ∈ s.prompts, message ∈ prompt

end Chatbot

/-- The message of the step, if it comes to a prompt, joins no tag. -/
def ChatStep.Apart : ChatStep → Prop
  | .message text (some _) _ => ¬ JoinsTag text.toList
  | _ => True

theorem mem_of_mem_lastEntries {n : Nat} {history : List ChatMessage} {message : ChatMessage}
    (mem : message ∈ lastEntries n history) : message ∈ history := by
  unfold lastEntries at mem
  split at mem
  · exact mem
  · exact List.mem_of_mem_drop mem

namespace Chatbot

theorem prompted_step (maxHistoryTurns : Nat) (s : Chatbot) (e : ChatStep)
    (prompted : s.Prompted) : (s.step maxHistoryTurns e).Prompted := by
  cases e with
  | expire =>
      intro message mem
      cases mem
  | message text systemPrompt answer =>
      cases systemPrompt with
      | none => exact prompted
      | some systemPrompt =>
          intro message mem isUser
          change message ∈ saveTurn s.history (sanitizeUserMessage text) answer at mem
          have mem := mem_of_mem_lastEntries mem
          simp only [List.mem_append, List.mem_cons, List.not_mem_nil, or_false] at mem
          rcases mem with old | rfl | rfl
          · obtain ⟨prompt, memPrompt, found⟩ := prompted message old isUser
            exact ⟨prompt, List.mem_cons_of_mem _ memPrompt, found⟩
          · exact ⟨_, List.mem_cons_self .., by simp [promptMessages]⟩
          · cases isUser

/-- A step keeps the prompts free of tags exactly if its message joins none. -/
theorem promptsFree_step_iff (maxHistoryTurns : Nat) (s : Chatbot) (e : ChatStep)
    (prompted : s.Prompted) (free : s.PromptsFree) :
    (s.step maxHistoryTurns e).PromptsFree ↔ e.Apart := by
  cases e with
  | expire => exact iff_of_true free trivial
  | message text systemPrompt answer =>
      cases systemPrompt with
      | none => exact iff_of_true free trivial
      | some systemPrompt =>
          change _ ↔ ¬ JoinsTag text.toList
          rw [← sanitizes_iff_not_joinsTag]
          constructor
          · intro later
            have last := later _ (List.mem_cons_self ..)
              ⟨.user, sanitizeUserMessage text⟩ (by simp [promptMessages]) rfl
            exact ⟨last, idempotent_iff.2 (free_iff.2 last)⟩
          · intro sanitizes prompt mem
            rcases List.mem_cons.1 mem with rfl | mem
            · intro message mem isUser
              simp only [promptMessages, List.mem_cons, List.mem_append, List.not_mem_nil,
                or_false] at mem
              rcases mem with rfl | old | rfl
              · cases isUser
              · obtain ⟨prompt, memPrompt, found⟩ :=
                  prompted message (mem_of_mem_lastEntries old) isUser
                exact free prompt memPrompt message found isUser
              · exact sanitizes.free
            · exact free prompt mem

end Chatbot

/-- A message is sanitised exactly if it joins no tag, and the prompts of a session stay free of
the tags of its user exactly if all messages that come to a prompt are so. -/
theorem sanitizes_iff (msg : String) (maxHistoryTurns : Nat) (steps : List ChatStep) :
    (Sanitizes msg ↔ ¬ JoinsTag msg.toList) ∧
      ((∀ first, first <+: steps → (Chatbot.run maxHistoryTurns first).PromptsFree) ↔
        Guarded (Chatbot.step maxHistoryTurns) (fun _ e => e.Apart) .start steps) := by
  refine ⟨sanitizes_iff_not_joinsTag msg, ?_⟩
  apply prefixes_iff_guarded_of_invariant (Chatbot.prompted_step maxHistoryTurns)
    (Chatbot.promptsFree_step_iff maxHistoryTurns)
  · intro message mem
    cases mem
  · intro prompt mem
    cases mem

/-- Two brackets, of which only the second is near enough to the closing one. -/
def nestedTag : List Char := "<<".toList ++ List.replicate 200 'y' ++ ">script>".toList

theorem nested_tag_is_joined : ¬ Sanitizes (String.ofList nestedTag) := by
  intro sanitizes
  have left : (sanitizeUserMessage (String.ofList nestedTag)).toList = "<script>".toList := by
    rw [sanitizeUserMessage, String.toList_ofList, String.toList_ofList]
    decide +kernel
  refine sanitizes.free "<script>".toList ⟨"script".toList, by decide, by decide, by decide⟩ ?_
  rw [left]

end ColabPlatform.Support
