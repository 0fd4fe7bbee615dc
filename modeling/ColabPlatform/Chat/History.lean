import ColabPlatform.Chat.Messages
import ColabPlatform.Foundation.Paging
import Mathlib.Data.String.Basic

/-!
# Chat service: the history of a room

The messages of a room are read forwards or backwards from a cursor, which is the id
of the last message of the page before.  Both directions are followed to their end.
-/

namespace ColabPlatform.Chat

open Foundation Common
open Moderation (HttpError)

/-! ## The rows behind a cursor -/

/-- The visible messages of a room, in the order in which they are stored. -/
def ChatState.visibleIn (chat : ChatState) (roomId : String) : List ChatMessageOut :=
  (chat.messages.rows.filter fun message => message.roomId = roomId && message.shown).map
    ChatMessage.toOut

def afterCursor (cursor : Option String) (id : String) : Bool :=
  cursor.all fun cursor => decide (cursor < id)

def beforeCursor (cursor : Option String) (id : String) : Bool :=
  cursor.all fun cursor => decide (id < cursor)

/-- What `get_messages` selects before it cuts off a page. -/
def ChatState.historyRows (chat : ChatState) (roomId direction : String)
    (cursor : Option String) : List ChatMessageOut :=
  (if direction = "after" then chat.shownIn roomId (afterCursor cursor) ascending
  else chat.shownIn roomId (beforeCursor cursor) descending).map ChatMessage.toOut

/-- A request for a page that is served. -/
def servesMessages (chat : ChatState) (roomId : String) (profile : IdField) (limit : Nat)
    (direction : String) (cursor : Option String) (messages : List ChatMessageOut)
    (next : Option String) : Prop :=
  getMessages chat roomId profile cursor limit direction = .ok ⟨messages, next⟩

section Rows

variable {chat : ChatState} {roomId : String} {keep : String → Bool}
  {before : String → String → Bool}

/-- The shown messages, sorted by a rank of their ids. -/
theorem shownIn_lists {γ : Type*} [LinearOrder γ] {rank : String → γ}
    (sorts : ∀ a b, before a b = true ↔ rank b ≤ rank a) (own : Function.Injective rank) :
    Lists (fun message message' => rank message'.id < rank message.id)
      ((chat.visibleIn roomId).filter fun message => keep message.id)
      ((chat.shownIn roomId keep before).map ChatMessage.toOut) := by
  have lists : Lists (fun message message' => rank message'.id < rank message.id)
      (chat.messages.rows.filter fun message =>
        message.roomId = roomId && keep message.id && message.shown)
      (chat.shownIn roomId keep before) := by
    refine lists_insertionSort (fun message message' => sorts message.id message'.id)
      ((chat.messages.keys_nodup.of_map _).filter _) fun message mem message' mem' same => ?_
    exact Table.eq_of_key_eq (List.mem_of_mem_filter mem) (List.mem_of_mem_filter mem') (own same)
  refine ⟨(lists.perm.map _).trans (.of_eq ?_), List.pairwise_map.2 lists.sorted⟩
  rw [ChatState.visibleIn, List.filter_map, List.filter_filter]
  congr 1
  refine List.filter_congr fun message _ => ?_
  rw [Function.comp_apply, Bool.and_right_comm, Bool.and_comm]
  rfl

theorem id_lt_of_le {a b : String} (le : a ≤ b) (ne : a ≠ b) : a < b :=
  String.not_le.1 fun ge => ne (String.le_antisymm le ge)

theorem shownIn_ascending :
    Lists (fun message message' => message.id < message'.id)
      ((chat.visibleIn roomId).filter fun message => keep message.id)
      ((chat.shownIn roomId keep ascending).map ChatMessage.toOut) :=
  shownIn_lists (fun _ _ => decide_eq_true_iff) OrderDual.toDual.injective

theorem shownIn_descending :
    Lists (fun message message' => message'.id < message.id)
      ((chat.visibleIn roomId).filter fun message => keep message.id)
      ((chat.shownIn roomId keep descending).map ChatMessage.toOut) :=
  shownIn_lists (fun _ _ => decide_eq_true_iff) Function.injective_id

end Rows

/-! ## Following the cursors -/

section History

variable {chat : ChatState} {roomId : String} {profile : IdField} {profileId : String}
  {room : ChatRoom} {limit : Nat} {direction : String}

/-- A participant is served one page of the rows that the direction selects. -/
theorem servesMessages_eq (one : 1 ≤ limit) (most : limit ≤ 200)
    (known : getProfileId profile = .ok profileId)
    (inside : chat.findRoom roomId profileId = .ok room) :
    servesMessages chat roomId profile limit direction =
      servePage limit ChatMessageOut.id (chat.historyRows roomId direction) := by
  funext cursor messages next
  unfold servesMessages getMessages servePage ChatState.historyRows
  rw [if_neg (Nat.not_lt.2 one), if_neg (Nat.not_lt.2 most), known, probe_map]
  simp only [bind, Except.bind, pure, Except.pure, inside, probe]
  simp only [Except.ok.injEq, MessagePage.mk.injEq, Prod.mk.injEq]
  rfl

theorem selects_after (cursor : Option String) :
    Selects (fun message message' => message.id < message'.id) ChatMessageOut.id
      (fun id message => decide (id < message.id))
      ((chat.visibleIn roomId).filter fun message => afterCursor cursor message.id)
      (chat.historyRows roomId "after") cursor := by
  have rows : ∀ cursor, Lists (fun message message' => message.id < message'.id)
      ((chat.visibleIn roomId).filter fun message => afterCursor cursor message.id)
      (chat.historyRows roomId "after" cursor) := by
    intro cursor
    rw [ChatState.historyRows, if_pos rfl]
    exact shownIn_ascending
  refine ⟨rows cursor, fun a inside => ?_⟩
  have behind := (List.mem_filter.1 inside).2
  rw [List.filter_filter]
  convert rows (some a.id) using 1
  refine List.filter_congr fun message _ => ?_
  refine Bool.and_eq_left_iff_imp.2 fun later => ?_
  cases cursor with
  | none => rfl
  | some since =>
      exact decide_eq_true (String.lt_trans (of_decide_eq_true behind) (of_decide_eq_true later))

theorem selects_before (backwards : direction ≠ "after") (cursor : Option String) :
    Selects (fun message message' => message'.id < message.id) ChatMessageOut.id
      (fun id message => decide (message.id < id))
      ((chat.visibleIn roomId).filter fun message => beforeCursor cursor message.id)
      (chat.historyRows roomId direction) cursor := by
  have rows : ∀ cursor, Lists (fun message message' => message'.id < message.id)
      ((chat.visibleIn roomId).filter fun message => beforeCursor cursor message.id)
      (chat.historyRows roomId direction cursor) := by
    intro cursor
    rw [ChatState.historyRows, if_neg backwards]
    exact shownIn_descending
  refine ⟨rows cursor, fun a inside => ?_⟩
  have ahead := (List.mem_filter.1 inside).2
  rw [List.filter_filter]
  convert rows (some a.id) using 1
  refine List.filter_congr fun message _ => ?_
  refine Bool.and_eq_left_iff_imp.2 fun earlier => ?_
  cases cursor with
  | none => rfl
  | some since =>
      exact decide_eq_true (String.lt_trans (of_decide_eq_true earlier) (of_decide_eq_true ahead))

/-- The messages on both sides of a cursor are those with another id. -/
theorem halves_perm (table : List ChatMessageOut) (id : String) :
    ((table.filter fun message => beforeCursor (some id) message.id) ++
        table.filter fun message => afterCursor (some id) message.id).Perm
      (table.filter fun message => message.id ≠ id) := by
  have split := List.filter_append_perm (fun message => beforeCursor (some id) message.id)
    (table.filter fun message => message.id ≠ id)
  have front : (table.filter fun message => message.id ≠ id).filter
      (fun message => beforeCursor (some id) message.id) =
      table.filter fun message => beforeCursor (some id) message.id := by
    rw [List.filter_filter]
    refine List.filter_congr fun message _ => Bool.and_eq_left_iff_imp.2 fun earlier => ?_
    have apart : message.id < id := of_decide_eq_true earlier
    exact decide_eq_true fun same => String.lt_irrefl id (same ▸ apart)
  have behind : (table.filter fun message => message.id ≠ id).filter
      (fun message => !beforeCursor (some id) message.id) =
      table.filter fun message => afterCursor (some id) message.id := by
    rw [List.filter_filter]
    refine List.filter_congr fun message _ => ?_
    simp only [afterCursor, beforeCursor, Option.all_some, ← decide_not, ← Bool.decide_and,
      String.not_lt, decide_eq_decide]
    exact ⟨fun ⟨le, ne⟩ => id_lt_of_le le ne.symm,
      fun lt => ⟨String.not_lt.1 (String.lt_asymm lt), fun same => String.lt_irrefl id (same ▸ lt)⟩⟩
  rwa [front, behind] at split

/-- Both directions from a message, one of them reversed, are the history without it. -/
theorem lists_around {table earlier later : List ChatMessageOut} (id : String)
    (back : Lists (fun message message' => message'.id < message.id)
      (table.filter fun message => beforeCursor (some id) message.id) earlier)
    (on : Lists (fun message message' => message.id < message'.id)
      (table.filter fun message => afterCursor (some id) message.id) later) :
    Lists (fun message message' => message.id < message'.id)
      (table.filter fun message => message.id ≠ id) (earlier.reverse ++ later) := by
  constructor
  · have both : (earlier.reverse ++ later).Perm _ :=
      ((List.reverse_perm _).trans back.perm).append on.perm
    exact both.trans (halves_perm table id)
  · refine List.pairwise_append.2 ⟨List.pairwise_reverse.2 back.sorted, on.sorted, ?_⟩
    intro message early message' late
    have front := (List.mem_filter.1 (back.perm.subset (List.mem_reverse.1 early))).2
    have behind := (List.mem_filter.1 (on.perm.subset late)).2
    exact String.lt_trans (of_decide_eq_true front) (of_decide_eq_true behind)

variable (chat roomId profile limit)

end History

/-! ## A room with three messages -/

def historyRoom : ChatRoom := ⟨"r", ["ana", "bo"], .opened⟩

def historyMessage (id : String) : ChatMessage :=
  newMessage id "r" "ana" ⟨id, none, id⟩ ⟨some 0, some []⟩ .allowed 0

def historyChat : ChatState where
  rooms := ⟨[historyRoom], by decide, by decide⟩
  messages := ⟨[historyMessage "2", historyMessage "3", historyMessage "1"], by decide, by decide⟩
  revisions := .empty
  published := []

example : getMessages historyChat "r" (.uuid "bo") (some "1") 1 "after" =
    .ok ⟨[(historyMessage "2").toOut], some "2"⟩ := by decide +kernel

end ColabPlatform.Chat
