import ColabPlatform.Chat.Messages
import ColabPlatform.Foundation.Run

/-!
# Chat service: hidden content stays hidden

What a reader sees is selected by the stored status, and the status is decided
once, when the message is sent.  A message that a reader sees has a text that the
`send` frame would have let pass as long as no send over REST relied on a
category to be hidden and no edit put a refused text in place of a passed one.
-/

namespace ColabPlatform.Chat

open Foundation Common

variable {settings : ChatSettings} {moderation : String → ScanReply}

/-- The text is one for which `_handle_send` stores a visible status. -/
def passes (moderation : String → ScanReply) (body : Option String) : Bool :=
  body.any fun text => (wsStatus (moderation text)).visible

/-! ## What the calls do -/

/-- A frame is dropped, or its message is stored and published if its status is visible. -/
theorem handleSend_cases (settings : ChatSettings) (moderation : String → ScanReply)
    (chat : ChatState) (frame : SendFrame) :
    (handleSend settings moderation chat frame).1 = chat ∨
    ∃ body stored, acceptFrame settings chat frame = .ok body ∧
      chat.addMessage? (frame.message moderation body) = some stored ∧
      (handleSend settings moderation chat frame).1 =
        if (wsStatus (moderation body.body)).visible then
          stored.publish frame.room.id (stored.buildMessageOut (frame.message moderation body))
        else stored := by
  unfold handleSend
  cases accepted : acceptFrame settings chat frame with
  | error answer => exact Or.inl rfl
  | ok body =>
      dsimp only
      cases added : chat.addMessage? (frame.message moderation body) with
      | none => exact Or.inl rfl
      | some stored => exact Or.inr ⟨body, stored, rfl, added, rfl⟩

/-- A request is refused, or its message is stored. -/
theorem sendMessage_cases (moderation : String → ScanReply) (chat : ChatState)
    (request : SendRequest) :
    afterRequest chat (sendMessage moderation chat request) = chat ∨
    ∃ profileId body stored, acceptSend chat request = .ok (profileId, body) ∧
      chat.addMessage? (request.message moderation profileId body) = some stored ∧
      afterRequest chat (sendMessage moderation chat request) = stored := by
  unfold sendMessage
  cases accepted : acceptSend chat request with
  | error raised => exact Or.inl rfl
  | ok accept =>
      obtain ⟨profileId, body⟩ := accept
      cases added : chat.addMessage? (request.message moderation profileId body) with
      | none => exact Or.inl (by simp [afterRequest, added, bind, Except.bind, throw, throwThe,
          MonadExceptOf.throw])
      | some stored =>
          exact Or.inr ⟨profileId, body, stored, rfl, added,
            by simp [afterRequest, added, bind, Except.bind, pure, Except.pure]⟩

/-- A request is refused, or the text of the message is replaced. -/
theorem editMessage_cases (chat : ChatState) (request : EditRequest) :
    afterRequest chat (editMessage chat request) = chat ∨
    ∃ message body revised, acceptEdit chat request = .ok (message, body) ∧
      addRevisions? chat (newRevisions chat.revisions.rows message body request.now) =
        some revised ∧
      afterRequest chat (editMessage chat request) =
        revised.updateBody message.id body request.now := by
  unfold editMessage
  cases accepted : acceptEdit chat request with
  | error raised => exact Or.inl rfl
  | ok accept =>
      obtain ⟨message, body⟩ := accept
      cases added : addRevisions? chat
          (newRevisions chat.revisions.rows message body request.now) with
      | none => exact Or.inl (by simp [afterRequest, added, bind, Except.bind, throw, throwThe,
          MonadExceptOf.throw])
      | some revised =>
          exact Or.inr ⟨message, body, revised, rfl, added,
            by simp [afterRequest, added, bind, Except.bind, pure, Except.pure]⟩

/-! ## The invariant -/

/-- Visible rows have a passing text, and what was published is still a visible row. -/
structure Clean (moderation : String → ScanReply) (chat : ChatState) : Prop where
  rows : ∀ message ∈ chat.messages.rows, message.moderationStatus.visible = true →
    passes moderation message.body = true
  sent : ∀ message ∈ chat.published, passes moderation message.2.body = true ∧
    ∃ row ∈ chat.messages.rows, row.id = message.2.id ∧ row.moderationStatus.visible = true

theorem clean_silent (rooms : Table ChatRoom ChatRoom.id (noAlt ChatRoom)) :
    Clean moderation (silent rooms) where
  rows _ mem := absurd mem List.not_mem_nil
  sent _ mem := absurd mem List.not_mem_nil

/-- A message is added whose text passes if its status is visible. -/
theorem Clean.added {chat stored : ChatState} (clean : Clean moderation chat)
    {message : ChatMessage} (h : chat.addMessage? message = some stored)
    (passing : message.moderationStatus.visible = true →
      passes moderation message.body = true) : Clean moderation stored := by
  obtain ⟨inserted, published⟩ := addMessage_eq_some h
  obtain ⟨-, rows⟩ := Table.insert?_eq_some inserted
  constructor
  · intro row mem visible
    rw [rows] at mem
    rcases List.mem_cons.1 mem with rfl | old
    · exact passing visible
    · exact clean.rows row old visible
  · intro sent mem
    rw [published] at mem
    obtain ⟨pass, row, old, same⟩ := clean.sent sent mem
    exact ⟨pass, row, by simp [rows, old], same⟩

theorem Clean.published {chat : ChatState} (clean : Clean moderation chat) (roomId : String)
    {message : ChatMessage} (mem : message ∈ chat.messages.rows)
    (visible : message.moderationStatus.visible = true) :
    Clean moderation (chat.publish roomId (chat.buildMessageOut message)) := by
  refine ⟨clean.rows, fun sent mem' => ?_⟩
  rcases List.mem_append.1 mem' with old | new
  · exact clean.sent sent old
  · obtain rfl := List.mem_singleton.1 new
    exact ⟨clean.rows message mem visible, message, mem, rfl, visible⟩

/-- The text of a message is replaced, by a passing one if the message is visible. -/
theorem Clean.updated {chat : ChatState} (clean : Clean moderation chat) {message : ChatMessage}
    (mem : message ∈ chat.messages.rows) {body : String} (now : Int)
    (passing : message.moderationStatus.visible = true →
      passes moderation (some body) = true) :
    Clean moderation (chat.updateBody message.id body now) := by
  constructor
  · intro row mem' visible
    rcases Table.mem_updated mem' with ⟨old, hold, same, rfl⟩ | ⟨old, -⟩
    · obtain rfl := Table.eq_of_key_eq hold mem same
      exact passing visible
    · exact clean.rows row old visible
  · intro sent mem'
    obtain ⟨pass, row, old, same, visible⟩ := clean.sent sent mem'
    refine ⟨pass, if row.id = message.id then row.edit body now else row, ?_, ?_⟩
    · exact List.mem_map_of_mem old
    · split <;> exact ⟨same, visible⟩

theorem Clean.congr {chat chat' : ChatState} (clean : Clean moderation chat)
    (messages : chat'.messages = chat.messages) (published : chat'.published = chat.published) :
    Clean moderation chat' where
  rows := by simpa only [messages] using clean.rows
  sent := by simpa only [messages, published] using clean.sent

/-! ## Runs -/

/-- No message is sent over REST that only its category would hide, and no edit of a
visible message has a text that the `send` frame would hide. -/
def KeepsDecision (moderation : String → ScanReply) (chat : ChatState) : Call → Prop
  | .sendMessage request => ∀ accepted ∈ (acceptSend chat request).toOption,
      ¬ ((moderation accepted.2.body).readScore < 7 / 10 ∧
        (moderation accepted.2.body).hasEscalateCategories = true)
  | .editMessage request => ∀ accepted ∈ (acceptEdit chat request).toOption,
      accepted.1.moderationStatus.visible = true → passes moderation (some accepted.2) = true
  | .send _ | .setRoomState _ _ => True

instance (moderation : String → ScanReply) (chat : ChatState) :
    (call : Call) → Decidable (KeepsDecision moderation chat call)
  | .sendMessage request =>
      inferInstanceAs (Decidable (∀ accepted ∈ (acceptSend chat request).toOption, ¬ (_ ∧ _)))
  | .editMessage request =>
      inferInstanceAs (Decidable (∀ accepted ∈ (acceptEdit chat request).toOption, _ → _))
  | .send _ | .setRoomState _ _ => isTrue trivial

theorem clean_step {chat : ChatState} {call : Call}
    (keeps : KeepsDecision moderation chat call) (clean : Clean moderation chat) :
    Clean moderation (step settings moderation chat call) := by
  cases call with
  | send frame =>
      rw [step]
      rcases handleSend_cases settings moderation chat frame with
        same | ⟨body, stored, -, added, next⟩
      · rw [same]; exact clean
      · have kept : Clean moderation stored := clean.added added id
        rw [next]
        split
        · rename_i visible
          refine kept.published _ ?_ visible
          simp [(Table.insert?_eq_some (addMessage_eq_some added).1).2]
        · exact kept
  | sendMessage request =>
      rw [step]
      rcases sendMessage_cases moderation chat request with
        same | ⟨profileId, body, stored, accepted, added, next⟩
      · rw [same]; exact clean
      · rw [next]
        refine clean.added added fun visible => ?_
        have calm := keeps (profileId, body) (by rw [accepted]; rfl)
        have low := (visible_restStatus _).1 visible
        exact (visible_wsStatus _).2 ⟨low, by simpa [low] using calm⟩
  | editMessage request =>
      rw [step]
      rcases editMessage_cases chat request with
        same | ⟨message, body, revised, accepted, added, next⟩
      · rw [same]; exact clean
      · rw [next]
        obtain ⟨messages, published⟩ := addRevisions_keeps added
        have passing := keeps (message, body) (by rw [accepted]; rfl)
        refine (clean.congr messages published).updated ?_ _ passing
        rw [messages]
        exact Table.mem_of_lookup (lookup_of_acceptEdit accepted)
  | setRoomState roomId state => exact clean.congr rfl rfl

/-- A reply that is published quotes a message with a passing text. -/
def QuotesPassing (settings : ChatSettings) (moderation : String → ScanReply)
    (chat : ChatState) : Call → Prop
  | .send frame => ∀ body ∈ (acceptFrame settings chat frame).toOption,
      (wsStatus (moderation body.body)).visible = true →
        ∀ parent ∈ body.replyTo.bind chat.messages.lookup, passes moderation parent.body = true
  | .sendMessage _ | .editMessage _ | .setRoomState _ _ => True

def CleanQuotes (moderation : String → ScanReply) (chat : ChatState) : Prop :=
  ∀ sent ∈ chat.published, ∀ preview ∈ sent.2.replyPreview,
    passes moderation preview.body = true

theorem published_step_of_ne_send {chat : ChatState} {call : Call}
    (other : ∀ frame, call ≠ .send frame) :
    (step settings moderation chat call).published = chat.published := by
  cases call with
  | send frame => exact absurd rfl (other frame)
  | sendMessage request =>
      rw [step]
      rcases sendMessage_cases moderation chat request with
        same | ⟨profileId, body, stored, -, added, next⟩
      · rw [same]
      · rw [next, (addMessage_eq_some added).2]
  | editMessage request =>
      rw [step]
      rcases editMessage_cases chat request with
        same | ⟨message, body, revised, -, added, next⟩
      · rw [same]
      · rw [next]
        exact (addRevisions_keeps added).2
  | setRoomState roomId state => rfl

theorem cleanQuotes_step {chat : ChatState} {call : Call}
    (quotes : QuotesPassing settings moderation chat call)
    (clean : CleanQuotes moderation chat) :
    CleanQuotes moderation (step settings moderation chat call) := by
  cases call with
  | send frame =>
      rw [step]
      rcases handleSend_cases settings moderation chat frame with
        same | ⟨body, stored, accepted, added, next⟩
      · rw [same]; exact clean
      · obtain ⟨inserted, published⟩ := addMessage_eq_some added
        have before : CleanQuotes moderation stored := by
          rw [CleanQuotes, published]; exact clean
        rw [next]
        split
        · rename_i visible
          intro sent mem preview quoted
          rcases List.mem_append.1 mem with old | new
          · exact before sent old preview quoted
          · obtain rfl := List.mem_singleton.1 new
            obtain ⟨parent, found, rfl⟩ := Option.map_eq_some_iff.1 quoted
            obtain ⟨parentId, reply, looked⟩ := Option.bind_eq_some_iff.1 found
            rw [Table.lookup_insert inserted] at looked
            split at looked
            · obtain rfl := Option.some.inj looked
              exact visible
            · refine quotes body (by rw [accepted]; rfl) visible parent ?_
              have given : body.replyTo = some parentId := reply
              rw [given]
              exact looked
        · exact before
  | sendMessage request =>
      rw [CleanQuotes, published_step_of_ne_send (by simp)]
      exact clean
  | editMessage request =>
      rw [CleanQuotes, published_step_of_ne_send (by simp)]
      exact clean
  | setRoomState roomId state => exact clean

/-! ## What readers see -/

theorem Clean.passes_of_shownIn {chat : ChatState} (clean : Clean moderation chat)
    {roomId : String} {keep : String → Bool} {before : String → String → Bool}
    {message : ChatMessage} (mem : message ∈ chat.shownIn roomId keep before) :
    passes moderation message.body = true := by
  rw [ChatState.shownIn, List.mem_insertionSort, List.mem_filter] at mem
  obtain ⟨stored, selected⟩ := mem
  simp only [ChatMessage.shown, Bool.and_eq_true] at selected
  exact clean.rows message stored selected.2.1

/-- A page holds shown rows of the room. -/
theorem mem_of_getMessages {chat : ChatState} {roomId : String} {profile : IdField}
    {cursor : Option String} {limit : Nat} {direction : String} {page : MessagePage}
    (h : getMessages chat roomId profile cursor limit direction = .ok page)
    {out : ChatMessageOut} (mem : out ∈ page.messages) :
    ∃ keep before, ∃ message ∈ chat.shownIn roomId keep before, message.toOut = out := by
  unfold getMessages at h
  simp only [bind, Except.bind, pure, Except.pure] at h
  repeat' split at h
  all_goals try cases h
  all_goals
    obtain ⟨message, fetched, rfl⟩ := List.mem_map.1 mem
    exact ⟨_, _, message, List.mem_of_mem_take (List.mem_of_mem_take fetched), rfl⟩

theorem mem_of_handleReconnect {chat : ChatState} {withinRate : Bool} {roomId : String}
    {since : IdField} {messages : List ChatMessageOut} {hasMore : Bool}
    (h : .replay messages hasMore ∈ handleReconnect settings chat withinRate roomId since)
    {out : ChatMessageOut} (mem : out ∈ messages) :
    ∃ keep before, ∃ message ∈ chat.shownIn roomId keep before, message.toOut = out := by
  unfold handleReconnect at h
  split at h
  · simp at h
  · cases since with
    | missing => simp at h
    | malformed text => simp at h
    | uuid since =>
        simp only [List.mem_singleton, WsFrame.replay.injEq] at h
        obtain ⟨rfl, -⟩ := h
        obtain ⟨message, fetched, rfl⟩ := List.mem_map.1 mem
        exact ⟨_, _, message, List.mem_of_mem_take (List.mem_of_mem_take fetched), rfl⟩

/-- What is fetched, replayed or was published has a current text that passes. -/
structure OnlyPassingSeen (settings : ChatSettings) (moderation : String → ScanReply)
    (chat : ChatState) : Prop where
  fetched : ∀ roomId profile cursor limit direction page,
    getMessages chat roomId profile cursor limit direction = .ok page →
      ∀ message ∈ page.messages, passes moderation message.body = true
  replayed : ∀ withinRate roomId since messages hasMore,
    .replay messages hasMore ∈ handleReconnect settings chat withinRate roomId since →
      ∀ message ∈ messages, passes moderation message.body = true
  published : ∀ sent ∈ chat.published, passes moderation sent.2.body = true ∧
    ∃ row, chat.messages.lookup sent.2.id = some row ∧ passes moderation row.body = true

theorem Clean.onlyPassingSeen {chat : ChatState} (clean : Clean moderation chat) :
    OnlyPassingSeen settings moderation chat where
  fetched roomId profile cursor limit direction page h out mem := by
    obtain ⟨_, _, message, shown, rfl⟩ := mem_of_getMessages h mem
    exact clean.passes_of_shownIn shown
  replayed withinRate roomId since messages hasMore h out mem := by
    obtain ⟨_, _, message, shown, rfl⟩ := mem_of_handleReconnect h mem
    exact clean.passes_of_shownIn shown
  published sent mem := by
    obtain ⟨pass, row, stored, same, visible⟩ := clean.sent sent mem
    refine ⟨pass, row, ?_, clean.rows row stored visible⟩
    rw [← same]
    exact Table.lookup_of_mem stored

def demoRoom : ChatRoom := ⟨"r", ["ana", "bo"], .opened⟩

def demoRooms : Table ChatRoom ChatRoom.id (noAlt ChatRoom) :=
  ⟨[demoRoom], by decide, by decide⟩

/-- What the moderation finds in the texts of the runs below. -/
def demoModeration (text : String) : ScanReply :=
  if text = "threat" then ⟨some (95 / 100), some []⟩
  else if text = "leaked song" then ⟨some (1 / 10), some ["dmca"]⟩
  else ⟨some (1 / 10), some []⟩

def demoSend (text id : String) : Call :=
  .sendMessage ⟨"r", .uuid "ana", ⟨some text, .missing, .uuid id⟩, id, 0⟩

def demoFrame (text id : String) : Call :=
  .send ⟨true, ⟨some text, .missing, .uuid id⟩, demoRoom, "ana", none, id, 0⟩

def demoEdit (text id : String) : Call :=
  .editMessage ⟨"r", id, .uuid "ana", some text, 1⟩

/-- The first page that a participant of the room fetches. -/
def demoPage (calls : List Call) : Option MessagePage :=
  (getMessages (runFrom (step {} demoModeration) (silent demoRooms) calls) "r" (.uuid "bo")
    none 50 "before").toOption

end ColabPlatform.Chat
