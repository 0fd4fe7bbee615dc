import ColabPlatform.Notifications.Delivery

/-!
# One notification per event and recipient

The runs in which every recipient of a message has one row and one dispatch when nothing is
left to do: those in which no task ends on the key of its own message for nothing, nothing is
sent twice, and no message is acknowledged for nothing.
-/

namespace ColabPlatform.Notifications

open Foundation

/-! ## What every run keeps -/

/-- The task has sent for the recipient, and has not written the row. -/
def TaskCall.uncommitted (call : TaskCall) (message : Nat) (userId : String) : Nat :=
  match call.phase with
  | .dispatched _ => if call.isFor message userId then 1 else 0
  | _ => 0

theorem uncommitted_open {call : TaskCall} (isOpen : call.phase.open = true) (message : Nat)
    (userId : String) : call.uncommitted message userId = 0 := by
  unfold TaskCall.uncommitted
  split
  · rename_i notifId sent
    rw [sent] at isOpen
    cases isOpen
  · rfl

namespace NotifState

structure Sound (s : NotifState) : Prop where
  routed : ∀ message ∈ s.messages, ∀ rest, message.phase = .routing rest →
    ∀ task ∈ rest, task.userId ∈ message.event.recipients
  addressed : ∀ call ∈ s.tasks, call.task.userId ∈ s.recipients call.message
  undrawn : Undrawn s.redis s.nextId
  counted : ∀ message userId, s.rows message userId +
    (s.tasks.map (·.uncommitted message userId)).sum ≤ s.dispatched message userId
  written : ∀ call ∈ s.tasks, call.phase = .returned →
    0 < s.rows call.message call.task.userId

variable {s s' : NotifState} {index : Nat} {call new : TaskCall} {message : Message}

theorem Sound.empty : NotifState.empty.Sound where
  routed message mem := by cases mem
  addressed call mem := by cases mem
  undrawn notifId le := rfl
  counted message userId := Nat.le_refl _
  written call mem := by cases mem

theorem Sound.rows_le (h : s.Sound) (message : Nat) (userId : String) :
    s.rows message userId ≤ s.dispatched message userId := by
  have counted := h.counted message userId
  omega

/-- A task of the list goes on, and what it sends and writes is counted. -/
theorem Sound.goesOn (h : s.Sound) (found : s.tasks[index]? = some call)
    (continues : Continues call new) (messages : s'.messages = s.messages)
    (tasks : s'.tasks = s.tasks.set index new) (undrawn : Undrawn s'.redis s'.nextId)
    (grows : ∀ message userId, s.rows message userId ≤ s'.rows message userId)
    (counts : ∀ message userId, s'.rows message userId + new.uncommitted message userId +
      s.dispatched message userId ≤ s.rows message userId + call.uncommitted message userId +
      s'.dispatched message userId)
    (written : new.phase = .returned → 0 < s'.rows new.message new.task.userId) : s'.Sound := by
  have recipients : ∀ message, s'.recipients message = s.recipients message := by
    intro message
    rw [NotifState.recipients, NotifState.recipients, messages]
  constructor
  · rw [messages]
    exact h.routed
  · rw [tasks]
    apply forall_mem_set
    · rw [recipients, continues.message, continues.task]
      exact h.addressed call (List.mem_of_getElem? found)
    · intro other mem
      rw [recipients]
      exact h.addressed other mem
  · exact undrawn
  · intro message userId
    have before := h.counted message userId
    have sum := sum_map_set found new (·.uncommitted message userId)
    have step := counts message userId
    rw [tasks]
    omega
  · rw [tasks]
    have before : ∀ other ∈ s.tasks, other.phase = .returned →
        0 < s'.rows other.message other.task.userId := by
      intro other mem returned
      exact Nat.lt_of_lt_of_le (h.written other mem returned) (grows _ _)
    intro other mem
    rcases mem_set_cases mem with rfl | ⟨j, -, atJ⟩
    · exact written
    · exact before other (List.mem_of_getElem? atJ)

/-- A message goes on, and its handler may queue a task. -/
theorem Sound.routes (h : s.Sound) (found : s.messages[index]? = some message)
    {phase : MessagePhase} {tasks : List TaskCall}
    (rest : ∀ rest, phase = .routing rest → ∀ task ∈ rest, task.userId ∈ message.event.recipients)
    (queued : ∀ call ∈ tasks, call.message = index ∧
      call.task.userId ∈ message.event.recipients ∧ call.phase = .waiting none) :
    Sound { s.putMessage index { message with phase } with tasks := s.tasks ++ tasks } := by
  have inside : index < s.messages.length := (List.getElem?_eq_some_iff.1 found).1
  have recipients : ∀ other, NotifState.recipients { s.putMessage index { message with phase } with
      tasks := s.tasks ++ tasks } other = s.recipients other := by
    intro other
    simp only [NotifState.recipients, putMessage]
    by_cases same : index = other
    · subst same
      rw [List.getElem?_set_self inside, found]
      rfl
    · rw [List.getElem?_set_ne same]
  have quiet : ∀ m u, (tasks.map (·.uncommitted m u)).sum = 0 := by
    intro m u
    apply List.sum_eq_zero_iff_forall_eq_nat.2
    intro weight mem
    obtain ⟨call, memCall, rfl⟩ := List.mem_map.1 mem
    apply uncommitted_open
    rw [(queued call memCall).2.2]
    rfl
  constructor
  · exact forall_mem_set rest h.routed
  · intro call mem
    rw [recipients]
    rcases List.mem_append.1 mem with old | fresh
    · exact h.addressed call old
    · obtain ⟨same, intended, -⟩ := queued call fresh
      rw [same, NotifState.recipients, found]
      exact intended
  · exact h.undrawn
  · intro m u
    have before := h.counted m u
    change s.rows m u + ((s.tasks ++ tasks).map (·.uncommitted m u)).sum ≤ s.dispatched m u
    rw [List.map_append, List.sum_append, quiet]
    exact before
  · intro call mem returned
    rcases List.mem_append.1 mem with old | fresh
    · exact h.written call old returned
    · rw [(queued call fresh).2.2] at returned
      cases returned

theorem Sound.handle (h : s.Sound) (found : s.messages[index]? = some message)
    (event : MessageEvent) : (s.handle index message event).Sound := by
  have moves : ∀ phase : MessagePhase, (∀ rest, phase = .routing rest → ∀ task ∈ rest,
      task.userId ∈ message.event.recipients) →
      (s.putMessage index { message with phase }).Sound := by
    intro phase rest
    have routes : Sound { s.putMessage index { message with phase } with tasks := s.tasks ++ [] } :=
      h.routes found rest (by simp)
    rw [List.append_nil] at routes
    exact routes
  cases event with
  | deliver =>
      simp only [NotifState.handle]
      split
      · apply moves
        intro rest same task mem
        cases same
        rw [recipients_eq]
        exact List.mem_map_of_mem mem
      · exact h
  | enqueue =>
      simp only [NotifState.handle]
      split
      · rename_i task rest routing
        have intended := h.routed message (List.mem_of_getElem? found) _ routing
        apply h.routes found
        · intro rest' same other mem
          cases same
          exact intended other (List.mem_cons_of_mem _ mem)
        · intro call mem
          obtain rfl := List.mem_singleton.1 mem
          exact ⟨rfl, intended task List.mem_cons_self, rfl⟩
      · exact h
  | ack =>
      simp only [NotifState.handle]
      split
      · exact moves _ (by simp)
      · exact h
  | requeue =>
      simp only [NotifState.handle]
      split
      · exact moves _ (by simp)
      · exact h

theorem rows_commit (s : NotifState) (call : TaskCall) (notifId message : Nat) (userId : String) :
    rows { s with notifications := call.notification notifId :: s.notifications } message userId =
      s.rows message userId + if call.isFor message userId then 1 else 0 := by
  rw [rows, List.countP_cons, isFor_notification]
  rfl

theorem dispatched_send (s : NotifState) (call : TaskCall) (notifId message : Nat)
    (userId : String) :
    dispatched { s with dispatches := call.notification notifId :: s.dispatches } message userId =
      s.dispatched message userId + if call.isFor message userId then 1 else 0 := by
  rw [dispatched, List.countP_cons, isFor_notification]
  rfl

theorem Sound.worked (h : s.Sound) (found : s.tasks[index]? = some call) {event : TaskEvent}
    (worked : Worked s index call event s') : s'.Sound := by
  have ends : (s.putTask index { call with phase := .done }).Sound := by
    apply h.goesOn found (.phase call .done)
    · rfl
    · rfl
    · exact h.undrawn
    · exact fun _ _ => Nat.le_refl _
    · intro message userId
      exact Nat.add_le_add_right (Nat.le_add_right _ _) _
    · intro returned
      cases returned
  cases worked with
  | idle keeps => exact h
  | stays new redis nextId continues isOpen undrawn keeps =>
      apply h.goesOn found continues
      · rfl
      · rfl
      · exact undrawn
      · exact fun _ _ => Nat.le_refl _
      · intro message userId
        rw [uncommitted_open isOpen]
        change s.rows message userId + 0 + s.dispatched message userId ≤
          s.rows message userId + call.uncommitted message userId + s.dispatched message userId
        omega
      · intro returned
        rw [returned] at isOpen
        cases isOpen
  | ended pending keeps => exact ends
  | sent running redis undrawn keeps =>
      apply h.goesOn found (.phase call (.dispatched s.nextId))
      · rfl
      · rfl
      · exact undrawn
      · exact fun _ _ => Nat.le_refl _
      · intro message userId
        have sends := dispatched_send s call s.nextId message userId
        change s.rows message userId + (if call.isFor message userId then 1 else 0) +
          s.dispatched message userId ≤ s.rows message userId + call.uncommitted message userId +
          dispatched { s with dispatches := call.notification s.nextId :: s.dispatches } message
            userId
        rw [sends]
        omega
      · intro returned
        cases returned
  | committed notifId pending keeps =>
      have writes := rows_commit s call notifId
      have mine : ∀ message userId, call.uncommitted message userId =
          if call.isFor message userId then 1 else 0 := by
        intro message userId
        rw [TaskCall.uncommitted, pending]
      apply h.goesOn found (.phase call .returned)
      · rfl
      · rfl
      · exact h.undrawn
      · intro message userId
        have more := writes message userId
        exact more.symm ▸ Nat.le_add_right _ _
      · intro message userId
        rw [mine]
        have more := writes message userId
        exact Nat.add_le_add_right (Nat.le_of_eq more) _
      · intro returned
        have more := writes call.message call.task.userId
        rw [isFor_self, if_pos rfl] at more
        exact more.symm ▸ Nat.succ_pos _
  | finished returned keeps => exact ends

theorem Sound.publish (h : s.Sound) (event : NotifEvent) :
    (s.step (.publish event)).Sound := by
  have recipients : ∀ {message : Nat} {userId : String}, userId ∈ s.recipients message →
      userId ∈ (s.step (.publish event)).recipients message := by
    intro message userId intended
    rw [NotifState.recipients] at intended
    cases found : s.messages[message]? with
    | none => simp [found] at intended
    | some old =>
        have inside := (List.getElem?_eq_some_iff.1 found).1
        rw [found] at intended
        simpa [NotifState.recipients, NotifState.step, List.getElem?_append_left inside, found]
          using intended
  constructor
  · apply forall_mem_concat _ h.routed
    intro rest routing
    cases routing
  · intro call mem
    exact recipients (h.addressed call mem)
  · exact h.undrawn
  · exact h.counted
  · exact h.written

theorem Sound.step (h : s.Sound) (event : NotifStep) : (s.step event).Sound := by
  cases event with
  | publish event => exact h.publish event
  | message index event =>
      simp only [NotifState.step]
      split
      · rename_i message found
        exact h.handle found event
      · exact h
  | task index event =>
      simp only [NotifState.step]
      split
      · rename_i call found
        exact h.worked found (work_worked h.undrawn event)
      · exact h

/-! ## Exactly the runs in which it is kept -/

theorem settled_goesOn (found : s.tasks[index]? = some call) (continues : Continues call new)
    (messages : s'.messages = s.messages) (tasks : s'.tasks = s.tasks.set index new)
    (unfinished : new.phase ≠ .done) {message : Nat} {userId : String}
    (settled : s'.Settled message userId) :
    s.Settled message userId ∧ call.isFor message userId = false := by
  have other : call.isFor message userId = false := by
    by_contra mine
    apply unfinished
    apply settled.finished new
    · rw [tasks]
      exact mem_set_of_found found
    · rw [continues.isFor]
      simpa using mine
  have acked := settled.acked
  have intended := settled.intended
  rw [NotifState.acked, messages] at acked
  rw [NotifState.recipients, messages] at intended
  refine ⟨⟨acked, intended, ?_⟩, other⟩
  intro c mem mine
  apply settled.finished c _ mine
  rw [tasks]
  apply mem_set_of_mem found mem
  rintro rfl
  rw [other] at mine
  cases mine

/-- A task goes on without an end, and only its own rows and dispatches may change. -/
theorem exactlyOnce_goesOn (h : s.ExactlyOnce) (found : s.tasks[index]? = some call)
    (continues : Continues call new) (messages : s'.messages = s.messages)
    (tasks : s'.tasks = s.tasks.set index new) (unfinished : new.phase ≠ .done)
    (same : ∀ message userId, call.isFor message userId = false →
      s'.rows message userId = s.rows message userId ∧
        s'.dispatched message userId = s.dispatched message userId) :
    s'.ExactlyOnce ↔ s'.rows call.message call.task.userId ≤ 1 ∧
      s'.dispatched call.message call.task.userId ≤ 1 := by
  constructor
  · intro h'
    exact ⟨h'.row _ _, h'.dispatch _ _⟩
  · rintro ⟨row, dispatch⟩
    constructor
    · intro message userId
      cases mine : call.isFor message userId with
      | true =>
          obtain ⟨rfl, rfl⟩ := isFor_iff.1 mine
          exact row
      | false =>
          rw [(same message userId mine).1]
          exact h.row message userId
    · intro message userId
      cases mine : call.isFor message userId with
      | true =>
          obtain ⟨rfl, rfl⟩ := isFor_iff.1 mine
          exact dispatch
      | false =>
          rw [(same message userId mine).2]
          exact h.dispatch message userId
    · intro message userId settled
      obtain ⟨before, other⟩ :=
        settled_goesOn found continues messages tasks unfinished settled
      rw [(same message userId other).1, (same message userId other).2]
      exact h.delivered message userId before

/-- A row that is there is the only one, and so is its dispatch. -/
theorem ExactlyOnce.of_row (h : s.ExactlyOnce) (sound : s.Sound) {message : Nat}
    {userId : String} (row : 0 < s.rows message userId) :
    s.rows message userId = 1 ∧ s.dispatched message userId = 1 := by
  have once := h.row message userId
  have sent := h.dispatch message userId
  have le := sound.rows_le message userId
  omega

theorem exactlyOnce_done (sound : s.Sound) (h : s.ExactlyOnce)
    (found : s.tasks[index]? = some call) :
    (s.putTask index { call with phase := .done }).ExactlyOnce ↔ s.remains index call = true := by
  constructor
  · intro h'
    by_contra nothing
    simp only [remains, Bool.or_eq_true, not_or, Bool.not_eq_true, Bool.not_eq_false',
      List.any_eq_false, Bool.and_eq_true, decide_eq_true_eq,
      not_and, not_not] at nothing
    obtain ⟨⟨acked, missing⟩, others⟩ := nothing
    have settled : (s.putTask index { call with phase := .done }).Settled call.message
        call.task.userId := by
      constructor
      · exact acked
      · exact sound.addressed call (List.mem_of_getElem? found)
      · intro other mem mine
        rcases mem_set_cases mem with rfl | ⟨j, apart, atJ⟩
        · rfl
        · have left : other ∈ s.tasks.eraseIdx index :=
            List.mem_eraseIdx_iff_getElem?.2 ⟨j, apart.symm, atJ⟩
          exact others other left mine
    have row : s.rows call.message call.task.userId = 1 := (h'.delivered _ _ settled).1
    omega
  · intro remaining
    constructor
    · exact h.row
    · exact h.dispatch
    · intro message userId settled
      cases mine : call.isFor message userId with
      | true =>
          obtain ⟨rfl, rfl⟩ := isFor_iff.1 mine
          have row : 0 < s.rows call.message call.task.userId := by
            have acked : s.acked call.message = true := settled.acked
            rw [remains, acked] at remaining
            simp only [Bool.not_true, Bool.false_or, Bool.or_eq_true, decide_eq_true_eq,
              List.any_eq_true, Bool.and_eq_true] at remaining
            rcases remaining with row | ⟨other, left, otherMine, unfinished⟩
            · exact row
            · obtain ⟨j, apart, atJ⟩ := List.mem_eraseIdx_iff_getElem?.1 left
              have there : other ∈ s.tasks.set index { call with phase := .done } :=
                List.mem_of_getElem? ((List.getElem?_set_ne apart.symm).trans atJ)
              exact absurd (settled.finished other there otherMine) (by simpa using unfinished)
          exact h.of_row sound row
      | false =>
          apply h.delivered message userId
          refine ⟨settled.acked, settled.intended, ?_⟩
          intro other mem otherMine
          apply settled.finished other _ otherMine
          apply mem_set_of_mem found mem
          rintro rfl
          rw [mine] at otherMine
          cases otherMine

theorem worked_iff (sound : s.Sound) (h : s.ExactlyOnce) (found : s.tasks[index]? = some call)
    {event : TaskEvent} (worked : Worked s index call event s') :
    s'.ExactlyOnce ↔ s.taskKeeps index call event = true := by
  cases worked with
  | idle keeps => exact iff_of_true h keeps
  | stays new redis nextId continues isOpen undrawn keeps =>
      have unfinished : new.phase ≠ .done := by
        intro done
        rw [done] at isOpen
        cases isOpen
      refine iff_of_true ?_ keeps
      apply (exactlyOnce_goesOn h found continues ?_ ?_ unfinished ?_).2
      · exact ⟨h.row _ _, h.dispatch _ _⟩
      · rfl
      · rfl
      · exact fun _ _ _ => ⟨rfl, rfl⟩
  | ended pending keeps =>
      rw [keeps]
      exact exactlyOnce_done sound h found
  | sent running redis undrawn keeps =>
      have sends := dispatched_send s call s.nextId
      rw [keeps]
      refine (exactlyOnce_goesOn h found (.phase call (.dispatched s.nextId)) ?_ ?_ (by simp)
        ?_).trans ?_
      · rfl
      · rfl
      · intro message userId other
        have same := sends message userId
        rw [other, if_neg (by simp)] at same
        exact ⟨rfl, same⟩
      · have more := sends call.message call.task.userId
        rw [isFor_self, if_pos rfl] at more
        have row := h.row call.message call.task.userId
        change s.rows call.message call.task.userId ≤ 1 ∧
          dispatched { s with dispatches := call.notification s.nextId :: s.dispatches }
            call.message call.task.userId ≤ 1 ↔ _
        rw [more, decide_eq_true_eq]
        omega
  | committed notifId pending keeps =>
      have writes := rows_commit s call notifId
      refine iff_of_true ?_ keeps
      apply (exactlyOnce_goesOn h found (.phase call .returned) ?_ ?_ (by simp) ?_).2
      · have after := sound.worked found (.committed notifId pending keeps)
        have sent := h.dispatch call.message call.task.userId
        exact ⟨Nat.le_trans (after.rows_le _ _) sent, sent⟩
      · rfl
      · rfl
      · intro message userId other
        have same := writes message userId
        rw [other, if_neg (by simp)] at same
        exact ⟨same, rfl⟩
  | finished returned keeps =>
      rw [keeps, exactlyOnce_done sound h found]
      have row := sound.written call (List.mem_of_getElem? found) returned
      simp [remains, row]

/-! ### The messages -/

/-- A step of the handler settles nothing, unless it acknowledges the message. -/
theorem settled_routes (found : s.messages[index]? = some message) {phase : MessagePhase}
    {tasks : List TaskCall} {m : Nat} {userId : String}
    (settled : Settled { s.putMessage index { message with phase } with
      tasks := s.tasks ++ tasks } m userId) :
    s.Settled m userId ∨ m = index ∧ phase = .acked := by
  have inside : index < s.messages.length := (List.getElem?_eq_some_iff.1 found).1
  have acked := settled.acked
  have intended := settled.intended
  simp only [NotifState.acked, NotifState.recipients, putMessage] at acked intended
  by_cases same : index = m
  · subst same
    rw [List.getElem?_set_self inside] at acked
    exact Or.inr ⟨rfl, by simpa using acked⟩
  · rw [List.getElem?_set_ne same] at acked intended
    refine Or.inl ⟨acked, intended, ?_⟩
    intro call mem mine
    exact settled.finished call (List.mem_append_left _ mem) mine

theorem exactlyOnce_routes (h : s.ExactlyOnce) (found : s.messages[index]? = some message)
    {phase : MessagePhase} (busy : phase ≠ .acked) (tasks : List TaskCall) :
    ExactlyOnce { s.putMessage index { message with phase } with tasks := s.tasks ++ tasks } := by
  refine ⟨h.row, h.dispatch, ?_⟩
  intro m userId settled
  rcases settled_routes found settled with before | ⟨-, acked⟩
  · exact h.delivered m userId before
  · exact absurd acked busy

theorem exactlyOnce_ack (sound : s.Sound) (h : s.ExactlyOnce)
    (found : s.messages[index]? = some message) :
    (s.putMessage index { message with phase := .acked }).ExactlyOnce ↔
      message.event.recipients.all (s.covered index ·) = true := by
  have inside : index < s.messages.length := (List.getElem?_eq_some_iff.1 found).1
  rw [List.all_eq_true]
  constructor
  · intro h' userId intended
    by_contra nothing
    simp only [covered, Bool.or_eq_true, not_or, decide_eq_true_eq, List.any_eq_true,
      Bool.and_eq_true, not_exists, not_and, not_not] at nothing
    obtain ⟨missing, finished⟩ := nothing
    have settled :
        (s.putMessage index { message with phase := .acked }).Settled index userId := by
      constructor
      · simp [acked, putMessage, List.getElem?_set_self inside]
      · simpa [recipients, putMessage, List.getElem?_set_self inside] using intended
      · exact finished
    have row : s.rows index userId = 1 := (h'.delivered _ _ settled).1
    omega
  · intro everyone
    refine ⟨h.row, h.dispatch, ?_⟩
    intro m userId settled
    have appended : Settled { s.putMessage index { message with phase := .acked } with
        tasks := s.tasks ++ [] } m userId := by
      rw [List.append_nil]
      exact settled
    rcases settled_routes found appended with before | ⟨rfl, -⟩
    · exact h.delivered m userId before
    · have intended : userId ∈ message.event.recipients := by
        have intended := settled.intended
        simpa [recipients, putMessage, List.getElem?_set_self inside] using intended
      have row : 0 < s.rows m userId := by
        have here := everyone userId intended
        simp only [covered, Bool.or_eq_true, decide_eq_true_eq, List.any_eq_true,
          Bool.and_eq_true] at here
        rcases here with row | ⟨call, mem, mine, unfinished⟩
        · exact row
        · exact absurd (settled.finished call mem mine) (by simpa using unfinished)
      exact h.of_row sound row

theorem handle_iff (sound : s.Sound) (h : s.ExactlyOnce)
    (found : s.messages[index]? = some message) (event : MessageEvent) :
    (s.handle index message event).ExactlyOnce ↔ s.messageKeeps index message event = true := by
  have moves : ∀ phase : MessagePhase, phase ≠ .acked →
      (s.putMessage index { message with phase }).ExactlyOnce := by
    intro phase busy
    have routes := exactlyOnce_routes h found busy []
    rw [List.append_nil] at routes
    exact routes
  cases event with
  | deliver =>
      refine iff_of_true ?_ rfl
      simp only [handle]
      split
      · exact moves _ (by simp)
      · exact h
  | enqueue =>
      refine iff_of_true ?_ rfl
      simp only [handle]
      split
      · exact exactlyOnce_routes h found (by simp) _
      · exact h
  | ack =>
      simp only [handle, messageKeeps]
      split
      · rename_i routed
        rw [exactlyOnce_ack sound h found]
        simp [routed]
      · rename_i other
        have apart : message.phase ≠ .routing [] := other
        refine iff_of_true h ?_
        simp [apart]
  | requeue =>
      refine iff_of_true ?_ rfl
      simp only [handle]
      split
      · exact moves _ (by simp)
      · exact h

theorem publish_once (h : s.ExactlyOnce) (event : NotifEvent) :
    (s.step (.publish event)).ExactlyOnce := by
  refine ⟨h.row, h.dispatch, ?_⟩
  intro m userId settled
  apply h.delivered m userId
  have acked := settled.acked
  have intended := settled.intended
  simp only [NotifState.acked, NotifState.recipients, NotifState.step] at acked intended
  cases there : (s.messages ++ [⟨event, .queued⟩])[m]? with
  | none => simp [there] at acked
  | some message =>
      rcases getElem?_concat_cases there with old | ⟨-, rfl⟩
      · rw [there, ← old] at acked intended
        exact ⟨acked, intended, settled.finished⟩
      · simp [there] at acked

theorem step_iff (s : NotifState) (event : NotifStep) (sound : s.Sound) (h : s.ExactlyOnce) :
    (s.step event).ExactlyOnce ↔ s.keepsOnce event = true := by
  cases event with
  | publish event => exact iff_of_true (publish_once h event) rfl
  | message index event =>
      cases found : s.messages[index]? with
      | some message =>
          simp only [step, keepsOnce, found]
          exact handle_iff sound h found event
      | none =>
          simp only [step, keepsOnce, found]
          exact iff_of_true h trivial
  | task index event =>
      cases found : s.tasks[index]? with
      | some call =>
          simp only [step, keepsOnce, found]
          exact worked_iff sound h found (work_worked sound.undrawn event)
      | none =>
          simp only [step, keepsOnce, found]
          exact iff_of_true h trivial

/-! ## Runs -/

theorem exactlyOnce_empty : NotifState.empty.ExactlyOnce where
  row _ _ := Nat.zero_le _
  dispatch _ _ := Nat.zero_le _
  delivered message _ settled := by
    have acked := settled.acked
    simp [NotifState.acked, NotifState.empty] at acked

def routed (event : NotifEvent) : List NotifStep :=
  [.publish event, .message 0 .deliver, .message 0 .enqueue]

def succeeds (index : Nat) (now : Int) : List NotifStep :=
  [.task index (.start now), .task index (.dispatch now), .task index (.commit now),
    .task index .finish]

/-- A channel raises, and the retry finds the key of the first attempt. -/
def retried : List NotifStep :=
  routed (.matchCreated "match" "anna" "bert") ++
    [.message 0 .enqueue, .message 0 .ack, .task 0 (.start 0), .task 0 (.dispatch 0 .unsent)] ++
    succeeds 1 0 ++ [.task 0 (.start 1)]

/-- The handler fails after the first of its two tasks, and both are queued once more. -/
def requeued : List NotifStep :=
  routed (.aiMockupGenerated "anna" "bert") ++
    [.message 0 .requeue, .message 0 .deliver, .message 0 .enqueue, .message 0 .enqueue,
      .message 0 .ack] ++ succeeds 0 0 ++ succeeds 1 0 ++ succeeds 2 0

end NotifState

end ColabPlatform.Notifications
