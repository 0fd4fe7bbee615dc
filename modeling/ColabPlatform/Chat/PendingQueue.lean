import ColabPlatform.Foundation.Interleaving
import ColabPlatform.Foundation.Run
import Mathlib.Data.List.Nodup

/-!
# The pending queue of the mobile client

A message that is composed offline is appended to a list under one key of AsyncStorage, by
a read and a later write.  The list is drained when the answer to a `reconnect` frame
arrives: read, sent in one go, and the key removed.  The steps of all tasks interleave, and
a socket can open and close between any two of them.
-/

namespace ColabPlatform.Chat

open Foundation

/-! ## The client -/

/-- The nonces are drawn; here they count the messages that were composed. -/
structure PendingSend where
  body : String
  replyTo : Option String
  clientNonce : Nat
  deriving DecidableEq, Repr

inductive ReadyState where
  | connecting
  | opened
  | closed
  deriving DecidableEq, Repr

/-- `connect` attaches the handlers to a socket, and the expiry warning does not. -/
structure ClientSocket where
  attached : Bool
  state : ReadyState := .connecting
  deriving DecidableEq, Repr

/-- What an asynchronous function does next. -/
inductive ClientTask where
  /-- `enqueuePending`: `getItem`, then `setItem` -/
  | enqueueGet (send : PendingSend)
  | enqueueSet (send : PendingSend) (queue : List PendingSend)
  /-- `drainPendingQueue`: `getItem` and the sends, then `removeItem` -/
  | drainGet (ws : Nat)
  | drainRemove
  /-- `onopen` -/
  | getLastAck (ws : Nat)
  /-- `saveLastAck`, after which a replay drains the queue -/
  | saveLastAck (msgId : String) (replay : Option Nat)
  | done
  deriving DecidableEq, Repr

/-- `requests` are the sockets whose `reconnect` frame is not answered; `offline` and `handed`
are the messages composed offline and those handed to an open socket. -/
structure PendingClient where
  sockets : List ClientSocket
  wsRef : Option Nat
  /-- `chat:pending` -/
  stored : Option (List PendingSend)
  /-- `chat:last_ack` -/
  lastAck : Option String
  tasks : List ClientTask
  requests : List Nat
  composed : Nat
  offline : List PendingSend
  handed : List PendingSend

inductive PendingEvent where
  | compose (body : String) (replyTo : Option String)
  | connect
  | opens (ws : Nat)
  | closes (ws : Nat)
  /-- `connection_expiry_warning` -/
  | expiry (ws : Nat)
  /-- `message` or `message_ack` -/
  | message (ws : Nat) (msgId : String)
  /-- `replay`, with the last of its messages if there is one -/
  | replay (ws : Nat) (lastMsgId : Option String)
  | advance (index : Nat)
  deriving DecidableEq, Repr

namespace PendingClient

/-- A client with what an earlier run has left under `chat:last_ack`. -/
def mounted (lastAck : Option String) : PendingClient :=
  ⟨[], none, none, lastAck, [], [], 0, [], []⟩

def isOpen (c : PendingClient) (ws : Nat) : Bool := c.sockets[ws]?.any (·.state = .opened)

/-- The socket is open, and its handlers are attached. -/
def hears (c : PendingClient) (ws : Nat) : Bool :=
  c.sockets[ws]?.any fun socket => socket.attached && socket.state = .opened

def put (c : PendingClient) (index : Nat) (task : ClientTask) : PendingClient :=
  { c with tasks := c.tasks.set index task }

/-- One step of a task; what is sent to a socket that is not open is dropped. -/
def advance (c : PendingClient) (index : Nat) : ClientTask → PendingClient
  | .enqueueGet send => c.put index (.enqueueSet send (c.stored.getD [] ++ [send]))
  | .enqueueSet _ queue => { c.put index .done with stored := some queue }
  | .drainGet ws =>
      match c.stored with
      | none => c.put index .done
      | some queue =>
          { c.put index .drainRemove with
            handed := if c.isOpen ws then c.handed ++ queue else c.handed }
  | .drainRemove => { c.put index .done with stored := none }
  | .getLastAck ws =>
      if c.lastAck.isSome && c.isOpen ws then
        { c.put index .done with requests := c.requests ++ [ws] }
      else c.put index .done
  | .saveLastAck msgId replay =>
      let next := match replay with
        | some ws => if c.isOpen ws then .drainGet ws else .done
        | none => .done
      { c.put index next with lastAck := some msgId }
  | .done => c

/-- `sendMessage` -/
def compose (c : PendingClient) (send : PendingSend) : PendingClient :=
  if c.wsRef.any c.isOpen then
    { c with composed := c.composed + 1, handed := c.handed ++ [send] }
  else
    { c with
      composed := c.composed + 1
      offline := c.offline ++ [send]
      tasks := c.tasks ++ [.enqueueGet send] }

def setState (c : PendingClient) (ws : Nat) (state : ReadyState) : PendingClient :=
  { c with sockets := c.sockets.modify ws fun socket => { socket with state } }

def newSocket (c : PendingClient) (attached : Bool) : PendingClient :=
  { c with sockets := c.sockets ++ [{ attached }], wsRef := some c.sockets.length }

def step (c : PendingClient) : PendingEvent → PendingClient
  | .compose body replyTo => c.compose ⟨body, replyTo, c.composed⟩
  | .connect => c.newSocket true
  | .opens ws =>
      match c.sockets[ws]? with
      | some socket =>
          if socket.state = .connecting then
            if socket.attached then
              { c.setState ws .opened with tasks := c.tasks ++ [.getLastAck ws] }
            else c.setState ws .opened
          else c
      | none => c
  | .closes ws => c.setState ws .closed
  | .expiry ws => if c.hears ws then c.newSocket false else c
  | .message ws msgId =>
      if c.hears ws then { c with tasks := c.tasks ++ [.saveLastAck msgId none] } else c
  | .replay ws lastMsgId =>
      if c.hears ws && c.requests.contains ws then
        let task := match lastMsgId with
          | some msgId => .saveLastAck msgId (some ws)
          | none => .drainGet ws
        { c with requests := c.requests.erase ws, tasks := c.tasks ++ [task] }
      else c
  | .advance index =>
      match c.tasks[index]? with
      | some task => c.advance index task
      | none => c

def run (lastAck : Option String) (events : List PendingEvent) : PendingClient :=
  runFrom step (mounted lastAck) events

/-! ## What is promised -/

/-- A connection is established, and everything that it has led to is finished. -/
def settled (c : PendingClient) : Bool :=
  (c.wsRef.any fun ws => c.hears ws && !c.requests.contains ws) &&
    c.tasks.all (· = .done)

structure QueueKept (lastAck : Option String) (events : List PendingEvent) : Prop where
  delivered : (run lastAck events).settled = true →
    ∀ send ∈ (run lastAck events).offline, send ∈ (run lastAck events).handed
  kept : ∀ first event rest, events = first ++ event :: rest →
    ∀ send ∈ (run lastAck first).stored.getD [],
      send ∈ (run lastAck (first ++ [event])).stored.getD [] ∨
        send ∈ (run lastAck (first ++ [event])).handed
  once : (run lastAck events).handed.Nodup

end PendingClient

/-! ## The runs in which it is kept -/

namespace ClientTask

/-- The task is between its read of the queue and its write. -/
def holds : ClientTask → Bool
  | enqueueSet _ _ | drainRemove => true
  | _ => false

def enqueues : ClientTask → Bool
  | enqueueGet _ | enqueueSet _ _ => true
  | _ => false

def removes : ClientTask → Bool
  | drainRemove => true
  | _ => false

/-- The task leads to a drain on the socket. -/
def drains (ws : Nat) : ClientTask → Bool
  | drainGet other | getLastAck other | saveLastAck _ (some other) => other = ws
  | _ => false

/-- The message that the task is to store. -/
def carries : ClientTask → List PendingSend
  | enqueueGet send | enqueueSet send _ => [send]
  | _ => []

end ClientTask

namespace PendingClient

/-- What is stored and not handed over. -/
def waiting (c : PendingClient) : List PendingSend :=
  if c.tasks.any (·.removes) then [] else c.stored.getD []

def isCurrent (c : PendingClient) (ws : Nat) : Bool := c.wsRef = some ws && c.isOpen ws

/-- Between the read of the queue and the write of one task no other reads it to write;
a drain reads it when the socket is open, and on the current socket when no message is being
stored; and the pointer is there when a connection opens, if there is anything to drain. -/
def queueRight (c : PendingClient) : PendingEvent → Bool
  | .advance index =>
      match c.tasks[index]? with
      | some (.enqueueGet _) => c.tasks.all (!·.holds)
      | some (.drainGet ws) =>
          (c.stored.isNone || c.isOpen ws && c.tasks.all (!·.holds)) &&
            (!c.isCurrent ws || c.tasks.all (!·.enqueues))
      | some (.getLastAck ws) =>
          !c.isCurrent ws || c.lastAck.isSome ||
            c.waiting.isEmpty && c.tasks.all (!·.enqueues)
      | _ => true
  | _ => true

/-! ## Where a message is -/

/-- How often a message is handed over, stored and on its way to be stored. -/
def places (c : PendingClient) (send : PendingSend) : Nat :=
  c.handed.count send + c.waiting.count send +
    (c.tasks.map fun task => task.carries.count send).sum

structure Sound (c : PendingClient) : Prop where
  once : ∀ send, c.places send ≤ 1
  held : ∀ send ∈ c.offline, 0 < c.places send
  known : ∀ send, 0 < c.places send → send.clientNonce < c.composed
  alone : AtMostOne (·.holds) c.tasks
  read : ∀ send queue, .enqueueSet send queue ∈ c.tasks → queue = c.stored.getD [] ++ [send]
  drained : .drainRemove ∈ c.tasks → ∀ send ∈ c.stored.getD [], send ∈ c.handed
  coming : ∀ ws, c.wsRef = some ws → c.hears ws = true →
    (ws ∈ c.requests ∨ ∃ task ∈ c.tasks, task.drains ws = true) ∨
      c.waiting = [] ∧ ∀ task ∈ c.tasks, task.enqueues = false

variable {c c' : PendingClient}

theorem mounted_sound (lastAck : Option String) : (mounted lastAck).Sound where
  once := fun _ => Nat.zero_le 1
  held := by
    intro send mem
    cases mem
  known := by
    intro send somewhere
    cases somewhere
  alone := .nil
  read := by
    intro send queue mem
    cases mem
  drained := by
    intro mem
    cases mem
  coming := by
    intro ws current
    cases current

theorem isOpen_of_hears {ws : Nat} (h : c.hears ws = true) : c.isOpen ws = true := by
  obtain ⟨socket, found, both⟩ := (Option.any_eq_true _ _).1 h
  exact (Option.any_eq_true _ _).2 ⟨socket, found, (Bool.and_eq_true_iff.1 both).2⟩

theorem waiting_of_removes {task : ClientTask} (mem : task ∈ c.tasks)
    (removes : task.removes = true) : c.waiting = [] := by
  have some : c.tasks.any (·.removes) = true := List.any_eq_true.2 ⟨task, mem, removes⟩
  simp [waiting, some]

theorem waiting_of_no_removes (none : ∀ task ∈ c.tasks, task.removes = false) :
    c.waiting = c.stored.getD [] := by
  have none : c.tasks.any (·.removes) = false := by
    apply List.any_eq_false.2
    intro task mem
    simp [none task mem]
  simp [waiting, none]

theorem carries_of_plain {task : ClientTask} (plain : task.enqueues = false) :
    task.carries = [] := by
  cases task with
  | enqueueGet send => cases plain
  | enqueueSet send queue => cases plain
  | _ => rfl

theorem removes_of_idle {task : ClientTask} (idle : task.holds = false) :
    task.removes = false := by
  cases task with
  | drainRemove => cases idle
  | _ => rfl

/-- A message that only changes its place is counted once, as before. -/
theorem Sound.counts (h : c.Sound) (places : ∀ send, c'.places send = c.places send)
    (offline : c'.offline = c.offline) (composed : c'.composed = c.composed) :
    (∀ send, c'.places send ≤ 1) ∧ (∀ send ∈ c'.offline, 0 < c'.places send) ∧
      ∀ send, 0 < c'.places send → send.clientNonce < c'.composed := by
  rw [offline, composed]
  refine ⟨?_, ?_, ?_⟩
  · intro send
    rw [places]
    exact h.once send
  · intro send mem
    rw [places]
    exact h.held send mem
  · intro send somewhere
    rw [places] at somewhere
    exact h.known send somewhere

/-- Nothing is handed over or stored, and at most a task begins that does neither. -/
theorem Sound.frame (h : c.Sound) (extra : Option ClientTask) (handed : c'.handed = c.handed)
    (stored : c'.stored = c.stored) (offline : c'.offline = c.offline)
    (composed : c'.composed = c.composed) (tasks : c'.tasks = c.tasks ++ extra.toList)
    (idle : ∀ task, extra = some task → task.holds = false)
    (plain : ∀ task, extra = some task → task.enqueues = false)
    (coming : ∀ ws, c'.wsRef = some ws → c'.hears ws = true →
      (∃ task, extra = some task ∧ task.drains ws = true) ∨
        c.wsRef = some ws ∧ c.hears ws = true ∧ (ws ∈ c.requests → ws ∈ c'.requests)) :
    c'.Sound := by
  have waiting : c'.waiting = c.waiting := by
    have none : extra.toList.any (·.removes) = false := by
      apply List.any_eq_false.2
      intro task mem
      simp [removes_of_idle (idle task (Option.mem_toList.1 mem))]
    simp [PendingClient.waiting, tasks, stored, List.any_append, none]
  have places : ∀ send, c'.places send = c.places send := by
    intro send
    cases extra with
    | none => simp [PendingClient.places, handed, waiting, tasks]
    | some task =>
        simp [PendingClient.places, handed, waiting, tasks, carries_of_plain (plain task rfl)]
  have old : ∀ {task : ClientTask}, task ∈ c'.tasks → task.holds = true → task ∈ c.tasks := by
    intro task mem holds
    rw [tasks] at mem
    rcases List.mem_append.1 mem with old | new
    · exact old
    · simp [idle task (Option.mem_toList.1 new)] at holds
  obtain ⟨once, held, known⟩ := h.counts places offline composed
  exact
    { once
      held
      known
      alone := by
        rw [tasks]
        cases extra with
        | none => simpa using h.alone
        | some task => exact h.alone.concat (idle task rfl)
      read := by
        intro send queue mem
        rw [stored]
        exact h.read send queue (old mem rfl)
      drained := by
        intro mem
        rw [stored, handed]
        exact h.drained (old mem rfl)
      coming := by
        intro ws current hears
        rcases coming ws current hears with ⟨task, mem, drains⟩ | ⟨current, hears, requests⟩
        · left
          right
          refine ⟨task, ?_, drains⟩
          rw [tasks]
          exact List.mem_append_right _ (Option.mem_toList.2 mem)
        · rcases h.coming ws current hears with (asked | ⟨task, mem, drains⟩) | ⟨none, idle⟩
          · exact Or.inl (Or.inl (requests asked))
          · left
            right
            refine ⟨task, ?_, drains⟩
            rw [tasks]
            exact List.mem_append_left _ mem
          · right
            rw [waiting]
            refine ⟨none, fun task mem => ?_⟩
            rw [tasks] at mem
            rcases List.mem_append.1 mem with before | new
            · exact idle task before
            · exact plain task (Option.mem_toList.1 new) }

/-! ### Sockets -/

theorem Sound.newSocket (h : c.Sound) (attached : Bool) : (c.newSocket attached).Sound := by
  refine h.frame none rfl rfl rfl rfl (by simp [PendingClient.newSocket]) nofun nofun ?_
  intro ws current hears
  obtain rfl := Option.some.inj current
  simp [PendingClient.newSocket, PendingClient.hears] at hears

theorem hears_setState {ws other : Nat} {state : ReadyState}
    (h : (c.setState ws state).hears other = true) (closing : ws = other → state ≠ .opened) :
    c.hears other = true := by
  unfold hears setState at *
  by_cases same : ws = other
  · subst same
    cases found : c.sockets[ws]? with
    | none => simp [found] at h
    | some socket => simp [found, closing rfl] at h
  · simpa [List.getElem?_modify, same] using h

theorem Sound.opens (h : c.Sound) (ws : Nat) : (c.step (.opens ws)).Sound := by
  simp only [step]
  split
  · rename_i socket found
    split
    · split
      · refine h.frame (some (.getLastAck ws)) rfl rfl rfl rfl rfl ?_ ?_ ?_
        · rintro _ ⟨⟩
          rfl
        · rintro _ ⟨⟩
          rfl
        · intro other current hears
          by_cases same : ws = other
          · exact Or.inl ⟨.getLastAck ws, rfl, decide_eq_true same⟩
          · exact Or.inr ⟨current, hears_setState hears fun same' => absurd same' same, id⟩
      · rename_i bare
        refine h.frame none rfl rfl rfl rfl (by simp [setState]) nofun nofun ?_
        intro other current hears
        by_cases same : ws = other
        · subst same
          simp [PendingClient.hears, setState, found, bare] at hears
        · exact Or.inr ⟨current, hears_setState hears fun same' => absurd same' same, id⟩
    · exact h
  · exact h

theorem Sound.closes (h : c.Sound) (ws : Nat) : (c.step (.closes ws)).Sound := by
  refine h.frame none rfl rfl rfl rfl (by simp [step, setState]) nofun nofun ?_
  intro other current hears
  exact Or.inr ⟨current, hears_setState hears nofun, id⟩

theorem Sound.message (h : c.Sound) (ws : Nat) (msgId : String) :
    (c.step (.message ws msgId)).Sound := by
  simp only [step]
  split
  · refine h.frame (some (.saveLastAck msgId none)) rfl rfl rfl rfl rfl ?_ ?_ ?_
    · rintro _ ⟨⟩
      rfl
    · rintro _ ⟨⟩
      rfl
    · intro other current hears
      exact Or.inr ⟨current, hears, id⟩
  · exact h

/-- The answer to a `reconnect` frame leads to a drain. -/
theorem Sound.replay (h : c.Sound) (ws : Nat) (lastMsgId : Option String) :
    (c.step (.replay ws lastMsgId)).Sound := by
  have drained : ∀ task : ClientTask, task.holds = false → task.enqueues = false →
      task.drains ws = true →
      ({ c with requests := c.requests.erase ws, tasks := c.tasks ++ [task] } :
        PendingClient).Sound := by
    intro task idle plain drains
    refine h.frame (some task) rfl rfl rfl rfl rfl ?_ ?_ ?_
    · rintro _ ⟨⟩
      exact idle
    · rintro _ ⟨⟩
      exact plain
    · intro other current hears
      by_cases same : other = ws
      · subst same
        exact Or.inl ⟨task, rfl, drains⟩
      · exact Or.inr ⟨current, hears, fun asked => (List.mem_erase_of_ne same).2 asked⟩
  simp only [step]
  split
  · cases lastMsgId with
    | some msgId => exact drained _ rfl rfl (decide_eq_true rfl)
    | none => exact drained _ rfl rfl (decide_eq_true rfl)
  · exact h

/-! ### Messages -/

/-- A message is composed, and was in no place before. -/
theorem Sound.compose (h : c.Sound) (body : String) (replyTo : Option String) :
    (c.step (.compose body replyTo)).Sound := by
  have fresh : c.places ⟨body, replyTo, c.composed⟩ = 0 := by
    by_contra somewhere
    exact absurd (h.known _ (Nat.pos_of_ne_zero somewhere)) (Nat.lt_irrefl _)
  generalize send_eq : (⟨body, replyTo, c.composed⟩ : PendingSend) = send at fresh
  have nonce : send.clientNonce = c.composed := by rw [← send_eq]
  have once : ∀ other, c.places other + [send].count other ≤ 1 := by
    intro other
    by_cases same : send = other
    · subst same
      simp [fresh]
    · simpa [same] using h.once other
  have known : ∀ other, 0 < c.places other + [send].count other →
      other.clientNonce < c.composed + 1 := by
    intro other somewhere
    by_cases same : send = other
    · subst same
      omega
    · have before := h.known other (by simpa [same] using somewhere)
      omega
  simp only [step, send_eq, PendingClient.compose]
  split
  · have places : ∀ other, PendingClient.places { c with
        composed := c.composed + 1, handed := c.handed ++ [send] } other =
          c.places other + [send].count other := by
      intro other
      simp only [PendingClient.places, PendingClient.waiting, List.count_append]
      omega
    exact
      { once := fun other => (places other).symm ▸ once other
        held := by
          intro other mem
          rw [places]
          exact Nat.lt_of_lt_of_le (h.held other mem) (Nat.le_add_right _ _)
        known := by
          intro other somewhere
          rw [places] at somewhere
          exact known other somewhere
        alone := h.alone
        read := h.read
        drained := fun mem other stored => List.mem_append_left _ (h.drained mem other stored)
        coming := h.coming }
  · rename_i offline
    have waiting : PendingClient.waiting { c with
        composed := c.composed + 1
        offline := c.offline ++ [send]
        tasks := c.tasks ++ [.enqueueGet send] } = c.waiting := by
      simp [PendingClient.waiting, ClientTask.removes]
    have places : ∀ other, PendingClient.places { c with
        composed := c.composed + 1
        offline := c.offline ++ [send]
        tasks := c.tasks ++ [.enqueueGet send] } other =
          c.places other + [send].count other := by
      intro other
      simp only [PendingClient.places, waiting, List.map_append, List.sum_append, List.map_cons,
        List.map_nil, List.sum_cons, List.sum_nil, ClientTask.carries]
      omega
    have old : ∀ {task : ClientTask}, task ∈ c.tasks ++ [.enqueueGet send] →
        task.holds = true → task ∈ c.tasks := by
      intro task mem holds
      rcases List.mem_append.1 mem with old | new
      · exact old
      · obtain rfl := List.mem_singleton.1 new
        cases holds
    exact
      { once := fun other => (places other).symm ▸ once other
        held := by
          intro other mem
          rw [places]
          rcases List.mem_append.1 mem with old | new
          · exact Nat.lt_of_lt_of_le (h.held other old) (Nat.le_add_right _ _)
          · obtain rfl := List.mem_singleton.1 new
            simp
        known := by
          intro other somewhere
          rw [places] at somewhere
          exact known other somewhere
        alone := h.alone.concat rfl
        read := fun other queue mem => h.read other queue (old mem rfl)
        drained := fun mem => h.drained (old mem rfl)
        coming := by
          intro ws current hears
          have opened : c.isOpen ws = true := isOpen_of_hears hears
          have current : c.wsRef = some ws := current
          simp [current, opened] at offline }

/-! ### Tasks -/

/-- A drain that was to come on a socket is still to come when another task goes on. -/
theorem drains_set {index ws : Nat} {task next : ClientTask}
    (found : c.tasks[index]? = some task) (other : task.drains ws = false)
    (h : ∃ task ∈ c.tasks, task.drains ws = true) :
    ∃ task ∈ c.tasks.set index next, task.drains ws = true := by
  obtain ⟨drain, mem, drains⟩ := h
  refine ⟨drain, mem_set_of_mem found mem ?_, drains⟩
  rintro rfl
  rw [other] at drains
  cases drains

/-- What a task adds to the places of a message is replaced. -/
theorem carries_set {index : Nat} {task : ClientTask} (found : c.tasks[index]? = some task)
    (next : ClientTask) (send : PendingSend) :
    ((c.tasks.set index next).map fun task => task.carries.count send).sum +
        task.carries.count send =
      (c.tasks.map fun task => task.carries.count send).sum + next.carries.count send :=
  sum_map_set found next _

theorem waiting_set {index : Nat} {task next : ClientTask} (found : c.tasks[index]? = some task)
    (old : task.removes = false) (new : next.removes = false) (stored : c'.stored = c.stored)
    (tasks : c'.tasks = c.tasks.set index next) : c'.waiting = c.waiting := by
  have same : (c.tasks.set index next).any (·.removes) = c.tasks.any (·.removes) := by
    rw [Bool.eq_iff_iff, List.any_eq_true, List.any_eq_true]
    constructor
    · rintro ⟨other, mem, removes⟩
      rcases mem_set_cases mem with rfl | ⟨j, -, atJ⟩
      · simp [new] at removes
      · exact ⟨other, List.mem_of_getElem? atJ, removes⟩
    · rintro ⟨other, mem, removes⟩
      refine ⟨other, mem_set_of_mem found mem ?_, removes⟩
      rintro rfl
      simp [old] at removes
  simp [waiting, tasks, stored, same]

/-- A task goes on that neither reads the queue nor writes it. -/
theorem Sound.proceed (h : c.Sound) {index : Nat} {task next : ClientTask}
    (found : c.tasks[index]? = some task) (idle : task.holds = false ∧ next.holds = false)
    (plain : task.enqueues = false ∧ next.enqueues = false) (handed : c'.handed = c.handed)
    (stored : c'.stored = c.stored) (offline : c'.offline = c.offline)
    (composed : c'.composed = c.composed) (tasks : c'.tasks = c.tasks.set index next)
    (coming : ∀ ws, c'.wsRef = some ws → c'.hears ws = true →
      (ws ∈ c'.requests ∨ ∃ task ∈ c'.tasks, task.drains ws = true) ∨
        c'.waiting = [] ∧ ∀ task ∈ c'.tasks, task.enqueues = false) : c'.Sound := by
  have waiting := waiting_set found (removes_of_idle idle.1) (removes_of_idle idle.2) stored tasks
  have places : ∀ send, c'.places send = c.places send := by
    intro send
    have sum := carries_set found next send
    rw [carries_of_plain plain.1, carries_of_plain plain.2] at sum
    simp only [PendingClient.places, handed, waiting, tasks]
    omega
  have old : ∀ {other : ClientTask}, other ∈ c'.tasks → other.holds = true → other ∈ c.tasks := by
    intro other mem holds
    rw [tasks] at mem
    rcases mem_set_cases mem with rfl | ⟨j, -, atJ⟩
    · simp [idle.2] at holds
    · exact List.mem_of_getElem? atJ
  obtain ⟨once, held, known⟩ := h.counts places offline composed
  exact
    { once
      held
      known
      alone := by
        rw [tasks]
        refine h.alone.set found fun holds => ?_
        rw [idle.2] at holds
        cases holds
      read := by
        intro send queue mem
        rw [stored]
        exact h.read send queue (old mem rfl)
      drained := by
        intro mem
        rw [stored, handed]
        exact h.drained (old mem rfl)
      coming := coming }

theorem Sound.enqueueGet (h : c.Sound) {index : Nat} {send : PendingSend}
    (found : c.tasks[index]? = some (.enqueueGet send))
    (right : c.queueRight (.advance index) = true) :
    (c.advance index (.enqueueGet send)).Sound := by
  simp only [queueRight, found, List.all_eq_true, Bool.not_eq_true'] at right
  have waiting : (c.advance index (.enqueueGet send)).waiting = c.waiting :=
    waiting_set found rfl rfl rfl rfl
  have places : ∀ other, (c.advance index (.enqueueGet send)).places other = c.places other := by
    intro other
    have sum := carries_set found (.enqueueSet send (c.stored.getD [] ++ [send])) other
    simp only [PendingClient.places, waiting]
    exact congrArg (c.handed.count other + c.waiting.count other + ·) (Nat.add_right_cancel sum)
  obtain ⟨once, held, known⟩ := h.counts places rfl rfl
  exact
    { once
      held
      known
      alone := h.alone.set found fun _ => Or.inr right
      read := by
        intro other queue mem
        rcases mem_set_cases mem with same | ⟨j, -, atJ⟩
        · obtain ⟨rfl, rfl⟩ := ClientTask.enqueueSet.inj same
          rfl
        · cases right _ (List.mem_of_getElem? atJ)
      drained := by
        intro mem
        rcases mem_set_cases mem with same | ⟨j, -, atJ⟩
        · cases same
        · cases right _ (List.mem_of_getElem? atJ)
      coming := by
        intro ws current hears
        rcases h.coming ws current hears with (asked | drains) | ⟨-, plain⟩
        · exact Or.inl (Or.inl asked)
        · exact Or.inl (Or.inr (drains_set found rfl drains))
        · cases plain _ (List.mem_of_getElem? found) }

/-- The list is written as it was read, with the message. -/
theorem Sound.enqueueSet (h : c.Sound) {index : Nat} {send : PendingSend}
    {queue : List PendingSend} (found : c.tasks[index]? = some (.enqueueSet send queue)) :
    (c.advance index (.enqueueSet send queue)).Sound := by
  obtain rfl := h.read send queue (List.mem_of_getElem? found)
  have idle : ∀ task ∈ c.tasks.set index .done, task.holds = false := by
    intro task mem
    rcases mem_set_cases mem with rfl | ⟨j, apart, atJ⟩
    · rfl
    · exact h.alone.others found rfl apart atJ
  have before : c.waiting = c.stored.getD [] := by
    apply waiting_of_no_removes
    intro task mem
    by_cases same : task = .enqueueSet send (c.stored.getD [] ++ [send])
    · rw [same]
      rfl
    · exact removes_of_idle (idle task (mem_set_of_mem found mem (Ne.symm same)))
  have after : (c.advance index (.enqueueSet send (c.stored.getD [] ++ [send]))).waiting =
      c.stored.getD [] ++ [send] :=
    waiting_of_no_removes fun task mem => removes_of_idle (idle task mem)
  have places : ∀ other, (c.advance index (.enqueueSet send (c.stored.getD [] ++ [send]))).places
      other = c.places other := by
    intro other
    have sum : _ + [send].count other = _ + 0 := carries_set found .done other
    simp only [PendingClient.places, after, before, List.count_append]
    simp only [PendingClient.advance, put]
    omega
  obtain ⟨once, held, known⟩ := h.counts places rfl rfl
  exact
    { once
      held
      known
      alone := h.alone.set found nofun
      read := by
        intro other queue mem
        cases idle _ mem
      drained := by
        intro mem
        cases idle _ mem
      coming := by
        intro ws current hears
        rcases h.coming ws current hears with (asked | drains) | ⟨-, plain⟩
        · exact Or.inl (Or.inl asked)
        · exact Or.inl (Or.inr (drains_set found rfl drains))
        · cases plain _ (List.mem_of_getElem? found) }

/-- What is stored is handed over, all of it. -/
theorem Sound.drainQueue (h : c.Sound) {index ws : Nat} {queue : List PendingSend}
    (found : c.tasks[index]? = some (.drainGet ws)) (stored : c.stored = some queue)
    (opened : c.isOpen ws = true) (idle : ∀ task ∈ c.tasks, task.holds = false)
    (plain : c.isCurrent ws = true → ∀ task ∈ c.tasks, task.enqueues = false) :
    (c.advance index (.drainGet ws)).Sound := by
  have next : c.advance index (.drainGet ws) =
      { c.put index .drainRemove with handed := c.handed ++ queue } := by
    simp only [advance, stored, opened, if_true]
  rw [next]
  have before : c.waiting = queue := by
    rw [waiting_of_no_removes fun task mem => removes_of_idle (idle task mem), stored]
    rfl
  have after : PendingClient.waiting
      { c.put index .drainRemove with handed := c.handed ++ queue } = [] :=
    waiting_of_removes (mem_set_of_found found) rfl
  have places : ∀ send, PendingClient.places
      { c.put index .drainRemove with handed := c.handed ++ queue } send = c.places send := by
    intro send
    have sum : _ + 0 = _ + 0 := carries_set found .drainRemove send
    simp only [PendingClient.places, after, before, List.count_append, List.count_nil]
    simp only [put]
    omega
  have enqueues : (∀ task ∈ c.tasks, task.enqueues = false) →
      ∀ task ∈ c.tasks.set index .drainRemove, task.enqueues = false :=
    forall_mem_set rfl
  obtain ⟨once, held, known⟩ := h.counts places rfl rfl
  exact
    { once
      held
      known
      alone := h.alone.set found fun _ => Or.inr idle
      read := by
        intro send queue mem
        rcases mem_set_cases mem with same | ⟨j, -, atJ⟩
        · cases same
        · cases idle _ (List.mem_of_getElem? atJ)
      drained := by
        intro _ send mem
        have mem : send ∈ c.stored.getD [] := mem
        rw [stored] at mem
        exact List.mem_append_right _ mem
      coming := by
        intro other current hears
        by_cases same : ws = other
        · subst same
          have isCurrent : c.isCurrent ws = true :=
            Bool.and_eq_true_iff.2 ⟨decide_eq_true current, opened⟩
          exact Or.inr ⟨after, enqueues (plain isCurrent)⟩
        · rcases h.coming other current hears with (asked | drains) | ⟨-, quiet⟩
          · exact Or.inl (Or.inl asked)
          · exact Or.inl (Or.inr (drains_set found (decide_eq_false same) drains))
          · exact Or.inr ⟨after, enqueues quiet⟩ }

theorem Sound.drainGet (h : c.Sound) {index ws : Nat}
    (found : c.tasks[index]? = some (.drainGet ws))
    (right : c.queueRight (.advance index) = true) :
    (c.advance index (.drainGet ws)).Sound := by
  simp only [queueRight, found, Bool.and_eq_true, Bool.or_eq_true, List.all_eq_true,
    Bool.not_eq_true'] at right
  obtain ⟨readable, plain⟩ := right
  have plain : c.isCurrent ws = true → ∀ task ∈ c.tasks, task.enqueues = false := by
    intro current
    rcases plain with other | plain
    · simp [current] at other
    · exact plain
  cases stored : c.stored with
  | some queue =>
      rcases readable with none | ⟨opened, idle⟩
      · simp [stored] at none
      · exact h.drainQueue found stored opened idle plain
  | none =>
      have next : c.advance index (.drainGet ws) = c.put index .done := by
        simp only [advance, stored]
      rw [next]
      have waiting : (c.put index .done).waiting = [] := by
        simp [PendingClient.waiting, put, stored]
      refine h.proceed found ⟨rfl, rfl⟩ ⟨rfl, rfl⟩ rfl rfl rfl rfl rfl ?_
      intro other current hears
      by_cases same : ws = other
      · subst same
        have isCurrent : c.isCurrent ws = true :=
          Bool.and_eq_true_iff.2 ⟨decide_eq_true current, isOpen_of_hears hears⟩
        exact Or.inr ⟨waiting, forall_mem_set rfl (plain isCurrent)⟩
      · rcases h.coming other current hears with (asked | drains) | ⟨-, quiet⟩
        · exact Or.inl (Or.inl asked)
        · exact Or.inl (Or.inr (drains_set found (decide_eq_false same) drains))
        · exact Or.inr ⟨waiting, forall_mem_set rfl quiet⟩

theorem Sound.drainRemove (h : c.Sound) {index : Nat}
    (found : c.tasks[index]? = some .drainRemove) : (c.advance index .drainRemove).Sound := by
  have idle : ∀ task ∈ c.tasks.set index .done, task.holds = false := by
    intro task mem
    rcases mem_set_cases mem with rfl | ⟨j, apart, atJ⟩
    · rfl
    · exact h.alone.others found rfl apart atJ
  have before : c.waiting = [] := waiting_of_removes (List.mem_of_getElem? found) rfl
  have after : (c.advance index .drainRemove).waiting = [] :=
    waiting_of_no_removes fun task mem => removes_of_idle (idle task mem)
  have places : ∀ send, (c.advance index .drainRemove).places send = c.places send := by
    intro send
    have sum : _ + 0 = _ + 0 := carries_set found .done send
    simp only [PendingClient.places, after, before]
    simp only [PendingClient.advance, put]
    omega
  obtain ⟨once, held, known⟩ := h.counts places rfl rfl
  exact
    { once
      held
      known
      alone := h.alone.set found nofun
      read := by
        intro send queue mem
        cases idle _ mem
      drained := by
        intro mem
        cases idle _ mem
      coming := by
        intro ws current hears
        rcases h.coming ws current hears with (asked | drains) | ⟨-, quiet⟩
        · exact Or.inl (Or.inl asked)
        · exact Or.inl (Or.inr (drains_set found rfl drains))
        · exact Or.inr ⟨after, forall_mem_set rfl quiet⟩ }

/-- The `reconnect` frame is sent, or there is nothing to drain. -/
theorem Sound.getLastAck (h : c.Sound) {index ws : Nat}
    (found : c.tasks[index]? = some (.getLastAck ws))
    (right : c.queueRight (.advance index) = true) :
    (c.advance index (.getLastAck ws)).Sound := by
  simp only [queueRight, found, Bool.and_eq_true, Bool.or_eq_true, List.all_eq_true,
    Bool.not_eq_true', List.isEmpty_iff] at right
  have quietly : ∀ c' : PendingClient, c'.stored = c.stored →
      c'.tasks = c.tasks.set index .done → c.waiting = [] →
      (∀ task ∈ c.tasks, task.enqueues = false) →
      c'.waiting = [] ∧ ∀ task ∈ c'.tasks, task.enqueues = false := by
    intro c' stored tasks none plain
    refine ⟨(waiting_set found rfl rfl stored tasks).trans none, ?_⟩
    rw [tasks]
    exact forall_mem_set rfl plain
  simp only [PendingClient.advance]
  split
  · rename_i sent
    refine h.proceed found ⟨rfl, rfl⟩ ⟨rfl, rfl⟩ rfl rfl rfl rfl rfl ?_
    intro other current hears
    by_cases same : ws = other
    · subst same
      exact Or.inl (Or.inl (List.mem_append_right _ List.mem_cons_self))
    · rcases h.coming other current hears with (asked | drains) | ⟨none, plain⟩
      · exact Or.inl (Or.inl (List.mem_append_left _ asked))
      · exact Or.inl (Or.inr (drains_set found (decide_eq_false same) drains))
      · exact Or.inr (quietly _ rfl rfl none plain)
  · rename_i unsent
    refine h.proceed found ⟨rfl, rfl⟩ ⟨rfl, rfl⟩ rfl rfl rfl rfl rfl ?_
    intro other current hears
    by_cases same : ws = other
    · subst same
      have opened : c.isOpen ws = true := isOpen_of_hears hears
      rcases right with (away | acked) | ⟨none, plain⟩
      · simp [isCurrent, show c.wsRef = some ws from current, opened] at away
      · simp [acked, opened] at unsent
      · exact Or.inr (quietly _ rfl rfl none plain)
    · rcases h.coming other current hears with (asked | drains) | ⟨none, plain⟩
      · exact Or.inl (Or.inl asked)
      · exact Or.inl (Or.inr (drains_set found (decide_eq_false same) drains))
      · exact Or.inr (quietly _ rfl rfl none plain)

theorem Sound.saveLastAck (h : c.Sound) {index : Nat} {msgId : String} {replay : Option Nat}
    (found : c.tasks[index]? = some (.saveLastAck msgId replay)) :
    (c.advance index (.saveLastAck msgId replay)).Sound := by
  have saved : ∀ next : ClientTask, next.holds = false → next.enqueues = false →
      (∀ ws, c.hears ws = true → ClientTask.drains ws (.saveLastAck msgId replay) = true →
        next.drains ws = true) →
      ({ c.put index next with lastAck := some msgId } : PendingClient).Sound := by
    intro next idle plain drainsNext
    have waiting : PendingClient.waiting { c.put index next with lastAck := some msgId } =
        c.waiting := waiting_set found rfl (removes_of_idle idle) rfl rfl
    refine h.proceed found ⟨rfl, idle⟩ ⟨rfl, plain⟩ rfl rfl rfl rfl rfl ?_
    intro ws current hears
    rcases h.coming ws current hears with (asked | drains) | ⟨none, quiet⟩
    · exact Or.inl (Or.inl asked)
    · left
      right
      cases own : ClientTask.drains ws (.saveLastAck msgId replay) with
      | true => exact ⟨next, mem_set_of_found found, drainsNext ws hears own⟩
      | false => exact drains_set found own drains
    · exact Or.inr ⟨waiting.trans none, forall_mem_set plain quiet⟩
  simp only [PendingClient.advance]
  cases replay with
  | none => exact saved .done rfl rfl nofun
  | some ws =>
      dsimp only
      split
      · exact saved (.drainGet ws) rfl rfl fun _ _ drains => drains
      · rename_i closed
        refine saved .done rfl rfl ?_
        intro other hears drains
        obtain rfl : ws = other := of_decide_eq_true drains
        exact absurd (isOpen_of_hears hears) closed

/-! ## Runs -/

theorem Sound.step (h : c.Sound) (event : PendingEvent) (right : c.queueRight event = true) :
    (c.step event).Sound := by
  cases event with
  | compose body replyTo => exact h.compose body replyTo
  | connect => exact h.newSocket true
  | opens ws => exact h.opens ws
  | closes ws => exact h.closes ws
  | expiry ws =>
      simp only [PendingClient.step]
      split
      · exact h.newSocket false
      · exact h
  | message ws msgId => exact h.message ws msgId
  | replay ws lastMsgId => exact h.replay ws lastMsgId
  | advance index =>
      simp only [PendingClient.step]
      split
      · rename_i task found
        cases task with
        | enqueueGet send => exact h.enqueueGet found right
        | enqueueSet send queue => exact h.enqueueSet found
        | drainGet ws => exact h.drainGet found right
        | drainRemove => exact h.drainRemove found
        | getLastAck ws => exact h.getLastAck found right
        | saveLastAck msgId replay => exact h.saveLastAck found
        | done => exact h
      · exact h

/-- Once everything is finished nothing is left to drain. -/
theorem Sound.delivered (h : c.Sound) (settled : c.settled = true) :
    ∀ send ∈ c.offline, send ∈ c.handed := by
  simp only [PendingClient.settled, Bool.and_eq_true, Option.any_eq_true, List.all_eq_true,
    decide_eq_true_eq, Bool.not_eq_true'] at settled
  obtain ⟨⟨ws, current, hears, answered⟩, done⟩ := settled
  have none : c.waiting = [] := by
    rcases h.coming ws current hears with (asked | ⟨task, mem, drains⟩) | ⟨none, -⟩
    · simp [asked] at answered
    · rw [done task mem] at drains
      cases drains
    · exact none
  have carried : ∀ send, (c.tasks.map fun task => task.carries.count send).sum = 0 := by
    intro send
    have zero : ∀ count ∈ c.tasks.map fun task => task.carries.count send, count = 0 := by
      intro count mem
      obtain ⟨task, memTask, rfl⟩ := List.mem_map.1 mem
      rw [done task memTask]
      rfl
    exact List.sum_eq_zero_iff_forall_eq_nat.2 zero
  intro send mem
  have somewhere := h.held send mem
  rw [places, none, carried] at somewhere
  exact List.count_pos_iff.1 (by simpa using somewhere)

/-- A step takes from the list only what is handed over. -/
theorem Sound.kept (h : c.Sound) (event : PendingEvent) :
    ∀ send ∈ c.stored.getD [],
      send ∈ (c.step event).stored.getD [] ∨ send ∈ (c.step event).handed := by
  intro send mem
  have same : (c.step event).stored = c.stored →
      send ∈ (c.step event).stored.getD [] ∨ send ∈ (c.step event).handed := by
    intro same
    rw [same]
    exact Or.inl mem
  cases event with
  | advance index =>
      simp only [PendingClient.step] at same ⊢
      split
      · rename_i task found
        simp only [found] at same
        cases task with
        | enqueueSet added queue =>
            left
            rw [h.read added queue (List.mem_of_getElem? found)]
            exact List.mem_append_left _ mem
        | drainRemove => exact Or.inr (h.drained (List.mem_of_getElem? found) send mem)
        | drainGet ws =>
            apply same
            simp only [advance]
            split <;> rfl
        | getLastAck ws =>
            apply same
            simp only [advance]
            split <;> rfl
        | _ => exact same rfl
      · exact Or.inl mem
  | compose body replyTo =>
      apply same
      simp only [PendingClient.step, PendingClient.compose]
      split <;> rfl
  | opens ws =>
      apply same
      simp only [PendingClient.step]
      split
      · split
        · split <;> rfl
        · rfl
      · rfl
  | connect => exact same rfl
  | closes ws => exact same rfl
  | expiry ws =>
      apply same
      simp only [PendingClient.step]
      split <;> rfl
  | message ws msgId =>
      apply same
      simp only [PendingClient.step]
      split <;> rfl
  | replay ws lastMsgId =>
      apply same
      simp only [PendingClient.step]
      split <;> rfl

theorem queue_kept {lastAck : Option String} {events : List PendingEvent}
    (right : Guarded step (fun c event => c.queueRight event = true) (mounted lastAck) events) :
    QueueKept lastAck events := by
  have keeps : ∀ (c : PendingClient) (event : PendingEvent), c.queueRight event = true →
      c.Sound → (c.step event).Sound := by
    intro c event right h
    exact h.step event right
  have sound : ∀ first, Guarded step (fun c event => c.queueRight event = true)
      (mounted lastAck) first → (run lastAck first).Sound := by
    intro first guarded
    exact runFrom_invariant_of_guarded keeps (mounted_sound lastAck) guarded
  exact
    { delivered := (sound events right).delivered
      kept := by
        rintro first event rest rfl send mem
        rw [run, runFrom_append]
        exact (sound first right.prefix).kept event send mem
      once := by
        apply List.nodup_iff_count_le_one.2
        intro send
        have once := (sound events right).once send
        unfold places at once
        omega }

/-! ## Five runs -/

def hello : PendingEvent := .compose "hello" none

/-- A message is composed offline and stored, by the task at `index`. -/
def storedBy (index : Nat) : List PendingEvent :=
  [hello, .advance index, .advance index]

/-- A connection is established, and its replay arrives; the drain is the task at `index + 1`. -/
def reopened (ws index : Nat) : List PendingEvent :=
  [.connect, .opens ws, .advance index, .replay ws none]

/-- Two messages are composed offline and drained, and a third one is sent at once. -/
def drainedOnce : List PendingEvent :=
  storedBy 0 ++ storedBy 1 ++ reopened 0 2 ++ [.advance 3, .advance 3, hello]

theorem drainedOnce_kept : QueueKept (some "m0") drainedOnce := queue_kept (by decide +kernel)

/-- Two messages are stored at once. -/
def overwritten : List PendingEvent :=
  [hello, hello, .advance 0, .advance 1, .advance 0] ++ [.advance 1]

/-- The room was never answered before, so no `reconnect` frame is sent. -/
def unanswered : List PendingEvent := storedBy 0 ++ [.connect, .opens 0, .advance 1]

/-- The connection is lost while the drain reads the list. -/
def lostInDrain : List PendingEvent :=
  storedBy 0 ++ reopened 0 1 ++ [.closes 0, .advance 2] ++ [.advance 2]

/-- A message is stored with what was drained since it read the list. -/
def storedAgain : List PendingEvent :=
  storedBy 0 ++ [hello, .advance 1] ++ reopened 0 2 ++ [.advance 3, .advance 3, .advance 1] ++
    .closes 0 :: reopened 1 4 ++ [.advance 5]

/-- Entries are overwritten or removed unsent, a message waits on an established connection,
and one is sent twice. -/
theorem not_kept :
    ¬ QueueKept (some "m0") overwritten ∧ ¬ QueueKept none unanswered ∧
      ¬ QueueKept (some "m0") lostInDrain ∧ ¬ QueueKept (some "m0") storedAgain := by
  refine ⟨fun h => ?_, fun h => ?_, fun h => ?_, fun h => ?_⟩
  · have kept := h.kept [hello, hello, .advance 0, .advance 1, .advance 0] (.advance 1) [] rfl
      ⟨"hello", none, 0⟩ (by decide +kernel)
    exact absurd kept (by decide +kernel)
  · have delivered := h.delivered (by decide +kernel) ⟨"hello", none, 0⟩ (by decide +kernel)
    exact absurd delivered (by decide +kernel)
  · have kept := h.kept (storedBy 0 ++ reopened 0 1 ++ [.closes 0, .advance 2]) (.advance 2) [] rfl
      ⟨"hello", none, 0⟩ (by decide +kernel)
    exact absurd kept (by decide +kernel)
  · exact absurd h.once (by decide +kernel)

end PendingClient

end ColabPlatform.Chat
