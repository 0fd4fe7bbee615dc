import ColabPlatform.Foundation.Interleaving
import ColabPlatform.Foundation.Run
import Mathlib.Data.List.Count
import Mathlib.Data.List.Nodup

/-!
# The fanout of a room

Each connection to a room subscribes to the channel of the room on its own, and its
listener sends what it hears to all connections that its pod has in the room.  The
model keeps the handlers of all connections, the registry of every pod and the
messages that each subscription has still to hand over.
-/

namespace ColabPlatform.Chat

open Foundation

/-! ## Connections -/

/-- A message of the channel: `listeners` are the connections in their receive loop then. -/
structure Publication where
  number : Nat
  roomId : String
  envelope : String
  listeners : List Nat
  deriving DecidableEq, Repr

/-- What `_redis_listener` does. -/
inductive Listener where
  | waiting
  /-- `local_broadcast`, with the connections that are still to be sent to -/
  | sending (publication : Publication) (targets : List Nat)
  | stopped
  deriving DecidableEq, Repr

/-- What `handle_room_ws` does next; it subscribes when Redis carries the subscription out. -/
inductive ConnectionPhase where
  | setOnline
  | subscribe
  | receiving
  | setOffline
  | unsubscribe
  | closed
  /-- failed before the receive loop, so that nothing is cleaned up -/
  | abandoned
  deriving DecidableEq, Repr

structure Connection where
  pod : Nat
  roomId : String
  profileId : String
  phase : ConnectionPhase := .setOnline
  listener : Listener := .waiting
  /-- what the subscription has received and the listener has not -/
  inbox : List Publication := []
  deriving DecidableEq, Repr

namespace Connection

/-- The WebSocket takes what is sent. -/
def isOpen (connection : Connection) : Bool :=
  connection.phase = .setOnline ∨ connection.phase = .subscribe ∨ connection.phase = .receiving

def subscribed (connection : Connection) : Bool :=
  connection.phase = .receiving ∨ connection.phase = .setOffline ∨
    connection.phase = .unsubscribe

/-- Redis hands a publication to the subscription. -/
def notify (connection : Connection) (publication : Publication) : Connection :=
  if connection.subscribed ∧ connection.roomId = publication.roomId then
    { connection with inbox := connection.inbox ++ [publication] }
  else connection

theorem notify_eq (connection : Connection) (publication : Publication) :
    ∃ inbox, connection.notify publication = { connection with inbox := connection.inbox ++ inbox } ∧
      inbox = if connection.subscribed ∧ connection.roomId = publication.roomId then [publication]
        else [] := by
  unfold notify
  split
  · exact ⟨[publication], rfl, rfl⟩
  · exact ⟨[], by simp, rfl⟩

/-- The listener is at work, and has the publication before it. -/
def owes (connection : Connection) (publication : Publication) : Bool :=
  connection.phase = .receiving &&
    match connection.listener with
    | .waiting => decide (publication ∈ connection.inbox)
    | .sending current _ => decide (current = publication ∨ publication ∈ connection.inbox)
    | .stopped => false

end Connection

/-! ## The registry of a pod -/

/-- `AsyncConnectionManager._connections`; a missing key reads as the empty set. -/
structure ConnectionManager where
  connections : String → List Nat

namespace ConnectionManager

def empty : ConnectionManager := ⟨fun _ => []⟩

def add (manager : ConnectionManager) (roomId : String) (ws : Nat) : ConnectionManager :=
  ⟨Function.update manager.connections roomId ((manager.connections roomId).insert ws)⟩

def remove (manager : ConnectionManager) (roomId : String) (ws : Nat) : ConnectionManager :=
  ⟨Function.update manager.connections roomId ((manager.connections roomId).erase ws)⟩

end ConnectionManager

/-! ## Steps -/

structure Fanout where
  connections : List Connection
  managers : Nat → ConnectionManager
  published : List Publication
  /-- the number of a publication, and the connection it was sent to -/
  sent : List (Nat × Nat)

inductive FanoutEvent where
  /-- a connection is accepted; `participantIds` are those of the room that is found -/
  | connect (pod : Nat) (roomId profileId : String) (participantIds : Option (List String))
  /-- the next step of a handler outside its receive loop -/
  | advance (ws : Nat) (redis : Bool)
  /-- the receive loop ends -/
  | disconnect (ws : Nat)
  | publish (roomId envelope : String)
  /-- the listener takes the next message -/
  | hear (ws : Nat)
  /-- one send of the listener's broadcast -/
  | send (ws target : Nat)
  /-- `pubsub.listen()` raises -/
  | listenerFails (ws : Nat)
  deriving DecidableEq, Repr

namespace Fanout

def initial : Fanout := ⟨[], fun _ => .empty, [], []⟩

def put (s : Fanout) (ws : Nat) (connection : Connection) : Fanout :=
  { s with connections := s.connections.set ws connection }

/-- `set_online`, `subscribe` and, after the receive loop, what the handler cleans up -/
def proceed (redis : Bool) : ConnectionPhase → ConnectionPhase
  | .setOnline => if redis then .subscribe else .abandoned
  | .subscribe => if redis then .receiving else .abandoned
  | .setOffline => if redis then .unsubscribe else .closed
  | .unsubscribe => .closed
  | phase => phase

/-- The connections in their receive loop for the room. -/
def listeners (s : Fanout) (roomId : String) : List Nat :=
  (List.range s.connections.length).filter fun ws =>
    (s.connections[ws]?).any fun connection =>
      connection.phase = .receiving ∧ connection.roomId = roomId

def step (s : Fanout) : FanoutEvent → Fanout
  | .connect pod roomId profileId participantIds =>
      if participantIds.any fun ids => profileId ∈ ids then
        { s with
          connections := s.connections ++ [{ pod, roomId, profileId }]
          managers := Function.update s.managers pod
            ((s.managers pod).add roomId s.connections.length) }
      else s
  | .advance ws redis =>
      match s.connections[ws]? with
      | some connection => s.put ws { connection with phase := proceed redis connection.phase }
      | none => s
  | .disconnect ws =>
      match s.connections[ws]? with
      | some connection =>
          if connection.phase = .receiving then
            { s.put ws { connection with phase := .setOffline, listener := .stopped } with
              managers := Function.update s.managers connection.pod
                ((s.managers connection.pod).remove connection.roomId ws) }
          else s
      | none => s
  | .publish roomId envelope =>
      let publication := ⟨s.published.length, roomId, envelope, s.listeners roomId⟩
      { s with
        connections := s.connections.map fun connection => connection.notify publication
        published := s.published ++ [publication] }
  | .hear ws =>
      match s.connections[ws]? with
      | some connection =>
          match connection.phase, connection.listener, connection.inbox with
          | .receiving, .waiting, publication :: inbox =>
              match (s.managers connection.pod).connections connection.roomId with
              | [] => s.put ws { connection with inbox }
              | targets =>
                  s.put ws { connection with listener := .sending publication targets, inbox }
          | _, _, _ => s
      | none => s
  | .send ws target =>
      match s.connections[ws]? with
      | some connection =>
          match connection.listener with
          | .sending publication targets =>
              if target ∈ targets then
                let left := targets.erase target
                { s.put ws { connection with
                    listener := if left = [] then .waiting else .sending publication left } with
                  sent :=
                    if (s.connections[target]?).any Connection.isOpen then
                      (publication.number, target) :: s.sent
                    else s.sent }
              else s
          | _ => s
      | none => s
  | .listenerFails ws =>
      match s.connections[ws]? with
      | some connection =>
          if connection.phase = .receiving ∧ connection.listener = .waiting then
            s.put ws { connection with listener := .stopped }
          else s
      | none => s

def run (events : List FanoutEvent) : Fanout := runFrom step initial events

/-! ## What is promised -/

/-- No listener at work has the publication before it any more. -/
def delivered (s : Fanout) (publication : Publication) : Bool :=
  s.connections.all fun connection => !connection.owes publication

/-- The connection is in its receive loop. -/
def receiving (s : Fanout) (ws : Nat) : Bool :=
  (s.connections[ws]?).any fun connection => connection.phase = .receiving

/-- What is delivered was sent once to each connection that was open all the time. -/
def FanoutOnce (s : Fanout) : Prop :=
  ∀ publication ∈ s.published, s.delivered publication = true →
    ∀ ws ∈ publication.listeners, s.receiving ws = true →
      s.sent.count (publication.number, ws) = 1

/-- A listener sends to no connection that hears the publication itself, and does not fail. -/
def hearsAlone (s : Fanout) : FanoutEvent → Bool
  | .hear ws =>
      (s.connections[ws]?).all fun connection =>
        connection.inbox.head?.all fun publication =>
          ((s.managers connection.pod).connections connection.roomId).all fun target =>
            target = ws ∨ target ∉ publication.listeners
  | .listenerFails ws =>
      (s.connections[ws]?).all fun connection => connection.phase ≠ .receiving
  | _ => true

end Fanout

/-! ## What holds while listeners hear alone -/

/-- How often the listener has still to send the publication to the connection. -/
def Listener.pending (publication : Publication) (ws : Nat) : Listener → Nat
  | .sending current targets => if current = publication then targets.count ws else 0
  | _ => 0

namespace Fanout

/-- Each publication is on its way to each of its listeners once, or has been sent once. -/
structure Alone (s : Fanout) : Prop where
  numbered : ∀ publication ∈ s.published, publication.number < s.published.length
  distinct : ∀ first ∈ s.published, ∀ second ∈ s.published,
    first.number = second.number → first = second
  past : ∀ pair ∈ s.sent, pair.1 < s.published.length
  known : ∀ connection ∈ s.connections, (∀ publication ∈ connection.inbox,
      publication ∈ s.published) ∧
    ∀ publication targets, connection.listener = .sending publication targets →
      publication ∈ s.published
  heard : ∀ publication ∈ s.published, ∀ ws ∈ publication.listeners,
    ∃ connection, s.connections[ws]? = some connection ∧ connection.phase ≠ .setOnline ∧
      connection.phase ≠ .subscribe ∧ connection.phase ≠ .abandoned
  registry : ∀ pod roomId, ((s.managers pod).connections roomId).Nodup ∧
    ∀ ws ∈ (s.managers pod).connections roomId, ws < s.connections.length
  registered : ∀ ws connection, s.connections[ws]? = some connection →
    connection.isOpen = true →
      ws ∈ (s.managers connection.pod).connections connection.roomId ∧
        connection.listener ≠ .stopped
  once : ∀ publication ∈ s.published, ∀ ws ∈ publication.listeners, ∀ connection,
    s.connections[ws]? = some connection → connection.phase = .receiving →
      s.sent.count (publication.number, ws) + connection.inbox.count publication +
        connection.listener.pending publication ws = 1
  alone : ∀ (ws : Nat) (connection : Connection) (publication : Publication) (targets : List Nat),
    s.connections[ws]? = some connection →
      connection.listener = .sending publication targets → ∀ target ∈ targets, target ≠ ws →
        target ∉ publication.listeners

namespace Alone

variable {s : Fanout} {ws : Nat} {connection : Connection}

theorem initial : Fanout.initial.Alone where
  numbered publication mem := by simp [Fanout.initial] at mem
  distinct publication mem := by simp [Fanout.initial] at mem
  past pair mem := by simp [Fanout.initial] at mem
  known connection mem := by simp [Fanout.initial] at mem
  heard publication mem := by simp [Fanout.initial] at mem
  registry pod roomId := by simp [Fanout.initial, ConnectionManager.empty]
  registered ws connection found := by simp [Fanout.initial] at found
  once publication mem := by simp [Fanout.initial] at mem
  alone ws connection publication targets found := by simp [Fanout.initial] at found

/-- A connection that a publication was heard on is no new one. -/
theorem lt_length (h : s.Alone) {publication : Publication} (mem : publication ∈ s.published)
    (listens : ws ∈ publication.listeners) : ws < s.connections.length := by
  obtain ⟨connection, found, -⟩ := h.heard publication mem ws listens
  exact (List.getElem?_eq_some_iff.1 found).1

theorem connect (h : s.Alone) (pod : Nat) (roomId profileId : String)
    (participantIds : Option (List String)) :
    (s.step (.connect pod roomId profileId participantIds)).Alone := by
  simp only [Fanout.step]
  split
  · have managers : ∀ pod' roomId',
        ((Function.update s.managers pod ((s.managers pod).add roomId s.connections.length)
          pod').connections roomId') =
          if pod' = pod ∧ roomId' = roomId then
            ((s.managers pod).connections roomId).insert s.connections.length
          else (s.managers pod').connections roomId' := by
      intro pod' roomId'
      by_cases samePod : pod' = pod
      · subst samePod
        by_cases sameRoom : roomId' = roomId
        · subst sameRoom
          simp [ConnectionManager.add]
        · simp [ConnectionManager.add, sameRoom]
      · simp [samePod]
    have old : ∀ {publication ws' connection'} {new : Connection}, publication ∈ s.published →
        ws' ∈ publication.listeners → (s.connections ++ [new])[ws']? = some connection' →
        s.connections[ws']? = some connection' := by
      intro publication ws' connection' new mem listens found
      rcases getElem?_concat_cases found with before | ⟨rfl, -⟩
      · exact before
      · exact absurd (h.lt_length mem listens) (Nat.lt_irrefl _)
    exact
      { numbered := h.numbered
        distinct := h.distinct
        past := h.past
        known := forall_mem_concat ⟨by simp, by simp⟩ h.known
        heard := fun publication mem ws' listens => by
          obtain ⟨connection, found, later⟩ := h.heard publication mem ws' listens
          refine ⟨connection, ?_, later⟩
          rw [List.getElem?_append_left (h.lt_length mem listens)]
          exact found
        registry := fun pod' roomId' => by
          obtain ⟨nodup, inside⟩ := h.registry pod' roomId'
          simp only [managers, List.length_append, List.length_singleton]
          split
          · rename_i same
            obtain ⟨rfl, rfl⟩ := same
            refine ⟨nodup.insert, fun ws' mem => ?_⟩
            rcases List.mem_insert_iff.1 mem with rfl | before
            · exact Nat.lt_succ_self _
            · exact Nat.lt_succ_of_lt (inside ws' before)
          · exact ⟨nodup, fun ws' mem => Nat.lt_succ_of_lt (inside ws' mem)⟩
        registered := fun ws' connection' found open_ => by
          rw [managers]
          rcases getElem?_concat_cases found with before | ⟨rfl, rfl⟩
          · obtain ⟨mem, listening⟩ := h.registered ws' connection' before open_
            refine ⟨?_, listening⟩
            split
            · rename_i same
              rw [same.1, same.2] at mem
              exact List.mem_insert_of_mem mem
            · exact mem
          · exact ⟨by simp, by simp⟩
        once := fun publication mem ws' listens connection' found =>
          h.once publication mem ws' listens connection' (old mem listens found)
        alone := fun ws' connection' publication targets found sending => by
          rcases getElem?_concat_cases found with before | ⟨-, rfl⟩
          · exact h.alone ws' connection' publication targets before sending
          · cases sending }
  · exact h

/-- One handler goes on; nobody sends anything, and the registries stay. -/
theorem put (h : s.Alone) (found : s.connections[ws]? = some connection) {new : Connection}
    (place : new.pod = connection.pod ∧ new.roomId = connection.roomId)
    (inbox : new.inbox = connection.inbox)
    (listener : new.listener = connection.listener ∨
      new.listener = .stopped ∧ new.phase ≠ .receiving ∧ new.isOpen = false)
    (later : connection.phase ≠ .setOnline ∧ connection.phase ≠ .subscribe ∧
        connection.phase ≠ .abandoned →
      new.phase ≠ .setOnline ∧ new.phase ≠ .subscribe ∧ new.phase ≠ .abandoned)
    (opened : new.isOpen = true → connection.isOpen = true)
    (began : new.phase = .receiving → connection.phase = .receiving ∨
      connection.phase = .subscribe) :
    (s.put ws new).Alone := by
  have heard : ∀ publication ∈ s.published, ∀ ws' ∈ publication.listeners,
      ∃ connection, (s.connections.set ws new)[ws']? = some connection ∧
        connection.phase ≠ .setOnline ∧ connection.phase ≠ .subscribe ∧
        connection.phase ≠ .abandoned := by
    intro publication mem ws' listens
    obtain ⟨before, stored, past⟩ := h.heard publication mem ws' listens
    by_cases here : ws = ws'
    · subst here
      obtain rfl := Option.some.inj (found.symm.trans stored)
      exact ⟨new, List.getElem?_set_self (h.lt_length mem listens), later past⟩
    · exact ⟨before, by rw [List.getElem?_set_ne here]; exact stored, past⟩
  have sending : ∀ {publication targets}, new.listener = .sending publication targets →
      connection.listener = .sending publication targets := by
    intro publication targets now
    rcases listener with same | ⟨stopped, -⟩
    · exact same ▸ now
    · simp [stopped] at now
  exact
    { numbered := h.numbered
      distinct := h.distinct
      past := h.past
      known := forall_mem_set (by
        obtain ⟨known, sends⟩ := h.known connection (List.mem_of_getElem? found)
        exact ⟨inbox ▸ known, fun publication targets now =>
          sends publication targets (sending now)⟩) h.known
      heard
      registry := fun pod roomId => by
        simpa [Fanout.put] using h.registry pod roomId
      registered := fun ws' connection' stored open_ => by
        rcases getElem?_set_cases stored with ⟨rfl, rfl⟩ | ⟨-, before⟩
        · obtain ⟨mem, listening⟩ := h.registered ws connection found (opened open_)
          refine ⟨by rw [place.1, place.2]; exact mem, ?_⟩
          rcases listener with same | ⟨-, -, closed⟩
          · exact same ▸ listening
          · simp [closed] at open_
        · exact h.registered ws' connection' before open_
      once := fun publication mem ws' listens connection' stored receiving => by
        rcases getElem?_set_cases stored with ⟨rfl, rfl⟩ | ⟨-, before⟩
        · rcases began receiving with still | early
          · rcases listener with same | ⟨-, other, -⟩
            · rw [inbox, same]
              exact h.once publication mem ws listens connection found still
            · exact absurd receiving other
          · obtain ⟨_, stored', -, apart, -⟩ := h.heard publication mem ws listens
            cases Option.some.inj (found.symm.trans stored')
            exact absurd early apart
        · exact h.once publication mem ws' listens connection' before receiving
      alone := fun ws' connection' publication targets stored now => by
        rcases getElem?_set_cases stored with ⟨rfl, rfl⟩ | ⟨-, before⟩
        · exact h.alone ws connection publication targets found (sending now)
        · exact h.alone ws' connection' publication targets before now }

theorem advance (h : s.Alone) (ws : Nat) (redis : Bool) : (s.step (.advance ws redis)).Alone := by
  cases found : s.connections[ws]? with
  | none =>
      simp only [Fanout.step, found]
      exact h
  | some connection =>
      simp only [Fanout.step, found]
      refine h.put found ⟨rfl, rfl⟩ rfl (Or.inl rfl) ?_ ?_ ?_
      · cases connection.phase <;> cases redis <;> simp [proceed]
      · simp only [Connection.isOpen]
        cases connection.phase <;> cases redis <;> simp [proceed]
      · cases connection.phase <;> cases redis <;> simp [proceed]

/-- A connection that leaves is taken from the registry of its pod, and no other one is. -/
theorem disconnect (h : s.Alone) (ws : Nat) : (s.step (.disconnect ws)).Alone := by
  cases found : s.connections[ws]? with
  | none =>
      simp only [Fanout.step, found]
      exact h
  | some connection =>
      simp only [Fanout.step, found]
      split
      · rename_i receiving
        have left : (s.put ws
            { connection with phase := .setOffline, listener := .stopped }).Alone :=
          h.put found ⟨rfl, rfl⟩ rfl (Or.inr ⟨rfl, by simp, by simp [Connection.isOpen]⟩) (by simp)
            (by simp [Connection.isOpen]) (by simp)
        have managers : ∀ pod roomId,
            (Function.update s.managers connection.pod
              ((s.managers connection.pod).remove connection.roomId ws) pod).connections roomId =
              if pod = connection.pod ∧ roomId = connection.roomId then
                ((s.managers pod).connections roomId).erase ws
              else (s.managers pod).connections roomId := by
          intro pod roomId
          by_cases samePod : pod = connection.pod
          · subst samePod
            by_cases sameRoom : roomId = connection.roomId
            · simp [ConnectionManager.remove, sameRoom]
            · simp [ConnectionManager.remove, sameRoom]
          · simp [samePod]
        exact
          { numbered := left.numbered
            distinct := left.distinct
            past := left.past
            known := left.known
            heard := left.heard
            registry := fun pod roomId => by
              rw [managers]
              obtain ⟨nodup, inside⟩ := left.registry pod roomId
              split
              · exact ⟨nodup.erase ws, fun ws' mem => inside ws' (List.mem_of_mem_erase mem)⟩
              · exact ⟨nodup, inside⟩
            registered := fun ws' connection' stored open_ => by
              obtain ⟨mem, listening⟩ := left.registered ws' connection' stored open_
              refine ⟨?_, listening⟩
              rw [managers]
              split
              · refine (List.mem_erase_of_ne ?_).2 mem
                rintro rfl
                rcases getElem?_set_cases stored with ⟨-, rfl⟩ | ⟨other, -⟩
                · simp [Connection.isOpen] at open_
                · exact other rfl
              · exact mem
            once := left.once
            alone := left.alone }
      · exact h

theorem mem_listeners {roomId : String} (mem : ws ∈ s.listeners roomId) :
    ∃ connection, s.connections[ws]? = some connection ∧ connection.phase = .receiving ∧
      connection.roomId = roomId := by
  have here := (List.mem_filter.1 mem).2
  cases found : s.connections[ws]? with
  | none => simp [found] at here
  | some connection => exact ⟨connection, rfl, by simpa [found] using here⟩

/-- A publication is put before each of its listeners. -/
theorem publish (h : s.Alone) (roomId envelope : String) :
    (s.step (.publish roomId envelope)).Alone := by
  simp only [Fanout.step]
  generalize made : (⟨s.published.length, roomId, envelope, s.listeners roomId⟩ : Publication) = new
  have number : new.number = s.published.length := by rw [← made]
  have fresh : ∀ publication ∈ s.published, new ≠ publication := by
    rintro publication mem rfl
    exact Nat.lt_irrefl _ (number ▸ h.numbered new mem)
  have room : new.roomId = roomId := by rw [← made]
  have before : ∀ {ws' : Nat} {connection' : Connection},
      (s.connections.map fun connection => connection.notify new)[ws']? = some connection' →
      ∃ connection inbox, s.connections[ws']? = some connection ∧
        connection' = { connection with inbox := connection.inbox ++ inbox } ∧
        inbox = if connection.subscribed ∧ connection.roomId = roomId then [new] else [] := by
    intro ws' connection' found
    rw [List.getElem?_map] at found
    obtain ⟨connection, stored, rfl⟩ := Option.map_eq_some_iff.1 found
    obtain ⟨inbox, same, added⟩ := connection.notify_eq new
    exact ⟨connection, inbox, stored, same, room ▸ added⟩
  have after : ∀ publication ∈ s.published ++ [new], publication ∈ s.published ∨
      publication = new := fun publication mem => by simpa using mem
  exact
    { numbered := fun publication mem => by
        rw [List.length_append, List.length_singleton]
        rcases after publication mem with old | rfl
        · exact Nat.lt_succ_of_lt (h.numbered publication old)
        · omega
      distinct := fun first mem second mem' same => by
        rcases after first mem with old | rfl
        · rcases after second mem' with old' | rfl
          · exact h.distinct first old second old' same
          · have inside := h.numbered first old
            omega
        · rcases after second mem' with old' | rfl
          · have inside := h.numbered second old'
            omega
          · rfl
      past := fun pair mem => by
        rw [List.length_append, List.length_singleton]
        exact Nat.lt_succ_of_lt (h.past pair mem)
      known := fun connection' mem => by
        obtain ⟨ws', found⟩ := List.mem_iff_getElem?.1 mem
        obtain ⟨connection, inbox, stored, rfl, new_⟩ := before found
        obtain ⟨known, sends⟩ := h.known connection (List.mem_of_getElem? stored)
        refine ⟨fun publication held => ?_, fun publication targets now =>
          List.mem_append_left _ (sends publication targets now)⟩
        rcases List.mem_append.1 held with old | added
        · exact List.mem_append_left _ (known publication old)
        · rw [new_] at added
          split at added
          · exact List.mem_append_right _ added
          · cases added
      heard := fun publication mem ws' listens => by
        have stored : ∃ connection, s.connections[ws']? = some connection ∧
            connection.phase ≠ .setOnline ∧ connection.phase ≠ .subscribe ∧
            connection.phase ≠ .abandoned := by
          rcases after publication mem with old | rfl
          · exact h.heard publication old ws' listens
          · rw [← made] at listens
            obtain ⟨connection, found, receiving, -⟩ := mem_listeners listens
            exact ⟨connection, found, by simp [receiving]⟩
        obtain ⟨connection, found, later⟩ := stored
        obtain ⟨inbox, same, -⟩ := connection.notify_eq new
        refine ⟨connection.notify new, by rw [List.getElem?_map, found]; rfl, ?_⟩
        rw [same]
        exact later
      registry := fun pod roomId' => by simpa using h.registry pod roomId'
      registered := fun ws' connection' found open_ => by
        obtain ⟨connection, inbox, stored, rfl, -⟩ := before found
        exact h.registered ws' connection stored open_
      once := fun publication mem ws' listens connection' found receiving => by
        obtain ⟨connection, inbox, stored, rfl, added⟩ := before found
        rw [List.count_append]
        rcases after publication mem with old | rfl
        · have kept := h.once publication old ws' listens connection stored receiving
          have none : inbox.count publication = 0 := by
            rw [added]
            split
            · exact List.count_eq_zero.2 (by simpa using (fresh publication old).symm)
            · rfl
          dsimp only
          omega
        · -- the new publication has neither been sent nor taken by anyone
          rw [← made] at listens
          obtain ⟨_, stored', -, here⟩ := mem_listeners listens
          cases Option.some.inj (stored.symm.trans stored')
          obtain ⟨known, sends⟩ := h.known connection (List.mem_of_getElem? stored)
          have unsent : s.sent.count (publication.number, ws') = 0 :=
            List.count_eq_zero.2 fun mem => Nat.lt_irrefl _ (number ▸ h.past _ mem)
          have unread : connection.inbox.count publication = 0 :=
            List.count_eq_zero.2 fun mem => fresh publication (known publication mem) rfl
          have idle : connection.listener.pending publication ws' = 0 := by
            cases sending : connection.listener with
            | sending current targets =>
                have other : current ≠ publication := fun same =>
                  fresh current (sends current targets sending) same.symm
                simp [Listener.pending, other]
            | _ => rfl
          have receiving : connection.phase = .receiving := receiving
          have once : inbox.count publication = 1 := by
            rw [added, if_pos ⟨by simp [Connection.subscribed, receiving], here⟩]
            simp
          dsimp only
          omega
      alone := fun ws' connection' publication targets found now => by
        obtain ⟨connection, inbox, stored, rfl, -⟩ := before found
        exact h.alone ws' connection publication targets stored now }

/-- The listener takes a publication, and owes it to its own connection from then on. -/
theorem hear (h : s.Alone) (hears : s.hearsAlone (.hear ws) = true) :
    (s.step (.hear ws)).Alone := by
  simp only [Fanout.step]
  split
  · rename_i connection found
    split
    · rename_i publication inbox receiving waiting read
      have place := (h.registered ws connection found (by simp [Connection.isOpen, receiving])).1
      obtain ⟨nodup, -⟩ := h.registry connection.pod connection.roomId
      obtain ⟨known, -⟩ := h.known connection (List.mem_of_getElem? found)
      split
      · rename_i empty
        simp [empty] at place
      · have alone : ∀ target ∈ (s.managers connection.pod).connections connection.roomId,
            target ≠ ws → target ∉ publication.listeners := by
          intro target mem other
          simp only [hearsAlone, found, Option.all_some, read, List.head?_cons, List.all_eq_true,
            decide_eq_true_eq] at hears
          exact (hears target mem).resolve_left other
        generalize (s.managers connection.pod).connections connection.roomId = targets at *
        exact
          { numbered := h.numbered
            distinct := h.distinct
            past := h.past
            known := forall_mem_set ⟨fun other mem => known other (by simp [read, mem]),
              fun other targets' now => by
                cases now
                exact known publication (by simp [read])⟩ h.known
            heard := fun other mem ws' listens => by
              obtain ⟨before, stored, later⟩ := h.heard other mem ws' listens
              by_cases here : ws = ws'
              · subst here
                obtain rfl := Option.some.inj (found.symm.trans stored)
                exact ⟨_, List.getElem?_set_self (h.lt_length mem listens), later⟩
              · exact ⟨before, by rw [Fanout.put, List.getElem?_set_ne here]; exact stored, later⟩
            registry := fun pod roomId => by simpa [Fanout.put] using h.registry pod roomId
            registered := fun ws' connection' stored open_ => by
              rcases getElem?_set_cases stored with ⟨rfl, rfl⟩ | ⟨-, before⟩
              · exact ⟨(h.registered ws connection found open_).1, by simp⟩
              · exact h.registered ws' connection' before open_
            once := fun other mem ws' listens connection' stored still => by
              rcases getElem?_set_cases stored with ⟨rfl, rfl⟩ | ⟨-, before⟩
              · have kept := h.once other mem ws listens connection found receiving
                have mine : targets.count ws = 1 := List.count_eq_one_of_mem nodup place
                simp only [read, waiting, Listener.pending, List.count_cons, beq_iff_eq] at kept ⊢
                split
                · rename_i same
                  rw [if_pos same] at kept
                  dsimp only [Fanout.put]
                  omega
                · rename_i apart
                  rw [if_neg apart] at kept
                  exact kept
              · exact h.once other mem ws' listens connection' before still
            alone := fun ws' connection' other targets' stored now => by
              rcases getElem?_set_cases stored with ⟨rfl, rfl⟩ | ⟨-, before⟩
              · cases now
                exact alone
              · exact h.alone ws' connection' other targets' before now }
    · exact h
  · exact h

/-- One send takes the connection off the list, and is counted if the connection is open. -/
theorem send (h : s.Alone) (ws target : Nat) : (s.step (.send ws target)).Alone := by
  simp only [Fanout.step]
  split
  · rename_i connection found
    split
    · rename_i publication targets sending
      split
      · rename_i mem
        obtain ⟨inbox, sends⟩ := h.known connection (List.mem_of_getElem? found)
        have known := sends publication targets sending
        have apart := h.alone ws connection publication targets found sending
        generalize left : (if targets.erase target = [] then Listener.waiting else
          .sending publication (targets.erase target)) = listener
        have still : ∀ {other targets'}, listener = .sending other targets' →
            other = publication ∧ targets' = targets.erase target := by
          intro other targets' now
          rw [← left] at now
          split at now
          · cases now
          · cases now
            exact ⟨rfl, rfl⟩
        have unsent : ∀ {pair : Nat × Nat}, pair ≠ (publication.number, target) →
            (if (s.connections[target]?).any Connection.isOpen then
              (publication.number, target) :: s.sent else s.sent).count pair =
              s.sent.count pair := by
          intro pair other
          split
          · exact List.count_cons_of_ne (Ne.symm other)
          · rfl
        have pending : ∀ other ws', listener.pending other ws' =
            if publication = other then (targets.erase target).count ws' else 0 := by
          intro other ws'
          rw [← left]
          split
          · rename_i empty
            simp [Listener.pending, empty]
          · rfl
        exact
          { numbered := h.numbered
            distinct := h.distinct
            past := fun pair sent => by
              split at sent
              · rcases List.mem_cons.1 sent with rfl | before
                · exact h.numbered publication known
                · exact h.past pair before
              · exact h.past pair sent
            known := forall_mem_set ⟨inbox, fun other targets' now => (still now).1 ▸ known⟩ h.known
            heard := fun other published ws' listens => by
              obtain ⟨before, stored, later⟩ := h.heard other published ws' listens
              by_cases here : ws = ws'
              · subst here
                obtain rfl := Option.some.inj (found.symm.trans stored)
                exact ⟨_, List.getElem?_set_self (h.lt_length published listens), later⟩
              · exact ⟨before, by rw [Fanout.put, List.getElem?_set_ne here]; exact stored, later⟩
            registry := fun pod roomId => by simpa [Fanout.put] using h.registry pod roomId
            registered := fun ws' connection' stored open_ => by
              rcases getElem?_set_cases stored with ⟨rfl, rfl⟩ | ⟨-, before⟩
              · refine ⟨(h.registered ws connection found open_).1, ?_⟩
                dsimp only
                rw [← left]
                split <;> simp
              · exact h.registered ws' connection' before open_
            once := fun other published ws' listens connection' stored receiving => by
              rcases getElem?_set_cases stored with ⟨rfl, rfl⟩ | ⟨elsewhere, before⟩
              · have kept := h.once other published ws listens connection found receiving
                simp only [sending, Listener.pending] at kept
                simp only [pending]
                by_cases same : publication = other
                · subst same
                  rw [if_pos rfl] at kept ⊢
                  by_cases own : target = ws
                  · -- the listener sends to its own connection
                    subst own
                    have open_ : connection.isOpen = true := by
                      simp [Connection.isOpen, show connection.phase = .receiving from receiving]
                    have some := List.count_pos_iff.2 mem
                    rw [if_pos (by simpa [found] using open_), List.count_cons_self,
                      List.count_erase_self]
                    omega
                  · rw [unsent (fun again => own (congrArg Prod.snd again).symm),
                      List.count_erase_of_ne (Ne.symm own)]
                    exact kept
                · rw [if_neg same] at kept ⊢
                  rw [unsent fun again => same (h.distinct _ known _ published
                    (congrArg Prod.fst again).symm)]
                  exact kept
              · have kept := h.once other published ws' listens connection' before receiving
                rw [unsent]
                · exact kept
                · intro again
                  obtain rfl := h.distinct _ published _ known (congrArg Prod.fst again)
                  obtain rfl : ws' = target := congrArg Prod.snd again
                  exact apart ws' mem (Ne.symm elsewhere) listens
            alone := fun ws' connection' other targets' stored now => by
              rcases getElem?_set_cases stored with ⟨rfl, rfl⟩ | ⟨-, before⟩
              · obtain ⟨rfl, rfl⟩ := still now
                exact fun target' mem' => apart target' (List.mem_of_mem_erase mem')
              · exact h.alone ws' connection' other targets' before now }
      · exact h
    · exact h
  · exact h

theorem step (h : s.Alone) (e : FanoutEvent) (hears : s.hearsAlone e = true) :
    (s.step e).Alone := by
  cases e with
  | connect pod roomId profileId participantIds => exact h.connect pod roomId profileId participantIds
  | advance ws redis => exact h.advance ws redis
  | disconnect ws => exact h.disconnect ws
  | publish roomId envelope => exact h.publish roomId envelope
  | hear ws => exact h.hear hears
  | send ws target => exact h.send ws target
  | listenerFails ws =>
      simp only [Fanout.step]
      split
      · rename_i connection found
        have other : connection.phase ≠ .receiving := by simpa [hearsAlone, found] using hears
        rw [if_neg fun both => other both.1]
        exact h
      · exact h

/-- What no listener has before it any more has been sent to each of its listeners. -/
theorem fanoutOnce (h : s.Alone) : s.FanoutOnce := by
  intro publication mem delivered ws listens receiving
  obtain ⟨connection, found, -⟩ := h.heard publication mem ws listens
  have phase : connection.phase = .receiving := by simpa [Fanout.receiving, found] using receiving
  have listening := (h.registered ws connection found (by simp [Connection.isOpen, phase])).2
  have kept := h.once publication mem ws listens connection found phase
  have done : connection.owes publication = false := by
    simpa using List.all_eq_true.1 delivered connection (List.mem_of_getElem? found)
  cases listener : connection.listener with
  | waiting =>
      have read : publication ∉ connection.inbox := by
        simpa [Connection.owes, phase, listener] using done
      simpa [listener, Listener.pending, List.count_eq_zero.2 read] using kept
  | sending current targets =>
      have other : current ≠ publication ∧ publication ∉ connection.inbox := by
        simpa [Connection.owes, phase, listener] using done
      simpa [listener, Listener.pending, other.1, List.count_eq_zero.2 other.2] using kept
  | stopped => exact absurd listener listening

end Alone

end Fanout

/-! ## Two runs -/

/-- A connection of a profile to a room, up to its receive loop. -/
def join (ws pod : Nat) (profileId : String) : List FanoutEvent :=
  [.connect pod "room" profileId (some ["anna", "ben"]), .advance ws true, .advance ws true]

end ColabPlatform.Chat
