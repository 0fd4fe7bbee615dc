import ColabPlatform.Collabs.Model
import ColabPlatform.Foundation.Cursor
import ColabPlatform.Foundation.Interleaving
import ColabPlatform.Foundation.Run

/-!
# Whiteboard hydration

The sockets of one collaboration in the process that serves them, whose room is lost in a
restart.  A socket that joins is to learn every operation: from the snapshot, from the
operations stored after it, or from a broadcast.  Without a snapshot nothing is sent, a
new room counts from zero again, and a broadcast goes by position through a list that
leaving sockets shorten.
-/

namespace ColabPlatform.Collabs

open Foundation
open Billing (Uuid)

/-! ## Sockets and rooms -/

/-- A stored operation, and the socket that it came from. -/
structure BoardOp extends WhiteboardOp where
  sender : Nat
  deriving DecidableEq, Repr

/-- What the handler of a socket does next. -/
inductive SocketPhase where
  /-- `get_latest_snapshot` -/
  | snapshot
  /-- `get_snapshot_binary` -/
  | document (version : Nat)
  /-- `get_delta_ops` -/
  | delta (version : Nat)
  | send (version : Nat) (ops : List BoardOp)
  | receive
  /-- `append_op` -/
  | persist (op : BoardOp)
  /-- `broadcast`, at a position of the connections, with those that were found dead -/
  | broadcast (op : BoardOp) (position : Nat) (dead : List Nat)
  | closed
  deriving DecidableEq, Repr

/-- `document` is the version of the snapshot that was sent to the socket. -/
structure Socket where
  profileId : Uuid
  phase : SocketPhase := .snapshot
  alive : Bool := true
  document : Option Nat := none
  received : List BoardOp := []
  deriving DecidableEq, Repr

/-- The sockets are numbered in the order in which they joined. -/
structure Board where
  /-- `_lamport` -/
  lamport : Nat
  /-- `_connections` -/
  connections : List Nat
  sockets : List Socket
  /-- the versions of the snapshots that are being saved -/
  saving : List Nat
  ops : List BoardOp
  /-- the versions of the stored snapshots -/
  snapshots : List Nat

structure SocketOutside where
  /-- the statement, or the request to S3, is carried out -/
  ok : Bool := true
  /-- the next frame, if the client does not disconnect -/
  frame : Option (List UInt8) := none

namespace Board

def empty : Board := ⟨0, [], [], [], [], []⟩

/-- `get_latest_snapshot` -/
def latestSnapshot (b : Board) : Option Nat := b.snapshots.max?

/-- `get_delta_ops` -/
def deltaOps (b : Board) (version : Nat) : List BoardOp :=
  (b.ops.filter fun op => version < op.lamport).insertionSort fun op op' =>
    op.lamport ≤ op'.lamport

def put (b : Board) (index : Nat) (socket : Socket) : Board :=
  { b with sockets := b.sockets.set index socket }

def isAlive (b : Board) (index : Nat) : Bool := b.sockets[index]?.any (·.alive)

/-- A frame that is sent to a socket. -/
def deliver (b : Board) (index : Nat) (op : BoardOp) : Board :=
  { b with
    sockets := b.sockets.modify index fun socket =>
      { socket with received := socket.received ++ [op] } }

/-- One step of `handle_whiteboard_ws`; a hydration that raises is logged. -/
def advance (b : Board) (index : Nat) (outside : SocketOutside) (socket : Socket) : Board :=
  match socket.phase with
  | .snapshot =>
      match outside.ok, b.latestSnapshot with
      | true, some version => b.put index { socket with phase := .document version }
      | _, _ => b.put index { socket with phase := .receive }
  | .document version =>
      b.put index { socket with phase := if outside.ok then .delta version else .receive }
  | .delta version =>
      b.put index
        { socket with phase := if outside.ok then .send version (b.deltaOps version) else .receive }
  | .send version ops =>
      if socket.alive then
        b.put index { socket with
          phase := .receive, document := some version, received := socket.received ++ ops }
      else b.put index { socket with phase := .receive }
  | .receive =>
      match socket.alive, outside.frame with
      | true, some opData =>
          -- `next_lamport`
          { b.put index { socket with
              phase := .persist ⟨⟨b.lamport + 1, socket.profileId, opData⟩, index⟩ } with
            lamport := b.lamport + 1 }
      | _, _ =>
          { b.put index { socket with phase := .closed, alive := false } with
            connections := b.connections.erase index }
  | .persist op =>
      let sending := b.put index { socket with phase := .broadcast op 0 [] }
      if outside.ok then { sending with ops := b.ops ++ [op] } else sending
  | .broadcast op position dead =>
      match b.connections[position]? with
      | some other =>
          if other = index then
            b.put index { socket with phase := .broadcast op (position + 1) dead }
          else if b.isAlive other then
            (b.put index { socket with phase := .broadcast op (position + 1) dead }).deliver
              other op
          else b.put index { socket with phase := .broadcast op (position + 1) (dead ++ [other]) }
      | none =>
          { b.put index { socket with phase := .receive } with
            connections := dead.foldl List.erase b.connections }
  | .closed => b

end Board

inductive BoardEvent where
  | join (profileId : Uuid)
  | advance (index : Nat) (outside : SocketOutside)
  /-- the client is gone, which its handler finds out later -/
  | drop (index : Nat)
  /-- the idle timer fires, and reads the number of the room -/
  | beginSnapshot
  | storeSnapshot (index : Nat)
  | restart

namespace Board

def step (b : Board) : BoardEvent → Board
  | .join profileId =>
      { b with
        sockets := b.sockets ++ [{ profileId }]
        connections := b.connections ++ [b.sockets.length] }
  | .advance index outside =>
      match b.sockets[index]? with
      | some socket => b.advance index outside socket
      | none => b
  | .drop index =>
      { b with sockets := b.sockets.modify index fun socket => { socket with alive := false } }
  | .beginSnapshot => { b with saving := b.saving ++ [b.lamport] }
  | .storeSnapshot index =>
      match b.saving[index]? with
      | some version =>
          { b with saving := b.saving.eraseIdx index, snapshots := b.snapshots ++ [version] }
      | none => b
  | .restart =>
      { b with
        lamport := 0
        connections := []
        saving := []
        sockets := b.sockets.map fun socket => { socket with phase := .closed, alive := false } }

def run (events : List BoardEvent) : Board := runFrom step empty events

end Board

/-! ## What is promised -/

/-- The client is there, and has got its initial state. -/
def Socket.hydrated (socket : Socket) : Bool :=
  socket.alive &&
    match socket.phase with
    | .receive | .persist _ | .broadcast _ _ _ => true
    | _ => false

namespace Board

/-- The broadcast of the operation is not finished. -/
def underway (b : Board) (op : BoardOp) : Prop :=
  ∃ socket position dead, b.sockets[op.sender]? = some socket ∧
    socket.phase = .broadcast op position dead

section

-- Which operations the document of a snapshot encodes, by its version.  In the place of
-- the document a sentinel is stored, which encodes none.
variable (encodes : Nat → BoardOp → Bool)

/-- Every stored operation of another socket has reached every hydrated one, unless its
broadcast is still under way, and no two operations have the same number. -/
structure Hydrates (b : Board) : Prop where
  complete : ∀ (i : Nat) (socket : Socket), b.sockets[i]? = some socket →
    socket.hydrated = true → ∀ op ∈ b.ops, op.sender ≠ i → ¬ b.underway op →
    op ∈ socket.received ∨ ∃ version, socket.document = some version ∧ encodes version op = true
  distinct : (b.ops.map (·.lamport)).Nodup

/-- A broadcast of the operation has the connection still ahead of it. -/
def comes (b : Board) (index : Nat) (op : BoardOp) : Bool :=
  b.sockets[op.sender]?.any fun sender =>
    match sender.phase with
    | .broadcast op' position _ => op' = op && (b.connections.drop position).contains index
    | _ => false

/-- No socket of `gone` is behind a broadcast that another socket than `index` has under way
and that has not passed all connections. -/
def undisturbed (b : Board) (index : Nat) (gone : List Nat) : Bool :=
  (b.sockets.eraseIdx index).all fun socket =>
    match socket.phase with
    | .broadcast _ position _ =>
        decide (b.connections.length ≤ position) ||
          gone.all fun other => !(b.connections.take position).contains other
    | _ => true

/-- A socket gets its initial state from a snapshot that encodes what is not stored after it,
apart from operations that a broadcast still brings; the next number is free when an
operation arrives, and nobody leaves from behind a broadcast. -/
def hydratesRight (b : Board) : BoardEvent → Bool
  | .advance index outside =>
      b.sockets[index]?.all fun socket =>
        match socket.phase with
        | .snapshot =>
            !socket.alive || b.ops.all fun op => b.comes index op ||
              outside.ok && b.latestSnapshot.any fun version =>
                decide (version < op.lamport) || encodes version op
        | .document _ | .delta _ => !socket.alive || outside.ok || b.ops.all (b.comes index)
        | .receive =>
            if socket.alive && outside.frame.isSome then
              b.ops.all fun op => decide (op.lamport ≠ b.lamport + 1)
            else b.undisturbed index [index]
        | .broadcast _ position dead =>
            if b.connections[position]?.isNone then b.undisturbed index dead else true
        | _ => true
  | _ => true

end

end Board

/-! ## Sockets between a step and the next -/

/-- What a socket has still to get from its snapshot, or has got from it. -/
def Socket.covers (encodes : Nat → BoardOp → Bool) (socket : Socket) (op : BoardOp) : Prop :=
  match socket.phase with
  | .snapshot => True
  | .document version | .delta version => version < op.lamport ∨ encodes version op = true
  | .send version ops => op ∈ ops ∨ encodes version op = true
  | _ => ∃ version, socket.document = some version ∧ encodes version op = true

namespace Board

def coming (b : Board) (index : Nat) (op : BoardOp) : Prop :=
  ∃ socket position dead, b.sockets[op.sender]? = some socket ∧
    socket.phase = .broadcast op position dead ∧ index ∈ b.connections.drop position

def lost (b : Board) (index : Nat) : Prop :=
  ∃ socket, b.sockets[index]? = some socket ∧ socket.alive = false

structure Sound (encodes : Nat → BoardOp → Bool) (b : Board) : Prop where
  covered : ∀ i socket, b.sockets[i]? = some socket → socket.alive = true → ∀ op ∈ b.ops,
    op.sender ≠ i → op ∈ socket.received ∨ socket.covers encodes op ∨ b.coming i op
  present : ∀ i socket, b.sockets[i]? = some socket → socket.alive = true → i ∈ b.connections
  known : ∀ i ∈ b.connections, i < b.sockets.length
  gone : ∀ (i : Nat) (socket : Socket) op position dead, b.sockets[i]? = some socket →
    socket.phase = .broadcast op position dead → ∀ d ∈ dead, b.lost d
  fresh : ∀ (i : Nat) (socket : Socket) op, b.sockets[i]? = some socket →
    socket.phase = .persist op →
    op.sender = i ∧ op.lamport ≤ b.lamport ∧ ∀ stored ∈ b.ops, stored.lamport ≠ op.lamport
  apart : ∀ (i j : Nat) (socket socket' : Socket) op op', b.sockets[i]? = some socket →
    b.sockets[j]? = some socket' → socket.phase = .persist op → socket'.phase = .persist op' →
    i ≠ j → op.lamport ≠ op'.lamport
  distinct : (b.ops.map (·.lamport)).Nodup

variable {encodes : Nat → BoardOp → Bool} {b : Board}

theorem comes_iff {index : Nat} {op : BoardOp} : b.comes index op = true ↔ b.coming index op := by
  unfold comes coming
  cases b.sockets[op.sender]? with
  | none => simp
  | some sender =>
      rcases sender with ⟨profileId, phase, alive, document, received⟩
      constructor
      · intro comes
        cases phase with
        | broadcast op' position dead =>
            obtain ⟨rfl, ahead⟩ : op' = op ∧ index ∈ b.connections.drop position := by
              simpa using comes
            exact ⟨_, position, dead, rfl, rfl, ahead⟩
        | _ => cases comes
      · rintro ⟨sender, position, dead, at_, sending, ahead⟩
        obtain rfl := Option.some.inj at_
        obtain rfl := sending
        simpa using ahead

theorem mem_deltaOps {version : Nat} {op : BoardOp} :
    op ∈ b.deltaOps version ↔ op ∈ b.ops ∧ version < op.lamport := by
  simp [deltaOps]

theorem empty_sound : empty.Sound encodes where
  covered := by
    intro i socket found
    simp [empty] at found
  present := by
    intro i socket found
    simp [empty] at found
  known := by
    intro i mem
    cases mem
  gone := by
    intro i socket op position dead found
    simp [empty] at found
  fresh := by
    intro i socket op found
    simp [empty] at found
  apart := by
    intro i j socket socket' op op' found
    simp [empty] at found
  distinct := List.nodup_nil

/-- What is promised holds between two steps. -/
theorem Sound.hydrates (h : b.Sound encodes) : b.Hydrates encodes where
  complete := by
    intro i socket found hydrated op mem other finished
    simp only [Socket.hydrated, Bool.and_eq_true] at hydrated
    obtain ⟨alive, hydrated⟩ := hydrated
    rcases h.covered i socket found alive op mem other with received | covers | coming
    · exact Or.inl received
    · right
      unfold Socket.covers at covers
      split at covers
      all_goals first | exact covers | simp_all
    · obtain ⟨sender, position, dead, at_, sending, -⟩ := coming
      exact absurd ⟨sender, position, dead, at_, sending⟩ finished
  distinct := h.distinct

/-! ## One socket goes on -/

theorem getElem?_put_self {index : Nat} {socket socket' : Socket}
    (found : b.sockets[index]? = some socket) :
    (b.put index socket').sockets[index]? = some socket' := by
  have inside := (List.getElem?_eq_some_iff.1 found).1
  exact List.getElem?_set_self inside

theorem lost_put {index : Nat} {socket socket' : Socket}
    (found : b.sockets[index]? = some socket)
    (alive : socket'.alive = true → socket.alive = true) {other : Nat}
    (gone : b.lost other) : (b.put index socket').lost other := by
  obtain ⟨before, at_, dead⟩ := gone
  by_cases same : index = other
  · subst same
    obtain rfl := Option.some.inj (found.symm.trans at_)
    refine ⟨socket', getElem?_put_self found, ?_⟩
    by_contra still
    simp [alive (by simpa using still)] at dead
  · refine ⟨before, ?_, dead⟩
    rw [put, List.getElem?_set_ne same]
    exact at_

theorem length_put {index : Nat} {socket' : Socket} :
    (b.put index socket').sockets.length = b.sockets.length :=
  List.length_set

theorem coming_put {index i : Nat} {socket' : Socket} {op : BoardOp} (other : op.sender ≠ index)
    (coming : b.coming i op) : (b.put index socket').coming i op := by
  obtain ⟨sender, position, dead, found, sending, ahead⟩ := coming
  refine ⟨sender, position, dead, ?_, sending, ahead⟩
  rw [put, List.getElem?_set_ne other.symm]
  exact found

/-- Nobody leaves from behind a broadcast that has connections ahead of it. -/
theorem free_of_undisturbed {index j position other target : Nat} {gone dead : List Nat}
    {sender : Socket} {op : BoardOp} (undisturbed : b.undisturbed index gone = true)
    (found : b.sockets[j]? = some sender) (apart : j ≠ index)
    (sending : sender.phase = .broadcast op position dead)
    (ahead : target ∈ b.connections.drop position) (leaves : other ∈ gone) :
    other ∉ b.connections.take position := by
  have mem : sender ∈ b.sockets.eraseIdx index :=
    List.mem_eraseIdx_iff_getElem?.2 ⟨j, apart, found⟩
  have free := List.all_eq_true.1 undisturbed sender mem
  simp only [sending, Bool.or_eq_true, decide_eq_true_eq] at free
  rcases free with past | free
  · rw [List.drop_eq_nil_of_le past] at ahead
    cases ahead
  · simpa using List.all_eq_true.1 free other leaves

theorem Sound.present_put (h : b.Sound encodes) {index : Nat} {socket socket' : Socket}
    (found : b.sockets[index]? = some socket) {i : Nat} {other : Socket}
    (atI : (b.put index socket').sockets[i]? = some other)
    (alive : socket'.alive = true → socket.alive = true) (aliveI : other.alive = true) :
    i ∈ b.connections := by
  rcases getElem?_set_cases atI with ⟨rfl, rfl⟩ | ⟨-, still⟩
  · exact h.present index socket found (alive aliveI)
  · exact h.present i other still aliveI

theorem Sound.gone_put (h : b.Sound encodes) {index : Nat} {socket socket' : Socket}
    (found : b.sockets[index]? = some socket) {i : Nat} {other : Socket}
    (atI : (b.put index socket').sockets[i]? = some other)
    (alive : socket'.alive = true → socket.alive = true)
    (gone : ∀ op position dead, socket'.phase = .broadcast op position dead →
      ∀ d ∈ dead, b.lost d)
    {op : BoardOp} {position : Nat} {dead : List Nat}
    (sending : other.phase = .broadcast op position dead) :
    ∀ d ∈ dead, (b.put index socket').lost d := by
  intro d mem
  refine lost_put found alive ?_
  rcases getElem?_set_cases atI with ⟨rfl, rfl⟩ | ⟨-, still⟩
  · exact gone op position dead sending d mem
  · exact h.gone i other op position dead still sending d mem

/-- Whoever stores an operation stored it before, when the socket that goes on does not. -/
theorem storing_put {index : Nat} {socket' : Socket} {i : Nat} {other : Socket} {op : BoardOp}
    (atI : (b.put index socket').sockets[i]? = some other)
    (silent : ∀ op, socket'.phase ≠ .persist op) (storing : other.phase = .persist op) :
    b.sockets[i]? = some other := by
  rcases getElem?_set_cases atI with ⟨rfl, rfl⟩ | ⟨-, still⟩
  · exact absurd storing (silent op)
  · exact still

/-- A socket goes on that neither has a broadcast before it nor begins to store one, while
dead connections are taken from the list. -/
theorem Sound.turn (h : b.Sound encodes) {index : Nat} {socket socket' : Socket}
    {gone : List Nat} (found : b.sockets[index]? = some socket)
    (alive : socket'.alive = true → socket.alive = true)
    (received : ∀ op ∈ socket.received, op ∈ socket'.received)
    (covers : socket'.alive = true → ∀ op ∈ b.ops, socket.covers encodes op →
      op ∈ socket'.received ∨ socket'.covers encodes op ∨ b.coming index op)
    (before : ∀ op position dead, socket.phase = .broadcast op position dead →
      b.connections[position]? = none)
    (after : ∀ op position dead, socket'.phase ≠ .broadcast op position dead)
    (silent : ∀ op, socket'.phase ≠ .persist op)
    (undisturbed : b.undisturbed index gone = true)
    (dead : ∀ d ∈ gone, (b.put index socket').lost d) :
    ({ b.put index socket' with connections := gone.foldl List.erase b.connections } :
      Board).Sound encodes := by
  have absent : ∀ (i : Nat) (other : Socket),
      (b.put index socket').sockets[i]? = some other → other.alive = true → i ∉ gone := by
    intro i other atI aliveI mem
    obtain ⟨before, at_, lost⟩ := dead i mem
    obtain rfl := Option.some.inj (atI.symm.trans at_)
    simp [aliveI] at lost
  have comes : ∀ (i : Nat) (other : Socket) op,
      (b.put index socket').sockets[i]? = some other → other.alive = true → b.coming i op →
      ({ b.put index socket' with connections := gone.foldl List.erase b.connections } :
        Board).coming i op := by
    intro i other op atI aliveI coming
    obtain ⟨sender, position, dead', atS, sending, ahead⟩ := coming
    have apart : op.sender ≠ index := by
      intro own
      rw [own] at atS
      obtain rfl := Option.some.inj (found.symm.trans atS)
      exact not_mem_drop_of_getElem?_eq_none (before op position dead' sending) ahead
    refine ⟨sender, position, dead', ?_, sending, ?_⟩
    · rw [put, List.getElem?_set_ne apart.symm]
      exact atS
    · apply mem_drop_foldl_erase ahead
      · intro d mem
        exact free_of_undisturbed undisturbed atS apart sending ahead mem
      · exact absent i other atI aliveI
  exact
    { covered := by
        intro i other atI aliveI op mem apart
        rcases getElem?_set_cases atI with ⟨rfl, rfl⟩ | ⟨-, still⟩
        · rcases h.covered index socket found (alive aliveI) op mem apart with old | old | old
          · exact Or.inl (received op old)
          · exact (covers aliveI op mem old).imp id
              (Or.imp id (comes index _ op atI aliveI))
          · exact Or.inr (Or.inr (comes index _ op atI aliveI old))
        · exact (h.covered i other still aliveI op mem apart).imp id
            (Or.imp id (comes i other op atI aliveI))
      present := by
        intro i other atI aliveI
        exact mem_foldl_erase (h.present_put found atI alive aliveI) (absent i other atI aliveI)
      known := by
        intro i mem
        rw [length_put]
        exact h.known i (mem_of_mem_foldl_erase mem)
      gone := by
        intro i other op position dead' atI sending
        apply h.gone_put found atI alive _ sending
        intro op position dead' again
        exact absurd again (after op position dead')
      fresh := by
        intro i other op atI storing
        exact h.fresh i other op (storing_put atI silent storing) storing
      apart := by
        intro i j first second op op' atI atJ storing storing' other
        exact h.apart i j first second op op' (storing_put atI silent storing)
          (storing_put atJ silent storing') storing storing' other
      distinct := h.distinct }

/-- The same while nobody leaves. -/
theorem Sound.onward (h : b.Sound encodes) {index : Nat} {socket socket' : Socket}
    (found : b.sockets[index]? = some socket)
    (alive : socket'.alive = true → socket.alive = true)
    (received : ∀ op ∈ socket.received, op ∈ socket'.received)
    (covers : socket'.alive = true → ∀ op ∈ b.ops, socket.covers encodes op →
      op ∈ socket'.received ∨ socket'.covers encodes op ∨ b.coming index op)
    (before : ∀ op position dead, socket.phase ≠ .broadcast op position dead)
    (after : ∀ op position dead, socket'.phase ≠ .broadcast op position dead)
    (silent : ∀ op, socket'.phase ≠ .persist op) : (b.put index socket').Sound encodes := by
  have undisturbed : b.undisturbed index [] = true := by
    apply List.all_eq_true.2
    intro other mem
    split
    · exact Bool.or_true _
    · rfl
  refine h.turn found alive received covers ?_ after silent undisturbed ?_
  · intro op position dead sending
    exact absurd sending (before op position dead)
  · intro d mem
    cases mem

theorem getElem?_modify_cases {sockets : List Socket} {f : Socket → Socket} {i j : Nat}
    {socket' : Socket} (found : (sockets.modify j f)[i]? = some socket') :
    ∃ socket, sockets[i]? = some socket ∧ (socket' = f socket ∨ socket' = socket) := by
  rw [List.getElem?_modify] at found
  cases at_ : sockets[i]? with
  | none => simp [at_] at found
  | some socket =>
      refine ⟨socket, rfl, ?_⟩
      by_cases same : j = i
      · left
        simpa [at_, same, eq_comm] using found
      · right
        simpa [at_, same, eq_comm] using found

/-- A socket learns something, or is gone. -/
theorem Sound.modify (h : b.Sound encodes) (j : Nat) {f : Socket → Socket}
    (phase : ∀ socket, (f socket).phase = socket.phase)
    (document : ∀ socket, (f socket).document = socket.document)
    (alive : ∀ socket, (f socket).alive = true → socket.alive = true)
    (received : ∀ socket, ∀ op ∈ socket.received, op ∈ (f socket).received) :
    ({ b with sockets := b.sockets.modify j f } : Board).Sound encodes := by
  have back : ∀ (i : Nat) (socket' : Socket), (b.sockets.modify j f)[i]? = some socket' →
      ∃ socket, b.sockets[i]? = some socket ∧ socket'.phase = socket.phase ∧
        socket'.document = socket.document ∧ (socket'.alive = true → socket.alive = true) ∧
        ∀ op ∈ socket.received, op ∈ socket'.received := by
    intro i socket' found
    obtain ⟨socket, at_, rfl | rfl⟩ := getElem?_modify_cases found
    · exact ⟨socket, at_, phase socket, document socket, alive socket, received socket⟩
    · exact ⟨socket', at_, rfl, rfl, id, fun _ => id⟩
  have forth : ∀ (i : Nat) (socket : Socket), b.sockets[i]? = some socket →
      ∃ socket', (b.sockets.modify j f)[i]? = some socket' ∧ socket'.phase = socket.phase := by
    intro i socket found
    by_cases same : j = i
    · exact ⟨f socket, by simp [found, same], phase socket⟩
    · exact ⟨socket, by simp [found, same], rfl⟩
  exact
    { covered := by
        intro i socket' found alive' op mem other
        obtain ⟨socket, at_, samePhase, sameDocument, lives, keeps⟩ := back i socket' found
        rcases h.covered i socket at_ (lives alive') op mem other with old | covers | coming
        · exact Or.inl (keeps op old)
        · right
          left
          unfold Socket.covers at covers ⊢
          rw [samePhase, sameDocument]
          exact covers
        · obtain ⟨sender, position, dead, atS, sending, ahead⟩ := coming
          obtain ⟨sender', atS', same⟩ := forth _ sender atS
          exact Or.inr (Or.inr ⟨sender', position, dead, atS', same.trans sending, ahead⟩)
      present := by
        intro i socket' found alive'
        obtain ⟨socket, at_, -, -, lives, -⟩ := back i socket' found
        exact h.present i socket at_ (lives alive')
      known := by
        intro i mem
        rw [List.length_modify]
        exact h.known i mem
      gone := by
        intro i socket' op position dead found sending d mem
        obtain ⟨socket, at_, samePhase, -, -, -⟩ := back i socket' found
        obtain ⟨before, atD, lost⟩ := h.gone i socket op position dead at_
          (samePhase ▸ sending) d mem
        obtain ⟨after, atD', -⟩ := forth d before atD
        refine ⟨after, atD', ?_⟩
        obtain ⟨before', atD'', -, -, lives, -⟩ := back d after atD'
        obtain rfl := Option.some.inj (atD.symm.trans atD'')
        by_contra still
        simp [lives (by simpa using still)] at lost
      fresh := by
        intro i socket' op found storing
        obtain ⟨socket, at_, samePhase, -, -, -⟩ := back i socket' found
        exact h.fresh i socket op at_ (samePhase ▸ storing)
      apart := by
        intro i k first second op op' atI atK storing storing' other
        obtain ⟨socket, at_, samePhase, -, -, -⟩ := back i first atI
        obtain ⟨socket', at', samePhase', -, -, -⟩ := back k second atK
        exact h.apart i k socket socket' op op' at_ at' (samePhase ▸ storing)
          (samePhase' ▸ storing') other
      distinct := h.distinct }

/-- A broadcast passes a connection that has got the operation, or that is its own. -/
theorem Sound.pass (h : b.Sound encodes) {index position other : Nat} {socket : Socket}
    {op : BoardOp} {dead dead' : List Nat} (found : b.sockets[index]? = some socket)
    (sending : socket.phase = .broadcast op position dead)
    (here : b.connections[position]? = some other)
    (got : ∀ target, b.sockets[other]? = some target → target.alive = true → other ≠ index →
      op ∈ target.received)
    (gone : ∀ d ∈ dead', b.lost d) :
    (b.put index { socket with phase := .broadcast op (position + 1) dead' }).Sound encodes where
  covered := by
    have old : ∀ i target, b.sockets[i]? = some target → target.alive = true → ∀ op' ∈ b.ops,
        op'.sender ≠ i → b.coming i op' → op' ∈ target.received ∨
          (b.put index { socket with phase := .broadcast op (position + 1) dead' }).coming i op' := by
      intro i target atI alive op' mem apart coming
      by_cases own : op'.sender = index
      · obtain ⟨sender, position', dead'', atS, sending', ahead⟩ := coming
        rw [own] at atS
        obtain rfl := Option.some.inj (found.symm.trans atS)
        obtain ⟨rfl, rfl, rfl⟩ := SocketPhase.broadcast.inj (sending.symm.trans sending')
        by_cases now : i = other
        · subst now
          exact Or.inl (got target atI alive fun same => apart (own.trans same.symm))
        · refine Or.inr ⟨{ socket with phase := .broadcast op (position + 1) dead' },
            position + 1, dead', ?_, rfl, mem_drop_succ here ahead now⟩
          rw [own]
          exact getElem?_put_self found
      · exact Or.inr (coming_put own coming)
    intro i target atI alive op' mem apart
    rcases getElem?_set_cases atI with ⟨rfl, rfl⟩ | ⟨-, still⟩
    · rcases h.covered index socket found alive op' mem apart with got' | covers | coming
      · exact Or.inl got'
      · simp only [Socket.covers, sending] at covers
        exact Or.inr (Or.inl covers)
      · exact (old index socket found alive op' mem apart coming).imp id Or.inr
    · rcases h.covered i target still alive op' mem apart with got' | covers | coming
      · exact Or.inl got'
      · exact Or.inr (Or.inl covers)
      · exact (old i target still alive op' mem apart coming).imp id Or.inr
  present := by
    intro i target atI alive
    exact h.present_put found atI id alive
  known := by
    intro i mem
    rw [length_put]
    exact h.known i mem
  gone := by
    intro i target op' position' dead'' atI sending'
    apply h.gone_put found atI id _ sending'
    intro op position dead again
    obtain ⟨-, -, rfl⟩ := SocketPhase.broadcast.inj again
    exact gone
  fresh := by
    intro i target op' atI storing
    exact h.fresh i target op' (storing_put atI (by simp) storing) storing
  apart := by
    intro i j first second op' op'' atI atJ storing storing' different
    exact h.apart i j first second op' op'' (storing_put atI (by simp) storing)
      (storing_put atJ (by simp) storing') storing storing' different
  distinct := h.distinct

/-- An operation arrives, with the next number of the room. -/
theorem Sound.accept (h : b.Sound encodes) {index : Nat} {socket : Socket} {op : BoardOp}
    (found : b.sockets[index]? = some socket) (waiting : socket.phase = .receive)
    (sender : op.sender = index) (number : op.lamport = b.lamport + 1)
    (unused : ∀ stored ∈ b.ops, stored.lamport ≠ b.lamport + 1) :
    ({ b.put index { socket with phase := .persist op } with lamport := b.lamport + 1 } :
      Board).Sound encodes where
  covered := by
    have comes : ∀ i op', b.coming i op' →
        ({ b.put index { socket with phase := .persist op } with lamport := b.lamport + 1 } :
          Board).coming i op' := by
      intro i op' coming
      apply coming_put _ coming
      rintro rfl
      obtain ⟨sender, position, dead, at_, sending, -⟩ := coming
      obtain rfl := Option.some.inj (found.symm.trans at_)
      rw [waiting] at sending
      cases sending
    intro i other atI alive op' mem apart
    rcases getElem?_set_cases atI with ⟨rfl, rfl⟩ | ⟨-, still⟩
    · rcases h.covered index socket found alive op' mem apart with old | old | old
      · exact Or.inl old
      · simp only [Socket.covers, waiting] at old
        exact Or.inr (Or.inl old)
      · exact Or.inr (Or.inr (comes index op' old))
    · exact (h.covered i other still alive op' mem apart).imp id (Or.imp id (comes i op'))
  present := by
    intro i other atI alive
    exact h.present_put found atI id alive
  known := by
    intro i mem
    rw [length_put]
    exact h.known i mem
  gone := by
    intro i other op' position dead atI sending
    apply h.gone_put found atI id _ sending
    intro op position dead again
    cases again
  fresh := by
    intro i other op' atI storing
    rcases getElem?_set_cases atI with ⟨rfl, rfl⟩ | ⟨-, still⟩
    · obtain rfl := SocketPhase.persist.inj storing
      refine ⟨sender, Nat.le_of_eq number, fun stored mem same => ?_⟩
      exact unused stored mem (same.trans number)
    · obtain ⟨own, below, free⟩ := h.fresh i other op' still storing
      exact ⟨own, Nat.le_succ_of_le below, free⟩
  apart := by
    intro i j first second op' op'' atI atJ storing storing' different
    rcases getElem?_set_cases atI with ⟨rfl, rfl⟩ | ⟨otherI, stillI⟩
    · obtain rfl := SocketPhase.persist.inj storing
      rcases getElem?_set_cases atJ with ⟨same, -⟩ | ⟨-, stillJ⟩
      · exact absurd same different
      · have below := (h.fresh j second op'' stillJ storing').2.1
        omega
    · rcases getElem?_set_cases atJ with ⟨rfl, rfl⟩ | ⟨-, stillJ⟩
      · obtain rfl := SocketPhase.persist.inj storing'
        have below := (h.fresh i first op' stillI storing).2.1
        omega
      · exact h.apart i j first second op' op'' stillI stillJ storing storing' different
  distinct := h.distinct

/-- An operation is stored, or given up, and its broadcast begins. -/
theorem Sound.persist (h : b.Sound encodes) {index : Nat} {socket : Socket} {op : BoardOp}
    (found : b.sockets[index]? = some socket) (storing : socket.phase = .persist op)
    (stored : Bool) :
    ({ b.put index { socket with phase := .broadcast op 0 [] } with
        ops := if stored then b.ops ++ [op] else b.ops } : Board).Sound encodes := by
  obtain ⟨own, below, free⟩ := h.fresh index socket op found storing
  have either : ∀ op' ∈ (if stored then b.ops ++ [op] else b.ops), op' ∈ b.ops ∨ op' = op := by
    intro op' mem
    split at mem
    · rcases List.mem_append.1 mem with old | new
      · exact Or.inl old
      · exact Or.inr (List.mem_singleton.1 new)
    · exact Or.inl mem
  exact
    { covered := by
        have comes : ∀ i op', b.coming i op' → ({ b.put index
            { socket with phase := .broadcast op 0 [] } with
              ops := if stored then b.ops ++ [op] else b.ops } : Board).coming i op' := by
          intro i op' coming
          have apart : op'.sender ≠ index := by
            intro same
            obtain ⟨sender, position, dead, at_, sending, -⟩ := coming
            rw [same] at at_
            obtain rfl := Option.some.inj (found.symm.trans at_)
            rw [storing] at sending
            cases sending
          exact coming_put apart coming
        intro i other atI alive op' mem apart
        rcases either op' mem with old | rfl
        · rcases getElem?_set_cases atI with ⟨rfl, rfl⟩ | ⟨-, still⟩
          · rcases h.covered index socket found alive op' old apart with got | covers | coming
            · exact Or.inl got
            · simp only [Socket.covers, storing] at covers
              exact Or.inr (Or.inl covers)
            · exact Or.inr (Or.inr (comes index op' coming))
          · exact (h.covered i other still alive op' old apart).imp id (Or.imp id (comes i op'))
        · right
          right
          rcases getElem?_set_cases atI with ⟨rfl, -⟩ | ⟨-, still⟩
          · exact absurd own apart
          · refine ⟨{ socket with phase := .broadcast op' 0 [] }, 0, [], ?_, rfl, ?_⟩
            · rw [own]
              exact getElem?_put_self found
            · exact h.present i other still alive
      present := by
        intro i other atI alive
        exact h.present_put found atI id alive
      known := by
        intro i mem
        rw [length_put]
        exact h.known i mem
      gone := by
        intro i other op' position dead atI sending
        apply h.gone_put found atI id _ sending
        intro op position dead again
        obtain ⟨-, -, rfl⟩ := SocketPhase.broadcast.inj again
        intro d mem
        cases mem
      fresh := by
        intro i other op' atI storing'
        rcases getElem?_set_cases atI with ⟨rfl, rfl⟩ | ⟨apart, still⟩
        · cases storing'
        · obtain ⟨own', below', free'⟩ := h.fresh i other op' still storing'
          refine ⟨own', below', fun old mem => ?_⟩
          rcases either old mem with old | rfl
          · exact free' _ old
          · exact h.apart index i socket other _ op' found still storing storing' apart
      apart := by
        intro i j first second op' op'' atI atJ storing' storing'' different
        exact h.apart i j first second op' op'' (storing_put atI (by simp) storing')
          (storing_put atJ (by simp) storing'') storing' storing'' different
      distinct := by
        split
        · rw [List.map_append]
          apply List.Nodup.append h.distinct (List.nodup_singleton _)
          intro number mem new
          obtain ⟨old, inside, rfl⟩ := List.mem_map.1 mem
          exact free old inside (by simpa using new)
        · exact h.distinct }

theorem deliver_put {index other : Nat} {socket' : Socket} {op : BoardOp}
    (apart : other ≠ index) :
    (b.put index socket').deliver other op = (b.deliver other op).put index socket' := by
  have sockets : ∀ f : Socket → Socket, (b.sockets.set index socket').modify other f =
      (b.sockets.modify other f).set index socket' := by
    intro f
    apply List.ext_getElem?
    intro i
    by_cases same : index = i
    · subst same
      simp [List.getElem?_set, apart]
    · simp [List.getElem?_modify, same]
  simp only [put, deliver, sockets]

theorem lost_deliver {index other : Nat} {op : BoardOp} (gone : b.lost index) :
    (b.deliver other op).lost index := by
  obtain ⟨socket, at_, dead⟩ := gone
  by_cases same : other = index
  · refine ⟨{ socket with received := socket.received ++ [op] }, ?_, dead⟩
    simp [Board.deliver, at_, same]
  · refine ⟨socket, ?_, dead⟩
    simp [Board.deliver, at_, same]

/-- A connection that is not alive belongs to a socket. -/
theorem Sound.lost_of_not_alive (h : b.Sound encodes) {other : Nat}
    (mem : other ∈ b.connections) (dead : ¬ b.isAlive other = true) : b.lost other := by
  have found := List.getElem?_eq_getElem (h.known other mem)
  refine ⟨_, found, ?_⟩
  simpa [isAlive, found] using dead

theorem Sound.deliver (h : b.Sound encodes) (other : Nat) (op : BoardOp) :
    (b.deliver other op).Sound encodes := by
  apply h.modify other
  · exact fun _ => rfl
  · exact fun _ => rfl
  · exact fun _ => id
  · exact fun _ _ mem => List.mem_append_left _ mem

theorem Sound.broadcast (h : b.Sound encodes) {index position : Nat} {socket : Socket}
    {op : BoardOp} {dead : List Nat} {outside : SocketOutside}
    (found : b.sockets[index]? = some socket)
    (sending : socket.phase = .broadcast op position dead)
    (right : b.hydratesRight encodes (.advance index outside) = true) :
    (b.advance index outside socket).Sound encodes := by
  have gone := h.gone index socket op position dead found sending
  simp only [advance, sending]
  cases here : b.connections[position]? with
  | none =>
      refine h.turn found id (fun _ => id) ?_ ?_ nofun nofun ?_ ?_
      · intro alive op' mem covers
        simp only [Socket.covers, sending] at covers
        exact Or.inr (Or.inl covers)
      · intro op' position' dead' sending'
        obtain ⟨-, rfl, -⟩ := SocketPhase.broadcast.inj (sending.symm.trans sending')
        exact here
      · simp only [hydratesRight, found, Option.all_some, sending, here, Option.isNone_none,
          if_true] at right
        exact right
      · intro d mem
        refine lost_put found ?_ (gone d mem)
        exact id
  | some other =>
      dsimp only
      split
      · rename_i own
        exact h.pass found sending here (fun _ _ _ apart => absurd own apart) gone
      · rename_i apart
        split
        · rw [deliver_put apart]
          have delivered := h.deliver other op
          have found' : (b.deliver other op).sockets[index]? = some socket := by
            simp [Board.deliver, found, apart]
          refine delivered.pass found' sending here ?_ ?_
          · intro target atO _ _
            simp only [Board.deliver, List.getElem?_modify_eq, Option.map_eq_map] at atO
            obtain ⟨before, -, rfl⟩ := Option.map_eq_some_iff.1 atO
            exact List.mem_append_right _ List.mem_cons_self
          · intro d mem
            exact lost_deliver (gone d mem)
        · rename_i lost
          refine h.pass found sending here ?_ ?_
          · intro target atO alive _
            simp [isAlive, atO, alive] at lost
          · intro d mem
            rcases List.mem_append.1 mem with old | new
            · exact gone d old
            · obtain rfl := List.mem_singleton.1 new
              exact h.lost_of_not_alive (List.mem_of_getElem? here) lost

/-! ## Hydration -/

theorem Sound.querySnapshot (h : b.Sound encodes) {index : Nat} {socket : Socket}
    {outside : SocketOutside} (found : b.sockets[index]? = some socket)
    (asking : socket.phase = .snapshot)
    (right : b.hydratesRight encodes (.advance index outside) = true) :
    (b.advance index outside socket).Sound encodes := by
  simp only [hydratesRight, found, Option.all_some, asking, Bool.or_eq_true,
    Bool.not_eq_true', List.all_eq_true, Bool.and_eq_true] at right
  have brought : socket.alive = true → ∀ op ∈ b.ops, b.coming index op ∨
      outside.ok = true ∧ ∃ version, b.latestSnapshot = some version ∧
        (version < op.lamport ∨ encodes version op = true) := by
    intro alive op mem
    rcases right with dead | right
    · simp [alive] at dead
    · refine (right op mem).imp comes_iff.1 fun snapshot => ⟨snapshot.1, ?_⟩
      simpa [Option.any_eq_true] using snapshot.2
  simp only [advance, asking]
  split
  · rename_i version carried latest
    refine h.onward found id (fun _ => id) ?_ ?_ nofun nofun
    · intro alive op mem _
      right
      rcases brought alive op mem with coming | ⟨-, version', latest', covers⟩
      · exact Or.inr coming
      · obtain rfl := Option.some.inj (latest.symm.trans latest')
        exact Or.inl covers
    · simp [asking]
  · rename_i none
    refine h.onward found id (fun _ => id) ?_ ?_ nofun nofun
    · intro alive op mem _
      right
      rcases brought alive op mem with coming | ⟨carried, version, latest, -⟩
      · exact Or.inr coming
      · exact absurd latest (none version carried)
    · simp [asking]

/-- A read of the hydration fails only if every operation is still brought. -/
theorem coming_of_failed {index version : Nat} {socket : Socket} {outside : SocketOutside}
    (found : b.sockets[index]? = some socket)
    (reading : socket.phase = .document version ∨ socket.phase = .delta version)
    (right : b.hydratesRight encodes (.advance index outside) = true)
    (failed : ¬ outside.ok = true) (alive : socket.alive = true) :
    ∀ op ∈ b.ops, b.coming index op := by
  have brought : b.ops.all (b.comes index) = true := by
    rcases reading with reading | reading
    all_goals
      simpa only [hydratesRight, found, Option.all_some, reading, alive, failed, Bool.not_true,
        Bool.false_or] using right
  exact fun op mem => comes_iff.1 (List.all_eq_true.1 brought op mem)

theorem Sound.readDocument (h : b.Sound encodes) {index version : Nat} {socket : Socket}
    {outside : SocketOutside} (found : b.sockets[index]? = some socket)
    (reading : socket.phase = .document version)
    (right : b.hydratesRight encodes (.advance index outside) = true) :
    (b.advance index outside socket).Sound encodes := by
  simp only [advance, reading]
  refine h.onward found id (fun _ => id) ?_ ?_ ?_ ?_
  · intro alive op mem covers
    right
    split
    · simp only [Socket.covers, reading] at covers
      exact Or.inl covers
    · rename_i failed
      exact Or.inr (coming_of_failed found (Or.inl reading) right failed alive op mem)
  · simp [reading]
  · intro op position dead
    split <;> nofun
  · intro op
    split <;> nofun

theorem Sound.queryDelta (h : b.Sound encodes) {index version : Nat} {socket : Socket}
    {outside : SocketOutside} (found : b.sockets[index]? = some socket)
    (asking : socket.phase = .delta version)
    (right : b.hydratesRight encodes (.advance index outside) = true) :
    (b.advance index outside socket).Sound encodes := by
  simp only [advance, asking]
  refine h.onward found id (fun _ => id) ?_ ?_ ?_ ?_
  · intro alive op mem covers
    right
    split
    · left
      simp only [Socket.covers, asking] at covers
      rcases covers with later | encoded
      · exact Or.inl (mem_deltaOps.2 ⟨mem, later⟩)
      · exact Or.inr encoded
    · rename_i failed
      exact Or.inr (coming_of_failed found (Or.inr asking) right failed alive op mem)
  · simp [asking]
  · intro op position dead
    split <;> nofun
  · intro op
    split <;> nofun

theorem Sound.sendState (h : b.Sound encodes) {index version : Nat} {socket : Socket}
    {ops : List BoardOp} {outside : SocketOutside} (found : b.sockets[index]? = some socket)
    (sending : socket.phase = .send version ops) :
    (b.advance index outside socket).Sound encodes := by
  simp only [advance, sending]
  split
  · refine h.onward found id ?_ ?_ ?_ nofun nofun
    · exact fun op mem => List.mem_append_left _ mem
    · intro alive op mem covers
      simp only [Socket.covers, sending] at covers
      rcases covers with delta | encoded
      · exact Or.inl (List.mem_append_right _ delta)
      · exact Or.inr (Or.inl ⟨version, rfl, encoded⟩)
    · simp [sending]
  · rename_i lost
    refine h.onward found id (fun _ => id) ?_ ?_ nofun nofun
    · intro alive
      exact absurd alive lost
    · simp [sending]

/-- A frame arrives, or the socket leaves. -/
theorem Sound.receive (h : b.Sound encodes) {index : Nat} {socket : Socket}
    {outside : SocketOutside} (found : b.sockets[index]? = some socket)
    (waiting : socket.phase = .receive)
    (right : b.hydratesRight encodes (.advance index outside) = true) :
    (b.advance index outside socket).Sound encodes := by
  simp only [hydratesRight, found, Option.all_some, waiting] at right
  simp only [advance, waiting]
  split
  · rename_i opData alive frame
    simp only [alive, frame, Option.isSome_some, Bool.and_self, if_true] at right
    refine h.accept found waiting rfl rfl ?_
    intro stored mem
    exact of_decide_eq_true (List.all_eq_true.1 right stored mem)
  · rename_i leaves
    have undisturbed : b.undisturbed index [index] = true := by
      split at right
      · rename_i arrives
        obtain ⟨alive, some⟩ := Bool.and_eq_true_iff.1 arrives
        obtain ⟨opData, frame⟩ := Option.isSome_iff_exists.1 some
        exact absurd frame (leaves opData alive)
      · exact right
    have left : ({ b.put index { socket with phase := .closed, alive := false } with
        connections := [index].foldl List.erase b.connections } : Board).Sound encodes := by
      refine h.turn found nofun (fun _ => id) nofun ?_ nofun nofun undisturbed ?_
      · simp [waiting]
      · intro d mem
        obtain rfl := List.mem_singleton.1 mem
        exact ⟨_, getElem?_put_self found, rfl⟩
    exact left

theorem Sound.advance (h : b.Sound encodes) {index : Nat} {socket : Socket}
    {outside : SocketOutside} (found : b.sockets[index]? = some socket)
    (right : b.hydratesRight encodes (.advance index outside) = true) :
    (b.advance index outside socket).Sound encodes := by
  cases phase : socket.phase with
  | snapshot => exact h.querySnapshot found phase right
  | document version => exact h.readDocument found phase right
  | delta version => exact h.queryDelta found phase right
  | send version ops => exact h.sendState found phase
  | receive => exact h.receive found phase right
  | persist op =>
      have stored := h.persist found phase outside.ok
      simp only [Board.advance, phase]
      split
      · rename_i carried
        rw [carried] at stored
        exact stored
      · rename_i lost
        rw [Bool.eq_false_of_not_eq_true lost] at stored
        exact stored
  | broadcast op position dead => exact h.broadcast found phase right
  | closed =>
      simp only [Board.advance, phase]
      exact h

/-! ## Runs -/

/-- A new socket has its initial state ahead of it. -/
theorem Sound.join (h : b.Sound encodes) (profileId : Uuid) :
    (b.step (.join profileId)).Sound encodes where
  covered := by
    intro i socket found alive op mem other
    rcases getElem?_concat_cases found with old | ⟨rfl, rfl⟩
    · rcases h.covered i socket old alive op mem other with got | covers | coming
      · exact Or.inl got
      · exact Or.inr (Or.inl covers)
      · obtain ⟨sender, position, dead, atS, sending, ahead⟩ := coming
        have inside := (List.getElem?_eq_some_iff.1 atS).1
        exact Or.inr (Or.inr ⟨sender, position, dead,
          (List.getElem?_append_left inside).trans atS, sending, mem_drop_concat ahead⟩)
    · exact Or.inr (Or.inl trivial)
  present := by
    intro i socket found alive
    rcases getElem?_concat_cases found with old | ⟨rfl, rfl⟩
    · exact List.mem_append_left _ (h.present i socket old alive)
    · exact List.mem_append_right _ List.mem_cons_self
  known := by
    intro i mem
    have longer : (b.step (.join profileId)).sockets.length = b.sockets.length + 1 := by
      simp [step]
    rw [longer]
    rcases List.mem_append.1 mem with old | new
    · exact Nat.lt_succ_of_lt (h.known i old)
    · obtain rfl := List.mem_singleton.1 new
      exact Nat.lt_succ_self _
  gone := by
    intro i socket op position dead found sending d mem
    rcases getElem?_concat_cases found with old | ⟨-, rfl⟩
    · obtain ⟨lost, at_, deadD⟩ := h.gone i socket op position dead old sending d mem
      have inside := (List.getElem?_eq_some_iff.1 at_).1
      exact ⟨lost, (List.getElem?_append_left inside).trans at_, deadD⟩
    · cases sending
  fresh := by
    intro i socket op found storing
    rcases getElem?_concat_cases found with old | ⟨-, rfl⟩
    · exact h.fresh i socket op old storing
    · cases storing
  apart := by
    intro i j first second op op' atI atJ storing storing' other
    rcases getElem?_concat_cases atI with oldI | ⟨-, rfl⟩
    · rcases getElem?_concat_cases atJ with oldJ | ⟨-, rfl⟩
      · exact h.apart i j first second op op' oldI oldJ storing storing' other
      · cases storing'
    · cases storing
  distinct := h.distinct

/-- The process is lost, with its sockets and the counter. -/
theorem Sound.restart (h : b.Sound encodes) : (b.step .restart).Sound encodes := by
  have closed : ∀ (i : Nat) (socket : Socket), (b.step .restart).sockets[i]? = some socket →
      socket.alive = false ∧ socket.phase = .closed := by
    intro i socket found
    simp only [step, List.getElem?_map, Option.map_eq_some_iff] at found
    obtain ⟨before, -, rfl⟩ := found
    exact ⟨rfl, rfl⟩
  exact
    { covered := by
        intro i socket found alive
        rw [(closed i socket found).1] at alive
        cases alive
      present := by
        intro i socket found alive
        rw [(closed i socket found).1] at alive
        cases alive
      known := by
        intro i mem
        cases mem
      gone := by
        intro i socket op position dead found sending
        rw [(closed i socket found).2] at sending
        cases sending
      fresh := by
        intro i socket op found storing
        rw [(closed i socket found).2] at storing
        cases storing
      apart := by
        intro i j first second op op' atI atJ storing
        rw [(closed i first atI).2] at storing
        cases storing
      distinct := h.distinct }

/-- The snapshots are no part of what holds between two steps. -/
theorem Sound.withSnapshots (h : b.Sound encodes) (saving snapshots : List Nat) :
    ({ b with saving, snapshots } : Board).Sound encodes where
  covered := h.covered
  present := h.present
  known := h.known
  gone := h.gone
  fresh := h.fresh
  apart := h.apart
  distinct := h.distinct

theorem step_sound (h : b.Sound encodes) (event : BoardEvent)
    (right : b.hydratesRight encodes event = true) : (b.step event).Sound encodes := by
  cases event with
  | join profileId => exact h.join profileId
  | advance index outside =>
      simp only [step]
      split
      · rename_i socket found
        exact h.advance found right
      · exact h
  | drop index =>
      apply h.modify index
      · exact fun _ => rfl
      · exact fun _ => rfl
      · nofun
      · exact fun _ _ => id
  | beginSnapshot => exact h.withSnapshots (b.saving ++ [b.lamport]) b.snapshots
  | storeSnapshot index =>
      simp only [step]
      split
      · exact h.withSnapshots _ _
      · exact h
  | restart => exact h.restart

theorem whiteboard_hydrates {encodes : Nat → BoardOp → Bool} {events : List BoardEvent}
    (right : Guarded step (fun b event => b.hydratesRight encodes event = true) empty events) :
    (run events).Hydrates encodes := by
  have keeps : ∀ (b : Board) (event : BoardEvent), b.hydratesRight encodes event = true →
      b.Sound encodes → (b.step event).Sound encodes := by
    intro b event right h
    exact step_sound h event right
  have sound : (run events).Sound encodes :=
    runFrom_invariant_of_guarded keeps empty_sound right
  exact sound.hydrates

/-! ## Five boards -/

/-- A document that encodes every operation up to the version of its snapshot. -/
def upTo (version : Nat) (op : BoardOp) : Bool := decide (op.lamport ≤ version)

def anna : Uuid := ⟨"anna"⟩

def ben : Uuid := ⟨"ben"⟩

/-- The hydration of a socket. -/
def hydration (index : Nat) : List BoardEvent := List.replicate 4 (.advance index {})

/-- A frame of a socket, up to the end of its broadcast to `others` connections. -/
def frame (index : Nat) (opData : List UInt8) (others : Nat) : List BoardEvent :=
  .advance index { frame := some opData } :: List.replicate (others + 2) (.advance index {})

/-- Anna draws, the board is saved, and Ben joins. -/
def saved : List BoardEvent :=
  .join anna :: .advance 0 {} :: frame 0 [1] 1 ++ [.beginSnapshot, .storeSnapshot 0, .join ben] ++
    hydration 1 ++ frame 1 [2] 2

theorem saved_hydrates : (run saved).Hydrates upTo := whiteboard_hydrates (by decide +kernel)

/-- Ben joins before the first snapshot. -/
def unsaved : List BoardEvent :=
  .join anna :: .advance 0 {} :: frame 0 [1] 1 ++ [.join ben, .advance 1 {}]

/-- The process is restarted, and the next operation gets the number of the first. -/
def restarted : List BoardEvent :=
  .join anna :: .advance 0 {} :: frame 0 [1] 1 ++
    [.restart, .join ben, .advance 1 {}] ++ frame 1 [2] 1

/-- Anna leaves when Ben's broadcast has passed her, and it skips the third socket. -/
def skipped : List BoardEvent :=
  [.join anna, .advance 0 {}, .join ben, .advance 1 {}, .join ⟨"cleo"⟩, .advance 2 {},
    .advance 1 { frame := some [1] }] ++ List.replicate 3 (.advance 1 {}) ++
    [.advance 0 {}, .advance 1 {}]

/-- The operation is stored and sent to nobody any more, and the socket has not got it. -/
def misses (b : Board) (index : Nat) (op : BoardOp) : Bool :=
  b.ops.contains op && op.sender != index &&
    b.sockets[op.sender]?.any (fun sender => sender.phase = .receive) &&
    b.sockets[index]?.any fun socket =>
      socket.hydrated && !socket.received.contains op && socket.document.isNone

theorem Hydrates.not_misses (h : b.Hydrates encodes) (index : Nat) (op : BoardOp) :
    b.misses index op = false := by
  by_contra misses
  simp only [Board.misses, Bool.not_eq_false, Bool.and_eq_true, Option.any_eq_true,
    List.contains_iff_mem, bne_iff_ne, Bool.not_eq_true', decide_eq_true_eq,
    Option.isNone_iff_eq_none] at misses
  obtain ⟨⟨⟨mem, other⟩, sender, atS, waiting⟩, socket, found, ⟨hydrated, unseen⟩, none⟩ := misses
  have finished : ¬ b.underway op := by
    rintro ⟨sender', position, dead, atS', sending⟩
    obtain rfl := Option.some.inj (atS.symm.trans atS')
    rw [waiting] at sending
    cases sending
  rcases h.complete index socket found hydrated op mem other finished with got | ⟨version, some, -⟩
  · simp [got] at unseen
  · rw [none] at some
    cases some

/-- Ben gets nothing of Anna's drawing, two operations have one number, and a socket misses
an operation. -/
theorem not_hydrated :
    ¬ (run unsaved).Hydrates upTo ∧ ¬ (run restarted).Hydrates upTo ∧
      ¬ (run skipped).Hydrates upTo := by
  refine ⟨fun h => ?_, fun h => ?_, fun h => ?_⟩
  · have got := h.not_misses 1 ⟨⟨1, anna, [1]⟩, 0⟩
    exact absurd got (by decide +kernel)
  · exact absurd h.distinct (by decide +kernel)
  · have got := h.not_misses 2 ⟨⟨1, ben, [1]⟩, 1⟩
    exact absurd got (by decide +kernel)

end Board

end ColabPlatform.Collabs
