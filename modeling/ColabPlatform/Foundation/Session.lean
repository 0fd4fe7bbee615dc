import Mathlib.Data.List.Basic

/-!
# Programs over a database session

An asynchronous ORM session keeps uncommitted work apart from the committed
database.  A session opened inside a transaction block is `inBlock`: once it is
committed or rolled back by hand, every later statement on it raises.  A
session that was not opened so begins a new transaction by itself.

Programs are state passing computations that may raise.  The file gives the
statements, what they evaluate to, and how a program is run on a session of its
own.
-/

namespace ColabPlatform.Foundation

/-- What the database driver and the ORM raise. -/
inductive DbError where
  | integrity
  | data
  | closedTransaction
  | noResultFound
  | multipleResultsFound
  | missingGreenlet
  deriving DecidableEq, Repr

/-- An exception: one of the database's, or one of the application's own. -/
inductive Raised (ε : Type) where
  | db (error : DbError)
  | app (error : ε)
  deriving DecidableEq, Repr

/--
`rollbacks` counts the rollbacks so far.  An instance that was loaded before a
rollback has expired attributes after it.
-/
structure Session (σ : Type) where
  committed : σ
  working : σ
  inBlock : Bool
  closed : Bool
  rollbacks : Nat
  deriving DecidableEq, Repr

namespace Session

variable {σ : Type}

/-- A session at the start of its first transaction. -/
def start (inBlock : Bool) (db : σ) : Session σ := ⟨db, db, inBlock, false, 0⟩

def rolledBack (s : Session σ) : Session σ :=
  { s with
    working := s.committed
    closed := s.closed || s.inBlock
    rollbacks := s.rollbacks + 1 }

@[simp] theorem committed_start (inBlock : Bool) (db : σ) :
    (start inBlock db).committed = db := rfl

@[simp] theorem working_start (inBlock : Bool) (db : σ) :
    (start inBlock db).working = db := rfl

@[simp] theorem closed_start (inBlock : Bool) (db : σ) :
    (start inBlock db).closed = false := rfl

@[simp] theorem inBlock_start (inBlock : Bool) (db : σ) :
    (start inBlock db).inBlock = inBlock := rfl

@[simp] theorem rollbacks_start (inBlock : Bool) (db : σ) :
    (start inBlock db).rollbacks = 0 := rfl

@[simp] theorem committed_rolledBack (s : Session σ) :
    s.rolledBack.committed = s.committed := rfl

@[simp] theorem working_rolledBack (s : Session σ) :
    s.rolledBack.working = s.committed := rfl

@[simp] theorem closed_rolledBack (s : Session σ) :
    s.rolledBack.closed = (s.closed || s.inBlock) := rfl

@[simp] theorem inBlock_rolledBack (s : Session σ) :
    s.rolledBack.inBlock = s.inBlock := rfl

@[simp] theorem rollbacks_rolledBack (s : Session σ) :
    s.rolledBack.rollbacks = s.rollbacks + 1 := rfl

end Session

abbrev Program (ε σ α : Type) := EStateM (Raised ε) (Session σ) α

namespace Program

variable {ε σ α β ρ : Type}

/-! ## Statements -/

/-- A statement that reads the transaction's view of the database. -/
def query (read : σ → α) : Program ε σ α := fun s =>
  if s.closed then .error (.db .closedTransaction) s
  else .ok (read s.working) s

/-- A statement that changes it, or raises and changes nothing. -/
def write (change : σ → Except DbError σ) : Program ε σ Unit := fun s =>
  if s.closed then .error (.db .closedTransaction) s
  else match change s.working with
    | .ok db => .ok () { s with working := db }
    | .error e => .error (.db e) s

/--
A flush inside `try … except IntegrityError`: `false` when a constraint is
violated, in which case every caller rolls back next.  Other errors are raised.
-/
def tryWrite (change : σ → Except DbError σ) : Program ε σ Bool := fun s =>
  if s.closed then .error (.db .closedTransaction) s
  else match change s.working with
    | .ok db => .ok true { s with working := db }
    | .error .integrity => .ok false s
    | .error e => .error (.db e) s

@[simp] theorem run_map (f : α → β) (p : Program ε σ α) (s : Session σ) :
    (f <$> p).run s = match p.run s with
      | .ok a s' => .ok (f a) s'
      | .error e s' => .error e s' := by
  change (EStateM.map f p) s = _
  simp only [EStateM.map, EStateM.run]
  cases p s <;> rfl

@[simp] theorem run_query (read : σ → α) (s : Session σ) :
    (query read : Program ε σ α).run s =
      if s.closed then .error (.db .closedTransaction) s
      else .ok (read s.working) s := rfl

@[simp] theorem run_write (change : σ → Except DbError σ) (s : Session σ) :
    (write change : Program ε σ Unit).run s =
      if s.closed then .error (.db .closedTransaction) s
      else match change s.working with
        | .ok db => .ok () { s with working := db }
        | .error e => .error (.db e) s := rfl

@[simp] theorem run_tryWrite (change : σ → Except DbError σ) (s : Session σ) :
    (tryWrite change : Program ε σ Bool).run s =
      if s.closed then .error (.db .closedTransaction) s
      else match change s.working with
        | .ok db => .ok true { s with working := db }
        | .error .integrity => .ok false s
        | .error e => .error (.db e) s := rfl

def rollback : Program ε σ Unit := fun s => .ok () s.rolledBack

def commit : Program ε σ Unit := fun s =>
  if s.closed then .error (.db .closedTransaction) s
  else .ok () { s with committed := s.working, closed := s.inBlock }

def raise (e : ε) : Program ε σ α := fun s => .error (.app e) s

/-- `Result.scalar_one`: the row, or `NoResultFound`. -/
def scalarOne (row : Option α) : Program ε σ α := fun s =>
  match row with
  | some a => .ok a s
  | none => .error (.db .noResultFound) s

@[simp] theorem run_rollback (s : Session σ) :
    (rollback : Program ε σ Unit).run s = .ok () s.rolledBack := rfl

@[simp] theorem run_commit (s : Session σ) :
    (commit : Program ε σ Unit).run s =
      if s.closed then .error (.db .closedTransaction) s
      else .ok () { s with committed := s.working, closed := s.inBlock } := rfl

@[simp] theorem run_raise (e : ε) (s : Session σ) :
    (raise e : Program ε σ α).run s = .error (.app e) s := rfl

@[simp] theorem run_scalarOne_some (a : α) (s : Session σ) :
    (scalarOne (some a) : Program ε σ α).run s = .ok a s := rfl

@[simp] theorem run_scalarOne_none (s : Session σ) :
    (scalarOne none : Program ε σ α).run s =
      .error (.db .noResultFound) s := rfl

/-- What a program raises is caught in the session that it leaves. -/
theorem run_tryCatch (p : Program ε σ α) (handler : Raised ε → Program ε σ α) (s : Session σ) :
    (tryCatch p handler).run s = match p.run s with
      | .ok a s' => .ok a s'
      | .error e s' => (handler e).run s' := by
  change (EStateM.tryCatch p handler) s = _
  simp only [EStateM.tryCatch, EStateM.run]
  cases p s <;> rfl

/-- `Result.scalar_one_or_none` -/
def scalarOneOrNone (rows : List α) : Program ε σ (Option α) := fun s =>
  match rows with
  | [] => .ok none s
  | [a] => .ok (some a) s
  | _ => .error (.db .multipleResultsFound) s

/-! ## Instances -/

/-- A mapped object; `added` when the current transaction inserts its row. -/
structure Instance (ρ : Type) where
  row : ρ
  loadedAt : Nat
  added : Bool

def load (row : ρ) (added : Bool) : Program ε σ (Instance ρ) := fun s =>
  .ok ⟨row, s.rollbacks, added⟩ s

/--
Reading an attribute.  A rollback expires the attributes of the persistent
instances, and the refresh is not allowed outside an awaited call; an instance
that the rolled back transaction had added is transient again and keeps its.
-/
def readAttr (object : Instance ρ) (read : ρ → α) : Program ε σ α := fun s =>
  if object.added || object.loadedAt == s.rollbacks then
    .ok (read object.row) s
  else .error (.db .missingGreenlet) s

@[simp] theorem run_scalarOneOrNone_nil (s : Session σ) :
    (scalarOneOrNone [] : Program ε σ (Option α)).run s = .ok none s := rfl

@[simp] theorem run_scalarOneOrNone_singleton (a : α) (s : Session σ) :
    (scalarOneOrNone [a] : Program ε σ (Option α)).run s = .ok (some a) s := rfl

@[simp] theorem run_load (row : ρ) (added : Bool) (s : Session σ) :
    (load row added : Program ε σ (Instance ρ)).run s =
      .ok ⟨row, s.rollbacks, added⟩ s := rfl

@[simp] theorem run_readAttr (object : Instance ρ) (read : ρ → α)
    (s : Session σ) :
    (readAttr object read : Program ε σ α).run s =
      if object.added || object.loadedAt == s.rollbacks then
        .ok (read object.row) s
      else .error (.db .missingGreenlet) s := rfl

/-! ## Transactions -/

/--
Run a program on a session of its own: the pending work is committed on a
normal return and discarded when the program raises.
-/
def atomically (inBlock : Bool) (p : Program ε σ α) (db : σ) :
    Except (Raised ε) α × σ :=
  match p.run (Session.start inBlock db) with
  | .ok a s => (.ok a, s.working)
  | .error e s => (.error e, s.committed)

/-- What a program that commits by hand has committed when it ends. -/
def committedBy (inBlock : Bool) (p : Program ε σ α) (db : σ) : σ :=
  match p.run (Session.start inBlock db) with
  | .ok _ s => s.committed
  | .error _ s => s.committed

end Program

end ColabPlatform.Foundation
