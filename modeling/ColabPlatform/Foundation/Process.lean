import Mathlib.Logic.Basic

/-!
# Programs that call operations

A program is the tree of the operations it calls: at a call it stops, and goes
on with the reply.  So many programs can be under way at once, each between two
of its calls.  What a program does to the part of the world that it owns is
reasoned about with a contract: what must hold at the call of an operation, and
how the call may answer and change the part.
-/

namespace ColabPlatform.Foundation

inductive Process {Op : Type} (Reply : Op → Type) (ε α : Type) where
  | done (result : Except ε α)
  | call (op : Op) (next : Reply op → Process Reply ε α)

namespace Process

variable {Op : Type} {Reply : Op → Type} {ε α β : Type}

/-- The program that calls one operation and returns its reply. -/
def perform (op : Op) : Process Reply ε (Reply op) := .call op fun reply => .done (.ok reply)

/-- Go on with the result of a program, be it a value or an error. -/
def followed : Process Reply ε α → (Except ε α → Process Reply ε β) → Process Reply ε β
  | .done result, next => next result
  | .call op rest, next => .call op fun reply => (rest reply).followed next

instance : Monad (Process Reply ε) where
  pure value := .done (.ok value)
  bind program next := program.followed fun
    | .ok value => next value
    | .error error => .done (.error error)

instance : MonadExceptOf ε (Process Reply ε) where
  throw error := .done (.error error)
  tryCatch program handler := program.followed fun
    | .ok value => .done (.ok value)
    | .error error => handler error

/-- The result of the program and the operations it calls, if they answer as given. -/
def run (answer : (op : Op) → Reply op) : Process Reply ε α → Except ε α × List Op
  | .done result => (result, [])
  | .call op next =>
      let (result, ops) := (next (answer op)).run answer
      (result, op :: ops)

/-- Whether the program has calls left. -/
def active : Process Reply ε α → Bool
  | .done _ => false
  | .call .. => true

/-- The result of the program and the state it leaves, where its operations answer and change
the state as given. -/
def runOn {σ : Type} (perform : (op : Op) → σ → Reply op × σ) :
    Process Reply ε α → σ → Except ε α × σ
  | .done result, s => (result, s)
  | .call op next, s => (next (perform op s).1).runOn perform (perform op s).2

section RunOn

variable {σ : Type} {answers : (op : Op) → σ → Reply op × σ} {s : σ}

@[simp] theorem runOn_pure {value : α} :
    (pure value : Process Reply ε α).runOn answers s = (.ok value, s) := rfl

@[simp] theorem runOn_throw {error : ε} :
    (throw error : Process Reply ε α).runOn answers s = (.error error, s) := rfl

@[simp] theorem runOn_perform {op : Op} :
    (perform op : Process Reply ε (Reply op)).runOn answers s =
      (.ok (answers op s).1, (answers op s).2) := rfl

theorem runOn_followed {program : Process Reply ε α} {next : Except ε α → Process Reply ε β} :
    (program.followed next).runOn answers s =
      (next (program.runOn answers s).1).runOn answers (program.runOn answers s).2 := by
  induction program generalizing s with
  | done result => rfl
  | call op rest ih => exact ih _

@[simp] theorem runOn_bind {program : Process Reply ε α} {next : α → Process Reply ε β} :
    (program >>= next).runOn answers s =
      match program.runOn answers s with
      | (.ok value, s') => (next value).runOn answers s'
      | (.error error, s') => (.error error, s') := by
  have unfolded : (program >>= next) = program.followed fun
      | .ok value => next value
      | .error error => .done (.error error) := rfl
  rw [unfolded, runOn_followed]
  cases program.runOn answers s with
  | mk result s' => cases result <;> rfl

/-- What every operation keeps is kept by a program. -/
theorem runOn_invariant {inv : σ → Prop} (keeps : ∀ op s, inv s → inv (answers op s).2)
    (program : Process Reply ε α) (start : inv s) : inv (program.runOn answers s).2 := by
  induction program generalizing s with
  | done result => exact start
  | call op next ih => exact ih _ (keeps op s start)

end RunOn

end Process

/-! ## Contracts -/

structure Contract {Op : Type} (Reply : Op → Type) (σ : Type) where
  pre : Op → σ → Prop
  post : (op : Op) → σ → Reply op → σ → Prop

namespace Process

variable {Op : Type} {Reply : Op → Type} {ε α β σ : Type}

/--
Every call of the program meets its precondition, and the program ends in a
result and a state that meet `post`, whatever the operations answer.
-/
def Ensures (contract : Contract Reply σ) (post : Except ε α → σ → Prop) :
    Process Reply ε α → σ → Prop
  | .done result, s => post result s
  | .call op next, s =>
      contract.pre op s ∧
        ∀ reply s', contract.post op s reply s' → Ensures contract post (next reply) s'

variable {contract : Contract Reply σ} {s : σ}

@[simp] theorem ensures_done {post : Except ε α → σ → Prop} {result : Except ε α} :
    Ensures contract post (.done result : Process Reply ε α) s ↔ post result s := Iff.rfl

@[simp] theorem ensures_call {post : Except ε α → σ → Prop} {op : Op}
    {next : Reply op → Process Reply ε α} :
    Ensures contract post (.call op next) s ↔
      contract.pre op s ∧
        ∀ reply s', contract.post op s reply s' → Ensures contract post (next reply) s' :=
  Iff.rfl

@[simp] theorem ensures_perform {post : Except ε (Reply op) → σ → Prop} :
    Ensures contract post (perform op) s ↔
      contract.pre op s ∧
        ∀ reply s', contract.post op s reply s' → post (.ok reply) s' := Iff.rfl

@[simp] theorem ensures_pure {post : Except ε α → σ → Prop} {value : α} :
    Ensures contract post (pure value : Process Reply ε α) s ↔ post (.ok value) s := Iff.rfl

@[simp] theorem ensures_throw {post : Except ε α → σ → Prop} {error : ε} :
    Ensures contract post (throw error : Process Reply ε α) s ↔ post (.error error) s :=
  Iff.rfl

theorem ensures_followed {post : Except ε β → σ → Prop} {program : Process Reply ε α}
    {next : Except ε α → Process Reply ε β} :
    Ensures contract post (program.followed next) s ↔
      Ensures contract (fun result s' => Ensures contract post (next result) s') program s := by
  induction program generalizing s with
  | done result => exact Iff.rfl
  | call op rest ih => simp only [followed, ensures_call, ih]

@[simp] theorem ensures_bind {post : Except ε β → σ → Prop} {program : Process Reply ε α}
    {next : α → Process Reply ε β} :
    Ensures contract post (program >>= next) s ↔
      Ensures contract (fun result s' => match result with
        | .ok value => Ensures contract post (next value) s'
        | .error error => post (.error error) s') program s := by
  have unfolded : (program >>= next) = program.followed fun
      | .ok value => next value
      | .error error => .done (.error error) := rfl
  rw [unfolded, ensures_followed]
  refine iff_of_eq (congrArg (fun goal => Ensures contract goal program s) ?_)
  funext result s'
  cases result <;> rfl

@[simp] theorem ensures_tryCatch {post : Except ε α → σ → Prop} {program : Process Reply ε α}
    {handler : ε → Process Reply ε α} :
    Ensures contract post (tryCatch program handler) s ↔
      Ensures contract (fun result s' => match result with
        | .ok value => post (.ok value) s'
        | .error error => Ensures contract post (handler error) s') program s := by
  have unfolded : (tryCatch program handler) = program.followed fun
      | .ok value => .done (.ok value)
      | .error error => handler error := rfl
  rw [unfolded, ensures_followed]
  refine iff_of_eq (congrArg (fun goal => Ensures contract goal program s) ?_)
  funext result s'
  cases result <;> rfl

theorem ensures_perform_bind {post : Except ε β → σ → Prop} {op : Op}
    {next : Reply op → Process Reply ε β} :
    Ensures contract post (perform op >>= next) s ↔
      contract.pre op s ∧
        ∀ reply s', contract.post op s reply s' → Ensures contract post (next reply) s' := by
  rw [ensures_bind]
  exact Iff.rfl

theorem Ensures.mono {post post' : Except ε α → σ → Prop} {program : Process Reply ε α}
    (h : Ensures contract post program s) (weaker : ∀ result s, post result s → post' result s) :
    Ensures contract post' program s := by
  induction program generalizing s with
  | done result => exact weaker result s h
  | call op rest ih => exact ⟨h.1, fun reply s' answered => ih reply (h.2 reply s' answered)⟩

/-- A program ends as its contract says when it is followed by another. -/
theorem Ensures.bind {middle : α → σ → Prop} {failed : ε → σ → Prop}
    {post : Except ε β → σ → Prop} {program : Process Reply ε α}
    {next : α → Process Reply ε β}
    (first : Ensures contract (fun result s' => match result with
      | .ok value => middle value s'
      | .error error => failed error s') program s)
    (rest : ∀ value s', middle value s' → Ensures contract post (next value) s')
    (raised : ∀ error s', failed error s' → post (.error error) s') :
    Ensures contract post (program >>= next) s := by
  rw [ensures_bind]
  refine first.mono fun result s' h => ?_
  cases result with
  | ok value => exact rest value s' h
  | error error => exact raised error s' h

/-- Any program may be run where every operation may be called. -/
theorem ensures_true (free : ∀ op s, contract.pre op s) (program : Process Reply ε α) (s : σ) :
    Ensures contract (fun _ _ => True) program s := by
  induction program generalizing s with
  | done result => trivial
  | call op next ih => exact ⟨free op s, fun reply s' _ => ih reply s'⟩

/-! ## Programs that use some operations only -/

/-- Every operation that the program may call is allowed. -/
def Uses (allowed : Op → Prop) : Process Reply ε α → Prop
  | .done _ => True
  | .call op next => allowed op ∧ ∀ reply, Uses allowed (next reply)

variable {allowed : Op → Prop}

@[simp] theorem uses_pure {value : α} : Uses allowed (pure value : Process Reply ε α) := trivial

@[simp] theorem uses_throw {error : ε} : Uses allowed (throw error : Process Reply ε α) := trivial

@[simp] theorem uses_perform {op : Op} :
    Uses allowed (perform op : Process Reply ε (Reply op)) ↔ allowed op := by
  simp [perform, Uses]

theorem uses_followed {program : Process Reply ε α} {next : Except ε α → Process Reply ε β}
    (first : program.Uses allowed) (rest : ∀ result, (next result).Uses allowed) :
    (program.followed next).Uses allowed := by
  induction program with
  | done result => exact rest result
  | call op after ih => exact ⟨first.1, fun reply => ih reply (first.2 reply)⟩

theorem uses_bind {program : Process Reply ε α} {next : α → Process Reply ε β}
    (first : program.Uses allowed) (rest : ∀ value, (next value).Uses allowed) :
    (program >>= next).Uses allowed :=
  uses_followed first fun result => match result with
    | .ok value => rest value
    | .error _ => trivial

theorem uses_tryCatch {program : Process Reply ε α} {handler : ε → Process Reply ε α}
    (first : program.Uses allowed) (rest : ∀ error, (handler error).Uses allowed) :
    (tryCatch program handler).Uses allowed :=
  uses_followed first fun result => match result with
    | .ok _ => trivial
    | .error error => rest error

theorem Uses.mono {allowed' : Op → Prop} {program : Process Reply ε α}
    (uses : program.Uses allowed) (wider : ∀ op, allowed op → allowed' op) :
    program.Uses allowed' := by
  induction program with
  | done result => trivial
  | call op next ih => exact ⟨wider op uses.1, fun reply => ih reply (uses.2 reply)⟩

/-- A program may be run in any state if the operations that it uses may be called in any. -/
theorem Uses.safe {program : Process Reply ε α} (uses : program.Uses allowed)
    (free : ∀ op s, allowed op → contract.pre op s) (s : σ) :
    Ensures contract (fun _ _ => True) program s := by
  induction program generalizing s with
  | done result => trivial
  | call op next ih => exact ⟨free op s uses.1, fun reply s' _ => ih reply (uses.2 reply) s'⟩

/-- A program whose operations leave the state alone ends in it, with any result. -/
theorem Uses.ensures {post : Except ε α → σ → Prop} {program : Process Reply ε α}
    (uses : program.Uses allowed) (free : ∀ op, allowed op → contract.pre op s)
    (still : ∀ op reply s', allowed op → contract.post op s reply s' → s' = s)
    (all : ∀ result, post result s) : Ensures contract post program s := by
  induction program with
  | done result => exact all result
  | call op next ih =>
      refine ⟨free op uses.1, fun reply s' answered => ?_⟩
      obtain rfl := still op reply s' uses.1 answered
      exact ih reply (uses.2 reply)

end Process

end ColabPlatform.Foundation
