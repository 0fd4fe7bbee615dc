import Mathlib.Data.List.Basic
import Mathlib.Data.List.TakeWhile

/-!
# Transaction blocks that fail as a whole

Once a statement of the block has raised, every later one raises too, and the
commit at its end discards what the block did.  Catching the exception of one
statement does not change that.
-/

namespace ColabPlatform.Foundation

variable {σ ε κ : Type*}

structure Block (σ : Type*) where
  committed : σ
  working : σ
  failed : Bool

namespace Block

def start (s : σ) : Block σ := ⟨s, s, false⟩

/-- One statement; `aborted` is what it raises in a failed block. -/
def execute (aborted : ε) (b : Block σ) (statement : σ → Except ε σ) :
    Except ε Unit × Block σ :=
  if b.failed then (.error aborted, b)
  else match statement b.working with
    | .ok s => (.ok (), { b with working := s })
    | .error e => (.error e, { b with failed := true })

/-- Statements one after the other, up to the first that raises. -/
def script (aborted : ε) (b : Block σ) : List (σ → Except ε σ) → Except ε Unit × Block σ
  | [] => (.ok (), b)
  | statement :: rest =>
      match b.execute aborted statement with
      | (.ok _, b') => script aborted b' rest
      | (.error e, b') => (.error e, b')

/-- Named scripts, each in a `try … except` of its own, with the outcome of each. -/
def attempts (aborted : ε) (b : Block σ) :
    List (κ × List (σ → Except ε σ)) → List (κ × Except ε Unit) × Block σ
  | [] => ([], b)
  | (name, statements) :: rest =>
      let (outcome, b') := b.script aborted statements
      let (outcomes, b'') := attempts aborted b' rest
      ((name, outcome) :: outcomes, b'')

/-- The commit of a failed block is a rollback. -/
def commit (b : Block σ) : σ := if b.failed then b.committed else b.working

/-- What statements that do not raise make of a state. -/
def effect (statements : List (σ → Except ε σ)) (s : σ) : Except ε σ :=
  statements.foldlM (fun s statement => statement s) s

theorem script_of_failed {aborted : ε} {b : Block σ} (failed : b.failed = true)
    (statement : σ → Except ε σ) (rest : List (σ → Except ε σ)) :
    b.script aborted (statement :: rest) = (.error aborted, b) := by
  simp [script, execute, failed]

theorem script_of_ok {aborted : ε} {b : Block σ} (live : b.failed = false)
    {statements : List (σ → Except ε σ)} {s : σ} (done : effect statements b.working = .ok s) :
    b.script aborted statements = (.ok (), { b with working := s }) := by
  induction statements generalizing b with
  | nil =>
      cases done
      rfl
  | cons statement rest ih =>
      unfold effect at done
      rw [List.foldlM_cons] at done
      cases first : statement b.working with
      | error e =>
          rw [first] at done
          cases done
      | ok middle =>
          rw [first] at done
          have later := @ih { b with working := middle } live done
          simpa [script, execute, live, first] using later

theorem script_of_error {aborted : ε} {b : Block σ} (live : b.failed = false)
    {statements : List (σ → Except ε σ)} {e : ε} (raised : effect statements b.working = .error e) :
    (b.script aborted statements).1 = .error e ∧
      (b.script aborted statements).2.failed = true ∧
      (b.script aborted statements).2.committed = b.committed := by
  induction statements generalizing b with
  | nil => cases raised
  | cons statement rest ih =>
      unfold effect at raised
      rw [List.foldlM_cons] at raised
      cases first : statement b.working with
      | error e' =>
          rw [first] at raised
          cases raised
          simp [script, execute, live, first]
      | ok middle =>
          rw [first] at raised
          have later := @ih { b with working := middle } live raised
          simpa [script, execute, live, first] using later

/-- In a failed block every script that has a statement raises. -/
theorem attempts_of_failed {aborted : ε} {b : Block σ} (failed : b.failed = true)
    {scripts : List (κ × List (σ → Except ε σ))} (statements : ∀ s ∈ scripts, s.2 ≠ []) :
    b.attempts aborted scripts = (scripts.map fun s => (s.1, .error aborted), b) := by
  induction scripts with
  | nil => rfl
  | cons first rest ih =>
      obtain ⟨name, script⟩ := first
      rw [List.forall_mem_cons] at statements
      obtain ⟨statement, later, rfl⟩ := List.exists_cons_of_ne_nil statements.1
      simp [attempts, script_of_failed failed, ih statements.2]

end Block

/-- What an initial part of a list is, when nothing after the first failure succeeds. -/
theorem mem_takeWhile_iff {p : κ → Bool} {l : List κ} (ordered : l.Pairwise fun a b => p b → p a)
    {a : κ} (mem : a ∈ l) : a ∈ l.takeWhile p ↔ p a = true := by
  induction l with
  | nil => cases mem
  | cons first rest ih =>
      rw [List.pairwise_cons] at ordered
      by_cases holds : p first = true
      · rw [List.takeWhile_cons_of_pos holds, List.mem_cons]
        rcases List.mem_cons.1 mem with rfl | later
        · simp [holds]
        · rw [ih ordered.2 later]
          constructor
          · rintro (rfl | here)
            · exact holds
            · exact here
          · exact Or.inr
      · rw [List.takeWhile_cons_of_neg holds]
        rcases List.mem_cons.1 mem with rfl | later
        · simp [holds]
        · have fails : ¬ p a = true := fun now => holds (ordered.1 a later now)
          simp [fails]

/-- If exactly the elements with `q` are in the initial part, then those come first. -/
theorem pairwise_of_mem_takeWhile {p : κ → Bool} {q : κ → Prop} {l : List κ} (nodup : l.Nodup)
    (same : ∀ a ∈ l, a ∈ l.takeWhile p ↔ q a) : l.Pairwise fun a b => q b → q a := by
  induction l with
  | nil => exact .nil
  | cons first rest ih =>
      rw [List.nodup_cons] at nodup
      rw [List.pairwise_cons]
      by_cases holds : p first = true
      · rw [List.takeWhile_cons_of_pos holds] at same
        refine ⟨fun _ _ _ => (same first List.mem_cons_self).1 List.mem_cons_self,
          ih nodup.2 fun a mem => ?_⟩
        have other : a ≠ first := fun eq => nodup.1 (eq ▸ mem)
        rw [← same a (List.mem_cons_of_mem _ mem), List.mem_cons, or_iff_right other]
      · rw [List.takeWhile_cons_of_neg holds] at same
        have none_holds : ∀ a ∈ first :: rest, ¬ q a := fun a mem now => by
          have here := (same a mem).2 now
          cases here
        refine ⟨fun a mem now => absurd now (none_holds a (List.mem_cons_of_mem _ mem)), ?_⟩
        apply List.Pairwise.imp_of_mem (R := fun _ _ => True)
        · intro a b _ memB _ now
          exact absurd now (none_holds b (List.mem_cons_of_mem _ memB))
        · exact List.pairwise_of_forall fun _ _ => trivial

end ColabPlatform.Foundation
