import Mathlib.Data.List.Basic
import Mathlib.Logic.Function.Basic

/-!
# Runs of a state machine

A machine is a total function from a state and an event to the next state; an
event that is not enabled leaves the state as it is.  A run is a finite list
of events.  The two induction rules of this file are the only inductions over
runs that the rest of the development needs.
-/

namespace ColabPlatform.Foundation

universe u v

variable {σ : Type u} {ε : Type v}

/-- The state reached from `s` by the events of a run, first event first. -/
def runFrom (step : σ → ε → σ) (s : σ) (events : List ε) : σ :=
  events.foldl step s

@[simp] theorem runFrom_nil (step : σ → ε → σ) (s : σ) :
    runFrom step s [] = s := rfl

@[simp] theorem runFrom_cons (step : σ → ε → σ) (s : σ) (e : ε)
    (events : List ε) :
    runFrom step s (e :: events) = runFrom step (step s e) events := rfl

theorem runFrom_append (step : σ → ε → σ) (s : σ) (first second : List ε) :
    runFrom step s (first ++ second) =
      runFrom step (runFrom step s first) second := by
  simp [runFrom, List.foldl_append]

/-- Every step of the run is taken in a state and on an event that meet `guard`. -/
def Guarded (step : σ → ε → σ) (guard : σ → ε → Prop) : σ → List ε → Prop
  | _, [] => True
  | s, e :: events => guard s e ∧ Guarded step guard (step s e) events

@[simp] theorem guarded_nil (step : σ → ε → σ) (guard : σ → ε → Prop) (s : σ) :
    Guarded step guard s [] := trivial

@[simp] theorem guarded_cons (step : σ → ε → σ) (guard : σ → ε → Prop) (s : σ)
    (e : ε) (events : List ε) :
    Guarded step guard s (e :: events) ↔
      guard s e ∧ Guarded step guard (step s e) events := Iff.rfl

instance decidableGuarded (step : σ → ε → σ) (guard : σ → ε → Prop)
    [∀ s e, Decidable (guard s e)] :
    (s : σ) → (events : List ε) → Decidable (Guarded step guard s events)
  | _, [] => isTrue trivial
  | s, e :: events =>
      @instDecidableAnd _ _ _ (decidableGuarded step guard (step s e) events)

/-- A guarded run is guarded up to every point of it. -/
theorem Guarded.prefix {step : σ → ε → σ} {guard : σ → ε → Prop} {s : σ}
    {first second : List ε} (h : Guarded step guard s (first ++ second)) :
    Guarded step guard s first := by
  induction first generalizing s with
  | nil => trivial
  | cons e first ih => exact ⟨h.1, ih h.2⟩

/-- The events after a point of a guarded run form a guarded run from there. -/
theorem Guarded.suffix {step : σ → ε → σ} {guard : σ → ε → Prop} {s : σ}
    {first second : List ε} (h : Guarded step guard s (first ++ second)) :
    Guarded step guard (runFrom step s first) second := by
  induction first generalizing s with
  | nil => exact h
  | cons e first ih => exact ih h.2

theorem Guarded.append {step : σ → ε → σ} {guard : σ → ε → Prop} {s : σ}
    {first second : List ε} (h : Guarded step guard s first)
    (h' : Guarded step guard (runFrom step s first) second) :
    Guarded step guard s (first ++ second) := by
  induction first generalizing s with
  | nil => exact h'
  | cons e first ih => exact ⟨h.1, ih h.2 h'⟩

/-- The last event of a guarded run. -/
theorem Guarded.last {step : σ → ε → σ} {guard : σ → ε → Prop} {s : σ} {first : List ε} {e : ε}
    (h : Guarded step guard s (first ++ [e])) : guard (runFrom step s first) e :=
  h.suffix.1

/-- A run is guarded if each of its events is, in the state it is taken in. -/
theorem guarded_of_prefixes {step : σ → ε → σ} {guard : σ → ε → Prop} {s : σ}
    {events : List ε}
    (h : ∀ first e rest, events = first ++ e :: rest → guard (runFrom step s first) e) :
    Guarded step guard s events := by
  induction events generalizing s with
  | nil => trivial
  | cons e events ih =>
      refine ⟨h [] e events rfl, ih fun first e' rest same => ?_⟩
      exact h (e :: first) e' rest (by simp [same])

/-- What every step keeps exactly under its guard holds after exactly the guarded runs. -/
theorem runFrom_iff_guarded {step : σ → ε → σ} {guard : σ → ε → Prop}
    {inv : σ → Prop} (exact_step : ∀ s e, inv (step s e) ↔ inv s ∧ guard s e)
    (s : σ) (events : List ε) :
    inv (runFrom step s events) ↔ inv s ∧ Guarded step guard s events := by
  induction events generalizing s with
  | nil => simp
  | cons e events ih => rw [runFrom_cons, guarded_cons, ih, exact_step, and_assoc]

theorem Guarded.and {step : σ → ε → σ} {guard guard' : σ → ε → Prop} {s : σ}
    {events : List ε} (h : Guarded step guard s events)
    (h' : Guarded step guard' s events) :
    Guarded step (fun s e => guard s e ∧ guard' s e) s events := by
  induction events generalizing s with
  | nil => trivial
  | cons e events ih => exact ⟨⟨h.1, h'.1⟩, ih h.2 h'.2⟩

/-- A guard on the events alone. -/
theorem guarded_of_forall {step : σ → ε → σ} {guard : ε → Prop}
    {events : List ε} (h : ∀ e ∈ events, guard e) (s : σ) :
    Guarded step (fun _ e => guard e) s events := by
  induction events generalizing s with
  | nil => trivial
  | cons e events ih =>
      exact ⟨h e (by simp), ih (fun e' h' => h e' (by simp [h'])) _⟩

/-- The invariant rule under a guard on the steps. -/
theorem runFrom_invariant_of_guarded {step : σ → ε → σ}
    {guard : σ → ε → Prop} {inv : σ → Prop}
    (preserved : ∀ s e, guard s e → inv s → inv (step s e))
    {s : σ} (start : inv s) {events : List ε}
    (guarded : Guarded step guard s events) :
    inv (runFrom step s events) := by
  induction events generalizing s with
  | nil => exact start
  | cons e events ih =>
      exact ih (preserved s e guarded.1 start) guarded.2

/-- The invariant rule: what every step preserves holds after every run. -/
theorem runFrom_invariant {step : σ → ε → σ} {inv : σ → Prop}
    (preserved : ∀ s e, inv s → inv (step s e)) {s : σ} (start : inv s)
    (events : List ε) : inv (runFrom step s events) := by
  induction events generalizing s with
  | nil => exact start
  | cons e events ih => exact ih (preserved s e start)

/-- Guards that agree under an invariant guard the same runs. -/
theorem guarded_iff_of_invariant {step : σ → ε → σ} {guard guard' : σ → ε → Prop}
    {inv : σ → Prop} (keeps : ∀ s e, inv s → inv (step s e))
    (same : ∀ s e, inv s → (guard s e ↔ guard' s e)) {s : σ} (start : inv s) (events : List ε) :
    Guarded step guard s events ↔ Guarded step guard' s events := by
  induction events generalizing s with
  | nil => exact Iff.rfl
  | cons e events ih =>
      rw [guarded_cons, guarded_cons, same s e start, ih (keeps s e start)]

/-- In a run whose steps are all as assumed, what each step keeps exactly under its guard holds all
along if and only if the run is guarded. -/
theorem prefixes_iff_guarded_of_guarded {step : σ → ε → σ} {assumed guard : σ → ε → Prop}
    {inv always : σ → Prop} (keeps : ∀ s e, assumed s e → always s → always (step s e))
    (exact_step : ∀ s e, assumed s e → always s → inv s → (inv (step s e) ↔ guard s e))
    {s : σ} (invariant : always s) (start : inv s) {events : List ε}
    (run : Guarded step assumed s events) :
    (∀ first, first <+: events → inv (runFrom step s first)) ↔ Guarded step guard s events := by
  induction events generalizing s with
  | nil =>
      refine iff_of_true (fun first isPrefix => ?_) trivial
      rw [List.prefix_nil.1 isPrefix]
      exact start
  | cons e events ih =>
      have one := exact_step s e run.1 invariant start
      have next := keeps s e run.1 invariant
      constructor
      · intro kept
        have now : inv (step s e) := kept [e] (List.prefix_append [e] events)
        refine ⟨one.1 now, (ih next now run.2).1 fun first isPrefix => ?_⟩
        exact kept (e :: first) (List.cons_prefix_cons.2 ⟨rfl, isPrefix⟩)
      · rintro ⟨right, rest⟩ first isPrefix
        cases first with
        | nil => exact start
        | cons e' first =>
            obtain ⟨rfl, shorter⟩ := List.cons_prefix_cons.1 isPrefix
            exact (ih next (one.2 right) run.2).2 rest first shorter

/-- The same for a property that needs an invariant of every run beside it. -/
theorem prefixes_iff_guarded_of_invariant {step : σ → ε → σ} {guard : σ → ε → Prop}
    {inv always : σ → Prop} (keeps : ∀ s e, always s → always (step s e))
    (exact_step : ∀ s e, always s → inv s → (inv (step s e) ↔ guard s e))
    {s : σ} (invariant : always s) (start : inv s) (events : List ε) :
    (∀ first, first <+: events → inv (runFrom step s first)) ↔ Guarded step guard s events :=
  prefixes_iff_guarded_of_guarded (fun s e _ => keeps s e)
    (fun s e _ => exact_step s e) invariant start (guarded_of_forall (fun _ _ => trivial) s)

/-- The same for a property that needs nothing beside it. -/
theorem prefixes_iff_guarded {step : σ → ε → σ} {guard : σ → ε → Prop}
    {inv : σ → Prop} (exact_step : ∀ s e, inv s → (inv (step s e) ↔ guard s e))
    {s : σ} (start : inv s) (events : List ε) :
    (∀ first, first <+: events → inv (runFrom step s first)) ↔ Guarded step guard s events := by
  have nothing : ∀ (s : σ) (e : ε), (fun _ : σ => True) s → (fun _ : σ => True) (step s e) :=
    fun _ _ _ => trivial
  exact prefixes_iff_guarded_of_invariant nothing (fun s e _ => exact_step s e) trivial start events

/-! ## Families of independent machines -/

section Family

variable {ι : Type*} [DecidableEq ι]

/-- An event of the machine at `e.1`; the other machines stay as they are. -/
def stepAt (step : ι → σ → ε → σ) (s : ι → σ) (e : ι × ε) : ι → σ :=
  Function.update s e.1 (step e.1 (s e.1) e.2)

theorem stepAt_self (step : ι → σ → ε → σ) (s : ι → σ) (e : ι × ε) :
    stepAt step s e e.1 = step e.1 (s e.1) e.2 :=
  Function.update_self ..

theorem stepAt_of_ne (step : ι → σ → ε → σ) (s : ι → σ) (e : ι × ε) {i : ι}
    (other : e.1 ≠ i) : stepAt step s e i = s i :=
  Function.update_of_ne other.symm ..

/-- What every machine's guarded steps keep holds of all machines after a run. -/
theorem stepAt_invariant_of_guarded {step : ι → σ → ε → σ} {guard : ι → σ → ε → Prop}
    {inv : ι → σ → Prop}
    (preserved : ∀ i s e, guard i s e → inv i s → inv i (step i s e))
    {s : ι → σ} (start : ∀ i, inv i (s i)) {events : List (ι × ε)}
    (guarded : Guarded (stepAt step) (fun s e => guard e.1 (s e.1) e.2) s events) :
    ∀ i, inv i (runFrom (stepAt step) s events i) := by
  have together : ∀ s e, guard e.1 (s e.1) e.2 → (∀ i, inv i (s i)) →
      ∀ i, inv i (stepAt step s e i) := by
    intro s e ok kept i
    by_cases same : e.1 = i
    · subst same
      rw [stepAt_self]
      exact preserved _ _ _ ok (kept _)
    · rw [stepAt_of_ne step s e same]
      exact kept i
  exact runFrom_invariant_of_guarded together start guarded

end Family

end ColabPlatform.Foundation
