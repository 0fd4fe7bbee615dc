import ColabPlatform.Foundation.Run
import Mathlib.Data.List.Dedup

/-!
# Message brokers

Queues are bound to exchanges by keys.  A message that is published to an exchange is put into
every queue that is bound there by its key, and into none if none is.  A consumer that is
handed a message acknowledges it, and it is gone, or gives it back to its place.  The file says
which messages can be in a queue at all, that a message which every attempt gives back stays
for ever, and what the consumers keep.
-/

namespace ColabPlatform.Foundation

universe u v w x y z

/-- A message as it is published. -/
structure Post (ε : Type u) (κ : Type v) (β : Type w) where
  exchange : ε
  key : κ
  body : β

structure Binding (ε : Type u) (κ : Type v) (θ : Type x) where
  exchange : ε
  key : κ
  queue : θ
  deriving DecidableEq, Repr

/-- A message in a queue. -/
structure Queued (ε : Type u) (κ : Type v) (θ : Type x) (β : Type w) where
  queue : θ
  post : Post ε κ β

inductive Verdict where
  | ack
  | requeue
  deriving DecidableEq, Repr

inductive BrokerEvent (ε : Type u) (κ : Type v) (θ : Type x) (β : Type w) (ω : Type y) where
  | bind (binding : Binding ε κ θ)
  | publish (post : Post ε κ β)
  /-- A consumer is handed the message at a place; its answer may be lost. -/
  | deliver (index : Nat) (outside : ω) (answered : Bool)

structure Broker (ε : Type u) (κ : Type v) (θ : Type x) (β : Type w) (σ : Type z) where
  bindings : List (Binding ε κ θ)
  /-- in the order of their arrival -/
  queued : List (Queued ε κ θ β)
  /-- all that was ever put into a queue -/
  routed : List (Queued ε κ θ β)
  /-- of the consumers -/
  state : σ

variable {ε : Type u} {κ : Type v} {θ : Type x} {β : Type w} {ω : Type y} {σ : Type z}

/-- The binding by which a message has come into its queue. -/
def Queued.binding (message : Queued ε κ θ β) : Binding ε κ θ :=
  ⟨message.post.exchange, message.post.key, message.queue⟩

namespace Broker

def empty (state : σ) : Broker ε κ θ β σ := ⟨[], [], [], state⟩

variable {s : Broker ε κ θ β σ}

/-! ## Messages that may be there -/

variable {Sent : Post ε κ β → Prop} {Bound : Binding ε κ θ → Prop}

/-- The events that may occur when only these messages are sent and these queues bound. -/
def Allowed (Sent : Post ε κ β → Prop) (Bound : Binding ε κ θ → Prop) :
    BrokerEvent ε κ θ β ω → Prop
  | .bind binding => Bound binding
  | .publish post => Sent post
  | .deliver _ _ _ => True

/-- A message that is sent, in a queue that is bound for it. -/
def Routable (Sent : Post ε κ β → Prop) (Bound : Binding ε κ θ → Prop)
    (message : Queued ε κ θ β) : Prop :=
  Sent message.post ∧ Bound message.binding

structure Confined (Sent : Post ε κ β → Prop) (Bound : Binding ε κ θ → Prop)
    (s : Broker ε κ θ β σ) : Prop where
  bound : ∀ binding ∈ s.bindings, Bound binding
  routable : ∀ message ∈ s.routed, Routable Sent Bound message
  sublist : s.queued.Sublist s.routed

theorem Confined.queued (h : s.Confined Sent Bound) {index : Nat} {message : Queued ε κ θ β}
    (found : s.queued[index]? = some message) : Routable Sent Bound message :=
  h.routable message (h.sublist.subset (List.mem_of_getElem? found))

theorem confined_empty (state : σ) : (empty state : Broker ε κ θ β σ).Confined Sent Bound := by
  constructor <;> simp [empty]

theorem filter_eraseIdx {α : Type*} {p : α → Bool} {l : List α} {index : Nat} {a : α}
    (found : l[index]? = some a) (out : p a = false) :
    (l.eraseIdx index).filter p = l.filter p := by
  induction l generalizing index with
  | nil => rfl
  | cons first l ih =>
      cases index with
      | zero =>
          obtain rfl : first = a := by simpa using found
          simp [out]
      | succ index => simp [List.filter_cons, ih (by simpa using found)]

/-! ## Steps -/

variable [DecidableEq ε] [DecidableEq κ] [DecidableEq θ]

/-- A queue that is bound more than once gets a message once. -/
def copies (s : Broker ε κ θ β σ) (post : Post ε κ β) : List (Queued ε κ θ β) :=
  let bound := s.bindings.filter fun b => b.exchange = post.exchange ∧ b.key = post.key
  (bound.map (·.queue)).dedup.map (⟨·, post⟩)

variable (handle : ω → Queued ε κ θ β → σ → σ × Verdict)

def step (s : Broker ε κ θ β σ) : BrokerEvent ε κ θ β ω → Broker ε κ θ β σ
  | .bind binding => { s with bindings := binding :: s.bindings }
  | .publish post =>
      { s with queued := s.queued ++ s.copies post, routed := s.routed ++ s.copies post }
  | .deliver index outside answered =>
      match s.queued[index]? with
      | none => s
      | some message =>
          let (state, verdict) := handle outside message s.state
          { s with
            state
            queued :=
              if answered ∧ verdict = .ack then s.queued.eraseIdx index else s.queued }

def run (state : σ) (events : List (BrokerEvent ε κ θ β ω)) : Broker ε κ θ β σ :=
  runFrom (step handle) (empty state) events

variable {handle}

theorem mem_copies_iff {post : Post ε κ β} {message : Queued ε κ θ β} :
    message ∈ s.copies post ↔ message.post = post ∧ message.binding ∈ s.bindings := by
  obtain ⟨queue, post'⟩ := message
  simp only [copies, List.mem_map, List.mem_dedup, List.mem_filter, decide_eq_true_eq,
    Queued.binding]
  constructor
  · rintro ⟨_, ⟨⟨exchange, key, queue⟩, ⟨bound, rfl, rfl⟩, rfl⟩, same⟩
    cases same
    exact ⟨rfl, bound⟩
  · rintro ⟨rfl, bound⟩
    exact ⟨queue, ⟨_, ⟨bound, rfl, rfl⟩, rfl⟩, rfl⟩

/-! ## Which messages come into a queue -/

theorem Confined.step (h : s.Confined Sent Bound) {e : BrokerEvent ε κ θ β ω}
    (allowed : Allowed Sent Bound e) : (s.step handle e).Confined Sent Bound := by
  cases e with
  | bind binding =>
      refine ⟨fun b mem => ?_, h.routable, h.sublist⟩
      rcases List.mem_cons.1 mem with rfl | before
      · exact allowed
      · exact h.bound b before
  | publish post =>
      refine ⟨h.bound, fun message mem => ?_, h.sublist.append (List.Sublist.refl _)⟩
      rcases List.mem_append.1 mem with before | copied
      · exact h.routable message before
      · obtain ⟨rfl, bound⟩ := mem_copies_iff.1 copied
        exact ⟨allowed, h.bound _ bound⟩
  | deliver index outside answered =>
      simp only [Broker.step]
      split
      · exact h
      · refine ⟨h.bound, h.routable, ?_⟩
        dsimp only
        split
        · exact (List.eraseIdx_sublist _ _).trans h.sublist
        · exact h.sublist

/-- The invariant rule: a step is taken where only messages that are sent are in the queues. -/
theorem run_invariant {inv : Broker ε κ θ β σ → Prop} {state : σ}
    {events : List (BrokerEvent ε κ θ β ω)} (allowed : ∀ e ∈ events, Allowed Sent Bound e)
    (start : inv (empty state))
    (kept : ∀ s e, Allowed Sent Bound e → s.Confined Sent Bound → inv s → inv (s.step handle e)) :
    (run handle state events).Confined Sent Bound ∧ inv (run handle state events) := by
  have both : ∀ (s : Broker ε κ θ β σ) (e : BrokerEvent ε κ θ β ω), Allowed Sent Bound e →
      s.Confined Sent Bound ∧ inv s →
      (s.step handle e).Confined Sent Bound ∧ inv (s.step handle e) :=
    fun s e sent h => ⟨h.1.step sent, kept s e sent h.1 h.2⟩
  exact runFrom_invariant_of_guarded both ⟨confined_empty state, start⟩
    (guarded_of_forall allowed _)

theorem confined_run (state : σ) {events : List (BrokerEvent ε κ θ β ω)}
    (allowed : ∀ e ∈ events, Allowed Sent Bound e) :
    (run handle state events).Confined Sent Bound := by
  have nothing : ∀ (s : Broker ε κ θ β σ) (e : BrokerEvent ε κ θ β ω), Allowed Sent Bound e →
      s.Confined Sent Bound → True → True := fun _ _ _ _ h => h
  exact (run_invariant allowed trivial nothing).1

theorem mem_bindings_binds (handle : ω → Queued ε κ θ β → σ → σ × Verdict)
    {bindings : List (Binding ε κ θ)} {binding : Binding ε κ θ} (s : Broker ε κ θ β σ)
    (bound : binding ∈ bindings ∨ binding ∈ s.bindings) :
    binding ∈ (runFrom (step handle) s (bindings.map .bind)).bindings := by
  induction bindings generalizing s with
  | nil => simpa using bound
  | cons first bindings ih =>
      apply ih
      simp only [step, List.mem_cons]
      simp only [List.mem_cons] at bound
      tauto

/-- What is published goes into the queues that are bound for it. -/
theorem mem_queued_publishes (handle : ω → Queued ε κ θ β → σ → σ × Verdict)
    {posts : List (Post ε κ β)} {message : Queued ε κ θ β} (s : Broker ε κ θ β σ)
    (bound : message.binding ∈ s.bindings) (sent : message.post ∈ posts ∨ message ∈ s.queued) :
    message ∈ (runFrom (step handle) s (posts.map .publish)).queued := by
  induction posts generalizing s with
  | nil => simpa using sent
  | cons first posts ih =>
      refine ih _ bound ?_
      rcases sent with here | before
      · rcases List.mem_cons.1 here with same | later
        · exact Or.inr (List.mem_append_right _ (mem_copies_iff.2 ⟨same, bound⟩))
        · exact Or.inl later
      · exact Or.inr (List.mem_append_left _ before)

/-! ## Messages that are given back -/

/-- What every attempt gives back stays in its queue for ever. -/
theorem filter_queued_eq {stuck : Queued ε κ θ β → Bool} (state : σ)
    {events : List (BrokerEvent ε κ θ β ω)} (allowed : ∀ e ∈ events, Allowed Sent Bound e)
    (refused : ∀ message, Routable Sent Bound message → stuck message = true →
      ∀ outside state, (handle outside message state).2 = .requeue) :
    (run handle state events).queued.filter stuck =
      (run handle state events).routed.filter stuck := by
  have kept : ∀ (s : Broker ε κ θ β σ) (e : BrokerEvent ε κ θ β ω), Allowed Sent Bound e →
      s.Confined Sent Bound → s.queued.filter stuck = s.routed.filter stuck →
      (s.step handle e).queued.filter stuck = (s.step handle e).routed.filter stuck := by
    intro s e sent confined same
    cases e with
    | bind binding => exact same
    | publish post => simp only [step, List.filter_append, same]
    | deliver index outside answered =>
        simp only [step]
        split
        · exact same
        · rename_i message found
          dsimp only
          split
          · rename_i acknowledged
            rw [← same]
            apply filter_eraseIdx found
            by_contra held
            have back := refused message (confined.queued found) (by simpa using held) outside
              s.state
            rw [back] at acknowledged
            simp at acknowledged
          · exact same
  have start : (empty state : Broker ε κ θ β σ).queued.filter stuck =
      (empty state : Broker ε κ θ β σ).routed.filter stuck := rfl
  exact (run_invariant allowed start kept).2

/-! ## What the consumers keep -/

/-- What the consumers keep at every message that can come to them holds after every run. -/
theorem state_invariant {inv : σ → Prop} {state : σ} {events : List (BrokerEvent ε κ θ β ω)}
    (allowed : ∀ e ∈ events, Allowed Sent Bound e) (first : inv state)
    (kept : ∀ message, Routable Sent Bound message → ∀ outside state, inv state →
      inv (handle outside message state).1) : inv (run handle state events).state := by
  have step_kept : ∀ (s : Broker ε κ θ β σ) (e : BrokerEvent ε κ θ β ω), Allowed Sent Bound e →
      s.Confined Sent Bound → inv s.state → inv (s.step handle e).state := by
    intro s e sent confined holds
    cases e with
    | bind binding => exact holds
    | publish post => exact holds
    | deliver index outside answered =>
        simp only [step]
        split
        · exact holds
        · rename_i message found
          exact kept message (confined.queued found) outside s.state holds
  exact (run_invariant allowed first step_kept).2

end Broker

end ColabPlatform.Foundation
