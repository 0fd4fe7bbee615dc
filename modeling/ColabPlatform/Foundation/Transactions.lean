import ColabPlatform.Foundation.Session

/-!
# Rules for programs over a session

`Transacts` is the logic of programs that leave committing to their caller: a
precondition is a session, a postcondition speaks about the normal outcomes, and
raising never changes what is committed.  `Leaves` and `Commits` speak about
programs that commit by hand.
-/

namespace ColabPlatform.Foundation.Program

variable {ε σ α β ρ : Type}

/-! ## One transaction -/

/--
`p` never commits by hand, so that raising leaves the committed database as it
was, and every normal outcome of it meets `post`.
-/
def Transacts (p : Program ε σ α) (s : Session σ)
    (post : α → Session σ → Prop) : Prop :=
  match p.run s with
  | .ok a s' => s'.committed = s.committed ∧ post a s'
  | .error _ s' => s'.committed = s.committed

theorem Transacts.mono {p : Program ε σ α} {s : Session σ}
    {post post' : α → Session σ → Prop} (h : p.Transacts s post)
    (weaker : ∀ a s', post a s' → post' a s') : p.Transacts s post' := by
  unfold Transacts at h ⊢
  split at h
  · exact ⟨h.1, weaker _ _ h.2⟩
  · exact h

theorem transacts_pure {a : α} {s : Session σ} {post : α → Session σ → Prop}
    (h : post a s) : (pure a : Program ε σ α).Transacts s post :=
  ⟨rfl, h⟩

theorem transacts_bind {p : Program ε σ α} {f : α → Program ε σ β}
    {s : Session σ} {post : β → Session σ → Prop}
    (h : p.Transacts s fun a s' => (f a).Transacts s' post) :
    (p >>= f).Transacts s post := by
  unfold Transacts at h ⊢
  rw [EStateM.run_bind]
  split at h
  · obtain ⟨same, rest⟩ := h
    rename_i a middle first
    simp only [first]
    split at rest <;> simp_all
  · rename_i e middle first
    simpa only [first] using h

theorem transacts_query {read : σ → α} {s : Session σ}
    {post : α → Session σ → Prop}
    (h : s.closed = false → post (read s.working) s) :
    (query read : Program ε σ α).Transacts s post := by
  unfold Transacts
  cases closed : s.closed with
  | true => simp [closed]
  | false => simpa [closed] using h closed

theorem transacts_write {change : σ → Except DbError σ} {s : Session σ}
    {post : Unit → Session σ → Prop}
    (h : s.closed = false → ∀ db, change s.working = .ok db →
      post () { s with working := db }) :
    (write change : Program ε σ Unit).Transacts s post := by
  unfold Transacts
  cases closed : s.closed with
  | true => simp [closed]
  | false =>
      cases changed : change s.working with
      | ok db => simpa [closed, changed] using h closed db changed
      | error e => simp [closed, changed]

theorem transacts_tryWrite {change : σ → Except DbError σ} {s : Session σ}
    {post : Bool → Session σ → Prop}
    (written : s.closed = false → ∀ db, change s.working = .ok db →
      post true { s with working := db })
    (violated : s.closed = false → change s.working = .error .integrity →
      post false s) :
    (tryWrite change : Program ε σ Bool).Transacts s post := by
  unfold Transacts
  cases closed : s.closed with
  | true => simp [closed]
  | false =>
      cases changed : change s.working with
      | ok db => simpa [closed, changed] using written closed db changed
      | error e =>
          cases e with
          | integrity => simpa [closed, changed] using violated closed changed
          | _ => simp [closed, changed]

theorem transacts_rollback {s : Session σ} {post : Unit → Session σ → Prop}
    (h : post () s.rolledBack) : (rollback : Program ε σ Unit).Transacts s post :=
  ⟨rfl, h⟩

theorem transacts_raise {e : ε} {s : Session σ}
    {post : α → Session σ → Prop} : (raise e : Program ε σ α).Transacts s post :=
  rfl

theorem transacts_scalarOne {row : Option α} {s : Session σ}
    {post : α → Session σ → Prop} (h : ∀ a, row = some a → post a s) :
    (scalarOne row : Program ε σ α).Transacts s post := by
  cases row with
  | none => rfl
  | some a => exact ⟨rfl, h a rfl⟩

theorem transacts_scalarOneOrNone {rows : List α} {s : Session σ}
    {post : Option α → Session σ → Prop} (empty : rows = [] → post none s)
    (single : ∀ a, rows = [a] → post (some a) s) :
    (scalarOneOrNone rows : Program ε σ (Option α)).Transacts s post := by
  match rows with
  | [] => exact ⟨rfl, empty rfl⟩
  | [a] => exact ⟨rfl, single a rfl⟩
  | _ :: _ :: _ => rfl

theorem transacts_load {row : ρ} {added : Bool} {s : Session σ}
    {post : Instance ρ → Session σ → Prop}
    (h : post ⟨row, s.rollbacks, added⟩ s) :
    (load row added : Program ε σ (Instance ρ)).Transacts s post :=
  ⟨rfl, h⟩

theorem transacts_readAttr {object : Instance ρ} {read : ρ → α} {s : Session σ}
    {post : α → Session σ → Prop} (h : post (read object.row) s) :
    (readAttr object read : Program ε σ α).Transacts s post := by
  unfold Transacts
  rw [run_readAttr]
  split
  · rename_i result
    split at result
    · cases result
      exact ⟨rfl, h⟩
    · cases result
  · rename_i result
    split at result
    · cases result
    · cases result
      rfl

theorem transacts_forM {items : List α} {body : α → Program ε σ PUnit}
    {inv : Session σ → Prop}
    (step : ∀ a ∈ items, ∀ s, inv s → (body a).Transacts s fun _ s' => inv s')
    {s : Session σ} (start : inv s) :
    (items.forM body).Transacts s fun _ s' => inv s' := by
  induction items generalizing s with
  | nil => exact transacts_pure start
  | cons a items ih =>
      refine transacts_bind ((step a (by simp) s start).mono fun _ s' h => ?_)
      exact ih (fun b hb => step b (by simp [hb])) h

/-- A loop whose iterations are related one after the other. -/
theorem transacts_forM_chain {items : List α} {body : α → Program ε σ PUnit}
    {chain : List α → Session σ → Session σ → Prop} (nil : ∀ s, chain [] s s)
    (cons : ∀ a rest s, (body a).Transacts s fun _ s' =>
      ∀ last, chain rest s' last → chain (a :: rest) s last)
    (s : Session σ) : (items.forM body).Transacts s fun _ s' => chain items s s' := by
  induction items generalizing s with
  | nil => exact transacts_pure (nil s)
  | cons a items ih =>
      refine transacts_bind ((cons a items s).mono fun _ s' h => ?_)
      exact (ih s').mono fun _ last rest => h last rest

/-- Two continuations that agree where `p` may end make the same program. -/
theorem Transacts.run_bind_congr {p : Program ε σ α} {f g : α → Program ε σ β}
    {s : Session σ} (h : p.Transacts s fun a s' => (f a).run s' = (g a).run s') :
    (p >>= f).run s = (p >>= g).run s := by
  unfold Transacts at h
  rw [EStateM.run_bind, EStateM.run_bind]
  cases run : p.run s with
  | ok a s' =>
      rw [run] at h
      exact h.2
  | error e s' => rfl

/-! ## Commits by hand -/

/-- Whatever the outcome of `p`, what is committed at its end meets `inv`. -/
def Leaves (p : Program ε σ α) (s : Session σ) (inv : σ → Prop) : Prop :=
  match p.run s with
  | .ok _ s' => inv s'.committed
  | .error _ s' => inv s'.committed

/-- What is committed when `p` returns meets `inv`. -/
def Commits (p : Program ε σ α) (s : Session σ) (inv : σ → Prop) : Prop :=
  ∀ a s', p.run s = .ok a s' → inv s'.committed

theorem Leaves.mono {p : Program ε σ α} {s : Session σ} {inv inv' : σ → Prop}
    (h : p.Leaves s inv) (weaker : ∀ db, inv db → inv' db) : p.Leaves s inv' := by
  unfold Leaves at h ⊢
  split at h
  · exact weaker _ h
  · exact weaker _ h

theorem Commits.mono {p : Program ε σ α} {s : Session σ} {inv inv' : σ → Prop}
    (h : p.Commits s inv) (weaker : ∀ db, inv db → inv' db) : p.Commits s inv' :=
  fun a s' run => weaker _ (h a s' run)

theorem Leaves.congr {p q : Program ε σ α} {s : Session σ} {inv : σ → Prop}
    (h : q.Leaves s inv) (same : p.run s = q.run s) : p.Leaves s inv := by
  unfold Leaves
  rw [same]
  exact h

theorem Commits.congr {p q : Program ε σ α} {s : Session σ} {inv : σ → Prop}
    (h : q.Commits s inv) (same : p.run s = q.run s) : p.Commits s inv :=
  fun a s' run => h a s' (same ▸ run)

theorem leaves_bind {p : Program ε σ α} {f : α → Program ε σ β} {s : Session σ}
    {inv : σ → Prop} (start : inv s.committed)
    (h : p.Transacts s fun a s' => (f a).Leaves s' inv) :
    (p >>= f).Leaves s inv := by
  unfold Transacts at h
  unfold Leaves
  rw [EStateM.run_bind]
  cases run : p.run s with
  | ok a s' =>
      rw [run] at h
      exact h.2
  | error e s' =>
      rw [run] at h
      change inv s'.committed
      rw [h]
      exact start

theorem leaves_then_pure {p : Program ε σ α} {b : α → β} {s : Session σ}
    {inv : σ → Prop} (h : p.Leaves s inv) :
    (p >>= fun a => pure (b a)).Leaves s inv := by
  unfold Leaves at h ⊢
  rw [EStateM.run_bind]
  cases run : p.run s with
  | ok a s' => rwa [run] at h
  | error e s' => rwa [run] at h

theorem leaves_commit {s : Session σ} {inv : σ → Prop} (start : inv s.committed)
    (pending : inv s.working) : (commit : Program ε σ Unit).Leaves s inv := by
  unfold Leaves
  rw [run_commit]
  cases s.closed with
  | true => exact start
  | false => exact pending

theorem commits_bind {p : Program ε σ α} {f : α → Program ε σ β} {s : Session σ}
    {inv : σ → Prop} (h : p.Transacts s fun a s' => (f a).Commits s' inv) :
    (p >>= f).Commits s inv := by
  intro b s' result
  unfold Transacts at h
  rw [EStateM.run_bind] at result
  cases run : p.run s with
  | ok a middle =>
      rw [run] at h result
      exact h.2 b s' result
  | error e middle =>
      rw [run] at result
      cases result

theorem commits_commit {s : Session σ} {inv : σ → Prop} (pending : inv s.working) :
    (commit : Program ε σ Unit).Commits s inv := by
  intro a s' result
  rw [run_commit] at result
  split at result
  · cases result
  · cases result
    exact pending

/-! ## All or nothing -/

/--
`p` commits once, at its end: what is committed when it returns meets `post`,
and when it raises nothing was committed.
-/
def Settles (p : Program ε σ α) (s : Session σ) (post : σ → Prop) : Prop :=
  match p.run s with
  | .ok _ s' => post s'.committed
  | .error _ s' => s'.committed = s.committed

theorem Settles.mono {p : Program ε σ α} {s : Session σ} {post post' : σ → Prop}
    (h : p.Settles s post) (weaker : ∀ db, post db → post' db) :
    p.Settles s post' := by
  unfold Settles at h ⊢
  split at h
  · exact weaker _ h
  · exact h

theorem Settles.congr {p q : Program ε σ α} {s : Session σ} {post : σ → Prop}
    (h : q.Settles s post) (same : p.run s = q.run s) : p.Settles s post := by
  unfold Settles
  rw [same]
  exact h

theorem settles_pure {a : α} {s : Session σ} {post : σ → Prop}
    (h : post s.committed) : (pure a : Program ε σ α).Settles s post := h

theorem settles_commit {s : Session σ} {post : σ → Prop} (h : post s.working) :
    (commit : Program ε σ Unit).Settles s post := by
  unfold Settles
  rw [run_commit]
  cases s.closed with
  | true => rfl
  | false => exact h

theorem settles_bind {p : Program ε σ α} {f : α → Program ε σ β} {s : Session σ}
    {post : σ → Prop} (h : p.Transacts s fun a s' => (f a).Settles s' post) :
    (p >>= f).Settles s post := by
  unfold Transacts at h
  unfold Settles at h ⊢
  rw [EStateM.run_bind]
  cases run : p.run s with
  | ok a s' =>
      simp only [run] at h ⊢
      obtain ⟨same, h⟩ := h
      split at h
      · exact h
      · exact h.trans same
  | error e s' =>
      simp only [run] at h ⊢
      exact h

theorem settles_then_pure {p : Program ε σ α} {b : α → β} {s : Session σ}
    {post : σ → Prop} (h : p.Settles s post) :
    (p >>= fun a => pure (b a)).Settles s post := by
  unfold Settles at h ⊢
  rw [EStateM.run_bind]
  cases run : p.run s with
  | ok a s' => rwa [run] at h
  | error e s' => rwa [run] at h

theorem committedBy_of_settles {p : Program ε σ α} {inBlock : Bool} {db : σ}
    {post : σ → Prop} (h : p.Settles (Session.start inBlock db) post) :
    p.committedBy inBlock db = db ∨ post (p.committedBy inBlock db) := by
  unfold Settles at h
  unfold committedBy
  cases run : p.run (Session.start inBlock db) with
  | ok a s =>
      rw [run] at h
      exact Or.inr h
  | error e s =>
      rw [run] at h
      exact Or.inl h

/-- Either the program raised and nothing changed, or its work is committed. -/
theorem atomically_preserves {p : Program ε σ α} {inBlock : Bool} {db : σ}
    {post : σ → Prop} (unchanged : post db)
    (returned : p.Transacts (Session.start inBlock db)
      fun _ s => post s.working) :
    post (p.atomically inBlock db).2 := by
  unfold Transacts at returned
  unfold atomically
  cases run : p.run (Session.start inBlock db) with
  | ok a s =>
      rw [run] at returned
      exact returned.2
  | error e s =>
      rw [run] at returned
      simpa [returned] using unchanged

end ColabPlatform.Foundation.Program
