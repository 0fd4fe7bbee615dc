import ColabPlatform.Foundation.Interleaving
import ColabPlatform.Foundation.Run

/-!
# A cache beside a store

A read looks into the cache, and on a miss resolves its value from the store and
sets it, in separate steps.  A value is current when it resolves from what the
store has, at whatever time.  The cache stays current as long as a commit that
changes what resolves finds nothing cached and no value about to be set.
-/

namespace ColabPlatform.Foundation

/-- A read that has missed the cache. -/
inductive Reader (β : Type*) where
  | missed
  | resolved (value : β)
  | answered
  deriving DecidableEq

structure Cache (δ β : Type*) where
  source : δ
  entry : Option β
  readers : List (Reader β)
  answers : List β

inductive CacheStep (τ δ : Type*) where
  | get
  | resolve (reader : Nat) (time : τ)
  | set (reader : Nat)
  | expire
  | invalidate
  | commit (source : δ)

/-- The steps of reads, and the passing of time. -/
def CacheStep.reads {τ δ : Type*} : CacheStep τ δ → Prop
  | .get | .resolve _ _ | .set _ | .expire => True
  | .invalidate | .commit _ => False

namespace Cache

variable {τ δ β : Type*} (resolve : τ → δ → β)

def step (c : Cache δ β) : CacheStep τ δ → Cache δ β
  | .get =>
      match c.entry with
      | some value => { c with answers := value :: c.answers }
      | none => { c with readers := c.readers ++ [.missed] }
  | .resolve reader time =>
      match c.readers[reader]? with
      | some .missed =>
          { c with readers := c.readers.set reader (.resolved (resolve time c.source)) }
      | _ => c
  | .set reader =>
      match c.readers[reader]? with
      | some (.resolved value) =>
          { c with
            entry := some value
            readers := c.readers.set reader .answered
            answers := value :: c.answers }
      | _ => c
  | .expire | .invalidate => { c with entry := none }
  | .commit source => { c with source }

/-- `value` resolves from `source`. -/
def Current (source : δ) (value : β) : Prop := ∃ time, value = resolve time source

/-- What is cached or about to be set is current. -/
structure Coherent (c : Cache δ β) : Prop where
  entry : ∀ value ∈ c.entry, Current resolve c.source value
  readers : ∀ value, .resolved value ∈ c.readers → Current resolve c.source value

/-- Nothing is cached, nor about to be set. -/
def Unseen (c : Cache δ β) : Prop :=
  c.entry = none ∧ ∀ reader ∈ c.readers, reader = .missed ∨ reader = .answered

instance [DecidableEq β] (c : Cache δ β) : Decidable c.Unseen :=
  inferInstanceAs (Decidable (_ ∧ ∀ reader ∈ c.readers, _))

/-- A commit leaves what resolves as it is, or finds nothing cached. -/
def Safe (c : Cache δ β) : CacheStep τ δ → Prop
  | .commit source => (∀ time, resolve time source = resolve time c.source) ∨ c.Unseen
  | _ => True

variable {resolve} {c : Cache δ β}

/-- A read goes on to a phase in which it holds no value, or a current one. -/
theorem Coherent.setReader (coherent : c.Coherent resolve) {index : Nat} {reader : Reader β}
    (current : ∀ value, reader = .resolved value → Current resolve c.source value) :
    ∀ value, .resolved value ∈ c.readers.set index reader →
      Current resolve c.source value := by
  intro value mem
  obtain rfl | ⟨other, -, found⟩ := mem_set_cases mem
  · exact current value rfl
  · exact coherent.readers value (List.mem_of_getElem? found)

theorem coherent_commit (coherent : c.Coherent resolve) {source : δ}
    (safe : c.Safe resolve (.commit source)) :
    (c.step resolve (.commit source)).Coherent resolve := by
  obtain same | ⟨absent, idle⟩ := safe
  · constructor
    · intro value cached
      obtain ⟨time, own⟩ := coherent.entry value cached
      exact ⟨time, own.trans (same time).symm⟩
    · intro value mem
      obtain ⟨time, own⟩ := coherent.readers value mem
      exact ⟨time, own.trans (same time).symm⟩
  · constructor
    · intro value cached
      have cached : value ∈ c.entry := cached
      rw [absent] at cached
      cases cached
    · intro value mem
      obtain resolved | resolved := idle _ mem
      · cases resolved
      · cases resolved

theorem coherent_step (coherent : c.Coherent resolve) {e : CacheStep τ δ}
    (safe : c.Safe resolve e) : (c.step resolve e).Coherent resolve := by
  have emptied : ({ c with entry := none } : Cache δ β).Coherent resolve :=
    ⟨by simp, coherent.readers⟩
  cases e with
  | commit source => exact coherent_commit coherent safe
  | expire => exact emptied
  | invalidate => exact emptied
  | get =>
      dsimp only [step]
      split
      · exact ⟨coherent.entry, coherent.readers⟩
      · refine ⟨coherent.entry, fun value mem => coherent.readers value ?_⟩
        simpa using mem
  | resolve index time =>
      dsimp only [step]
      split
      · refine ⟨coherent.entry, coherent.setReader ?_⟩
        rintro value ⟨⟩
        exact ⟨time, rfl⟩
      · exact coherent
  | set index =>
      dsimp only [step]
      split
      · rename_i value found
        have current := coherent.readers value (List.mem_of_getElem? found)
        refine ⟨by simpa using current, coherent.setReader ?_⟩
        rintro value ⟨⟩
      · exact coherent

/-- The reads of a coherent cache answer with current values. -/
theorem answers_current (coherent : c.Coherent resolve) {e : CacheStep τ δ}
    (reads : e.reads) :
    (c.step resolve e).source = c.source ∧
      ∀ value ∈ (c.step resolve e).answers,
        value ∈ c.answers ∨ Current resolve c.source value := by
  have unchanged : ∀ value ∈ c.answers,
      value ∈ c.answers ∨ Current resolve c.source value := fun _ => Or.inl
  cases e with
  | commit | invalidate => cases reads
  | expire => exact ⟨rfl, unchanged⟩
  | get =>
      dsimp only [step]
      split
      · rename_i value cached
        exact ⟨rfl, by simpa using ⟨Or.inr (coherent.entry value cached), unchanged⟩⟩
      · exact ⟨rfl, unchanged⟩
  | resolve index time =>
      dsimp only [step]
      split
      · exact ⟨rfl, unchanged⟩
      · exact ⟨rfl, unchanged⟩
  | set index =>
      dsimp only [step]
      split
      · rename_i value found
        have current := coherent.readers value (List.mem_of_getElem? found)
        exact ⟨rfl, by simpa using ⟨Or.inr current, unchanged⟩⟩
      · exact ⟨rfl, unchanged⟩

theorem safe_of_reads {e : CacheStep τ δ} (reads : e.reads) : c.Safe resolve e := by
  cases e with
  | commit | invalidate => cases reads
  | get | resolve | set | expire => trivial

/-- However the reads after a point of coherence are interleaved. -/
theorem answers_current_run (coherent : c.Coherent resolve) {later : List (CacheStep τ δ)}
    (reads : ∀ e ∈ later, e.reads) :
    ∀ value ∈ (runFrom (step resolve) c later).answers,
      value ∈ c.answers ∨ Current resolve c.source value := by
  induction later generalizing c with
  | nil => exact fun value => Or.inl
  | cons e later ih =>
      have first := reads e (by simp)
      obtain ⟨source, answers⟩ := answers_current coherent first
      intro value mem
      obtain before | current := ih (coherent_step coherent (safe_of_reads first))
        (fun e mem => reads e (by simp [mem])) value mem
      · exact answers value before
      · exact Or.inr (source ▸ current)

end Cache

end ColabPlatform.Foundation
