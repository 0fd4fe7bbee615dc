import ColabPlatform.Foundation.Interleaving
import Mathlib.Logic.Function.Basic

/-!
# Two sides that meet

Visitors of two sides arrive.  A visitor first looks whether the other side is
there, arrives afterwards, and announces the meeting if it saw the other side.  The
looks are not part of the arrivals, so two visitors may miss each other, or both
announce.  The file says which looks are harmless, and that after harmless ones only
the meeting is announced exactly once.
-/

namespace ColabPlatform.Foundation

inductive Stage where
  | idle
  /-- has looked, and saw the other side or not -/
  | arriving (side sees : Bool)
  | announcing
  deriving DecidableEq, Repr

/-- The visitor is about to arrive on this side. -/
def Stage.arrives (side : Bool) : Stage → Bool
  | .arriving side' _ => side' = side
  | _ => false

structure Rendezvous where
  /-- somebody of the side is there -/
  there : Bool → Bool
  stages : List Stage
  announced : Nat

namespace Rendezvous

/--
A look is harmless: a visitor who sees nobody runs past no visitor of the other side who
saw nobody either, and one who sees the other side is the first of its own.
-/
def Harmless (r : Rendezvous) (side : Bool) : Bool → Prop
  | false => .arriving (!side) false ∉ r.stages
  | true => r.there side = false ∧ ∀ stage ∈ r.stages, stage.arrives side = false

/-- One step, in which only harmless looks are taken. -/
inductive Step (r : Rendezvous) : Rendezvous → Prop
  | stay : Step r r
  | join : Step r { r with stages := r.stages ++ [.idle] }
  | look (i : Nat) (side : Bool) (found : r.stages[i]? = some .idle)
      (harmless : r.Harmless side (r.there (!side))) :
      Step r { r with stages := r.stages.set i (.arriving side (r.there (!side))) }
  | leave (i : Nat) (side sees : Bool) (found : r.stages[i]? = some (.arriving side sees)) :
      Step r { r with stages := r.stages.set i .idle }
  | arrive (i : Nat) (side sees : Bool) (found : r.stages[i]? = some (.arriving side sees)) :
      Step r
        { r with
          there := Function.update r.there side true
          stages := r.stages.set i (if sees then .announcing else .idle) }
  | announce (i : Nat) (found : r.stages[i]? = some .announcing) :
      Step r { r with stages := r.stages.set i .idle, announced := r.announced + 1 }

/-- Whether there is a meeting to announce. -/
def meets (r : Rendezvous) : Bool := r.there true && r.there false

theorem meets_eq (r : Rendezvous) (side : Bool) :
    r.meets = (r.there side && r.there (!side)) := by
  cases side
  · exact Bool.and_comm _ _
  · rfl

structure Sound (r : Rendezvous) : Prop where
  /-- who saw nobody does not make the meeting by arriving -/
  unseen : ∀ side, .arriving side false ∈ r.stages → r.there (!side) = true → r.there side = true
  /-- who saw the other side makes it -/
  seen : ∀ side, .arriving side true ∈ r.stages → r.there (!side) = true ∧ r.there side = false
  alone : ∀ side, .arriving side true ∈ r.stages → AtMostOne (Stage.arrives side) r.stages
  apart : ¬ (.arriving true false ∈ r.stages ∧ .arriving false false ∈ r.stages)
  once : r.announced + r.stages.count .announcing = r.meets.toNat

namespace Sound

variable {r : Rendezvous}

theorem count_set {i : Nat} {old : Stage} (found : r.stages[i]? = some old) (new : Stage) :
    (r.stages.set i new).count .announcing + (if old = .announcing then 1 else 0) =
      r.stages.count .announcing + (if new = .announcing then 1 else 0) := by
  obtain ⟨inside, same⟩ := List.getElem?_eq_some_iff.1 found
  have there : old = .announcing → 0 < r.stages.count .announcing := by
    rintro rfl
    exact List.count_pos_iff.2 (List.mem_of_getElem? found)
  rw [List.count_set inside, same]
  by_cases first : old = .announcing <;> by_cases second : new = .announcing <;> simp_all

/-- A stage that a step does not set was there before. -/
theorem mem_of_set {i : Nat} {new stage : Stage} (mem : stage ∈ r.stages.set i new)
    (other : stage ≠ new) : stage ∈ r.stages := by
  rcases mem_set_cases mem with same | ⟨j, -, atJ⟩
  · exact absurd same other
  · exact List.mem_of_getElem? atJ

/-- Nobody has come yet. -/
theorem empty : Sound ⟨fun _ => false, [], 0⟩ where
  unseen _ mem := by cases mem
  seen _ mem := by cases mem
  alone _ mem := by cases mem
  apart both := by cases both.1
  once := rfl

theorem join (h : r.Sound) : Sound { r with stages := r.stages ++ [.idle] } where
  unseen side mem := h.unseen side (by simpa using mem)
  seen side mem := h.seen side (by simpa using mem)
  alone side mem := (h.alone side (by simpa using mem)).concat rfl
  apart both := h.apart (by simpa using both)
  once := by
    have once : _ = r.meets.toNat := h.once
    change r.announced + (r.stages ++ [Stage.idle]).count .announcing = r.meets.toNat
    simpa [List.count_append] using once

/-- Steps that set a stage to `idle` without a change of who is there. -/
theorem idle (h : r.Sound) {i : Nat} {old : Stage} (found : r.stages[i]? = some old)
    {announced : Nat}
    (counted : announced = r.announced + if old = .announcing then 1 else 0) :
    Sound { r with stages := r.stages.set i .idle, announced } where
  unseen side mem := h.unseen side (mem_of_set mem (by simp))
  seen side mem := h.seen side (mem_of_set mem (by simp))
  alone side mem := (h.alone side (mem_of_set mem (by simp))).set found fun new => by cases new
  apart both := h.apart ⟨mem_of_set both.1 (by simp), mem_of_set both.2 (by simp)⟩
  once := by
    have once : _ = r.meets.toNat := h.once
    have count := count_set found .idle
    simp only [reduceCtorEq, if_false] at count
    change announced + (r.stages.set i .idle).count .announcing = r.meets.toNat
    omega

theorem look (h : r.Sound) {i : Nat} {side : Bool} (found : r.stages[i]? = some .idle)
    (harmless : r.Harmless side (r.there (!side))) :
    Sound { r with stages := r.stages.set i (.arriving side (r.there (!side))) } where
  unseen other mem there := by
    rcases mem_set_cases mem with same | ⟨j, -, atJ⟩
    · obtain ⟨rfl, none⟩ : other = side ∧ false = r.there (!side) := by simpa using same
      exact absurd (none.trans there) (by decide)
    · exact h.unseen other (List.mem_of_getElem? atJ) there
  seen other mem := by
    rcases mem_set_cases mem with same | ⟨j, -, atJ⟩
    · obtain ⟨rfl, sees⟩ : other = side ∧ true = r.there (!side) := by simpa using same
      rw [← sees] at harmless
      exact ⟨sees.symm, harmless.1⟩
    · exact h.seen other (List.mem_of_getElem? atJ)
  alone other mem := by
    rcases mem_set_cases mem with same | ⟨j, -, atJ⟩
    · obtain ⟨rfl, sees⟩ : other = side ∧ true = r.there (!side) := by simpa using same
      rw [← sees] at harmless
      intro j k a b atJ atK arrivesA arrivesB
      rcases getElem?_set_cases atJ with ⟨rfl, -⟩ | ⟨-, stillJ⟩
      · rcases getElem?_set_cases atK with ⟨rfl, -⟩ | ⟨-, stillK⟩
        · rfl
        · simp [harmless.2 b (List.mem_of_getElem? stillK)] at arrivesB
      · simp [harmless.2 a (List.mem_of_getElem? stillJ)] at arrivesA
    · have before := List.mem_of_getElem? atJ
      refine (h.alone other before).set found fun new => ?_
      -- the one that arrives on this side saw the other one, and so this is no first look
      have same : side = other := by simpa [Stage.arrives] using new
      subst same
      rw [(h.seen side before).1] at harmless
      exact absurd (harmless.2 _ before) (by simp [Stage.arrives])
  apart both := by
    have old : ∀ other, .arriving other false ∈ r.stages.set i (.arriving side (r.there (!side))) →
        .arriving other false ∈ r.stages ∨ other = side ∧ r.there (!side) = false := by
      intro other mem
      rcases mem_set_cases mem with same | ⟨j, -, atJ⟩
      · obtain ⟨rfl, none⟩ : other = side ∧ false = r.there (!side) := by simpa using same
        exact Or.inr ⟨rfl, none.symm⟩
      · exact Or.inl (List.mem_of_getElem? atJ)
    rcases old true both.1 with first | ⟨rfl, none⟩
    · rcases old false both.2 with second | ⟨rfl, none⟩
      · exact h.apart ⟨first, second⟩
      · rw [none] at harmless
        exact harmless first
    · rcases old false both.2 with second | ⟨other, -⟩
      · rw [none] at harmless
        exact harmless second
      · cases other
  once := by
    have once : _ = r.meets.toNat := h.once
    have count := count_set found (.arriving side (r.there (!side)))
    simp only [reduceCtorEq, if_false] at count
    change r.announced + (r.stages.set i (.arriving side (r.there (!side)))).count .announcing =
      r.meets.toNat
    omega

theorem arrive (h : r.Sound) {i : Nat} {side sees : Bool}
    (found : r.stages[i]? = some (.arriving side sees)) :
    Sound
      { r with
        there := Function.update r.there side true
        stages := r.stages.set i (if sees then .announcing else .idle) } where
  unseen other mem there := by
    dsimp only at mem there ⊢
    have before := mem_of_set mem (by cases sees <;> simp)
    by_cases same : other = side
    · rw [same, Function.update_self]
    · obtain rfl : other = !side := by cases other <;> cases side <;> simp_all
      rw [Function.update_of_ne same]
      cases sees with
      | true => exact (h.seen side (List.mem_of_getElem? found)).1
      | false =>
          have mine := List.mem_of_getElem? found
          cases side with
          | true => exact absurd ⟨mine, before⟩ h.apart
          | false => exact absurd ⟨before, mine⟩ h.apart
  seen other mem := by
    dsimp only at mem ⊢
    obtain ⟨j, atJ⟩ := List.mem_iff_getElem?.1 mem
    rcases getElem?_set_cases atJ with ⟨-, same⟩ | ⟨apart, still⟩
    · cases sees <;> simp at same
    · have before := List.mem_of_getElem? still
      have different : other ≠ side := by
        rintro rfl
        exact apart (h.alone other before i j _ _ found still (by simp [Stage.arrives])
          (by simp [Stage.arrives]))
      obtain ⟨opposite, first⟩ := h.seen other before
      refine ⟨?_, by rwa [Function.update_of_ne different]⟩
      by_cases here : (!other) = side
      · rw [here, Function.update_self]
      · rwa [Function.update_of_ne here]
  alone other mem := by
    have before := mem_of_set mem (by cases sees <;> simp)
    exact (h.alone other before).set found fun new => by cases sees <;> cases new
  apart both :=
    h.apart ⟨mem_of_set both.1 (by cases sees <;> simp), mem_of_set both.2 (by cases sees <;> simp)⟩
  once := by
    have once := h.once
    have mine := List.mem_of_getElem? found
    have count := count_set found (if sees then .announcing else .idle)
    rw [meets_eq r side] at once
    rw [meets_eq _ side]
    have away : Function.update r.there side true (!side) = r.there (!side) :=
      Function.update_of_ne (by cases side <;> simp) ..
    simp only [Function.update_self, away, Bool.true_and]
    cases sees with
    | true =>
        obtain ⟨opposite, first⟩ := h.seen side mine
        simp only [opposite, first, reduceCtorEq, if_true, if_false, Bool.false_and,
          Bool.toNat_false, Bool.toNat_true] at once count ⊢
        omega
    | false =>
        have unseen := h.unseen side mine
        simp only [reduceCtorEq, Bool.false_eq_true, if_false] at count ⊢
        cases opposite : r.there (!side) with
        | true =>
            simp only [opposite, unseen opposite, Bool.and_true, Bool.toNat_true] at once ⊢
            omega
        | false =>
            simp only [opposite, Bool.and_false, Bool.toNat_false] at once ⊢
            omega

theorem step (h : r.Sound) {r' : Rendezvous} (step : Step r r') : r'.Sound := by
  cases step with
  | stay => exact h
  | join => exact h.join
  | look i side found harmless => exact h.look found harmless
  | leave i side sees found => exact h.idle found (by simp)
  | arrive i side sees found => exact h.arrive found
  | announce i found => exact h.idle found (by simp)

/-- When nobody is about to announce it, the meeting was announced once. -/
theorem announced_once (h : r.Sound) (quiet : .announcing ∉ r.stages) :
    r.announced = r.meets.toNat := by
  have once := h.once
  rwa [List.count_eq_zero.2 quiet, Nat.add_zero] at once

end Sound

end Rendezvous

end ColabPlatform.Foundation
