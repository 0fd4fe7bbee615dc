import Mathlib.Data.List.Basic
import Mathlib.Algebra.GroupWithZero.Nat

/-!
# Interleaved calls

The calls that are under way are a list of phases.  A step appends a call or
sets one phase of the list; the file says what the other calls are afterwards,
and keeps track of phases in which at most one call may be.
-/

namespace ColabPlatform.Foundation

variable {α : Type*}

/-! ## One call goes on -/

theorem getElem?_set_cases {calls : List α} {i j : Nat} {a b : α}
    (h : (calls.set i a)[j]? = some b) : i = j ∧ b = a ∨ i ≠ j ∧ calls[j]? = some b := by
  by_cases same : i = j
  · subst same
    have inside : i < calls.length := by
      simpa using (List.getElem?_eq_some_iff.1 h).1
    rw [List.getElem?_set_self inside] at h
    exact Or.inl ⟨rfl, (Option.some.inj h).symm⟩
  · rw [List.getElem?_set_ne same] at h
    exact Or.inr ⟨same, h⟩

theorem getElem?_concat_cases {calls : List α} {i : Nat} {a b : α}
    (h : (calls ++ [a])[i]? = some b) : calls[i]? = some b ∨ i = calls.length ∧ b = a := by
  rcases Nat.lt_or_ge i calls.length with lt | ge
  · rw [List.getElem?_append_left lt] at h
    exact Or.inl h
  · right
    have inside := (List.getElem?_eq_some_iff.1 h).1
    rw [List.length_append, List.length_singleton] at inside
    obtain rfl : i = calls.length := by omega
    rw [List.getElem?_append_right ge] at h
    exact ⟨rfl, List.mem_singleton.1 (List.mem_of_getElem? h)⟩

theorem getElem?_concat_of_some {calls : List α} {i : Nat} {a : α} (found : calls[i]? = some a)
    (b : α) : (calls ++ [b])[i]? = some a := by
  rw [List.getElem?_append_left (List.getElem?_eq_some_iff.1 found).1]
  exact found

theorem mem_set_cases {calls : List α} {i : Nat} {a b : α} (h : b ∈ calls.set i a) :
    b = a ∨ ∃ j, i ≠ j ∧ calls[j]? = some b := by
  obtain ⟨j, found⟩ := List.mem_iff_getElem?.1 h
  rcases getElem?_set_cases found with ⟨-, same⟩ | other
  · exact Or.inl same
  · exact Or.inr ⟨j, other⟩

theorem set_found {calls : List α} {i : Nat} {a : α} (found : calls[i]? = some a) :
    calls.set i a = calls := by
  obtain ⟨inside, rfl⟩ := List.getElem?_eq_some_iff.1 found
  exact List.set_getElem_self inside

theorem mem_set_of_found {calls : List α} {i : Nat} {a b : α}
    (found : calls[i]? = some a) : b ∈ calls.set i b :=
  List.mem_set (List.getElem?_eq_some_iff.1 found).1 _

/-- A call of another phase stays where it is. -/
theorem mem_set_of_mem {calls : List α} {i : Nat} {a b c : α}
    (found : calls[i]? = some a) (mem : c ∈ calls) (other : a ≠ c) :
    c ∈ calls.set i b := by
  obtain ⟨j, atJ⟩ := List.mem_iff_getElem?.1 mem
  have apart : i ≠ j := by
    rintro rfl
    exact other (Option.some.inj (found.symm.trans atJ))
  exact List.mem_of_getElem? ((List.getElem?_set_ne apart).trans atJ)

/-- What holds of the new phase and of all calls before holds of all calls after. -/
theorem forall_mem_set {calls : List α} {i : Nat} {a : α} {p : α → Prop}
    (new : p a) (before : ∀ c ∈ calls, p c) : ∀ c ∈ calls.set i a, p c := by
  intro c mem
  rcases mem_set_cases mem with rfl | ⟨j, -, atJ⟩
  · exact new
  · exact before c (List.mem_of_getElem? atJ)

theorem forall_mem_concat {calls : List α} {a : α} {p : α → Prop}
    (new : p a) (before : ∀ c ∈ calls, p c) : ∀ c ∈ calls ++ [a], p c := by
  intro c mem
  rcases List.mem_append.1 mem with old | last
  · exact before c old
  · obtain rfl := List.mem_singleton.1 last
    exact new

/-- An entry is the one that is taken out, or stays. -/
theorem mem_eraseIdx_or {calls : List α} {i : Nat} {a : α} (mem : a ∈ calls) :
    calls[i]? = some a ∨ a ∈ calls.eraseIdx i := by
  obtain ⟨j, atJ⟩ := List.mem_iff_getElem?.1 mem
  by_cases same : j = i
  · exact Or.inl (same ▸ atJ)
  · exact Or.inr (List.mem_eraseIdx_iff_getElem?.2 ⟨j, same, atJ⟩)

/-- What one call adds to a total is replaced. -/
theorem sum_map_set {calls : List α} {i : Nat} {old : α} (found : calls[i]? = some old)
    (new : α) (weight : α → Nat) :
    ((calls.set i new).map weight).sum + weight old = (calls.map weight).sum + weight new := by
  induction calls generalizing i with
  | nil => cases found
  | cons first calls ih =>
      cases i with
      | zero =>
          obtain rfl := Option.some.inj found
          simp only [List.set_cons_zero, List.map_cons, List.sum_cons]
          omega
      | succ i =>
          have rest := ih (i := i) found
          simp only [List.set_cons_succ, List.map_cons, List.sum_cons]
          omega

/-! ## Phases of one call at a time -/

/-- At most one call of the list is in a phase that meets `p`. -/
def AtMostOne (p : α → Bool) (calls : List α) : Prop :=
  ∀ (i j : Nat) (a b : α), calls[i]? = some a → calls[j]? = some b →
    p a = true → p b = true → i = j

namespace AtMostOne

variable {p : α → Bool} {calls : List α}

theorem nil : AtMostOne p ([] : List α) := by
  intro i j a b atI
  simp at atI

theorem others (h : AtMostOne p calls) {i j : Nat} {a b : α}
    (found : calls[i]? = some a) (holds : p a = true) (apart : i ≠ j)
    (atJ : calls[j]? = some b) : p b = false := by
  by_contra busy
  exact apart (h i j a b found atJ holds (by simpa using busy))

theorem concat_first {a : α} (idle : ∀ c ∈ calls, p c = false) :
    AtMostOne p (calls ++ [a]) := by
  have last : ∀ {i : Nat} {b : α}, (calls ++ [a])[i]? = some b → p b = true →
      i = calls.length := by
    intro i b found busy
    rcases Nat.lt_or_ge i calls.length with lt | ge
    · rw [List.getElem?_append_left lt] at found
      simp [idle b (List.mem_of_getElem? found)] at busy
    · have inside := (List.getElem?_eq_some_iff.1 found).1
      rw [List.length_append, List.length_singleton] at inside
      omega
  intro i j b c atI atJ busyB busyC
  exact (last atI busyB).trans (last atJ busyC).symm

theorem concat (h : AtMostOne p calls) {a : α} (idle : p a = false) :
    AtMostOne p (calls ++ [a]) := by
  have old : ∀ {i : Nat} {b : α}, (calls ++ [a])[i]? = some b → p b = true →
      calls[i]? = some b := by
    intro i b found busy
    rcases Nat.lt_or_ge i calls.length with lt | ge
    · rwa [List.getElem?_append_left lt] at found
    · rw [List.getElem?_append_right ge] at found
      obtain rfl := List.mem_singleton.1 (List.mem_of_getElem? found)
      simp [idle] at busy
  intro i j b c atI atJ busyB busyC
  exact h i j b c (old atI busyB) (old atJ busyC) busyB busyC

/-- A call that meets `p` is the only one of the list that does. -/
theorem filter_eq (h : AtMostOne p calls) {a : α} (mem : a ∈ calls) (holds : p a = true) :
    calls.filter p = [a] := by
  obtain ⟨before, after, rfl⟩ := List.append_of_mem mem
  have here : (before ++ a :: after)[before.length]? = some a := by simp
  have first : before.filter p = [] := by
    refine List.filter_eq_nil_iff.2 fun b memB => ?_
    obtain ⟨j, atJ⟩ := List.mem_iff_getElem?.1 memB
    have inside := (List.getElem?_eq_some_iff.1 atJ).1
    simp [h.others here holds (Nat.ne_of_gt inside)
      ((List.getElem?_append_left inside).trans atJ)]
  have last : after.filter p = [] := by
    refine List.filter_eq_nil_iff.2 fun b memB => ?_
    obtain ⟨j, atJ⟩ := List.mem_iff_getElem?.1 memB
    have there : (before ++ a :: after)[before.length + (j + 1)]? = some b := by
      rw [List.getElem?_append_right (Nat.le_add_right _ _), Nat.add_sub_cancel_left]
      exact atJ
    simp [h.others here holds (by omega) there]
  rw [List.filter_append, List.filter_cons_of_pos holds, first, last, List.nil_append]

/-- A total to which only calls that meet `p` add is what the one call adds. -/
theorem sum_map_eq (h : AtMostOne p calls) {a : α} (mem : a ∈ calls) (holds : p a = true)
    {weight : α → Nat} (idle : ∀ c, p c = false → weight c = 0) :
    (calls.map weight).sum = weight a := by
  have busy : ∀ calls : List α, (calls.map weight).sum = ((calls.filter p).map weight).sum := by
    intro calls
    induction calls with
    | nil => rfl
    | cons c calls ih =>
        rw [List.map_cons, List.sum_cons, List.filter_cons]
        cases met : p c with
        | false => simp [idle c met, ih]
        | true => simp [ih]
  rw [busy, h.filter_eq mem holds]
  simp

/-- A call that meets `p` met it before, or no call did. -/
theorem set (h : AtMostOne p calls) {index : Nat} {old new : α}
    (found : calls[index]? = some old)
    (turned : p new = true → p old = true ∨ ∀ c ∈ calls, p c = false) :
    AtMostOne p (calls.set index new) := by
  have apart : ∀ {k : Nat} {c : α}, calls[k]? = some c → p c = true →
      p new = true → index = k := by
    intro k c atK busy now
    rcases turned now with before | none
    · exact h index k old c found atK before busy
    · simp [none c (List.mem_of_getElem? atK)] at busy
  intro i j a b atI atJ busyA busyB
  rcases getElem?_set_cases atI with ⟨rfl, rfl⟩ | ⟨-, stillI⟩
  · rcases getElem?_set_cases atJ with ⟨same, -⟩ | ⟨-, stillJ⟩
    · exact same
    · exact apart stillJ busyB busyA
  · rcases getElem?_set_cases atJ with ⟨rfl, rfl⟩ | ⟨-, stillJ⟩
    · exact (apart stillI busyA busyB).symm
    · exact h i j a b stillI stillJ busyA busyB

end AtMostOne

end ColabPlatform.Foundation
