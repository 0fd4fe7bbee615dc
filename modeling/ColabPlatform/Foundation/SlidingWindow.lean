import Mathlib.Data.List.Basic
import Mathlib.Algebra.Order.Ring.Int

/-!
# Sliding windows

A window drops the elements that it need not keep any longer, and admits a new one
unless its limit is reached.  A greater limit admits whatever a smaller one does:
its window holds the elements of the other, and no more of its own than the limits
differ by.
-/

namespace ColabPlatform.Foundation

variable {α : Type*}

/-- One attempt: whether the element is admitted, and the window afterwards. -/
def enter (limit : Int) (window : List α) (keep : α → Bool) (new : α) : Bool × List α :=
  let kept := window.filter keep
  if limit ≤ kept.length then (false, kept) else (true, kept ++ [new])

/-- The answers to a sequence of attempts. -/
def admissions (limit : Int) : List α → List ((α → Bool) × α) → List Bool
  | _, [] => []
  | window, (keep, new) :: rest =>
      let (admitted, window') := enter limit window keep new
      admitted :: admissions limit window' rest

@[simp] theorem admissions_nil (limit : Int) (window : List α) :
    admissions limit window [] = [] := rfl

@[simp] theorem admissions_cons (limit : Int) (window : List α) (keep : α → Bool) (new : α)
    (rest : List ((α → Bool) × α)) :
    admissions limit window ((keep, new) :: rest) =
      (enter limit window keep new).1 ::
        admissions limit (enter limit window keep new).2 rest := rfl

/-- An attempt adds nothing but its own element. -/
theorem mem_of_mem_enter {limit : Int} {window : List α} {keep : α → Bool} {new a : α}
    (mem : a ∈ (enter limit window keep new).2) : a ∈ window ∨ a = new := by
  simp only [enter] at mem
  split at mem
  · exact Or.inl (List.mem_of_mem_filter mem)
  · rcases List.mem_append.1 mem with old | last
    · exact Or.inl (List.mem_of_mem_filter old)
    · exact Or.inr (List.mem_singleton.1 last)

/-- The second window holds the first one, and at most `gap` elements more. -/
structure Within (gap : Int) (few many : List α) : Prop where
  sublist : few.Sublist many
  length : (many.length : Int) ≤ few.length + gap

namespace Within

variable {gap : Int} {few many : List α}

theorem refl (nonneg : 0 ≤ gap) (window : List α) : Within gap window window :=
  ⟨.refl _, by omega⟩

/-- The elements that only the second window holds become no more. -/
theorem length_filter (sublist : few.Sublist many) (keep : α → Bool) :
    (many.filter keep).length + few.length ≤ (few.filter keep).length + many.length := by
  induction sublist with
  | slnil => simp
  | @cons short long a _ ih =>
      by_cases kept : keep a = true
      · rw [List.filter_cons_of_pos kept]
        simp only [List.length_cons]
        omega
      · rw [List.filter_cons_of_neg kept]
        simp only [List.length_cons]
        omega
  | @cons_cons short long a _ ih =>
      by_cases kept : keep a = true
      · rw [List.filter_cons_of_pos kept, List.filter_cons_of_pos kept]
        simp only [List.length_cons]
        omega
      · rw [List.filter_cons_of_neg kept, List.filter_cons_of_neg kept]
        simp only [List.length_cons]
        omega

theorem filter (h : Within gap few many) (keep : α → Bool) :
    Within gap (few.filter keep) (many.filter keep) := by
  refine ⟨h.sublist.filter keep, ?_⟩
  have shrinks := length_filter h.sublist keep
  have length := h.length
  omega

/-- What the smaller limit admits, the greater one admits as well. -/
theorem admits {a b : Int} (h : Within (b - a) few many) (keep : α → Bool) (new : α)
    (admitted : (enter a few keep new).1 = true) : (enter b many keep new).1 = true := by
  have length := (h.filter keep).length
  simp only [enter] at admitted ⊢
  split at admitted
  · cases admitted
  · rw [if_neg (by omega)]

theorem enter {a b : Int} (h : Within (b - a) few many) (keep : α → Bool) (new : α) :
    Within (b - a) (enter a few keep new).2 (enter b many keep new).2 := by
  have kept := h.filter keep
  have length := kept.length
  simp only [Foundation.enter]
  split
  · split
    · exact kept
    · -- only the greater limit admits the element, and so it had room
      refine ⟨kept.sublist.trans (List.sublist_append_left _ _), ?_⟩
      simp only [List.length_append, List.length_singleton]
      omega
  · rw [if_neg (by omega)]
    refine ⟨kept.sublist.append (.refl _), ?_⟩
    simp only [List.length_append, List.length_singleton]
    omega

end Within

/-- A greater limit admits, attempt by attempt, whatever a smaller one admits. -/
theorem admissions_mono {a b : Int} (attempts : List ((α → Bool) × α)) {few many : List α}
    (h : Within (b - a) few many) {i : Nat}
    (admitted : (admissions a few attempts)[i]? = some true) :
    (admissions b many attempts)[i]? = some true := by
  induction attempts generalizing few many i with
  | nil => simp at admitted
  | cons attempt rest ih =>
      obtain ⟨keep, new⟩ := attempt
      rw [admissions_cons] at admitted ⊢
      cases i with
      | zero =>
          simp only [List.getElem?_cons_zero, Option.some.injEq] at admitted ⊢
          exact h.admits keep new admitted
      | succ i =>
          simp only [List.getElem?_cons_succ] at admitted ⊢
          exact ih (h.enter keep new) admitted

/-- A limit that is not positive admits nothing. -/
theorem admissions_of_nonpos {limit : Int} (none : limit ≤ 0)
    (attempts : List ((α → Bool) × α)) {window : List α} :
    ∀ admitted ∈ admissions limit window attempts, admitted = false := by
  induction attempts generalizing window with
  | nil => simp
  | cons attempt rest ih =>
      obtain ⟨keep, new⟩ := attempt
      have first : (enter limit window keep new).1 = false := by
        simp only [enter]
        rw [if_pos (by omega)]
      intro admitted mem
      rw [admissions_cons, first] at mem
      rcases List.mem_cons.1 mem with rfl | later
      · rfl
      · exact ih admitted later

/-! ## Attempts over time -/

/-- An attempt at its time: whether it was admitted, and the number it was told. -/
structure Admission where
  time : Int
  admitted : Bool
  count : Nat
  deriving DecidableEq, Repr

/-- How many attempts were admitted in the half-open window that ends at `now`. -/
def admittedIn (window now : Int) (log : List Admission) : Nat :=
  log.countP fun old => old.admitted && now - window < old.time && old.time ≤ now

/-- No window holds more than `limit` admitted attempts, a refused attempt found exactly
`limit` of them, and an admitted one is told their number with itself. -/
structure Windowed (window limit : Int) (log : List Admission) : Prop where
  bounded : ∀ now, (admittedIn window now log : Int) ≤ limit
  refused : ∀ past last later, log = past ++ last :: later → last.admitted = false →
    (admittedIn window last.time past : Int) = limit
  counted : ∀ past last later, log = past ++ last :: later → last.admitted = true →
    last.count = admittedIn window last.time (past ++ [last])

section Windowed

variable {window limit : Int} {log : List Admission} {new : Admission}

theorem Windowed.nil (nonneg : 0 ≤ limit) : Windowed window limit [] where
  bounded _ := nonneg
  refused past _ _ none := by simp at none
  counted past _ _ none := by simp at none

/-- A window that ends later holds no more of what is past. -/
theorem admittedIn_le (past : ∀ old ∈ log, old.time ≤ new.time) {now : Int}
    (later : new.time ≤ now) : admittedIn window now log ≤ admittedIn window new.time log := by
  refine List.countP_mono_left fun old mem inside => ?_
  simp only [Bool.and_eq_true, decide_eq_true_eq] at inside ⊢
  have before := past old mem
  exact ⟨⟨inside.1.1, by omega⟩, before⟩

theorem admittedIn_snoc (now : Int) : admittedIn window now (log ++ [new]) =
    admittedIn window now log +
      if new.admitted = true ∧ now - window < new.time ∧ new.time ≤ now then 1 else 0 := by
  rw [admittedIn, List.countP_append, List.countP_singleton]
  simp only [Bool.and_eq_true, decide_eq_true_eq, and_assoc]
  rfl

/-- An attempt of a longer log is the new one, or one of the log. -/
theorem split_snoc {past later : List Admission} {last : Admission}
    (split : log ++ [new] = past ++ last :: later) :
    (past = log ∧ last = new) ∨ ∃ later', log = past ++ last :: later' := by
  rcases List.append_eq_append_iff.1 split with ⟨between, rfl, tail⟩ | ⟨between, rfl, tail⟩
  · cases between with
    | nil =>
        obtain ⟨rfl, -⟩ := List.cons.inj tail
        exact .inl ⟨List.append_nil _, rfl⟩
    | cons a between => simp at tail
  · cases between with
    | nil =>
        obtain ⟨rfl, -⟩ := List.cons.inj tail
        exact .inl ⟨(List.append_nil _).symm, rfl⟩
    | cons a between =>
        obtain ⟨rfl, -⟩ := List.cons.inj tail
        exact .inr ⟨between, rfl⟩

/-- One more attempt, which is admitted if its window has room. -/
theorem Windowed.snoc (positive : 0 < window) (windowed : Windowed window limit log)
    (past : ∀ old ∈ log, old.time ≤ new.time)
    (admitted : new.admitted = true ↔ (admittedIn window new.time log : Int) < limit)
    (count : new.admitted = true → new.count = admittedIn window new.time log + 1) :
    Windowed window limit (log ++ [new]) where
  bounded now := by
    rw [admittedIn_snoc]
    split
    · rename_i inside
      have room := admitted.1 inside.1
      have fewer : admittedIn window now log ≤ admittedIn window new.time log :=
        admittedIn_le past inside.2.2
      omega
    · exact windowed.bounded now
  refused before last later split refused := by
    rcases split_snoc split with ⟨rfl, rfl⟩ | ⟨later', split⟩
    · have full : ¬ (admittedIn window last.time before : Int) < limit := fun room => by
        rw [admitted.2 room] at refused
        cases refused
      exact le_antisymm (windowed.bounded last.time) (Int.not_lt.1 full)
    · exact windowed.refused before last later' split refused
  counted before last later split told := by
    rcases split_snoc split with ⟨rfl, rfl⟩ | ⟨later', split⟩
    · rw [admittedIn_snoc, if_pos ⟨told, by omega, le_refl _⟩]
      exact count told
    · exact windowed.counted before last later' split told

end Windowed

end ColabPlatform.Foundation
